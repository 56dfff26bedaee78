import Mathlib.Logic.Function.Basic
import StackConnect.Interaction.Execution

set_option autoImplicit false

namespace Interaction

variable {Q : Type} {A : Q → Type} {ε α β T ι : Type} {S F G : ι → Type}

def runAll (handler : Handler A T) : List (Prog Q A ε α) → T → List (Option (Except ε α)) × T
  | [], state => ([], state)
  | program :: rest, state =>
      let ran := exec handler program state
      let later := runAll handler rest ran.state
      (ran.outcome :: later.1, later.2)

def runEach (handler : Handler A T) : List (Σ i, Prog Q A ε (F i)) → T → List (Σ i, Option (Except ε (F i))) × T
  | [], state => ([], state)
  | ⟨i, program⟩ :: rest, state =>
      let ran := exec handler program state
      let later := runEach handler rest ran.state
      (⟨i, ran.outcome⟩ :: later.1, later.2)

theorem exec_map_trace (handler : Handler A T) (program : Prog Q A ε α) (view : α → β) (state : T) :
    (exec handler (program >>= fun value => pure (view value)) state).trace = (exec handler program state).trace := by
  rw [exec_bind]
  rcases exec handler program state with ⟨_ | (failure | value), left, trace⟩
  · rfl
  · rfl
  · exact List.append_nil trace

-- Several servers behind one front. Each keeps a state of its own; a query goes to
-- the one it is routed to, and what is routed nowhere is answered by the front.
structure Front (A : Q → Type) (S : ι → Type) where
  member : (i : ι) → Handler A (S i)
  route : Q → Option ι
  common : (query : Q) → A query

variable [DecidableEq ι]

def part (i : ι) : List (Σ j, F j) → List (F i)
  | [] => []
  | ⟨j, entry⟩ :: rest => if same : j = i then (same ▸ entry) :: part i rest else part i rest

theorem part_own (i : ι) (entry : F i) (rest : List (Σ j, F j)) : part i (⟨i, entry⟩ :: rest) = entry :: part i rest := dif_pos rfl

theorem part_other (i j : ι) (apart : j ≠ i) (entry : F j) (rest : List (Σ j, F j)) : part i (⟨j, entry⟩ :: rest) = part i rest :=
  dif_neg apart

def onEach (change : (i : ι) → F i → G i) (entries : List (Σ i, F i)) : List (Σ i, G i) :=
  entries.map fun entry => ⟨entry.1, change entry.1 entry.2⟩

theorem part_on_each (change : (i : ι) → F i → G i) (i : ι) (entries : List (Σ i, F i)) :
    part i (onEach change entries) = (part i entries).map (change i) := by
  induction entries with
  | nil => rfl
  | cons first rest ih =>
      obtain ⟨j, entry⟩ := first
      change part i (⟨j, change j entry⟩ :: onEach change rest) = _
      by_cases same : j = i
      · subst same
        rw [part_own, part_own, ih, List.map_cons]
      · rw [part_other i j same, part_other i j same, ih]

theorem part_length (i : ι) (entries : List (Σ j, F j)) : (part i entries).length ≤ entries.length := by
  induction entries with
  | nil => exact Nat.le_refl _
  | cons first rest ih =>
      obtain ⟨j, entry⟩ := first
      by_cases same : j = i
      · subst same
        rw [part_own]
        exact Nat.succ_le_succ ih
      · rw [part_other i j same]
        exact Nat.le_succ_of_le ih

namespace Front

variable (front : Front A S)

def handler : Handler A ((i : ι) → S i) where
  answer query held :=
    match front.route query with
    | some i => (((front.member i).answer query (held i)).1, Function.update held i ((front.member i).answer query (held i)).2)
    | none => (front.common query, held)

def Owns (i : ι) (query : Q) : Prop :=
  front.route query = some i ∨
    front.route query = none ∧ ∀ state, (front.member i).answer query state = (front.common query, state)

def Keeps (i : ι) (run : Run A ε α (S i)) : Prop := ∀ event ∈ run.trace, front.Owns i event.1

variable {front}

theorem answer_own (i : ι) (query : Q) (owns : front.Owns i query) (held : (i : ι) → S i) :
    front.handler.answer query held =
      (((front.member i).answer query (held i)).1, Function.update held i ((front.member i).answer query (held i)).2) := by
  rcases owns with routed | ⟨unrouted, alike⟩
  · simp only [handler, routed]
  · simp only [handler, unrouted, alike, Function.update_eq_self]

-- Behind the front a program that keeps to one server runs as on that server
-- alone, and nothing happens to the others.
theorem exec_own (i : ι) (program : Prog Q A ε α) (held : (i : ι) → S i)
    (keeps : front.Keeps i (exec (front.member i) program (held i))) :
    exec front.handler program held = ⟨(exec (front.member i) program (held i)).outcome,
      Function.update held i (exec (front.member i) program (held i)).state, (exec (front.member i) program (held i)).trace⟩ := by
  induction program generalizing held with
  | done result =>
      rw [exec_done, exec_done, Function.update_eq_self]
  | cut =>
      rw [exec_cut, exec_cut, Function.update_eq_self]
  | ask query next ih =>
      rw [exec_ask] at keeps
      have owns := keeps _ List.mem_cons_self
      have later := ih ((front.member i).answer query (held i)).1 (Function.update held i ((front.member i).answer query (held i)).2)
        (by
          rw [Function.update_self]
          exact fun event inside => keeps event (List.mem_cons_of_mem _ inside))
      rw [Function.update_self, Function.update_idem] at later
      rw [exec_ask, exec_ask, answer_own i query owns, later]
      rfl

variable (front)

def Apart : List (Σ i, Prog Q A ε (F i)) → ((i : ι) → S i) → Prop
  | [], _ => True
  | ⟨i, program⟩ :: rest, held =>
      front.Keeps i (exec (front.member i) program (held i)) ∧
        Apart rest (Function.update held i (exec (front.member i) program (held i)).state)

variable {front}

theorem session_apart (session : List (Σ i, Prog Q A ε (F i))) (held : (i : ι) → S i) (apart : front.Apart session held) (i : ι) :
    part i (runEach front.handler session held).1 = (runAll (front.member i) (part i session) (held i)).1 ∧
      (runEach front.handler session held).2 i = (runAll (front.member i) (part i session) (held i)).2 := by
  induction session generalizing held with
  | nil => exact ⟨rfl, rfl⟩
  | cons first rest ih =>
      obtain ⟨j, program⟩ := first
      have ran := exec_own j program held apart.1
      obtain ⟨results, left⟩ := ih _ apart.2
      rw [runEach, ran]
      dsimp only
      by_cases same : j = i
      · subst same
        rw [part_own, part_own, runAll, results, left, Function.update_self]
        exact ⟨rfl, rfl⟩
      · rw [part_other i j same, part_other i j same, results, left, Function.update_of_ne (Ne.symm same)]
        exact ⟨rfl, rfl⟩

end Front

end Interaction
