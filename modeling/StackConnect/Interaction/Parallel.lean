import StackConnect.Interaction.Precondition
import Mathlib.Logic.Function.Basic

set_option autoImplicit false

namespace Interaction

variable {ι Q : Type} {A : Q → Type} {ε α P S : Type}

-- Programs that run side by side. Each holds a state of its own, all of them
-- share one, and the history says which program met which event.
structure World (ι Q : Type) (A : Q → Type) (ε α P S : Type) where
  programs : ι → Prog Q A ε α
  held : ι → P
  state : S
  history : List (ι × Event A)

def World.begin (programs : ι → Prog Q A ε α) (held : ι → P) (state : S) : World ι Q A ε α P S :=
  ⟨programs, held, state, []⟩

variable [DecidableEq ι]

def metBy {β : Type} (thread : ι) (history : List (ι × β)) : List β :=
  history.filterMap fun (who, event) => if who = thread then some event else none

theorem met_by_append {β : Type} (thread : ι) (first second : List (ι × β)) :
    metBy thread (first ++ second) = metBy thread first ++ metBy thread second := List.filterMap_append

theorem met_by_own {β : Type} (thread : ι) (event : β) (rest : List (ι × β)) :
    metBy thread ((thread, event) :: rest) = event :: metBy thread rest := by
  simp [metBy]

theorem met_by_other {β : Type} (thread who : ι) (event : β) (rest : List (ι × β)) (apart : who ≠ thread) :
    metBy thread ((who, event) :: rest) = metBy thread rest := by
  simp [metBy, apart]

theorem mem_met_by {β : Type} (thread : ι) (history : List (ι × β)) (event : β) :
    event ∈ metBy thread history ↔ (thread, event) ∈ history := by
  constructor
  · intro met
    obtain ⟨⟨who, found⟩, inside, same⟩ := List.mem_filterMap.mp met
    by_cases mine : who = thread
    · subst mine
      simp only [if_true, Option.some.injEq] at same
      rwa [same] at inside
    · simp only [if_neg mine] at same
      cases same
  · intro inside
    exact List.mem_filterMap.mpr ⟨(thread, event), inside, if_pos rfl⟩

theorem met_by_inside {β : Type} (thread : ι) (history : List (ι × β)) (event : β) (met : event ∈ metBy thread history) :
    event ∈ history.map Prod.snd :=
  List.mem_map.mpr ⟨(thread, event), (mem_met_by thread history event).mp met, rfl⟩

namespace World

def seen (world : World ι Q A ε α P S) (thread : ι) : List (Event A) := metBy thread world.history

def answered (world : World ι Q A ε α P S) (thread : ι) (query : Q) (next : A query → Prog Q A ε α)
    (reply : A query × P × S) : World ι Q A ε α P S where
  programs := Function.update world.programs thread (next reply.1)
  held := Function.update world.held thread reply.2.1
  state := reply.2.2
  history := world.history ++ [(thread, ⟨query, reply.1⟩)]

-- What a program has met so far, followed by what it would meet from here on if
-- nobody else took a turn.
def alone (handlers : ι → Handler A (P × S)) (world : World ι Q A ε α P S) (thread : ι) (shared : S) :
    Run A ε α (P × S) :=
  (exec (handlers thread) (world.programs thread) (world.held thread, shared)).prepend (world.seen thread)

end World

def turn (handlers : ι → Handler A (P × S)) (world : World ι Q A ε α P S) (thread : ι) : World ι Q A ε α P S :=
  match world.programs thread with
  | .ask query next => world.answered thread query next ((handlers thread).answer query (world.held thread, world.state))
  | _ => world

def play (handlers : ι → Handler A (P × S)) (schedule : List ι) (world : World ι Q A ε α P S) : World ι Q A ε α P S :=
  schedule.foldl (turn handlers) world

def Prog.stop : Option (Except ε α) → Prog Q A ε α
  | some result => .done result
  | none => .cut

def Prog.Asking (program : Prog Q A ε α) : Prop := ∃ query next, program = .ask query next

section Turns

variable (handlers : ι → Handler A (P × S)) (world : World ι Q A ε α P S)

theorem turn_cases (thread : ι) :
    (¬ (world.programs thread).Asking ∧ turn handlers world thread = world) ∨
      ∃ query next, world.programs thread = .ask query next ∧ turn handlers world thread =
        world.answered thread query next ((handlers thread).answer query (world.held thread, world.state)) := by
  rw [turn]
  cases current : world.programs thread with
  | done result => exact .inl ⟨nofun, rfl⟩
  | cut => exact .inl ⟨nofun, rfl⟩
  | ask query next => exact .inr ⟨query, next, rfl, rfl⟩

theorem play_keeps (kept : World ι Q A ε α P S → Prop) (step : ∀ reached thread, kept reached → kept (turn handlers reached thread))
    (schedule : List ι) (start : kept world) : kept (play handlers schedule world) := by
  induction schedule generalizing world with
  | nil => exact start
  | cons thread rest ih => exact ih (turn handlers world thread) (step world thread start)

variable (thread other : ι) (query : Q) (next : A query → Prog Q A ε α) (reply : A query × P × S)

@[simp] theorem answered_program_same : (world.answered thread query next reply).programs thread = next reply.1 :=
  Function.update_self ..

@[simp] theorem answered_program_other (apart : other ≠ thread) :
    (world.answered thread query next reply).programs other = world.programs other := Function.update_of_ne apart ..

@[simp] theorem answered_held_same : (world.answered thread query next reply).held thread = reply.2.1 :=
  Function.update_self ..

@[simp] theorem answered_held_other (apart : other ≠ thread) :
    (world.answered thread query next reply).held other = world.held other := Function.update_of_ne apart ..

@[simp] theorem answered_state : (world.answered thread query next reply).state = reply.2.2 := rfl

@[simp] theorem answered_seen_same :
    (world.answered thread query next reply).seen thread = world.seen thread ++ [⟨query, reply.1⟩] := by
  simp [World.seen, metBy, World.answered]

@[simp] theorem answered_seen_other (apart : other ≠ thread) :
    (world.answered thread query next reply).seen other = world.seen other := by
  simp [World.seen, metBy, World.answered, apart.symm]

omit [DecidableEq ι] in
theorem asking_met (handler : Handler A S) (program : Prog Q A ε α) (state : S) (asking : program.Asking) :
    (exec handler program state).trace ≠ [] := by
  obtain ⟨query, next, rfl⟩ := asking
  exact List.cons_ne_nil _ _

theorem alone_own_turn : (turn handlers world thread).alone handlers thread (turn handlers world thread).state =
    world.alone handlers thread world.state := by
  rcases turn_cases handlers world thread with ⟨_, same⟩ | ⟨query, next, asks, stepped⟩
  · rw [same]
  · rw [stepped, World.alone, World.alone, asks, exec_ask, Run.prepend_prepend]
    simp only [answered_program_same, answered_held_same, answered_state, answered_seen_same]

theorem alone_other_turn (shared : S) (apart : other ≠ thread) :
    (turn handlers world thread).alone handlers other shared = world.alone handlers other shared := by
  rcases turn_cases handlers world thread with ⟨_, same⟩ | ⟨query, next, asks, stepped⟩
  · rw [same]
  · rw [stepped, World.alone, World.alone, answered_program_other _ _ _ _ _ _ apart, answered_held_other _ _ _ _ _ _ apart,
      answered_seen_other _ _ _ _ _ _ apart]

theorem stopped_turn (stopped : ¬ (world.programs other).Asking) :
    ¬ ((turn handlers world thread).programs other).Asking ∧
      (turn handlers world thread).seen other = world.seen other := by
  rcases turn_cases handlers world thread with ⟨_, same⟩ | ⟨query, next, asks, stepped⟩
  · rw [same]
    exact ⟨stopped, rfl⟩
  · have apart : other ≠ thread := by
      rintro rfl
      exact stopped ⟨query, next, asks⟩
    rw [stepped, answered_program_other _ _ _ _ _ _ apart, answered_seen_other _ _ _ _ _ _ apart]
    exact ⟨stopped, rfl⟩

theorem play_counts (schedule : List ι) :
    ¬ ((play handlers schedule world).programs thread).Asking ∨
      ((play handlers schedule world).seen thread).length = (world.seen thread).length + schedule.count thread := by
  induction schedule generalizing world with
  | nil => exact .inr rfl
  | cons who rest ih =>
      change ¬ ((play handlers rest (turn handlers world who)).programs thread).Asking ∨
        ((play handlers rest (turn handlers world who)).seen thread).length = _
      rcases turn_cases handlers world who with ⟨idle, same⟩ | ⟨query, next, asks, stepped⟩
      · by_cases mine : who = thread
        · subst mine
          exact .inl (play_keeps handlers _ (fun reached => ¬ (reached.programs who).Asking)
            (fun reached someone stopped => (stopped_turn handlers reached someone who stopped).1) rest (by rwa [same]))
        · rw [same, List.count_cons_of_ne mine]
          exact ih world
      · by_cases mine : who = thread
        · subst mine
          have later := ih (turn handlers world who)
          rw [stepped, answered_seen_same, List.length_append, List.length_singleton] at later
          rw [stepped, List.count_cons_self]
          refine later.imp_right fun counted => ?_
          omega
        · have later := ih (turn handlers world who)
          rw [stepped, answered_seen_other _ _ _ _ _ _ (Ne.symm mine)] at later
          rw [stepped, List.count_cons_of_ne mine]
          exact later

theorem play_finishes (schedule : List ι) (shared : S)
    (enough : ((play handlers schedule world).alone handlers thread shared).trace.length ≤
      (world.seen thread).length + schedule.count thread) :
    ¬ ((play handlers schedule world).programs thread).Asking := by
  rcases play_counts handlers world thread schedule with stopped | counted
  · exact stopped
  · intro asking
    have met := asking_met (handlers thread) _ ((play handlers schedule world).held thread, shared) asking
    rw [World.alone, Run.prepend_trace, List.length_append] at enough
    have := List.length_pos_iff.mpr met
    omega

theorem stopped_alone (shared : S) (stopped : ¬ (world.programs thread).Asking) :
    world.programs thread = .stop (world.alone handlers thread shared).outcome ∧
      world.alone handlers thread shared =
        ⟨(world.alone handlers thread shared).outcome, (world.held thread, shared), world.seen thread⟩ := by
  rw [World.alone]
  cases current : world.programs thread with
  | done result => exact ⟨rfl, by simp [Run.prepend]⟩
  | cut => exact ⟨rfl, by simp [Run.prepend]⟩
  | ask query next => exact absurd ⟨query, next, current⟩ stopped

end Turns

theorem begun_runs (handlers : ι → Handler A (P × S)) (programs : ι → Prog Q A ε α) (held : ι → P) (state : S) (schedule : List ι)
    (thread : ι) (rest : List (Event A)) (outcome : Option (Except ε α))
    (ahead : Runs ((play handlers schedule (World.begin programs held state)).programs thread) rest outcome) :
    Runs (programs thread) ((play handlers schedule (World.begin programs held state)).seen thread ++ rest) outcome := by
  refine play_keeps handlers (World.begin programs held state) (fun reached => ∀ rest outcome,
    Runs (reached.programs thread) rest outcome → Runs (programs thread) (reached.seen thread ++ rest) outcome)
    ?_ schedule (fun _ _ run => run) rest outcome ahead
  intro reached who kept rest outcome ahead
  rcases turn_cases handlers reached who with ⟨_, same⟩ | ⟨query, next, asks, stepped⟩
  · rw [same] at ahead ⊢
    exact kept rest outcome ahead
  · rw [stepped] at ahead ⊢
    by_cases mine : thread = who
    · subst mine
      rw [answered_program_same] at ahead
      rw [answered_seen_same, List.append_assoc]
      apply kept
      rw [asks]
      exact .ask query next _ _ _ ahead
    · rw [answered_program_other _ _ _ _ _ _ mine] at ahead
      rw [answered_seen_other _ _ _ _ _ _ mine]
      exact kept rest outcome ahead

def OnlyAsks (may : Q → Prop) (program : Prog Q A ε α) : Prop := Within (fun _ => may) program

theorem within_mono (strong weak : List (Event A) → Q → Prop) (program : Prog Q A ε α) (kept : Within strong program)
    (weaker : ∀ past query, strong past query → weak past query) : Within weak program := by
  intro past
  have met := kept past
  clear kept
  induction program generalizing past with
  | done result => trivial
  | cut => trivial
  | ask query next ih => exact ⟨weaker past query met.1, fun answer => ih answer _ (met.2 answer)⟩

theorem only_asks_next (may : Q → Prop) (query : Q) (next : A query → Prog Q A ε α) (only : OnlyAsks may (.ask query next)) :
    may query ∧ ∀ answer, OnlyAsks may (next answer) := by
  have anywhere : ∀ (program : Prog Q A ε α) (past later : List (Event A)),
      wp (fun _ => may) program (fun _ _ => True) past → wp (fun _ => may) program (fun _ _ => True) later := by
    intro program past later met
    induction program generalizing past later with
    | done result => trivial
    | cut => trivial
    | ask query next ih => exact ⟨met.1, fun answer => ih answer _ _ (met.2 answer)⟩
  exact ⟨(only []).1, fun answer past => anywhere _ _ past ((only []).2 answer)⟩

def Quiet (may : Q → Prop) (handler : Handler A (P × S)) : Prop :=
  ∀ query, may query → ∀ held shared, (handler.answer query (held, shared)).2.2 = shared

section Undisturbed

variable (handlers : ι → Handler A (P × S)) (may : Q → Prop) (writer : ι)

def OthersOnlyAsk (world : World ι Q A ε α P S) : Prop := ∀ thread, thread ≠ writer → OnlyAsks may (world.programs thread)

theorem others_turn (world : World ι Q A ε α P S) (thread : ι) (others : OthersOnlyAsk may writer world) :
    OthersOnlyAsk may writer (turn handlers world thread) := by
  rcases turn_cases handlers world thread with ⟨_, same⟩ | ⟨query, next, asks, stepped⟩
  · rwa [same]
  · intro other apart
    rw [stepped]
    by_cases mine : other = thread
    · subst mine
      rw [answered_program_same]
      have only := others other apart
      rw [asks] at only
      exact (only_asks_next may query next only).2 _
    · rw [answered_program_other _ _ _ _ _ _ mine]
      exact others other apart

-- One program that may do anything, among programs that only ask what is quiet,
-- goes along the run it has alone, and so does the shared state.
theorem undisturbed (quiet : ∀ thread, thread ≠ writer → Quiet may (handlers thread)) (world : World ι Q A ε α P S)
    (others : OthersOnlyAsk may writer world) (schedule : List ι) :
    (play handlers schedule world).alone handlers writer (play handlers schedule world).state =
      world.alone handlers writer world.state := by
  have kept := play_keeps handlers world (fun reached => OthersOnlyAsk may writer reached ∧
    reached.alone handlers writer reached.state = world.alone handlers writer world.state) ?_ schedule ⟨others, rfl⟩
  · exact kept.2
  · rintro reached thread ⟨others, same⟩
    refine ⟨others_turn handlers may writer reached thread others, ?_⟩
    by_cases mine : thread = writer
    · subst mine
      exact (alone_own_turn handlers reached thread).trans same
    · rw [alone_other_turn handlers reached thread writer _ (Ne.symm mine), ← same]
      congr 1
      rcases turn_cases handlers reached thread with ⟨_, idle⟩ | ⟨query, next, asks, stepped⟩
      · rw [idle]
      · have only := others thread mine
        rw [asks] at only
        rw [stepped]
        exact quiet thread mine query (only_asks_next may query next only).1 _ _

end Undisturbed

def Blind (handler : Handler A (P × S)) : Prop :=
  ∀ query held first second, (handler.answer query (held, first)).1 = (handler.answer query (held, second)).1 ∧
    (handler.answer query (held, first)).2.1 = (handler.answer query (held, second)).2.1

structure SameView (first second : Run A ε α (P × S)) : Prop where
  outcome : first.outcome = second.outcome
  held : first.state.1 = second.state.1
  trace : first.trace = second.trace

theorem same_view_prepend (before : List (Event A)) (first second : Run A ε α (P × S)) (same : SameView first second) :
    SameView (first.prepend before) (second.prepend before) :=
  ⟨same.outcome, same.held, congrArg (before ++ ·) same.trace⟩

theorem blind_exec (handler : Handler A (P × S)) (blind : Blind handler) (program : Prog Q A ε α) (held : P) (first second : S) :
    SameView (exec handler program (held, first)) (exec handler program (held, second)) := by
  induction program generalizing held first second with
  | done result => exact ⟨rfl, rfl, rfl⟩
  | cut => exact ⟨rfl, rfl, rfl⟩
  | ask query next ih =>
      rcases told : handler.answer query (held, first) with ⟨answer, kept, shared⟩
      rcases again : handler.answer query (held, second) with ⟨reply, left, reached⟩
      obtain ⟨rfl, rfl⟩ : answer = reply ∧ kept = left := by
        have same := blind query held first second
        rw [told, again] at same
        exact same
      rw [exec_ask, exec_ask, told, again]
      exact same_view_prepend _ _ _ (ih answer kept shared reached)

-- Programs that are blind to the shared state go along the runs they have alone,
-- whatever the others do to it.
theorem blind_play (handlers : ι → Handler A (P × S)) (blind : ∀ thread, Blind (handlers thread)) (world : World ι Q A ε α P S)
    (schedule : List ι) (thread : ι) (shared : S) :
    SameView ((play handlers schedule world).alone handlers thread shared) (world.alone handlers thread shared) := by
  refine play_keeps handlers world (fun reached =>
    SameView (reached.alone handlers thread shared) (world.alone handlers thread shared)) ?_ schedule ⟨rfl, rfl, rfl⟩
  intro reached who same
  have moved : ∀ (here : World ι Q A ε α P S) (first second : S),
      SameView (here.alone handlers thread first) (here.alone handlers thread second) := by
    intro here first second
    exact same_view_prepend _ _ _ (blind_exec (handlers thread) (blind thread) (here.programs thread) (here.held thread) first second)
  by_cases mine : who = thread
  · subst mine
    have before := moved reached reached.state shared
    have after := moved (turn handlers reached who) shared (turn handlers reached who).state
    rw [alone_own_turn] at after
    exact ⟨after.outcome.trans (before.outcome.trans same.outcome), after.held.trans (before.held.trans same.held),
      after.trace.trans (before.trace.trans same.trace)⟩
  · rw [alone_other_turn handlers reached who thread shared (Ne.symm mine)]
    exact same

theorem play_state (handlers : ι → Handler A (P × S)) (effect : S → Event A → S)
    (performs : ∀ thread query held shared, ((handlers thread).answer query (held, shared)).2.2 =
      effect shared ⟨query, ((handlers thread).answer query (held, shared)).1⟩)
    (world : World ι Q A ε α P S) (initial : S)
    (start : world.state = (world.history.map Prod.snd).foldl effect initial) (schedule : List ι) :
    (play handlers schedule world).state = ((play handlers schedule world).history.map Prod.snd).foldl effect initial := by
  refine play_keeps handlers world (fun reached => reached.state = (reached.history.map Prod.snd).foldl effect initial)
    ?_ schedule start
  intro reached thread same
  rcases turn_cases handlers reached thread with ⟨_, idle⟩ | ⟨query, next, _, stepped⟩
  · rwa [idle]
  · rw [stepped, answered_state, performs, same]
    simp [World.answered]

end Interaction
