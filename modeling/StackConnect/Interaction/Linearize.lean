import Mathlib.Data.List.Nodup
import StackConnect.Interaction.Parallel

set_option autoImplicit false

namespace Interaction

variable {ι Q : Type} {A : Q → Type} {ε α P S : Type}

-- Queries of two sorts. The private ones concern the asking program only: what is
-- shared neither shows in the answer nor changes.
def Private (shared : Q → Bool) (handler : Handler A (P × S)) : Prop :=
  ∀ query, shared query = false → ∀ held first second,
    (handler.answer query (held, first)).1 = (handler.answer query (held, second)).1 ∧
      (handler.answer query (held, first)).2.1 = (handler.answer query (held, second)).2.1 ∧
      (handler.answer query (held, first)).2.2 = first

def sharedEvents (shared : Q → Bool) (trace : List (Event A)) : Nat := trace.countP fun event => shared event.1

theorem shared_events_prepend (shared : Q → Bool) (before : List (Event A)) (run : Run A ε α S) :
    sharedEvents shared (run.prepend before).trace = sharedEvents shared before + sharedEvents shared run.trace :=
  List.countP_append

theorem shared_event (shared : Q → Bool) (event : Event A) (seen : shared event.1 = true) : sharedEvents shared [event] = 1 := by
  simp [sharedEvents, seen]

theorem private_exec (shared : Q → Bool) (handler : Handler A (P × S)) (hidden : Private shared handler)
    (program : Prog Q A ε α) (held : P) (first second : S)
    (none : sharedEvents shared (exec handler program (held, first)).trace = 0) :
    exec handler program (held, second) = ⟨(exec handler program (held, first)).outcome,
      ((exec handler program (held, first)).state.1, second), (exec handler program (held, first)).trace⟩ := by
  induction program generalizing held first with
  | done result => rfl
  | cut => rfl
  | ask query next ih =>
      rw [exec_ask, shared_events_prepend, Nat.add_eq_zero_iff] at none
      have concealed : shared query = false := by
        by_contra seen
        rw [shared_event shared _ (eq_true_of_ne_false seen)] at none
        omega
      obtain ⟨told, kept, left⟩ := hidden query concealed held second first
      have passed := (hidden query concealed held first second).2.2
      rcases here : handler.answer query (held, second) with ⟨answer, keeps, reached⟩
      rcases there : handler.answer query (held, first) with ⟨reply, has, passes⟩
      rw [here, there] at told kept
      rw [here] at left
      rw [there] at passed none
      dsimp only at told kept left passed
      subst told kept left passed
      rw [exec_ask, exec_ask, here, there, ih answer keeps _ none.2]
      rfl

section Order

variable (handlers : ι → Handler A (P × S)) (programs : ι → Prog Q A ε α) (held : ι → P)

-- What a program does when it runs from its beginning and nobody interferes.
def solo (thread : ι) (shared : S) : Run A ε α (P × S) := exec (handlers thread) (programs thread) (held thread, shared)

def reach (state : S) (order : List ι) : S :=
  order.foldl (fun shared thread => (solo handlers programs held thread shared).state.2) state

def inTurn : S → List ι → List (ι × Run A ε α (P × S))
  | _, [] => []
  | shared, thread :: rest =>
      (thread, solo handlers programs held thread shared) :: inTurn (solo handlers programs held thread shared).state.2 rest

theorem reach_snoc (state : S) (order : List ι) (thread : ι) : reach handlers programs held state (order ++ [thread]) =
    (solo handlers programs held thread (reach handlers programs held state order)).state.2 := by
  rw [reach, List.foldl_append]
  rfl

theorem in_turn_snoc (state : S) (order : List ι) (thread : ι) : inTurn handlers programs held state (order ++ [thread]) =
    inTurn handlers programs held state order ++
      [(thread, solo handlers programs held thread (reach handlers programs held state order))] := by
  induction order generalizing state with
  | nil => rfl
  | cons first rest ih => exact congrArg (List.cons _) (ih _)

theorem in_turn_threads (state : S) (order : List ι) : (inTurn handlers programs held state order).map Prod.fst = order := by
  induction order generalizing state with
  | nil => rfl
  | cons first rest ih => exact congrArg (List.cons first) (ih _)

theorem mem_in_turn (state : S) (order : List ι) (thread : ι) (inside : thread ∈ order) :
    ∃ entry ∈ inTurn handlers programs held state order, entry.1 = thread := by
  rw [← in_turn_threads handlers programs held state order] at inside
  exact List.mem_map.mp inside

theorem in_turn_solo (state : S) (order : List ι) (entry : ι × Run A ε α (P × S))
    (inside : entry ∈ inTurn handlers programs held state order) :
    ∃ before later, order = before ++ entry.1 :: later ∧
      entry.2 = solo handlers programs held entry.1 (reach handlers programs held state before) := by
  induction order generalizing state with
  | nil => cases inside
  | cons first rest ih =>
      rcases List.mem_cons.mp inside with rfl | inside
      · exact ⟨[], rest, rfl, rfl⟩
      · obtain ⟨before, later, rfl, same⟩ := ih _ inside
        exact ⟨first :: before, later, rfl, same⟩

theorem in_turn_distinct (state : S) (order : List ι) (distinct : order.Nodup) (entry : ι × Run A ε α (P × S))
    (inside : entry ∈ inTurn handlers programs held state order) :
    ∃ before, (entry.1 :: before).Nodup ∧
      entry.2 = solo handlers programs held entry.1 (reach handlers programs held state before) := by
  obtain ⟨before, later, rfl, same⟩ := in_turn_solo handlers programs held state order entry inside
  exact ⟨before, (List.nodup_middle.mp distinct).sublist ((List.sublist_append_left before later).cons_cons entry.1), same⟩

end Order

def arrivals (shared : Q → Bool) (history : List (ι × Event A)) : List ι :=
  (history.filter fun entry => shared entry.2.1).map Prod.fst

theorem mem_arrivals [DecidableEq ι] (shared : Q → Bool) (world : World ι Q A ε α P S) (thread : ι) :
    thread ∈ arrivals shared world.history ↔ 0 < sharedEvents shared (world.seen thread) := by
  rw [sharedEvents, List.countP_pos_iff]
  constructor
  · intro arrived
    obtain ⟨⟨who, event⟩, kept, rfl⟩ := List.mem_map.mp arrived
    obtain ⟨inside, seen⟩ := List.mem_filter.mp kept
    exact ⟨event, (mem_met_by who world.history event).mpr inside, seen⟩
  · rintro ⟨event, met, seen⟩
    exact List.mem_map.mpr ⟨(thread, event), List.mem_filter.mpr ⟨(mem_met_by thread world.history event).mp met, seen⟩, rfl⟩

theorem arrivals_snoc (shared : Q → Bool) (history : List (ι × Event A)) (thread : ι) (event : Event A) :
    arrivals shared (history ++ [(thread, event)]) =
      arrivals shared history ++ if shared event.1 then [thread] else [] := by
  rw [arrivals, List.filter_append, List.map_append]
  cases seen : shared event.1 <;> simp [arrivals, seen]

variable [DecidableEq ι]

section Linear

variable (shared : Q → Bool) (handlers : ι → Handler A (P × S)) (programs : ι → Prog Q A ε α) (held : ι → P) (state : S)

-- No program asks for what is shared more than once, in any of the states that
-- others, each run once at most, may have left.
def AtOnce : Prop := ∀ thread order, (thread :: order).Nodup →
  sharedEvents shared (solo handlers programs held thread (reach handlers programs held state order)).trace ≤ 1

-- The programs that have reached what is shared did so one after the other, as if
-- each had run to its end at that moment. The others have not begun for anyone.
structure Linear (world : World ι Q A ε α P S) : Prop where
  once : (arrivals shared world.history).Nodup
  reached : world.state = reach handlers programs held state (arrivals shared world.history)
  waiting : ∀ thread, thread ∉ arrivals shared world.history → ∀ later,
    world.alone handlers thread later = solo handlers programs held thread later
  settled : ∀ entry ∈ inTurn handlers programs held state (arrivals shared world.history), ∀ later,
    SameView (world.alone handlers entry.1 later) entry.2 ∧
      sharedEvents shared (exec (handlers entry.1) (world.programs entry.1) (world.held entry.1, later)).trace = 0

theorem begin_linear : Linear shared handlers programs held state (World.begin programs held state) where
  once := List.nodup_nil
  reached := rfl
  waiting _ _ _ := rfl
  settled := nofun

variable {shared handlers programs held state}

section Step

variable (world : World ι Q A ε α P S) (thread other : ι) (query : Q) (next : A query → Prog Q A ε α) (later : S)

theorem ahead_other_turn (apart : other ≠ thread) :
    exec (handlers other) ((turn handlers world thread).programs other) ((turn handlers world thread).held other, later) =
      exec (handlers other) (world.programs other) (world.held other, later) := by
  rcases turn_cases handlers world thread with ⟨_, same⟩ | ⟨query, next, _, stepped⟩
  · rw [same]
  · rw [stepped, answered_program_other _ _ _ _ _ _ apart, answered_held_other _ _ _ _ _ _ apart]

theorem ahead_own_turn (asks : world.programs thread = .ask query next) :
    exec (handlers thread) (world.programs thread) (world.held thread, world.state) =
      (exec (handlers thread) ((turn handlers world thread).programs thread)
        ((turn handlers world thread).held thread, (turn handlers world thread).state)).prepend
          [⟨query, ((handlers thread).answer query (world.held thread, world.state)).1⟩] := by
  simp only [turn, asks, answered_program_same, answered_held_same, answered_state]
  rw [exec_ask]

theorem history_own_turn (asks : world.programs thread = .ask query next) :
    arrivals shared (turn handlers world thread).history =
      arrivals shared world.history ++ if shared query then [thread] else [] := by
  simp only [turn, asks, World.answered, arrivals_snoc]

theorem private_turn (hidden : Private shared (handlers thread)) (asks : world.programs thread = .ask query next)
    (concealed : shared query = false) :
    (turn handlers world thread).state = world.state ∧
      exec (handlers thread) (world.programs thread) (world.held thread, later) =
        (exec (handlers thread) ((turn handlers world thread).programs thread)
          ((turn handlers world thread).held thread, later)).prepend
            [⟨query, ((handlers thread).answer query (world.held thread, world.state)).1⟩] ∧
      (turn handlers world thread).alone handlers thread later = world.alone handlers thread later := by
  obtain ⟨told, kept, left⟩ := hidden query concealed (world.held thread) later world.state
  have passed := (hidden query concealed (world.held thread) world.state later).2.2
  have ahead : exec (handlers thread) (world.programs thread) (world.held thread, later) =
      (exec (handlers thread) ((turn handlers world thread).programs thread)
        ((turn handlers world thread).held thread, later)).prepend
          [⟨query, ((handlers thread).answer query (world.held thread, world.state)).1⟩] := by
    simp only [turn, asks, answered_program_same, answered_held_same]
    rw [exec_ask]
    rcases there : (handlers thread).answer query (world.held thread, later) with ⟨answer, keeps, reached⟩
    rw [there] at told kept left
    dsimp only at told kept left
    rw [told, kept, left]
  refine ⟨?_, ahead, ?_⟩
  · simp only [turn, asks, answered_state]
    exact passed
  · rw [World.alone, World.alone, ahead, Run.prepend_prepend]
    simp only [turn, asks, answered_seen_same, answered_program_same, answered_held_same]

end Step

theorem arrivals_kept (shared : Q → Bool) (handlers : ι → Handler A (P × S)) (schedule : List ι) (world : World ι Q A ε α P S) :
    arrivals shared world.history <+: arrivals shared (play handlers schedule world).history := by
  apply play_keeps handlers world (fun reached => arrivals shared world.history <+: arrivals shared reached.history) _ schedule
    (List.prefix_refl _)
  intro reached thread before
  rcases turn_cases handlers reached thread with ⟨_, same⟩ | ⟨query, next, asks, _⟩
  · rwa [same]
  · rw [history_own_turn reached thread query next asks]
    exact before.trans (List.prefix_append _ _)

theorem settled_other_turn (world : World ι Q A ε α P S) (linear : Linear shared handlers programs held state world)
    (thread : ι) (entry : ι × Run A ε α (P × S))
    (inside : entry ∈ inTurn handlers programs held state (arrivals shared world.history)) (apart : entry.1 ≠ thread) (later : S) :
    SameView ((turn handlers world thread).alone handlers entry.1 later) entry.2 ∧
      sharedEvents shared (exec (handlers entry.1) ((turn handlers world thread).programs entry.1)
        ((turn handlers world thread).held entry.1, later)).trace = 0 := by
  rw [alone_other_turn handlers world thread entry.1 later apart, ahead_other_turn world thread entry.1 later apart]
  exact linear.settled entry inside later

theorem private_turn_linear (hidden : ∀ thread, Private shared (handlers thread)) (world : World ι Q A ε α P S)
    (linear : Linear shared handlers programs held state world) (thread : ι) (query : Q) (next : A query → Prog Q A ε α)
    (asks : world.programs thread = .ask query next) (concealed : shared query = false) :
    Linear shared handlers programs held state (turn handlers world thread) := by
  have arrived : arrivals shared (turn handlers world thread).history = arrivals shared world.history := by
    rw [history_own_turn world thread query next asks, concealed]
    exact List.append_nil _
  have moved := fun later => private_turn world thread query next later (hidden thread) asks concealed
  refine ⟨?_, ?_, ?_, ?_⟩
  · rw [arrived]
    exact linear.once
  · rw [arrived, (moved state).1]
    exact linear.reached
  · intro other absent later
    rw [arrived] at absent
    by_cases mine : other = thread
    · subst mine
      rw [(moved later).2.2]
      exact linear.waiting other absent later
    · rw [alone_other_turn handlers world thread other later mine]
      exact linear.waiting other absent later
  · intro entry inside later
    rw [arrived] at inside
    by_cases mine : entry.1 = thread
    · obtain ⟨ended, none⟩ := linear.settled entry inside later
      rw [mine] at ended none ⊢
      rw [(moved later).2.1, shared_events_prepend, Nat.add_eq_zero_iff] at none
      rw [(moved later).2.2]
      exact ⟨ended, none.2⟩
    · exact settled_other_turn world linear thread entry inside mine later

theorem shared_turn_linear (hidden : ∀ thread, Private shared (handlers thread)) (atOnce : AtOnce shared handlers programs held state)
    (world : World ι Q A ε α P S) (linear : Linear shared handlers programs held state world) (thread : ι) (query : Q)
    (next : A query → Prog Q A ε α) (asks : world.programs thread = .ask query next) (seen : shared query = true) :
    Linear shared handlers programs held state (turn handlers world thread) := by
  have arrived : arrivals shared (turn handlers world thread).history = arrivals shared world.history ++ [thread] := by
    rw [history_own_turn world thread query next asks, seen]
    rfl
  have ahead := @ahead_own_turn _ _ _ _ _ _ _ _ handlers world thread query next asks
  have event := shared_event shared (⟨query, ((handlers thread).answer query (world.held thread, world.state)).1⟩ : Event A) seen
  -- A program that was served already would have nothing shared ahead.
  have absent : thread ∉ arrivals shared world.history := by
    intro before
    obtain ⟨entry, inside, rfl⟩ := mem_in_turn handlers programs held state _ thread before
    have none := (linear.settled entry inside world.state).2
    rw [ahead, shared_events_prepend, event] at none
    omega
  have whole : (turn handlers world thread).alone handlers thread (turn handlers world thread).state =
      solo handlers programs held thread (reach handlers programs held state (arrivals shared world.history)) := by
    rw [alone_own_turn, linear.waiting thread absent, linear.reached]
  have none : sharedEvents shared (exec (handlers thread) ((turn handlers world thread).programs thread)
      ((turn handlers world thread).held thread, (turn handlers world thread).state)).trace = 0 := by
    have most := atOnce thread (arrivals shared world.history) (List.nodup_cons.mpr ⟨absent, linear.once⟩)
    rw [← linear.reached, ← linear.waiting thread absent, World.alone, shared_events_prepend, ahead, shared_events_prepend,
      event] at most
    omega
  have rest := fun later => private_exec shared (handlers thread) (hidden thread) _ _ _ later none
  refine ⟨?_, ?_, ?_, ?_⟩
  · rw [arrived, ← List.concat_eq_append]
    exact linear.once.concat absent
  · rw [arrived, reach_snoc, ← whole, World.alone, Run.prepend_state, rest (turn handlers world thread).state]
  · intro other away later
    rw [arrived] at away
    have apart : other ≠ thread := by
      rintro rfl
      exact away (List.mem_append_right _ (List.mem_singleton_self other))
    rw [alone_other_turn handlers world thread other later apart]
    exact linear.waiting other (fun before => away (List.mem_append_left _ before)) later
  · intro entry inside later
    rw [arrived, in_turn_snoc, List.mem_append, List.mem_singleton] at inside
    rcases inside with before | rfl
    · have apart : entry.1 ≠ thread := by
        rintro rfl
        apply absent
        rw [← in_turn_threads handlers programs held state (arrivals shared world.history)]
        exact List.mem_map_of_mem before
      exact settled_other_turn world linear thread entry before apart later
    · dsimp only
      rw [← whole, World.alone, World.alone, rest later]
      exact ⟨⟨rfl, rfl, rfl⟩, none⟩

variable (shared handlers programs held state)

-- Programs that reach what is shared at one moment are performed one after the
-- other, in the order of those moments.
theorem play_linear (hidden : ∀ thread, Private shared (handlers thread)) (atOnce : AtOnce shared handlers programs held state)
    (schedule : List ι) :
    Linear shared handlers programs held state (play handlers schedule (World.begin programs held state)) := by
  apply play_keeps handlers _ (Linear shared handlers programs held state) _ schedule (begin_linear shared handlers programs held state)
  intro reached thread linear
  rcases turn_cases handlers reached thread with ⟨_, same⟩ | ⟨query, next, asks, _⟩
  · rwa [same]
  · cases seen : shared query with
    | false => exact private_turn_linear hidden reached linear thread query next asks seen
    | true => exact shared_turn_linear hidden atOnce reached linear thread query next asks seen

variable {shared handlers programs held state}

theorem served_stopped (world : World ι Q A ε α P S) (linear : Linear shared handlers programs held state world)
    (entry : ι × Run A ε α (P × S)) (inside : entry ∈ inTurn handlers programs held state (arrivals shared world.history))
    (stopped : ¬ (world.programs entry.1).Asking) : world.programs entry.1 = .stop entry.2.outcome := by
  rw [← (linear.settled entry inside world.state).1.outcome]
  exact (stopped_alone handlers world entry.1 world.state stopped).1

theorem waiting_stopped (world : World ι Q A ε α P S) (linear : Linear shared handlers programs held state world) (thread : ι)
    (absent : thread ∉ arrivals shared world.history) (stopped : ¬ (world.programs thread).Asking) :
    world.programs thread = .stop (solo handlers programs held thread world.state).outcome ∧
      world.seen thread = (solo handlers programs held thread world.state).trace := by
  obtain ⟨ended, alone⟩ := stopped_alone handlers world thread world.state stopped
  rw [← linear.waiting thread absent]
  exact ⟨ended, (congrArg Run.trace alone).symm⟩

end Linear

end Interaction
