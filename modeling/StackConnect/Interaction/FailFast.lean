import StackConnect.Interaction.Loop

set_option autoImplicit false

namespace Interaction

variable {Q : Type} {A : Q → Type} {ε α β σ ι : Type}

-- How events are judged. A `complaint` is the error that an event must end a run
-- with, an `objection` one that it may end it with, and `own` are the errors that
-- a program raises without any event to blame.
structure Verdicts (A : Q → Type) (ε : Type) where
  complaint : Event A → Option ε
  objection : Event A → ε → Prop
  own : ε → Prop

def Verdicts.Stops (verdicts : Verdicts A ε) (event : Event A) (failure : ε) : Prop :=
  verdicts.complaint event = some failure ∨ verdicts.objection event failure

-- How a run may end. Nothing follows the event that it fails for.
inductive Settled (verdicts : Verdicts A ε) : List (Event A) → Option (Except ε α) → Prop
  | calm (trace : List (Event A)) (outcome : Option (Except ε α)) (quiet : ∀ event ∈ trace, verdicts.complaint event = none)
      (mine : ∀ failure, outcome = some (.error failure) → verdicts.own failure) : Settled verdicts trace outcome
  | stopped (before : List (Event A)) (event : Event A) (failure : ε)
      (quiet : ∀ earlier ∈ before, verdicts.complaint earlier = none) (stops : verdicts.Stops event failure) :
      Settled verdicts (before ++ [event]) (some (.error failure))

def FailsFast (verdicts : Verdicts A ε) (program : Prog Q A ε α) : Prop :=
  ∀ trace outcome, Runs program trace outcome → Settled verdicts trace outcome

section Rules

variable {verdicts : Verdicts A ε} {program : Prog Q A ε α} {next : α → Prog Q A ε β}

theorem settled_after (first later : List (Event A)) (outcome : Option (Except ε α))
    (quiet : ∀ event ∈ first, verdicts.complaint event = none) (settled : Settled verdicts later outcome) :
    Settled verdicts (first ++ later) outcome := by
  cases settled with
  | calm _ _ calmly mine =>
      apply Settled.calm _ _ _ mine
      intro event inside
      rcases List.mem_append.mp inside with early | late
      · exact quiet event early
      · exact calmly event late
  | stopped before event failure calmly complains =>
      rw [← List.append_assoc]
      apply Settled.stopped _ event failure _ complains
      intro earlier inside
      rcases List.mem_append.mp inside with early | late
      · exact quiet earlier early
      · exact calmly earlier late

theorem settled_quiet (trace : List (Event A)) (outcome : Option (Except ε α)) (settled : Settled verdicts trace outcome)
    (succeeded : ∀ failure, outcome ≠ some (.error failure)) : ∀ event ∈ trace, verdicts.complaint event = none := by
  cases settled with
  | calm _ _ quiet _ => exact quiet
  | stopped before event failure _ _ => exact absurd rfl (succeeded failure)

theorem settled_passed (trace : List (Event A)) (failure : ε)
    (settled : Settled verdicts trace (some (.error failure) : Option (Except ε α))) :
    Settled verdicts trace (some (.error failure) : Option (Except ε β)) := by
  rcases settled with ⟨_, _, quiet, mine⟩ | ⟨before, event, _, quiet, complains⟩
  · apply Settled.calm _ _ quiet
    intro found same
    cases same
    exact mine failure rfl
  · exact .stopped before event failure quiet complains

theorem fails_fast_done (result : Except ε α) (mine : ∀ failure, result = .error failure → verdicts.own failure) :
    FailsFast verdicts (.done result : Prog Q A ε α) := by
  intro trace outcome run
  obtain ⟨rfl, rfl⟩ := (runs_done _ _ _).mp run
  apply Settled.calm _ _ (fun _ inside => absurd inside List.not_mem_nil)
  intro failure same
  exact mine failure (Option.some.inj same)

theorem fails_fast_cut : FailsFast verdicts (.cut : Prog Q A ε α) := by
  intro trace outcome run
  obtain ⟨rfl, rfl⟩ := (runs_cut _ _).mp run
  exact .calm _ _ (fun _ inside => absurd inside List.not_mem_nil) nofun

theorem fails_fast_ask (query : Q) (answered : A query → Prog Q A ε α)
    (stops : ∀ answer failure, verdicts.complaint ⟨query, answer⟩ = some failure → answered answer = .done (.error failure))
    (rest : ∀ answer, verdicts.complaint ⟨query, answer⟩ = none → FailsFast verdicts (answered answer) ∨
      ∃ failure, verdicts.objection ⟨query, answer⟩ failure ∧ answered answer = .done (.error failure)) :
    FailsFast verdicts (.ask query answered) := by
  intro trace outcome run
  obtain ⟨answer, later, rfl, ran⟩ := (runs_ask _ _ _ _).mp run
  have halted : ∀ failure, verdicts.Stops ⟨query, answer⟩ failure → answered answer = .done (.error failure) →
      Settled verdicts (⟨query, answer⟩ :: later) outcome := by
    intro failure stopping ended
    rw [ended] at ran
    obtain ⟨rfl, rfl⟩ := (runs_done _ _ _).mp ran
    exact .stopped [] _ failure (fun _ inside => absurd inside List.not_mem_nil) stopping
  cases complains : verdicts.complaint ⟨query, answer⟩ with
  | some failure => exact halted failure (.inl complains) (stops answer failure complains)
  | none =>
      rcases rest answer complains with onward | ⟨failure, objects, ended⟩
      · apply settled_after [⟨query, answer⟩] later outcome _ (onward later outcome ran)
        intro event inside
        rw [List.mem_singleton.mp inside]
        exact complains
      · exact halted failure (.inr objects) ended

theorem fails_fast_bind_given (good : α → Prop) (first : FailsFast verdicts program)
    (gives : ∀ trace value, Runs program trace (some (.ok value)) → good value)
    (rest : ∀ value, good value → FailsFast verdicts (next value)) :
    FailsFast verdicts (program >>= next) := by
  intro trace outcome run
  rcases runs_bind _ _ _ _ run with ⟨value, before, later, rfl, ran, after⟩ | ⟨failure, ran, rfl⟩ | ⟨ran, rfl⟩
  · have quiet := settled_quiet before _ (first before _ ran) (by simp)
    exact settled_after before later outcome quiet (rest value (gives before value ran) later outcome after)
  · exact settled_passed trace failure (first trace _ ran)
  · exact .calm _ _ (settled_quiet trace _ (first trace _ ran) (by simp)) nofun

theorem fails_fast_bind (first : FailsFast verdicts program) (rest : ∀ value, FailsFast verdicts (next value)) :
    FailsFast verdicts (program >>= next) :=
  fails_fast_bind_given (fun _ => True) first (fun _ _ _ => trivial) fun value _ => rest value

theorem fails_fast_rescue (recover : Except ε α → Prog Q A ε β) (first : FailsFast verdicts program)
    (passes : ∀ event failure, verdicts.Stops event failure → recover (.error failure) = .done (.error failure))
    (rest : ∀ result, (∀ failure, result = .error failure → verdicts.own failure) → FailsFast verdicts (recover result)) :
    FailsFast verdicts (Prog.attempt program >>= recover) := by
  intro trace outcome run
  rcases runs_bind _ _ _ _ run with ⟨tried, before, later, rfl, ran, after⟩ | ⟨failure, ran, rfl⟩ | ⟨ran, rfl⟩
  · obtain ⟨inner, inside, same⟩ := runs_attempt program before _ ran
    cases inner with
    | none => cases same
    | some result =>
        cases Option.some.inj same
        cases first before _ inside with
        | calm _ _ quiet mine =>
            refine settled_after before later outcome quiet (rest tried ?_ later outcome after)
            intro failure failed
            exact mine failure (congrArg some failed)
        | stopped earlier event failure quiet complains =>
            rw [passes event failure complains] at after
            obtain ⟨rfl, rfl⟩ := (runs_done _ _ _).mp after
            rw [List.append_nil]
            exact .stopped earlier event failure quiet complains
  · obtain ⟨inner, _, same⟩ := runs_attempt program trace _ ran
    cases inner <;> cases same
  · obtain ⟨inner, inside, same⟩ := runs_attempt program trace _ ran
    cases inner with
    | none => exact .calm _ _ (settled_quiet trace _ (first trace _ inside) nofun) nofun
    | some result => cases same

theorem fails_fast_while_some (body : σ → ι → Prog Q A ε (σ × Option ι))
    (round : ∀ kept item, FailsFast verdicts (body kept item)) (fuel : Nat) (kept : σ) (following : Option ι) :
    FailsFast verdicts (whileSome body fuel kept following) := by
  induction fuel generalizing kept following with
  | zero =>
      cases following with
      | none => exact fails_fast_done _ nofun
      | some item => exact fails_fast_cut
  | succ fuel ih =>
      cases following with
      | none => exact fails_fast_done _ nofun
      | some item => exact fails_fast_bind (round kept item) fun step => ih step.1 step.2

end Rules

end Interaction
