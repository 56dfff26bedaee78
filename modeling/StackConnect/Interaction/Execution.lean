import StackConnect.Interaction.Program

set_option autoImplicit false

namespace Interaction

variable {Q : Type} {A : Q → Type} {ε α β S : Type}

abbrev Event (A : Q → Type) := Σ query : Q, A query

-- What a program can leave behind when nothing is known about the environment:
-- the trace of its queries, and its result (none when it was cut).
inductive Runs : Prog Q A ε α → List (Event A) → Option (Except ε α) → Prop
  | done (result : Except ε α) : Runs (.done result) [] (some result)
  | cut : Runs .cut [] none
  | ask (query : Q) (next : A query → Prog Q A ε α) (answer : A query) (trace : List (Event A))
      (outcome : Option (Except ε α)) (rest : Runs (next answer) trace outcome) :
      Runs (.ask query next) (⟨query, answer⟩ :: trace) outcome

structure Handler (A : Q → Type) (S : Type) where
  answer : (query : Q) → S → A query × S

structure Run (A : Q → Type) (ε α S : Type) where
  outcome : Option (Except ε α)
  state : S
  trace : List (Event A)

def exec (handler : Handler A S) : Prog Q A ε α → S → Run A ε α S
  | .done result, state => ⟨some result, state, []⟩
  | .cut, state => ⟨none, state, []⟩
  | .ask query next, state =>
      let reply := handler.answer query state
      let rest := exec handler (next reply.1) reply.2
      ⟨rest.outcome, rest.state, ⟨query, reply.1⟩ :: rest.trace⟩

namespace Run

def prepend (before : List (Event A)) (run : Run A ε α S) : Run A ε α S :=
  ⟨run.outcome, run.state, before ++ run.trace⟩

def andThen (run : Run A ε α S) (next : α → S → Run A ε β S) : Run A ε β S :=
  match run.outcome with
  | some (.ok value) => (next value run.state).prepend run.trace
  | some (.error failure) => ⟨some (.error failure), run.state, run.trace⟩
  | none => ⟨none, run.state, run.trace⟩

@[simp] theorem prepend_outcome (before : List (Event A)) (run : Run A ε α S) :
    (run.prepend before).outcome = run.outcome := rfl
@[simp] theorem prepend_state (before : List (Event A)) (run : Run A ε α S) :
    (run.prepend before).state = run.state := rfl
@[simp] theorem prepend_trace (before : List (Event A)) (run : Run A ε α S) :
    (run.prepend before).trace = before ++ run.trace := rfl
@[simp] theorem and_then_ok (value : α) (state : S) (trace : List (Event A)) (next : α → S → Run A ε β S) :
    (⟨some (.ok value), state, trace⟩ : Run A ε α S).andThen next = (next value state).prepend trace := rfl
@[simp] theorem and_then_error (failure : ε) (state : S) (trace : List (Event A)) (next : α → S → Run A ε β S) :
    (⟨some (.error failure), state, trace⟩ : Run A ε α S).andThen next = ⟨some (.error failure), state, trace⟩ := rfl
@[simp] theorem and_then_cut (state : S) (trace : List (Event A)) (next : α → S → Run A ε β S) :
    (⟨none, state, trace⟩ : Run A ε α S).andThen next = ⟨none, state, trace⟩ := rfl

theorem prepend_prepend (first second : List (Event A)) (run : Run A ε α S) :
    (run.prepend second).prepend first = run.prepend (first ++ second) := by
  simp [prepend, List.append_assoc]

@[simp] theorem prepend_nil (run : Run A ε α S) : run.prepend [] = run := rfl

theorem prepend_and_then (before : List (Event A)) (run : Run A ε α S) (next : α → S → Run A ε β S) :
    (run.prepend before).andThen next = (run.andThen next).prepend before := by
  obtain ⟨outcome, state, trace⟩ := run
  cases outcome with
  | none => rfl
  | some result =>
      cases result with
      | error failure => rfl
      | ok value => simp only [prepend, andThen, List.append_assoc]

end Run

@[simp] theorem exec_done (handler : Handler A S) (result : Except ε α) (state : S) :
    exec handler (.done result) state = ⟨some result, state, []⟩ := rfl
@[simp] theorem exec_cut (handler : Handler A S) (state : S) :
    exec handler (.cut : Prog Q A ε α) state = ⟨none, state, []⟩ := rfl

theorem exec_ask (handler : Handler A S) (query : Q) (next : A query → Prog Q A ε α) (state : S) :
    exec handler (.ask query next) state =
      (exec handler (next (handler.answer query state).1) (handler.answer query state).2).prepend
        [⟨query, (handler.answer query state).1⟩] := rfl

theorem exec_bind (handler : Handler A S) (program : Prog Q A ε α) (next : α → Prog Q A ε β) (state : S) :
    exec handler (program >>= next) state =
      (exec handler program state).andThen fun value reached => exec handler (next value) reached := by
  induction program generalizing state with
  | done result => cases result <;> rfl
  | cut => rfl
  | ask query answered ih =>
      rw [Prog.bind_ask, exec_ask, exec_ask, ih, Run.prepend_and_then]

theorem exec_attempt (handler : Handler A S) (program : Prog Q A ε α) (state : S) :
    exec handler (Prog.attempt program) state =
      ⟨(exec handler program state).outcome.map .ok, (exec handler program state).state,
        (exec handler program state).trace⟩ := by
  induction program generalizing state with
  | done result => rfl
  | cut => rfl
  | ask query answered ih =>
      rw [Prog.attempt_ask, exec_ask, exec_ask, ih]
      rfl

theorem exec_runs (handler : Handler A S) (program : Prog Q A ε α) (state : S) :
    Runs program (exec handler program state).trace (exec handler program state).outcome := by
  induction program generalizing state with
  | done result => exact .done result
  | cut => exact .cut
  | ask query answered ih => exact .ask query answered _ _ _ (ih _ _)

theorem runs_done (result : Except ε α) (trace : List (Event A)) (outcome : Option (Except ε α)) :
    Runs (.done result : Prog Q A ε α) trace outcome ↔ trace = [] ∧ outcome = some result := by
  constructor
  · intro run
    cases run
    exact ⟨rfl, rfl⟩
  · rintro ⟨rfl, rfl⟩
    exact .done result

theorem runs_cut (trace : List (Event A)) (outcome : Option (Except ε α)) :
    Runs (.cut : Prog Q A ε α) trace outcome ↔ trace = [] ∧ outcome = none := by
  constructor
  · intro run
    cases run
    exact ⟨rfl, rfl⟩
  · rintro ⟨rfl, rfl⟩
    exact .cut

theorem runs_ask (query : Q) (next : A query → Prog Q A ε α) (trace : List (Event A))
    (outcome : Option (Except ε α)) :
    Runs (.ask query next) trace outcome ↔
      ∃ answer rest, trace = ⟨query, answer⟩ :: rest ∧ Runs (next answer) rest outcome := by
  constructor
  · intro run
    cases run with
    | ask _ _ answer rest _ tail => exact ⟨answer, rest, rfl, tail⟩
  · intro whole
    obtain ⟨answer, rest, rfl, tail⟩ := whole
    exact .ask query next answer rest outcome tail

-- A run of a sequence splits into a run of its first program and, when that
-- one succeeds, a run of the second: nothing follows a failure or a cut.
theorem runs_bind (program : Prog Q A ε α) (next : α → Prog Q A ε β) (trace : List (Event A))
    (outcome : Option (Except ε β)) (run : Runs (program >>= next) trace outcome) :
    (∃ value first second, trace = first ++ second ∧ Runs program first (some (.ok value)) ∧
        Runs (next value) second outcome) ∨
      (∃ failure, Runs program trace (some (.error failure)) ∧ outcome = some (.error failure)) ∨
      (Runs program trace none ∧ outcome = none) := by
  induction program generalizing trace with
  | done result =>
      cases result with
      | ok value => exact .inl ⟨value, [], trace, rfl, .done _, run⟩
      | error failure =>
          obtain ⟨rfl, rfl⟩ := (runs_done _ _ _).mp run
          exact .inr (.inl ⟨failure, .done _, rfl⟩)
  | cut =>
      obtain ⟨rfl, rfl⟩ := (runs_cut _ _).mp run
      exact .inr (.inr ⟨.cut, rfl⟩)
  | ask query answered ih =>
      obtain ⟨answer, rest, rfl, tail⟩ := (runs_ask _ _ _ _).mp run
      rcases ih answer rest tail with ⟨value, first, second, rfl, ran, after⟩ | ⟨failure, ran, ended⟩ | ⟨ran, ended⟩
      · exact .inl ⟨value, ⟨query, answer⟩ :: first, second, rfl, .ask _ _ _ _ _ ran, after⟩
      · exact .inr (.inl ⟨failure, .ask _ _ _ _ _ ran, ended⟩)
      · exact .inr (.inr ⟨.ask _ _ _ _ _ ran, ended⟩)

theorem runs_bind_after (program : Prog Q A ε α) (next : α → Prog Q A ε β) (first later : List (Event A)) (value : α)
    (ran : Runs program first (some (.ok value))) (outcome : Option (Except ε β)) :
    Runs (program >>= next) (first ++ later) outcome ↔ Runs (next value) later outcome := by
  induction program generalizing first with
  | done result =>
      obtain ⟨rfl, same⟩ := (runs_done _ _ _).mp ran
      cases Option.some.inj same
      exact Iff.rfl
  | cut =>
      obtain ⟨_, impossible⟩ := (runs_cut _ _).mp ran
      cases impossible
  | ask query answered ih =>
      obtain ⟨answer, rest, rfl, tail⟩ := (runs_ask _ _ _ _).mp ran
      rw [Prog.bind_ask, runs_ask, ← ih answer rest tail]
      constructor
      · rintro ⟨other, others, same, after⟩
        cases same
        exact after
      · intro after
        exact ⟨answer, rest ++ later, rfl, after⟩

theorem runs_bind_except (program : Prog Q A ε α) (judge : α → Except ε β) (trace : List (Event A))
    (outcome : Option (Except ε β)) :
    Runs (program >>= fun value => .done (judge value)) trace outcome ↔
      ∃ inner, Runs program trace inner ∧ outcome = inner.map fun result => result >>= judge := by
  constructor
  · intro run
    rcases runs_bind _ _ _ _ run with ⟨value, first, second, rfl, ran, judged⟩ | ⟨failure, ran, rfl⟩ | ⟨ran, rfl⟩
    · obtain ⟨rfl, rfl⟩ := (runs_done _ _ _).mp judged
      exact ⟨_, by rwa [List.append_nil], rfl⟩
    · exact ⟨_, ran, rfl⟩
    · exact ⟨_, ran, rfl⟩
  · intro whole
    obtain ⟨inner, ran, rfl⟩ := whole
    induction ran with
    | done result =>
        cases result with
        | ok value => exact .done _
        | error failure => exact .done _
    | cut => exact .cut
    | ask query next answer trace outcome rest ih => exact .ask query _ answer trace _ ih

theorem runs_attempt (program : Prog Q A ε α) (trace : List (Event A)) (outcome : Option (Except ε (Except ε α)))
    (run : Runs (Prog.attempt program) trace outcome) :
    ∃ inner, Runs program trace inner ∧ outcome = inner.map .ok := by
  induction program generalizing trace with
  | done result =>
      obtain ⟨rfl, rfl⟩ := (runs_done _ _ _).mp run
      exact ⟨some result, .done result, rfl⟩
  | cut =>
      obtain ⟨rfl, rfl⟩ := (runs_cut _ _).mp run
      exact ⟨none, .cut, rfl⟩
  | ask query answered ih =>
      obtain ⟨answer, rest, rfl, tail⟩ := (runs_ask _ _ _ _).mp run
      obtain ⟨inner, ran, ended⟩ := ih answer rest tail
      exact ⟨inner, .ask _ _ _ _ _ ran, ended⟩

end Interaction
