import StackConnect.Interaction.Execution

set_option autoImplicit false

namespace Interaction

variable {Q : Type} {A : Q → Type} {ε α β : Type}

structure Yields (program : Prog Q A ε α) (fits : List (Event A) → Except ε α → Prop) : Prop where
  given : ∀ trace result, Runs program trace (some result) → fits trace result

structure Ends (program : Prog Q A ε α) (fits : List (Event A) → Except ε α → Prop) : Prop extends
    Yields program fits where
  uncut : ∀ trace, ¬ Runs program trace none

section Rules

variable {program : Prog Q A ε α} {next : α → Prog Q A ε β} {fits weak : List (Event A) → Except ε α → Prop}
  {post : List (Event A) → Except ε β → Prop}

theorem ends_of_runs (whole : ∀ trace outcome, Runs program trace outcome → ∃ result, fits trace result ∧ outcome = some result) :
    Ends program fits where
  given := by
    intro trace result run
    obtain ⟨found, fitting, same⟩ := whole trace (some result) run
    rw [Option.some.inj same]
    exact fitting
  uncut := by
    intro trace run
    obtain ⟨found, _, impossible⟩ := whole trace none run
    cases impossible

theorem Ends.runs (ends : Ends program fits) (trace : List (Event A)) (outcome : Option (Except ε α))
    (run : Runs program trace outcome) : ∃ result, fits trace result ∧ outcome = some result := by
  cases outcome with
  | none => exact absurd run (ends.uncut trace)
  | some result => exact ⟨result, ends.given trace result run, rfl⟩

theorem uncut_done (result : Except ε α) (trace : List (Event A)) : ¬ Runs (.done result : Prog Q A ε α) trace none := by
  intro run
  obtain ⟨_, impossible⟩ := (runs_done _ _ _).mp run
  cases impossible

theorem uncut_bind (first : Ends program fits)
    (rest : ∀ before value, fits before (.ok value) → ∀ later, ¬ Runs (next value) later none) (trace : List (Event A)) :
    ¬ Runs (program >>= next) trace none := by
  intro run
  rcases runs_bind _ _ _ _ run with ⟨value, before, later, rfl, ran, after⟩ | ⟨_, _, impossible⟩ | ⟨stuck, _⟩
  · exact rest before value (first.given before _ ran) later after
  · cases impossible
  · exact first.uncut trace stuck

theorem yields_mono (yields : Yields program fits) (weaker : ∀ trace result, fits trace result → weak trace result) :
    Yields program weak where
  given := fun trace result run => weaker trace result (yields.given trace result run)

theorem yields_done (result : Except ε α) (fitting : fits [] result) : Yields (.done result) fits where
  given := by
    intro trace found run
    obtain ⟨rfl, same⟩ := (runs_done _ _ _).mp run
    rw [Option.some.inj same]
    exact fitting

theorem yields_cut : Yields (.cut : Prog Q A ε α) fits where
  given := by
    intro trace result run
    obtain ⟨_, impossible⟩ := (runs_cut _ _).mp run
    cases impossible

theorem yields_bind (first : Yields program fits)
    (failed : ∀ trace failure, fits trace (.error failure) → post trace (.error failure))
    (rest : ∀ before value, fits before (.ok value) → Yields (next value) fun later result => post (before ++ later) result) :
    Yields (program >>= next) post where
  given := by
    intro trace result run
    rcases runs_bind _ _ _ _ run with ⟨value, before, later, rfl, ran, after⟩ | ⟨failure, ran, same⟩ | ⟨_, impossible⟩
    · exact (rest before value (first.given before _ ran)).given later result after
    · rw [Option.some.inj same]
      exact failed trace failure (first.given trace _ ran)
    · cases impossible

theorem yields_attempt (yields : Yields program fits) :
    Yields (Prog.attempt program) fun trace tried => ∃ result, fits trace result ∧ tried = .ok result where
  given := by
    intro trace tried run
    obtain ⟨inner, ran, same⟩ := runs_attempt program trace (some tried) run
    cases inner with
    | none => cases same
    | some result => exact ⟨result, yields.given trace result ran, Option.some.inj same⟩

theorem ends_mono (ends : Ends program fits) (weaker : ∀ trace result, fits trace result → weak trace result) :
    Ends program weak where
  toYields := yields_mono ends.toYields weaker
  uncut := ends.uncut

theorem ends_done (result : Except ε α) (fitting : fits [] result) : Ends (.done result) fits where
  toYields := yields_done result fitting
  uncut := uncut_done result

theorem ends_ask (query : Q) (answered : A query → Prog Q A ε α)
    (rest : ∀ answer, Ends (answered answer) fun later result => fits (⟨query, answer⟩ :: later) result) :
    Ends (.ask query answered) fits := by
  apply ends_of_runs
  intro trace outcome run
  obtain ⟨answer, later, rfl, ran⟩ := (runs_ask _ _ _ _).mp run
  exact (rest answer).runs later outcome ran

theorem ends_bind (first : Ends program fits)
    (failed : ∀ trace failure, fits trace (.error failure) → post trace (.error failure))
    (rest : ∀ before value, fits before (.ok value) → Ends (next value) fun later result => post (before ++ later) result) :
    Ends (program >>= next) post where
  toYields := yields_bind first.toYields failed fun before value fitting => (rest before value fitting).toYields
  uncut := uncut_bind first fun before value fitting => (rest before value fitting).uncut

theorem ends_judged (judge : α → Except ε β) (first : Ends program fits)
    (judged : ∀ trace result, fits trace result → post trace (result >>= judge)) :
    Ends (program >>= fun value => .done (judge value)) post := by
  apply ends_bind first
  · intro trace failure failed
    exact judged trace (.error failure) failed
  · intro before value given
    apply ends_done
    rw [List.append_nil]
    exact judged before (.ok value) given

theorem ends_attempt (ends : Ends program fits) :
    Ends (Prog.attempt program) fun trace tried => ∃ result, fits trace result ∧ tried = .ok result where
  toYields := yields_attempt ends.toYields
  uncut := by
    intro trace run
    obtain ⟨inner, ran, same⟩ := runs_attempt program trace none run
    cases inner with
    | none => exact ends.uncut trace ran
    | some result => cases same

end Rules

end Interaction
