import StackConnect.Interaction.Execution

set_option autoImplicit false

namespace Interaction

variable {Q : Type} {A : Q → Type} {ε α β σ ι κ S : Type}

-- `while let Some(item) = next`: the body turns what is kept and the current
-- item into the next pair. Fuel bounds the number of rounds, and running out
-- of it is visible in the outcome, so it can never pass for a result.
def whileSome (body : σ → ι → Prog Q A ε (σ × Option ι)) : Nat → σ → Option ι → Prog Q A ε σ
  | _, kept, none => .done (.ok kept)
  | 0, _, some _ => .cut
  | fuel + 1, kept, some item => body kept item >>= fun step => whileSome body fuel step.1 step.2

@[simp] theorem while_some_none (body : σ → ι → Prog Q A ε (σ × Option ι)) (fuel : Nat) (kept : σ) :
    whileSome body fuel kept none = .done (.ok kept) := by
  cases fuel <;> rfl

@[simp] theorem while_some_zero (body : σ → ι → Prog Q A ε (σ × Option ι)) (kept : σ) (item : ι) :
    whileSome body 0 kept (some item) = .cut := rfl

theorem while_some_succ (body : σ → ι → Prog Q A ε (σ × Option ι)) (fuel : Nat) (kept : σ) (item : ι) :
    whileSome body (fuel + 1) kept (some item) =
      body kept item >>= fun step => whileSome body fuel step.1 step.2 := rfl

theorem exec_while_some_ok (handler : Handler A S) (body : σ → ι → Prog Q A ε (σ × Option ι)) (kept : σ) (item : ι)
    (step : σ × Option ι) (state reached : S) (trace : List (Event A))
    (ran : exec handler (body kept item) state = ⟨some (.ok step), reached, trace⟩) (fuel : Nat) :
    exec handler (whileSome body (fuel + 1) kept (some item)) state =
      (exec handler (whileSome body fuel step.1 step.2) reached).prepend trace := by
  rw [while_some_succ, exec_bind, ran, Run.and_then_ok]

theorem exec_while_some_error (handler : Handler A S) (body : σ → ι → Prog Q A ε (σ × Option ι)) (kept : σ) (item : ι)
    (failure : ε) (state reached : S) (trace : List (Event A))
    (ran : exec handler (body kept item) state = ⟨some (.error failure), reached, trace⟩) (fuel : Nat) :
    exec handler (whileSome body (fuel + 1) kept (some item)) state = ⟨some (.error failure), reached, trace⟩ := by
  rw [while_some_succ, exec_bind, ran, Run.and_then_error]

theorem while_some_items (view : ι → κ) (body : σ → ι → Prog Q A ε (σ × Option ι))
    (viewed : σ → κ → Prog Q A ε (σ × Option κ))
    (agree : ∀ kept item,
      viewed kept (view item) = body kept item >>= fun step => .done (.ok (step.1, step.2.map view)))
    (fuel : Nat) (kept : σ) (next : Option ι) :
    whileSome viewed fuel kept (next.map view) = whileSome body fuel kept next := by
  induction fuel generalizing kept next with
  | zero => cases next <;> rfl
  | succ fuel ih =>
      cases next with
      | none => rfl
      | some item =>
          rw [Option.map_some, while_some_succ, while_some_succ, agree, Prog.bind_assoc]
          congr 1
          funext step
          exact ih step.1 step.2

-- A program indexed by fuel converges when, from some amount on, more fuel
-- changes nothing and it is not cut.
def Converges (handler : Handler A S) (program : Nat → Prog Q A ε α) (state : S) : Prop :=
  ∃ enough run, run.outcome ≠ none ∧ ∀ fuel, enough ≤ fuel → exec handler (program fuel) state = run

theorem converges_const (handler : Handler A S) (program : Prog Q A ε α) (state : S)
    (uncut : ∀ trace, ¬ Runs program trace none) : Converges handler (fun _ => program) state := by
  refine ⟨0, exec handler program state, ?_, fun _ _ => rfl⟩
  intro stuck
  exact uncut _ (stuck ▸ exec_runs handler program state)

theorem converges_bind (handler : Handler A S) (program : Nat → Prog Q A ε α) (next : Nat → α → Prog Q A ε β) (state : S)
    (first : Converges handler program state)
    (second : ∀ value reached, Converges handler (fun fuel => next fuel value) reached) :
    Converges handler (fun fuel => program fuel >>= next fuel) state := by
  obtain ⟨enough, ⟨outcome, reached, trace⟩, ended, same⟩ := first
  rcases outcome with _ | (failure | value)
  · exact absurd rfl ended
  · refine ⟨enough, ⟨some (.error failure), reached, trace⟩, nofun, ?_⟩
    intro fuel large
    rw [exec_bind, same fuel large, Run.and_then_error]
  · obtain ⟨more, run, finished, after⟩ := second value reached
    refine ⟨max enough more, run.prepend trace, finished, ?_⟩
    intro fuel large
    rw [exec_bind, same fuel (by omega), Run.and_then_ok, after fuel (by omega)]

theorem converges_attempt (handler : Handler A S) (program : Nat → Prog Q A ε α) (state : S)
    (first : Converges handler program state) : Converges handler (fun fuel => Prog.attempt (program fuel)) state := by
  obtain ⟨enough, run, ended, same⟩ := first
  refine ⟨enough, ⟨run.outcome.map .ok, run.state, run.trace⟩, by simpa using ended, ?_⟩
  intro fuel large
  rw [exec_attempt, same fuel large]

theorem converges_fold (handler : Handler A S) (step : Nat → σ → β → Prog Q A ε σ) (items : List β)
    (each : ∀ item ∈ items, ∀ kept reached, Converges handler (fun fuel => step fuel kept item) reached)
    (kept : σ) (state : S) : Converges handler (fun fuel => items.foldlM (step fuel) kept) state := by
  induction items generalizing kept state with
  | nil => exact converges_const handler _ state fun _ run => by cases ((runs_done _ _ _).mp run).2
  | cons item rest ih =>
      simp only [List.foldlM_cons]
      exact converges_bind handler _ _ state (each item List.mem_cons_self kept state)
        fun value reached => ih (fun other inside => each other (List.mem_cons_of_mem item inside)) value reached

inductive Settles (handler : Handler A S) (body : σ → ι → Prog Q A ε (σ × Option ι)) : σ → Option ι → S → Prop
  | leave (kept : σ) (state : S) : Settles handler body kept none state
  | round (kept : σ) (item : ι) (state : S)
      (later : ∀ step, (exec handler (body kept item) state).outcome = some (.ok step) →
        Settles handler body step.1 step.2 (exec handler (body kept item) state).state) :
      Settles handler body kept (some item) state

theorem converges_while_some (handler : Handler A S) (body : σ → ι → Prog Q A ε (σ × Option ι))
    (uncut : ∀ kept item trace, ¬ Runs (body kept item) trace none)
    (kept : σ) (next : Option ι) (state : S) (settles : Settles handler body kept next state) :
    Converges handler (fun fuel => whileSome body fuel kept next) state := by
  induction settles with
  | leave kept state =>
      refine ⟨0, ⟨some (.ok kept), state, []⟩, nofun, ?_⟩
      intro fuel _
      simp only [while_some_none, exec_done]
  | round kept item state later ih =>
      have ran := exec_runs handler (body kept item) state
      rcases first : exec handler (body kept item) state with ⟨outcome, reached, trace⟩
      rw [first] at ran ih
      rcases outcome with _ | (failure | step)
      · exact absurd ran (uncut kept item trace)
      · refine ⟨1, ⟨some (.error failure), reached, trace⟩, nofun, ?_⟩
        intro fuel large
        obtain ⟨less, rfl⟩ : ∃ less, fuel = less + 1 := ⟨fuel - 1, by omega⟩
        exact exec_while_some_error handler body kept item failure state reached trace first less
      · obtain ⟨enough, run, finished, after⟩ := ih step rfl
        refine ⟨enough + 1, run.prepend trace, finished, ?_⟩
        intro fuel large
        obtain ⟨less, rfl⟩ : ∃ less, fuel = less + 1 := ⟨fuel - 1, by omega⟩
        rw [exec_while_some_ok handler body kept item step state reached trace first less, after less (by omega)]

-- Against this handler the program leads from one state to a result and another
-- state; what it asks on the way is left out.
def Leads (handler : Handler A S) (program : Prog Q A ε α) (state : S) (result : Except ε α) (left : S) : Prop :=
  ∃ trace, exec handler program state = ⟨some result, left, trace⟩

section Rules

variable {handler : Handler A S} {program : Prog Q A ε α} {next : α → Prog Q A ε β} {state middle left : S}

theorem leads_done (result : Except ε α) : Leads handler (.done result) state result state := ⟨[], rfl⟩

theorem leads_bind (value : α) (result : Except ε β) (first : Leads handler program state (.ok value) middle)
    (rest : Leads handler (next value) middle result left) : Leads handler (program >>= next) state result left := by
  obtain ⟨before, ran⟩ := first
  obtain ⟨later, finished⟩ := rest
  exact ⟨_, by rw [exec_bind, ran, Run.and_then_ok, finished]; rfl⟩

theorem leads_stop (failure : ε) (first : Leads handler program state (.error failure) left) :
    Leads handler (program >>= next) state (.error failure) left := by
  obtain ⟨trace, ran⟩ := first
  exact ⟨_, by rw [exec_bind, ran, Run.and_then_error]⟩

theorem leads_judged (result : Except ε α) (judge : α → Except ε β) (first : Leads handler program state result left) :
    Leads handler (program >>= fun value => .done (judge value)) state (result >>= judge) left := by
  cases result with
  | ok value => exact leads_bind value _ first (leads_done _)
  | error failure => exact leads_stop failure first

theorem leads_map (view : α → β) (result : Except ε α) (ran : Leads handler program state result left) :
    Leads handler (program >>= fun value => pure (view value)) state (result.map view) left := by
  cases result with
  | ok value => exact leads_bind value _ ran (leads_done _)
  | error failure => exact leads_stop failure ran

theorem leads_attempt (result : Except ε α) (inner : Leads handler program state result left) :
    Leads handler (Prog.attempt program) state (.ok result) left := by
  obtain ⟨trace, ran⟩ := inner
  exact ⟨trace, by rw [exec_attempt, ran]; rfl⟩

end Rules

end Interaction
