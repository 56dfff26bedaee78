import StackConnect.Interaction.Execution

set_option autoImplicit false

namespace Interaction

variable {Q R : Type} {A : Q → Type} {B : R → Type} {ε α S T : Type}

namespace Prog

-- A program that talks to one environment, run where there is a second one
-- that it never asks.
def left : Prog Q A ε α → Prog (Q ⊕ R) (Sum.elim A B) ε α
  | .done result => .done result
  | .cut => .cut
  | .ask query next => .ask (.inl query) fun answer => left (next answer)

-- The second environment is taken away and a handler put in its place: its
-- queries are answered on the way and the state they leave comes back with the
-- result, an error included.
def handled (inner : Handler B T) : Prog (Q ⊕ R) (Sum.elim A B) ε α → T → Prog Q A ε (Except ε α × T)
  | .done result, state => .done (.ok (result, state))
  | .cut, _ => .cut
  | .ask (.inl query) next, state => .ask query fun answer => handled inner (next answer) state
  | .ask (.inr query) next, state =>
      handled inner (next (inner.answer query state).1) (inner.answer query state).2

end Prog

def Handler.beside (outer : Handler A S) (inner : Handler B T) : Handler (Sum.elim A B) (S × T) where
  answer
    | .inl query, state => ((outer.answer query state.1).1, (outer.answer query state.1).2, state.2)
    | .inr query, state => ((inner.answer query state.2).1, state.1, (inner.answer query state.2).2)

def lefts (trace : List (Event (Sum.elim A B))) : List (Event A) :=
  trace.filterMap fun
    | ⟨.inl query, answer⟩ => some ⟨query, answer⟩
    | ⟨.inr _, _⟩ => none

def onLeft (event : Event A) : Event (Sum.elim A B) := ⟨.inl event.1, event.2⟩

theorem exec_left (outer : Handler A S) (inner : Handler B T) (program : Prog Q A ε α) (state : S) (kept : T) :
    exec (outer.beside inner) program.left (state, kept) =
      ⟨(exec outer program state).outcome, ((exec outer program state).state, kept),
        (exec outer program state).trace.map onLeft⟩ := by
  induction program generalizing state with
  | done result => rfl
  | cut => rfl
  | ask query next ih =>
      have rest := ih (outer.answer query state).1 (outer.answer query state).2
      exact congrArg (Run.prepend [onLeft ⟨query, (outer.answer query state).1⟩]) rest

-- A program over a handler put in place of its second environment does what it
-- does when that handler serves it from outside.
theorem exec_handled (outer : Handler A S) (inner : Handler B T) (program : Prog (Q ⊕ R) (Sum.elim A B) ε α)
    (state : S) (held : T) :
    exec outer (program.handled inner held) state =
      ⟨(exec (outer.beside inner) program (state, held)).outcome.map fun result =>
          .ok (result, (exec (outer.beside inner) program (state, held)).state.2),
        (exec (outer.beside inner) program (state, held)).state.1,
        lefts (exec (outer.beside inner) program (state, held)).trace⟩ := by
  induction program generalizing state held with
  | done result => rfl
  | cut => rfl
  | ask query next ih =>
      cases query with
      | inl query =>
          have rest := ih (outer.answer query state).1 (outer.answer query state).2 held
          exact congrArg (Run.prepend [⟨query, (outer.answer query state).1⟩]) rest
      | inr query => exact ih (inner.answer query held).1 state (inner.answer query held).2

theorem exec_sends (outer : Handler A S) (inner : Handler B T) {ι : Type} (call : ι → R) (items : List ι)
    (send : ι → Prog (Q ⊕ R) (Sum.elim A B) ε PUnit)
    (sends : ∀ item, send item = .ask (.inr (call item)) fun _ => .done (.ok ⟨⟩)) (state : S) (held : T) :
    (exec (outer.beside inner) (items.forM send) (state, held)).outcome = some (.ok ⟨⟩) ∧
      (exec (outer.beside inner) (items.forM send) (state, held)).state =
        (state, items.foldl (fun held item => (inner.answer (call item) held).2) held) := by
  induction items generalizing held with
  | nil => exact ⟨rfl, rfl⟩
  | cons item rest ih =>
      have first : exec (outer.beside inner) (send item) (state, held) =
          ⟨some (.ok ⟨⟩), (state, (inner.answer (call item) held).2), [⟨.inr (call item), (inner.answer (call item) held).1⟩]⟩ := by
        rw [sends]
        rfl
      have each : (item :: rest).forM send = send item >>= fun _ => rest.forM send := rfl
      rw [each, exec_bind, first, Run.and_then_ok]
      exact ih (inner.answer (call item) held).2

end Interaction
