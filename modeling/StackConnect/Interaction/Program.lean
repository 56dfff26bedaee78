import Mathlib.Logic.Basic

set_option autoImplicit false

namespace Interaction

-- A program that talks to an environment: it stops with a result, asks a query
-- and continues with whatever the answer is, or is cut because the fuel of one
-- of its loops ran out. Nothing is assumed about who answers the queries.
inductive Prog (Q : Type) (A : Q → Type) (ε α : Type) where
  | done (result : Except ε α)
  | cut
  | ask (query : Q) (next : A query → Prog Q A ε α)

variable {Q : Type} {A : Q → Type} {ε α β γ : Type}

namespace Prog

def bind : Prog Q A ε α → (α → Prog Q A ε β) → Prog Q A ε β
  | .done (.ok value), next => next value
  | .done (.error failure), _ => .done (.error failure)
  | .cut, _ => .cut
  | .ask query answered, next => .ask query fun answer => bind (answered answer) next

instance : Monad (Prog Q A ε) where
  pure value := .done (.ok value)
  bind := bind

def fail (failure : ε) : Prog Q A ε α := .done (.error failure)

-- The result of the program as a value: what a caller that matches on a
-- returned `Result` sees. Running out of fuel is not a result.
def attempt : Prog Q A ε α → Prog Q A ε (Except ε α)
  | .done result => .done (.ok result)
  | .cut => .cut
  | .ask query answered => .ask query fun answer => attempt (answered answer)

def query (question : Q) : Prog Q A ε (A question) := .ask question fun answer => .done (.ok answer)

def ofExcept : Except ε α → Prog Q A ε α := .done

@[simp] theorem pure_eq (value : α) : (pure value : Prog Q A ε α) = .done (.ok value) := rfl
@[simp] theorem fail_eq (failure : ε) : (fail failure : Prog Q A ε α) = .done (.error failure) := rfl
@[simp] theorem of_except (result : Except ε α) : (ofExcept result : Prog Q A ε α) = .done result := rfl
@[simp] theorem bind_ok (value : α) (next : α → Prog Q A ε β) :
    ((.done (.ok value) : Prog Q A ε α) >>= next) = next value := rfl
@[simp] theorem bind_error (failure : ε) (next : α → Prog Q A ε β) :
    ((.done (.error failure) : Prog Q A ε α) >>= next) = .done (.error failure) := rfl
@[simp] theorem bind_cut (next : α → Prog Q A ε β) : ((.cut : Prog Q A ε α) >>= next) = .cut := rfl
@[simp] theorem bind_ask (question : Q) (answered : A question → Prog Q A ε α) (next : α → Prog Q A ε β) :
    ((.ask question answered : Prog Q A ε α) >>= next) = .ask question fun answer => answered answer >>= next := rfl
@[simp] theorem bind_query (question : Q) (next : A question → Prog Q A ε β) :
    (query question >>= next) = .ask question next := rfl
@[simp] theorem attempt_done (result : Except ε α) :
    attempt (.done result : Prog Q A ε α) = .done (.ok result) := rfl
@[simp] theorem attempt_cut : attempt (.cut : Prog Q A ε α) = .cut := rfl
@[simp] theorem attempt_ask (question : Q) (answered : A question → Prog Q A ε α) :
    attempt (.ask question answered) = .ask question fun answer => attempt (answered answer) := rfl

theorem bind_pure_right (program : Prog Q A ε α) : program >>= (fun value => .done (.ok value)) = program := by
  induction program with
  | done result => cases result <;> rfl
  | cut => rfl
  | ask question answered ih => simp only [bind_ask, ih]

theorem bind_assoc (program : Prog Q A ε α) (next : α → Prog Q A ε β) (last : β → Prog Q A ε γ) :
    program >>= next >>= last = program >>= fun value => next value >>= last := by
  induction program with
  | done result => cases result <;> rfl
  | cut => rfl
  | ask question answered ih => simp only [bind_ask, ih]

instance : LawfulMonad (Prog Q A ε) :=
  LawfulMonad.mk' _ bind_pure_right (fun _ _ => rfl) bind_assoc

theorem done_bind_done (result : Except ε α) (judge : α → Except ε β) :
    ((.done result : Prog Q A ε α) >>= fun value => .done (judge value)) = .done (result >>= judge) := by
  cases result <;> rfl

-- Matching on a result and passing the failure on is the `?` of the source.
theorem attempt_rethrow (program : Prog Q A ε α) (next : α → Prog Q A ε β)
    (recover : ε → Prog Q A ε β) (passes : ∀ failure, recover failure = .done (.error failure)) :
    (attempt program >>= fun result => match result with
      | .ok value => next value
      | .error failure => recover failure) = program >>= next := by
  induction program with
  | done result =>
      cases result with
      | ok value => rfl
      | error failure => exact passes failure
  | cut => rfl
  | ask question answered ih => simp only [attempt_ask, bind_ask, ih]

end Prog

end Interaction
