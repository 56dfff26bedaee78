import StackConnect.Rust.Text

set_option autoImplicit false

namespace StackConnect

open Rust

inductive StackError where
  | invalidCredentials (message : String)
  | auth (message : String)
  | pendingAgreements (message : String)
  | http (status : Nat) (message : String)
  | decode (message : String)
  | network (message : String)
  | unsupported (message : String)
  | submissionNotRemovable (message : String)
deriving DecidableEq

def StackError.isNotRemovable : StackError → Bool
  | .submissionNotRemovable _ => true
  | _ => false

def pendingAgreementsMessage : String :=
  "App Store Connect has pending agreements; accept them in the developer portal before connecting"

def pendingAgreementsError (status : Nat) (body : String) : Option StackError :=
  if status = 403 then
    let lowered := toLowercase body
    if contains lowered "agreement" || contains lowered "pending" then
      some (.pendingAgreements pendingAgreementsMessage)
    else none
  else none

-- The mapping every call site applies to a response that is not 2xx.
def statusError (status : Nat) (body : String) : StackError :=
  match pendingAgreementsError status body with
  | some error => error
  | none => .http status body

def mapErrorResponse (status : Nat) (body : String) : StackError :=
  match pendingAgreementsError status body with
  | some error => error
  | none => .auth ("validation failed (" ++ toString status ++ "): " ++ body)

theorem pending_agreements_error_some (status : Nat) (body : String) (error : StackError) :
    pendingAgreementsError status body = some error ↔
      (status = 403 ∧ (contains (toLowercase body) "agreement" = true ∨ contains (toLowercase body) "pending" = true)) ∧
        error = .pendingAgreements pendingAgreementsMessage := by
  simp only [pendingAgreementsError]
  by_cases forbidden : status = 403
  · by_cases mentions : (contains (toLowercase body) "agreement" || contains (toLowercase body) "pending") = true
    · rw [if_pos forbidden, if_pos mentions]
      simp only [Bool.or_eq_true] at mentions
      simp only [forbidden, mentions, and_self, true_and, Option.some.injEq]
      exact eq_comm
    · rw [if_pos forbidden, if_neg mentions]
      simp only [Bool.or_eq_true] at mentions
      simp [mentions]
  · simp [forbidden]

theorem status_error_cases (status : Nat) (body : String) :
    statusError status body = .pendingAgreements pendingAgreementsMessage ∨ statusError status body = .http status body := by
  rw [statusError]
  cases found : pendingAgreementsError status body with
  | none => exact .inr rfl
  | some error => exact .inl ((pending_agreements_error_some status body error).mp found).2

theorem status_error_removable (status : Nat) (body : String) : (statusError status body).isNotRemovable = false := by
  rcases status_error_cases status body with same | same <;> rw [same] <;> rfl

end StackConnect
