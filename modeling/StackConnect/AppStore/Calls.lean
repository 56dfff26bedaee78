import StackConnect.AppStore.JsonApi
import StackConnect.Interaction.Results

set_option autoImplicit false

namespace StackConnect

open Interaction Serde

variable {S : Type}

-- What sending an authorized request leaves behind and gives back: its token
-- could not be signed (nothing was sent), the transport failed, or a response came.
inductive Called (request : Request) : Trace → Except StackError (Nat × String) → Prop
  | unsigned (message : String) : Called request [⟨.bearerToken, .error message⟩] (.error (.auth message))
  | broken (token message : String) : Called request
      [⟨.bearerToken, .ok token⟩, ⟨.send (request.bearerAuth token), .error message⟩] (.error (.network message))
  | answered (token : String) (response : Nat × String) : Called request
      [⟨.bearerToken, .ok token⟩, ⟨.send (request.bearerAuth token), .ok response⟩] (.ok response)

def requests (trace : Trace) : List Request :=
  trace.filterMap fun
    | ⟨.bearerToken, _⟩ => none
    | ⟨.send request, _⟩ => some request
    | ⟨.stream request, _⟩ => some request

theorem requests_append (first second : Trace) : requests (first ++ second) = requests first ++ requests second :=
  List.filterMap_append

def exchanges (trace : Trace) : List (Request × Except String (Nat × String)) :=
  trace.filterMap fun
    | ⟨.send request, reply⟩ => some (request, reply)
    | _ => none

theorem exchanges_append (first second : Trace) : exchanges (first ++ second) = exchanges first ++ exchanges second :=
  List.filterMap_append

def AllSigned (trace : Trace) : Prop := ∀ message, ⟨.bearerToken, .error message⟩ ∉ trace

theorem runs_authorized (request : Request) (trace : Trace) (outcome : Option (Except StackError (Nat × String))) :
    Runs (authorized request) trace outcome ↔ ∃ raw, Called request trace raw ∧ outcome = some raw := by
  constructor
  · intro run
    obtain ⟨signed, rest, rfl, afterToken⟩ := (runs_ask _ _ _ _).mp run
    cases signed with
    | error message =>
        obtain ⟨rfl, rfl⟩ := (runs_done _ _ _).mp afterToken
        exact ⟨_, .unsigned message, rfl⟩
    | ok token =>
        obtain ⟨reply, last, rfl, afterReply⟩ := (runs_ask _ _ _ _).mp afterToken
        cases reply with
        | error message =>
            obtain ⟨rfl, rfl⟩ := (runs_done _ _ _).mp afterReply
            exact ⟨_, .broken token message, rfl⟩
        | ok response =>
            obtain ⟨rfl, rfl⟩ := (runs_done _ _ _).mp afterReply
            exact ⟨_, .answered token response, rfl⟩
  · intro called
    obtain ⟨raw, call, rfl⟩ := called
    cases call with
    | unsigned message => exact .ask _ _ _ _ _ (.done _)
    | broken token message => exact .ask _ _ _ _ _ (.ask _ _ _ _ _ (.done _))
    | answered token response => exact .ask _ _ _ _ _ (.ask _ _ _ _ _ (.done _))

theorem runs_exchange (request : Request) (trace : Trace) (outcome : Option (Except StackError String)) :
    Runs (exchange request) trace outcome ↔
      ∃ raw, Called request trace raw ∧ outcome = some (raw >>= accepted) := by
  rw [exchange, show (fun response => Prog.ofExcept (accepted response)) =
    (fun response => (.done (accepted response) : Async String)) from rfl, runs_bind_except]
  constructor
  · intro whole
    obtain ⟨inner, ran, rfl⟩ := whole
    obtain ⟨raw, call, rfl⟩ := (runs_authorized _ _ _).mp ran
    exact ⟨raw, call, rfl⟩
  · intro called
    obtain ⟨raw, call, rfl⟩ := called
    exact ⟨some raw, (runs_authorized _ _ _).mpr ⟨raw, call, rfl⟩, rfl⟩

theorem ends_authorized (request : Request) : Ends (authorized request) (Called request) :=
  ends_of_runs fun trace outcome run => (runs_authorized request trace outcome).mp run

theorem ends_exchange (request : Request) :
    Ends (exchange request) fun trace result => ∃ raw, Called request trace raw ∧ result = raw >>= accepted := by
  apply ends_of_runs
  intro trace outcome run
  obtain ⟨raw, call, same⟩ := (runs_exchange request trace outcome).mp run
  exact ⟨raw >>= accepted, ⟨raw, call, rfl⟩, same⟩

theorem ends_exchange_judged {ρ : Type} (request : Request) (judge : String → Except StackError ρ) :
    Ends (exchange request >>= fun body => .done (judge body)) fun trace result =>
      ∃ raw, Called request trace raw ∧ result = raw >>= accepted >>= judge := by
  apply ends_judged judge (ends_exchange request)
  intro trace result answered
  obtain ⟨raw, call, same⟩ := answered
  rw [same]
  exact ⟨raw, call, rfl⟩

def DocumentRead {ρ : Type} (client : AppStoreClient) (request : Request) (type label : String) (resource : Decoder ρ)
    (trace : Trace) (result : Except StackError ρ) : Prop :=
  ∃ raw, Called request trace raw ∧
    result = raw >>= accepted >>= client.parse type label (Document.decode resource) >>= fun document => .ok document.data

theorem exchange_document_judged {ρ : Type} (client : AppStoreClient) (request : Request) (type label : String)
    (resource : Decoder ρ) :
    client.exchangeDocument request type label resource = exchange request >>= fun body =>
      .done (client.parse type label (Document.decode resource) body >>= fun document => .ok document.data) := by
  rw [AppStoreClient.exchangeDocument]
  congr 1
  funext body
  exact Prog.done_bind_done _ fun document : Document ρ => .ok document.data

theorem runs_exchange_document {ρ : Type} (client : AppStoreClient) (request : Request) (type label : String)
    (resource : Decoder ρ) (trace : Trace) (outcome : Option (Except StackError ρ)) :
    Runs (client.exchangeDocument request type label resource) trace outcome ↔
      ∃ result, DocumentRead client request type label resource trace result ∧ outcome = some result := by
  rw [exchange_document_judged, runs_bind_except]
  constructor
  · intro whole
    obtain ⟨inner, ran, rfl⟩ := whole
    obtain ⟨raw, call, rfl⟩ := (runs_exchange _ _ _).mp ran
    refine ⟨_, ⟨raw, call, rfl⟩, ?_⟩
    cases raw >>= accepted <;> rfl
  · intro read
    obtain ⟨result, ⟨raw, call, rfl⟩, rfl⟩ := read
    refine ⟨some (raw >>= accepted), (runs_exchange _ _ _).mpr ⟨raw, call, rfl⟩, ?_⟩
    cases raw >>= accepted <;> rfl

theorem ends_exchange_document {ρ : Type} (client : AppStoreClient) (request : Request) (type label : String)
    (resource : Decoder ρ) :
    Ends (client.exchangeDocument request type label resource) (DocumentRead client request type label resource) :=
  ends_of_runs fun trace outcome => (runs_exchange_document client request type label resource trace outcome).mp

theorem token_then_patch (url : String) (body : Json) :
    (bearerToken >>= fun token => patchNoContent url token body) =
      (exchange (.patch url body) >>= fun _ => .done (.ok ())) := by
  simp only [exchange, authorized, patchNoContent, Prog.bind_assoc, Prog.pure_eq]

theorem wp_authorized (allowed : Trace → Query → Prop) (request : Request)
    (post : Except StackError (Nat × String) → Trace → Prop) (past : Trace) (signs : allowed past .bearerToken)
    (sends : ∀ token, allowed (past ++ [⟨.bearerToken, .ok token⟩]) (.send (request.bearerAuth token)))
    (after : ∀ trace raw, Called request trace raw → post raw (past ++ trace)) :
    wp allowed (authorized request) post past := by
  refine ⟨signs, ?_⟩
  intro signed
  cases signed with
  | error message => exact after _ _ (.unsigned message)
  | ok token =>
      refine ⟨sends token, ?_⟩
      intro reply
      rw [List.append_assoc]
      cases reply with
      | error message => exact after _ _ (.broken token message)
      | ok response => exact after _ _ (.answered token response)

theorem wp_exchange (allowed : Trace → Query → Prop) (request : Request)
    (post : Except StackError String → Trace → Prop) (past : Trace) (signs : allowed past .bearerToken)
    (sends : ∀ token, allowed (past ++ [⟨.bearerToken, .ok token⟩]) (.send (request.bearerAuth token)))
    (after : ∀ trace raw, Called request trace raw → post (raw >>= accepted) (past ++ trace)) :
    wp allowed (exchange request) post past := by
  rw [exchange, wp_bind]
  apply wp_authorized allowed request _ past signs sends
  intro trace raw call
  cases raw with
  | error failure => exact after trace _ call
  | ok response => exact after trace _ call

theorem except_bind_ok {ε α β : Type} (result : Except ε α) (next : α → Except ε β) (value : β)
    (succeeded : (result >>= next) = .ok value) : ∃ inner, result = .ok inner ∧ next inner = .ok value := by
  cases result with
  | error failure => cases succeeded
  | ok inner => exact ⟨inner, rfl, succeeded⟩

theorem accepted_ok (response : Nat × String) (body : String) :
    accepted response = .ok body ↔ isSuccess response.1 = true ∧ response.2 = body := by
  rw [accepted]
  by_cases success : isSuccess response.1 = true <;> simp [success]

end StackConnect
