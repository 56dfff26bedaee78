import StackConnect.AppStore.CurlLog
import StackConnect.AppStore.Discard
import StackConnect.AppStore.Operations
import StackConnect.Interaction.Sinks

set_option autoImplicit false

namespace StackConnect

open Interaction Rust

-- What reqwest makes of a builder (nothing when it cannot be built) and of a status.
structure Reqwest where
  build : Request → Option HttpRequest
  statusText : Nat → String

inductive DebugLine where
  | sent (request : HttpRequest)
  | uploading (method url : String) (length : Nat)
  | received (status : Nat) (body : String)
  | note (text : String)

def DebugLine.isNote : DebugLine → Bool
  | .note _ => true
  | _ => false

def Method.text : Method → String
  | .get => "GET"
  | .post => "POST"
  | .patch => "PATCH"
  | .delete => "DELETE"
  | .other name => name

-- The Display of the error, as the messages show it.
def StackError.text : StackError → String
  | .invalidCredentials message => "invalid credentials: " ++ message
  | .auth message => "authentication failed: " ++ message
  | .pendingAgreements message => "pending agreements: " ++ message
  | .http status message => "HTTP " ++ toString status ++ ": " ++ message
  | .decode message => "failed to decode response: " ++ message
  | .network message => "network error: " ++ message
  | .unsupported message => "unsupported capability: " ++ message
  | .submissionNotRemovable message => "submission not removable: " ++ message

abbrev Logged (α : Type) := Aloud Answer DebugLine StackError α

structure DebugClient where
  client : AppStoreClient
  reqwest : Reqwest
  serdeText : SerdeText
  http : HttpCrate

namespace DebugClient

variable (debug : DebugClient) {α : Type}

def renderResponse (status : Nat) (body : String) : String :=
  "[RustCore] ← " ++ debug.reqwest.statusText status ++ "\n" ++ prettyJson debug.serdeText (asBytes body)

def text : DebugLine → String
  | .sent request => renderCurl debug.http debug.serdeText request
  | .uploading method url length => "[RustCore] → upload " ++ method ++ " " ++ url ++ " [" ++ toString length ++ " bytes]"
  | .received status body => debug.renderResponse status body
  | .note text => text

-- An upload shows the length of its bytes and the bare status of its answer.
def requestLines (request : Request) : List DebugLine :=
  match request.body with
  | .bytes chunk => [.uploading request.method.text request.url chunk.length]
  | _ => (debug.reqwest.build request).toList.map .sent

def responseLines (request : Request) : Except String (Nat × String) → List DebugLine
  | .ok (status, body) =>
      match request.body with
      | .bytes _ => [.received status ""]
      | _ => [.received status body]
  | .error _ => []

def streamLines : Except String Streamed → List DebugLine
  | .ok response => [.received response.status ""]
  | .error _ => []

def before : Query → List DebugLine
  | .send request => debug.requestLines request
  | _ => []

def after : (query : Query) → Answer query → List DebugLine
  | .bearerToken, _ => []
  | .send request, reply => responseLines request reply
  | .stream _, reply => streamLines reply

-- The choke points of the client, with their lines around the query.
def asked (query : Query) : Logged (Answer query) := around debug.before after query

def lines (event : Event Answer) : List DebugLine := debug.before event.1 ++ after event.1 event.2

def traced (program : Async α) : Logged α := program.through debug.asked

def log (message : String) : Logged Unit := tell (.note message)

def createAndSubmit (appId versionId : String) (platform : Option String) : Logged Unit := do
  log ("[RustCore] submit_for_review: creating a new review submission for app " ++ appId)
  debug.traced (debug.client.createAndSubmit appId versionId platform)

def submitForReview (appId versionId : String) (platform : Option String) : Logged Unit := do
  match ← debug.traced (debug.client.findReusableEmptyDraft appId platform) with
  | some submissionId => do
      log ("[RustCore] submit_for_review: reusing empty READY_FOR_REVIEW draft " ++ submissionId ++ " for app " ++ appId)
      match ← Prog.attempt (debug.traced (debug.client.attachAndSubmit submissionId versionId)) with
      | .ok () => pure ()
      | .error err => do
          log ("[RustCore] submit_for_review: reuse of draft " ++ submissionId ++ " failed (" ++ err.text ++
            "); falling back to creating a new review submission")
          debug.createAndSubmit appId versionId platform
  | none => debug.createAndSubmit appId versionId platform

def discardReadyForReviewSubmission (fuel : Nat) (submissionId : String) : Logged Unit := do
  debug.traced (debug.client.deleteSubmissionItems fuel submissionId)
  match ← debug.traced (debug.client.getReviewSubmissionState submissionId) with
  | none => pure ()
  | some (some "READY_FOR_REVIEW") => do
      log ("[RustCore] review submission " ++ submissionId ++
        " still READY_FOR_REVIEW after item removal (empty draft, not removable via the ASC API)")
      .fail (.submissionNotRemovable emptyDraftNotRemovableMessage)
  | some _ => pure ()

def cancelRound (fuel : Nat) (notRemovable : Option StackError) (submission : ReviewSubmissionResource) :
    Logged (Option StackError) :=
  match submission.attributes.state with
  | some "WAITING_FOR_REVIEW" | some "IN_REVIEW" | some "UNRESOLVED_ISSUES" => do
      debug.traced (debug.client.cancelPatch submission.id)
      pure notRemovable
  | some "READY_FOR_REVIEW" => do
      match ← Prog.attempt (debug.discardReadyForReviewSubmission fuel submission.id) with
      | .ok () => pure notRemovable
      | .error (.submissionNotRemovable message) => pure (notRemovable.or (some (.submissionNotRemovable message)))
      | .error other => .fail other
  | _ => pure notRemovable

def cancelListed (fuel : Nat) (submissions : List ReviewSubmissionResource) : Logged Unit := do
  let notRemovable ← submissions.foldlM (debug.cancelRound fuel) none
  match notRemovable with
  | some error => .fail error
  | none => pure ()

def cancelSubmission (fuel : Nat) (appId : String) : Logged Unit := do
  let body ← debug.traced (getPage (debug.client.activeSubmissionsUrl appId))
  let page ← .ofExcept (debug.client.parseReviewSubmissions body)
  debug.cancelListed fuel page.data

def discardReported (fuel : Nat) (submissionId : String) : Option String → Logged Unit
  | some "WAITING_FOR_REVIEW" | some "IN_REVIEW" | some "UNRESOLVED_ISSUES" =>
      debug.traced (debug.client.cancelPatch submissionId)
  | some "READY_FOR_REVIEW" => debug.discardReadyForReviewSubmission fuel submissionId
  | _ => pure ()

def discardReviewSubmission (fuel : Nat) (submissionId : String) : Logged Unit := do
  let (status, body) ← debug.traced (authorized (.get (debug.client.reviewSubmissionUrl submissionId)))
  if status = 404 then pure ()
  else
    let body ← Prog.ofExcept (accepted (status, body))
    let document ← .ofExcept (debug.client.parseReviewSubmission body)
    debug.discardReported fuel submissionId document.data.attributes.state

def downloadAnalyticsSegment (url : String) (maxBytes : Nat) : Logged AnalyticsReportData := do
  log ("[RustCore] → download " ++ url ++ " [max " ++ toString maxBytes ++ " bytes]")
  debug.traced (debug.client.downloadAnalyticsSegment url maxBytes)

end DebugClient

def Operation.logged (debug : DebugClient) (fuel : Nat) : (operation : Operation) → Logged operation.Result
  | submission (.submitForReview appId versionId platform) => debug.submitForReview appId versionId platform
  | submission (.cancelSubmission appId) => debug.cancelSubmission fuel appId
  | submission (.discardReviewSubmission submissionId) => debug.discardReviewSubmission fuel submissionId
  | analytics (.downloadAnalyticsSegment url maxBytes) => debug.downloadAnalyticsSegment url maxBytes
  | operation => debug.traced (operation.run debug.client fuel)

section Shadows

variable (debug : DebugClient) {α β : Type}

-- What the logged client does is what the plain one does, and its lines are the
-- traffic in order with remarks in between.
abbrev Follows (loud : Logged α) (plain : Async α) : Prop := Shadows debug.lines DebugLine.isNote loud plain

theorem lines_not_notes (event : Event Answer) (line : DebugLine) (inside : line ∈ debug.lines event) : line.isNote = false := by
  rcases List.mem_append.mp inside with asked | answered
  · obtain ⟨_ | request | request, answer⟩ := event
    · cases asked
    · change line ∈ debug.requestLines request at asked
      rw [DebugClient.requestLines] at asked
      split at asked
      · cases List.mem_singleton.mp asked
        rfl
      · obtain ⟨_, _, rfl⟩ := List.mem_map.mp asked
        rfl
    · cases asked
  · obtain ⟨_ | request | request, answer⟩ := event
    · cases answered
    · rcases answer with message | ⟨status, body⟩
      · cases answered
      · change line ∈ DebugClient.responseLines request (.ok (status, body)) at answered
        rw [DebugClient.responseLines] at answered
        split at answered
        · cases List.mem_singleton.mp answered
          rfl
        · cases List.mem_singleton.mp answered
          rfl
    · rcases answer with message | response
      · cases answered
      · cases List.mem_singleton.mp answered
        rfl

theorem follows_traced (program : Async α) : Follows debug (debug.traced program) program :=
  shadows_through debug.lines DebugLine.isNote debug.before DebugClient.after (fun _ _ => rfl) (lines_not_notes debug) program

theorem follows_done (result : Except StackError α) : Follows debug (.done result) (.done result) :=
  shadows_done debug.lines DebugLine.isNote result

theorem follows_bind (loud : Logged α) (plain : Async α) (next : α → Logged β) (later : α → Async β)
    (first : Follows debug loud plain) (second : ∀ value, Follows debug (next value) (later value)) :
    Follows debug (loud >>= next) (plain >>= later) :=
  shadows_bind debug.lines DebugLine.isNote loud plain next later first second

theorem follows_log (message : String) (loud : Logged α) (plain : Async α) (rest : Follows debug loud plain) :
    Follows debug (DebugClient.log message >>= fun _ => loud) plain :=
  shadows_noted debug.lines DebugLine.isNote (.note message) rfl loud plain rest

theorem follows_create (appId versionId : String) (platform : Option String) :
    Follows debug (debug.createAndSubmit appId versionId platform) (debug.client.createAndSubmit appId versionId platform) :=
  follows_log debug _ _ _ (follows_traced debug _)

theorem follows_submit (appId versionId : String) (platform : Option String) :
    Follows debug (debug.submitForReview appId versionId platform) (debug.client.submitForReview appId versionId platform) := by
  have created := follows_create debug appId versionId platform
  apply follows_bind
  · exact follows_traced debug _
  · rintro (_ | submissionId)
    · exact created
    · apply follows_log
      apply follows_bind
      · exact shadows_attempt _ _ _ _ (follows_traced debug _)
      · rintro (failure | _)
        · exact follows_log debug _ _ _ created
        · exact follows_done debug _

theorem follows_discard_ready (fuel : Nat) (submissionId : String) :
    Follows debug (debug.discardReadyForReviewSubmission fuel submissionId)
      (debug.client.discardReadyForReviewSubmission fuel submissionId) := by
  apply follows_bind
  · exact follows_traced debug _
  · intro _
    apply follows_bind
    · exact follows_traced debug _
    · rintro (_ | state)
      · exact follows_done debug _
      · by_cases ready : state = some "READY_FOR_REVIEW"
        · subst ready
          exact follows_log debug _ _ _ (follows_done debug _)
        · repeat' split
          all_goals first
            | contradiction
            | exact absurd (Option.some.inj ‹_›) ready
            | exact follows_done debug _

theorem follows_cancel_round (fuel : Nat) (notRemovable : Option StackError) (submission : ReviewSubmissionResource) :
    Follows debug (debug.cancelRound fuel notRemovable submission) (debug.client.cancelRound fuel notRemovable submission) := by
  have kept : Follows debug (.done (.ok notRemovable)) (.done (.ok notRemovable)) := follows_done debug _
  rw [DebugClient.cancelRound]
  by_cases sent : SentToReview submission.attributes.state
  · rw [cancel_round_sent debug.client fuel notRemovable submission sent]
    have canceled := follows_bind debug _ _ _ _ (follows_traced debug (debug.client.cancelPatch submission.id)) fun _ => kept
    rcases sent with same | same | same
    · rw [same]
      exact canceled
    · rw [same]
      exact canceled
    · rw [same]
      exact canceled
  · by_cases ready : ReadyForReview submission.attributes.state
    · rw [cancel_round_ready debug.client fuel notRemovable submission ready, show _ = _ from ready]
      apply follows_bind
      · exact shadows_attempt _ _ _ _ (follows_discard_ready debug fuel submission.id)
      · rintro (failure | _)
        · cases failure <;> exact follows_done debug _
        · exact kept
    · rw [cancel_round_other debug.client fuel notRemovable submission sent ready]
      split
      · exact absurd (.inl ‹_›) sent
      · exact absurd (.inr (.inl ‹_›)) sent
      · exact absurd (.inr (.inr ‹_›)) sent
      · exact absurd ‹_› ready
      · exact kept

theorem follows_reported (fuel : Nat) (submissionId : String) (state : Option String) :
    Follows debug (debug.discardReported fuel submissionId state) (debug.client.discardReported fuel submissionId state) := by
  by_cases sent : SentToReview state
  · rw [discard_reported_sent debug.client fuel submissionId state sent]
    rcases sent with rfl | rfl | rfl <;> exact follows_traced debug _
  · by_cases ready : ReadyForReview state
    · rw [discard_reported_ready debug.client fuel submissionId state ready, show _ = _ from ready]
      exact follows_discard_ready debug fuel submissionId
    · have other : debug.discardReported fuel submissionId state = .done (.ok ()) := by
        unfold DebugClient.discardReported
        split
        · exact absurd (.inl rfl) sent
        · exact absurd (.inr (.inl rfl)) sent
        · exact absurd (.inr (.inr rfl)) sent
        · exact absurd rfl ready
        · rfl
      rw [discard_reported_other debug.client fuel submissionId state sent ready, other]
      exact follows_done debug _

theorem follows_cancel (fuel : Nat) (appId : String) :
    Follows debug (debug.cancelSubmission fuel appId) (debug.client.cancelSubmission fuel appId) := by
  apply follows_bind
  · exact follows_traced debug _
  · intro body
    apply follows_bind
    · exact follows_done debug _
    · intro page
      apply follows_bind
      · exact shadows_fold _ _ _ _ (follows_cancel_round debug fuel) page.data none
      · rintro (_ | error)
        · exact follows_done debug _
        · exact follows_done debug _

theorem follows_discard (fuel : Nat) (submissionId : String) :
    Follows debug (debug.discardReviewSubmission fuel submissionId) (debug.client.discardReviewSubmission fuel submissionId) := by
  apply follows_bind
  · exact follows_traced debug _
  · rintro ⟨status, body⟩
    dsimp only
    by_cases gone : status = 404
    · rw [if_pos gone, if_pos gone]
      exact follows_done debug _
    · rw [if_neg gone, if_neg gone]
      apply follows_bind
      · exact follows_done debug _
      · intro body
        apply follows_bind
        · exact follows_done debug _
        · exact fun document => follows_reported debug fuel submissionId document.data.attributes.state

theorem operation_follows (fuel : Nat) (operation : Operation) :
    Follows debug (operation.logged debug fuel) (operation.run debug.client fuel) := by
  unfold Operation.logged
  split
  · exact follows_submit debug _ _ _
  · exact follows_cancel debug fuel _
  · exact follows_discard debug fuel _
  · exact follows_log debug _ _ _ (follows_traced debug _)
  · exact follows_traced debug _

end Shadows

end StackConnect
