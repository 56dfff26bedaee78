import StackConnect.AppStore.Calls
import StackConnect.AppStore.ReviewSubmissions

set_option autoImplicit false

namespace StackConnect

open Interaction Serde

-- The requests of a review as they are written to the wire, token apart.
namespace ReviewRequest

def toOne (type id : String) : Json := .obj [("data", .obj [("type", .str type), ("id", .str id)])]

def flagging (baseUrl id : String) (flags : List (String × Json)) : Request :=
  ⟨.patch, baseUrl ++ "/v1/reviewSubmissions/" ++ id, none, [], .json (.obj [("data", .obj
    [("type", .str "reviewSubmissions"), ("id", .str id), ("attributes", .obj flags)])])⟩

def canceling (baseUrl id : String) : Request := flagging baseUrl id [("canceled", .bool true)]

def submitting (baseUrl id : String) : Request := flagging baseUrl id [("submitted", .bool true)]

def linking (baseUrl id versionId : String) : Request :=
  ⟨.post, baseUrl ++ "/v1/reviewSubmissionItems", none, [], .json (.obj [("data", .obj
    [("type", .str "reviewSubmissionItems"), ("relationships", .obj
      [("reviewSubmission", toOne "reviewSubmissions" id), ("appStoreVersion", toOne "appStoreVersions" versionId)])])])⟩

def creating (baseUrl appId : String) (platform : Option String) : Request :=
  ⟨.post, baseUrl ++ "/v1/reviewSubmissions", none, [], .json (.obj [("data", .obj
    ([("type", .str "reviewSubmissions")] ++
      (platform.map fun name => ("attributes", Json.obj [("platform", .str name)])).toList ++
      [("relationships", .obj [("app", toOne "apps" appId)])]))])⟩

def removing (baseUrl itemId : String) : Request :=
  ⟨.delete, baseUrl ++ "/v1/reviewSubmissionItems/" ++ itemId, none, [], .empty⟩

def reading (baseUrl id : String) : Request := ⟨.get, baseUrl ++ "/v1/reviewSubmissions/" ++ id, none, [], .empty⟩

def itemsUrl (baseUrl id : String) : String := baseUrl ++ "/v1/reviewSubmissions/" ++ id ++ "/items"

def itemUrl (baseUrl itemId : String) : String := baseUrl ++ "/v1/reviewSubmissionItems/" ++ itemId

def draftsUrl (baseUrl appId : String) (platform : Option String) : String :=
  baseUrl ++ "/v1/reviewSubmissions?filter[app]=" ++ appId ++ "&filter[state]=READY_FOR_REVIEW" ++
    platform.elim "" fun name => "&filter[platform]=" ++ name

def activeUrl (baseUrl appId : String) : String :=
  baseUrl ++ "/v1/reviewSubmissions?filter[app]=" ++ appId ++
    "&filter[state]=READY_FOR_REVIEW,WAITING_FOR_REVIEW,IN_REVIEW,UNRESOLVED_ISSUES"

@[simp] theorem submitting_method (baseUrl id : String) : (submitting baseUrl id).method = .patch := rfl
@[simp] theorem linking_method (baseUrl id versionId : String) : (linking baseUrl id versionId).method = .post := rfl
@[simp] theorem creating_method (baseUrl appId : String) (platform : Option String) :
    (creating baseUrl appId platform).method = .post := rfl

end ReviewRequest

variable {S : Type} (client : AppStoreClient)

theorem create_spelled (appId : String) (platform : Option String) :
    Request.post client.reviewSubmissionsUrl (AppStoreClient.createSubmissionBody appId platform) =
      ReviewRequest.creating client.baseUrl appId platform := by
  cases platform <;> rfl

theorem ready_drafts_spelled (appId : String) (platform : Option String) :
    client.readyDraftsUrl appId platform = ReviewRequest.draftsUrl client.baseUrl appId platform := by
  cases platform with
  | none => exact String.append_empty.symm
  | some name => rfl

def SentToReview (state : Option String) : Prop :=
  state = some "WAITING_FOR_REVIEW" ∨ state = some "IN_REVIEW" ∨ state = some "UNRESOLVED_ISSUES"

def ReadyForReview (state : Option String) : Prop := state = some "READY_FOR_REVIEW"

def notRemovableError : StackError := .submissionNotRemovable emptyDraftNotRemovableMessage

theorem discard_reported_sent (fuel : Nat) (id : String) (state : Option String) (sent : SentToReview state) :
    client.discardReported fuel id state = client.cancelPatch id := by
  rcases sent with rfl | rfl | rfl <;> rfl

theorem discard_reported_ready (fuel : Nat) (id : String) (state : Option String) (ready : ReadyForReview state) :
    client.discardReported fuel id state = client.discardReadyForReviewSubmission fuel id := by
  rw [ready]
  rfl

theorem discard_reported_other (fuel : Nat) (id : String) (state : Option String) (notSent : ¬ SentToReview state)
    (notReady : ¬ ReadyForReview state) : client.discardReported fuel id state = .done (.ok ()) := by
  unfold AppStoreClient.discardReported
  split
  · exact absurd (.inl rfl) notSent
  · exact absurd (.inr (.inl rfl)) notSent
  · exact absurd (.inr (.inr rfl)) notSent
  · exact absurd rfl notReady
  · rfl

theorem cancel_round_sent (fuel : Nat) (notRemovable : Option StackError) (submission : ReviewSubmissionResource)
    (sent : SentToReview submission.attributes.state) :
    client.cancelRound fuel notRemovable submission =
      client.cancelPatch submission.id >>= fun _ => .done (.ok notRemovable) := by
  rw [AppStoreClient.cancelRound]
  rcases sent with same | same | same <;> rw [same] <;> rfl

theorem cancel_round_ready (fuel : Nat) (notRemovable : Option StackError) (submission : ReviewSubmissionResource)
    (ready : ReadyForReview submission.attributes.state) :
    client.cancelRound fuel notRemovable submission =
      Prog.attempt (client.discardReadyForReviewSubmission fuel submission.id) >>= fun
        | .ok () => .done (.ok notRemovable)
        | .error (.submissionNotRemovable message) =>
            .done (.ok (notRemovable.or (some (.submissionNotRemovable message))))
        | .error other => .done (.error other) := by
  rw [AppStoreClient.cancelRound]
  rw [ready]
  rfl

theorem cancel_round_other (fuel : Nat) (notRemovable : Option StackError) (submission : ReviewSubmissionResource)
    (notSent : ¬ SentToReview submission.attributes.state) (notReady : ¬ ReadyForReview submission.attributes.state) :
    client.cancelRound fuel notRemovable submission = .done (.ok notRemovable) := by
  rw [AppStoreClient.cancelRound]
  split
  · exact absurd (.inl ‹_›) notSent
  · exact absurd (.inr (.inl ‹_›)) notSent
  · exact absurd (.inr (.inr ‹_›)) notSent
  · exact absurd ‹_› notReady
  · rfl

-- On a page holding one submission the bulk loop is the single discard: the
-- remembered error comes back after the loop, every other one at once.
theorem cancel_listed_single (fuel : Nat) (submission : ReviewSubmissionResource) :
    client.cancelListed fuel [submission] =
      client.discardReported fuel submission.id submission.attributes.state := by
  rw [AppStoreClient.cancelListed]
  rw [List.foldlM_cons]
  simp only [List.foldlM_nil, Prog.pure_eq, Prog.bind_pure_right]
  by_cases sent : SentToReview submission.attributes.state
  · rw [cancel_round_sent client fuel none submission sent, discard_reported_sent client fuel _ _ sent,
      Prog.bind_assoc]
    exact Prog.bind_pure_right _
  · by_cases ready : ReadyForReview submission.attributes.state
    · rw [cancel_round_ready client fuel none submission ready, discard_reported_ready client fuel _ _ ready,
        Prog.bind_assoc]
      have passed := Prog.attempt_rethrow (client.discardReadyForReviewSubmission fuel submission.id)
        (fun value => .done (.ok value)) (fun failure => .done (.error failure)) (fun _ => rfl)
      rw [Prog.bind_pure_right] at passed
      refine Eq.trans ?_ passed
      congr 1
      funext result
      rcases result with error | value
      · cases error <;> rfl
      · rfl
    · rw [cancel_round_other client fuel none submission sent ready,
        discard_reported_other client fuel _ _ sent ready]
      rfl

end StackConnect
