import StackConnect.AppStore.JsonApi

set_option autoImplicit false

namespace StackConnect

open Interaction Serde Rust

structure ReviewSubmissionAttributes where
  platform : Option String
  submittedDate : Option String
  state : Option String

def ReviewSubmissionAttributes.decode : Decoder ReviewSubmissionAttributes := struct do
  let platform ← optional "platform" string
  let submittedDate ← optional "submittedDate" string
  let state ← optional "state" string
  pure ⟨platform, submittedDate, state⟩

structure ReviewSubmissionRelationships where
  appStoreVersionForReview : ToOneRelationship
  submittedByActor : ToOneRelationship

def ReviewSubmissionRelationships.decode : Decoder ReviewSubmissionRelationships := struct do
  let appStoreVersionForReview ← toOne "appStoreVersionForReview"
  let submittedByActor ← toOne "submittedByActor"
  pure ⟨appStoreVersionForReview, submittedByActor⟩

abbrev ReviewSubmissionResource := LinkedResource ReviewSubmissionAttributes ReviewSubmissionRelationships

def ReviewSubmissionResource.decode : Decoder ReviewSubmissionResource :=
  LinkedResource.decode ReviewSubmissionAttributes.decode ⟨none, none, none⟩
    ReviewSubmissionRelationships.decode ⟨⟨none⟩, ⟨none⟩⟩

structure AppStoreVersionAttributes where
  versionString : Option String

def AppStoreVersionAttributes.decode : Decoder AppStoreVersionAttributes := struct do
  let versionString ← optional "versionString" string
  pure ⟨versionString⟩

structure ActorAttributes where
  userFirstName : Option String
  userLastName : Option String
  userEmail : Option String
  apiKeyId : Option String
  actorType : Option String

def ActorAttributes.decode : Decoder ActorAttributes := struct do
  let userFirstName ← optional "userFirstName" string
  let userLastName ← optional "userLastName" string
  let userEmail ← optional "userEmail" string
  let apiKeyId ← optional "apiKeyId" string
  let actorType ← optional "actorType" string
  pure ⟨userFirstName, userLastName, userEmail, apiKeyId, actorType⟩

inductive IncludedResource where
  | appStoreVersions (resource : Resource AppStoreVersionAttributes)
  | actors (resource : Resource ActorAttributes)
  | other

def IncludedResource.decode : Decoder IncludedResource :=
  tagged "type" (fun
    | "appStoreVersions" => some fun content =>
        (Resource.decode AppStoreVersionAttributes.decode ⟨none⟩ content).map .appStoreVersions
    | "actors" => some fun content =>
        (Resource.decode ActorAttributes.decode ⟨none, none, none, none, none⟩ content).map .actors
    | _ => none) (some .other)

abbrev ReviewSubmissionsResponse := IncludedPage ReviewSubmissionResource IncludedResource

def ReviewSubmissionsResponse.decode : Decoder ReviewSubmissionsResponse :=
  IncludedPage.decode ReviewSubmissionResource.decode IncludedResource.decode

abbrev ReviewSubmissionDocument := Document ReviewSubmissionResource

def ReviewSubmissionDocument.decode : Decoder ReviewSubmissionDocument :=
  Document.decode ReviewSubmissionResource.decode

abbrev ReviewSubmissionItemsResponse := Page ResourceIdentifier

def ReviewSubmissionItemsResponse.decode : Decoder ReviewSubmissionItemsResponse :=
  Page.decode ResourceIdentifier.decode

abbrev ReviewSubmissionCreateDocument := Document ResourceIdentifier

def ReviewSubmissionCreateDocument.decode : Decoder ReviewSubmissionCreateDocument :=
  Document.decode ResourceIdentifier.decode

-- "first last" when both parts are there, else the API key, else Apple.
def ActorAttributes.displayName (actor : ActorAttributes) : Option String :=
  match actor.userFirstName, actor.userLastName with
  | some first, some last => some (first ++ " " ++ last)
  | _, _ =>
      match actor.apiKeyId with
      | some apiKeyId => some ("API Key (" ++ apiKeyId ++ ")")
      | none => if actor.actorType = some "APPLE" then some "Apple" else none

structure ReviewSubmission where
  id : String
  appId : String
  platform : Option String
  submittedDate : Option String
  state : Option String
  versionString : Option String
  versionId : Option String
  submittedByName : Option String
  submittedByEmail : Option String
deriving DecidableEq

def intoReviewSubmission (appId : String) (versions : HashMap String (Option String))
    (actors : HashMap String ActorAttributes) (resource : ReviewSubmissionResource) : ReviewSubmission :=
  let versionId := resource.relationships.appStoreVersionForReview.data.map ResourceIdentifier.id
  let actor := resource.relationships.submittedByActor.data.bind fun related => actors.get related.id
  { id := resource.id
    appId := appId
    platform := resource.attributes.platform
    submittedDate := resource.attributes.submittedDate
    state := resource.attributes.state
    versionString := (versionId.bind versions.get).join
    versionId := versionId
    submittedByName := actor.bind ActorAttributes.displayName
    submittedByEmail := actor.bind ActorAttributes.userEmail }

def includedVersions (included : List IncludedResource) : HashMap String (Option String) :=
  HashMap.collect (included.filterMap fun
    | .appStoreVersions resource => some (resource.id, resource.attributes.versionString)
    | _ => none)

def includedActors (included : List IncludedResource) : HashMap String ActorAttributes :=
  HashMap.collect (included.filterMap fun
    | .actors resource => some (resource.id, resource.attributes)
    | _ => none)

def emptyDraftNotRemovableMessage : String :=
  "This review submission has no items and can't be removed through the App " ++
    "Store Connect API. Remove it from the App Store Connect website."

namespace AppStoreClient

variable (client : AppStoreClient)

def reviewSubmissionsUrl : String := client.baseUrl ++ "/v1/reviewSubmissions"
def reviewSubmissionUrl (id : String) : String := client.baseUrl ++ "/v1/reviewSubmissions/" ++ id
def submissionItemsUrl (id : String) : String := client.baseUrl ++ "/v1/reviewSubmissions/" ++ id ++ "/items"
def reviewSubmissionItemsUrl : String := client.baseUrl ++ "/v1/reviewSubmissionItems"
def reviewSubmissionItemUrl (id : String) : String := client.baseUrl ++ "/v1/reviewSubmissionItems/" ++ id

def reviewSubmissionsListing (appId : String) : Listing ReviewSubmission :=
  .including (client.baseUrl ++ "/v1/reviewSubmissions?filter[app]=" ++ appId ++
      "&include=appStoreVersionForReview,submittedByActor&limit=50")
    "ReviewSubmissionsResponse" "review submissions response" ReviewSubmissionResource.decode IncludedResource.decode
    fun included => intoReviewSubmission appId (includedVersions included) (includedActors included)

def fetchReviewSubmissions (fuel : Nat) (appId : String) : Async (List ReviewSubmission) :=
  client.collect fuel (client.reviewSubmissionsListing appId) []

def readyDraftsUrl (appId : String) (platform : Option String) : String :=
  let url := client.baseUrl ++ "/v1/reviewSubmissions?filter[app]=" ++ appId ++ "&filter[state]=READY_FOR_REVIEW"
  match platform with
  | some platform => url ++ ("&filter[platform]=" ++ platform)
  | none => url

def activeSubmissionsUrl (appId : String) : String :=
  client.baseUrl ++ "/v1/reviewSubmissions?filter[app]=" ++ appId ++
    "&filter[state]=READY_FOR_REVIEW,WAITING_FOR_REVIEW,IN_REVIEW,UNRESOLVED_ISSUES"

def parseReviewSubmissions (body : String) : Except StackError ReviewSubmissionsResponse :=
  client.parse "ReviewSubmissionsResponse" "review submissions response" ReviewSubmissionsResponse.decode body

def parseReviewSubmission (body : String) : Except StackError ReviewSubmissionDocument :=
  client.parse "ReviewSubmissionDocument" "review submission response" ReviewSubmissionDocument.decode body

def parseSubmissionItems (body : String) : Except StackError ReviewSubmissionItemsResponse :=
  client.parse "ReviewSubmissionItemsResponse" "review submission items response"
    ReviewSubmissionItemsResponse.decode body

def parseCreatedSubmission (body : String) : Except StackError ReviewSubmissionCreateDocument :=
  client.parse "ReviewSubmissionCreateDocument" "review submission response"
    ReviewSubmissionCreateDocument.decode body

def submissionItemBody (submissionId versionId : String) : Json :=
  .obj [("data", .obj
    [("type", .str "reviewSubmissionItems"),
     ("relationships", .obj
       [("reviewSubmission", linkTo "reviewSubmissions" submissionId),
        ("appStoreVersion", linkTo "appStoreVersions" versionId)])])]

def submissionFlagBody (id flag : String) : Json :=
  .obj [("data", .obj
    [("type", .str "reviewSubmissions"), ("id", .str id), ("attributes", .obj [(flag, .bool true)])])]

def createSubmissionBody (appId : String) (platform : Option String) : Json :=
  .obj [("data", .obj
    ([("type", .str "reviewSubmissions")] ++
     insertSome "attributes" (fun platform => .obj [("platform", .str platform)]) platform ++
     [("relationships", .obj [("app", linkTo "apps" appId)])]))]

def fetchSubmissionItemsPage (url : String) : Async ReviewSubmissionItemsResponse := do
  let body ← getPage url
  .ofExcept (client.parseSubmissionItems body)

def submissionIsEmpty (submissionId : String) : Async Bool := do
  let page ← client.fetchSubmissionItemsPage (client.submissionItemsUrl submissionId)
  pure page.data.isEmpty

-- The `for` loop of find_reusable_empty_draft.
def firstEmptyDraft : List ReviewSubmissionResource → Async (Option String)
  | [] => pure none
  | submission :: rest => do
      let empty ← client.submissionIsEmpty submission.id
      if empty then pure (some submission.id) else firstEmptyDraft rest

def findReusableEmptyDraft (appId : String) (platform : Option String) : Async (Option String) := do
  let body ← getPage (client.readyDraftsUrl appId platform)
  let page ← .ofExcept (client.parseReviewSubmissions body)
  client.firstEmptyDraft page.data

def attachAndSubmit (submissionId versionId : String) : Async Unit := do
  let _ ← postJson2xx client.reviewSubmissionItemsUrl (submissionItemBody submissionId versionId)
  let token ← bearerToken
  patchNoContent (client.reviewSubmissionUrl submissionId) token (submissionFlagBody submissionId "submitted")

-- The plain create flow: step 2 and 3 of submit_for_review.
def createAndSubmit (appId versionId : String) (platform : Option String) : Async Unit := do
  let responseBody ← postJson2xx client.reviewSubmissionsUrl (createSubmissionBody appId platform)
  let document ← .ofExcept (client.parseCreatedSubmission responseBody)
  client.attachAndSubmit document.data.id versionId

def submitForReview (appId versionId : String) (platform : Option String) : Async Unit := do
  match ← client.findReusableEmptyDraft appId platform with
  | some submissionId =>
      match ← Prog.attempt (client.attachAndSubmit submissionId versionId) with
      | .ok () => pure ()
      | .error _ => client.createAndSubmit appId versionId platform
  | none => client.createAndSubmit appId versionId platform

def cancelPatch (id : String) : Async Unit := do
  let token ← bearerToken
  patchNoContent (client.reviewSubmissionUrl id) token (submissionFlagBody id "canceled")

def deleteReviewSubmissionItem (itemId : String) : Async Unit :=
  deleteNoContent (client.reviewSubmissionItemUrl itemId)

-- One round of the loop below; it follows `links.next` as it is, an empty string included.
def deleteItemsPage (_ : Unit) (url : String) : Async (Unit × Option String) := do
  let page ← client.fetchSubmissionItemsPage url
  page.data.forM fun item => client.deleteReviewSubmissionItem item.id
  pure ((), page.links.next)

def deleteSubmissionItems (fuel : Nat) (id : String) : Async Unit :=
  whileSome client.deleteItemsPage fuel () (some (client.submissionItemsUrl id ++ "?include=appStoreVersion"))

-- A 404 is an answer here: the submission is gone.
def getReviewSubmissionState (submissionId : String) : Async (Option (Option String)) := do
  let (status, body) ← authorized (.get (client.reviewSubmissionUrl submissionId))
  if status = 404 then pure none
  else
    let body ← Prog.ofExcept (accepted (status, body))
    let document ← .ofExcept (client.parseReviewSubmission body)
    pure (some document.data.attributes.state)

def discardReadyForReviewSubmission (fuel : Nat) (submissionId : String) : Async Unit := do
  client.deleteSubmissionItems fuel submissionId
  match ← client.getReviewSubmissionState submissionId with
  | none => pure ()
  | some (some "READY_FOR_REVIEW") => .fail (.submissionNotRemovable emptyDraftNotRemovableMessage)
  | some _ => pure ()

-- One round of the loop of cancel_submission; the first unremovable draft is remembered.
def cancelRound (fuel : Nat) (notRemovable : Option StackError) (submission : ReviewSubmissionResource) :
    Async (Option StackError) :=
  match submission.attributes.state with
  | some "WAITING_FOR_REVIEW" | some "IN_REVIEW" | some "UNRESOLVED_ISSUES" => do
      client.cancelPatch submission.id
      pure notRemovable
  | some "READY_FOR_REVIEW" => do
      match ← Prog.attempt (client.discardReadyForReviewSubmission fuel submission.id) with
      | .ok () => pure notRemovable
      | .error (.submissionNotRemovable message) => pure (notRemovable.or (some (.submissionNotRemovable message)))
      | .error other => .fail other
  | _ => pure notRemovable

def cancelListed (fuel : Nat) (submissions : List ReviewSubmissionResource) : Async Unit := do
  let notRemovable ← submissions.foldlM (client.cancelRound fuel) none
  match notRemovable with
  | some error => .fail error
  | none => pure ()

def cancelSubmission (fuel : Nat) (appId : String) : Async Unit := do
  let body ← getPage (client.activeSubmissionsUrl appId)
  let page ← .ofExcept (client.parseReviewSubmissions body)
  client.cancelListed fuel page.data

def discardReported (fuel : Nat) (submissionId : String) : Option String → Async Unit
  | some "WAITING_FOR_REVIEW" | some "IN_REVIEW" | some "UNRESOLVED_ISSUES" => client.cancelPatch submissionId
  | some "READY_FOR_REVIEW" => client.discardReadyForReviewSubmission fuel submissionId
  | _ => pure ()

def discardReviewSubmission (fuel : Nat) (submissionId : String) : Async Unit := do
  let (status, body) ← authorized (.get (client.reviewSubmissionUrl submissionId))
  if status = 404 then pure ()
  else
    let body ← Prog.ofExcept (accepted (status, body))
    let document ← .ofExcept (client.parseReviewSubmission body)
    client.discardReported fuel submissionId document.data.attributes.state

end AppStoreClient

end StackConnect
