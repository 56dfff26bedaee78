import StackConnect.AppStore.ReviewSubmissions

set_option autoImplicit false

namespace StackConnect

open Interaction Serde

structure AppStoreVersionResourceAttributes where
  platform : Option String
  appStoreState : Option String
  appVersionState : Option String
  versionString : Option String
  copyright : Option String
  releaseType : Option String
  createdDate : Option String

def AppStoreVersionResourceAttributes.decode : Decoder AppStoreVersionResourceAttributes := struct do
  let platform ← optional "platform" string
  let appStoreState ← optional "appStoreState" string
  let appVersionState ← optional "appVersionState" string
  let versionString ← optional "versionString" string
  let copyright ← optional "copyright" string
  let releaseType ← optional "releaseType" string
  let createdDate ← optional "createdDate" string
  pure ⟨platform, appStoreState, appVersionState, versionString, copyright, releaseType, createdDate⟩

abbrev AppStoreVersionResource := Resource AppStoreVersionResourceAttributes

def AppStoreVersionResource.decode : Decoder AppStoreVersionResource :=
  Resource.decode AppStoreVersionResourceAttributes.decode ⟨none, none, none, none, none, none, none⟩

structure AppStoreVersionsResponse where
  data : List AppStoreVersionResource

def AppStoreVersionsResponse.decode : Decoder AppStoreVersionsResponse := struct do
  let data ← defaulted "data" (vec AppStoreVersionResource.decode) []
  pure ⟨data⟩

structure AppStoreVersionInfo where
  id : String
  appId : String
  platform : Option String
  appStoreState : Option String
  appVersionState : Option String
  versionString : Option String
  copyright : Option String
  releaseType : Option String
  createdDate : Option String
deriving DecidableEq

def intoVersionInfo (appId : String) (resource : AppStoreVersionResource) : AppStoreVersionInfo where
  id := resource.id
  appId := appId
  platform := resource.attributes.platform
  appStoreState := resource.attributes.appStoreState
  appVersionState := resource.attributes.appVersionState
  versionString := resource.attributes.versionString
  copyright := resource.attributes.copyright
  releaseType := resource.attributes.releaseType
  createdDate := resource.attributes.createdDate

structure PhasedReleaseResourceAttributes where
  phasedReleaseState : Option String
  startDate : Option String
  totalPauseDuration : Option Int
  currentDayNumber : Option Int

def PhasedReleaseResourceAttributes.decode : Decoder PhasedReleaseResourceAttributes := struct do
  let phasedReleaseState ← optional "phasedReleaseState" string
  let startDate ← optional "startDate" string
  let totalPauseDuration ← optional "totalPauseDuration" i32
  let currentDayNumber ← optional "currentDayNumber" i32
  pure ⟨phasedReleaseState, startDate, totalPauseDuration, currentDayNumber⟩

abbrev PhasedReleaseResource := Resource PhasedReleaseResourceAttributes

def PhasedReleaseResource.decode : Decoder PhasedReleaseResource :=
  Resource.decode PhasedReleaseResourceAttributes.decode ⟨none, none, none, none⟩

abbrev PhasedReleaseDocument := OptionalDocument PhasedReleaseResource

structure PhasedReleaseInfo where
  id : String
  state : Option String
  startDate : Option String
  totalPauseDuration : Option Int
  currentDayNumber : Option Int
deriving DecidableEq

def intoPhasedReleaseInfo (resource : PhasedReleaseResource) : PhasedReleaseInfo where
  id := resource.id
  state := resource.attributes.phasedReleaseState
  startDate := resource.attributes.startDate
  totalPauseDuration := resource.attributes.totalPauseDuration
  currentDayNumber := resource.attributes.currentDayNumber

namespace AppStoreClient

variable (client : AppStoreClient)

def appStoreVersionsUrl : String := client.baseUrl ++ "/v1/appStoreVersions"
def appStoreVersionUrl (id : String) : String := client.baseUrl ++ "/v1/appStoreVersions/" ++ id

-- A single page: `links.next` is not followed.
def fetchVersions (appId : String) (limit : Nat) : Async (List AppStoreVersionInfo) := do
  let body ← getPage (client.baseUrl ++ "/v1/apps/" ++ appId ++ "/appStoreVersions?limit=" ++ toString limit)
  let page ← .ofExcept (client.parse "AppStoreVersionsResponse" "app store versions response"
    AppStoreVersionsResponse.decode body)
  pure (page.data.map (intoVersionInfo appId))

def createVersion (appId platform versionString : String) : Async AppStoreVersionInfo := do
  let resource ← client.exchangeDocument
    (.post client.appStoreVersionsUrl (createBody "appStoreVersions"
      [("platform", .str platform), ("versionString", .str versionString), ("releaseType", .str "MANUAL")]
      [("app", linkTo "apps" appId)]))
    "AppStoreVersionDocument" "app store version response" AppStoreVersionResource.decode
  pure (intoVersionInfo appId resource)

def updateVersion (id : String) (versionString copyright releaseType earliestReleaseDate : Option String) : Async Unit :=
  exchangeNoContent (.patch (client.appStoreVersionUrl id) (updateBody "appStoreVersions" id
    (insertSome "versionString" .str versionString ++ insertSome "copyright" .str copyright ++
      insertSome "releaseType" .str releaseType ++ insertSome "earliestReleaseDate" .str earliestReleaseDate)))

def deleteVersion (id : String) : Async Unit := deleteNoContent (client.appStoreVersionUrl id)

def cancelFirstSubmission (getUrl : String) : Async Unit := do
  let body ← getPage getUrl
  let page ← .ofExcept (client.parseReviewSubmissions body)
  match page.data with
  | [] => pure ()
  | submission :: _ => client.cancelPatch submission.id

def cancelReview (appId : String) : Async Unit :=
  client.cancelFirstSubmission (client.baseUrl ++
    "/v1/reviewSubmissions?filter[state]=WAITING_FOR_REVIEW,IN_REVIEW&filter[app]=" ++ appId)

def releaseVersion (versionId : String) : Async Unit := do
  let _ ← postJson2xx (client.baseUrl ++ "/v1/appStoreVersionReleaseRequests")
    (relationshipsBody "appStoreVersionReleaseRequests" [("appStoreVersion", linkTo "appStoreVersions" versionId)])
  pure ()

def submitReviewSubmission (submissionId : String) : Async Unit := do
  let token ← bearerToken
  patchNoContent (client.reviewSubmissionUrl submissionId) token
    (updateBody "reviewSubmissions" submissionId [("submitted", .bool true)])

-- A version without a submission, or a 404, leaves nothing to reject.
def rejectVersion (versionId : String) : Async Unit := do
  let (status, body) ← authorized (.get (client.appStoreVersionUrl versionId ++ "/appStoreVersionSubmission"))
  if status = 404 then pure ()
  else
    let body ← Prog.ofExcept (accepted (status, body))
    let document ← .ofExcept (client.parse "AppStoreVersionSubmissionDocument" "version submission response"
      (OptionalDocument.decode ResourceIdentifier.decode) body)
    match document.data with
    | none => pure ()
    | some submission => deleteNoContent (client.baseUrl ++ "/v1/appStoreVersionSubmissions/" ++ submission.id)

def phasedReleasesUrl : String := client.baseUrl ++ "/v1/appStoreVersionPhasedReleases"
def phasedReleaseUrl (id : String) : String := client.baseUrl ++ "/v1/appStoreVersionPhasedReleases/" ++ id

def parsePhasedRelease (body : String) : Except StackError PhasedReleaseDocument :=
  client.parse "PhasedReleaseDocument" "phased release response" (OptionalDocument.decode PhasedReleaseResource.decode) body

def fetchPhasedRelease (versionId : String) : Async (Option PhasedReleaseInfo) := do
  let (status, body) ← authorized (.get (client.appStoreVersionUrl versionId ++ "/appStoreVersionPhasedRelease"))
  if status = 404 then pure none
  else
    let body ← Prog.ofExcept (accepted (status, body))
    let document ← .ofExcept (client.parsePhasedRelease body)
    pure (document.data.map intoPhasedReleaseInfo)

def phasedReleaseOf (request : Request) : Async PhasedReleaseInfo := do
  let body ← exchange request
  let document ← .ofExcept (client.parsePhasedRelease body)
  match document.data with
  | some resource => pure (intoPhasedReleaseInfo resource)
  | none => .fail (.decode "phased release response: missing data")

def createPhasedRelease (versionId state : String) : Async PhasedReleaseInfo :=
  client.phasedReleaseOf (.post client.phasedReleasesUrl (createBody "appStoreVersionPhasedReleases"
    [("phasedReleaseState", .str state)] [("appStoreVersion", linkTo "appStoreVersions" versionId)]))

def updatePhasedReleaseState (id state : String) : Async PhasedReleaseInfo :=
  client.phasedReleaseOf (.patch (client.phasedReleaseUrl id)
    (updateBody "appStoreVersionPhasedReleases" id [("phasedReleaseState", .str state)]))

def deletePhasedRelease (id : String) : Async Unit := deleteNoContent (client.phasedReleaseUrl id)

end AppStoreClient

end StackConnect
