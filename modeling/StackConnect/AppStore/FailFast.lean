import StackConnect.AppStore.CancelSubmission
import StackConnect.AppStore.Conduct
import StackConnect.AppStore.Operations

set_option autoImplicit false

namespace StackConnect

open Interaction Rust Serde

variable {α ρ : Type} (client : AppStoreClient) (fuel : Nat)

def AppOperation.reads : AppOperation → Bool
  | validate | fetchApps | fetchAppInfo _ | fetchAppCategories | fetchIconUrl _ => true
  | _ => false

def ReviewOperation.reads : ReviewOperation → Bool
  | fetchCustomerReviews _ | fetchCustomerReviewsPage .. => true
  | _ => false

def SubmissionOperation.reads : SubmissionOperation → Bool
  | fetchReviewSubmissions _ => true
  | _ => false

def VersionOperation.reads : VersionOperation → Bool
  | fetchVersions .. | fetchPhasedRelease _ => true
  | _ => false

def BuildOperation.reads : BuildOperation → Bool
  | fetchBuilds .. | fetchBuildsPage .. | fetchBuildsForGroup .. | fetchBuildDetail _ | fetchCurrentBuild _ => true
  | _ => false

def TestFlightOperation.reads : TestFlightOperation → Bool
  | fetchBetaGroups .. | fetchBetaTesters .. | fetchTesterCount _ | fetchBetaAppReviewDetail _ | fetchAppReviewDetail _ => true
  | _ => false

def LocalizationOperation.reads : LocalizationOperation → Bool
  | fetchBetaBuildLocalizations .. | fetchBetaAppLocalizations .. | fetchAppInfoLocalizations _ | fetchLocalizations _
  | fetchAccessibilityDeclarations .. => true
  | _ => false

def ScreenshotOperation.reads : ScreenshotOperation → Bool
  | fetchScreenshotSets _ => true
  | _ => false

def UserOperation.reads : UserOperation → Bool
  | fetchTeamMembers | fetchUsers | fetchUserVisibleApps _ => true
  | _ => false

def ProvisioningOperation.reads : ProvisioningOperation → Bool
  | fetchDevices | fetchBundleIds | fetchBundleIdCapabilities _ | fetchCertificates | fetchCertificateContent _
  | fetchProfiles | fetchProfileContent _ => true
  | _ => false

def AnalyticsOperation.reads : AnalyticsOperation → Bool
  | createAnalyticsReportRequest .. => false
  | _ => true

def Operation.reads : Operation → Bool
  | app operation => operation.reads
  | review operation => operation.reads
  | submission operation => operation.reads
  | version operation => operation.reads
  | build operation => operation.reads
  | testFlight operation => operation.reads
  | localization operation => operation.reads
  | screenshot operation => operation.reads
  | user operation => operation.reads
  | provisioning operation => operation.reads
  | analytics operation => operation.reads

def Operation.may (operation : Operation) (request : Request) : Prop := operation.reads = true → request.method = .get

def stateUrls (ids : List String) (url : String) : Bool := ids.any fun id => client.baseUrl ++ "/v1/reviewSubmissions/" ++ id == url

-- Discarding may find a submission gone, and says so when a draft cannot be
-- removed. A page of items that a link puts at the URL of a state is no answer
-- when it is missing, and ends the run.
def discarding (may : Request → Prop) (ids : List String) : Manner :=
  { Manner.plain may with
    lenient := stateUrls client ids
    objection := fun event failure => ∃ request body, event = ⟨.send request, .ok (404, body)⟩ ∧ request.method = .get ∧
      stateUrls client ids request.url = true ∧ failure = .http 404 body
    own := fun failure => failure.isDecode = true ∨ failure = notRemovableError }

def listedIds : Trace → List String
  | ⟨.bearerToken, .ok _⟩ :: ⟨.send _, .ok response⟩ :: _ =>
      match accepted response >>= client.parseReviewSubmissions with
      | .ok page => page.data.map LinkedResource.id
      | .error _ => []
  | _ => []

def uploading (may : Request → Prop) : Manner :=
  { Manner.plain may with
    own := fun failure => failure.isDecode = true ∨ ∃ message, failure = .network ("invalid upload method: " ++ message) }

def segmentRefusal (client : AppStoreClient) (maxBytes : Nat) (response : Streamed) : Option StackError :=
  if (response.contentLength.getD 0) > maxBytes then some (.unsupported segmentTooLargeMessage)
  else if isSuccess response.status then none
  else
    match response.broken with
    | some message => some (.network message)
    | none => some (statusError response.status (client.crates.bodyText response.chunks.flatten))

def downloading (client : AppStoreClient) (may : Request → Prop) (maxBytes : Nat) : Manner :=
  { Manner.plain may with
    streamed := segmentRefusal client maxBytes
    objection := fun event failure =>
      ∃ request response, event = ⟨.stream request, .ok response⟩ ∧ client.readSegment maxBytes response = .error failure
    own := fun _ => False }

-- Most operations forgive nothing and fail on their own only in decoding.
def Operation.manner (trace : Trace) (operation : Operation) : Manner :=
  match operation with
  | app .validate => { Manner.plain operation.may with refusal := mapErrorResponse, own := fun _ => False }
  | app (.fetchAppInfo appId) =>
      { Manner.plain operation.may with
        own := fun failure => failure.isDecode = true ∨ failure = .http 404 ("no app info found for app " ++ appId) }
  | submission (.cancelSubmission _) => discarding client operation.may (listedIds client trace)
  | submission (.discardReviewSubmission submissionId) => discarding client operation.may [submissionId]
  | submission (.rejectVersion versionId) =>
      { Manner.plain operation.may with
        lenient := fun url => url == client.appStoreVersionUrl versionId ++ "/appStoreVersionSubmission" }
  | version (.fetchPhasedRelease versionId) =>
      { Manner.plain operation.may with
        lenient := fun url => url == client.appStoreVersionUrl versionId ++ "/appStoreVersionPhasedRelease" }
  | build (.fetchCurrentBuild versionId) =>
      { Manner.plain operation.may with
        lenient := fun url => url == client.baseUrl ++ "/v1/appStoreVersions/" ++ versionId ++ "/build" }
  | testFlight (.fetchAppReviewDetail versionId) =>
      { Manner.plain operation.may with
        lenient := fun url => url == client.baseUrl ++ "/v1/appStoreVersions/" ++ versionId ++ "/appStoreReviewDetail" }
  | screenshot (.uploadScreenshot _ _ _ _) => uploading operation.may
  | analytics (.downloadAnalyticsSegment _ maxBytes) => downloading client operation.may maxBytes
  | _ => .plain operation.may

section Shapes

variable {client} {manner : Manner}

theorem conducted_document (usual : manner.Usual) (request : Request) (type label : String) (resource : Decoder ρ)
    (wanted : manner.may request) (api : ∀ data, request.body ≠ .bytes data)
    (strict : Strict manner request) :
    Conducted manner (client.exchangeDocument request type label resource) :=
  conducted_bind (conducted_exchange usual request wanted api strict) fun body =>
    conducted_parsed client usual type label _ body _ fun _ => conducted_value _

theorem conducted_list_pages (usual : manner.Usual) (type label : String) (decoder : Decoder ρ) (rows : ρ → List α)
    (links : ρ → Links) (collected : List α) (first : String) (wanted : ∀ url, manner.may (.get url))
    (strict : ∀ url, Strict manner (.get url)) :
    Conducted manner (client.listPages fuel type label decoder rows links collected first) := by
  apply conducted_rounds
  intro kept url
  exact conducted_bind (conducted_get_page usual url (wanted url) (strict url)) fun body =>
    conducted_parsed client usual type label decoder body _ fun _ => conducted_value _

theorem conducted_fetch_page (usual : manner.Usual) (listing : Listing α) (wanted : ∀ url, manner.may (.get url))
    (strict : ∀ url, Strict manner (.get url)) :
    Conducted manner (client.fetchPage listing) :=
  conducted_bind (conducted_get_page usual _ (wanted _) (strict _)) fun body =>
    conducted_parsed client usual _ _ _ body _ fun _ => conducted_value _

end Shapes

section Plain

variable {client} {may : Request → Prop}

theorem plain_strict (request : Request) : Strict (.plain may) request := nofun

theorem plain_listing (type label : String) (decoder : Decoder ρ) (rows : ρ → List α) (links : ρ → Links) (collected : List α)
    (first : String) (wanted : ∀ url, may (.get url)) :
    Conducted (.plain may) (client.listPages fuel type label decoder rows links collected first) :=
  conducted_list_pages fuel (Manner.plain_usual may) type label decoder rows links collected first wanted
    fun _ => plain_strict _

theorem plain_page (listing : Listing α) (judge : List α × Option String → ρ) (wanted : ∀ url, may (.get url)) :
    Conducted (.plain may) (client.fetchPage listing >>= fun page => .done (.ok (judge page))) :=
  conducted_values judge (conducted_fetch_page (Manner.plain_usual may) listing wanted fun _ => plain_strict _)

theorem plain_answer (request : Request) (type label : String) (decoder : Decoder ρ) (next : ρ → Async α) (wanted : may request)
    (api : ∀ data, request.body ≠ .bytes data) (rest : ∀ value, Conducted (.plain may) (next value)) :
    Conducted (.plain may) (exchange request >>= fun body =>
      Prog.ofExcept (client.parse type label decoder body) >>= next) :=
  conducted_bind (conducted_exchange (Manner.plain_usual may) request wanted api (plain_strict _)) fun body =>
    conducted_parsed client (Manner.plain_usual may) type label decoder body next rest

theorem plain_read (url type label : String) (decoder : Decoder ρ) (next : ρ → Async α) (wanted : may (.get url))
    (rest : ∀ value, Conducted (.plain may) (next value)) :
    Conducted (.plain may) (getPage url >>= fun body => Prog.ofExcept (client.parse type label decoder body) >>= next) :=
  plain_answer (.get url) type label decoder next wanted nofun rest

theorem plain_document (request : Request) (type label : String) (resource : Decoder ρ) (next : ρ → Async α)
    (wanted : may request) (api : ∀ data, request.body ≠ .bytes data) (rest : ∀ value, Conducted (.plain may) (next value)) :
    Conducted (.plain may) (client.exchangeDocument request type label resource >>= next) :=
  conducted_bind (conducted_document (Manner.plain_usual may) request type label resource wanted api (plain_strict _)) rest

theorem plain_sent (request : Request) (wanted : may request) (api : ∀ data, request.body ≠ .bytes data) :
    Conducted (.plain may) (exchangeNoContent request) :=
  conducted_values _ (conducted_exchange (Manner.plain_usual may) request wanted api (plain_strict _))

theorem plain_posted (url : String) (body : Json) (wanted : may (.post url body)) :
    Conducted (.plain may) (postJson2xx url body >>= fun _ => .done (.ok ())) :=
  conducted_values _ (conducted_post_json (Manner.plain_usual may) url body wanted)

theorem plain_patch (url : String) (body : Json) (wanted : may (.patch url body)) :
    Conducted (.plain may) (bearerToken >>= fun token => patchNoContent url token body) :=
  conducted_patch (Manner.plain_usual may) url body wanted

theorem plain_delete (url : String) (wanted : may (.delete url)) : Conducted (.plain may) (deleteNoContent url) :=
  conducted_delete (Manner.plain_usual may) url wanted

theorem lenient_read {manner : Manner} (usual : manner.Usual) (url type label : String) (decoder : Decoder ρ) (absent : α)
    (next : ρ → Async α) (wanted : manner.may (.get url)) (lenient : manner.lenient url = true)
    (rest : ∀ value, Conducted manner (next value)) :
    Conducted manner (authorized (.get url) >>= fun (status, body) =>
      if status = 404 then .done (.ok absent)
      else Prog.ofExcept (accepted (status, body)) >>= fun body =>
        Prog.ofExcept (client.parse type label decoder body) >>= next) :=
  conducted_unless_missing usual url _ _ wanted lenient (conducted_value _) fun body =>
    conducted_parsed client usual type label decoder body next rest

end Plain

variable (trace : Trace)

theorem may_get (operation : Operation) (url : String) : operation.may (.get url) := fun _ => rfl

theorem app_conducted (operation : AppOperation) :
    Conducted ((Operation.app operation).manner client trace) (operation.run client fuel) := by
  cases operation with
  | validate =>
      apply conducted_authorized _ _ (fun _ => rfl)
      · intro token status body failure complains
        obtain ⟨refused, _, rfl⟩ := Manner.complaint_answered _ _ status body failure complains
        dsimp only
        rw [if_neg (by simp [refused])]
        rfl
      · intro token status body quiet
        rcases Manner.quiet_answered _ _ status body quiet with success | ⟨_, _, lenient⟩
        · dsimp only
          rw [if_pos success]
          exact conducted_value _
        · cases lenient
  | fetchApps => exact plain_listing fuel _ _ _ _ _ _ _ (may_get _)
  | fetchAppInfo appId =>
      have usual : ((Operation.app (.fetchAppInfo appId)).manner client trace).Usual := ⟨rfl, fun _ => .inl rfl⟩
      refine conducted_bind (conducted_get_page usual _ (may_get _ _) nofun) fun body => ?_
      refine conducted_parsed client usual _ _ _ body _ fun page => ?_
      cases page.data with
      | nil => exact conducted_fail _ (.inr rfl)
      | cons appInfo others =>
          exact conducted_bind (conducted_get_page usual _ (may_get _ _) nofun) fun body =>
            conducted_parsed client usual _ _ _ body _ fun _ => conducted_value _
  | fetchAppCategories => exact plain_listing fuel _ _ _ _ _ _ _ (may_get _)
  | updateAppInfoCategory appInfoId primaryCategoryId subcategoryOneId secondaryCategoryId secondarySubcategoryOneId =>
      exact plain_patch _ _ nofun
  | updateApp id contentRightsDeclaration primaryLocale => exact plain_patch _ _ nofun
  | updateAgeRating id answers => exact plain_patch _ _ nofun
  | fetchIconUrl appId => exact plain_read _ _ _ _ _ (may_get _ _) fun _ => conducted_value _

theorem review_conducted (operation : ReviewOperation) :
    Conducted ((Operation.review operation).manner client trace) (operation.run client fuel) := by
  cases operation with
  | fetchCustomerReviews appId => exact plain_listing fuel _ _ _ _ _ _ _ (may_get _)
  | fetchCustomerReviewsPage appId sort filterRating limit pageToken => exact plain_page _ _ (may_get _)
  | replyToReview reviewId body => exact plain_document _ _ _ _ _ nofun nofun fun _ => conducted_value _
  | deleteReviewResponse responseId => exact plain_delete _ nofun

theorem conducted_phased_release_of {may : Request → Prop} (request : Request) (wanted : may request)
    (api : ∀ data, request.body ≠ .bytes data) : Conducted (.plain may) (client.phasedReleaseOf request) := by
  refine conducted_bind (conducted_exchange (Manner.plain_usual may) request wanted api (plain_strict _)) fun body => ?_
  refine conducted_parsed client (Manner.plain_usual may) _ _ _ body _ fun document => ?_
  cases document.data with
  | some resource => exact conducted_value _
  | none => exact conducted_fail _ rfl

theorem version_conducted (operation : VersionOperation) :
    Conducted ((Operation.version operation).manner client trace) (operation.run client) := by
  cases operation with
  | fetchVersions appId limit => exact plain_read _ _ _ _ _ (may_get _ _) fun _ => conducted_value _
  | createVersion appId platform versionString => exact plain_document _ _ _ _ _ nofun nofun fun _ => conducted_value _
  | updateVersion id versionString copyright releaseType earliestReleaseDate => exact plain_sent _ nofun nofun
  | deleteVersion id => exact plain_delete _ nofun
  | fetchPhasedRelease versionId =>
      exact lenient_read ⟨rfl, fun _ => rfl⟩ _ _ _ _ _ _ (may_get _ _) (beq_self_eq_true _) fun _ => conducted_value _
  | createPhasedRelease versionId state => exact conducted_phased_release_of client _ nofun nofun
  | deletePhasedRelease id => exact plain_delete _ nofun
  | updatePhasedReleaseState id state => exact conducted_phased_release_of client _ nofun nofun

theorem build_conducted (operation : BuildOperation) :
    Conducted ((Operation.build operation).manner client trace) (operation.run client fuel) := by
  cases operation with
  | fetchBuilds appId limit => exact plain_listing fuel _ _ _ _ _ _ _ (may_get _)
  | fetchBuildsPage appId platform processingStates limit pageToken => exact plain_page _ _ (may_get _)
  | fetchBuildsForGroup groupId limit => exact plain_listing fuel _ _ _ _ _ _ _ (may_get _)
  | fetchBuildDetail buildId =>
      refine plain_read _ _ _ _ _ (may_get _ _) fun document => ?_
      cases document.data with
      | none => exact conducted_fail _ rfl
      | some resource => exact conducted_value _
  | fetchCurrentBuild versionId =>
      exact lenient_read ⟨rfl, fun _ => rfl⟩ _ _ _ _ _ _ (may_get _ _) (beq_self_eq_true _) fun _ => conducted_value _
  | expireBuild buildId => exact plain_sent _ nofun nofun
  | attachBuild versionId buildId => exact plain_sent _ nofun nofun
  | submitBuildForBetaReview buildId => exact plain_sent _ nofun nofun
  | addBuildToGroups buildId groupIds => exact plain_sent _ nofun nofun
  | removeBuildFromGroup buildId groupId => exact plain_sent _ nofun nofun

theorem test_flight_conducted (operation : TestFlightOperation) :
    Conducted ((Operation.testFlight operation).manner client trace) (operation.run client fuel) := by
  cases operation with
  | fetchBetaGroups appId limit => exact plain_listing fuel _ _ _ _ _ _ _ (may_get _)
  | createBetaGroup appId name isInternal publicLinkEnabled hasAccessToAllBuilds =>
      exact plain_answer _ _ _ _ _ nofun nofun fun _ => conducted_value _
  | updateBetaGroup groupId name publicLinkEnabled publicLinkLimit feedbackEnabled =>
      exact plain_answer _ _ _ _ _ nofun nofun fun _ => conducted_value _
  | deleteBetaGroup groupId => exact plain_delete _ nofun
  | fetchBetaTesters groupId limit => exact plain_listing fuel _ _ _ _ _ _ _ (may_get _)
  | addBetaTester groupId email firstName lastName =>
      exact plain_document _ _ _ _ _ nofun nofun fun _ => conducted_value _
  | removeBetaTester groupId testerId => exact plain_sent _ nofun nofun
  | fetchTesterCount groupId => exact plain_read _ _ _ _ _ (may_get _ _) fun _ => conducted_value _
  | resendInvite testerId appId => exact plain_sent _ nofun nofun
  | fetchBetaAppReviewDetail appId =>
      exact plain_document _ _ _ _ _ (may_get _ _) nofun fun _ => conducted_value _
  | updateBetaAppReviewDetail detailId patch => exact plain_document _ _ _ _ _ nofun nofun fun _ => conducted_value _
  | fetchAppReviewDetail versionId =>
      exact lenient_read ⟨rfl, fun _ => rfl⟩ _ _ _ _ _ _ (may_get _ _) (beq_self_eq_true _) fun _ => conducted_value _
  | updateAppReviewDetail detailId patch =>
      refine plain_answer _ _ _ _ _ nofun nofun fun document => ?_
      cases document.data with
      | none => exact conducted_fail _ rfl
      | some resource => exact conducted_value _

theorem localization_conducted (operation : LocalizationOperation) :
    Conducted ((Operation.localization operation).manner client trace) (operation.run client fuel) := by
  cases operation with
  | fetchBetaBuildLocalizations buildId limit => exact plain_listing fuel _ _ _ _ _ _ _ (may_get _)
  | createBetaBuildLocalization buildId locale whatsNew =>
      exact plain_document _ _ _ _ _ nofun nofun fun _ => conducted_value _
  | updateBetaBuildLocalization id whatsNew => exact plain_document _ _ _ _ _ nofun nofun fun _ => conducted_value _
  | fetchBetaAppLocalizations appId limit => exact plain_listing fuel _ _ _ _ _ _ _ (may_get _)
  | createBetaAppLocalization appId locale feedbackEmail description =>
      exact plain_document _ _ _ _ _ nofun nofun fun _ => conducted_value _
  | updateBetaAppLocalization id feedbackEmail description =>
      exact plain_document _ _ _ _ _ nofun nofun fun _ => conducted_value _
  | fetchAppInfoLocalizations appInfoId => exact plain_listing fuel _ _ _ _ _ _ _ (may_get _)
  | updateAppInfoLocalization id name subtitle => exact plain_document _ _ _ _ _ nofun nofun fun _ => conducted_value _
  | updateAppInfoLocalizationPrivacy id privacyPolicyUrl privacyChoicesUrl privacyPolicyText =>
      exact plain_document _ _ _ _ _ nofun nofun fun _ => conducted_value _
  | createAppInfoLocalization appInfoId locale name subtitle =>
      exact plain_document _ _ _ _ _ nofun nofun fun _ => conducted_value _
  | deleteAppInfoLocalization id => exact plain_delete _ nofun
  | fetchLocalizations versionId => exact plain_listing fuel _ _ _ _ _ _ _ (may_get _)
  | updateLocalization id description keywords promotionalText supportUrl marketingUrl whatsNew =>
      exact plain_patch _ _ nofun
  | fetchAccessibilityDeclarations appId limit => exact plain_listing fuel _ _ _ _ _ _ _ (may_get _)
  | createAccessibilityDeclaration appId deviceFamily =>
      exact plain_document _ _ _ _ _ nofun nofun fun _ => conducted_value _
  | updateAccessibilityDeclaration id answers => exact plain_document _ _ _ _ _ nofun nofun fun _ => conducted_value _
  | deleteAccessibilityDeclaration id => exact plain_delete _ nofun

theorem user_conducted (operation : UserOperation) :
    Conducted ((Operation.user operation).manner client trace) (operation.run client fuel) := by
  cases operation with
  | fetchTeamMembers => exact plain_listing fuel _ _ _ _ _ _ _ (may_get _)
  | fetchUsers =>
      exact conducted_bind (plain_listing fuel _ _ _ _ _ _ _ (may_get _)) fun _ =>
        plain_listing fuel _ _ _ _ _ _ _ (may_get _)
  | inviteUser email firstName lastName roles allAppsVisible provisioningAllowed => exact plain_posted _ _ nofun
  | deleteUser id isPending => exact plain_delete _ nofun
  | updateUser id roles allAppsVisible provisioningAllowed => exact plain_patch _ _ nofun
  | fetchUserVisibleApps id => exact plain_listing fuel _ _ _ _ _ _ _ (may_get _)
  | updateUserVisibleApps id appIds => exact plain_patch _ _ nofun

theorem provisioning_conducted (operation : ProvisioningOperation) :
    Conducted ((Operation.provisioning operation).manner client trace) (operation.run client fuel) := by
  cases operation with
  | fetchDevices => exact plain_listing fuel _ _ _ _ _ _ _ (may_get _)
  | createDevice name platform udid => exact plain_document _ _ _ _ _ nofun nofun fun _ => conducted_value _
  | updateDevice id name status => exact plain_patch _ _ nofun
  | fetchBundleIds => exact plain_listing fuel _ _ _ _ _ _ _ (may_get _)
  | createBundleId bundleIdentifier name platform =>
      exact plain_document _ _ _ _ _ nofun nofun fun _ => conducted_value _
  | updateBundleId id name => exact plain_patch _ _ nofun
  | deleteBundleId id => exact plain_delete _ nofun
  | fetchBundleIdCapabilities bundleId => exact plain_listing fuel _ _ _ _ _ _ _ (may_get _)
  | enableCapability bundleId capabilityType =>
      refine plain_document _ _ _ _ _ nofun nofun fun resource => ?_
      split
      · exact conducted_value _
      · exact conducted_fail _ rfl
  | disableCapability capabilityId => exact plain_delete _ nofun
  | fetchCertificates => exact plain_listing fuel _ _ _ _ _ _ _ (may_get _)
  | fetchCertificateContent id => exact plain_document _ _ _ _ _ (may_get _ _) nofun fun _ => conducted_value _
  | createCertificate csrContent certificateType passTypeId merchantId =>
      exact plain_document _ _ _ _ _ nofun nofun fun _ => conducted_value _
  | revokeCertificate id => exact plain_delete _ nofun
  | fetchProfiles => exact plain_listing fuel _ _ _ _ _ _ _ (may_get _)
  | createProfile name profileType bundleIdId certificateIds deviceIds =>
      exact plain_document _ _ _ _ _ nofun nofun fun _ => conducted_value _
  | deleteProfile id => exact plain_delete _ nofun
  | fetchProfileContent id => exact plain_document _ _ _ _ _ (may_get _ _) nofun fun _ => conducted_value _

theorem conducted_upload {manner : Manner} (request : Request) (next : Nat × String → Async α) (bare : request.bearer = none)
    (wanted : manner.may request)
    (reports : ∀ status body failure, manner.complaint ⟨.send request, .ok (status, body)⟩ = some failure →
      next (status, body) = .done (.error failure))
    (rest : ∀ status body, manner.complaint ⟨.send request, .ok (status, body)⟩ = none →
      Conducted manner (next (status, body))) : Conducted manner (sendAndRead request >>= next) where
  prompt := by
    apply within_ask _ _ _ (fun _ => .bare request bare wanted)
    intro answer
    cases answer with
    | error message => exact within_done _ _
    | ok response =>
        cases complains : manner.complaint ⟨.send request, .ok response⟩ with
        | none => exact (rest response.1 response.2 complains).prompt
        | some failure =>
            change Within _ (next response)
            rw [reports response.1 response.2 failure complains]
            exact within_done _ _
  stops := by
    apply fails_fast_ask
    · intro answer failure complains
      cases answer with
      | ok response => exact reports response.1 response.2 failure complains
      | error message =>
          cases complains
          rfl
    · intro answer quiet
      cases answer with
      | ok response => exact .inl (rest response.1 response.2 quiet).stops
      | error message => cases quiet

theorem conducted_send_upload {may : Request → Prop} (wanted : ∀ request, may request) (operation : UploadOperation)
    (chunk : List UInt8) :
    Conducted (uploading may) (client.sendUpload operation chunk) := by
  unfold AppStoreClient.sendUpload
  cases client.crates.method operation.method with
  | error message => exact conducted_fail _ (.inr ⟨message, rfl⟩)
  | ok method =>
      refine conducted_upload (operation.request method chunk) _ rfl (wanted _) ?_ ?_
      · intro status body failure complains
        obtain ⟨refused, _, rfl⟩ := Manner.complaint_answered _ _ status body failure complains
        dsimp only
        rw [if_neg (by simp [refused])]
        rfl
      · intro status body quiet
        rcases Manner.quiet_answered _ _ status body quiet with success | ⟨_, _, lenient⟩
        · dsimp only
          rw [if_pos success]
          exact conducted_value _
        · cases lenient

theorem conducted_upload_chunks {may : Request → Prop} (wanted : ∀ request, may request) (target : Target)
    (data : List UInt8) (operations : List UploadOperation) :
    Conducted (uploading may) (client.uploadChunks target data operations) := by
  induction operations with
  | nil => exact conducted_value _
  | cons operation rest ih =>
      unfold AppStoreClient.uploadChunks
      split
      · exact conducted_value _
      · exact conducted_bind (conducted_send_upload client wanted operation _) fun _ => ih

theorem uploading_usual (may : Request → Prop) : (uploading may).Usual := ⟨rfl, fun _ => .inl rfl⟩

theorem conducted_upload_screenshot {may : Request → Prop} (wanted : ∀ request, may request) (target : Target)
    (setId fileName : String) (data : List UInt8) :
    Conducted (uploading may) (client.uploadScreenshot target setId fileName data) := by
  refine conducted_bind (conducted_document (uploading_usual may) _ _ _ _ (wanted _) nofun nofun) fun reservation => ?_
  apply conducted_bind (conducted_upload_chunks client wanted target data _)
  intro ended
  cases ended with
  | panicked => exact conducted_value _
  | returned value =>
      exact conducted_values _ (conducted_values _ (conducted_document (uploading_usual may) _ _ _ _ (wanted _) nofun nofun))

theorem screenshot_conducted (operation : ScreenshotOperation) :
    Conducted ((Operation.screenshot operation).manner client trace) (operation.run client fuel) := by
  cases operation with
  | fetchScreenshotSets localizationId => exact plain_listing fuel _ _ _ _ _ _ _ (may_get _)
  | createScreenshotSet localizationId displayType =>
      exact plain_document _ _ _ _ _ nofun nofun fun _ => conducted_value _
  | uploadScreenshot target setId fileName data =>
      exact conducted_upload_screenshot client (fun _ reads => nomatch reads) target setId fileName data
  | deleteScreenshot id => exact plain_delete _ nofun
  | deleteScreenshotSet id => exact plain_delete _ nofun

theorem segment_refused (maxBytes : Nat) (response : Streamed) (failure : StackError)
    (refused : segmentRefusal client maxBytes response = some failure) : client.readSegment maxBytes response = .error failure := by
  rw [segmentRefusal] at refused
  rw [AppStoreClient.readSegment]
  by_cases long : (response.contentLength.getD 0) > maxBytes
  · rw [if_pos long] at refused ⊢
    rw [← Option.some.inj refused]
  · rw [if_neg long] at refused ⊢
    cases success : isSuccess response.status with
    | true =>
        rw [success, if_pos rfl] at refused
        cases refused
    | false =>
        rw [success, if_neg Bool.false_ne_true] at refused
        rw [if_pos rfl, Streamed.text]
        cases broken : response.broken with
        | some message =>
            rw [broken] at refused
            rw [← Option.some.inj refused]
            rfl
        | none =>
            rw [broken] at refused
            rw [← Option.some.inj refused]
            rfl

theorem analytics_conducted (operation : AnalyticsOperation) :
    Conducted ((Operation.analytics operation).manner client trace) (operation.run client) := by
  cases operation with
  | createAnalyticsReportRequest appId accessType =>
      exact plain_document _ _ _ _ _ nofun nofun fun _ => conducted_value _
  | fetchAnalyticsReportRequestsPage appId filterAccessType limit pageToken => exact plain_page _ _ (may_get _)
  | fetchAnalyticsReportsPage requestId filterCategory limit pageToken => exact plain_page _ _ (may_get _)
  | fetchAnalyticsReportInstancesPage reportId filterGranularity limit pageToken => exact plain_page _ _ (may_get _)
  | fetchAnalyticsReportSegmentsPage instanceId limit pageToken => exact plain_page _ _ (may_get _)
  | downloadAnalyticsSegment url maxBytes =>
      refine ⟨within_ask _ _ _ (fun _ => .download _ rfl (may_get _ _)) fun answer => ?_, fails_fast_ask _ _ ?_ ?_⟩
      · cases answer <;> exact within_done _ _
      · intro answer failure complains
        cases answer with
        | ok response => exact congrArg Prog.done (segment_refused client maxBytes response failure complains)
        | error message =>
            cases complains
            rfl
      · intro answer quiet
        cases answer with
        | error message => cases quiet
        | ok response =>
            cases read : client.readSegment maxBytes response with
            | ok table =>
                left
                dsimp only
                rw [read]
                exact fails_fast_done _ nofun
            | error failure =>
                right
                refine ⟨failure, ⟨_, response, rfl, read⟩, ?_⟩
                dsimp only
                rw [read]

section Submissions

variable {client} {manner : Manner}

theorem conducted_items_page (usual : manner.Usual) (url : String) (wanted : manner.may (.get url))
    (strict : Strict manner (.get url)) : Conducted manner (client.fetchSubmissionItemsPage url) :=
  conducted_bind (conducted_get_page usual url wanted strict) fun body =>
    conducted_done _ (parse_failure client usual _ _ _ body)

theorem conducted_cancel_patch (usual : manner.Usual) (id : String) (wanted : ∀ url body, manner.may (.patch url body)) :
    Conducted manner (client.cancelPatch id) := conducted_patch usual _ _ (wanted _ _)

end Submissions

section Drafts

variable {may : Request → Prop} (wanted : ∀ request, may request)
include wanted

theorem conducted_first_empty_draft (drafts : List ReviewSubmissionResource) :
    Conducted (.plain may) (client.firstEmptyDraft drafts) := by
  induction drafts with
  | nil => exact conducted_value _
  | cons draft rest ih =>
      have page : Conducted (.plain may) (client.fetchSubmissionItemsPage (client.submissionItemsUrl draft.id)) :=
        conducted_items_page (Manner.plain_usual may) _ (wanted _) (plain_strict _)
      refine conducted_bind (conducted_values _ page) fun empty => ?_
      split
      · exact conducted_value _
      · exact ih

theorem conducted_find_reusable (appId : String) (platform : Option String) :
    Conducted (.plain may) (client.findReusableEmptyDraft appId platform) :=
  conducted_bind (conducted_get_page (Manner.plain_usual may) _ (wanted _) nofun) fun body =>
    conducted_parsed client (Manner.plain_usual may) _ _ _ body _ fun page => conducted_first_empty_draft client wanted page.data

theorem conducted_attach_and_submit (submissionId versionId : String) :
    Conducted (.plain may) (client.attachAndSubmit submissionId versionId) :=
  conducted_bind (conducted_post_json (Manner.plain_usual may) _ _ (wanted _)) fun _ => plain_patch _ _ (wanted _)

theorem conducted_create_and_submit (appId versionId : String) (platform : Option String) :
    Conducted (.plain may) (client.createAndSubmit appId versionId platform) :=
  conducted_bind (conducted_post_json (Manner.plain_usual may) _ _ (wanted _)) fun body =>
    conducted_parsed client (Manner.plain_usual may) _ _ _ body _ fun document =>
      conducted_attach_and_submit client wanted document.data.id versionId

end Drafts

section Discarding

variable {may : Request → Prop} (wanted : ∀ request, may request) (ids : List String)

theorem discarding_usual : (discarding client may ids).Usual := ⟨rfl, fun _ => .inl rfl⟩

theorem discarding_strict (request : Request) : Strict (discarding client may ids) request := by
  intro get lenient token body
  exact ⟨request.bearerAuth token, body, rfl, get, lenient, rfl⟩

theorem state_url_listed (id : String) (inside : id ∈ ids) : stateUrls client ids (client.reviewSubmissionUrl id) = true := by
  rw [stateUrls, List.any_eq_true]
  exact ⟨id, inside, beq_self_eq_true _⟩

theorem discarding_stops (event : Event Answer) (failure : StackError)
    (stops : (discarding client may ids).verdicts.Stops event failure) : failure.isNotRemovable = false := by
  rcases stops with complains | ⟨_, _, _, _, _, rfl⟩
  · obtain ⟨query, answer⟩ := event
    rcases query with _ | request | request <;> rcases answer with message | response
    · cases complains
      rfl
    · cases complains
    · cases complains
      rfl
    · obtain ⟨_, _, rfl⟩ := Manner.complaint_answered _ request response.1 response.2 failure complains
      rw [Manner.refused]
      split
      · rfl
      · exact status_error_removable _ _
    · cases complains
      rfl
    · cases complains
  · rfl

include wanted

theorem conducted_delete_items (id : String) : Conducted (discarding client may ids) (client.deleteSubmissionItems fuel id) := by
  apply conducted_rounds
  intro kept url
  refine conducted_bind (conducted_items_page (discarding_usual client ids) url (wanted _) (discarding_strict client ids _))
    fun page => ?_
  refine conducted_bind (conducted_for_each _ (fun item => ?_) page.data) fun _ => conducted_value _
  exact conducted_delete (discarding_usual client ids) _ (wanted _)

theorem conducted_discard_ready (id : String) (inside : id ∈ ids) :
    Conducted (discarding client may ids) (client.discardReadyForReviewSubmission fuel id) := by
  apply conducted_bind (conducted_delete_items client fuel wanted ids id)
  intro _
  refine conducted_bind (conducted_unless_missing (discarding_usual client ids) _ _ _ (wanted _)
    (state_url_listed client ids id inside) (conducted_value _) fun body =>
      conducted_parsed client (discarding_usual client ids) _ _ _ body _ fun _ => conducted_value _) fun state => ?_
  split
  · exact conducted_value _
  · exact conducted_fail _ (.inr rfl)
  · exact conducted_value _

theorem conducted_cancel_round (notRemovable : Option StackError) (submission : ReviewSubmissionResource)
    (inside : submission.id ∈ ids) :
    Conducted (discarding client may ids) (client.cancelRound fuel notRemovable submission) := by
  have patched : Conducted (discarding client may ids) (client.cancelPatch submission.id) :=
    conducted_cancel_patch (discarding_usual client ids) submission.id fun _ _ => wanted _
  unfold AppStoreClient.cancelRound
  split
  · exact conducted_values _ patched
  · exact conducted_values _ patched
  · exact conducted_values _ patched
  · apply conducted_rescue _ (conducted_discard_ready client fuel wanted ids submission.id inside)
    · intro event failure stops
      have hard := discarding_stops client ids event failure stops
      cases failure <;> first | rfl | cases hard
    · intro result
      split <;> exact within_done _ _
    · intro result mine
      split
      · exact conducted_value _
      · exact conducted_value _
      · exact conducted_fail _ (mine _ rfl)
  · exact conducted_value _

theorem conducted_cancel_listed (submissions : List ReviewSubmissionResource)
    (listed : ∀ submission ∈ submissions, submission.id ∈ ids) :
    Conducted (discarding client may ids) (client.cancelListed fuel submissions) := by
  have rounds := conducted_fold _ submissions
    (fun kept submission inside => conducted_cancel_round client fuel wanted ids kept submission (listed submission inside)) none
  refine ⟨within_bind _ _ _ rounds.prompt fun kept => ?_, fails_fast_bind_given
    (fun kept => ∀ error, kept = some error → error = notRemovableError) rounds.stops ?_ fun kept honest => ?_⟩
  · cases kept <;> exact within_done _ _
  · intro trace kept run error same
    obtain ⟨handled, _, ended⟩ := (yields_cancel_rounds client fuel submissions none).given trace _ run
    rcases ended with ⟨_, _, folded⟩ | ⟨_, _, _, _, _, _, _, impossible⟩
    · rw [remembered_fold] at folded
      cases folded
      split at same
      · exact (Option.some.inj same).symm
      · cases same
    · cases impossible
  · cases kept with
    | none => exact fails_fast_done _ nofun
    | some error =>
        have failed : Conducted (discarding client may ids) (.done (.error error) : Async Unit) :=
          conducted_fail error (.inr (honest error rfl))
        exact failed.stops

theorem conducted_discard_review_submission (submissionId : String) (inside : submissionId ∈ ids) :
    Conducted (discarding client may ids) (client.discardReviewSubmission fuel submissionId) := by
  refine conducted_unless_missing (discarding_usual client ids) _ _ _ (wanted _) (state_url_listed client ids _ inside)
    (conducted_value _) fun body => conducted_parsed client (discarding_usual client ids) _ _ _ body _ fun document => ?_
  have patched : Conducted (discarding client may ids) (client.cancelPatch submissionId) :=
    conducted_cancel_patch (discarding_usual client ids) submissionId fun _ _ => wanted _
  unfold AppStoreClient.discardReported
  split
  · exact patched
  · exact patched
  · exact patched
  · exact conducted_discard_ready client fuel wanted ids submissionId inside
  · exact conducted_value _

end Discarding

theorem cancel_submission_settled (may : Request → Prop) (wanted : ∀ request, may request) (appId : String) (trace : Trace)
    (outcome : Option (Except StackError Unit)) (run : Runs (client.cancelSubmission fuel appId) trace outcome) :
    Settled (discarding client may (listedIds client trace)).verdicts trace outcome := by
  rcases runs_bind _ _ _ _ run with ⟨body, before, later, rfl, ran, after⟩ | ⟨failure, ran, rfl⟩ | ⟨ran, rfl⟩
  · obtain ⟨raw, call, same⟩ := (runs_exchange _ _ _).mp ran
    obtain ⟨response, rfl, success⟩ := except_bind_ok _ _ _ (Option.some.inj same).symm
    cases call with
    | answered token response =>
        have quiet : ∀ ids, ∀ event ∈ ([⟨.bearerToken, .ok token⟩, ⟨.send ((Request.get
            (client.activeSubmissionsUrl appId)).bearerAuth token), .ok response⟩] : Trace),
            (discarding client may ids).complaint event = none := by
          intro ids event inside
          rcases List.mem_pair.mp inside with rfl | rfl
          · rfl
          · rw [Manner.complaint, ((accepted_ok _ _).mp success).1, Bool.true_or, if_pos rfl]
        have read : listedIds client ([⟨.bearerToken, .ok token⟩, ⟨.send ((Request.get
            (client.activeSubmissionsUrl appId)).bearerAuth token), .ok response⟩] ++ later) =
            match client.parseReviewSubmissions body with
            | .ok page => page.data.map LinkedResource.id
            | .error _ => [] := by
          change (match accepted response >>= client.parseReviewSubmissions with | .ok page => _ | .error _ => _) = _
          rw [success]
          rfl
        rcases parsed : client.parseReviewSubmissions body with failure | page
        · rw [parsed] at after read
          obtain ⟨rfl, rfl⟩ := (runs_done _ _ _).mp after
          refine .calm _ _ (by rw [List.append_nil]; exact quiet _) ?_
          rintro _ ⟨⟩
          exact .inl (parse_failure client (Manner.plain_usual may) _ _ _ body failure parsed)
        · rw [parsed] at after read
          rw [read]
          refine settled_after _ later outcome (quiet _) ?_
          exact (conducted_cancel_listed client fuel wanted _ page.data fun submission inside =>
            List.mem_map_of_mem inside).stops later outcome after
  · have read : listedIds client trace = [] := by
      obtain ⟨raw, call, same⟩ := (runs_exchange _ _ _).mp ran
      cases call with
      | unsigned message => rfl
      | broken token message => rfl
      | answered token response =>
          have refused : accepted response = .error failure := (Option.some.inj same).symm
          change (match accepted response >>= client.parseReviewSubmissions with | .ok page => _ | .error _ => _) = _
          rw [refused]
          rfl
    rw [read]
    have page : Conducted (discarding client may []) (getPage (client.activeSubmissionsUrl appId)) :=
      conducted_get_page (discarding_usual client []) _ (wanted _) (discarding_strict client [] _)
    exact settled_passed trace failure (page.stops trace _ ran)
  · obtain ⟨raw, _, same⟩ := (runs_exchange _ _ _).mp ran
    cases same

theorem prompt_cancel_submission {may : Request → Prop} (wanted : ∀ request, may request) (appId : String) :
    Within (Prompt may) (client.cancelSubmission fuel appId) := by
  refine within_bind _ _ _ (conducted_get_page (Manner.plain_usual may) _ (wanted _) (plain_strict _)).prompt fun body => ?_
  refine within_bind _ _ _ (within_done _ _) fun page => ?_
  exact (conducted_cancel_listed client fuel wanted (page.data.map LinkedResource.id) page.data
    fun submission inside => List.mem_map_of_mem inside).prompt

theorem submission_conducted (operation : SubmissionOperation)
    (single : ∀ appId versionId platform, operation ≠ .submitForReview appId versionId platform)
    (other : ∀ appId, operation ≠ .cancelSubmission appId) :
    Conducted ((Operation.submission operation).manner client trace) (operation.run client fuel) := by
  cases operation with
  | fetchReviewSubmissions appId => exact plain_listing fuel _ _ _ _ _ _ _ (may_get _)
  | submitForReview appId versionId platform => exact absurd rfl (single appId versionId platform)
  | cancelReview appId =>
      refine conducted_bind (conducted_get_page (Manner.plain_usual _) _ (may_get _ _) (plain_strict _)) fun body => ?_
      refine conducted_parsed client (Manner.plain_usual _) _ _ _ body _ fun page => ?_
      cases page.data with
      | nil => exact conducted_value _
      | cons submission others => exact plain_patch _ _ nofun
  | releaseVersion versionId => exact plain_posted _ _ nofun
  | cancelSubmission appId => exact absurd rfl (other appId)
  | submitReviewSubmission submissionId => exact plain_patch _ _ nofun
  | discardReviewSubmission submissionId =>
      exact conducted_discard_review_submission client fuel (fun _ reads => nomatch reads) _ submissionId List.mem_cons_self
  | rejectVersion versionId =>
      have usual : ((Operation.submission (.rejectVersion versionId)).manner client trace).Usual := ⟨rfl, fun _ => rfl⟩
      refine lenient_read usual _ _ _ _ _ _ (may_get _ _) (beq_self_eq_true _) fun document => ?_
      cases document.data with
      | none => exact conducted_value _
      | some submission => exact conducted_delete usual _ nofun

theorem operation_conducted (operation : Operation)
    (single : ¬ ∃ appId versionId platform, operation = .submission (.submitForReview appId versionId platform))
    (other : ¬ ∃ appId, operation = .submission (.cancelSubmission appId)) :
    Conducted (operation.manner client trace) (operation.run client fuel) := by
  cases operation with
  | app operation => exact app_conducted client fuel trace operation
  | review operation => exact review_conducted client fuel trace operation
  | submission operation =>
      refine submission_conducted client fuel trace operation ?_ ?_
      · rintro appId versionId platform rfl
        exact single ⟨appId, versionId, platform, rfl⟩
      · rintro appId rfl
        exact other ⟨appId, rfl⟩
  | version operation => exact version_conducted client trace operation
  | build operation => exact build_conducted client fuel trace operation
  | testFlight operation => exact test_flight_conducted client fuel trace operation
  | localization operation => exact localization_conducted client fuel trace operation
  | screenshot operation => exact screenshot_conducted client fuel trace operation
  | user operation => exact user_conducted client fuel trace operation
  | provisioning operation => exact provisioning_conducted client fuel trace operation
  | analytics operation => exact analytics_conducted client trace operation

theorem prompt_submit_for_review {may : Request → Prop} (wanted : ∀ request, may request) (appId versionId : String)
    (platform : Option String) : Within (Prompt may) (client.submitForReview appId versionId platform) := by
  have created := (conducted_create_and_submit client wanted appId versionId platform).prompt
  refine within_bind _ _ _ (conducted_find_reusable client wanted appId platform).prompt fun found => ?_
  cases found with
  | none => exact created
  | some submissionId =>
      have attached := (conducted_attach_and_submit client wanted submissionId versionId).prompt
      refine within_bind _ _ _ (within_attempt _ _ attached) fun attempted => ?_
      cases attempted with
      | ok value => exact within_done _ _
      | error failure => exact created

-- A reuse attempt is given up at its first failure, and the create path after it
-- stops at its own.
def RecoversOnce (trace : Trace) (outcome : Option (Except StackError α)) : Prop :=
  ∃ first second failure, trace = first ++ second ∧
    Settled (Manner.plain fun _ => True).verdicts first (some (.error failure) : Option (Except StackError α)) ∧
    Settled (Manner.plain fun _ => True).verdicts second outcome

theorem submit_recovers_once (appId versionId : String) (platform : Option String) (trace : Trace)
    (outcome : Option (Except StackError Unit)) (run : Runs (client.submitForReview appId versionId platform) trace outcome) :
    Settled (Manner.plain fun _ => True).verdicts trace outcome ∨ RecoversOnce trace outcome := by
  have search := (conducted_find_reusable client (fun _ => trivial) appId platform).stops
  have create := (conducted_create_and_submit client (fun _ => trivial) appId versionId platform).stops
  rcases runs_bind _ _ _ _ run with ⟨found, before, later, rfl, ran, after⟩ | ⟨failure, ran, rfl⟩ | ⟨ran, rfl⟩
  · have quiet := settled_quiet before _ (search before _ ran) (by simp)
    cases found with
    | none => exact .inl (settled_after before later outcome quiet (create later outcome after))
    | some submissionId =>
        have attach := (conducted_attach_and_submit client (fun _ => trivial) submissionId versionId).stops
        rcases runs_bind _ _ _ _ after with ⟨tried, attempted, last, rfl, ran, after⟩ | ⟨failure, ran, rfl⟩ | ⟨ran, rfl⟩
        · obtain ⟨inner, inside, same⟩ := runs_attempt _ attempted _ ran
          cases inner with
          | none => cases same
          | some result =>
              cases same
              cases tried with
              | ok value =>
                  obtain ⟨rfl, rfl⟩ := (runs_done _ _ _).mp after
                  rw [List.append_nil]
                  exact .inl (settled_after before attempted _ quiet (attach attempted _ inside))
              | error failure =>
                  have failed := settled_after before attempted _ quiet (attach attempted _ inside)
                  exact .inr ⟨before ++ attempted, last, failure, (List.append_assoc _ _ _).symm, failed, create last outcome after⟩
        · obtain ⟨inner, _, same⟩ := runs_attempt _ later _ ran
          cases inner <;> cases same
        · obtain ⟨inner, inside, same⟩ := runs_attempt _ later _ ran
          cases inner with
          | none => exact .inl (settled_after before later _ quiet (attach later _ inside))
          | some result => cases same
  · exact .inl (settled_passed trace failure (search trace _ ran))
  · exact .inl (.calm _ _ (settled_quiet trace _ (search trace _ ran) nofun) nofun)

def brokenPage : Json := .obj [("data", .arr []), ("links", .obj [("next", .str "https://host/v1/apps?cursor=2")])]

def brokenClient : AppStoreClient := ⟨"https://host", .reading [brokenPage]⟩

def brokenServer : Handler Answer Unit := replying [((.get, "https://host/v1/apps"), (200, brokenPage.compact))]

def brokenWalk : Run Answer StackError (List AppInfo) Unit :=
  exec brokenServer ((Operation.app .fetchApps).run brokenClient 3) ()

theorem manner_may (operation : Operation) : (operation.manner client trace).may = operation.may := by
  unfold Operation.manner
  split <;> rfl

theorem operation_prompt (operation : Operation) : Within (Prompt operation.may) (operation.run client fuel) := by
  by_cases submits : ∃ appId versionId platform, operation = .submission (.submitForReview appId versionId platform)
  · obtain ⟨appId, versionId, platform, rfl⟩ := submits
    exact prompt_submit_for_review client (fun _ reads => nomatch reads) appId versionId platform
  · by_cases cancels : ∃ appId, operation = .submission (.cancelSubmission appId)
    · obtain ⟨appId, rfl⟩ := cancels
      exact prompt_cancel_submission client fuel (fun _ reads => nomatch reads) appId
    · have prompt := (operation_conducted client fuel [] operation submits cancels).prompt
      rwa [manner_may] at prompt

theorem call_prompt (operation : Operation) : Within (Prompt operation.may) (operation.call client fuel) :=
  within_bind _ _ _ (operation_prompt client fuel operation) fun _ => within_done _ _

-- No token is kept: a request that carries one, streamed or not, carries the one
-- that was handed over right before it.
theorem tokens_used_at_once (operation : Operation) (trace : Trace) (outcome : Option (Except StackError operation.Result))
    (run : Runs (operation.run client fuel) trace outcome) (before after : Trace) (event : Event Answer)
    (split : trace = before ++ event :: after) (request : Request) (token : String)
    (asked : event.1 = .send request ∨ event.1 = .stream request) (bearer : request.bearer = some token) :
    before.getLast? = some ⟨.bearerToken, .ok token⟩ := by
  have prompt := within_sound _ _ (operation_prompt client fuel operation) trace outcome run before after event split
  obtain ⟨query, answer⟩ := event
  rcases asked with rfl | rfl
  · cases prompt with
    | signed plain signed fresh _ =>
        cases bearer
        exact fresh
    | bare _ bare _ =>
        rw [bare] at bearer
        cases bearer
  · cases prompt with
    | download _ bare _ =>
        rw [bare] at bearer
        cases bearer

set_option maxRecDepth 20000 in
theorem second_page_signed_anew : (brokenWalk.trace.take 3).getLast? = some ⟨.bearerToken, .ok "token"⟩ :=
  tokens_used_at_once brokenClient 3 (.app .fetchApps) brokenWalk.trace brokenWalk.outcome (exec_runs _ _ _)
    (brokenWalk.trace.take 3) [] ⟨.send ((Request.get "https://host/v1/apps?cursor=2").bearerAuth "token"), .ok (404, "")⟩ rfl
    ((Request.get "https://host/v1/apps?cursor=2").bearerAuth "token") "token" (.inl rfl) rfl

end StackConnect
