import StackConnect.AppStore.SharedServer

set_option autoImplicit false

namespace StackConnect

open Interaction Serde

variable {α ρ : Type}

def changes (trace : Trace) : List (Request × Reply) := (exchanges trace).filter fun (request, _) => request.method ≠ .get

def Granted (reply : Reply) : Prop := ∃ status body, reply = .ok (status, body) ∧ isSuccess status = true

theorem changes_append (first second : Trace) : changes (first ++ second) = changes first ++ changes second := by
  rw [changes, exchanges_append, List.filter_append]
  rfl

theorem looking_changes (program : Async α) (looks : OnlyAsks Query.Looks program) (trace : Trace)
    (outcome : Option (Except StackError α)) (run : Runs program trace outcome) : changes trace = [] := by
  rw [changes, List.filter_eq_nil_iff]
  rintro ⟨request, reply⟩ inside
  obtain ⟨⟨query, answer⟩, met, same⟩ := List.mem_filterMap.mp inside
  obtain ⟨before, after, split⟩ := List.append_of_mem met
  have looked := within_sound _ program looks trace outcome run before after _ split
  cases query with
  | bearerToken => cases same
  | stream _ => cases same
  | send _ =>
      cases same
      have get : request.method = .get := looked
      simp [get]

structure AsksOnce (program : Async α) : Prop where
  once : ∀ trace outcome, Runs program trace outcome → (changes trace).length ≤ 1
  granted : ∀ trace value, Runs program trace (some (.ok value)) → ∀ change ∈ changes trace, Granted change.2

structure Acts (program : Async α) : Prop extends AsksOnce program where
  asked : ∀ trace value, Runs program trace (some (.ok value)) → changes trace ≠ []

section Rules

variable {program : Async α} {next : α → Async ρ}

def Silent (program : Async α) : Prop := ∀ trace outcome, Runs program trace outcome → trace = []

theorem silent_done (result : Except StackError α) : Silent (.done result) := fun _ _ run => ((runs_done _ _ _).mp run).1

theorem silent_bind (first : Silent program) (rest : ∀ value, Silent (next value)) : Silent (program >>= next) := by
  intro trace outcome run
  rcases runs_bind _ _ _ _ run with ⟨value, before, later, rfl, ran, after⟩ | ⟨_, ran, _⟩ | ⟨ran, _⟩
  · rw [first before _ ran, rest value later _ after]
    rfl
  · exact first trace _ ran
  · exact first trace _ ran

theorem silent_judged (result : Except StackError α) (rest : ∀ value, Silent (next value)) :
    Silent (Prog.ofExcept result >>= next) := silent_bind (silent_done result) rest

theorem asks_once_looking (looks : OnlyAsks Query.Looks program) : AsksOnce program where
  once trace outcome run := by
    rw [looking_changes program looks trace outcome run]
    exact Nat.zero_le 1
  granted trace value run change inside := by
    rw [looking_changes program looks trace _ run] at inside
    cases inside

theorem asks_once_after (first : OnlyAsks Query.Looks program) (rest : ∀ value, AsksOnce (next value)) :
    AsksOnce (program >>= next) where
  once trace outcome run := by
    rcases runs_bind _ _ _ _ run with ⟨value, before, later, rfl, ran, after⟩ | ⟨_, ran, _⟩ | ⟨ran, _⟩
    · rw [changes_append, looking_changes program first before _ ran]
      exact (rest value).once later outcome after
    · exact (asks_once_looking first).once trace _ ran
    · exact (asks_once_looking first).once trace _ ran
  granted trace value run change inside := by
    rcases runs_bind _ _ _ _ run with ⟨found, before, later, rfl, ran, after⟩ | ⟨_, _, impossible⟩ | ⟨_, impossible⟩
    · rw [changes_append, looking_changes program first before _ ran] at inside
      exact (rest found).granted later value after change inside
    · cases impossible
    · cases impossible

theorem asks_once_then (first : AsksOnce program) (rest : ∀ value, Silent (next value)) : AsksOnce (program >>= next) where
  once trace outcome run := by
    rcases runs_bind _ _ _ _ run with ⟨value, before, later, rfl, ran, after⟩ | ⟨_, ran, _⟩ | ⟨ran, _⟩
    · rw [rest value later _ after, List.append_nil]
      exact first.once before _ ran
    · exact first.once trace _ ran
    · exact first.once trace _ ran
  granted trace value run change inside := by
    rcases runs_bind _ _ _ _ run with ⟨found, before, later, rfl, ran, after⟩ | ⟨_, _, impossible⟩ | ⟨_, impossible⟩
    · rw [rest found later _ after, List.append_nil] at inside
      exact first.granted before found ran change inside
    · cases impossible
    · cases impossible

theorem acts_then (first : Acts program) (rest : ∀ value, Silent (next value)) : Acts (program >>= next) where
  toAsksOnce := asks_once_then first.toAsksOnce rest
  asked trace value run := by
    rcases runs_bind _ _ _ _ run with ⟨found, before, later, rfl, ran, after⟩ | ⟨_, _, impossible⟩ | ⟨_, impossible⟩
    · rw [rest found later _ after, List.append_nil]
      exact first.asked before found ran
    · cases impossible
    · cases impossible

theorem acts_values (judge : α → ρ) (kept : Acts program) : Acts (program >>= fun value => .done (.ok (judge value))) :=
  acts_then kept fun _ => silent_done _

theorem acts_exchange (request : Request) (change : request.method ≠ .get) : Acts (exchange request) where
  once trace outcome run := by
    obtain ⟨raw, call, _⟩ := (runs_exchange request trace outcome).mp run
    cases call <;> simp [changes, exchanges, Request.bearerAuth, change]
  granted trace value run entry inside := by
    obtain ⟨raw, call, same⟩ := (runs_exchange request trace _).mp run
    cases call with
    | unsigned message => cases same
    | broken token message => cases same
    | answered token response =>
        have fine : accepted response = .ok value := (Option.some.inj same).symm
        obtain ⟨success, _⟩ := (accepted_ok response value).mp fine
        have only : entry = (request.bearerAuth token, .ok response) := by
          simpa [changes, exchanges, Request.bearerAuth, change] using inside
        exact ⟨response.1, response.2, congrArg Prod.snd only, success⟩
  asked trace value run := by
    obtain ⟨raw, call, same⟩ := (runs_exchange request trace _).mp run
    cases call with
    | unsigned message => cases same
    | broken token message => cases same
    | answered token response => simp [changes, exchanges, Request.bearerAuth, change]

theorem acts_posted (url : String) (body : Json) : Acts (postJson2xx url body >>= fun _ => .done (.ok ())) :=
  acts_values _ (acts_exchange _ nofun)

theorem acts_patch (url : String) (body : Json) : Acts (bearerToken >>= fun token => patchNoContent url token body) := by
  rw [token_then_patch]
  exact acts_values _ (acts_exchange _ nofun)

theorem acts_delete (url : String) : Acts (deleteNoContent url) := acts_values _ (acts_exchange _ nofun)

theorem acts_sent (request : Request) (change : request.method ≠ .get) : Acts (exchangeNoContent request) :=
  acts_values _ (acts_exchange request change)

variable {client : AppStoreClient}

theorem acts_answer (request : Request) (type label : String) (decoder : Decoder α) (next : α → Async ρ)
    (change : request.method ≠ .get) (rest : ∀ value, Silent (next value)) :
    Acts (exchange request >>= fun body => Prog.ofExcept (client.parse type label decoder body) >>= next) :=
  acts_then (acts_exchange request change) fun _ => silent_judged _ rest

theorem acts_document (request : Request) (type label : String) (resource : Decoder α) (next : α → Async ρ)
    (change : request.method ≠ .get) (rest : ∀ value, Silent (next value)) :
    Acts (client.exchangeDocument request type label resource >>= next) :=
  acts_then (acts_then (acts_exchange request change) fun _ => silent_judged _ fun _ => silent_done _) rest

end Rules

-- The flows that ask for more than one change.
def Operation.single : Operation → Bool
  | submission (.submitForReview ..) | submission (.cancelSubmission _) | submission (.discardReviewSubmission _)
  | screenshot (.uploadScreenshot ..) => false
  | _ => true

-- What these two find decides whether there is anything to change.
def Operation.conditional : Operation → Bool
  | submission (.cancelReview _) | submission (.rejectVersion _) => true
  | _ => false

def Operation.acts (operation : Operation) : Bool := operation.single && !operation.reads && !operation.conditional

variable (client : AppStoreClient) (fuel : Nat)

theorem app_acts (operation : AppOperation) (acts : (Operation.app operation).acts = true) :
    Acts (operation.run client fuel) := by
  cases operation with
  | validate | fetchApps | fetchAppInfo | fetchAppCategories | fetchIconUrl => cases acts
  | updateAppInfoCategory => exact acts_patch _ _
  | updateApp => exact acts_patch _ _
  | updateAgeRating => exact acts_patch _ _

theorem review_acts (operation : ReviewOperation) (acts : (Operation.review operation).acts = true) :
    Acts (operation.run client fuel) := by
  cases operation with
  | fetchCustomerReviews | fetchCustomerReviewsPage => cases acts
  | replyToReview => exact acts_document _ _ _ _ _ nofun fun _ => silent_done _
  | deleteReviewResponse => exact acts_delete _

theorem submission_acts (operation : SubmissionOperation) (acts : (Operation.submission operation).acts = true) :
    Acts (operation.run client fuel) := by
  cases operation with
  | fetchReviewSubmissions | submitForReview | cancelReview | cancelSubmission | discardReviewSubmission | rejectVersion =>
      cases acts
  | releaseVersion => exact acts_posted _ _
  | submitReviewSubmission => exact acts_patch _ _

theorem acts_phased_release_of (request : Request) (change : request.method ≠ .get) : Acts (client.phasedReleaseOf request) := by
  refine acts_then (acts_exchange request change) fun body => silent_judged _ fun document => ?_
  cases document.data <;> exact silent_done _

theorem version_acts (operation : VersionOperation) (acts : (Operation.version operation).acts = true) :
    Acts (operation.run client) := by
  cases operation with
  | fetchVersions | fetchPhasedRelease => cases acts
  | createVersion => exact acts_document _ _ _ _ _ nofun fun _ => silent_done _
  | updateVersion => exact acts_sent _ nofun
  | deleteVersion => exact acts_delete _
  | createPhasedRelease => exact acts_phased_release_of client _ nofun
  | deletePhasedRelease => exact acts_delete _
  | updatePhasedReleaseState => exact acts_phased_release_of client _ nofun

theorem build_acts (operation : BuildOperation) (acts : (Operation.build operation).acts = true) :
    Acts (operation.run client fuel) := by
  cases operation with
  | fetchBuilds | fetchBuildsPage | fetchBuildsForGroup | fetchBuildDetail | fetchCurrentBuild => cases acts
  | expireBuild => exact acts_sent _ nofun
  | attachBuild => exact acts_sent _ nofun
  | submitBuildForBetaReview => exact acts_sent _ nofun
  | addBuildToGroups => exact acts_sent _ nofun
  | removeBuildFromGroup => exact acts_sent _ nofun

theorem test_flight_acts (operation : TestFlightOperation) (acts : (Operation.testFlight operation).acts = true) :
    Acts (operation.run client fuel) := by
  cases operation with
  | fetchBetaGroups | fetchBetaTesters | fetchTesterCount | fetchBetaAppReviewDetail | fetchAppReviewDetail => cases acts
  | createBetaGroup => exact acts_answer _ _ _ _ _ nofun fun _ => silent_done _
  | updateBetaGroup => exact acts_answer _ _ _ _ _ nofun fun _ => silent_done _
  | deleteBetaGroup => exact acts_delete _
  | addBetaTester => exact acts_document _ _ _ _ _ nofun fun _ => silent_done _
  | removeBetaTester => exact acts_sent _ nofun
  | resendInvite => exact acts_sent _ nofun
  | updateBetaAppReviewDetail => exact acts_document _ _ _ _ _ nofun fun _ => silent_done _
  | updateAppReviewDetail =>
      refine acts_answer _ _ _ _ _ nofun fun document => ?_
      cases document.data <;> exact silent_done _

theorem localization_acts (operation : LocalizationOperation) (acts : (Operation.localization operation).acts = true) :
    Acts (operation.run client fuel) := by
  cases operation with
  | fetchBetaBuildLocalizations | fetchBetaAppLocalizations | fetchAppInfoLocalizations | fetchLocalizations
  | fetchAccessibilityDeclarations => cases acts
  | createBetaBuildLocalization | updateBetaBuildLocalization | createBetaAppLocalization | updateBetaAppLocalization
  | updateAppInfoLocalization | updateAppInfoLocalizationPrivacy | createAppInfoLocalization | createAccessibilityDeclaration
  | updateAccessibilityDeclaration => exact acts_document _ _ _ _ _ nofun fun _ => silent_done _
  | updateLocalization => exact acts_patch _ _
  | deleteAppInfoLocalization => exact acts_delete _
  | deleteAccessibilityDeclaration => exact acts_delete _

theorem screenshot_acts (operation : ScreenshotOperation) (acts : (Operation.screenshot operation).acts = true) :
    Acts (operation.run client fuel) := by
  cases operation with
  | fetchScreenshotSets | uploadScreenshot => cases acts
  | createScreenshotSet => exact acts_document _ _ _ _ _ nofun fun _ => silent_done _
  | deleteScreenshot => exact acts_delete _
  | deleteScreenshotSet => exact acts_delete _

theorem user_acts (operation : UserOperation) (acts : (Operation.user operation).acts = true) :
    Acts (operation.run client fuel) := by
  cases operation with
  | fetchTeamMembers | fetchUsers | fetchUserVisibleApps => cases acts
  | inviteUser => exact acts_posted _ _
  | deleteUser => exact acts_delete _
  | updateUser => exact acts_patch _ _
  | updateUserVisibleApps => exact acts_patch _ _

theorem provisioning_acts (operation : ProvisioningOperation) (acts : (Operation.provisioning operation).acts = true) :
    Acts (operation.run client fuel) := by
  cases operation with
  | fetchDevices | fetchBundleIds | fetchBundleIdCapabilities | fetchCertificates | fetchCertificateContent | fetchProfiles
  | fetchProfileContent => cases acts
  | createDevice | createBundleId | createCertificate | createProfile =>
      exact acts_document _ _ _ _ _ nofun fun _ => silent_done _
  | updateDevice | updateBundleId => exact acts_patch _ _
  | deleteBundleId | disableCapability | revokeCertificate | deleteProfile => exact acts_delete _
  | enableCapability =>
      refine acts_document _ _ _ _ _ nofun fun resource => ?_
      split <;> exact silent_done _

theorem analytics_acts (operation : AnalyticsOperation) (acts : (Operation.analytics operation).acts = true) :
    Acts (operation.run client) := by
  cases operation with
  | createAnalyticsReportRequest => exact acts_document _ _ _ _ _ nofun fun _ => silent_done _
  | fetchAnalyticsReportRequestsPage | fetchAnalyticsReportsPage | fetchAnalyticsReportInstancesPage
  | fetchAnalyticsReportSegmentsPage | downloadAnalyticsSegment => cases acts

theorem operation_acts (operation : Operation) (acts : operation.acts = true) : Acts (operation.run client fuel) := by
  cases operation with
  | app operation => exact app_acts client fuel operation acts
  | review operation => exact review_acts client fuel operation acts
  | submission operation => exact submission_acts client fuel operation acts
  | version operation => exact version_acts client operation acts
  | build operation => exact build_acts client fuel operation acts
  | testFlight operation => exact test_flight_acts client fuel operation acts
  | localization operation => exact localization_acts client fuel operation acts
  | screenshot operation => exact screenshot_acts client fuel operation acts
  | user operation => exact user_acts client fuel operation acts
  | provisioning operation => exact provisioning_acts client fuel operation acts
  | analytics operation => exact analytics_acts client operation acts

theorem looking_get (url : String) : OnlyAsks Query.Looks (authorized (.get url)) := by
  apply within_mono _ _ _ (within_authorized (fun request => request.method = .get) (.get url) rfl)
  intro past query asked
  cases asked with
  | sign => trivial
  | signed request token fresh get => exact get
  | bare request bare get => exact get
  | download request bare get => exact get

theorem looking_page (url : String) : OnlyAsks Query.Looks (getPage url) :=
  within_bind _ _ _ (looking_get url) fun _ => within_done _ _

theorem cancel_review_once (appId : String) : AsksOnce (client.cancelReview appId) := by
  apply asks_once_after (looking_page _)
  intro body
  apply asks_once_after (within_done _ _)
  intro page
  cases page.data with
  | nil => exact asks_once_looking (within_done _ _)
  | cons submission others => exact (acts_patch _ _).toAsksOnce

theorem reject_version_once (versionId : String) : AsksOnce (client.rejectVersion versionId) := by
  apply asks_once_after (looking_get _)
  rintro ⟨status, body⟩
  dsimp only
  split
  · exact asks_once_looking (within_done _ _)
  · apply asks_once_after (within_done _ _)
    intro body
    apply asks_once_after (within_done _ _)
    intro document
    cases document.data with
    | none => exact asks_once_looking (within_done _ _)
    | some submission => exact (acts_delete _).toAsksOnce

theorem operation_asks_once (operation : Operation) (single : operation.single = true) :
    AsksOnce (operation.run client fuel) := by
  cases looks : operation.reads with
  | true => exact asks_once_looking (readers_look client fuel operation looks)
  | false =>
      cases depends : operation.conditional with
      | false =>
          apply (operation_acts client fuel operation _).toAsksOnce
          rw [Operation.acts, single, looks, depends]
          rfl
      | true =>
          rw [Operation.conditional.eq_def] at depends
          split at depends
          · exact cancel_review_once client _
          · exact reject_version_once client _
          · cases depends

theorem call_acts (operation : Operation) (acts : operation.acts = true) : Acts (operation.call client fuel) :=
  acts_values _ (operation_acts client fuel operation acts)

theorem call_asks_once (operation : Operation) (single : operation.single = true) : AsksOnce (operation.call client fuel) :=
  asks_once_then (operation_asks_once client fuel operation single) fun _ => silent_done _

end StackConnect
