import StackConnect.AppStore.Bearer
import StackConnect.AppStore.Operations

set_option autoImplicit false

namespace StackConnect

open Interaction Serde

variable {α : Type} (client : AppStoreClient) (given : String → Prop) (fuel : Nat)

section Shapes

variable {client given}

theorem contained_unless_missing (request : Request) (absent : Async α) (present : String → Async α)
    (internal : client.Internal request) (missing : Contained client given absent)
    (found : ∀ body, Contained client given (present body)) :
    Contained client given (authorized request >>= fun (status, body) =>
      if status = 404 then absent else Prog.ofExcept (accepted (status, body)) >>= present) := by
  apply contained_bind (contained_authorized request internal)
  rintro ⟨status, body⟩
  dsimp only
  split
  · exact missing
  · exact contained_judged _ _ found

end Shapes

namespace AppStoreClient

theorem contained_fetch_app_info (appId : String) : Contained client given (client.fetchAppInfo appId) := by
  apply contained_bind (contained_get_page _ (by simp [appUrl, String.append_assoc]))
  intro _
  apply contained_judged _ _
  intro page
  cases page.data with
  | nil => exact contained_done _
  | cons appInfo others =>
      exact contained_bind (contained_get_page _ (by simp [appUrl, String.append_assoc])) fun _ =>
        contained_judged _ _ fun _ => contained_done _

theorem own_builds_page_url (appId : String) (platform : Option String) (processingStates : List String) (limit : Nat) :
    client.Own (client.buildsPageUrl appId platform processingStates limit) := by
  unfold buildsPageUrl
  cases platform <;> by_cases given : processingStates = [] <;> simp [given, String.append_assoc]

theorem own_customer_reviews_page_url (appId sort : String) (filterRating : List String) (limit : Nat) :
    client.Own (client.customerReviewsPageUrl appId sort filterRating limit) := by
  unfold customerReviewsPageUrl
  by_cases given : filterRating = [] <;> simp [given, String.append_assoc]

theorem own_push_filter (url key : String) (value : Option String) (own : client.Own url) :
    client.Own (pushFilter url key value) := by
  cases value with
  | none => exact own
  | some value => exact own_append client _ _ own

theorem own_ready_drafts_url (appId : String) (platform : Option String) :
    client.Own (client.readyDraftsUrl appId platform) := by
  unfold readyDraftsUrl
  cases platform <;> simp [String.append_assoc]

theorem contained_fetch_items_page (url : String) (own : client.Own url) :
    Contained client given (client.fetchSubmissionItemsPage url) :=
  contained_map _ (contained_get_page _ own)

theorem contained_first_empty_draft (drafts : List ReviewSubmissionResource) :
    Contained client given (client.firstEmptyDraft drafts) := by
  induction drafts with
  | nil => exact contained_done _
  | cons draft rest ih =>
      refine contained_bind (contained_map _ (client.contained_fetch_items_page given _ ?_)) fun empty => ?_
      · simp [submissionItemsUrl, String.append_assoc]
      · split
        · exact contained_done _
        · exact ih

theorem contained_attach_and_submit (submissionId versionId : String) :
    Contained client given (client.attachAndSubmit submissionId versionId) :=
  contained_bind (contained_post_json _ _ (by simp [reviewSubmissionItemsUrl])) fun _ =>
    contained_patch _ _ (by simp [reviewSubmissionUrl, String.append_assoc])

theorem contained_create_and_submit (appId versionId : String) (platform : Option String) :
    Contained client given (client.createAndSubmit appId versionId platform) :=
  contained_bind (contained_post_json _ _ (by simp [reviewSubmissionsUrl])) fun _ =>
    contained_judged _ _ fun _ => client.contained_attach_and_submit given _ versionId

theorem contained_submit_for_review (appId versionId : String) (platform : Option String) :
    Contained client given (client.submitForReview appId versionId platform) := by
  refine contained_bind (contained_bind (contained_get_page _ ?_) fun _ => contained_judged _ _ fun page => ?_) fun found => ?_
  · exact client.own_ready_drafts_url appId platform
  · exact client.contained_first_empty_draft given page.data
  · cases found with
    | none => exact client.contained_create_and_submit given appId versionId platform
    | some submissionId =>
        apply contained_bind (within_attempt _ _ (client.contained_attach_and_submit given submissionId versionId))
        intro attempted
        cases attempted with
        | ok value => exact contained_done _
        | error failure => exact client.contained_create_and_submit given appId versionId platform

theorem contained_cancel_patch (id : String) : Contained client given (client.cancelPatch id) :=
  contained_patch _ _ (by simp [reviewSubmissionUrl, String.append_assoc])

-- The one loop that follows `links.next` unfiltered.
theorem contained_delete_submission_items (id : String) : Contained client given (client.deleteSubmissionItems fuel id) := by
  apply contained_walk client given _ fuel () _ (by simp [submissionItemsUrl, String.append_assoc])
  intro kept url past reachable
  unfold deleteItemsPage
  rw [wp_bind]
  refine wp_read_page client given _ _ _ Page.links (.plain _) url past reachable _ ?_ (fun _ _ => trivial)
  intro page later named
  rw [when_ok_ok, wp_bind]
  refine wp_for_each _ _ _ (fun _ reached => ∀ next, page.links.next = some next → Linked client reached next)
    ?_ (fun reached linked next following => .inr (.inr (linked next following))) _ _ named
  intro item rest reached linked
  have deleted : Contained client given (client.deleteReviewSubmissionItem item.id) :=
    contained_delete _ (by simp [reviewSubmissionItemUrl, String.append_assoc])
  apply wp_mono _ _ _ _ _ (deleted reached)
  intro result more _
  cases result with
  | ok value => exact fun next following => linked_later client reached more next (linked next following)
  | error failure => trivial

theorem contained_discard_ready (submissionId : String) :
    Contained client given (client.discardReadyForReviewSubmission fuel submissionId) := by
  apply contained_bind (client.contained_delete_submission_items given fuel submissionId)
  intro _
  refine contained_bind (contained_unless_missing _ _ _ ?_ (contained_done _) fun _ =>
    contained_judged _ _ fun _ => contained_done _) fun state => ?_
  · simp [reviewSubmissionUrl, String.append_assoc]
  · split <;> exact contained_done _

theorem contained_cancel_round (notRemovable : Option StackError) (submission : ReviewSubmissionResource) :
    Contained client given (client.cancelRound fuel notRemovable submission) := by
  unfold cancelRound
  split
  · exact contained_map _ (client.contained_cancel_patch given _)
  · exact contained_map _ (client.contained_cancel_patch given _)
  · exact contained_map _ (client.contained_cancel_patch given _)
  · apply contained_bind (within_attempt _ _ (client.contained_discard_ready given fuel submission.id))
    intro attempted
    split <;> exact contained_done _
  · exact contained_done _

theorem contained_cancel_submission (appId : String) : Contained client given (client.cancelSubmission fuel appId) := by
  apply contained_bind (contained_get_page _ (by simp [activeSubmissionsUrl, String.append_assoc]))
  intro _
  apply contained_judged _ _
  intro page
  apply contained_bind (within_fold _ _ (client.contained_cancel_round given fuel) page.data none)
  intro notRemovable
  cases notRemovable <;> exact contained_done _

theorem contained_discard_review_submission (submissionId : String) :
    Contained client given (client.discardReviewSubmission fuel submissionId) := by
  refine contained_unless_missing _ _ _ ?_ (contained_done _) fun _ => contained_judged _ _ fun document => ?_
  · simp [reviewSubmissionUrl, String.append_assoc]
  · unfold discardReported
    split
    · exact client.contained_cancel_patch given submissionId
    · exact client.contained_cancel_patch given submissionId
    · exact client.contained_cancel_patch given submissionId
    · exact client.contained_discard_ready given fuel submissionId
    · exact contained_done _

theorem contained_cancel_review (appId : String) : Contained client given (client.cancelReview appId) := by
  apply contained_bind (contained_get_page _ (by simp [String.append_assoc]))
  intro _
  apply contained_judged _ _
  intro page
  cases page.data with
  | nil => exact contained_done _
  | cons submission others => exact client.contained_cancel_patch given submission.id

theorem contained_phased_release_of (request : Request) (internal : client.Internal request) :
    Contained client given (client.phasedReleaseOf request) := by
  refine contained_bind (contained_exchange request internal) fun _ => contained_judged _ _ fun document => ?_
  cases document.data <;> exact contained_done _

theorem contained_reject_version (versionId : String) : Contained client given (client.rejectVersion versionId) := by
  refine contained_unless_missing _ _ _ ?_ (contained_done _) fun _ => contained_judged _ _ fun document => ?_
  · simp [appStoreVersionUrl, String.append_assoc]
  · cases document.data with
    | none => exact contained_done _
    | some submission => exact contained_delete _ (by simp [String.append_assoc])

end AppStoreClient

theorem contained_send_upload (operation : UploadOperation) (chunk : List UInt8) :
    Contained client given (client.sendUpload operation chunk) := by
  unfold AppStoreClient.sendUpload
  cases client.crates.method operation.method with
  | error message => exact contained_done _
  | ok method =>
      apply contained_bind (contained_done _)
      intro method
      have bare : ∀ past, Allowed client given past (.send (operation.request method chunk)) := fun _ => .upload _ rfl
      apply contained_bind (contained_send _ bare)
      intro response
      dsimp only
      split <;> exact contained_done _

theorem contained_upload_chunks (target : Target) (data : List UInt8) (operations : List UploadOperation) :
    Contained client given (client.uploadChunks target data operations) := by
  induction operations with
  | nil => exact contained_done _
  | cons operation rest ih =>
      unfold AppStoreClient.uploadChunks
      split
      · exact contained_done _
      · exact contained_bind (contained_send_upload client given operation _) fun _ => ih

namespace AppStoreClient

theorem contained_upload_screenshot (target : Target) (setId fileName : String) (data : List UInt8) :
    Contained client given (client.uploadScreenshot target setId fileName data) := by
  apply contained_bind (contained_document _ _ _ _ (by simp [screenshotsUrl]))
  intro reservation
  apply contained_bind (contained_upload_chunks client given target data _)
  intro ended
  cases ended with
  | panicked => exact contained_done _
  | returned value =>
      exact contained_map _ (contained_map _ (contained_document _ _ _ _ (by simp [screenshotUrl, String.append_assoc])))

theorem contained_download_segment (url : String) (maxBytes : Nat) :
    Contained client given (client.downloadAnalyticsSegment url maxBytes) := by
  apply within_ask _ _ _ (fun _ => .download _ rfl)
  intro answer
  cases answer <;> exact contained_done _

end AppStoreClient

theorem app_contained (operation : AppOperation) : Contained client given (operation.run client fuel) := by
  cases operation with
  | validate =>
      apply contained_bind (contained_authorized _ (by simp))
      intro response
      dsimp only
      split <;> exact contained_done _
  | fetchApps =>
      exact contained_collect client given fuel _ [] (.plain _)
        (by simp [AppStoreClient.appsListing, Listing.plain])
  | fetchAppInfo appId => exact client.contained_fetch_app_info given appId
  | fetchAppCategories =>
      exact contained_collect client given fuel _ [] (.plain _)
        (by simp [AppStoreClient.appCategoriesListing, Listing.plain])
  | updateAppInfoCategory appInfoId primaryCategoryId subcategoryOneId secondaryCategoryId secondarySubcategoryOneId =>
      exact contained_patch _ _ (by simp [String.append_assoc])
  | updateApp id contentRightsDeclaration primaryLocale =>
      exact contained_patch _ _ (by simp [AppStoreClient.appUrl, String.append_assoc])
  | updateAgeRating id answers => exact contained_patch _ _ (by simp [String.append_assoc])
  | fetchIconUrl appId =>
      exact contained_bind (contained_get_page _ (by simp [String.append_assoc])) fun _ =>
        contained_judged _ _ fun _ => contained_done _

theorem review_contained (operation : ReviewOperation)
    (handed : ∀ url, (Operation.review operation).pageToken = some url → given url) :
    Contained client given (operation.run client fuel) := by
  cases operation with
  | fetchCustomerReviews appId =>
      exact contained_collect client given fuel _ [] (.including _ _) (by
        simp [AppStoreClient.customerReviewsListing, AppStoreClient.customerReviewsUrl, Listing.including,
          String.append_assoc])
  | fetchCustomerReviewsPage appId sort filterRating limit pageToken =>
      exact contained_map _ (contained_token_page client given _ pageToken _ (fun _ => rfl)
        (fun _ => .including _ _) (client.own_customer_reviews_page_url appId sort filterRating limit) handed)
  | replyToReview reviewId body =>
      exact contained_map _ (contained_document _ _ _ _
        (by simp [AppStoreClient.customerReviewResponsesUrl]))
  | deleteReviewResponse responseId => exact contained_delete _ (by simp [String.append_assoc])

theorem submission_contained (operation : SubmissionOperation) :
    Contained client given (operation.run client fuel) := by
  cases operation with
  | fetchReviewSubmissions appId =>
      exact contained_collect client given fuel _ [] (.including _ _)
        (by simp [AppStoreClient.reviewSubmissionsListing, Listing.including, String.append_assoc])
  | submitForReview appId versionId platform => exact client.contained_submit_for_review given appId versionId platform
  | cancelReview appId => exact client.contained_cancel_review given appId
  | releaseVersion versionId => exact contained_map _ (contained_post_json _ _ (by simp))
  | cancelSubmission appId => exact client.contained_cancel_submission given fuel appId
  | submitReviewSubmission submissionId =>
      exact contained_patch _ _ (by simp [AppStoreClient.reviewSubmissionUrl, String.append_assoc])
  | discardReviewSubmission submissionId => exact client.contained_discard_review_submission given fuel submissionId
  | rejectVersion versionId => exact client.contained_reject_version given versionId

theorem version_contained (operation : VersionOperation) : Contained client given (operation.run client) := by
  cases operation with
  | fetchVersions appId limit =>
      exact contained_bind (contained_get_page _ (by simp [String.append_assoc])) fun _ =>
        contained_judged _ _ fun _ => contained_done _
  | createVersion appId platform versionString =>
      exact contained_map _ (contained_document _ _ _ _ (by simp [AppStoreClient.appStoreVersionsUrl]))
  | updateVersion id versionString copyright releaseType earliestReleaseDate =>
      exact contained_no_content _ (by simp [AppStoreClient.appStoreVersionUrl, String.append_assoc])
  | deleteVersion id => exact contained_delete _ (by simp [AppStoreClient.appStoreVersionUrl, String.append_assoc])
  | fetchPhasedRelease versionId =>
      exact contained_unless_missing _ _ _
        (by simp [AppStoreClient.appStoreVersionUrl, String.append_assoc]) (contained_done _) fun _ =>
          contained_judged _ _ fun _ => contained_done _
  | createPhasedRelease versionId state =>
      exact client.contained_phased_release_of given _ (by simp [AppStoreClient.phasedReleasesUrl])
  | deletePhasedRelease id => exact contained_delete _ (by simp [AppStoreClient.phasedReleaseUrl, String.append_assoc])
  | updatePhasedReleaseState id state =>
      exact client.contained_phased_release_of given _
        (by simp [AppStoreClient.phasedReleaseUrl, String.append_assoc])

theorem build_contained (operation : BuildOperation)
    (handed : ∀ url, (Operation.build operation).pageToken = some url → given url) :
    Contained client given (operation.run client fuel) := by
  cases operation with
  | fetchBuilds appId limit =>
      exact contained_collect client given fuel _ [] (.including _ _)
        (by simp [AppStoreClient.buildsListing, AppStoreClient.buildsUrl, Listing.including, String.append_assoc])
  | fetchBuildsPage appId platform processingStates limit pageToken =>
      exact contained_map _ (contained_token_page client given _ pageToken _ (fun _ => rfl)
        (fun _ => .including _ _) (client.own_builds_page_url appId platform processingStates limit) handed)
  | fetchBuildsForGroup groupId limit =>
      exact contained_collect client given fuel _ [] (.including _ _) (by
        simp [AppStoreClient.buildsListing, AppStoreClient.buildsForGroupUrl, Listing.including, String.append_assoc])
  | fetchBuildDetail buildId =>
      refine contained_bind (contained_get_page _ ?_) fun _ => contained_judged _ _ fun document => ?_
      · simp [AppStoreClient.buildUrl, String.append_assoc]
      · cases document.data <;> exact contained_done _
  | fetchCurrentBuild versionId =>
      exact contained_unless_missing _ _ _ (by simp [String.append_assoc]) (contained_done _) fun _ =>
        contained_judged _ _ fun _ => contained_done _
  | expireBuild buildId => exact contained_no_content _ (by simp [AppStoreClient.buildUrl, String.append_assoc])
  | attachBuild versionId buildId => exact contained_no_content _ (by simp [String.append_assoc])
  | submitBuildForBetaReview buildId => exact contained_no_content _ (by simp)
  | addBuildToGroups buildId groupIds =>
      exact contained_no_content _ (by simp [AppStoreClient.buildUrl, String.append_assoc])
  | removeBuildFromGroup buildId groupId =>
      exact contained_no_content _ (by
        simp [AppStoreClient.betaGroupUrl, Request.delete, Request.plain, String.append_assoc])

theorem test_flight_contained (operation : TestFlightOperation) :
    Contained client given (operation.run client fuel) := by
  cases operation with
  | fetchBetaGroups appId limit =>
      exact contained_list_pages client given fuel _ _ _ _ _ [] _ (.plain _)
        (by simp [AppStoreClient.betaGroupsPageUrl, String.append_assoc])
  | createBetaGroup appId name isInternal publicLinkEnabled hasAccessToAllBuilds =>
      exact contained_bind (contained_exchange _ (by simp [AppStoreClient.betaGroupsUrl])) fun _ =>
        contained_judged _ _ fun _ => contained_done _
  | updateBetaGroup groupId name publicLinkEnabled publicLinkLimit feedbackEnabled =>
      exact contained_bind
        (contained_exchange _ (by simp [AppStoreClient.betaGroupUrl, String.append_assoc])) fun _ =>
          contained_judged _ _ fun _ => contained_done _
  | deleteBetaGroup groupId => exact contained_delete _ (by simp [AppStoreClient.betaGroupUrl, String.append_assoc])
  | fetchBetaTesters groupId limit =>
      exact contained_collect client given fuel _ [] (.plain _)
        (by simp [AppStoreClient.betaTestersListing, Listing.plain, String.append_assoc])
  | addBetaTester groupId email firstName lastName =>
      exact contained_map _ (contained_document _ _ _ _ (by simp))
  | removeBetaTester groupId testerId =>
      exact contained_no_content _ (by simp [Request.delete, Request.plain, String.append_assoc])
  | fetchTesterCount groupId =>
      exact contained_bind (contained_get_page _ (by simp [String.append_assoc])) fun _ =>
        contained_judged _ _ fun _ => contained_done _
  | resendInvite testerId appId => exact contained_no_content _ (by simp)
  | fetchBetaAppReviewDetail appId =>
      exact contained_map _ (contained_document _ _ _ _ (by simp [String.append_assoc]))
  | updateBetaAppReviewDetail detailId patch =>
      exact contained_map _ (contained_document _ _ _ _ (by simp [String.append_assoc]))
  | fetchAppReviewDetail versionId =>
      exact contained_unless_missing _ _ _ (by simp [String.append_assoc]) (contained_done _) fun _ =>
        contained_judged _ _ fun _ => contained_done _
  | updateAppReviewDetail detailId patch =>
      refine contained_bind (contained_exchange _ ?_) fun _ => contained_judged _ _ fun document => ?_
      · simp [String.append_assoc]
      · cases document.data <;> exact contained_done _

theorem localization_contained (operation : LocalizationOperation) :
    Contained client given (operation.run client fuel) := by
  cases operation with
  | fetchBetaBuildLocalizations buildId limit =>
      exact contained_collect client given fuel _ [] (.plain _)
        (by simp [AppStoreClient.betaBuildLocalizationsListing, Listing.plain, String.append_assoc])
  | createBetaBuildLocalization buildId locale whatsNew =>
      exact contained_map _ (contained_document _ _ _ _ (by simp))
  | updateBetaBuildLocalization id whatsNew =>
      exact contained_map _ (contained_document _ _ _ _ (by simp [String.append_assoc]))
  | fetchBetaAppLocalizations appId limit =>
      exact contained_collect client given fuel _ [] (.plain _)
        (by simp [AppStoreClient.betaAppLocalizationsListing, Listing.plain, String.append_assoc])
  | createBetaAppLocalization appId locale feedbackEmail description =>
      exact contained_map _ (contained_document _ _ _ _ (by simp))
  | updateBetaAppLocalization id feedbackEmail description =>
      exact contained_map _ (contained_document _ _ _ _ (by simp [String.append_assoc]))
  | fetchAppInfoLocalizations appInfoId =>
      exact contained_collect client given fuel _ [] (.plain _)
        (by simp [AppStoreClient.appInfoLocalizationsListing, Listing.plain, String.append_assoc])
  | updateAppInfoLocalization id name subtitle =>
      exact contained_map _ (contained_document _ _ _ _
        (by simp [AppStoreClient.appInfoLocalizationUrl, String.append_assoc]))
  | updateAppInfoLocalizationPrivacy id privacyPolicyUrl privacyChoicesUrl privacyPolicyText =>
      exact contained_map _ (contained_document _ _ _ _
        (by simp [AppStoreClient.appInfoLocalizationUrl, String.append_assoc]))
  | createAppInfoLocalization appInfoId locale name subtitle =>
      exact contained_map _ (contained_document _ _ _ _
        (by simp [AppStoreClient.appInfoLocalizationsUrl]))
  | deleteAppInfoLocalization id =>
      exact contained_delete _ (by simp [AppStoreClient.appInfoLocalizationUrl, String.append_assoc])
  | fetchLocalizations versionId =>
      exact contained_collect client given fuel _ [] (.plain _)
        (by simp [AppStoreClient.localizationsListing, Listing.plain, String.append_assoc])
  | updateLocalization id description keywords promotionalText supportUrl marketingUrl whatsNew =>
      exact contained_patch _ _ (by simp [String.append_assoc])
  | fetchAccessibilityDeclarations appId limit =>
      exact contained_collect client given fuel _ [] (.plain _)
        (by simp [AppStoreClient.accessibilityDeclarationsListing, Listing.plain, String.append_assoc])
  | createAccessibilityDeclaration appId deviceFamily =>
      exact contained_map _ (contained_document _ _ _ _ (by simp))
  | updateAccessibilityDeclaration id answers =>
      exact contained_map _ (contained_document _ _ _ _
        (by simp [AppStoreClient.accessibilityDeclarationUrl, String.append_assoc]))
  | deleteAccessibilityDeclaration id =>
      exact contained_delete _ (by simp [AppStoreClient.accessibilityDeclarationUrl, String.append_assoc])

theorem screenshot_contained (operation : ScreenshotOperation) :
    Contained client given (operation.run client fuel) := by
  cases operation with
  | fetchScreenshotSets localizationId =>
      exact contained_collect client given fuel _ [] (.including _ _)
        (by simp [AppStoreClient.screenshotSetsListing, Listing.including, String.append_assoc])
  | createScreenshotSet localizationId displayType =>
      exact contained_map _ (contained_document _ _ _ _ (by simp))
  | uploadScreenshot target setId fileName data =>
      exact client.contained_upload_screenshot given target setId fileName data
  | deleteScreenshot id => exact contained_delete _ (by simp [AppStoreClient.screenshotUrl, String.append_assoc])
  | deleteScreenshotSet id => exact contained_delete _ (by simp [String.append_assoc])

theorem user_contained (operation : UserOperation) : Contained client given (operation.run client fuel) := by
  cases operation with
  | fetchTeamMembers =>
      exact contained_collect client given fuel _ [] (.plain _)
        (by simp [AppStoreClient.teamMembersListing, Listing.plain])
  | fetchUsers =>
      refine contained_bind (contained_collect client given fuel _ [] (.plain _) ?_) fun users => ?_
      · simp [AppStoreClient.activeUsersListing, Listing.plain]
      · exact contained_collect client given fuel _ users (.plain _)
          (by simp [AppStoreClient.pendingUsersListing, Listing.plain, String.append_assoc, -String.reduceAppend])
  | inviteUser email firstName lastName roles allAppsVisible provisioningAllowed =>
      exact contained_map _ (contained_post_json _ _ (by simp))
  | deleteUser id isPending => exact contained_delete _ (by cases isPending <;> simp [String.append_assoc])
  | updateUser id roles allAppsVisible provisioningAllowed => exact contained_patch _ _ (by simp [String.append_assoc])
  | fetchUserVisibleApps id =>
      exact contained_collect client given fuel _ [] (.plain _)
        (by simp [AppStoreClient.userVisibleAppsListing, Listing.plain, String.append_assoc])
  | updateUserVisibleApps id appIds => exact contained_patch _ _ (by simp [String.append_assoc])

theorem provisioning_contained (operation : ProvisioningOperation) :
    Contained client given (operation.run client fuel) := by
  cases operation with
  | fetchDevices =>
      exact contained_collect client given fuel _ [] (.plain _)
        (by simp [AppStoreClient.devicesListing, Listing.plain])
  | createDevice name platform udid =>
      exact contained_map _ (contained_document _ _ _ _ (by simp [AppStoreClient.devicesUrl]))
  | updateDevice id name status => exact contained_patch _ _ (by simp [String.append_assoc])
  | fetchBundleIds =>
      exact contained_collect client given fuel _ [] (.plain _)
        (by simp [AppStoreClient.bundleIdsListing, Listing.plain])
  | createBundleId bundleIdentifier name platform =>
      exact contained_map _ (contained_document _ _ _ _ (by simp))
  | updateBundleId id name => exact contained_patch _ _ (by simp [AppStoreClient.bundleIdUrl, String.append_assoc])
  | deleteBundleId id => exact contained_delete _ (by simp [AppStoreClient.bundleIdUrl, String.append_assoc])
  | fetchBundleIdCapabilities bundleId =>
      exact contained_list_pages client given fuel _ _ _ _ _ [] _ (.plain _)
        (by simp [AppStoreClient.bundleIdUrl, String.append_assoc])
  | enableCapability bundleId capabilityType =>
      refine contained_bind (contained_document _ _ _ _ (by simp)) fun resource => ?_
      split <;> exact contained_done _
  | disableCapability capabilityId => exact contained_delete _ (by simp [String.append_assoc])
  | fetchCertificates =>
      exact contained_collect client given fuel _ [] (.plain _)
        (by simp [AppStoreClient.certificatesListing, Listing.plain])
  | fetchCertificateContent id =>
      exact contained_map _ (contained_document _ _ _ _
        (by simp [AppStoreClient.certificateUrl, String.append_assoc]))
  | createCertificate csrContent certificateType passTypeId merchantId =>
      exact contained_map _ (contained_document _ _ _ _ (by simp))
  | revokeCertificate id => exact contained_delete _ (by simp [AppStoreClient.certificateUrl, String.append_assoc])
  | fetchProfiles =>
      exact contained_collect client given fuel _ [] (.including _ _)
        (by simp [AppStoreClient.profilesListing, Listing.including])
  | createProfile name profileType bundleIdId certificateIds deviceIds =>
      exact contained_map _ (contained_document _ _ _ _ (by simp))
  | deleteProfile id => exact contained_delete _ (by simp [AppStoreClient.profileUrl, String.append_assoc])
  | fetchProfileContent id =>
      exact contained_map _ (contained_document _ _ _ _
        (by simp [AppStoreClient.profileUrl, String.append_assoc]))

theorem analytics_contained (operation : AnalyticsOperation)
    (handed : ∀ url, (Operation.analytics operation).pageToken = some url → given url) :
    Contained client given (operation.run client) := by
  cases operation with
  | createAnalyticsReportRequest appId accessType =>
      exact contained_map _ (contained_document _ _ _ _ (by simp))
  | fetchAnalyticsReportRequestsPage appId filterAccessType limit pageToken =>
      exact contained_map _ (contained_token_page client given _ pageToken _ (fun _ => rfl)
        (fun _ => .plain _) (client.own_push_filter _ _ _ (by simp [String.append_assoc])) handed)
  | fetchAnalyticsReportsPage requestId filterCategory limit pageToken =>
      exact contained_map _ (contained_token_page client given _ pageToken _ (fun _ => rfl)
        (fun _ => .plain _) (client.own_push_filter _ _ _ (by simp [String.append_assoc])) handed)
  | fetchAnalyticsReportInstancesPage reportId filterGranularity limit pageToken =>
      exact contained_map _ (contained_token_page client given _ pageToken _ (fun _ => rfl)
        (fun _ => .plain _) (client.own_push_filter _ _ _ (by simp [String.append_assoc])) handed)
  | fetchAnalyticsReportSegmentsPage instanceId limit pageToken =>
      exact contained_map _ (contained_token_page client given _ pageToken _ (fun _ => rfl)
        (fun _ => .plain _) (by simp [AppStoreClient.analyticsReportSegmentsUrl, String.append_assoc]) handed)
  | downloadAnalyticsSegment url maxBytes => exact client.contained_download_segment given url maxBytes

theorem operation_contained (operation : Operation) :
    Contained client (fun url => operation.pageToken = some url) (operation.run client fuel) := by
  cases operation with
  | app operation => exact app_contained client _ fuel operation
  | review operation => exact review_contained client _ fuel operation fun _ handed => handed
  | submission operation => exact submission_contained client _ fuel operation
  | version operation => exact version_contained client _ operation
  | build operation => exact build_contained client _ fuel operation fun _ handed => handed
  | testFlight operation => exact test_flight_contained client _ fuel operation
  | localization operation => exact localization_contained client _ fuel operation
  | screenshot operation => exact screenshot_contained client _ fuel operation
  | user operation => exact user_contained client _ fuel operation
  | provisioning operation => exact provisioning_contained client _ fuel operation
  | analytics operation => exact analytics_contained client _ operation fun _ handed => handed

end StackConnect
