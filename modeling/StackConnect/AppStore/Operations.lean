import StackConnect.AppStore.Accessibility
import StackConnect.AppStore.Analytics
import StackConnect.AppStore.Apps
import StackConnect.AppStore.BetaTesters
import StackConnect.AppStore.Builds
import StackConnect.AppStore.CustomerReviews
import StackConnect.AppStore.Provisioning
import StackConnect.AppStore.ReviewDetails
import StackConnect.AppStore.Screenshots
import StackConnect.AppStore.Users
import StackConnect.AppStore.Versions

set_option autoImplicit false

namespace StackConnect

open Interaction

inductive AppOperation where
  | validate
  | fetchApps
  | fetchAppInfo (appId : String)
  | fetchAppCategories
  | updateAppInfoCategory (appInfoId : String) (primaryCategoryId subcategoryOneId secondaryCategoryId : Option String)
      (secondarySubcategoryOneId : Option String)
  | updateApp (id : String) (contentRightsDeclaration primaryLocale : Option String)
  | updateAgeRating (id : String) (answers : AgeRatingAnswers)
  | fetchIconUrl (appId : String)

inductive ReviewOperation where
  | fetchCustomerReviews (appId : String)
  | fetchCustomerReviewsPage (appId sort : String) (filterRating : List String) (limit : Nat) (pageToken : Option String)
  | replyToReview (reviewId body : String)
  | deleteReviewResponse (responseId : String)

inductive SubmissionOperation where
  | fetchReviewSubmissions (appId : String)
  | submitForReview (appId versionId : String) (platform : Option String)
  | cancelReview (appId : String)
  | releaseVersion (versionId : String)
  | cancelSubmission (appId : String)
  | submitReviewSubmission (submissionId : String)
  | discardReviewSubmission (submissionId : String)
  | rejectVersion (versionId : String)

inductive VersionOperation where
  | fetchVersions (appId : String) (limit : Nat)
  | createVersion (appId platform versionString : String)
  | updateVersion (id : String) (versionString copyright releaseType earliestReleaseDate : Option String)
  | deleteVersion (id : String)
  | fetchPhasedRelease (versionId : String)
  | createPhasedRelease (versionId state : String)
  | deletePhasedRelease (id : String)
  | updatePhasedReleaseState (id state : String)

inductive BuildOperation where
  | fetchBuilds (appId : String) (limit : Nat)
  | fetchBuildsPage (appId : String) (platform : Option String) (processingStates : List String) (limit : Nat)
      (pageToken : Option String)
  | fetchBuildsForGroup (groupId : String) (limit : Nat)
  | fetchBuildDetail (buildId : String)
  | fetchCurrentBuild (versionId : String)
  | expireBuild (buildId : String)
  | attachBuild (versionId buildId : String)
  | submitBuildForBetaReview (buildId : String)
  | addBuildToGroups (buildId : String) (groupIds : List String)
  | removeBuildFromGroup (buildId groupId : String)

inductive TestFlightOperation where
  | fetchBetaGroups (appId : String) (limit : Nat)
  | createBetaGroup (appId name : String) (isInternal publicLinkEnabled hasAccessToAllBuilds : Bool)
  | updateBetaGroup (groupId : String) (name : Option String) (publicLinkEnabled : Option Bool)
      (publicLinkLimit : Option Int) (feedbackEnabled : Option Bool)
  | deleteBetaGroup (groupId : String)
  | fetchBetaTesters (groupId : String) (limit : Nat)
  | addBetaTester (groupId email : String) (firstName lastName : Option String)
  | removeBetaTester (groupId testerId : String)
  | fetchTesterCount (groupId : String)
  | resendInvite (testerId appId : String)
  | fetchBetaAppReviewDetail (appId : String)
  | updateBetaAppReviewDetail (detailId : String) (patch : ReviewDetailPatch)
  | fetchAppReviewDetail (versionId : String)
  | updateAppReviewDetail (detailId : String) (patch : ReviewDetailPatch)

inductive LocalizationOperation where
  | fetchBetaBuildLocalizations (buildId : String) (limit : Nat)
  | createBetaBuildLocalization (buildId locale whatsNew : String)
  | updateBetaBuildLocalization (id whatsNew : String)
  | fetchBetaAppLocalizations (appId : String) (limit : Nat)
  | createBetaAppLocalization (appId locale : String) (feedbackEmail description : Option String)
  | updateBetaAppLocalization (id : String) (feedbackEmail description : Option String)
  | fetchAppInfoLocalizations (appInfoId : String)
  | updateAppInfoLocalization (id name : String) (subtitle : Option String)
  | updateAppInfoLocalizationPrivacy (id : String) (privacyPolicyUrl privacyChoicesUrl privacyPolicyText : Option String)
  | createAppInfoLocalization (appInfoId locale name : String) (subtitle : Option String)
  | deleteAppInfoLocalization (id : String)
  | fetchLocalizations (versionId : String)
  | updateLocalization (id : String)
      (description keywords promotionalText supportUrl marketingUrl whatsNew : Option String)
  | fetchAccessibilityDeclarations (appId : String) (limit : Int)
  | createAccessibilityDeclaration (appId deviceFamily : String)
  | updateAccessibilityDeclaration (id : String) (answers : AccessibilityAnswers)
  | deleteAccessibilityDeclaration (id : String)

inductive ScreenshotOperation where
  | fetchScreenshotSets (localizationId : String)
  | createScreenshotSet (localizationId displayType : String)
  | uploadScreenshot (target : Target) (setId fileName : String) (data : List UInt8)
  | deleteScreenshot (id : String)
  | deleteScreenshotSet (id : String)

inductive UserOperation where
  | fetchTeamMembers
  | fetchUsers
  | inviteUser (email firstName lastName : String) (roles : List String) (allAppsVisible provisioningAllowed : Bool)
  | deleteUser (id : String) (isPending : Bool)
  | updateUser (id : String) (roles : List String) (allAppsVisible provisioningAllowed : Bool)
  | fetchUserVisibleApps (id : String)
  | updateUserVisibleApps (id : String) (appIds : List String)

inductive ProvisioningOperation where
  | fetchDevices
  | createDevice (name platform udid : String)
  | updateDevice (id : String) (name status : Option String)
  | fetchBundleIds
  | createBundleId (bundleIdentifier name platform : String)
  | updateBundleId (id name : String)
  | deleteBundleId (id : String)
  | fetchBundleIdCapabilities (bundleId : String)
  | enableCapability (bundleId capabilityType : String)
  | disableCapability (capabilityId : String)
  | fetchCertificates
  | fetchCertificateContent (id : String)
  | createCertificate (csrContent certificateType : String) (passTypeId merchantId : Option String)
  | revokeCertificate (id : String)
  | fetchProfiles
  | createProfile (name profileType bundleIdId : String) (certificateIds deviceIds : List String)
  | deleteProfile (id : String)
  | fetchProfileContent (id : String)

inductive AnalyticsOperation where
  | createAnalyticsReportRequest (appId accessType : String)
  | fetchAnalyticsReportRequestsPage (appId : String) (filterAccessType : Option String) (limit : Nat)
      (pageToken : Option String)
  | fetchAnalyticsReportsPage (requestId : String) (filterCategory : Option String) (limit : Nat)
      (pageToken : Option String)
  | fetchAnalyticsReportInstancesPage (reportId : String) (filterGranularity : Option String) (limit : Nat)
      (pageToken : Option String)
  | fetchAnalyticsReportSegmentsPage (instanceId : String) (limit : Nat) (pageToken : Option String)
  | downloadAnalyticsSegment (url : String) (maxBytes : Nat)

inductive Operation where
  | app (operation : AppOperation)
  | review (operation : ReviewOperation)
  | submission (operation : SubmissionOperation)
  | version (operation : VersionOperation)
  | build (operation : BuildOperation)
  | testFlight (operation : TestFlightOperation)
  | localization (operation : LocalizationOperation)
  | screenshot (operation : ScreenshotOperation)
  | user (operation : UserOperation)
  | provisioning (operation : ProvisioningOperation)
  | analytics (operation : AnalyticsOperation)

abbrev AppOperation.Result : AppOperation → Type
  | fetchApps => List AppInfo
  | fetchAppInfo _ => AppInfoDetails
  | fetchAppCategories => List AppCategoryInfo
  | fetchIconUrl _ => Option String
  | _ => Unit

abbrev ReviewOperation.Result : ReviewOperation → Type
  | fetchCustomerReviews _ => List CustomerReview
  | fetchCustomerReviewsPage .. => CustomerReviewsPage
  | replyToReview .. => ReviewResponse
  | _ => Unit

abbrev SubmissionOperation.Result : SubmissionOperation → Type
  | fetchReviewSubmissions _ => List ReviewSubmission
  | _ => Unit

abbrev VersionOperation.Result : VersionOperation → Type
  | fetchVersions .. => List AppStoreVersionInfo
  | createVersion .. => AppStoreVersionInfo
  | fetchPhasedRelease _ => Option PhasedReleaseInfo
  | createPhasedRelease .. | updatePhasedReleaseState .. => PhasedReleaseInfo
  | _ => Unit

abbrev BuildOperation.Result : BuildOperation → Type
  | fetchBuilds .. | fetchBuildsForGroup .. => List BuildInfo
  | fetchBuildsPage .. => BuildsPage
  | fetchBuildDetail _ => BuildDetailInfo
  | fetchCurrentBuild _ => Option BuildInfo
  | _ => Unit

abbrev TestFlightOperation.Result : TestFlightOperation → Type
  | fetchBetaGroups .. => List BetaGroupInfo
  | createBetaGroup .. | updateBetaGroup .. => BetaGroupInfo
  | fetchBetaTesters .. => List BetaTesterInfo
  | addBetaTester .. => BetaTesterInfo
  | fetchTesterCount _ => Int
  | fetchBetaAppReviewDetail _ | updateBetaAppReviewDetail .. => BetaAppReviewDetailInfo
  | fetchAppReviewDetail _ => Option AppReviewDetailInfo
  | updateAppReviewDetail .. => AppReviewDetailInfo
  | _ => Unit

abbrev LocalizationOperation.Result : LocalizationOperation → Type
  | fetchBetaBuildLocalizations .. => List BetaBuildLocalizationInfo
  | createBetaBuildLocalization .. | updateBetaBuildLocalization .. => BetaBuildLocalizationInfo
  | fetchBetaAppLocalizations .. => List BetaAppLocalizationInfo
  | createBetaAppLocalization .. | updateBetaAppLocalization .. => BetaAppLocalizationInfo
  | fetchAppInfoLocalizations _ => List AppInfoLocalizationInfo
  | updateAppInfoLocalization .. | updateAppInfoLocalizationPrivacy ..
  | createAppInfoLocalization .. => AppInfoLocalizationInfo
  | fetchLocalizations _ => List AppStoreLocalizationInfo
  | fetchAccessibilityDeclarations .. => List AccessibilityDeclarationInfo
  | createAccessibilityDeclaration .. | updateAccessibilityDeclaration .. => AccessibilityDeclarationInfo
  | _ => Unit

abbrev ScreenshotOperation.Result : ScreenshotOperation → Type
  | fetchScreenshotSets _ => List ScreenshotSetInfo
  | createScreenshotSet .. => ScreenshotSetInfo
  | uploadScreenshot .. => Ended ScreenshotInfo
  | _ => Unit

abbrev UserOperation.Result : UserOperation → Type
  | fetchTeamMembers => List TeamMemberInfo
  | fetchUsers => List UserInfo
  | fetchUserVisibleApps _ => List String
  | _ => Unit

abbrev ProvisioningOperation.Result : ProvisioningOperation → Type
  | fetchDevices => List DeviceInfo
  | createDevice .. => DeviceInfo
  | fetchBundleIds => List BundleIdInfo
  | createBundleId .. => BundleIdInfo
  | fetchBundleIdCapabilities _ => List BundleIdCapabilityInfo
  | enableCapability .. => BundleIdCapabilityInfo
  | fetchCertificates => List CertificateInfo
  | fetchCertificateContent _ | fetchProfileContent _ => Option String
  | createCertificate .. => CertificateInfo
  | fetchProfiles => List ProvisioningProfileInfo
  | createProfile .. => ProvisioningProfileInfo
  | _ => Unit

abbrev AnalyticsOperation.Result : AnalyticsOperation → Type
  | createAnalyticsReportRequest .. => AnalyticsReportRequest
  | fetchAnalyticsReportRequestsPage .. => AnalyticsReportRequestsPage
  | fetchAnalyticsReportsPage .. => AnalyticsReportsPage
  | fetchAnalyticsReportInstancesPage .. => AnalyticsReportInstancesPage
  | fetchAnalyticsReportSegmentsPage .. => AnalyticsReportSegmentsPage
  | downloadAnalyticsSegment .. => AnalyticsReportData

abbrev Operation.Result : Operation → Type
  | app operation => operation.Result
  | review operation => operation.Result
  | submission operation => operation.Result
  | version operation => operation.Result
  | build operation => operation.Result
  | testFlight operation => operation.Result
  | localization operation => operation.Result
  | screenshot operation => operation.Result
  | user operation => operation.Result
  | provisioning operation => operation.Result
  | analytics operation => operation.Result

variable (client : AppStoreClient) (fuel : Nat)

def AppOperation.run : (operation : AppOperation) → Async operation.Result
  | validate => client.validate
  | fetchApps => client.fetchApps fuel
  | fetchAppInfo appId => client.fetchAppInfo appId
  | fetchAppCategories => client.fetchAppCategories fuel
  | updateAppInfoCategory appInfoId primaryCategoryId subcategoryOneId secondaryCategoryId secondarySubcategoryOneId =>
      client.updateAppInfoCategory appInfoId primaryCategoryId subcategoryOneId secondaryCategoryId
        secondarySubcategoryOneId
  | updateApp id contentRightsDeclaration primaryLocale => client.updateApp id contentRightsDeclaration primaryLocale
  | updateAgeRating id answers => client.updateAgeRating id answers
  | fetchIconUrl appId => client.fetchIconUrl appId

def ReviewOperation.run : (operation : ReviewOperation) → Async operation.Result
  | fetchCustomerReviews appId => client.fetchCustomerReviews fuel appId
  | fetchCustomerReviewsPage appId sort filterRating limit pageToken =>
      client.fetchCustomerReviewsPage appId sort filterRating limit pageToken
  | replyToReview reviewId body => client.replyToReview reviewId body
  | deleteReviewResponse responseId => client.deleteReviewResponse responseId

def SubmissionOperation.run : (operation : SubmissionOperation) → Async operation.Result
  | fetchReviewSubmissions appId => client.fetchReviewSubmissions fuel appId
  | submitForReview appId versionId platform => client.submitForReview appId versionId platform
  | cancelReview appId => client.cancelReview appId
  | releaseVersion versionId => client.releaseVersion versionId
  | cancelSubmission appId => client.cancelSubmission fuel appId
  | submitReviewSubmission submissionId => client.submitReviewSubmission submissionId
  | discardReviewSubmission submissionId => client.discardReviewSubmission fuel submissionId
  | rejectVersion versionId => client.rejectVersion versionId

def VersionOperation.run : (operation : VersionOperation) → Async operation.Result
  | fetchVersions appId limit => client.fetchVersions appId limit
  | createVersion appId platform versionString => client.createVersion appId platform versionString
  | updateVersion id versionString copyright releaseType earliestReleaseDate =>
      client.updateVersion id versionString copyright releaseType earliestReleaseDate
  | deleteVersion id => client.deleteVersion id
  | fetchPhasedRelease versionId => client.fetchPhasedRelease versionId
  | createPhasedRelease versionId state => client.createPhasedRelease versionId state
  | deletePhasedRelease id => client.deletePhasedRelease id
  | updatePhasedReleaseState id state => client.updatePhasedReleaseState id state

def BuildOperation.run : (operation : BuildOperation) → Async operation.Result
  | fetchBuilds appId limit => client.fetchBuilds fuel appId limit
  | fetchBuildsPage appId platform processingStates limit pageToken =>
      client.fetchBuildsPage appId platform processingStates limit pageToken
  | fetchBuildsForGroup groupId limit => client.fetchBuildsForGroup fuel groupId limit
  | fetchBuildDetail buildId => client.fetchBuildDetail buildId
  | fetchCurrentBuild versionId => client.fetchCurrentBuild versionId
  | expireBuild buildId => client.expireBuild buildId
  | attachBuild versionId buildId => client.attachBuild versionId buildId
  | submitBuildForBetaReview buildId => client.submitBuildForBetaReview buildId
  | addBuildToGroups buildId groupIds => client.addBuildToGroups buildId groupIds
  | removeBuildFromGroup buildId groupId => client.removeBuildFromGroup buildId groupId

def TestFlightOperation.run : (operation : TestFlightOperation) → Async operation.Result
  | fetchBetaGroups appId limit => client.fetchBetaGroups fuel appId limit
  | createBetaGroup appId name isInternal publicLinkEnabled hasAccessToAllBuilds =>
      client.createBetaGroup appId name isInternal publicLinkEnabled hasAccessToAllBuilds
  | updateBetaGroup groupId name publicLinkEnabled publicLinkLimit feedbackEnabled =>
      client.updateBetaGroup groupId name publicLinkEnabled publicLinkLimit feedbackEnabled
  | deleteBetaGroup groupId => client.deleteBetaGroup groupId
  | fetchBetaTesters groupId limit => client.fetchBetaTesters fuel groupId limit
  | addBetaTester groupId email firstName lastName => client.addBetaTester groupId email firstName lastName
  | removeBetaTester groupId testerId => client.removeBetaTester groupId testerId
  | fetchTesterCount groupId => client.fetchTesterCount groupId
  | resendInvite testerId appId => client.resendInvite testerId appId
  | fetchBetaAppReviewDetail appId => client.fetchBetaAppReviewDetail appId
  | updateBetaAppReviewDetail detailId patch => client.updateBetaAppReviewDetail detailId patch
  | fetchAppReviewDetail versionId => client.fetchAppReviewDetail versionId
  | updateAppReviewDetail detailId patch => client.updateAppReviewDetail detailId patch

def LocalizationOperation.run : (operation : LocalizationOperation) → Async operation.Result
  | fetchBetaBuildLocalizations buildId limit => client.fetchBetaBuildLocalizations fuel buildId limit
  | createBetaBuildLocalization buildId locale whatsNew => client.createBetaBuildLocalization buildId locale whatsNew
  | updateBetaBuildLocalization id whatsNew => client.updateBetaBuildLocalization id whatsNew
  | fetchBetaAppLocalizations appId limit => client.fetchBetaAppLocalizations fuel appId limit
  | createBetaAppLocalization appId locale feedbackEmail description =>
      client.createBetaAppLocalization appId locale feedbackEmail description
  | updateBetaAppLocalization id feedbackEmail description =>
      client.updateBetaAppLocalization id feedbackEmail description
  | fetchAppInfoLocalizations appInfoId => client.fetchAppInfoLocalizations fuel appInfoId
  | updateAppInfoLocalization id name subtitle => client.updateAppInfoLocalization id name subtitle
  | updateAppInfoLocalizationPrivacy id privacyPolicyUrl privacyChoicesUrl privacyPolicyText =>
      client.updateAppInfoLocalizationPrivacy id privacyPolicyUrl privacyChoicesUrl privacyPolicyText
  | createAppInfoLocalization appInfoId locale name subtitle =>
      client.createAppInfoLocalization appInfoId locale name subtitle
  | deleteAppInfoLocalization id => client.deleteAppInfoLocalization id
  | fetchLocalizations versionId => client.fetchLocalizations fuel versionId
  | updateLocalization id description keywords promotionalText supportUrl marketingUrl whatsNew =>
      client.updateLocalization id description keywords promotionalText supportUrl marketingUrl whatsNew
  | fetchAccessibilityDeclarations appId limit => client.fetchAccessibilityDeclarations fuel appId limit
  | createAccessibilityDeclaration appId deviceFamily => client.createAccessibilityDeclaration appId deviceFamily
  | updateAccessibilityDeclaration id answers => client.updateAccessibilityDeclaration id answers
  | deleteAccessibilityDeclaration id => client.deleteAccessibilityDeclaration id

def ScreenshotOperation.run : (operation : ScreenshotOperation) → Async operation.Result
  | fetchScreenshotSets localizationId => client.fetchScreenshotSets fuel localizationId
  | createScreenshotSet localizationId displayType => client.createScreenshotSet localizationId displayType
  | uploadScreenshot target setId fileName data => client.uploadScreenshot target setId fileName data
  | deleteScreenshot id => client.deleteScreenshot id
  | deleteScreenshotSet id => client.deleteScreenshotSet id

def UserOperation.run : (operation : UserOperation) → Async operation.Result
  | fetchTeamMembers => client.fetchTeamMembers fuel
  | fetchUsers => client.fetchUsers fuel
  | inviteUser email firstName lastName roles allAppsVisible provisioningAllowed =>
      client.inviteUser email firstName lastName roles allAppsVisible provisioningAllowed
  | deleteUser id isPending => client.deleteUser id isPending
  | updateUser id roles allAppsVisible provisioningAllowed => client.updateUser id roles allAppsVisible provisioningAllowed
  | fetchUserVisibleApps id => client.fetchUserVisibleApps fuel id
  | updateUserVisibleApps id appIds => client.updateUserVisibleApps id appIds

def ProvisioningOperation.run : (operation : ProvisioningOperation) → Async operation.Result
  | fetchDevices => client.fetchDevices fuel
  | createDevice name platform udid => client.createDevice name platform udid
  | updateDevice id name status => client.updateDevice id name status
  | fetchBundleIds => client.fetchBundleIds fuel
  | createBundleId bundleIdentifier name platform => client.createBundleId bundleIdentifier name platform
  | updateBundleId id name => client.updateBundleId id name
  | deleteBundleId id => client.deleteBundleId id
  | fetchBundleIdCapabilities bundleId => client.fetchBundleIdCapabilities fuel bundleId
  | enableCapability bundleId capabilityType => client.enableCapability bundleId capabilityType
  | disableCapability capabilityId => client.disableCapability capabilityId
  | fetchCertificates => client.fetchCertificates fuel
  | fetchCertificateContent id => client.fetchCertificateContent id
  | createCertificate csrContent certificateType passTypeId merchantId =>
      client.createCertificate csrContent certificateType passTypeId merchantId
  | revokeCertificate id => client.revokeCertificate id
  | fetchProfiles => client.fetchProfiles fuel
  | createProfile name profileType bundleIdId certificateIds deviceIds =>
      client.createProfile name profileType bundleIdId certificateIds deviceIds
  | deleteProfile id => client.deleteProfile id
  | fetchProfileContent id => client.fetchProfileContent id

def AnalyticsOperation.run : (operation : AnalyticsOperation) → Async operation.Result
  | createAnalyticsReportRequest appId accessType => client.createAnalyticsReportRequest appId accessType
  | fetchAnalyticsReportRequestsPage appId filterAccessType limit pageToken =>
      client.fetchAnalyticsReportRequestsPage appId filterAccessType limit pageToken
  | fetchAnalyticsReportsPage requestId filterCategory limit pageToken =>
      client.fetchAnalyticsReportsPage requestId filterCategory limit pageToken
  | fetchAnalyticsReportInstancesPage reportId filterGranularity limit pageToken =>
      client.fetchAnalyticsReportInstancesPage reportId filterGranularity limit pageToken
  | fetchAnalyticsReportSegmentsPage instanceId limit pageToken =>
      client.fetchAnalyticsReportSegmentsPage instanceId limit pageToken
  | downloadAnalyticsSegment url maxBytes => client.downloadAnalyticsSegment url maxBytes

def Operation.run : (operation : Operation) → Async operation.Result
  | app operation => operation.run client fuel
  | review operation => operation.run client fuel
  | submission operation => operation.run client fuel
  | version operation => operation.run client
  | build operation => operation.run client fuel
  | testFlight operation => operation.run client fuel
  | localization operation => operation.run client fuel
  | screenshot operation => operation.run client fuel
  | user operation => operation.run client fuel
  | provisioning operation => operation.run client fuel
  | analytics operation => operation.run client

abbrev CallResult := Σ operation : Operation, operation.Result

def Operation.call (operation : Operation) : Async CallResult := do
  let value ← operation.run client fuel
  pure ⟨operation, value⟩

def Operation.pageToken : Operation → Option String
  | review (.fetchCustomerReviewsPage _ _ _ _ pageToken) => pageToken
  | build (.fetchBuildsPage _ _ _ _ pageToken) => pageToken
  | analytics (.fetchAnalyticsReportRequestsPage _ _ _ pageToken) => pageToken
  | analytics (.fetchAnalyticsReportsPage _ _ _ pageToken) => pageToken
  | analytics (.fetchAnalyticsReportInstancesPage _ _ _ pageToken) => pageToken
  | analytics (.fetchAnalyticsReportSegmentsPage _ _ pageToken) => pageToken
  | _ => none

end StackConnect
