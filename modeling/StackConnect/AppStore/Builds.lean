import StackConnect.AppStore.BetaGroups
import StackConnect.AppStore.Localizations

set_option autoImplicit false

namespace StackConnect

open Interaction Serde Rust

structure IconAssetToken where
  templateUrl : Option String
  width : Option Int
  height : Option Int

def IconAssetToken.decode : Decoder IconAssetToken := struct do
  let templateUrl ← optional "templateUrl" string
  let width ← optional "width" u32
  let height ← optional "height" u32
  pure ⟨templateUrl, width, height⟩

-- The template names its placeholders w, h and f, each in braces.
def IconAssetToken.toIconUrl (token : IconAssetToken) : Option String :=
  token.templateUrl.map fun template =>
    replace (replace (replace template "\x7bw\x7d" (toString (token.width.getD 512)))
      "\x7bh\x7d" (toString (token.height.getD 512))) "\x7bf\x7d" "png"

structure BuildAttributes where
  version : Option String
  uploadedDate : Option String
  expired : Option Bool
  processingState : Option String
  minOsVersion : Option String
  expirationDate : Option String
  computedMinMacOsVersion : Option String
  computedMinVisionOsVersion : Option String
  buildAudienceType : Option String
  usesNonExemptEncryption : Option Bool
  iconAssetToken : Option IconAssetToken

def BuildAttributes.decode : Decoder BuildAttributes := struct do
  let version ← optional "version" string
  let uploadedDate ← optional "uploadedDate" string
  let expired ← optional "expired" boolean
  let processingState ← optional "processingState" string
  let minOsVersion ← optional "minOsVersion" string
  let expirationDate ← optional "expirationDate" string
  let computedMinMacOsVersion ← optional "computedMinMacOsVersion" string
  let computedMinVisionOsVersion ← optional "computedMinVisionOsVersion" string
  let buildAudienceType ← optional "buildAudienceType" string
  let usesNonExemptEncryption ← optional "usesNonExemptEncryption" boolean
  let iconAssetToken ← optional "iconAssetToken" IconAssetToken.decode
  pure ⟨version, uploadedDate, expired, processingState, minOsVersion, expirationDate, computedMinMacOsVersion,
    computedMinVisionOsVersion, buildAudienceType, usesNonExemptEncryption, iconAssetToken⟩

def BuildAttributes.default : BuildAttributes :=
  ⟨none, none, none, none, none, none, none, none, none, none, none⟩

structure BuildRelationships where
  preReleaseVersion : ToOneRelationship
  buildBetaDetail : ToOneRelationship
  betaAppReviewSubmission : ToOneRelationship
  betaGroups : ToManyRelationship
  betaBuildLocalizations : ToManyRelationship

def BuildRelationships.decode : Decoder BuildRelationships := struct do
  let preReleaseVersion ← toOne "preReleaseVersion"
  let buildBetaDetail ← toOne "buildBetaDetail"
  let betaAppReviewSubmission ← toOne "betaAppReviewSubmission"
  let betaGroups ← toMany "betaGroups"
  let betaBuildLocalizations ← toMany "betaBuildLocalizations"
  pure ⟨preReleaseVersion, buildBetaDetail, betaAppReviewSubmission, betaGroups, betaBuildLocalizations⟩

abbrev BuildResource := LinkedResource BuildAttributes BuildRelationships

def BuildResource.decode : Decoder BuildResource :=
  LinkedResource.decode BuildAttributes.decode .default BuildRelationships.decode
    ⟨⟨none⟩, ⟨none⟩, ⟨none⟩, ⟨[]⟩, ⟨[]⟩⟩

structure PreReleaseVersionAttributes where
  version : Option String
  platform : Option String

def PreReleaseVersionAttributes.decode : Decoder PreReleaseVersionAttributes := struct do
  let version ← optional "version" string
  let platform ← optional "platform" string
  pure ⟨version, platform⟩

structure BuildBetaDetailAttributes where
  externalBuildState : Option String
  internalBuildState : Option String
  autoNotifyEnabled : Option Bool

def BuildBetaDetailAttributes.decode : Decoder BuildBetaDetailAttributes := struct do
  let externalBuildState ← optional "externalBuildState" string
  let internalBuildState ← optional "internalBuildState" string
  let autoNotifyEnabled ← optional "autoNotifyEnabled" boolean
  pure ⟨externalBuildState, internalBuildState, autoNotifyEnabled⟩

structure BetaAppReviewSubmissionAttributes where
  betaReviewState : Option String
  submittedDate : Option String

def BetaAppReviewSubmissionAttributes.decode : Decoder BetaAppReviewSubmissionAttributes := struct do
  let betaReviewState ← optional "betaReviewState" string
  let submittedDate ← optional "submittedDate" string
  pure ⟨betaReviewState, submittedDate⟩

inductive BuildIncluded where
  | preReleaseVersions (resource : Resource PreReleaseVersionAttributes)
  | buildBetaDetails (resource : Resource BuildBetaDetailAttributes)
  | betaAppReviewSubmissions (resource : Resource BetaAppReviewSubmissionAttributes)
  | betaGroups (resource : BetaGroupResource)
  | betaBuildLocalizations (resource : BetaBuildLocalizationResource)
  | other

def BuildIncluded.decode : Decoder BuildIncluded :=
  tagged "type" (fun
    | "preReleaseVersions" => some fun content =>
        (Resource.decode PreReleaseVersionAttributes.decode ⟨none, none⟩ content).map .preReleaseVersions
    | "buildBetaDetails" => some fun content =>
        (Resource.decode BuildBetaDetailAttributes.decode ⟨none, none, none⟩ content).map .buildBetaDetails
    | "betaAppReviewSubmissions" => some fun content =>
        (Resource.decode BetaAppReviewSubmissionAttributes.decode ⟨none, none⟩ content).map .betaAppReviewSubmissions
    | "betaGroups" => some fun content => (BetaGroupResource.decode content).map .betaGroups
    | "betaBuildLocalizations" => some fun content =>
        (BetaBuildLocalizationResource.decode content).map .betaBuildLocalizations
    | _ => none) (some .other)

structure IncludedIndex where
  preReleaseVersions : HashMap String PreReleaseVersionAttributes
  buildBetaDetails : HashMap String BuildBetaDetailAttributes
  betaAppReviewSubmissions : HashMap String BetaAppReviewSubmissionAttributes
  betaGroups : HashMap String BetaGroupResource
  betaBuildLocalizations : HashMap String BetaBuildLocalizationResource

def IncludedIndex.default : IncludedIndex := ⟨∅, ∅, ∅, ∅, ∅⟩

def IncludedIndex.add (index : IncludedIndex) : BuildIncluded → IncludedIndex
  | .preReleaseVersions resource =>
      { index with preReleaseVersions := index.preReleaseVersions.insert resource.id resource.attributes }
  | .buildBetaDetails resource =>
      { index with buildBetaDetails := index.buildBetaDetails.insert resource.id resource.attributes }
  | .betaAppReviewSubmissions resource =>
      { index with betaAppReviewSubmissions := index.betaAppReviewSubmissions.insert resource.id resource.attributes }
  | .betaGroups resource => { index with betaGroups := index.betaGroups.insert resource.id resource }
  | .betaBuildLocalizations resource =>
      { index with betaBuildLocalizations := index.betaBuildLocalizations.insert resource.id resource }
  | .other => index

def IncludedIndex.fromIncluded (included : List BuildIncluded) : IncludedIndex :=
  included.foldl IncludedIndex.add IncludedIndex.default

structure BuildInfo where
  id : String
  appId : String
  version : Option String
  uploadedDate : Option String
  expired : Option Bool
  processingState : Option String
  minOsVersion : Option String
  expirationDate : Option String
  marketingVersion : Option String
  platform : Option String
  externalBuildState : Option String
  internalBuildState : Option String
  autoNotifyEnabled : Option Bool
  betaReviewState : Option String
  submittedDate : Option String
  computedMinMacOsVersion : Option String
  computedMinVisionOsVersion : Option String
  buildAudienceType : Option String
  usesNonExemptEncryption : Option Bool
  iconUrl : Option String
deriving DecidableEq

def buildInfoFrom (appId : String) (included : IncludedIndex) (resource : BuildResource) : BuildInfo :=
  let attributes := resource.attributes
  let relationships := resource.relationships
  let preRelease := relationships.preReleaseVersion.data.bind fun related => included.preReleaseVersions.get related.id
  let betaDetail := relationships.buildBetaDetail.data.bind fun related => included.buildBetaDetails.get related.id
  let reviewSubmission :=
    relationships.betaAppReviewSubmission.data.bind fun related => included.betaAppReviewSubmissions.get related.id
  { id := resource.id
    appId := appId
    version := attributes.version
    uploadedDate := attributes.uploadedDate
    expired := attributes.expired
    processingState := attributes.processingState
    minOsVersion := attributes.minOsVersion
    expirationDate := attributes.expirationDate
    marketingVersion := preRelease.bind PreReleaseVersionAttributes.version
    platform := preRelease.bind PreReleaseVersionAttributes.platform
    externalBuildState := betaDetail.bind BuildBetaDetailAttributes.externalBuildState
    internalBuildState := betaDetail.bind BuildBetaDetailAttributes.internalBuildState
    autoNotifyEnabled := betaDetail.bind BuildBetaDetailAttributes.autoNotifyEnabled
    betaReviewState := reviewSubmission.bind BetaAppReviewSubmissionAttributes.betaReviewState
    submittedDate := reviewSubmission.bind BetaAppReviewSubmissionAttributes.submittedDate
    computedMinMacOsVersion := attributes.computedMinMacOsVersion
    computedMinVisionOsVersion := attributes.computedMinVisionOsVersion
    buildAudienceType := attributes.buildAudienceType
    usesNonExemptEncryption := attributes.usesNonExemptEncryption
    iconUrl := attributes.iconAssetToken.bind IconAssetToken.toIconUrl }

structure BuildsPage where
  builds : List BuildInfo
  nextToken : Option String

structure BuildDetailInfo where
  build : BuildInfo
  betaGroups : List BetaGroupInfo
  localizations : List BetaBuildLocalizationInfo

structure BuildDocument where
  data : Option BuildResource
  included : List BuildIncluded

def BuildDocument.decode : Decoder BuildDocument := struct do
  let data ← optional "data" BuildResource.decode
  let included ← defaulted "included" (vec BuildIncluded.decode) []
  pure ⟨data, included⟩

def buildDetailFrom (included : IncludedIndex) (resource : BuildResource) : BuildDetailInfo where
  build := buildInfoFrom "" included resource
  betaGroups := (resource.relationships.betaGroups.data.filterMap fun related =>
    included.betaGroups.get related.id).map (intoBetaGroupInfo "")
  localizations := (resource.relationships.betaBuildLocalizations.data.filterMap fun related =>
    included.betaBuildLocalizations.get related.id).map intoBetaBuildLocalizationInfo

namespace AppStoreClient

variable (client : AppStoreClient)

def buildsListing (appId first : String) : Listing BuildInfo :=
  .including first "BuildsResponse" "builds response" BuildResource.decode BuildIncluded.decode
    fun included => buildInfoFrom appId (.fromIncluded included)

def buildsUrl (appId : String) (limit : Nat) : String :=
  client.baseUrl ++ "/v1/builds?filter[app]=" ++ appId ++ "&sort=-uploadedDate&limit=" ++ toString limit ++
    "&include=preReleaseVersion,buildBetaDetail,betaAppReviewSubmission"

def fetchBuilds (fuel : Nat) (appId : String) (limit : Nat) : Async (List BuildInfo) :=
  client.collect fuel (buildsListing appId (client.buildsUrl appId limit)) []

def buildsPageUrl (appId : String) (platform : Option String) (processingStates : List String) (limit : Nat) : String :=
  let url := client.baseUrl ++ "/v1/builds?filter[app]=" ++ appId ++ "&sort=-uploadedDate&limit=" ++ toString limit ++
    "&include=preReleaseVersion,buildBetaDetail,betaAppReviewSubmission"
  let url := match platform with
    | some platform => url ++ ("&filter[preReleaseVersion.platform]=" ++ platform)
    | none => url
  if processingStates ≠ [] then url ++ ("&filter[processingState]=" ++ ",".intercalate processingStates) else url

-- A token is the URL of its page, fetched verbatim.
def fetchBuildsPage (appId : String) (platform : Option String) (processingStates : List String) (limit : Nat)
    (pageToken : Option String) : Async BuildsPage := do
  let url := pageToken.getD (client.buildsPageUrl appId platform processingStates limit)
  let page ← client.fetchPage (buildsListing appId url)
  pure ⟨page.1, page.2⟩

def buildsForGroupUrl (groupId : String) (limit : Nat) : String :=
  client.baseUrl ++ "/v1/builds?filter[betaGroups]=" ++ groupId ++ "&sort=-uploadedDate&limit=" ++ toString limit ++
    "&include=preReleaseVersion,buildBetaDetail,betaAppReviewSubmission"

def fetchBuildsForGroup (fuel : Nat) (groupId : String) (limit : Nat) : Async (List BuildInfo) :=
  client.collect fuel (buildsListing "" (client.buildsForGroupUrl groupId limit)) []

def fetchIconUrl (appId : String) : Async (Option String) := do
  let body ← getPage (client.baseUrl ++ "/v1/builds?filter[app]=" ++ appId ++ "&sort=-uploadedDate&limit=1")
  let page ← .ofExcept (client.parse "BuildsResponse" "builds response"
    (IncludedPage.decode BuildResource.decode BuildIncluded.decode) body)
  pure (page.data.head?.bind fun build => build.attributes.iconAssetToken.bind IconAssetToken.toIconUrl)

def buildUrl (buildId : String) : String := client.baseUrl ++ "/v1/builds/" ++ buildId

def fetchBuildDetail (buildId : String) : Async BuildDetailInfo := do
  let body ← getPage (client.buildUrl buildId ++ "?include=preReleaseVersion,buildBetaDetail," ++
    "betaAppReviewSubmission,betaGroups,betaBuildLocalizations" ++
    "&limit[betaBuildLocalizations]=50&limit[betaGroups]=50")
  let document ← .ofExcept (client.parse "BuildDocument" "build detail response" BuildDocument.decode body)
  match document.data with
  | none => .fail (.decode "build detail response: missing data")
  | some resource => pure (buildDetailFrom (.fromIncluded document.included) resource)

def fetchCurrentBuild (versionId : String) : Async (Option BuildInfo) := do
  let (status, body) ← authorized (.get (client.baseUrl ++ "/v1/appStoreVersions/" ++ versionId ++ "/build"))
  if status = 404 then pure none
  else
    let body ← Prog.ofExcept (accepted (status, body))
    let document ← .ofExcept (client.parse "BuildDocument" "current build response" BuildDocument.decode body)
    pure (document.data.map (buildInfoFrom "" .default))

def expireBuild (buildId : String) : Async Unit :=
  exchangeNoContent (.patch (client.buildUrl buildId) (updateBody "builds" buildId [("expired", .bool true)]))

def attachBuild (versionId buildId : String) : Async Unit :=
  exchangeNoContent (.patch (client.baseUrl ++ "/v1/appStoreVersions/" ++ versionId ++ "/relationships/build")
    (linkTo "builds" buildId))

def submitBuildForBetaReview (buildId : String) : Async Unit :=
  exchangeNoContent (.post (client.baseUrl ++ "/v1/betaAppReviewSubmissions")
    (relationshipsBody "betaAppReviewSubmissions" [("build", linkTo "builds" buildId)]))

def addBuildToGroups (buildId : String) (groupIds : List String) : Async Unit :=
  exchangeNoContent (.post (client.buildUrl buildId ++ "/relationships/betaGroups") (linkToMany "betaGroups" groupIds))

def removeBuildFromGroup (buildId groupId : String) : Async Unit :=
  exchangeNoContent ((Request.delete (client.betaGroupUrl groupId ++ "/relationships/builds")).withJson
    (linkToMany "builds" [buildId]))

end AppStoreClient

end StackConnect
