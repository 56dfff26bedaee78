import StackConnect.AppStore.Localizations

set_option autoImplicit false

namespace StackConnect

open Interaction Serde Rust

structure AppAttributes where
  name : Option String
  bundleId : Option String

def AppAttributes.decode : Decoder AppAttributes := struct do
  let name ← optional "name" string
  let bundleId ← optional "bundleId" string
  pure ⟨name, bundleId⟩

abbrev AppResource := Resource AppAttributes

def AppResource.decode : Decoder AppResource := Resource.decode AppAttributes.decode ⟨none, none⟩

structure AppInfo where
  id : String
  name : String
  bundleId : String
  platform : Option String
deriving DecidableEq

def intoAppInfo (resource : AppResource) : AppInfo where
  id := resource.id
  name := resource.attributes.name.getD ""
  bundleId := resource.attributes.bundleId.getD ""
  platform := none

structure AgeRatingDeclarationAttributes where
  alcoholTobaccoOrDrugUseOrReferences : Option String
  contests : Option String
  gamblingSimulated : Option String
  gunsOrOtherWeapons : Option String
  medicalOrTreatmentInformation : Option String
  profanityOrCrudeHumor : Option String
  sexualContentGraphicAndNudity : Option String
  sexualContentOrNudity : Option String
  horrorOrFearThemes : Option String
  matureOrSuggestiveThemes : Option String
  violenceCartoonOrFantasy : Option String
  violenceRealistic : Option String
  violenceRealisticProlongedGraphicOrSadistic : Option String
  isAdvertising : Option Bool
  isGambling : Option Bool
  isUnrestrictedWebAccess : Option Bool
  isUserGeneratedContent : Option Bool
  ageRatingOverrideV2 : Option String
deriving DecidableEq

def AgeRatingDeclarationAttributes.decode : Decoder AgeRatingDeclarationAttributes := struct do
  let alcoholTobaccoOrDrugUseOrReferences ← optional "alcoholTobaccoOrDrugUseOrReferences" string
  let contests ← optional "contests" string
  let gamblingSimulated ← optional "gamblingSimulated" string
  let gunsOrOtherWeapons ← optional "gunsOrOtherWeapons" string
  let medicalOrTreatmentInformation ← optional "medicalOrTreatmentInformation" string
  let profanityOrCrudeHumor ← optional "profanityOrCrudeHumor" string
  let sexualContentGraphicAndNudity ← optional "sexualContentGraphicAndNudity" string
  let sexualContentOrNudity ← optional "sexualContentOrNudity" string
  let horrorOrFearThemes ← optional "horrorOrFearThemes" string
  let matureOrSuggestiveThemes ← optional "matureOrSuggestiveThemes" string
  let violenceCartoonOrFantasy ← optional "violenceCartoonOrFantasy" string
  let violenceRealistic ← optional "violenceRealistic" string
  let violenceRealisticProlongedGraphicOrSadistic ← optional "violenceRealisticProlongedGraphicOrSadistic" string
  let isAdvertising ← optional "isAdvertising" boolean
  let isGambling ← optional "isGambling" boolean
  let isUnrestrictedWebAccess ← optional "isUnrestrictedWebAccess" boolean
  let isUserGeneratedContent ← optional "isUserGeneratedContent" boolean
  let ageRatingOverrideV2 ← optional "ageRatingOverrideV2" string
  pure ⟨alcoholTobaccoOrDrugUseOrReferences, contests, gamblingSimulated, gunsOrOtherWeapons,
    medicalOrTreatmentInformation, profanityOrCrudeHumor, sexualContentGraphicAndNudity, sexualContentOrNudity,
    horrorOrFearThemes, matureOrSuggestiveThemes, violenceCartoonOrFantasy, violenceRealistic,
    violenceRealisticProlongedGraphicOrSadistic, isAdvertising, isGambling, isUnrestrictedWebAccess,
    isUserGeneratedContent, ageRatingOverrideV2⟩

def AgeRatingDeclarationAttributes.default : AgeRatingDeclarationAttributes :=
  ⟨none, none, none, none, none, none, none, none, none, none, none, none, none, none, none, none, none, none⟩

abbrev AgeRatingDeclarationResource := Resource AgeRatingDeclarationAttributes

def AgeRatingDeclarationResource.decode : Decoder AgeRatingDeclarationResource :=
  Resource.decode AgeRatingDeclarationAttributes.decode .default

structure AgeRatingDeclarationInfo extends AgeRatingDeclarationAttributes where
  id : String
deriving DecidableEq

def intoAgeRatingDeclarationInfo (resource : AgeRatingDeclarationResource) : AgeRatingDeclarationInfo where
  toAgeRatingDeclarationAttributes := resource.attributes
  id := resource.id

structure AppInfoResourceAttributes where
  appStoreAgeRating : Option String

def AppInfoResourceAttributes.decode : Decoder AppInfoResourceAttributes := struct do
  let appStoreAgeRating ← optional "appStoreAgeRating" string
  pure ⟨appStoreAgeRating⟩

structure AppInfoResourceRelationships where
  primaryCategory : ToOneRelationship
  primarySubcategoryOne : ToOneRelationship
  secondaryCategory : ToOneRelationship
  secondarySubcategoryOne : ToOneRelationship
  ageRatingDeclaration : ToOneRelationship

def AppInfoResourceRelationships.decode : Decoder AppInfoResourceRelationships := struct do
  let primaryCategory ← toOne "primaryCategory"
  let primarySubcategoryOne ← toOne "primarySubcategoryOne"
  let secondaryCategory ← toOne "secondaryCategory"
  let secondarySubcategoryOne ← toOne "secondarySubcategoryOne"
  let ageRatingDeclaration ← toOne "ageRatingDeclaration"
  pure ⟨primaryCategory, primarySubcategoryOne, secondaryCategory, secondarySubcategoryOne, ageRatingDeclaration⟩

abbrev AppInfoResource := LinkedResource AppInfoResourceAttributes AppInfoResourceRelationships

def AppInfoResource.decode : Decoder AppInfoResource :=
  LinkedResource.decode AppInfoResourceAttributes.decode ⟨none⟩ AppInfoResourceRelationships.decode
    ⟨⟨none⟩, ⟨none⟩, ⟨none⟩, ⟨none⟩, ⟨none⟩⟩

inductive AppInfoIncluded where
  | appInfoLocalizations (resource : AppInfoLocalizationResource)
  | ageRatingDeclarations (resource : AgeRatingDeclarationResource)
  | other

def AppInfoIncluded.decode : Decoder AppInfoIncluded :=
  tagged "type" (fun
    | "appInfoLocalizations" => some fun content =>
        (AppInfoLocalizationResource.decode content).map .appInfoLocalizations
    | "ageRatingDeclarations" => some fun content =>
        (AgeRatingDeclarationResource.decode content).map .ageRatingDeclarations
    | _ => none) (some .other)

structure AppInfosResponse where
  data : List AppInfoResource
  included : List AppInfoIncluded

def AppInfosResponse.decode : Decoder AppInfosResponse := struct do
  let data ← defaulted "data" (vec AppInfoResource.decode) []
  let included ← defaulted "included" (vec AppInfoIncluded.decode) []
  pure ⟨data, included⟩

structure AppDetailAttributes where
  sku : Option String
  primaryLocale : Option String
  contentRightsDeclaration : Option String

def AppDetailAttributes.decode : Decoder AppDetailAttributes := struct do
  let sku ← optional "sku" string
  let primaryLocale ← optional "primaryLocale" string
  let contentRightsDeclaration ← optional "contentRightsDeclaration" string
  pure ⟨sku, primaryLocale, contentRightsDeclaration⟩

structure AppDetailResource where
  attributes : AppDetailAttributes

def AppDetailResource.decode : Decoder AppDetailResource := struct do
  let attributes ← defaulted "attributes" AppDetailAttributes.decode ⟨none, none, none⟩
  pure ⟨attributes⟩

structure AppInfoDetails where
  appInfoId : String
  appId : String
  sku : Option String
  primaryLocale : Option String
  contentRightsDeclaration : Option String
  primaryCategoryId : Option String
  primarySubcategoryOneId : Option String
  secondaryCategoryId : Option String
  secondarySubcategoryOneId : Option String
  ageRatingDeclarationId : Option String
  appStoreAgeRating : Option String
  localizations : List AppInfoLocalizationInfo
  ageRating : Option AgeRatingDeclarationInfo

def ToOneRelationship.id (relationship : ToOneRelationship) : Option String := relationship.data.map ResourceIdentifier.id

def includedLocalizations (included : List AppInfoIncluded) : List AppInfoLocalizationInfo :=
  included.filterMap fun
    | .appInfoLocalizations resource => some (intoAppInfoLocalizationInfo resource)
    | _ => none

def includedAgeRatings (included : List AppInfoIncluded) : HashMap String AgeRatingDeclarationInfo :=
  HashMap.collect (included.filterMap fun
    | .ageRatingDeclarations resource => some (resource.id, intoAgeRatingDeclarationInfo resource)
    | _ => none)

def appInfoDetailsFrom (appId : String) (included : List AppInfoIncluded) (appInfo : AppInfoResource)
    (app : AppDetailAttributes) : AppInfoDetails where
  appInfoId := appInfo.id
  appId := appId
  sku := app.sku
  primaryLocale := app.primaryLocale
  contentRightsDeclaration := app.contentRightsDeclaration
  primaryCategoryId := appInfo.relationships.primaryCategory.id
  primarySubcategoryOneId := appInfo.relationships.primarySubcategoryOne.id
  secondaryCategoryId := appInfo.relationships.secondaryCategory.id
  secondarySubcategoryOneId := appInfo.relationships.secondarySubcategoryOne.id
  ageRatingDeclarationId := appInfo.relationships.ageRatingDeclaration.id
  appStoreAgeRating := appInfo.attributes.appStoreAgeRating
  localizations := includedLocalizations included
  ageRating := appInfo.relationships.ageRatingDeclaration.id.bind (includedAgeRatings included).get

structure AppCategoryResource where
  id : String
  subcategories : ToManyRelationship

def AppCategoryResource.decode : Decoder AppCategoryResource := struct do
  let id ← required "id" string
  let subcategories ← defaulted "relationships" (struct (toMany "subcategories")) ⟨[]⟩
  pure ⟨id, subcategories⟩

structure AppCategoryInfo where
  id : String
  subcategoryIds : List String
deriving DecidableEq

def intoAppCategoryInfo (resource : AppCategoryResource) : AppCategoryInfo where
  id := resource.id
  subcategoryIds := resource.subcategories.data.map ResourceIdentifier.id

structure AgeRatingAnswers where
  alcoholTobacco : String
  contests : String
  gamblingSimulated : String
  gunsOrOtherWeapons : String
  medicalInformation : String
  profanity : String
  sexualContentGraphic : String
  sexualContentOrNudity : String
  horrorOrFear : String
  matureOrSuggestive : String
  violenceCartoon : String
  violenceRealistic : String
  violenceGraphic : String
  isAdvertising : Bool
  isGambling : Bool
  isUnrestrictedWebAccess : Bool
  isUserGeneratedContent : Bool
  ageRatingOverride : String

def AgeRatingAnswers.attributes (answers : AgeRatingAnswers) : List (String × Json) :=
  [("alcoholTobaccoOrDrugUseOrReferences", .str answers.alcoholTobacco), ("contests", .str answers.contests),
    ("gamblingSimulated", .str answers.gamblingSimulated), ("gunsOrOtherWeapons", .str answers.gunsOrOtherWeapons),
    ("medicalOrTreatmentInformation", .str answers.medicalInformation),
    ("profanityOrCrudeHumor", .str answers.profanity),
    ("sexualContentGraphicAndNudity", .str answers.sexualContentGraphic),
    ("sexualContentOrNudity", .str answers.sexualContentOrNudity), ("horrorOrFearThemes", .str answers.horrorOrFear),
    ("matureOrSuggestiveThemes", .str answers.matureOrSuggestive),
    ("violenceCartoonOrFantasy", .str answers.violenceCartoon), ("violenceRealistic", .str answers.violenceRealistic),
    ("violenceRealisticProlongedGraphicOrSadistic", .str answers.violenceGraphic),
    ("isAdvertising", .bool answers.isAdvertising), ("isGambling", .bool answers.isGambling),
    ("isUnrestrictedWebAccess", .bool answers.isUnrestrictedWebAccess),
    ("isUserGeneratedContent", .bool answers.isUserGeneratedContent),
    ("ageRatingOverrideV2", .str answers.ageRatingOverride)]

namespace AppStoreClient

variable (client : AppStoreClient)

def appUrl (id : String) : String := client.baseUrl ++ "/v1/apps/" ++ id

-- A cheap credential check; only here a refusal is an authentication error.
def validate : Async Unit := do
  let (status, body) ← authorized (.get (client.baseUrl ++ "/v1/apps?limit=1"))
  if isSuccess status then pure () else .fail (mapErrorResponse status body)

def appsListing : Listing AppInfo :=
  .plain (client.baseUrl ++ "/v1/apps") "AppsResponse" "apps response" AppResource.decode intoAppInfo

def fetchApps (fuel : Nat) : Async (List AppInfo) := client.collect fuel client.appsListing []

def fetchAppInfo (appId : String) : Async AppInfoDetails := do
  let body ← getPage (client.appUrl appId ++ "/appInfos?include=ageRatingDeclaration,appInfoLocalizations," ++
    "primaryCategory,primarySubcategoryOne,secondaryCategory,secondarySubcategoryOne" ++
    "&limit=1&limit[appInfoLocalizations]=50")
  let page ← .ofExcept (client.parse "AppInfosResponse" "app infos response" AppInfosResponse.decode body)
  match page.data with
  | [] => .fail (.http 404 ("no app info found for app " ++ appId))
  | appInfo :: _ =>
      let body ← getPage (client.appUrl appId ++ "?fields[apps]=sku,primaryLocale,contentRightsDeclaration")
      let document ← .ofExcept (client.parse "AppDetailDocument" "app detail response"
        (Document.decode AppDetailResource.decode) body)
      pure (appInfoDetailsFrom appId page.included appInfo document.data.attributes)

def appCategoriesListing : Listing AppCategoryInfo :=
  .plain (client.baseUrl ++ "/v1/appCategories?filter[platforms]=IOS&exists[parent]=false&include=subcategories")
    "AppCategoriesResponse" "app categories response" AppCategoryResource.decode intoAppCategoryInfo

def fetchAppCategories (fuel : Nat) : Async (List AppCategoryInfo) := client.collect fuel client.appCategoriesListing []

def updateAppInfoCategory (appInfoId : String)
    (primaryCategoryId subcategoryOneId secondaryCategoryId secondarySubcategoryOneId : Option String) : Async Unit := do
  let token ← bearerToken
  patchNoContent (client.baseUrl ++ "/v1/appInfos/" ++ appInfoId) token (.obj [("data", .obj
    [("type", .str "appInfos"), ("id", .str appInfoId),
     ("relationships", .obj
       (insertSome "primaryCategory" (linkTo "appCategories") primaryCategoryId ++
        insertSome "primarySubcategoryOne" (linkTo "appCategories") subcategoryOneId ++
        insertSome "secondaryCategory" (linkTo "appCategories") secondaryCategoryId ++
        insertSome "secondarySubcategoryOne" (linkTo "appCategories") secondarySubcategoryOneId))])])

def updateApp (id : String) (contentRightsDeclaration primaryLocale : Option String) : Async Unit := do
  let token ← bearerToken
  patchNoContent (client.appUrl id) token (updateBody "apps" id
    (insertSome "contentRightsDeclaration" .str contentRightsDeclaration ++ insertSome "primaryLocale" .str primaryLocale))

def updateAgeRating (id : String) (answers : AgeRatingAnswers) : Async Unit := do
  let token ← bearerToken
  patchNoContent (client.baseUrl ++ "/v1/ageRatingDeclarations/" ++ id) token
    (updateBody "ageRatingDeclarations" id answers.attributes)

end AppStoreClient

end StackConnect
