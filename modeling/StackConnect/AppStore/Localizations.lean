import StackConnect.AppStore.JsonApi

set_option autoImplicit false

namespace StackConnect

open Interaction Serde

structure BetaBuildLocalizationAttributes where
  locale : Option String
  whatsNew : Option String

def BetaBuildLocalizationAttributes.decode : Decoder BetaBuildLocalizationAttributes := struct do
  let locale ← optional "locale" string
  let whatsNew ← optional "whatsNew" string
  pure ⟨locale, whatsNew⟩

abbrev BetaBuildLocalizationResource := Resource BetaBuildLocalizationAttributes

def BetaBuildLocalizationResource.decode : Decoder BetaBuildLocalizationResource :=
  Resource.decode BetaBuildLocalizationAttributes.decode ⟨none, none⟩

structure BetaBuildLocalizationInfo where
  id : String
  locale : String
  whatsNew : Option String
deriving DecidableEq

def intoBetaBuildLocalizationInfo (resource : BetaBuildLocalizationResource) : BetaBuildLocalizationInfo where
  id := resource.id
  locale := resource.attributes.locale.getD ""
  whatsNew := resource.attributes.whatsNew

structure BetaAppLocalizationAttributes where
  locale : Option String
  feedbackEmail : Option String
  description : Option String

def BetaAppLocalizationAttributes.decode : Decoder BetaAppLocalizationAttributes := struct do
  let locale ← optional "locale" string
  let feedbackEmail ← optional "feedbackEmail" string
  let description ← optional "description" string
  pure ⟨locale, feedbackEmail, description⟩

abbrev BetaAppLocalizationResource := Resource BetaAppLocalizationAttributes

def BetaAppLocalizationResource.decode : Decoder BetaAppLocalizationResource :=
  Resource.decode BetaAppLocalizationAttributes.decode ⟨none, none, none⟩

structure BetaAppLocalizationInfo where
  id : String
  locale : String
  feedbackEmail : Option String
  description : Option String
deriving DecidableEq

def intoBetaAppLocalizationInfo (resource : BetaAppLocalizationResource) : BetaAppLocalizationInfo where
  id := resource.id
  locale := resource.attributes.locale.getD ""
  feedbackEmail := resource.attributes.feedbackEmail
  description := resource.attributes.description

structure AppInfoLocalizationAttributes where
  locale : Option String
  name : Option String
  subtitle : Option String
  privacyPolicyUrl : Option String
  privacyChoicesUrl : Option String
  privacyPolicyText : Option String

def AppInfoLocalizationAttributes.decode : Decoder AppInfoLocalizationAttributes := struct do
  let locale ← optional "locale" string
  let name ← optional "name" string
  let subtitle ← optional "subtitle" string
  let privacyPolicyUrl ← optional "privacyPolicyUrl" string
  let privacyChoicesUrl ← optional "privacyChoicesUrl" string
  let privacyPolicyText ← optional "privacyPolicyText" string
  pure ⟨locale, name, subtitle, privacyPolicyUrl, privacyChoicesUrl, privacyPolicyText⟩

abbrev AppInfoLocalizationResource := Resource AppInfoLocalizationAttributes

def AppInfoLocalizationResource.decode : Decoder AppInfoLocalizationResource :=
  Resource.decode AppInfoLocalizationAttributes.decode ⟨none, none, none, none, none, none⟩

structure AppInfoLocalizationInfo where
  id : String
  locale : String
  name : Option String
  subtitle : Option String
  privacyPolicyUrl : Option String
  privacyChoicesUrl : Option String
  privacyPolicyText : Option String
deriving DecidableEq

def intoAppInfoLocalizationInfo (resource : AppInfoLocalizationResource) : AppInfoLocalizationInfo where
  id := resource.id
  locale := resource.attributes.locale.getD ""
  name := resource.attributes.name
  subtitle := resource.attributes.subtitle
  privacyPolicyUrl := resource.attributes.privacyPolicyUrl
  privacyChoicesUrl := resource.attributes.privacyChoicesUrl
  privacyPolicyText := resource.attributes.privacyPolicyText

structure AppStoreLocalizationAttributes where
  locale : Option String
  description : Option String
  keywords : Option String
  promotionalText : Option String
  supportUrl : Option String
  marketingUrl : Option String
  whatsNew : Option String

def AppStoreLocalizationAttributes.decode : Decoder AppStoreLocalizationAttributes := struct do
  let locale ← optional "locale" string
  let description ← optional "description" string
  let keywords ← optional "keywords" string
  let promotionalText ← optional "promotionalText" string
  let supportUrl ← optional "supportUrl" string
  let marketingUrl ← optional "marketingUrl" string
  let whatsNew ← optional "whatsNew" string
  pure ⟨locale, description, keywords, promotionalText, supportUrl, marketingUrl, whatsNew⟩

abbrev AppStoreLocalizationResource := Resource AppStoreLocalizationAttributes

def AppStoreLocalizationResource.decode : Decoder AppStoreLocalizationResource :=
  Resource.decode AppStoreLocalizationAttributes.decode ⟨none, none, none, none, none, none, none⟩

structure AppStoreLocalizationInfo where
  id : String
  locale : Option String
  description : Option String
  keywords : Option String
  promotionalText : Option String
  supportUrl : Option String
  marketingUrl : Option String
  whatsNew : Option String
deriving DecidableEq

def intoAppStoreLocalizationInfo (resource : AppStoreLocalizationResource) : AppStoreLocalizationInfo where
  id := resource.id
  locale := resource.attributes.locale
  description := resource.attributes.description
  keywords := resource.attributes.keywords
  promotionalText := resource.attributes.promotionalText
  supportUrl := resource.attributes.supportUrl
  marketingUrl := resource.attributes.marketingUrl
  whatsNew := resource.attributes.whatsNew

namespace AppStoreClient

variable (client : AppStoreClient)

def betaBuildLocalizationsListing (buildId : String) (limit : Nat) : Listing BetaBuildLocalizationInfo :=
  .plain (client.baseUrl ++ "/v1/betaBuildLocalizations?filter[build]=" ++ buildId ++ "&limit=" ++ toString limit)
    "BetaBuildLocalizationsResponse" "beta build localizations response" BetaBuildLocalizationResource.decode
    intoBetaBuildLocalizationInfo

def fetchBetaBuildLocalizations (fuel : Nat) (buildId : String) (limit : Nat) : Async (List BetaBuildLocalizationInfo) :=
  client.collect fuel (client.betaBuildLocalizationsListing buildId limit) []

def betaBuildLocalizationOf (request : Request) : Async BetaBuildLocalizationInfo := do
  let resource ← client.exchangeDocument request "BetaBuildLocalizationDocument" "beta build localization response"
    BetaBuildLocalizationResource.decode
  pure (intoBetaBuildLocalizationInfo resource)

def createBetaBuildLocalization (buildId locale whatsNew : String) : Async BetaBuildLocalizationInfo :=
  client.betaBuildLocalizationOf (.post (client.baseUrl ++ "/v1/betaBuildLocalizations")
    (createBody "betaBuildLocalizations" [("whatsNew", .str whatsNew), ("locale", .str locale)]
      [("build", linkTo "builds" buildId)]))

def updateBetaBuildLocalization (id whatsNew : String) : Async BetaBuildLocalizationInfo :=
  client.betaBuildLocalizationOf (.patch (client.baseUrl ++ "/v1/betaBuildLocalizations/" ++ id)
    (updateBody "betaBuildLocalizations" id [("whatsNew", .str whatsNew)]))

def betaAppLocalizationsListing (appId : String) (limit : Nat) : Listing BetaAppLocalizationInfo :=
  .plain (client.baseUrl ++ "/v1/apps/" ++ appId ++ "/betaAppLocalizations?limit=" ++ toString limit)
    "BetaAppLocalizationsResponse" "beta app localizations response" BetaAppLocalizationResource.decode
    intoBetaAppLocalizationInfo

def fetchBetaAppLocalizations (fuel : Nat) (appId : String) (limit : Nat) : Async (List BetaAppLocalizationInfo) :=
  client.collect fuel (client.betaAppLocalizationsListing appId limit) []

def betaAppLocalizationOf (request : Request) : Async BetaAppLocalizationInfo := do
  let resource ← client.exchangeDocument request "BetaAppLocalizationDocument" "beta app localization response"
    BetaAppLocalizationResource.decode
  pure (intoBetaAppLocalizationInfo resource)

def createBetaAppLocalization (appId locale : String) (feedbackEmail description : Option String) :
    Async BetaAppLocalizationInfo :=
  client.betaAppLocalizationOf (.post (client.baseUrl ++ "/v1/betaAppLocalizations")
    (createBody "betaAppLocalizations"
      (("locale", .str locale) :: insertSome "feedbackEmail" .str feedbackEmail ++ insertSome "description" .str description)
      [("app", linkTo "apps" appId)]))

def updateBetaAppLocalization (id : String) (feedbackEmail description : Option String) : Async BetaAppLocalizationInfo :=
  client.betaAppLocalizationOf (.patch (client.baseUrl ++ "/v1/betaAppLocalizations/" ++ id)
    (updateBody "betaAppLocalizations" id
      (insertSome "feedbackEmail" .str feedbackEmail ++ insertSome "description" .str description)))

def appInfoLocalizationsListing (appInfoId : String) : Listing AppInfoLocalizationInfo :=
  .plain (client.baseUrl ++ "/v1/appInfos/" ++ appInfoId ++ "/appInfoLocalizations")
    "AppInfoLocalizationsResponse" "app info localizations response" AppInfoLocalizationResource.decode
    intoAppInfoLocalizationInfo

def fetchAppInfoLocalizations (fuel : Nat) (appInfoId : String) : Async (List AppInfoLocalizationInfo) :=
  client.collect fuel (client.appInfoLocalizationsListing appInfoId) []

def appInfoLocalizationsUrl : String := client.baseUrl ++ "/v1/appInfoLocalizations"
def appInfoLocalizationUrl (id : String) : String := client.baseUrl ++ "/v1/appInfoLocalizations/" ++ id

def appInfoLocalizationOf (request : Request) : Async AppInfoLocalizationInfo := do
  let resource ← client.exchangeDocument request "AppInfoLocalizationDocument" "app info localization response"
    AppInfoLocalizationResource.decode
  pure (intoAppInfoLocalizationInfo resource)

def updateAppInfoLocalization (id name : String) (subtitle : Option String) : Async AppInfoLocalizationInfo :=
  client.appInfoLocalizationOf (.patch (client.appInfoLocalizationUrl id)
    (updateBody "appInfoLocalizations" id (("name", .str name) :: insertSome "subtitle" .str subtitle)))

def updateAppInfoLocalizationPrivacy (id : String)
    (privacyPolicyUrl privacyChoicesUrl privacyPolicyText : Option String) : Async AppInfoLocalizationInfo :=
  client.appInfoLocalizationOf (.patch (client.appInfoLocalizationUrl id)
    (updateBody "appInfoLocalizations" id
      (insertSome "privacyPolicyUrl" .str privacyPolicyUrl ++ insertSome "privacyChoicesUrl" .str privacyChoicesUrl ++
        insertSome "privacyPolicyText" .str privacyPolicyText)))

def createAppInfoLocalization (appInfoId locale name : String) (subtitle : Option String) :
    Async AppInfoLocalizationInfo :=
  client.appInfoLocalizationOf (.post client.appInfoLocalizationsUrl
    (createBody "appInfoLocalizations"
      (("locale", .str locale) :: ("name", .str name) :: insertSome "subtitle" .str subtitle)
      [("appInfo", linkTo "appInfos" appInfoId)]))

def deleteAppInfoLocalization (id : String) : Async Unit := deleteNoContent (client.appInfoLocalizationUrl id)

def localizationsListing (versionId : String) : Listing AppStoreLocalizationInfo :=
  .plain (client.baseUrl ++ "/v1/appStoreVersions/" ++ versionId ++ "/appStoreVersionLocalizations")
    "AppStoreLocalizationsResponse" "app store version localizations response" AppStoreLocalizationResource.decode
    intoAppStoreLocalizationInfo

def fetchLocalizations (fuel : Nat) (versionId : String) : Async (List AppStoreLocalizationInfo) :=
  client.collect fuel (client.localizationsListing versionId) []

def updateLocalizationAttributes (description keywords promotionalText supportUrl marketingUrl whatsNew : Option String) :
    List (String × Json) :=
  insertSome "description" .str description ++ insertSome "keywords" .str keywords ++
    insertSome "promotionalText" .str promotionalText ++ insertSome "supportUrl" .str supportUrl ++
    insertSome "marketingUrl" .str marketingUrl ++ insertSome "whatsNew" .str whatsNew

def updateLocalization (id : String)
    (description keywords promotionalText supportUrl marketingUrl whatsNew : Option String) : Async Unit := do
  let token ← bearerToken
  patchNoContent (client.baseUrl ++ "/v1/appStoreVersionLocalizations/" ++ id) token
    (updateBody "appStoreVersionLocalizations" id
      (updateLocalizationAttributes description keywords promotionalText supportUrl marketingUrl whatsNew))

end AppStoreClient

end StackConnect
