import StackConnect.AppStore.Accessibility
import StackConnect.AppStore.Apps
import StackConnect.AppStore.Calls
import StackConnect.AppStore.Provisioning
import StackConnect.AppStore.ReviewDetails
import StackConnect.AppStore.Versions
import StackConnect.Serde.Updates
import Mathlib.Logic.Function.Basic

set_option autoImplicit false

namespace StackConnect

open Interaction Serde

def AppStoreClient.resourceUrl (client : AppStoreClient) (type id : String) : String :=
  client.baseUrl ++ ("/v1/" ++ type ++ "/") ++ id

inductive PartialUpdate where
  | updateAppReviewDetail (detailId : String) (patch : ReviewDetailPatch)
  | updateBetaAppReviewDetail (detailId : String) (patch : ReviewDetailPatch)
  | updateLocalization (id : String) (description keywords promotionalText supportUrl marketingUrl whatsNew : Option String)
  | updateAppInfoLocalization (id name : String) (subtitle : Option String)
  | updateAppInfoLocalizationPrivacy (id : String) (privacyPolicyUrl privacyChoicesUrl privacyPolicyText : Option String)
  | updateVersion (id : String) (versionString copyright releaseType earliestReleaseDate : Option String)
  | updateAccessibilityDeclaration (id : String) (answers : AccessibilityAnswers)
  | updateAgeRating (id : String) (answers : AgeRatingAnswers)
  | updateDevice (id : String) (name status : Option String)

namespace PartialUpdate

abbrev Result : PartialUpdate → Type
  | updateAppReviewDetail .. => AppReviewDetailInfo
  | updateBetaAppReviewDetail .. => BetaAppReviewDetailInfo
  | updateAppInfoLocalization .. | updateAppInfoLocalizationPrivacy .. => AppInfoLocalizationInfo
  | updateAccessibilityDeclaration .. => AccessibilityDeclarationInfo
  | updateLocalization .. | updateVersion .. | updateAgeRating .. | updateDevice .. => Unit

def run (client : AppStoreClient) : (update : PartialUpdate) → Async update.Result
  | updateAppReviewDetail detailId patch => client.updateAppReviewDetail detailId patch
  | updateBetaAppReviewDetail detailId patch => client.updateBetaAppReviewDetail detailId patch
  | updateLocalization id description keywords promotionalText supportUrl marketingUrl whatsNew =>
      client.updateLocalization id description keywords promotionalText supportUrl marketingUrl whatsNew
  | updateAppInfoLocalization id name subtitle => client.updateAppInfoLocalization id name subtitle
  | updateAppInfoLocalizationPrivacy id privacyPolicyUrl privacyChoicesUrl privacyPolicyText =>
      client.updateAppInfoLocalizationPrivacy id privacyPolicyUrl privacyChoicesUrl privacyPolicyText
  | updateVersion id versionString copyright releaseType earliestReleaseDate =>
      client.updateVersion id versionString copyright releaseType earliestReleaseDate
  | updateAccessibilityDeclaration id answers => client.updateAccessibilityDeclaration id answers
  | updateAgeRating id answers => client.updateAgeRating id answers
  | updateDevice id name status => client.updateDevice id name status

def type : PartialUpdate → String
  | updateAppReviewDetail .. => "appStoreReviewDetails"
  | updateBetaAppReviewDetail .. => "betaAppReviewDetails"
  | updateLocalization .. => "appStoreVersionLocalizations"
  | updateAppInfoLocalization .. | updateAppInfoLocalizationPrivacy .. => "appInfoLocalizations"
  | updateVersion .. => "appStoreVersions"
  | updateAccessibilityDeclaration .. => "accessibilityDeclarations"
  | updateAgeRating .. => "ageRatingDeclarations"
  | updateDevice .. => "devices"

def id : PartialUpdate → String
  | updateAppReviewDetail id _ | updateBetaAppReviewDetail id _ | updateLocalization id .. | updateAppInfoLocalization id ..
  | updateAppInfoLocalizationPrivacy id .. | updateVersion id .. | updateAccessibilityDeclaration id _
  | updateAgeRating id _ | updateDevice id .. => id

abbrev Attributes : PartialUpdate → Type
  | updateAppReviewDetail .. => AppReviewDetailAttributes
  | updateBetaAppReviewDetail .. => BetaAppReviewDetailAttributes
  | updateLocalization .. => AppStoreLocalizationAttributes
  | updateAppInfoLocalization .. | updateAppInfoLocalizationPrivacy .. => AppInfoLocalizationAttributes
  | updateVersion .. => AppStoreVersionResourceAttributes
  | updateAccessibilityDeclaration .. => AccessibilityDeclarationAttributes
  | updateAgeRating .. => AgeRatingDeclarationAttributes
  | updateDevice .. => DeviceAttributes

def decode : (update : PartialUpdate) → Decoder update.Attributes
  | updateAppReviewDetail .. => AppReviewDetailAttributes.decode
  | updateBetaAppReviewDetail .. => BetaAppReviewDetailAttributes.decode
  | updateLocalization .. => AppStoreLocalizationAttributes.decode
  | updateAppInfoLocalization .. | updateAppInfoLocalizationPrivacy .. => AppInfoLocalizationAttributes.decode
  | updateVersion .. => AppStoreVersionResourceAttributes.decode
  | updateAccessibilityDeclaration .. => AccessibilityDeclarationAttributes.decode
  | updateAgeRating .. => AgeRatingDeclarationAttributes.decode
  | updateDevice .. => DeviceAttributes.decode

def sent : PartialUpdate → List (String × Json)
  | updateAppReviewDetail _ patch | updateBetaAppReviewDetail _ patch => patch.attributes
  | updateLocalization _ description keywords promotionalText supportUrl marketingUrl whatsNew =>
      AppStoreClient.updateLocalizationAttributes description keywords promotionalText supportUrl marketingUrl whatsNew
  | updateAppInfoLocalization _ name subtitle => ("name", .str name) :: insertSome "subtitle" .str subtitle
  | updateAppInfoLocalizationPrivacy _ privacyPolicyUrl privacyChoicesUrl privacyPolicyText =>
      insertSome "privacyPolicyUrl" .str privacyPolicyUrl ++ insertSome "privacyChoicesUrl" .str privacyChoicesUrl ++
        insertSome "privacyPolicyText" .str privacyPolicyText
  | updateVersion _ versionString copyright releaseType earliestReleaseDate =>
      insertSome "versionString" .str versionString ++ insertSome "copyright" .str copyright ++
        insertSome "releaseType" .str releaseType ++ insertSome "earliestReleaseDate" .str earliestReleaseDate
  | updateAccessibilityDeclaration _ answers => answers.attributes
  | updateAgeRating _ answers => answers.attributes
  | updateDevice _ name status => insertSome "name" .str name ++ insertSome "status" .str status

-- What an update should mean to a reader: each argument that is given takes the
-- place of the field of its name, and the other fields stay.
def replaced : (update : PartialUpdate) → update.Attributes → update.Attributes
  | updateAppReviewDetail _ patch, old =>
      { old with
        contactFirstName := patch.contactFirstName.or old.contactFirstName
        contactLastName := patch.contactLastName.or old.contactLastName
        contactEmail := patch.contactEmail.or old.contactEmail
        contactPhone := patch.contactPhone.or old.contactPhone
        notes := patch.notes.or old.notes
        demoAccountName := patch.demoAccountName.or old.demoAccountName
        demoAccountPassword := patch.demoAccountPassword.or old.demoAccountPassword
        isDemoAccountRequired := patch.isDemoAccountRequired.or old.isDemoAccountRequired }
  | updateBetaAppReviewDetail _ patch, old =>
      { old with
        contactFirstName := patch.contactFirstName.or old.contactFirstName
        contactLastName := patch.contactLastName.or old.contactLastName
        contactEmail := patch.contactEmail.or old.contactEmail
        contactPhone := patch.contactPhone.or old.contactPhone
        demoAccountName := patch.demoAccountName.or old.demoAccountName
        demoAccountPassword := patch.demoAccountPassword.or old.demoAccountPassword
        isDemoAccountRequired := patch.isDemoAccountRequired.or old.isDemoAccountRequired
        notes := patch.notes.or old.notes }
  | updateLocalization _ description keywords promotionalText supportUrl marketingUrl whatsNew, old =>
      { old with
        description := description.or old.description
        keywords := keywords.or old.keywords
        promotionalText := promotionalText.or old.promotionalText
        supportUrl := supportUrl.or old.supportUrl
        marketingUrl := marketingUrl.or old.marketingUrl
        whatsNew := whatsNew.or old.whatsNew }
  | updateAppInfoLocalization _ name subtitle, old =>
      { old with name := some name, subtitle := subtitle.or old.subtitle }
  | updateAppInfoLocalizationPrivacy _ privacyPolicyUrl privacyChoicesUrl privacyPolicyText, old =>
      { old with
        privacyPolicyUrl := privacyPolicyUrl.or old.privacyPolicyUrl
        privacyChoicesUrl := privacyChoicesUrl.or old.privacyChoicesUrl
        privacyPolicyText := privacyPolicyText.or old.privacyPolicyText }
  | updateVersion _ versionString copyright releaseType _, old =>
      { old with
        versionString := versionString.or old.versionString
        copyright := copyright.or old.copyright
        releaseType := releaseType.or old.releaseType }
  | updateAccessibilityDeclaration _ answers, old =>
      { old with
        supportsAudioDescriptions := some answers.supportsAudioDescriptions
        supportsCaptions := some answers.supportsCaptions
        supportsDarkInterface := some answers.supportsDarkInterface
        supportsDifferentiateWithoutColor := some answers.supportsDifferentiateWithoutColor
        supportsLargerText := some answers.supportsLargerText
        supportsReducedMotion := some answers.supportsReducedMotion
        supportsSufficientContrast := some answers.supportsSufficientContrast
        supportsVoiceControl := some answers.supportsVoiceControl
        supportsVoiceover := some answers.supportsVoiceover }
  | updateAgeRating _ answers, old =>
      { old with
        alcoholTobaccoOrDrugUseOrReferences := some answers.alcoholTobacco
        contests := some answers.contests
        gamblingSimulated := some answers.gamblingSimulated
        gunsOrOtherWeapons := some answers.gunsOrOtherWeapons
        medicalOrTreatmentInformation := some answers.medicalInformation
        profanityOrCrudeHumor := some answers.profanity
        sexualContentGraphicAndNudity := some answers.sexualContentGraphic
        sexualContentOrNudity := some answers.sexualContentOrNudity
        horrorOrFearThemes := some answers.horrorOrFear
        matureOrSuggestiveThemes := some answers.matureOrSuggestive
        violenceCartoonOrFantasy := some answers.violenceCartoon
        violenceRealistic := some answers.violenceRealistic
        violenceRealisticProlongedGraphicOrSadistic := some answers.violenceGraphic
        isAdvertising := some answers.isAdvertising
        isGambling := some answers.isGambling
        isUnrestrictedWebAccess := some answers.isUnrestrictedWebAccess
        isUserGeneratedContent := some answers.isUserGeneratedContent
        ageRatingOverrideV2 := some answers.ageRatingOverride }
  | updateDevice _ name status, old => { old with name := name.or old.name, status := status.or old.status }

def Replaces (update : PartialUpdate) : Prop :=
  ∀ stored old, update.decode (.obj stored) = some old →
    update.decode (.obj (overwrite stored update.sent)) = some (update.replaced old)

theorem app_review_detail_replaced (detailId : String) (patch : ReviewDetailPatch) :
    Replaces (.updateAppReviewDetail detailId patch) := by
  intro stored old shown
  apply struct_updates _ stored _ _ _ old shown
  apply updates_text patch.contactFirstName
  intro contactFirstName
  apply updates_text patch.contactLastName
  intro contactLastName
  apply updates_text patch.contactEmail
  intro contactEmail
  apply updates_text patch.contactPhone
  intro contactPhone
  apply updates_text patch.notes
  intro notes
  apply updates_text patch.demoAccountName
  intro demoAccountName
  apply updates_text patch.demoAccountPassword
  intro demoAccountPassword
  apply updates_flag patch.isDemoAccountRequired
  intro isDemoAccountRequired
  · exact updates_pure _ _ rfl
  all_goals simp [sent, ReviewDetailPatch.attributes, occurrences_append]

theorem beta_app_review_detail_replaced (detailId : String) (patch : ReviewDetailPatch) :
    Replaces (.updateBetaAppReviewDetail detailId patch) := by
  intro stored old shown
  apply struct_updates _ stored _ _ _ old shown
  apply updates_text patch.contactFirstName
  intro contactFirstName
  apply updates_text patch.contactLastName
  intro contactLastName
  apply updates_text patch.contactEmail
  intro contactEmail
  apply updates_text patch.contactPhone
  intro contactPhone
  apply updates_text patch.demoAccountName
  intro demoAccountName
  apply updates_text patch.demoAccountPassword
  intro demoAccountPassword
  apply updates_flag patch.isDemoAccountRequired
  intro isDemoAccountRequired
  apply updates_text patch.notes
  intro notes
  · exact updates_pure _ _ rfl
  all_goals simp [sent, ReviewDetailPatch.attributes, occurrences_append]

theorem localization_replaced (id : String)
    (description keywords promotionalText supportUrl marketingUrl whatsNew : Option String) :
    Replaces (.updateLocalization id description keywords promotionalText supportUrl marketingUrl whatsNew) := by
  intro stored old shown
  apply struct_updates _ stored _ _ _ old shown
  apply updates_kept
  intro locale
  apply updates_text description
  intro oldDescription
  apply updates_text keywords
  intro oldKeywords
  apply updates_text promotionalText
  intro oldPromotionalText
  apply updates_text supportUrl
  intro oldSupportUrl
  apply updates_text marketingUrl
  intro oldMarketingUrl
  apply updates_text whatsNew
  intro oldWhatsNew
  · exact updates_pure _ _ rfl
  all_goals simp [sent, AppStoreClient.updateLocalizationAttributes, occurrences_append]

theorem app_info_localization_replaced (id name : String) (subtitle : Option String) :
    Replaces (.updateAppInfoLocalization id name subtitle) := by
  intro stored old shown
  apply struct_updates _ stored _ _ _ old shown
  apply updates_kept
  intro locale
  apply updates_text (some name)
  intro oldName
  apply updates_text subtitle
  intro oldSubtitle
  apply updates_kept
  intro privacyPolicyUrl
  apply updates_kept
  intro privacyChoicesUrl
  apply updates_kept
  intro privacyPolicyText
  · exact updates_pure _ _ rfl
  all_goals simp [sent]

theorem app_info_localization_privacy_replaced (id : String)
    (privacyPolicyUrl privacyChoicesUrl privacyPolicyText : Option String) :
    Replaces (.updateAppInfoLocalizationPrivacy id privacyPolicyUrl privacyChoicesUrl privacyPolicyText) := by
  intro stored old shown
  apply struct_updates _ stored _ _ _ old shown
  apply updates_kept
  intro locale
  apply updates_kept
  intro name
  apply updates_kept
  intro subtitle
  apply updates_text privacyPolicyUrl
  intro oldPrivacyPolicyUrl
  apply updates_text privacyChoicesUrl
  intro oldPrivacyChoicesUrl
  apply updates_text privacyPolicyText
  intro oldPrivacyPolicyText
  · exact updates_pure _ _ rfl
  all_goals simp [sent, occurrences_append]

theorem version_replaced (id : String) (versionString copyright releaseType earliestReleaseDate : Option String) :
    Replaces (.updateVersion id versionString copyright releaseType earliestReleaseDate) := by
  intro stored old shown
  apply struct_updates _ stored _ _ _ old shown
  apply updates_kept
  intro platform
  apply updates_kept
  intro appStoreState
  apply updates_kept
  intro appVersionState
  apply updates_text versionString
  intro oldVersionString
  apply updates_text copyright
  intro oldCopyright
  apply updates_text releaseType
  intro oldReleaseType
  apply updates_kept
  intro createdDate
  · exact updates_pure _ _ rfl
  all_goals simp [sent, occurrences_append]

theorem accessibility_declaration_replaced (id : String) (answers : AccessibilityAnswers) :
    Replaces (.updateAccessibilityDeclaration id answers) := by
  intro stored old shown
  apply struct_updates _ stored _ _ _ old shown
  apply updates_kept
  intro deviceFamily
  apply updates_kept
  intro state
  apply updates_flag (some answers.supportsAudioDescriptions)
  intro supportsAudioDescriptions
  apply updates_flag (some answers.supportsCaptions)
  intro supportsCaptions
  apply updates_flag (some answers.supportsDarkInterface)
  intro supportsDarkInterface
  apply updates_flag (some answers.supportsDifferentiateWithoutColor)
  intro supportsDifferentiateWithoutColor
  apply updates_flag (some answers.supportsLargerText)
  intro supportsLargerText
  apply updates_flag (some answers.supportsReducedMotion)
  intro supportsReducedMotion
  apply updates_flag (some answers.supportsSufficientContrast)
  intro supportsSufficientContrast
  apply updates_flag (some answers.supportsVoiceControl)
  intro supportsVoiceControl
  apply updates_flag (some answers.supportsVoiceover)
  intro supportsVoiceover
  · exact updates_pure _ _ rfl
  all_goals (rw [sent, AccessibilityAnswers.attributes]; cases answers.publish <;> rfl)

theorem age_rating_replaced (id : String) (answers : AgeRatingAnswers) :
    Replaces (.updateAgeRating id answers) := by
  intro stored old shown
  apply struct_updates _ stored _ _ _ old shown
  apply updates_text (some answers.alcoholTobacco)
  intro alcoholTobacco
  apply updates_text (some answers.contests)
  intro contests
  apply updates_text (some answers.gamblingSimulated)
  intro gamblingSimulated
  apply updates_text (some answers.gunsOrOtherWeapons)
  intro gunsOrOtherWeapons
  apply updates_text (some answers.medicalInformation)
  intro medicalInformation
  apply updates_text (some answers.profanity)
  intro profanity
  apply updates_text (some answers.sexualContentGraphic)
  intro sexualContentGraphic
  apply updates_text (some answers.sexualContentOrNudity)
  intro sexualContentOrNudity
  apply updates_text (some answers.horrorOrFear)
  intro horrorOrFear
  apply updates_text (some answers.matureOrSuggestive)
  intro matureOrSuggestive
  apply updates_text (some answers.violenceCartoon)
  intro violenceCartoon
  apply updates_text (some answers.violenceRealistic)
  intro violenceRealistic
  apply updates_text (some answers.violenceGraphic)
  intro violenceGraphic
  apply updates_flag (some answers.isAdvertising)
  intro isAdvertising
  apply updates_flag (some answers.isGambling)
  intro isGambling
  apply updates_flag (some answers.isUnrestrictedWebAccess)
  intro isUnrestrictedWebAccess
  apply updates_flag (some answers.isUserGeneratedContent)
  intro isUserGeneratedContent
  apply updates_text (some answers.ageRatingOverride)
  intro ageRatingOverride
  · exact updates_pure _ _ rfl
  all_goals rfl

theorem device_replaced (id : String) (name status : Option String) :
    Replaces (.updateDevice id name status) := by
  intro stored old shown
  apply struct_updates _ stored _ _ _ old shown
  apply updates_text name
  intro oldName
  apply updates_kept
  intro udid
  apply updates_kept
  intro platform
  apply updates_kept
  intro deviceClass
  apply updates_kept
  intro model
  apply updates_text status
  intro oldStatus
  apply updates_kept
  intro addedDate
  · exact updates_pure _ _ rfl
  all_goals simp [sent, occurrences_append]

theorem replaces (update : PartialUpdate) : Replaces update := by
  cases update with
  | updateAppReviewDetail detailId patch => exact app_review_detail_replaced detailId patch
  | updateBetaAppReviewDetail detailId patch => exact beta_app_review_detail_replaced detailId patch
  | updateLocalization id => exact localization_replaced id _ _ _ _ _ _
  | updateAppInfoLocalization id name subtitle => exact app_info_localization_replaced id name subtitle
  | updateAppInfoLocalizationPrivacy id => exact app_info_localization_privacy_replaced id _ _ _
  | updateVersion id => exact version_replaced id _ _ _ _
  | updateAccessibilityDeclaration id answers => exact accessibility_declaration_replaced id answers
  | updateAgeRating id answers => exact age_rating_replaced id answers
  | updateDevice id name status => exact device_replaced id name status

theorem run_is_one_patch (client : AppStoreClient) (update : PartialUpdate) :
    ∃ judge : String → Except StackError update.Result, update.run client =
      exchange (.patch (client.resourceUrl update.type update.id) (updateBody update.type update.id update.sent)) >>=
        fun body => .done (judge body) := by
  have documented : ∀ {ρ β : Type} (request : Request) (type label : String) (resource : Decoder ρ) (view : ρ → β),
      ∃ judge : String → Except StackError β, (client.exchangeDocument request type label resource >>= fun read =>
        .done (.ok (view read))) = exchange request >>= fun body => .done (judge body) := by
    intro ρ β request type label resource view
    rw [exchange_document_judged, Prog.bind_assoc]
    refine ⟨fun body => (client.parse type label (Document.decode resource) body >>= fun document => .ok document.data) >>=
      fun read => .ok (view read), ?_⟩
    congr 1
    funext body
    exact Prog.done_bind_done _ _
  cases update with
  | updateAppReviewDetail detailId patch =>
      refine ⟨fun body => client.parseAppReviewDetail body >>= fun document =>
        (document.data.map intoAppReviewDetailInfo).elim (.error (.decode "app review detail response: missing data")) .ok, ?_⟩
      rw [run, AppStoreClient.updateAppReviewDetail]
      congr 1
      funext body
      dsimp only
      cases client.parseAppReviewDetail body with
      | error failure => rfl
      | ok document => rcases document with ⟨_ | resource⟩ <;> rfl
  | updateBetaAppReviewDetail detailId patch => exact documented _ _ _ _ _
  | updateAppInfoLocalization id name subtitle => exact documented _ _ _ _ _
  | updateAppInfoLocalizationPrivacy id => exact documented _ _ _ _ _
  | updateAccessibilityDeclaration id answers => exact documented _ _ _ _ _
  | updateVersion id => exact ⟨fun _ => .ok (), rfl⟩
  | updateLocalization id => exact ⟨fun _ => .ok (), token_then_patch _ _⟩
  | updateAgeRating id answers => exact ⟨fun _ => .ok (), token_then_patch _ _⟩
  | updateDevice id name status => exact ⟨fun _ => .ok (), token_then_patch _ _⟩

end PartialUpdate

abbrev Resources := String × String → Option (List (String × Json))

-- A PATCH of a resource overwrites the attributes its body has and keeps the
-- others. No other request changes anything.
def Resources.after (client : AppStoreClient) (held : Resources) (request : Request) : Resources :=
  match request.method, request.body with
  | .patch, .json body =>
      match body.at ["data", "type"] >>= string, body.at ["data", "id"] >>= string, body.at ["data", "attributes"] with
      | some type, some id, some (.obj patch) =>
          if request.url = client.resourceUrl type id then
            Function.update held (type, id) ((held (type, id)).map fun attributes => overwrite attributes patch)
          else held
      | _, _, _ => held
  | _, _ => held

-- What the server answers is its own affair.
structure AttributeServer where
  token : Resources → String
  reply : Resources → Request → Nat × String

namespace AttributeServer

variable (server : AttributeServer) (client : AppStoreClient)

def handler : Handler Answer Resources where
  answer
    | .bearerToken, held => (.ok (server.token held), held)
    | .send request, held => (.ok (server.reply held request), held.after client request)
    | .stream _, held => (.error "not streamed", held)

theorem exec_judged_exchange {β : Type} (request : Request) (judge : String → Except StackError β) (held : Resources) :
    (exec (server.handler client) (exchange request >>= fun body => .done (judge body)) held).state =
      held.after client (request.bearerAuth (server.token held)) := by
  have asked : exec (server.handler client) (exchange request) held =
      ⟨some (accepted (server.reply held (request.bearerAuth (server.token held)))),
        held.after client (request.bearerAuth (server.token held)),
        [⟨.bearerToken, .ok (server.token held)⟩, ⟨.send (request.bearerAuth (server.token held)),
          .ok (server.reply held (request.bearerAuth (server.token held)))⟩]⟩ := rfl
  rw [exec_bind, asked]
  cases accepted (server.reply held (request.bearerAuth (server.token held))) <;> rfl

end AttributeServer

theorem after_patch (client : AppStoreClient) (held : Resources) (type id token : String) (patch : List (String × Json)) :
    held.after client ((Request.patch (client.resourceUrl type id) (updateBody type id patch)).bearerAuth token) =
      Function.update held (type, id) ((held (type, id)).map fun attributes => overwrite attributes patch) :=
  if_pos rfl

theorem partial_updates_are_exact (client : AppStoreClient) (server : AttributeServer) (update : PartialUpdate)
    (held : Resources) (stored : List (String × Json)) (present : held (update.type, update.id) = some stored)
    (old : update.Attributes) (shown : update.decode (.obj stored) = some old) :
    ∃ merged, (exec (server.handler client) (update.run client) held).state =
        Function.update held (update.type, update.id) (some merged) ∧
      update.decode (.obj merged) = some (update.replaced old) := by
  obtain ⟨judge, patched⟩ := update.run_is_one_patch client
  refine ⟨overwrite stored update.sent, ?_, update.replaces stored old shown⟩
  rw [patched, server.exec_judged_exchange, after_patch, present]
  rfl

def reviewDetail : List (String × Json) :=
  [("contactFirstName", .str "Ada"), ("demoAccountRequired", .bool true), ("notes", .null), ("contactNickname", .str "A")]

def reviewDetailHeld : Resources := fun key => if key = ("appStoreReviewDetails", "D1") then some reviewDetail else none

def reviewDetailPatch : ReviewDetailPatch := ⟨none, some "Lovelace", none, none, none, none, some false, some "call first"⟩

def detailClient : AppStoreClient := ⟨"https://host", .reading []⟩

def detailServer : AttributeServer := ⟨fun _ => "token", fun _ _ => (200, "")⟩

theorem review_detail_fields_replaced :
    ∃ merged, (exec (detailServer.handler detailClient) (detailClient.updateAppReviewDetail "D1" reviewDetailPatch)
          reviewDetailHeld).state = Function.update reviewDetailHeld ("appStoreReviewDetails", "D1") (some merged) ∧
      AppReviewDetailAttributes.decode (.obj merged) =
        some ⟨some "Ada", some "Lovelace", none, none, some "call first", none, none, some false⟩ :=
  partial_updates_are_exact detailClient detailServer (.updateAppReviewDetail "D1" reviewDetailPatch) reviewDetailHeld
    reviewDetail rfl ⟨some "Ada", none, none, none, none, none, none, some true⟩ rfl

end StackConnect
