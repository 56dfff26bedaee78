import StackConnect.AppStore.JsonApi

set_option autoImplicit false

namespace StackConnect

open Interaction Serde

structure AccessibilityDeclarationAttributes where
  deviceFamily : Option String
  state : Option String
  supportsAudioDescriptions : Option Bool
  supportsCaptions : Option Bool
  supportsDarkInterface : Option Bool
  supportsDifferentiateWithoutColor : Option Bool
  supportsLargerText : Option Bool
  supportsReducedMotion : Option Bool
  supportsSufficientContrast : Option Bool
  supportsVoiceControl : Option Bool
  supportsVoiceover : Option Bool

-- One key ends in `Alone` on the wire.
def AccessibilityDeclarationAttributes.decode : Decoder AccessibilityDeclarationAttributes := struct do
  let deviceFamily ← optional "deviceFamily" string
  let state ← optional "state" string
  let supportsAudioDescriptions ← optional "supportsAudioDescriptions" boolean
  let supportsCaptions ← optional "supportsCaptions" boolean
  let supportsDarkInterface ← optional "supportsDarkInterface" boolean
  let supportsDifferentiateWithoutColor ← optional "supportsDifferentiateWithoutColorAlone" boolean
  let supportsLargerText ← optional "supportsLargerText" boolean
  let supportsReducedMotion ← optional "supportsReducedMotion" boolean
  let supportsSufficientContrast ← optional "supportsSufficientContrast" boolean
  let supportsVoiceControl ← optional "supportsVoiceControl" boolean
  let supportsVoiceover ← optional "supportsVoiceover" boolean
  pure ⟨deviceFamily, state, supportsAudioDescriptions, supportsCaptions, supportsDarkInterface,
    supportsDifferentiateWithoutColor, supportsLargerText, supportsReducedMotion, supportsSufficientContrast,
    supportsVoiceControl, supportsVoiceover⟩

abbrev AccessibilityDeclarationResource := Resource AccessibilityDeclarationAttributes

def AccessibilityDeclarationResource.decode : Decoder AccessibilityDeclarationResource :=
  Resource.decode AccessibilityDeclarationAttributes.decode
    ⟨none, none, none, none, none, none, none, none, none, none, none⟩

structure AccessibilityDeclarationInfo where
  id : String
  deviceFamily : String
  state : Option String
  supportsAudioDescriptions : Bool
  supportsCaptions : Bool
  supportsDarkInterface : Bool
  supportsDifferentiateWithoutColor : Bool
  supportsLargerText : Bool
  supportsReducedMotion : Bool
  supportsSufficientContrast : Bool
  supportsVoiceControl : Bool
  supportsVoiceover : Bool
deriving DecidableEq

def intoAccessibilityDeclarationInfo (resource : AccessibilityDeclarationResource) : AccessibilityDeclarationInfo where
  id := resource.id
  deviceFamily := resource.attributes.deviceFamily.getD ""
  state := resource.attributes.state
  supportsAudioDescriptions := resource.attributes.supportsAudioDescriptions.getD false
  supportsCaptions := resource.attributes.supportsCaptions.getD false
  supportsDarkInterface := resource.attributes.supportsDarkInterface.getD false
  supportsDifferentiateWithoutColor := resource.attributes.supportsDifferentiateWithoutColor.getD false
  supportsLargerText := resource.attributes.supportsLargerText.getD false
  supportsReducedMotion := resource.attributes.supportsReducedMotion.getD false
  supportsSufficientContrast := resource.attributes.supportsSufficientContrast.getD false
  supportsVoiceControl := resource.attributes.supportsVoiceControl.getD false
  supportsVoiceover := resource.attributes.supportsVoiceover.getD false

-- The arguments of an update, all of them sent but `publish` when it is false.
structure AccessibilityAnswers where
  publish : Bool
  supportsAudioDescriptions : Bool
  supportsCaptions : Bool
  supportsDarkInterface : Bool
  supportsDifferentiateWithoutColor : Bool
  supportsLargerText : Bool
  supportsReducedMotion : Bool
  supportsSufficientContrast : Bool
  supportsVoiceControl : Bool
  supportsVoiceover : Bool

def AccessibilityAnswers.attributes (answers : AccessibilityAnswers) : List (String × Json) :=
  (if answers.publish then [("publish", .bool true)] else []) ++
    [("supportsAudioDescriptions", .bool answers.supportsAudioDescriptions),
      ("supportsCaptions", .bool answers.supportsCaptions),
      ("supportsDarkInterface", .bool answers.supportsDarkInterface),
      ("supportsDifferentiateWithoutColorAlone", .bool answers.supportsDifferentiateWithoutColor),
      ("supportsLargerText", .bool answers.supportsLargerText),
      ("supportsReducedMotion", .bool answers.supportsReducedMotion),
      ("supportsSufficientContrast", .bool answers.supportsSufficientContrast),
      ("supportsVoiceControl", .bool answers.supportsVoiceControl),
      ("supportsVoiceover", .bool answers.supportsVoiceover)]

namespace AppStoreClient

variable (client : AppStoreClient)

def accessibilityDeclarationUrl (id : String) : String := client.baseUrl ++ "/v1/accessibilityDeclarations/" ++ id

-- Unlike the other limits this one is signed.
def accessibilityDeclarationsListing (appId : String) (limit : Int) : Listing AccessibilityDeclarationInfo :=
  .plain (client.baseUrl ++ "/v1/apps/" ++ appId ++ "/accessibilityDeclarations?limit=" ++ toString limit)
    "AccessibilityDeclarationsResponse" "accessibility declarations response" AccessibilityDeclarationResource.decode
    intoAccessibilityDeclarationInfo

def fetchAccessibilityDeclarations (fuel : Nat) (appId : String) (limit : Int) :
    Async (List AccessibilityDeclarationInfo) :=
  client.collect fuel (client.accessibilityDeclarationsListing appId limit) []

def accessibilityDeclarationOf (request : Request) : Async AccessibilityDeclarationInfo := do
  let resource ← client.exchangeDocument request "AccessibilityDeclarationDocument"
    "accessibility declaration response" AccessibilityDeclarationResource.decode
  pure (intoAccessibilityDeclarationInfo resource)

def createAccessibilityDeclaration (appId deviceFamily : String) : Async AccessibilityDeclarationInfo :=
  client.accessibilityDeclarationOf (.post (client.baseUrl ++ "/v1/accessibilityDeclarations")
    (createBody "accessibilityDeclarations" [("deviceFamily", .str deviceFamily)] [("app", linkTo "apps" appId)]))

def updateAccessibilityDeclaration (id : String) (answers : AccessibilityAnswers) :
    Async AccessibilityDeclarationInfo :=
  client.accessibilityDeclarationOf (.patch (client.accessibilityDeclarationUrl id)
    (updateBody "accessibilityDeclarations" id answers.attributes))

def deleteAccessibilityDeclaration (id : String) : Async Unit :=
  deleteNoContent (client.accessibilityDeclarationUrl id)

end AppStoreClient

end StackConnect
