import StackConnect.AppStore.JsonApi

set_option autoImplicit false

namespace StackConnect

open Interaction Serde Rust

structure DeviceAttributes where
  name : Option String
  udid : Option String
  platform : Option String
  deviceClass : Option String
  model : Option String
  status : Option String
  addedDate : Option String

def DeviceAttributes.decode : Decoder DeviceAttributes := struct do
  let name ← optional "name" string
  let udid ← optional "udid" string
  let platform ← optional "platform" string
  let deviceClass ← optional "deviceClass" string
  let model ← optional "model" string
  let status ← optional "status" string
  let addedDate ← optional "addedDate" string
  pure ⟨name, udid, platform, deviceClass, model, status, addedDate⟩

abbrev DeviceResource := Resource DeviceAttributes

def DeviceResource.decode : Decoder DeviceResource :=
  Resource.decode DeviceAttributes.decode ⟨none, none, none, none, none, none, none⟩

structure DeviceInfo where
  id : String
  name : String
  udid : Option String
  platform : Option String
  deviceClass : Option String
  model : Option String
  status : String
  addedDate : Option String
deriving DecidableEq

def intoDeviceInfo (resource : DeviceResource) : DeviceInfo where
  id := resource.id
  name := resource.attributes.name.getD ""
  udid := resource.attributes.udid
  platform := resource.attributes.platform
  deviceClass := resource.attributes.deviceClass
  model := resource.attributes.model
  status := resource.attributes.status.getD "ENABLED"
  addedDate := resource.attributes.addedDate

structure BundleIdAttributes where
  identifier : Option String
  name : Option String
  platform : Option String
  seedId : Option String

def BundleIdAttributes.decode : Decoder BundleIdAttributes := struct do
  let identifier ← optional "identifier" string
  let name ← optional "name" string
  let platform ← optional "platform" string
  let seedId ← optional "seedId" string
  pure ⟨identifier, name, platform, seedId⟩

abbrev BundleIdResource := Resource BundleIdAttributes

def BundleIdResource.decode : Decoder BundleIdResource :=
  Resource.decode BundleIdAttributes.decode ⟨none, none, none, none⟩

structure BundleIdInfo where
  id : String
  identifier : String
  name : String
  platform : String
  seedId : Option String
deriving DecidableEq

def intoBundleIdInfo (resource : BundleIdResource) : BundleIdInfo where
  id := resource.id
  identifier := resource.attributes.identifier.getD ""
  name := resource.attributes.name.getD ""
  platform := resource.attributes.platform.getD ""
  seedId := resource.attributes.seedId

structure BundleIdCapabilityAttributes where
  capabilityType : Option String

def BundleIdCapabilityAttributes.decode : Decoder BundleIdCapabilityAttributes := struct do
  let capabilityType ← optional "capabilityType" string
  pure ⟨capabilityType⟩

abbrev BundleIdCapabilityResource := Resource BundleIdCapabilityAttributes

def BundleIdCapabilityResource.decode : Decoder BundleIdCapabilityResource :=
  Resource.decode BundleIdCapabilityAttributes.decode ⟨none⟩

structure BundleIdCapabilityInfo where
  id : String
  capabilityType : String
deriving DecidableEq

-- None for a capability without a type, which the caller skips.
def intoCapabilityInfo (resource : BundleIdCapabilityResource) : Option BundleIdCapabilityInfo :=
  (resource.attributes.capabilityType.filter (· ≠ "")).map fun capabilityType => ⟨resource.id, capabilityType⟩

structure CertificateAttributes where
  displayName : Option String
  name : Option String
  certificateType : Option String
  platform : Option String
  serialNumber : Option String
  expirationDate : Option String
  activated : Bool
  certificateContent : Option String

def CertificateAttributes.decode : Decoder CertificateAttributes := struct do
  let displayName ← optional "displayName" string
  let name ← optional "name" string
  let certificateType ← optional "certificateType" string
  let platform ← optional "platform" string
  let serialNumber ← optional "serialNumber" string
  let expirationDate ← optional "expirationDate" string
  let activated ← defaulted "activated" boolean false
  let certificateContent ← optional "certificateContent" string
  pure ⟨displayName, name, certificateType, platform, serialNumber, expirationDate, activated, certificateContent⟩

abbrev CertificateResource := Resource CertificateAttributes

def CertificateResource.decode : Decoder CertificateResource :=
  Resource.decode CertificateAttributes.decode ⟨none, none, none, none, none, none, false, none⟩

structure CertificateInfo where
  id : String
  displayName : String
  name : String
  certificateType : String
  platform : Option String
  serialNumber : Option String
  expirationDate : Option String
  isActivated : Bool
  certificateContent : Option String
deriving DecidableEq

def intoCertificateInfo (resource : CertificateResource) : CertificateInfo where
  id := resource.id
  displayName := resource.attributes.displayName.getD ""
  name := resource.attributes.name.getD ""
  certificateType := resource.attributes.certificateType.getD ""
  platform := resource.attributes.platform
  serialNumber := resource.attributes.serialNumber
  expirationDate := resource.attributes.expirationDate
  isActivated := resource.attributes.activated
  certificateContent := resource.attributes.certificateContent

structure ProfileAttributes where
  name : Option String
  profileType : Option String
  profileState : Option String
  platform : Option String
  uuid : Option String
  createdDate : Option String
  expirationDate : Option String
  profileContent : Option String

def ProfileAttributes.decode : Decoder ProfileAttributes := struct do
  let name ← optional "name" string
  let profileType ← optional "profileType" string
  let profileState ← optional "profileState" string
  let platform ← optional "platform" string
  let uuid ← optional "uuid" string
  let createdDate ← optional "createdDate" string
  let expirationDate ← optional "expirationDate" string
  let profileContent ← optional "profileContent" string
  pure ⟨name, profileType, profileState, platform, uuid, createdDate, expirationDate, profileContent⟩

structure ProfileRelationships where
  bundleId : ToOneRelationship

def ProfileRelationships.decode : Decoder ProfileRelationships := struct do
  let bundleId ← toOne "bundleId"
  pure ⟨bundleId⟩

abbrev ProfileResource := LinkedResource ProfileAttributes ProfileRelationships

def ProfileResource.decode : Decoder ProfileResource :=
  LinkedResource.decode ProfileAttributes.decode ⟨none, none, none, none, none, none, none, none⟩
    ProfileRelationships.decode ⟨⟨none⟩⟩

structure ProfileBundleIdAttributes where
  identifier : Option String

def ProfileBundleIdAttributes.decode : Decoder ProfileBundleIdAttributes := struct do
  let identifier ← optional "identifier" string
  pure ⟨identifier⟩

inductive ProfileIncluded where
  | bundleIds (resource : Resource ProfileBundleIdAttributes)
  | other

def ProfileIncluded.decode : Decoder ProfileIncluded :=
  tagged "type" (fun
    | "bundleIds" => some fun content =>
        (Resource.decode ProfileBundleIdAttributes.decode ⟨none⟩ content).map .bundleIds
    | _ => none) (some .other)

structure ProvisioningProfileInfo where
  id : String
  name : String
  profileType : String
  profileState : String
  platform : Option String
  uuid : Option String
  bundleId : Option String
  createdDate : Option String
  expirationDate : Option String
  profileContent : Option String
deriving DecidableEq

def intoProfileInfo (includedBundleIds : HashMap String (Option String)) (resource : ProfileResource) :
    ProvisioningProfileInfo where
  id := resource.id
  name := resource.attributes.name.getD ""
  profileType := resource.attributes.profileType.getD ""
  profileState := resource.attributes.profileState.getD ""
  platform := resource.attributes.platform
  uuid := resource.attributes.uuid
  bundleId := (resource.relationships.bundleId.data.bind fun related => includedBundleIds.get related.id).join
  createdDate := resource.attributes.createdDate
  expirationDate := resource.attributes.expirationDate
  profileContent := resource.attributes.profileContent

def includedBundleIds (included : List ProfileIncluded) : HashMap String (Option String) :=
  HashMap.collect (included.filterMap fun
    | .bundleIds resource => some (resource.id, resource.attributes.identifier)
    | .other => none)

namespace AppStoreClient

variable (client : AppStoreClient)

def devicesUrl : String := client.baseUrl ++ "/v1/devices"

def devicesListing : Listing DeviceInfo :=
  .plain (client.baseUrl ++ "/v1/devices?sort=name&limit=200") "DevicesResponse" "devices response"
    DeviceResource.decode intoDeviceInfo

def fetchDevices (fuel : Nat) : Async (List DeviceInfo) := client.collect fuel client.devicesListing []

def createDevice (name platform udid : String) : Async DeviceInfo := do
  let resource ← client.exchangeDocument
    (.post client.devicesUrl (bareBody "devices" [("name", .str name), ("platform", .str platform), ("udid", .str udid)]))
    "DeviceDocument" "device response" DeviceResource.decode
  pure (intoDeviceInfo resource)

def updateDevice (id : String) (name status : Option String) : Async Unit := do
  let token ← bearerToken
  patchNoContent (client.baseUrl ++ "/v1/devices/" ++ id) token
    (updateBody "devices" id (insertSome "name" .str name ++ insertSome "status" .str status))

def bundleIdUrl (id : String) : String := client.baseUrl ++ "/v1/bundleIds/" ++ id

def bundleIdsListing : Listing BundleIdInfo :=
  .plain (client.baseUrl ++ "/v1/bundleIds?sort=name&limit=200") "BundleIdsResponse" "bundleIds response"
    BundleIdResource.decode intoBundleIdInfo

def fetchBundleIds (fuel : Nat) : Async (List BundleIdInfo) := client.collect fuel client.bundleIdsListing []

def createBundleId (bundleIdentifier name platform : String) : Async BundleIdInfo := do
  let resource ← client.exchangeDocument
    (.post (client.baseUrl ++ "/v1/bundleIds") (bareBody "bundleIds"
      [("name", .str name), ("platform", .str platform), ("identifier", .str bundleIdentifier)]))
    "BundleIdDocument" "bundleId response" BundleIdResource.decode
  pure (intoBundleIdInfo resource)

def updateBundleId (id name : String) : Async Unit := do
  let token ← bearerToken
  patchNoContent (client.bundleIdUrl id) token (updateBody "bundleIds" id [("name", .str name)])

def deleteBundleId (id : String) : Async Unit := deleteNoContent (client.bundleIdUrl id)

def fetchBundleIdCapabilities (fuel : Nat) (bundleId : String) : Async (List BundleIdCapabilityInfo) :=
  client.listPages fuel "BundleIdCapabilitiesResponse" "bundleIdCapabilities response"
    (Page.decode BundleIdCapabilityResource.decode) (fun page => page.data.filterMap intoCapabilityInfo) Page.links []
    (client.bundleIdUrl bundleId ++ "/bundleIdCapabilities")

def enableCapability (bundleId capabilityType : String) : Async BundleIdCapabilityInfo := do
  let resource ← client.exchangeDocument
    (.post (client.baseUrl ++ "/v1/bundleIdCapabilities") (createBody "bundleIdCapabilities"
      [("capabilityType", .str capabilityType)] [("bundleId", linkTo "bundleIds" bundleId)]))
    "BundleIdCapabilityDocument" "bundleIdCapability response" BundleIdCapabilityResource.decode
  match intoCapabilityInfo resource with
  | some capability => pure capability
  | none => .fail (.decode "bundleIdCapability response: missing capabilityType")

def disableCapability (capabilityId : String) : Async Unit :=
  deleteNoContent (client.baseUrl ++ "/v1/bundleIdCapabilities/" ++ capabilityId)

def certificateUrl (id : String) : String := client.baseUrl ++ "/v1/certificates/" ++ id

def certificatesListing : Listing CertificateInfo :=
  .plain (client.baseUrl ++ "/v1/certificates?sort=displayName&limit=200") "CertificatesResponse"
    "certificates response" CertificateResource.decode intoCertificateInfo

def fetchCertificates (fuel : Nat) : Async (List CertificateInfo) := client.collect fuel client.certificatesListing []

def fetchCertificateContent (id : String) : Async (Option String) := do
  let resource ← client.exchangeDocument
    (.get (client.certificateUrl id ++ "?fields[certificates]=certificateContent,displayName,name," ++
      "certificateType,platform,serialNumber,expirationDate,activated"))
    "CertificateDocument" "certificate response" CertificateResource.decode
  pure resource.attributes.certificateContent

-- The pass type wins over the merchant; an empty id counts as absent.
def certificateRelationships (passTypeId merchantId : Option String) : List (String × Json) :=
  match passTypeId.filter (· ≠ ""), merchantId.filter (· ≠ "") with
  | some id, _ => [("relationships", .obj [("passTypeId", linkTo "passTypeIds" id)])]
  | none, some id => [("relationships", .obj [("merchantId", linkTo "merchantIds" id)])]
  | none, none => []

def createCertificate (csrContent certificateType : String) (passTypeId merchantId : Option String) :
    Async CertificateInfo := do
  let resource ← client.exchangeDocument
    (.post (client.baseUrl ++ "/v1/certificates") (.obj [("data", .obj
      ([("type", .str "certificates"),
        ("attributes", .obj [("csrContent", .str csrContent), ("certificateType", .str certificateType)])] ++
        certificateRelationships passTypeId merchantId))]))
    "CertificateDocument" "certificate response" CertificateResource.decode
  pure (intoCertificateInfo resource)

def revokeCertificate (id : String) : Async Unit := deleteNoContent (client.certificateUrl id)

def profileUrl (id : String) : String := client.baseUrl ++ "/v1/profiles/" ++ id

def profilesListing : Listing ProvisioningProfileInfo :=
  .including (client.baseUrl ++ "/v1/profiles?sort=name&limit=200&include=bundleId") "ProfilesResponse"
    "profiles response" ProfileResource.decode ProfileIncluded.decode
    fun included => intoProfileInfo (includedBundleIds included)

def fetchProfiles (fuel : Nat) : Async (List ProvisioningProfileInfo) := client.collect fuel client.profilesListing []

def profileRelationships (bundleIdId : String) (certificateIds deviceIds : List String) : List (String × Json) :=
  [("bundleId", linkTo "bundleIds" bundleIdId), ("certificates", linkToMany "certificates" certificateIds)] ++
    if deviceIds ≠ [] then [("devices", linkToMany "devices" deviceIds)] else []

def createProfile (name profileType bundleIdId : String) (certificateIds deviceIds : List String) :
    Async ProvisioningProfileInfo := do
  let resource ← client.exchangeDocument
    (.post (client.baseUrl ++ "/v1/profiles") (createBody "profiles"
      [("name", .str name), ("profileType", .str profileType)] (profileRelationships bundleIdId certificateIds deviceIds)))
    "ProfileDocument" "profile response" ProfileResource.decode
  pure (intoProfileInfo ∅ resource)

def deleteProfile (id : String) : Async Unit := deleteNoContent (client.profileUrl id)

def fetchProfileContent (id : String) : Async (Option String) := do
  let resource ← client.exchangeDocument
    (.get (client.profileUrl id ++ "?fields[profiles]=profileContent,name,profileType,platform," ++
      "profileState,uuid,createdDate,expirationDate"))
    "ProfileDocument" "profile response" ProfileResource.decode
  pure resource.attributes.profileContent

end AppStoreClient

end StackConnect
