import StackConnect.AppStore.JsonApi

set_option autoImplicit false

namespace StackConnect

open Interaction Serde

structure BetaAppReviewDetailAttributes where
  contactFirstName : Option String
  contactLastName : Option String
  contactEmail : Option String
  contactPhone : Option String
  demoAccountName : Option String
  demoAccountPassword : Option String
  isDemoAccountRequired : Option Bool
  notes : Option String

-- `isDemoAccountRequired` goes by another name on the wire.
def BetaAppReviewDetailAttributes.decode : Decoder BetaAppReviewDetailAttributes := struct do
  let contactFirstName ← optional "contactFirstName" string
  let contactLastName ← optional "contactLastName" string
  let contactEmail ← optional "contactEmail" string
  let contactPhone ← optional "contactPhone" string
  let demoAccountName ← optional "demoAccountName" string
  let demoAccountPassword ← optional "demoAccountPassword" string
  let isDemoAccountRequired ← optional "demoAccountRequired" boolean
  let notes ← optional "notes" string
  pure ⟨contactFirstName, contactLastName, contactEmail, contactPhone, demoAccountName, demoAccountPassword,
    isDemoAccountRequired, notes⟩

abbrev BetaAppReviewDetailResource := Resource BetaAppReviewDetailAttributes

def BetaAppReviewDetailResource.decode : Decoder BetaAppReviewDetailResource :=
  Resource.decode BetaAppReviewDetailAttributes.decode ⟨none, none, none, none, none, none, none, none⟩

structure BetaAppReviewDetailInfo where
  id : String
  contactFirstName : Option String
  contactLastName : Option String
  contactEmail : Option String
  contactPhone : Option String
  demoAccountName : Option String
  demoAccountPassword : Option String
  isDemoAccountRequired : Option Bool
  notes : Option String
deriving DecidableEq

def intoBetaAppReviewDetailInfo (resource : BetaAppReviewDetailResource) : BetaAppReviewDetailInfo where
  id := resource.id
  contactFirstName := resource.attributes.contactFirstName
  contactLastName := resource.attributes.contactLastName
  contactEmail := resource.attributes.contactEmail
  contactPhone := resource.attributes.contactPhone
  demoAccountName := resource.attributes.demoAccountName
  demoAccountPassword := resource.attributes.demoAccountPassword
  isDemoAccountRequired := resource.attributes.isDemoAccountRequired
  notes := resource.attributes.notes

structure AppReviewDetailAttributes where
  contactFirstName : Option String
  contactLastName : Option String
  contactEmail : Option String
  contactPhone : Option String
  notes : Option String
  demoAccountName : Option String
  demoAccountPassword : Option String
  isDemoAccountRequired : Option Bool

def AppReviewDetailAttributes.decode : Decoder AppReviewDetailAttributes := struct do
  let contactFirstName ← optional "contactFirstName" string
  let contactLastName ← optional "contactLastName" string
  let contactEmail ← optional "contactEmail" string
  let contactPhone ← optional "contactPhone" string
  let notes ← optional "notes" string
  let demoAccountName ← optional "demoAccountName" string
  let demoAccountPassword ← optional "demoAccountPassword" string
  let isDemoAccountRequired ← optional "demoAccountRequired" boolean
  pure ⟨contactFirstName, contactLastName, contactEmail, contactPhone, notes, demoAccountName, demoAccountPassword,
    isDemoAccountRequired⟩

abbrev AppReviewDetailResource := Resource AppReviewDetailAttributes

def AppReviewDetailResource.decode : Decoder AppReviewDetailResource :=
  Resource.decode AppReviewDetailAttributes.decode ⟨none, none, none, none, none, none, none, none⟩

structure AppReviewDetailInfo where
  id : String
  contactFirstName : Option String
  contactLastName : Option String
  contactEmail : Option String
  contactPhone : Option String
  notes : Option String
  demoAccountName : Option String
  demoAccountPassword : Option String
  isDemoAccountRequired : Option Bool
deriving DecidableEq

def intoAppReviewDetailInfo (resource : AppReviewDetailResource) : AppReviewDetailInfo where
  id := resource.id
  contactFirstName := resource.attributes.contactFirstName
  contactLastName := resource.attributes.contactLastName
  contactEmail := resource.attributes.contactEmail
  contactPhone := resource.attributes.contactPhone
  notes := resource.attributes.notes
  demoAccountName := resource.attributes.demoAccountName
  demoAccountPassword := resource.attributes.demoAccountPassword
  isDemoAccountRequired := resource.attributes.isDemoAccountRequired

structure ReviewDetailPatch where
  contactFirstName : Option String
  contactLastName : Option String
  contactEmail : Option String
  contactPhone : Option String
  demoAccountName : Option String
  demoAccountPassword : Option String
  isDemoAccountRequired : Option Bool
  notes : Option String

def ReviewDetailPatch.attributes (patch : ReviewDetailPatch) : List (String × Json) :=
  insertSome "contactFirstName" .str patch.contactFirstName ++ insertSome "contactLastName" .str patch.contactLastName ++
    insertSome "contactEmail" .str patch.contactEmail ++ insertSome "contactPhone" .str patch.contactPhone ++
    insertSome "demoAccountName" .str patch.demoAccountName ++
    insertSome "demoAccountPassword" .str patch.demoAccountPassword ++
    insertSome "demoAccountRequired" .bool patch.isDemoAccountRequired ++ insertSome "notes" .str patch.notes

namespace AppStoreClient

variable (client : AppStoreClient)

def betaAppReviewDetailOf (request : Request) : Async BetaAppReviewDetailInfo := do
  let resource ← client.exchangeDocument request "BetaAppReviewDetailDocument" "beta app review detail response"
    BetaAppReviewDetailResource.decode
  pure (intoBetaAppReviewDetailInfo resource)

def fetchBetaAppReviewDetail (appId : String) : Async BetaAppReviewDetailInfo :=
  client.betaAppReviewDetailOf (.get (client.baseUrl ++ "/v1/apps/" ++ appId ++ "/betaAppReviewDetail"))

def updateBetaAppReviewDetail (detailId : String) (patch : ReviewDetailPatch) : Async BetaAppReviewDetailInfo :=
  client.betaAppReviewDetailOf (.patch (client.baseUrl ++ "/v1/betaAppReviewDetails/" ++ detailId)
    (updateBody "betaAppReviewDetails" detailId patch.attributes))

def parseAppReviewDetail (body : String) : Except StackError (OptionalDocument AppReviewDetailResource) :=
  client.parse "AppReviewDetailDocument" "app review detail response"
    (OptionalDocument.decode AppReviewDetailResource.decode) body

def fetchAppReviewDetail (versionId : String) : Async (Option AppReviewDetailInfo) := do
  let (status, body) ←
    authorized (.get (client.baseUrl ++ "/v1/appStoreVersions/" ++ versionId ++ "/appStoreReviewDetail"))
  if status = 404 then pure none
  else
    let body ← Prog.ofExcept (accepted (status, body))
    let document ← .ofExcept (client.parseAppReviewDetail body)
    pure (document.data.map intoAppReviewDetailInfo)

def updateAppReviewDetail (detailId : String) (patch : ReviewDetailPatch) : Async AppReviewDetailInfo := do
  let body ← exchange (.patch (client.baseUrl ++ "/v1/appStoreReviewDetails/" ++ detailId)
    (updateBody "appStoreReviewDetails" detailId patch.attributes))
  let document ← .ofExcept (client.parseAppReviewDetail body)
  match document.data with
  | some resource => pure (intoAppReviewDetailInfo resource)
  | none => .fail (.decode "app review detail response: missing data")

end AppStoreClient

end StackConnect
