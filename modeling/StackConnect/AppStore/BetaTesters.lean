import StackConnect.AppStore.JsonApi

set_option autoImplicit false

namespace StackConnect

open Interaction Serde

structure BetaTesterAttributes where
  firstName : Option String
  lastName : Option String
  email : Option String
  inviteType : Option String
  state : Option String

def BetaTesterAttributes.decode : Decoder BetaTesterAttributes := struct do
  let firstName ← optional "firstName" string
  let lastName ← optional "lastName" string
  let email ← optional "email" string
  let inviteType ← optional "inviteType" string
  let state ← optional "state" string
  pure ⟨firstName, lastName, email, inviteType, state⟩

abbrev BetaTesterResource := Resource BetaTesterAttributes

def BetaTesterResource.decode : Decoder BetaTesterResource :=
  Resource.decode BetaTesterAttributes.decode ⟨none, none, none, none, none⟩

structure BetaTesterInfo where
  id : String
  firstName : Option String
  lastName : Option String
  email : Option String
  inviteType : Option String
  state : Option String
deriving DecidableEq

def intoBetaTesterInfo (resource : BetaTesterResource) : BetaTesterInfo where
  id := resource.id
  firstName := resource.attributes.firstName
  lastName := resource.attributes.lastName
  email := resource.attributes.email
  inviteType := resource.attributes.inviteType
  state := resource.attributes.state

structure Paging where
  total : Int

def Paging.decode : Decoder Paging := struct do
  let total ← defaulted "total" u32 0
  pure ⟨total⟩

structure Meta where
  paging : Option Paging

def Meta.decode : Decoder Meta := struct do
  let paging ← optional "paging" Paging.decode
  pure ⟨paging⟩

structure BetaTestersCountResponse where
  info : Option Meta

def BetaTestersCountResponse.decode : Decoder BetaTestersCountResponse := struct do
  let info ← optional "meta" Meta.decode
  pure ⟨info⟩

def BetaTestersCountResponse.total (response : BetaTestersCountResponse) : Int :=
  ((response.info.bind Meta.paging).map Paging.total).getD 0

namespace AppStoreClient

variable (client : AppStoreClient)

def betaTestersListing (groupId : String) (limit : Nat) : Listing BetaTesterInfo :=
  .plain (client.baseUrl ++ "/v1/betaTesters?filter[betaGroups]=" ++ groupId ++ "&limit=" ++ toString limit)
    "BetaTestersResponse" "beta testers response" BetaTesterResource.decode intoBetaTesterInfo

def fetchBetaTesters (fuel : Nat) (groupId : String) (limit : Nat) : Async (List BetaTesterInfo) :=
  client.collect fuel (client.betaTestersListing groupId limit) []

def addBetaTester (groupId email : String) (firstName lastName : Option String) : Async BetaTesterInfo := do
  let resource ← client.exchangeDocument
    (.post (client.baseUrl ++ "/v1/betaTesters") (createBody "betaTesters"
      (insertSome "firstName" .str firstName ++ insertSome "lastName" .str lastName ++ [("email", .str email)])
      [("betaGroups", linkToMany "betaGroups" [groupId])]))
    "BetaTesterDocument" "beta tester response" BetaTesterResource.decode
  pure (intoBetaTesterInfo resource)

def removeBetaTester (groupId testerId : String) : Async Unit :=
  exchangeNoContent ((Request.delete (client.baseUrl ++ "/v1/betaGroups/" ++ groupId ++ "/relationships/betaTesters")).withJson
    (linkToMany "betaTesters" [testerId]))

def fetchTesterCount (groupId : String) : Async Int := do
  let body ← getPage (client.baseUrl ++ "/v1/betaGroups/" ++ groupId ++ "/betaTesters?limit=1")
  let response ← .ofExcept (client.parse "BetaTestersCountResponse" "beta testers count response"
    BetaTestersCountResponse.decode body)
  pure response.total

def resendInvite (testerId appId : String) : Async Unit :=
  exchangeNoContent (.post (client.baseUrl ++ "/v1/betaTesterInvitations")
    (relationshipsBody "betaTesterInvitations" [("betaTester", linkTo "betaTesters" testerId), ("app", linkTo "apps" appId)]))

end AppStoreClient

end StackConnect
