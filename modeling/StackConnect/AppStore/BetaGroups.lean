import StackConnect.AppStore.JsonApi

set_option autoImplicit false

namespace StackConnect

open Interaction Serde

structure BetaGroupRelationships where
  app : ToOneRelationship

def BetaGroupRelationships.decode : Decoder BetaGroupRelationships := struct do
  let app ← toOne "app"
  pure ⟨app⟩

structure BetaGroupAttributes where
  name : Option String
  createdDate : Option String
  isInternalGroup : Option Bool
  hasAccessToAllBuilds : Option Bool
  publicLinkEnabled : Option Bool
  publicLink : Option String
  feedbackEnabled : Option Bool
deriving DecidableEq

def BetaGroupAttributes.decode : Decoder BetaGroupAttributes := struct do
  let name ← optional "name" string
  let createdDate ← optional "createdDate" string
  let isInternalGroup ← optional "isInternalGroup" boolean
  let hasAccessToAllBuilds ← optional "hasAccessToAllBuilds" boolean
  let publicLinkEnabled ← optional "publicLinkEnabled" boolean
  let publicLink ← optional "publicLink" string
  let feedbackEnabled ← optional "feedbackEnabled" boolean
  pure ⟨name, createdDate, isInternalGroup, hasAccessToAllBuilds, publicLinkEnabled, publicLink, feedbackEnabled⟩

def BetaGroupAttributes.default : BetaGroupAttributes := ⟨none, none, none, none, none, none, none⟩

abbrev BetaGroupResource := LinkedResource BetaGroupAttributes BetaGroupRelationships

def BetaGroupResource.decode : Decoder BetaGroupResource :=
  LinkedResource.decode BetaGroupAttributes.decode .default BetaGroupRelationships.decode ⟨⟨none⟩⟩

abbrev BetaGroupsResponse := Page BetaGroupResource
abbrev BetaGroupDocument := Document BetaGroupResource

structure BetaGroupInfo where
  id : String
  appId : String
  name : Option String
  createdDate : Option String
  isInternalGroup : Option Bool
  hasAccessToAllBuilds : Option Bool
  publicLinkEnabled : Option Bool
  publicLink : Option String
  feedbackEnabled : Option Bool
deriving DecidableEq

def intoBetaGroupInfo (appId : String) (resource : BetaGroupResource) : BetaGroupInfo where
  id := resource.id
  appId := appId
  name := resource.attributes.name
  createdDate := resource.attributes.createdDate
  isInternalGroup := resource.attributes.isInternalGroup
  hasAccessToAllBuilds := resource.attributes.hasAccessToAllBuilds
  publicLinkEnabled := resource.attributes.publicLinkEnabled
  publicLink := resource.attributes.publicLink
  feedbackEnabled := resource.attributes.feedbackEnabled

def intoBetaGroupInfoInferringApp (resource : BetaGroupResource) : BetaGroupInfo :=
  intoBetaGroupInfo ((resource.relationships.app.data.map ResourceIdentifier.id).getD "") resource

namespace AppStoreClient

variable (client : AppStoreClient)

def betaGroupsUrl : String := client.baseUrl ++ "/v1/betaGroups"
def betaGroupUrl (groupId : String) : String := client.baseUrl ++ "/v1/betaGroups/" ++ groupId

def betaGroupsPageUrl (appId : String) (limit : Nat) : String :=
  client.baseUrl ++ "/v1/betaGroups?filter[app]=" ++ appId ++ "&limit=" ++ toString limit

def parseBetaGroup (body : String) : Except StackError BetaGroupDocument :=
  client.parse "BetaGroupDocument" "beta group response" (Document.decode BetaGroupResource.decode) body

def fetchBetaGroups (fuel : Nat) (appId : String) (limit : Nat) : Async (List BetaGroupInfo) :=
  client.listPages fuel "BetaGroupsResponse" "beta groups response" (Page.decode BetaGroupResource.decode)
    (fun page => page.data.map (intoBetaGroupInfo appId)) Page.links [] (client.betaGroupsPageUrl appId limit)

def createBetaGroupAttributes (name : String) (isInternal publicLinkEnabled hasAccessToAllBuilds : Bool) :
    List (String × Json) :=
  [("name", .str name), ("isInternalGroup", .bool isInternal), ("hasAccessToAllBuilds", .bool hasAccessToAllBuilds),
    ("isPublicLinkEnabled", .bool publicLinkEnabled), ("isFeedbackEnabled", .bool true)]

def createBetaGroup (appId name : String) (isInternal publicLinkEnabled hasAccessToAllBuilds : Bool) :
    Async BetaGroupInfo := do
  let body ← exchange (.post client.betaGroupsUrl (.obj [("data", .obj
    [("type", .str "betaGroups"),
     ("attributes", .obj (createBetaGroupAttributes name isInternal publicLinkEnabled hasAccessToAllBuilds)),
     ("relationships", .obj [("app", linkTo "apps" appId)])])]))
  let document ← .ofExcept (client.parseBetaGroup body)
  pure (intoBetaGroupInfo appId document.data)

def updateBetaGroupAttributes (name : Option String) (publicLinkEnabled : Option Bool) (publicLinkLimit : Option Int)
    (feedbackEnabled : Option Bool) : List (String × Json) :=
  insertSome "name" .str name ++ insertSome "isPublicLinkEnabled" .bool publicLinkEnabled ++
    insertSome "publicLinkLimit" .int publicLinkLimit ++ insertSome "isFeedbackEnabled" .bool feedbackEnabled

def updateBetaGroup (groupId : String) (name : Option String) (publicLinkEnabled : Option Bool)
    (publicLinkLimit : Option Int) (feedbackEnabled : Option Bool) : Async BetaGroupInfo := do
  let body ← exchange (.patch (client.betaGroupUrl groupId) (.obj [("data", .obj
    [("type", .str "betaGroups"), ("id", .str groupId),
     ("attributes", .obj (updateBetaGroupAttributes name publicLinkEnabled publicLinkLimit feedbackEnabled))])]))
  let document ← .ofExcept (client.parseBetaGroup body)
  pure (intoBetaGroupInfoInferringApp document.data)

def deleteBetaGroup (groupId : String) : Async Unit := deleteNoContent (client.betaGroupUrl groupId)

end AppStoreClient

end StackConnect
