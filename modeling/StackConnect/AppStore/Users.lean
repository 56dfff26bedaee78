import StackConnect.AppStore.JsonApi

set_option autoImplicit false

namespace StackConnect

open Interaction Serde

structure UserAttributes where
  firstName : Option String
  lastName : Option String
  username : Option String
  roles : List String
  allAppsVisible : Option Bool
  provisioningAllowed : Option Bool

def UserAttributes.decode : Decoder UserAttributes := struct do
  let firstName ← optional "firstName" string
  let lastName ← optional "lastName" string
  let username ← optional "username" string
  let roles ← defaulted "roles" (vec string) []
  let allAppsVisible ← optional "allAppsVisible" boolean
  let provisioningAllowed ← optional "provisioningAllowed" boolean
  pure ⟨firstName, lastName, username, roles, allAppsVisible, provisioningAllowed⟩

abbrev UserResource := Resource UserAttributes

def UserResource.decode : Decoder UserResource :=
  Resource.decode UserAttributes.decode ⟨none, none, none, [], none, none⟩

structure UserInvitationAttributes where
  firstName : Option String
  lastName : Option String
  email : Option String
  roles : List String
  allAppsVisible : Option Bool
  provisioningAllowed : Option Bool
  expirationDate : Option String

def UserInvitationAttributes.decode : Decoder UserInvitationAttributes := struct do
  let firstName ← optional "firstName" string
  let lastName ← optional "lastName" string
  let email ← optional "email" string
  let roles ← defaulted "roles" (vec string) []
  let allAppsVisible ← optional "allAppsVisible" boolean
  let provisioningAllowed ← optional "provisioningAllowed" boolean
  let expirationDate ← optional "expirationDate" string
  pure ⟨firstName, lastName, email, roles, allAppsVisible, provisioningAllowed, expirationDate⟩

abbrev UserInvitationResource := Resource UserInvitationAttributes

def UserInvitationResource.decode : Decoder UserInvitationResource :=
  Resource.decode UserInvitationAttributes.decode ⟨none, none, none, [], none, none, none⟩

structure TeamMemberInfo where
  id : String
  firstName : Option String
  lastName : Option String
  username : Option String
  roles : List String
deriving DecidableEq

structure UserInfo where
  id : String
  firstName : Option String
  lastName : Option String
  email : Option String
  roles : List String
  allAppsVisible : Bool
  provisioningAllowed : Bool
  isPending : Bool
  expirationDate : Option String
deriving DecidableEq

def intoTeamMemberInfo (resource : UserResource) : TeamMemberInfo where
  id := resource.id
  firstName := resource.attributes.firstName
  lastName := resource.attributes.lastName
  username := resource.attributes.username
  roles := resource.attributes.roles

def intoActiveUserInfo (resource : UserResource) : UserInfo where
  id := resource.id
  firstName := resource.attributes.firstName
  lastName := resource.attributes.lastName
  email := resource.attributes.username
  roles := resource.attributes.roles
  allAppsVisible := resource.attributes.allAppsVisible.getD false
  provisioningAllowed := resource.attributes.provisioningAllowed.getD false
  isPending := false
  expirationDate := none

def intoPendingUserInfo (resource : UserInvitationResource) : UserInfo where
  id := resource.id
  firstName := resource.attributes.firstName
  lastName := resource.attributes.lastName
  email := resource.attributes.email
  roles := resource.attributes.roles
  allAppsVisible := resource.attributes.allAppsVisible.getD false
  provisioningAllowed := resource.attributes.provisioningAllowed.getD false
  isPending := true
  expirationDate := resource.attributes.expirationDate

def accessAttributes (roles : List String) (allAppsVisible provisioningAllowed : Bool) : List (String × Json) :=
  [("roles", .arr (roles.map .str)), ("allAppsVisible", .bool allAppsVisible),
    ("provisioningAllowed", .bool provisioningAllowed)]

namespace AppStoreClient

variable (client : AppStoreClient)

def teamMembersListing : Listing TeamMemberInfo :=
  .plain (client.baseUrl ++ "/v1/users?fields[users]=firstName,lastName,username,roles&limit=200")
    "UsersResponse" "users response" UserResource.decode intoTeamMemberInfo

def fetchTeamMembers (fuel : Nat) : Async (List TeamMemberInfo) := client.collect fuel client.teamMembersListing []

def activeUsersListing : Listing UserInfo :=
  .plain (client.baseUrl ++
      "/v1/users?fields[users]=firstName,lastName,username,roles,allAppsVisible,provisioningAllowed&limit=200")
    "UsersResponse" "users response" UserResource.decode intoActiveUserInfo

def pendingUsersListing : Listing UserInfo :=
  .plain (client.baseUrl ++
      "/v1/userInvitations?fields[userInvitations]=firstName,lastName,email,roles," ++
        "allAppsVisible,provisioningAllowed,expirationDate&limit=200")
    "UserInvitationsResponse" "user invitations response" UserInvitationResource.decode intoPendingUserInfo

-- Both walks extend the same list.
def fetchUsers (fuel : Nat) : Async (List UserInfo) := do
  let users ← client.collect fuel client.activeUsersListing []
  client.collect fuel client.pendingUsersListing users

def inviteUser (email firstName lastName : String) (roles : List String)
    (allAppsVisible provisioningAllowed : Bool) : Async Unit := do
  let _ ← postJson2xx (client.baseUrl ++ "/v1/userInvitations") (bareBody "userInvitations"
    ([("email", .str email), ("firstName", .str firstName), ("lastName", .str lastName)] ++
      accessAttributes roles allAppsVisible provisioningAllowed))
  pure ()

def deleteUser (id : String) (isPending : Bool) : Async Unit :=
  deleteNoContent (if isPending then client.baseUrl ++ "/v1/userInvitations/" ++ id else client.baseUrl ++ "/v1/users/" ++ id)

def updateUser (id : String) (roles : List String) (allAppsVisible provisioningAllowed : Bool) : Async Unit := do
  let token ← bearerToken
  patchNoContent (client.baseUrl ++ "/v1/users/" ++ id) token
    (updateBody "users" id (accessAttributes roles allAppsVisible provisioningAllowed))

def userVisibleAppsListing (id : String) : Listing String :=
  .plain (client.baseUrl ++ "/v1/users/" ++ id ++ "/relationships/visibleApps?limit=200")
    "VisibleAppsLinkageResponse" "visible apps response" ResourceIdentifier.decode ResourceIdentifier.id

def fetchUserVisibleApps (fuel : Nat) (id : String) : Async (List String) :=
  client.collect fuel (client.userVisibleAppsListing id) []

def updateUserVisibleApps (id : String) (appIds : List String) : Async Unit := do
  let token ← bearerToken
  patchNoContent (client.baseUrl ++ "/v1/users/" ++ id ++ "/relationships/visibleApps") token (linkToMany "apps" appIds)

end AppStoreClient

end StackConnect
