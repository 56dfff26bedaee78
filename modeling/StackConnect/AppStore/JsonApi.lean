import StackConnect.AppStore.Transport

set_option autoImplicit false

namespace StackConnect

open Interaction Serde

variable {α ρ ι : Type}

structure Links where
  next : Option String

def Links.decode : Decoder Links := struct do
  let next ← optional "next" string
  pure ⟨next⟩

-- `links.next.filter(|u| !u.is_empty())`, as all listings but one read it.
def Links.nextUrl (links : Links) : Option String := links.next.filter (· ≠ "")

structure ResourceIdentifier where
  id : String

def ResourceIdentifier.decode : Decoder ResourceIdentifier := struct do
  let id ← required "id" string
  pure ⟨id⟩

structure ToOneRelationship where
  data : Option ResourceIdentifier

def ToOneRelationship.decode : Decoder ToOneRelationship := struct do
  let data ← optional "data" ResourceIdentifier.decode
  pure ⟨data⟩

structure ToManyRelationship where
  data : List ResourceIdentifier

def ToManyRelationship.decode : Decoder ToManyRelationship := struct do
  let data ← defaulted "data" (vec ResourceIdentifier.decode) []
  pure ⟨data⟩

def toOne (key : String) : Fields ToOneRelationship := defaulted key ToOneRelationship.decode ⟨none⟩
def toMany (key : String) : Fields ToManyRelationship := defaulted key ToManyRelationship.decode ⟨[]⟩

structure Resource (α : Type) where
  id : String
  attributes : α

def Resource.decode (attributes : Decoder α) (default : α) : Decoder (Resource α) := struct do
  let id ← required "id" string
  let attributes ← defaulted "attributes" attributes default
  pure ⟨id, attributes⟩

structure LinkedResource (α ρ : Type) where
  id : String
  attributes : α
  relationships : ρ

def LinkedResource.decode (attributes : Decoder α) (noAttributes : α) (relationships : Decoder ρ)
    (noRelationships : ρ) : Decoder (LinkedResource α ρ) := struct do
  let id ← required "id" string
  let attributes ← defaulted "attributes" attributes noAttributes
  let relationships ← defaulted "relationships" relationships noRelationships
  pure ⟨id, attributes, relationships⟩

structure Page (ρ : Type) where
  data : List ρ
  links : Links

def Page.decode (resource : Decoder ρ) : Decoder (Page ρ) := struct do
  let data ← defaulted "data" (vec resource) []
  let links ← defaulted "links" Links.decode ⟨none⟩
  pure ⟨data, links⟩

structure IncludedPage (ρ ι : Type) where
  data : List ρ
  included : List ι
  links : Links

def IncludedPage.decode (resource : Decoder ρ) (included : Decoder ι) : Decoder (IncludedPage ρ ι) := struct do
  let data ← defaulted "data" (vec resource) []
  let included ← defaulted "included" (vec included) []
  let links ← defaulted "links" Links.decode ⟨none⟩
  pure ⟨data, included, links⟩

structure Document (ρ : Type) where
  data : ρ

def Document.decode (resource : Decoder ρ) : Decoder (Document ρ) := struct do
  let data ← required "data" resource
  pure ⟨data⟩

structure OptionalDocument (ρ : Type) where
  data : Option ρ

def OptionalDocument.decode (resource : Decoder ρ) : Decoder (OptionalDocument ρ) := struct do
  let data ← optional "data" resource
  pure ⟨data⟩

def linkToMany (type : String) (ids : List String) : Json := .obj [("data", .arr (ids.map (identifier type)))]

def bareBody (type : String) (attributes : List (String × Json)) : Json :=
  .obj [("data", .obj [("type", .str type), ("attributes", .obj attributes)])]

def relationshipsBody (type : String) (relationships : List (String × Json)) : Json :=
  .obj [("data", .obj [("type", .str type), ("relationships", .obj relationships)])]

def createBody (type : String) (attributes relationships : List (String × Json)) : Json :=
  .obj [("data", .obj [("type", .str type), ("attributes", .obj attributes), ("relationships", .obj relationships)])]

def relatedId (relation : String) (body : Json) : Option String := body.at ["data", "relationships", relation, "data", "id"] >>= string

def updateBody (type id : String) (attributes : List (String × Json)) : Json :=
  .obj [("data", .obj [("type", .str type), ("id", .str id), ("attributes", .obj attributes)])]

def AppStoreClient.exchangeDocument (client : AppStoreClient) (request : Request) (type label : String)
    (resource : Decoder ρ) : Async ρ := do
  let body ← exchange request
  let document ← .ofExcept (client.parse type label (Document.decode resource) body)
  pure document.data

-- `while let Some(url) = next_url { .. }` over the pages of a listing.
def AppStoreClient.listPages (client : AppStoreClient) (fuel : Nat) (type label : String) (decoder : Decoder ρ)
    (rows : ρ → List α) (links : ρ → Links) (collected : List α) (first : String) : Async (List α) :=
  whileSome (fun collected url => do
    let body ← getPage url
    let page ← .ofExcept (client.parse type label decoder body)
    pure (collected ++ rows page, (links page).nextUrl)) fuel collected (some first)

-- What one listing operation differs from the others in: its first URL, the
-- response type with the label of its decode errors, and how a resource of a
-- page becomes a row.
structure Listing (α : Type) where
  Response : Type
  Item : Type
  first : String
  type : String
  label : String
  decoder : Decoder Response
  data : Response → List Item
  row : Response → Item → α
  links : Response → Links

def Listing.plain (first type label : String) (resource : Decoder ρ) (row : ρ → α) : Listing α :=
  ⟨Page ρ, ρ, first, type, label, Page.decode resource, Page.data, fun _ => row, Page.links⟩

def Listing.including (first type label : String) (resource : Decoder ρ) (included : Decoder ι)
    (row : List ι → ρ → α) : Listing α :=
  ⟨IncludedPage ρ ι, ρ, first, type, label, IncludedPage.decode resource included, IncludedPage.data,
    fun page => row page.included, IncludedPage.links⟩

def Listing.rows (listing : Listing α) (page : listing.Response) : List α := (listing.data page).map (listing.row page)

def AppStoreClient.collect (client : AppStoreClient) (fuel : Nat) (listing : Listing α) (collected : List α) :
    Async (List α) :=
  client.listPages fuel listing.type listing.label listing.decoder listing.rows listing.links collected listing.first

def AppStoreClient.fetchPage (client : AppStoreClient) (listing : Listing α) : Async (List α × Option String) := do
  let body ← getPage listing.first
  let page ← .ofExcept (client.parse listing.type listing.label listing.decoder body)
  pure (listing.rows page, (listing.links page).nextUrl)

end StackConnect
