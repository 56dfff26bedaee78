import StackConnect.AppStore.JsonApi

set_option autoImplicit false

namespace StackConnect

open Interaction Serde Rust

structure ReviewResponseAttributes where
  responseBody : Option String
  state : Option String
  lastModifiedDate : Option String

def ReviewResponseAttributes.decode : Decoder ReviewResponseAttributes := struct do
  let responseBody ← optional "responseBody" string
  let state ← optional "state" string
  let lastModifiedDate ← optional "lastModifiedDate" string
  pure ⟨responseBody, state, lastModifiedDate⟩

abbrev ReviewResponseResource := Resource ReviewResponseAttributes

def ReviewResponseResource.decode : Decoder ReviewResponseResource :=
  Resource.decode ReviewResponseAttributes.decode ⟨none, none, none⟩

structure ReviewResponse where
  id : String
  body : Option String
  state : Option String
  lastModifiedDate : Option String
deriving DecidableEq

def intoReviewResponse (resource : ReviewResponseResource) : ReviewResponse where
  id := resource.id
  body := resource.attributes.responseBody
  state := resource.attributes.state
  lastModifiedDate := resource.attributes.lastModifiedDate

structure CustomerReviewAttributes where
  rating : Int
  title : Option String
  body : Option String
  reviewerNickname : Option String
  createdDate : Option String
  territory : Option String

def CustomerReviewAttributes.decode : Decoder CustomerReviewAttributes := struct do
  let rating ← defaulted "rating" i32 0
  let title ← optional "title" string
  let body ← optional "body" string
  let reviewerNickname ← optional "reviewerNickname" string
  let createdDate ← optional "createdDate" string
  let territory ← optional "territory" string
  pure ⟨rating, title, body, reviewerNickname, createdDate, territory⟩

structure CustomerReviewRelationships where
  response : ToOneRelationship

def CustomerReviewRelationships.decode : Decoder CustomerReviewRelationships := struct do
  let response ← toOne "response"
  pure ⟨response⟩

abbrev CustomerReviewResource := LinkedResource CustomerReviewAttributes CustomerReviewRelationships

def CustomerReviewResource.decode : Decoder CustomerReviewResource :=
  LinkedResource.decode CustomerReviewAttributes.decode ⟨0, none, none, none, none, none⟩
    CustomerReviewRelationships.decode ⟨⟨none⟩⟩

structure CustomerReview where
  id : String
  rating : Int
  title : Option String
  body : Option String
  reviewerNickname : Option String
  createdDate : Option String
  territory : Option String
  response : Option ReviewResponse
deriving DecidableEq

def intoCustomerReview (resource : CustomerReviewResource) (response : Option ReviewResponse) : CustomerReview where
  id := resource.id
  rating := resource.attributes.rating
  title := resource.attributes.title
  body := resource.attributes.body
  reviewerNickname := resource.attributes.reviewerNickname
  createdDate := resource.attributes.createdDate
  territory := resource.attributes.territory
  response := response

def reviewResponses (included : List ReviewResponseResource) : HashMap String ReviewResponse :=
  HashMap.collect (included.map fun resource => (resource.id, intoReviewResponse resource))

def withResponse (included : List ReviewResponseResource) (review : CustomerReviewResource) : CustomerReview :=
  intoCustomerReview review
    (review.relationships.response.data.bind fun related => (reviewResponses included).get related.id)

structure CustomerReviewsPage where
  reviews : List CustomerReview
  nextToken : Option String

namespace AppStoreClient

variable (client : AppStoreClient)

def customerReviewsListing (first : String) : Listing CustomerReview :=
  .including first "CustomerReviewsResponse" "customer reviews response" CustomerReviewResource.decode
    ReviewResponseResource.decode withResponse

def customerReviewsUrl (appId : String) : String :=
  client.baseUrl ++ "/v1/apps/" ++ appId ++ "/customerReviews?sort=-createdDate&include=response&limit=50"

def fetchCustomerReviews (fuel : Nat) (appId : String) : Async (List CustomerReview) :=
  client.collect fuel (customerReviewsListing (client.customerReviewsUrl appId)) []

def customerReviewsPageUrl (appId sort : String) (filterRating : List String) (limit : Nat) : String :=
  let url := client.baseUrl ++ "/v1/apps/" ++ appId ++ "/customerReviews?sort=" ++ sort ++
    "&include=response&limit=" ++ toString limit
  if filterRating ≠ [] then url ++ ("&filter[rating]=" ++ ",".intercalate filterRating) else url

-- A token is the URL of its page, fetched verbatim.
def fetchCustomerReviewsPage (appId sort : String) (filterRating : List String) (limit : Nat)
    (pageToken : Option String) : Async CustomerReviewsPage := do
  let url := pageToken.getD (client.customerReviewsPageUrl appId sort filterRating limit)
  let page ← client.fetchPage (customerReviewsListing url)
  pure ⟨page.1, page.2⟩

def customerReviewResponsesUrl : String := client.baseUrl ++ "/v1/customerReviewResponses"

def replyToReview (reviewId body : String) : Async ReviewResponse := do
  let resource ← client.exchangeDocument
    (.post client.customerReviewResponsesUrl (createBody "customerReviewResponses" [("responseBody", .str body)]
      [("review", linkTo "customerReviews" reviewId)]))
    "ReviewResponseDocument" "review response" ReviewResponseResource.decode
  pure (intoReviewResponse resource)

def deleteReviewResponse (responseId : String) : Async Unit :=
  deleteNoContent (client.baseUrl ++ "/v1/customerReviewResponses/" ++ responseId)

end AppStoreClient

end StackConnect
