import StackConnect.AppStore.Listings

set_option autoImplicit false

namespace StackConnect

open Interaction Serde

variable {α : Type}

-- A caller of a page operation: it starts without a token, feeds each token it
-- is given back, and stops at the first error or when there is no token.
def pageByPage (fetch : Option String → Async (List α × Option String)) (fuel : Nat) : Async (List α) :=
  whileSome (fun collected token => do
    let page ← fetch token
    pure (collected ++ page.1, page.2.map some)) fuel [] (some none)

def Listing.startingAt (listing : Listing α) (url : String) : Listing α := { listing with first := url }

theorem page_by_page_collects (client : AppStoreClient) (listing : Listing α)
    (fetch : Option String → Async (List α × Option String))
    (fetches : ∀ token, fetch token = client.fetchPage (listing.startingAt (token.getD listing.first))) (fuel : Nat) :
    pageByPage fetch fuel = client.collect fuel listing [] := by
  refine (while_some_items (fun token => token.getD listing.first) _ _ ?_ fuel [] (some none)).symm
  intro collected token
  have onward : ∀ links : Links, (links.nextUrl.map some).map (fun token => token.getD listing.first) = links.nextUrl := by
    intro links
    cases links.nextUrl <;> rfl
  rw [fetches, AppStoreClient.fetchPage]
  simp only [Prog.bind_assoc, Prog.pure_eq, Prog.bind_ok, onward]
  rfl

namespace AppStoreClient

variable (client : AppStoreClient)

def buildsPageByPage (fuel : Nat) (appId : String) (limit : Nat) : Async (List BuildInfo) :=
  pageByPage (fun token => do
    let page ← client.fetchBuildsPage appId none [] limit token
    pure (page.builds, page.nextToken)) fuel

def customerReviewsPageByPage (fuel : Nat) (appId : String) : Async (List CustomerReview) :=
  pageByPage (fun token => do
    let page ← client.fetchCustomerReviewsPage appId "-createdDate" [] 50 token
    pure (page.reviews, page.nextToken)) fuel

theorem builds_page_by_page (fuel : Nat) (appId : String) (limit : Nat) :
    client.buildsPageByPage fuel appId limit = client.fetchBuilds fuel appId limit := by
  apply page_by_page_collects
  intro token
  rw [fetchBuildsPage, Prog.bind_assoc]
  exact Prog.bind_pure_right _

theorem customer_reviews_page_url (appId : String) :
    client.customerReviewsPageUrl appId "-createdDate" [] 50 = client.customerReviewsUrl appId := by
  rw [customerReviewsPageUrl, customerReviewsUrl]
  simp only [String.append_assoc]
  rfl

theorem customer_reviews_page_by_page (fuel : Nat) (appId : String) :
    client.customerReviewsPageByPage fuel appId = client.fetchCustomerReviews fuel appId := by
  apply page_by_page_collects
  intro token
  rw [fetchCustomerReviewsPage, customer_reviews_page_url, Prog.bind_assoc]
  exact Prog.bind_pure_right _

end AppStoreClient

theorem page_at_a_time_agrees (client : AppStoreClient) (site : Site) (tokens : Nat → String) :
    (∀ fuel appId limit, client.buildsPageByPage fuel appId limit = client.fetchBuilds fuel appId limit) ∧
      (∀ fuel appId, client.customerReviewsPageByPage fuel appId = client.fetchCustomerReviews fuel appId) ∧
      (∀ appId limit urls pages failure,
        let listing := AppStoreClient.buildsListing appId (client.buildsUrl appId limit)
        Chain client site listing listing.first urls pages failure → ∀ fuel signed, urls.length ≤ fuel →
          Walked tokens signed urls (chainOutcome listing [] pages failure)
            (exec (serving site tokens) (client.buildsPageByPage fuel appId limit) signed)) ∧
      ∀ appId urls pages failure,
        let listing := AppStoreClient.customerReviewsListing (client.customerReviewsUrl appId)
        Chain client site listing listing.first urls pages failure → ∀ fuel signed, urls.length ≤ fuel →
          Walked tokens signed urls (chainOutcome listing [] pages failure)
            (exec (serving site tokens) (client.customerReviewsPageByPage fuel appId) signed) := by
  refine ⟨client.builds_page_by_page, client.customer_reviews_page_by_page, ?_, ?_⟩
  · intro appId limit urls pages failure listing chain fuel signed enough
    rw [client.builds_page_by_page]
    exact exec_list_pages client site listing tokens _ urls pages failure chain [] fuel enough signed
  · intro appId urls pages failure listing chain fuel signed enough
    rw [client.customer_reviews_page_by_page]
    exact exec_list_pages client site listing tokens _ urls pages failure chain [] fuel enough signed

def buildsJson : Json := .obj
  [("data", .arr [.obj [("id", .str "B2"), ("attributes", .obj [("version", .str "42")])]]),
    ("links", .obj [("next", .str "https://host/v1/builds?cursor=2")])]

def reviewsJson : Json := .obj
  [("data", .arr [.obj [("id", .str "R2"), ("attributes", .obj [("rating", .int 5)]),
      ("relationships", .obj [("response", linkTo "customerReviewResponses" "A1")])]]),
    ("included", .arr [.obj [("type", .str "customerReviewResponses"), ("id", .str "A1"),
      ("attributes", .obj [("responseBody", .str "thanks")])]]),
    ("links", .obj [("next", .str "https://host/v1/reviews?cursor=2")])]

def lastReviewsJson : Json := .obj
  [("data", .arr [.obj [("id", .str "R1"), ("attributes", .obj [("rating", .int 1)])]]), ("links", .obj [("next", .null)])]

def feedClient : AppStoreClient := ⟨"https://host", .reading [buildsJson, reviewsJson, lastReviewsJson]⟩

def feedBuilds : Listing BuildInfo := AppStoreClient.buildsListing "A" (feedClient.buildsUrl "A" 10)
def feedReviews : Listing CustomerReview := AppStoreClient.customerReviewsListing (feedClient.customerReviewsUrl "A")

def feedSite : Site := fun url =>
  if url = feedBuilds.first then .ok (200, buildsJson.compact)
  else if url = "https://host/v1/builds?cursor=2" then .ok (500, "down")
  else if url = feedReviews.first then .ok (200, reviewsJson.compact)
  else if url = "https://host/v1/reviews?cursor=2" then .ok (200, lastReviewsJson.compact)
  else .ok (404, "")

def feedReviewPages : List feedReviews.Response :=
  [⟨[⟨"R2", ⟨5, none, none, none, none, none⟩, ⟨⟨some ⟨"A1"⟩⟩⟩⟩], [⟨"A1", ⟨some "thanks", none, none⟩⟩],
      ⟨some "https://host/v1/reviews?cursor=2"⟩⟩,
    ⟨[⟨"R1", ⟨1, none, none, none, none, none⟩, ⟨⟨none⟩⟩⟩], [], ⟨none⟩⟩]

def feedReviewRows : List CustomerReview :=
  [⟨"R2", 5, none, none, none, none, none, some ⟨"A1", some "thanks", none, none⟩⟩,
    ⟨"R1", 1, none, none, none, none, none, none⟩]

set_option maxRecDepth 20000 in
theorem feed_builds_chain : Chain feedClient feedSite feedBuilds feedBuilds.first
    [feedBuilds.first, "https://host/v1/builds?cursor=2"]
    [⟨[⟨"B2", { BuildAttributes.default with version := some "42" }, ⟨⟨none⟩, ⟨none⟩, ⟨none⟩, ⟨[]⟩, ⟨[]⟩⟩⟩], [],
      ⟨some "https://host/v1/builds?cursor=2"⟩⟩] (some (.http 500 "down")) :=
  .next _ _ ⟨200, buildsJson.compact, rfl, rfl, rfl⟩ _ rfl (by decide) _ _ _
    (.broken _ _ (.status 500 "down" rfl rfl (by rintro ⟨forbidden, _⟩; cases forbidden)))

set_option maxRecDepth 20000 in
theorem feed_reviews_chain : Chain feedClient feedSite feedReviews feedReviews.first
    [feedReviews.first, "https://host/v1/reviews?cursor=2"] feedReviewPages none :=
  .next _ _ ⟨200, reviewsJson.compact, rfl, rfl, rfl⟩ _ rfl (by decide) _ _ _
    (.last _ _ ⟨200, lastReviewsJson.compact, rfl, rfl, rfl⟩ (.inl rfl))

theorem feed_pages_agree :
    feedClient.buildsPageByPage 2 "A" 10 = feedClient.fetchBuilds 2 "A" 10 ∧
      feedClient.customerReviewsPageByPage 2 "A" = feedClient.fetchCustomerReviews 2 "A" ∧
      Walked (fun _ => "token") 0 [feedBuilds.first, "https://host/v1/builds?cursor=2"]
        (.error (.http 500 "down") : Except StackError (List BuildInfo))
        (exec (serving feedSite fun _ => "token") (feedClient.buildsPageByPage 2 "A" 10) 0) ∧
      Walked (fun _ => "token") 0 [feedReviews.first, "https://host/v1/reviews?cursor=2"] (.ok feedReviewRows)
        (exec (serving feedSite fun _ => "token") (feedClient.customerReviewsPageByPage 2 "A") 0) :=
  let ⟨builds, reviews, buildsWalk, reviewsWalk⟩ := page_at_a_time_agrees feedClient feedSite fun _ => "token"
  ⟨builds 2 "A" 10, reviews 2 "A", buildsWalk "A" 10 _ _ _ feed_builds_chain 2 0 (by decide),
    reviewsWalk "A" _ _ _ feed_reviews_chain 2 0 (by decide)⟩

end StackConnect
