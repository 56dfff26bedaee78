import StackConnect.AppStore.Apps
import StackConnect.AppStore.Builds
import StackConnect.AppStore.Calls
import StackConnect.AppStore.CustomerReviews
import StackConnect.AppStore.ListedRows
import StackConnect.AppStore.Provisioning
import StackConnect.AppStore.ReviewSubmissions
import StackConnect.AppStore.Users

set_option autoImplicit false

namespace StackConnect

open Interaction Serde Rust

variable {α : Type}

abbrev Site := String → Except String (Nat × String)

def serving (site : Site) (tokens : Nat → String) : Handler Answer Nat where
  answer
    | .bearerToken, signed => (.ok (tokens signed), signed + 1)
    | .send request, signed => (site request.url, signed)
    | .stream _, signed => (.error "not streamed", signed)

def signedGets (tokens : Nat → String) : Nat → List String → List Request
  | _, [] => []
  | signed, url :: urls => (Request.get url).bearerAuth (tokens signed) :: signedGets tokens (signed + 1) urls

theorem signed_gets_append (tokens : Nat → String) (signed : Nat) (first second : List String) :
    signedGets tokens signed (first ++ second) =
      signedGets tokens signed first ++ signedGets tokens (signed + first.length) second := by
  induction first generalizing signed with
  | nil => rfl
  | cons url rest ih =>
      rw [List.cons_append, signedGets, signedGets, ih, List.cons_append, List.length_cons]
      congr 3
      omega

theorem next_url_final (links : Links) (final : links.next = none ∨ links.next = some "") : links.nextUrl = none := by
  rcases final with none | empty
  · rw [Links.nextUrl, none]
    rfl
  · rw [Links.nextUrl, empty]
    rfl

theorem next_url_linked (links : Links) (following : String) (linked : links.next = some following)
    (named : following ≠ "") : links.nextUrl = some following := by
  rw [Links.nextUrl, linked, Option.filter_some, if_pos (by simpa using named)]

def MentionsAgreements (body : String) : Prop :=
  contains (toLowercase body) "agreement" = true ∨ contains (toLowercase body) "pending" = true

section Pages

variable (client : AppStoreClient) (site : Site) (listing : Listing α)

def Shows (url : String) (page : listing.Response) : Prop :=
  ∃ status body, site url = .ok (status, body) ∧ isSuccess status = true ∧
    client.crates.serdeJson.fromStr listing.type listing.decoder body = .ok page

inductive Fails (url : String) : StackError → Prop
  | transport (message : String) (broken : site url = .error message) : Fails url (.network message)
  | agreements (body : String) (refused : site url = .ok (403, body)) (mentions : MentionsAgreements body) :
      Fails url (.pendingAgreements pendingAgreementsMessage)
  | status (status : Nat) (body : String) (refused : site url = .ok (status, body)) (failed : isSuccess status = false)
      (plain : ¬ (status = 403 ∧ MentionsAgreements body)) : Fails url (.http status body)
  | malformed (status : Nat) (body reason : String) (answered : site url = .ok (status, body))
      (success : isSuccess status = true)
      (undecodable : client.crates.serdeJson.fromStr listing.type listing.decoder body = .error reason) :
      Fails url (.decode (listing.label ++ ": " ++ reason))

inductive Chain : String → List String → List listing.Response → Option StackError → Prop
  | last (url : String) (page : listing.Response) (shown : Shows client site listing url page)
      (final : (listing.links page).next = none ∨ (listing.links page).next = some "") : Chain url [url] [page] none
  | broken (url : String) (error : StackError) (fails : Fails client site listing url error) :
      Chain url [url] [] (some error)
  | next (url : String) (page : listing.Response) (shown : Shows client site listing url page) (following : String)
      (linked : (listing.links page).next = some following) (named : following ≠ "") (urls : List String)
      (pages : List listing.Response) (failure : Option StackError) (rest : Chain following urls pages failure) :
      Chain url (url :: urls) (page :: pages) failure

def pageRead (url : String) : Except StackError listing.Response :=
  match site url with
  | .error message => .error (.network message)
  | .ok response => accepted response >>= client.parse listing.type listing.label listing.decoder

theorem page_read_shows (url : String) (page : listing.Response) (shown : Shows client site listing url page) :
    pageRead client site listing url = .ok page := by
  obtain ⟨status, body, answered, success, decoded⟩ := shown
  have passed : accepted (status, body) = .ok body := (accepted_ok _ _).mpr ⟨success, rfl⟩
  simp only [pageRead, answered, passed]
  change client.parse listing.type listing.label listing.decoder body = _
  rw [AppStoreClient.parse, decoded]

theorem page_read_fails (url : String) (error : StackError) (fails : Fails client site listing url error) :
    pageRead client site listing url = .error error := by
  have refusedBy : ∀ status body, site url = .ok (status, body) → isSuccess status = false →
      pageRead client site listing url = .error (statusError status body) := by
    intro status body answered failed
    have refused : accepted (status, body) = .error (statusError status body) := by simp [accepted, failed]
    simp only [pageRead, answered, refused]
    rfl
  cases fails with
  | transport message broken => simp only [pageRead, broken]
  | agreements body refused mentions =>
      rw [refusedBy 403 body refused rfl, statusError,
        (pending_agreements_error_some 403 body _).mpr ⟨⟨rfl, mentions⟩, rfl⟩]
  | status status body refused failed plain =>
      rw [refusedBy status body refused failed, statusError]
      cases found : pendingAgreementsError status body with
      | none => rfl
      | some error => exact absurd ((pending_agreements_error_some status body error).mp found).1 plain
  | malformed status body reason answered success undecodable =>
      have passed : accepted (status, body) = .ok body := (accepted_ok _ _).mpr ⟨success, rfl⟩
      simp only [pageRead, answered, passed]
      change client.parse listing.type listing.label listing.decoder body = _
      rw [AppStoreClient.parse, undecodable]

def pageTrace (tokens : Nat → String) (signed : Nat) (url : String) : Trace :=
  [⟨.bearerToken, .ok (tokens signed)⟩, ⟨.send ((Request.get url).bearerAuth (tokens signed)), site url⟩]

theorem page_trace_requests (tokens : Nat → String) (signed : Nat) (url : String) :
    requests (pageTrace site tokens signed url) = [(Request.get url).bearerAuth (tokens signed)] := rfl

def fetched (site : Site) (url : String) : Except StackError String :=
  match site url with
  | .error message => .error (.network message)
  | .ok response => accepted response

theorem exec_exchange_at (tokens : Nat → String) (request : Request) (signed : Nat) :
    exec (serving site tokens) (exchange request) signed =
      ⟨some (fetched site request.url), signed + 1,
        [⟨.bearerToken, .ok (tokens signed)⟩, ⟨.send (request.bearerAuth (tokens signed)), site request.url⟩]⟩ := by
  have asked : exec (serving site tokens) (sendAndRead (request.bearerAuth (tokens signed))) (signed + 1) =
      ⟨some (match site request.url with
        | .error message => .error (.network message)
        | .ok response => .ok response), signed + 1, [⟨.send (request.bearerAuth (tokens signed)), site request.url⟩]⟩ := by
    rw [sendAndRead, exec_ask]
    have reply : (serving site tokens).answer (.send (request.bearerAuth (tokens signed))) (signed + 1) =
        (site request.url, signed + 1) := rfl
    rw [reply]
    cases site request.url <;> rfl
  change (exec (serving site tokens) (sendAndRead (request.bearerAuth (tokens signed)) >>=
    fun response => Prog.ofExcept (accepted response)) (signed + 1)).prepend [⟨.bearerToken, .ok (tokens signed)⟩] = _
  rw [exec_bind, asked, fetched]
  cases site request.url with
  | error message => rfl
  | ok response => rfl

theorem exec_get_page (tokens : Nat → String) (url : String) (signed : Nat) :
    exec (serving site tokens) (getPage url) signed =
      ⟨some (fetched site url), signed + 1, pageTrace site tokens signed url⟩ :=
  exec_exchange_at site tokens (.get url) signed

theorem exec_page_read {β : Type} (tokens : Nat → String) (judge : listing.Response → β) (url : String) (signed : Nat) :
    exec (serving site tokens) (do
        let body ← getPage url
        let page ← Prog.ofExcept (client.parse listing.type listing.label listing.decoder body)
        pure (judge page)) signed =
      ⟨some ((pageRead client site listing url).map judge), signed + 1, pageTrace site tokens signed url⟩ := by
  rw [exec_bind, exec_get_page, fetched, pageRead]
  cases site url with
  | error message => rfl
  | ok response =>
      dsimp only
      cases accepted response with
      | error failure => rfl
      | ok body =>
          rw [Run.and_then_ok]
          change (exec (serving site tokens) (Prog.ofExcept (client.parse listing.type listing.label listing.decoder body) >>=
            fun page => pure (judge page)) (signed + 1)).prepend _ =
              ⟨some ((client.parse listing.type listing.label listing.decoder body).map judge), _, _⟩
          cases client.parse listing.type listing.label listing.decoder body with
          | error failure => rfl
          | ok page => rfl

def Walked (tokens : Nat → String) (signed : Nat) (urls : List String) (outcome : Except StackError (List α))
    (run : Run Answer StackError (List α) Nat) : Prop :=
  run.outcome = some outcome ∧ run.state = signed + urls.length ∧ requests run.trace = signedGets tokens signed urls

def chainOutcome (collected : List α) (pages : List listing.Response) : Option StackError → Except StackError (List α)
  | none => .ok (collected ++ pages.flatMap listing.rows)
  | some error => .error error

theorem exec_list_pages (tokens : Nat → String) (url : String) (urls : List String) (pages : List listing.Response)
    (failure : Option StackError) (chain : Chain client site listing url urls pages failure) (collected : List α)
    (fuel : Nat) (enough : urls.length ≤ fuel) (signed : Nat) :
    Walked tokens signed urls (chainOutcome listing collected pages failure)
      (exec (serving site tokens) (client.listPages fuel listing.type listing.label listing.decoder listing.rows
        listing.links collected url) signed) := by
  induction chain generalizing collected fuel signed with
  | last url page shown final =>
      obtain ⟨less, rfl⟩ : ∃ less, fuel = less + 1 := ⟨fuel - 1, by simp at enough; omega⟩
      have ended := next_url_final (listing.links page) final
      have round := exec_page_read client site listing tokens
        (fun page => (collected ++ listing.rows page, (listing.links page).nextUrl)) url signed
      rw [page_read_shows client site listing url page shown] at round
      rw [AppStoreClient.listPages, exec_while_some_ok _ _ _ _ _ _ _ _ round]
      dsimp only
      rw [ended, while_some_none]
      refine ⟨?_, rfl, rfl⟩
      simp [chainOutcome]
  | broken url error fails =>
      obtain ⟨less, rfl⟩ : ∃ less, fuel = less + 1 := ⟨fuel - 1, by simp at enough; omega⟩
      have round := exec_page_read client site listing tokens
        (fun page => (collected ++ listing.rows page, (listing.links page).nextUrl)) url signed
      rw [page_read_fails client site listing url error fails] at round
      rw [AppStoreClient.listPages, exec_while_some_error _ _ _ _ _ _ _ _ round]
      exact ⟨rfl, rfl, rfl⟩
  | next url page shown following linked named urls pages failure rest ih =>
      obtain ⟨less, rfl⟩ : ∃ less, fuel = less + 1 := ⟨fuel - 1, by simp at enough; omega⟩
      have onward := next_url_linked (listing.links page) following linked named
      have round := exec_page_read client site listing tokens
        (fun page => (collected ++ listing.rows page, (listing.links page).nextUrl)) url signed
      rw [page_read_shows client site listing url page shown] at round
      rw [AppStoreClient.listPages, exec_while_some_ok _ _ _ _ _ _ _ _ round]
      dsimp only
      rw [onward]
      obtain ⟨outcome, state, sent⟩ := ih (collected ++ listing.rows page) less (by simpa using enough) (signed + 1)
      refine ⟨?_, ?_, ?_⟩
      · rw [Run.prepend_outcome]
        apply outcome.trans
        cases failure with
        | none => simp only [chainOutcome, List.flatMap_cons, List.append_assoc]
        | some error => rfl
      · rw [Run.prepend_state]
        apply state.trans
        rw [List.length_cons]
        omega
      · rw [Run.prepend_trace, requests_append, page_trace_requests]
        exact congrArg (_ :: ·) sent

end Pages

-- Listings walked one after the other into one list: the URLs of their chains,
-- then the rows of all their pages, or the error of the first page that fails.
inductive Tour (client : AppStoreClient) (site : Site) : List (Listing α) → List String → Except StackError (List α) → Prop
  | finished : Tour client site [] [] (.ok [])
  | broken (listing : Listing α) (rest : List (Listing α)) (urls : List String) (pages : List listing.Response)
      (error : StackError) (chain : Chain client site listing listing.first urls pages (some error)) :
      Tour client site (listing :: rest) urls (.error error)
  | walked (listing : Listing α) (rest : List (Listing α)) (urls : List String) (pages : List listing.Response)
      (chain : Chain client site listing listing.first urls pages none) (later : List String)
      (outcome : Except StackError (List α)) (after : Tour client site rest later outcome) :
      Tour client site (listing :: rest) (urls ++ later) (outcome.map (pages.flatMap listing.rows ++ ·))

theorem exec_tour (client : AppStoreClient) (site : Site) (tokens : Nat → String) (listings : List (Listing α))
    (urls : List String) (outcome : Except StackError (List α)) (tour : Tour client site listings urls outcome)
    (collected : List α) (fuel : Nat) (enough : urls.length ≤ fuel) (signed : Nat) :
    Walked tokens signed urls (outcome.map (collected ++ ·))
      (exec (serving site tokens) (listings.foldlM (fun collected listing => client.collect fuel listing collected) collected)
        signed) := by
  induction tour generalizing collected signed with
  | finished =>
      refine ⟨?_, rfl, rfl⟩
      simp [Except.map]
  | broken listing rest urls pages error chain =>
      obtain ⟨outcome, state, sent⟩ := exec_list_pages client site listing tokens listing.first urls pages _ chain
        collected fuel enough signed
      rw [List.foldlM_cons, exec_bind]
      rcases ran : exec (serving site tokens) (client.collect fuel listing collected) signed with ⟨result, reached, trace⟩
      rw [AppStoreClient.collect] at ran
      rw [ran] at outcome state sent
      subst outcome
      exact ⟨rfl, state, sent⟩
  | walked listing rest urls pages chain later outcome after ih =>
      rw [List.length_append] at enough
      obtain ⟨first, state, sent⟩ := exec_list_pages client site listing tokens listing.first urls pages _ chain
        collected fuel (by omega) signed
      rw [List.foldlM_cons, exec_bind]
      rcases ran : exec (serving site tokens) (client.collect fuel listing collected) signed with ⟨result, reached, trace⟩
      rw [AppStoreClient.collect] at ran
      rw [ran] at first state sent
      subst first
      subst state
      obtain ⟨last, reached, others⟩ := ih (collected ++ pages.flatMap listing.rows) (by omega) (signed + urls.length)
      rw [chainOutcome, Run.and_then_ok]
      refine ⟨?_, ?_, ?_⟩
      · rw [Run.prepend_outcome]
        apply last.trans
        cases outcome with
        | error failure => rfl
        | ok rows => simp only [Except.map, List.append_assoc]
      · rw [Run.prepend_state]
        apply reached.trans
        rw [List.length_append]
        omega
      · rw [Run.prepend_trace, requests_append, signed_gets_append]
        exact congrArg₂ (· ++ ·) sent others

theorem collect_single (client : AppStoreClient) (fuel : Nat) (listing : Listing α) :
    client.collect fuel listing [] =
      [listing].foldlM (fun collected listing => client.collect fuel listing collected) [] := by
  rw [List.foldlM_cons]
  exact (Prog.bind_pure_right _).symm

inductive ListingOperation where
  | fetchApps
  | fetchCustomerReviews (appId : String)
  | fetchReviewSubmissions (appId : String)
  | fetchBuilds (appId : String) (limit : Nat)
  | fetchBuildsForGroup (groupId : String) (limit : Nat)
  | fetchBetaBuildLocalizations (buildId : String) (limit : Nat)
  | fetchAppInfoLocalizations (appInfoId : String)
  | fetchTeamMembers
  | fetchUsers
  | fetchProfiles

namespace ListingOperation

abbrev Row : ListingOperation → Type
  | fetchApps => AppInfo
  | fetchCustomerReviews _ => CustomerReview
  | fetchReviewSubmissions _ => ReviewSubmission
  | fetchBuilds .. | fetchBuildsForGroup .. => BuildInfo
  | fetchBetaBuildLocalizations .. => BetaBuildLocalizationInfo
  | fetchAppInfoLocalizations _ => AppInfoLocalizationInfo
  | fetchTeamMembers => TeamMemberInfo
  | fetchUsers => UserInfo
  | fetchProfiles => ProvisioningProfileInfo

variable (client : AppStoreClient)

def run (fuel : Nat) : (operation : ListingOperation) → Async (List operation.Row)
  | fetchApps => client.fetchApps fuel
  | fetchCustomerReviews appId => client.fetchCustomerReviews fuel appId
  | fetchReviewSubmissions appId => client.fetchReviewSubmissions fuel appId
  | fetchBuilds appId limit => client.fetchBuilds fuel appId limit
  | fetchBuildsForGroup groupId limit => client.fetchBuildsForGroup fuel groupId limit
  | fetchBetaBuildLocalizations buildId limit => client.fetchBetaBuildLocalizations fuel buildId limit
  | fetchAppInfoLocalizations appInfoId => client.fetchAppInfoLocalizations fuel appInfoId
  | fetchTeamMembers => client.fetchTeamMembers fuel
  | fetchUsers => client.fetchUsers fuel
  | fetchProfiles => client.fetchProfiles fuel

def listings : (operation : ListingOperation) → List (Listing operation.Row)
  | fetchApps => [client.appsListing]
  | fetchCustomerReviews appId => [AppStoreClient.customerReviewsListing (client.customerReviewsUrl appId)]
  | fetchReviewSubmissions appId => [client.reviewSubmissionsListing appId]
  | fetchBuilds appId limit => [AppStoreClient.buildsListing appId (client.buildsUrl appId limit)]
  | fetchBuildsForGroup groupId limit => [AppStoreClient.buildsListing "" (client.buildsForGroupUrl groupId limit)]
  | fetchBetaBuildLocalizations buildId limit => [client.betaBuildLocalizationsListing buildId limit]
  | fetchAppInfoLocalizations appInfoId => [client.appInfoLocalizationsListing appInfoId]
  | fetchTeamMembers => [client.teamMembersListing]
  | fetchUsers => [client.activeUsersListing, client.pendingUsersListing]
  | fetchProfiles => [client.profilesListing]

theorem run_listings (fuel : Nat) (operation : ListingOperation) :
    operation.run client fuel =
      (operation.listings client).foldlM (fun collected listing => client.collect fuel listing collected) [] := by
  cases operation with
  | fetchUsers =>
      change (client.collect fuel client.activeUsersListing [] >>= client.collect fuel client.pendingUsersListing) = _
      simp only [listings, List.foldlM_cons, List.foldlM_nil]
      congr 1
      funext users
      exact (Prog.bind_pure_right _).symm
  | _ => exact collect_single client fuel _

end ListingOperation

def PageAt (client : AppStoreClient) (site : Site) (shows : Json → List α → Prop) (url : String) (rows : List α) : Prop :=
  ∃ status body page, site url = .ok (status, body) ∧ isSuccess status = true ∧
    client.crates.serdeJson.parse body = some page ∧ shows page rows

def Concatenates (client : AppStoreClient) (site : Site) (shows : Json → List α → Prop) (urls : List String)
    (rows : List α) : Prop :=
  ∃ parts, List.Forall₂ (PageAt client site shows) urls parts ∧ rows = parts.flatten

-- The members first, none of them pending, then the invitations, all of them.
def ListsUsers (client : AppStoreClient) (site : Site) (urls : List String) (users : List UserInfo) : Prop :=
  ∃ memberUrls invitationUrls memberPages invitationPages members invitations,
    Chain client site client.activeUsersListing client.activeUsersListing.first memberUrls memberPages none ∧
      Chain client site client.pendingUsersListing client.pendingUsersListing.first invitationUrls invitationPages none ∧
      urls = memberUrls ++ invitationUrls ∧ users = members ++ invitations ∧
      Concatenates client site (EachMapped UserResource.decode intoActiveUserInfo) memberUrls members ∧
      Concatenates client site (EachMapped UserInvitationResource.decode intoPendingUserInfo) invitationUrls invitations ∧
      (∀ user ∈ members, user.isPending = false) ∧ ∀ user ∈ invitations, user.isPending = true

namespace ListingOperation

def Lists (client : AppStoreClient) (site : Site) :
    (operation : ListingOperation) → List String → List operation.Row → Prop
  | fetchApps => Concatenates client site (EachMapped AppResource.decode intoAppInfo)
  | fetchCustomerReviews _ =>
      Concatenates client site (EachJoined CustomerReviewResource.decode ReviewResponseResource.decode withResponse)
  | fetchReviewSubmissions appId =>
      Concatenates client site (EachJoined ReviewSubmissionResource.decode IncludedResource.decode fun included =>
        intoReviewSubmission appId (includedVersions included) (includedActors included))
  | fetchBuilds appId _ =>
      Concatenates client site (EachJoined BuildResource.decode BuildIncluded.decode fun included =>
        buildInfoFrom appId (.fromIncluded included))
  | fetchBuildsForGroup .. =>
      Concatenates client site (EachJoined BuildResource.decode BuildIncluded.decode fun included =>
        buildInfoFrom "" (.fromIncluded included))
  | fetchBetaBuildLocalizations .. =>
      Concatenates client site (EachMapped BetaBuildLocalizationResource.decode intoBetaBuildLocalizationInfo)
  | fetchAppInfoLocalizations _ =>
      Concatenates client site (EachMapped AppInfoLocalizationResource.decode intoAppInfoLocalizationInfo)
  | fetchTeamMembers => Concatenates client site (EachMapped UserResource.decode intoTeamMemberInfo)
  | fetchUsers => ListsUsers client site
  | fetchProfiles =>
      Concatenates client site (EachJoined ProfileResource.decode ProfileIncluded.decode fun included =>
        intoProfileInfo (includedBundleIds included))

end ListingOperation

theorem chain_concatenates (client : AppStoreClient) (site : Site) (listing : Listing α) (first : String)
    (urls : List String) (pages : List listing.Response) (failure : Option StackError)
    (chain : Chain client site listing first urls pages failure) (whole : failure = none) (shows : Json → List α → Prop)
    (each : ∀ json page, listing.decoder json = some page → shows json (listing.rows page)) :
    Concatenates client site shows urls (pages.flatMap listing.rows) := by
  have shown : ∀ url page, Shows client site listing url page → PageAt client site shows url (listing.rows page) := by
    rintro url page ⟨status, body, answered, success, read⟩
    obtain ⟨json, parsed, decoded⟩ := Option.bind_eq_some_iff.mp ((SerdeJson.from_str_ok _ _ _ _ _).mp read)
    exact ⟨status, body, json, answered, success, parsed, each json page decoded⟩
  induction chain with
  | last url page here final =>
      refine ⟨[listing.rows page], .cons (shown url page here) .nil, ?_⟩
      rw [List.flatMap_singleton, List.flatten_singleton]
  | broken url error fails => cases whole
  | next url page here following linked named urls pages failure rest ih =>
      obtain ⟨parts, later, same⟩ := ih whole
      refine ⟨listing.rows page :: parts, .cons (shown url page here) later, ?_⟩
      rw [List.flatMap_cons, same, List.flatten_cons]

theorem plain_concatenates {ρ : Type} (client : AppStoreClient) (site : Site) (first type label start : String)
    (resource : Decoder ρ) (row : ρ → α) (urls : List String) (pages : List (Page ρ))
    (chain : Chain client site (.plain first type label resource row) start urls pages none) :
    Concatenates client site (EachMapped resource row) urls
      (pages.flatMap (Listing.plain first type label resource row).rows) := by
  refine chain_concatenates client site (.plain first type label resource row) start urls pages none chain rfl _ ?_
  intro json page decoded
  exact each_mapped resource row json page.data (page_lists resource json page decoded)

theorem including_concatenates {ρ ι : Type} (client : AppStoreClient) (site : Site) (first type label start : String)
    (resource : Decoder ρ) (included : Decoder ι) (row : List ι → ρ → α) (urls : List String)
    (pages : List (IncludedPage ρ ι))
    (chain : Chain client site (.including first type label resource included row) start urls pages none) :
    Concatenates client site (EachJoined resource included row) urls
      (pages.flatMap (Listing.including first type label resource included row).rows) := by
  refine chain_concatenates client site (.including first type label resource included row) start urls pages none chain
    rfl _ ?_
  intro json page decoded
  obtain ⟨listed, joined⟩ := included_page_lists resource included json page decoded
  exact ⟨page.included, joined, each_mapped resource (row page.included) json page.data listed⟩

theorem tour_cons_ok (client : AppStoreClient) (site : Site) (listing : Listing α) (rest : List (Listing α))
    (urls : List String) (rows : List α) (tour : Tour client site (listing :: rest) urls (.ok rows)) :
    ∃ first pages later others, Chain client site listing listing.first first pages none ∧
      Tour client site rest later (.ok others) ∧ urls = first ++ later ∧ rows = pages.flatMap listing.rows ++ others := by
  generalize target : Except.ok rows = outcome at tour
  cases tour with
  | broken _ _ _ pages error chain => cases target
  | walked _ _ first pages chain later outcome after =>
      cases outcome with
      | error failure => cases target
      | ok others =>
          cases target
          exact ⟨first, pages, later, others, chain, after, rfl, rfl⟩

theorem tour_lists_users (client : AppStoreClient) (site : Site) (urls : List String) (users : List UserInfo)
    (tour : Tour client site (ListingOperation.fetchUsers.listings client) urls (.ok users)) :
    ListsUsers client site urls users := by
  obtain ⟨memberUrls, members, later, pending, walked, after, rfl, rfl⟩ := tour_cons_ok _ _ _ _ _ _ tour
  obtain ⟨invitationUrls, invitations, last, others, followed, rest, rfl, rfl⟩ := tour_cons_ok _ _ _ _ _ _ after
  cases rest
  rw [List.append_nil, List.append_nil]
  refine ⟨memberUrls, invitationUrls, members, invitations, members.flatMap client.activeUsersListing.rows,
    invitations.flatMap client.pendingUsersListing.rows, walked, followed, rfl, rfl,
    plain_concatenates _ _ _ _ _ _ _ _ _ _ walked, plain_concatenates _ _ _ _ _ _ _ _ _ _ followed, ?_, ?_⟩
  · intro user inside
    obtain ⟨page, _, listed⟩ := List.mem_flatMap.mp inside
    obtain ⟨resource, _, rfl⟩ := List.mem_map.mp listed
    rfl
  · intro user inside
    obtain ⟨page, _, listed⟩ := List.mem_flatMap.mp inside
    obtain ⟨resource, _, rfl⟩ := List.mem_map.mp listed
    rfl

theorem tour_single (client : AppStoreClient) (site : Site) (listing : Listing α) (urls : List String) (rows : List α)
    (tour : Tour client site [listing] urls (.ok rows)) :
    ∃ pages, Chain client site listing listing.first urls pages none ∧ rows = pages.flatMap listing.rows := by
  obtain ⟨first, pages, later, others, chain, rest, rfl, rfl⟩ := tour_cons_ok _ _ _ _ _ _ tour
  cases rest
  rw [List.append_nil, List.append_nil]
  exact ⟨pages, chain, rfl⟩

theorem tour_lists (client : AppStoreClient) (site : Site) (operation : ListingOperation) (urls : List String)
    (rows : List operation.Row) (tour : Tour client site (operation.listings client) urls (.ok rows)) :
    operation.Lists client site urls rows := by
  cases operation with
  | fetchUsers => exact tour_lists_users client site urls rows tour
  | fetchCustomerReviews _ | fetchReviewSubmissions _ | fetchBuilds _ _ | fetchBuildsForGroup _ _ | fetchProfiles =>
      obtain ⟨pages, chain, rfl⟩ := tour_single client site _ urls rows tour
      exact including_concatenates _ _ _ _ _ _ _ _ _ _ _ chain
  | fetchApps | fetchBetaBuildLocalizations _ _ | fetchAppInfoLocalizations _ | fetchTeamMembers =>
      obtain ⟨pages, chain, rfl⟩ := tour_single client site _ urls rows tour
      exact plain_concatenates _ _ _ _ _ _ _ _ _ _ chain

theorem listing_operation_walks_chains (client : AppStoreClient) (site : Site) (tokens : Nat → String) :
    (∀ (operation : ListingOperation) (urls : List String) (outcome : Except StackError (List operation.Row)),
        Tour client site (operation.listings client) urls outcome →
        ∀ fuel signed, urls.length ≤ fuel →
          Walked tokens signed urls outcome (exec (serving site tokens) (operation.run client fuel) signed)) ∧
      ∀ (operation : ListingOperation) (urls : List String) (rows : List operation.Row),
        Tour client site (operation.listings client) urls (.ok rows) → operation.Lists client site urls rows := by
  refine ⟨?_, tour_lists client site⟩
  intro operation urls outcome tour fuel signed enough
  have walked := exec_tour client site tokens (operation.listings client) urls outcome tour [] fuel enough signed
  rw [← operation.run_listings client fuel] at walked
  cases outcome with
  | error failure => exact walked
  | ok rows => exact walked

def memberPage : Json := .obj
  [("data", .arr [.obj [("id", .str "U1"), ("attributes", .obj [("username", .str "ada"), ("roles", .arr [.str "ADMIN"])])]]),
    ("links", .obj [("next", .str "https://host/v1/users?cursor=2")])]

def lastMemberPage : Json := .obj
  [("data", .arr [.obj [("id", .str "U2")]]), ("links", .obj [("next", .str "")])]

def invitationPage : Json := .obj
  [("data", .arr [.obj [("id", .str "I1"), ("attributes", .obj [("email", .str "bob"), ("allAppsVisible", .bool true)])]]),
    ("links", .obj [("next", .null)])]

def crewClient : AppStoreClient := ⟨"https://host", .reading [memberPage, lastMemberPage, invitationPage]⟩

def crewSite : Site := fun url =>
  if url = crewClient.activeUsersListing.first then .ok (200, memberPage.compact)
  else if url = "https://host/v1/users?cursor=2" then .ok (200, lastMemberPage.compact)
  else if url = crewClient.pendingUsersListing.first then .ok (200, invitationPage.compact)
  else .ok (404, "")

def crewUrls : List String :=
  [crewClient.activeUsersListing.first, "https://host/v1/users?cursor=2", crewClient.pendingUsersListing.first]

def crew : List UserInfo :=
  [⟨"U1", none, none, some "ada", ["ADMIN"], false, false, false, none⟩,
    ⟨"U2", none, none, none, [], false, false, false, none⟩,
    ⟨"I1", none, none, some "bob", [], true, false, true, none⟩]

def crewMembers : List (Page UserResource) :=
  [⟨[⟨"U1", ⟨none, none, some "ada", ["ADMIN"], none, none⟩⟩], ⟨some "https://host/v1/users?cursor=2"⟩⟩,
    ⟨[⟨"U2", ⟨none, none, none, [], none, none⟩⟩], ⟨some ""⟩⟩]

def crewInvitations : List (Page UserInvitationResource) :=
  [⟨[⟨"I1", ⟨none, none, some "bob", [], some true, none, none⟩⟩], ⟨none⟩⟩]

set_option maxRecDepth 20000 in
theorem crew_tour : Tour crewClient crewSite (ListingOperation.fetchUsers.listings crewClient) crewUrls (.ok crew) := by
  have members : Chain crewClient crewSite crewClient.activeUsersListing crewClient.activeUsersListing.first
      [crewClient.activeUsersListing.first, "https://host/v1/users?cursor=2"] crewMembers none :=
    .next _ _ ⟨200, memberPage.compact, rfl, rfl, rfl⟩ _ rfl (by decide) _ _ _
      (.last _ _ ⟨200, lastMemberPage.compact, rfl, rfl, rfl⟩ (.inr rfl))
  have invitations : Chain crewClient crewSite crewClient.pendingUsersListing crewClient.pendingUsersListing.first
      [crewClient.pendingUsersListing.first] crewInvitations none :=
    .last _ _ ⟨200, invitationPage.compact, rfl, rfl, rfl⟩ (.inl rfl)
  exact .walked _ _ _ _ members _ _ (.walked _ _ _ _ invitations _ _ .finished)

def profilesJson : Json := .obj
  [("data", .arr [.obj [("id", .str "P1"), ("attributes", .obj [("name", .str "dev")]),
      ("relationships", .obj [("bundleId", linkTo "bundleIds" "B1")])], .obj [("id", .str "P2")]]),
    ("included", .arr [.obj [("type", .str "bundleIds"), ("id", .str "B1"),
      ("attributes", .obj [("identifier", .str "com.example.app")])]]),
    ("links", .obj [("next", .str "https://host/v1/profiles?cursor=2")])]

def lastProfilesJson : Json := .obj
  [("data", .arr [.obj [("id", .str "P3"), ("attributes", .obj [("name", .str "store")]),
      ("relationships", .obj [("bundleId", linkTo "bundleIds" "B1")])]]), ("links", .obj [])]

def signingClient : AppStoreClient := ⟨"https://host", .reading [profilesJson, lastProfilesJson]⟩

def signingSite : Site := fun url =>
  if url = signingClient.profilesListing.first then .ok (200, profilesJson.compact)
  else if url = "https://host/v1/profiles?cursor=2" then .ok (200, lastProfilesJson.compact)
  else .ok (404, "")

def signingUrls : List String := [signingClient.profilesListing.first, "https://host/v1/profiles?cursor=2"]

def signingProfiles : List ProvisioningProfileInfo :=
  [⟨"P1", "dev", "", "", none, none, some "com.example.app", none, none, none⟩,
    ⟨"P2", "", "", "", none, none, none, none, none, none⟩, ⟨"P3", "store", "", "", none, none, none, none, none, none⟩]

def signingPages : List signingClient.profilesListing.Response :=
  [⟨[⟨"P1", ⟨some "dev", none, none, none, none, none, none, none⟩, ⟨⟨some ⟨"B1"⟩⟩⟩⟩,
      ⟨"P2", ⟨none, none, none, none, none, none, none, none⟩, ⟨⟨none⟩⟩⟩],
      [.bundleIds ⟨"B1", ⟨some "com.example.app"⟩⟩], ⟨some "https://host/v1/profiles?cursor=2"⟩⟩,
    ⟨[⟨"P3", ⟨some "store", none, none, none, none, none, none, none⟩, ⟨⟨some ⟨"B1"⟩⟩⟩⟩], [], ⟨none⟩⟩]

set_option maxRecDepth 20000 in
theorem signing_tour :
    Tour signingClient signingSite (ListingOperation.fetchProfiles.listings signingClient) signingUrls (.ok signingProfiles) := by
  have profiles : Chain signingClient signingSite signingClient.profilesListing signingClient.profilesListing.first
      signingUrls signingPages none :=
    .next _ _ ⟨200, profilesJson.compact, rfl, rfl, rfl⟩ _ rfl (by decide) _ _ _
      (.last _ _ ⟨200, lastProfilesJson.compact, rfl, rfl, rfl⟩ (.inl rfl))
  exact .walked _ _ _ _ profiles _ _ .finished

theorem crew_walks_chains :
    Walked (fun _ => "token") 0 crewUrls (.ok crew)
        (exec (serving crewSite fun _ => "token") (ListingOperation.fetchUsers.run crewClient 3) 0) ∧
      ListsUsers crewClient crewSite crewUrls crew ∧
      Walked (fun _ => "token") 0 signingUrls (.ok signingProfiles)
        (exec (serving signingSite fun _ => "token") (ListingOperation.fetchProfiles.run signingClient 2) 0) ∧
      ListingOperation.fetchProfiles.Lists signingClient signingSite signingUrls signingProfiles :=
  ⟨(listing_operation_walks_chains crewClient crewSite fun _ => "token").1 .fetchUsers crewUrls (.ok crew) crew_tour 3 0
      (by decide),
    (listing_operation_walks_chains crewClient crewSite fun _ => "token").2 .fetchUsers crewUrls crew crew_tour,
    (listing_operation_walks_chains signingClient signingSite fun _ => "token").1 .fetchProfiles signingUrls
      (.ok signingProfiles) signing_tour 2 0 (by decide),
    (listing_operation_walks_chains signingClient signingSite fun _ => "token").2 .fetchProfiles signingUrls
      signingProfiles signing_tour⟩

end StackConnect
