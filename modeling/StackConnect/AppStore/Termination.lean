import StackConnect.AppStore.Accessibility
import StackConnect.AppStore.BetaGroups
import StackConnect.AppStore.BetaTesters
import StackConnect.AppStore.Listings
import StackConnect.AppStore.Screenshots
import StackConnect.Interaction.Orbit

set_option autoImplicit false

namespace StackConnect

open Interaction Serde

variable {α : Type}

def Refused (site : Site) (url : String) : Prop :=
  (∃ message, site url = .error message) ∨ ∃ status body, site url = .ok (status, body) ∧ isSuccess status = false

def Returns {S : Type} (handler : Handler Answer S) (program : Nat → Async α) (state : S) : Prop :=
  ∃ enough outcome sent, ∀ fuel, enough ≤ fuel →
    (exec handler (program fuel) state).outcome = some outcome ∧ requests (exec handler (program fuel) state).trace = sent

def NeverReturns {S : Type} (handler : Handler Answer S) (program : Nat → Async α) (state : S) : Prop :=
  ∀ fuel, (exec handler (program fuel) state).outcome = none ∧
    fuel ≤ (requests (exec handler (program fuel) state).trace).length

theorem never_returns_not_returns {S : Type} (handler : Handler Answer S) (program : Nat → Async α) (state : S)
    (never : NeverReturns handler program state) : ¬ Returns handler program state := by
  intro returned
  obtain ⟨enough, outcome, sent, same⟩ := returned
  have ended := (same enough (Nat.le_refl enough)).1
  rw [(never enough).1] at ended
  cases ended

theorem converges_returns {S : Type} (handler : Handler Answer S) (program : Nat → Async α) (state : S)
    (converges : Converges handler program state) : Returns handler program state := by
  obtain ⟨enough, run, ended, same⟩ := converges
  obtain ⟨outcome, finished⟩ := Option.ne_none_iff_exists'.mp ended
  refine ⟨enough, outcome, requests run.trace, ?_⟩
  intro fuel large
  rw [same fuel large]
  exact ⟨finished, rfl⟩

theorem requests_additive (first second : Trace) :
    (requests (first ++ second)).length = (requests first).length + (requests second).length := by
  rw [requests_append, List.length_append]

section Listings

variable (client : AppStoreClient) (site : Site) (tokens : Nat → String) (listing : Listing α)

def pageRound (url : String) : Except StackError (Option String) :=
  (pageRead client site listing url).map fun page => (listing.links page).nextUrl

theorem refused_fetched (url : String) (refused : Refused site url) : ∃ error, fetched site url = .error error := by
  rcases refused with ⟨message, broken⟩ | ⟨status, body, answered, failure⟩
  · exact ⟨.network message, by rw [fetched, broken]⟩
  · refine ⟨statusError status body, ?_⟩
    rw [fetched, answered]
    simp [accepted, failure]

theorem page_read_fetched (url : String) : pageRead client site listing url =
    fetched site url >>= client.parse listing.type listing.label listing.decoder := by
  rw [pageRead, fetched]
  cases site url <;> rfl

theorem refused_read (url : String) (refused : Refused site url) : onward (pageRound client site listing) url = none := by
  obtain ⟨error, failed⟩ := refused_fetched site url refused
  rw [onward, pageRound, page_read_fetched, failed]
  rfl

theorem list_pages_steered : Steered (serving site tokens) (fun (collected : List α) url => do
      let body ← getPage url
      let page ← Prog.ofExcept (client.parse listing.type listing.label listing.decoder body)
      pure (collected ++ listing.rows page, (listing.links page).nextUrl))
    (pageRound client site listing) fun trace => (requests trace).length := by
  intro collected url signed
  refine ⟨_, _, _, exec_page_read client site listing tokens
    (fun page => (collected ++ listing.rows page, (listing.links page).nextUrl)) url signed, ?_, Nat.le_refl 1⟩
  rw [pageRound]
  cases pageRead client site listing url <;> rfl

theorem shows_or_fails (url : String) :
    (∃ page, Shows client site listing url page) ∨ ∃ error, Fails client site listing url error := by
  rcases answered : site url with message | ⟨status, body⟩
  · exact .inr ⟨_, .transport message answered⟩
  · cases success : isSuccess status with
    | false =>
        by_cases agreements : status = 403 ∧ MentionsAgreements body
        · obtain ⟨rfl, mentions⟩ := agreements
          exact .inr ⟨_, .agreements body answered mentions⟩
        · exact .inr ⟨_, .status status body answered success agreements⟩
    | true =>
        cases decoded : client.crates.serdeJson.fromStr listing.type listing.decoder body with
        | ok page => exact .inl ⟨page, status, body, answered, success, decoded⟩
        | error reason => exact .inr ⟨_, .malformed status body reason answered success decoded⟩

theorem onward_shows (url : String) (page : listing.Response) (shown : Shows client site listing url page) :
    onward (pageRound client site listing) url = (listing.links page).nextUrl := by
  rw [onward, pageRound, page_read_shows client site listing url page shown]
  rfl

theorem onward_fails (url : String) (error : StackError) (fails : Fails client site listing url error) :
    onward (pageRound client site listing) url = none := by
  rw [onward, pageRound, page_read_fails client site listing url error fails]
  rfl

theorem next_url_cases (links : Links) :
    ((links.next = none ∨ links.next = some "") ∧ links.nextUrl = none) ∨
      ∃ following, links.next = some following ∧ following ≠ "" ∧ links.nextUrl = some following := by
  rcases next : links.next with _ | following
  · exact .inl ⟨.inl rfl, next_url_final links (.inl next)⟩
  · by_cases empty : following = ""
    · subst empty
      exact .inl ⟨.inr rfl, next_url_final links (.inr next)⟩
    · exact .inr ⟨following, rfl, empty, next_url_linked links following next empty⟩

theorem chain_orbit (url : String) (urls : List String) (pages : List listing.Response) (failure : Option StackError)
    (chain : Chain client site listing url urls pages failure) (count : Nat) :
    orbit (onward (pageRound client site listing)) url count = urls[count]? := by
  have single : ∀ url, onward (pageRound client site listing) url = none → ∀ count,
      orbit (onward (pageRound client site listing)) url count = [url][count]? := by
    intro url ended count
    cases count with
    | zero => rfl
    | succ count =>
        have stopped : orbit (onward (pageRound client site listing)) url 1 = none := ended
        rw [orbit_stays_ended _ url 1 (count + 1) stopped (by omega)]
        rfl
  induction chain generalizing count with
  | last url page shown final =>
      apply single
      rw [onward_shows client site listing url page shown, next_url_final _ final]
  | broken url error fails =>
      apply single
      exact onward_fails client site listing url error fails
  | next url page shown following linked named urls pages failure rest ih =>
      have leads : onward (pageRound client site listing) url = some following := by
        rw [onward_shows client site listing url page shown, next_url_linked _ following linked named]
      cases count with
      | zero => rfl
      | succ count =>
          rw [orbit_from_next _ url following leads, ih]
          rfl

theorem chain_of_end (count : Nat) (url : String)
    (ended : orbit (onward (pageRound client site listing)) url count = none) :
    ∃ urls pages failure, Chain client site listing url urls pages failure := by
  induction count generalizing url with
  | zero => cases ended
  | succ count ih =>
      rcases shows_or_fails client site listing url with ⟨page, shown⟩ | ⟨error, fails⟩
      · rcases next_url_cases (listing.links page) with ⟨final, _⟩ | ⟨following, linked, named, next⟩
        · exact ⟨_, _, _, .last url page shown final⟩
        · have leads : onward (pageRound client site listing) url = some following := by
            rw [onward_shows client site listing url page shown, next]
          rw [orbit_from_next _ url following leads] at ended
          obtain ⟨urls, pages, failure, rest⟩ := ih following ended
          exact ⟨_, _, _, .next url page shown following linked named urls pages failure rest⟩
      · exact ⟨_, _, _, .broken url error fails⟩

-- A walk of `links.next` that comes to a URL it has been at before, in one of
-- the listings that are reached.
def WalksBack : List (Listing α) → Prop
  | [] => False
  | listing :: rest =>
      ComesBack (onward (pageRound client site listing)) listing.first ∨
        (∃ urls pages, Chain client site listing listing.first urls pages none) ∧ WalksBack rest

theorem tour_of_no_return (listings : List (Listing α)) (known : List String)
    (finite : ∀ url, url ∉ known → Refused site url) (straight : ¬ WalksBack client site listings) :
    ∃ urls outcome, Tour client site listings urls outcome := by
  induction listings with
  | nil => exact ⟨_, _, .finished⟩
  | cons listing rest ih =>
      rw [WalksBack, not_or, not_and] at straight
      obtain ⟨noReturn, later⟩ := straight
      have inside : ∀ url, onward (pageRound client site listing) url ≠ none → url ∈ known := by
        intro url leads
        by_contra absent
        exact leads (refused_read client site listing url (finite url absent))
      rcases ends_or_comes_back (onward (pageRound client site listing)) listing.first known inside with ⟨count, ended⟩ | back
      · obtain ⟨urls, pages, failure, chain⟩ := chain_of_end client site listing count listing.first ended
        cases failure with
        | some error => exact ⟨_, _, .broken listing rest urls pages error chain⟩
        | none =>
            obtain ⟨others, outcome, after⟩ := ih (later ⟨urls, pages, chain⟩)
            exact ⟨_, _, .walked listing rest urls pages chain others outcome after⟩
      · exact absurd back noReturn

theorem exec_collect_cut (fuel : Nat) (collected : List α) (signed : Nat)
    (walking : orbit (onward (pageRound client site listing)) listing.first fuel ≠ none) :
    (exec (serving site tokens) (client.collect fuel listing collected) signed).outcome = none ∧
      fuel ≤ (requests (exec (serving site tokens) (client.collect fuel listing collected) signed).trace).length := by
  exact exec_steered_cut (serving site tokens) _ (pageRound client site listing) _
    (list_pages_steered client site tokens listing) requests_additive fuel collected listing.first signed walking

theorem walks_back_never_returns (listings : List (Listing α)) (back : WalksBack client site listings) (fuel : Nat)
    (collected : List α) (signed : Nat) :
    let run := exec (serving site tokens)
      (listings.foldlM (fun collected listing => client.collect fuel listing collected) collected) signed
    run.outcome = none ∧ fuel ≤ (requests run.trace).length := by
  induction listings generalizing collected signed with
  | nil => cases back
  | cons listing rest ih =>
      have stops : orbit (onward (pageRound client site listing)) listing.first fuel ≠ none →
          (exec (serving site tokens) ((listing :: rest).foldlM
            (fun collected listing => client.collect fuel listing collected) collected) signed).outcome = none ∧
          fuel ≤ (requests (exec (serving site tokens) ((listing :: rest).foldlM
            (fun collected listing => client.collect fuel listing collected) collected) signed).trace).length := by
        intro walking
        have first := exec_collect_cut client site tokens listing fuel collected signed walking
        rw [List.foldlM_cons, exec_bind]
        rcases ran : exec (serving site tokens) (client.collect fuel listing collected) signed with ⟨outcome, reached, trace⟩
        rw [ran] at first
        obtain ⟨cut, enough⟩ := first
        subst cut
        exact ⟨rfl, enough⟩
      rcases back with returns | ⟨⟨urls, pages, chain⟩, later⟩
      · exact stops (comes_back_never_ends _ listing.first returns fuel)
      · by_cases few : fuel < urls.length
        · apply stops
          rw [chain_orbit client site listing listing.first urls pages none chain, List.getElem?_eq_getElem few]
          exact Option.some_ne_none _
        · obtain ⟨finished, _, _⟩ := exec_list_pages client site listing tokens listing.first urls pages none chain collected
            fuel (by omega) signed
          dsimp only
          rw [List.foldlM_cons, exec_bind]
          rcases ran : exec (serving site tokens) (client.collect fuel listing collected) signed with
            ⟨outcome, reached, trace⟩
          rw [AppStoreClient.collect] at ran
          rw [ran] at finished
          subst finished
          obtain ⟨cut, enough⟩ := ih later (collected ++ pages.flatMap listing.rows) reached
          rw [chainOutcome, Run.and_then_ok]
          refine ⟨cut, ?_⟩
          rw [Run.prepend_trace, requests_append, List.length_append]
          exact Nat.le_add_left_of_le enough

end Listings

section Items

variable (client : AppStoreClient) (site : Site) (tokens : Nat → String)

def itemDeleted (item : ResourceIdentifier) : Except StackError Unit :=
  fetched site (client.reviewSubmissionItemUrl item.id) >>= fun _ => .ok ()

def itemsRound (url : String) : Except StackError (Option String) := do
  let body ← fetched site url
  let page ← client.parseSubmissionItems body
  page.data.forM (itemDeleted client site)
  pure page.links.next

theorem exec_items_deleted (items : List ResourceIdentifier) (signed : Nat) :
    ∃ reached trace, exec (serving site tokens) (items.forM fun item => client.deleteReviewSubmissionItem item.id) signed =
      ⟨some (items.forM (itemDeleted client site)), reached, trace⟩ := by
  induction items generalizing signed with
  | nil => exact ⟨signed, [], rfl⟩
  | cons item rest ih =>
      have deleted : ∃ trace, exec (serving site tokens) (client.deleteReviewSubmissionItem item.id) signed =
          ⟨some (itemDeleted client site item), signed + 1, trace⟩ := by
        change ∃ trace, exec (serving site tokens) (exchange (.delete (client.reviewSubmissionItemUrl item.id)) >>=
          fun _ => .done (.ok ())) signed = _
        rw [exec_bind, exec_exchange_at, itemDeleted]
        change ∃ trace, Run.andThen ⟨some (fetched site (client.reviewSubmissionItemUrl item.id)), _, _⟩ _ = _
        cases fetched site (client.reviewSubmissionItemUrl item.id) <;> exact ⟨_, rfl⟩
      obtain ⟨trace, ran⟩ := deleted
      have each : (item :: rest).forM (fun item => client.deleteReviewSubmissionItem item.id) =
          client.deleteReviewSubmissionItem item.id >>= fun _ =>
            rest.forM fun item => client.deleteReviewSubmissionItem item.id := rfl
      have judged : (item :: rest).forM (itemDeleted client site) =
          itemDeleted client site item >>= fun _ => rest.forM (itemDeleted client site) := rfl
      rw [each, judged, exec_bind, ran]
      cases itemDeleted client site item with
      | error failure => exact ⟨_, _, rfl⟩
      | ok _ =>
          obtain ⟨reached, later, others⟩ := ih (signed + 1)
          rw [Run.and_then_ok, others]
          exact ⟨reached, trace ++ later, rfl⟩

theorem delete_items_steered : Steered (serving site tokens) client.deleteItemsPage (itemsRound client site)
    fun trace => (requests trace).length := by
  intro kept url signed
  have counted : ∀ later : Trace, 1 ≤ (requests (pageTrace site tokens signed url ++ later)).length := by
    intro later
    rw [requests_append, page_trace_requests, List.length_append]
    exact Nat.le_add_right 1 _
  rw [AppStoreClient.deleteItemsPage, AppStoreClient.fetchSubmissionItemsPage, Prog.bind_assoc, exec_bind, exec_get_page]
  cases answered : fetched site url with
  | error failure =>
      have round : itemsRound client site url = .error failure := by
        rw [itemsRound, answered]
        rfl
      exact ⟨.error failure, _, _, rfl, round.symm, Nat.le_refl 1⟩
  | ok body =>
      have read : itemsRound client site url = client.parseSubmissionItems body >>= fun page =>
          page.data.forM (itemDeleted client site) >>= fun _ => .ok page.links.next := by
        rw [itemsRound, answered]
        rfl
      rw [Run.and_then_ok, read]
      cases client.parseSubmissionItems body with
      | error failure => exact ⟨.error failure, signed + 1, _, rfl, rfl, counted []⟩
      | ok page =>
          obtain ⟨reached, later, deleted⟩ := exec_items_deleted client site tokens page.data (signed + 1)
          change ∃ result reached trace, Run.prepend _ (exec (serving site tokens)
            ((page.data.forM fun item => client.deleteReviewSubmissionItem item.id) >>= fun _ =>
              .done (.ok ((), page.links.next))) (signed + 1)) = _ ∧
            _ = (page.data.forM (itemDeleted client site) >>= fun _ => .ok page.links.next) ∧ _
          rw [exec_bind, deleted]
          cases page.data.forM (itemDeleted client site) with
          | error failure => exact ⟨.error failure, reached, _, rfl, rfl, counted later⟩
          | ok _ => exact ⟨.ok ((), page.links.next), reached, _, rfl, rfl, counted (later ++ [])⟩

end Items

namespace AppStoreClient

variable (client : AppStoreClient)

def betaGroupsListing (appId : String) (limit : Nat) : Listing BetaGroupInfo :=
  .plain (client.betaGroupsPageUrl appId limit) "BetaGroupsResponse" "beta groups response" BetaGroupResource.decode
    (intoBetaGroupInfo appId)

def bundleIdCapabilitiesListing (bundleId : String) : Listing BundleIdCapabilityInfo :=
  ⟨Page BundleIdCapabilityResource, BundleIdCapabilityInfo, client.bundleIdUrl bundleId ++ "/bundleIdCapabilities",
    "BundleIdCapabilitiesResponse", "bundleIdCapabilities response", Page.decode BundleIdCapabilityResource.decode,
    fun page => page.data.filterMap intoCapabilityInfo, fun _ capability => capability, Page.links⟩

theorem capabilities_collected (fuel : Nat) (bundleId : String) :
    client.fetchBundleIdCapabilities fuel bundleId = client.collect fuel (client.bundleIdCapabilitiesListing bundleId) [] := by
  have rows : (client.bundleIdCapabilitiesListing bundleId).rows = fun page => page.data.filterMap intoCapabilityInfo := by
    funext page
    exact List.map_id' _
  rw [collect, rows]
  rfl

end AppStoreClient

-- Every operation with a loop over `links.next`: those whose chains are walked
-- above, the other listings, and the deletion of the items of a submission.
inductive PagedOperation where
  | listed (operation : ListingOperation)
  | fetchAppCategories
  | fetchBetaGroups (appId : String) (limit : Nat)
  | fetchBetaTesters (groupId : String) (limit : Nat)
  | fetchBetaAppLocalizations (appId : String) (limit : Nat)
  | fetchLocalizations (versionId : String)
  | fetchScreenshotSets (localizationId : String)
  | fetchAccessibilityDeclarations (appId : String) (limit : Int)
  | fetchUserVisibleApps (id : String)
  | fetchDevices
  | fetchBundleIds
  | fetchBundleIdCapabilities (bundleId : String)
  | fetchCertificates
  | deleteSubmissionItems (id : String)

namespace PagedOperation

abbrev Result : PagedOperation → Type
  | listed operation => List operation.Row
  | fetchAppCategories => List AppCategoryInfo
  | fetchBetaGroups .. => List BetaGroupInfo
  | fetchBetaTesters .. => List BetaTesterInfo
  | fetchBetaAppLocalizations .. => List BetaAppLocalizationInfo
  | fetchLocalizations .. => List AppStoreLocalizationInfo
  | fetchScreenshotSets .. => List ScreenshotSetInfo
  | fetchAccessibilityDeclarations .. => List AccessibilityDeclarationInfo
  | fetchUserVisibleApps .. => List String
  | fetchDevices => List DeviceInfo
  | fetchBundleIds => List BundleIdInfo
  | fetchBundleIdCapabilities .. => List BundleIdCapabilityInfo
  | fetchCertificates => List CertificateInfo
  | deleteSubmissionItems _ => Unit

variable (client : AppStoreClient) (site : Site)

def run (fuel : Nat) : (operation : PagedOperation) → Async operation.Result
  | listed operation => operation.run client fuel
  | fetchAppCategories => client.fetchAppCategories fuel
  | fetchBetaGroups appId limit => client.fetchBetaGroups fuel appId limit
  | fetchBetaTesters groupId limit => client.fetchBetaTesters fuel groupId limit
  | fetchBetaAppLocalizations appId limit => client.fetchBetaAppLocalizations fuel appId limit
  | fetchLocalizations versionId => client.fetchLocalizations fuel versionId
  | fetchScreenshotSets localizationId => client.fetchScreenshotSets fuel localizationId
  | fetchAccessibilityDeclarations appId limit => client.fetchAccessibilityDeclarations fuel appId limit
  | fetchUserVisibleApps id => client.fetchUserVisibleApps fuel id
  | fetchDevices => client.fetchDevices fuel
  | fetchBundleIds => client.fetchBundleIds fuel
  | fetchBundleIdCapabilities bundleId => client.fetchBundleIdCapabilities fuel bundleId
  | fetchCertificates => client.fetchCertificates fuel
  | deleteSubmissionItems id => client.deleteSubmissionItems fuel id

def LoopsBack : PagedOperation → Prop
  | listed operation => WalksBack client site (operation.listings client)
  | fetchAppCategories => WalksBack client site [client.appCategoriesListing]
  | fetchBetaGroups appId limit => WalksBack client site [client.betaGroupsListing appId limit]
  | fetchBetaTesters groupId limit => WalksBack client site [client.betaTestersListing groupId limit]
  | fetchBetaAppLocalizations appId limit => WalksBack client site [client.betaAppLocalizationsListing appId limit]
  | fetchLocalizations versionId => WalksBack client site [client.localizationsListing versionId]
  | fetchScreenshotSets localizationId => WalksBack client site [client.screenshotSetsListing localizationId]
  | fetchAccessibilityDeclarations appId limit => WalksBack client site [client.accessibilityDeclarationsListing appId limit]
  | fetchUserVisibleApps id => WalksBack client site [client.userVisibleAppsListing id]
  | fetchDevices => WalksBack client site [client.devicesListing]
  | fetchBundleIds => WalksBack client site [client.bundleIdsListing]
  | fetchBundleIdCapabilities bundleId => WalksBack client site [client.bundleIdCapabilitiesListing bundleId]
  | fetchCertificates => WalksBack client site [client.certificatesListing]
  | deleteSubmissionItems id =>
      ComesBack (onward (itemsRound client site)) (client.submissionItemsUrl id ++ "?include=appStoreVersion")

end PagedOperation

def EndsUnless {S : Type} (handler : Handler Answer S) (program : Nat → Async α) (state : S) (back : Prop) : Prop :=
  (Returns handler program state ↔ ¬ back) ∧ (back → NeverReturns handler program state)

theorem ends_unless {S : Type} (handler : Handler Answer S) (program : Nat → Async α) (state : S) (back : Prop)
    (never : back → NeverReturns handler program state) (ends : ¬ back → Returns handler program state) :
    EndsUnless handler program state back :=
  ⟨⟨fun returned loops => never_returns_not_returns handler program state (never loops) returned, ends⟩, never⟩

section Ends

variable (client : AppStoreClient) (site : Site) (tokens : Nat → String)

theorem tour_ends_unless (known : List String) (finite : ∀ url, url ∉ known → Refused site url)
    (listings : List (Listing α)) (signed : Nat) :
    EndsUnless (serving site tokens)
      (fun fuel => listings.foldlM (fun collected listing => client.collect fuel listing collected) []) signed
      (WalksBack client site listings) := by
  apply ends_unless
  · intro back fuel
    exact walks_back_never_returns client site tokens listings back fuel [] signed
  · intro straight
    obtain ⟨urls, outcome, tour⟩ := tour_of_no_return client site listings known finite straight
    refine ⟨urls.length, outcome.map ([] ++ ·), signedGets tokens signed urls, ?_⟩
    intro fuel enough
    obtain ⟨finished, _, sent⟩ := exec_tour client site tokens listings urls outcome tour [] fuel enough signed
    exact ⟨finished, sent⟩

theorem collect_ends_unless (known : List String) (finite : ∀ url, url ∉ known → Refused site url)
    (listing : Listing α) (signed : Nat) :
    EndsUnless (serving site tokens) (fun fuel => client.collect fuel listing []) signed
      (WalksBack client site [listing]) := by
  have tours := tour_ends_unless client site tokens known finite [listing] signed
  simp only [← collect_single] at tours
  exact tours

theorem delete_items_ends_unless (known : List String) (finite : ∀ url, url ∉ known → Refused site url) (id : String)
    (signed : Nat) :
    EndsUnless (serving site tokens) (fun fuel => client.deleteSubmissionItems fuel id) signed
      ((PagedOperation.deleteSubmissionItems id).LoopsBack client site) := by
  have steered := delete_items_steered client site tokens
  apply ends_unless
  · intro back fuel
    exact exec_steered_cut (serving site tokens) _ (itemsRound client site) _ steered requests_additive fuel () _ signed
      (comes_back_never_ends _ _ back fuel)
  · intro straight
    have inside : ∀ url, onward (itemsRound client site) url ≠ none → url ∈ known := by
      intro url leads
      by_contra absent
      obtain ⟨error, failed⟩ := refused_fetched site url (finite url absent)
      apply leads
      rw [onward, itemsRound, failed]
      rfl
    rcases ends_or_comes_back (onward (itemsRound client site))
        (client.submissionItemsUrl id ++ "?include=appStoreVersion") known inside with ⟨count, ended⟩ | back
    · exact converges_returns _ _ signed
        (converges_steered (serving site tokens) _ (itemsRound client site) _ steered count () _ signed ended)
    · exact absurd back straight

theorem paging_returns_unless_looping (known : List String) (finite : ∀ url, url ∉ known → Refused site url)
    (operation : PagedOperation) (signed : Nat) :
    (Returns (serving site tokens) (fun fuel => operation.run client fuel) signed ↔ ¬ operation.LoopsBack client site) ∧
      (operation.LoopsBack client site →
        NeverReturns (serving site tokens) (fun fuel => operation.run client fuel) signed) := by
  cases operation with
  | listed operation =>
      have tours := tour_ends_unless client site tokens known finite (operation.listings client) signed
      simp only [← operation.run_listings client] at tours
      exact tours
  | deleteSubmissionItems id => exact delete_items_ends_unless client site tokens known finite id signed
  | fetchBetaGroups appId limit =>
      exact collect_ends_unless client site tokens known finite (client.betaGroupsListing appId limit) signed
  | fetchBundleIdCapabilities bundleId =>
      have ends := collect_ends_unless client site tokens known finite (client.bundleIdCapabilitiesListing bundleId) signed
      simp only [← client.capabilities_collected] at ends
      exact ends
  | _ => exact collect_ends_unless client site tokens known finite _ signed

end Ends

theorem crew_finite (url : String) (unknown : url ∉ crewUrls) : Refused crewSite url := by
  rw [crewUrls] at unknown
  simp only [List.mem_cons, List.not_mem_nil, or_false, not_or] at unknown
  refine .inr ⟨404, "", ?_, rfl⟩
  rw [crewSite, if_neg unknown.1, if_neg unknown.2.1, if_neg unknown.2.2]

set_option maxRecDepth 20000 in
theorem crew_straight : ¬ (PagedOperation.listed .fetchUsers).LoopsBack crewClient crewSite := by
  rintro (members | ⟨_, invitations | ⟨_, nothing⟩⟩)
  · exact comes_back_never_ends _ _ members 2 rfl
  · exact comes_back_never_ends _ _ invitations 1 rfl
  · exact nothing

theorem crew_listing_returns :
    Returns (serving crewSite fun _ => "token") (fun fuel => (PagedOperation.listed .fetchUsers).run crewClient fuel) 0 :=
  (paging_returns_unless_looping crewClient crewSite (fun _ => "token") crewUrls crew_finite (.listed .fetchUsers) 0).1.mpr
    crew_straight

def endlessPage : Json := .obj [("data", .arr []), ("links", .obj [("next", .str "https://host/v1/apps")])]

def endlessClient : AppStoreClient := ⟨"https://host", .reading [endlessPage]⟩

def endlessSite : Site := fun url => if url = "https://host/v1/apps" then .ok (200, endlessPage.compact) else .ok (404, "")

theorem endless_finite (url : String) (unknown : url ∉ ["https://host/v1/apps"]) : Refused endlessSite url := by
  refine .inr ⟨404, "", ?_, rfl⟩
  rw [endlessSite, if_neg (by simpa using unknown)]

set_option maxRecDepth 20000 in
theorem endless_walk : WalksBack endlessClient endlessSite [endlessClient.appsListing] :=
  .inl ⟨0, 1, "https://host/v1/apps", by omega, rfl, rfl⟩

theorem page_naming_itself_never_ends :
    ¬ ∀ (client : AppStoreClient) (site : Site) (tokens : Nat → String) (known : List String),
      (∀ url, url ∉ known → Refused site url) → ∀ (operation : PagedOperation) (signed : Nat),
        Returns (serving site tokens) (fun fuel => operation.run client fuel) signed := by
  intro always
  have returned := always endlessClient endlessSite (fun _ => "token") ["https://host/v1/apps"] endless_finite
    (.listed .fetchApps) 0
  have ends := collect_ends_unless endlessClient endlessSite (fun _ => "token") ["https://host/v1/apps"] endless_finite
    endlessClient.appsListing 0
  exact ends.1.mp returned endless_walk

end StackConnect
