import StackConnect.AppStore.Discard
import StackConnect.AppStore.Submit

set_option autoImplicit false

namespace StackConnect

open Interaction Serde

variable {S : Type} (client : AppStoreClient) (handler : Handler Answer S)

def sentTo (trace : Trace) : List (Method × String) := (requests trace).map fun request => (request.method, request.url)

theorem sent_to_append (first later : Trace) : sentTo (first ++ later) = sentTo first ++ sentTo later := by
  rw [sentTo, requests_append, List.map_append]
  rfl

theorem exec_accepted (request : Request) (state after : S) (body : String)
    (replied : served handler request state = (some body, after)) :
    ∃ trace, exec handler (exchange request) state = ⟨some (.ok body), after, trace⟩ ∧
      sentTo trace = [(request.method, request.url)] := by
  rcases exec_exchange handler request state with ⟨text, trace, answered, ran⟩ | ⟨error, trace, refused, _⟩
  · rw [replied] at answered ran
    cases Option.some.inj answered
    refine ⟨trace, ran, ?_⟩
    have run := exec_runs handler (exchange request) state
    rw [ran] at run
    obtain ⟨raw, call, same⟩ := (runs_exchange request trace _).mp run
    cases call with
    | unsigned message => cases same
    | broken token message => cases same
    | answered token response => rfl
  · rw [replied] at refused
    cases refused

theorem exec_refused (request : Request) (state : S) (refused : (served handler request state).1 = none) :
    ∃ error trace, exec handler (exchange request) state = ⟨some (.error error), (served handler request state).2, trace⟩ := by
  rcases exec_exchange handler request state with ⟨text, trace, answered, _⟩ | ⟨error, trace, _, ran⟩
  · cases refused.symm.trans answered
  · exact ⟨error, trace, ran⟩

inductive ItemsRemoved : S → List String → S → Prop
  | done (state : S) : ItemsRemoved state [] state
  | next (state later left : S) (item : String) (rest : List String) (body : String)
      (removed : served handler (ReviewRequest.removing client.baseUrl item) state = (some body, later))
      (others : ItemsRemoved later rest left) : ItemsRemoved state (item :: rest) left

-- The pages the loop comes to, each read with a 2xx answer that decodes and each
-- of its items deleted, up to the first that names no next page. The state is the
-- server's, so that a page may depend on what was deleted before it was read.
inductive ItemsChain : S → String → List String → List ReviewSubmissionItemsResponse → S → Prop
  | last (state read left : S) (url body : String) (page : ReviewSubmissionItemsResponse)
      (replied : served handler (.get url) state = (some body, read)) (decoded : client.parseSubmissionItems body = .ok page)
      (emptied : ItemsRemoved client handler read (page.data.map ResourceIdentifier.id) left)
      (ends : page.links.next = none ∨ page.links.next = some "") : ItemsChain state url [url] [page] left
  | next (state read removed left : S) (url body following : String) (page : ReviewSubmissionItemsResponse)
      (replied : served handler (.get url) state = (some body, read)) (decoded : client.parseSubmissionItems body = .ok page)
      (emptied : ItemsRemoved client handler read (page.data.map ResourceIdentifier.id) removed)
      (linked : page.links.next = some following) (named : following ≠ "") (urls : List String)
      (pages : List ReviewSubmissionItemsResponse) (rest : ItemsChain removed following urls pages left) :
      ItemsChain state url (url :: urls) (page :: pages) left

def clearing : List String → List ReviewSubmissionItemsResponse → List (Method × String)
  | url :: urls, page :: pages =>
      (.get, url) :: (page.data.map fun item => (.delete, ReviewRequest.itemUrl client.baseUrl item.id)) ++ clearing urls pages
  | _, _ => []

theorem exec_fetch_page (url body : String) (state after : S) (page : ReviewSubmissionItemsResponse)
    (replied : served handler (.get url) state = (some body, after)) (decoded : client.parseSubmissionItems body = .ok page) :
    ∃ trace, exec handler (client.fetchSubmissionItemsPage url) state = ⟨some (.ok page), after, trace⟩ ∧
      sentTo trace = [(.get, url)] := by
  obtain ⟨trace, ran, sent⟩ := exec_accepted handler (.get url) state after body replied
  rw [AppStoreClient.fetchSubmissionItemsPage, getPage, exec_bind, ran, Run.and_then_ok, decoded]
  refine ⟨trace, ?_, sent⟩
  simp [Run.prepend]

theorem exec_delete_items (items : List ResourceIdentifier) (state left : S)
    (removed : ItemsRemoved client handler state (items.map ResourceIdentifier.id) left) :
    ∃ trace, exec handler (items.forM fun item => client.deleteReviewSubmissionItem item.id) state = ⟨some (.ok ()), left, trace⟩ ∧
      sentTo trace = items.map fun item => (.delete, ReviewRequest.itemUrl client.baseUrl item.id) := by
  induction items generalizing state with
  | nil =>
      cases removed
      exact ⟨[], rfl, rfl⟩
  | cons item rest ih =>
      rw [List.map_cons] at removed
      cases removed with
      | next _ later _ _ _ body gone others =>
          obtain ⟨first, ran, sent⟩ := exec_accepted handler _ state later body gone
          obtain ⟨second, ranRest, sentRest⟩ := ih later others
          have deleted : exec handler (client.deleteReviewSubmissionItem item.id) state = ⟨some (.ok ()), later, first⟩ := by
            change exec handler (exchange (ReviewRequest.removing client.baseUrl item.id) >>= fun _ => .done (.ok ())) state = _
            rw [exec_bind, ran, Run.and_then_ok]
            simp [Run.prepend]
          refine ⟨first ++ second, ?_, ?_⟩
          · change exec handler (client.deleteReviewSubmissionItem item.id >>= fun _ =>
              rest.forM fun item => client.deleteReviewSubmissionItem item.id) state = _
            rw [exec_bind, deleted, Run.and_then_ok, ranRest]
            rfl
          · rw [sent_to_append, sent, sentRest]
            rfl

theorem exec_delete_page (url body : String) (state read left : S) (page : ReviewSubmissionItemsResponse)
    (replied : served handler (.get url) state = (some body, read)) (decoded : client.parseSubmissionItems body = .ok page)
    (emptied : ItemsRemoved client handler read (page.data.map ResourceIdentifier.id) left) :
    ∃ trace, exec handler (client.deleteItemsPage () url) state = ⟨some (.ok ((), page.links.next)), left, trace⟩ ∧
      sentTo trace = (.get, url) :: page.data.map fun item => (.delete, ReviewRequest.itemUrl client.baseUrl item.id) := by
  obtain ⟨first, fetched, sent⟩ := exec_fetch_page client handler url body state read page replied decoded
  obtain ⟨second, deleted, sentItems⟩ := exec_delete_items client handler page.data read left emptied
  rw [AppStoreClient.deleteItemsPage, exec_bind, fetched, Run.and_then_ok, exec_bind, deleted, Run.and_then_ok]
  refine ⟨first ++ second, ?_, ?_⟩
  · simp [Run.prepend]
  · rw [sent_to_append, sent, sentItems]
    rfl

def EmptyUrlRefused : Prop :=
  ∀ token state, ∃ message, (handler.answer (.send ((Request.get "").bearerAuth token)) state).1 = .error message

theorem empty_url_refused (refused : EmptyUrlRefused handler) (state : S) : (served handler (.get "") state).1 = none := by
  rw [served]
  dsimp only
  split
  · rfl
  · rename_i token signed
    obtain ⟨message, failed⟩ := refused token (handler.answer .bearerToken state).2
    rw [failed]

theorem exec_empty_url (refused : EmptyUrlRefused handler) (fuel : Nat) (state : S) :
    ∃ error, (exec handler (whileSome client.deleteItemsPage (fuel + 1) () (some "")) state).outcome = some (.error error) := by
  obtain ⟨error, trace, ran⟩ := exec_refused handler (.get "") state (empty_url_refused handler refused state)
  have round : exec handler (client.deleteItemsPage () "") state =
      ⟨some (.error error), (served handler (.get "") state).2, trace⟩ := by
    rw [AppStoreClient.deleteItemsPage, AppStoreClient.fetchSubmissionItemsPage, getPage, exec_bind, exec_bind, ran]
    rfl
  refine ⟨error, ?_⟩
  rw [exec_while_some_error _ _ _ _ _ _ _ _ round]

theorem exec_items_round (fuel : Nat) (url body : String) (state read left : S) (page : ReviewSubmissionItemsResponse)
    (replied : served handler (.get url) state = (some body, read)) (decoded : client.parseSubmissionItems body = .ok page)
    (emptied : ItemsRemoved client handler read (page.data.map ResourceIdentifier.id) left) :
    ∃ trace, exec handler (whileSome client.deleteItemsPage (fuel + 1) () (some url)) state =
        Run.prepend trace (exec handler (whileSome client.deleteItemsPage fuel () page.links.next) left) ∧
      sentTo trace = (.get, url) :: page.data.map fun item => (.delete, ReviewRequest.itemUrl client.baseUrl item.id) := by
  obtain ⟨trace, round, sent⟩ := exec_delete_page client handler url body state read left page replied decoded emptied
  exact ⟨trace, exec_while_some_ok _ _ _ _ _ _ _ _ round fuel, sent⟩

section Chain

variable {client handler} {state left : S} {url : String} {urls : List String} {pages : List ReviewSubmissionItemsResponse}

theorem last_of_later (first : ReviewSubmissionItemsResponse) (ending : Option String)
    (ended : ∀ page, (first :: pages).getLast? = some page → page.links.next = ending) :
    ∀ page, pages.getLast? = some page → page.links.next = ending := by
  intro page isLast
  apply ended
  rw [List.getLast?_cons, isLast]
  rfl

theorem items_chain_last (chain : ItemsChain client handler state url urls pages left) :
    ∃ page, pages.getLast? = some page ∧ (page.links.next = none ∨ page.links.next = some "") := by
  induction chain with
  | last state read left url body page replied decoded emptied ends => exact ⟨page, rfl, ends⟩
  | next state read removed left url body following page replied decoded emptied linked named urls pages rest ih =>
      obtain ⟨final, isLast, ends⟩ := ih
      have later : (page :: pages).getLast? = some final := by
        rw [List.getLast?_cons, isLast]
        rfl
      exact ⟨final, later, ends⟩

-- Induction along the chain: a round deletes one page's items and leads to the next.
theorem exec_chain_unnamed_ending (chain : ItemsChain client handler state url urls pages left)
    (ended : ∀ page, pages.getLast? = some page → page.links.next = none) (fuel : Nat) (enough : urls.length < fuel) :
    ∃ trace, exec handler (whileSome client.deleteItemsPage fuel () (some url)) state = ⟨some (.ok ()), left, trace⟩ ∧
      sentTo trace = clearing client urls pages := by
  induction chain generalizing fuel with
  | last state read left url body page replied decoded emptied ends =>
      obtain ⟨less, rfl⟩ : ∃ less, fuel = less + 1 := ⟨fuel - 1, by simp at enough; omega⟩
      obtain ⟨trace, ran, sent⟩ := exec_items_round client handler less url body state read left page replied decoded emptied
      have stopped : exec handler (whileSome client.deleteItemsPage (less + 1) () (some url)) state =
          ⟨some (.ok ()), left, trace⟩ := by
        rw [ran, ended page rfl, while_some_none]
        simp [Run.prepend]
      have nothing : clearing client [] [] = [] := rfl
      rw [clearing, nothing, List.append_nil]
      exact ⟨trace, stopped, sent⟩
  | next state read removed left url body following page replied decoded emptied linked named urls pages rest ih =>
      obtain ⟨less, rfl⟩ : ∃ less, fuel = less + 1 := ⟨fuel - 1, by omega⟩
      obtain ⟨trace, ran, sent⟩ := exec_items_round client handler less url body state read removed page replied decoded emptied
      obtain ⟨later, finished, sentLater⟩ := ih (last_of_later page none ended) less (by simpa using enough)
      have whole : sentTo (trace ++ later) = clearing client (url :: urls) (page :: pages) := by
        rw [sent_to_append, sent, sentLater]
        rfl
      rw [ran, linked, finished]
      exact ⟨trace ++ later, rfl, whole⟩

theorem exec_chain_empty_ending (chain : ItemsChain client handler state url urls pages left)
    (ended : ∀ page, pages.getLast? = some page → page.links.next = some "") (refused : EmptyUrlRefused handler) (fuel : Nat)
    (enough : urls.length < fuel) :
    ∃ error, (exec handler (whileSome client.deleteItemsPage fuel () (some url)) state).outcome = some (.error error) := by
  induction chain generalizing fuel with
  | last state read left url body page replied decoded emptied ends =>
      obtain ⟨less, rfl⟩ : ∃ less, fuel = less + 2 := ⟨fuel - 2, by simp at enough; omega⟩
      obtain ⟨trace, ran, _⟩ :=
        exec_items_round client handler (less + 1) url body state read left page replied decoded emptied
      rw [ran, ended page rfl]
      exact exec_empty_url client handler refused less left
  | next state read removed left url body following page replied decoded emptied linked named urls pages rest ih =>
      obtain ⟨less, rfl⟩ : ∃ less, fuel = less + 1 := ⟨fuel - 1, by omega⟩
      obtain ⟨trace, ran, _⟩ := exec_items_round client handler less url body state read removed page replied decoded emptied
      rw [ran, linked]
      exact ih (last_of_later page (some "") ended) less (by simpa using enough)

end Chain

def ItemsCleared (id : String) (state : S) (urls : List String) (pages : List ReviewSubmissionItemsResponse) : Prop :=
  ∃ enough, ∀ fuel, enough ≤ fuel →
    (exec handler (client.deleteSubmissionItems fuel id) state).outcome = some (.ok ()) ∧
      sentTo (exec handler (client.deleteSubmissionItems fuel id) state).trace = clearing client urls pages ∧
      (exec handler (client.discardReadyForReviewSubmission fuel id) state).trace =
        (exec handler (client.deleteSubmissionItems fuel id) state).trace ++
          (exec handler (client.getReviewSubmissionState id) (exec handler (client.deleteSubmissionItems fuel id) state).state).trace

theorem exec_discard_verifies (fuel : Nat) (id : String) (state left : S) (trace : Trace)
    (ran : exec handler (client.deleteSubmissionItems fuel id) state = ⟨some (.ok ()), left, trace⟩) :
    (exec handler (client.discardReadyForReviewSubmission fuel id) state).trace =
      trace ++ (exec handler (client.getReviewSubmissionState id) left).trace := by
  rw [AppStoreClient.discardReadyForReviewSubmission, exec_bind, ran, Run.and_then_ok, Run.prepend_trace]
  congr 1
  rw [exec_bind]
  rcases exec handler (client.getReviewSubmissionState id) left with ⟨outcome, reached, asked⟩
  rcases outcome with _ | (error | reported)
  · rfl
  · rfl
  · rw [Run.and_then_ok, Run.prepend_trace]
    dsimp only
    split <;> exact List.append_nil asked

theorem delete_items_every_ending_iff (id : String) (state left : S) (urls : List String)
    (pages : List ReviewSubmissionItemsResponse)
    (chain : ItemsChain client handler state (ReviewRequest.itemsUrl client.baseUrl id ++ "?include=appStoreVersion") urls pages left)
    (refused : EmptyUrlRefused handler) :
    ItemsCleared client handler id state urls pages ↔ ∀ page, pages.getLast? = some page → page.links.next ≠ some "" := by
  obtain ⟨last, isLast, ends⟩ := items_chain_last chain
  have only : ∀ page, pages.getLast? = some page → page.links.next = last.links.next := by
    intro page found
    cases Option.some.inj (isLast.symm.trans found)
    rfl
  constructor
  · intro done page found empty
    obtain ⟨enough, cleared⟩ := done
    rw [only page found] at empty
    rw [empty] at only
    obtain ⟨error, failed⟩ := exec_chain_empty_ending chain only refused (enough + urls.length + 1) (by omega)
    have returned := (cleared (enough + urls.length + 1) (by omega)).1
    cases failed.symm.trans returned
  · intro named
    have unnamed : last.links.next = none := ends.resolve_right (named last isLast)
    rw [unnamed] at only
    refine ⟨urls.length + 1, ?_⟩
    intro fuel large
    obtain ⟨trace, ran, sent⟩ := exec_chain_unnamed_ending chain only fuel large
    change exec handler (client.deleteSubmissionItems fuel id) state = _ at ran
    rw [exec_discard_verifies client handler fuel id state left trace ran, ran]
    exact ⟨rfl, sent, rfl⟩

def itemsJson (items : List String) (next : Json) : Json := .obj
  [("data", .arr (items.map (identifier "reviewSubmissionItems"))), ("links", .obj [("next", next)])]

def refusingEmptyUrl (handler : Handler Answer S) : Handler Answer S where
  answer
    | .send request, state => if request.url = "" then (.error "relative URL without a base", state)
        else handler.answer (.send request) state
    | .bearerToken, state => handler.answer .bearerToken state
    | .stream request, state => handler.answer (.stream request) state

theorem refusing_empty_url : EmptyUrlRefused (refusingEmptyUrl handler) := fun _ _ => ⟨_, rfl⟩

def emptyEnding : Json := itemsJson ["I1"] (.str "")
def nullEnding : Json := itemsJson ["I1"] .null

def endingClient : AppStoreClient := ⟨"https://host", .reading [emptyEnding, nullEnding]⟩

def endingServer (body : Json) : Handler Answer Unit := refusingEmptyUrl (replying
  [((.get, endingClient.submissionItemsUrl "S1" ++ "?include=appStoreVersion"), (200, body.compact)),
    ((.delete, endingClient.reviewSubmissionItemUrl "I1"), (204, ""))])

def endingUrls : List String := [endingClient.submissionItemsUrl "S1" ++ "?include=appStoreVersion"]

set_option maxRecDepth 20000 in
theorem empty_ending_not_cleared :
    ItemsChain endingClient (endingServer emptyEnding) () (endingClient.submissionItemsUrl "S1" ++ "?include=appStoreVersion")
        endingUrls [⟨[⟨"I1"⟩], ⟨some ""⟩⟩] () ∧
      EmptyUrlRefused (endingServer emptyEnding) ∧
      ¬ ItemsCleared endingClient (endingServer emptyEnding) "S1" () endingUrls [⟨[⟨"I1"⟩], ⟨some ""⟩⟩] := by
  refine ⟨.last () () () _ emptyEnding.compact _ rfl rfl (.next () () () "I1" [] "" rfl (.done ())) (.inr rfl),
    refusing_empty_url _, ?_⟩
  intro done
  obtain ⟨enough, cleared⟩ := done
  have ended := (cleared (enough + 2) (by omega)).1
  have failed : (exec (endingServer emptyEnding) (endingClient.deleteSubmissionItems (enough + 2) "S1") ()).outcome =
      some (.error (.network "relative URL without a base")) := rfl
  cases failed.symm.trans ended

set_option maxRecDepth 20000 in
theorem null_ending_cleared_iff :
    ItemsCleared endingClient (endingServer nullEnding) "S1" () endingUrls [⟨[⟨"I1"⟩], ⟨none⟩⟩] ↔
      ∀ page : ReviewSubmissionItemsResponse, [⟨[⟨"I1"⟩], ⟨none⟩⟩].getLast? = some page → page.links.next ≠ some "" :=
  delete_items_every_ending_iff endingClient (endingServer nullEnding) "S1" () () endingUrls [⟨[⟨"I1"⟩], ⟨none⟩⟩]
    (.last () () () _ nullEnding.compact _ rfl rfl (.next () () () "I1" [] "" rfl (.done ())) (.inl rfl)) (refusing_empty_url _)

end StackConnect
