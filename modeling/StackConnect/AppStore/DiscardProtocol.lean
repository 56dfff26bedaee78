import StackConnect.AppStore.CancelSubmission
import StackConnect.Rust.UrlPath

set_option autoImplicit false

namespace StackConnect

open Interaction Serde Rust

variable (client : AppStoreClient)

def Opened (request : Request) (body : String) (past : Trace) : Prop :=
  ∃ token response rest, past = ⟨.bearerToken, .ok token⟩ :: ⟨.send (request.bearerAuth token), .ok response⟩ :: rest ∧
    accepted response = .ok body

-- What the first GET of the bulk and of the single discard reports about a submission.
def ListedAs (appId : String) (past : Trace) (id : String) (state : Option String) : Prop :=
  ∃ body page submission, Opened (.get (ReviewRequest.activeUrl client.baseUrl appId)) body past ∧
    client.parseReviewSubmissions body = .ok page ∧ submission ∈ page.data ∧ submission.id = id ∧
    submission.attributes.state = state

def ReadAs (submissionId : String) (past : Trace) (id : String) (state : Option String) : Prop :=
  id = submissionId ∧ ∃ body document, Opened (ReviewRequest.reading client.baseUrl submissionId) body past ∧
    client.parseReviewSubmission body = .ok document ∧ document.data.attributes.state = state

def PageSeen (past : Trace) (url : String) (page : ReviewSubmissionItemsResponse) : Prop :=
  ∃ token response body, (⟨.send ((Request.get url).bearerAuth token), .ok response⟩ : Event Answer) ∈ past ∧
    accepted response = .ok body ∧ client.parseSubmissionItems body = .ok page

inductive ItemsPageOf (past : Trace) (id : String) : String → Prop
  | first : ItemsPageOf past id (ReviewRequest.itemsUrl client.baseUrl id ++ "?include=appStoreVersion")
  | linked (url next : String) (page : ReviewSubmissionItemsResponse) (known : ItemsPageOf past id url)
      (seen : PageSeen client past url page) (goes : page.links.next = some next) : ItemsPageOf past id next

def ItemListed (past : Trace) (id item : String) : Prop :=
  ∃ url page, ItemsPageOf client past id url ∧ PageSeen client past url page ∧
    item ∈ page.data.map ResourceIdentifier.id

-- The requests that are valid for the states reported: reads, canceling what was
-- sent to review, and deleting listed items of a draft.
inductive ValidRequest (reported : Trace → String → Option String → Prop) (past : Trace) : Query → Prop
  | sign : ValidRequest reported past .bearerToken
  | read (url token : String) : ValidRequest reported past (.send ((Request.get url).bearerAuth token))
  | cancel (id token : String) (state : Option String) (known : reported past id state) (sent : SentToReview state) :
      ValidRequest reported past (.send ((ReviewRequest.canceling client.baseUrl id).bearerAuth token))
  | delete (id item token : String) (state : Option String) (known : reported past id state)
      (ready : ReadyForReview state) (listed : ItemListed client past id item) :
      ValidRequest reported past (.send ((ReviewRequest.removing client.baseUrl item).bearerAuth token))

inductive ValidMutation (root : List String) (reported : Trace → String → Option String → Prop) (past : Trace) :
    Method → List String → Body → Prop
  | cancel (id : String) (state : Option String) (known : reported past id state) (sent : SentToReview state) :
      ValidMutation root reported past .patch (root ++ ["v1", "reviewSubmissions", id]) (.json (.obj [("data", .obj
        [("type", .str "reviewSubmissions"), ("id", .str id), ("attributes", .obj [("canceled", .bool true)])])]))
  | delete (id item : String) (state : Option String) (known : reported past id state) (ready : ReadyForReview state)
      (listed : ItemListed client past id item) :
      ValidMutation root reported past .delete (root ++ ["v1", "reviewSubmissionItems", item]) .empty

section wire

variable (crate : UrlCrate) (root : List String) (reported : Trace → String → Option String → Prop) (trace : Trace)

def PlainIds : Prop :=
  (∀ id state, reported trace id state → Segment id) ∧ ∀ id item, ItemListed client trace id item → Segment item

def MutatesValidly : Prop :=
  ∀ before request answer after, trace = before ++ ⟨.send request, answer⟩ :: after → request.method ≠ .get →
    ∃ path, crate.path request.url = some path ∧ ValidMutation client root reported before request.method path request.body

def SparesSubmissions : Prop :=
  ∀ request answer path, ⟨.send request, answer⟩ ∈ trace → request.method = .delete →
    crate.path request.url = some path → ¬ root ++ ["v1", "reviewSubmissions"] <+: path

end wire

theorem opened_append (request : Request) (body : String) (past later : Trace) (opened : Opened request body past) :
    Opened request body (past ++ later) := by
  obtain ⟨token, response, rest, rfl, success⟩ := opened
  exact ⟨token, response, rest ++ later, rfl, success⟩

theorem listed_as_append (appId : String) (past later : Trace) (id : String) (state : Option String)
    (listed : ListedAs client appId past id state) : ListedAs client appId (past ++ later) id state := by
  obtain ⟨body, page, submission, opened, rest⟩ := listed
  exact ⟨body, page, submission, opened_append _ _ _ _ opened, rest⟩

theorem read_as_append (submissionId : String) (past later : Trace) (id : String) (state : Option String)
    (read : ReadAs client submissionId past id state) : ReadAs client submissionId (past ++ later) id state := by
  obtain ⟨same, body, document, opened, rest⟩ := read
  exact ⟨same, body, document, opened_append _ _ _ _ opened, rest⟩

theorem page_seen_append (past later : Trace) (url : String) (page : ReviewSubmissionItemsResponse)
    (seen : PageSeen client past url page) : PageSeen client (past ++ later) url page := by
  obtain ⟨token, response, body, inside, rest⟩ := seen
  exact ⟨token, response, body, List.mem_append_left later inside, rest⟩

theorem items_page_of_append (past later : Trace) (id url : String) (known : ItemsPageOf client past id url) :
    ItemsPageOf client (past ++ later) id url := by
  induction known with
  | first => exact .first
  | linked url next page known seen goes ih => exact .linked url next page ih (page_seen_append client past later url page seen) goes

theorem item_listed_append (past later : Trace) (id item : String) (listed : ItemListed client past id item) :
    ItemListed client (past ++ later) id item := by
  obtain ⟨url, page, known, seen, inside⟩ := listed
  exact ⟨url, page, items_page_of_append client past later id url known, page_seen_append client past later url page seen, inside⟩

theorem page_read_seen (past trace : Trace) (url : String) (page : ReviewSubmissionItemsResponse)
    (read : PageRead client url trace (.ok page)) : PageSeen client (past ++ trace) url page := by
  obtain ⟨raw, call, same⟩ := read
  obtain ⟨body, success, parsed⟩ := except_bind_ok _ _ _ same.symm
  obtain ⟨response, rfl, success⟩ := except_bind_ok _ _ _ success
  cases call with
  | answered token response => exact ⟨token, response, body, by simp, success, parsed⟩

theorem wp_fetch_items (allowed : Trace → Query → Prop) (url : String)
    (post : Except StackError ReviewSubmissionItemsResponse → Trace → Prop) (past : Trace)
    (signs : allowed past .bearerToken)
    (sends : ∀ token, allowed (past ++ [⟨.bearerToken, .ok token⟩]) (.send ((Request.get url).bearerAuth token)))
    (after : ∀ trace result, PageRead client url trace result → post result (past ++ trace)) :
    wp allowed (client.fetchSubmissionItemsPage url) post past := by
  rw [AppStoreClient.fetchSubmissionItemsPage, getPage]
  rw [wp_bind]
  apply wp_exchange allowed (.get url) _ past signs sends
  intro trace raw call
  have parsed := after trace _ ⟨raw, call, rfl⟩
  rcases judged : raw >>= accepted with error | body
  · rw [judged] at parsed
    exact parsed
  · rw [judged] at parsed
    exact parsed

section rules

variable (reported : Trace → String → Option String → Prop)
  (stable : ∀ past later id state, reported past id state → reported (past ++ later) id state)

include stable

theorem valid_cancel_patch (id : String) (state : Option String) (sent : SentToReview state) (past : Trace)
    (known : reported past id state) (post : Except StackError Unit → Trace → Prop)
    (after : ∀ result later, post result (past ++ later)) :
    wp (ValidRequest client reported) (client.cancelPatch id) post past := by
  rw [AppStoreClient.cancelPatch]
  rw [token_then_patch, wp_bind]
  apply wp_exchange _ _ _ _ .sign (fun token => .cancel id token state (stable _ _ _ _ known) sent)
  intro trace raw call
  rcases raw >>= accepted with error | body <;> exact after _ trace

theorem valid_delete_items (id : String) (state : Option String) (ready : ReadyForReview state)
    (items : List ResourceIdentifier) (past : Trace) (known : reported past id state)
    (listed : ∀ item ∈ items, ItemListed client past id item.id) (post : Except StackError Unit → Trace → Prop)
    (after : ∀ result later, post result (past ++ later)) :
    wp (ValidRequest client reported) (items.forM fun item => client.deleteReviewSubmissionItem item.id) post past := by
  refine wp_for_each _ _ _ (fun rest now => ∃ later, now = past ++ later ∧ ∀ item ∈ rest, item ∈ items) ?_ ?_ items past
    ⟨[], by rw [List.append_nil], fun _ inside => inside⟩
  · rintro item rest now ⟨later, rfl, inside⟩
    rw [AppStoreClient.deleteReviewSubmissionItem, deleteNoContent]
    rw [wp_bind]
    apply wp_exchange _ _ _ _ .sign
    · intro token
      rw [List.append_assoc]
      exact .delete id item.id token state (stable _ _ _ _ known) ready
        (item_listed_append client past _ id item.id (listed item (inside item List.mem_cons_self)))
    · intro trace raw call
      rcases raw >>= accepted with error | body
      · rw [List.append_assoc]
        exact after _ _
      · exact ⟨later ++ trace, by rw [List.append_assoc], fun other member => inside other (List.mem_cons_of_mem item member)⟩
  · rintro now ⟨later, rfl, _⟩
    exact after _ later

theorem valid_delete_submission_items (fuel : Nat) (id : String) (state : Option String) (ready : ReadyForReview state)
    (past : Trace) (known : reported past id state) (post : Except StackError Unit → Trace → Prop)
    (after : ∀ result later, post result (past ++ later)) :
    wp (ValidRequest client reported) (client.deleteSubmissionItems fuel id) post past := by
  refine wp_while_some _ _ _ (fun _ next now => ∃ later, now = past ++ later ∧
    ∀ url, next = some url → ItemsPageOf client now id url) ?_ ?_ fuel () _ past
    ⟨[], by rw [List.append_nil], fun url same => Option.some.inj same ▸ .first⟩
  · rintro _ url now ⟨later, rfl, chain⟩
    have here := chain url rfl
    rw [AppStoreClient.deleteItemsPage]
    rw [wp_bind]
    apply wp_fetch_items client _ url _ _ .sign (fun token => .read url token)
    intro trace result read
    cases result with
    | error failure =>
        rw [List.append_assoc]
        exact after _ _
    | ok page =>
        have seen := page_read_seen client (past ++ later) trace url page read
        have onChain := items_page_of_append client _ trace id url here
        rw [when_ok_ok, wp_bind]
        refine valid_delete_items client reported stable id state ready page.data _ (stable _ _ _ _ (stable _ _ _ _ known))
          (fun item inside => ⟨url, page, onChain, seen, List.mem_map_of_mem inside⟩) _ ?_
        intro result deleted
        cases result with
        | error failure =>
            rw [List.append_assoc, List.append_assoc]
            exact after _ _
        | ok value =>
            refine ⟨later ++ trace ++ deleted, by simp only [List.append_assoc], ?_⟩
            intro next goes
            exact .linked url next page (items_page_of_append client _ deleted id url onChain)
              (page_seen_append client _ deleted url page seen) goes
  · rintro _ now ⟨later, rfl, _⟩
    exact after _ later

theorem valid_discard_ready (fuel : Nat) (id : String) (state : Option String) (ready : ReadyForReview state)
    (past : Trace) (known : reported past id state) (post : Except StackError Unit → Trace → Prop)
    (after : ∀ result later, post result (past ++ later)) :
    wp (ValidRequest client reported) (client.discardReadyForReviewSubmission fuel id) post past := by
  rw [AppStoreClient.discardReadyForReviewSubmission]
  rw [wp_bind]
  apply valid_delete_submission_items client reported stable fuel id state ready past known _
  intro result emptied
  cases result with
  | error failure => exact after _ emptied
  | ok value =>
      rw [when_ok_ok, state_read_judged, Prog.bind_assoc, wp_bind]
      apply wp_authorized _ _ _ _ .sign (fun token => .read _ token)
      intro trace raw call
      rw [List.append_assoc]
      rcases raw with failure | response
      · exact after _ _
      · rw [when_ok_ok, wp_bind, wp_done]
        rcases reportedState client response with failure | answer
        · exact after _ _
        · rw [when_ok_ok]
          split <;> exact after _ _

theorem valid_cancel_round (fuel : Nat) (notRemovable : Option StackError) (submission : ReviewSubmissionResource)
    (past : Trace) (known : reported past submission.id submission.attributes.state)
    (post : Except StackError (Option StackError) → Trace → Prop) (after : ∀ result later, post result (past ++ later)) :
    wp (ValidRequest client reported) (client.cancelRound fuel notRemovable submission) post past := by
  by_cases sent : SentToReview submission.attributes.state
  · rw [cancel_round_sent client fuel notRemovable submission sent, wp_bind]
    apply valid_cancel_patch client reported stable submission.id _ sent past known _
    intro result later
    cases result <;> exact after _ later
  · by_cases ready : ReadyForReview submission.attributes.state
    · rw [cancel_round_ready client fuel notRemovable submission ready, wp_bind, wp_attempt]
      apply valid_discard_ready client reported stable fuel submission.id _ ready past known _
      intro result later
      rw [when_ok_ok]
      split <;> exact after _ later
    · rw [cancel_round_other client fuel notRemovable submission sent ready]
      have here := after (.ok notRemovable) []
      rwa [List.append_nil] at here

theorem valid_cancel_listed (fuel : Nat) (submissions : List ReviewSubmissionResource) (past : Trace)
    (known : ∀ submission ∈ submissions, reported past submission.id submission.attributes.state) :
    wp (ValidRequest client reported) (client.cancelListed fuel submissions) (fun _ _ => True) past := by
  rw [AppStoreClient.cancelListed]
  rw [wp_bind]
  refine wp_fold _ _ _ (fun _ rest now => ∃ later, now = past ++ later ∧ ∀ submission ∈ rest, submission ∈ submissions)
    ?_ ?_ none submissions past ⟨[], by rw [List.append_nil], fun _ inside => inside⟩
  · rintro notRemovable submission rest now ⟨later, rfl, inside⟩
    refine valid_cancel_round client reported stable fuel notRemovable submission _
      (stable _ _ _ _ (known submission (inside submission List.mem_cons_self))) _ ?_
    intro result after
    cases result with
    | error failure => trivial
    | ok kept =>
        exact ⟨later ++ after, by rw [List.append_assoc],
          fun other member => inside other (List.mem_cons_of_mem submission member)⟩
  · intro notRemovable now _
    rw [when_ok_ok]
    split <;> trivial

theorem valid_discard_reported (fuel : Nat) (id : String) (state : Option String) (past : Trace)
    (known : reported past id state) :
    wp (ValidRequest client reported) (client.discardReported fuel id state) (fun _ _ => True) past := by
  by_cases sent : SentToReview state
  · rw [discard_reported_sent client fuel id state sent]
    exact valid_cancel_patch client reported stable id state sent past known _ fun _ _ => trivial
  · by_cases ready : ReadyForReview state
    · rw [discard_reported_ready client fuel id state ready]
      exact valid_discard_ready client reported stable fuel id state ready past known _ fun _ _ => trivial
    · rw [discard_reported_other client fuel id state sent ready]
      trivial

end rules

theorem valid_cancel_submission (fuel : Nat) (appId : String) :
    wp (ValidRequest client (ListedAs client appId)) (client.cancelSubmission fuel appId) (fun _ _ => True) [] := by
  rw [AppStoreClient.cancelSubmission, getPage]
  rw [wp_bind]
  apply wp_exchange _ _ _ _ .sign (fun token => .read _ token)
  intro trace raw call
  rcases judged : raw >>= accepted with failure | body
  · trivial
  · obtain ⟨response, rfl, success⟩ := except_bind_ok _ _ _ judged
    rw [when_ok_ok, wp_bind]
    change whenOk _ _ (client.parseReviewSubmissions body) _
    rcases parsed : client.parseReviewSubmissions body with failure | page
    · trivial
    · rw [when_ok_ok]
      apply valid_cancel_listed client _ (listed_as_append client appId) fuel page.data _
      intro submission inside
      cases call with
      | answered token response =>
          exact ⟨body, page, submission, ⟨token, response, [], rfl, success⟩, parsed, inside, rfl, rfl⟩

theorem valid_discard_review_submission (fuel : Nat) (submissionId : String) :
    wp (ValidRequest client (ReadAs client submissionId)) (client.discardReviewSubmission fuel submissionId)
      (fun _ _ => True) [] := by
  rw [AppStoreClient.discardReviewSubmission]
  rw [wp_bind]
  apply wp_authorized _ _ _ _ .sign (fun token => .read _ token)
  intro trace raw call
  cases call with
  | unsigned message => trivial
  | broken token message => trivial
  | answered token response =>
      obtain ⟨status, content⟩ := response
      rw [when_ok_ok]
      by_cases missing : status = 404
      · simp only [if_pos missing]
        trivial
      · simp only [if_neg missing]
        rw [wp_bind]
        change whenOk _ _ (accepted (status, content)) _
        rcases success : accepted (status, content) with failure | body
        · trivial
        · rw [when_ok_ok, wp_bind]
          change whenOk _ _ (client.parseReviewSubmission body) _
          rcases parsed : client.parseReviewSubmission body with failure | document
          · trivial
          · exact valid_discard_reported client _ (read_as_append client submissionId) fuel submissionId _ _
              ⟨rfl, body, document, ⟨token, (status, content), [], rfl, success⟩, parsed, rfl⟩

section wire

variable {client} (crate : UrlCrate) (root : List String) (kept : crate.KeepsUnder client.baseUrl root)

include kept

theorem collection_path (collection id : String) (named : Segment collection) (plain : Segment id) :
    crate.path (client.baseUrl ++ ("/v1/" ++ collection ++ "/") ++ id) = some (root ++ ["v1", collection, id]) := by
  have segments : ∀ segment ∈ ["v1", collection, id], Segment segment := by
    intro segment inside
    rcases List.mem_cons.mp inside with rfl | inside
    · exact plain_segment "v1" (by decide)
    · rcases List.mem_pair.mp inside with rfl | rfl
      · exact named
      · exact plain
  have text : pathText ["v1", collection, id] = "/v1/" ++ collection ++ "/" ++ id := by
    simp [pathText, ← String.toList_inj]
  rw [← kept _ segments, text]
  simp only [String.append_assoc]

theorem submission_path (id : String) (plain : Segment id) :
    crate.path (client.baseUrl ++ "/v1/reviewSubmissions/" ++ id) = some (root ++ ["v1", "reviewSubmissions", id]) :=
  collection_path crate root kept "reviewSubmissions" id (plain_segment _ (by decide)) plain

theorem submission_item_path (item : String) (plain : Segment item) :
    crate.path (client.baseUrl ++ "/v1/reviewSubmissionItems/" ++ item) = some (root ++ ["v1", "reviewSubmissionItems", item]) :=
  collection_path crate root kept "reviewSubmissionItems" item (plain_segment _ (by decide)) plain

variable (reported : Trace → String → Option String → Prop)
  (stable : ∀ past later id state, reported past id state → reported (past ++ later) id state) (trace : Trace)
  (plain : PlainIds client reported trace)
  (valid : ∀ before event after, trace = before ++ event :: after → ValidRequest client reported before event.1)

include stable plain valid

theorem valid_mutates : MutatesValidly client crate root reported trace := by
  intro before request answer after split changes
  have allowed := valid before ⟨.send request, answer⟩ after split
  cases allowed with
  | read url token => exact absurd rfl changes
  | cancel id token state known sent =>
      have segment := plain.1 id state (split ▸ stable _ _ _ _ known)
      exact ⟨_, submission_path crate root kept id segment, .cancel id state known sent⟩
  | delete id item token state known ready listed =>
      have segment := plain.2 id item (split ▸ item_listed_append client before _ id item listed)
      exact ⟨_, submission_item_path crate root kept item segment, .delete id item state known ready listed⟩

theorem valid_spares_submissions : SparesSubmissions crate root trace := by
  intro request answer path sent deletes resolved begins
  obtain ⟨before, after, split⟩ := List.append_of_mem sent
  have changes : request.method ≠ .get := by
    rw [deletes]
    nofun
  obtain ⟨_, found, mutation⟩ :=
    valid_mutates crate root kept reported stable trace plain valid before request answer after split changes
  cases Option.some.inj (resolved.symm.trans found)
  generalize request.method = method, request.body = body at mutation deletes
  cases mutation with
  | cancel => cases deletes
  | delete =>
      rw [List.prefix_append_right_inj] at begins
      obtain ⟨rest, same⟩ := begins
      simp at same

end wire

theorem opened_runs {α : Type} (request : Request) (next : Nat × String → Async α) (token : String)
    (response : Nat × String) (rest : Trace) (outcome : Option (Except StackError α)) :
    Runs (authorized request >>= next)
        (⟨.bearerToken, .ok token⟩ :: ⟨.send (request.bearerAuth token), .ok response⟩ :: rest) outcome ↔
      Runs (next response) rest outcome := by
  constructor
  · intro run
    obtain ⟨signed, afterToken, same, run⟩ := (runs_ask _ _ _ _).mp run
    cases same
    obtain ⟨reply, afterReply, same, run⟩ := (runs_ask _ _ _ _).mp run
    cases same
    exact run
  · intro run
    exact .ask _ _ _ _ _ (.ask _ _ _ _ _ run)

theorem cancel_submission_opened (fuel : Nat) (appId token : String) (response : Nat × String) (body : String)
    (page : ReviewSubmissionsResponse) (success : accepted response = .ok body)
    (parsed : client.parseReviewSubmissions body = .ok page) (rest : Trace) (outcome : Option (Except StackError Unit)) :
    Runs (client.cancelSubmission fuel appId) (⟨.bearerToken, .ok token⟩ ::
        ⟨.send ((Request.get (ReviewRequest.activeUrl client.baseUrl appId)).bearerAuth token), .ok response⟩ :: rest) outcome ↔
      Runs (client.cancelListed fuel page.data) rest outcome := by
  have spelled : client.activeSubmissionsUrl appId = ReviewRequest.activeUrl client.baseUrl appId := rfl
  rw [AppStoreClient.cancelSubmission, getPage, exchange]
  rw [Prog.bind_assoc, spelled, opened_runs]
  simp only [Prog.of_except, success, Prog.bind_ok, parsed]

theorem discard_review_submission_opened (fuel : Nat) (id token : String) (response : Nat × String) (body : String)
    (document : ReviewSubmissionDocument) (success : accepted response = .ok body)
    (parsed : client.parseReviewSubmission body = .ok document) (rest : Trace) (outcome : Option (Except StackError Unit)) :
    Runs (client.discardReviewSubmission fuel id) (⟨.bearerToken, .ok token⟩ ::
        ⟨.send ((ReviewRequest.reading client.baseUrl id).bearerAuth token), .ok response⟩ :: rest) outcome ↔
      Runs (client.discardReported fuel id document.data.attributes.state) rest outcome := by
  have spelled : Request.get (client.reviewSubmissionUrl id) = ReviewRequest.reading client.baseUrl id := rfl
  rw [AppStoreClient.discardReviewSubmission]
  rw [spelled, opened_runs]
  have found : response.1 ≠ 404 := by
    intro missing
    have range := ((accepted_ok _ _).mp success).1
    rw [missing] at range
    cases range
  obtain ⟨status, content⟩ := response
  simp only [if_neg found, Prog.of_except, success, Prog.bind_ok, parsed]

def draftListing : Json := .obj [("data", .arr [submissionJson "S1" "READY_FOR_REVIEW"])]
def itemsListing (item : String) : Json := .obj [("data", .arr [.obj [("id", .str item)]])]
def dottedItem : String := "../reviewSubmissions/S1"

def draftClient : AppStoreClient :=
  ⟨"https://host", .reading [draftListing, lingeringDraft, itemsListing "I1", itemsListing dottedItem]⟩

def hostUrls : UrlCrate := .removingDots "https://host"

def draftServer (item : String) : Handler Answer Unit := replying
  [((.get, draftClient.reviewSubmissionUrl "S1"), (200, lingeringDraft.compact)),
    ((.get, draftClient.submissionItemsUrl "S1" ++ "?include=appStoreVersion"), (200, (itemsListing item).compact)),
    ((.delete, draftClient.reviewSubmissionItemUrl item), (204, ""))]

def draftTrace (item : String) : Trace := (exec (draftServer item) (draftClient.discardReviewSubmission 2 "S1") ()).trace

theorem draft_trace : draftTrace "I1" =
    [⟨.bearerToken, .ok "token"⟩,
      ⟨.send ((Request.get (draftClient.reviewSubmissionUrl "S1")).bearerAuth "token"), .ok (200, lingeringDraft.compact)⟩,
      ⟨.bearerToken, .ok "token"⟩,
      ⟨.send ((Request.get (draftClient.submissionItemsUrl "S1" ++ "?include=appStoreVersion")).bearerAuth "token"),
        .ok (200, (itemsListing "I1").compact)⟩,
      ⟨.bearerToken, .ok "token"⟩,
      ⟨.send ((Request.delete (draftClient.reviewSubmissionItemUrl "I1")).bearerAuth "token"), .ok (204, "")⟩,
      ⟨.bearerToken, .ok "token"⟩,
      ⟨.send ((Request.get (draftClient.reviewSubmissionUrl "S1")).bearerAuth "token"), .ok (200, lingeringDraft.compact)⟩] := rfl

set_option maxRecDepth 20000 in
theorem draft_ids_plain : PlainIds draftClient (ReadAs draftClient "S1") (draftTrace "I1") := by
  refine ⟨?_, ?_⟩
  · rintro id state ⟨rfl, _⟩
    exact plain_segment _ (by decide)
  · rintro id item ⟨url, page, _, ⟨token, response, body, seen, success, parsed⟩, inside⟩
    have read : response = (200, lingeringDraft.compact) ∨ response = (200, (itemsListing "I1").compact) := by
      rw [draft_trace] at seen
      rcases List.mem_cons.mp seen with same | seen
      · cases same
      rcases List.mem_cons.mp seen with same | seen
      · cases same
        exact .inl rfl
      rcases List.mem_cons.mp seen with same | seen
      · cases same
      rcases List.mem_cons.mp seen with same | seen
      · cases same
        exact .inr rfl
      rcases List.mem_cons.mp seen with same | seen
      · cases same
      rcases List.mem_cons.mp seen with same | seen
      · cases same
      rcases List.mem_pair.mp seen with same | same
      · cases same
      · cases same
        exact .inl rfl
    rcases read with rfl | rfl
    · cases success
      cases parsed
    · cases success
      cases parsed
      cases List.mem_singleton.mp inside
      exact plain_segment _ (by decide)

end StackConnect
