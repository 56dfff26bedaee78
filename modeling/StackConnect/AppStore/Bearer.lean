import StackConnect.AppStore.Calls

set_option autoImplicit false

namespace StackConnect

open Interaction Serde

def AppStoreClient.Own (client : AppStoreClient) (url : String) : Prop :=
  (client.baseUrl ++ "/v1/").toList <+: url.toList

-- The scheme and host of a URL: what stands before its third slash.
def beforeSlash : Nat → List Char → List Char
  | _, [] => []
  | 0, '/' :: _ => []
  | slashes + 1, '/' :: rest => '/' :: beforeSlash slashes rest
  | slashes, char :: rest => char :: beforeSlash slashes rest

def origin (url : String) : List Char := beforeSlash 2 url.toList

def AppStoreClient.AtOrigin (client : AppStoreClient) (url : String) : Prop := origin client.baseUrl <+: url.toList

instance (client : AppStoreClient) (url : String) : Decidable (client.AtOrigin url) :=
  inferInstanceAs (Decidable (origin client.baseUrl <+: url.toList))

-- A request to the API itself. Raw bytes are not for the API.
def AppStoreClient.Internal (client : AppStoreClient) (request : Request) : Prop :=
  client.Own request.url ∧ ∀ data, request.body ≠ .bytes data

inductive Paged : (ρ : Type) → Decoder ρ → (ρ → Links) → Prop
  | plain {ρ : Type} (resource : Decoder ρ) : Paged (Page ρ) (Page.decode resource) Page.links
  | including {ρ ι : Type} (resource : Decoder ρ) (included : Decoder ι) :
      Paged (IncludedPage ρ ι) (IncludedPage.decode resource included) IncludedPage.links

def NamesNext (client : AppStoreClient) (body url : String) : Prop :=
  ∃ (ρ : Type) (decoder : Decoder ρ) (links : ρ → Links) (page : ρ), Paged ρ decoder links ∧
    (client.crates.serdeJson.parse body).bind decoder = some page ∧ (links page).next = some url

def Linked (client : AppStoreClient) (past : Trace) (url : String) : Prop :=
  ∃ source token status body, ⟨.send ((Request.get source).bearerAuth token), .ok (status, body)⟩ ∈ past ∧
    isSuccess status = true ∧ NamesNext client body url

-- What may be asked of the world: the token goes to the API itself, or with the
-- GET of a page that the caller gave or that a page before it named.
inductive Allowed (client : AppStoreClient) (given : String → Prop) (past : Trace) : Query → Prop
  | sign : Allowed client given past .bearerToken
  | api (request : Request) (token : String) (internal : client.Internal request) :
      Allowed client given past (.send (request.bearerAuth token))
  | page (url token : String) (named : given url ∨ Linked client past url) :
      Allowed client given past (.send ((Request.get url).bearerAuth token))
  | upload (request : Request) (bare : request.bearer = none) : Allowed client given past (.send request)
  | download (request : Request) (bare : request.bearer = none) : Allowed client given past (.stream request)

variable {α ρ : Type}

def Contained (client : AppStoreClient) (given : String → Prop) (program : Async α) : Prop :=
  Within (Allowed client given) program

def Reachable (client : AppStoreClient) (given : String → Prop) (past : Trace) (url : String) : Prop :=
  client.Own url ∨ given url ∨ Linked client past url

variable (client : AppStoreClient) (given : String → Prop)

@[simp] theorem own_path (path : String) (versioned : "/v1/".toList.isPrefixOf path.toList = true) :
    client.Own (client.baseUrl ++ path) := by
  rw [AppStoreClient.Own]
  rw [String.toList_append, String.toList_append, List.prefix_append_right_inj]
  exact List.isPrefixOf_iff_prefix.mp versioned

theorem own_append (url rest : String) (own : client.Own url) : client.Own (url ++ rest) := by
  have longer : url.toList <+: (url ++ rest).toList := by
    rw [String.toList_append]
    exact List.prefix_append _ _
  exact List.IsPrefix.trans own longer

@[simp high] theorem own_prefixed (path rest : String) (versioned : "/v1/".toList.isPrefixOf path.toList = true) :
    client.Own (client.baseUrl ++ (path ++ rest)) := by
  rw [← String.append_assoc]
  exact own_append client _ rest (own_path client path versioned)

theorem before_slash_begins (slashes : Nat) (chars : List Char) : beforeSlash slashes chars <+: chars := by
  fun_induction beforeSlash slashes chars with
  | case1 => exact List.nil_prefix
  | case2 => exact List.nil_prefix
  | case3 slashes rest ih => exact List.cons_prefix_cons.mpr ⟨rfl, ih⟩
  | case4 slashes char rest _ _ ih => exact List.cons_prefix_cons.mpr ⟨rfl, ih⟩

theorem own_at_origin (url : String) (own : client.Own url) : client.AtOrigin url := by
  rw [AppStoreClient.Own] at own
  rw [String.toList_append] at own
  exact (before_slash_begins 2 client.baseUrl.toList).trans ((List.prefix_append _ _).trans own)

@[simp] theorem internal_get (url : String) : client.Internal (.get url) ↔ client.Own url := by
  simp [AppStoreClient.Internal, Request.get, Request.plain]

@[simp] theorem internal_delete (url : String) : client.Internal (.delete url) ↔ client.Own url := by
  simp [AppStoreClient.Internal, Request.delete, Request.plain]

@[simp] theorem internal_with_json (request : Request) (body : Json) :
    client.Internal (request.withJson body) ↔ client.Own request.url := by
  simp [AppStoreClient.Internal, Request.withJson]

@[simp] theorem internal_post (url : String) (body : Json) : client.Internal (.post url body) ↔ client.Own url :=
  internal_with_json client _ body

@[simp] theorem internal_patch (url : String) (body : Json) : client.Internal (.patch url body) ↔ client.Own url :=
  internal_with_json client _ body

theorem linked_later (past later : Trace) (url : String) (linked : Linked client past url) :
    Linked client (past ++ later) url := by
  obtain ⟨source, token, status, body, seen, success, names⟩ := linked
  exact ⟨source, token, status, body, List.mem_append_left _ seen, success, names⟩

theorem reachable_later (past later : Trace) (url : String) (reachable : Reachable client given past url) :
    Reachable client given (past ++ later) url := by
  rcases reachable with own | named | linked
  · exact .inl own
  · exact .inr (.inl named)
  · exact .inr (.inr (linked_later client past later url linked))

theorem reachable_get_allowed (past : Trace) (url token : String) (reachable : Reachable client given past url) :
    Allowed client given past (.send ((Request.get url).bearerAuth token)) := by
  rcases reachable with own | named
  · exact .api _ token ((internal_get client url).mpr own)
  · exact .page url token named

section Rules

variable {client given} {program : Async α}

theorem contained_done (result : Except StackError α) : Contained client given (.done result) := within_done _ result

theorem contained_bind {next : α → Async ρ} (first : Contained client given program)
    (rest : ∀ value, Contained client given (next value)) : Contained client given (program >>= next) :=
  within_bind _ program next first rest

theorem contained_judged (result : Except StackError α) (next : α → Async ρ)
    (rest : ∀ value, Contained client given (next value)) : Contained client given (Prog.ofExcept result >>= next) :=
  contained_bind (contained_done result) rest

theorem contained_map (judge : α → Except StackError ρ) (kept : Contained client given program) :
    Contained client given (program >>= fun value => .done (judge value)) :=
  contained_bind kept fun value => contained_done (judge value)

theorem contained_bearer_token : Contained client given bearerToken := by
  apply within_ask _ _ _ (fun _ => .sign)
  intro answer
  cases answer with
  | ok token => exact contained_done _
  | error message => exact contained_done _

theorem contained_send (request : Request) (allowed : ∀ past, Allowed client given past (.send request)) :
    Contained client given (sendAndRead request) := by
  apply within_ask _ _ _ allowed
  intro answer
  cases answer with
  | ok response => exact contained_done _
  | error message => exact contained_done _

theorem contained_authorized (request : Request) (internal : client.Internal request) :
    Contained client given (authorized request) :=
  contained_bind contained_bearer_token fun token => contained_send _ fun _ => .api request token internal

theorem contained_exchange (request : Request) (internal : client.Internal request) :
    Contained client given (exchange request) :=
  contained_map accepted (contained_authorized request internal)

theorem contained_get_page (url : String) (own : client.Own url) : Contained client given (getPage url) :=
  contained_exchange _ ((internal_get client url).mpr own)

theorem contained_post_json (url : String) (body : Json) (own : client.Own url) :
    Contained client given (postJson2xx url body) :=
  contained_exchange _ ((internal_post client url body).mpr own)

theorem contained_no_content (request : Request) (internal : client.Internal request) :
    Contained client given (exchangeNoContent request) :=
  contained_map _ (contained_exchange request internal)

theorem contained_delete (url : String) (own : client.Own url) : Contained client given (deleteNoContent url) :=
  contained_map _ (contained_exchange _ ((internal_delete client url).mpr own))

theorem contained_patch (url : String) (body : Json) (own : client.Own url) :
    Contained client given (bearerToken >>= fun token => patchNoContent url token body) := by
  rw [token_then_patch]
  exact contained_map _ (contained_exchange _ ((internal_patch client url body).mpr own))

theorem contained_document (request : Request) (type label : String) (resource : Decoder ρ)
    (internal : client.Internal request) :
    Contained client given (client.exchangeDocument request type label resource) :=
  contained_bind (contained_exchange request internal) fun _ => contained_judged _ _ fun _ => contained_done _

end Rules

theorem wp_read_page (type label : String) (decoder : Decoder ρ) (links : ρ → Links) (paged : Paged ρ decoder links)
    (url : String) (past : Trace) (reachable : Reachable client given past url)
    (post : Except StackError ρ → Trace → Prop)
    (read : ∀ page later, (∀ next, (links page).next = some next → Linked client (past ++ later) next) →
      post (.ok page) (past ++ later))
    (unread : ∀ error later, post (.error error) (past ++ later)) :
    wp (Allowed client given) (getPage url >>= fun body => Prog.ofExcept (client.parse type label decoder body)) post past := by
  rw [wp_bind]
  apply wp_exchange _ _ _ _ .sign
  · intro token
    exact reachable_get_allowed client given _ url token (reachable_later client given past _ url reachable)
  · intro trace raw call
    cases call with
    | unsigned message => exact unread _ _
    | broken token message => exact unread _ _
    | answered token response =>
        change whenOk _ _ (accepted response) _
        cases judged : accepted response with
        | error failure => exact unread _ _
        | ok body =>
            obtain ⟨success, rfl⟩ := (accepted_ok response body).mp judged
            change post (client.parse type label decoder response.2) _
            rw [AppStoreClient.parse]
            cases decoded : client.crates.serdeJson.fromStr type decoder response.2 with
            | error reason => exact unread _ _
            | ok page =>
                apply read page _
                intro next named
                refine ⟨url, token, response.1, response.2, by simp, success, ρ, decoder, links, page, paged, ?_, named⟩
                exact (SerdeJson.from_str_ok _ _ _ _ _).mp decoded

theorem contained_walk (body : α → String → Async (α × Option String)) (fuel : Nat) (start : α) (first : String)
    (own : client.Own first)
    (round : ∀ kept url past, Reachable client given past url →
      wp (Allowed client given) (body kept url) (whenOk (fun step reached => ∀ next, step.2 = some next →
        Reachable client given reached next) fun _ _ => True) past) :
    Contained client given (whileSome body fuel start (some first)) := by
  intro past
  refine wp_while_some _ body _ (fun _ next past => ∀ url, next = some url → Reachable client given past url)
    ?_ (fun _ _ _ => trivial) fuel start (some first) past ?_
  · intro kept url past reachable
    exact round kept url past (reachable url rfl)
  · rintro url ⟨⟩
    exact .inl own

theorem next_url_some (links : Links) (url : String) (next : links.nextUrl = some url) : links.next = some url := by
  obtain ⟨named, _⟩ := Option.filter_eq_some_iff.mp next
  exact named

theorem contained_list_pages (fuel : Nat) (type label : String) (decoder : Decoder ρ) (rows : ρ → List α)
    (links : ρ → Links) (collected : List α) (first : String) (paged : Paged ρ decoder links) (own : client.Own first) :
    Contained client given (client.listPages fuel type label decoder rows links collected first) := by
  apply contained_walk client given _ fuel collected first own
  intro kept url past reachable
  rw [← Prog.bind_assoc, wp_bind]
  refine wp_read_page client given type label decoder links paged url past reachable _ ?_ (fun _ _ => trivial)
  intro page later named next following
  exact .inr (.inr (named next (next_url_some _ _ following)))

theorem contained_collect (fuel : Nat) (listing : Listing α) (collected : List α)
    (paged : Paged listing.Response listing.decoder listing.links) (own : client.Own listing.first) :
    Contained client given (client.collect fuel listing collected) :=
  contained_list_pages client given fuel _ _ _ _ _ collected _ paged own

theorem contained_page (listing : Listing α) (paged : Paged listing.Response listing.decoder listing.links)
    (start : client.Own listing.first ∨ given listing.first) : Contained client given (client.fetchPage listing) := by
  intro past
  rw [AppStoreClient.fetchPage]
  rw [← Prog.bind_assoc]
  apply within_bind_wp _ _ _ (fun _ => contained_done _) (fun _ _ => True) past
  refine wp_read_page client given _ _ _ listing.links paged _ past ?_ _ (fun _ _ _ => trivial) (fun _ _ => trivial)
  rcases start with own | named
  · exact .inl own
  · exact .inr (.inl named)

theorem contained_token_page (listing : String → Listing α) (token : Option String) (first : String)
    (starts : ∀ url, (listing url).first = url)
    (paged : ∀ url, Paged (listing url).Response (listing url).decoder (listing url).links) (own : client.Own first)
    (handed : ∀ url, token = some url → given url) :
    Contained client given (client.fetchPage (listing (token.getD first))) := by
  apply contained_page client given _ (paged _)
  rw [starts]
  cases token with
  | none => exact .inl own
  | some url => exact .inr (handed url rfl)

end StackConnect
