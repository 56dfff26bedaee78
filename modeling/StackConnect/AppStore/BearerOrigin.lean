import StackConnect.AppStore.Containment

set_option autoImplicit false

namespace StackConnect

open Interaction Serde

variable (client : AppStoreClient) (given : String → Prop)

def Session (client : AppStoreClient) (calls : List (Operation × Trace)) : Prop :=
  ∀ call ∈ calls, ∃ fuel outcome, Runs (call.1.run client fuel) call.2 outcome

def StaysAtOrigin (client : AppStoreClient) (trace : Trace) : Prop :=
  ∀ request ∈ requests trace, request.bearer ≠ none → client.AtOrigin request.url

theorem allowed_send (past : Trace) (request : Request) (allowed : Allowed client given past (.send request))
    (signed : request.bearer ≠ none) :
    (client.Own request.url ∨ request.method = .get ∧ (given request.url ∨ Linked client past request.url)) ∧
      ∀ data, request.body ≠ .bytes data := by
  cases allowed with
  | api request token internal => exact ⟨.inl internal.1, internal.2⟩
  | page url token named => exact ⟨.inr ⟨rfl, named⟩, nofun⟩
  | upload _ bare => exact absurd bare signed

theorem allowed_stream (past : Trace) (request : Request) (allowed : Allowed client given past (.stream request)) :
    request.bearer = none := by
  cases allowed with
  | download _ bare => exact bare

theorem bearer_goes_where_named (client : AppStoreClient) (calls : List (Operation × Trace)) (session : Session client calls)
    (operation : Operation) (trace : Trace) (called : (operation, trace) ∈ calls) :
    (∀ before request answer after, trace = before ++ ⟨.send request, answer⟩ :: after → request.bearer ≠ none →
      client.Own request.url ∨
        request.method = .get ∧ (operation.pageToken = some request.url ∨ Linked client before request.url)) ∧
      (∀ request answer, ⟨.stream request, answer⟩ ∈ trace → request.bearer = none) ∧
      (∀ request answer data, ⟨.send request, answer⟩ ∈ trace → request.body = .bytes data → request.bearer = none) ∧
      ((∀ url, operation.pageToken = some url ∨ Linked client trace url → client.AtOrigin url) →
        StaysAtOrigin client trace) := by
  obtain ⟨fuel, outcome, ran⟩ := session _ called
  have kept := within_sound _ _ (operation_contained client fuel operation) trace outcome ran
  have goes : ∀ before request answer after, trace = before ++ ⟨.send request, answer⟩ :: after → request.bearer ≠ none →
      (client.Own request.url ∨
        request.method = .get ∧ (operation.pageToken = some request.url ∨ Linked client before request.url)) ∧
        ∀ data, request.body ≠ .bytes data :=
    fun before request answer after split signed => allowed_send client _ before request (kept before after _ split) signed
  have bare : ∀ request answer, ⟨.stream request, answer⟩ ∈ trace → request.bearer = none := by
    intro request answer seen
    obtain ⟨before, after, split⟩ := List.append_of_mem seen
    exact allowed_stream client _ before request (kept before after _ split)
  refine ⟨fun before request answer after split signed => (goes before request answer after split signed).1, bare, ?_, ?_⟩
  · intro request answer data seen raw
    obtain ⟨before, after, split⟩ := List.append_of_mem seen
    by_contra signed
    exact (goes before request answer after split signed).2 data raw
  · intro home request sent signed
    obtain ⟨⟨query, answer⟩, seen, found⟩ := List.mem_filterMap.mp sent
    cases query with
    | bearerToken => cases found
    | stream other =>
        cases found
        exact absurd (bare request answer seen) signed
    | send other =>
        cases found
        obtain ⟨before, after, split⟩ := List.append_of_mem seen
        rcases (goes before request answer after split signed).1 with own | ⟨_, handed | linked⟩
        · exact own_at_origin client _ own
        · exact home _ (.inl handed)
        · refine home _ (.inr ?_)
          rw [split]
          exact linked_later client before _ _ linked

def abroadPage : Json := .obj
  [("data", .arr []), ("links", .obj [("next", .str "https://elsewhere.example/v1/apps?cursor=2")])]

def abroadClient : AppStoreClient := .withBaseUrl defaultBaseUrl (.reading [abroadPage])

def abroadServer : Handler Answer Unit := replying [((.get, defaultBaseUrl ++ "/v1/apps"), (200, abroadPage.compact))]

def linkedAbroad : Operation := .app .fetchApps

def handedAbroad : Operation := .build (.fetchBuildsPage "A" none [] 10 (some "https://elsewhere.example/page"))

def abroadTrace (operation : Operation) : Trace := (exec abroadServer (operation.run abroadClient 2) ()).trace

def abroadCalls : List (Operation × Trace) :=
  [(linkedAbroad, abroadTrace linkedAbroad), (handedAbroad, abroadTrace handedAbroad)]

theorem abroad_session : Session abroadClient abroadCalls := by
  intro call made
  rcases List.mem_pair.mp made with rfl | rfl
  · exact ⟨2, _, exec_runs abroadServer (linkedAbroad.run abroadClient 2) ()⟩
  · exact ⟨2, _, exec_runs abroadServer (handedAbroad.run abroadClient 2) ()⟩

set_option maxRecDepth 20000 in
theorem bearer_leaves_origin :
    Session abroadClient abroadCalls ∧ ∀ call ∈ abroadCalls, ¬ StaysAtOrigin abroadClient call.2 := by
  refine ⟨abroad_session, ?_⟩
  intro call made stays
  rcases List.mem_pair.mp made with rfl | rfl
  · have sent : (Request.get "https://elsewhere.example/v1/apps?cursor=2").bearerAuth "token" ∈
        requests (abroadTrace linkedAbroad) := by
      have all : requests (abroadTrace linkedAbroad) =
          [(Request.get (defaultBaseUrl ++ "/v1/apps")).bearerAuth "token",
            (Request.get "https://elsewhere.example/v1/apps?cursor=2").bearerAuth "token"] := rfl
      rw [all]
      exact List.mem_cons_of_mem _ (List.mem_singleton_self _)
    exact absurd (stays _ sent nofun) (by decide)
  · have sent : (Request.get "https://elsewhere.example/page").bearerAuth "token" ∈
        requests (abroadTrace handedAbroad) := List.mem_singleton_self _
    exact absurd (stays _ sent nofun) (by decide)

theorem abroad_page_was_named :
    (abroadClient.Own "https://elsewhere.example/page" ∨
      Method.get = .get ∧ (some "https://elsewhere.example/page" = some "https://elsewhere.example/page" ∨
        Linked abroadClient [⟨.bearerToken, .ok "token"⟩] "https://elsewhere.example/page")) ∧
      ((∀ url, linkedAbroad.pageToken = some url ∨ Linked abroadClient (abroadTrace linkedAbroad) url →
        abroadClient.AtOrigin url) → StaysAtOrigin abroadClient (abroadTrace linkedAbroad)) :=
  ⟨(bearer_goes_where_named abroadClient abroadCalls abroad_session handedAbroad (abroadTrace handedAbroad)
      (List.mem_cons_of_mem _ (List.mem_singleton_self _))).1 [⟨.bearerToken, .ok "token"⟩]
      ((Request.get "https://elsewhere.example/page").bearerAuth "token") (.ok (404, "")) [] rfl nofun,
    (bearer_goes_where_named abroadClient abroadCalls abroad_session linkedAbroad (abroadTrace linkedAbroad)
      List.mem_cons_self).2.2.2⟩

end StackConnect
