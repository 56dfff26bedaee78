import StackConnect.AppStore.Calls
import StackConnect.AppStore.Discard

set_option autoImplicit false

namespace StackConnect

open Interaction Serde

variable {S : Type} (client : AppStoreClient) (handler : Handler Answer S)

-- An authorized request as its server sees it: the body of a 2xx answer, none
-- for every other end of the call, and the state left behind.
def served (request : Request) (state : S) : Option String × S :=
  let signed := handler.answer .bearerToken state
  match signed.1 with
  | .error _ => (none, signed.2)
  | .ok token =>
      let reply := handler.answer (.send (request.bearerAuth token)) signed.2
      match reply.1 with
      | .error _ => (none, reply.2)
      | .ok response => (if isSuccess response.1 then some response.2 else none, reply.2)

theorem exec_exchange (request : Request) (state : S) :
    (∃ body trace, (served handler request state).1 = some body ∧
        exec handler (exchange request) state = ⟨some (.ok body), (served handler request state).2, trace⟩) ∨
      ∃ error trace, (served handler request state).1 = none ∧
        exec handler (exchange request) state = ⟨some (.error error), (served handler request state).2, trace⟩ := by
  rcases signing : handler.answer .bearerToken state with ⟨signed, ready⟩
  rcases signed with message | token
  · refine .inr ⟨.auth message, [⟨.bearerToken, .error message⟩], ?_, ?_⟩
    · simp only [served, signing]
    · simp [served, exchange, authorized, bearerToken, exec_ask, signing, Run.prepend]
  · rcases sending : handler.answer (.send (request.bearerAuth token)) ready with ⟨reply, left⟩
    rcases reply with message | response
    · refine .inr ⟨.network message, [⟨.bearerToken, .ok token⟩, ⟨.send (request.bearerAuth token), .error message⟩], ?_, ?_⟩
      · simp only [served, signing, sending]
      · simp [served, exchange, authorized, bearerToken, sendAndRead, exec_ask, signing, sending, Run.prepend]
    · have ran : exec handler (exchange request) state = ⟨some (accepted response), left,
          [⟨.bearerToken, .ok token⟩, ⟨.send (request.bearerAuth token), .ok response⟩]⟩ := by
        simp [exchange, authorized, bearerToken, sendAndRead, exec_ask, signing, sending, Run.prepend]
      rw [ran]
      simp only [served, signing, sending]
      rw [accepted]
      by_cases success : isSuccess response.1 = true
      · exact .inl ⟨response.2, _, by rw [if_pos success], by rw [if_pos success]⟩
      · exact .inr ⟨_, _, by rw [if_neg success], by rw [if_neg success]⟩

structure ReadOnlyGets : Prop where
  sign : ∀ state, (handler.answer .bearerToken state).2 = state
  get : ∀ url token state, (handler.answer (.send ((Request.get url).bearerAuth token)) state).2 = state

theorem served_get_state (quiet : ReadOnlyGets handler) (url : String) (state : S) :
    (served handler (.get url) state).2 = state := by
  rw [served]
  dsimp only
  split
  · exact quiet.sign state
  · split <;> rw [quiet.get, quiet.sign]

inductive DraftsRead (state : S) : List ReviewSubmissionResource → Option String → Prop
  | exhausted : DraftsRead state [] none
  | empty (draft : ReviewSubmissionResource) (rest : List ReviewSubmissionResource) (body : String)
      (page : ReviewSubmissionItemsResponse)
      (replied : (served handler (.get (ReviewRequest.itemsUrl client.baseUrl draft.id)) state).1 = some body)
      (decoded : client.parseSubmissionItems body = .ok page) (nothing : page.data = []) :
      DraftsRead state (draft :: rest) (some draft.id)
  | filled (draft : ReviewSubmissionResource) (rest : List ReviewSubmissionResource) (body : String)
      (page : ReviewSubmissionItemsResponse) (found : Option String)
      (replied : (served handler (.get (ReviewRequest.itemsUrl client.baseUrl draft.id)) state).1 = some body)
      (decoded : client.parseSubmissionItems body = .ok page) (something : page.data ≠ [])
      (later : DraftsRead state rest found) : DraftsRead state (draft :: rest) found

def ReuseFound (state : S) (appId : String) (platform : Option String) (found : Option String) : Prop :=
  ∃ body page, (served handler (.get (ReviewRequest.draftsUrl client.baseUrl appId platform)) state).1 = some body ∧
    client.parseReviewSubmissions body = .ok page ∧ DraftsRead client handler state page.data found

def itemPosted (id versionId : String) (state : S) : Option String × S :=
  served handler (ReviewRequest.linking client.baseUrl id versionId) state

def submitPatched (id : String) (state : S) : Option String × S :=
  served handler (ReviewRequest.submitting client.baseUrl id) state

def AttachAccepted (state : S) (id versionId : String) : Prop :=
  (itemPosted client handler id versionId state).1 ≠ none ∧
    (submitPatched client handler id (itemPosted client handler id versionId state).2).1 ≠ none

def attemptLeaves (state : S) (id versionId : String) : S :=
  match itemPosted client handler id versionId state with
  | (none, left) => left
  | (some _, posted) => (submitPatched client handler id posted).2

theorem exec_attach_and_submit (id versionId : String) (state : S) :
    ∃ result trace, exec handler (client.attachAndSubmit id versionId) state =
        ⟨some result, attemptLeaves client handler state id versionId, trace⟩ ∧
      (result = .ok () ↔ AttachAccepted client handler state id versionId) := by
  rw [AppStoreClient.attachAndSubmit, postJson2xx, attemptLeaves, AttachAccepted]
  rw [token_then_patch]
  change ∃ result trace, exec handler (exchange (ReviewRequest.linking client.baseUrl id versionId) >>= fun _ =>
    exchange (ReviewRequest.submitting client.baseUrl id) >>= fun _ => .done (.ok ())) state = _ ∧ _
  rcases exec_exchange handler (ReviewRequest.linking client.baseUrl id versionId) state with
    ⟨body, first, replied, ran⟩ | ⟨error, first, refused, ran⟩
  · rw [exec_bind, ran, Run.and_then_ok, exec_bind]
    change (itemPosted client handler id versionId state).1 = some body at replied
    rcases posting : itemPosted client handler id versionId state with ⟨posted, left⟩
    rw [posting] at replied
    dsimp only at replied
    subst replied
    change ∃ result trace, Run.prepend first
      ((exec handler (exchange (ReviewRequest.submitting _ _)) (itemPosted client handler id versionId state).2).andThen _) = _ ∧ _
    rw [posting]
    rcases exec_exchange handler (ReviewRequest.submitting client.baseUrl id) left with
      ⟨text, second, accepted, patched⟩ | ⟨error, second, refused, patched⟩
    · rw [patched]
      refine ⟨.ok (), first ++ second, ?_, ?_⟩
      · simp [Run.andThen, Run.prepend, submitPatched]
      · simp [submitPatched, accepted]
    · rw [patched]
      refine ⟨.error error, first ++ second, ?_, ?_⟩
      · simp [Run.andThen, Run.prepend, submitPatched]
      · simp [submitPatched, refused]
  · rw [exec_bind, ran, Run.and_then_error]
    change (itemPosted client handler id versionId state).1 = none at refused
    refine ⟨.error error, first, ?_, ?_⟩
    · rcases posting : itemPosted client handler id versionId state with ⟨posted, left⟩
      rw [posting] at refused
      dsimp only at refused
      subst refused
      change (⟨_, (itemPosted client handler id versionId state).2, _⟩ : Run Answer StackError Unit S) = _
      rw [posting]
    · simp [refused]

theorem exec_fetch_items (quiet : ReadOnlyGets handler) (url : String) (state : S) :
    ∃ result trace, exec handler (client.fetchSubmissionItemsPage url) state = ⟨some result, state, trace⟩ ∧
      ∀ page, result = .ok page ↔ ∃ body, (served handler (.get url) state).1 = some body ∧
        client.parseSubmissionItems body = .ok page := by
  rw [AppStoreClient.fetchSubmissionItemsPage, getPage]
  rcases exec_exchange handler (.get url) state with ⟨body, trace, replied, ran⟩ | ⟨error, trace, refused, ran⟩
  · rw [exec_bind, ran, Run.and_then_ok, served_get_state handler quiet]
    refine ⟨client.parseSubmissionItems body, trace, by simp [Run.prepend], ?_⟩
    simp [replied]
  · rw [exec_bind, ran, Run.and_then_error, served_get_state handler quiet]
    refine ⟨.error error, trace, rfl, ?_⟩
    simp [refused]

theorem drafts_read_cons (draft : ReviewSubmissionResource) (rest : List ReviewSubmissionResource) (state : S)
    (body : String) (page : ReviewSubmissionItemsResponse)
    (answered : (served handler (.get (ReviewRequest.itemsUrl client.baseUrl draft.id)) state).1 = some body)
    (decoded : client.parseSubmissionItems body = .ok page) (found : Option String) :
    DraftsRead client handler state (draft :: rest) found ↔
      (page.data = [] ∧ some draft.id = found) ∨ (page.data ≠ [] ∧ DraftsRead client handler state rest found) := by
  have only : ∀ text other, (served handler (.get (ReviewRequest.itemsUrl client.baseUrl draft.id)) state).1 = some text →
      client.parseSubmissionItems text = .ok other → other = page := by
    intro text other replied parsed
    cases answered.symm.trans replied
    exact Except.ok.inj (parsed.symm.trans decoded)
  constructor
  · intro read
    cases read with
    | empty _ _ text other replied parsed nothing =>
        rw [only text other replied parsed] at nothing
        exact .inl ⟨nothing, rfl⟩
    | filled _ _ text other _ replied parsed something later =>
        rw [only text other replied parsed] at something
        exact .inr ⟨something, later⟩
  · rintro (⟨nothing, rfl⟩ | ⟨something, later⟩)
    · exact .empty draft rest body page answered decoded nothing
    · exact .filled draft rest body page found answered decoded something later

theorem drafts_unread (draft : ReviewSubmissionResource) (rest : List ReviewSubmissionResource) (state : S)
    (unread : ∀ body page, (served handler (.get (ReviewRequest.itemsUrl client.baseUrl draft.id)) state).1 = some body →
      client.parseSubmissionItems body ≠ .ok page) (found : Option String) :
    ¬ DraftsRead client handler state (draft :: rest) found := by
  intro read
  cases read with
  | empty _ _ body page replied parsed nothing => exact unread body page replied parsed
  | filled _ _ body page _ replied parsed something later => exact unread body page replied parsed

theorem exec_first_empty_draft (quiet : ReadOnlyGets handler) (drafts : List ReviewSubmissionResource) (state : S) :
    ∃ result trace, exec handler (client.firstEmptyDraft drafts) state = ⟨some result, state, trace⟩ ∧
      ∀ found, result = .ok found ↔ DraftsRead client handler state drafts found := by
  induction drafts with
  | nil =>
      refine ⟨.ok none, [], rfl, ?_⟩
      intro found
      constructor
      · intro same
        cases same
        exact .exhausted
      · intro read
        cases read
        rfl
  | cons draft rest ih =>
      obtain ⟨later, after, ranLater, searched⟩ := ih
      obtain ⟨result, trace, ran, replied⟩ := exec_fetch_items client handler quiet (client.submissionItemsUrl draft.id) state
      rw [AppStoreClient.firstEmptyDraft, AppStoreClient.submissionIsEmpty]
      rw [exec_bind, exec_bind, ran]
      cases result with
      | error failure =>
          have unread := drafts_unread client handler draft rest state (by
            intro body page answered decoded
            cases (replied page).mpr ⟨body, answered, decoded⟩)
          refine ⟨.error failure, trace, rfl, ?_⟩
          intro found
          constructor
          · intro same
            cases same
          · intro read
            exact absurd read (unread found)
      | ok page =>
          obtain ⟨body, answered, decoded⟩ := (replied page).mp rfl
          have reads := drafts_read_cons client handler draft rest state body page answered decoded
          by_cases nothing : page.data = []
          · refine ⟨.ok (some draft.id), trace, by simp [Run.andThen, Run.prepend, nothing], ?_⟩
            intro found
            rw [reads found]
            simp [nothing]
          · refine ⟨later, trace ++ after, by simp [Run.andThen, Run.prepend, nothing, ranLater], ?_⟩
            intro found
            rw [reads found, searched found]
            simp [nothing]

theorem exec_find_reusable (quiet : ReadOnlyGets handler) (appId : String) (platform : Option String) (state : S) :
    ∃ result trace, exec handler (client.findReusableEmptyDraft appId platform) state = ⟨some result, state, trace⟩ ∧
      ∀ found, result = .ok found ↔ ReuseFound client handler state appId platform found := by
  unfold AppStoreClient.findReusableEmptyDraft getPage ReuseFound
  rw [ready_drafts_spelled]
  rcases exec_exchange handler (.get (ReviewRequest.draftsUrl client.baseUrl appId platform)) state with
    ⟨body, trace, replied, ran⟩ | ⟨error, trace, refused, ran⟩
  · rw [exec_bind, ran, Run.and_then_ok, served_get_state handler quiet, replied]
    rcases decoded : client.parseReviewSubmissions body with failure | page
    · refine ⟨.error failure, trace, by simp [Run.prepend], ?_⟩
      intro found
      constructor
      · intro succeeded
        cases succeeded
      · intro reuse
        obtain ⟨_, page, same, parsed, _⟩ := reuse
        cases same
        cases decoded.symm.trans parsed
    · obtain ⟨result, after, searched, found⟩ := exec_first_empty_draft client handler quiet page.data state
      refine ⟨result, trace ++ after, by simp [Run.prepend, searched], ?_⟩
      intro draft
      rw [found draft]
      constructor
      · intro read
        exact ⟨body, page, rfl, decoded, read⟩
      · intro reuse
        obtain ⟨_, other, same, parsed, read⟩ := reuse
        cases same
        cases decoded.symm.trans parsed
        exact read
  · rw [exec_bind, ran, Run.and_then_error, served_get_state handler quiet]
    refine ⟨.error error, trace, rfl, ?_⟩
    simp [refused]

theorem exec_submit_for_review (quiet : ReadOnlyGets handler) (appId versionId : String) (platform : Option String) (state : S) :
    (∃ error trace, exec handler (client.submitForReview appId versionId platform) state = ⟨some (.error error), state, trace⟩ ∧
        ∀ found, ¬ ReuseFound client handler state appId platform found) ∨
      ∃ found trace, (∀ other, ReuseFound client handler state appId platform other ↔ other = found) ∧
        match found with
        | none => exec handler (client.submitForReview appId versionId platform) state =
            (exec handler (client.createAndSubmit appId versionId platform) state).prepend trace
        | some draft =>
            (AttachAccepted client handler state draft versionId ∧
              exec handler (client.submitForReview appId versionId platform) state =
                ⟨some (.ok ()), attemptLeaves client handler state draft versionId, trace⟩) ∨
            (¬ AttachAccepted client handler state draft versionId ∧
              exec handler (client.submitForReview appId versionId platform) state =
                (exec handler (client.createAndSubmit appId versionId platform)
                  (attemptLeaves client handler state draft versionId)).prepend trace) := by
  obtain ⟨result, trace, ran, searched⟩ := exec_find_reusable client handler quiet appId platform state
  rw [AppStoreClient.submitForReview]
  rw [exec_bind, ran]
  rcases result with failure | found
  · refine .inl ⟨failure, trace, rfl, ?_⟩
    intro found reuse
    cases (searched found).mpr reuse
  · refine .inr ?_
    have only : ∀ other, ReuseFound client handler state appId platform other ↔ other = found := by
      intro other
      rw [← searched other, Except.ok.injEq]
      exact eq_comm
    rw [Run.and_then_ok]
    cases found with
    | none => exact ⟨none, trace, only, rfl⟩
    | some draft =>
        obtain ⟨attempt, tried, attached, fits⟩ := exec_attach_and_submit client handler draft versionId state
        refine ⟨some draft, trace ++ tried, only, ?_⟩
        dsimp only
        rw [exec_bind, exec_attempt, attached]
        simp only [Option.map_some, Run.and_then_ok, Run.prepend_prepend]
        rcases attempt with failure | value
        · exact .inr ⟨fun accepted => (by cases fits.mpr accepted), rfl⟩
        · exact .inl ⟨fits.mp rfl, by simp [Run.prepend]⟩

theorem submit_for_review_ok (quiet : ReadOnlyGets handler) (appId versionId : String) (platform : Option String) (state : S) :
    (exec handler (client.submitForReview appId versionId platform) state).outcome = some (.ok ()) ↔
      ∃ found, ReuseFound client handler state appId platform found ∧
        match found with
        | none => (exec handler (client.createAndSubmit appId versionId platform) state).outcome = some (.ok ())
        | some draft => AttachAccepted client handler state draft versionId ∨
            (exec handler (client.createAndSubmit appId versionId platform)
              (attemptLeaves client handler state draft versionId)).outcome = some (.ok ()) := by
  rcases exec_submit_for_review client handler quiet appId versionId platform state with
    ⟨error, trace, ran, unread⟩ | ⟨found, trace, only, goes⟩
  · rw [ran]
    refine ⟨nofun, ?_⟩
    intro submitted
    obtain ⟨found, reuse, _⟩ := submitted
    exact absurd reuse (unread found)
  · simp only [only, exists_eq_left]
    cases found with
    | none => rw [goes, Run.prepend_outcome]
    | some draft =>
        rcases goes with ⟨accepted, ran⟩ | ⟨refused, ran⟩
        · simp [ran, accepted]
        · simp [ran, refused]

-- Where the plain flow succeeds, submit_for_review does exactly when the reads of
-- its search are answered and, if they find a draft that does not take the version,
-- the plain flow still succeeds from the state the attempt leaves.
theorem submit_for_review_never_worse_iff (quiet : ReadOnlyGets handler) (appId versionId : String)
    (platform : Option String) (state : S) :
    ((exec handler (client.createAndSubmit appId versionId platform) state).outcome = some (.ok ()) →
        (exec handler (client.submitForReview appId versionId platform) state).outcome = some (.ok ())) ↔
      ((exec handler (client.createAndSubmit appId versionId platform) state).outcome = some (.ok ()) →
        ∃ found, ReuseFound client handler state appId platform found ∧
          ∀ draft, found = some draft → AttachAccepted client handler state draft versionId ∨
            (exec handler (client.createAndSubmit appId versionId platform)
              (attemptLeaves client handler state draft versionId)).outcome = some (.ok ())) := by
  apply imp_congr_right
  intro plain
  rw [submit_for_review_ok client handler quiet]
  constructor
  · intro submitted
    obtain ⟨found, reuse, ended⟩ := submitted
    refine ⟨found, reuse, ?_⟩
    rintro draft rfl
    exact ended
  · intro submitted
    obtain ⟨found, reuse, ended⟩ := submitted
    refine ⟨found, reuse, ?_⟩
    cases found with
    | none => exact plain
    | some draft => exact ended draft rfl

def createdJson : Json := .obj [("data", .obj [("type", .str "reviewSubmissions"), ("id", .str "S9")])]

def createClient : AppStoreClient := ⟨"https://host", .reading [createdJson]⟩

def listingDown : Handler Answer Unit := replying
  [((.get, createClient.readyDraftsUrl "A" none), (500, "unavailable")),
    ((.post, createClient.reviewSubmissionsUrl), (201, createdJson.compact)),
    ((.post, createClient.reviewSubmissionItemsUrl), (201, "")),
    ((.patch, createClient.reviewSubmissionUrl "S9"), (200, ""))]

theorem listing_down_read_only : ReadOnlyGets listingDown := ⟨fun _ => rfl, fun _ _ _ => rfl⟩

set_option maxRecDepth 20000 in
theorem submit_for_review_worse_when_listing_down :
    ReadOnlyGets listingDown ∧
      ¬ ((exec listingDown (createClient.createAndSubmit "A" "V" none) ()).outcome = some (.ok ()) →
        (exec listingDown (createClient.submitForReview "A" "V" none) ()).outcome = some (.ok ())) := by
  refine ⟨listing_down_read_only, ?_⟩
  intro never
  have plain : (exec listingDown (createClient.createAndSubmit "A" "V" none) ()).outcome = some (.ok ()) := rfl
  have failed : (exec listingDown (createClient.submitForReview "A" "V" none) ()).outcome =
      some (.error (.http 500 "unavailable")) := rfl
  cases failed.symm.trans (never plain)

set_option maxRecDepth 20000 in
theorem listing_down_never_worse_iff :
    ((exec listingDown (createClient.createAndSubmit "A" "V" none) ()).outcome = some (.ok ()) →
        (exec listingDown (createClient.submitForReview "A" "V" none) ()).outcome = some (.ok ())) ↔
      ((exec listingDown (createClient.createAndSubmit "A" "V" none) ()).outcome = some (.ok ()) →
        ∃ found, ReuseFound createClient listingDown () "A" none found ∧
          ∀ draft, found = some draft → AttachAccepted createClient listingDown () draft "V" ∨
            (exec listingDown (createClient.createAndSubmit "A" "V" none)
              (attemptLeaves createClient listingDown () draft "V")).outcome = some (.ok ())) :=
  submit_for_review_never_worse_iff createClient listingDown listing_down_read_only "A" "V" none ()

end StackConnect
