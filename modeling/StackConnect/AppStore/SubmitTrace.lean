import StackConnect.AppStore.CancelSubmission
import StackConnect.AppStore.Submit

set_option autoImplicit false

namespace StackConnect

open Interaction Serde

variable (client : AppStoreClient)

def ListingRead (appId : String) (platform : Option String) (trace : Trace)
    (result : Except StackError ReviewSubmissionsResponse) : Prop :=
  ∃ raw, Called (.get (ReviewRequest.draftsUrl client.baseUrl appId platform)) trace raw ∧
    result = raw >>= accepted >>= client.parseReviewSubmissions

inductive DraftsSearched : List ReviewSubmissionResource → Trace → Except StackError (Option String) → Prop
  | exhausted : DraftsSearched [] [] (.ok none)
  | unread (draft : ReviewSubmissionResource) (rest : List ReviewSubmissionResource) (trace : Trace) (error : StackError)
      (failed : PageRead client (ReviewRequest.itemsUrl client.baseUrl draft.id) trace (.error error)) :
      DraftsSearched (draft :: rest) trace (.error error)
  | empty (draft : ReviewSubmissionResource) (rest : List ReviewSubmissionResource) (trace : Trace)
      (page : ReviewSubmissionItemsResponse) (read : PageRead client (ReviewRequest.itemsUrl client.baseUrl draft.id) trace (.ok page))
      (nothing : page.data = []) : DraftsSearched (draft :: rest) trace (.ok (some draft.id))
  | filled (draft : ReviewSubmissionResource) (rest : List ReviewSubmissionResource) (first later : Trace)
      (page : ReviewSubmissionItemsResponse) (result : Except StackError (Option String))
      (read : PageRead client (ReviewRequest.itemsUrl client.baseUrl draft.id) first (.ok page)) (something : page.data ≠ [])
      (others : DraftsSearched rest later result) : DraftsSearched (draft :: rest) (first ++ later) result

inductive Searched (appId : String) (platform : Option String) : Trace → Except StackError (Option String) → Prop
  | unlisted (trace : Trace) (error : StackError) (failed : ListingRead client appId platform trace (.error error)) :
      Searched appId platform trace (.error error)
  | listed (first later : Trace) (page : ReviewSubmissionsResponse) (result : Except StackError (Option String))
      (listing : ListingRead client appId platform first (.ok page))
      (searched : DraftsSearched client page.data later result) : Searched appId platform (first ++ later) result

-- attach_and_submit: one item POST and, only after a 2xx, one submitted:true PATCH.
inductive Attached (id versionId : String) : Trace → Except StackError Unit → Prop
  | refused (trace : Trace) (raw : Except StackError (Nat × String)) (error : StackError)
      (call : Called (ReviewRequest.linking client.baseUrl id versionId) trace raw)
      (failed : raw >>= accepted = .error error) : Attached id versionId trace (.error error)
  | linked (first second : Trace) (response : Nat × String) (raw : Except StackError (Nat × String))
      (call : Called (ReviewRequest.linking client.baseUrl id versionId) first (.ok response))
      (success : isSuccess response.1 = true)
      (patched : Called (ReviewRequest.submitting client.baseUrl id) second raw) :
      Attached id versionId (first ++ second) (raw >>= accepted >>= fun _ => .ok ())

def CreateAnswered (appId : String) (platform : Option String) (trace : Trace)
    (result : Except StackError ReviewSubmissionCreateDocument) : Prop :=
  ∃ raw, Called (ReviewRequest.creating client.baseUrl appId platform) trace raw ∧
    result = raw >>= accepted >>= client.parseCreatedSubmission

inductive Created (appId versionId : String) (platform : Option String) : Trace → Except StackError Unit → Prop
  | refused (trace : Trace) (error : StackError) (failed : CreateAnswered client appId platform trace (.error error)) :
      Created appId versionId platform trace (.error error)
  | created (first later : Trace) (document : ReviewSubmissionCreateDocument) (result : Except StackError Unit)
      (answered : CreateAnswered client appId platform first (.ok document))
      (attached : Attached client document.data.id versionId later result) :
      Created appId versionId platform (first ++ later) result

inductive Submitted (appId versionId : String) (platform : Option String) :
    Except StackError (Option String) → Trace → Except StackError Unit → Prop
  | unsearched (error : StackError) : Submitted appId versionId platform (.error error) [] (.error error)
  | reused (draft : String) (trace : Trace) (attached : Attached client draft versionId trace (.ok ())) :
      Submitted appId versionId platform (.ok (some draft)) trace (.ok ())
  | replaced (draft : String) (attempt later : Trace) (error : StackError) (result : Except StackError Unit)
      (spoiled : Attached client draft versionId attempt (.error error))
      (created : Created client appId versionId platform later result) :
      Submitted appId versionId platform (.ok (some draft)) (attempt ++ later) result
  | fresh (trace : Trace) (result : Except StackError Unit) (created : Created client appId versionId platform trace result) :
      Submitted appId versionId platform (.ok none) trace result

theorem ends_search_drafts (drafts : List ReviewSubmissionResource) :
    Ends (client.firstEmptyDraft drafts) (DraftsSearched client drafts) := by
  induction drafts with
  | nil => exact ends_done _ .exhausted
  | cons draft rest ih =>
      rw [AppStoreClient.firstEmptyDraft, AppStoreClient.submissionIsEmpty, Prog.bind_assoc]
      apply ends_bind (ends_fetch_items client _)
      · intro trace error failed
        exact .unread draft rest trace error failed
      · intro first page read
        rw [Prog.pure_eq, Prog.bind_ok]
        by_cases nothing : page.data = []
        · rw [nothing]
          apply ends_done
          rw [List.append_nil]
          exact .empty draft rest first page read nothing
        · have filled : page.data.isEmpty = false := by simpa using nothing
          rw [filled]
          apply ends_mono ih
          intro later result searched
          exact .filled draft rest first later page result read nothing searched

theorem ends_search (appId : String) (platform : Option String) :
    Ends (client.findReusableEmptyDraft appId platform) (Searched client appId platform) := by
  have listing : Ends (getPage (ReviewRequest.draftsUrl client.baseUrl appId platform) >>= fun body =>
      (.done (client.parseReviewSubmissions body) : Async ReviewSubmissionsResponse)) (ListingRead client appId platform) :=
    ends_exchange_judged _ client.parseReviewSubmissions
  have parts : client.findReusableEmptyDraft appId platform =
      (getPage (ReviewRequest.draftsUrl client.baseUrl appId platform) >>= fun body =>
        (.done (client.parseReviewSubmissions body) : Async ReviewSubmissionsResponse)) >>=
      fun page => client.firstEmptyDraft page.data := by
    rw [Prog.bind_assoc, ← ready_drafts_spelled]
    rfl
  rw [parts]
  apply ends_bind listing
  · intro trace error failed
    exact .unlisted trace error failed
  · intro first page listed
    apply ends_mono (ends_search_drafts client page.data)
    intro later result searched
    exact .listed first later page result listed searched

theorem ends_attach (id versionId : String) : Ends (client.attachAndSubmit id versionId) (Attached client id versionId) := by
  rw [AppStoreClient.attachAndSubmit, postJson2xx, token_then_patch]
  apply ends_bind (ends_exchange _)
  · intro trace error answered
    obtain ⟨raw, call, failed⟩ := answered
    exact .refused trace raw error call failed.symm
  · intro first body answered
    obtain ⟨raw, call, same⟩ := answered
    obtain ⟨response, rfl, success⟩ := except_bind_ok raw accepted body same.symm
    apply ends_mono (ends_exchange_judged _ fun _ => .ok ())
    intro second result patched
    obtain ⟨reply, sent, rfl⟩ := patched
    exact .linked first second response reply call ((accepted_ok _ _).mp success).1 sent

theorem ends_create (appId versionId : String) (platform : Option String) :
    Ends (client.createAndSubmit appId versionId platform) (Created client appId versionId platform) := by
  have answer : Ends (postJson2xx client.reviewSubmissionsUrl (AppStoreClient.createSubmissionBody appId platform) >>= fun body =>
      (.done (client.parseCreatedSubmission body) : Async ReviewSubmissionCreateDocument))
      (CreateAnswered client appId platform) := by
    rw [postJson2xx, create_spelled]
    exact ends_exchange_judged _ client.parseCreatedSubmission
  have parts : client.createAndSubmit appId versionId platform =
      (postJson2xx client.reviewSubmissionsUrl (AppStoreClient.createSubmissionBody appId platform) >>= fun body =>
        (.done (client.parseCreatedSubmission body) : Async ReviewSubmissionCreateDocument)) >>=
      fun document => client.attachAndSubmit document.data.id versionId := by
    rw [Prog.bind_assoc]
    rfl
  rw [parts]
  apply ends_bind answer
  · intro trace error failed
    exact .refused trace error failed
  · intro first document answered
    apply ends_mono (ends_attach client document.data.id versionId)
    intro later result attached
    exact .created first later document result answered attached

def SubmitParts (appId versionId : String) (platform : Option String) (trace : Trace) (result : Except StackError Unit) : Prop :=
  ∃ search found later, trace = search ++ later ∧ Searched client appId platform search found ∧
    Submitted client appId versionId platform found later result

theorem ends_submit (appId versionId : String) (platform : Option String) :
    Ends (client.submitForReview appId versionId platform) (SubmitParts client appId versionId platform) := by
  rw [AppStoreClient.submitForReview]
  apply ends_bind (ends_search client appId platform)
  · intro search error searched
    exact ⟨search, .error error, [], (List.append_nil search).symm, searched, .unsearched error⟩
  · intro search found searched
    have parts : ∀ later result, Submitted client appId versionId platform (.ok found) later result →
        SubmitParts client appId versionId platform (search ++ later) result :=
      fun later result submitted => ⟨search, .ok found, later, rfl, searched, submitted⟩
    cases found with
    | none =>
        apply ends_mono (ends_create client appId versionId platform)
        intro later result created
        exact parts later result (.fresh later result created)
    | some draft =>
        apply ends_bind (ends_attempt (ends_attach client draft versionId))
        · intro attempt error caught
          obtain ⟨_, _, impossible⟩ := caught
          cases impossible
        · intro attempt tried caught
          obtain ⟨_, attached, same⟩ := caught
          cases same
          cases tried with
          | ok value =>
              apply ends_done
              rw [List.append_nil]
              exact parts attempt (.ok ()) (.reused draft attempt attached)
          | error failure =>
              apply ends_mono (ends_create client appId versionId platform)
              intro later result created
              exact parts (attempt ++ later) result (.replaced draft attempt later failure result attached created)

def createPosts (trace : Trace) : Nat :=
  (exchanges trace).countP fun sent => decide (sent.1.method = .post ∧ sent.1.url = client.baseUrl ++ "/v1/reviewSubmissions")

def acceptedPatches (trace : Trace) : Nat :=
  (exchanges trace).countP fun sent => decide (sent.1.method = .patch) && (match sent.2 with
    | .ok response => isSuccess response.1
    | .error _ => false)

theorem create_posts_append (first second : Trace) :
    createPosts client (first ++ second) = createPosts client first + createPosts client second := by
  rw [createPosts, exchanges_append, List.countP_append]
  rfl

theorem accepted_patches_append (first second : Trace) :
    acceptedPatches (first ++ second) = acceptedPatches first + acceptedPatches second := by
  rw [acceptedPatches, exchanges_append, List.countP_append]
  rfl

theorem item_url_apart : client.reviewSubmissionItemsUrl ≠ client.reviewSubmissionsUrl := by
  intro same
  have lengths := congrArg String.length same
  simp [AppStoreClient.reviewSubmissionItemsUrl, AppStoreClient.reviewSubmissionsUrl, String.length_append] at lengths
  revert lengths
  decide

theorem called_create_posts (request : Request) (trace : Trace) (raw : Except StackError (Nat × String))
    (call : Called request trace raw) :
    createPosts client trace ≤ (if request.method = .post ∧ request.url = client.baseUrl ++ "/v1/reviewSubmissions" then 1 else 0) ∧
      (AllSigned trace → createPosts client trace =
        if request.method = .post ∧ request.url = client.baseUrl ++ "/v1/reviewSubmissions" then 1 else 0) := by
  cases call with
  | unsigned message =>
      refine ⟨Nat.zero_le _, ?_⟩
      intro signed
      exact absurd List.mem_cons_self (signed message)
  | broken token message =>
      have counted : createPosts client [⟨.bearerToken, .ok token⟩, ⟨.send (request.bearerAuth token), .error message⟩] =
          if request.method = .post ∧ request.url = client.baseUrl ++ "/v1/reviewSubmissions" then 1 else 0 := by
        simp [createPosts, exchanges, List.countP_cons, Request.bearerAuth]
      exact ⟨counted.le, fun _ => counted⟩
  | answered token response =>
      have counted : createPosts client [⟨.bearerToken, .ok token⟩, ⟨.send (request.bearerAuth token), .ok response⟩] =
          if request.method = .post ∧ request.url = client.baseUrl ++ "/v1/reviewSubmissions" then 1 else 0 := by
        simp [createPosts, exchanges, List.countP_cons, Request.bearerAuth]
      exact ⟨counted.le, fun _ => counted⟩

theorem called_accepted_patches (request : Request) (trace : Trace) (raw : Except StackError (Nat × String))
    (call : Called request trace raw) :
    acceptedPatches trace ≤ 1 ∧
      (acceptedPatches trace = 1 ↔ request.method = .patch ∧ ∃ body, raw >>= accepted = .ok body) := by
  cases call with
  | unsigned message =>
      refine ⟨Nat.zero_le 1, ?_⟩
      constructor
      · intro one
        cases one
      · intro both
        obtain ⟨_, body, impossible⟩ := both
        cases impossible
  | broken token message =>
      have counted : acceptedPatches [⟨.bearerToken, .ok token⟩, ⟨.send (request.bearerAuth token), .error message⟩] = 0 := by
        simp [acceptedPatches, exchanges]
      rw [counted]
      refine ⟨Nat.zero_le 1, ?_⟩
      constructor
      · intro one
        cases one
      · intro both
        obtain ⟨_, body, impossible⟩ := both
        cases impossible
  | answered token response =>
      have counted : acceptedPatches [⟨.bearerToken, .ok token⟩, ⟨.send (request.bearerAuth token), .ok response⟩] =
          if request.method = .patch ∧ isSuccess response.1 = true then 1 else 0 := by
        simp [acceptedPatches, exchanges, List.countP_cons, Request.bearerAuth]
      have passes : isSuccess response.1 = true ↔ ∃ body, accepted response = .ok body := by
        constructor
        · intro success
          exact ⟨response.2, (accepted_ok _ _).mpr ⟨success, rfl⟩⟩
        · intro success
          obtain ⟨body, passed⟩ := success
          exact ((accepted_ok _ _).mp passed).1
      rw [counted]
      change _ ∧ (_ ↔ request.method = .patch ∧ ∃ body, accepted response = .ok body)
      rw [← passes]
      by_cases both : request.method = .patch ∧ isSuccess response.1 = true
      · rw [if_pos both]
        exact ⟨Nat.le_refl 1, fun _ => both, fun _ => rfl⟩
      · rw [if_neg both]
        refine ⟨Nat.zero_le 1, ?_, fun accepts => absurd accepts both⟩
        intro one
        cases one

theorem called_no_patch (request : Request) (trace : Trace) (raw : Except StackError (Nat × String))
    (call : Called request trace raw) (other : request.method ≠ .patch) : acceptedPatches trace = 0 := by
  obtain ⟨atMost, one⟩ := called_accepted_patches request trace raw call
  have not : acceptedPatches trace ≠ 1 := fun same => other (one.mp same).1
  omega

theorem read_counts (url : String) (trace : Trace) (raw : Except StackError (Nat × String))
    (call : Called (.get url) trace raw) : createPosts client trace = 0 ∧ acceptedPatches trace = 0 := by
  have creates := (called_create_posts client (.get url) trace raw call).1
  rw [if_neg (by simp [Request.get, Request.plain])] at creates
  exact ⟨by omega, called_no_patch (.get url) trace raw call (by simp [Request.get, Request.plain])⟩

theorem drafts_searched_counts (drafts : List ReviewSubmissionResource) (trace : Trace)
    (result : Except StackError (Option String)) (searched : DraftsSearched client drafts trace result) :
    createPosts client trace = 0 ∧ acceptedPatches trace = 0 := by
  induction searched with
  | exhausted => exact ⟨rfl, rfl⟩
  | unread draft rest trace error failed =>
      obtain ⟨raw, call, _⟩ := failed
      exact read_counts client _ trace raw call
  | empty draft rest trace page read nothing =>
      obtain ⟨raw, call, _⟩ := read
      exact read_counts client _ trace raw call
  | filled draft rest first later page result read something others ih =>
      obtain ⟨raw, call, _⟩ := read
      obtain ⟨creates, patches⟩ := read_counts client _ first raw call
      rw [create_posts_append, accepted_patches_append]
      exact ⟨by omega, by omega⟩

theorem searched_counts (appId : String) (platform : Option String) (trace : Trace)
    (result : Except StackError (Option String)) (searched : Searched client appId platform trace result) :
    createPosts client trace = 0 ∧ acceptedPatches trace = 0 := by
  cases searched with
  | unlisted _ error failed =>
      obtain ⟨raw, call, _⟩ := failed
      exact read_counts client _ trace raw call
  | listed first later page _ listing others =>
      obtain ⟨raw, call, _⟩ := listing
      obtain ⟨creates, patches⟩ := read_counts client _ first raw call
      obtain ⟨createsAfter, patchesAfter⟩ := drafts_searched_counts client page.data later result others
      rw [create_posts_append, accepted_patches_append]
      exact ⟨by omega, by omega⟩

theorem attached_counts (id versionId : String) (trace : Trace) (result : Except StackError Unit)
    (attached : Attached client id versionId trace result) :
    createPosts client trace = 0 ∧ acceptedPatches trace ≤ 1 ∧ (acceptedPatches trace = 1 ↔ result = .ok ()) := by
  have postCounts : ∀ first raw, Called (ReviewRequest.linking client.baseUrl id versionId) first raw →
      createPosts client first = 0 ∧ acceptedPatches first = 0 := by
    intro first raw call
    have creates := (called_create_posts client _ first raw call).1
    rw [if_neg fun both => item_url_apart client both.2] at creates
    exact ⟨by omega, called_no_patch _ first raw call (by simp)⟩
  cases attached with
  | refused _ raw error call failed =>
      obtain ⟨creates, patches⟩ := postCounts trace raw call
      exact ⟨creates, by omega, by simp [patches]⟩
  | linked first second response raw call success patched =>
      obtain ⟨creates, patches⟩ := postCounts first _ call
      have createsAfter := (called_create_posts client _ second raw patched).1
      rw [if_neg (by simp)] at createsAfter
      obtain ⟨atMost, one⟩ := called_accepted_patches _ second raw patched
      rw [create_posts_append, accepted_patches_append, patches, Nat.zero_add]
      refine ⟨by omega, atMost, one.trans ?_⟩
      rcases raw >>= accepted with error | body
      · simp [bind, Except.bind]
      · simp [bind, Except.bind]

theorem create_answered_counts (appId : String) (platform : Option String) (trace : Trace)
    (result : Except StackError ReviewSubmissionCreateDocument)
    (answered : CreateAnswered client appId platform trace result) :
    createPosts client trace ≤ 1 ∧ (AllSigned trace → createPosts client trace = 1) ∧ acceptedPatches trace = 0 := by
  obtain ⟨raw, call, _⟩ := answered
  obtain ⟨atMost, exact_⟩ := called_create_posts client _ trace raw call
  have patches := called_no_patch _ trace raw call (by simp)
  rw [if_pos ⟨rfl, rfl⟩] at atMost exact_
  exact ⟨atMost, exact_, patches⟩

theorem created_counts (appId versionId : String) (platform : Option String) (trace : Trace)
    (result : Except StackError Unit) (created : Created client appId versionId platform trace result) :
    createPosts client trace ≤ 1 ∧ (AllSigned trace → createPosts client trace = 1) ∧ acceptedPatches trace ≤ 1 ∧
      (acceptedPatches trace = 1 ↔ result = .ok ()) := by
  cases created with
  | refused _ error failed =>
      obtain ⟨atMost, signed, patches⟩ := create_answered_counts client appId platform trace _ failed
      exact ⟨atMost, signed, by omega, by simp [patches]⟩
  | created first later document _ answered attached =>
      obtain ⟨atMost, signed, patches⟩ := create_answered_counts client appId platform first _ answered
      obtain ⟨createsAfter, patchesAfter, accepts⟩ := attached_counts client _ versionId later result attached
      rw [create_posts_append, accepted_patches_append, patches, Nat.zero_add]
      refine ⟨by omega, ?_, patchesAfter, accepts⟩
      intro all
      have here := signed fun message inside => all message (List.mem_append_left later inside)
      omega

def PatchAfterPost (versionId : String) (past : Trace) (query : Query) : Prop :=
  ∀ request, query = .send request → request.method = .patch →
    ∃ id token signed earlier response,
      request = (ReviewRequest.submitting client.baseUrl id).bearerAuth token ∧
      exchanges past = earlier ++ [((ReviewRequest.linking client.baseUrl id versionId).bearerAuth signed, .ok response)] ∧
      isSuccess response.1 = true

theorem signing_after_post (versionId : String) (past : Trace) : PatchAfterPost client versionId past .bearerToken := by
  intro request same
  cases same

theorem sending_after_post (versionId : String) (past : Trace) (request : Request) (other : request.method ≠ .patch) :
    PatchAfterPost client versionId past (.send request) := by
  intro sent same patch
  cases same
  exact absurd patch other

theorem within_exchange_after_post (versionId : String) (request : Request) (other : request.method ≠ .patch) :
    Within (PatchAfterPost client versionId) (exchange request) := by
  intro past
  refine wp_exchange _ request _ past (signing_after_post client versionId past) ?_ fun _ _ _ => trivial
  intro token
  exact sending_after_post client versionId _ _ other

theorem within_page_after_post (versionId url : String) : Within (PatchAfterPost client versionId) (getPage url) :=
  within_exchange_after_post client versionId _ (by simp [Request.get, Request.plain])

theorem within_search_after_post (versionId appId : String) (platform : Option String) :
    Within (PatchAfterPost client versionId) (client.findReusableEmptyDraft appId platform) := by
  have drafts : ∀ listed, Within (PatchAfterPost client versionId) (client.firstEmptyDraft listed) := by
    intro listed
    induction listed with
    | nil => exact within_done _ _
    | cons draft rest ih =>
        rw [AppStoreClient.firstEmptyDraft, AppStoreClient.submissionIsEmpty, AppStoreClient.fetchSubmissionItemsPage]
        refine within_bind _ _ _ (within_bind _ _ _ (within_bind _ _ _ (within_page_after_post client versionId _)
          fun _ => within_done _ _) fun _ => within_done _ _) ?_
        intro empty
        cases empty with
        | true => exact within_done _ _
        | false => exact ih
  rw [AppStoreClient.findReusableEmptyDraft]
  apply within_bind _ _ _ (within_page_after_post client versionId _)
  intro body
  exact within_bind _ _ _ (within_done _ _) fun page => drafts page.data

theorem within_attach_after_post (id versionId : String) :
    Within (PatchAfterPost client versionId) (client.attachAndSubmit id versionId) := by
  intro past
  rw [AppStoreClient.attachAndSubmit, postJson2xx, token_then_patch, wp_bind]
  apply wp_exchange _ _ _ past (signing_after_post client versionId past)
  · intro token
    exact sending_after_post client versionId _ _ (by simp [Request.bearerAuth, Request.post, Request.plain, Request.withJson])
  · intro trace raw call
    rcases judged : raw >>= accepted with error | body
    · trivial
    · obtain ⟨response, rfl, success⟩ := except_bind_ok raw accepted body judged
      cases call with
      | answered signed =>
          rw [when_ok_ok, wp_bind]
          apply wp_exchange _ _ _ _ (signing_after_post client versionId _)
          · intro token request same patch
            cases same
            refine ⟨id, token, signed, exchanges past, response, rfl, ?_, ((accepted_ok _ _).mp success).1⟩
            rw [exchanges_append, exchanges_append, show exchanges [⟨.bearerToken, .ok token⟩] = [] from rfl, List.append_nil]
            rfl
          · intro later reply patched
            cases reply >>= accepted <;> trivial

theorem within_submit_after_post (appId versionId : String) (platform : Option String) :
    Within (PatchAfterPost client versionId) (client.submitForReview appId versionId platform) := by
  have creates : Within (PatchAfterPost client versionId) (client.createAndSubmit appId versionId platform) := by
    rw [AppStoreClient.createAndSubmit, postJson2xx]
    refine within_bind _ _ _ (within_exchange_after_post client versionId _
      (by simp [Request.post, Request.plain, Request.withJson])) ?_
    intro body
    exact within_bind _ _ _ (within_done _ _) fun document => within_attach_after_post client document.data.id versionId
  rw [AppStoreClient.submitForReview]
  apply within_bind _ _ _ (within_search_after_post client versionId appId platform)
  intro found
  cases found with
  | none => exact creates
  | some draft =>
      apply within_bind _ _ _ (within_attempt _ _ (within_attach_after_post client draft versionId))
      intro result
      cases result with
      | ok value => exact within_done _ _
      | error failure => exact creates

theorem submitted_counts (appId versionId : String) (platform : Option String) (found : Except StackError (Option String))
    (trace : Trace) (result : Except StackError Unit)
    (submitted : Submitted client appId versionId platform found trace result) :
    createPosts client trace ≤ 1 ∧ acceptedPatches trace ≤ 1 ∧ (acceptedPatches trace = 1 ↔ result = .ok ()) ∧
      (AllSigned trace → (∃ error, found = .error error) ∨ createPosts client trace = 1 ∨
        ∃ draft, found = .ok (some draft) ∧ Attached client draft versionId trace (.ok ()) ∧ createPosts client trace = 0) := by
  cases submitted with
  | unsearched error =>
      refine ⟨Nat.zero_le 1, Nat.zero_le 1, ?_, fun _ => .inl ⟨error, rfl⟩⟩
      constructor <;> intro impossible <;> cases impossible
  | reused draft _ attached =>
      obtain ⟨creates, patches, accepts⟩ := attached_counts client draft versionId trace _ attached
      exact ⟨by omega, patches, accepts, fun _ => .inr (.inr ⟨draft, rfl, attached, creates⟩)⟩
  | replaced draft attempt later error _ spoiled created =>
      obtain ⟨creates, atMostOne, accepts⟩ := attached_counts client draft versionId attempt _ spoiled
      obtain ⟨atMost, signed, patches, others⟩ := created_counts client appId versionId platform later result created
      have none : acceptedPatches attempt ≠ 1 := by
        intro one
        cases accepts.mp one
      have unaccepted : acceptedPatches attempt = 0 := by omega
      rw [create_posts_append, accepted_patches_append, unaccepted, creates, Nat.zero_add, Nat.zero_add]
      refine ⟨atMost, patches, others, ?_⟩
      intro all
      exact .inr (.inl (signed fun message inside => all message (List.mem_append_right attempt inside)))
  | fresh _ _ created =>
      obtain ⟨atMost, signed, patches, accepts⟩ := created_counts client appId versionId platform trace result created
      exact ⟨atMost, patches, accepts, fun all => .inr (.inl (signed all))⟩

def SubmitRun (appId versionId : String) (platform : Option String) (trace : Trace)
    (outcome : Option (Except StackError Unit)) : Prop :=
  ∃ search found later result, trace = search ++ later ∧ outcome = some result ∧
    Searched client appId platform search found ∧ Submitted client appId versionId platform found later result ∧
    createPosts client trace ≤ 1 ∧ acceptedPatches trace ≤ 1 ∧ (acceptedPatches trace = 1 ↔ result = .ok ()) ∧
    (AllSigned trace → (∃ error, found = .error error) ∨ createPosts client trace = 1 ∨
      ∃ draft, found = .ok (some draft) ∧ Attached client draft versionId later (.ok ()) ∧ createPosts client trace = 0) ∧
    ∀ before event after, trace = before ++ event :: after → PatchAfterPost client versionId before event.1

theorem submit_for_review_runs (appId versionId : String) (platform : Option String) (trace : Trace)
    (outcome : Option (Except StackError Unit)) (run : Runs (client.submitForReview appId versionId platform) trace outcome) :
    SubmitRun client appId versionId platform trace outcome := by
  obtain ⟨result, parts, rfl⟩ := (ends_submit client appId versionId platform).runs trace outcome run
  obtain ⟨search, found, later, rfl, searched, submitted⟩ := parts
  obtain ⟨searchCreates, searchPatches⟩ := searched_counts client appId platform search found searched
  obtain ⟨creates, patches, accepts, signed⟩ := submitted_counts client appId versionId platform found later result submitted
  rw [SubmitRun]
  refine ⟨search, found, later, result, rfl, rfl, searched, submitted, ?_⟩
  rw [create_posts_append, accepted_patches_append, searchCreates, searchPatches, Nat.zero_add, Nat.zero_add]
  refine ⟨creates, patches, accepts, ?_, ?_⟩
  · intro all
    exact signed fun message inside => all message (List.mem_append_right search inside)
  · intro before event after split
    exact within_sound _ _ (within_submit_after_post client appId versionId platform) _ _ run before after event split

-- The draft takes the version but not the PATCH, so a new submission is made.
def readyListing : Json := .obj [("data", .arr [submissionJson "S1" "READY_FOR_REVIEW"])]

def readyClient : AppStoreClient := ⟨"https://host", .reading [readyListing, noItems, createdJson]⟩

def staleReadyDraft : Handler Answer Unit := replying
  [((.get, readyClient.readyDraftsUrl "A" none), (200, readyListing.compact)),
    ((.get, readyClient.submissionItemsUrl "S1"), (200, noItems.compact)),
    ((.post, readyClient.reviewSubmissionItemsUrl), (201, "")),
    ((.patch, readyClient.reviewSubmissionUrl "S1"), (409, "stale")),
    ((.post, readyClient.reviewSubmissionsUrl), (201, createdJson.compact)),
    ((.patch, readyClient.reviewSubmissionUrl "S9"), (200, ""))]

set_option maxRecDepth 20000 in
theorem stale_draft_replaced :
    SubmitRun readyClient "A" "V" none (exec staleReadyDraft (readyClient.submitForReview "A" "V" none) ()).trace
        (exec staleReadyDraft (readyClient.submitForReview "A" "V" none) ()).outcome ∧
      (exec staleReadyDraft (readyClient.submitForReview "A" "V" none) ()).outcome = some (.ok ()) ∧
      (exchanges (exec staleReadyDraft (readyClient.submitForReview "A" "V" none) ()).trace).length = 7 :=
  ⟨submit_for_review_runs readyClient "A" "V" none _ _ (exec_runs staleReadyDraft _ ()), rfl, rfl⟩

end StackConnect
