import Mathlib.Logic.Function.Basic
import StackConnect.AppStore.Submit

set_option autoImplicit false

namespace StackConnect

open Interaction Serde

structure Submission where
  state : String
  items : List String

abbrev Store := String → Option Submission

def submittedState : String := "WAITING_FOR_REVIEW"

structure Held where
  store : Store
  received : Nat

def attachment (body : Json) : Option (String × String) := do
  let submissionId ← body.at ["data", "relationships", "reviewSubmission", "data", "id"] >>= string
  let versionId ← body.at ["data", "relationships", "appStoreVersion", "data", "id"] >>= string
  pure (submissionId, versionId)

def submitted (body : Json) : Option String := do
  let flag ← body.at ["data", "attributes", "submitted"] >>= boolean
  let id ← body.at ["data", "id"] >>= string
  if flag then some id else none

-- A server of review submissions. Its GETs may answer anything, and it may refuse
-- any mutating request; a refusal is never 2xx. A created submission gets an id
-- that is free, and a creation answer that can be read names it.
structure SubmissionServer (client : AppStoreClient) where
  sign : Held → Except String String
  read : Held → Request → Except String (Nat × String)
  refuse : Held → Request → Option (Except String (Nat × String))
  refused : ∀ held request response, refuse held request = some (.ok response) → isSuccess response.1 = false
  fresh : Held → Option String
  free : ∀ held id, fresh held = some id → held.store id = none
  created : String → String
  named : ∀ id document, client.parseCreatedSubmission (created id) = .ok document → document.data.id = id

variable {client : AppStoreClient}

namespace SubmissionServer

variable (server : SubmissionServer client)

-- A mutating request that is not refused: 2xx when the store changes, 404 otherwise.
def accept (held : Held) (method : Method) (url : String) (body : Json) : (Nat × String) × Store :=
  match method with
  | .post =>
      if url = client.baseUrl ++ "/v1/reviewSubmissionItems" then
        match attachment body with
        | some (id, versionId) =>
            match held.store id with
            | some submission => ((201, ""), Function.update held.store id
                (some { submission with items := submission.items ++ [versionId] }))
            | none => ((404, ""), held.store)
        | none => ((404, ""), held.store)
      else if url = client.baseUrl ++ "/v1/reviewSubmissions" then
        match server.fresh held with
        | some id => ((201, server.created id), Function.update held.store id (some ⟨"READY_FOR_REVIEW", []⟩))
        | none => ((404, ""), held.store)
      else ((404, ""), held.store)
  | .patch =>
      match submitted body with
      | some id =>
          match held.store id with
          | some submission => ((200, ""), Function.update held.store id (some { submission with state := submittedState }))
          | none => ((404, ""), held.store)
      | none => ((404, ""), held.store)
  | _ => ((404, ""), held.store)

def respond (held : Held) (request : Request) : Except String (Nat × String) × Held :=
  match request.method with
  | .get => (server.read held request, held)
  | method =>
      match server.refuse held request, request.body with
      | some reply, _ => (reply, ⟨held.store, held.received + 1⟩)
      | none, .json body =>
          let answer := server.accept held method request.url body
          (.ok answer.1, ⟨answer.2, held.received + 1⟩)
      | none, _ => (.ok (404, ""), ⟨held.store, held.received + 1⟩)

def handler : Handler Answer Held where
  answer
    | .bearerToken, held => (server.sign held, held)
    | .send request, held => server.respond held request
    | .stream _, held => (.error "not streamed", held)

theorem read_only_gets : ReadOnlyGets server.handler := ⟨fun _ => rfl, fun _ _ _ => rfl⟩

theorem served_mutating (held : Held) (request : Request) (body : Json) (sends : request.body = .json body)
    (mutates : request.method ≠ .get) :
    (∃ left, served server.handler request held = (none, left) ∧ left.store = held.store) ∨
      served server.handler request held =
        (if isSuccess (server.accept held request.method request.url body).1.1 then
            some (server.accept held request.method request.url body).1.2 else none,
          ⟨(server.accept held request.method request.url body).2, held.received + 1⟩) := by
  obtain ⟨method, url, bearer, headers, content⟩ := request
  dsimp only at sends mutates
  subst sends
  rcases signing : server.sign held with message | token
  · exact .inl ⟨held, by simp [served, handler, signing], rfl⟩
  · rcases refusing : server.refuse held ⟨method, url, some token, headers, .json body⟩ with _ | reply
    · refine .inr ?_
      cases method with
      | get => exact absurd rfl mutates
      | _ => simp [served, handler, respond, signing, refusing, Request.bearerAuth]
    · refine .inl ⟨⟨held.store, held.received + 1⟩, ?_, rfl⟩
      have failed : ∀ response, reply = .ok response → isSuccess response.1 = false := by
        rintro response rfl
        exact server.refused held _ response refusing
      cases method with
      | get => exact absurd rfl mutates
      | _ =>
          rcases reply with message | response
          · simp [served, handler, respond, signing, refusing, Request.bearerAuth]
          · simp [served, handler, respond, signing, refusing, Request.bearerAuth, failed response rfl]

theorem item_posted_cases (held : Held) (id versionId : String) :
    (∃ left, itemPosted client server.handler id versionId held = (none, left) ∧ left.store = held.store) ∨
      ∃ submission body left, itemPosted client server.handler id versionId held = (some body, left) ∧
        held.store id = some submission ∧
        left.store = Function.update held.store id (some { submission with items := submission.items ++ [versionId] }) := by
  rcases server.served_mutating held (ReviewRequest.linking client.baseUrl id versionId) _ rfl nofun with refused | accepted
  · exact .inl refused
  · rw [itemPosted]
    rw [accepted]
    have reads : attachment (.obj [("data", .obj [("type", .str "reviewSubmissionItems"), ("relationships", .obj
        [("reviewSubmission", ReviewRequest.toOne "reviewSubmissions" id),
          ("appStoreVersion", ReviewRequest.toOne "appStoreVersions" versionId)])])]) = some (id, versionId) := rfl
    simp only [accept, ReviewRequest.linking, reads, if_true]
    rcases found : held.store id with _ | submission
    · exact .inl ⟨_, rfl, rfl⟩
    · exact .inr ⟨submission, "", _, rfl, rfl, rfl⟩

theorem submit_patched_cases (held : Held) (id : String) :
    (∃ left, submitPatched client server.handler id held = (none, left) ∧ left.store = held.store) ∨
      ∃ submission body left, submitPatched client server.handler id held = (some body, left) ∧
        held.store id = some submission ∧
        left.store = Function.update held.store id (some { submission with state := submittedState }) := by
  rcases server.served_mutating held (ReviewRequest.submitting client.baseUrl id) _ rfl nofun with refused | accepted
  · exact .inl refused
  · rw [submitPatched]
    rw [accepted]
    have reads : submitted (.obj [("data", .obj [("type", .str "reviewSubmissions"), ("id", .str id),
        ("attributes", .obj [("submitted", .bool true)])])]) = some id := rfl
    simp only [accept, ReviewRequest.submitting, ReviewRequest.flagging, reads]
    rcases found : held.store id with _ | submission
    · exact .inl ⟨_, rfl, rfl⟩
    · exact .inr ⟨submission, "", _, rfl, rfl, rfl⟩

theorem created_cases (held : Held) (appId : String) (platform : Option String) :
    (∃ left, served server.handler (.post client.reviewSubmissionsUrl (AppStoreClient.createSubmissionBody appId platform)) held =
        (none, left) ∧ left.store = held.store) ∨
      ∃ id left, served server.handler
          (.post client.reviewSubmissionsUrl (AppStoreClient.createSubmissionBody appId platform)) held =
          (some (server.created id), left) ∧ held.store id = none ∧
        left.store = Function.update held.store id (some ⟨"READY_FOR_REVIEW", []⟩) := by
  have other : client.baseUrl ++ "/v1/reviewSubmissions" ≠ client.baseUrl ++ "/v1/reviewSubmissionItems" := by
    intro same
    have texts := congrArg String.toList same
    simp at texts
  rcases server.served_mutating held
    (.post client.reviewSubmissionsUrl (AppStoreClient.createSubmissionBody appId platform)) _ rfl nofun with refused | accepted
  · exact .inl refused
  · rw [accepted]
    simp only [accept, Request.post, Request.plain, Request.withJson, AppStoreClient.reviewSubmissionsUrl, if_neg other, if_true]
    rcases found : server.fresh held with _ | id
    · exact .inl ⟨_, rfl, rfl⟩
    · exact .inr ⟨id, _, rfl, server.free held id found, rfl⟩

theorem attempt_stores (held : Held) (id versionId : String) :
    (AttachAccepted client server.handler held id versionId ∧ ∃ submission, held.store id = some submission ∧
        (attemptLeaves client server.handler held id versionId).store =
          Function.update held.store id (some ⟨submittedState, submission.items ++ [versionId]⟩)) ∨
      ((itemPosted client server.handler id versionId held).1 ≠ none ∧
        (submitPatched client server.handler id (itemPosted client server.handler id versionId held).2).1 = none ∧
        ∃ submission, held.store id = some submission ∧ (attemptLeaves client server.handler held id versionId).store =
          Function.update held.store id (some { submission with items := submission.items ++ [versionId] })) ∨
      ((itemPosted client server.handler id versionId held).1 = none ∧
        (attemptLeaves client server.handler held id versionId).store = held.store) := by
  rw [AttachAccepted, attemptLeaves]
  rcases server.item_posted_cases held id versionId with ⟨left, refused, same⟩ | ⟨submission, body, left, posted, found, changed⟩
  · rw [refused]
    exact .inr (.inr ⟨rfl, same⟩)
  · rw [posted]
    dsimp only
    rcases server.submit_patched_cases left id with ⟨last, refused, same⟩ | ⟨other, text, last, patched, known, marked⟩
    · rw [refused]
      exact .inr (.inl ⟨Option.some_ne_none _, rfl, submission, found, by rw [same, changed]⟩)
    · rw [patched]
      refine .inl ⟨⟨Option.some_ne_none _, Option.some_ne_none _⟩, submission, found, ?_⟩
      rw [changed, Function.update_self] at known
      cases known
      rw [marked, changed, Function.update_idem]

theorem exec_create_and_submit (held : Held) (appId versionId : String) (platform : Option String)
    (created : (exec server.handler (client.createAndSubmit appId versionId platform) held).outcome = some (.ok ())) :
    ∃ id, held.store id = none ∧ (exec server.handler (client.createAndSubmit appId versionId platform) held).state.store =
      Function.update held.store id (some ⟨submittedState, [versionId]⟩) := by
  rw [AppStoreClient.createAndSubmit, postJson2xx] at created ⊢
  rcases exec_exchange server.handler
      (.post client.reviewSubmissionsUrl (AppStoreClient.createSubmissionBody appId platform)) held with
    ⟨body, trace, replied, ran⟩ | ⟨error, trace, refused, ran⟩
  · rcases server.created_cases held appId platform with ⟨left, refused, _⟩ | ⟨id, left, accepted, unused, added⟩
    · rw [refused] at replied
      cases replied
    · rw [accepted] at replied ran
      cases replied
      rw [exec_bind, ran, Run.and_then_ok] at created ⊢
      rcases parsed : client.parseCreatedSubmission (server.created id) with failure | document
      · simp [parsed] at created
      · have same : document.data.id = id := server.named id document parsed
        simp only [parsed, Prog.of_except, Prog.bind_ok, same, Run.prepend_outcome, Run.prepend_state] at created ⊢
        obtain ⟨result, later, attached, fits⟩ := exec_attach_and_submit client server.handler id versionId left
        rw [attached] at created ⊢
        refine ⟨id, unused, ?_⟩
        rcases server.attempt_stores left id versionId with
          ⟨_, submission, found, stored⟩ | ⟨_, refused, _⟩ | ⟨refused, _⟩
        · rw [added, Function.update_self] at found
          cases found
          rw [stored, added, Function.update_idem]
          rfl
        · exact absurd refused (fits.mp (Option.some.inj created)).2
        · exact absurd refused (fits.mp (Option.some.inj created)).1
  · rw [exec_bind, ran] at created
    cases created

end SubmissionServer

def AttachedOnce (versionId : String) (before after : Store) : Prop :=
  ∃ id submission, after id = some submission ∧ versionId ∈ submission.items ∧ submission.state = submittedState ∧
    (∀ other entry, after other = some entry → versionId ∈ entry.items → other = id) ∧
    ∀ other entry, other ≠ id → before other = some entry → after other = some entry

def HalfAttached (server : SubmissionServer client) (held : Held) (appId versionId : String) (platform : Option String) : Prop :=
  ∃ draft, ReuseFound client server.handler held appId platform (some draft) ∧
    (itemPosted client server.handler draft versionId held).1 ≠ none ∧
    (submitPatched client server.handler draft (itemPosted client server.handler draft versionId held).2).1 = none

theorem attached_once_update (versionId id : String) (before : Store) (items : List String)
    (clean : ∀ other entry, before other = some entry → versionId ∉ entry.items) :
    AttachedOnce versionId before (Function.update before id (some ⟨submittedState, items ++ [versionId]⟩)) := by
  have single : ∀ other entry, Function.update before id (some ⟨submittedState, items ++ [versionId]⟩) other = some entry →
      versionId ∈ entry.items → other = id := by
    intro other entry found attached
    by_contra different
    rw [Function.update_of_ne different] at found
    exact clean other entry found attached
  have kept : ∀ other entry, other ≠ id → before other = some entry →
      Function.update before id (some ⟨submittedState, items ++ [versionId]⟩) other = some entry := by
    intro other entry different found
    rw [Function.update_of_ne different, found]
  exact ⟨id, _, Function.update_self .., by simp, rfl, single, kept⟩

theorem not_attached_once (versionId draft id state : String) (before held : Store) (items : List String)
    (left : held draft = some ⟨state, items ++ [versionId]⟩) (unused : held id = none) :
    ¬ AttachedOnce versionId before (Function.update held id (some ⟨submittedState, [versionId]⟩)) := by
  intro once
  obtain ⟨kept, entry, found, attached, marked, single, others⟩ := once
  have different : draft ≠ id := by
    intro same
    rw [same, unused] at left
    cases left
  have remains : Function.update held id (some ⟨submittedState, [versionId]⟩) draft = some ⟨state, items ++ [versionId]⟩ := by
    rw [Function.update_of_ne different, left]
  have first := single id ⟨submittedState, [versionId]⟩ (Function.update_self ..) (by simp)
  have second := single draft ⟨state, items ++ [versionId]⟩ remains (by simp)
  exact different (second.trans first.symm)

theorem submit_for_review_attaches_once_iff (server : SubmissionServer client) (held : Held) (appId versionId : String)
    (platform : Option String) (clean : ∀ id submission, held.store id = some submission → versionId ∉ submission.items)
    (returned : (exec server.handler (client.submitForReview appId versionId platform) held).outcome = some (.ok ())) :
    AttachedOnce versionId held.store (exec server.handler (client.submitForReview appId versionId platform) held).state.store ↔
      ¬ HalfAttached server held appId versionId platform := by
  rw [HalfAttached]
  rcases exec_submit_for_review client server.handler server.read_only_gets appId versionId platform held with
    ⟨error, trace, ran, _⟩ | ⟨found, trace, only, goes⟩
  · rw [ran] at returned
    cases returned
  · simp only [only]
    cases found with
    | none =>
        rw [goes] at returned ⊢
        obtain ⟨id, unused, stored⟩ := server.exec_create_and_submit held appId versionId platform returned
        rw [Run.prepend_state, stored]
        exact iff_of_true (attached_once_update versionId id held.store [] clean) (by simp)
    | some draft =>
        simp only [Option.some.injEq, exists_eq_left]
        rcases goes with ⟨accepted, ran⟩ | ⟨refused, ran⟩
        · rw [ran]
          dsimp only
          rcases server.attempt_stores held draft versionId with
            ⟨_, submission, known, stored⟩ | ⟨_, unmarked, _⟩ | ⟨unposted, _⟩
          · rw [stored]
            have once := attached_once_update versionId draft held.store submission.items clean
            exact iff_of_true once (fun half => accepted.2 half.2)
          · exact absurd unmarked accepted.2
          · exact absurd unposted accepted.1
        · rw [ran] at returned ⊢
          obtain ⟨id, unused, stored⟩ := server.exec_create_and_submit _ appId versionId platform returned
          rw [Run.prepend_state, stored]
          rcases server.attempt_stores held draft versionId with
            ⟨accepted, _⟩ | ⟨posted, unmarked, submission, known, left⟩ | ⟨unposted, left⟩
          · exact absurd accepted refused
          · have lingers : (attemptLeaves client server.handler held draft versionId).store draft =
                some { submission with items := submission.items ++ [versionId] } := by
              rw [left, Function.update_self]
            have twice := not_attached_once versionId draft id submission.state held.store _ submission.items lingers unused
            exact iff_of_false twice (fun whole => whole ⟨posted, unmarked⟩)
          · rw [left]
            have once := attached_once_update versionId id held.store [] clean
            exact iff_of_true once (fun half => half.1 unposted)

def oneDraft : Json := .obj [("data", .arr [.obj [("type", .str "reviewSubmissions"), ("id", .str "D1")]])]
def emptyItems : Json := .obj [("data", .arr [])]

def zombieClient : AppStoreClient := ⟨"https://host", .reading [oneDraft, emptyItems, createdJson]⟩

def zombieStore : Store := fun id => if id = "D1" then some ⟨"READY_FOR_REVIEW", []⟩ else none

def zombieCreated (id : String) : String := if id = "S9" then createdJson.compact else ""

set_option maxRecDepth 20000 in
theorem zombie_created_named (id : String) (document : ReviewSubmissionCreateDocument)
    (parsed : zombieClient.parseCreatedSubmission (zombieCreated id) = .ok document) : document.data.id = id := by
  rw [zombieCreated] at parsed
  by_cases same : id = "S9"
  · rw [if_pos same] at parsed
    have read : zombieClient.parseCreatedSubmission createdJson.compact = .ok ⟨⟨"S9"⟩⟩ := rfl
    cases read.symm.trans parsed
    exact same.symm
  · rw [if_neg same] at parsed
    have unread : zombieClient.parseCreatedSubmission "" =
      .error (.decode "review submission response: invalid ReviewSubmissionCreateDocument") := rfl
    cases unread.symm.trans parsed

def zombieServer : SubmissionServer zombieClient where
  sign _ := .ok "token"
  read _ request :=
    if request.url = zombieClient.readyDraftsUrl "A" none then .ok (200, oneDraft.compact) else .ok (200, emptyItems.compact)
  refuse _ request := if request.url = zombieClient.reviewSubmissionUrl "D1" then some (.ok (409, "stale")) else none
  refused := by
    intro held request response refusal
    split at refusal
    · cases refusal
      rfl
    · cases refusal
  fresh held := match held.store "S9" with
    | none => some "S9"
    | some _ => none
  free := by
    intro held id found
    split at found
    · cases found
      assumption
    · cases found
  created := zombieCreated
  named := zombie_created_named

theorem zombie_store_clean (id : String) (submission : Submission) (found : zombieStore id = some submission) :
    "V" ∉ submission.items := by
  rw [zombieStore] at found
  split at found
  · cases found
    simp
  · cases found

set_option maxRecDepth 20000 in
theorem submit_for_review_attaches_twice :
    (∀ id submission, zombieStore id = some submission → "V" ∉ submission.items) ∧
      (exec zombieServer.handler (zombieClient.submitForReview "A" "V" none) ⟨zombieStore, 0⟩).outcome = some (.ok ()) ∧
      ¬ AttachedOnce "V" zombieStore
        (exec zombieServer.handler (zombieClient.submitForReview "A" "V" none) ⟨zombieStore, 0⟩).state.store := by
  refine ⟨zombie_store_clean, rfl, ?_⟩
  intro once
  obtain ⟨id, _, _, _, _, single, _⟩ := once
  have draft : (exec zombieServer.handler (zombieClient.submitForReview "A" "V" none) ⟨zombieStore, 0⟩).state.store "D1" =
    some ⟨"READY_FOR_REVIEW", ["V"]⟩ := rfl
  have fresh : (exec zombieServer.handler (zombieClient.submitForReview "A" "V" none) ⟨zombieStore, 0⟩).state.store "S9" =
    some ⟨"WAITING_FOR_REVIEW", ["V"]⟩ := rfl
  have same := (single "D1" _ draft (by simp)).trans (single "S9" _ fresh (by simp)).symm
  exact absurd same (by decide)

set_option maxRecDepth 20000 in
theorem zombie_attaches_once_iff :
    AttachedOnce "V" zombieStore
        (exec zombieServer.handler (zombieClient.submitForReview "A" "V" none) ⟨zombieStore, 0⟩).state.store ↔
      ¬ HalfAttached zombieServer ⟨zombieStore, 0⟩ "A" "V" none :=
  submit_for_review_attaches_once_iff zombieServer ⟨zombieStore, 0⟩ "A" "V" none zombie_store_clean rfl

end StackConnect
