import StackConnect.AppStore.Bearer
import StackConnect.Interaction.FailFast

set_option autoImplicit false

namespace StackConnect

open Interaction Serde

variable {α ρ : Type}

-- What sets operations apart: the requests they may send, the URLs whose GET may
-- be answered by 404, what becomes of a refused request and of a streamed
-- response, what an event may end them with, and the errors no event is to blame for.
structure Manner where
  may : Request → Prop
  lenient : String → Bool
  refusal : Nat → String → StackError
  streamed : Streamed → Option StackError
  objection : Event Answer → StackError → Prop
  own : StackError → Prop

def StackError.isDecode : StackError → Bool
  | .decode _ => true
  | _ => false

-- A request with a token goes out right after that token was handed over.
inductive Prompt (may : Request → Prop) (past : Trace) : Query → Prop
  | sign : Prompt may past .bearerToken
  | signed (request : Request) (token : String) (fresh : past.getLast? = some ⟨.bearerToken, .ok token⟩)
      (wanted : may request) : Prompt may past (.send (request.bearerAuth token))
  | bare (request : Request) (bare : request.bearer = none) (wanted : may request) : Prompt may past (.send request)
  | download (request : Request) (bare : request.bearer = none) (wanted : may request) : Prompt may past (.stream request)

namespace Manner

def refused (manner : Manner) (request : Request) (status : Nat) (body : String) : StackError :=
  match request.body with
  | .bytes _ => .http status body
  | _ => manner.refusal status body

def forgives (manner : Manner) (request : Request) (status : Nat) : Bool :=
  request.method == .get && status == 404 && manner.lenient request.url

def complaint (manner : Manner) : Event Answer → Option StackError
  | ⟨.bearerToken, .ok _⟩ => none
  | ⟨.bearerToken, .error message⟩ => some (.auth message)
  | ⟨.send _, .error message⟩ => some (.network message)
  | ⟨.send request, .ok (status, body)⟩ =>
      if isSuccess status || manner.forgives request status then none else some (manner.refused request status body)
  | ⟨.stream _, .error message⟩ => some (.network message)
  | ⟨.stream _, .ok response⟩ => manner.streamed response

def verdicts (manner : Manner) : Verdicts Answer StackError := ⟨manner.complaint, manner.objection, manner.own⟩

-- A refusal is mapped the way every call site but one does it, and a response
-- that does not decode is an error of the program's own.
structure Usual (manner : Manner) : Prop where
  mapped : manner.refusal = statusError
  decodes : ∀ message, manner.own (.decode message)

def plain (may : Request → Prop) : Manner where
  may := may
  lenient _ := false
  refusal := statusError
  streamed _ := none
  objection _ _ := False
  own error := error.isDecode = true

theorem plain_usual (may : Request → Prop) : (plain may).Usual := ⟨rfl, fun _ => rfl⟩

theorem complaint_answered (manner : Manner) (request : Request) (status : Nat) (body : String) (failure : StackError)
    (complains : manner.complaint ⟨.send request, .ok (status, body)⟩ = some failure) :
    isSuccess status = false ∧ manner.forgives request status = false ∧ failure = manner.refused request status body := by
  rw [complaint] at complains
  by_cases fine : (isSuccess status || manner.forgives request status) = true
  · rw [if_pos fine] at complains
    cases complains
  · rw [if_neg fine] at complains
    simp only [Bool.or_eq_true, not_or, Bool.not_eq_true] at fine
    exact ⟨fine.1, fine.2, (Option.some.inj complains).symm⟩

theorem quiet_answered (manner : Manner) (request : Request) (status : Nat) (body : String)
    (quiet : manner.complaint ⟨.send request, .ok (status, body)⟩ = none) :
    isSuccess status = true ∨ (request.method = .get ∧ status = 404 ∧ manner.lenient request.url = true) := by
  rw [complaint] at quiet
  by_cases fine : (isSuccess status || manner.forgives request status) = true
  · simpa [forgives, and_assoc] using fine
  · rw [if_neg fine] at quiet
    cases quiet

end Manner

structure Conducted (manner : Manner) (program : Async α) : Prop where
  prompt : Within (Prompt manner.may) program
  stops : FailsFast manner.verdicts program

section Rules

variable {manner : Manner} {program : Async α}

theorem conducted_done (result : Except StackError α) (mine : ∀ failure, result = .error failure → manner.own failure) :
    Conducted manner (.done result) := ⟨within_done _ result, fails_fast_done result mine⟩

theorem conducted_value (value : α) : Conducted manner (.done (.ok value)) := conducted_done _ nofun

theorem conducted_fail (failure : StackError) (mine : manner.own failure) :
    Conducted manner (.done (.error failure) : Async α) := by
  apply conducted_done
  intro found same
  cases same
  exact mine

theorem conducted_bind {next : α → Async ρ} (first : Conducted manner program)
    (rest : ∀ value, Conducted manner (next value)) : Conducted manner (program >>= next) :=
  ⟨within_bind _ program next first.prompt fun value => (rest value).prompt,
    fails_fast_bind first.stops fun value => (rest value).stops⟩

theorem conducted_values (judge : α → ρ) (kept : Conducted manner program) :
    Conducted manner (program >>= fun value => .done (.ok (judge value))) :=
  conducted_bind kept fun value => conducted_value (judge value)

theorem conducted_judged (result : Except StackError α) (next : α → Async ρ)
    (mine : ∀ failure, result = .error failure → manner.own failure) (rest : ∀ value, Conducted manner (next value)) :
    Conducted manner (Prog.ofExcept result >>= next) := conducted_bind (conducted_done result mine) rest

theorem parse_failure (client : AppStoreClient) (usual : manner.Usual) (type label : String) (decoder : Decoder α) (body : String)
    (failure : StackError) (failed : client.parse type label decoder body = .error failure) : manner.own failure := by
  rw [AppStoreClient.parse] at failed
  cases read : client.crates.serdeJson.fromStr type decoder body with
  | ok value =>
      rw [read] at failed
      cases failed
  | error reason =>
      rw [read] at failed
      cases failed
      exact usual.decodes _

theorem conducted_parsed (client : AppStoreClient) (usual : manner.Usual) (type label : String) (decoder : Decoder ρ)
    (body : String) (next : ρ → Async α) (rest : ∀ value, Conducted manner (next value)) :
    Conducted manner (Prog.ofExcept (client.parse type label decoder body) >>= next) :=
  conducted_judged _ next (parse_failure client usual type label decoder body) rest

theorem within_authorized (may : Request → Prop) (request : Request) (wanted : may request) :
    Within (Prompt may) (authorized request) := by
  intro past
  apply wp_authorized _ request _ past .sign
  · intro token
    apply Prompt.signed request token _ wanted
    rw [List.getLast?_append]
    rfl
  · intro _ _ _
    trivial

-- A request whose refusal is reported as such, and what is made of its other
-- answers: the program goes on, or ends with what may be objected to the answer.
theorem conducted_answered (request : Request) (next : Nat × String → Async α) (wanted : manner.may request)
    (reports : ∀ token status body failure, manner.complaint ⟨.send (request.bearerAuth token), .ok (status, body)⟩ = some failure →
      next (status, body) = .done (.error failure))
    (rest : ∀ token status body, manner.complaint ⟨.send (request.bearerAuth token), .ok (status, body)⟩ = none →
      Conducted manner (next (status, body)) ∨
        ∃ failure, manner.objection ⟨.send (request.bearerAuth token), .ok (status, body)⟩ failure ∧
          next (status, body) = .done (.error failure)) : Conducted manner (authorized request >>= next) where
  prompt := by
    apply within_bind _ _ _ (within_authorized manner.may request wanted)
    intro response
    cases complains : manner.complaint ⟨.send (request.bearerAuth ""), .ok response⟩ with
    | none =>
        rcases rest "" response.1 response.2 complains with onward | ⟨failure, _, ended⟩
        · exact onward.prompt
        · rw [ended]
          exact within_done _ _
    | some failure =>
        rw [reports "" response.1 response.2 failure complains]
        exact within_done _ _
  stops := by
    rw [authorized, Prog.bind_assoc]
    apply fails_fast_ask
    · intro answer failure complains
      cases answer with
      | ok token => cases complains
      | error message =>
          cases complains
          rfl
    · intro answer quiet
      left
      cases answer with
      | error message => cases quiet
      | ok token =>
          apply fails_fast_ask
          · intro answer failure complains
            cases answer with
            | error message =>
                cases complains
                rfl
            | ok response => exact reports token response.1 response.2 failure complains
          · intro answer quiet
            cases answer with
            | error message => cases quiet
            | ok response => exact (rest token response.1 response.2 quiet).imp_left Conducted.stops

theorem conducted_authorized (request : Request) (next : Nat × String → Async α) (wanted : manner.may request)
    (reports : ∀ token status body failure, manner.complaint ⟨.send (request.bearerAuth token), .ok (status, body)⟩ = some failure →
      next (status, body) = .done (.error failure))
    (rest : ∀ token status body, manner.complaint ⟨.send (request.bearerAuth token), .ok (status, body)⟩ = none →
      Conducted manner (next (status, body))) : Conducted manner (authorized request >>= next) :=
  conducted_answered request next wanted reports fun token status body quiet => .inl (rest token status body quiet)

theorem refused_api (request : Request) (token : String) (api : ∀ data, request.body ≠ .bytes data) (status : Nat) (body : String) :
    manner.refused (request.bearerAuth token) status body = manner.refusal status body := by
  rw [Manner.refused]
  split
  · exact absurd ‹_› (api _)
  · rfl

def Strict (manner : Manner) (request : Request) : Prop :=
  request.method = .get → manner.lenient request.url = true → ∀ token body,
    manner.objection ⟨.send (request.bearerAuth token), .ok (404, body)⟩ (.http 404 body)

theorem conducted_exchange (usual : manner.Usual) (request : Request) (wanted : manner.may request)
    (api : ∀ data, request.body ≠ .bytes data) (strict : Strict manner request) : Conducted manner (exchange request) := by
  apply conducted_answered request _ wanted
  · intro token status body failure complains
    obtain ⟨refused, _, rfl⟩ := manner.complaint_answered _ status body failure complains
    rw [refused_api request token api, usual.mapped]
    simp [accepted, refused]
  · intro token status body quiet
    rcases manner.quiet_answered _ status body quiet with success | ⟨get, rfl, lenient⟩
    · left
      apply conducted_done
      intro failure failed
      simp [accepted, success] at failed
    · right
      refine ⟨.http 404 body, strict get lenient token body, ?_⟩
      have mapped : accepted (404, body) = .error (.http 404 body) := by
        simp [accepted, isSuccess, statusError, pendingAgreementsError]
      rw [mapped]
      rfl

theorem conducted_get_page (usual : manner.Usual) (url : String) (wanted : manner.may (.get url))
    (strict : Strict manner (.get url)) : Conducted manner (getPage url) := conducted_exchange usual _ wanted nofun strict

theorem conducted_post_json (usual : manner.Usual) (url : String) (body : Json) (wanted : manner.may (.post url body)) :
    Conducted manner (postJson2xx url body) := conducted_exchange usual _ wanted nofun nofun

theorem conducted_patch (usual : manner.Usual) (url : String) (body : Json) (wanted : manner.may (.patch url body)) :
    Conducted manner (bearerToken >>= fun token => patchNoContent url token body) := by
  rw [token_then_patch]
  exact conducted_values _ (conducted_exchange usual _ wanted nofun nofun)

theorem conducted_delete (usual : manner.Usual) (url : String) (wanted : manner.may (.delete url)) :
    Conducted manner (deleteNoContent url) := conducted_values _ (conducted_exchange usual _ wanted nofun nofun)

theorem conducted_unless_missing (usual : manner.Usual) (url : String) (absent : Async α) (present : String → Async α)
    (wanted : manner.may (.get url)) (lenient : manner.lenient url = true) (missing : Conducted manner absent)
    (found : ∀ body, Conducted manner (present body)) :
    Conducted manner (authorized (.get url) >>= fun (status, body) =>
      if status = 404 then absent else Prog.ofExcept (accepted (status, body)) >>= present) := by
  apply conducted_authorized _ _ wanted
  · intro token status body failure complains
    obtain ⟨refused, strict, rfl⟩ := manner.complaint_answered _ status body failure complains
    have other : status ≠ 404 := by
      intro same
      subst same
      change manner.lenient url = false at strict
      rw [lenient] at strict
      cases strict
    rw [refused_api (.get url) token nofun, usual.mapped]
    dsimp only
    rw [if_neg other]
    simp [accepted, refused]
  · intro token status body quiet
    dsimp only
    split
    · exact missing
    · rcases manner.quiet_answered _ status body quiet with success | ⟨_, rfl, _⟩
      · rw [accepted, if_pos success]
        exact found body
      · exact absurd rfl ‹_›

theorem conducted_rounds {σ : Type} (body : σ → String → Async (σ × Option String))
    (round : ∀ kept url, Conducted manner (body kept url)) (fuel : Nat) (kept : σ) (next : Option String) :
    Conducted manner (whileSome body fuel kept next) where
  prompt := by
    intro past
    refine wp_while_some _ body _ (fun _ _ _ => True) ?_ (fun _ _ _ => trivial) fuel kept next past trivial
    intro kept url past _
    apply wp_mono _ _ _ _ _ ((round kept url).prompt past)
    intro result later _
    cases result <;> trivial
  stops := fails_fast_while_some body (fun kept url => (round kept url).stops) fuel kept next

theorem conducted_fold {σ ι : Type} (step : σ → ι → Async σ) (items : List ι)
    (kept : ∀ reached, ∀ item ∈ items, Conducted manner (step reached item)) (start : σ) :
    Conducted manner (items.foldlM step start) := by
  induction items generalizing start with
  | nil => exact conducted_value _
  | cons item rest ih =>
      rw [List.foldlM_cons]
      exact conducted_bind (kept start item List.mem_cons_self) fun reached =>
        ih (fun reached other inside => kept reached other (List.mem_cons_of_mem item inside)) reached

theorem conducted_for_each {ι : Type} (step : ι → Async Unit) (kept : ∀ item, Conducted manner (step item))
    (items : List ι) : Conducted manner (items.forM step) := by
  induction items with
  | nil => exact conducted_value _
  | cons item rest ih => exact conducted_bind (kept item) fun _ => ih

theorem conducted_rescue (recover : Except StackError α → Async ρ) (first : Conducted manner program)
    (passes : ∀ event failure, manner.verdicts.Stops event failure → recover (.error failure) = .done (.error failure))
    (prompt : ∀ result, Within (Prompt manner.may) (recover result))
    (rest : ∀ result, (∀ failure, result = .error failure → manner.own failure) → Conducted manner (recover result)) :
    Conducted manner (Prog.attempt program >>= recover) :=
  ⟨within_bind _ _ _ (within_attempt _ _ first.prompt) prompt,
    fails_fast_rescue recover first.stops passes fun result mine => (rest result mine).stops⟩

end Rules

end StackConnect
