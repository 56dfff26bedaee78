import StackConnect.AppStore.SharedServer
import StackConnect.Auth.TokenCache
import StackConnect.Interaction.Layers

set_option autoImplicit false

namespace StackConnect

open Interaction

-- What an operation of a provider does, its authenticator seen from inside:
-- bearer_token reads the clock and then takes the lock.
inductive ProviderStep where
  | clock
  | enter (now : Int)
  | send (request : Request)
  | stream (request : Request)

abbrev ProviderStep.Answer : ProviderStep → Type
  | clock => Int
  | enter _ => Except String String
  | send _ => Reply
  | stream _ => Except String Streamed

def providerSteps : (query : Query) → Prog ProviderStep ProviderStep.Answer StackError (Answer query)
  | .bearerToken => .ask .clock fun now => .ask (.enter now) fun signed => .done (.ok signed)
  | .send request => .ask (.send request) fun reply => .done (.ok reply)
  | .stream request => .ask (.stream request) fun streamed => .done (.ok streamed)

def StackError.authMessage : StackError → String
  | .auth message => message
  | _ => ""

variable {ι P S : Type}

structure Surroundings (P S : Type) where
  clock : P → Int × P
  salt : P → Nat × P
  serve : Request → S → Reply × S
  stream : Request → S → Except String Streamed × S

-- The callers of one provider share its token cache.
def Surroundings.facing (around : Surroundings P S) (auth : AppStoreAuthenticator) :
    Handler ProviderStep.Answer (P × Option CachedToken × S) where
  answer
    | .clock, (held, shared) => ((around.clock held).1, (around.clock held).2, shared)
    | .enter now, (held, cache, state) =>
        let served := auth.bearerToken (around.salt held).1 now cache
        (served.1.mapError StackError.authMessage, (around.salt held).2, served.2, state)
    | .send request, (held, cache, state) =>
        ((around.serve request state).1, held, cache, (around.serve request state).2)
    | .stream request, (held, cache, state) =>
        ((around.stream request state).1, held, cache, (around.stream request state).2)

abbrev History (ι : Type) := List (ι × Event ProviderStep.Answer)

abbrev ProviderWorld (ι P S : Type) := World ι ProviderStep ProviderStep.Answer StackError CallResult P (Option CachedToken × S)

theorem provider_steps_answer : Answers providerSteps := by
  intro query piece outcome run
  cases query with
  | bearerToken =>
      obtain ⟨now, rest, rfl, after⟩ := (runs_ask _ _ _ _).mp run
      obtain ⟨answer, last, rfl, ended⟩ := (runs_ask _ _ _ _).mp after
      exact ⟨answer, ((runs_done _ _ _).mp ended).2⟩
  | send request =>
      obtain ⟨answer, rest, rfl, ended⟩ := (runs_ask _ _ _ _).mp run
      exact ⟨answer, ((runs_done _ _ _).mp ended).2⟩
  | stream request =>
      obtain ⟨answer, rest, rfl, ended⟩ := (runs_ask _ _ _ _).mp run
      exact ⟨answer, ((runs_done _ _ _).mp ended).2⟩

theorem token_steps (piece : List (Event ProviderStep.Answer)) (signed : Except String String)
    (run : Runs (providerSteps .bearerToken) piece (some (.ok signed))) :
    ∃ now, piece = [⟨.clock, now⟩, ⟨.enter now, signed⟩] := by
  obtain ⟨now, rest, rfl, after⟩ := (runs_ask _ _ _ _).mp run
  obtain ⟨answer, last, rfl, ended⟩ := (runs_ask _ _ _ _).mp after
  obtain ⟨rfl, same⟩ := (runs_done _ _ _).mp ended
  cases same
  exact ⟨now, rfl⟩

theorem sending_step (query : Query) (answer : Answer query) (piece left : List (Event ProviderStep.Answer)) (request : Request)
    (reply : Reply) (run : Runs (providerSteps query) (piece ++ ⟨.send request, reply⟩ :: left) (some (.ok answer))) :
    piece = [] ∧ query = .send request := by
  cases query with
  | bearerToken =>
      obtain ⟨now, same⟩ := token_steps _ answer run
      rcases piece with _ | ⟨first, _ | ⟨second, rest⟩⟩
      · cases same
      · cases same
      · simp at same
  | send other =>
      obtain ⟨found, rest, same, ended⟩ := (runs_ask _ _ _ _).mp run
      obtain ⟨rfl, _⟩ := (runs_done _ _ _).mp ended
      rcases piece with _ | ⟨first, rest⟩
      · cases same
        exact ⟨rfl, rfl⟩
      · simp at same
  | stream other =>
      obtain ⟨found, rest, same, ended⟩ := (runs_ask _ _ _ _).mp run
      obtain ⟨rfl, _⟩ := (runs_done _ _ _).mp ended
      rcases piece with _ | ⟨first, rest⟩
      · cases same
      · simp at same

theorem entering_step (query : Query) (answer : Answer query) (piece left : List (Event ProviderStep.Answer)) (now : Int)
    (signed : Except String String)
    (run : Runs (providerSteps query) (piece ++ ⟨.enter now, signed⟩ :: left) (some (.ok answer))) : piece = [⟨.clock, now⟩] := by
  cases query with
  | bearerToken =>
      obtain ⟨reading, same⟩ := token_steps _ answer run
      rcases piece with _ | ⟨first, _ | ⟨second, rest⟩⟩
      · cases same
      · cases same
        rfl
      · simp at same
  | send request =>
      obtain ⟨_, rest, same, ended⟩ := (runs_ask _ _ _ _).mp run
      obtain ⟨rfl, _⟩ := (runs_done _ _ _).mp ended
      rcases piece with _ | ⟨first, rest⟩
      · cases same
      · simp at same
  | stream request =>
      obtain ⟨_, rest, same, ended⟩ := (runs_ask _ _ _ _).mp run
      obtain ⟨rfl, _⟩ := (runs_done _ _ _).mp ended
      rcases piece with _ | ⟨first, rest⟩
      · cases same
      · simp at same

section Minting

variable (auth : AppStoreAuthenticator)

def Served (minted : List (Int × String)) (now : Int) : Except String String → Prop
  | .ok token => ∃ reading, (reading, token) ∈ minted ∧ now + refreshMargin < reading + ttlSecs
  | .error message => ∃ salt, auth.sign salt now = .error (.auth message)

-- The tokens made so far with the clock reading each was made for, the latest
-- first. The cache holds the latest, and every token handed over is one of them.
structure Minted (cache : Option CachedToken) (history : History ι) (minted : List (Int × String)) : Prop where
  made : ∀ reading token, (reading, token) ∈ minted → ∃ salt, auth.sign salt reading = .ok token
  latest : cache = minted.head?.map fun (reading, token) => ⟨token, reading + ttlSecs⟩
  spaced : minted.Pairwise fun later earlier => earlier.1 + (ttlSecs - refreshMargin) ≤ later.1
  read : ∀ reading token, (reading, token) ∈ minted → ∃ who, (who, ⟨.enter reading, .ok token⟩) ∈ history
  served : ∀ who now answer, (who, ⟨.enter now, answer⟩) ∈ history → Served auth minted now answer

theorem minted_start : Minted auth none ([] : History ι) [] := ⟨nofun, rfl, .nil, nofun, nofun⟩

variable {auth} {cache : Option CachedToken} {history : History ι} {minted : List (Int × String)}

theorem served_later (now : Int) (answer : Except String String) (served : Served auth minted now answer) (added : Int × String) :
    Served auth (added :: minted) now answer := by
  cases answer with
  | error message => exact served
  | ok token =>
      obtain ⟨reading, found, early⟩ := served
      exact ⟨reading, List.mem_cons_of_mem _ found, early⟩

theorem served_snoc (kept : ∀ who now answer, (who, ⟨.enter now, answer⟩) ∈ history → Served auth minted now answer)
    (who : ι) (event : Event ProviderStep.Answer) (last : ∀ now answer, event = ⟨.enter now, answer⟩ → Served auth minted now answer) :
    ∀ who' now answer, (who', ⟨.enter now, answer⟩) ∈ history ++ [(who, event)] → Served auth minted now answer := by
  intro other now answer inside
  rcases List.mem_append.mp inside with before | added
  · exact kept other now answer before
  · exact last now answer (congrArg Prod.snd (List.mem_singleton.mp added)).symm

theorem read_snoc (kept : ∀ reading token, (reading, token) ∈ minted → ∃ who, (who, ⟨.enter reading, .ok token⟩) ∈ history)
    (entry : ι × Event ProviderStep.Answer) (reading : Int) (token : String) (inside : (reading, token) ∈ minted) :
    ∃ who, (who, ⟨.enter reading, .ok token⟩) ∈ history ++ [entry] := by
  obtain ⟨signer, found⟩ := kept reading token inside
  exact ⟨signer, List.mem_append_left _ found⟩

theorem minted_beside (kept : Minted auth cache history minted) (who : ι) (event : Event ProviderStep.Answer)
    (beside : ∀ now, event.1 ≠ .enter now) : Minted auth cache (history ++ [(who, event)]) minted where
  made := kept.made
  latest := kept.latest
  spaced := kept.spaced
  read := read_snoc kept.read _
  served := served_snoc kept.served who event fun now _ same => absurd (congrArg Sigma.fst same) (beside now)

theorem minted_cached (kept : Minted auth cache history minted) (cached : CachedToken) (found : cache = some cached) :
    ∃ reading rest, minted = (reading, cached.token) :: rest ∧ cached.expiresAt = reading + ttlSecs := by
  have latest := kept.latest
  rw [found] at latest
  cases minted with
  | nil => cases latest
  | cons last rest =>
      cases latest
      exact ⟨last.1, rest, rfl, rfl⟩

-- A cached token that is stale was minted long ago, and so were the ones before it.
theorem minted_stale (kept : Minted auth cache history minted) (now : Int)
    (stale : ∀ cached, cache = some cached → cached.expiresAt ≤ now + refreshMargin) (earlier : Int × String)
    (inside : earlier ∈ minted) : earlier.1 + (ttlSecs - refreshMargin) ≤ now := by
  have latest := kept.latest
  have spaced := kept.spaced
  cases minted with
  | nil => cases inside
  | cons last rest =>
      have due := stale _ latest
      rw [ttlSecs, refreshMargin] at *
      rcases List.mem_cons.mp inside with rfl | older
      · dsimp only at due
        omega
      · have gap := (List.pairwise_cons.mp spaced).1 earlier older
        dsimp only at due
        omega

theorem minted_enter (kept : Minted auth cache history minted) (who : ι) (salt : Nat) (now : Int) :
    ∃ minted, Minted auth (auth.bearerToken salt now cache).2
      (history ++ [(who, ⟨.enter now, (auth.bearerToken salt now cache).1.mapError StackError.authMessage⟩)]) minted := by
  rcases TokenCache.bearer_token_cases auth salt now cache with
    ⟨cached, found, early, answer, _⟩ | ⟨stale, ⟨token, made, _, answer, _⟩ | ⟨failure, failed, answer, _⟩⟩
  · rw [answer]
    refine ⟨minted, kept.made, kept.latest, kept.spaced, read_snoc kept.read _, served_snoc kept.served who _ ?_⟩
    intro reading handed same
    cases same
    obtain ⟨signedAt, rest, rfl, expires⟩ := minted_cached kept cached found
    exact ⟨signedAt, List.mem_cons_self, by rwa [expires] at early⟩
  · rw [answer]
    have spaced : ((now, token) :: minted).Pairwise fun later earlier => earlier.1 + (ttlSecs - refreshMargin) ≤ later.1 :=
      List.pairwise_cons.mpr ⟨minted_stale kept now stale, kept.spaced⟩
    refine ⟨(now, token) :: minted, ?_, rfl, spaced, ?_, served_snoc ?_ who _ ?_⟩
    · intro reading other inside
      rcases List.mem_cons.mp inside with same | before
      · cases same
        exact ⟨salt, made⟩
      · exact kept.made reading other before
    · intro reading other inside
      rcases List.mem_cons.mp inside with same | before
      · cases same
        exact ⟨who, List.mem_append_right _ (List.mem_singleton_self _)⟩
      · exact read_snoc kept.read _ reading other before
    · exact fun caller reading answer inside => served_later reading answer (kept.served caller reading answer inside) _
    · intro reading handed same
      cases same
      exact ⟨now, List.mem_cons_self, by rw [ttlSecs, refreshMargin]; omega⟩
  · rw [answer]
    refine ⟨minted, kept.made, kept.latest, kept.spaced, read_snoc kept.read _, served_snoc kept.served who _ ?_⟩
    intro reading handed same
    obtain ⟨text, rfl⟩ := sign_team_token_error auth.jwt salt auth.issuerId auth.keyId auth.privateKeyP8 now failure failed
    cases same
    exact ⟨salt, failed⟩

def MintedApart (first second : Int × String) : Prop :=
  first.1 + (ttlSecs - refreshMargin) ≤ second.1 ∨ second.1 + (ttlSecs - refreshMargin) ≤ first.1

instance : Std.Symm MintedApart := ⟨fun _ _ => Or.symm⟩

theorem minted_apart (kept : Minted auth cache history minted) (first second : Int × String) (one : first ∈ minted)
    (other : second ∈ minted) (different : first ≠ second) : MintedApart first second := by
  have spaced : minted.Pairwise MintedApart := kept.spaced.imp Or.inr
  exact spaced.forall one other different

end Minting

section Calls

variable [DecidableEq ι] (client : AppStoreClient) (fuel : ι → Nat) (operations : ι → Operation) (auth : AppStoreAuthenticator)
  (around : ι → Surroundings P S)

abbrev surrounded (thread : ι) : Handler ProviderStep.Answer (P × Option CachedToken × S) := (around thread).facing auth

-- What can be relied on whatever the calls, their order, the clocks and the server:
-- a request carries a token handed out for it, which lasts beyond the margin; a
-- failure to sign is one; and a token serves all calls until it is due.
structure WellSigned (history : History ι) : Prop where
  carried : ∀ thread before after request reply token, metBy thread history = before ++ ⟨.send request, reply⟩ :: after →
    request.bearer = some token → ∃ earlier now, before = earlier ++ [⟨.clock, now⟩, ⟨.enter now, .ok token⟩]
  fresh : ∀ thread now token, (thread, ⟨.enter now, .ok token⟩) ∈ history → ∃ signer reading salt,
    (signer, ⟨.clock, reading⟩) ∈ history ∧ auth.sign salt reading = .ok token ∧ now + refreshMargin < reading + ttlSecs ∧
      auth.jwt.claims token = some ⟨auth.issuerId, reading, reading + ttlSecs, audience⟩
  refused : ∀ thread now message, (thread, ⟨.enter now, .error message⟩) ∈ history →
    ∃ salt, auth.sign salt now = .error (.auth message)
  shared : ∀ start, (∀ thread now, (thread, ⟨.clock, now⟩) ∈ history → start ≤ now ∧ now < start + (ttlSecs - refreshMargin)) →
    ∀ thread request reply token other another answer held, (thread, ⟨.send request, reply⟩) ∈ history →
      request.bearer = some token → (other, ⟨.send another, answer⟩) ∈ history → another.bearer = some held → token = held

def providerBegin (held : ι → P) (state : S) : ProviderWorld ι P S :=
  .begin (fun thread => ((operations thread).call client (fuel thread)).lowered providerSteps) held (none, state)

variable (held : ι → P) (state : S) (schedule : List ι)

abbrev provided : ProviderWorld ι P S :=
  play (surrounded auth around) schedule (providerBegin client fuel operations held state)

theorem calls_minted : ∃ minted, Minted auth (provided client fuel operations auth around held state schedule).state.1
    (provided client fuel operations auth around held state schedule).history minted := by
  refine play_keeps _ _ (fun reached : ProviderWorld ι P S => ∃ minted, Minted auth reached.state.1 reached.history minted)
    ?_ schedule ⟨[], minted_start auth⟩
  rintro reached thread ⟨minted, kept⟩
  rcases turn_cases (surrounded auth around) reached thread with ⟨_, same⟩ | ⟨query, next, _, stepped⟩
  · rw [same]
    exact ⟨minted, kept⟩
  · rw [stepped]
    cases query with
    | clock => exact ⟨minted, minted_beside kept thread _ nofun⟩
    | enter now => exact minted_enter kept thread ((around thread).salt (reached.held thread)).1 now
    | send request => exact ⟨minted, minted_beside kept thread _ nofun⟩
    | stream request => exact ⟨minted, minted_beside kept thread _ nofun⟩

-- What a call has done is the beginning of a run of its operation, step by step.
theorem calls_carried (thread : ι) : ∃ above rest outcome,
    CarriedOut providerSteps above (metBy thread (provided client fuel operations auth around held state schedule).history ++ rest) ∧
      Runs ((operations thread).call client (fuel thread)) above outcome := by
  have begun := begun_runs (surrounded auth around)
    (fun thread => ((operations thread).call client (fuel thread)).lowered providerSteps) held (none, state) schedule thread
  have ahead := exec_runs (surrounded auth around thread)
    ((provided client fuel operations auth around held state schedule).programs thread)
    ((provided client fuel operations auth around held state schedule).held thread,
      (provided client fuel operations auth around held state schedule).state)
  obtain ⟨above, carried, run⟩ := runs_lowered providerSteps provider_steps_answer _ _ _ (begun _ _ ahead)
  exact ⟨above, _, _, carried, run⟩

theorem carried_at_once (thread : ι) (before after : List (Event ProviderStep.Answer)) (request : Request) (reply : Reply)
    (token : String) (bearer : request.bearer = some token)
    (split : metBy thread (provided client fuel operations auth around held state schedule).history =
      before ++ ⟨.send request, reply⟩ :: after) :
    ∃ earlier now, before = earlier ++ [⟨.clock, now⟩, ⟨.enter now, .ok token⟩] := by
  obtain ⟨above, rest, outcome, carried, run⟩ := calls_carried client fuel operations auth around held state schedule thread
  rw [split, List.append_assoc, List.cons_append] at carried
  obtain ⟨earlier, query, answer, later, done, piece, left, rfl, rfl, first, inside⟩ :=
    carried_out_at providerSteps above before (after ++ rest) _ carried
  obtain ⟨rfl, rfl⟩ := sending_step query answer piece left request reply inside
  have asked := within_sound _ _ (call_prompt client (fuel thread) (operations thread)) _ outcome run earlier later _ rfl
  have last : earlier.getLast? = some ⟨.bearerToken, .ok token⟩ := by
    cases asked with
    | signed plain found fresh _ =>
        cases bearer
        exact fresh
    | bare _ bare _ =>
        rw [bare] at bearer
        cases bearer
  obtain ⟨before, piece, rfl, ran⟩ := carried_out_last providerSteps earlier _ done first last
  obtain ⟨now, rfl⟩ := token_steps piece (.ok token) ran
  exact ⟨before, now, List.append_nil _⟩

-- The lock is taken with the reading of the clock just before it.
theorem entered_with_reading (thread : ι) (now : Int) (signed : Except String String)
    (inside : (thread, ⟨.enter now, signed⟩) ∈ (provided client fuel operations auth around held state schedule).history) :
    (thread, ⟨.clock, now⟩) ∈ (provided client fuel operations auth around held state schedule).history := by
  obtain ⟨above, rest, outcome, carried, run⟩ := calls_carried client fuel operations auth around held state schedule thread
  obtain ⟨before, after, split⟩ := List.append_of_mem ((mem_met_by thread _ _).mpr inside)
  rw [split, List.append_assoc, List.cons_append] at carried
  obtain ⟨earlier, query, answer, later, done, piece, left, _, rfl, _, found⟩ :=
    carried_out_at providerSteps above before (after ++ rest) _ carried
  rw [entering_step query answer piece left now signed found] at split
  apply (mem_met_by thread _ _).mp
  rw [split]
  simp

theorem handed_for_request (thread : ι) (request : Request) (reply : Reply) (token : String) (bearer : request.bearer = some token)
    (inside : (thread, ⟨.send request, reply⟩) ∈ (provided client fuel operations auth around held state schedule).history) :
    ∃ now, (thread, ⟨.enter now, .ok token⟩) ∈ (provided client fuel operations auth around held state schedule).history := by
  obtain ⟨before, after, split⟩ := List.append_of_mem ((mem_met_by thread _ _).mpr inside)
  obtain ⟨earlier, now, rfl⟩ := carried_at_once client fuel operations auth around held state schedule thread before after
    request reply token bearer split
  refine ⟨now, (mem_met_by thread _ _).mp ?_⟩
  rw [split]
  simp

theorem provider_calls_well_signed :
    WellSigned auth (provided client fuel operations auth around held state schedule).history := by
  obtain ⟨minted, kept⟩ := calls_minted client fuel operations auth around held state schedule
  have read := entered_with_reading client fuel operations auth around held state schedule
  have handed := handed_for_request client fuel operations auth around held state schedule
  refine ⟨?_, ?_, ?_, ?_⟩
  · intro thread before after request reply token split bearer
    exact carried_at_once client fuel operations auth around held state schedule thread before after request reply token bearer split
  · intro thread now token inside
    obtain ⟨reading, found, early⟩ := kept.served thread now (.ok token) inside
    obtain ⟨signer, signed⟩ := kept.read reading token found
    obtain ⟨salt, made⟩ := kept.made reading token found
    exact ⟨signer, reading, salt, read signer reading _ signed, made, early,
      sign_team_token_claims auth.jwt salt auth.issuerId auth.keyId auth.privateKeyP8 reading token made⟩
  · exact fun thread now message inside => kept.served thread now (.error message) inside
  · intro start within thread request reply token other another answer held sent bearer sentToo bearerToo
    obtain ⟨now, handedOut⟩ := handed thread request reply token bearer sent
    obtain ⟨later, handedToo⟩ := handed other another answer held bearerToo sentToo
    obtain ⟨reading, found, _⟩ := kept.served thread now (.ok token) handedOut
    obtain ⟨second, foundToo, _⟩ := kept.served other later (.ok held) handedToo
    obtain ⟨signer, signed⟩ := kept.read reading token found
    obtain ⟨another, signedToo⟩ := kept.read second held foundToo
    have early := within signer reading (read signer reading _ signed)
    have late := within another second (read another second _ signedToo)
    by_contra different
    rcases minted_apart kept _ _ found foundToo fun same => different (congrArg Prod.snd same) with gap | gap
    · dsimp only at gap
      omega
    · dsimp only at gap
      omega

end Calls

end StackConnect
