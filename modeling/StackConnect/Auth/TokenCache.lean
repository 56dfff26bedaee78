import Mathlib.Logic.Function.Basic
import StackConnect.Auth.Es256

set_option autoImplicit false

namespace StackConnect.TokenCache

inductive Caller where
  | idle
  | waiting (now : Int)
  | returned (now : Int) (result : Except StackError String)

-- The shared cache, the callers, and the clock readings of the signings so far,
-- the latest first. The readings are history only; no step looks at them.
structure System where
  cache : Option CachedToken
  callers : Nat → Caller
  signings : List Int

-- The two steps of a caller. Nothing relates the readings of the clock, and the
-- lock is taken in any order.
inductive Act where
  | readClock (caller : Nat) (now : Int)
  | enter (caller salt : Nat)

variable (auth : AppStoreAuthenticator)

def signed (salt : Nat) (now : Int) (cache : Option CachedToken) : List Int :=
  match AppStoreAuthenticator.fresh now cache, auth.sign salt now with
  | none, .ok _ => [now]
  | _, _ => []

def step (system : System) : Act → System
  | .readClock caller now =>
      match system.callers caller with
      | .idle => { system with callers := Function.update system.callers caller (.waiting now) }
      | _ => system
  | .enter caller salt =>
      match system.callers caller with
      | .waiting now =>
          let answer := auth.bearerToken salt now system.cache
          ⟨answer.2, Function.update system.callers caller (.returned now answer.1),
            signed auth salt now system.cache ++ system.signings⟩
      | _ => system

def run (system : System) (acts : List Act) : System := acts.foldl (step auth) system

def start : System := ⟨none, fun _ => .idle, []⟩

def expClaim (token : String) : Option Int := (auth.jwt.claims token).map TeamClaims.exp

def expiresAt (system : System) : Option Int := system.cache.map CachedToken.expiresAt

theorem bearer_token_cases (salt : Nat) (now : Int) (cache : Option CachedToken) :
    (∃ cached, cache = some cached ∧ now + refreshMargin < cached.expiresAt ∧
        auth.bearerToken salt now cache = (.ok cached.token, cache) ∧ signed auth salt now cache = []) ∨
      ((∀ cached, cache = some cached → cached.expiresAt ≤ now + refreshMargin) ∧
        ((∃ token, auth.sign salt now = .ok token ∧ expClaim auth token = some (now + ttlSecs) ∧
            auth.bearerToken salt now cache = (.ok token, some ⟨token, now + ttlSecs⟩) ∧ signed auth salt now cache = [now]) ∨
          ∃ error, auth.sign salt now = .error error ∧ auth.bearerToken salt now cache = (.error error, cache) ∧
            signed auth salt now cache = [])) := by
  rcases good : AppStoreAuthenticator.fresh now cache with _ | cached
  · refine .inr ⟨?_, ?_⟩
    · rintro cached rfl
      exact (fresh_none now cached).mp good
    · rcases made : auth.sign salt now with error | token
      · exact .inr ⟨error, rfl, by simp only [AppStoreAuthenticator.bearerToken, good, made], by simp only [signed, good, made]⟩
      · have claims := sign_team_token_claims auth.jwt salt auth.issuerId auth.keyId auth.privateKeyP8 now token made
        exact .inl ⟨token, rfl, by rw [expClaim, claims]; rfl, by simp only [AppStoreAuthenticator.bearerToken, good, made],
          by simp only [signed, good, made]⟩
  · obtain ⟨held, early⟩ := (fresh_some now cache cached).mp good
    exact .inl ⟨cached, held, early, by simp only [AppStoreAuthenticator.bearerToken, good], by simp only [signed, good]⟩

structure Invariant (system : System) : Prop where
  claimed : ∀ cached, system.cache = some cached → expClaim auth cached.token = some cached.expiresAt
  latest : expiresAt system = system.signings.head?.map (· + ttlSecs)
  spaced : system.signings.Pairwise fun later earlier => earlier + (ttlSecs - refreshMargin) ≤ later
  handed : ∀ caller now token, system.callers caller = .returned now (.ok token) →
    ∃ exp, expClaim auth token = some exp ∧ now + refreshMargin < exp

theorem start_invariant : Invariant auth start where
  claimed := nofun
  latest := rfl
  spaced := .nil
  handed := nofun

theorem handed_update (system : System) (inv : Invariant auth system) (caller : Nat) (moved : Caller)
    (good : ∀ now token, moved = .returned now (.ok token) →
      ∃ exp, expClaim auth token = some exp ∧ now + refreshMargin < exp) :
    ∀ other now token, Function.update system.callers caller moved other = .returned now (.ok token) →
      ∃ exp, expClaim auth token = some exp ∧ now + refreshMargin < exp := by
  intro other now token finished
  by_cases same : other = caller
  · subst same
    rw [Function.update_self] at finished
    exact good now token finished
  · rw [Function.update_of_ne same] at finished
    exact inv.handed other now token finished

-- The latest signing made the cached token, so a stale token is an old signing.
theorem signings_before_stale (system : System) (inv : Invariant auth system) (now : Int)
    (stale : ∀ cached, system.cache = some cached → cached.expiresAt ≤ now + refreshMargin) (earlier : Int)
    (inside : earlier ∈ system.signings) : earlier + (ttlSecs - refreshMargin) ≤ now := by
  have latest := inv.latest
  have spaced := inv.spaced
  cases readings : system.signings with
  | nil =>
      rw [readings] at inside
      cases inside
  | cons last rest =>
      rw [readings] at latest inside spaced
      obtain ⟨cached, held, expires⟩ := Option.map_eq_some_iff.mp latest
      have until_then : cached.expiresAt = last + ttlSecs := expires
      have due := stale cached held
      have order : earlier ≤ last := by
        rcases List.mem_cons.mp inside with rfl | older
        · exact Int.le_refl _
        · have gap := (List.pairwise_cons.mp spaced).1 earlier older
          rw [ttlSecs, refreshMargin] at gap
          omega
      rw [ttlSecs, refreshMargin] at *
      omega

theorem step_invariant (system : System) (act : Act) (inv : Invariant auth system) : Invariant auth (step auth system act) := by
  cases act with
  | readClock caller now =>
      cases state : system.callers caller with
      | waiting _ => simpa only [step, state] using inv
      | returned _ _ => simpa only [step, state] using inv
      | idle =>
          simp only [step, state]
          refine ⟨inv.claimed, inv.latest, inv.spaced, handed_update auth system inv caller _ ?_⟩
          intro reading token moved
          cases moved
  | enter caller salt =>
      cases state : system.callers caller with
      | idle => simpa only [step, state] using inv
      | returned _ _ => simpa only [step, state] using inv
      | waiting now =>
          simp only [step, state]
          rcases bearer_token_cases auth salt now system.cache with
            ⟨cached, held, early, answer, unsigned⟩ |
              ⟨stale, ⟨token, made, claim, answer, now_signed⟩ | ⟨error, failed, answer, unsigned⟩⟩
          · rw [answer, unsigned]
            refine ⟨inv.claimed, inv.latest, inv.spaced, handed_update auth system inv caller _ ?_⟩
            intro reading token moved
            cases moved
            exact ⟨cached.expiresAt, inv.claimed cached held, early⟩
          · rw [answer, now_signed]
            have spaced := List.pairwise_cons.mpr ⟨signings_before_stale auth system inv now stale, inv.spaced⟩
            refine ⟨?_, rfl, spaced, handed_update auth system inv caller _ ?_⟩
            · intro cached same
              cases same
              exact claim
            · intro reading other moved
              cases moved
              refine ⟨now + ttlSecs, claim, ?_⟩
              rw [ttlSecs, refreshMargin]
              omega
          · rw [answer, unsigned]
            refine ⟨inv.claimed, inv.latest, inv.spaced, handed_update auth system inv caller _ ?_⟩
            intro reading token moved
            cases moved

theorem run_invariant (acts : List Act) : Invariant auth (run auth start acts) := by
  induction acts using List.reverseRecOn with
  | nil => exact start_invariant auth
  | append_singleton acts act ih =>
      rw [run] at ih ⊢
      rw [List.foldl_append]
      exact step_invariant auth _ act ih

theorem step_expires (system : System) (act : Act) :
    (step auth system act).signings = system.signings ∧ (step auth system act).cache = system.cache ∨
      ∃ now, (step auth system act).signings = now :: system.signings ∧
        expiresAt (step auth system act) = some (now + ttlSecs) ∧
        ∀ before, expiresAt system = some before → before < now + ttlSecs := by
  cases act with
  | readClock caller now =>
      cases state : system.callers caller <;> exact .inl (by simp only [step, state, and_self])
  | enter caller salt =>
      cases state : system.callers caller with
      | idle => exact .inl (by simp only [step, state, and_self])
      | returned _ _ => exact .inl (by simp only [step, state, and_self])
      | waiting now =>
          simp only [step, state]
          rcases bearer_token_cases auth salt now system.cache with
            ⟨cached, held, early, answer, unsigned⟩ |
              ⟨stale, ⟨token, made, claim, answer, now_signed⟩ | ⟨error, failed, answer, unsigned⟩⟩
          · rw [answer, unsigned]
            exact .inl ⟨rfl, rfl⟩
          · rw [answer, now_signed]
            refine .inr ⟨now, rfl, rfl, ?_⟩
            intro before expires
            obtain ⟨cached, held, rfl⟩ := Option.map_eq_some_iff.mp expires
            have due := stale cached held
            rw [ttlSecs]
            rw [refreshMargin] at due
            omega
          · rw [answer, unsigned]
            exact .inl ⟨rfl, rfl⟩

theorem run_expires (system : System) (acts : List Act) (before : Int)
    (expires : expiresAt system = some before) :
    ∃ after, expiresAt (run auth system acts) = some after ∧ before ≤ after := by
  induction acts generalizing system before with
  | nil => exact ⟨before, expires, Int.le_refl _⟩
  | cons act rest ih =>
      rcases step_expires auth system act with ⟨_, same⟩ | ⟨now, _, raised, higher⟩
      · exact ih _ before (by rw [expiresAt, same]; exact expires)
      · obtain ⟨after, reached, order⟩ := ih _ _ raised
        have grown := higher before expires
        exact ⟨after, reached, by omega⟩

theorem failed_signing (system : System) (caller salt : Nat) (now : Int) (error : StackError)
    (waits : system.callers caller = .waiting now) (tried : AppStoreAuthenticator.fresh now system.cache = none)
    (failed : auth.sign salt now = .error error) :
    (step auth system (.enter caller salt)).cache = system.cache ∧
      (step auth system (.enter caller salt)).callers caller = .returned now (.error error) := by
  simp only [step, waits, AppStoreAuthenticator.bearerToken, tried, failed, Function.update_self, and_self]

theorem token_cache_invariant (acts : List Act) :
    (∀ cached, (run auth start acts).cache = some cached → expClaim auth cached.token = some cached.expiresAt) ∧
      (∀ more before, expiresAt (run auth start acts) = some before →
        ∃ after, expiresAt (run auth (run auth start acts) more) = some after ∧ before ≤ after) ∧
      (∀ act before, expiresAt (run auth start acts) = some before →
        (step auth (run auth start acts) act).signings ≠ (run auth start acts).signings →
        ∃ after, expiresAt (step auth (run auth start acts) act) = some after ∧ before < after) ∧
      (∀ caller now token, (run auth start acts).callers caller = .returned now (.ok token) →
        ∃ exp, expClaim auth token = some exp ∧ exp > now + 60) ∧
      ((run auth start acts).signings.Pairwise fun later earlier => earlier + 1140 ≤ later) ∧
      ∀ caller salt now error, (run auth start acts).callers caller = .waiting now →
        AppStoreAuthenticator.fresh now (run auth start acts).cache = none → auth.sign salt now = .error error →
        (step auth (run auth start acts) (.enter caller salt)).cache = (run auth start acts).cache ∧
          (step auth (run auth start acts) (.enter caller salt)).callers caller = .returned now (.error error) := by
  have inv := run_invariant auth acts
  refine ⟨inv.claimed, run_expires auth _, ?_, inv.handed, inv.spaced,
    fun caller salt now error => failed_signing auth _ caller salt now error⟩
  intro act before expires signs
  rcases step_expires auth _ act with ⟨same, _⟩ | ⟨now, _, raised, higher⟩
  · exact absurd same signs
  · exact ⟨_, raised, higher before expires⟩

def twoTokens : JsonWebToken where
  EncodingKey := Unit
  fromEcPem _ := .ok ()
  encode _ _ sent _ :=
    if sent = ⟨"issuer", 0, 1200, audience⟩ then .ok "first"
    else if sent = ⟨"issuer", 1140, 2340, audience⟩ then .ok "second"
    else .error "no entropy"
  claims token :=
    if token = "first" then some ⟨"issuer", 0, 1200, audience⟩
    else if token = "second" then some ⟨"issuer", 1140, 2340, audience⟩
    else none
  encoded := by
    intro salt header sent key token encoded
    split at encoded
    · cases encoded
      rw [if_pos rfl]
      exact congrArg some (Eq.symm ‹_›)
    · split at encoded
      · cases encoded
        rw [if_neg (by decide), if_pos rfl]
        exact congrArg some (Eq.symm ‹_›)
      · cases encoded

def twoTokenAuth : AppStoreAuthenticator := ⟨twoTokens, "issuer", "key", []⟩

-- Caller 0 reads the clock first and enters last, after caller 1 has signed.
def crossed : List Act := [.readClock 0 0, .readClock 1 1140, .enter 1 0, .enter 0 0]

theorem crossed_callers_served :
    (run twoTokenAuth start crossed).callers 0 = .returned 0 (.ok "second") ∧
      ∃ exp, expClaim twoTokenAuth "second" = some exp ∧ exp > 0 + 60 :=
  have served : (run twoTokenAuth start crossed).callers 0 = .returned 0 (.ok "second") := rfl
  ⟨served, (token_cache_invariant twoTokenAuth crossed).2.2.2.1 0 0 "second" served⟩

end StackConnect.TokenCache
