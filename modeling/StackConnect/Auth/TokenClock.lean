import StackConnect.Auth.TokenCache

set_option autoImplicit false

namespace StackConnect.TokenCache

-- The callers with a clock that only moves forward. `handed` is history: each
-- token that was returned, with what the clock showed in its critical section.
structure Timed where
  clock : Int
  system : System
  handed : List (Int × String)

inductive TimedAct where
  | advance (seconds : Nat)
  | readClock (caller : Nat)
  | enter (caller salt : Nat)

variable (auth : AppStoreAuthenticator)

def tokenHanded (timed : Timed) (caller salt : Nat) : List (Int × String) :=
  match timed.system.callers caller with
  | .waiting now =>
      match (auth.bearerToken salt now timed.system.cache).1 with
      | .ok token => [(timed.clock, token)]
      | .error _ => []
  | _ => []

def timedStep (timed : Timed) : TimedAct → Timed
  | .advance seconds => { timed with clock := timed.clock + seconds }
  | .readClock caller => { timed with system := step auth timed.system (.readClock caller timed.clock) }
  | .enter caller salt =>
      ⟨timed.clock, step auth timed.system (.enter caller salt), tokenHanded auth timed caller salt ++ timed.handed⟩

def timedRun (timed : Timed) (acts : List TimedAct) : Timed := acts.foldl (timedStep auth) timed

def timedStart (clock : Int) : Timed := ⟨clock, start, []⟩

theorem timed_run_cons (timed : Timed) (act : TimedAct) (rest : List TimedAct) :
    timedRun auth timed (act :: rest) = timedRun auth (timedStep auth timed act) rest := rfl

structure TimedInvariant (timed : Timed) : Prop where
  untimed : Invariant auth timed.system
  read : ∀ caller now, timed.system.callers caller = .waiting now → now ≤ timed.clock
  cached : ∀ cached, timed.system.cache = some cached → cached.expiresAt ≤ timed.clock + ttlSecs

theorem timed_start_invariant (clock : Int) : TimedInvariant auth (timedStart clock) where
  untimed := start_invariant auth
  read := nofun
  cached := nofun

theorem enter_waiting (system : System) (caller salt other : Nat) (now : Int)
    (waits : (step auth system (.enter caller salt)).callers other = .waiting now) : system.callers other = .waiting now := by
  rw [step] at waits
  split at waits
  · dsimp only at waits
    by_cases same : other = caller
    · rw [same, Function.update_self] at waits
      cases waits
    · rwa [Function.update_of_ne same] at waits
  · exact waits

theorem enter_cache (timed : Timed) (inv : TimedInvariant auth timed) (caller salt : Nat) (cached : CachedToken)
    (held : (step auth timed.system (.enter caller salt)).cache = some cached) :
    cached.expiresAt ≤ timed.clock + ttlSecs := by
  cases state : timed.system.callers caller with
  | idle =>
      simp only [step, state] at held
      exact inv.cached cached held
  | returned _ _ =>
      simp only [step, state] at held
      exact inv.cached cached held
  | waiting now =>
      simp only [step, state] at held
      have early := inv.read caller now state
      rcases bearer_token_cases auth salt now timed.system.cache with
        ⟨_, _, _, answer, _⟩ | ⟨_, ⟨token, _, _, answer, _⟩ | ⟨error, _, answer, _⟩⟩
      · rw [answer] at held
        exact inv.cached cached held
      · rw [answer] at held
        cases held
        change now + ttlSecs ≤ timed.clock + ttlSecs
        omega
      · rw [answer] at held
        exact inv.cached cached held

theorem read_waiting (system : System) (caller other : Nat) (clock now : Int)
    (waits : (step auth system (.readClock caller clock)).callers other = .waiting now) :
    now = clock ∨ system.callers other = .waiting now := by
  rw [step] at waits
  split at waits
  · dsimp only at waits
    by_cases same : other = caller
    · rw [same, Function.update_self] at waits
      cases waits
      exact .inl rfl
    · rw [Function.update_of_ne same] at waits
      exact .inr waits
  · exact .inr waits

theorem read_cache (system : System) (caller : Nat) (clock : Int) :
    (step auth system (.readClock caller clock)).cache = system.cache := by
  rw [step]
  split <;> rfl

theorem advance_invariant (timed : Timed) (seconds : Nat) (inv : TimedInvariant auth timed) :
    TimedInvariant auth { timed with clock := timed.clock + seconds } where
  untimed := inv.untimed
  read := by
    intro caller now waits
    have before := inv.read caller now waits
    dsimp only
    omega
  cached := by
    intro cached held
    have before := inv.cached cached held
    dsimp only
    omega

theorem timed_step_invariant (timed : Timed) (act : TimedAct) (inv : TimedInvariant auth timed) :
    TimedInvariant auth (timedStep auth timed act) := by
  cases act with
  | advance seconds => exact advance_invariant auth timed seconds inv
  | readClock caller =>
      have untimed := step_invariant auth timed.system (.readClock caller timed.clock) inv.untimed
      have read : ∀ other now, (step auth timed.system (.readClock caller timed.clock)).callers other = .waiting now →
          now ≤ timed.clock := by
        intro other now waits
        rcases read_waiting auth timed.system caller other timed.clock now waits with same | before
        · exact Int.le_of_eq same
        · exact inv.read other now before
      have cached : ∀ cached, (step auth timed.system (.readClock caller timed.clock)).cache = some cached →
          cached.expiresAt ≤ timed.clock + ttlSecs := by
        intro cached held
        rw [read_cache] at held
        exact inv.cached cached held
      exact ⟨untimed, read, cached⟩
  | enter caller salt =>
      have untimed := step_invariant auth timed.system (.enter caller salt) inv.untimed
      have read : ∀ other now, (step auth timed.system (.enter caller salt)).callers other = .waiting now →
          now ≤ timed.clock :=
        fun other now waits => inv.read other now (enter_waiting auth timed.system caller salt other now waits)
      exact ⟨untimed, read, enter_cache auth timed inv caller salt⟩

-- While the caller waited, the cached token it goes by did not enter its refresh
-- margin; and where a token is signed, the wait since the reading was short of the
-- lifetime less that margin.
def WaitHarmless (timed : Timed) : TimedAct → Prop
  | .enter caller salt => ∀ now, timed.system.callers caller = .waiting now →
      (∀ cached, timed.system.cache = some cached → now + refreshMargin < cached.expiresAt →
        timed.clock + refreshMargin < cached.expiresAt) ∧
      ((∀ cached, timed.system.cache = some cached → cached.expiresAt ≤ now + refreshMargin) →
        (∃ token, auth.sign salt now = .ok token) → timed.clock - now < ttlSecs - refreshMargin)
  | _ => True

def WaitsHarmless : Timed → List TimedAct → Prop
  | _, [] => True
  | timed, act :: rest => WaitHarmless auth timed act ∧ WaitsHarmless (timedStep auth timed act) rest

def HandedFresh (handed : Int × String) : Prop :=
  ∃ exp, expClaim auth handed.2 = some exp ∧ handed.1 + 60 < exp ∧ exp ≤ handed.1 + 1200

theorem handed_fresh (clock exp : Int) (token : String) (claims : expClaim auth token = some exp) (capped : exp ≤ clock + ttlSecs) :
    HandedFresh auth (clock, token) ↔ clock + refreshMargin < exp := by
  rw [ttlSecs] at capped
  rw [refreshMargin]
  constructor
  · intro fresh
    obtain ⟨other, same, early, _⟩ := fresh
    cases Option.some.inj (claims.symm.trans same)
    exact early
  · intro early
    exact ⟨exp, claims, early, capped⟩

def HarmlessWait (clock now : Int) (salt : Nat) (cache : Option CachedToken) : Prop :=
  (∀ cached, cache = some cached → now + refreshMargin < cached.expiresAt → clock + refreshMargin < cached.expiresAt) ∧
    ((∀ cached, cache = some cached → cached.expiresAt ≤ now + refreshMargin) →
      (∃ token, auth.sign salt now = .ok token) → clock - now < ttlSecs - refreshMargin)

theorem harmless_waiting (timed : Timed) (caller salt : Nat) (now : Int) (waits : timed.system.callers caller = .waiting now) :
    WaitHarmless auth timed (.enter caller salt) ↔ HarmlessWait auth timed.clock now salt timed.system.cache := by
  constructor
  · intro all
    exact all now waits
  · intro here other again
    cases waits.symm.trans again
    exact here

theorem harmless_cached (clock now : Int) (salt : Nat) (cached : CachedToken) (good : now + refreshMargin < cached.expiresAt) :
    HarmlessWait auth clock now salt (some cached) ↔ clock + refreshMargin < cached.expiresAt := by
  constructor
  · intro harmless
    exact harmless.1 cached rfl good
  · intro still
    have kept : ∀ other, some cached = some other → now + refreshMargin < other.expiresAt →
        clock + refreshMargin < other.expiresAt := by
      intro other same _
      cases same
      exact still
    have unsigned : ¬ ∀ other, some cached = some other → other.expiresAt ≤ now + refreshMargin := by
      intro old
      have stale := old cached rfl
      omega
    exact ⟨kept, fun old => absurd old unsigned⟩

theorem harmless_signed (clock now : Int) (salt : Nat) (cache : Option CachedToken) (token : String)
    (stale : ∀ cached, cache = some cached → cached.expiresAt ≤ now + refreshMargin)
    (made : auth.sign salt now = .ok token) :
    HarmlessWait auth clock now salt cache ↔ clock - now < ttlSecs - refreshMargin := by
  constructor
  · intro harmless
    exact harmless.2 stale ⟨token, made⟩
  · intro short
    have unheld : ∀ cached, cache = some cached → now + refreshMargin < cached.expiresAt →
        clock + refreshMargin < cached.expiresAt := by
      intro cached held good
      have old := stale cached held
      omega
    exact ⟨unheld, fun _ _ => short⟩

theorem harmless_unsigned (clock now : Int) (salt : Nat) (cache : Option CachedToken) (error : StackError)
    (stale : ∀ cached, cache = some cached → cached.expiresAt ≤ now + refreshMargin)
    (failed : auth.sign salt now = .error error) : HarmlessWait auth clock now salt cache := by
  constructor
  · intro cached held good
    have old := stale cached held
    omega
  · intro _ made
    obtain ⟨token, made⟩ := made
    cases failed.symm.trans made

theorem idle_handed (timed : Timed) (caller salt : Nat) (idle : ∀ now, timed.system.callers caller ≠ .waiting now) :
    (timedStep auth timed (.enter caller salt)).handed = timed.handed ∧ WaitHarmless auth timed (.enter caller salt) := by
  have nothing : tokenHanded auth timed caller salt = [] := by
    rw [tokenHanded]
    split
    · rename_i now waits
      exact absurd waits (idle now)
    · rfl
  have same : (timedStep auth timed (.enter caller salt)).handed = timed.handed := by
    rw [timedStep, nothing]
    rfl
  exact ⟨same, fun now waits => absurd waits (idle now)⟩

theorem token_handed (timed : Timed) (caller salt : Nat) (now : Int) (token : String)
    (waits : timed.system.callers caller = .waiting now)
    (answer : (auth.bearerToken salt now timed.system.cache).1 = .ok token) :
    (timedStep auth timed (.enter caller salt)).handed = (timed.clock, token) :: timed.handed := by
  rw [timedStep, tokenHanded, waits]
  dsimp only
  rw [answer]
  rfl

theorem error_handed (timed : Timed) (caller salt : Nat) (now : Int) (error : StackError)
    (waits : timed.system.callers caller = .waiting now)
    (answer : (auth.bearerToken salt now timed.system.cache).1 = .error error) :
    (timedStep auth timed (.enter caller salt)).handed = timed.handed := by
  rw [timedStep, tokenHanded, waits]
  dsimp only
  rw [answer]
  rfl

theorem timed_step_handed (timed : Timed) (act : TimedAct) (inv : TimedInvariant auth timed) :
    ((timedStep auth timed act).handed = timed.handed ∧ WaitHarmless auth timed act) ∨
      ∃ token, (timedStep auth timed act).handed = (timed.clock, token) :: timed.handed ∧
        (HandedFresh auth (timed.clock, token) ↔ WaitHarmless auth timed act) := by
  cases act with
  | advance seconds => exact .inl ⟨rfl, trivial⟩
  | readClock caller => exact .inl ⟨rfl, trivial⟩
  | enter caller salt =>
      cases state : timed.system.callers caller with
      | idle => exact .inl (idle_handed auth timed caller salt (by simp [state]))
      | returned _ _ => exact .inl (idle_handed auth timed caller salt (by simp [state]))
      | waiting now =>
          have early := inv.read caller now state
          rw [harmless_waiting auth timed caller salt now state]
          rcases bearer_token_cases auth salt now timed.system.cache with
            ⟨cached, held, good, answer, _⟩ | ⟨stale, ⟨token, made, claims, answer, _⟩ | ⟨error, failed, answer, _⟩⟩
          · have fresh := handed_fresh auth timed.clock cached.expiresAt cached.token (inv.untimed.claimed cached held)
              (inv.cached cached held)
            have harmless := harmless_cached auth timed.clock now salt cached good
            rw [← held] at harmless
            exact .inr ⟨cached.token, token_handed auth timed caller salt now cached.token state (by rw [answer]),
              fresh.trans harmless.symm⟩
          · have fresh := handed_fresh auth timed.clock (now + ttlSecs) token claims (by omega)
            have short : timed.clock + refreshMargin < now + ttlSecs ↔ timed.clock - now < ttlSecs - refreshMargin := by
              omega
            have harmless := harmless_signed auth timed.clock now salt timed.system.cache token stale made
            exact .inr ⟨token, token_handed auth timed caller salt now token state (by rw [answer]),
              fresh.trans (short.trans harmless.symm)⟩
          · have same := error_handed auth timed caller salt now error state (by rw [answer])
            exact .inl ⟨same, harmless_unsigned auth timed.clock now salt timed.system.cache error stale failed⟩

theorem timed_run_handed (acts : List TimedAct) (timed : Timed) (inv : TimedInvariant auth timed) :
    (∀ handed ∈ (timedRun auth timed acts).handed, HandedFresh auth handed) ↔
      (∀ handed ∈ timed.handed, HandedFresh auth handed) ∧ WaitsHarmless auth timed acts := by
  induction acts generalizing timed with
  | nil =>
      rw [WaitsHarmless, and_true]
      exact Iff.rfl
  | cons act rest ih =>
      rw [timed_run_cons, ih _ (timed_step_invariant auth timed act inv), WaitsHarmless]
      rcases timed_step_handed auth timed act inv with ⟨same, harmless⟩ | ⟨token, more, fresh⟩
      · rw [same]
        simp only [harmless, true_and]
      · rw [more, List.forall_mem_cons, fresh]
        rw [and_assoc, and_left_comm]

theorem handed_tokens_fresh_iff (clock : Int) (acts : List TimedAct) :
    (∀ time token, (time, token) ∈ (timedRun auth (timedStart clock) acts).handed →
        ∃ exp, expClaim auth token = some exp ∧ time + 60 < exp ∧ exp ≤ time + 1200) ↔
      WaitsHarmless auth (timedStart clock) acts := by
  have whole := timed_run_handed auth acts (timedStart clock) (timed_start_invariant auth clock)
  rw [show (timedStart clock).handed = [] from rfl] at whole
  simp only [List.not_mem_nil, false_implies, implies_true, true_and] at whole
  rw [← whole]
  constructor
  · intro all handed inside
    exact all handed.1 handed.2 inside
  · intro all time token inside
    exact all (time, token) inside

def overslept : List TimedAct :=
  [.readClock 0, .enter 0 0, .advance 1139, .readClock 1, .advance 61, .enter 1 0]

theorem expired_token_handed :
    ¬ ∀ time token, (time, token) ∈ (timedRun twoTokenAuth (timedStart 0) overslept).handed →
      ∃ exp, expClaim twoTokenAuth token = some exp ∧ time + 60 < exp ∧ exp ≤ time + 1200 := by
  intro all
  have inside : (1200, "first") ∈ (timedRun twoTokenAuth (timedStart 0) overslept).handed := List.mem_cons_self
  obtain ⟨exp, claims, early, _⟩ := all 1200 "first" inside
  have claimed : expClaim twoTokenAuth "first" = some 1200 := rfl
  cases Option.some.inj (claimed.symm.trans claims)
  omega

end StackConnect.TokenCache
