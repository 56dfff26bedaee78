import StackConnect.AppStore.Writers

set_option autoImplicit false

namespace StackConnect

open Interaction Serde

variable {ι P S : Type}

def changeOf : ι × Event Answer → Option (ι × Request × Reply)
  | (who, ⟨.send request, reply⟩) => if request.method ≠ .get then some (who, request, reply) else none
  | _ => none

def changesOf (history : List (ι × Event Answer)) : List (ι × Request × Reply) := history.filterMap changeOf

def SharedServer.Performs (server : SharedServer S) : S → List (ι × Request × Reply) → S → Prop
  | state, [], final => final = state
  | state, (_, request, reply) :: rest, final =>
      reply = (server.serve request state).1 ∧ server.Performs (server.serve request state).2 rest final

theorem performs_snoc (server : SharedServer S) (state reached : S) (order : List (ι × Request × Reply)) (who : ι)
    (request : Request) (performed : server.Performs state order reached) :
    server.Performs state (order ++ [(who, request, (server.serve request reached).1)]) (server.serve request reached).2 := by
  induction order generalizing state with
  | nil =>
      cases performed
      exact ⟨rfl, rfl⟩
  | cons change rest ih => exact ⟨performed.1, ih _ performed.2⟩

variable [DecidableEq ι]

theorem changes_met (thread : ι) (history : List (ι × Event Answer)) :
    changes (metBy thread history) = metBy thread (changesOf history) := by
  induction history with
  | nil => rfl
  | cons entry rest ih =>
      obtain ⟨who, query, answer⟩ := entry
      by_cases mine : who = thread
      · subst mine
        rw [met_by_own]
        cases query with
        | bearerToken => exact ih
        | stream request => exact ih
        | send request =>
            by_cases get : request.method = .get
            · simpa [changes, exchanges, changesOf, changeOf, get] using ih
            · simpa [changes, exchanges, changesOf, changeOf, get, metBy] using ih
      · rw [met_by_other _ _ _ _ mine, ih]
        cases query with
        | bearerToken => rfl
        | stream request => rfl
        | send request =>
            by_cases get : request.method = .get
            · simp [changesOf, changeOf, get]
            · simp [changesOf, changeOf, get, metBy, mine]

section Calls

variable (clients : ι → AppStoreClient) (fuel : ι → Nat) (operations : ι → Operation) (server : SharedServer S)
  (sign : ι → P → Except String String × P)

theorem turn_performs (reached : CallWorld ι P S) (thread : ι) :
    (changesOf (turn (servedBy server sign) reached thread).history = changesOf reached.history ∧
        (turn (servedBy server sign) reached thread).state = reached.state) ∨
      ∃ request, changesOf (turn (servedBy server sign) reached thread).history =
          changesOf reached.history ++ [(thread, request, (server.serve request reached.state).1)] ∧
        (turn (servedBy server sign) reached thread).state = (server.serve request reached.state).2 := by
  rcases turn_cases (servedBy server sign) reached thread with ⟨_, same⟩ | ⟨query, next, _, stepped⟩
  · rw [same]
    exact .inl ⟨rfl, rfl⟩
  · rw [stepped, answered_state, World.answered, changesOf, List.filterMap_append]
    cases query with
    | bearerToken => exact .inl ⟨List.append_nil _, rfl⟩
    | stream request => exact .inl ⟨List.append_nil _, rfl⟩
    | send request =>
        by_cases get : request.method = .get
        · refine .inl ⟨?_, server.looks request reached.state get⟩
          simp [changesOf, changeOf, get]
        · refine .inr ⟨request, ?_, rfl⟩
          simp [changesOf, changeOf, get, SharedServer.facing]

theorem calls_performed (held : ι → P) (state : S) (schedule : List ι) :
    server.Performs state
      (changesOf (play (servedBy server sign) schedule (callsBegin clients fuel operations held state)).history)
      (play (servedBy server sign) schedule (callsBegin clients fuel operations held state)).state := by
  refine play_keeps (servedBy server sign) _ (fun reached => server.Performs state (changesOf reached.history) reached.state)
    ?_ schedule rfl
  intro reached thread performed
  rcases turn_performs server sign reached thread with ⟨asked, moved⟩ | ⟨request, asked, moved⟩
  · rwa [asked, moved]
  · rw [asked, moved]
    exact performs_snoc server state reached.state _ thread request performed

theorem call_met (held : ι → P) (state : S) (schedule : List ι) (thread : ι) :
    let final := play (servedBy server sign) schedule (callsBegin clients fuel operations held state)
    (∃ rest outcome, Runs ((operations thread).call (clients thread) (fuel thread)) (final.seen thread ++ rest) outcome) ∧
      ∀ result, final.programs thread = .done result →
        Runs ((operations thread).call (clients thread) (fuel thread)) (final.seen thread) (some result) := by
  intro final
  have begun := begun_runs (servedBy server sign) (fun thread => (operations thread).call (clients thread) (fuel thread))
    held state schedule thread
  refine ⟨⟨_, _, begun _ _ (exec_runs (servedBy server sign thread) _ (final.held thread, final.state))⟩, ?_⟩
  intro result ended
  have whole := begun [] (some result) (by
    rw [show (play (servedBy server sign) schedule (World.begin _ held state)).programs thread = .done result from ended]
    exact .done result)
  rwa [List.append_nil] at whole

-- What the calls leave behind. The server performed their changes one after the
-- other, a single change is made once at most, and success means it was granted.
structure InOneOrder (state : S) (final : CallWorld ι P S) : Prop where
  performed : server.Performs state (changesOf final.history) final.state
  once : ∀ thread, (operations thread).single = true → (metBy thread (changesOf final.history)).length ≤ 1
  looks : ∀ thread, (operations thread).reads = true → metBy thread (changesOf final.history) = []
  granted : ∀ thread returned, (operations thread).single = true → final.programs thread = .done (.ok returned) →
    ∀ change ∈ metBy thread (changesOf final.history), Granted change.2
  acted : ∀ thread returned, (operations thread).acts = true → final.programs thread = .done (.ok returned) →
    metBy thread (changesOf final.history) ≠ []

theorem changes_in_one_order (held : ι → P) (state : S) (schedule : List ι) :
    InOneOrder operations server state (play (servedBy server sign) schedule (callsBegin clients fuel operations held state)) where
  performed := calls_performed clients fuel operations server sign held state schedule
  once thread single := by
    obtain ⟨⟨rest, outcome, run⟩, _⟩ := call_met clients fuel operations server sign held state schedule thread
    have most := (call_asks_once (clients thread) (fuel thread) (operations thread) single).once _ outcome run
    rw [changes_append, List.length_append] at most
    rw [← changes_met]
    exact le_trans (Nat.le_add_right _ _) most
  looks thread reads := by
    obtain ⟨⟨rest, outcome, run⟩, _⟩ := call_met clients fuel operations server sign held state schedule thread
    have none := looking_changes _ (reading_calls_look (clients thread) (fuel thread) (operations thread) reads) _ outcome run
    rw [changes_append] at none
    rw [← changes_met]
    exact (List.append_eq_nil_iff.mp none).1
  granted thread returned single succeeded := by
    obtain ⟨_, whole⟩ := call_met clients fuel operations server sign held state schedule thread
    rw [← changes_met]
    exact (call_asks_once (clients thread) (fuel thread) (operations thread) single).granted _ returned
      (whole (.ok returned) succeeded)
  acted thread returned acts succeeded := by
    obtain ⟨_, whole⟩ := call_met clients fuel operations server sign held state schedule thread
    rw [← changes_met]
    exact (call_acts (clients thread) (fuel thread) (operations thread) acts).asked _ returned (whole (.ok returned) succeeded)

end Calls

def overtaking : Nat → Operation
  | 0 => .localization (.deleteAppInfoLocalization "l1")
  | 1 => .provisioning (.deleteProfile "p1")
  | _ => .app .validate

def overtaken : CallWorld Nat Unit Nat :=
  play (servedBy countingServer fun _ => plainSign) [0, 1, 2, 1, 2, 0]
    (callsBegin (fun _ => plainClient) (fun _ => 0) overtaking (fun _ => ()) 0)

theorem overtaken_performed : overtaken.state = 2 ∧ (changesOf overtaken.history).map Prod.fst = [1, 0] ∧
    metBy 0 (changesOf overtaken.history) ≠ [] :=
  have performed := changes_in_one_order (fun _ => plainClient) (fun _ => 0) overtaking countingServer (fun _ => plainSign)
    (fun _ => ()) 0 [0, 1, 2, 1, 2, 0]
  ⟨rfl, rfl, performed.acted 0 ⟨overtaking 0, ()⟩ rfl rfl⟩

end StackConnect
