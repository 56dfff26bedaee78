import StackConnect.AppStore.DebugLog
import StackConnect.Frb.SyncApps

set_option autoImplicit false

namespace StackConnect

open Interaction

-- The operations that the second binding leaves out.
def Operation.bound : Operation → Bool
  | submission (.fetchReviewSubmissions _) | submission (.submitReviewSubmission _) => false
  | submission (.discardReviewSubmission _) | review (.deleteReviewResponse _) => false
  | user (.updateUser _ _ _ _) | user (.fetchUserVisibleApps _) | user (.updateUserVisibleApps _ _) => false
  | _ => true

-- A call of the binding: an operation of its provider, or a sync of its sync
-- service, which hands its saves to the host's persist callback once the lines
-- are flushed and the result is known to be no error.
inductive FrbCall where
  | provider (operation : Operation) (bound : operation.bound = true)
  | syncApps (accountId : String)

abbrev FrbCall.Result : FrbCall → Type
  | provider operation _ => operation.Result
  | syncApps _ => Except StackError (List AppInfo) × List BlobSave

abbrev FrbReturned := Σ call : FrbCall, call.Result

def FrbCall.run (client : AppStoreClient) (fuel : Nat) : (call : FrbCall) → Async call.Result
  | provider operation _ => operation.run client fuel
  | syncApps accountId => (SyncService.syncApps ⟨client, accountId⟩ fuel).handled buffering []

def FrbCall.logged (debug : DebugClient) (fuel : Nat) : (call : FrbCall) → Logged call.Result
  | provider operation _ => operation.logged debug fuel
  | syncApps accountId => debug.traced ((SyncService.syncApps ⟨debug.client, accountId⟩ fuel).handled buffering [])

variable (debug : DebugClient) (fuel : Nat)

-- The calls of a host: against a provider without a logger, against one with a
-- logger of its own, and through the binding, which buffers the lines of each
-- call and flushes them when it is over.
def plainCalls (calls : List FrbCall) : List (Async FrbReturned) :=
  calls.map fun call => do
    let value ← call.run debug.client fuel
    pure ⟨call, value⟩

def loggedCalls (calls : List FrbCall) : List (Logged FrbReturned) :=
  calls.map fun call => do
    let value ← call.logged debug fuel
    pure ⟨call, value⟩

def plainSession (calls : List FrbCall) : Async (List (Except StackError FrbReturned)) := callEach (plainCalls debug fuel calls)

def hostSession (calls : List FrbCall) : Logged (List (Except StackError FrbReturned)) := callEach (loggedCalls debug fuel calls)

def frbSession (debugLogging : Bool) (calls : List FrbCall) : Logged (List (Except StackError FrbReturned)) :=
  match debugLogging with
  | true => bufferEach [] (loggedCalls debug fuel calls)
  | false => (plainSession debug fuel calls).left

theorem call_follows (call : FrbCall) :
    Follows debug (call.logged debug fuel >>= fun value => (pure ⟨call, value⟩ : Logged FrbReturned))
      (call.run debug.client fuel >>= fun value => pure ⟨call, value⟩) := by
  apply follows_bind
  · cases call with
    | provider operation bound => exact operation_follows debug fuel operation
    | syncApps accountId => exact follows_traced debug _
  · exact fun value => follows_done debug _

variable {S T : Type}

structure SameTraffic {α : Type} (silent : Run Answer StackError α S) (loud : Run (Heard Answer DebugLine) StackError α (S × T)) :
    Prop where
  outcome : loud.outcome = silent.outcome
  state : loud.state.1 = silent.state
  heard : lefts loud.trace = silent.trace

def logger (write : T → String → T) : Handler (Told : DebugLine → Type) T :=
  sinking fun held line => write held (debug.text line)

theorem session_muted (calls : List FrbCall) : (hostSession debug fuel calls).muted = plainSession debug fuel calls := by
  rw [hostSession, plainSession, muted_call_each, loggedCalls, plainCalls, List.map_map]
  exact congrArg callEach (List.map_congr_left fun call _ => (call_follows debug fuel call).muted)

theorem session_reports (calls : List FrbCall) : Reports debug.lines DebugLine.isNote (hostSession debug fuel calls) := by
  apply reports_call_each
  intro program inside
  obtain ⟨call, _, rfl⟩ := List.mem_map.mp inside
  exact (call_follows debug fuel call).reports

-- Logging changes nothing else, the log is the traffic, and the binding hands on
-- what a logger of the host is told.
theorem bindings_log_alike (calls : List FrbCall) (outer : Handler Answer S) (write : T → String → T) (state : S) (held : T) :
    let silent := exec outer (plainSession debug fuel calls) state
    let host := exec (outer.beside (logger debug write)) (hostSession debug fuel calls) (state, held)
    let frb := fun debugLogging =>
      exec (outer.beside (logger debug write)) (frbSession debug fuel debugLogging calls) (state, held)
    (SameTraffic silent host ∧ SameTraffic silent (frb true) ∧ SameTraffic silent (frb false)) ∧
      ((told host.trace).filter fun line => !line.isNote) = silent.trace.flatMap debug.lines ∧
      host.state.2 = (told host.trace).foldl (fun held line => write held (debug.text line)) held ∧
      (silent.outcome ≠ none → told (frb true).trace = told host.trace ∧ (frb true).state.2 = host.state.2) ∧
      told (frb false).trace = [] ∧ (frb false).state.2 = held := by
  intro silent host frb
  have muted := spoken_muted outer (hostSession debug fuel calls) state
  rw [session_muted] at muted
  have hosted : host = _ := exec_sinking outer (fun held line => write held (debug.text line)) (hostSession debug fuel calls) state held
  have flushed : frb true = _ := exec_sinking outer (fun held line => write held (debug.text line))
    (bufferEach [] (loggedCalls debug fuel calls)) state held
  have unlogged : frb false = _ := exec_left outer (logger debug write) (plainSession debug fuel calls) state held
  have alike : Alike _ (spoken outer (hostSession debug fuel calls) state) :=
    alike_buffer_each outer (loggedCalls debug fuel calls) state
  have reported := session_reports debug fuel calls host.trace host.outcome (exec_runs (outer.beside (logger debug write)) _ _)
  have same : SameTraffic silent host := by
    rw [hosted]
    exact ⟨muted.1, muted.2.1, muted.2.2⟩
  refine ⟨⟨same, ?_, ?_⟩, ?_, ?_, ?_, ?_, ?_⟩
  · rw [flushed]
    exact ⟨alike.outcome.trans muted.1, alike.state.trans muted.2.1, alike.heard.trans muted.2.2⟩
  · rw [unlogged]
    exact ⟨rfl, rfl, lefts_on_left silent.trace⟩
  · rw [← same.heard]
    exact reported
  · rw [hosted]
  · intro returned
    have lines := alike.said (by rwa [muted.1])
    rw [flushed, hosted]
    exact ⟨lines, congrArg (List.foldl (fun held line => write held (debug.text line)) held) lines⟩
  · rw [unlogged]
    exact told_on_left silent.trace
  · rw [unlogged]

end StackConnect
