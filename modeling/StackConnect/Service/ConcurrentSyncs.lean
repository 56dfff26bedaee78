import StackConnect.Interaction.Parallel
import StackConnect.Service.Sync

set_option autoImplicit false

namespace StackConnect

open Interaction Serde

abbrev StoreTrace := List (Event (Sum.elim Answer Stored))

def savesOf (trace : StoreTrace) : List BlobSave :=
  trace.filterMap fun
    | ⟨.inl _, _⟩ => none
    | ⟨.inr saved, _⟩ => some saved

theorem saves_of_append (first second : StoreTrace) : savesOf (first ++ second) = savesOf first ++ savesOf second :=
  List.filterMap_append

theorem runs_left_saves {α : Type} (program : Async α) (trace : StoreTrace) (outcome : Option (Except StackError α))
    (run : Runs (program.left : WithStore α) trace outcome) : savesOf trace = [] := by
  induction program generalizing trace with
  | done result =>
      obtain ⟨rfl, _⟩ := (runs_done _ _ _).mp run
      rfl
  | cut =>
      obtain ⟨rfl, _⟩ := (runs_cut _ _).mp run
      rfl
  | ask query next ih =>
      obtain ⟨answer, rest, rfl, ran⟩ := (runs_ask _ _ _ _).mp run
      exact ih answer rest ran

theorem runs_saves (saves : AppInfo → BlobSave) (apps : List AppInfo) (trace : StoreTrace)
    (outcome : Option (Except StackError PUnit)) (run : Runs (apps.forM fun app => saveBlob (saves app)) trace outcome) :
    savesOf trace = apps.map saves ∧ outcome = some (.ok ⟨⟩) := by
  induction apps generalizing trace with
  | nil =>
      obtain ⟨rfl, rfl⟩ := (runs_done _ _ _).mp run
      exact ⟨rfl, rfl⟩
  | cons app rest ih =>
      obtain ⟨answer, later, rfl, ran⟩ := (runs_ask _ _ _ _).mp run
      obtain ⟨saved, ended⟩ := ih later ran
      exact ⟨congrArg (saves app :: ·) saved, ended⟩

def savedIn (service : SyncService) : Option (Except StackError (List AppInfo)) → List BlobSave
  | some (.ok apps) => apps.map service.appSave
  | _ => []

theorem runs_sync_saves (service : SyncService) (fuel : Nat) (trace : StoreTrace)
    (outcome : Option (Except StackError (List AppInfo))) (run : Runs (service.syncApps fuel) trace outcome) :
    savesOf trace = savedIn service outcome := by
  rcases runs_bind _ _ _ _ run with ⟨apps, first, second, rfl, fetched, after⟩ | ⟨failure, fetched, rfl⟩ | ⟨fetched, rfl⟩
  · have fetching := runs_left_saves _ first _ fetched
    rcases runs_bind _ _ _ _ after with ⟨_, saving, last, rfl, saved, given⟩ | ⟨failure, saved, rfl⟩ | ⟨saved, rfl⟩
    · obtain ⟨rfl, rfl⟩ := (runs_done _ _ _).mp given
      rw [saves_of_append, saves_of_append, fetching, (runs_saves _ _ _ _ saved).1]
      exact List.append_nil _
    · cases (runs_saves _ _ _ _ saved).2
    · cases (runs_saves _ _ _ _ saved).2
  · exact runs_left_saves _ trace _ fetched
  · exact runs_left_saves _ trace _ fetched

def performed (store : BlobStore) : Event (Sum.elim Answer Stored) → BlobStore
  | ⟨.inl _, _⟩ => store
  | ⟨.inr saved, _⟩ => store.save saved

theorem performed_all (trace : StoreTrace) (store : BlobStore) :
    trace.foldl performed store = store.saveAll (savesOf trace) := by
  induction trace generalizing store with
  | nil => rfl
  | cons event rest ih =>
      rcases event with ⟨_ | saved, answer⟩
      · exact ih store
      · exact ih (store.save saved)

section Concurrent

variable {ι P : Type} [DecidableEq ι] (services : ι → SyncService) (servers : ι → Handler Answer P) (fuel : ι → Nat)

-- Each sync talks to the App Store with its own account; the blob store is one.
abbrev SyncWorld (ι P : Type) := World ι (Query ⊕ BlobSave) (Sum.elim Answer Stored) StackError (List AppInfo) P BlobStore

def hosting (thread : ι) : Handler (Sum.elim Answer Stored) (P × BlobStore) := (servers thread).beside storing

def syncsBegin (held : ι → P) (store : BlobStore) : SyncWorld ι P :=
  .begin (fun thread => (services thread).syncApps (fuel thread)) held store

def syncAlone (held : ι → P) (store : BlobStore) (thread : ι) :
    Run (Sum.elim Answer Stored) StackError (List AppInfo) (P × BlobStore) :=
  exec (hosting servers thread) ((services thread).syncApps (fuel thread)) (held thread, store)

omit [DecidableEq ι] in
theorem hosting_blind (thread : ι) : Blind (hosting servers thread) := by
  intro query held first second
  cases query <;> exact ⟨rfl, rfl⟩

omit [DecidableEq ι] in
theorem hosting_performs (thread : ι) (query : Query ⊕ BlobSave) (held : P) (shared : BlobStore) :
    ((hosting servers thread).answer query (held, shared)).2.2 =
      performed shared ⟨query, ((hosting servers thread).answer query (held, shared)).1⟩ := by
  cases query <;> rfl

theorem syncs_state (held : ι → P) (store : BlobStore) (schedule : List ι) :
    (play (hosting servers) schedule (syncsBegin services fuel held store)).state =
      store.saveAll (savesOf ((play (hosting servers) schedule (syncsBegin services fuel held store)).history.map Prod.snd)) := by
  rw [← performed_all]
  exact play_state (hosting servers) performed (hosting_performs servers) _ store rfl schedule

theorem sync_ends (held : ι → P) (store : BlobStore) (schedule : List ι) (thread : ι)
    (enough : (syncAlone services servers fuel held store thread).trace.length ≤ schedule.count thread) :
    (play (hosting servers) schedule (syncsBegin services fuel held store)).programs thread =
        .stop (syncAlone services servers fuel held store thread).outcome ∧
      savesOf ((play (hosting servers) schedule (syncsBegin services fuel held store)).seen thread) =
        savedIn (services thread) (syncAlone services servers fuel held store thread).outcome := by
  have view := blind_play (hosting servers) (hosting_blind servers) (syncsBegin services fuel held store) schedule thread store
  have begun : (syncsBegin services fuel held store).alone (hosting servers) thread store =
      syncAlone services servers fuel held store thread := rfl
  rw [begun] at view
  have stopped := play_finishes (hosting servers) (syncsBegin services fuel held store) thread schedule store (by
    rw [view.trace]
    exact enough.trans (Nat.le_add_left _ _))
  obtain ⟨ended, whole⟩ := stopped_alone (hosting servers) _ thread store stopped
  rw [view.outcome] at ended
  refine ⟨ended, ?_⟩
  have met : ((play (hosting servers) schedule (syncsBegin services fuel held store)).alone (hosting servers) thread
      store).trace = (play (hosting servers) schedule (syncsBegin services fuel held store)).seen thread := by
    rw [whole]
  rw [← met, view.trace]
  exact runs_sync_saves (services thread) (fuel thread) _ _ (exec_runs _ _ _)

theorem save_made (history : List (ι × Event (Sum.elim Answer Stored))) (before after : List BlobSave) (saved : BlobSave)
    (split : savesOf (history.map Prod.snd) = before ++ saved :: after) :
    ∃ thread earlier later, savesOf (metBy thread history) = earlier ++ saved :: later ∧ ∀ other ∈ later, other ∈ after := by
  obtain ⟨first, rest, same, _, ofRest⟩ := List.filterMap_eq_append_iff.mp split
  obtain ⟨skipped, event, last, rfl, _, ofEvent, ofLast⟩ := List.filterMap_eq_cons_iff.mp ofRest
  rw [← List.append_assoc] at same
  obtain ⟨old, new, rfl, _, ofNew⟩ := List.map_eq_append_iff.mp same
  obtain ⟨⟨thread, found⟩, newer, rfl, rfl, rfl⟩ := List.map_eq_cons_iff.mp ofNew
  refine ⟨thread, savesOf (metBy thread old), savesOf (metBy thread newer), ?_, ?_⟩
  · rcases found with ⟨_ | made, answer⟩
    · cases ofEvent
    · cases Option.some.inj ofEvent
      rw [met_by_append, met_by_own, saves_of_append]
      rfl
  · intro other inside
    rw [← ofLast]
    obtain ⟨event, met, same⟩ := List.mem_filterMap.mp inside
    exact List.mem_filterMap.mpr ⟨event, met_by_inside thread newer event met, same⟩

def LeftBySome (held : ι → P) (store : BlobStore) (key : String × String) (blob : Option String) : Prop :=
  (blob = store key ∧ ∀ thread apps, (syncAlone services servers fuel held store thread).outcome = some (.ok apps) →
      ∀ app ∈ apps, (blobTypeApp, app.id) ≠ key) ∨
    ∃ thread earlier app later,
      (syncAlone services servers fuel held store thread).outcome = some (.ok (earlier ++ app :: later)) ∧
        (blobTypeApp, app.id) = key ∧ (∀ other ∈ later, other.id ≠ app.id) ∧
        blob = some ((services thread).provider.crates.serdeJson.print ((services thread).appBlob app).serialize)

theorem concurrent_syncs (held : ι → P) (store : BlobStore) (schedule : List ι)
    (enough : ∀ thread, (syncAlone services servers fuel held store thread).trace.length ≤ schedule.count thread) :
    let final := play (hosting servers) schedule (syncsBegin services fuel held store)
    (∀ thread, final.programs thread = .stop (syncAlone services servers fuel held store thread).outcome) ∧
      ∀ key, LeftBySome services servers fuel held store key (final.state key) := by
  intro final
  have ends := fun thread => sync_ends services servers fuel held store schedule thread (enough thread)
  refine ⟨fun thread => (ends thread).1, fun key => ?_⟩
  have reached : final.state = store.saveAll (savesOf (final.history.map Prod.snd)) :=
    syncs_state services servers fuel held store schedule
  rw [reached]
  rcases BlobStore.last_with_key (savesOf (final.history.map Prod.snd)) key with unmatched | ⟨before, saved, after, split, rfl, last⟩
  · refine .inl ⟨store.save_all_untouched _ key unmatched, ?_⟩
    intro thread apps fetched app listed
    have mine := (ends thread).2
    rw [fetched] at mine
    have inside : (services thread).appSave app ∈ savesOf (final.seen thread) := by
      rw [mine]
      exact List.mem_map_of_mem listed
    obtain ⟨event, met, same⟩ := List.mem_filterMap.mp inside
    exact unmatched _ (List.mem_filterMap.mpr ⟨event, met_by_inside thread _ event met, same⟩)
  · obtain ⟨thread, earlier, later, own, inside⟩ := save_made final.history before after saved split
    have mine := (ends thread).2
    rw [show savesOf (final.seen thread) = earlier ++ saved :: later from own] at mine
    rw [split, store.save_all_last before saved after last]
    rcases fetched : (syncAlone services servers fuel held store thread).outcome with _ | (failure | apps)
    · rw [fetched] at mine
      cases earlier <;> cases mine
    · rw [fetched] at mine
      cases earlier <;> cases mine
    · rw [fetched] at mine
      obtain ⟨first, rest, rfl, rfl, ofRest⟩ := List.map_eq_append_iff.mp mine.symm
      obtain ⟨app, others, rfl, rfl, rfl⟩ := List.map_eq_cons_iff.mp ofRest
      refine .inr ⟨thread, first, app, others, fetched, rfl, ?_, rfl⟩
      intro other listed same
      exact last _ (inside _ (List.mem_map_of_mem listed)) (congrArg (Prod.mk blobTypeApp) same)

end Concurrent

def sharedPage (name : String) : Json := .obj
  [("data", .arr [.obj [("id", .str "1"), ("attributes", .obj [("name", .str name)])]])]

def sharedName (second : Bool) : String := if second then "Beta" else "Alpha"

def sharedService (second : Bool) : SyncService :=
  ⟨⟨"https://host", .reading [sharedPage (sharedName second)]⟩, if second then "acct-2" else "acct-1"⟩

def sharedServer (second : Bool) : Handler Answer Unit :=
  replying [((.get, "https://host/v1/apps"), (200, (sharedPage (sharedName second)).compact))]

def sharedSyncs : SyncWorld Bool Unit :=
  play (hosting sharedServer) [false, true, false, true, true, false]
    (syncsBegin sharedService (fun _ => 1) (fun _ => ()) fun _ => none)

set_option maxRecDepth 20000 in
theorem later_save_wins :
    sharedSyncs.state ("app", "1") =
        some "\x7b\"id\":\"1\",\"name\":\"Alpha\",\"bundleId\":\"\",\"platform\":null,\"accountId\":\"acct-1\"\x7d" ∧
      (∀ second, sharedSyncs.programs second =
        .stop (syncAlone sharedService sharedServer (fun _ => 1) (fun _ => ()) (fun _ => none) second).outcome) ∧
      ∀ key, LeftBySome sharedService sharedServer (fun _ => 1) (fun _ => ()) (fun _ => none) key (sharedSyncs.state key) :=
  ⟨rfl, concurrent_syncs sharedService sharedServer (fun _ => 1) (fun _ => ()) (fun _ => none) _ (by decide)⟩

end StackConnect
