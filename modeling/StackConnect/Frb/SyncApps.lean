import StackConnect.Service.Sync

set_option autoImplicit false

namespace StackConnect

open Interaction Serde

def buffering : Handler Stored (List BlobSave) where
  answer saved held := ((), held ++ [saved])

theorem buffering_in_order (saves held : List BlobSave) :
    saves.foldl (fun held saved => (buffering.answer saved held).2) held = held ++ saves := by
  induction saves generalizing held with
  | nil => exact (List.append_nil held).symm
  | cons saved rest ih =>
      have later := ih (held ++ [saved])
      rw [List.append_assoc] at later
      exact later

-- What the binding asks of the host: its persist callback, and the flush of the
-- buffered log lines to its logger.
inductive HostCall where
  | persist (saved : BlobSave)
  | flushLogs

abbrev HostReply (_ : HostCall) : Type := Unit

abbrev WithHost (α : Type) := Prog (Query ⊕ HostCall) (Sum.elim Answer HostReply) StackError α

def callHost (call : HostCall) : WithHost Unit := .ask (.inr call) fun _ => .done (.ok ())

structure FrbSyncService extends SyncService where
  hasLogBuffer : Bool

namespace FrbSyncService

variable (service : FrbSyncService)

def flushLogs : WithHost Unit := if service.hasLogBuffer then callHost .flushLogs else pure ()

def syncApps (fuel : Nat) : WithHost (List AppInfo) := do
  let svc : SyncService := ⟨service.provider, service.accountId⟩
  let (result, saved) ← ((svc.syncApps fuel).handled buffering []).left
  service.flushLogs
  let apps ← .ofExcept result
  saved.forM fun save => callHost (.persist save)
  pure apps

end FrbSyncService

def persisting : Handler HostReply BlobStore where
  answer
    | .persist saved, store => ((), store.save saved)
    | .flushLogs, store => ((), store)

section Sync

variable (client : AppStoreClient) (site : Site) (tokens : Nat → String)

def savedBy (service : SyncService) (pages : List service.provider.appsListing.Response) : Option StackError → List BlobSave
  | none => (pages.flatMap service.provider.appsListing.rows).map service.appSave
  | some _ => []

theorem exec_sync_apps {T : Type} (service : SyncService) (host : Handler Stored T) (urls : List String)
    (pages : List service.provider.appsListing.Response) (failure : Option StackError)
    (chain : Chain service.provider site service.provider.appsListing service.provider.appsListing.first urls pages failure)
    (fuel : Nat) (enough : urls.length ≤ fuel) (signed : Nat) (held : T) :
    (exec ((serving site tokens).beside host) (service.syncApps fuel) (signed, held)).outcome =
        some (chainOutcome service.provider.appsListing [] pages failure) ∧
      (exec ((serving site tokens).beside host) (service.syncApps fuel) (signed, held)).state =
        (signed + urls.length,
          (savedBy service pages failure).foldl (fun held saved => (host.answer saved held).2) held) := by
  obtain ⟨outcome, state, _⟩ := exec_list_pages service.provider site service.provider.appsListing tokens
    service.provider.appsListing.first urls pages failure chain [] fuel enough signed
  change (exec (serving site tokens) (service.provider.fetchApps fuel) signed).outcome = _ at outcome
  change (exec (serving site tokens) (service.provider.fetchApps fuel) signed).state = _ at state
  cases failure with
  | some error =>
      have failed := sync_apps_failed service (serving site tokens) host fuel signed held error outcome
      rw [state] at failed
      exact failed
  | none =>
      have fetched := sync_apps_fetched service (serving site tokens) host fuel signed held _ outcome
      rw [state] at fetched
      exact fetched

theorem exec_replay (apps : List AppInfo) (saves : List BlobSave) (signed : Nat) (store : BlobStore) :
    (exec ((serving site tokens).beside persisting) (do
        saves.forM fun save => callHost (.persist save)
        pure apps) (signed, store)).outcome = some (.ok apps) ∧
      (exec ((serving site tokens).beside persisting) (do
        saves.forM fun save => callHost (.persist save)
        pure apps) (signed, store)).state = (signed, store.saveAll saves) := by
  obtain ⟨outcome, state⟩ := exec_sends (serving site tokens) persisting HostCall.persist saves
    (fun save => callHost (.persist save)) (fun _ => rfl) signed store
  rw [exec_bind]
  rcases ran : exec ((serving site tokens).beside persisting) (saves.forM fun save => callHost (.persist save))
    (signed, store) with ⟨result, reached, trace⟩
  rw [ran] at outcome state
  subst outcome
  subst state
  exact ⟨rfl, rfl⟩

theorem exec_flush_logs (service : FrbSyncService) (signed : Nat) (store : BlobStore) :
    ∃ trace, exec ((serving site tokens).beside persisting) service.flushLogs (signed, store) =
      ⟨some (.ok ()), (signed, store), trace⟩ := by
  rw [FrbSyncService.flushLogs]
  cases service.hasLogBuffer with
  | true => exact ⟨[⟨.inr .flushLogs, ()⟩], rfl⟩
  | false => exact ⟨[], rfl⟩

theorem exec_frb_sync_apps (service : FrbSyncService) (urls : List String)
    (pages : List service.provider.appsListing.Response) (failure : Option StackError)
    (chain : Chain service.provider site service.provider.appsListing service.provider.appsListing.first urls pages failure)
    (fuel : Nat) (enough : urls.length ≤ fuel) (signed : Nat) (store : BlobStore) :
    (exec ((serving site tokens).beside persisting) (service.syncApps fuel) (signed, store)).outcome =
        some (chainOutcome service.provider.appsListing [] pages failure) ∧
      (exec ((serving site tokens).beside persisting) (service.syncApps fuel) (signed, store)).state =
        (signed + urls.length, store.saveAll (savedBy service.toSyncService pages failure)) := by
  obtain ⟨outcome, state⟩ := exec_sync_apps site tokens service.toSyncService buffering urls pages failure chain fuel
    enough signed []
  rw [buffering_in_order, List.nil_append] at state
  have ran := exec_left (serving site tokens) persisting ((service.toSyncService.syncApps fuel).handled buffering [])
    signed store
  rw [exec_handled, outcome, state, Option.map_some] at ran
  obtain ⟨logged, flushed⟩ := exec_flush_logs site tokens service (signed + urls.length) store
  rw [FrbSyncService.syncApps, exec_bind, ran, Run.and_then_ok]
  dsimp only
  rw [exec_bind, flushed, Run.and_then_ok]
  cases failure with
  | some error => exact ⟨rfl, rfl⟩
  | none =>
      exact exec_replay site tokens (pages.flatMap service.provider.appsListing.rows)
        (savedBy service.toSyncService pages none) (signed + urls.length) store

def SyncLeaves (service : SyncService) (pages : List service.provider.appsListing.Response)
    (failure : Option StackError) (store : BlobStore) (outcome : Option (Except StackError (List AppInfo)))
    (after : BlobStore) : Prop :=
  match failure with
  | some error => outcome = some (.error error) ∧ after = store
  | none =>
      outcome = some (.ok (pages.flatMap service.provider.appsListing.rows)) ∧
        Synced service (pages.flatMap service.provider.appsListing.rows) store after

theorem saved_by_leaves (service : SyncService) (pages : List service.provider.appsListing.Response)
    (failure : Option StackError) (store : BlobStore) :
    SyncLeaves service pages failure store (some (chainOutcome service.provider.appsListing [] pages failure))
      (store.saveAll (savedBy service pages failure)) := by
  cases failure with
  | some error => exact ⟨rfl, rfl⟩
  | none => exact ⟨rfl, save_all_synced service _ store⟩

theorem both_bindings_sync_alike (service : FrbSyncService) (urls : List String)
    (pages : List service.provider.appsListing.Response) (failure : Option StackError)
    (chain : Chain service.provider site service.provider.appsListing service.provider.appsListing.first urls pages failure)
    (fuel : Nat) (enough : urls.length ≤ fuel) (signed : Nat) (store : BlobStore) :
    let core := exec ((serving site tokens).beside storing) (service.toSyncService.syncApps fuel)
    let frb := exec ((serving site tokens).beside persisting) (service.syncApps fuel)
    let first := core (signed, store)
    let bound := frb (signed, store)
    SyncLeaves service.toSyncService pages failure store first.outcome first.state.2 ∧
      (bound.outcome = first.outcome ∧ bound.state = first.state) ∧
      ((core first.state).outcome = first.outcome ∧ (core first.state).state.2 = first.state.2) ∧
      (frb bound.state).outcome = bound.outcome ∧ (frb bound.state).state.2 = bound.state.2 := by
  have cored : ∀ signed store, _ := fun signed store =>
    exec_sync_apps site tokens service.toSyncService storing urls pages failure chain fuel enough signed store
  have bound : ∀ signed store, _ := fun signed store =>
    exec_frb_sync_apps site tokens service urls pages failure chain fuel enough signed store
  have settled := store.save_all_twice (savedBy service.toSyncService pages failure)
  dsimp only
  rw [(cored signed store).1, (cored signed store).2, (bound signed store).1, (bound signed store).2,
    (cored _ _).1, (cored _ _).2, (bound _ _).1, (bound _ _).2]
  exact ⟨saved_by_leaves service.toSyncService pages failure store, ⟨rfl, rfl⟩, ⟨rfl, settled⟩, rfl, settled⟩

end Sync

def catalogPage : Json := .obj
  [("data", .arr [.obj [("id", .str "1"), ("attributes", .obj [("name", .str "Old"), ("bundleId", .str "com.foo")])]]),
    ("links", .obj [("next", .str "https://host/v1/apps?cursor=2")])]

def lastCatalogPage : Json := .obj
  [("data", .arr [.obj [("id", .str "1"), ("attributes", .obj [("name", .str "New")])], .obj [("id", .str "2")]])]

def catalogClient : AppStoreClient := ⟨"https://host", .reading [catalogPage, lastCatalogPage]⟩

def catalogSite : Site := fun url =>
  if url = "https://host/v1/apps" then .ok (200, catalogPage.compact)
  else if url = "https://host/v1/apps?cursor=2" then .ok (200, lastCatalogPage.compact)
  else .ok (404, "")

def catalogPages : List catalogClient.appsListing.Response :=
  [⟨[⟨"1", ⟨some "Old", some "com.foo"⟩⟩], ⟨some "https://host/v1/apps?cursor=2"⟩⟩,
    ⟨[⟨"1", ⟨some "New", none⟩⟩, ⟨"2", ⟨none, none⟩⟩], ⟨none⟩⟩]

set_option maxRecDepth 20000 in
theorem catalog_chain : Chain catalogClient catalogSite catalogClient.appsListing catalogClient.appsListing.first
    ["https://host/v1/apps", "https://host/v1/apps?cursor=2"] catalogPages none :=
  .next _ _ ⟨200, catalogPage.compact, rfl, rfl, rfl⟩ _ rfl (by decide) _ _ _
    (.last _ _ ⟨200, lastCatalogPage.compact, rfl, rfl, rfl⟩ (.inl rfl))

def catalogService : FrbSyncService := ⟨⟨catalogClient, "acct-1"⟩, true⟩

def renamedBlob : String :=
  "\x7b\"id\":\"1\",\"name\":\"New\",\"bundleId\":\"\",\"platform\":null,\"accountId\":\"acct-1\"\x7d"

set_option maxRecDepth 20000 in
theorem renamed_app_synced :
    let core := exec ((serving catalogSite fun _ => "token").beside storing) (catalogService.toSyncService.syncApps 2)
      (0, fun _ => none)
    let frb := exec ((serving catalogSite fun _ => "token").beside persisting) (catalogService.syncApps 2) (0, fun _ => none)
    core.outcome = some (.ok [⟨"1", "Old", "com.foo", none⟩, ⟨"1", "New", "", none⟩, ⟨"2", "", "", none⟩]) ∧
      core.state.2 ("app", "1") = some renamedBlob ∧ frb.outcome = core.outcome ∧ frb.state = core.state := by
  obtain ⟨⟨outcome, latest, _⟩, ⟨sameOutcome, sameState⟩, _⟩ := both_bindings_sync_alike catalogSite (fun _ => "token")
    catalogService _ catalogPages none catalog_chain 2 (by decide) 0 fun _ => none
  have saved := latest [⟨"1", "Old", "com.foo", none⟩] ⟨"1", "New", "", none⟩ [⟨"2", "", "", none⟩] rfl (by decide)
  exact ⟨outcome, saved, sameOutcome, sameState⟩

end StackConnect
