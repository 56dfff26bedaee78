import StackConnect.AppStore.Listings
import StackConnect.Interaction.Ports
import Mathlib.Logic.Function.Basic

set_option autoImplicit false

namespace StackConnect

open Interaction Serde

structure BlobSave where
  typeName : String
  id : String
  json : String

def BlobSave.key (saved : BlobSave) : String × String := (saved.typeName, saved.id)

abbrev Stored (_ : BlobSave) : Type := Unit

-- A program that talks to the App Store and to the BlobStore port of the host.
abbrev WithStore (α : Type) := Prog (Query ⊕ BlobSave) (Sum.elim Answer Stored) StackError α

def saveBlob (saved : BlobSave) : WithStore Unit := .ask (.inr saved) fun _ => .done (.ok ())

def blobTypeApp : String := "app"

structure AppBlob where
  id : String
  name : String
  bundleId : String
  platform : Option String
  accountId : String

def AppBlob.serialize (blob : AppBlob) : Json := .obj
  [("id", .str blob.id), ("name", .str blob.name), ("bundleId", .str blob.bundleId),
    ("platform", (blob.platform.map .str).getD .null), ("accountId", .str blob.accountId)]

structure SyncService where
  provider : AppStoreClient
  accountId : String

namespace SyncService

variable (service : SyncService)

def appBlob (app : AppInfo) : AppBlob := ⟨app.id, app.name, app.bundleId, app.platform, service.accountId⟩

-- A blob of strings always serializes: the decode error of this step never arises.
def appSave (app : AppInfo) : BlobSave :=
  ⟨blobTypeApp, app.id, service.provider.crates.serdeJson.print (service.appBlob app).serialize⟩

def syncApps (fuel : Nat) : WithStore (List AppInfo) := do
  let apps ← (service.provider.fetchApps fuel).left
  apps.forM fun app => saveBlob (service.appSave app)
  pure apps

end SyncService

abbrev BlobStore := String × String → Option String

def BlobStore.save (store : BlobStore) (saved : BlobSave) : BlobStore := Function.update store saved.key (some saved.json)

def storing : Handler Stored BlobStore where
  answer saved store := ((), store.save saved)

def BlobStore.saveAll (store : BlobStore) (saves : List BlobSave) : BlobStore := saves.foldl BlobStore.save store

namespace BlobStore

variable (store : BlobStore)

theorem save_same (saved : BlobSave) : store.save saved saved.key = some saved.json := Function.update_self ..

theorem save_other (saved : BlobSave) (key : String × String) (other : saved.key ≠ key) :
    store.save saved key = store key := Function.update_of_ne (Ne.symm other) ..

theorem save_all_append (first second : List BlobSave) :
    store.saveAll (first ++ second) = (store.saveAll first).saveAll second := List.foldl_append

theorem save_all_untouched (saves : List BlobSave) (key : String × String) (none : ∀ saved ∈ saves, saved.key ≠ key) :
    store.saveAll saves key = store key := by
  induction saves generalizing store with
  | nil => rfl
  | cons saved rest ih =>
      have later := ih (store.save saved) fun other inside => none other (List.mem_cons_of_mem saved inside)
      exact later.trans (store.save_other saved key (none saved List.mem_cons_self))

theorem save_all_last (before : List BlobSave) (saved : BlobSave) (after : List BlobSave)
    (last : ∀ other ∈ after, other.key ≠ saved.key) :
    store.saveAll (before ++ saved :: after) saved.key = some saved.json := by
  rw [save_all_append]
  change ((store.saveAll before).save saved).saveAll after saved.key = _
  rw [save_all_untouched _ after saved.key last, save_same]

theorem last_with_key (saves : List BlobSave) (key : String × String) :
    (∀ saved ∈ saves, saved.key ≠ key) ∨
      ∃ before saved after, saves = before ++ saved :: after ∧ saved.key = key ∧ ∀ other ∈ after, other.key ≠ key := by
  induction saves with
  | nil => exact .inl fun _ inside => absurd inside List.not_mem_nil
  | cons saved rest ih =>
      rcases ih with none | ⟨before, last, after, rfl, same, unmatched⟩
      · by_cases here : saved.key = key
        · exact .inr ⟨[], saved, rest, rfl, here, none⟩
        · refine .inl fun other inside => ?_
          rcases List.mem_cons.mp inside with rfl | later
          · exact here
          · exact none other later
      · exact .inr ⟨saved :: before, last, after, rfl, same, unmatched⟩

theorem save_all_twice (saves : List BlobSave) : (store.saveAll saves).saveAll saves = store.saveAll saves := by
  funext key
  rcases last_with_key saves key with none | ⟨before, saved, after, rfl, rfl, last⟩
  · exact save_all_untouched _ saves key none
  · rw [save_all_last _ before saved after last, save_all_last _ before saved after last]

end BlobStore

def Synced (service : SyncService) (apps : List AppInfo) (before after : BlobStore) : Prop :=
  (∀ earlier app later, apps = earlier ++ app :: later → (∀ other ∈ later, other.id ≠ app.id) →
      after (blobTypeApp, app.id) =
        some (service.provider.crates.serdeJson.print (service.appBlob app).serialize)) ∧
    ∀ key, (∀ app ∈ apps, (blobTypeApp, app.id) ≠ key) → after key = before key

theorem save_all_synced (service : SyncService) (apps : List AppInfo) (store : BlobStore) :
    Synced service apps store (store.saveAll (apps.map service.appSave)) := by
  constructor
  · rintro earlier app later rfl last
    rw [List.map_append, List.map_cons]
    apply store.save_all_last _ (service.appSave app)
    intro other inside
    obtain ⟨source, listed, rfl⟩ := List.mem_map.mp inside
    intro same
    exact last source listed (congrArg Prod.snd same)
  · intro key apart
    apply store.save_all_untouched
    intro saved inside
    obtain ⟨app, listed, rfl⟩ := List.mem_map.mp inside
    exact apart app listed

section Runs

variable {T : Type} (service : SyncService) (outer : Handler Answer Nat) (host : Handler Stored T)

theorem sync_apps_failed (fuel : Nat) (signed : Nat) (held : T) (error : StackError)
    (fetched : (exec outer (service.provider.fetchApps fuel) signed).outcome = some (.error error)) :
    (exec (outer.beside host) (service.syncApps fuel) (signed, held)).outcome = some (.error error) ∧
      (exec (outer.beside host) (service.syncApps fuel) (signed, held)).state =
        ((exec outer (service.provider.fetchApps fuel) signed).state, held) := by
  rw [SyncService.syncApps, exec_bind, exec_left, fetched]
  exact ⟨rfl, rfl⟩

theorem sync_apps_fetched (fuel : Nat) (signed : Nat) (held : T) (apps : List AppInfo)
    (fetched : (exec outer (service.provider.fetchApps fuel) signed).outcome = some (.ok apps)) :
    (exec (outer.beside host) (service.syncApps fuel) (signed, held)).outcome = some (.ok apps) ∧
      (exec (outer.beside host) (service.syncApps fuel) (signed, held)).state =
        ((exec outer (service.provider.fetchApps fuel) signed).state,
          (apps.map service.appSave).foldl (fun held saved => (host.answer saved held).2) held) := by
  obtain ⟨outcome, state⟩ := exec_sends outer host service.appSave apps
    (fun app => saveBlob (service.appSave app)) (fun _ => rfl) (exec outer (service.provider.fetchApps fuel) signed).state held
  rw [SyncService.syncApps, exec_bind, exec_left, fetched, Run.and_then_ok, exec_bind]
  rcases ran : exec (outer.beside host) (apps.forM fun app => saveBlob (service.appSave app))
    ((exec outer (service.provider.fetchApps fuel) signed).state, held) with ⟨result, reached, trace⟩
  rw [ran] at outcome state
  subst outcome
  subst state
  refine ⟨rfl, ?_⟩
  rw [List.foldl_map]
  rfl

end Runs

end StackConnect
