import StackConnect.Scexport.AccountExport
import Mathlib.Data.Finset.Card

set_option autoImplicit false

namespace StackConnect.Scexport

open Rust

structure Renames (mapping : List (String × String)) : Prop where
  sources : (mapping.map Prod.fst).Nodup
  targets : (mapping.map Prod.snd).Nodup
  apart : ∀ key ∈ mapping.map Prod.snd, key ∉ mapping.map Prod.fst

theorem ios_to_schema_renames : Renames iosToSchema := ⟨by decide, by decide, by decide⟩

theorem schema_to_ios_renames : Renames schemaToIos := ⟨by decide, by decide, by decide⟩

def BothNames (mapping : List (String × String)) (source : HashMap String String) : Prop :=
  ∃ pair ∈ mapping, pair.1 ∈ source ∧ pair.2 ∈ source

structure Lossless (renamed : String → String) (remapped : HashOrder String → HashMap String String)
    (source : HashMap String String) : Prop where
  size : ∀ order, (remapped order).keys.card = source.keys.card
  kept : ∀ order key value, source.get key = some value → (remapped order).get (renamed key) = some value
  ordered : ∀ first second, remapped first = remapped second

theorem rename_source (mapping : List (String × String)) (renames : Renames mapping) (pair : String × String)
    (listed : pair ∈ mapping) : rename mapping pair.1 = pair.2 := by
  rw [rename]
  cases found : mapping.find? fun other => other.1 = pair.1 with
  | none =>
      have absent := List.find?_eq_none.mp found pair listed
      simp at absent
  | some other =>
      have same : other.1 = pair.1 := by simpa using List.find?_some found
      have equal := List.inj_on_of_nodup_map renames.sources (List.mem_of_find?_eq_some found) listed same
      rw [equal]

theorem rename_other (mapping : List (String × String)) (key : String) (other : key ∉ mapping.map Prod.fst) :
    rename mapping key = key := by
  have absent : (mapping.find? fun pair => pair.1 = key) = none := by
    apply List.find?_eq_none.mpr
    intro pair listed same
    have equal : pair.1 = key := by simpa using same
    exact other (List.mem_map.mpr ⟨pair, listed, equal⟩)
  rw [rename]
  rw [absent]

theorem rename_injective_iff (mapping : List (String × String)) (renames : Renames mapping) (source : HashMap String String) :
    (∀ first second, first ∈ source → second ∈ source → rename mapping first = rename mapping second → first = second) ↔
      ¬ BothNames mapping source := by
  constructor
  · rintro injective ⟨pair, listed, old, new⟩
    have moved := rename_source mapping renames pair listed
    have target : pair.2 ∉ mapping.map Prod.fst := renames.apart pair.2 (List.mem_map_of_mem listed)
    have same := injective pair.1 pair.2 old new (moved.trans (rename_other mapping pair.2 target).symm)
    exact target (List.mem_map.mpr ⟨pair, listed, same⟩)
  · intro apart first second here there same
    by_cases moved : first ∈ mapping.map Prod.fst
    · obtain ⟨pair, listed, rfl⟩ := List.mem_map.mp moved
      rw [rename_source mapping renames pair listed] at same
      by_cases too : second ∈ mapping.map Prod.fst
      · obtain ⟨other, also, rfl⟩ := List.mem_map.mp too
        rw [rename_source mapping renames other also] at same
        rw [List.inj_on_of_nodup_map renames.targets listed also same]
      · rw [rename_other mapping second too] at same
        exact absurd ⟨pair, listed, here, same ▸ there⟩ apart
    · rw [rename_other mapping first moved] at same
      by_cases too : second ∈ mapping.map Prod.fst
      · obtain ⟨other, also, rfl⟩ := List.mem_map.mp too
        rw [rename_source mapping renames other also] at same
        exact absurd ⟨other, also, there, same ▸ here⟩ apart
      · rw [rename_other mapping second too] at same
        exact same

theorem remap_keys (order : HashOrder String) (source : HashMap String String) (mapping : List (String × String)) :
    (remap order source mapping).keys = source.keys.image (rename mapping) := by
  ext key
  rw [Finmap.mem_keys, remap, collect_mem, Finset.mem_image]
  simp only [List.map_map, List.mem_map, Prod.exists, order.complete, Finmap.mem_keys, mem_get]
  constructor
  · rintro ⟨old, value, held, rfl⟩
    exact ⟨old, ⟨value, held⟩, rfl⟩
  · rintro ⟨old, ⟨value, held⟩, rfl⟩
    exact ⟨old, value, held, rfl⟩

theorem lossless_iff (mapping : List (String × String)) (renames : Renames mapping) (source : HashMap String String) :
    Lossless (rename mapping) (remap · source mapping) source ↔ ¬ BothNames mapping source := by
  rw [← rename_injective_iff mapping renames source]
  constructor
  · intro lossless first second here there same
    have size := lossless.size .byKey
    rw [remap_keys, Finset.card_image_iff] at size
    exact size (Finmap.mem_keys.mpr here) (Finmap.mem_keys.mpr there) same
  · intro injective
    have read := fun order => remap_get order source mapping injective
    refine ⟨?_, ?_, ?_⟩
    · intro order
      rw [remap_keys, Finset.card_image_iff]
      intro first here second there same
      exact injective first second (Finmap.mem_keys.mp here) (Finmap.mem_keys.mp there) same
    · intro order key value held
      exact (read order (rename mapping key) value).mpr ⟨key, rfl, held⟩
    · intro first second
      apply Finmap.ext_lookup
      intro key
      apply Option.ext
      intro value
      exact (read first key value).trans (read second key value).symm

theorem credentials_kept_iff (source : HashMap String String) :
    (Lossless (rename iosToSchema) (remapIosToSchema · source) source ↔ ¬ BothNames iosToSchema source) ∧
      (Lossless (rename schemaToIos) (remapSchemaToIos · source) source ↔ ¬ BothNames schemaToIos source) :=
  ⟨lossless_iff iosToSchema ios_to_schema_renames source, lossless_iff schemaToIos schema_to_ios_renames source⟩

def bothIssuers : HashMap String String := HashMap.collect [("issuerID", "69a6de70"), ("issuerId", "57246542")]

theorem issuer_lost_on_import :
    bothIssuers.keys.card = 2 ∧ (∀ order, (remapIosToSchema order bothIssuers).keys = {"issuerId"}) ∧
      ∀ order, (remapSchemaToIos order bothIssuers).keys = {"issuerID"} := by
  have keys : bothIssuers.keys = {"issuerID", "issuerId"} := by
    ext key
    rw [Finmap.mem_keys, bothIssuers, collect_mem]
    simp
  refine ⟨by rw [keys]; rfl, ?_, ?_⟩
  · intro order
    rw [remapIosToSchema, remap_keys, keys]
    rfl
  · intro order
    rw [remapSchemaToIos, remap_keys, keys]
    rfl

end StackConnect.Scexport
