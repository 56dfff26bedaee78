import Mathlib.Data.Finmap
import Mathlib.Data.Finset.Sort
import Mathlib.Data.String.Basic

set_option autoImplicit false

namespace Rust

abbrev HashMap (κ ν : Type) := Finmap fun _ : κ => ν

variable {ν : Type}

def HashMap.get (map : HashMap String ν) (key : String) : Option ν := Finmap.lookup key map

-- `HashMap::insert` in iteration order: of two equal keys the later one stays.
def HashMap.collect (pairs : List (String × ν)) : HashMap String ν :=
  pairs.foldl (fun map pair => Finmap.insert pair.1 pair.2 map) ∅

-- The order in which a map is iterated: unspecified, but each entry comes once.
structure HashOrder (ν : Type) where
  entries : HashMap String ν → List (String × ν)
  distinct : ∀ map, ((entries map).map Prod.fst).Nodup
  complete : ∀ map key value, (key, value) ∈ entries map ↔ map.get key = some value

theorem get_insert (map : HashMap String ν) (key other : String) (value : ν) :
    HashMap.get (Finmap.insert key value map) other = if other = key then some value else map.get other := by
  unfold HashMap.get
  by_cases same : other = key
  · subst same
    rw [if_pos rfl, Finmap.lookup_insert]
  · rw [if_neg same, Finmap.lookup_insert_of_ne _ same]

theorem get_fold_insert (pairs : List (String × ν)) (map : HashMap String ν) (distinct : (pairs.map Prod.fst).Nodup)
    (key : String) (value : ν) :
    HashMap.get (pairs.foldl (fun map pair => Finmap.insert pair.1 pair.2 map) map) key = some value ↔
      (key, value) ∈ pairs ∨ key ∉ pairs.map Prod.fst ∧ map.get key = some value := by
  induction pairs generalizing map with
  | nil => simp
  | cons pair rest ih =>
      rw [List.map_cons, List.nodup_cons] at distinct
      rw [List.foldl_cons, ih _ distinct.2, get_insert]
      by_cases same : key = pair.1
      · subst same
        have fresh : ∀ value, (pair.1, value) ∉ rest := by
          intro value inside
          exact distinct.1 (List.mem_map.mpr ⟨(pair.1, value), inside, rfl⟩)
        simp only [fresh, false_or, if_true, Option.some.injEq, List.map_cons, List.mem_cons, Prod.ext_iff, true_and,
          true_or, not_true_eq_false, false_and, or_false]
        constructor
        · rintro ⟨_, rfl⟩
          rfl
        · rintro rfl
          exact ⟨distinct.1, rfl⟩
      · simp [same, Prod.ext_iff]

theorem collect_get (pairs : List (String × ν)) (distinct : (pairs.map Prod.fst).Nodup) (key : String) (value : ν) :
    (HashMap.collect pairs).get key = some value ↔ (key, value) ∈ pairs := by
  rw [HashMap.collect]
  rw [get_fold_insert pairs ∅ distinct]
  simp [HashMap.get]

theorem collect_eq (pairs : List (String × ν)) (distinct : (pairs.map Prod.fst).Nodup) (map : HashMap String ν)
    (same : ∀ key value, (key, value) ∈ pairs ↔ map.get key = some value) : HashMap.collect pairs = map := by
  apply Finmap.ext_lookup
  intro key
  apply Option.ext
  intro value
  exact (collect_get pairs distinct key value).trans (same key value)

theorem collect_entries (order : HashOrder ν) (map : HashMap String ν) : HashMap.collect (order.entries map) = map :=
  collect_eq _ (order.distinct map) map (order.complete map)

theorem collect_perm (pairs others : List (String × ν)) (distinct : (pairs.map Prod.fst).Nodup) (same : pairs.Perm others) :
    HashMap.collect pairs = HashMap.collect others := by
  apply collect_eq pairs distinct
  intro key value
  rw [collect_get others ((same.map Prod.fst).nodup distinct)]
  exact same.mem_iff

theorem fold_project {σ ι : Type} (project : σ → HashMap String ν) (add : σ → ι → σ) (entry : ι → Option (String × ν))
    (step : ∀ state item, project (add state item) =
      (entry item).elim (project state) fun pair => Finmap.insert pair.1 pair.2 (project state))
    (items : List ι) (state : σ) :
    project (items.foldl add state) =
      (items.filterMap entry).foldl (fun map pair => Finmap.insert pair.1 pair.2 map) (project state) := by
  induction items generalizing state with
  | nil => rfl
  | cons item rest ih =>
      rw [List.foldl_cons, ih, step]
      cases found : entry item with
      | none => rw [List.filterMap_cons_none found]; rfl
      | some pair => rw [List.filterMap_cons_some found]; rfl

theorem entries_empty (order : HashOrder ν) : order.entries ∅ = [] := by
  apply List.eq_nil_iff_forall_not_mem.mpr
  rintro ⟨key, value⟩ inside
  have found := (order.complete ∅ key value).mp inside
  rw [HashMap.get, Finmap.lookup_empty] at found
  cases found

def HashOrder.byKey : HashOrder ν where
  entries map := (map.keys.sort (· ≤ ·)).filterMap fun key => (map.get key).map (key, ·)
  distinct map := by
    have keys : ((map.keys.sort (· ≤ ·)).filterMap fun key => (map.get key).map (key, ·)).map Prod.fst =
        (map.keys.sort (· ≤ ·)).filter fun key => (map.get key).isSome := by
      generalize map.keys.sort (· ≤ ·) = keys
      induction keys with
      | nil => rfl
      | cons key rest ih => cases found : map.get key <;> simp [found, ih]
    rw [keys]
    exact (Finset.sort_nodup ..).filter _
  complete map key value := by
    rw [List.mem_filterMap]
    constructor
    · rintro ⟨other, _, found⟩
      obtain ⟨held, same, rest⟩ := Option.map_eq_some_iff.mp found
      cases rest
      exact same
    · intro held
      refine ⟨key, ?_, by rw [held]; rfl⟩
      rw [Finset.mem_sort, Finmap.mem_keys]
      exact Finmap.mem_iff.mpr ⟨value, held⟩

theorem fold_insert_mem (pairs : List (String × ν)) (map : HashMap String ν) (key : String) :
    key ∈ pairs.foldl (fun map pair => Finmap.insert pair.1 pair.2 map) map ↔ key ∈ pairs.map Prod.fst ∨ key ∈ map := by
  induction pairs generalizing map with
  | nil => simp
  | cons pair rest ih =>
      rw [List.foldl_cons, ih, Finmap.mem_insert, List.map_cons, List.mem_cons]
      tauto

theorem collect_mem (pairs : List (String × ν)) (key : String) : key ∈ HashMap.collect pairs ↔ key ∈ pairs.map Prod.fst := by
  rw [HashMap.collect, fold_insert_mem]
  simp [Finmap.notMem_empty]

theorem mem_get (map : HashMap String ν) (key : String) : key ∈ map ↔ ∃ value, map.get key = some value :=
  Finmap.mem_iff

end Rust
