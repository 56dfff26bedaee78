import Mathlib.Data.List.Nodup
import StackConnect.Interaction.Parallel

set_option autoImplicit false

namespace Interaction

variable {ι Q : Type} {A : Q → Type} {ε α P Cell Key : Type} [DecidableEq Key] (key : Cell → Key)

def replaceCell (table : List Cell) (cell : Cell) : List Cell := table.map fun other => if key other = key cell then cell else other

theorem replace_keys (table : List Cell) (cell : Cell) : (replaceCell key table cell).map key = table.map key := by
  rw [replaceCell, List.map_map]
  apply List.map_congr_left
  intro other _
  by_cases same : key other = key cell
  · rw [Function.comp_apply, if_pos same]
    exact same.symm
  · rw [Function.comp_apply, if_neg same]

theorem mem_replace (table : List Cell) (old new : Cell) (inside : old ∈ table) (same : key new = key old) :
    new ∈ replaceCell key table new :=
  List.mem_map.mpr ⟨old, inside, if_pos same.symm⟩

theorem mem_replace_other (table : List Cell) (cell other : Cell) (inside : other ∈ table) (apart : key other ≠ key cell) :
    other ∈ replaceCell key table cell :=
  List.mem_map.mpr ⟨other, inside, if_neg apart⟩

theorem replace_mem (table : List Cell) (cell found : Cell) (inside : found ∈ replaceCell key table cell) :
    found = cell ∨ found ∈ table ∧ key found ≠ key cell := by
  obtain ⟨other, before, same⟩ := List.mem_map.mp inside
  by_cases here : key other = key cell
  · rw [if_pos here] at same
    exact .inl same.symm
  · rw [if_neg here] at same
    subst same
    exact .inr ⟨before, here⟩

omit [DecidableEq Key] in
theorem eq_of_key (table : List Cell) (distinct : (table.map key).Nodup) (first second : Cell) (one : first ∈ table)
    (two : second ∈ table) (same : key first = key second) : first = second :=
  List.inj_on_of_nodup_map distinct one two same

-- What a program that keeps at most one cell may do to the table: look, take a cell
-- under a key that is not in use, or change its own.
inductive Moved (table : List Cell) : Option Cell → Option Cell → List Cell → Prop
  | looked (own : Option Cell) : Moved table own own table
  | taken (cell : Cell) (unused : key cell ∉ table.map key) : Moved table none (some cell) (table ++ [cell])
  | changed (old new : Cell) (same : key new = key old) : Moved table (some old) (some new) (replaceCell key table new)

-- Each thread's home is the cell it keeps. Homes lie in the table and are nobody
-- else's, and every other cell is still as it was at the beginning.
structure Housed (initial table : List Cell) (home : ι → Option Cell) : Prop where
  distinct : (table.map key).Nodup
  inside : ∀ thread cell, home thread = some cell → cell ∈ table
  own : ∀ thread other cell, home thread = some cell → home other = some cell → thread = other
  kept : ∀ cell ∈ initial, cell ∈ table ∧ ∀ thread, home thread ≠ some cell
  lodged : ∀ cell ∈ table, cell ∈ initial ∨ ∃ thread, home thread = some cell

variable {key}

omit [DecidableEq Key] in
theorem housed_begin (initial : List Cell) (distinct : (initial.map key).Nodup) :
    Housed key initial initial fun _ : ι => none where
  distinct := distinct
  inside := nofun
  own := nofun
  kept _ inside := ⟨inside, nofun⟩
  lodged _ inside := .inl inside

section Move

variable [DecidableEq ι] {initial table : List Cell} {home : ι → Option Cell} (housed : Housed key initial table home) (thread : ι)
include housed

omit [DecidableEq Key] in
theorem housed_taken (cell : Cell) (unused : key cell ∉ table.map key) (homeless : home thread = none) :
    Housed key initial (table ++ [cell]) (Function.update home thread (some cell)) := by
  have new : ∀ other ∈ table, other ≠ cell := by
    rintro other inside rfl
    exact unused (List.mem_map_of_mem inside)
  refine ⟨?_, ?_, ?_, ?_, ?_⟩
  · rw [List.map_append, List.map_singleton, ← List.concat_eq_append]
    exact housed.distinct.concat unused
  · intro other found lodges
    by_cases mine : other = thread
    · subst mine
      rw [Function.update_self] at lodges
      cases lodges
      exact List.mem_append_right _ (List.mem_singleton_self cell)
    · rw [Function.update_of_ne mine] at lodges
      exact List.mem_append_left _ (housed.inside other found lodges)
  · intro one two found lodges again
    by_cases first : one = thread
    · by_cases second : two = thread
      · exact first.trans second.symm
      · rw [first, Function.update_self] at lodges
        rw [Function.update_of_ne second] at again
        cases lodges
        exact absurd rfl (new cell (housed.inside two cell again))
    · rw [Function.update_of_ne first] at lodges
      by_cases second : two = thread
      · rw [second, Function.update_self] at again
        cases again
        exact absurd rfl (new cell (housed.inside one cell lodges))
      · rw [Function.update_of_ne second] at again
        exact housed.own one two found lodges again
  · intro found before
    obtain ⟨inside, nobody⟩ := housed.kept found before
    refine ⟨List.mem_append_left _ inside, ?_⟩
    intro other
    by_cases mine : other = thread
    · rw [mine, Function.update_self]
      intro same
      exact new found inside (Option.some.inj same).symm
    · rw [Function.update_of_ne mine]
      exact nobody other
  · intro found inside
    rcases List.mem_append.mp inside with before | last
    · rcases housed.lodged found before with first | ⟨other, lodges⟩
      · exact .inl first
      · right
        refine ⟨other, ?_⟩
        have apart : other ≠ thread := by
          rintro rfl
          rw [homeless] at lodges
          cases lodges
        rw [Function.update_of_ne apart]
        exact lodges
    · rw [List.mem_singleton.mp last]
      exact .inr ⟨thread, Function.update_self ..⟩

theorem housed_changed (old new : Cell) (same : key new = key old) (lodging : home thread = some old) :
    Housed key initial (replaceCell key table new) (Function.update home thread (some new)) := by
  have mine : old ∈ table := housed.inside thread old lodging
  have only : ∀ other ∈ table, key other = key new → other = old := by
    intro other inside keys
    exact eq_of_key key table housed.distinct other old inside mine (keys.trans same)
  have others : ∀ other, other ≠ thread → home other ≠ some old := by
    intro other apart lodges
    exact apart (housed.own other thread old lodges lodging)
  refine ⟨?_, ?_, ?_, ?_, ?_⟩
  · rw [replace_keys]
    exact housed.distinct
  · intro other found lodges
    by_cases here : other = thread
    · rw [here, Function.update_self] at lodges
      cases lodges
      exact mem_replace key table old new mine same
    · rw [Function.update_of_ne here] at lodges
      have inside := housed.inside other found lodges
      apply mem_replace_other key table new found inside
      intro keys
      rw [only found inside keys] at lodges
      exact others other here lodges
  · intro one two found lodges again
    have stranger : ∀ other, other ≠ thread → home other ≠ some new := by
      intro other apart lodges
      have inside := housed.inside other new lodges
      rw [only new inside rfl] at lodges
      exact others other apart lodges
    by_cases first : one = thread
    · by_cases second : two = thread
      · exact first.trans second.symm
      · rw [first, Function.update_self] at lodges
        rw [Function.update_of_ne second] at again
        cases lodges
        exact absurd again (stranger two second)
    · rw [Function.update_of_ne first] at lodges
      by_cases second : two = thread
      · rw [second, Function.update_self] at again
        cases again
        exact absurd lodges (stranger one first)
      · rw [Function.update_of_ne second] at again
        exact housed.own one two found lodges again
  · intro found before
    obtain ⟨inside, nobody⟩ := housed.kept found before
    have foreign : key found ≠ key new := by
      intro keys
      exact nobody thread (by rw [only found inside keys]; exact lodging)
    refine ⟨mem_replace_other key table new found inside foreign, ?_⟩
    intro other
    by_cases here : other = thread
    · rw [here, Function.update_self]
      intro same
      exact foreign (congrArg key (Option.some.inj same)).symm
    · rw [Function.update_of_ne here]
      exact nobody other
  · intro found inside
    rcases replace_mem key table new found inside with rfl | ⟨before, apart⟩
    · exact .inr ⟨thread, Function.update_self ..⟩
    · rcases housed.lodged found before with first | ⟨other, lodges⟩
      · exact .inl first
      · right
        refine ⟨other, ?_⟩
        have elsewhere : other ≠ thread := by
          rintro rfl
          rw [lodging] at lodges
          cases lodges
          exact apart same.symm
        rw [Function.update_of_ne elsewhere]
        exact lodges

theorem housed_move (new : Option Cell) (left : List Cell) (moved : Moved key table (home thread) new left) :
    Housed key initial left (Function.update home thread new) := by
  generalize was : home thread = old at moved
  cases moved with
  | looked =>
      rw [← was, Function.update_eq_self]
      exact housed
  | taken cell unused => exact housed_taken housed thread cell unused was
  | changed before after same => exact housed_changed housed thread before after same was

end Move

-- Every thread is in a phase of its own, which says what it has still to do and what
-- its cell holds after the events it met.
def Lodging (key : Cell → Key) (phase : ι → Nat → Prog Q A ε α → Option Cell → Prop) (initial : List Cell) [DecidableEq ι]
    (world : World ι Q A ε α P (List Cell)) : Prop :=
  ∃ home, Housed key initial world.state home ∧
    ∀ thread, phase thread (world.seen thread).length (world.programs thread) (home thread)

variable [DecidableEq ι]

-- If every query takes its thread to a next phase and moves nothing but its cell,
-- the threads stay out of each other's way.
theorem play_lodging (handlers : ι → Handler A (P × List Cell)) (phase : ι → Nat → Prog Q A ε α → Option Cell → Prop)
    (initial : List Cell)
    (step : ∀ thread met query next held table own, (table.map key).Nodup → (∀ cell, own = some cell → cell ∈ table) →
      phase thread met (.ask query next) own →
      ∃ new, Moved key table own new ((handlers thread).answer query (held, table)).2.2 ∧
        phase thread (met + 1) (next ((handlers thread).answer query (held, table)).1) new)
    (world : World ι Q A ε α P (List Cell)) (start : Lodging key phase initial world) (schedule : List ι) :
    Lodging key phase initial (play handlers schedule world) := by
  apply play_keeps handlers world (Lodging key phase initial) _ schedule start
  intro reached thread lodging
  obtain ⟨home, housed, phases⟩ := lodging
  rcases turn_cases handlers reached thread with ⟨_, same⟩ | ⟨query, next, asks, stepped⟩
  · rw [same]
    exact ⟨home, housed, phases⟩
  · have now := phases thread
    rw [asks] at now
    obtain ⟨new, moved, after⟩ := step thread _ query next (reached.held thread) reached.state (home thread) housed.distinct
      (housed.inside thread) now
    refine ⟨Function.update home thread new, ?_, ?_⟩
    · rw [stepped, answered_state]
      exact housed_move housed thread new _ moved
    · intro other
      rw [stepped]
      by_cases mine : other = thread
      · subst mine
        rw [answered_program_same, answered_seen_same, Function.update_self, List.length_append]
        exact after
      · rw [answered_program_other _ _ _ _ _ _ mine, answered_seen_other _ _ _ _ _ _ mine, Function.update_of_ne mine]
        exact phases other

end Interaction
