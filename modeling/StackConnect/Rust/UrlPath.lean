import Mathlib.Data.List.Basic

set_option autoImplicit false

namespace Rust

-- The url crate, by what it makes of the path of a URL's text: its segments,
-- percent-decoded, once dot segments are removed; none where the text is no URL.
structure UrlCrate where
  path : String → Option (List String)

def urlBreakers : List Char := ['/', '\\', '?', '#', '%', '\t', '\n', '\r']

-- A text that stays one segment of a path it is written into: nothing in it ends
-- the segment, begins an escape or is dropped by the parser.
structure Segment (text : String) : Prop where
  unbroken : ∀ char ∈ text.toList, char ∉ urlBreakers
  notSelf : text ≠ "."
  notParent : text ≠ ".."
  untrimmed : ∀ char, text.toList.getLast? = some char → 32 < char.toNat

def isPlain (char : Char) : Bool := char.isAlphanum || char == '-' || char == '_'

def PlainText (text : String) : Prop := ∀ char ∈ text.toList, isPlain char = true

instance (text : String) : Decidable (PlainText text) := decidable_of_iff (text.toList.all isPlain = true) List.all_eq_true

theorem plain_free (text : String) (plain : PlainText text) (mark : Char) (marks : isPlain mark = false) : mark ∉ text.toList := by
  intro inside
  rw [plain mark inside] at marks
  cases marks

theorem plain_printed (char : Char) (plain : isPlain char = true) : 32 < char.toNat := by
  by_contra control
  have small : char.val ≤ 32 := Nat.not_lt.mp control
  rw [isPlain, Bool.or_eq_true, Bool.or_eq_true, beq_iff_eq, beq_iff_eq] at plain
  rcases plain with (letter | rfl) | rfl
  · have ranges : char.isAlphanum = ((decide (65 ≤ char.val ∧ char.val ≤ 90) || (decide (97 ≤ char.val) && decide (char.val ≤ 122))) ||
        (decide (48 ≤ char.val) && decide (char.val ≤ 57))) := rfl
    simp only [ranges, Bool.or_eq_true, Bool.and_eq_true, decide_eq_true_eq] at letter
    grind
  · exact absurd small (by decide)
  · exact absurd small (by decide)

theorem plain_segment (text : String) (plain : PlainText text) : Segment text where
  unbroken := by
    intro char inside breaks
    have harmless : urlBreakers.all (fun mark => !isPlain mark) = true := rfl
    have mark := List.all_eq_true.mp harmless char breaks
    rw [plain char inside] at mark
    cases mark
  notSelf := by
    rintro rfl
    exact absurd plain (by decide)
  notParent := by
    rintro rfl
    exact absurd plain (by decide)
  untrimmed char last := plain_printed char (plain char (List.mem_of_getLast? last))

def pathText (segments : List String) : String := String.join (segments.map fun segment => "/" ++ segment)

-- A base URL under which the parser leaves a path of segments as it is written.
def UrlCrate.KeepsUnder (crate : UrlCrate) (base : String) (root : List String) : Prop :=
  ∀ segments, (∀ segment ∈ segments, Segment segment) → crate.path (base ++ pathText segments) = some (root ++ segments)

-- The dot segments of the URL standard: one names the path so far, two its parent.
def withoutDots (segments : List (List Char)) : List (List Char) :=
  segments.foldl (fun kept segment =>
    if segment = ['.'] then kept else if segment = ['.', '.'] then kept.dropLast else kept ++ [segment]) []

def UrlCrate.removingDots (base : String) : UrlCrate where
  path text :=
    if base.toList.isPrefixOf text.toList then
      some ((withoutDots (((text.toList.drop base.toList.length).splitOn '/').drop 1)).map String.ofList)
    else none

theorem without_dots_plain (segments kept : List (List Char))
    (plain : ∀ segment ∈ segments, segment ≠ ['.'] ∧ segment ≠ ['.', '.']) :
    segments.foldl (fun kept segment =>
      if segment = ['.'] then kept else if segment = ['.', '.'] then kept.dropLast else kept ++ [segment]) kept =
      kept ++ segments := by
  induction segments generalizing kept with
  | nil => rw [List.foldl_nil, List.append_nil]
  | cons segment rest ih =>
      obtain ⟨here, later⟩ := List.forall_mem_cons.mp plain
      rw [List.foldl_cons, if_neg here.1, if_neg here.2, ih _ later, List.append_assoc, List.singleton_append]

theorem intercalate_cons (slash : Char) (part : List Char) (parts : List (List Char)) :
    [slash].intercalate (part :: parts) = part ++ parts.flatMap fun other => slash :: other := by
  induction parts generalizing part with
  | nil => rw [List.intercalate_singleton, List.flatMap_nil, List.append_nil]
  | cons other rest ih =>
      rw [List.intercalate_cons_cons, ih, List.flatMap_cons, List.append_assoc]
      rfl

theorem path_text_chars (segments : List String) :
    (pathText segments).toList = ['/'].intercalate ([] :: segments.map String.toList) := by
  rw [pathText, String.toList_join, intercalate_cons, List.flatMap_map, List.flatMap_map, List.nil_append]
  congr 1
  funext segment
  rw [String.toList_append]
  rfl

theorem removing_dots_keeps (base : String) : (UrlCrate.removingDots base).KeepsUnder base [] := by
  intro segments plain
  have apart : ∀ part ∈ [] :: segments.map String.toList, '/' ∉ part := by
    intro part inside slash
    rcases List.mem_cons.mp inside with rfl | inside
    · cases slash
    · obtain ⟨segment, member, rfl⟩ := List.mem_map.mp inside
      exact (plain segment member).unbroken '/' slash (by decide)
  have dotless : ∀ part ∈ segments.map String.toList, part ≠ ['.'] ∧ part ≠ ['.', '.'] := by
    intro part inside
    obtain ⟨segment, member, rfl⟩ := List.mem_map.mp inside
    refine ⟨fun same => (plain segment member).notSelf ?_, fun same => (plain segment member).notParent ?_⟩
    · exact String.toList_inj.mp same
    · exact String.toList_inj.mp same
  have begins : base.toList.isPrefixOf (base ++ pathText segments).toList = true := by
    rw [String.toList_append, List.isPrefixOf_iff_prefix]
    exact List.prefix_append _ _
  rw [UrlCrate.removingDots]
  dsimp only
  rw [if_pos begins, String.toList_append, List.drop_left, path_text_chars, List.splitOn_intercalate '/' apart nofun,
    List.drop_succ_cons, List.drop_zero, withoutDots, without_dots_plain _ _ dotless, List.nil_append, List.nil_append,
    List.map_map]
  simp

end Rust
