import Mathlib.Logic.Relation

set_option autoImplicit false

namespace Rust

variable {α : Type}

inductive LayoutEdit (blank : α → Bool) : List α → List α → Prop
  | insert (before after : List α) (item : α) (fresh : blank item = true) :
      LayoutEdit blank (before ++ after) (before ++ item :: after)
  | remove (before after : List α) (item : α) (gone : blank item = true) :
      LayoutEdit blank (before ++ item :: after) (before ++ after)
  | replace (before after : List α) (old fresh : α) (gone : blank old = true) (put : blank fresh = true) :
      LayoutEdit blank (before ++ old :: after) (before ++ fresh :: after)

abbrev LaidOut (blank : α → Bool) : List α → List α → Prop := Relation.ReflTransGen (LayoutEdit blank)

def solidOf (blank : α → Bool) (items : List α) : List α := items.filter fun item => !blank item

theorem solid_append (blank : α → Bool) (first second : List α) :
    solidOf blank (first ++ second) = solidOf blank first ++ solidOf blank second := List.filter_append ..

theorem solid_cons (blank : α → Bool) (item : α) (rest : List α) :
    solidOf blank (item :: rest) = if blank item = true then solidOf blank rest else item :: solidOf blank rest := by
  unfold solidOf
  by_cases skipped : blank item = true
  · rw [if_pos skipped, List.filter_cons_of_neg (by simp [skipped])]
  · rw [if_neg skipped, List.filter_cons_of_pos (by simp [skipped])]

theorem layout_edit_solid (blank : α → Bool) (first second : List α) (edit : LayoutEdit blank first second) :
    solidOf blank first = solidOf blank second := by
  cases edit with
  | insert before after item fresh => rw [solid_append, solid_append, solid_cons, if_pos fresh]
  | remove before after item gone => rw [solid_append, solid_append, solid_cons, if_pos gone]
  | replace before after old fresh gone put =>
      rw [solid_append, solid_append, solid_cons, solid_cons, if_pos gone, if_pos put]

theorem layout_edit_symm (blank : α → Bool) (first second : List α) (edit : LayoutEdit blank first second) :
    LayoutEdit blank second first := by
  cases edit with
  | insert before after item fresh => exact .remove before after item fresh
  | remove before after item gone => exact .insert before after item gone
  | replace before after old fresh gone put => exact .replace before after fresh old put gone

theorem laid_out_cons (blank : α → Bool) (item : α) (first second : List α) (same : LaidOut blank first second) :
    LaidOut blank (item :: first) (item :: second) := by
  induction same with
  | refl => exact .refl
  | tail _ edit ih =>
      apply ih.tail
      cases edit with
      | insert before after fresh blankFresh => exact .insert (item :: before) after fresh blankFresh
      | remove before after old gone => exact .remove (item :: before) after old gone
      | replace before after old fresh gone put => exact .replace (item :: before) after old fresh gone put

theorem laid_out_solid (blank : α → Bool) (items : List α) : LaidOut blank items (solidOf blank items) := by
  induction items with
  | nil => exact .refl
  | cons item items ih =>
      rw [solid_cons]
      by_cases skipped : blank item = true
      · rw [if_pos skipped]
        exact .head (.remove [] items item skipped) ih
      · rw [if_neg skipped]
        exact laid_out_cons blank item items _ ih

theorem laid_out_iff (blank : α → Bool) (first second : List α) :
    LaidOut blank first second ↔ solidOf blank first = solidOf blank second := by
  constructor
  · intro edits
    induction edits with
    | refl => rfl
    | tail _ edit ih => exact ih.trans (layout_edit_solid blank _ _ edit)
  · intro same
    have back : LaidOut blank (solidOf blank first) second := by
      rw [same]
      exact (laid_out_solid blank second).swap.lift id fun _ _ edit => layout_edit_symm blank _ _ edit
    exact (laid_out_solid blank first).trans back

end Rust
