import Mathlib.Data.String.Basic
import StackConnect.Serde.Spelling

set_option autoImplicit false

namespace Serde

-- A map of serde_json keeps its keys in order; of members of one name the last counts.
def insertEarlier (key : String) (value : Json) : List (String × Json) → List (String × Json)
  | [] => [(key, value)]
  | (other, kept) :: rest =>
      if key.toList < other.toList then (key, value) :: (other, kept) :: rest
      else if key = other then (other, kept) :: rest
      else (other, kept) :: insertEarlier key value rest

mutual

def Json.toValue : Json → Json
  | .arr items => .arr (itemsValue items)
  | .obj members => .obj (membersValue members)
  | other => other

def itemsValue : List Json → List Json
  | [] => []
  | item :: rest => item.toValue :: itemsValue rest

def membersValue : List (String × Json) → List (String × Json)
  | [] => []
  | (key, value) :: rest => insertEarlier key value.toValue (membersValue rest)

end

def ParsesTo (text : List Char) (value : Json) : Prop :=
  ∃ (before : List Char) (json : Json) (inner after : List Char), Gap before ∧ json.Spelled inner ∧ Gap after ∧
    text = before ++ inner ++ after ∧ json.toValue = value

theorem text_parses (layout : Layout) (value : Json) (whole : value.Whole) (sorted : value.toValue = value) :
    ParsesTo (value.text layout) value :=
  ⟨[], value, value.text layout, [], nil_gap, text_spelled layout value whole, nil_gap, (List.append_nil _).symm, sorted⟩

def Sorted (members : List (String × Json)) : Prop := members.Pairwise fun first second => first.1.toList < second.1.toList

theorem insert_mem (key : String) (value : Json) (members : List (String × Json)) (member : String × Json)
    (inside : member ∈ insertEarlier key value members) : member = (key, value) ∨ member ∈ members := by
  induction members with
  | nil => exact .inl (List.mem_singleton.mp inside)
  | cons first members ih =>
      obtain ⟨other, kept⟩ := first
      rw [insertEarlier] at inside
      split_ifs at inside with before same
      · exact List.mem_cons.mp inside
      · exact .inr inside
      · cases List.mem_cons.mp inside with
        | inl here => exact .inr (here ▸ List.mem_cons_self)
        | inr later => exact (ih later).imp id (List.mem_cons_of_mem _)

theorem insert_front (key : String) (value : Json) (members : List (String × Json))
    (front : ∀ member ∈ members, key.toList < member.1.toList) :
    insertEarlier key value members = (key, value) :: members := by
  cases members with
  | nil => rfl
  | cons first members =>
      obtain ⟨other, kept⟩ := first
      rw [insertEarlier, if_pos (front (other, kept) List.mem_cons_self)]

theorem insert_sorted (key : String) (value : Json) (members : List (String × Json)) (sorted : Sorted members) :
    Sorted (insertEarlier key value members) := by
  induction members with
  | nil => exact List.pairwise_singleton _ _
  | cons first members ih =>
      obtain ⟨other, kept⟩ := first
      obtain ⟨front, rest⟩ := List.pairwise_cons.mp sorted
      rw [insertEarlier]
      split_ifs with before same
      · refine List.pairwise_cons.mpr ⟨?_, sorted⟩
        intro member inside
        cases List.mem_cons.mp inside with
        | inl here =>
            rw [here]
            exact before
        | inr later => exact lt_trans before (front member later)
      · exact sorted
      · refine List.pairwise_cons.mpr ⟨?_, ih rest⟩
        intro member inside
        cases insert_mem key value members member inside with
        | inl here =>
            rw [here]
            have apart : other.toList ≠ key.toList := fun equal => same (String.toList_injective equal).symm
            exact lt_of_le_of_ne (not_lt.mp before) apart
        | inr later => exact front member later

theorem members_value_sorted (members : List (String × Json)) : Sorted (membersValue members) := by
  induction members with
  | nil => exact .nil
  | cons member members ih =>
      obtain ⟨key, value⟩ := member
      exact insert_sorted key value.toValue (membersValue members) ih

theorem members_value_of_sorted (members : List (String × Json)) (sorted : Sorted members)
    (values : ∀ member ∈ members, member.2.toValue = member.2) : membersValue members = members := by
  induction members with
  | nil => rfl
  | cons member members ih =>
      obtain ⟨key, value⟩ := member
      obtain ⟨front, rest⟩ := List.pairwise_cons.mp sorted
      have here := values (key, value) List.mem_cons_self
      rw [membersValue, ih rest fun other inside => values other (List.mem_cons_of_mem _ inside), here]
      exact insert_front key value members front

mutual

theorem to_value_fixed (json : Json) : json.toValue.toValue = json.toValue := by
  cases json with
  | null => rfl
  | bool value => rfl
  | int value => rfl
  | real text => rfl
  | str value => rfl
  | arr items =>
      rw [Json.toValue, Json.toValue, items_value_fixed items]
  | obj members =>
      rw [Json.toValue, Json.toValue]
      exact congrArg Json.obj (members_value_of_sorted _ (members_value_sorted members) (members_value_fixed members))

theorem items_value_fixed (items : List Json) : itemsValue (itemsValue items) = itemsValue items := by
  cases items with
  | nil => rfl
  | cons item rest => rw [itemsValue, itemsValue, to_value_fixed item, items_value_fixed rest]

theorem members_value_fixed (members : List (String × Json)) :
    ∀ member ∈ membersValue members, member.2.toValue = member.2 := by
  cases members with
  | nil => exact fun _ none => absurd none List.not_mem_nil
  | cons member rest =>
      obtain ⟨key, value⟩ := member
      intro member inside
      cases insert_mem key value.toValue (membersValue rest) member inside with
      | inl here =>
          rw [here]
          exact to_value_fixed value
      | inr later => exact members_value_fixed rest member later

end

theorem members_whole (members : List (String × Json)) :
    MembersWhole members ↔ ∀ member ∈ members, member.2.Whole := by
  induction members with
  | nil => simp [MembersWhole]
  | cons member members ih =>
      obtain ⟨key, value⟩ := member
      rw [MembersWhole, ih, List.forall_mem_cons]

mutual

theorem to_value_whole (json : Json) (whole : json.Whole) : json.toValue.Whole := by
  cases json with
  | null => exact whole
  | bool value => exact whole
  | int value => exact whole
  | real text => exact whole
  | str value => exact whole
  | arr items => exact items_value_whole items whole
  | obj members => exact (members_whole _).mpr (members_value_whole members whole)

theorem items_value_whole (items : List Json) (whole : ItemsWhole items) : ItemsWhole (itemsValue items) := by
  cases items with
  | nil => trivial
  | cons item rest => exact ⟨to_value_whole item whole.1, items_value_whole rest whole.2⟩

theorem members_value_whole (members : List (String × Json)) (whole : MembersWhole members) :
    ∀ member ∈ membersValue members, member.2.Whole := by
  cases members with
  | nil => exact fun _ none => absurd none List.not_mem_nil
  | cons member rest =>
      obtain ⟨key, value⟩ := member
      intro member inside
      cases insert_mem key value.toValue (membersValue rest) member inside with
      | inl here =>
          rw [here]
          exact to_value_whole value whole.1
      | inr later => exact members_value_whole rest whole.2 member later

end

end Serde
