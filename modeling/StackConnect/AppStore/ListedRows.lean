import Mathlib.Data.List.Forall2
import StackConnect.AppStore.JsonApi

set_option autoImplicit false

namespace StackConnect

open Serde

variable {α β ρ ι : Type}

-- The elements a page carries under a key, whether the page is an object or, as
-- serde also takes a struct, an array of its fields.
def membersItems (key : String) (members : List (String × Json)) : List Json :=
  match occurrences key members with
  | [.arr items] => items
  | _ => []

def listedItems : Json → List Json
  | .obj members => membersItems "data" members
  | .arr (.arr items :: _) => items
  | _ => []

def includedItems : Json → List Json
  | .obj members => membersItems "included" members
  | .arr (_ :: .arr items :: _) => items
  | _ => []

def EachMapped (resource : Decoder ρ) (row : ρ → α) (page : Json) (rows : List α) : Prop :=
  List.Forall₂ (fun item mapped => (resource item).map row = some mapped) (listedItems page) rows

def EachJoined (resource : Decoder ρ) (included : Decoder ι) (row : List ι → ρ → α) (page : Json) (rows : List α) : Prop :=
  ∃ joined, (includedItems page).mapM included = some joined ∧ EachMapped resource (row joined) page rows

theorem map_m_each (decode : Decoder ρ) (items : List Json) (values : List ρ) (decoded : items.mapM decode = some values) :
    List.Forall₂ (fun item value => decode item = some value) items values := by
  induction items generalizing values with
  | nil =>
      cases decoded
      exact .nil
  | cons item rest ih =>
      rw [List.mapM_cons] at decoded
      obtain ⟨value, here, decoded⟩ := Option.bind_eq_some_iff.mp decoded
      obtain ⟨others, later, same⟩ := Option.bind_eq_some_iff.mp decoded
      cases same
      exact .cons here (ih others later)

theorem each_mapped (resource : Decoder ρ) (row : ρ → α) (page : Json) (data : List ρ)
    (decoded : (listedItems page).mapM resource = some data) : EachMapped resource row page (data.map row) := by
  rw [EachMapped, List.forall₂_map_right_iff]
  refine (map_m_each resource _ data decoded).imp ?_
  intro item value here
  rw [here]
  rfl

theorem vec_items (decode : Decoder ρ) (json : Json) (values : List ρ) (decoded : vec decode json = some values) :
    ∃ items, json = .arr items ∧ items.mapM decode = some values := by
  cases json with
  | arr items => exact ⟨items, rfl, decoded⟩
  | _ => cases decoded

theorem members_items (key : String) (decode : Decoder ρ) (members : List (String × Json)) (values : List ρ)
    (read : memberOr key (vec decode) [] members = some values) : (membersItems key members).mapM decode = some values := by
  rw [memberOr] at read
  rw [membersItems]
  rcases present : occurrences key members with _ | ⟨value, _ | ⟨other, rest⟩⟩
  · rw [present] at read
    cases read
    rfl
  · rw [present] at read
    obtain ⟨items, rfl, decoded⟩ := vec_items decode value values read
    exact decoded
  · rw [present] at read
    cases read

theorem defaulted_bind_ended (key : String) (decode : Decoder α) (default : α) (next : α → Fields β) :
    (defaulted key decode default >>= next) (.items []) = next default (.items []) := rfl

theorem defaulted_bind_items (key : String) (decode : Decoder α) (default : α) (next : α → Fields β) (item : Json)
    (rest : List Json) :
    (defaulted key decode default >>= next) (.items (item :: rest)) =
      (decode item).bind fun value => next value (.items rest) := by
  change (defaulted key decode default (.items (item :: rest))).bind (fun read => next read.1 read.2) = _
  rw [defaulted]
  cases decode item <;> rfl

theorem struct_arr (fields : Fields α) (items : List Json) (value : α) (decoded : struct fields (.arr items) = some value) :
    fields (.items items) = some (value, .items []) := by
  rw [struct] at decoded
  split at decoded
  · next value read =>
      cases decoded
      exact read
  · cases decoded

theorem page_lists (resource : Decoder ρ) (json : Json) (page : Page ρ) (decoded : Page.decode resource json = some page) :
    (listedItems json).mapM resource = some page.data := by
  cases json with
  | obj members =>
      rw [Page.decode, struct_obj, defaulted_bind_members] at decoded
      obtain ⟨⟨_, _⟩, fields, rfl⟩ := Option.map_eq_some_iff.mp decoded
      obtain ⟨data, read, rest⟩ := Option.bind_eq_some_iff.mp fields
      rw [defaulted_bind_members] at rest
      obtain ⟨links, _, built⟩ := Option.bind_eq_some_iff.mp rest
      cases built
      exact members_items "data" resource members data read
  | arr items =>
      have fields := struct_arr _ _ _ decoded
      cases items with
      | nil =>
          cases fields
          rfl
      | cons item rest =>
          rw [defaulted_bind_items] at fields
          obtain ⟨data, read, others⟩ := Option.bind_eq_some_iff.mp fields
          obtain ⟨elements, rfl, each⟩ := vec_items resource item data read
          cases rest with
          | nil =>
              cases others
              exact each
          | cons links rest =>
              rw [defaulted_bind_items] at others
              obtain ⟨links, _, built⟩ := Option.bind_eq_some_iff.mp others
              cases built
              exact each
  | _ => cases decoded

theorem included_page_lists (resource : Decoder ρ) (included : Decoder ι) (json : Json) (page : IncludedPage ρ ι)
    (decoded : IncludedPage.decode resource included json = some page) :
    (listedItems json).mapM resource = some page.data ∧ (includedItems json).mapM included = some page.included := by
  cases json with
  | obj members =>
      rw [IncludedPage.decode, struct_obj, defaulted_bind_members] at decoded
      obtain ⟨⟨_, _⟩, fields, rfl⟩ := Option.map_eq_some_iff.mp decoded
      obtain ⟨data, listed, rest⟩ := Option.bind_eq_some_iff.mp fields
      rw [defaulted_bind_members] at rest
      obtain ⟨joined, carried, rest⟩ := Option.bind_eq_some_iff.mp rest
      rw [defaulted_bind_members] at rest
      obtain ⟨links, _, built⟩ := Option.bind_eq_some_iff.mp rest
      cases built
      exact ⟨members_items "data" resource members data listed, members_items "included" included members joined carried⟩
  | arr items =>
      have fields := struct_arr _ _ _ decoded
      cases items with
      | nil =>
          cases fields
          exact ⟨rfl, rfl⟩
      | cons item rest =>
          rw [defaulted_bind_items] at fields
          obtain ⟨data, listed, others⟩ := Option.bind_eq_some_iff.mp fields
          obtain ⟨elements, rfl, each⟩ := vec_items resource item data listed
          cases rest with
          | nil =>
              cases others
              exact ⟨each, rfl⟩
          | cons item rest =>
              rw [defaulted_bind_items] at others
              obtain ⟨joined, carried, last⟩ := Option.bind_eq_some_iff.mp others
              obtain ⟨extras, rfl, all⟩ := vec_items included item joined carried
              cases rest with
              | nil =>
                  cases last
                  exact ⟨each, all⟩
              | cons links rest =>
                  rw [defaulted_bind_items] at last
                  obtain ⟨links, _, built⟩ := Option.bind_eq_some_iff.mp last
                  cases built
                  exact ⟨each, all⟩
  | _ => cases decoded

end StackConnect
