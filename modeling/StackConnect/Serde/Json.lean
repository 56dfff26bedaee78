import StackConnect.Rust.HashMap

set_option autoImplicit false

namespace Serde

open Rust

-- A parsed JSON text. Members keep their order and their repetitions, since a
-- derived decoder rejects a repeated field; a number with a fraction or an
-- exponent keeps its text, and no integer field accepts it.
inductive Json where
  | null
  | bool (value : Bool)
  | int (value : Int)
  | real (text : String)
  | str (value : String)
  | arr (items : List Json)
  | obj (members : List (String × Json))

-- The part of serde_json this model relies on without reading it: how a text
-- parses, how a value prints, and the text of the error for an input that is
-- not of the wanted type.
structure SerdeJson where
  parse : String → Option Json
  print : Json → String
  errorText : (type : String) → (input : String) → String

def escape : Char → String
  | '"' => "\\\""
  | '\\' => "\\\\"
  | '\n' => "\\n"
  | '\r' => "\\r"
  | '\t' => "\\t"
  | char => String.singleton char

def quoted (text : String) : String := "\"" ++ String.join (text.toList.map escape) ++ "\""

-- The compact text of a value without control characters other than these three.
mutual

def Json.compact : Json → String
  | .null => "null"
  | .bool true => "true"
  | .bool false => "false"
  | .int value => toString value
  | .real text => text
  | .str value => quoted value
  | .arr items => "[" ++ compactItems items ++ "]"
  | .obj members => "\x7b" ++ compactMembers members ++ "\x7d"

def compactItems : List Json → String
  | [] => ""
  | [last] => last.compact
  | item :: rest => item.compact ++ "," ++ compactItems rest

def compactMembers : List (String × Json) → String
  | [] => ""
  | [(key, last)] => quoted key ++ ":" ++ last.compact
  | (key, value) :: rest => quoted key ++ ":" ++ value.compact ++ "," ++ compactMembers rest

end

def SerdeJson.reading (values : List Json) : SerdeJson where
  parse text := values.find? fun value => value.compact = text
  print := Json.compact
  errorText type _ := "invalid " ++ type

def Json.field (key : String) : Json → Option Json
  | .obj members => (members.find? fun member => member.1 = key).map Prod.snd
  | _ => none

def Json.at (json : Json) (path : List String) : Option Json := path.foldlM (fun value key => value.field key) json

abbrev Decoder (α : Type) := Json → Option α

variable {α β : Type}

def SerdeJson.fromStr (serde : SerdeJson) (type : String) (decode : Decoder α) (input : String) : Except String α :=
  match (serde.parse input).bind decode with
  | some value => .ok value
  | none => .error (serde.errorText type input)

theorem SerdeJson.from_str_ok (serde : SerdeJson) (type : String) (decode : Decoder α) (input : String) (value : α) :
    serde.fromStr type decode input = .ok value ↔ (serde.parse input).bind decode = some value := by
  rw [SerdeJson.fromStr]
  cases (serde.parse input).bind decode <;> simp

-- What the derived visitor of a struct reads from: the members of an object, or
-- the remaining elements of an array, which serde matches by position.
inductive Source where
  | members (members : List (String × Json))
  | items (items : List Json)

abbrev Fields (α : Type) := StateT Source Option α

def occurrences (key : String) (members : List (String × Json)) : List Json :=
  (members.filter fun member => member.1 = key).map Prod.snd

-- A field without a default: missing or repeated is an error.
def required (key : String) (decode : Decoder α) : Fields α
  | .members members =>
      match occurrences key members with
      | [value] => (decode value).map (·, .members members)
      | _ => none
  | .items [] => none
  | .items (item :: rest) => (decode item).map (·, .items rest)

-- A field under `#[serde(default)]`.
def defaulted (key : String) (decode : Decoder α) (default : α) : Fields α
  | .members members =>
      match occurrences key members with
      | [] => some (default, .members members)
      | [value] => (decode value).map (·, .members members)
      | _ => none
  | .items [] => some (default, .items [])
  | .items (item :: rest) => (decode item).map (·, .items rest)

def struct (fields : Fields α) : Decoder α
  | .obj members => (fields (.members members)).map Prod.fst
  | .arr items =>
      match fields (.items items) with
      | some (value, .items []) => some value
      | _ => none
  | _ => none

def option (decode : Decoder α) : Decoder (Option α)
  | .null => some none
  | json => (decode json).map some

def vec (decode : Decoder α) : Decoder (List α)
  | .arr items => items.mapM decode
  | _ => none

def hashMap (decode : Decoder α) : Decoder (HashMap String α)
  | .obj members => (members.mapM fun member => (decode member.2).map (member.1, ·)).map HashMap.collect
  | _ => none

def string : Decoder String
  | .str value => some value
  | _ => none

def boolean : Decoder Bool
  | .bool value => some value
  | _ => none

def integer (low high : Int) : Decoder Int
  | .int value => if low ≤ value ∧ value ≤ high then some value else none
  | _ => none

def i32 : Decoder Int := integer (-2147483648) 2147483647
def u32 : Decoder Int := integer 0 4294967295
def i64 : Decoder Int := integer (-9223372036854775808) 9223372036854775807

-- A field `Option<T>` under `#[serde(default)]`, the commonest of them all.
def optional (key : String) (decode : Decoder α) : Fields (Option α) :=
  defaulted key (option decode) none

def memberOf (key : String) (decode : Decoder α) (members : List (String × Json)) : Option α :=
  match occurrences key members with
  | [value] => decode value
  | _ => none

def memberOr (key : String) (decode : Decoder α) (default : α) (members : List (String × Json)) : Option α :=
  match occurrences key members with
  | [] => some default
  | [value] => decode value
  | _ => none

-- `#[serde(tag = key)]` with an optional `#[serde(other)]` variant. The tag is
-- taken out of the content before the variant reads it; the other variant skips
-- the members of an object, but an array must end after the tag.
def tagged (key : String) (variant : String → Option (Decoder α)) (other : Option α) : Decoder α
  | .obj members =>
      match occurrences key members with
      | [.str tag] =>
          match variant tag with
          | some decode => decode (.obj (members.filter fun member => member.1 ≠ key))
          | none => other
      | _ => none
  | .arr (.str tag :: rest) =>
      match variant tag with
      | some decode => decode (.arr rest)
      | none => if rest.isEmpty then other else none
  | _ => none

-- serde_json::Map::insert on a map built by hand, key after key.
def insertSome (key : String) (encode : α → Json) : Option α → List (String × Json)
  | none => []
  | some value => [(key, encode value)]

def overwrite (stored patch : List (String × Json)) : List (String × Json) :=
  stored.filter (fun member => member.1 ∉ patch.map Prod.fst) ++ patch

@[simp] theorem occurrences_nil (key : String) : occurrences key [] = [] := rfl

@[simp] theorem occurrences_cons (key other : String) (value : Json) (rest : List (String × Json)) :
    occurrences key ((other, value) :: rest) = if other = key then value :: occurrences key rest else occurrences key rest := by
  by_cases same : other = key <;> simp [occurrences, same]

@[simp] theorem occurrences_insert_some (key other : String) (encode : α → Json) (value : Option α) :
    occurrences key (insertSome other encode value) = if other = key then (value.map encode).toList else [] := by
  cases value with
  | none => simp [insertSome]
  | some value => by_cases same : other = key <;> simp [insertSome, same]

theorem occurrences_append (key : String) (first second : List (String × Json)) :
    occurrences key (first ++ second) = occurrences key first ++ occurrences key second := by
  simp [occurrences]

theorem occurrences_absent (key : String) (members : List (String × Json)) (absent : key ∉ members.map Prod.fst) :
    occurrences key members = [] := by
  simp only [occurrences, List.map_eq_nil_iff, List.filter_eq_nil_iff, decide_eq_true_eq]
  intro member inside same
  exact absent (same ▸ List.mem_map_of_mem inside)

theorem occurrences_overwrite (key : String) (stored patch : List (String × Json)) :
    occurrences key (overwrite stored patch) =
      if key ∈ patch.map Prod.fst then occurrences key patch else occurrences key stored := by
  rw [overwrite, occurrences_append]
  by_cases sent : key ∈ patch.map Prod.fst
  · rw [if_pos sent]
    have gone : occurrences key (stored.filter fun member => member.1 ∉ patch.map Prod.fst) = [] := by
      apply occurrences_absent
      intro inside
      obtain ⟨member, kept, rfl⟩ := List.mem_map.mp inside
      exact (by simpa using (List.mem_filter.mp kept).2 : member.1 ∉ patch.map Prod.fst) sent
    rw [gone, List.nil_append]
  · rw [if_neg sent, occurrences_absent key patch sent, List.append_nil]
    simp only [occurrences, List.filter_filter]
    congr 1
    apply List.filter_congr
    intro member _
    by_cases same : member.1 = key
    · subst same
      simp [sent]
    · simp [same]

theorem defaulted_members (key : String) (decode : Decoder α) (default : α) (members : List (String × Json)) :
    defaulted key decode default (.members members) = (memberOr key decode default members).map (·, .members members) := by
  unfold defaulted memberOr
  dsimp only
  rcases occurrences key members with _ | ⟨value, _ | ⟨other, rest⟩⟩ <;> rfl

-- Reading an object field by field: each field looks at its own key only.
theorem defaulted_bind_members (key : String) (decode : Decoder α) (default : α) (next : α → Fields β)
    (members : List (String × Json)) :
    (defaulted key decode default >>= next) (.members members) =
      (memberOr key decode default members).bind fun value => next value (.members members) := by
  change (defaulted key decode default (.members members)).bind (fun read => next read.1 read.2) = _
  rw [defaulted_members]
  cases memberOr key decode default members <;> rfl

theorem required_bind_members (key : String) (decode : Decoder α) (next : α → Fields β) (members : List (String × Json)) :
    (required key decode >>= next) (.members members) =
      (memberOf key decode members).bind fun value => next value (.members members) := by
  change (required key decode (.members members)).bind (fun read => next read.1 read.2) = _
  unfold required memberOf
  dsimp only
  rcases occurrences key members with _ | ⟨value, _ | ⟨other, rest⟩⟩
  · rfl
  · dsimp only
    cases decode value <;> rfl
  · rfl

theorem member_of_single (key : String) (decode : Decoder α) (members : List (String × Json)) (value : Json)
    (single : occurrences key members = [value]) : memberOf key decode members = decode value := by
  rw [memberOf]
  rw [single]

theorem member_or_printed (key : String) (decode : Decoder α) (encode : α → Json) (members : List (String × Json))
    (value : Option α) (back : ∀ value, option decode (encode value) = some (some value))
    (printed : occurrences key members = (value.map encode).toList) :
    memberOr key (option decode) none members = some value := by
  rw [memberOr]
  rw [printed]
  cases value with
  | none => rfl
  | some value => exact back value

@[simp] theorem pure_fields (value : α) (source : Source) : (pure value : Fields α) source = some (value, source) := rfl

theorem member_or_overwrite (key : String) (decode : Decoder α) (default : α) (stored patch : List (String × Json)) :
    memberOr key decode default (overwrite stored patch) =
      if key ∈ patch.map Prod.fst then memberOr key decode default patch else memberOr key decode default stored := by
  unfold memberOr
  rw [occurrences_overwrite]
  by_cases sent : key ∈ patch.map Prod.fst
  · simp only [if_pos sent]
  · simp only [if_neg sent]

theorem vec_arr (decode : Decoder α) (items : List Json) (values : List α)
    (each : items.map decode = values.map some) : vec decode (.arr items) = some values := by
  change items.mapM decode = some values
  induction items generalizing values with
  | nil =>
      cases values with
      | nil => rfl
      | cons value rest => cases each
  | cons item rest ih =>
      cases values with
      | nil => cases each
      | cons value others =>
          obtain ⟨here, later⟩ := List.cons.inj each
          rw [List.mapM_cons, here, ih others later]
          rfl

@[simp] theorem struct_obj (fields : Fields α) (members : List (String × Json)) :
    struct fields (.obj members) = (fields (.members members)).map Prod.fst := rfl

@[simp] theorem string_str (value : String) : string (.str value) = some value := rfl
@[simp] theorem boolean_bool (value : Bool) : boolean (.bool value) = some value := rfl
@[simp] theorem option_null (decode : Decoder α) : option decode .null = some none := rfl

end Serde

