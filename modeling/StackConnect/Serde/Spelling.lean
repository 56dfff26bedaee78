import StackConnect.Serde.Text

set_option autoImplicit false

namespace Serde

mutual

def Json.Whole : Json → Prop
  | .real _ => False
  | .arr items => ItemsWhole items
  | .obj members => MembersWhole members
  | _ => True

def ItemsWhole : List Json → Prop
  | [] => True
  | item :: rest => item.Whole ∧ ItemsWhole rest

def MembersWhole : List (String × Json) → Prop
  | [] => True
  | (_, value) :: rest => value.Whole ∧ MembersWhole rest

end

mutual

def Json.strings : Json → List String
  | .str value => [value]
  | .arr items => itemsStrings items
  | .obj members => membersStrings members
  | _ => []

def itemsStrings : List Json → List String
  | [] => []
  | item :: rest => item.strings ++ itemsStrings rest

def membersStrings : List (String × Json) → List String
  | [] => []
  | (key, value) :: rest => key :: (value.strings ++ membersStrings rest)

end

theorem escape_spelled (char : Char) : CharText char (escapeChar char) := by
  have same : ∀ code, char.toNat = code → char = Char.ofNat code := by
    intro code value
    rw [← value, Char.ofNat_toNat]
  unfold escapeChar
  split_ifs with quote backslash back tab feed page carriage control
  · exact .short char '"' (by rw [quote]; decide)
  · exact .short char '\\' (by rw [backslash]; decide)
  · exact .short char 'b' (by rw [same 8 back]; decide)
  · exact .short char 't' (by rw [same 9 tab]; decide)
  · exact .short char 'n' (by rw [same 10 feed]; decide)
  · exact .short char 'f' (by rw [same 12 page]; decide)
  · exact .short char 'r' (by rw [same 13 carriage]; decide)
  · have table : ∀ code < 32, hexValue ['0', '0', Nat.digitChar (code / 16), Nat.digitChar (code % 16)] = some code := by
      decide
    exact .unit char _ rfl (table char.toNat control)
  · exact .plain char (Nat.le_of_not_lt control) quote backslash

theorem chars_spelled (chars : List Char) : CharsText chars (chars.flatMap escapeChar) := by
  induction chars with
  | nil => rfl
  | cons char chars ih => exact ⟨_, _, escape_spelled char, ih, rfl⟩

theorem string_spelled (value : String) : StringSpelled value (stringText value) := ⟨_, chars_spelled value.toList, rfl⟩

theorem newline_gap (layout : Layout) : Gap (newline layout) := by
  cases layout with
  | none => exact fun _ none => absurd none List.not_mem_nil
  | some depth =>
      intro char member
      cases List.mem_cons.mp member with
      | inl feed =>
          rw [feed]
          rfl
      | inr blank =>
          rw [List.eq_of_mem_replicate blank]
          rfl

theorem ending_gap (layout : Layout) (empty : Bool) : Gap (ending layout empty) := by
  cases empty with
  | false => exact newline_gap layout
  | true => exact fun _ none => absurd none List.not_mem_nil

theorem nil_gap : Gap [] := fun _ none => absurd none List.not_mem_nil

theorem colon_gap (layout : Layout) : ∃ right, Gap right ∧ colon layout = ':' :: right := by
  cases layout with
  | none => exact ⟨[], nil_gap, rfl⟩
  | some depth => exact ⟨[' '], by intro char member; rw [List.mem_singleton.mp member]; rfl, rfl⟩

mutual

theorem text_spelled (layout : Layout) (json : Json) (whole : json.Whole) : json.Spelled (json.text layout) := by
  cases json with
  | null => rfl
  | bool value => rfl
  | int value => rfl
  | real spelling => exact absurd whole id
  | str value => exact string_spelled value
  | arr items =>
      have inner := items_text_spelled (deeper layout) [] items whole
      rw [Json.Spelled]
      exact ⟨[], _, _, nil_gap, inner, ending_gap layout items.isEmpty, rfl⟩
  | obj members =>
      have inner := members_text_spelled (deeper layout) [] members whole
      rw [Json.Spelled]
      exact ⟨[], _, _, nil_gap, inner, ending_gap layout members.isEmpty, rfl⟩

theorem items_text_spelled (layout : Layout) (before : List Char) (items : List Json) (whole : ItemsWhole items) :
    ItemsSpelled before items (itemsText layout before items) := by
  cases items with
  | nil => rfl
  | cons item rest =>
      have first := text_spelled layout item whole.1
      have later := items_text_spelled layout [','] rest whole.2
      rw [ItemsSpelled]
      exact ⟨_, _, [], _, newline_gap layout, first, nil_gap, later, rfl⟩

theorem members_text_spelled (layout : Layout) (before : List Char) (members : List (String × Json))
    (whole : MembersWhole members) : MembersSpelled before members (membersText layout before members) := by
  cases members with
  | nil => rfl
  | cons member rest =>
      obtain ⟨key, value⟩ := member
      have first := text_spelled layout value whole.1
      have later := members_text_spelled layout [','] rest whole.2
      obtain ⟨right, blank, apart⟩ := colon_gap layout
      rw [MembersSpelled]
      refine ⟨_, _, [], right, _, [], _, newline_gap layout, string_spelled key, nil_gap, blank, first, nil_gap, later,
        ?_⟩
      rw [membersText, apart]
      rfl

end

theorem int_text (value : Int) :
    ∃ sign count, sign ∈ [[], ['-']] ∧ (toString value).toList = sign ++ Nat.toDigits 10 count := by
  cases value with
  | ofNat count => exact ⟨[], count, by decide, String.toList_ofList⟩
  | negSucc count =>
      refine ⟨['-'], count + 1, by decide, ?_⟩
      have digits : (Nat.repr (count + 1)).toList = Nat.toDigits 10 (count + 1) := String.toList_ofList
      change ("-" ++ Nat.repr (count + 1)).toList = _
      rw [String.toList_append, digits]
      rfl

theorem text_ne_nil (layout : Layout) (json : Json) (whole : json.Whole) : json.text layout ≠ [] := by
  cases json with
  | null => exact List.cons_ne_nil _ _
  | bool value => cases value <;> exact List.cons_ne_nil _ _
  | int value =>
      obtain ⟨sign, count, _, text⟩ := int_text value
      rw [Json.text, text]
      exact List.append_ne_nil_of_right_ne_nil _ Nat.toDigits_ne_nil
  | real spelling => exact absurd whole id
  | str value => exact List.cons_ne_nil _ _
  | arr items =>
      rw [Json.text]
      exact List.cons_ne_nil _ _
  | obj members =>
      rw [Json.text]
      exact List.cons_ne_nil _ _

theorem gap_apostrophe (gap : List Char) (blank : Gap gap) : '\'' ∉ gap := by
  intro inside
  have lost := blank '\'' inside
  exact absurd lost (by decide)

theorem int_apostrophe (value : Int) : '\'' ∉ (toString value).toList := by
  obtain ⟨sign, count, listed, text⟩ := int_text value
  have bare : ∀ sign ∈ [[], ['-']], '\'' ∉ sign := by decide
  rw [text, List.mem_append]
  rintro (inSign | inDigits)
  · exact bare sign listed inSign
  · exact absurd (Nat.isDigit_of_mem_toDigits (by decide) (by decide) inDigits) (by decide)

theorem escape_apostrophe (char : Char) : '\'' ∈ escapeChar char ↔ char = '\'' := by
  constructor
  · intro inside
    unfold escapeChar at inside
    split_ifs at inside with quote backslash back tab feed page carriage control
    all_goals try exact absurd inside (by decide)
    · have table : ∀ code < 32, '\'' ∉ ['\\', 'u', '0', '0', Nat.digitChar (code / 16), Nat.digitChar (code % 16)] := by
        decide
      exact absurd inside (table char.toNat control)
    · exact (List.mem_singleton.mp inside).symm
  · rintro rfl
    decide

theorem string_apostrophe (value : String) : '\'' ∈ stringText value ↔ '\'' ∈ value.toList := by
  have chars : '\'' ∈ value.toList.flatMap escapeChar ↔ '\'' ∈ value.toList := by
    rw [List.mem_flatMap]
    constructor
    · rintro ⟨char, member, inside⟩
      rwa [(escape_apostrophe char).mp inside] at member
    · intro member
      exact ⟨'\'', member, (escape_apostrophe '\'').mpr rfl⟩
  simp [stringText, chars]

mutual

theorem text_apostrophe (layout : Layout) (json : Json) (whole : json.Whole) :
    '\'' ∈ json.text layout ↔ ∃ value ∈ json.strings, '\'' ∈ value.toList := by
  cases json with
  | null => simp [Json.text, Json.strings]
  | bool value =>
      have free : '\'' ∉ (toString value).toList := by cases value <;> decide
      simpa [Json.text, Json.strings] using free
  | int value =>
      have free := int_apostrophe value
      simpa [Json.text, Json.strings] using free
  | real spelling => exact absurd whole id
  | str value => simp [Json.text, Json.strings, string_apostrophe]
  | arr items =>
      have inner := items_text_apostrophe (deeper layout) [] List.not_mem_nil items whole
      have closing := gap_apostrophe _ (ending_gap layout items.isEmpty)
      simp [Json.text, Json.strings, inner, closing]
  | obj members =>
      have inner := members_text_apostrophe (deeper layout) [] List.not_mem_nil members whole
      have closing := gap_apostrophe _ (ending_gap layout members.isEmpty)
      simp [Json.text, Json.strings, inner, closing]

theorem items_text_apostrophe (layout : Layout) (before : List Char) (free : '\'' ∉ before) (items : List Json)
    (whole : ItemsWhole items) :
    '\'' ∈ itemsText layout before items ↔ ∃ value ∈ itemsStrings items, '\'' ∈ value.toList := by
  cases items with
  | nil => simp [itemsText, itemsStrings]
  | cons item rest =>
      have first := text_apostrophe layout item whole.1
      have later := items_text_apostrophe layout [','] (by decide) rest whole.2
      have gap := gap_apostrophe _ (newline_gap layout)
      simp [itemsText, itemsStrings, first, later, gap, free, or_and_right, exists_or]

theorem members_text_apostrophe (layout : Layout) (before : List Char) (free : '\'' ∉ before)
    (members : List (String × Json)) (whole : MembersWhole members) :
    '\'' ∈ membersText layout before members ↔ ∃ value ∈ membersStrings members, '\'' ∈ value.toList := by
  cases members with
  | nil => simp [membersText, membersStrings]
  | cons member rest =>
      obtain ⟨key, value⟩ := member
      have first := text_apostrophe layout value whole.1
      have later := members_text_apostrophe layout [','] (by decide) rest whole.2
      have gap := gap_apostrophe _ (newline_gap layout)
      have apart : '\'' ∉ colon layout := by cases layout <;> simp [colon]
      simp [membersText, membersStrings, string_apostrophe, first, later, gap, free, apart, or_and_right, exists_or]

end

end Serde
