import StackConnect.Serde.Value

set_option autoImplicit false

namespace Serde

def inked (char : Char) : Bool := !isGap char && char != ','

mutual

def Json.ink : Json → Nat
  | .null => 4
  | .bool value => (toString value).toList.countP inked
  | .int value => (toString value).toList.countP inked
  | .real text => text.toList.countP inked
  | .str value => (stringText value).countP inked
  | .arr items => itemsInk items + 2
  | .obj members => membersInk members + 2

def itemsInk : List Json → Nat
  | [] => 0
  | item :: rest => item.ink + itemsInk rest

def membersInk : List (String × Json) → Nat
  | [] => 0
  | (key, value) :: rest => (stringText key).countP inked + 1 + value.ink + membersInk rest

end

theorem gap_count (gap : List Char) (blank : Gap gap) : gap.countP inked = 0 := by
  rw [List.countP_eq_zero]
  intro char member
  simp [inked, blank char member]

theorem colon_count (layout : Layout) : (colon layout).countP inked = 1 := by
  cases layout <;> rfl

mutual

theorem text_ink (layout : Layout) (json : Json) : (json.text layout).countP inked = json.ink := by
  cases json with
  | null => rfl
  | bool value => rfl
  | int value => rfl
  | real text => rfl
  | str value => rfl
  | arr items =>
      have inner := items_text_ink (deeper layout) [] rfl items
      have closing := gap_count _ (ending_gap layout items.isEmpty)
      rw [Json.text, List.countP_cons, List.countP_append, List.countP_append, inner, closing]
      rfl
  | obj members =>
      have inner := members_text_ink (deeper layout) [] rfl members
      have closing := gap_count _ (ending_gap layout members.isEmpty)
      rw [Json.text, List.countP_cons, List.countP_append, List.countP_append, inner, closing]
      rfl

theorem items_text_ink (layout : Layout) (before : List Char) (light : before.countP inked = 0) (items : List Json) :
    (itemsText layout before items).countP inked = itemsInk items := by
  cases items with
  | nil => rfl
  | cons item rest =>
      have first := text_ink layout item
      have later := items_text_ink layout [','] rfl rest
      have gap := gap_count _ (newline_gap layout)
      rw [itemsText, List.countP_append, List.countP_append, List.countP_append, light, gap, first, later, itemsInk]
      omega

theorem members_text_ink (layout : Layout) (before : List Char) (light : before.countP inked = 0)
    (members : List (String × Json)) : (membersText layout before members).countP inked = membersInk members := by
  cases members with
  | nil => rfl
  | cons member rest =>
      obtain ⟨key, value⟩ := member
      have first := text_ink layout value
      have later := members_text_ink layout [','] rfl rest
      have gap := gap_count _ (newline_gap layout)
      simp only [membersText, List.countP_append, light, gap, colon_count, first, later, membersInk]
      omega

end

theorem escape_plain (char : Char) (high : 32 ≤ char.toNat) (quote : char ≠ '"') (backslash : char ≠ '\\') :
    escapeChar char = [char] := by
  rw [escapeChar, if_neg quote, if_neg backslash, if_neg (by omega), if_neg (by omega), if_neg (by omega), if_neg (by omega),
    if_neg (by omega), if_neg (by omega)]

theorem escape_length (char : Char) : (escapeChar char).length ≤ 6 := by
  unfold escapeChar
  split_ifs <;> simp

theorem hex_inked (digit : Char) (value : Nat) (read : hexDigit digit = some value) : inked digit = true := by
  by_contra light
  have blank : digit ∈ [' ', '\t', '\n', '\r', ','] := by
    simp [inked, isGap] at light
    simp
    tauto
  have table : [' ', '\t', '\n', '\r', ','].all (fun other => (hexDigit other).isNone) = true := by decide
  have unread := List.all_eq_true.mp table digit blank
  rw [read] at unread
  cases unread

theorem hex_value_inked (digits : List Char) (start value : Nat)
    (read : digits.foldlM (fun value digit => (hexDigit digit).map (value * 16 + ·)) start = some value) :
    digits.countP inked = digits.length := by
  induction digits generalizing start with
  | nil => rfl
  | cons digit digits ih =>
      rw [List.foldlM_cons] at read
      obtain ⟨next, one, more⟩ := Option.bind_eq_some_iff.mp read
      obtain ⟨bits, found, _⟩ := Option.map_eq_some_iff.mp one
      rw [List.countP_cons_of_pos (hex_inked digit bits found), ih next more, List.length_cons]

theorem char_ink (char : Char) (text : List Char) (spells : CharText char text) :
    (escapeChar char).countP inked ≤ text.countP inked := by
  have most : (escapeChar char).countP inked ≤ 6 := Nat.le_trans List.countP_le_length (escape_length char)
  have escaped : ∀ rest : List Char, ('\\' :: 'u' :: rest).countP inked = rest.countP inked + 2 := by
    intro rest
    rw [List.countP_cons_of_pos (by decide), List.countP_cons_of_pos (by decide)]
  cases spells with
  | plain high quote backslash => rw [escape_plain char high quote backslash]
  | short letter listed =>
      have table : ∀ pair ∈ shortEscapes, (escapeChar pair.1).countP inked ≤ ['\\', pair.2].countP inked := by decide
      exact table (char, letter) listed
  | unit digits four value =>
      have counted := hex_value_inked digits 0 _ value
      rw [escaped, counted, four]
      exact most
  | pair high low fourHigh fourLow wide highValue lowValue =>
      have counted := hex_value_inked high 0 _ highValue
      rw [escaped, List.countP_append, counted, fourHigh]
      omega

theorem chars_ink (chars text : List Char) (spells : CharsText chars text) :
    (chars.flatMap escapeChar).countP inked ≤ text.countP inked := by
  induction chars generalizing text with
  | nil => exact Nat.zero_le _
  | cons char chars ih =>
      obtain ⟨here, more, one, rest, rfl⟩ := spells
      have first := char_ink char here one
      have later := ih more rest
      rw [List.flatMap_cons, List.countP_append, List.countP_append]
      omega

theorem string_ink (value : String) (text : List Char) (spells : StringSpelled value text) :
    (stringText value).countP inked ≤ text.countP inked := by
  obtain ⟨inner, chars, rfl⟩ := spells
  have least := chars_ink value.toList inner chars
  rw [stringText, List.countP_cons, List.countP_cons, List.countP_append, List.countP_append]
  omega

theorem insert_ink (key : String) (value : Json) (members : List (String × Json)) :
    membersInk (insertEarlier key value members) ≤ (stringText key).countP inked + 1 + value.ink + membersInk members := by
  induction members with
  | nil => exact Nat.le_refl _
  | cons member members ih =>
      obtain ⟨other, kept⟩ := member
      rw [insertEarlier]
      split_ifs with before same
      · exact Nat.le_refl _
      · exact Nat.le_add_left _ _
      · rw [membersInk, membersInk]
        omega

mutual

theorem spelled_ink (json : Json) (text : List Char) (spells : json.Spelled text) :
    json.toValue.ink ≤ text.countP inked := by
  cases json with
  | null =>
      rw [Json.Spelled] at spells
      rw [spells]
      exact Nat.le_refl _
  | bool value =>
      rw [Json.Spelled] at spells
      rw [spells]
      exact Nat.le_refl _
  | int value =>
      rw [Json.Spelled] at spells
      rw [spells]
      exact Nat.le_refl _
  | real spelling =>
      rw [Json.Spelled] at spells
      rw [spells.1]
      exact Nat.le_refl _
  | str value =>
      rw [Json.Spelled] at spells
      exact string_ink value text spells
  | arr items =>
      rw [Json.Spelled] at spells
      obtain ⟨opening, inner, closing, _, list, _, rfl⟩ := spells
      have least := items_spelled_ink [] items inner list
      rw [Json.toValue, Json.ink, List.countP_cons_of_pos (by decide), List.countP_append, List.countP_append,
        List.countP_append, List.countP_singleton, if_pos (by decide)]
      omega
  | obj members =>
      rw [Json.Spelled] at spells
      obtain ⟨opening, inner, closing, _, list, _, rfl⟩ := spells
      have least := members_spelled_ink [] members inner list
      rw [Json.toValue, Json.ink, List.countP_cons_of_pos (by decide), List.countP_append, List.countP_append,
        List.countP_append, List.countP_singleton, if_pos (by decide)]
      omega

theorem items_spelled_ink (before : List Char) (items : List Json) (text : List Char)
    (spells : ItemsSpelled before items text) : itemsInk (itemsValue items) ≤ text.countP inked := by
  cases items with
  | nil => exact Nat.zero_le _
  | cons item rest =>
      rw [ItemsSpelled] at spells
      obtain ⟨gap, inner, after, more, _, one, _, list, rfl⟩ := spells
      have first := spelled_ink item inner one
      have later := items_spelled_ink [','] rest more list
      simp only [itemsValue, itemsInk, List.countP_append]
      omega

theorem members_spelled_ink (before : List Char) (members : List (String × Json)) (text : List Char)
    (spells : MembersSpelled before members text) : membersInk (membersValue members) ≤ text.countP inked := by
  cases members with
  | nil => exact Nat.zero_le _
  | cons member rest =>
      obtain ⟨key, value⟩ := member
      rw [MembersSpelled] at spells
      obtain ⟨gap, name, left, right, inner, after, more, _, named, _, _, one, _, list, rfl⟩ := spells
      have first := spelled_ink value inner one
      have keyed := string_ink key name named
      have later := members_spelled_ink [','] rest more list
      have put := insert_ink key value.toValue (membersValue rest)
      have apart : (left ++ ':' :: right).countP inked = left.countP inked + (right.countP inked + 1) := by
        rw [List.countP_append, List.countP_cons_of_pos (by decide)]
      simp only [membersValue, List.countP_append, apart]
      omega

end

theorem parses_ink (layout : Layout) (text : List Char) (value : Json) (parses : ParsesTo text value) :
    (value.text layout).countP inked ≤ text.countP inked := by
  obtain ⟨before, json, inner, after, _, spells, _, rfl, rfl⟩ := parses
  have least := spelled_ink json inner spells
  rw [text_ink, List.countP_append, List.countP_append]
  omega

end Serde
