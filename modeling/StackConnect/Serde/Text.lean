import StackConnect.Serde.Json

set_option autoImplicit false

namespace Serde

-- The writer of serde_json: what a string must not hold is escaped, nothing else.
def escapeChar (char : Char) : List Char :=
  if char = '"' then ['\\', '"']
  else if char = '\\' then ['\\', '\\']
  else if char.toNat = 8 then ['\\', 'b']
  else if char.toNat = 9 then ['\\', 't']
  else if char.toNat = 10 then ['\\', 'n']
  else if char.toNat = 12 then ['\\', 'f']
  else if char.toNat = 13 then ['\\', 'r']
  else if char.toNat < 32 then ['\\', 'u', '0', '0', Nat.digitChar (char.toNat / 16), Nat.digitChar (char.toNat % 16)]
  else [char]

def stringText (value : String) : List Char := '"' :: (value.toList.flatMap escapeChar ++ ['"'])

-- The compact formatter has no indent; the pretty one starts every item and
-- member on a line of its own.
abbrev Layout := Option Nat

def newline : Layout → List Char
  | none => []
  | some depth => '\n' :: List.replicate (2 * depth) ' '

def deeper : Layout → Layout := Option.map (· + 1)

def colon : Layout → List Char
  | none => [':']
  | some _ => [':', ' ']

def ending (layout : Layout) (empty : Bool) : List Char := if empty then [] else newline layout

mutual

def Json.text (layout : Layout) : Json → List Char
  | .null => ['n', 'u', 'l', 'l']
  | .bool value => (toString value).toList
  | .int value => (toString value).toList
  | .real text => text.toList
  | .str value => stringText value
  | .arr items => '[' :: (itemsText (deeper layout) [] items ++ ending layout items.isEmpty ++ [']'])
  | .obj members => '\x7b' :: (membersText (deeper layout) [] members ++ ending layout members.isEmpty ++ ['\x7d'])

def itemsText (layout : Layout) (before : List Char) : List Json → List Char
  | [] => []
  | item :: rest => before ++ newline layout ++ item.text layout ++ itemsText layout [','] rest

def membersText (layout : Layout) (before : List Char) : List (String × Json) → List Char
  | [] => []
  | (key, value) :: rest =>
      before ++ newline layout ++ stringText key ++ colon layout ++ value.text layout ++ membersText layout [','] rest

end

example : String.ofList (Json.text (some 0) (.obj [("a", .arr [.int 1, .str "\n'"]), ("b", .obj [])])) =
    "\x7b\n  \"a\": [\n    1,\n    \"\\n'\"\n  ],\n  \"b\": \x7b\x7d\n\x7d" := by decide

-- What a text of JSON may look like, whoever wrote it.
def isGap (char : Char) : Bool := [' ', '\t', '\n', '\r'].contains char

def Gap (text : List Char) : Prop := ∀ char ∈ text, isGap char = true

def hexDigit (char : Char) : Option Nat :=
  if '0' ≤ char ∧ char ≤ '9' then some (char.toNat - 48)
  else if 'a' ≤ char ∧ char ≤ 'f' then some (char.toNat - 87)
  else if 'A' ≤ char ∧ char ≤ 'F' then some (char.toNat - 55)
  else none

def hexValue (digits : List Char) : Option Nat :=
  digits.foldlM (fun value digit => (hexDigit digit).map (value * 16 + ·)) 0

def shortEscapes : List (Char × Char) :=
  [('"', '"'), ('\\', '\\'), ('/', '/'), (Char.ofNat 8, 'b'), (Char.ofNat 12, 'f'), ('\n', 'n'), ('\r', 'r'), ('\t', 't')]

inductive CharText : Char → List Char → Prop
  | plain (char : Char) (high : 32 ≤ char.toNat) (quote : char ≠ '"') (backslash : char ≠ '\\') : CharText char [char]
  | short (char letter : Char) (listed : (char, letter) ∈ shortEscapes) : CharText char ['\\', letter]
  | unit (char : Char) (digits : List Char) (four : digits.length = 4) (value : hexValue digits = some char.toNat) :
      CharText char ('\\' :: 'u' :: digits)
  | pair (char : Char) (high low : List Char) (fourHigh : high.length = 4) (fourLow : low.length = 4)
      (wide : 0x10000 ≤ char.toNat) (highValue : hexValue high = some (0xD800 + (char.toNat - 0x10000) / 0x400))
      (lowValue : hexValue low = some (0xDC00 + (char.toNat - 0x10000) % 0x400)) :
      CharText char ('\\' :: 'u' :: (high ++ '\\' :: 'u' :: low))

def CharsText : List Char → List Char → Prop
  | [], text => text = []
  | char :: rest, text => ∃ here more, CharText char here ∧ CharsText rest more ∧ text = here ++ more

def StringSpelled (value : String) (text : List Char) : Prop :=
  ∃ inner, CharsText value.toList inner ∧ text = '"' :: (inner ++ ['"'])

def Digits (text : List Char) : Prop := text ≠ [] ∧ ∀ char ∈ text, char.isDigit = true

def Fraction (text : List Char) : Prop := text = [] ∨ ∃ digits, Digits digits ∧ text = '.' :: digits

def Exponent (text : List Char) : Prop :=
  text = [] ∨ ∃ letter sign digits, (letter = 'e' ∨ letter = 'E') ∧ sign ∈ [[], ['+'], ['-']] ∧ Digits digits ∧
    text = letter :: (sign ++ digits)

def NumberText (text : List Char) : Prop :=
  ∃ sign whole fraction exponent, sign ∈ [[], ['-']] ∧ Digits whole ∧ (whole.head? = some '0' → whole = ['0']) ∧
    Fraction fraction ∧ Exponent exponent ∧ text = sign ++ whole ++ fraction ++ exponent

mutual

def Json.Spelled : Json → List Char → Prop
  | .null, text => text = ['n', 'u', 'l', 'l']
  | .bool value, text => text = (toString value).toList
  | .int value, text => text = (toString value).toList
  | .real spelling, text => text = spelling.toList ∧ NumberText text ∧ ∀ value : Int, text ≠ (toString value).toList
  | .str value, text => StringSpelled value text
  | .arr items, text =>
      ∃ opening inner closing, Gap opening ∧ ItemsSpelled [] items inner ∧ Gap closing ∧
        text = '[' :: (opening ++ inner ++ closing ++ [']'])
  | .obj members, text =>
      ∃ opening inner closing, Gap opening ∧ MembersSpelled [] members inner ∧ Gap closing ∧
        text = '\x7b' :: (opening ++ inner ++ closing ++ ['\x7d'])

def ItemsSpelled (before : List Char) : List Json → List Char → Prop
  | [], text => text = []
  | item :: rest, text =>
      ∃ gap inner after more, Gap gap ∧ item.Spelled inner ∧ Gap after ∧ ItemsSpelled [','] rest more ∧
        text = before ++ gap ++ inner ++ (after ++ more)

def MembersSpelled (before : List Char) : List (String × Json) → List Char → Prop
  | [], text => text = []
  | (key, value) :: rest, text =>
      ∃ gap name left right inner after more, Gap gap ∧ StringSpelled key name ∧ Gap left ∧ Gap right ∧
        value.Spelled inner ∧ Gap after ∧ MembersSpelled [','] rest more ∧
        text = before ++ gap ++ name ++ (left ++ ':' :: right) ++ inner ++ (after ++ more)

end

end Serde
