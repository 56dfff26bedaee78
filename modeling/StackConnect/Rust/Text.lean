import Mathlib.Data.List.DropRight
import Mathlib.Data.List.Infix

set_option autoImplicit false

namespace Rust

-- `char::is_whitespace`: the Unicode property White_Space.
def isWhitespace (char : Char) : Bool :=
  let code := char.toNat
  (9 ≤ code && code ≤ 13) || code == 0x20 || code == 0x85 || code == 0xA0 || code == 0x1680 ||
    (0x2000 ≤ code && code ≤ 0x200A) || code == 0x2028 || code == 0x2029 || code == 0x202F || code == 0x205F || code == 0x3000

-- `text.split_whitespace().collect::<String>()`.
def withoutWhitespace (text : String) : String := String.ofList (text.toList.filter fun char => !isWhitespace char)

-- `str::to_lowercase`. Only ASCII letters are searched for below, and no other
-- character lowers to a run of them, so the ASCII mapping decides the same searches.
def toLowercase (text : String) : String := String.ofList (text.toList.map Char.toLower)

def contains (text word : String) : Bool := decide (word.toList <:+: text.toList)

def trimEndMatches (slash : Char) (text : String) : String := String.ofList (text.toList.rdropWhile (· == slash))

-- `str::replace` for a pattern that is not empty: matches are taken from the
-- left and do not overlap; `skip` characters still belong to the last match.
def replaceChars (pattern replacement : List Char) : Nat → List Char → List Char
  | _, [] => []
  | skip + 1, _ :: rest => replaceChars pattern replacement skip rest
  | 0, char :: rest =>
      if pattern.isPrefixOf (char :: rest) then
        replacement ++ replaceChars pattern replacement (pattern.length - 1) rest
      else char :: replaceChars pattern replacement 0 rest

def replace (text pattern replacement : String) : String :=
  String.ofList (replaceChars pattern.toList replacement.toList 0 text.toList)

-- `str::lines`: a line ends at its line feed, with a carriage return right
-- before it taken off; the last line may end with the text.
def lineChars (current : List Char) : List Char → List (List Char)
  | [] => if current = [] then [] else [current.reverse]
  | '\n' :: rest =>
      (match current with
        | '\r' :: before => before.reverse
        | _ => current.reverse) :: lineChars [] rest
  | char :: rest => lineChars (char :: current) rest

def lines (text : String) : List String := (lineChars [] text.toList).map String.ofList

def splitOn (separator : Char) (text : String) : List String := (text.toList.splitOn separator).map String.ofList

def hexByte (byte : UInt8) : List Char := [Nat.digitChar (byte.toNat / 16), Nat.digitChar (byte.toNat % 16)]

-- The ranges the bytes after a leading byte must lie in; none for a byte that leads nothing.
def continuations (lead : UInt8) : List (UInt8 × UInt8) :=
  if 0xC2 ≤ lead && lead ≤ 0xDF then [(0x80, 0xBF)]
  else if lead == 0xE0 then [(0xA0, 0xBF), (0x80, 0xBF)]
  else if lead == 0xED then [(0x80, 0x9F), (0x80, 0xBF)]
  else if 0xE1 ≤ lead && lead ≤ 0xEF then [(0x80, 0xBF), (0x80, 0xBF)]
  else if lead == 0xF0 then [(0x90, 0xBF), (0x80, 0xBF), (0x80, 0xBF)]
  else if 0xF1 ≤ lead && lead ≤ 0xF3 then [(0x80, 0xBF), (0x80, 0xBF), (0x80, 0xBF)]
  else if lead == 0xF4 then [(0x80, 0x8F), (0x80, 0xBF), (0x80, 0xBF)]
  else []

def matching : List (UInt8 × UInt8) → List UInt8 → List UInt8
  | (low, high) :: ranges, byte :: bytes =>
      if low ≤ byte && byte ≤ high then byte :: matching ranges bytes else []
  | _, _ => []

def codePoint (lead : UInt8) (tail : List UInt8) : Nat :=
  let bits := match tail.length with
    | 1 => lead.toNat % 32
    | 2 => lead.toNat % 16
    | _ => lead.toNat % 8
  tail.foldl (fun code byte => code * 64 + byte.toNat % 64) bits

-- `String::from_utf8_lossy`: each maximal part of an ill-formed sequence becomes one U+FFFD.
def lossyChars : Nat → List UInt8 → List Char
  | 0, _ => []
  | _, [] => []
  | fuel + 1, lead :: rest =>
      if lead < 0x80 then Char.ofNat lead.toNat :: lossyChars fuel rest
      else
        let ranges := continuations lead
        let tail := matching ranges rest
        let whole := ranges ≠ [] ∧ tail.length = ranges.length
        (if whole then Char.ofNat (codePoint lead tail) else Char.ofNat 0xFFFD) :: lossyChars fuel (rest.drop tail.length)

def fromUtf8Lossy (bytes : List UInt8) : String := String.ofList (lossyChars bytes.length bytes)

def asBytes (text : String) : List UInt8 := text.toByteArray.data.toList

-- The text of a `Utf8Error`, for the sequence that starts at this index.
def utf8ErrorText : Nat → Nat → List UInt8 → String
  | fuel + 1, index, lead :: rest =>
      let ranges := continuations lead
      let tail := matching ranges rest
      if lead < 0x80 then utf8ErrorText fuel (index + 1) rest
      else if ranges ≠ [] ∧ tail.length = ranges.length then
        utf8ErrorText fuel (index + 1 + tail.length) (rest.drop tail.length)
      else if ranges ≠ [] ∧ tail.length = rest.length then "incomplete utf-8 byte sequence from index " ++ toString index
      else "invalid utf-8 sequence of " ++ toString (1 + tail.length) ++ " bytes from index " ++ toString index
  | _, index, _ => "incomplete utf-8 byte sequence from index " ++ toString index

-- `std::str::from_utf8`.
def fromUtf8 (bytes : List UInt8) : Except String String :=
  match String.fromUTF8? ⟨bytes.toArray⟩ with
  | some text => .ok text
  | none => .error (utf8ErrorText bytes.length 0 bytes)

theorem from_utf8_as_bytes (text : String) : fromUtf8 (asBytes text) = .ok text := by
  have whole : String.fromUTF8? text.toByteArray = some text := by
    rw [String.fromUTF8?, dif_pos text.isValidUTF8]
    rfl
  rw [fromUtf8, asBytes]
  rw [Array.toArray_toList]
  change (match String.fromUTF8? text.toByteArray with
    | some text => Except.ok text
    | none => _) = _
  rw [whole]

-- `u32::to_be_bytes` and `u32::from_be_bytes`.
def toBeBytes (value : UInt32) : List UInt8 :=
  [.ofNat (value.toNat / 16777216), .ofNat (value.toNat / 65536), .ofNat (value.toNat / 256), .ofNat value.toNat]

def fromBeBytes : List UInt8 → UInt32
  | [first, second, third, fourth] =>
      .ofNat (first.toNat * 16777216 + second.toNat * 65536 + third.toNat * 256 + fourth.toNat)
  | _ => 0

theorem from_be_bytes_to_be_bytes (value : UInt32) : fromBeBytes (toBeBytes value) = value := by
  have small := value.toNat_lt
  apply UInt32.toNat_inj.mp
  simp only [toBeBytes, fromBeBytes, UInt32.toNat_ofNat', UInt8.toNat_ofNat']
  omega

def chunks {α : Type} (size : Nat) (items : List α) : List (List α) := items.toChunks size

end Rust
