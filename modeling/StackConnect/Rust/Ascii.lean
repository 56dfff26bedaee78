import StackConnect.Rust.Text

set_option autoImplicit false

namespace Rust

def IsAscii (bytes : List UInt8) : Prop := ∀ byte ∈ bytes, byte < 0x80

instance (bytes : List UInt8) : Decidable (IsAscii bytes) :=
  decidable_of_iff (bytes.all (· < 0x80) = true) (by simp [IsAscii])

def asciiChar (byte : UInt8) : Char := Char.ofNat byte.toNat

def asciiByte (char : Char) : UInt8 := UInt8.ofNat char.toNat

theorem ascii_char_to_nat : ∀ code < 128, (Char.ofNat code).toNat = code := by decide

theorem ascii_encoded : ∀ code < 128, String.utf8EncodeChar (Char.ofNat code) = [UInt8.ofNat code] := by decide

theorem ascii_byte_char (byte : UInt8) (ascii : byte < 0x80) : asciiByte (asciiChar byte) = byte := by
  rw [asciiByte, asciiChar, ascii_char_to_nat byte.toNat ascii, UInt8.ofNat_toNat]

theorem ascii_bytes_chars (bytes : List UInt8) (ascii : IsAscii bytes) :
    (bytes.map asciiChar).map asciiByte = bytes := by
  rw [List.map_map]
  exact (List.map_congr_left fun byte member => ascii_byte_char byte (ascii byte member)).trans (List.map_id bytes)

theorem ascii_infix (word bytes : List UInt8) (asciiWord : IsAscii word) (ascii : IsAscii bytes) :
    word.map asciiChar <:+: bytes.map asciiChar ↔ word <:+: bytes := by
  constructor
  · intro found
    have back := found.map asciiByte
    rwa [ascii_bytes_chars word asciiWord, ascii_bytes_chars bytes ascii] at back
  · intro found
    exact found.map asciiChar

theorem contains_of_list (chars : List Char) (word : String) :
    contains (String.ofList chars) word = true ↔ word.toList <:+: chars := by
  rw [contains, decide_eq_true_eq, String.toList_ofList]

theorem as_bytes_ascii (bytes : List UInt8) (ascii : IsAscii bytes) :
    asBytes (String.ofList (bytes.map asciiChar)) = bytes := by
  rw [asBytes, String.toByteArray_ofList]
  induction bytes with
  | nil => rfl
  | cons byte bytes ih =>
      have encoded : String.utf8EncodeChar (asciiChar byte) = [byte] := by
        rw [asciiChar, ascii_encoded byte.toNat (ascii byte List.mem_cons_self), UInt8.ofNat_toNat]
      have rest := ih fun other member => ascii other (List.mem_cons_of_mem _ member)
      rw [List.map_cons, List.utf8Encode_cons, ByteArray.toList_data_append, rest, List.utf8Encode_singleton, encoded]
      simp

theorem ascii_valid (bytes : List UInt8) (ascii : IsAscii bytes) : ByteArray.validateUTF8 ⟨bytes.toArray⟩ = true := by
  have encoded := as_bytes_ascii bytes ascii
  have valid := (String.ofList (bytes.map asciiChar)).isValidUTF8
  rw [ByteArray.validateUTF8_eq_true_iff, ← encoded, asBytes, Array.toArray_toList]
  exact valid

theorem lossy_chars_ascii (word rest : List UInt8) (fuel : Nat) (ascii : IsAscii word) :
    lossyChars (word.length + fuel) (word ++ rest) = word.map asciiChar ++ lossyChars fuel rest := by
  induction word with
  | nil => rw [List.length_nil, Nat.zero_add, List.nil_append, List.map_nil, List.nil_append]
  | cons byte word ih =>
      have shorter := ih fun other member => ascii other (List.mem_cons_of_mem _ member)
      have step : (byte :: word).length + fuel = word.length + fuel + 1 := by
        rw [List.length_cons]
        omega
      rw [step, List.cons_append, lossyChars, if_pos (ascii byte List.mem_cons_self), shorter]
      rfl

theorem from_utf8_lossy_ascii (bytes : List UInt8) (ascii : IsAscii bytes) :
    fromUtf8Lossy bytes = String.ofList (bytes.map asciiChar) := by
  have chars := lossy_chars_ascii bytes [] 0 ascii
  rw [List.append_nil, Nat.add_zero] at chars
  rw [fromUtf8Lossy, chars]
  exact congrArg String.ofList (List.append_nil _)

-- The bytes that follow in a sequence are not ASCII, so none of a word is among them.
theorem continuations_above (lead : UInt8) : ∀ range ∈ continuations lead, 0x80 ≤ range.1 := by
  unfold continuations
  split_ifs <;> simp

theorem matching_before (ranges : List (UInt8 × UInt8)) (above : ∀ range ∈ ranges, 0x80 ≤ range.1) (before : List UInt8)
    (byte : UInt8) (ascii : byte < 0x80) (rest : List UInt8) :
    (matching ranges (before ++ byte :: rest)).length ≤ before.length := by
  induction before generalizing ranges with
  | nil =>
      cases ranges with
      | nil => exact Nat.le_refl 0
      | cons range ranges =>
          have least := above range List.mem_cons_self
          have outside : ¬(range.1 ≤ byte && byte ≤ range.2) = true := by
            rw [Bool.and_eq_true, decide_eq_true_eq]
            intro inside
            exact absurd (UInt8.lt_of_lt_of_le ascii least) (UInt8.not_lt.mpr inside.1)
          rw [List.nil_append, matching, if_neg outside]
  | cons first before ih =>
      cases ranges with
      | nil => exact Nat.zero_le _
      | cons range ranges =>
          have shorter := ih ranges fun other member => above other (List.mem_cons_of_mem _ member)
          rw [List.cons_append, matching]
          split
          · exact Nat.succ_le_succ shorter
          · exact Nat.zero_le _

theorem lossy_chars_infix (word : List UInt8) (ascii : IsAscii word) (notEmpty : word ≠ []) (fuel : Nat)
    (before rest : List UInt8) (enough : (before ++ word ++ rest).length ≤ fuel) :
    word.map asciiChar <:+: lossyChars fuel (before ++ word ++ rest) := by
  induction fuel generalizing before with
  | zero =>
      have empty := List.length_eq_zero_iff.mp (Nat.le_zero.mp enough)
      simp_all
  | succ fuel ih =>
      cases before with
      | nil =>
          have counted : word.length ≤ fuel + 1 := by
            rw [List.nil_append, List.length_append] at enough
            omega
          obtain ⟨left, sum⟩ := Nat.exists_eq_add_of_le counted
          rw [List.nil_append, sum, lossy_chars_ascii word rest left ascii]
          exact (List.prefix_append _ _).isInfix
      | cons lead before =>
          rw [List.cons_append, List.cons_append, List.length_cons] at enough
          rw [List.cons_append, List.cons_append, lossyChars]
          split
          · exact (ih before (by omega)).trans (List.suffix_cons _ _).isInfix
          · have taken : (matching (continuations lead) (before ++ word ++ rest)).length ≤ before.length := by
              cases word with
              | nil => exact absurd rfl notEmpty
              | cons byte word =>
                  rw [List.append_assoc]
                  exact matching_before _ (continuations_above lead) before byte (ascii byte List.mem_cons_self) _
            dsimp only
            generalize (matching (continuations lead) (before ++ word ++ rest)).length = count at taken ⊢
            have dropped : (before ++ word ++ rest).drop count = before.drop count ++ word ++ rest := by
              rw [List.append_assoc, List.drop_append_of_le_length taken, List.append_assoc]
            have shorter := ih (before.drop count) (by
              simp only [List.length_append, List.length_drop] at enough ⊢
              omega)
            rw [dropped]
            exact shorter.trans (List.suffix_cons _ _).isInfix

end Rust
