import Mathlib.Data.List.Forall2
import StackConnect.Rust.Text

set_option autoImplicit false

namespace Rust

def Within (range : UInt8 × UInt8) (byte : UInt8) : Prop := range.1 ≤ byte ∧ byte ≤ range.2

instance (range : UInt8 × UInt8) (byte : UInt8) : Decidable (Within range byte) := inferInstanceAs (Decidable (_ ∧ _))

def continued (bits : Nat) : UInt8 := UInt8.ofNat (bits + 0x80)

theorem continued_bits : ∀ bits < 64, (continued bits).toNat % 64 = bits := by decide

theorem continued_within : ∀ bits < 64, Within (0x80, 0xBF) (continued bits) ∧
    (32 ≤ bits → Within (0xA0, 0xBF) (continued bits)) ∧ (bits < 32 → Within (0x80, 0x9F) (continued bits)) ∧
    (16 ≤ bits → Within (0x90, 0xBF) (continued bits)) ∧ (bits < 16 → Within (0x80, 0x8F) (continued bits)) := by decide

theorem lead_two : ∀ code < 32, 2 ≤ code → ¬UInt8.ofNat (code + 0xC0) < 0x80 ∧
    (UInt8.ofNat (code + 0xC0)).toNat % 32 = code ∧ continuations (UInt8.ofNat (code + 0xC0)) = [(0x80, 0xBF)] := by decide

theorem lead_three : ∀ code < 16, ¬UInt8.ofNat (code + 0xE0) < 0x80 ∧ (UInt8.ofNat (code + 0xE0)).toNat % 16 = code ∧
    continuations (UInt8.ofNat (code + 0xE0)) =
      [if code = 0 then (0xA0, 0xBF) else if code = 13 then (0x80, 0x9F) else (0x80, 0xBF), (0x80, 0xBF)] := by decide

theorem lead_four : ∀ code < 5, ¬UInt8.ofNat (code + 0xF0) < 0x80 ∧ (UInt8.ofNat (code + 0xF0)).toNat % 8 = code ∧
    continuations (UInt8.ofNat (code + 0xF0)) =
      [if code = 0 then (0x90, 0xBF) else if code = 4 then (0x80, 0x8F) else (0x80, 0xBF), (0x80, 0xBF), (0x80, 0xBF)] := by
  decide

theorem matching_within (ranges : List (UInt8 × UInt8)) (tail rest : List UInt8)
    (fits : List.Forall₂ Within ranges tail) : matching ranges (tail ++ rest) = tail := by
  induction fits with
  | nil => cases rest <;> rfl
  | cons within _ ih => rw [List.cons_append, matching, if_pos (by simpa [Within] using within), ih]

theorem lossy_sequence (fuel : Nat) (lead : UInt8) (tail rest : List UInt8) (high : ¬lead < 0x80) (more : tail ≠ [])
    (fits : List.Forall₂ Within (continuations lead) tail) :
    lossyChars (fuel + 1) (lead :: (tail ++ rest)) = Char.ofNat (codePoint lead tail) :: lossyChars fuel rest := by
  have taken := matching_within (continuations lead) tail rest fits
  have counted := fits.length_eq
  have ranges : continuations lead ≠ [] := by
    intro none
    rw [none] at counted
    exact more (List.length_eq_zero_iff.mp counted.symm)
  rw [lossyChars, if_neg high]
  dsimp only
  rw [taken, if_pos ⟨ranges, counted.symm⟩, List.drop_left]

theorem lossy_two (fuel : Nat) (char : Char) (rest : List UInt8) (wide : 0x7F < char.toNat) (narrow : char.toNat ≤ 0x7FF) :
    lossyChars (fuel + 1) (UInt8.ofNat (char.toNat / 64 % 0x20 + 0xC0) :: ([continued (char.toNat % 0x40)] ++ rest)) =
      char :: lossyChars fuel rest := by
  have last : char.toNat % 0x40 < 64 := Nat.mod_lt _ (by decide)
  obtain ⟨high, bits, ranges⟩ := lead_two (char.toNat / 64 % 0x20) (Nat.mod_lt _ (by decide)) (by omega)
  have fits : List.Forall₂ Within (continuations (UInt8.ofNat (char.toNat / 64 % 0x20 + 0xC0)))
      [continued (char.toNat % 0x40)] := by
    rw [ranges]
    exact .cons (continued_within _ last).1 .nil
  have code : codePoint (UInt8.ofNat (char.toNat / 64 % 0x20 + 0xC0)) [continued (char.toNat % 0x40)] = char.toNat := by
    simp only [codePoint, List.length_cons, List.length_nil, List.foldl_cons, List.foldl_nil, bits, continued_bits _ last]
    omega
  rw [lossy_sequence fuel _ _ rest high (List.cons_ne_nil _ _) fits, code, Char.ofNat_toNat]

theorem lossy_three (fuel : Nat) (char : Char) (rest : List UInt8) (wide : 0x7FF < char.toNat)
    (narrow : char.toNat ≤ 0xFFFF) :
    lossyChars (fuel + 1) (UInt8.ofNat (char.toNat / 4096 % 0x10 + 0xE0) ::
      ([continued (char.toNat / 64 % 0x40), continued (char.toNat % 0x40)] ++ rest)) = char :: lossyChars fuel rest := by
  have scalar : char.toNat < 0xD800 ∨ (0xDFFF < char.toNat ∧ char.toNat < 0x110000) := char.valid
  have next : char.toNat / 64 % 0x40 < 64 := Nat.mod_lt _ (by decide)
  have last : char.toNat % 0x40 < 64 := Nat.mod_lt _ (by decide)
  obtain ⟨high, bits, ranges⟩ := lead_three (char.toNat / 4096 % 0x10) (Nat.mod_lt _ (by decide))
  obtain ⟨plain, above, below, _⟩ := continued_within _ next
  have fits : List.Forall₂ Within (continuations (UInt8.ofNat (char.toNat / 4096 % 0x10 + 0xE0)))
      [continued (char.toNat / 64 % 0x40), continued (char.toNat % 0x40)] := by
    rw [ranges]
    refine .cons ?_ (.cons (continued_within _ last).1 .nil)
    by_cases first : char.toNat / 4096 % 0x10 = 0
    · rw [if_pos first]
      exact above (by omega)
    · rw [if_neg first]
      by_cases surrogate : char.toNat / 4096 % 0x10 = 13
      · rw [if_pos surrogate]
        exact below (by omega)
      · rw [if_neg surrogate]
        exact plain
  have code : codePoint (UInt8.ofNat (char.toNat / 4096 % 0x10 + 0xE0))
      [continued (char.toNat / 64 % 0x40), continued (char.toNat % 0x40)] = char.toNat := by
    simp only [codePoint, List.length_cons, List.length_nil, List.foldl_cons, List.foldl_nil, bits, continued_bits _ next,
      continued_bits _ last]
    omega
  rw [lossy_sequence fuel _ _ rest high (List.cons_ne_nil _ _) fits, code, Char.ofNat_toNat]

theorem lossy_four (fuel : Nat) (char : Char) (rest : List UInt8) (wide : 0xFFFF < char.toNat) :
    lossyChars (fuel + 1) (UInt8.ofNat (char.toNat / 262144 % 0x08 + 0xF0) ::
      ([continued (char.toNat / 4096 % 0x40), continued (char.toNat / 64 % 0x40), continued (char.toNat % 0x40)] ++ rest)) =
        char :: lossyChars fuel rest := by
  have scalar : char.toNat < 0xD800 ∨ (0xDFFF < char.toNat ∧ char.toNat < 0x110000) := char.valid
  have second : char.toNat / 4096 % 0x40 < 64 := Nat.mod_lt _ (by decide)
  have next : char.toNat / 64 % 0x40 < 64 := Nat.mod_lt _ (by decide)
  have last : char.toNat % 0x40 < 64 := Nat.mod_lt _ (by decide)
  obtain ⟨high, bits, ranges⟩ := lead_four (char.toNat / 262144 % 0x08) (by omega)
  obtain ⟨plain, _, _, above, below⟩ := continued_within _ second
  have fits : List.Forall₂ Within (continuations (UInt8.ofNat (char.toNat / 262144 % 0x08 + 0xF0)))
      [continued (char.toNat / 4096 % 0x40), continued (char.toNat / 64 % 0x40), continued (char.toNat % 0x40)] := by
    rw [ranges]
    refine .cons ?_ (.cons (continued_within _ next).1 (.cons (continued_within _ last).1 .nil))
    by_cases first : char.toNat / 262144 % 0x08 = 0
    · rw [if_pos first]
      exact above (by omega)
    · rw [if_neg first]
      by_cases topmost : char.toNat / 262144 % 0x08 = 4
      · rw [if_pos topmost]
        exact below (by omega)
      · rw [if_neg topmost]
        exact plain
  have code : codePoint (UInt8.ofNat (char.toNat / 262144 % 0x08 + 0xF0))
      [continued (char.toNat / 4096 % 0x40), continued (char.toNat / 64 % 0x40), continued (char.toNat % 0x40)] =
        char.toNat := by
    simp only [codePoint, List.length_cons, List.length_nil, List.foldl_cons, List.foldl_nil, bits, continued_bits _ second,
      continued_bits _ next, continued_bits _ last]
    omega
  rw [lossy_sequence fuel _ _ rest high (List.cons_ne_nil _ _) fits, code, Char.ofNat_toNat]

theorem lossy_char (fuel : Nat) (char : Char) (rest : List UInt8) :
    lossyChars (fuel + 1) (String.utf8EncodeChar char ++ rest) = char :: lossyChars fuel rest := by
  by_cases one : char.toNat ≤ 0x7F
  · have bytes : String.utf8EncodeChar char = [UInt8.ofNat char.toNat] := if_pos one
    have kept : (UInt8.ofNat char.toNat).toNat = char.toNat :=
      UInt8.toNat_ofNat_of_lt' (Nat.lt_of_le_of_lt one (by decide))
    have small : UInt8.ofNat char.toNat < 0x80 := by
      rw [UInt8.lt_iff_toNat_lt, kept]
      exact Nat.lt_succ_of_le one
    rw [bytes, List.singleton_append, lossyChars, if_pos small, kept, Char.ofNat_toNat]
  · by_cases two : char.toNat ≤ 0x7FF
    · have bytes : String.utf8EncodeChar char = _ := (if_neg one).trans (if_pos two)
      rw [bytes]
      exact lossy_two fuel char rest (by omega) two
    · by_cases three : char.toNat ≤ 0xFFFF
      · have bytes : String.utf8EncodeChar char = _ := (if_neg one).trans ((if_neg two).trans (if_pos three))
        rw [bytes]
        exact lossy_three fuel char rest (by omega) three
      · have bytes : String.utf8EncodeChar char = _ := (if_neg one).trans ((if_neg two).trans (if_neg three))
        rw [bytes]
        exact lossy_four fuel char rest (by omega)

theorem as_bytes_encoded (text : String) : asBytes text = text.toList.flatMap String.utf8EncodeChar := by
  have whole : text = String.ofList text.toList := String.ofList_toList.symm
  rw [asBytes, whole, String.toByteArray_ofList, String.toList_ofList, List.utf8Encode]
  exact List.toList_data_toByteArray

theorem lossy_encoded (chars : List Char) (fuel : Nat) (enough : chars.length ≤ fuel) :
    lossyChars fuel (chars.flatMap String.utf8EncodeChar) = chars := by
  induction chars generalizing fuel with
  | nil => cases fuel <;> rfl
  | cons char chars ih =>
      cases fuel with
      | zero => cases enough
      | succ fuel => rw [List.flatMap_cons, lossy_char, ih fuel (Nat.le_of_succ_le_succ enough)]

theorem encoded_length (chars : List Char) : chars.length ≤ (chars.flatMap String.utf8EncodeChar).length := by
  induction chars with
  | nil => exact Nat.le_refl 0
  | cons char chars ih =>
      have positive := char.utf8Size_pos
      rw [List.flatMap_cons, List.length_append, String.length_utf8EncodeChar, List.length_cons]
      omega

theorem from_utf8_lossy_as_bytes (text : String) : fromUtf8Lossy (asBytes text) = text := by
  rw [fromUtf8Lossy, as_bytes_encoded, lossy_encoded _ _ (encoded_length text.toList), String.ofList_toList]

end Rust
