import Mathlib.Data.String.Basic
import Mathlib.Order.Monotone.Basic

set_option autoImplicit false

namespace Rust

namespace I64

-- An `i64` operation has no value where its result does not fit the type.
def checked (value : Int) : Option Int :=
  if -9223372036854775808 ≤ value ∧ value ≤ 9223372036854775807 then some value else none

def add (left right : Int) : Option Int := checked (left + right)

def sub (left right : Int) : Option Int := checked (left - right)

def mul (left right : Int) : Option Int := checked (left * right)

def div (left right : Int) : Option Int := if right = 0 then none else checked (left.tdiv right)

-- `as i64` of a u64.
def ofU64 (value : Nat) : Int :=
  if value ≤ 9223372036854775807 then value else (value : Int) - 18446744073709551616

theorem checked_some (value : Int) (low : -9223372036854775808 ≤ value) (high : value ≤ 9223372036854775807) :
    checked value = some value := if_pos ⟨low, high⟩

theorem add_some (left right : Int) (low : -9223372036854775808 ≤ left + right)
    (high : left + right ≤ 9223372036854775807) : add left right = some (left + right) := checked_some _ low high

theorem sub_some (left right : Int) (low : -9223372036854775808 ≤ left - right)
    (high : left - right ≤ 9223372036854775807) : sub left right = some (left - right) := checked_some _ low high

theorem mul_some (left right : Int) (low : -9223372036854775808 ≤ left * right)
    (high : left * right ≤ 9223372036854775807) : mul left right = some (left * right) := checked_some _ low high

theorem div_some (left right : Int) (low : 0 ≤ left) (high : left ≤ 9223372036854775807) (positive : 0 < right) :
    div left right = some (left / right) := by
  have quotient : left.tdiv right = left / right := Int.tdiv_eq_ediv_of_nonneg low
  have smaller := Int.ediv_le_self right low
  have notNegative := Int.ediv_nonneg low (Int.le_of_lt positive)
  rw [div, if_neg (Int.ne_of_gt positive), quotient]
  exact checked_some _ (by omega) (by omega)

end I64

def decimal : Nat → Nat → List Char
  | 0, _ => []
  | width + 1, value => decimal width (value / 10) ++ [Nat.digitChar (value % 10)]

theorem decimal_length (width value : Nat) : (decimal width value).length = width := by
  induction width generalizing value with
  | zero => rfl
  | succ width ih => rw [decimal, List.length_append, ih, List.length_singleton]

theorem decimal_zero (width : Nat) : decimal width 0 = List.replicate width '0' := by
  induction width with
  | zero => rfl
  | succ width ih =>
      rw [decimal, ih, List.replicate_succ']
      rfl

theorem decimal_padded (width value : Nat) (fits : value < 10 ^ (width + 1)) :
    List.replicate (width + 1 - (Nat.toDigits 10 value).length) '0' ++ Nat.toDigits 10 value = decimal (width + 1) value := by
  induction width generalizing value with
  | zero =>
      have small : value < 10 := fits
      rw [Nat.toDigits_of_lt_base small, decimal, Nat.mod_eq_of_lt small]
      rfl
  | succ width ih =>
      by_cases small : value < 10
      · rw [Nat.toDigits_of_lt_base small, decimal, Nat.mod_eq_of_lt small, Nat.div_eq_of_lt small, decimal_zero]
        rfl
      · have shorter := ih (value / 10) (by rw [Nat.pow_succ] at fits; omega)
        rw [Nat.toDigits_of_base_le (by decide) (by omega), decimal, ← shorter, List.length_append, List.length_singleton,
          Nat.add_sub_add_right, List.append_assoc]

theorem append_lt_append (first second : List Char) (same : first.length = second.length) (rest other : List Char) :
    first ++ rest < second ++ other ↔ first < second ∨ first = second ∧ rest < other := by
  induction first generalizing second with
  | nil =>
      have empty := List.length_eq_zero_iff.mp same.symm
      subst empty
      simp
  | cons char first ih =>
      cases second with
      | nil => cases same
      | cons char' second =>
          have shorter := ih second (Nat.succ.inj same)
          rw [List.cons_append, List.cons_append, List.cons_lt_cons_iff, List.cons_lt_cons_iff, shorter, List.cons.injEq]
          tauto

theorem digit_char_lt : ∀ digit < 10, ∀ other < 10, (Nat.digitChar digit < Nat.digitChar other ↔ digit < other) := by decide

theorem digit_char_eq : ∀ digit < 10, ∀ other < 10, Nat.digitChar digit = Nat.digitChar other → digit = other := by decide

theorem decimal_inj (width value other : Nat) (fits : value < 10 ^ width) (otherFits : other < 10 ^ width)
    (same : decimal width value = decimal width other) : value = other := by
  induction width generalizing value other with
  | zero => omega
  | succ width ih =>
      rw [Nat.pow_succ] at fits otherFits
      obtain ⟨front, last⟩ := List.append_inj' same rfl
      have tens := ih (value / 10) (other / 10) (by omega) (by omega) front
      have ones := digit_char_eq _ (Nat.mod_lt _ (by decide)) _ (Nat.mod_lt _ (by decide)) (List.cons.inj last).1
      omega

theorem decimal_lt (width value other : Nat) (fits : value < 10 ^ width) (otherFits : other < 10 ^ width) :
    decimal width value < decimal width other ↔ value < other := by
  induction width generalizing value other with
  | zero => simp [decimal]; omega
  | succ width ih =>
      rw [Nat.pow_succ] at fits otherFits
      have tens := ih (value / 10) (other / 10) (by omega) (by omega)
      have ones := digit_char_lt (value % 10) (Nat.mod_lt _ (by decide)) (other % 10) (Nat.mod_lt _ (by decide))
      have single : ∀ char char' : Char, [char] < [char'] ↔ char < char' := by
        intro char char'
        simp [List.cons_lt_cons_iff]
      rw [decimal, decimal, append_lt_append _ _ (by rw [decimal_length, decimal_length]), tens, single, ones]
      constructor
      · rintro (less | ⟨same, less⟩)
        · omega
        · have equal := decimal_inj width (value / 10) (other / 10) (by omega) (by omega) same
          omega
      · intro less
        by_cases same : value / 10 = other / 10
        · exact .inr ⟨by rw [same], by omega⟩
        · exact .inl (by omega)

theorem field_lt (width value other : Nat) (fits : value < 10 ^ width) (otherFits : other < 10 ^ width) (mark : Char)
    (rest rest' : List Char) :
    decimal width value ++ mark :: rest < decimal width other ++ mark :: rest' ↔ value < other ∨ value = other ∧ rest < rest' := by
  have marked : mark :: rest < mark :: rest' ↔ rest < rest' := by
    rw [List.cons_lt_cons_iff]
    simp
  have same : decimal width value = decimal width other ↔ value = other :=
    ⟨decimal_inj width value other fits otherFits, congrArg _⟩
  rw [append_lt_append _ _ (by rw [decimal_length, decimal_length]), decimal_lt width value other fits otherFits, same, marked]

end Rust
