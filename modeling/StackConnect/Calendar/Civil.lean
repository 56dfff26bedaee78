import Mathlib.Order.Monotone.Basic

set_option autoImplicit false

namespace Calendar

-- The proleptic Gregorian calendar, counted in days from the first of January 1970.
def IsLeap (year : Nat) : Prop := year % 4 = 0 ∧ (year % 100 ≠ 0 ∨ year % 400 = 0)

instance (year : Nat) : Decidable (IsLeap year) := inferInstanceAs (Decidable (_ ∧ _))

def yearLength (year : Nat) : Nat := if IsLeap year then 366 else 365

def monthLength (year month : Nat) : Nat :=
  if month = 2 then (if IsLeap year then 29 else 28) else if month ∈ [4, 6, 9, 11] then 30 else 31

def total (length : Nat → Nat) : Nat → Nat
  | 0 => 0
  | count + 1 => total length count + length count

def daysBeforeYear (year : Nat) : Nat := total (fun passed => yearLength (1970 + passed)) (year - 1970)

def daysBeforeMonth (year month : Nat) : Nat := total (fun passed => monthLength year (passed + 1)) (month - 1)

def daysFromCivil (year month day : Nat) : Nat := daysBeforeYear year + daysBeforeMonth year month + (day - 1)

structure IsDate (year month day : Nat) : Prop where
  sinceEpoch : 1970 ≤ year
  inYear : 1 ≤ month ∧ month ≤ 12
  inMonth : 1 ≤ day ∧ day ≤ monthLength year month

theorem year_length_le (year : Nat) : yearLength year ≤ 366 := by
  unfold yearLength
  split <;> omega

theorem month_length_le (year month : Nat) : monthLength year month ≤ 31 := by
  unfold monthLength
  split
  · split <;> omega
  · split <;> omega

theorem days_before_next_year (year : Nat) (epoch : 1970 ≤ year) :
    daysBeforeYear (year + 1) = daysBeforeYear year + yearLength year := by
  have next : year + 1 - 1970 = (year - 1970) + 1 := by omega
  have this : 1970 + (year - 1970) = year := by omega
  rw [daysBeforeYear, daysBeforeYear, next, total, this]

theorem days_before_next_month (year month : Nat) (counted : 1 ≤ month) :
    daysBeforeMonth year (month + 1) = daysBeforeMonth year month + monthLength year month := by
  have next : month + 1 - 1 = (month - 1) + 1 := by omega
  have this : month - 1 + 1 = month := by omega
  rw [daysBeforeMonth, daysBeforeMonth, next, total, this]

theorem days_before_year_closed (year : Nat) (epoch : 1970 ≤ year) :
    daysBeforeYear year + 719527 + (year - 1) / 100 = 365 * year + (year - 1) / 4 + (year - 1) / 400 := by
  induction year, epoch using Nat.le_induction with
  | base => rfl
  | succ year epoch ih =>
      rw [days_before_next_year year epoch, yearLength]
      by_cases leap : IsLeap year
      · rw [if_pos leap]
        rw [IsLeap] at leap
        omega
      · rw [if_neg leap]
        rw [IsLeap] at leap
        omega

theorem days_before_month_december (year : Nat) : daysBeforeMonth year 13 = yearLength year := by
  rw [yearLength]
  by_cases leap : IsLeap year <;> simp [daysBeforeMonth, monthLength, total, leap]

theorem days_before_later_year (year later : Nat) (epoch : 1970 ≤ year) (less : year < later) :
    daysBeforeYear year + yearLength year ≤ daysBeforeYear later := by
  induction later, less using Nat.le_induction with
  | base => rw [days_before_next_year year epoch]
  | succ later less ih =>
      rw [days_before_next_year later (by omega)]
      omega

theorem days_before_later_month (year month later : Nat) (counted : 1 ≤ month) (less : month < later) :
    daysBeforeMonth year month + monthLength year month ≤ daysBeforeMonth year later := by
  induction later, less using Nat.le_induction with
  | base => rw [days_before_next_month year month counted]
  | succ later less ih =>
      rw [days_before_next_month year later (by omega)]
      omega

theorem day_of_year_lt (year month day : Nat) (date : IsDate year month day) :
    daysBeforeMonth year month + (day - 1) < yearLength year := by
  have later := days_before_later_month year month 13 date.inYear.1 (by have := date.inYear.2; omega)
  rw [days_before_month_december] at later
  have within := date.inMonth
  omega

theorem days_from_civil_lt (year month day year' month' day' : Nat) (date : IsDate year month day)
    (date' : IsDate year' month' day')
    (before : year < year' ∨ year = year' ∧ (month < month' ∨ month = month' ∧ day < day')) :
    daysFromCivil year month day < daysFromCivil year' month' day' := by
  unfold daysFromCivil
  rcases before with earlier | ⟨rfl, earlier | ⟨rfl, earlier⟩⟩
  · have years := days_before_later_year year year' date.sinceEpoch earlier
    have within := day_of_year_lt year month day date
    omega
  · have months := days_before_later_month year month month' date.inYear.1 earlier
    have within := date.inMonth
    omega
  · have first := date.inMonth.1
    omega

theorem days_from_civil_lt_iff (year month day year' month' day' : Nat) (date : IsDate year month day)
    (date' : IsDate year' month' day') :
    daysFromCivil year month day < daysFromCivil year' month' day' ↔
      year < year' ∨ year = year' ∧ (month < month' ∨ month = month' ∧ day < day') := by
  constructor
  · intro less
    by_contra notBefore
    by_cases after : year' < year ∨ year' = year ∧ (month' < month ∨ month' = month ∧ day' < day)
    · have greater := days_from_civil_lt year' month' day' year month day date' date after
      omega
    · obtain ⟨rfl, rfl, rfl⟩ : year = year' ∧ month = month' ∧ day = day' := by omega
      exact Nat.lt_irrefl _ less
  · exact days_from_civil_lt year month day year' month' day' date date'

theorem year_lt_of_days (year month day later : Nat) (before : daysFromCivil year month day < daysBeforeYear later) :
    year < later := by
  have sinceEpoch : 1970 < later := by
    by_contra early
    rw [daysBeforeYear, Nat.sub_eq_zero_of_le (by omega)] at before
    exact Nat.not_lt_zero _ before
  unfold daysFromCivil at before
  by_contra notBefore
  rcases Nat.eq_or_lt_of_not_lt notBefore with same | less
  · rw [same] at before
    omega
  · have years := days_before_later_year later year (by omega) less
    omega

end Calendar
