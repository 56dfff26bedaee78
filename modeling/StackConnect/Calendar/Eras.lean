import StackConnect.Calendar.Civil
import Mathlib.Tactic.IntervalCases

set_option autoImplicit false

namespace Calendar

-- Days counted in eras of 400 years, each year from its first of March on.
def eraLength : Nat := 146097

def yearStart (year : Nat) : Nat := 365 * year + year / 4 - year / 100

def yearOfEra (day : Nat) : Nat := (day - day / 1460 + day / 36524 - day / 146096) / 365

def dayOfYear (day : Nat) : Nat := day - yearStart (yearOfEra day)

def monthStart (month : Nat) : Nat := (153 * month + 2) / 5

def monthOfYear (day : Nat) : Nat := (5 * day + 2) / 153

-- The days from the first of March of year 0 to the epoch.
def epochDay : Nat := 719468

@[ext]
structure Civil where
  year : Nat
  month : Nat
  day : Nat
deriving DecidableEq

def civilFromDays (days : Nat) : Civil :=
  let day := (days + epochDay) % eraLength
  let year := yearOfEra day + (days + epochDay) / eraLength * 400
  let month := monthOfYear (dayOfYear day)
  { year := if month < 10 then year else year + 1
    month := if month < 10 then month + 3 else month - 9
    day := dayOfYear day - monthStart month + 1 }

theorem days_mono (day later : Nat) (before : day ≤ later) (within : later < eraLength) :
    day - day / 1460 + day / 36524 - day / 146096 ≤ later - later / 1460 + later / 36524 - later / 146096 := by
  unfold eraLength at within
  induction later, before using Nat.le_induction with
  | base => exact Nat.le_refl _
  | succ later before ih =>
      have step := ih (by omega)
      omega

-- The estimate of the year changes on the first days of the years and nowhere else.
theorem year_starts : ∀ year < 400,
    365 * year ≤ yearStart year - yearStart year / 1460 + yearStart year / 36524 - yearStart year / 146096 ∧
      (0 < year → (yearStart year - 1) - (yearStart year - 1) / 1460 + (yearStart year - 1) / 36524 -
        (yearStart year - 1) / 146096 < 365 * year) := by
  decide +kernel

theorem year_start_next : ∀ year < 399, yearStart (year + 1) = yearStart year + yearLength (year + 1) := by decide +kernel

theorem year_of_era_lt (day : Nat) (within : day < eraLength) : yearOfEra day < 400 := by
  have last := days_mono day 146096 (by unfold eraLength at within; omega) (by decide)
  unfold yearOfEra
  omega

theorem year_start_le (day : Nat) (within : day < eraLength) : yearStart (yearOfEra day) ≤ day := by
  by_contra later
  have bound := year_of_era_lt day within
  have first := (year_starts (yearOfEra day) bound).2
  have before := days_mono day (yearStart (yearOfEra day) - 1) (by omega) (by unfold yearStart eraLength; omega)
  have positive : 0 < yearOfEra day := by
    rcases Nat.eq_zero_or_pos (yearOfEra day) with zero | positive
    · rw [zero] at later
      exact absurd (Nat.zero_le day) later
    · exact positive
  have smaller := first positive
  have read : yearOfEra day = (day - day / 1460 + day / 36524 - day / 146096) / 365 := rfl
  omega

theorem day_of_year_length (day : Nat) (within : day < eraLength) : dayOfYear day < yearLength (yearOfEra day + 1) := by
  have bound := year_of_era_lt day within
  have started := year_start_le day within
  have next : yearOfEra day < 399 → day < yearStart (yearOfEra day + 1) := by
    intro inner
    by_contra later
    have first := (year_starts (yearOfEra day + 1) (by omega)).1
    have after := days_mono (yearStart (yearOfEra day + 1)) day (by omega) within
    have read : yearOfEra day = (day - day / 1460 + day / 36524 - day / 146096) / 365 := rfl
    omega
  unfold dayOfYear
  by_cases last : yearOfEra day = 399
  · rw [last] at started ⊢
    have within' : day < 146097 := within
    have length : yearLength (399 + 1) = 366 := by decide
    have start : yearStart 399 = 145731 := by decide
    omega
  · have after := year_start_next (yearOfEra day) (by omega)
    have inner := next (by omega)
    omega

theorem day_of_year_short (day : Nat) (within : day < eraLength) : dayOfYear day < 366 :=
  Nat.lt_of_lt_of_le (day_of_year_length day within) (year_length_le _)

theorem month_of_year_short (day : Nat) (short : day < 366) : monthOfYear day < 12 := by
  unfold monthOfYear
  omega

theorem month_start_le (day : Nat) : monthStart (monthOfYear day) ≤ day := by
  unfold monthStart monthOfYear
  omega

theorem day_lt_month_start (day : Nat) : day < monthStart (monthOfYear day + 1) := by
  unfold monthStart monthOfYear
  omega

theorem days_before_month_from_march (year month : Nat) (inYear : month ≤ 9) :
    daysBeforeMonth year (month + 3) + 306 = yearLength year + monthStart month ∧
      monthLength year (month + 3) + monthStart month = monthStart (month + 1) := by
  by_cases leap : IsLeap year <;> interval_cases month <;>
    simp [daysBeforeMonth, monthLength, monthStart, yearLength, total, leap]

theorem year_days (year : Nat) (sinceEpoch : 1970 ≤ year) :
    daysBeforeYear year + yearLength year + epochDay + year / 100 = 365 * year + year / 4 + year / 400 + 306 := by
  have next := days_before_next_year year sinceEpoch
  have closed := days_before_year_closed (year + 1) (by omega)
  unfold epochDay
  omega

theorem days_of_era (days : Nat) (years : Nat)
    (counted : years = yearOfEra ((days + epochDay) % eraLength) + (days + epochDay) / eraLength * 400) :
    days + epochDay + years / 100 =
      365 * years + years / 4 + years / 400 + dayOfYear ((days + epochDay) % eraLength) := by
  have within : (days + epochDay) % eraLength < eraLength := Nat.mod_lt _ (by decide)
  have bound := year_of_era_lt _ within
  have started := year_start_le _ within
  have split := Nat.div_add_mod (days + epochDay) eraLength
  unfold dayOfYear
  generalize yearOfEra ((days + epochDay) % eraLength) = year at *
  generalize (days + epochDay) % eraLength = day at *
  generalize (days + epochDay) / eraLength = era at *
  have quarters : years / 4 = year / 4 + era * 100 := by omega
  have centuries : years / 100 = year / 100 + era * 4 := by omega
  have eras : years / 400 = era := by omega
  unfold yearStart eraLength at *
  omega

theorem year_length_era (year era : Nat) : yearLength (year + era * 400 + 1) = yearLength (year + 1) := by
  have same : IsLeap (year + era * 400 + 1) ↔ IsLeap (year + 1) := by
    unfold IsLeap
    omega
  unfold yearLength
  by_cases leap : IsLeap (year + 1)
  · rw [if_pos leap, if_pos (same.mpr leap)]
  · rw [if_neg leap, if_neg (fun other => leap (same.mp other))]

theorem days_before_month_to_march (year month : Nat) (winter : 10 ≤ month) (inYear : month ≤ 11) :
    daysBeforeMonth year (month - 9) + 306 = monthStart month ∧
      monthLength year (month - 9) + monthStart month = min (monthStart (month + 1)) (yearLength year) := by
  by_cases leap : IsLeap year <;> interval_cases month <;>
    simp [daysBeforeMonth, monthLength, monthStart, yearLength, total, leap]

theorem civil_from_march (days year day : Nat) (month : Nat) (monthed : month = monthOfYear day) (before : month < 10)
    (total : days + epochDay + year / 100 = 365 * year + year / 4 + year / 400 + day) :
    IsDate year (month + 3) (day - monthStart month + 1) ∧
      daysFromCivil year (month + 3) (day - monthStart month + 1) = days := by
  subst monthed
  have first := month_start_le day
  have last := day_lt_month_start day
  have months := days_before_month_from_march year (monthOfYear day) (by omega)
  have autumn : day < 306 := by
    unfold monthOfYear at before
    omega
  have sinceEpoch : 1970 ≤ year := by
    unfold epochDay at total
    omega
  have years := year_days year sinceEpoch
  refine ⟨⟨sinceEpoch, by omega, by omega, by omega⟩, ?_⟩
  unfold daysFromCivil
  omega

theorem civil_to_march (days year day : Nat) (month : Nat) (monthed : month = monthOfYear day) (after : ¬ month < 10)
    (length : day < yearLength (year + 1))
    (total : days + epochDay + year / 100 = 365 * year + year / 4 + year / 400 + day) :
    IsDate (year + 1) (month - 9) (day - monthStart month + 1) ∧
      daysFromCivil (year + 1) (month - 9) (day - monthStart month + 1) = days := by
  subst monthed
  have first := month_start_le day
  have last := day_lt_month_start day
  have short := Nat.lt_of_lt_of_le length (year_length_le _)
  have inYear := Nat.le_of_lt_succ (month_of_year_short day short)
  have months := days_before_month_to_march (year + 1) (monthOfYear day) (by omega) inYear
  have sinceEpoch : 1970 ≤ year + 1 := by
    unfold epochDay at total
    omega
  have years := days_before_year_closed (year + 1) sinceEpoch
  refine ⟨⟨sinceEpoch, by omega, by omega, by omega⟩, ?_⟩
  unfold daysFromCivil
  unfold epochDay at total
  omega

theorem civil_from_days_spec (days : Nat) :
    IsDate (civilFromDays days).year (civilFromDays days).month (civilFromDays days).day ∧
      daysFromCivil (civilFromDays days).year (civilFromDays days).month (civilFromDays days).day = days := by
  have within : (days + epochDay) % eraLength < eraLength := Nat.mod_lt _ (by decide)
  have total := days_of_era days _ rfl
  have length := day_of_year_length _ within
  rw [← year_length_era _ ((days + epochDay) / eraLength)] at length
  unfold civilFromDays
  dsimp only
  by_cases march : monthOfYear (dayOfYear ((days + epochDay) % eraLength)) < 10
  · rw [if_pos march, if_pos march]
    exact civil_from_march days _ _ _ rfl march total
  · rw [if_neg march, if_neg march]
    exact civil_to_march days _ _ _ rfl march length total

end Calendar
