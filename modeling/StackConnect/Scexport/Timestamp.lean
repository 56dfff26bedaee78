import StackConnect.Calendar.Eras
import StackConnect.Rust.Numbers
import StackConnect.Scexport.AccountExport

set_option autoImplicit false

namespace StackConnect.Scexport

open Calendar Rust

-- now_iso8601 with every i64 operation as the code computes it.
def eraChecked (z : Int) : Option Int := do
  let shifted ← if z ≥ 0 then some z else I64.sub z 146096
  I64.div shifted 146097

def yearOfEraChecked (doe : Int) : Option Int := do
  let years ← I64.sub doe (← I64.div doe 1460)
  let years ← I64.add years (← I64.div doe 36524)
  let years ← I64.sub years (← I64.div doe 146096)
  I64.div years 365

def dayOfYearChecked (doe yoe : Int) : Option Int := do
  let days ← I64.add (← I64.mul 365 yoe) (← I64.div yoe 4)
  let days ← I64.sub days (← I64.div yoe 100)
  I64.sub doe days

def monthChecked (doy : Int) : Option Int := do
  let days ← I64.add (← I64.mul 5 doy) 2
  I64.div days 153

def dayChecked (doy mp : Int) : Option Int := do
  let days ← I64.add (← I64.mul 153 mp) 2
  let day ← I64.sub doy (← I64.div days 5)
  I64.add day 1

def civilMonthChecked (mp : Int) : Option Int := if mp < 10 then I64.add mp 3 else I64.sub mp 9

def civilYearChecked (year month : Int) : Option Int := if month ≤ 2 then I64.add year 1 else some year

def civilChecked (days : Int) : Option (Int × Int × Int) := do
  let z ← I64.add days 719468
  let era ← eraChecked z
  let doe ← I64.sub z (← I64.mul era 146097)
  let yoe ← yearOfEraChecked doe
  let year ← I64.add yoe (← I64.mul era 400)
  let doy ← dayOfYearChecked doe yoe
  let mp ← monthChecked doy
  let day ← dayChecked doy mp
  let month ← civilMonthChecked mp
  let year ← civilYearChecked year month
  some (year, month, day)

def nowIso8601Checked (secs : UInt64) : Option String := do
  let days := I64.ofU64 (secs.toNat / 86400)
  let rem := secs.toNat % 86400
  let (year, month, day) ← civilChecked days
  some (padded 4 year ++ "-" ++ padded 2 month ++ "-" ++ padded 2 day ++ "T" ++ padded 2 (rem / 3600 : Nat) ++ ":" ++
    padded 2 ((rem % 3600) / 60 : Nat) ++ ":" ++ padded 2 (rem % 60 : Nat) ++ "Z")

theorem era_checked (z : Int) (low : 0 ≤ z) (high : z ≤ 9223372036854775807) : eraChecked z = some (z / 146097) := by
  rw [eraChecked, if_pos low]
  exact I64.div_some z 146097 low high (by decide)

theorem year_of_era_checked (doe : Int) (low : 0 ≤ doe) (high : doe < 146097) :
    yearOfEraChecked doe = some ((doe - doe / 1460 + doe / 36524 - doe / 146096) / 365) := by
  simp only [yearOfEraChecked, Option.bind_eq_bind]
  rw [I64.div_some doe 1460 low (by omega) (by decide), I64.div_some doe 36524 low (by omega) (by decide),
    I64.div_some doe 146096 low (by omega) (by decide)]
  simp only [Option.bind_some]
  rw [I64.sub_some _ _ (by omega) (by omega), Option.bind_some, I64.add_some _ _ (by omega) (by omega), Option.bind_some,
    I64.sub_some _ _ (by omega) (by omega), Option.bind_some]
  exact I64.div_some _ 365 (by omega) (by omega) (by decide)

theorem day_of_year_checked (doe yoe : Int) (years : 0 ≤ yoe ∧ yoe < 400) (days : 0 ≤ doe ∧ doe < 146097) :
    dayOfYearChecked doe yoe = some (doe - (365 * yoe + yoe / 4 - yoe / 100)) := by
  simp only [dayOfYearChecked, Option.bind_eq_bind]
  rw [I64.mul_some 365 yoe (by omega) (by omega), I64.div_some yoe 4 years.1 (by omega) (by decide),
    I64.div_some yoe 100 years.1 (by omega) (by decide)]
  simp only [Option.bind_some]
  rw [I64.add_some _ _ (by omega) (by omega), Option.bind_some, I64.sub_some _ _ (by omega) (by omega), Option.bind_some]
  exact I64.sub_some _ _ (by omega) (by omega)

theorem month_checked (doy : Int) (low : 0 ≤ doy) (high : doy < 366) : monthChecked doy = some ((5 * doy + 2) / 153) := by
  simp only [monthChecked, Option.bind_eq_bind]
  rw [I64.mul_some 5 doy (by omega) (by omega), Option.bind_some, I64.add_some _ 2 (by omega) (by omega), Option.bind_some]
  exact I64.div_some _ 153 (by omega) (by omega) (by decide)

theorem day_checked (doy mp : Int) (days : 0 ≤ doy ∧ doy < 366) (months : 0 ≤ mp ∧ mp < 12) :
    dayChecked doy mp = some (doy - (153 * mp + 2) / 5 + 1) := by
  simp only [dayChecked, Option.bind_eq_bind]
  rw [I64.mul_some 153 mp (by omega) (by omega), Option.bind_some, I64.add_some _ 2 (by omega) (by omega), Option.bind_some,
    I64.div_some _ 5 (by omega) (by omega) (by decide), Option.bind_some, I64.sub_some doy _ (by omega) (by omega),
    Option.bind_some]
  exact I64.add_some _ 1 (by omega) (by omega)

theorem year_of_era_cast (day : Nat) :
    ((day : Int) - (day : Int) / 1460 + (day : Int) / 36524 - (day : Int) / 146096) / 365 = (yearOfEra day : Nat) := by
  unfold yearOfEra
  omega

theorem day_of_year_cast (day : Nat) (within : day < eraLength) :
    (day : Int) - (365 * ((yearOfEra day : Nat) : Int) + ((yearOfEra day : Nat) : Int) / 4 -
      ((yearOfEra day : Nat) : Int) / 100) = (dayOfYear day : Nat) := by
  have started := year_start_le day within
  unfold dayOfYear
  unfold yearStart at started ⊢
  omega

theorem month_of_year_cast (doy : Nat) : (5 * (doy : Int) + 2) / 153 = (monthOfYear doy : Nat) := by
  unfold monthOfYear
  omega

theorem day_cast (doy : Nat) : (doy : Int) - (153 * ((monthOfYear doy : Nat) : Int) + 2) / 5 + 1 =
    (doy - monthStart (monthOfYear doy) + 1 : Nat) := by
  have first := month_start_le doy
  unfold monthStart at first ⊢
  omega

theorem month_cast (month : Nat) :
    (if (month : Int) < 10 then (month : Int) + 3 else (month : Int) - 9) =
      ((if month < 10 then month + 3 else month - 9 : Nat) : Int) := by
  split <;> split <;> omega

-- January and February close the year that began in March.
theorem year_cast (year month : Nat) (inYear : month < 12) :
    (if ((if month < 10 then month + 3 else month - 9 : Nat) : Int) ≤ 2 then (year : Int) + 1 else year) =
      ((if month < 10 then year else year + 1 : Nat) : Int) := by
  by_cases march : month < 10
  · rw [if_pos march, if_pos march, if_neg (by omega)]
  · rw [if_neg march, if_neg march, if_pos (by omega)]
    rfl

theorem era_cast (days : Nat) : ((days : Int) + 719468) / 146097 = ((days + epochDay) / eraLength : Nat) := by
  unfold epochDay eraLength
  omega

theorem of_era_cast (days : Nat) :
    (days : Int) + 719468 - ((days + epochDay) / eraLength : Nat) * 146097 = ((days + epochDay) % eraLength : Nat) := by
  unfold epochDay eraLength
  omega

theorem years_cast (year era : Nat) : (year : Int) + (era : Int) * 400 = (year + era * 400 : Nat) := by
  rw [Int.natCast_add, Int.natCast_mul]
  rfl

def stamp (date : Civil) (rem : Nat) : String :=
  padded 4 date.year ++ "-" ++ padded 2 date.month ++ "-" ++ padded 2 date.day ++ "T" ++ padded 2 (rem / 3600 : Nat) ++ ":" ++
    padded 2 ((rem % 3600) / 60 : Nat) ++ ":" ++ padded 2 (rem % 60 : Nat) ++ "Z"

theorem now_iso8601_stamp (secs : Nat) : nowIso8601 secs = stamp (civilFromDays (secs / 86400)) (secs % 86400) := by
  have within : (secs / 86400 + epochDay) % eraLength < eraLength := Nat.mod_lt _ (by decide)
  have inYear := month_of_year_short _ (day_of_year_short _ within)
  have days : (secs : Int) / 86400 = (secs / 86400 : Nat) := rfl
  simp only [nowIso8601, stamp, civilFromDays]
  rw [days, era_cast, of_era_cast, year_of_era_cast, day_of_year_cast _ within, month_of_year_cast, day_cast, month_cast,
    years_cast, year_cast _ _ inYear]

theorem civil_month_checked (month : Nat) (inYear : month < 12) :
    civilMonthChecked month = some ((if month < 10 then month + 3 else month - 9 : Nat) : Int) := by
  rw [← month_cast, civilMonthChecked]
  by_cases march : (month : Int) < 10
  · rw [if_pos march, if_pos march]
    exact I64.add_some _ 3 (by omega) (by omega)
  · rw [if_neg march, if_neg march]
    exact I64.sub_some _ 9 (by omega) (by omega)

theorem civil_year_checked (year month : Nat) (inYear : month < 12) (small : year < 9000000000000000000) :
    civilYearChecked year ((if month < 10 then month + 3 else month - 9 : Nat) : Int) =
      some ((if month < 10 then year else year + 1 : Nat) : Int) := by
  rw [← year_cast year month inYear, civilYearChecked]
  by_cases winter : ((if month < 10 then month + 3 else month - 9 : Nat) : Int) ≤ 2
  · rw [if_pos winter, if_pos winter]
    exact I64.add_some _ 1 (by omega) (by omega)
  · rw [if_neg winter, if_neg winter]

theorem civil_checked (days : Nat) (small : days < 9000000000000000000) :
    civilChecked days =
      some (((civilFromDays days).year : Int), ((civilFromDays days).month : Int), ((civilFromDays days).day : Int)) := by
  have within : (days + epochDay) % eraLength < eraLength := Nat.mod_lt _ (by decide)
  have short := day_of_year_short _ within
  have inYear := month_of_year_short _ short
  have bound := year_of_era_lt _ within
  have divided := era_cast days
  have left := of_era_cast days
  have eraSmall : (days + epochDay) / eraLength < 90000000000000 := by
    unfold epochDay eraLength
    omega
  have ofEraSmall : (days + epochDay) % eraLength < 146097 := within
  simp only [civilChecked, Option.bind_eq_bind, civilFromDays]
  rw [I64.add_some _ 719468 (by omega) (by omega), Option.bind_some, era_checked _ (by omega) (by omega), Option.bind_some,
    era_cast, I64.mul_some _ 146097 (by omega) (by omega), Option.bind_some, I64.sub_some _ _ (by omega) (by omega),
    Option.bind_some, of_era_cast]
  generalize (days + epochDay) / eraLength = era at *
  generalize (days + epochDay) % eraLength = doe at *
  rw [year_of_era_checked _ (by omega) (by omega), Option.bind_some, year_of_era_cast, I64.mul_some _ 400 (by omega) (by omega),
    Option.bind_some, I64.add_some _ _ (by omega) (by omega), Option.bind_some,
    day_of_year_checked _ _ ⟨by omega, by omega⟩ ⟨by omega, by omega⟩, Option.bind_some, day_of_year_cast _ within]
  generalize dayOfYear doe = doy at *
  generalize yearOfEra doe = yoe at *
  rw [month_checked _ (by omega) (by omega), Option.bind_some, month_of_year_cast,
    day_checked _ _ ⟨by omega, by omega⟩ ⟨by omega, by omega⟩, Option.bind_some, day_cast, civil_month_checked _ inYear,
    Option.bind_some]
  rw [years_cast, civil_year_checked _ _ inYear (by omega), Option.bind_some]

theorem now_iso8601_checked (secs : UInt64) : nowIso8601Checked secs = some (nowIso8601 secs.toNat) := by
  have small : secs.toNat < 18446744073709551616 := secs.toNat_lt
  have days : I64.ofU64 (secs.toNat / 86400) = (secs.toNat / 86400 : Nat) := if_pos (by omega)
  rw [nowIso8601Checked, now_iso8601_stamp, days, civil_checked _ (by omega)]
  rfl

theorem padded_decimal (width value : Nat) (fits : value < 10 ^ (width + 1)) :
    (padded (width + 1) value).toList = decimal (width + 1) value := by
  have digits : (toString (value : Int)).toList = Nat.toDigits 10 value := Nat.toList_repr
  rw [padded, String.toList_ofList, digits]
  exact decimal_padded width value fits

def stampChars (date : Civil) (hour minute second : Nat) : List Char :=
  decimal 4 date.year ++ '-' :: (decimal 2 date.month ++ '-' :: (decimal 2 date.day ++ 'T' ::
    (decimal 2 hour ++ ':' :: (decimal 2 minute ++ ':' :: (decimal 2 second ++ ['Z'])))))

theorem stamp_chars (date : Civil) (rem : Nat) (year : date.year < 10000) (month : date.month < 100) (day : date.day < 100)
    (inDay : rem < 86400) :
    (stamp date rem).toList = stampChars date (rem / 3600) (rem % 3600 / 60) (rem % 60) := by
  have hyphen : ("-" : String).toList = ['-'] := rfl
  have tee : ("T" : String).toList = ['T'] := rfl
  have colon : (":" : String).toList = [':'] := rfl
  have zee : ("Z" : String).toList = ['Z'] := rfl
  simp only [stamp, stampChars, String.toList_append]
  rw [padded_decimal 3 _ year, padded_decimal 1 _ month, padded_decimal 1 _ day, padded_decimal 1 _ (by omega),
    padded_decimal 1 _ (by omega), padded_decimal 1 _ (by omega), hyphen, tee, colon, zee]
  simp only [List.append_assoc, List.cons_append, List.nil_append, Nat.reduceAdd]

theorem stamp_chars_lt (date date' : Civil) (hour minute second hour' minute' second' : Nat)
    (fits : date.year < 10000 ∧ date.month < 100 ∧ date.day < 100 ∧ hour < 100 ∧ minute < 100 ∧ second < 100)
    (fits' : date'.year < 10000 ∧ date'.month < 100 ∧ date'.day < 100 ∧ hour' < 100 ∧ minute' < 100 ∧ second' < 100) :
    stampChars date hour minute second < stampChars date' hour' minute' second' ↔
      date.year < date'.year ∨ date.year = date'.year ∧ (date.month < date'.month ∨ date.month = date'.month ∧
        (date.day < date'.day ∨ date.day = date'.day ∧ (hour < hour' ∨ hour = hour' ∧
          (minute < minute' ∨ minute = minute' ∧ second < second')))) := by
  obtain ⟨year, month, day, hours, minutes, seconds⟩ := fits
  obtain ⟨year', month', day', hours', minutes', seconds'⟩ := fits'
  unfold stampChars
  rw [field_lt 4 _ _ year year', field_lt 2 _ _ month month', field_lt 2 _ _ day day', field_lt 2 _ _ hours hours',
    field_lt 2 _ _ minutes minutes', field_lt 2 _ _ seconds seconds']
  simp

def endOf9999 : Nat := 253402300800

theorem year_before_10000 (secs : Nat) (before : secs < endOf9999) : (civilFromDays (secs / 86400)).year < 10000 := by
  have days := (civil_from_days_spec (secs / 86400)).2
  have years := days_before_year_closed 10000 (by decide)
  unfold endOf9999 at before
  exact year_lt_of_days _ (civilFromDays (secs / 86400)).month (civilFromDays (secs / 86400)).day 10000 (by omega)

theorem civil_fits (secs : Nat) (before : secs < endOf9999) :
    (civilFromDays (secs / 86400)).year < 10000 ∧ (civilFromDays (secs / 86400)).month < 100 ∧
      (civilFromDays (secs / 86400)).day < 100 ∧ secs % 86400 / 3600 < 100 ∧ secs % 86400 % 3600 / 60 < 100 ∧
        secs % 86400 % 60 < 100 := by
  have date := (civil_from_days_spec (secs / 86400)).1
  have length := month_length_le (civilFromDays (secs / 86400)).year (civilFromDays (secs / 86400)).month
  have months := date.inYear
  have days := date.inMonth
  exact ⟨year_before_10000 secs before, by omega, by omega, by omega, by omega, by omega⟩

theorem now_iso8601_chars (secs : Nat) (before : secs < endOf9999) :
    (nowIso8601 secs).toList =
      stampChars (civilFromDays (secs / 86400)) (secs % 86400 / 3600) (secs % 86400 % 3600 / 60) (secs % 86400 % 60) := by
  have fits := civil_fits secs before
  rw [now_iso8601_stamp]
  exact stamp_chars _ _ fits.1 fits.2.1 fits.2.2.1 (Nat.mod_lt _ (by decide))

theorem now_iso8601_ordered (secs later : Nat) (before : secs < endOf9999) (before' : later < endOf9999) :
    nowIso8601 secs < nowIso8601 later ↔ secs < later := by
  have date := civil_from_days_spec (secs / 86400)
  have date' := civil_from_days_spec (later / 86400)
  have days := days_from_civil_lt_iff _ _ _ _ _ _ date.1 date'.1
  rw [date.2, date'.2] at days
  have sameDay : civilFromDays (secs / 86400) = civilFromDays (later / 86400) ↔ secs / 86400 = later / 86400 := by
    constructor
    · intro same
      rw [← date.2, ← date'.2, same]
    · intro same
      rw [same]
  rw [String.lt_iff_toList_lt, now_iso8601_chars secs before, now_iso8601_chars later before',
    stamp_chars_lt _ _ _ _ _ _ _ _ (civil_fits secs before) (civil_fits later before')]
  rw [Civil.ext_iff] at sameDay
  constructor
  · intro less
    have parted : secs / 86400 < later / 86400 ∨ secs / 86400 = later / 86400 ∧ secs % 86400 < later % 86400 := by
      rw [days, ← sameDay]
      omega
    omega
  · intro less
    have parted : secs / 86400 < later / 86400 ∨ secs / 86400 = later / 86400 ∧ secs % 86400 < later % 86400 := by omega
    rw [days, ← sameDay] at parted
    omega

theorem now_iso8601_moment (secs : Nat) (before : secs < endOf9999) :
    ∃ year month day hour minute second : Nat,
      (nowIso8601 secs).toList = stampChars ⟨year, month, day⟩ hour minute second ∧
        year < 10000 ∧ IsDate year month day ∧ hour < 24 ∧ minute < 60 ∧ second < 60 ∧
          daysFromCivil year month day * 86400 + hour * 3600 + minute * 60 + second = secs := by
  have date := civil_from_days_spec (secs / 86400)
  refine ⟨(civilFromDays (secs / 86400)).year, (civilFromDays (secs / 86400)).month, (civilFromDays (secs / 86400)).day,
    secs % 86400 / 3600, secs % 86400 % 3600 / 60, secs % 86400 % 60, now_iso8601_chars secs before,
    year_before_10000 secs before, date.1, by omega, by omega, by omega, ?_⟩
  rw [date.2]
  omega

-- The text is the second it was made of: the date and the time of day it names are
-- the right ones, and texts are ordered as their seconds. The i64 operations fit for every u64.
theorem now_iso8601_civil_time :
    (∀ secs < endOf9999, ∃ year month day hour minute second : Nat,
      (nowIso8601 secs).toList =
        decimal 4 year ++ '-' :: (decimal 2 month ++ '-' :: (decimal 2 day ++ 'T' ::
          (decimal 2 hour ++ ':' :: (decimal 2 minute ++ ':' :: (decimal 2 second ++ ['Z']))))) ∧
        year < 10000 ∧ IsDate year month day ∧ hour < 24 ∧ minute < 60 ∧ second < 60 ∧
          daysFromCivil year month day * 86400 + hour * 3600 + minute * 60 + second = secs) ∧
      (∀ secs < endOf9999, ∀ later < endOf9999, nowIso8601 secs = nowIso8601 later → secs = later) ∧
      (∀ secs < endOf9999, ∀ later < endOf9999, nowIso8601 secs < nowIso8601 later ↔ secs < later) ∧
      (∀ secs : UInt64, nowIso8601Checked secs = some (nowIso8601 secs.toNat)) := by
  refine ⟨now_iso8601_moment, ?_, ?_, now_iso8601_checked⟩
  · intro secs before later before' same
    have notLess := now_iso8601_ordered secs later before before'
    have notGreater := now_iso8601_ordered later secs before' before
    rw [same] at notLess notGreater
    have irreflexive := String.lt_irrefl (nowIso8601 later)
    have notBefore := mt notLess.mpr irreflexive
    have notAfter := mt notGreater.mpr irreflexive
    omega
  · intro secs before later before'
    exact now_iso8601_ordered secs later before before'

theorem leap_day_ends : nowIso8601 951868799 < nowIso8601 951868800 ∧
    nowIso8601Checked 951868799 = some "2000-02-29T23:59:59Z" :=
  ⟨(now_iso8601_civil_time.2.2.1 951868799 (by decide) 951868800 (by decide)).mpr (by decide),
    (now_iso8601_civil_time.2.2.2 951868799).trans (congrArg some (by decide))⟩

end StackConnect.Scexport
