import Mathlib.Order.Monotone.Basic
import Mathlib.Tactic.IntervalCases
import ObjectStore.Time.Calendar

/-! The calendar by its own rule, one year and one month after another, and that days are turned into
dates and back as it says. The conversion counts years from March in eras of 400 years. -/

namespace ObjectStore.Time

theorem isLeap_iff (year : Int) :
    isLeap year = true ↔ year % 4 = 0 ∧ (year % 100 ≠ 0 ∨ year % 400 = 0) := by
  simp [isLeap]

/-- Days from the start of the year one to the start of another year. -/
def daysBeforeYear (year : Int) : Int :=
  365 * (year - 1) + (year - 1) / 4 - (year - 1) / 100 + (year - 1) / 400

/-- The years follow one another, each with its days. -/
theorem daysBeforeYear_succ (year : Int) :
    daysBeforeYear (year + 1) = daysBeforeYear year + if isLeap year then 366 else 365 := by
  simp only [daysBeforeYear, isLeap_iff]
  split <;> omega

theorem daysBeforeYear_mono {year later : Int} (le : year ≤ later) :
    daysBeforeYear year ≤ daysBeforeYear later := by
  simp only [daysBeforeYear]
  omega

/-- Days from the start of a year to the start of a month. -/
def daysBeforeMonth (year : Int) (month : Nat) : Nat :=
  ((List.range (month - 1)).map fun past => daysInMonth year (past + 1)).sum

namespace Date

/-- The number of a day, where the first of January of the year one has the number one. -/
def ordinal (d : Date) : Int :=
  daysBeforeYear d.year + daysBeforeMonth d.year d.month + d.day

/-- Days since the first of January 1970. -/
def count (d : Date) : Int :=
  d.ordinal - ordinal ⟨1970, 1, 1⟩

/-- A day that there is, in any year. -/
structure Proper (d : Date) : Prop where
  month : 1 ≤ d.month ∧ d.month ≤ 12
  day : 1 ≤ d.day ∧ d.day ≤ daysInMonth d.year d.month

instance (d : Date) : Decidable d.Proper :=
  decidable_of_iff ((1 ≤ d.month ∧ d.month ≤ 12) ∧ 1 ≤ d.day ∧ d.day ≤ daysInMonth d.year d.month)
    ⟨fun ⟨month, day⟩ => ⟨month, day⟩, fun proper => ⟨proper.month, proper.day⟩⟩

end Date

/-- Before March the leap day is still to come, and from March on the months repeat their lengths. -/
theorem daysBeforeMonth_eq (year : Int) {month : Nat} (some_month : 1 ≤ month ∧ month ≤ 12) :
    daysBeforeMonth year month =
      if month ≤ 2 then 31 * (month - 1)
      else (if isLeap year then 60 else 59) + (153 * ((month + 9) % 12) + 2) / 5 := by
  obtain ⟨first, last⟩ := some_month
  cases leap : isLeap year <;> interval_cases month <;>
    simp [daysBeforeMonth, List.range_succ, daysInMonth, leap]

/-- Within its year, a day comes after what was before the year and not after its end. -/
theorem Date.Proper.within {d : Date} (proper : d.Proper) :
    daysBeforeYear d.year < d.ordinal ∧ d.ordinal ≤ daysBeforeYear (d.year + 1) := by
  obtain ⟨some_month, first, last⟩ := proper
  have length : daysBeforeMonth d.year d.month + daysInMonth d.year d.month ≤
      if isLeap d.year then 366 else 365 := by
    rw [daysBeforeMonth_eq d.year some_month]
    obtain ⟨early, late⟩ := some_month
    cases leap : isLeap d.year <;> interval_cases d.month <;> simp [daysInMonth, leap]
  rw [daysBeforeYear_succ, Date.ordinal]
  constructor
  · omega
  · split at length <;> simp_all <;> omega

theorem Date.count_eq (d : Date) : d.count = d.ordinal - 719163 := by
  have start : Date.ordinal ⟨1970, 1, 1⟩ = 719163 := by decide
  rw [count, start]

/-- The days of the years up to one, counted by eras and the years of an era. -/
theorem daysBeforeYear_eras (year : Int) :
    year / 400 * 146097 +
        ((year - year / 400 * 400) * 365 + (year - year / 400 * 400) / 4 - (year - year / 400 * 400) / 100) =
      daysBeforeYear (year + 1) := by
  rw [daysBeforeYear]
  omega

theorem Date.toDays_eq {d : Date} (proper : d.Proper) : d.toDays = d.count := by
  rw [Date.count_eq, Date.ordinal, daysBeforeMonth_eq d.year proper.month]
  obtain ⟨⟨early, late⟩, first, last⟩ := proper
  simp only [Date.toDays, Int.fdiv_eq_ediv_of_nonneg _ (show (0 : Int) ≤ 400 by decide)]
  by_cases winter : d.month ≤ 2
  · have eras := daysBeforeYear_eras (d.year - 1)
    rw [Int.sub_add_cancel] at eras
    simp only [if_pos winter]
    generalize (d.year - 1) / 400 = era at eras
    interval_cases d.month <;> omega
  · have eras := daysBeforeYear_eras d.year
    rw [daysBeforeYear_succ] at eras
    simp only [if_neg winter]
    generalize d.year / 400 = era at eras
    cases leap : isLeap d.year <;> simp only [leap, if_true, if_false, Bool.false_eq_true] at eras ⊢ <;>
      interval_cases d.month <;> omega

/-! An era has 146097 days, and its years begin in March. -/

/-- The days of an era without the leap days before them, as far as whole years are concerned. -/
def evened (day : Nat) : Nat :=
  day - day / 1460 + day / 36524 - day / 146096

theorem evened_mono : Monotone evened := by
  refine monotone_nat_of_le_succ fun day => ?_
  simp only [evened]
  omega

/-- Days from the start of an era to the start of one of its years. -/
def daysOfEra (year : Nat) : Nat :=
  365 * year + year / 4 - year / 100

/-- A year that begins in March ends with the leap day of the next one. -/
def lengthFromMarch (year : Nat) : Nat :=
  if isLeap (year + 1) then 366 else 365

theorem daysOfEra_succ {year : Nat} (early : year < 399) :
    daysOfEra (year + 1) = daysOfEra year + lengthFromMarch year := by
  revert year
  decide +kernel

/-- The first and the last day of a year are evened to days of the same year. -/
theorem evened_bounds {year : Nat} (within : year < 400) :
    365 * year ≤ evened (daysOfEra year) ∧
      evened (daysOfEra year + lengthFromMarch year - 1) < 365 * (year + 1) := by
  revert year
  decide +kernel

/-- The year of an era that a day is in. -/
theorem era_year {day : Nat} (within : day < 146097) :
    evened day / 365 < 400 ∧ daysOfEra (evened day / 365) ≤ day ∧
      day < daysOfEra (evened day / 365) + lengthFromMarch (evened day / 365) := by
  have last : evened 146096 = 145999 := by decide
  have most : evened day ≤ evened 146096 := evened_mono (by omega)
  have year : evened day / 365 < 400 := by omega
  refine ⟨year, ?_, ?_⟩
  · by_contra early
    obtain ⟨past, same⟩ : ∃ past, evened day / 365 = past + 1 := by
      refine Nat.exists_eq_add_one_of_ne_zero fun zero => early ?_
      rw [zero]
      exact Nat.zero_le day
    rw [same, daysOfEra_succ (by omega)] at early
    have before : evened day ≤ evened (daysOfEra past + lengthFromMarch past - 1) := evened_mono (by omega)
    have inside : past < 400 := by omega
    have bound := (evened_bounds inside).2
    omega
  · by_contra late
    by_cases final : evened day / 365 = 399
    · rw [final] at late
      have whole : daysOfEra 399 + lengthFromMarch 399 = 146097 := by decide
      omega
    · rw [← daysOfEra_succ (by omega)] at late
      have after : evened (daysOfEra (evened day / 365 + 1)) ≤ evened day := evened_mono (by omega)
      have inside : evened day / 365 + 1 < 400 := by omega
      have bound := (evened_bounds inside).1
      omega

/-- Months from March on, by the day of a year that begins with it. -/
theorem month_of_day {day : Nat} (within : day < 366) :
    let past := (5 * day + 2) / 153
    let month := if past < 10 then past + 3 else past - 9
    (1 ≤ month ∧ month ≤ 12) ∧ (month + 9) % 12 = past ∧ (153 * past + 2) / 5 ≤ day ∧
      day - (153 * past + 2) / 5 + 1 ≤ if month = 2 then (if day = 365 then 29 else 28) else daysInMonth 1 month := by
  revert day
  decide +kernel

namespace Date

/-- A day of a year that begins in March. -/
def fromMarch (year : Int) (day : Nat) : Date :=
  let past := (5 * day + 2) / 153
  let month := if past < 10 then past + 3 else past - 9
  ⟨if month ≤ 2 then year + 1 else year, month, day - (153 * past + 2) / 5 + 1⟩

/-- Every day is in a year of an era. -/
theorem ofDays_cases (days : Int) : ∃ (era : Int) (year day : Nat), year < 400 ∧
    day < lengthFromMarch year ∧ days = era * 146097 + daysOfEra year + day - 719468 ∧
      ofDays days = fromMarch (year + era * 400) day := by
  have era := Int.fdiv_eq_ediv_of_nonneg (days + 719468) (show (0 : Int) ≤ 146097 by decide)
  let day := (days + 719468 - (days + 719468) / 146097 * 146097).toNat
  have within : day < 146097 := by omega
  obtain ⟨bounded, first, last⟩ := era_year within
  refine ⟨(days + 719468) / 146097, evened day / 365, day - daysOfEra (evened day / 365), bounded, ?_, ?_, ?_⟩
  · omega
  · omega
  · rw [ofDays, era]
    rfl

section FromMarch

variable {era : Int} {year day : Nat}

theorem leap_of_last (last : 365 < lengthFromMarch year) : isLeap (year + era * 400 + 1) = true := by
  unfold lengthFromMarch at last
  split at last
  · next leap =>
    rw [isLeap_iff] at leap ⊢
    omega
  · omega

theorem fromMarch_proper (inside : day < lengthFromMarch year) : (fromMarch (year + era * 400) day).Proper := by
  have within : day < 366 := by
    unfold lengthFromMarch at inside
    split at inside <;> omega
  obtain ⟨some_month, -, -, length⟩ := month_of_day within
  refine ⟨some_month, Nat.le_add_left 1 _, Nat.le_trans length ?_⟩
  simp only [fromMarch] at some_month ⊢
  generalize (if (5 * day + 2) / 153 < 10 then (5 * day + 2) / 153 + 3 else (5 * day + 2) / 153 - 9) = month
    at some_month
  obtain ⟨early, late⟩ := some_month
  by_cases final : day = 365
  · have leap : isLeap (year + era * 400 + 1) = true := leap_of_last (final ▸ inside)
    interval_cases month <;> simp [daysInMonth, leap, final]
  · interval_cases month <;> simp [daysInMonth, final]
    split <;> omega

theorem toDays_fromMarch (bounded : year < 400) (inside : day < lengthFromMarch year) :
    (fromMarch (year + era * 400) day).toDays = era * 146097 + daysOfEra year + day - 719468 := by
  have within : day < 366 := by
    unfold lengthFromMarch at inside
    split at inside <;> omega
  obtain ⟨-, turned, start, -⟩ := month_of_day within
  have same : (if (fromMarch (year + era * 400) day).month ≤ 2 then
      (fromMarch (year + era * 400) day).year - 1 else (fromMarch (year + era * 400) day).year) =
      year + era * 400 := by
    simp only [fromMarch]
    split <;> omega
  have eras : (year + era * 400) / 400 = era := by omega
  rw [toDays, same, Int.fdiv_eq_ediv_of_nonneg _ (by decide), eras]
  simp only [fromMarch, turned, daysOfEra]
  omega

end FromMarch

theorem ofDays_proper (days : Int) : (ofDays days).Proper := by
  obtain ⟨era, year, day, -, inside, -, same⟩ := ofDays_cases days
  rw [same]
  exact fromMarch_proper inside

/-- Days are turned into the date that they are counted to. -/
theorem count_ofDays (days : Int) : (ofDays days).count = days := by
  rw [← toDays_eq (ofDays_proper days)]
  obtain ⟨era, year, day, bounded, inside, whole, same⟩ := ofDays_cases days
  rw [same, toDays_fromMarch bounded inside, whole]

end Date

end ObjectStore.Time
