import ObjectStore.Proofs.Time.Calendar
import ObjectStore.Time.DateTime

/-! Points in time, counted by the calendar, and that a time moved to universal time stays the same
point. -/

namespace ObjectStore.Time

theorem Date.year_le {d : Date} (proper : d.Proper) {year : Int} (before : d.ordinal ≤ daysBeforeYear (year + 1)) :
    d.year ≤ year := by
  by_contra later
  have order : year + 1 ≤ d.year := by omega
  have mono := daysBeforeYear_mono order
  have within := proper.within
  omega

theorem Date.le_year {d : Date} (proper : d.Proper) {year : Int} (after : daysBeforeYear year < d.ordinal) :
    year ≤ d.year := by
  by_contra earlier
  have order : d.year + 1 ≤ year := by omega
  have mono := daysBeforeYear_mono order
  have within := proper.within
  omega

namespace DateTime

/-- A time that there is: a date, a time of day, and less than a day between it and universal time. -/
structure Proper (t : DateTime) : Prop where
  date : t.date.Proper
  year : 1 ≤ t.date.year ∧ t.date.year ≤ 9999
  hour : t.hour < 24
  minute : t.minute < 60
  second : t.second < 60
  micro : t.micro < 1000000
  offset : (t.offset.getD 0).natAbs < 86400000000

/-- Millionths of a second since the start of 1970 where the clocks show universal time, if they show
the fields of the time. -/
def shown (t : DateTime) : Int :=
  t.date.count * 86400000000 + (t.hour * 3600 + t.minute * 60 + t.second : Nat) * 1000000 + t.micro

/-- The point in time, in millionths of a second since the start of 1970. A time whose place is unknown
is universal. -/
def point (t : DateTime) : Int :=
  t.shown - t.offset.getD 0

/-- The point at which a universal year begins. -/
def startOf (year : Int) : Int :=
  Date.count ⟨year, 1, 1⟩ * 86400000000

/-- A point of the universal years from 1000 to 9999. -/
def Within (t : DateTime) : Prop :=
  startOf 1000 ≤ t.point ∧ t.point < startOf 10000

variable {t : DateTime}

theorem instant_eq (date : t.date.Proper) : t.instant = t.point := by
  rw [instant, localSeconds, Date.toDays_eq date, point, shown]
  omega

theorem startOf_eq (year : Int) : startOf year = (daysBeforeYear year - 719162) * 86400000000 := by
  have first : Date.ordinal ⟨year, 1, 1⟩ = daysBeforeYear year + 1 := by
    simp [Date.ordinal, daysBeforeMonth]
  rw [startOf, Date.count_eq, first]
  omega

/-- The fields of a point in time are those of a date and a time of day that show it. -/
theorem ofInstant_spec (instant : Int) :
    (ofInstant instant).date.Proper ∧ (ofInstant instant).hour < 24 ∧ (ofInstant instant).minute < 60 ∧
      (ofInstant instant).second < 60 ∧ (ofInstant instant).micro < 1000000 ∧
      (ofInstant instant).offset = some 0 ∧ (ofInstant instant).shown = instant := by
  have seconds := Int.fdiv_eq_ediv_of_nonneg instant (show (0 : Int) ≤ 1000000 by decide)
  have days := Int.fdiv_eq_ediv_of_nonneg (instant / 1000000) (show (0 : Int) ≤ 86400 by decide)
  rw [shown]
  simp only [ofInstant, ofSeconds, seconds, days, Date.count_ofDays]
  refine ⟨Date.ofDays_proper _, ?_, ?_, ?_, ?_, trivial, ?_⟩ <;> omega

section Years

variable {year : Int} (date : t.date.Proper) (clock : t.hour < 24 ∧ t.minute < 60 ∧ t.second < 60)
  (micro : t.micro < 1000000)
include date clock micro

theorem le_year_of_shown (after : startOf year ≤ t.shown) : year ≤ t.date.year := by
  rw [startOf_eq, shown, Date.count_eq] at after
  exact Date.le_year date (by omega)

theorem year_le_of_shown (before : t.shown < startOf (year + 1)) : t.date.year ≤ year := by
  rw [startOf_eq, shown, Date.count_eq] at before
  exact Date.year_le date (by omega)

end Years

/-- Within the years from 1000 to 9999, a time can be moved to universal time, and stays the same point. -/
theorem toUniversal_spec (proper : t.Proper) (within : t.Within) :
    ∃ u, t.toUniversal? = some u ∧ u.Proper ∧ 1000 ≤ u.date.year ∧ u.shown = t.point := by
  obtain ⟨low, high⟩ := within
  cases place : t.offset with
  | none =>
      have same : t.point = t.shown := by simp [point, place]
      rw [same] at low
      have full := le_year_of_shown proper.date ⟨proper.hour, proper.minute, proper.second⟩ proper.micro low
      refine ⟨t, ?_, proper, full, same.symm⟩
      rw [toUniversal?, place]
  | some offset =>
      obtain ⟨date, hour, minute, second, micro, universal, shows⟩ := ofInstant_spec t.point
      rw [← shows] at low high
      have first := le_year_of_shown date ⟨hour, minute, second⟩ micro low
      have last : (ofInstant t.point).date.year ≤ 9999 :=
        year_le_of_shown date ⟨hour, minute, second⟩ micro high
      have early : 1 ≤ (ofInstant t.point).date.year := by omega
      refine ⟨ofInstant t.point, ?_, ?_, first, shows⟩
      · simp only [toUniversal?, place, instant_eq proper.date]
        rw [if_pos (by simp [early, last])]
      · exact ⟨date, ⟨early, last⟩, hour, minute, second, micro, by simp [universal]⟩

end DateTime

end ObjectStore.Time
