import Mathlib.Data.List.Basic
import ObjectStore.Proofs.Time.Instant
import ObjectStore.Time.Words

/-! What the texts of times say to those who take them to be in universal time. Both forms have fields of
fixed widths. A text is read only if there is such a time, and that of a header only if it names the day
of the week that the calendar has for its date. -/

namespace ObjectStore.Time

def number? (cs : List Char) : Option Nat :=
  if cs.all Char.isDigit then some (Nat.ofDigitChars 10 cs 0) else none

/-- The day of the week, from Monday on. The first of January 1970 is a Thursday. -/
def Date.dayOfWeek (d : Date) : Nat :=
  ((d.count + 3) % 7).toNat

/-- A universal time, if there is one with these fields. -/
def universal? (year month day hour minute second : Option Nat) : Option DateTime := do
  let t : DateTime := ⟨⟨← year, ← month, ← day⟩, ← hour, ← minute, ← second, 0, some 0⟩
  if t.date.Proper ∧ t.hour < 24 ∧ t.minute < 60 ∧ t.second < 60 then some t else none

/-- Reads texts of the form `2018-01-01T00:00:00Z`. -/
def readToken (text : String) : Option DateTime :=
  match text.toList with
  | [y₁, y₂, y₃, y₄, '-', m₁, m₂, '-', d₁, d₂, 'T', h₁, h₂, ':', n₁, n₂, ':', s₁, s₂, 'Z'] =>
    universal? (number? [y₁, y₂, y₃, y₄]) (number? [m₁, m₂]) (number? [d₁, d₂])
      (number? [h₁, h₂]) (number? [n₁, n₂]) (number? [s₁, s₂])
  | _ => none

/-- Reads texts of the form `Mon, 01 Jan 2018 00:00:00 GMT`. -/
def readHeader (text : String) : Option DateTime :=
  match text.toList with
  | [w₁, w₂, w₃, ',', ' ', d₁, d₂, ' ', m₁, m₂, m₃, ' ', y₁, y₂, y₃, y₄, ' ', h₁, h₂, ':', n₁, n₂, ':',
      s₁, s₂, ' ', 'G', 'M', 'T'] => do
    let t ← universal? (number? [y₁, y₂, y₃, y₄]) (Words.month? [m₁, m₂, m₃]) (number? [d₁, d₂])
      (number? [h₁, h₂]) (number? [n₁, n₂]) (number? [s₁, s₂])
    if Words.weekday? [w₁, w₂, w₃] = some t.date.dayOfWeek then some t else none
  | _ => none

/-- A text was read as the start of a second. -/
def Denotes (read : Option DateTime) (second : Int) : Prop :=
  ∃ u, read = some u ∧ u.point = second * 1000000

/-- The second of universal time that a time is in, counted from the start of 1970. -/
def DateTime.universalSecond (t : DateTime) : Int :=
  t.point / 1000000

/-- The second that the fields of a time show. -/
def DateTime.shownSecond (t : DateTime) : Int :=
  t.shown / 1000000

theorem padded_two {n : Nat} (small : n < 100) :
    ∃ a b, (padded 2 n).toList = [a, b] ∧ number? [a, b] = some n := by
  have digits : ∀ n < 100, (padded 2 n).toList = [Nat.digitChar (n / 10), Nat.digitChar (n % 10)] ∧
      number? [Nat.digitChar (n / 10), Nat.digitChar (n % 10)] = some n := by
    decide +kernel
  exact ⟨_, _, digits n small⟩

theorem number?_toDigits (n : Nat) : number? (Nat.toDigits 10 n) = some n := by
  have digits : (Nat.toDigits 10 n).all Char.isDigit = true :=
    List.all_eq_true.mpr fun c member => Nat.isDigit_of_mem_toDigits (by decide) (by decide) member
  rw [number?, if_pos digits, Nat.ofDigitChars_ten_toDigits]

theorem toList_year {year : Int} (past : 1 ≤ year) : (toString year).toList = Nat.toDigits 10 year.toNat := by
  obtain ⟨n, rfl⟩ := Int.eq_ofNat_of_zero_le (show 0 ≤ year by omega)
  exact Nat.toList_repr

theorem length_year_le_iff {year : Int} (past : 1 ≤ year) {k : Nat} (some_digits : 0 < k) :
    (toString year).toList.length ≤ k ↔ year.toNat < 10 ^ k := by
  rw [toList_year past]
  exact Nat.length_toDigits_le_iff (by decide) some_digits

theorem year_four {year : Int} (range : 1000 ≤ year ∧ year ≤ 9999) :
    ∃ a b c d, (toString year).toList = [a, b, c, d] ∧ number? [a, b, c, d] = some year.toNat := by
  have past : 1 ≤ year := by omega
  have most := (length_year_le_iff past (k := 4) (by decide)).mpr (by omega)
  have least := mt (length_year_le_iff past (k := 3) (by decide)).mp (by omega)
  obtain ⟨a, b, c, d, four⟩ := List.length_eq_four.mp (show (toString year).toList.length = 4 by omega)
  refine ⟨a, b, c, d, four, ?_⟩
  rw [← four, toList_year past, number?_toDigits]

section Proper

variable {t : DateTime} (proper : t.Proper)
include proper

/-- A universal time is told by its fields. -/
theorem universal?_eq : universal? (some t.date.year.toNat) (some t.date.month) (some t.date.day) (some t.hour)
    (some t.minute) (some t.second) = some { t with micro := 0, offset := some 0 } := by
  have year : (t.date.year.toNat : Int) = t.date.year := by
    have past := proper.year.1
    omega
  simp only [universal?, year, Option.bind_eq_bind, Option.bind_some]
  rw [if_pos ⟨proper.date, proper.hour, proper.minute, proper.second⟩]

theorem month_and_day_small : t.date.month < 100 ∧ t.date.day < 100 := by
  have most : daysInMonth t.date.year t.date.month ≤ 31 := by
    unfold daysInMonth
    repeat' split
    all_goals decide
  obtain ⟨month, day⟩ := proper.date
  omega

theorem toList_clockText : ∃ h₁ h₂ n₁ n₂ s₁ s₂,
    t.clockText.toList = [h₁, h₂, ':', n₁, n₂, ':', s₁, s₂] ∧ number? [h₁, h₂] = some t.hour ∧
      number? [n₁, n₂] = some t.minute ∧ number? [s₁, s₂] = some t.second := by
  obtain ⟨-, -, hour, minute, second, -, -⟩ := proper
  obtain ⟨h₁, h₂, hours, hour⟩ := padded_two (n := t.hour) (by omega)
  obtain ⟨n₁, n₂, minutes, minute⟩ := padded_two (n := t.minute) (by omega)
  obtain ⟨s₁, s₂, seconds, second⟩ := padded_two (n := t.second) (by omega)
  refine ⟨h₁, h₂, n₁, n₂, s₁, s₂, ?_, hour, minute, second⟩
  simp only [DateTime.clockText, String.toList_append, hours, minutes, seconds]
  rfl

/-- The text of a token has the fields of a time, unless the year is short. -/
theorem readToken_tokenText (full : 1000 ≤ t.date.year) :
    readToken t.tokenText = some { t with micro := 0, offset := some 0 } := by
  obtain ⟨small_month, small_day⟩ := month_and_day_small proper
  obtain ⟨y₁, y₂, y₃, y₄, years, year⟩ := year_four ⟨full, proper.year.2⟩
  obtain ⟨m₁, m₂, months, month⟩ := padded_two small_month
  obtain ⟨d₁, d₂, days, day⟩ := padded_two small_day
  obtain ⟨h₁, h₂, n₁, n₂, s₁, s₂, clock, hour, minute, second⟩ := toList_clockText proper
  have written : t.tokenText.toList = [y₁, y₂, y₃, y₄, '-', m₁, m₂, '-', d₁, d₂, 'T', h₁, h₂, ':', n₁, n₂,
      ':', s₁, s₂, 'Z'] := by
    simp only [DateTime.tokenText, String.toList_append, years, months, days, clock]
    rfl
  rw [readToken, written]
  simp only [year, month, day, hour, minute, second, universal?_eq proper]

/-- A text with a short year is not read. -/
theorem readToken_of_short (short : t.date.year < 1000) : readToken t.tokenText = none := by
  obtain ⟨small_month, small_day⟩ := month_and_day_small proper
  obtain ⟨m₁, m₂, months, -⟩ := padded_two small_month
  obtain ⟨d₁, d₂, days, -⟩ := padded_two small_day
  obtain ⟨h₁, h₂, n₁, n₂, s₁, s₂, clock, -⟩ := toList_clockText proper
  have year := (length_year_le_iff proper.year.1 (k := 3) (by decide)).mpr (by omega)
  have length : t.tokenText.toList.length < 20 := by
    simp [DateTime.tokenText, months, days, clock] at year ⊢
    omega
  unfold readToken
  split
  · next same =>
    rw [same] at length
    simp at length
  · rfl

theorem dayName_eq : ∃ w₁ w₂ w₃, t.date.dayName.toList = [w₁, w₂, w₃] ∧
    Words.weekday? [w₁, w₂, w₃] = some t.date.dayOfWeek := by
  have names : ∀ day < 7, (dayNames.getD day "").toList.length = 3 ∧
      Words.weekday? (dayNames.getD day "").toList = some day := by
    decide
  have same : t.date.weekday = t.date.dayOfWeek := by
    rw [Date.weekday, Date.dayOfWeek, Date.toDays_eq proper.date]
  obtain ⟨length, read⟩ := names t.date.weekday (by rw [same, Date.dayOfWeek]; omega)
  obtain ⟨w₁, w₂, w₃, three⟩ := List.length_eq_three.mp length
  refine ⟨w₁, w₂, w₃, three, ?_⟩
  rw [← three, read, same]

theorem monthName_eq : ∃ m₁ m₂ m₃, t.date.monthName.toList = [m₁, m₂, m₃] ∧
    Words.month? [m₁, m₂, m₃] = some t.date.month := by
  have names : ∀ month < 13, 1 ≤ month → (monthNames.getD (month - 1) "").toList.length = 3 ∧
      Words.month? (monthNames.getD (month - 1) "").toList = some month := by
    decide
  obtain ⟨first, last⟩ := proper.date.month
  obtain ⟨length, read⟩ := names t.date.month (by omega) first
  obtain ⟨m₁, m₂, m₃, three⟩ := List.length_eq_three.mp length
  refine ⟨m₁, m₂, m₃, three, ?_⟩
  rw [← three, read]

/-- The text of a header has the fields of a time, with its day of the week. -/
theorem readHeader_headerText (full : 1000 ≤ t.date.year) :
    readHeader t.headerText = some { t with micro := 0, offset := some 0 } := by
  obtain ⟨-, small_day⟩ := month_and_day_small proper
  obtain ⟨w₁, w₂, w₃, weekdays, weekday⟩ := dayName_eq proper
  obtain ⟨d₁, d₂, days, day⟩ := padded_two small_day
  obtain ⟨m₁, m₂, m₃, months, month⟩ := monthName_eq proper
  obtain ⟨y₁, y₂, y₃, y₄, years, year⟩ := year_four ⟨full, proper.year.2⟩
  obtain ⟨h₁, h₂, n₁, n₂, s₁, s₂, clock, hour, minute, second⟩ := toList_clockText proper
  have written : t.headerText.toList = [w₁, w₂, w₃, ',', ' ', d₁, d₂, ' ', m₁, m₂, m₃, ' ', y₁, y₂, y₃, y₄,
      ' ', h₁, h₂, ':', n₁, n₂, ':', s₁, s₂, ' ', 'G', 'M', 'T'] := by
    simp only [DateTime.headerText, String.toList_append, weekdays, years, months, days, clock]
    rfl
  rw [readHeader, written]
  simp only [year, month, day, hour, minute, second, universal?_eq proper, Option.bind_eq_bind,
    Option.bind_some, weekday, if_true]

end Proper

/-- The start of the second that a time shows, in universal time. -/
theorem denotes_shown {t : DateTime} (proper : t.Proper) (second : Int) :
    Denotes (some { t with micro := 0, offset := some 0 }) second ↔ t.shownSecond = second := by
  have start : DateTime.point { t with micro := 0, offset := some 0 } = t.shownSecond * 1000000 := by
    have micro := proper.micro
    simp only [DateTime.point, DateTime.shownSecond, DateTime.shown, Option.getD_some]
    omega
  simp only [Denotes, Option.some.injEq, exists_eq_left', start]
  omega

namespace DateTime

/-- Where a time is, its clock shows the universal second: the offset does not reach beyond it. -/
def Settled (t : DateTime) : Prop :=
  0 ≤ t.micro - t.offset.getD 0 ∧ t.micro - t.offset.getD 0 < 1000000

variable {t : DateTime} (proper : t.Proper)
include proper

theorem settled_iff : t.Settled ↔ t.shownSecond = t.universalSecond := by
  have micro := proper.micro
  rw [Settled, shownSecond, universalSecond, point, shown]
  omega

/-- The text of a token tells the universal second of a time, exactly if the time shows it. -/
theorem tokenText_denotes_iff (within : t.Within) :
    Denotes (readToken t.tokenText) t.universalSecond ↔ t.Settled := by
  rw [settled_iff proper]
  by_cases full : 1000 ≤ t.date.year
  · rw [readToken_tokenText proper full, denotes_shown proper]
  · rw [readToken_of_short proper (by omega)]
    constructor
    · rintro ⟨u, unread, -⟩
      contradiction
    · intro same
      have low := within.1
      refine absurd (le_year_of_shown proper.date ⟨proper.hour, proper.minute, proper.second⟩ proper.micro ?_) full
      rw [shownSecond, universalSecond] at same
      rw [startOf] at low ⊢
      omega

/-- The text of a header tells the universal second of a time, wherever the time is. -/
theorem headerText_denotes (within : t.Within) :
    ∃ u, t.toUniversal? = some u ∧ Denotes (readHeader u.headerText) t.universalSecond := by
  obtain ⟨u, moved, proper_u, full, same⟩ := toUniversal_spec proper within
  refine ⟨u, moved, ?_⟩
  rw [readHeader_headerText proper_u full, denotes_shown proper_u, shownSecond, same]
  rfl

end DateTime

end ObjectStore.Time
