import Mathlib
import ObjectStore.Number.Basic
import ObjectStore.Proofs.Number.Amount

/-! Amounts of whole numbers and doubles. Comparison is that of amounts, without rounding. -/

namespace ObjectStore.Number

open Float.Model Float.Model.UnpackedFloat

/-- What a number amounts to; a double only if it is not negative. -/
def Amounts : Number → WithTop ℚ → Prop
  | .int n, p => p = ((n : ℚ) : WithTop ℚ)
  | .float x, p => Worth x.toModel.unpack p

section Doubles

variable {u v : UnpackedFloat} {p q : WithTop ℚ}

theorem compare_map {α β : Type*} [LinearOrder α] [LinearOrder β] {f : α → β} (mono : StrictMono f)
    (a b : α) : compare (f a) (f b) = compare a b := by
  obtain less | rfl | greater := lt_trichotomy a b
  · rw [compare_lt_iff_lt.mpr less, compare_lt_iff_lt.mpr (mono less)]
  · rw [compare_eq_iff_eq.mpr rfl, compare_eq_iff_eq.mpr rfl]
  · rw [compare_gt_iff_gt.mpr greater, compare_gt_iff_gt.mpr (mono greater)]

/-- Of two mantissas with different exponents the one with the greater exponent is greater. -/
theorem less_of_exponent {m n : ℕ} {e t : ℤ} (left : Normal m e) (right : Normal n t) (less : e < t) :
    (m : ℚ) * 2 ^ e < n * 2 ^ t := by
  have least := left.least
  have below : (m : ℚ) < 2 ^ 53 := by exact_mod_cast left.small
  have full : (2 : ℚ) ^ 52 ≤ n := by
    have leading := right.full.resolve_right (by omega)
    exact_mod_cast leading
  have powers : (2 : ℚ) ^ (e + 1) ≤ 2 ^ t := zpow_le_zpow_right₀ (by norm_num) less
  calc
    (m : ℚ) * 2 ^ e < 2 ^ 53 * 2 ^ e := mul_lt_mul_of_pos_right below (two_pow_pos e)
    _ = 2 ^ 52 * 2 ^ (e + 1) := by
      rw [zpow_add₀ (by norm_num)]
      ring
    _ ≤ n * 2 ^ t := mul_le_mul full powers (two_pow_pos _).le (by positivity)

theorem compare_finite {m n : ℕ} {e t : ℤ} (left : Normal m e) (right : Normal n t) :
    (compare e t).then (compare m n) = compare ((m : ℚ) * 2 ^ e) (n * 2 ^ t) := by
  obtain less | rfl | greater := lt_trichotomy e t
  · rw [compare_lt_iff_lt.mpr less, compare_lt_iff_lt.mpr (less_of_exponent left right less)]
    rfl
  · rw [compare_eq_iff_eq.mpr rfl]
    have scale : StrictMono fun k : ℕ => (k : ℚ) * 2 ^ e :=
      fun _ _ less => mul_lt_mul_of_pos_right (Nat.cast_lt.mpr less) (two_pow_pos e)
    exact (compare_map scale m n).symm
  · rw [compare_gt_iff_gt.mpr greater, compare_gt_iff_gt.mpr (less_of_exponent right left greater)]
    rfl

theorem Worth.compare (left : Worth u p) (right : Worth v q) : u.compare v = some (Ord.compare p q) := by
  have positive {m : ℕ} {e : ℤ} (some_bits : 0 < m) :
      ((0 : ℚ) : WithTop ℚ) < ((m * 2 ^ e : ℚ) : WithTop ℚ) :=
    WithTop.coe_lt_coe.mpr (mul_pos (Nat.cast_pos.mpr some_bits) (two_pow_pos e))
  cases left with
  | zero =>
      cases right with
      | zero => rfl
      | finite some_bits => rw [compare_lt_iff_lt.mpr (positive some_bits)]; rfl
      | infinity => rw [compare_lt_iff_lt.mpr (WithTop.coe_lt_top _)]; rfl
  | finite some_left normal =>
      cases right with
      | zero => rw [compare_gt_iff_gt.mpr (positive some_left)]; rfl
      | finite some_right normal' =>
          rw [compare_map WithTop.coe_strictMono, ← compare_finite normal normal']
          rfl
      | infinity => rw [compare_lt_iff_lt.mpr (WithTop.coe_lt_top _)]; rfl
  | infinity =>
      cases right with
      | zero => rw [compare_gt_iff_gt.mpr (WithTop.coe_lt_top _)]; rfl
      | finite => rw [compare_gt_iff_gt.mpr (WithTop.coe_lt_top _)]; rfl
      | infinity => rw [compare_eq_iff_eq.mpr rfl]; rfl

theorem float_lt_iff_compare (x y : Float) : x < y ↔ x.toModel.unpack.compare y.toModel.unpack = some .lt := by
  change decide (x.toModel.unpack.lt y.toModel.unpack = true) = true ↔ _
  rw [decide_eq_true_iff, UnpackedFloat.lt, beq_iff_eq]

theorem float_lt_iff {x y : Float} (left : Worth x.toModel.unpack p) (right : Worth y.toModel.unpack q) :
    x < y ↔ p < q := by
  rw [float_lt_iff_compare, left.compare right, Option.some_inj, compare_lt_iff_lt]

/-- Doubles are compared by their amounts. -/
theorem compare_floats {x y : Float} (left : Worth x.toModel.unpack p) (right : Worth y.toModel.unpack q) :
    (Number.float x).compare? (.float y) = some (compare p q) := by
  have same : (x == y) = true ↔ p = q := by
    change x.toModel.unpack.beq y.toModel.unpack = true ↔ _
    rw [UnpackedFloat.beq, left.compare right, beq_iff_eq, Option.some_inj, compare_eq_iff_eq]
  simp only [compare?, float_lt_iff left right, float_lt_iff right left, same]
  obtain less | rfl | greater := lt_trichotomy p q
  · rw [if_pos less, compare_lt_iff_lt.mpr less]
  · rw [if_neg (lt_irrefl p), if_neg (lt_irrefl p), if_pos rfl, compare_eq_iff_eq.mpr rfl]
  · rw [if_neg greater.not_gt, if_pos greater, compare_gt_iff_gt.mpr greater]

end Doubles

section Parts

/-- What is read from the bits of a double. -/
inductive Told : UnpackedFloat → Option Parts → Prop where
  | zero {sign : Sign} {parts : Parts} : parts.mantissa = 0 → Told (.zero sign) (some parts)
  | finite {sign : Sign} {m : ℕ} {e : ℤ} (some_bits : 0 < m) {parts : Parts} :
      parts.negative = (sign.toBitVec.toNat == 1) → parts.mantissa = m → parts.exponent = e →
      Told (.finite sign m e some_bits) (some parts)
  | infinity {sign : Sign} : Told (.infinity sign) none
  | undefined : Told .notANumber none

theorem parts_told (x : Float) : Told x.toModel.unpack (parts? x) := by
  obtain ⟨sign, field, fraction, unpacked, bits⟩ := exists_fields x
  have top := sign.toBitVec.isLt
  have first : x.toBits.toNat >>> 63 = sign.toBitVec.toNat := by
    rw [bits, Nat.shiftRight_eq_div_pow]
    omega
  have middle : (x.toBits.toNat >>> 52) % 2048 = field.toNat := by
    rw [bits, Nat.shiftRight_eq_div_pow]
    omega
  have last : x.toBits.toNat % fractionBound = fraction.toNat := by
    rw [bits, fractionBound]
    omega
  have highest : field = -1#11 ↔ field.toNat = 2047 := by
    rw [← BitVec.toNat_inj]
    rfl
  have lowest : field = 0#11 ↔ field.toNat = 0 := by
    rw [← BitVec.toNat_inj]
    rfl
  rw [unpacked, parts?, ofFields]
  simp only [first, middle, last, highest, lowest]
  split
  · split
    · exact .infinity
    · exact .undefined
  · split
    · split
      · next some_bits => exact .finite some_bits rfl rfl rfl
      · next none_left => exact .zero (Nat.eq_zero_of_not_pos none_left)
    · exact .finite _ rfl (Nat.add_comm _ _) rfl

variable {x : Float} {p : WithTop ℚ}

/-- A whole number is compared with the fraction that the parts of a double make. -/
theorem compareInt_of_parts {parts : Parts} (found : parts? x = some parts) (n : ℤ) : compareInt n x =
    compare (n : ℚ)
      ((if parts.negative then -(parts.mantissa : ℤ) else parts.mantissa : ℤ) * 2 ^ parts.exponent) := by
  rw [compareInt, found]
  dsimp only
  generalize (if parts.negative then -(parts.mantissa : ℤ) else parts.mantissa : ℤ) = m
  generalize parts.exponent = e
  split
  · next whole =>
    obtain ⟨k, rfl⟩ := Int.eq_ofNat_of_zero_le whole
    have product : ((m * Nat.pow 2 k : ℤ) : ℚ) = m * 2 ^ (k : ℤ) := by
      rw [Nat.pow_eq, zpow_natCast]
      push_cast
      rfl
    rw [Int.toNat_natCast, ← product, compare_map Int.cast_strictMono]
  · next broken =>
    obtain ⟨k, rfl⟩ : ∃ k : ℕ, e = -k := ⟨(-e).toNat, by omega⟩
    have scale : StrictMono fun q : ℚ => q * 2 ^ k :=
      fun _ _ less => mul_lt_mul_of_pos_right less (by positivity)
    have product : ((n * Nat.pow 2 k : ℤ) : ℚ) = n * 2 ^ k := by
      rw [Nat.pow_eq]
      push_cast
      rfl
    have quotient : (m : ℚ) * 2 ^ (-k : ℤ) * 2 ^ k = m := by
      rw [zpow_neg, zpow_natCast, inv_mul_cancel_right₀ (by positivity)]
    rw [← compare_map scale, quotient, ← product, neg_neg, Int.toNat_natCast, compare_map Int.cast_strictMono]

theorem compareInt_of_worth (worth : Worth x.toModel.unpack p) (n : ℤ) :
    compareInt n x = compare ((n : ℚ) : WithTop ℚ) p := by
  have told := parts_told x
  generalize kind : x.toModel.unpack = u at worth told
  generalize found : parts? x = parts at told
  cases worth with
  | zero =>
      obtain none_left | _ := told
      rw [compareInt_of_parts found, none_left, compare_map WithTop.coe_strictMono]
      simp
  | finite some_bits =>
      obtain _ | ⟨_, negative, mantissa, exponent⟩ := told
      rw [compareInt_of_parts found, negative, mantissa, exponent, compare_map WithTop.coe_strictMono]
      rfl
  | infinity =>
      cases told
      have zero : Worth (0 : Float).toModel.unpack (double (((0 : ℕ) : ℚ) : WithTop ℚ)) := worth_ofNat 0
      have not_below : ¬ x < 0 := by
        rw [float_lt_iff (kind ▸ Worth.infinity) zero]
        exact not_top_lt
      rw [compareInt, found]
      dsimp only
      rw [if_neg not_below, compare_lt_iff_lt.mpr (WithTop.coe_lt_top _)]

end Parts

namespace Amounts

variable {a b : Number} {p q : WithTop ℚ}

theorem compare? (left : a.Amounts p) (right : b.Amounts q) : a.compare? b = some (compare p q) := by
  cases a with
  | int m =>
      cases b with
      | int n =>
          obtain rfl := left
          obtain rfl := right
          rw [compare_map WithTop.coe_strictMono, compare_map Int.cast_strictMono]
          rfl
      | float y =>
          obtain rfl := left
          have defined : y.isNaN = false := Worth.isNaN_eq right
          rw [Number.compare?, defined, compareInt_of_worth right]
          rfl
  | float x =>
      cases b with
      | int n =>
          obtain rfl := right
          have defined : x.isNaN = false := Worth.isNaN_eq left
          rw [Number.compare?, defined, compareInt_of_worth left, ← Std.OrientedCmp.eq_swap]
          rfl
      | float y => exact compare_floats left right

theorem lt_iff (left : a.Amounts p) (right : b.Amounts q) : a.lt b = true ↔ p < q := by
  rw [lt, left.compare? right, beq_iff_eq, Option.some_inj, compare_lt_iff_lt]

theorem le_iff (left : a.Amounts p) (right : b.Amounts q) : le a b = true ↔ p ≤ q := by
  rw [le, left.compare? right, ← compare_le_iff_le]
  cases compare p q <;> simp

theorem eq_iff (left : a.Amounts p) (right : b.Amounts q) : a.compare? b = some .eq ↔ p = q := by
  rw [left.compare? right, Option.some_inj, compare_eq_iff_eq]

theorem min (left : a.Amounts p) (right : b.Amounts q) : (Number.min a b).Amounts (p ⊓ q) := by
  unfold Number.min
  split
  · next less => rwa [inf_of_le_right ((right.lt_iff left).mp less).le]
  · next not_less => rwa [inf_of_le_left (not_lt.mp fun less => not_less ((right.lt_iff left).mpr less))]

/-- The double of a number is the nearest one, if that is finite. -/
theorem toFloat? {r : ℚ} (amounts : a.Amounts r) (nonneg : 0 ≤ r) :
    double r ≠ ⊤ ∧ (∃ x, a.toFloat? = some x ∧ Worth x.toModel.unpack (double r)) ∨
      double r = ⊤ ∧ a.toFloat? = none := by
  cases a with
  | int n =>
      obtain rfl : r = n := WithTop.coe_injective amounts
      obtain ⟨k, rfl⟩ := Int.eq_ofNat_of_zero_le (by exact_mod_cast nonneg)
      have worth := worth_ofNat k
      have made : (Number.int k).toFloat? = if (Float.ofNat k).isFinite then some (Float.ofNat k) else none := rfl
      by_cases finite : double ((k : ℚ) : WithTop ℚ) = ⊤
      · have endless : ¬ (Float.ofNat k).isFinite = true := fun bounded => worth.isFinite_iff.mp bounded finite
        exact .inr ⟨finite, by rw [made, if_neg endless]⟩
      · have bounded : (Float.ofNat k).isFinite = true := worth.isFinite_iff.mpr finite
        exact .inl ⟨finite, _, by rw [made, if_pos bounded], worth⟩
  | float x =>
      have worth : Worth x.toModel.unpack r := amounts
      rw [worth.double_eq]
      exact .inl ⟨WithTop.coe_ne_top, x, rfl, worth⟩

theorem double_double {r : ℚ} (amounts : a.Amounts r) (nonneg : 0 ≤ r) : double (double r) = double r := by
  obtain ⟨-, x, -, worth⟩ | ⟨endless, -⟩ := amounts.toFloat? nonneg
  · exact worth.double_eq
  · rw [endless, double_top]

end Amounts

theorem lift?_float (exact : ℤ → ℤ → ℤ) (rounded : Float → Float → Float) (a : Number) (y : Float) :
    lift? exact rounded a (.float y) = a.toFloat?.map fun x => .float (rounded x y) := by
  cases a with
  | int n => cases double : ofInt? n <;> simp [lift?, toFloat?, double]
  | float x => rfl

theorem float_lift? (exact : ℤ → ℤ → ℤ) (rounded : Float → Float → Float) (x : Float) (b : Number) :
    lift? exact rounded (.float x) b = b.toFloat?.map fun y => .float (rounded x y) := by
  cases b with
  | int n => cases double : ofInt? n <;> simp [lift?, toFloat?, double]
  | float y => rfl

section Finite

/-- Whether a number is neither infinite nor undefined. -/
def isFinite : Number → Bool
  | .int _ => true
  | .float x => x.isFinite

theorem normal_of_unpack {x : Float} {sign : Sign} {m : ℕ} {e : ℤ} {some_bits : 0 < m}
    (unpacked : x.toModel.unpack = .finite sign m e some_bits) : Normal m e ∧ e ≤ 971 := by
  obtain ⟨sign', field, fraction, fields, -⟩ := exists_fields x
  have small := fraction.isLt
  have range := field.isLt
  have finite : field ≠ -1#11 := by
    rintro rfl
    rw [unpacked, ofFields, if_pos rfl] at fields
    split at fields <;> cases fields
  rw [unpacked, ofFields, if_neg finite] at fields
  rw [ne_eq, ← BitVec.toNat_inj] at finite
  split at fields
  · split at fields
    · cases fields
      exact ⟨⟨by omega, le_rfl, .inr rfl⟩, by norm_num⟩
    · cases fields
  · next normal =>
    rw [← BitVec.toNat_inj] at normal
    cases fields
    change ¬ field.toNat = 2047 at finite
    change ¬ field.toNat = 0 at normal
    exact ⟨⟨by omega, by omega, .inl (by omega)⟩, by omega⟩

section Negative

variable {x : Float} {m : ℕ} {e : ℤ} {some_bits : 0 < m}

theorem compareInt_of_negative (unpacked : x.toModel.unpack = .finite .negative m e some_bits) {n : ℤ}
    (nonneg : 0 ≤ n) : compareInt n x = .gt := by
  have told := parts_told x
  rw [unpacked] at told
  generalize found : parts? x = parts at told
  obtain _ | ⟨_, negative, mantissa, exponent⟩ := told
  have below : ((-(m : ℤ) : ℤ) : ℚ) * 2 ^ e < n := by
    have least : (0 : ℚ) ≤ n := Int.cast_nonneg nonneg
    have size : (0 : ℚ) < m * 2 ^ e := mul_pos (Nat.cast_pos.mpr some_bits) (two_pow_pos e)
    push_cast
    linarith
  rw [compareInt_of_parts found, negative, mantissa, exponent, compare_gt_iff_gt]
  exact below

/-- A double below zero is below everything that is not. -/
theorem below_of_negative (unpacked : x.toModel.unpack = .finite .negative m e some_bits) {b : Number}
    {p : WithTop ℚ} (amounts : b.Amounts p) (nonneg : 0 ≤ p) :
    (Number.float x).lt b = true ∧ le b (.float x) = false := by
  cases b with
  | int n =>
      have defined : x.isNaN = false := by
        change x.toModel.unpack.isNaN = false
        rw [unpacked]
        rfl
      obtain rfl := amounts
      have least : 0 ≤ n := Int.cast_nonneg_iff.mp (WithTop.coe_nonneg.mp nonneg)
      rw [lt, le, compare?, compare?, defined, compareInt_of_negative unpacked least]
      exact ⟨rfl, rfl⟩
  | float y =>
      have worth : Worth y.toModel.unpack p := amounts
      have before : x < y := by
        rw [float_lt_iff_compare, unpacked]
        generalize y.toModel.unpack = u at worth
        cases worth <;> rfl
      have not_after : ¬ y < x := by
        rw [float_lt_iff_compare, unpacked]
        generalize y.toModel.unpack = u at worth
        cases worth <;> exact nofun
      rw [lt, le, compare?, compare?, if_pos before, if_neg not_after, if_pos before]
      exact ⟨rfl, rfl⟩

end Negative

/-- A double amounts to something, unless it is below zero or undefined. -/
theorem worth_or_not (x : Float) : (∃ p, Worth x.toModel.unpack p) ∨
    (∃ m e some_bits, x.toModel.unpack = .finite .negative m e some_bits) ∨
    x.toModel.unpack = .infinity .negative ∨ x.toModel.unpack = .notANumber := by
  cases unpacked : x.toModel.unpack with
  | notANumber => exact .inr (.inr (.inr rfl))
  | zero sign => exact .inl ⟨0, .zero sign⟩
  | infinity sign =>
      cases sign with
      | positive => exact .inl ⟨⊤, .infinity⟩
      | negative => exact .inr (.inr (.inl rfl))
  | finite sign m e some_bits =>
      cases sign with
      | positive =>
          obtain ⟨normal, fits⟩ := normal_of_unpack unpacked
          exact .inl ⟨_, .finite some_bits normal fits⟩
      | negative => exact .inr (.inl ⟨m, e, some_bits, rfl⟩)

/-- A finite number amounts to a fraction unless it is below zero. -/
theorem amounts_or_below {a : Number} (finite : a.isFinite = true) : (∃ r : ℚ, a.Amounts r) ∨
    ∀ {b : Number} {p : WithTop ℚ}, b.Amounts p → 0 ≤ p → a.lt b = true ∧ le b a = false := by
  cases a with
  | int n => exact .inl ⟨n, rfl⟩
  | float x =>
      have bounded : x.toModel.unpack.isFinite = true := finite
      obtain ⟨p, worth⟩ | ⟨m, e, some_bits, unpacked⟩ | unpacked | unpacked := worth_or_not x
      · obtain ⟨r, rfl⟩ := WithTop.ne_top_iff_exists.mp (worth.isFinite_iff.mp bounded)
        exact .inl ⟨r, worth⟩
      · exact .inr fun amounts nonneg => below_of_negative unpacked amounts nonneg
      · rw [unpacked] at bounded
        contradiction
      · rw [unpacked] at bounded
        contradiction

theorem amounts_of_finite {a : Number} (finite : a.isFinite = true) (nonneg : Number.le (.int 0) a = true) :
    ∃ r : ℚ, a.Amounts r ∧ 0 ≤ r := by
  have zero : (Number.int 0).Amounts ((0 : ℚ) : WithTop ℚ) := congrArg _ Int.cast_zero.symm
  obtain ⟨r, amounts⟩ | below := amounts_or_below finite
  · exact ⟨r, amounts, WithTop.coe_le_coe.mp ((zero.le_iff amounts).mp nonneg)⟩
  · rw [(below zero le_rfl).2] at nonneg
    contradiction

/-- A double from zero to one amounts to a fraction from zero to one. -/
theorem worth_of_unit {x : Float} (low : 0 ≤ x) (high : x ≤ 1) :
    ∃ r : ℚ, Worth x.toModel.unpack r ∧ r ≤ 1 := by
  have after : UnpackedFloat.le (.zero .positive) x.toModel.unpack = true := of_decide_eq_true low
  have before : UnpackedFloat.le x.toModel.unpack (.finite .positive (2 ^ 52) (-52) (by decide)) = true :=
    of_decide_eq_true high
  have one : Worth (.finite .positive (2 ^ 52) (-52) (by decide)) ((1 : ℚ) : WithTop ℚ) := worth_one
  obtain ⟨p, worth⟩ | ⟨m, e, some_bits, unpacked⟩ | unpacked | unpacked := worth_or_not x
  · rw [UnpackedFloat.le, worth.compare one, Option.any_some, Ordering.isLE_iff_ne_gt] at before
    have le_one : p ≤ ((1 : ℚ) : WithTop ℚ) := not_lt.mp fun less => before (compare_gt_iff_gt.mpr less)
    obtain ⟨r, rfl⟩ := WithTop.ne_top_iff_exists.mp (ne_top_of_le_ne_top WithTop.coe_ne_top le_one)
    exact ⟨r, worth, WithTop.coe_le_coe.mp le_one⟩
  · rw [unpacked] at after
    contradiction
  · rw [unpacked] at after
    contradiction
  · rw [unpacked] at after
    contradiction

/-- No fraction is above what is infinite or undefined. -/
theorem Lost.not_lt {x : Float} {q : ℚ} (lost : Lost x.toModel.unpack) {b : Number} (amounts : b.Amounts q) :
    (Number.float x).lt b = false := by
  generalize kind : x.toModel.unpack = u at lost
  cases lost with
  | infinity =>
      have worth : Worth x.toModel.unpack ⊤ := kind ▸ Worth.infinity
      have top : (Number.float x).Amounts ⊤ := worth
      rw [Bool.eq_false_iff, ne_eq, top.lt_iff amounts]
      exact not_top_lt
  | undefined =>
      cases b with
      | int n =>
          have undefined : x.isNaN = true := congrArg UnpackedFloat.isNaN kind
          rw [lt, compare?, undefined]
          rfl
      | float y =>
          have not_before : ¬ x < y := by
            rw [float_lt_iff_compare, kind]
            exact nofun
          rw [lt, compare?, if_neg not_before]
          split
          · rfl
          · split <;> rfl

end Finite

end ObjectStore.Number
