import Mathlib
import ObjectStore.Proofs.Number.Double

/-! Amounts of doubles that are not negative: fractions, or more than any fraction. An operation gives
the nearest double to what it gives on amounts. -/

namespace ObjectStore.Number

open Float.Model Float.Model.UnpackedFloat

theorem two_pow_split (k l : ℕ) : (2 : ℚ) ^ k * 2 ^ (l : ℤ) = 2 ^ (k + l) := by
  rw [zpow_natCast, ← pow_add]

theorem Normal.below {m : ℕ} {e : ℤ} (normal : Normal m e) (fits : e ≤ 971) : (m : ℚ) * 2 ^ e < 2 ^ 1024 := by
  have below : (m : ℚ) < 2 ^ 53 := by exact_mod_cast normal.small
  have powers : (2 : ℚ) ^ e ≤ 2 ^ (971 : ℤ) := zpow_le_zpow_right₀ (by norm_num) fits
  calc
    (m : ℚ) * 2 ^ e < 2 ^ 53 * 2 ^ e := mul_lt_mul_of_pos_right below (two_pow_pos e)
    _ ≤ 2 ^ 53 * 2 ^ (971 : ℤ) := mul_le_mul_of_nonneg_left powers (by positivity)
    _ = 2 ^ 1024 := two_pow_split 53 971

/-- What a double amounts to that is not negative. -/
inductive Worth : UnpackedFloat → WithTop ℚ → Prop where
  | zero (sign : Sign) : Worth (.zero sign) ((0 : ℚ) : WithTop ℚ)
  | finite {m : ℕ} {e : ℤ} (some_bits : 0 < m) : Normal m e → e ≤ 971 →
      Worth (.finite .positive m e some_bits) ((m * 2 ^ e : ℚ) : WithTop ℚ)
  | infinity : Worth (.infinity .positive) ⊤

/-- The amount of the nearest double. From the middle between the greatest one and the next power of two
on there is none that is finite. -/
def double : WithTop ℚ → WithTop ℚ :=
  WithTop.recTopCoe ⊤ fun q => if rounded q < 2 ^ 1024 then (rounded q : WithTop ℚ) else ⊤

@[simp]
theorem double_top : double ⊤ = ⊤ :=
  rfl

theorem double_coe (q : ℚ) : double q = if rounded q < 2 ^ 1024 then (rounded q : WithTop ℚ) else ⊤ :=
  rfl

theorem double_zero : double ((0 : ℚ) : WithTop ℚ) = ((0 : ℚ) : WithTop ℚ) := by
  rw [double_coe, rounded_zero, if_pos (by positivity)]

theorem double_of_finite {q : ℚ} (finite : double q ≠ ⊤) : double q = rounded q := by
  rw [double_coe] at finite ⊢
  split
  · rfl
  · next large => exact absurd (if_neg large) finite

theorem double_mono {p q : WithTop ℚ} (nonneg : 0 ≤ p) (le : p ≤ q) : double p ≤ double q := by
  cases q with
  | top => exact le_top
  | coe q =>
      cases p with
      | top => exact absurd le (by simp)
      | coe p =>
          have rounds := rounded_mono (WithTop.coe_nonneg.mp nonneg) (WithTop.coe_le_coe.mp le)
          rw [double_coe, double_coe]
          split
          · split
            · exact WithTop.coe_le_coe.mpr rounds
            · exact le_top
          · next large =>
            rw [if_neg (fun small => large (rounds.trans_lt small))]

/-- What is at most as much as something with a finite double has one as well. -/
theorem double_of_le {p q : ℚ} (nonneg : 0 ≤ p) (le : p ≤ q) (finite : double q ≠ ⊤) :
    double p = rounded p :=
  double_of_finite (ne_top_of_le_ne_top finite
    (double_mono (WithTop.coe_nonneg.mpr nonneg) (WithTop.coe_le_coe.mpr le)))

/-- There is room above half of the range. -/
theorem double_power_ne_top : double ((2 ^ 1023 : ℚ) : WithTop ℚ) ≠ ⊤ := by
  have power : IsDouble (2 ^ 1023) :=
    ⟨1, 1023, by norm_num, by norm_num, by rw [Nat.cast_one, one_mul, zpow_ofNat]⟩
  rw [double_coe, power.rounded_eq, if_pos (pow_lt_pow_right₀ (by norm_num) (by norm_num))]
  exact WithTop.coe_ne_top

theorem double_nonneg {p : WithTop ℚ} (nonneg : 0 ≤ p) : 0 ≤ double p := by
  have least := double_mono (p := 0) le_rfl nonneg
  rwa [show double 0 = 0 from double_zero] at least

variable {u v : UnpackedFloat} {p q : WithTop ℚ}

namespace Worth

theorem nonneg (worth : Worth u p) : 0 ≤ p := by
  cases worth with
  | zero => exact le_rfl
  | finite some_bits => exact WithTop.coe_nonneg.mpr (by positivity)
  | infinity => exact le_top

/-- Doubles are their own nearest doubles. -/
theorem double_eq (worth : Worth u p) : double p = p := by
  cases worth with
  | zero => exact double_zero
  | @finite m e _ normal fits =>
      have exact := IsDouble.rounded_eq ⟨m, e, normal.small, normal.least, rfl⟩
      rw [double_coe, exact, if_pos (normal.below fits)]
  | infinity => rfl

theorem double_ne_top {q : ℚ} (worth : Worth u q) : double q ≠ ⊤ := by
  rw [worth.double_eq]
  exact WithTop.coe_ne_top

theorem isFinite_iff (worth : Worth u p) : u.isFinite = true ↔ p ≠ ⊤ := by
  cases worth with
  | zero => exact iff_of_true rfl WithTop.coe_ne_top
  | finite => exact iff_of_true rfl WithTop.coe_ne_top
  | infinity => exact iff_of_false Bool.false_ne_true (not_not_intro rfl)

theorem eq_infinity (worth : Worth u p) (top : p = ⊤) : u = .infinity .positive := by
  cases worth with
  | zero => exact absurd top WithTop.coe_ne_top
  | finite => exact absurd top WithTop.coe_ne_top
  | infinity => rfl

theorem isNaN_eq (worth : Worth u p) : u.isNaN = false := by
  cases worth <;> rfl

end Worth

/-- What an operation makes, as it is read again. -/
def packed (u : UnpackedFloat) : UnpackedFloat :=
  UnpackedFloat.unpack Format.binary64 (UnpackedFloat.pack Format.binary64 u)

namespace Worth

theorem packed_zero (sign : Sign) : packed (.zero sign) = .zero sign :=
  unpack_packedZero

theorem packed_infinity : packed (.infinity .positive) = .infinity .positive :=
  unpack_packComponents .positive (-1#11) 0#52

/-- What is a double already is not changed. -/
theorem packed_eq (worth : Worth u p) : packed u = u := by
  cases worth with
  | zero sign => exact packed_zero sign
  | finite some_bits normal fits => exact unpack_pack_of_fits normal fits
  | infinity => exact packed_infinity

theorem kept (worth : Worth u p) : Worth (packed u) (double p) := by
  rwa [worth.packed_eq, worth.double_eq]

/-- What a double is that amounts to a fraction. -/
theorem zero_or_finite {q : ℚ} (worth : Worth u q) : (∃ sign, u = .zero sign ∧ q = 0) ∨
    ∃ m e some_bits, u = .finite .positive m e some_bits ∧ Normal m e ∧ e ≤ 971 ∧ q = m * 2 ^ e := by
  generalize amount : (q : WithTop ℚ) = p at worth
  cases worth with
  | zero sign => exact .inl ⟨sign, rfl, WithTop.coe_injective amount⟩
  | finite some_bits normal fits =>
      exact .inr ⟨_, _, some_bits, rfl, normal, fits, WithTop.coe_injective amount⟩
  | infinity => exact absurd amount WithTop.coe_ne_top

variable {m : ℕ} {e : ℤ}

/-- Rounding gives the nearest double if no bits are missing. -/
theorem roundWithAccuracy (positive : 0 < m) (fine : e ≤ place (m * 2 ^ e)) :
    Worth (packed (UnpackedFloat.roundWithAccuracy Format.binary64 .positive m e .exact))
      (double ((m * 2 ^ e : ℚ) : WithTop ℚ)) := by
  rw [double_coe]
  obtain ⟨result, value⟩ | ⟨n, t, some_bits, result, normal, value⟩ :=
    roundWithAccuracy_spec .positive positive fine
  · rw [result, value, if_pos (by positivity), packed_zero]
    exact .zero _
  · rw [result, value]
    by_cases fits : t ≤ 971
    · rw [if_pos (normal.below fits), packed, unpack_pack_of_fits normal fits]
      exact .finite some_bits normal fits
    · have full : (2 : ℚ) ^ 52 ≤ n := by
        have leading := normal.full.resolve_right (by omega)
        exact_mod_cast leading
      have powers : (2 : ℚ) ^ (972 : ℤ) ≤ 2 ^ t := zpow_le_zpow_right₀ (by norm_num) (by omega)
      have large : (2 : ℚ) ^ 1024 ≤ n * 2 ^ t := by
        calc (2 : ℚ) ^ 1024 = 2 ^ 52 * 2 ^ (972 : ℤ) := (two_pow_split 52 972).symm
          _ ≤ (n : ℚ) * 2 ^ t := mul_le_mul full powers (by positivity) (by positivity)
      rw [if_neg large.not_gt, packed, unpack_pack_of_huge (by omega)]
      exact .infinity

/-- Rounding gives the nearest double. -/
theorem round (positive : 0 < m) : Worth (packed (UnpackedFloat.round Format.binary64 .positive m e))
    (double ((m * 2 ^ e : ℚ) : WithTop ℚ)) := by
  -- The bits that are missing are added first, so that none are when it is rounded.
  have value := decreaseExponent_value m e (place (m * 2 ^ e))
  have some_bits : 0 < (decreaseExponent m e (place (m * 2 ^ e))).1 := by
    rw [decreaseExponent, Nat.shiftLeft_eq]
    positivity
  have fine : (decreaseExponent m e (place (m * 2 ^ e))).2 ≤ place (m * 2 ^ e) := by
    rw [decreaseExponent]
    dsimp only
    omega
  rw [UnpackedFloat.round, target_eq_place positive]
  generalize decreaseExponent m e (place (m * 2 ^ e)) = shifted at *
  rw [← value] at fine ⊢
  exact roundWithAccuracy some_bits fine

theorem normalize (m : ℕ) (e : ℤ) :
    Worth (packed (UnpackedFloat.normalize Format.binary64 m e .positive))
      (double ((m * 2 ^ e : ℚ) : WithTop ℚ)) := by
  obtain rfl | positive := Nat.eq_zero_or_pos m
  · rw [Nat.cast_zero, Nat.cast_zero, zero_mul]
    exact (zero .positive).kept
  · have greater : compare (m : ℤ) 0 = .gt := Int.compare_eq_gt.mpr (by exact_mod_cast positive)
    rw [UnpackedFloat.normalize, greater]
    exact round positive

variable {n : ℕ} {t : ℤ}

/-- The nearest double to a product. -/
theorem mul {p q : ℚ} (left : Worth u p) (right : Worth v q) :
    Worth (packed (UnpackedFloat.mul Format.binary64 u v)) (double ((p * q : ℚ) : WithTop ℚ)) := by
  obtain ⟨sign, rfl, rfl⟩ | ⟨m, e, some_left, rfl, normal, -, rfl⟩ := left.zero_or_finite
  · rw [zero_mul]
    obtain ⟨sign', rfl, rfl⟩ | ⟨n, t, some_right, rfl, -, -, rfl⟩ := right.zero_or_finite
    · exact (zero (sign * sign')).kept
    · have none_left : UnpackedFloat.mul Format.binary64 (.zero sign) (.finite .positive n t some_right) =
          .zero (sign * .positive) := rfl
      rw [none_left]
      exact (zero _).kept
  · obtain ⟨sign', rfl, rfl⟩ | ⟨n, t, some_right, rfl, normal', -, rfl⟩ := right.zero_or_finite
    · have none_left : UnpackedFloat.mul Format.binary64 (.finite .positive m e some_left) (.zero sign') =
          .zero (.positive * sign') := rfl
      rw [mul_zero, none_left]
      exact (zero _).kept
    · have product : (m : ℚ) * 2 ^ e * (n * 2 ^ t) = ((m * n : ℕ) : ℚ) * 2 ^ (e + t) := by
        rw [zpow_add₀ (by norm_num)]
        push_cast
        ring
      have rounds : UnpackedFloat.mul Format.binary64 (.finite .positive m e some_left)
          (.finite .positive n t some_right) =
          UnpackedFloat.roundWithAccuracy Format.binary64 .positive (m * n) (e + t) .exact := rfl
      rw [product, rounds]
      exact roundWithAccuracy (Nat.mul_pos some_left some_right) (product_fine normal normal' some_left some_right)

theorem add_finite (some_left : 0 < m) (some_right : 0 < n) :
    Worth (packed (UnpackedFloat.add Format.binary64 (.finite .positive m e some_left)
        (.finite .positive n t some_right)))
      (double ((m * 2 ^ e + n * 2 ^ t : ℚ) : WithTop ℚ)) := by
  have left := decreaseExponent_aligned (inf_le_left : e ⊓ t ≤ e) m
  have right := decreaseExponent_aligned (inf_le_right : e ⊓ t ≤ t) n
  rw [← left, ← right, ← add_mul, ← Nat.cast_add]
  exact normalize _ _

/-- The nearest double to a sum. -/
theorem add (left : Worth u p) (right : Worth v q) :
    Worth (packed (UnpackedFloat.add Format.binary64 u v)) (double (p + q)) := by
  cases left with
  | zero sign =>
      rw [WithTop.coe_zero, zero_add]
      cases right with
      | zero sign' =>
          cases sign <;> cases sign' <;> exact (zero _).kept
      | finite some_bits normal fits => exact (finite some_bits normal fits).kept
      | infinity => exact infinity.kept
  | finite some_left left fits =>
      cases right with
      | zero sign' =>
          rw [WithTop.coe_zero, add_zero]
          exact (finite some_left left fits).kept
      | finite some_right => exact add_finite some_left some_right
      | infinity => exact infinity.kept
  | infinity =>
      rw [top_add]
      cases right <;> exact infinity.kept

theorem sub_finite (some_left : 0 < m) (some_right : 0 < n) (le : (n : ℚ) * 2 ^ t ≤ m * 2 ^ e) :
    Worth (packed (UnpackedFloat.sub Format.binary64 (.finite .positive m e some_left)
        (.finite .positive n t some_right)))
      (double ((m * 2 ^ e - n * 2 ^ t : ℚ) : WithTop ℚ)) := by
  have left := decreaseExponent_aligned (inf_le_left : e ⊓ t ≤ e) m
  have right := decreaseExponent_aligned (inf_le_right : e ⊓ t ≤ t) n
  rw [← left, ← right] at le
  have less : (decreaseExponent n t (e ⊓ t)).1 ≤ (decreaseExponent m e (e ⊓ t)).1 := by
    exact_mod_cast le_of_mul_le_mul_right le (two_pow_pos _)
  have steps : UnpackedFloat.sub Format.binary64 (.finite .positive m e some_left)
      (.finite .positive n t some_right) =
      UnpackedFloat.normalize Format.binary64
        ((decreaseExponent m e (e ⊓ t)).1 - (decreaseExponent n t (e ⊓ t)).1 : ℤ) (e ⊓ t) .positive := rfl
  rw [← left, ← right, ← sub_mul, ← Nat.cast_sub less, steps, ← Nat.cast_sub less]
  exact normalize _ _

/-- The nearest double to a difference that is not negative. -/
theorem sub {p q : ℚ} (left : Worth u p) (right : Worth v q) (le : q ≤ p) :
    Worth (packed (UnpackedFloat.sub Format.binary64 u v)) (double ((p - q : ℚ) : WithTop ℚ)) := by
  obtain ⟨sign', rfl, rfl⟩ | ⟨n, t, some_right, rfl, -, -, rfl⟩ := right.zero_or_finite
  · rw [sub_zero]
    obtain ⟨sign, rfl, rfl⟩ | ⟨m, e, some_left, rfl, -⟩ := left.zero_or_finite
    · cases sign <;> cases sign' <;> exact (zero _).kept
    · exact left.kept
  · obtain ⟨sign, rfl, rfl⟩ | ⟨m, e, some_left, rfl, -, -, rfl⟩ := left.zero_or_finite
    · exact absurd le (mul_pos (Nat.cast_pos.mpr some_right) (two_pow_pos t)).not_ge
    · exact sub_finite some_left some_right le

theorem isDouble {q : ℚ} (worth : Worth u q) : IsDouble q := by
  obtain ⟨-, -, rfl⟩ | ⟨m, e, -, -, normal, -, rfl⟩ := worth.zero_or_finite
  · exact ⟨0, 0, by norm_num, by norm_num, by rw [Nat.cast_zero, zero_mul]⟩
  · exact ⟨m, e, normal.small, normal.least, rfl⟩

end Worth

section Whole

theorem worth_one : Worth (Float.ofBits 0x3FF0000000000000).toModel.unpack ((1 : ℚ) : WithTop ℚ) := by
  have fields : (Float.ofBits 0x3FF0000000000000).toModel.unpack =
      .finite .positive (2 ^ 52) (-52) (by decide) := rfl
  have one : ((2 ^ 52 : ℕ) * 2 ^ (-52 : ℤ) : ℚ) = 1 := by norm_num
  rw [fields, ← one]
  exact .finite (by decide) ⟨by norm_num, by norm_num, .inl le_rfl⟩ (by norm_num)

variable {n : ℕ}

theorem ofNat_of_small (small : n < 2 ^ 53) :
    Float.ofNat n = n.toUInt64.toFloat * Float.ofBits 0x3FF0000000000000 := by
  have fast : n < 2 ^ 53 ∧ 0 ≤ 22 := ⟨small, by decide⟩
  change Float.ofScientific n false 0 = _
  rw [Float.ofScientific, dif_pos fast]
  rfl

theorem ofNat_of_large (large : ¬ n < 2 ^ 53) :
    (Float.ofNat n).toModel.unpack = packed (UnpackedFloat.ofScientific Format.binary64 n 0) := by
  have slow : ¬ (n < 2 ^ 53 ∧ 0 ≤ 22) := fun fast => large fast.1
  change (Float.ofScientific n false 0).toModel.unpack = _
  rw [Float.ofScientific, dif_neg slow]
  rfl

/-- Whole numbers of at most 53 binary digits are doubles. -/
theorem double_of_small (small : n < 2 ^ 53) : double ((n : ℚ) : WithTop ℚ) = ((n : ℚ) : WithTop ℚ) := by
  have whole : IsDouble (n : ℚ) := ⟨n, 0, small, by norm_num, by rw [zpow_zero, mul_one]⟩
  have below : (n : ℚ) < 2 ^ 1024 := by
    refine lt_of_lt_of_le (b := 2 ^ 53) (by exact_mod_cast small) ?_
    exact pow_le_pow_right₀ (by norm_num) (by norm_num)
  rw [double_coe, whole.rounded_eq, if_pos below]

theorem worth_toFloat (small : n < 2 ^ 53) : Worth n.toUInt64.toFloat.toModel.unpack ((n : ℚ) : WithTop ℚ) := by
  have same : n.toUInt64.toNat = n := Nat.mod_eq_of_lt (by omega)
  have made : n.toUInt64.toFloat.toModel.unpack =
      packed (UnpackedFloat.normalize Format.binary64 (n.toUInt64.toNat : ℤ) 0 .positive) := rfl
  rw [made, same, ← double_of_small small]
  have worth := Worth.normalize n 0
  rwa [zpow_zero, mul_one] at worth

/-- A whole number that is not small is scaled by a power of two, and rounded once. -/
theorem worth_ofScientific (positive : 0 < n) :
    Worth (packed (UnpackedFloat.ofScientific Format.binary64 n 0)) (double ((n : ℚ) : WithTop ℚ)) := by
  have rounds : UnpackedFloat.ofScientific Format.binary64 n 0 =
      UnpackedFloat.roundWithAccuracy Format.binary64 .positive (n <<< 53 * 1) (-53 + 0) .exact := by
    rw [UnpackedFloat.ofScientific, dif_neg positive.ne', if_neg (by norm_num), if_neg (by norm_num), if_pos le_rfl]
    rfl
  have scaled : n <<< 53 * 1 = n * 2 ^ 53 := by rw [Nat.shiftLeft_eq, mul_one]
  have value : ((n * 2 ^ 53 : ℕ) : ℚ) * 2 ^ (-53 + 0 : ℤ) = n := by
    push_cast
    rw [mul_assoc]
    norm_num
  have wide : 0 < n * 2 ^ 53 := Nat.mul_pos positive (by norm_num)
  have digits : 52 ≤ (n * 2 ^ 53).log2 := (Nat.le_log2 wide.ne').mpr (by omega)
  have fine : (-53 + 0 : ℤ) ≤ place (((n * 2 ^ 53 : ℕ) : ℚ) * 2 ^ (-53 + 0 : ℤ)) := by
    rw [place, log_scaled wide]
    omega
  have worth := Worth.roundWithAccuracy wide fine
  rwa [value, ← scaled, ← rounds] at worth

/-- The double of a whole number is the nearest one. -/
theorem worth_ofNat (n : ℕ) : Worth (Float.ofNat n).toModel.unpack (double ((n : ℚ) : WithTop ℚ)) := by
  by_cases small : n < 2 ^ 53
  · have worth := (worth_toFloat small).mul worth_one
    rw [ofNat_of_small small]
    rwa [mul_one] at worth
  · rw [ofNat_of_large small]
    exact worth_ofScientific (by omega)

end Whole

section Lost

/-- Doubles that are infinite or undefined. -/
inductive Lost : UnpackedFloat → Prop where
  | infinity : Lost (.infinity .positive)
  | undefined : Lost .notANumber

variable {q : ℚ}

namespace Lost

theorem packed_undefined : packed .notANumber = .notANumber :=
  unpack_packedNaN

theorem kept (lost : Lost u) : Lost (packed u) := by
  cases lost with
  | infinity => rw [Worth.packed_infinity]; exact .infinity
  | undefined => rw [packed_undefined]; exact .undefined

theorem add (worth : Worth u q) (lost : Lost v) : Lost (packed (UnpackedFloat.add Format.binary64 u v)) := by
  obtain ⟨sign, rfl, -⟩ | ⟨m, e, some_bits, rfl, -⟩ := worth.zero_or_finite <;> cases lost
  · exact infinity.kept
  · exact undefined.kept
  · exact infinity.kept
  · exact undefined.kept

theorem mul (worth : Worth u q) (lost : Lost v) : Lost (packed (UnpackedFloat.mul Format.binary64 u v)) := by
  obtain ⟨sign, rfl, -⟩ | ⟨m, e, some_bits, rfl, -⟩ := worth.zero_or_finite <;> cases lost
  · exact undefined.kept
  · exact undefined.kept
  · exact infinity.kept
  · exact undefined.kept

theorem infinity_mul (worth : Worth u q) :
    Lost (packed (UnpackedFloat.mul Format.binary64 (.infinity .positive) u)) := by
  obtain ⟨sign, rfl, -⟩ | ⟨m, e, some_bits, rfl, -⟩ := worth.zero_or_finite
  · exact undefined.kept
  · exact infinity.kept

theorem infinity_sub (worth : Worth u q) :
    packed (UnpackedFloat.sub Format.binary64 (.infinity .positive) u) = .infinity .positive := by
  obtain ⟨sign, rfl, -⟩ | ⟨m, e, some_bits, rfl, -⟩ := worth.zero_or_finite
  · exact Worth.packed_infinity
  · exact Worth.packed_infinity

end Lost

end Lost

end ObjectStore.Number
