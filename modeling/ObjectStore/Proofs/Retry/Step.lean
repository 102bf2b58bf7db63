import ObjectStore.Proofs.Number.Comparison
import ObjectStore.Retry.Backoff

/-! Steps of waits that grow. A step is drawn between eight and twelve tenths of the first one; it is
finite unless the twelve tenths are not. -/

namespace ObjectStore

namespace Retry.Exponential

open Number Float.Model

section Share

/-- Eight tenths and twelve tenths, as doubles have them. -/
def lower : ℚ :=
  7205759403792794 * 2 ^ (-53 : ℤ)

def upper : ℚ :=
  5404319552844595 * 2 ^ (-52 : ℤ)

theorem worth_lower : Worth (0.8 : Float).toModel.unpack lower := by
  have fields : (0.8 : Float).toModel.unpack = .finite .positive 7205759403792794 (-53) (by decide) := rfl
  rw [fields]
  exact .finite _ ⟨by norm_num, by norm_num, .inl (by norm_num)⟩ (by norm_num)

theorem worth_upper : Worth (1.2 : Float).toModel.unpack upper := by
  have fields : (1.2 : Float).toModel.unpack = .finite .positive 5404319552844595 (-52) (by decide) := rfl
  rw [fields]
  exact .finite _ ⟨by norm_num, by norm_num, .inl (by norm_num)⟩ (by norm_num)

/-- The double of a step, for the double of the first one. -/
def stride (initial fraction : Float) : Float :=
  0.8 * initial + (1.2 * initial - 0.8 * initial) * fraction

theorem share_eq (factor : Float) (n : Number) : share factor n =
    match n.toFloat? with
    | some x => .ok (factor * x)
    | none => .error outOfRange := by
  rw [share, mul?, float_lift?]
  cases n.toFloat? <;> rfl

variable {policy : Exponential} {initial : Float}

theorem step_ok (fits : policy.initialBackoff.toFloat? = some initial) (fraction : Float) :
    policy.step fraction = .ok (.float (stride initial fraction)) := by
  rw [step, share_eq, share_eq, fits]
  rfl

theorem step_error (unfit : policy.initialBackoff.toFloat? = none) (fraction : Float) :
    policy.step fraction = .error outOfRange := by
  rw [step, share_eq, unfit]
  rfl

end Share

section Stride

variable {initial fraction : Float} {c r : ℚ}

theorem lower_le (nonneg : 0 ≤ c) : lower * c ≤ c :=
  mul_le_of_le_one_left nonneg (by norm_num [lower])

theorem lower_nonneg (nonneg : 0 ≤ c) : 0 ≤ lower * c :=
  mul_nonneg (by norm_num [lower]) nonneg

theorem worth_low (worth : Worth initial.toModel.unpack c) :
    Worth (0.8 * initial).toModel.unpack (rounded (lower * c)) := by
  have nonneg : 0 ≤ c := WithTop.coe_nonneg.mp worth.nonneg
  have low := worth_lower.mul worth
  rwa [double_of_le (lower_nonneg nonneg) (lower_le nonneg) worth.double_ne_top] at low

theorem lost_of_overflow (worth : Worth initial.toModel.unpack c) (unit : Worth fraction.toModel.unpack r)
    (overflow : ¬ (1.2 * initial).isFinite = true) : Lost (stride initial fraction).toModel.unpack := by
  have high : Worth (1.2 * initial).toModel.unpack (double ((upper * c : ℚ) : WithTop ℚ)) := worth_upper.mul worth
  have endless : (1.2 * initial).toModel.unpack = .infinity .positive :=
    high.eq_infinity (by_contra fun finite => overflow (high.isFinite_iff.mpr finite))
  have apart : (1.2 * initial - 0.8 * initial).toModel.unpack = .infinity .positive := by
    change packed (UnpackedFloat.sub _ (1.2 * initial).toModel.unpack _) = _
    rw [endless]
    exact Lost.infinity_sub (worth_low worth)
  have product : Lost ((1.2 * initial - 0.8 * initial) * fraction).toModel.unpack := by
    change Lost (packed (UnpackedFloat.mul _ (1.2 * initial - 0.8 * initial).toModel.unpack _))
    rw [apart]
    exact Lost.infinity_mul unit
  exact Lost.add (worth_low worth) product

/-- Eight tenths are at least half of twelve, but for the lowest places. -/
theorem twice_lower (large : 1 ≤ c) : rounded (upper * c) ≤ 2 * rounded (lower * c) := by
  have least : (2 : ℚ) ^ (-1022 : ℤ) ≤ 1 / 2 := by
    have powers : (2 : ℚ) ^ (-1022 : ℤ) ≤ 2 ^ (-1 : ℤ) := zpow_le_zpow_right₀ (by norm_num) (by norm_num)
    exact powers.trans (by norm_num)
  have low : 1 / 2 ≤ lower * c := by
    norm_num [lower]
    linarith
  have high : 1 / 2 ≤ upper * c := by
    norm_num [upper]
    linarith
  have above := (rounded_error (least.trans low)).1
  have below := (rounded_error (least.trans high)).2
  norm_num [lower, upper] at above below ⊢
  linarith

theorem worth_high (worth : Worth initial.toModel.unpack c) (finite : (1.2 * initial).isFinite = true) :
    Worth (1.2 * initial).toModel.unpack (rounded (upper * c)) := by
  have high : Worth (1.2 * initial).toModel.unpack (double ((upper * c : ℚ) : WithTop ℚ)) := worth_upper.mul worth
  rwa [double_of_finite (high.isFinite_iff.mp finite)] at high

theorem low_le_high (nonneg : 0 ≤ c) : rounded (lower * c) ≤ rounded (upper * c) := by
  have order : lower ≤ upper := by norm_num [lower, upper]
  exact rounded_mono (lower_nonneg nonneg) (mul_le_mul_of_nonneg_right order nonneg)

/-- The two parts of a step make the twelve tenths together, or they are small. -/
theorem sum_fits (worth : Worth initial.toModel.unpack c) (finite : (1.2 * initial).isFinite = true) :
    double ((rounded (lower * c) + rounded (rounded (upper * c) - rounded (lower * c)) : ℚ) : WithTop ℚ) ≠
      ⊤ := by
  have nonneg : 0 ≤ c := WithTop.coe_nonneg.mp worth.nonneg
  have low := worth_low worth
  have high := worth_high worth finite
  have order := low_le_high nonneg
  by_cases large : 1 ≤ c
  · have apart := high.isDouble.sub low.isDouble order (twice_lower large)
    rw [apart.rounded_eq, add_sub_cancel]
    exact high.double_ne_top
  · have two : IsDouble 2 := ⟨2, 0, by norm_num, by norm_num, by norm_num⟩
    have low_nonneg := rounded_nonneg (lower_nonneg nonneg)
    have most : rounded (upper * c) ≤ 2 := by
      rw [← two.rounded_eq]
      refine rounded_mono (mul_nonneg (by norm_num [upper]) nonneg) ?_
      norm_num [upper]
      linarith
    have apart : rounded (rounded (upper * c) - rounded (lower * c)) ≤ 2 := by
      rw [← two.rounded_eq]
      exact rounded_mono (sub_nonneg.mpr order) (by linarith)
    have room : (4 : ℚ) ≤ 2 ^ 1023 := by
      calc (4 : ℚ) = 2 ^ 2 := by norm_num
        _ ≤ 2 ^ 1023 := pow_le_pow_right₀ (by norm_num) (by norm_num)
    have sum_nonneg := add_nonneg low_nonneg (rounded_nonneg (sub_nonneg.mpr order))
    have sum_le : rounded (lower * c) + rounded (rounded (upper * c) - rounded (lower * c)) ≤ 4 := by linarith
    rw [double_of_le sum_nonneg (sum_le.trans room) double_power_ne_top]
    exact WithTop.coe_ne_top

/-- A step is finite if the twelve tenths are. -/
theorem worth_of_finite (worth : Worth initial.toModel.unpack c) (unit : Worth fraction.toModel.unpack r)
    (le_one : r ≤ 1) (finite : (1.2 * initial).isFinite = true) :
    ∃ s : ℚ, Worth (stride initial fraction).toModel.unpack s := by
  have nonneg : 0 ≤ c := WithTop.coe_nonneg.mp worth.nonneg
  have low := worth_low worth
  have high := worth_high worth finite
  have order := low_le_high nonneg
  have low_nonneg := rounded_nonneg (lower_nonneg nonneg)
  have apart := high.sub low order
  rw [double_of_le (sub_nonneg.mpr order) (sub_le_self _ low_nonneg) high.double_ne_top] at apart
  have apart_nonneg := rounded_nonneg (sub_nonneg.mpr order)
  have product := apart.mul unit
  have share_le := mul_le_of_le_one_right apart_nonneg le_one
  have share_nonneg := mul_nonneg apart_nonneg (WithTop.coe_nonneg.mp unit.nonneg)
  rw [double_of_le share_nonneg share_le apart.double_ne_top] at product
  have part_le := rounded_mono share_nonneg share_le
  rw [apart.isDouble.rounded_eq] at part_le
  have sum := low.add product
  rw [← WithTop.coe_add, double_of_le (add_nonneg low_nonneg (rounded_nonneg share_nonneg))
    (add_le_add_right part_le _) (sum_fits worth finite)] at sum
  exact ⟨_, sum⟩

end Stride

end Retry.Exponential

end ObjectStore
