import ObjectStore.Proofs.Retry.Step

/-! How waits grow with the count of repetitions, as long as one less than the power of two has a double. -/

namespace ObjectStore

namespace Number

section Powers

/-- One less than a power of two, as it is counted. -/
def lessOne (count : ℕ) : ℚ :=
  2 ^ count - 1

theorem lessOne_nonneg (count : ℕ) : 0 ≤ lessOne count :=
  sub_nonneg.mpr (one_le_pow₀ (by norm_num))

theorem lessOne_mono : Monotone lessOne := fun _ _ le =>
  sub_le_sub_right (pow_le_pow_right₀ (by norm_num) le) 1

theorem double_lessOne_of_few {count : ℕ} (few : count < 1024) : double (lessOne count) ≠ ⊤ := by
  have below : lessOne count ≤ 2 ^ 1023 := by
    have powers : (2 : ℚ) ^ count ≤ 2 ^ 1023 := pow_le_pow_right₀ (by norm_num) (by omega)
    exact (sub_le_self _ zero_le_one).trans powers
  rw [double_of_le (lessOne_nonneg count) below double_power_ne_top]
  exact WithTop.coe_ne_top

/-- Between two whole numbers the even one is nearest. -/
theorem nearest_last : nearest (2 ^ 53 - 1 / 2) = 2 ^ 53 := by
  have floor : ⌊(2 ^ 53 - 1 / 2 : ℚ)⌋ = 2 ^ 53 - 1 := by
    rw [Int.floor_eq_iff]
    norm_num
  rw [nearest, floor]
  norm_num

theorem log_lessOne (k : ℕ) : Int.log 2 (lessOne (k + 1)) = k := by
  have one : (1 : ℚ) ≤ 2 ^ k := one_le_pow₀ (by norm_num)
  have twice : lessOne (k + 1) = 2 * 2 ^ k - 1 := by rw [lessOne, pow_succ']
  have positive : 0 < lessOne (k + 1) := by linarith
  have low : (k : ℤ) ≤ Int.log 2 (lessOne (k + 1)) := by
    refine (Int.zpow_le_iff_le_log (by norm_num) positive).mp ?_
    rw [Nat.cast_ofNat, zpow_natCast]
    linarith
  have high : Int.log 2 (lessOne (k + 1)) < k + 1 := by
    refine (Int.lt_zpow_iff_log_lt (by norm_num) positive).mp ?_
    rw [Nat.cast_ofNat, zpow_add_one₀ (by norm_num), zpow_natCast]
    linarith
  omega

theorem place_lessOne : place (lessOne 1024) = 971 := by
  rw [place, log_lessOne 1023]
  rfl

theorem double_lessOne_of_many {count : ℕ} (many : 1024 ≤ count) : double (lessOne count) = ⊤ := by
  have half : (2 : ℚ) ^ 971 = 2 * 2 ^ 970 := pow_succ' 2 970
  have one : (1 : ℚ) ≤ 2 ^ 970 := one_le_pow₀ (by norm_num)
  have split : (2 : ℚ) ^ 1024 = 2 ^ 53 * 2 ^ 971 := pow_add 2 53 971
  have late : (2 ^ 53 - 1 / 2 : ℚ) ≤ lessOne 1024 / 2 ^ (971 : ℤ) := by
    rw [zpow_ofNat, le_div_iff₀ (by positivity), lessOne, split, half]
    generalize (2 : ℚ) ^ 970 = most at one
    norm_num
    linarith
  have carried : (2 : ℚ) ^ 1024 ≤ rounded (lessOne 1024) := by
    have rounds := nearest_mono late
    rw [nearest_last] at rounds
    have scaled : (2 ^ 53 : ℚ) ≤ nearest (lessOne 1024 / 2 ^ (971 : ℤ)) := by exact_mod_cast rounds
    rw [rounded, place_lessOne, split, zpow_ofNat]
    rw [zpow_ofNat] at scaled
    exact mul_le_mul_of_nonneg_right scaled (by positivity)
  have endless : double (lessOne 1024) = ⊤ := by rw [double_coe, if_neg carried.not_gt]
  have least : (0 : WithTop ℚ) ≤ lessOne 1024 := WithTop.coe_nonneg.mpr (lessOne_nonneg 1024)
  exact top_unique (endless.ge.trans (double_mono least (WithTop.coe_le_coe.mpr (lessOne_mono many))))

end Powers

end Number

namespace Retry.Exponential

open Number

/-- Bounds that are numbers, none of them below zero. -/
structure Sound (policy : Exponential) : Prop where
  initial_finite : policy.initialBackoff.isFinite = true
  min_finite : policy.minBackoff.isFinite = true
  max_finite : policy.maxBackoff.isFinite = true
  initial_nonneg : Number.le (.int 0) policy.initialBackoff = true
  min_nonneg : Number.le (.int 0) policy.minBackoff = true

/-- What the bounds amount to. -/
structure Measured (policy : Exponential) (first least most : ℚ) : Prop where
  initial : policy.initialBackoff.Amounts first
  min : policy.minBackoff.Amounts least
  max : policy.maxBackoff.Amounts most
  initial_nonneg : 0 ≤ first
  min_nonneg : 0 ≤ least
  ordered : least ≤ most

variable {policy : Exponential}

theorem Measured.worth_initial {first least most : ℚ} {initial : Float}
    (measured : policy.Measured first least most)
    (starts : policy.initialBackoff.toFloat? = some initial) : ∃ c : ℚ, Worth initial.toModel.unpack c := by
  obtain ⟨finite, x, double, worth⟩ | ⟨-, none_fits⟩ := measured.initial.toFloat? measured.initial_nonneg
  · obtain rfl : x = initial := Option.some_injective _ (double.symm.trans starts)
    rw [double_of_finite finite] at worth
    exact ⟨_, worth⟩
  · rw [none_fits] at starts
    contradiction

theorem Sound.measured (sound : policy.Sound) : ∃ first least most, policy.Measured first least most := by
  obtain ⟨first, initial, initial_nonneg⟩ := amounts_of_finite sound.initial_finite sound.initial_nonneg
  obtain ⟨least, min, min_nonneg⟩ := amounts_of_finite sound.min_finite sound.min_nonneg
  obtain ⟨most, max⟩ | below := amounts_or_below sound.max_finite
  · refine ⟨first, least, most, initial, min, max, initial_nonneg, min_nonneg, ?_⟩
    refine not_lt.mp fun less => ?_
    have refused := (max.lt_iff min).mpr (WithTop.coe_lt_coe.mpr less)
    rw [policy.ordered] at refused
    contradiction
  · have refused := (below min (WithTop.coe_nonneg.mpr min_nonneg)).1
    rw [policy.ordered] at refused
    contradiction

section Waits

variable {first least most s : ℚ} {x : Float} {count : ℕ}

theorem multiple_amounts (count : ℕ) : (multiple count).Amounts (lessOne count) := by
  rw [multiple, if_pos (Int.natCast_nonneg count), Int.toNat_natCast, Nat.pow_eq]
  refine congrArg WithTop.some ?_
  rw [lessOne]
  push_cast
  rfl

/-- What a wait amounts to that is not capped. -/
def grown (least s : ℚ) (count : ℕ) : WithTop ℚ :=
  double (double least + double ((rounded (lessOne count) * s : ℚ) : WithTop ℚ))

theorem grown_zero : grown least s 0 = double (double least) := by
  have none_yet : lessOne 0 = 0 := by rw [lessOne, pow_zero, sub_self]
  rw [grown, none_yet, rounded_zero, zero_mul, double_zero, WithTop.coe_zero, add_zero]

theorem grown_mono (least_nonneg : 0 ≤ least) (nonneg : 0 ≤ s) : Monotone (grown least s) := by
  intro earlier later le
  have powers := rounded_mono (lessOne_nonneg earlier) (lessOne_mono le)
  have products := mul_le_mul_of_nonneg_right powers nonneg
  have start := mul_nonneg (rounded_nonneg (lessOne_nonneg earlier)) nonneg
  have increments := double_mono (WithTop.coe_nonneg.mpr start) (WithTop.coe_le_coe.mpr products)
  have least_double := double_nonneg (WithTop.coe_nonneg.mpr least_nonneg)
  refine double_mono (add_nonneg least_double (double_nonneg (WithTop.coe_nonneg.mpr start))) ?_
  exact add_le_add_right increments _

/-- The doubles that a wait is computed with. -/
theorem factors (measured : policy.Measured first least most) (fits : double least ≠ ⊤) (few : count < 1024) :
    ∃ k m, (multiple count).toFloat? = some k ∧ policy.minBackoff.toFloat? = some m ∧
      Worth k.toModel.unpack (rounded (lessOne count)) ∧ Worth m.toModel.unpack (double least) := by
  obtain ⟨finite, k, power, counted⟩ | ⟨endless, -⟩ :=
    (multiple_amounts count).toFloat? (lessOne_nonneg count)
  · obtain ⟨-, m, min, start⟩ | ⟨endless, -⟩ := measured.min.toFloat? measured.min_nonneg
    · rw [double_of_finite finite] at counted
      exact ⟨k, m, power, min, counted, start⟩
    · exact absurd endless fits
  · exact absurd endless (double_lessOne_of_few few)

/-- A wait is computed if the power of two and the lower bound have doubles. -/
theorem wait_eq (count : ℤ) (x : Float) : policy.wait count (.float x) =
    match (multiple count).toFloat?, policy.minBackoff.toFloat? with
    | some k, some m => .ok (Number.min policy.maxBackoff (.float (m + k * x)))
    | _, _ => .error outOfRange := by
  rw [wait, mul?, lift?_float]
  cases (multiple count).toFloat? with
  | none => rfl
  | some k =>
      simp only [Option.map_some, orOverflow, bind, Except.bind, add?, lift?_float]
      cases policy.minBackoff.toFloat? <;> rfl

theorem wait_ok (measured : policy.Measured first least most) (fits : double least ≠ ⊤) (few : count < 1024)
    (step : Worth x.toModel.unpack s) :
    ∃ wait, policy.wait count (.float x) = .ok wait ∧ wait.Amounts (most ⊓ grown least s count) := by
  obtain ⟨k, m, power, min, counted, start⟩ := factors measured fits few
  rw [wait_eq, power, min]
  exact ⟨_, rfl, measured.max.min (start.add (counted.mul step))⟩

/-- A step that is not finite is waited for as long as can be. -/
theorem wait_ok_of_lost (measured : policy.Measured first least most) (fits : double least ≠ ⊤)
    (few : count < 1024) (step : Lost x.toModel.unpack) : policy.wait count (.float x) = .ok policy.maxBackoff := by
  obtain ⟨k, m, power, min, counted, start⟩ := factors measured fits few
  rw [double_of_finite fits] at start
  have lost : Lost (m + k * x).toModel.unpack := Lost.add start (Lost.mul counted step)
  rw [wait_eq, power, min]
  dsimp only
  rw [Number.min, lost.not_lt measured.max]
  rfl

theorem wait_error_of_many (many : 1024 ≤ count) (x : Float) :
    policy.wait count (.float x) = .error outOfRange := by
  obtain ⟨finite, -⟩ | ⟨-, none_fits⟩ := (multiple_amounts count).toFloat? (lessOne_nonneg count)
  · exact absurd (double_lessOne_of_many many) finite
  · rw [wait_eq, none_fits]

theorem wait_error_of_min (unfit : policy.minBackoff.toFloat? = none) (count : ℤ) (x : Float) :
    policy.wait count (.float x) = .error outOfRange := by
  rw [wait_eq, unfit]
  cases (multiple count).toFloat? <;> rfl

end Waits

end Retry.Exponential

end ObjectStore
