import Mathlib.Algebra.Order.Floor.Ring
import Mathlib.Data.Int.Log
import Mathlib.Data.Rat.Floor
import Mathlib.Tactic.FieldSimp
import Mathlib.Tactic.Linarith
import Mathlib.Tactic.Positivity
import Mathlib.Tactic.Ring

/-! Rounding of fractions that are not negative to doubles, as if there were no greatest one. The last
place of a fraction is a power of two that depends on its size only, so rounding is monotone: between two
fractions with different last places there is a power of two, which is a double. -/

namespace ObjectStore.Number

/-- The nearest whole number, and of two that are as near, the even one. -/
def nearest (q : ℚ) : ℤ :=
  if 2 * (q - ⌊q⌋) < 1 then ⌊q⌋ else if 1 < 2 * (q - ⌊q⌋) then ⌊q⌋ + 1 else ⌊q⌋ + ⌊q⌋ % 2

theorem nearest_bounds (q : ℚ) : ⌊q⌋ ≤ nearest q ∧ nearest q ≤ ⌊q⌋ + 1 := by
  unfold nearest
  split
  · omega
  · split <;> omega

theorem nearest_mono {p q : ℚ} (le : p ≤ q) : nearest p ≤ nearest q := by
  obtain equal | less := (Int.floor_mono le).eq_or_lt
  · unfold nearest
    rw [equal]
    split
    · split
      · exact le_rfl
      · split <;> omega
    · next low =>
      have high : ¬ 2 * (q - ⌊q⌋) < 1 := fun high => low (by linarith)
      rw [if_neg high]
      split
      · next upper => rw [if_pos (by linarith)]
      · split <;> omega
  · have upper := (nearest_bounds p).2
    have lower := (nearest_bounds q).1
    omega

theorem nearest_intCast (n : ℤ) : nearest n = n := by
  simp [nearest]

theorem nearest_error (q : ℚ) : q - 1 / 2 ≤ nearest q ∧ nearest q ≤ q + 1 / 2 := by
  have low := Int.floor_le q
  have high := Int.lt_floor_add_one q
  unfold nearest
  split
  · constructor <;> linarith
  · split
    · push_cast
      constructor <;> linarith
    · obtain even | odd := Int.emod_two_eq_zero_or_one ⌊q⌋
      · rw [even, add_zero]
        constructor <;> linarith
      · rw [odd]
        push_cast
        constructor <;> linarith

/-- The power of two that the last place of a fraction stands for. -/
def place (q : ℚ) : ℤ :=
  max (Int.log 2 q - 52) (-1074)

/-- The nearest double. -/
def rounded (q : ℚ) : ℚ :=
  nearest (q / 2 ^ place q) * 2 ^ place q

theorem two_pow_pos (e : ℤ) : (0 : ℚ) < 2 ^ e :=
  zpow_pos (by norm_num) e

/-- What is written with one power of two is written with every lower one. -/
theorem regrid {d e : ℤ} (le : d ≤ e) (n : ℤ) : ∃ k : ℤ, (n : ℚ) * 2 ^ e = k * 2 ^ d := by
  refine ⟨n * 2 ^ (e - d).toNat, ?_⟩
  have split : (2 : ℚ) ^ e = 2 ^ (e - d).toNat * 2 ^ d := by
    rw [← zpow_natCast, Int.toNat_of_nonneg (sub_nonneg.mpr le), ← zpow_add₀ (by norm_num), sub_add_cancel]
  push_cast
  rw [split, mul_assoc]

section Grid

variable {p q : ℚ} {e : ℤ} (coarse : place q ≤ e)
include coarse

/-- What is written without the places below the last one is not passed by rounding. -/
theorem le_rounded {n : ℤ} (le : (n : ℚ) * 2 ^ e ≤ q) : (n : ℚ) * 2 ^ e ≤ rounded q := by
  obtain ⟨k, same⟩ := regrid coarse n
  rw [same] at le ⊢
  have below : (k : ℚ) ≤ q / 2 ^ place q := (le_div_iff₀ (two_pow_pos _)).mpr le
  have rounds := nearest_mono below
  rw [nearest_intCast] at rounds
  exact mul_le_mul_of_nonneg_right (Int.cast_le.mpr rounds) (two_pow_pos _).le

theorem rounded_le {n : ℤ} (le : q ≤ (n : ℚ) * 2 ^ e) : rounded q ≤ (n : ℚ) * 2 ^ e := by
  obtain ⟨k, same⟩ := regrid coarse n
  rw [same] at le ⊢
  have above : q / 2 ^ place q ≤ (k : ℚ) := (div_le_iff₀ (two_pow_pos _)).mpr le
  have rounds := nearest_mono above
  rw [nearest_intCast] at rounds
  exact mul_le_mul_of_nonneg_right (Int.cast_le.mpr rounds) (two_pow_pos _).le

end Grid

theorem rounded_zero : rounded 0 = 0 := by
  have zero : nearest 0 = 0 := nearest_intCast 0
  rw [rounded, zero_div, zero, Int.cast_zero, zero_mul]

theorem rounded_nonneg {q : ℚ} (nonneg : 0 ≤ q) : 0 ≤ rounded q := by
  have least := le_rounded (q := q) le_rfl (n := 0) (by simpa using nonneg)
  simpa using least

/-- Two fractions with different last places have a power of two between them. -/
theorem rounded_mono {p q : ℚ} (nonneg : 0 ≤ p) (le : p ≤ q) : rounded p ≤ rounded q := by
  obtain rfl | positive := nonneg.eq_or_lt
  · rw [rounded_zero]
    exact rounded_nonneg le
  have logs : Int.log 2 p ≤ Int.log 2 q := Int.log_mono_right positive le
  by_cases same : place p = place q
  · rw [rounded, rounded, same]
    have rounds := nearest_mono (div_le_div_of_nonneg_right le (two_pow_pos (place q)).le)
    exact mul_le_mul_of_nonneg_right (Int.cast_le.mpr rounds) (two_pow_pos _).le
  · have apart : Int.log 2 p < Int.log 2 q ∧ place p ≤ Int.log 2 q ∧ place q ≤ Int.log 2 q := by
      unfold place at same ⊢
      omega
    obtain ⟨less, fine, coarse⟩ := apart
    have under : p ≤ ((1 : ℤ) : ℚ) * 2 ^ Int.log 2 q := by
      have below := Int.lt_zpow_succ_log_self (b := 2) (by norm_num) p
      have powers : (2 : ℚ) ^ (Int.log 2 p + 1) ≤ 2 ^ Int.log 2 q :=
        zpow_le_zpow_right₀ (by norm_num) (by omega)
      push_cast at below ⊢
      linarith
    have reached : ((1 : ℤ) : ℚ) * 2 ^ Int.log 2 q ≤ q := by
      have above := Int.zpow_log_le_self (b := 2) (by norm_num) (positive.trans_le le)
      push_cast at above ⊢
      linarith
    exact (rounded_le fine under).trans (le_rounded coarse reached)

/-- A double that is not negative, where there is no greatest one. -/
def IsDouble (v : ℚ) : Prop :=
  ∃ (m : ℕ) (e : ℤ), m < 2 ^ 53 ∧ -1074 ≤ e ∧ v = m * 2 ^ e

/-- Doubles are their own nearest doubles. -/
theorem IsDouble.rounded_eq {v : ℚ} (double : IsDouble v) : rounded v = v := by
  obtain ⟨m, e, small, least, rfl⟩ := double
  obtain rfl | positive := Nat.eq_zero_or_pos m
  · rw [Nat.cast_zero, zero_mul, rounded_zero]
  have below : (m : ℚ) * 2 ^ e < 2 ^ (53 + e) := by
    rw [zpow_add₀ (by norm_num)]
    exact mul_lt_mul_of_pos_right (by exact_mod_cast small) (two_pow_pos e)
  have above : (0 : ℚ) < m * 2 ^ e := mul_pos (Nat.cast_pos.mpr positive) (two_pow_pos e)
  have log : Int.log 2 ((m : ℚ) * 2 ^ e) < 53 + e := (Int.lt_zpow_iff_log_lt (by norm_num) above).mp (by
    exact_mod_cast below)
  have coarse : place ((m : ℚ) * 2 ^ e) ≤ e := by
    unfold place
    omega
  have lower := le_rounded coarse (n := m) le_rfl
  have upper := rounded_le coarse (n := m) le_rfl
  push_cast at lower upper
  exact le_antisymm upper lower

theorem IsDouble.of_int {k e : ℤ} (nonneg : 0 ≤ k) (small : k < 2 ^ 53) (least : -1074 ≤ e) :
    IsDouble (k * 2 ^ e) := by
  obtain ⟨m, rfl⟩ := Int.eq_ofNat_of_zero_le nonneg
  exact ⟨m, e, by exact_mod_cast small, least, by rw [Int.cast_natCast]⟩

/-- Two doubles are a double apart if one is at most twice the other. -/
theorem IsDouble.sub {v w : ℚ} (left : IsDouble v) (right : IsDouble w) (le : w ≤ v) (near : v ≤ 2 * w) :
    IsDouble (v - w) := by
  obtain ⟨m, e, small, least, rfl⟩ := left
  obtain ⟨n, t, small', least', rfl⟩ := right
  -- On the finer grid of the two, the difference is less than the double that is on it.
  obtain fine | fine := le_total e t
  · obtain ⟨k, same⟩ := regrid fine n
    rw [Int.cast_natCast] at same
    rw [same, ← sub_mul]
    have nonneg : (0 : ℚ) ≤ k * 2 ^ e := by
      rw [← same]
      exact mul_nonneg (Nat.cast_nonneg n) (two_pow_pos t).le
    have some_left := nonneg_of_mul_nonneg_left nonneg (two_pow_pos e)
    have below := le_of_mul_le_mul_right (same ▸ le) (two_pow_pos e)
    have whole : (m : ℚ) - k = ((m - k : ℤ) : ℚ) := by push_cast; rfl
    rw [whole]
    have at_least : 0 ≤ k := by exact_mod_cast some_left
    exact .of_int (by exact_mod_cast sub_nonneg.mpr below) (by omega) least
  · obtain ⟨k, same⟩ := regrid fine m
    rw [Int.cast_natCast] at same
    rw [same, ← sub_mul]
    have below := le_of_mul_le_mul_right (same ▸ le) (two_pow_pos t)
    rw [same, ← mul_assoc] at near
    have above := le_of_mul_le_mul_right near (two_pow_pos t)
    have whole : (k : ℚ) - n = ((k - n : ℤ) : ℚ) := by push_cast; rfl
    have bound : k ≤ 2 * n := by exact_mod_cast above
    rw [whole]
    exact .of_int (by exact_mod_cast sub_nonneg.mpr below) (by omega) least'

/-- Above the lowest places rounding changes little. -/
theorem rounded_error {q : ℚ} (normal : 2 ^ (-1022 : ℤ) ≤ q) :
    q - q / 2 ^ 53 ≤ rounded q ∧ rounded q ≤ q + q / 2 ^ 53 := by
  have positive : 0 < q := (two_pow_pos _).trans_le normal
  have wide : -1022 ≤ Int.log 2 q := (Int.zpow_le_iff_le_log (by norm_num) positive).mp (by exact_mod_cast normal)
  have exact : 2 ^ 52 * 2 ^ place q ≤ q := by
    have digits : place q = Int.log 2 q - 52 := max_eq_left (by omega)
    have below := Int.zpow_log_le_self (b := 2) (by norm_num) positive
    have split : (2 : ℚ) ^ 52 * 2 ^ place q = 2 ^ Int.log 2 q := by
      rw [digits, ← zpow_natCast, ← zpow_add₀ (by norm_num)]
      congr 1
      push_cast
      omega
    rw [split]
    exact_mod_cast below
  obtain ⟨low, high⟩ := nearest_error (q / 2 ^ place q)
  have unit := two_pow_pos (place q)
  have whole : q / 2 ^ place q * 2 ^ place q = q := div_mul_cancel₀ q unit.ne'
  have low := mul_le_mul_of_nonneg_right low unit.le
  have high := mul_le_mul_of_nonneg_right high unit.le
  rw [sub_mul, whole] at low
  rw [add_mul, whole] at high
  rw [rounded]
  generalize (nearest (q / 2 ^ place q) : ℚ) * 2 ^ place q = r at *
  generalize (2 : ℚ) ^ place q = u at *
  constructor <;> linarith

end ObjectStore.Number
