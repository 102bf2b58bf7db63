import Mathlib
import ObjectStore.Proofs.Number.Rounding

/-! Doubles and the fractions they stand for. What an operation on doubles computes is a mantissa and an
exponent, which are rounded and packed into a double. -/

namespace ObjectStore.Number

open Float.Model Float.Model.UnpackedFloat

section Mantissas

/-- A mantissa with the two bits behind it, which tell how far it is from a fraction. -/
def Represents (em : ExtendedMantissa) (q : ℚ) : Prop :=
  match em.roundBit, em.stickyBit with
  | false, false => q = em.mantissa
  | false, true => em.mantissa < q ∧ q < em.mantissa + 1 / 2
  | true, false => q = em.mantissa + 1 / 2
  | true, true => em.mantissa + 1 / 2 < q ∧ q < em.mantissa + 1

variable {em : ExtendedMantissa} {q : ℚ}

theorem Represents.floor (represents : Represents em q) : ⌊q⌋ = (em.mantissa : ℤ) := by
  rw [Int.floor_eq_iff]
  obtain ⟨m, round, sticky⟩ := em
  push_cast
  cases round <;> cases sticky <;> simp only [Represents] at represents <;> constructor <;> linarith

theorem Represents.nearest (represents : Represents em q) : (em.roundedMantissa : ℤ) = nearest q := by
  unfold Number.nearest
  rw [represents.floor]
  obtain ⟨m, round, sticky⟩ := em
  push_cast
  cases round <;> cases sticky <;> simp only [Represents] at represents
  · rw [if_pos (by linarith)]
    rfl
  · rw [if_pos (by linarith)]
    rfl
  · rw [if_neg (by linarith), if_neg (by linarith)]
    rfl
  · rw [if_neg (by linarith), if_pos (by linarith)]
    rfl

/-- Halving a mantissa moves its last bit behind it. -/
theorem Represents.half (represents : Represents em q) : Represents em.shiftRightOne (q / 2) := by
  obtain ⟨m, round, sticky⟩ := em
  have parts : (m : ℚ) = 2 * (m / 2 : ℕ) + (m % 2 : ℕ) := by exact_mod_cast (Nat.div_add_mod m 2).symm
  obtain bit | bit := Nat.mod_two_eq_zero_or_one m
  all_goals
    rw [bit] at parts
    push_cast at parts
    cases round <;> cases sticky <;>
      simp [Represents, ExtendedMantissa.shiftRightOne, bit] at represents ⊢ <;>
      first
        | linarith
        | exact ⟨by linarith, by linarith⟩

theorem Represents.shift (represents : Represents em q) (n : ℕ) : Represents (em >>> n) (q / 2 ^ n) := by
  change Represents (n.repeat ExtendedMantissa.shiftRightOne em) _
  induction n with
  | zero => simpa [Nat.repeat] using represents
  | succ n ih =>
      rw [pow_succ, ← div_div]
      exact ih.half

end Mantissas

section Rounding

variable {m : ℕ} {e : ℤ}

theorem log_scaled (positive : 0 < m) (e : ℤ) : Int.log 2 ((m : ℚ) * 2 ^ e) = m.log2 + e := by
  have scaled : (0 : ℚ) < m * 2 ^ e := mul_pos (Nat.cast_pos.mpr positive) (two_pow_pos e)
  have low : (2 : ℚ) ^ m.log2 ≤ m := by exact_mod_cast Nat.log2_self_le positive.ne'
  have high : (m : ℚ) < 2 ^ (m.log2 + 1) := by exact_mod_cast Nat.lt_log2_self
  refine le_antisymm (Int.lt_add_one_iff.mp ?_) ?_
  · refine (Int.lt_zpow_iff_log_lt (by norm_num) scaled).mp ?_
    push_cast
    rw [add_right_comm, zpow_add₀ (by norm_num)]
    exact mul_lt_mul_of_pos_right (by exact_mod_cast high) (two_pow_pos e)
  · refine (Int.zpow_le_iff_le_log (by norm_num) scaled).mp ?_
    push_cast
    rw [zpow_add₀ (by norm_num)]
    exact mul_le_mul_of_nonneg_right (by exact_mod_cast low) (two_pow_pos e).le

/-- The exponent that a mantissa is brought to is the one of the last place. -/
theorem target_eq_place (positive : 0 < m) (e : ℤ) :
    Format.binary64.targetExponent (totalExponent m e) = place (m * 2 ^ e) := by
  rw [place, log_scaled positive]
  simp only [Format.targetExponent, totalExponent, Format.mantissaBits, Format.minExponent]
  norm_num
  omega

theorem target_le {n : ℕ} (small : n < 2 ^ 53) {t : ℤ} (least : -1074 ≤ t) :
    Format.binary64.targetExponent (totalExponent n t) ≤ t := by
  have log : n.log2 ≤ 52 := by
    obtain rfl | positive := Nat.eq_zero_or_pos n
    · decide
    · have below := (Nat.log2_lt positive.ne').mpr small
      omega
  simp only [Format.targetExponent, totalExponent, Format.mantissaBits, Format.minExponent]
  norm_num
  omega

/-- A mantissa that is not wider than its exponent allows is rounded to the last place. -/
theorem rounded_mantissa (positive : 0 < m) (fine : e ≤ place (m * 2 ^ e)) :
    ((shiftToTargetExponent Format.binary64 m e .exact).1.roundedMantissa : ℤ) =
        nearest (m * 2 ^ e / 2 ^ place (m * 2 ^ e)) ∧
      (shiftToTargetExponent Format.binary64 m e .exact).2 = place (m * 2 ^ e) := by
  rw [shiftToTargetExponent, target_eq_place positive, shiftToExponent]
  have shift : e + ((place (m * 2 ^ e) - e).toNat : ℤ) = place (m * 2 ^ e) := by omega
  have whole : Represents (ExtendedMantissa.ofMantissaAndAccuracy m .exact) m := by
    simp [Represents, ExtendedMantissa.ofMantissaAndAccuracy]
  have exact := (whole.shift (place (m * 2 ^ e) - e).toNat).nearest
  refine ⟨exact.trans (congrArg nearest ?_), shift⟩
  rw [div_eq_div_iff (by positivity) (by positivity)]
  rw [mul_assoc, ← zpow_natCast, ← zpow_add₀ (by norm_num), shift]

/-- A mantissa and an exponent as a double has them. -/
structure Normal (m : ℕ) (e : ℤ) : Prop where
  small : m < 2 ^ 53
  least : -1074 ≤ e
  full : 2 ^ 52 ≤ m ∨ e = -1074

/-- Before its last place a fraction has 53 binary digits, unless the place is the lowest one. -/
theorem nearest_place_bounds {q : ℚ} (positive : 0 < q) :
    nearest (q / 2 ^ place q) ≤ 2 ^ 53 ∧ (2 ^ 52 ≤ nearest (q / 2 ^ place q) ∨ place q = -1074) := by
  have high := Int.lt_zpow_succ_log_self (b := 2) (by norm_num) q
  have low := Int.zpow_log_le_self (b := 2) (by norm_num) positive
  push_cast at high low
  constructor
  · have bound : q / 2 ^ place q ≤ ((2 ^ 53 : ℤ) : ℚ) := by
      rw [div_le_iff₀ (two_pow_pos _)]
      have wide : (2 : ℚ) ^ (Int.log 2 q + 1) ≤ 2 ^ (53 + place q) :=
        zpow_le_zpow_right₀ (by norm_num) (by unfold place; omega)
      have split : (2 : ℚ) ^ (53 + place q) = 2 ^ 53 * 2 ^ place q := zpow_add₀ (by norm_num) 53 _
      push_cast
      exact (high.le.trans wide).trans split.le
    exact (nearest_mono bound).trans (nearest_intCast _).le
  · by_cases lowest : place q = -1074
    · exact .inr lowest
    · have bound : ((2 ^ 52 : ℤ) : ℚ) ≤ q / 2 ^ place q := by
        rw [le_div_iff₀ (two_pow_pos _)]
        have wide : (2 : ℚ) ^ (52 + place q) ≤ 2 ^ Int.log 2 q :=
          zpow_le_zpow_right₀ (by norm_num) (by unfold place at lowest ⊢; omega)
        have split : (2 : ℚ) ^ (52 + place q) = 2 ^ 52 * 2 ^ place q := zpow_add₀ (by norm_num) 52 _
        push_cast
        exact (split.ge.trans wide).trans low
      exact .inl ((nearest_intCast _).ge.trans (nearest_mono bound))

/-- A mantissa that fits is left alone by another shift. -/
theorem shift_of_small {n : ℕ} (small : n < 2 ^ 53) {t : ℤ} (least : -1074 ≤ t) :
    shiftToTargetExponent Format.binary64 n t .exact = (⟨n, false, false⟩, t) := by
  have still : (Format.binary64.targetExponent (totalExponent n t) - t).toNat = 0 := by
    have target := target_le small least
    omega
  rw [shiftToTargetExponent, shiftToExponent, still]
  exact Prod.ext rfl (add_zero t)

/-- A mantissa that was rounded up to one digit more is shifted by it. -/
theorem shift_of_carry {t : ℤ} (least : -1074 ≤ t) :
    shiftToTargetExponent Format.binary64 (2 ^ 53) t .exact = (⟨2 ^ 52, false, false⟩, t + 1) := by
  have target : Format.binary64.targetExponent (totalExponent (2 ^ 53) t) = t + 1 := by
    simp only [Format.targetExponent, totalExponent, Nat.log2_two_pow, Format.mantissaBits, Format.minExponent]
    norm_num
    omega
  have one : (t + 1 - t).toNat = 1 := by omega
  rw [shiftToTargetExponent, target, shiftToExponent, one]
  rfl

/-- What is made of a mantissa and an exponent after the last shift. -/
def finished (sign : Sign) (shifted : ExtendedMantissa × ℤ) : UnpackedFloat :=
  if none_left : shifted.1.mantissa = 0 then .zero sign
  else .finite sign shifted.1.mantissa shifted.2 (Nat.pos_of_ne_zero none_left)

/-- Rounding a mantissa and an exponent gives the double that is nearest to what they stand for. -/
theorem roundWithAccuracy_spec (sign : Sign) (positive : 0 < m) (fine : e ≤ place (m * 2 ^ e)) :
    (roundWithAccuracy Format.binary64 sign m e .exact = .zero sign ∧ rounded (m * 2 ^ e) = 0) ∨
      ∃ n t some_bits, roundWithAccuracy Format.binary64 sign m e .exact = .finite sign n t some_bits ∧
        Normal n t ∧ rounded (m * 2 ^ e) = n * 2 ^ t := by
  obtain ⟨mantissa, exponent⟩ := rounded_mantissa positive fine
  have scaled : (0 : ℚ) < m * 2 ^ e := mul_pos (Nat.cast_pos.mpr positive) (two_pow_pos e)
  obtain ⟨most, full⟩ := nearest_place_bounds scaled
  have least : -1074 ≤ place ((m : ℚ) * 2 ^ e) := le_max_right _ _
  rw [← mantissa] at most full
  have value : rounded (m * 2 ^ e) =
      ((shiftToTargetExponent Format.binary64 m e .exact).1.roundedMantissa : ℚ) *
        2 ^ place ((m : ℚ) * 2 ^ e) := by
    rw [rounded, ← mantissa, Int.cast_natCast]
  have steps : roundWithAccuracy Format.binary64 sign m e .exact = finished sign
      (shiftToTargetExponent Format.binary64 (shiftToTargetExponent Format.binary64 m e .exact).1.roundedMantissa
        (shiftToTargetExponent Format.binary64 m e .exact).2 .exact) := rfl
  -- Only the rounded mantissa and the place matter for the second shift.
  rw [steps, exponent]
  generalize (shiftToTargetExponent Format.binary64 m e .exact).1.roundedMantissa = n at *
  generalize place ((m : ℚ) * 2 ^ e) = t at *
  obtain carried | small : n = 2 ^ 53 ∨ n < 2 ^ 53 := by omega
  · rw [carried, shift_of_carry least]
    refine .inr ⟨2 ^ 52, t + 1, by norm_num, rfl, ⟨by norm_num, by omega, .inl le_rfl⟩, ?_⟩
    rw [value, carried, zpow_add₀ (by norm_num)]
    push_cast
    ring
  · rw [shift_of_small small least]
    obtain rfl | some_bits := Nat.eq_zero_or_pos n
    · refine .inl ⟨rfl, ?_⟩
      rw [value, Nat.cast_zero, zero_mul]
    · refine .inr ⟨n, t, some_bits, ?_, ⟨small, least, ?_⟩, value⟩
      · exact dif_neg some_bits.ne'
      · exact full.imp (fun wide => by exact_mod_cast wide) id

/-- Bits that are added behind a mantissa do not change what it stands for. -/
theorem decreaseExponent_value (m : ℕ) (e t : ℤ) :
    ((decreaseExponent m e t).1 : ℚ) * 2 ^ (decreaseExponent m e t).2 = m * 2 ^ e := by
  rw [decreaseExponent]
  dsimp only
  rw [Nat.shiftLeft_eq]
  push_cast
  rw [mul_assoc, ← zpow_natCast, ← zpow_add₀ (by norm_num)]
  congr 2
  omega

theorem decreaseExponent_aligned {t : ℤ} (le : t ≤ e) (m : ℕ) :
    ((decreaseExponent m e t).1 : ℚ) * 2 ^ t = m * 2 ^ e := by
  have lower : (decreaseExponent m e t).2 = t := by
    rw [decreaseExponent]
    dsimp only
    omega
  rw [← decreaseExponent_value m e t, lower]

/-- A product of two mantissas has all the bits that are kept of it. -/
theorem product_fine {n : ℕ} {t : ℤ} (left : Normal m e) (right : Normal n t) (some_left : 0 < m)
    (some_right : 0 < n) : e + t ≤ place (((m * n : ℕ) : ℚ) * 2 ^ (e + t)) := by
  have product := Nat.mul_pos some_left some_right
  rw [place, log_scaled product]
  have wide (full : 2 ^ 52 ≤ m ∨ 2 ^ 52 ≤ n) : 52 ≤ (m * n).log2 := by
    refine (Nat.le_log2 product.ne').mpr ?_
    obtain full | full := full
    · exact full.trans (Nat.le_mul_of_pos_right m some_right)
    · exact full.trans (Nat.le_mul_of_pos_left n some_left)
  obtain full | lowest := left.full
  · have digits := wide (.inl full)
    omega
  · obtain full | lowest' := right.full
    · have digits := wide (.inr full)
      omega
    · omega

end Rounding

section Packing

/-- What the fields of a double stand for. -/
def ofFields (sign : Sign) (field : BitVec 11) (fraction : BitVec 52) : UnpackedFloat :=
  if field = -1#11 then if fraction = 0#52 then .infinity sign else .notANumber
  else if field = 0#11 then
    if some_bits : 0 < fraction.toNat then .finite sign fraction.toNat (-1074) some_bits else .zero sign
  else .finite sign (2 ^ 52 + fraction.toNat) (field.toNat - 1075) (by omega)

theorem toNat_with_leading_bit (fraction : BitVec 52) : (1#1 ++ fraction).toNat = 2 ^ 52 + fraction.toNat := by
  rw [BitVec.toNat_append, ← Nat.shiftLeft_add_eq_or_of_lt fraction.isLt]
  rfl

theorem unpack_packComponents (sign : Sign) (field : BitVec 11) (fraction : BitVec 52) :
    UnpackedFloat.unpack Format.binary64 (packComponents Format.binary64 sign field fraction) =
      ofFields sign field fraction := by
  have some_bits : 0 < fraction.toNat ↔ ¬ fraction = 0#52 := by
    rw [← BitVec.toNat_inj, BitVec.toNat_ofNat]
    omega
  unfold UnpackedFloat.unpack ofFields
  simp only [unpackExponent_packComponents, unpackMantissa_packComponents, unpackSign_packComponents,
    Sign.ofBitVec_toBitVec, some_bits, toNat_with_leading_bit]
  split
  · rfl
  · split
    · next subnormal =>
      subst subnormal
      split <;> rfl
    · rfl

/-- Every double has its fields. -/
theorem exists_fields (x : Float) : ∃ (sign : Sign) (field : BitVec 11) (fraction : BitVec 52),
    x.toModel.unpack = ofFields sign field fraction ∧
      x.toBits.toNat = sign.toBitVec.toNat * 2 ^ 63 + field.toNat * 2 ^ 52 + fraction.toNat := by
  have bits := @packComponents_unpackSign_unpackExponent_unpackMantissa Format.binary64 x.toBits.toBitVec
  generalize Sign.ofBitVec (@unpackSign Format.binary64 x.toBits.toBitVec) = sign at bits
  generalize @unpackExponent Format.binary64 x.toBits.toBitVec = field at bits
  generalize @unpackMantissa Format.binary64 x.toBits.toBitVec = fraction at bits
  refine ⟨sign, field, fraction, ?_, ?_⟩
  · rw [← unpack_packComponents, bits]
    rfl
  · have joined : (sign.toBitVec ++ field ++ fraction).toNat = x.toBits.toNat := congrArg BitVec.toNat bits
    rw [← joined, BitVec.toNat_append, BitVec.toNat_append, ← Nat.shiftLeft_add_eq_or_of_lt fraction.isLt,
      ← Nat.shiftLeft_add_eq_or_of_lt field.isLt, Nat.shiftLeft_eq, Nat.shiftLeft_eq]
    change (sign.toBitVec.toNat * 2 ^ 11 + field.toNat) * 2 ^ 52 + fraction.toNat = _
    ring

section Finite

variable {sign : Sign} {n : ℕ} {t : ℤ} {some_bits : 0 < n}

theorem biased (t : ℤ) :
    t + Format.binary64.exponentBias + Format.binary64.mantissaBitsWithoutImplicit = t + 1075 := by
  simp only [Format.exponentBias]
  norm_num
  omega

theorem unpack_pack_of_huge (beyond : 972 ≤ t) : UnpackedFloat.unpack Format.binary64
    (UnpackedFloat.pack Format.binary64 (.finite sign n t some_bits)) = .infinity sign := by
  have wide : 2 ^ Format.binary64.exponentBits ≤ (t + 1075).toNat + 1 := by
    norm_num
    omega
  have bias := biased t
  rw [UnpackedFloat.pack]
  simp only [bias, if_pos wide]
  rw [packedInfinity]
  exact unpack_packComponents sign (-1#11) 0#52

/-- The leading bit is not kept where the exponent tells that there is one. -/
theorem ofFields_of_leading (leading : 2 ^ 52 ≤ n) (small : n < 2 ^ 53) (least : -1074 ≤ t) (fits : t ≤ 971) :
    ofFields sign (BitVec.ofNat 11 (t + 1075).toNat) (BitVec.ofNat 52 n) = .finite sign n t some_bits := by
  have field : (BitVec.ofNat 11 (t + 1075).toNat).toNat = (t + 1075).toNat := by
    rw [BitVec.toNat_ofNat]
    omega
  have fraction : (BitVec.ofNat 52 n).toNat = n - 2 ^ 52 := by
    rw [BitVec.toNat_ofNat]
    omega
  have finite : ¬ BitVec.ofNat 11 (t + 1075).toNat = -1#11 := by
    rw [← BitVec.toNat_inj, field]
    simp
    omega
  have positive : ¬ BitVec.ofNat 11 (t + 1075).toNat = 0#11 := by
    rw [← BitVec.toNat_inj, field]
    simp
    omega
  rw [ofFields, if_neg finite, if_neg positive]
  congr 1
  · rw [fraction]
    omega
  · rw [field]
    omega

theorem ofFields_of_lowest (small : n < 2 ^ 52) :
    ofFields sign 0#11 (BitVec.ofNat 52 n) = .finite sign n (-1074) some_bits := by
  have fraction : (BitVec.ofNat 52 n).toNat = n := by
    rw [BitVec.toNat_ofNat]
    omega
  rw [ofFields, if_neg (by decide), if_pos rfl, dif_pos (by rw [fraction]; exact some_bits)]
  congr 1

theorem unpack_pack_of_fits (normal : Normal n t) (fits : t ≤ 971) : UnpackedFloat.unpack Format.binary64
    (UnpackedFloat.pack Format.binary64 (.finite sign n t some_bits)) = .finite sign n t some_bits := by
  obtain ⟨small, least, full⟩ := normal
  have narrow : ¬ 2 ^ Format.binary64.exponentBits ≤ (t + 1075).toNat + 1 := by
    norm_num
    omega
  have bias := biased t
  rw [UnpackedFloat.pack]
  simp only [bias, if_neg narrow]
  have digits : n.log2 + 1 = Format.binary64.mantissaBits ↔ 2 ^ 52 ≤ n := by
    rw [Format.mantissaBits, Nat.add_comm, Nat.add_left_cancel_iff, Nat.log2_eq_iff some_bits.ne']
    exact ⟨And.left, fun wide => ⟨wide, small⟩⟩
  by_cases leading : 2 ^ 52 ≤ n
  · rw [if_pos (digits.mpr leading), unpack_packComponents]
    exact ofFields_of_leading leading small least fits
  · obtain rfl := full.resolve_left leading
    rw [if_neg (mt digits.mp leading), unpack_packComponents]
    exact ofFields_of_lowest (not_le.mp leading)

end Finite

end Packing

end ObjectStore.Number
