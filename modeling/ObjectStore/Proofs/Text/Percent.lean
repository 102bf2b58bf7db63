import Mathlib.Data.List.Basic
import Mathlib.Data.List.TakeWhile
import ObjectStore.Proofs.Text.Utf8
import ObjectStore.Text.Percent

/-! Percent encoding is undone by reading the escapes, as long as a percent sign is itself escaped. What
encoding writes are characters that need no escape, those that are called safe, and percent signs. -/

namespace ObjectStore.Text.Percent

variable {safe : List Char} {c : Char}

theorem isAscii_of_isUnreserved (unreserved : isUnreserved c = true) : isAscii c = true := by
  have split : c.isAlphanum = (decide (65 ≤ c.val ∧ c.val ≤ 90) ||
      (decide (97 ≤ c.val) && decide (c.val ≤ 122)) || (decide (48 ≤ c.val) && decide (c.val ≤ 57))) := rfl
  simp only [isUnreserved, split, Bool.or_eq_true, beq_iff_eq, Bool.and_eq_true, decide_eq_true_eq,
    UInt32.le_iff_toNat_le] at unreserved
  simp only [isAscii, decide_eq_true_eq]
  obtain ((((((upper | lower) | digit) | rfl) | rfl) | rfl) | rfl) := unreserved
  · exact Nat.lt_of_le_of_lt upper.2 (by decide)
  · exact Nat.lt_of_le_of_lt lower.2 (by decide)
  · exact Nat.lt_of_le_of_lt digit.2 (by decide)
  all_goals decide

theorem upperHex_facts : ∀ n < 16, hexValue? (upperHex n) = some n ∧ isUnreserved (upperHex n) = true := by
  decide

theorem digits_lt (b : UInt8) : b.toNat / 16 < 16 ∧ b.toNat % 16 < 16 := by
  have := b.toNat_lt
  omega

theorem bytes_escapeByte (b : UInt8) (rest : List Char) : bytes (escapeByte b ++ rest) = b :: bytes rest := by
  obtain ⟨high, low⟩ := digits_lt b
  have whole : 16 * (b.toNat / 16) + b.toNat % 16 = b.toNat := Nat.div_add_mod ..
  simp [escapeByte, bytes, (upperHex_facts _ high).1, (upperHex_facts _ low).1, whole]

theorem bytes_plain (plain : c ≠ '%') (rest : List Char) :
    bytes (c :: rest) = UInt8.ofNat c.toNat :: bytes rest := by
  rw [bytes]
  rintro a b more rfl
  exact absurd rfl plain

/-- A byte is written as the character it stands for, or as an escape. -/
theorem encodeByte_cases (safe : List Char) (b : UInt8) :
    (∃ c, encodeByte safe b = [c] ∧ UInt8.ofNat c.toNat = b ∧ isAscii c = true ∧
      (isUnreserved c = true ∨ c ∈ safe)) ∨
    encodeByte safe b = escapeByte b := by
  rw [encodeByte]
  split
  · next written =>
    have valid : b.toNat.isValidChar := .inl (Nat.lt_trans b.toNat_lt (by decide))
    have char : (Char.ofNat b.toNat).toNat = b.toNat := by
      rw [Char.ofNat, dif_pos valid]
      exact UInt32.toNat_ofNatLT
    simp only [Bool.and_eq_true, decide_eq_true_eq, Bool.or_eq_true, List.contains_iff_mem] at written
    refine .inl ⟨_, rfl, ?_, ?_, written.2⟩
    · rw [char, UInt8.ofNat_toNat]
    · rw [isAscii, char, decide_eq_true written.1]
  · exact .inr rfl

theorem encodeByte_chars {b : UInt8} (written : c ∈ encodeByte safe b) :
    isAscii c = true ∧ (isUnreserved c = true ∨ c ∈ safe ∨ c = '%') := by
  obtain ⟨d, same, -, ascii, plain⟩ | same := encodeByte_cases safe b
  · obtain rfl := List.mem_singleton.mp (same ▸ written)
    exact ⟨ascii, plain.imp_right .inl⟩
  · obtain ⟨high, low⟩ := digits_lt b
    have hex := (upperHex_facts _ high).2
    have hex' := (upperHex_facts _ low).2
    rw [same] at written
    simp only [escapeByte, List.mem_cons, List.not_mem_nil, or_false] at written
    obtain rfl | rfl | rfl := written
    · exact ⟨by decide, .inr (.inr rfl)⟩
    · exact ⟨isAscii_of_isUnreserved hex, .inl hex⟩
    · exact ⟨isAscii_of_isUnreserved hex', .inl hex'⟩

theorem encode_chars {s : String} (written : c ∈ (encode safe s).toList) :
    isAscii c = true ∧ (isUnreserved c = true ∨ c ∈ safe ∨ c = '%') := by
  rw [encode, String.toList_ofList] at written
  obtain ⟨b, -, written⟩ := List.mem_flatMap.mp written
  exact encodeByte_chars written

theorem bytes_encode (unsafe_percent : '%' ∉ safe) (bs : List UInt8) :
    bytes (bs.flatMap (encodeByte safe)) = bs := by
  induction bs with
  | nil => rfl
  | cons b rest ih =>
      rw [List.flatMap_cons]
      obtain ⟨c, same, byte, -, plain⟩ | same := encodeByte_cases safe b
      · have other : c ≠ '%' := by
          rintro rfl
          exact plain.elim (by decide) unsafe_percent
        rw [same, List.singleton_append, bytes_plain other, byte, ih]
      · rw [same, bytes_escapeByte, ih]

theorem decodeChars_of_ascii {cs : List Char} (ascii : ∀ c ∈ cs, isAscii c = true) :
    decodeChars cs = Utf8.decodeLossy (bytes cs) := by
  cases cs with
  | nil =>
      rw [decodeChars]
      rfl
  | cons c rest =>
      obtain ⟨first, others⟩ := List.forall_mem_cons.mp ascii
      have nothing : decodeChars [] = [] := by rw [decodeChars]
      rw [decodeChars, if_pos first, List.takeWhile_eq_self_iff.mpr others,
        List.dropWhile_eq_nil_iff.mpr others, nothing, List.append_nil]

/-- Any text survives being encoded and decoded. -/
theorem decodeChars_encode (unsafe_percent : '%' ∉ safe) (s : String) :
    decodeChars (encode safe s).toList = s.toList := by
  rw [decodeChars_of_ascii fun c written => (encode_chars written).1, encode, String.toList_ofList,
    bytes_encode unsafe_percent, Utf8.decodeLossy_encode]

theorem encodeChar_of_ascii (ascii : isAscii c = true) :
    String.utf8EncodeChar c = [UInt8.ofNat c.toNat] := by
  have small : c.val.toNat ≤ 127 := Nat.le_of_lt_succ (of_decide_eq_true ascii)
  rw [String.utf8EncodeChar, if_pos small]
  rfl

theorem bytes_of_plain {cs : List Char} (ascii : ∀ c ∈ cs, isAscii c = true) (plain : '%' ∉ cs) :
    bytes cs = Utf8.encode cs := by
  induction cs with
  | nil => rfl
  | cons c rest ih =>
      obtain ⟨first, others⟩ := List.forall_mem_cons.mp ascii
      obtain ⟨differs, unmarked⟩ := not_or.mp (mt List.mem_cons.mpr plain)
      rw [bytes_plain (Ne.symm differs), ih others unmarked, Utf8.encode, Utf8.encode, List.flatMap_cons,
        encodeChar_of_ascii first, List.singleton_append]

/-- A text without escapes is read as it stands. -/
theorem decodeChars_of_plain (cs : List Char) (plain : '%' ∉ cs) : decodeChars cs = cs := by
  induction cs using decodeChars.induct with
  | case1 => rw [decodeChars]
  | case2 c rest ascii ih =>
      let run := c :: rest.takeWhile isAscii
      have whole : run ++ rest.dropWhile isAscii = c :: rest := by
        simp [run]
      have readable : ∀ d ∈ run, isAscii d = true := by
        intro d member
        rcases List.mem_cons.mp member with same | member
        · exact same ▸ ascii
        · exact List.mem_takeWhile_imp member
      have parts : '%' ∉ run ∧ '%' ∉ rest.dropWhile isAscii := by
        rw [← whole, List.mem_append, not_or] at plain
        exact plain
      rw [decodeChars, if_pos ascii, ih parts.2, bytes_of_plain readable parts.1, Utf8.decodeLossy_encode]
      exact whole
  | case3 c rest beyond ih =>
      rw [decodeChars, if_neg beyond, ih (List.not_mem_of_not_mem_cons plain)]

theorem encodeByte_of_unreserved (safe : List Char) (unreserved : isUnreserved c = true) :
    (String.utf8EncodeChar c).flatMap (encodeByte safe) = [c] := by
  have ascii : c.val.toNat < 128 := of_decide_eq_true (isAscii_of_isUnreserved unreserved)
  have one : String.utf8EncodeChar c = [UInt8.ofNat c.val.toNat] :=
    encodeChar_of_ascii (isAscii_of_isUnreserved unreserved)
  have byte : (UInt8.ofNat c.val.toNat).toNat = c.val.toNat := Utf8.toNat_byte (by omega)
  have char : Char.ofNat c.val.toNat = c := Char.ofNat_toNat c
  simp only [one, List.flatMap_singleton, encodeByte, byte, char, unreserved, ascii, decide_true,
    Bool.true_or, Bool.and_self, if_true]

/-- A text that needs no escape is written as it is. -/
theorem encode_of_unreserved (safe : List Char) {s : String}
    (unreserved : ∀ c ∈ s.toList, isUnreserved c = true) : encode safe s = s := by
  have written : (Utf8.encode s.toList).flatMap (encodeByte safe) = s.toList := by
    rw [Utf8.encode, List.flatMap_assoc]
    calc s.toList.flatMap (fun c => (String.utf8EncodeChar c).flatMap (encodeByte safe))
        = s.toList.flatMap (fun c => [c]) :=
          List.flatMap_congr fun c member => encodeByte_of_unreserved safe (unreserved c member)
      _ = s.toList := List.flatMap_singleton' _
  rw [encode, written, String.ofList_toList]

end ObjectStore.Text.Percent
