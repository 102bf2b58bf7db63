import Mathlib.Data.List.Count
import ObjectStore.Proofs.Request.PathEncoding

/-! Which paths are sent as they are. A path is encoded character by character; a plain character stays,
and any other leaves an escape. -/

namespace ObjectStore.Path

/-- What a character becomes in a path that is sent. -/
def encodeChar (c : Char) : List Char :=
  (String.utf8EncodeChar c).flatMap (Text.Percent.encodeByte safe)

theorem toList_encode (path : String) : (encode path).toList = path.toList.flatMap encodeChar := by
  rw [encode, Text.Percent.encode, String.toList_ofList, Text.Utf8.encode, List.flatMap_assoc]
  rfl

theorem isAscii_of_isPlain {c : Char} (plain : isPlain c = true) : Text.Percent.isAscii c = true := by
  rcases isPlain_iff.mp plain with unreserved | member
  · exact Text.Percent.isAscii_of_isUnreserved unreserved
  · have ascii : ∀ d ∈ safe, Text.Percent.isAscii d = true :=
      List.forall_iff_forall_mem.mp (by decide)
    exact ascii c member

theorem encodeChar_of_isPlain {c : Char} (plain : isPlain c = true) : encodeChar c = [c] := by
  have ascii := isAscii_of_isPlain plain
  have small : c.toNat < 128 := of_decide_eq_true ascii
  have byte : (UInt8.ofNat c.toNat).toNat = c.toNat := Text.Utf8.toNat_byte (by omega)
  have written : (Text.Percent.isUnreserved c || safe.contains c) = true := by
    rw [Bool.or_eq_true, List.contains_iff_mem]
    exact isPlain_iff.mp plain
  rw [encodeChar, Text.Percent.encodeChar_of_ascii ascii, List.flatMap_singleton, Text.Percent.encodeByte, byte,
    Char.ofNat_toNat]
  rw [written, decide_eq_true small]
  rfl

theorem isPlain_of_mem_encodeChar {c d : Char} (member : d ∈ encodeChar c) : isPlain d = true ∨ d = '%' := by
  obtain ⟨b, -, written⟩ := List.mem_flatMap.mp member
  exact (written_encodeByte b).chars d written

/-- A character that is not plain leaves an escape: without one, the text would be read as it stands. -/
theorem percent_mem_encodeChar {c : Char} (other : isPlain c = false) : '%' ∈ encodeChar c := by
  by_contra unmarked
  have plain : ∀ d ∈ encodeChar c, isPlain d = true := by
    intro d member
    rcases isPlain_of_mem_encodeChar member with plain | rfl
    · exact plain
    · exact absurd member unmarked
  have read : Text.Utf8.encode (encodeChar c) = Text.Utf8.encode [c] := by
    rw [← Text.Percent.bytes_of_plain (fun d member => isAscii_of_isPlain (plain d member)) unmarked, encodeChar,
      Text.Percent.bytes_encode percent_notMem_safe, Text.Utf8.encode, List.flatMap_singleton]
  have same : encodeChar c = [c] :=
    Option.some.inj (by rw [← Text.Utf8.decode_encode, read, Text.Utf8.decode_encode])
  rw [plain c (by simp [same])] at other
  contradiction

theorem beq_percent {c : Char} (plain : isPlain c = true) : (c == '%') = false := by
  rw [beq_eq_false_iff_ne]
  rintro rfl
  contradiction

theorem encode_of_isPlain {cs : List Char} (plain : ∀ c ∈ cs, isPlain c = true) : cs.flatMap encodeChar = cs :=
  calc cs.flatMap encodeChar = cs.flatMap (fun c => [c]) :=
        List.flatMap_congr fun c member => encodeChar_of_isPlain (plain c member)
    _ = cs := List.flatMap_singleton' cs

/-- Encoding never takes away a percent sign, and brings in one for each other character that is not plain. -/
theorem count_percent (cs : List Char) : cs.count '%' ≤ (cs.flatMap encodeChar).count '%' ∧
    ((cs.flatMap encodeChar).count '%' = cs.count '%' → ∀ c ∈ cs, isPlain c = true ∨ c = '%') := by
  induction cs with
  | nil => simp
  | cons c rest ih =>
      obtain ⟨fewer, settled⟩ := ih
      rw [List.flatMap_cons, List.count_append, List.count_cons, List.forall_mem_cons]
      cases plain : isPlain c with
      | true =>
          rw [encodeChar_of_isPlain plain, beq_percent plain, List.count_singleton, beq_percent plain,
            if_neg Bool.false_ne_true]
          exact ⟨by omega, fun same => ⟨.inl rfl, settled (by omega)⟩⟩
      | false =>
          have some := List.count_pos_iff.mpr (percent_mem_encodeChar plain)
          by_cases percent : c = '%'
          · subst percent
            have one : (encodeChar '%').count '%' = 1 := by decide
            rw [one, if_pos (by decide)]
            exact ⟨by omega, fun same => ⟨.inr rfl, settled (by omega)⟩⟩
          · rw [if_neg (by simpa using percent)]
            exact ⟨by omega, fun same => by omega⟩

/-- Each percent sign that is escaped brings in a digit five. -/
theorem count_five {cs : List Char} (known : ∀ c ∈ cs, isPlain c = true ∨ c = '%') :
    (cs.flatMap encodeChar).count '5' = cs.count '5' + cs.count '%' := by
  induction cs with
  | nil => rfl
  | cons c rest ih =>
      obtain ⟨first, others⟩ := List.forall_mem_cons.mp known
      rw [List.flatMap_cons, List.count_append, ih others, List.count_cons, List.count_cons]
      rcases first with plain | rfl
      · rw [encodeChar_of_isPlain plain, beq_percent plain, List.count_singleton, if_neg Bool.false_ne_true]
        omega
      · have one : (encodeChar '%').count '5' = 1 := by decide
        rw [one, if_neg (by decide), if_pos (by decide)]
        omega

/-- Encoding keeps the number of percent signs and of fives only where all is plain. -/
theorem isPlain_of_counts {cs : List Char} (percents : (cs.flatMap encodeChar).count '%' = cs.count '%')
    (fives : (cs.flatMap encodeChar).count '5' = cs.count '5') : ∀ c ∈ cs, isPlain c = true := by
  have known := (count_percent cs).2 percents
  have none : cs.count '%' = 0 := by
    have := count_five known
    omega
  intro c member
  rcases known c member with plain | rfl
  · exact plain
  · exact absurd member (List.count_eq_zero.mp none)

/-- A text that is what another becomes, but for slashes that were left out of it, is that other text, and
all of it is plain. -/
theorem isPlain_of_encode_eq {base path : List Char} {slashes : Nat}
    (same : base ++ List.replicate slashes '/' ++ path = (base ++ path).flatMap encodeChar) :
    slashes = 0 ∧ ∀ c ∈ base ++ path, isPlain c = true := by
  have counts : ∀ c, c ≠ '/' → ((base ++ path).flatMap encodeChar).count c = (base ++ path).count c := by
    intro c differs
    rw [← same]
    simp [List.count_replicate, differs.symm]
  have plain := isPlain_of_counts (counts '%' (by decide)) (counts '5' (by decide))
  rw [encode_of_isPlain plain] at same
  have long := congrArg List.length same
  simp only [List.length_append, List.length_replicate] at long
  exact ⟨by omega, plain⟩

end ObjectStore.Path
