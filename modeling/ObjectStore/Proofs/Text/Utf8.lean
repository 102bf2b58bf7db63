import Mathlib.Tactic.Common
import ObjectStore.Text.Utf8

/-! Reading the bytes of characters gives the characters back. The bytes of one character take the scan from
between two characters to between two characters. -/

namespace ObjectStore.Text.Utf8

variable {done : List (Option Char)} {begun : Begun} {n : Nat}

theorem toNat_byte (byte : n < 256) : (UInt8.ofNat n).toNat = n :=
  UInt8.toNat_ofNat_of_lt' byte

theorem next_ascii (ascii : n < 0x80) :
    Scan.next ⟨done, none⟩ (UInt8.ofNat n) = ⟨some (Char.ofNat n) :: done, none⟩ := by
  simp only [Scan.next, Scan.first, toNat_byte (Nat.lt_trans ascii (by decide)), if_pos ascii]

theorem next_begins (byte : n < 256) (beyond : 0x80 ≤ n) (begins : begin? n = some begun) :
    Scan.next ⟨done, none⟩ (UInt8.ofNat n) = ⟨done, some begun⟩ := by
  simp only [Scan.next, Scan.first, toNat_byte byte, if_neg (Nat.not_lt.mpr beyond), begins]

section Within

variable (byte : n < 256) (within : begun.low ≤ n ∧ n ≤ begun.high)
include byte within

theorem next_completes (last : begun.wanted = 1) :
    Scan.next ⟨done, some begun⟩ (UInt8.ofNat n) =
      ⟨some (Char.ofNat (begun.value * 64 + (n - 0x80))) :: done, none⟩ := by
  simp [Scan.next, toNat_byte byte, within, last]

theorem next_continues (more : begun.wanted ≠ 1) :
    Scan.next ⟨done, some begun⟩ (UInt8.ofNat n) =
      ⟨done, some ⟨begun.value * 64 + (n - 0x80), begun.wanted - 1, 0x80, 0xBF⟩⟩ := by
  simp [Scan.next, toNat_byte byte, within, more]

end Within

theorem begin_two (low : 0xC2 ≤ n) (high : n < 0xE0) : begin? n = some ⟨n - 0xC0, 1, 0x80, 0xBF⟩ := by
  rw [begin?, if_neg (by omega), if_pos high]

theorem begin_three (low : 0xE0 ≤ n) (high : n < 0xF0) : begin? n =
    some ⟨n - 0xE0, 2, if n = 0xE0 then 0xA0 else 0x80, if n = 0xED then 0x9F else 0xBF⟩ := by
  rw [begin?, if_neg (by omega), if_neg (by omega), if_pos high]

theorem begin_four (low : 0xF0 ≤ n) (high : n < 0xF5) : begin? n =
    some ⟨n - 0xF0, 3, if n = 0xF0 then 0x90 else 0x80, if n = 0xF4 then 0x8F else 0xBF⟩ := by
  rw [begin?, if_neg (by omega), if_neg (by omega), if_neg (by omega), if_pos high]

/-- The bytes of a character are read as this character. The bounds of the second byte hold because a
character is written in as few bytes as possible and is no half of a surrogate pair. -/
theorem scan_char (c : Char) (done : List (Option Char)) :
    (String.utf8EncodeChar c).foldl Scan.next ⟨done, none⟩ = ⟨some c :: done, none⟩ := by
  obtain ⟨v, value⟩ : ∃ v, v = c.val.toNat := ⟨_, rfl⟩
  have scalar : v < 0xD800 ∨ 0xDFFF < v ∧ v < 0x110000 := value ▸ c.valid
  have char : Char.ofNat v = c := value ▸ Char.ofNat_toNat c
  rw [String.utf8EncodeChar, ← value]
  split
  · next one => rw [List.foldl_cons, next_ascii (by omega), char, List.foldl_nil]
  split
  · next beyond two =>
    rw [List.foldl_cons, next_begins (by omega) (by omega) (begin_two (by omega) (by omega)),
      List.foldl_cons, next_completes (by omega) (by dsimp only; omega) rfl, List.foldl_nil]
    have read : (v / 64 % 32 + 192 - 0xC0) * 64 + (v % 64 + 128 - 0x80) = v := by omega
    dsimp only
    rw [read, char]
  split
  · next beyond three =>
    rw [List.foldl_cons, next_begins (by omega) (by omega) (begin_three (by omega) (by omega)),
      List.foldl_cons, next_continues (by omega) (by dsimp only; split <;> split <;> omega) (by simp),
      List.foldl_cons, next_completes (by omega) (by dsimp only; omega) rfl, List.foldl_nil]
    have read : ((v / 4096 % 16 + 224 - 0xE0) * 64 + (v / 64 % 64 + 128 - 0x80)) * 64 +
        (v % 64 + 128 - 0x80) = v := by omega
    dsimp only
    rw [read, char]
  · next beyond =>
    rw [List.foldl_cons, next_begins (by omega) (by omega) (begin_four (by omega) (by omega)),
      List.foldl_cons, next_continues (by omega) (by dsimp only; split <;> split <;> omega) (by simp),
      List.foldl_cons, next_continues (by omega) (by dsimp only; omega) (by simp),
      List.foldl_cons, next_completes (by omega) (by dsimp only; omega) rfl, List.foldl_nil]
    have read : (((v / 262144 % 8 + 240 - 0xF0) * 64 + (v / 4096 % 64 + 128 - 0x80)) * 64 +
        (v / 64 % 64 + 128 - 0x80)) * 64 + (v % 64 + 128 - 0x80) = v := by omega
    dsimp only
    rw [read, char]

theorem scan_encode (cs : List Char) (done : List (Option Char)) :
    (encode cs).foldl Scan.next ⟨done, none⟩ = ⟨(cs.map some).reverse ++ done, none⟩ := by
  induction cs generalizing done with
  | nil => rfl
  | cons c rest ih =>
      rw [encode, List.flatMap_cons, List.foldl_append, scan_char, ← encode, ih]
      simp

theorem units_encode (cs : List Char) : units (encode cs) = cs.map some := by
  rw [units, scan_encode]
  simp [Scan.finish]

/-- Characters survive being written as bytes and read back. -/
theorem decodeLossy_encode (cs : List Char) : decodeLossy (encode cs) = cs := by
  simp [decodeLossy, units_encode, Function.comp_def]

/-- All of the bytes belong to characters. -/
theorem decode_encode (cs : List Char) : decode? (encode cs) = some cs := by
  simp [decode?, units_encode]

end ObjectStore.Text.Utf8
