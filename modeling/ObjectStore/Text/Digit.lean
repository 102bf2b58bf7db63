import ObjectStore.Text.Blank

/-!
Decimal digits of any script and the reading of whole numbers. A number may have a sign, and single
low lines between its digits.
-/

namespace ObjectStore.Text

/-- The zeros of the decimal digit rows; the digits one to nine follow each. -/
def digitZeros : List Nat :=
  [
   0x30, 0x660, 0x6f0, 0x7c0, 0x966, 0x9e6, 0xa66, 0xae6, 0xb66, 0xbe6, 0xc66, 0xce6, 0xd66,
   0xde6, 0xe50, 0xed0, 0xf20, 0x1040, 0x1090, 0x17e0, 0x1810, 0x1946, 0x19d0, 0x1a80, 0x1a90,
   0x1b50, 0x1bb0, 0x1c40, 0x1c50, 0xa620, 0xa8d0, 0xa900, 0xa9d0, 0xa9f0, 0xaa50, 0xabf0, 0xff10,
   0x104a0, 0x10d30, 0x11066, 0x110f0, 0x11136, 0x111d0, 0x112f0, 0x11450, 0x114d0, 0x11650,
   0x116c0, 0x11730, 0x118e0, 0x11950, 0x11c50, 0x11d50, 0x11da0, 0x16a60, 0x16ac0, 0x16b50,
   0x1d7ce, 0x1d7d8, 0x1d7e2, 0x1d7ec, 0x1d7f6, 0x1e140, 0x1e2f0, 0x1e950, 0x1fbf0]

def digitValue? (c : Char) : Option Nat :=
  (digitZeros.find? fun first => first ≤ c.toNat && c.toNat < first + 10).map (c.toNat - ·)

/-- Why a text is no whole number: it is not written like one, or it has too many digits. -/
inductive Misread where
  | malformed
  | tooLong (digits : Nat)

def maxDigits : Nat := 4300

/-- Characters a number is written with once its sign is gone. -/
def isNumeral (c : Char) : Bool :=
  c == '_' || (digitValue? c).isSome

/-- Low lines stand between digits only. -/
def separatesWell : List Char → Bool
  | [] => true
  | ['_'] => false
  | '_' :: '_' :: _ => false
  | _ :: rest => separatesWell rest

/-- Reads a number without sign. What is too long is refused before anything that follows it. -/
def readNat (cs : List Char) : Except Misread Nat :=
  let written := cs.takeWhile isNumeral
  let digits := written.filterMap digitValue?
  if written.head?.all (· == '_') || !separatesWell written then .error .malformed
  else if maxDigits < digits.length then .error (.tooLong digits.length)
  else if written.length < cs.length then .error .malformed
  else .ok (digits.foldl (fun n d => 10 * n + d) 0)

/-- Blanks that may surround a number: all but the separators below the space. -/
def isNumberBlank (c : Char) : Bool :=
  isBlank c && !(0x1C ≤ c.toNat && c.toNat ≤ 0x1F)

/-- Reads a whole number with an optional sign, blanks around it being skipped. -/
def readInt (s : String) : Except Misread Int :=
  match trim isNumberBlank s.toList with
  | '-' :: rest => (readNat rest).map fun n => -(n : Int)
  | '+' :: rest => (readNat rest).map fun n => (n : Int)
  | rest => (readNat rest).map fun n => (n : Int)

end ObjectStore.Text
