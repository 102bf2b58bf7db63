/-!
Hexadecimal digits, and bytes written as two of them each.
-/

namespace ObjectStore.Text

def hexDigits : Nat → Nat → List Char
  | 0, _ => []
  | width + 1, n => hexDigits width (n / 16) ++ [Nat.digitChar (n % 16)]

def hexValue? (c : Char) : Option Nat :=
  if '0' ≤ c && c ≤ '9' then some (c.toNat - 48)
  else if 'A' ≤ c && c ≤ 'F' then some (c.toNat - 55)
  else if 'a' ≤ c && c ≤ 'f' then some (c.toNat - 87)
  else none

namespace Hex

/-- The number that digits stand for; anything else counts as zero. -/
def toNat (cs : List Char) : Nat :=
  cs.foldl (fun n c => 16 * n + (hexValue? c).getD 0) 0

def toBytes : List Char → List UInt8
  | high :: low :: rest => UInt8.ofNat (toNat [high, low]) :: toBytes rest
  | _ => []

def ofBytes (bytes : List UInt8) : String :=
  String.ofList (bytes.flatMap fun b => hexDigits 2 b.toNat)

end Hex

end ObjectStore.Text
