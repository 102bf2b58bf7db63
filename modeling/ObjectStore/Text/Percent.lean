import ObjectStore.Text.Hex
import ObjectStore.Text.Utf8

/-!
Percent encoding. Every byte of the UTF-8 form of a text is written as it is or as an escape;
reading takes escapes for bytes wherever they stand.
-/

namespace ObjectStore.Text.Percent

/-- Characters that need no escape anywhere. -/
def isUnreserved (c : Char) : Bool :=
  c.isAlphanum || c == '_' || c == '.' || c == '-' || c == '~'

def upperHex (n : Nat) : Char :=
  (Nat.digitChar n).toUpper

def escapeByte (b : UInt8) : List Char :=
  ['%', upperHex (b.toNat / 16), upperHex (b.toNat % 16)]

/-- `safe` are the characters written as they are in addition to the unreserved ones. -/
def encodeByte (safe : List Char) (b : UInt8) : List Char :=
  let c := Char.ofNat b.toNat
  if b.toNat < 128 && (isUnreserved c || safe.contains c) then [c] else escapeByte b

def encode (safe : List Char) (s : String) : String :=
  String.ofList ((Utf8.encode s.toList).flatMap (encodeByte safe))

/-- The bytes of text that holds only ASCII characters. A percent sign without two digits after it
stands for itself. -/
def bytes : List Char → List UInt8
  | '%' :: a :: b :: rest =>
    match hexValue? a, hexValue? b with
    | some high, some low => UInt8.ofNat (16 * high + low) :: bytes rest
    | _, _ => 0x25 :: bytes (a :: b :: rest)
  | c :: rest => UInt8.ofNat c.toNat :: bytes rest
  | [] => []

def isAscii (c : Char) : Bool :=
  c.toNat < 128

/-- Reads the escapes of a text. Characters beyond ASCII stand for themselves and end the run of
bytes that is read as UTF-8. -/
def decodeChars (cs : List Char) : List Char :=
  match cs with
  | [] => []
  | c :: rest =>
    if isAscii c then
      Utf8.decodeLossy (bytes (c :: rest.takeWhile isAscii)) ++ decodeChars (rest.dropWhile isAscii)
    else c :: decodeChars rest
termination_by cs.length
decreasing_by
  · have := (List.dropWhile_sublist (l := rest) isAscii).length_le
    simp only [List.length_cons]
    omega
  · simp

def decode (s : String) : String :=
  String.ofList (decodeChars s.toList)

end ObjectStore.Text.Percent
