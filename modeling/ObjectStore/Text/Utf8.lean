/-!
UTF-8 over lists of bytes. Reading is a scan that keeps the character begun so far; a sequence that
breaks off or cannot be continued is one unreadable unit, and the byte that broke it is read afresh.
-/

namespace ObjectStore.Text.Utf8

def encode (cs : List Char) : List UInt8 :=
  cs.flatMap String.utf8EncodeChar

/-- A character of several bytes of which some are still to come. The next of them lies between
`low` and `high`, and any after that between 0x80 and 0xBF. -/
structure Begun where
  value : Nat
  wanted : Nat
  low : Nat
  high : Nat

structure Scan where
  /-- What was read so far, newest first; an unreadable unit is `none`. -/
  done : List (Option Char) := []
  begun : Option Begun := none

def begin? (n : Nat) : Option Begun :=
  if n < 0xC2 then none
  else if n < 0xE0 then some ⟨n - 0xC0, 1, 0x80, 0xBF⟩
  else if n < 0xF0 then
    some ⟨n - 0xE0, 2, if n = 0xE0 then 0xA0 else 0x80, if n = 0xED then 0x9F else 0xBF⟩
  else if n < 0xF5 then
    some ⟨n - 0xF0, 3, if n = 0xF0 then 0x90 else 0x80, if n = 0xF4 then 0x8F else 0xBF⟩
  else none

def Scan.first (s : Scan) (b : UInt8) : Scan :=
  if b.toNat < 0x80 then ⟨some (Char.ofNat b.toNat) :: s.done, none⟩
  else match begin? b.toNat with
    | some begun => ⟨s.done, some begun⟩
    | none => ⟨none :: s.done, none⟩

def Scan.next (s : Scan) (b : UInt8) : Scan :=
  match s.begun with
  | none => s.first b
  | some begun =>
    if begun.low ≤ b.toNat && b.toNat ≤ begun.high then
      let value := begun.value * 64 + (b.toNat - 0x80)
      if begun.wanted = 1 then ⟨some (Char.ofNat value) :: s.done, none⟩
      else ⟨s.done, some ⟨value, begun.wanted - 1, 0x80, 0xBF⟩⟩
    else Scan.first ⟨none :: s.done, none⟩ b

def Scan.finish (s : Scan) : List (Option Char) :=
  (if s.begun.isSome then none :: s.done else s.done).reverse

def units (bs : List UInt8) : List (Option Char) :=
  (bs.foldl Scan.next {}).finish

/-- Reads bytes of which every one belongs to a character. -/
def decode? (bs : List UInt8) : Option (List Char) :=
  let read := units bs
  if read.all Option.isSome then some (read.filterMap id) else none

def replacement : Char := Char.ofNat 0xFFFD

/-- Reads any bytes, an unreadable unit becoming the replacement character. -/
def decodeLossy (bs : List UInt8) : List Char :=
  (units bs).map fun c => c.getD replacement

/-- Bytes without the mark that may open a text. -/
def dropMark : List UInt8 → List UInt8
  | 0xEF :: 0xBB :: 0xBF :: rest => rest
  | bs => bs

end ObjectStore.Text.Utf8
