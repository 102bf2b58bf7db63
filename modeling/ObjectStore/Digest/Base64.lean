/-!
Base64. Writing pads to groups of four characters. Reading takes only characters of the alphabet
and a padding that completes the last group; a padding sign after a whole group or after its first
character counts for nothing, except that no data may follow it and no text may start with it.
-/

namespace ObjectStore.Digest.Base64

def digit (n : Nat) : Char :=
  if n < 26 then Char.ofNat (65 + n)
  else if n < 52 then Char.ofNat (71 + n)
  else if n < 62 then Char.ofNat (n - 4)
  else if n = 62 then '+'
  else '/'

def digitValue? (c : Char) : Option Nat :=
  if 'A' ≤ c && c ≤ 'Z' then some (c.toNat - 65)
  else if 'a' ≤ c && c ≤ 'z' then some (c.toNat - 71)
  else if '0' ≤ c && c ≤ '9' then some (c.toNat + 4)
  else if c = '+' then some 62
  else if c = '/' then some 63
  else none

def encode : List UInt8 → List Char
  | a :: b :: c :: rest =>
    let n := a.toNat * 65536 + b.toNat * 256 + c.toNat
    digit (n / 262144) :: digit (n / 4096 % 64) :: digit (n / 64 % 64) :: digit (n % 64)
      :: encode rest
  | [a, b] =>
    let n := a.toNat * 256 + b.toNat
    [digit (n / 1024), digit (n / 16 % 64), digit (n % 16 * 4), '=']
  | [a] => [digit (a.toNat / 4), digit (a.toNat % 4 * 16), '=', '=']
  | [] => []

def encodeText (bytes : List UInt8) : String :=
  String.ofList (encode bytes)

structure Group where
  count : Nat
  /-- The bits that make no byte yet. -/
  left : Nat
  pads : Nat
  padded : Bool

/-- Adds six bits; every character but the first of a group completes a byte. -/
def Group.add (g : Group) (n : Nat) : Group × List UInt8 :=
  match g.count with
  | 0 => (⟨1, n, 0, g.padded⟩, [])
  | 1 => (⟨2, n % 16, 0, g.padded⟩, [UInt8.ofNat (g.left * 4 + n / 16)])
  | 2 => (⟨3, n % 4, 0, g.padded⟩, [UInt8.ofNat (g.left * 16 + n / 4)])
  | _ => (⟨0, 0, 0, g.padded⟩, [UInt8.ofNat (g.left * 64 + n)])

/-- `done` holds the bytes read so far, newest first. -/
def decodeFrom (g : Group) (done : List UInt8) : List Char → Option (List UInt8)
  | [] => if g.count = 0 then some done.reverse else none
  | '=' :: rest =>
    if 2 ≤ g.count then
      if 4 ≤ g.count + g.pads + 1 then (if rest.isEmpty then some done.reverse else none)
      else decodeFrom { g with pads := g.pads + 1, padded := true } done rest
    else decodeFrom { g with padded := true } done rest
  | c :: rest =>
    match digitValue? c with
    | none => none
    | some n =>
      if g.padded then none
      else
        let (g, bytes) := g.add n
        decodeFrom g (bytes ++ done) rest

def decode? (cs : List Char) : Option (List UInt8) :=
  if cs.head? = some '=' then none else decodeFrom ⟨0, 0, 0, false⟩ [] cs

end ObjectStore.Digest.Base64
