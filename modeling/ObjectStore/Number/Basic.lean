import ObjectStore.Number.Shortest

/-!
Numbers that are whole or doubles. An operation on two whole numbers is exact; with a double it is
done in doubles, and a whole number beyond their range has no double. Comparison is always exact.
-/

namespace ObjectStore

inductive Number where
  | int (n : Int)
  | float (x : Float)

namespace Number

instance : Inhabited Number := ⟨.int 0⟩

instance : Coe Int Number := ⟨.int⟩

/-- The nearest double, if it is finite. -/
def ofInt? (n : Int) : Option Float :=
  let x := Float.ofInt n
  if x.isFinite then some x else none

def toFloat? : Number → Option Float
  | .int n => ofInt? n
  | .float x => some x

/-- The nearest double; beyond the range of doubles it is infinite. -/
def toFloat : Number → Float
  | .int n => Float.ofInt n
  | .float x => x

/-- An operation, or nothing where a whole number has no double. -/
def lift? (exact : Int → Int → Int) (rounded : Float → Float → Float) :
    Number → Number → Option Number
  | .int a, .int b => some (.int (exact a b))
  | a, b => do some (.float (rounded (← a.toFloat?) (← b.toFloat?)))

def add? : Number → Number → Option Number := lift? (· + ·) (· + ·)

def sub? : Number → Number → Option Number := lift? (· - ·) (· - ·)

def mul? : Number → Number → Option Number := lift? (· * ·) (· * ·)

/-- How a whole number compares with a double that is a number. -/
def compareInt (n : Int) (x : Float) : Ordering :=
  match parts? x with
  | none => if x < 0 then .gt else .lt
  | some p =>
    let m : Int := if p.negative then -p.mantissa else p.mantissa
    if 0 ≤ p.exponent then compare n (m * Nat.pow 2 p.exponent.toNat)
    else compare (n * Nat.pow 2 (-p.exponent).toNat) m

/-- The order of two numbers, of which neither is undefined. -/
def compare? : Number → Number → Option Ordering
  | .int a, .int b => some (compare a b)
  | .int a, .float y => if y.isNaN then none else some (compareInt a y)
  | .float x, .int b => if x.isNaN then none else some (compareInt b x).swap
  | .float x, .float y =>
    if x < y then some .lt else if y < x then some .gt else if x == y then some .eq else none

def lt (a b : Number) : Bool :=
  a.compare? b == some .lt

def le (a b : Number) : Bool :=
  match a.compare? b with
  | some .lt | some .eq => true
  | _ => false

/-- The first of two numbers unless the second is less. -/
def min (a b : Number) : Number :=
  if b.lt a then b else a

def text : Number → String
  | .int n => toString n
  | .float x => floatText x

/-- The whole part of a finite double, towards zero. -/
def truncate? (x : Float) : Option Int :=
  (parts? x).map fun p =>
    let n : Nat := if 0 ≤ p.exponent then p.mantissa * Nat.pow 2 p.exponent.toNat
      else p.mantissa / Nat.pow 2 (-p.exponent).toNat
    if p.negative then -(n : Int) else (n : Int)

end Number

end ObjectStore
