/-!
The shortest decimal text that reads back as a given double. The decimals that round to a double
are those of an interval around it; the text is taken from the coarsest decimal grid that has a
point there, and of two such points the nearer one.
-/

namespace ObjectStore.Number

/-- A finite double as `sign * mantissa * 2 ^ exponent`. -/
structure Parts where
  negative : Bool
  mantissa : Nat
  exponent : Int
  /-- The next lower double is half as far away as the next higher one. -/
  lopsided : Bool

/-- The first number that does not fit in the fraction of a double. -/
def fractionBound : Nat := 0x10000000000000

/-- The parts of a double that is neither infinite nor undefined. -/
def parts? (x : Float) : Option Parts :=
  let bits := x.toBits.toNat
  let negative := bits >>> 63 == 1
  let field : Nat := (bits >>> 52) % 2048
  let fraction : Nat := bits % fractionBound
  if field = 2047 then none
  else if field = 0 then some ⟨negative, fraction, -1074, false⟩
  else some ⟨negative, fraction + fractionBound, (field : Int) - (1075 : Int), fraction == 0 && field != 1⟩

/-- A fraction of natural numbers with a positive denominator. -/
structure Ratio where
  num : Nat
  den : Nat

def Ratio.le (a b : Ratio) : Bool :=
  a.num * b.den ≤ b.num * a.den

/-- `n * base ^ e` as a fraction. -/
def scaled (n base : Nat) (e : Int) : Ratio :=
  if 0 ≤ e then ⟨n * Nat.pow base e.toNat, 1⟩ else ⟨n, Nat.pow base (-e).toNat⟩

/-- The interval of a double, in quarters of its last place. -/
structure Interval where
  low : Ratio
  value : Ratio
  high : Ratio
  closed : Bool

def Parts.interval (p : Parts) : Interval where
  low := scaled (4 * p.mantissa - if p.lopsided then 1 else 2) 2 (p.exponent - 2)
  value := scaled (4 * p.mantissa) 2 (p.exponent - 2)
  high := scaled (4 * p.mantissa + 2) 2 (p.exponent - 2)
  closed := p.mantissa % 2 == 0

def Interval.contains (i : Interval) (r : Ratio) : Bool :=
  if i.closed then i.low.le r && r.le i.high else !r.le i.low && !i.high.le r

def digitCount (n : Nat) : Nat :=
  (Nat.toDigits 10 n).length

/-- The power of ten of the first digit of a positive fraction. -/
def Ratio.magnitude (r : Ratio) : Int :=
  if r.den ≤ r.num then (digitCount (r.num / r.den) : Int) - 1
  else
    let n := digitCount (r.den / r.num)
    if r.den = r.num * Nat.pow 10 (n - 1) then -((n : Int) - 1) else -(n : Int)

/-- A decimal `digits * 10 ^ exponent`. -/
structure Decimal where
  digits : Nat
  exponent : Int

def Decimal.ratio (d : Decimal) : Ratio :=
  scaled d.digits 10 d.exponent

/-- The point of a grid that lies in the interval of a double, or the nearer of two. -/
def Interval.onGrid? (i : Interval) (exponent : Int) : Option Decimal :=
  let unit := scaled 1 10 exponent
  let scale := i.value.den * unit.num
  let numerator := i.value.num * unit.den
  let below := numerator / scale
  let lower : Decimal := ⟨below, exponent⟩
  let upper : Decimal := ⟨below + 1, exponent⟩
  match below != 0 && i.contains lower.ratio, i.contains upper.ratio with
  | true, true =>
    let twice := 2 * (numerator % scale)
    if twice < scale || (twice = scale && below % 2 == 0) then some lower else some upper
  | true, false => some lower
  | false, true => some upper
  | false, false => none

/-- Seventeen digits are always enough. -/
def maxDigits : Nat := 17

def Interval.shortest (i : Interval) : Decimal :=
  let top := i.value.magnitude
  ((List.range maxDigits).findSome? fun (n : Nat) => i.onGrid? (top - n)).getD ⟨0, 0⟩

/-- Digits of a decimal without zeros at its end, and the power of ten of the first of them. -/
def Decimal.leading (d : Decimal) : List Char × Int :=
  let cs := Nat.toDigits 10 d.digits
  let kept := (cs.reverse.dropWhile (· == '0')).reverse
  (if kept.isEmpty then ['0'] else kept, d.exponent + cs.length - 1)

/-- How numbers are laid out: powers of ten from `leastPositional` and below `leastScientific` are
written positionally, all others with an exponent of at least two digits. -/
structure Layout where
  leastPositional : Int
  leastScientific : Int

def layout : Layout := ⟨-4, 16⟩

def exponentText (e : Int) : List Char :=
  let digits := Nat.toDigits 10 e.natAbs
  (if e < 0 then '-' else '+') :: (if digits.length < 2 then '0' :: digits else digits)

/-- Writes digits of which the first stands for a power of ten. -/
def Layout.write (l : Layout) (digits : List Char) (power : Int) : List Char :=
  if power < l.leastPositional || l.leastScientific ≤ power then
    let mantissa := match digits with
      | [d] => [d]
      | d :: rest => d :: '.' :: rest
      | [] => []
    mantissa ++ 'e' :: exponentText power
  else if power < 0 then
    '0' :: '.' :: List.replicate ((-power).toNat - 1) '0' ++ digits
  else
    let whole := power.toNat + 1
    if digits.length ≤ whole then
      digits ++ List.replicate (whole - digits.length) '0' ++ ['.', '0']
    else digits.take whole ++ '.' :: digits.drop whole

def floatText (x : Float) : String :=
  match parts? x with
  | none => if x.isNaN then "nan" else if x < 0 then "-inf" else "inf"
  | some p =>
    let body :=
      if p.mantissa = 0 then ['0', '.', '0']
      else
        let (digits, power) := p.interval.shortest.leading
        layout.write digits power
    String.ofList (if p.negative then '-' :: body else body)

end ObjectStore.Number
