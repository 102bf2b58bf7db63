import ObjectStore.Text.Split
import ObjectStore.Time.Calendar
import ObjectStore.Time.Token

/-!
The numbers of a written date before it is known which of them is the year, the month or the day. A
number can give itself away as the year, and a word as the month; the others are told apart by size
and order.
-/

namespace ObjectStore.Time

/-- A decimal number as it is written: its whole part and the digits after the mark. -/
structure Amount where
  whole : Nat
  fraction : List Nat := []

namespace Amount

def digits? (cs : List Char) : Option (List Nat) :=
  cs.mapM Text.digitValue?

def ofDigits (digits : List Nat) : Nat :=
  digits.foldl (fun n d => 10 * n + d) 0

def whole? (cs : List Char) : Option Nat :=
  if cs.isEmpty then none else (digits? cs).map ofDigits

def ofToken? (token : Token) : Option Amount := do
  match Text.cut '.' token with
  | (whole, none) => some ⟨← whole? whole, []⟩
  | (whole, some fraction) => some ⟨← whole? whole, ← digits? fraction⟩

def isWhole (a : Amount) : Bool :=
  a.fraction.all (· == 0)

def atMost (a : Amount) (n : Nat) : Bool :=
  a.whole < n || (a.whole == n && a.isWhole)

end Amount

structure DayParts where
  numbers : List Nat := []
  yearAt : Option Nat := none
  monthAt : Option Nat := none
  /-- The year is written with its century. -/
  fullYear : Bool := false

namespace DayParts

def count (parts : DayParts) : Nat :=
  parts.numbers.length

def push (parts : DayParts) (n : Nat) : DayParts :=
  { parts with numbers := parts.numbers ++ [n] }

def addYear? (parts : DayParts) (n : Nat) : Option DayParts :=
  if parts.yearAt.isSome then none
  else some { parts.push n with yearAt := some parts.count, fullYear := true }

def addMonth? (parts : DayParts) (n : Nat) : Option DayParts :=
  if parts.monthAt.isSome then none else some { parts.push n with monthAt := some parts.count }

/-- A number above a hundred is a year. -/
def addAmount? (parts : DayParts) (a : Amount) : Option DayParts :=
  if a.atMost 100 then some (parts.push a.whole) else parts.addYear? a.whole

/-- A number of more than two digits is a year. -/
def addText? (parts : DayParts) (cs : List Char) : Option DayParts := do
  let n ← Amount.whole? cs
  if 2 < cs.length then parts.addYear? n else some (parts.push n)

def addTexts? (parts : DayParts) : List (List Char) → Option DayParts
  | [] => some parts
  | cs :: rest => do (← parts.addText? cs).addTexts? rest

/-- The days of the month as far as it is known; nothing if there is no such month. -/
def monthLength? (parts : DayParts) : Option Nat :=
  match parts.monthAt.bind (parts.numbers[·]?) with
  | none => some 31
  | some month =>
    if 1 ≤ month && month ≤ 12 then
      some (daysInMonth (((parts.yearAt.bind (parts.numbers[·]?)).getD 2000 : Nat) : Int) month)
    else none

/-- Year, month and day, as far as they are there. -/
structure Chosen where
  year : Option Nat := none
  month : Option Nat := none
  day : Option Nat := none

/-- Three numbers of which at most one gives itself away. -/
def chooseOfThree (parts : DayParts) (a b c : Nat) : Chosen :=
  let ymd (y m d : Nat) : Chosen := ⟨some y, some m, some d⟩
  match parts.monthAt with
  | some 0 => if 31 < b then ymd b a c else ymd c a b
  | some 1 => if 31 < a then ymd a b c else ymd c b a
  | some _ => if 31 < b then ymd b c a else ymd a c b
  | none =>
    if 31 < a || parts.yearAt == some 0 then ymd a b c
    else if 12 < a then ymd c b a
    else ymd c a b

/-- Two numbers without a month among them by name. -/
def chooseOfTwo (a b : Nat) : Chosen :=
  if 31 < a then ⟨some a, some b, none⟩
  else if 31 < b then ⟨some b, some a, none⟩
  else ⟨none, some a, some b⟩

/-- One number beside a month, or alone. -/
def chooseOfOne (month : Option Nat) (n : Nat) : Chosen :=
  if 31 < n then ⟨some n, month, none⟩ else ⟨none, month, some n⟩

/-- Which number is which. Year and month are taken where they gave themselves away, and then the
third number is the day. -/
def choose? (parts : DayParts) : Option Chosen :=
  match parts.numbers, parts.yearAt, parts.monthAt with
  | [], _, _ => some {}
  | [n], some _, none => some ⟨some n, none, none⟩
  | [n], none, some _ => some ⟨none, some n, none⟩
  | [n], _, _ => some (chooseOfOne none n)
  | [a, b], some y, some _ => some (if y = 0 then ⟨some a, some b, none⟩ else ⟨some b, some a, none⟩)
  | [a, b], none, some m => some (if m = 0 then chooseOfOne (some a) b else chooseOfOne (some b) a)
  | [a, b], _, none => some (chooseOfTwo a b)
  | [a, b, c], some y, some m =>
    let at' (i : Nat) : Nat := [a, b, c].getD i 0
    some ⟨some (at' y), some (at' m), some (at' (3 - y - m))⟩
  | [a, b, c], _, _ => some (parts.chooseOfThree a b c)
  | _, _, _ => none

end DayParts

end ObjectStore.Time
