import ObjectStore.Fault
import ObjectStore.Number.Basic

/-!
Spans and instants of time in seconds. Whatever can be added, subtracted, compared and written down
will do; an operation whose result cannot be represented is refused.
-/

namespace ObjectStore

class Seconds (τ : Type) where
  ofNat : Nat → τ
  add : τ → τ → Except Fault τ
  sub : τ → τ → Except Fault τ
  lt : τ → τ → Bool
  le : τ → τ → Bool
  text : τ → String

namespace Seconds

variable {τ : Type} [Seconds τ]

def zero : τ :=
  ofNat 0

/-- The first of two spans unless the second is shorter. -/
def shorter (a b : τ) : τ :=
  if lt b a then b else a

def isNegative (t : τ) : Bool :=
  lt t zero

end Seconds

def outOfRange : Fault :=
  .misfit .overflow "int too large to convert to float"

instance : Seconds Number where
  ofNat n := .int n
  add a b := (a.add? b).elim (.error outOfRange) .ok
  sub a b := (a.sub? b).elim (.error outOfRange) .ok
  lt := Number.lt
  le := Number.le
  text := Number.text

end ObjectStore
