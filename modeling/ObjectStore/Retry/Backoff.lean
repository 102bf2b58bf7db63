import ObjectStore.Retry.Basic
import ObjectStore.Time.Seconds

/-!
How long to wait before an attempt is repeated: always equally long, or longer each time up to a
bound.
-/

namespace ObjectStore

namespace Retry

structure Linear where
  /-- None means that nothing is ever repeated. -/
  backoff : Option Number := some (.int 30)
  maxAttempts : Number := .int 3
  toSecondary : Bool := false

/-- Waits grow with the powers of two, times a step that is drawn anew each time. -/
structure Exponential where
  initialBackoff : Number
  minBackoff : Number
  maxBackoff : Number
  maxAttempts : Number
  toSecondary : Bool
  ordered : maxBackoff.lt minBackoff = false

namespace Exponential

def make (initialBackoff minBackoff maxBackoff maxAttempts : Number) (toSecondary : Bool) :
    Except Fault Exponential :=
  if h : maxBackoff.lt minBackoff = false then
    .ok ⟨initialBackoff, minBackoff, maxBackoff, maxAttempts, toSecondary, h⟩
  else .error (Cause.backoffBounds maxBackoff.text minBackoff.text)

/-- Three, about 33 and 90 seconds before the three attempts that are made at most. -/
def standard : Exponential :=
  ⟨.int 30, .int 3, .int 90, .int 3, false, by decide⟩

def orOverflow : Option Number → Except Fault Number
  | some n => .ok n
  | none => .error outOfRange

/-- The share of a step from four to six fifths, in doubles. -/
def share (factor : Float) (initialBackoff : Number) : Except Fault Float :=
  match Number.mul? (.float factor) initialBackoff with
  | some (.float x) => .ok x
  | _ => .error outOfRange

/-- A step, for a fraction drawn evenly between zero and one. -/
def step (policy : Exponential) (fraction : Float) : Except Fault Number := do
  let low ← share 0.8 policy.initialBackoff
  let high ← share 1.2 policy.initialBackoff
  return .float (low + (high - low) * fraction)

/-- How often the step is waited: one less than a power of two. -/
def multiple (count : Int) : Number :=
  if 0 ≤ count then .int (Nat.pow 2 count.toNat - 1)
  else .float ((1 : Float).scaleB count - 1)

/-- The wait after `count` repetitions. -/
def wait (policy : Exponential) (count : Int) (step : Number) : Except Fault Number := do
  let increment ← orOverflow (Number.mul? (multiple count) step)
  let full ← orOverflow (Number.add? policy.minBackoff increment)
  return Number.min policy.maxBackoff full

end Exponential

end Retry

namespace Policy

open Retry

def linear (policy : Linear) : Policy σ Number where
  decide context := do
    if ← Act.ofExcept (isWanted policy.maxAttempts context) then return policy.backoff else return none
  toSecondary := policy.toSecondary

/-- Draws only if the attempt is to be repeated. -/
def exponential (draw : Act Fault σ Float) (policy : Exponential) : Policy σ Number where
  decide context := do
    if ← Act.ofExcept (isWanted policy.maxAttempts context) then
      let step ← Act.ofExcept (policy.step (← draw))
      let wait ← Act.ofExcept (policy.wait context.count step)
      return some wait
    else return none
  toSecondary := policy.toSecondary

/-- A policy that was given something else than a number where it needs one. The fault is met when a
failure is looked at, or only when it is to be repeated. -/
def unusable (most : Option Number) (fault : Fault) (toSecondary : Bool) : Policy σ Number where
  decide context := do
    let wanted ← match most with
      | some most => Act.ofExcept (isWanted most context)
      | none => pure true
    if wanted then Act.fail fault else return none
  toSecondary

end Policy

end ObjectStore
