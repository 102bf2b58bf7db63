import ObjectStore.Fault

/-!
Content that is still to be received. It arrives in pieces and may break off with a fault; what has
been received as a whole can be had again, what was taken piece by piece cannot.
-/

namespace ObjectStore

/-- Pieces of `n` items each, of which the last may be shorter. -/
def slices (n : Nat) (items : List α) : List (List α) :=
  if n = 0 ∨ items = [] then [] else items.take n :: slices n (items.drop n)
termination_by items.length
decreasing_by
  rename_i h
  have : items.length ≠ 0 := fun none => h (.inr (List.length_eq_zero_iff.mp none))
  rw [List.length_drop]
  omega

structure Incoming where
  /-- The pieces that reads of a given size bring. A negative size reads all there is. -/
  deliver : Int → List (List UInt8)
  ending : Option Fault := none
  consumed : Bool := false
  /-- The pieces can be taken, but as a whole the content is missing. -/
  withheld : Bool := false
  /-- The whole, once it was received as such; nothing if it was withheld. -/
  whole : Option (Option (List UInt8)) := none

namespace Incoming

/-- Content in pieces of a size, or in one piece if the size is negative. -/
def slicesOf (size : Int) (content : List UInt8) : List (List UInt8) :=
  slices (if size < 0 then content.length else size.toNat) content

/-- Content that arrives in pieces of the size asked for. -/
def ofContent (content : List UInt8) (ending : Option Fault) : Incoming where
  deliver size := slicesOf size content
  ending

/-- How much is read at a time when the whole is wanted. -/
def wholeSize : Int := 10240

def alreadyConsumed : Fault :=
  .misfit .runtime "The content for this response was already consumed"

def streamConsumed : Fault :=
  .misfit (.system "StreamConsumedError") ""

/-- What remains after a fault: the fault. -/
def broken (incoming : Incoming) : Incoming :=
  { incoming with deliver := fun _ => [] }

/-- Takes pieces of a size. The fault that ends them, if any, comes after all of them. -/
def take (size : Int) (incoming : Incoming) : List (List UInt8) × Option Fault × Incoming :=
  match incoming.whole with
  | some (some content) =>
    (slicesOf (if size = 0 then -1 else size) content, none, incoming)
  | some none => ([], some (.misfit .type "object of type 'NoneType' has no len()"), incoming)
  | none =>
    if incoming.consumed then ([], some streamConsumed, incoming)
    else match incoming.ending with
      | none => (incoming.deliver size, none, { incoming with consumed := true })
      | some fault => (incoming.deliver size, some fault, incoming.broken)

/-- Content of which the whole is known from now on. -/
def settle (whole : Option (List UInt8)) (incoming : Incoming) :
    Except Fault (Option (List UInt8)) × Incoming :=
  (.ok whole, { incoming with consumed := true, whole := some whole })

/-- Receives the whole. Nothing of it is had if it breaks off. -/
def receive (incoming : Incoming) : Except Fault (Option (List UInt8)) × Incoming :=
  match incoming.whole with
  | some whole => (.ok whole, incoming)
  | none =>
    if incoming.consumed then (.error alreadyConsumed, incoming)
    else if incoming.withheld then incoming.settle none
    else match incoming.ending with
      | none => incoming.settle (some (incoming.deliver wholeSize).flatten)
      | some fault => (.error fault, incoming.broken)

end Incoming

end ObjectStore
