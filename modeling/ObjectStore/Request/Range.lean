import ObjectStore.Request.Basic
import ObjectStore.Time.Seconds
import ObjectStore.Value.Conversion

/-!
Asking for a range of a resource.
-/

namespace ObjectStore.Request

/-- Ranges up to four mebibytes come with their digest if asked for. -/
def maxDigestRange : Int := 4 * 1024 * 1024

structure RangeRules where
  startRequired : Bool := true
  endRequired : Bool := true
  withDigest : Bool := false
  header : String := "x-ms-range"

/-- The range from `start` to `last`, both included, or to the end of the resource. -/
def rangeText (start last : Value) : String :=
  "bytes=" ++ start.toText ++ "-" ++ (if last.isNull then "" else last.toText)

/-- How long a range is. Both ends must be numbers. -/
def rangeLength (start last : Value) : Except Fault Number := do
  let start ← start.toNumber
  let last ← last.toNumber
  Seconds.add (← Seconds.sub last start) (.int 1)

/-- A digest is available for short ranges with two ends. -/
def requireDigestRange (start last : Value) : Except Fault Unit :=
  if start.isNull || last.isNull then .error Cause.digestWithoutRange
  else do
    let length ← rangeLength start last
    if Number.lt (.int maxDigestRange) length then .error Cause.digestRangeTooLarge

def addRange (rules : RangeRules) (start last : Value) : Act Fault Request Unit := do
  if rules.startRequired || !last.isNull then
    Act.ofExcept (start.requireGiven "start_range")
  if rules.endRequired then
    Act.ofExcept (last.requireGiven "end_range")
  if !start.isNull then
    Act.change (·.setHeader rules.header (.text (rangeText start last)))
  if rules.withDigest then
    Act.ofExcept (requireDigestRange start last)
    Act.change (·.setHeader "x-ms-range-get-content-md5" (.text "true"))

end ObjectStore.Request
