import ObjectStore.Act
import ObjectStore.Request.Basic
import ObjectStore.Response.Basic

/-!
Whether a failed attempt is followed by another. A policy is asked after each failure and answers
with the time to wait, or with nothing if the operation is to end.
-/

namespace ObjectStore

structure RetryContext where
  /-- How many attempts were repeated before. -/
  count : Int
  location : Named Location
  fault : Option Fault
  request : Option Request := none
  response : Option Response := none

/-- The status of the attempt, if there is one. What the fault reports comes before what the response
says. -/
def RetryContext.status (context : RetryContext) : Value :=
  match context.fault.map Fault.status with
  | none | some .null => Value.ofOption (fun r => .int r.status) context.response
  | some status => status

structure Policy (σ τ : Type) where
  decide : RetryContext → Act Fault σ (Option τ)
  /-- Operations that may be read from either location go on to the secondary one. -/
  toSecondary : Bool := false

namespace Retry

/-- The statuses of failures that another attempt may mend. After a success the rest of the response
was lost; a resource may not have reached the secondary location yet; and the service may be busy or
ill. -/
def isTransient (status : Number) (location : Named Location) : Bool :=
  let is (n : Int) := status.compare? (.int n) == some .eq
  if Number.le (.int 300) status && status.lt (.int 500) then
    (is 404 && location == .known .secondary) || is 408
  else !is 501 && !is 505

/-- What cannot be compared with numbers is refused. -/
def notOrdered (value : Value) : Fault :=
  .misfit .type ("'<=' not supported between instances of 'int' and '" ++ value.fullTypeName ++ "'")

/-- Whether a failure may be mended. Without a status the network is to blame. -/
def isMendable (context : RetryContext) : Except Fault Bool :=
  match context.status with
  | .null => .ok true
  | status =>
    match status.number? with
    | some n => .ok (isTransient n context.location)
    | none => .error (notOrdered status)

/-- An attempt is repeated after a transient failure, up to `most` times in all. -/
def isWanted (most : Number) (context : RetryContext) : Except Fault Bool :=
  if most.le (.int context.count) then .ok false else isMendable context

end Retry

def Policy.never : Policy σ τ where
  decide _ := pure none

end ObjectStore
