import ObjectStore.Engine.Basic
import ObjectStore.Request.Address

/-!
Preparing an attempt: its request is built, pointed at the location, given its headers, dated and at
last signed, so that the signature covers all of it.
-/

namespace ObjectStore.Plan

variable {σ τ ω : Type} [Seconds τ] (plan : Plan σ τ ω)

def revise (request : Request) (x : Act Fault Request Unit) : Act Fault (Run σ τ ω) Request :=
  match x request with
  | (.ok _, request) => pure request
  | (.error fault, _) => Act.fail fault

/-- The request of an attempt as it is before the date and the signature. -/
def compose (state : AttemptState) : Act Fault (Run σ τ ω) Request := do
  let request ← plan.take (plan.operation.build state)
  let request ← Act.ofExcept (request.applyLocation plan.endpoints state.location)
  let request ← plan.take (plan.operation.setHeaders state request)
  let context := (← Act.read).context
  revise request do
    Request.addHeaders context.userHeaders
    Request.complete plan.engine.client.sender (.text context.requestId) plan.serverTimeout

def signStandard (request : Request) : Step σ ω Request := fun bench =>
  let (lines, result) := plan.engine.client.authentication.sign request
  (result, { bench with said := bench.said ++ lines })

def sign (request : Request) : Act Fault (Run σ τ ω) Request :=
  plan.take ((plan.operation.sign.getD plan.signStandard) request)

def date (request : Request) : Act Fault (Run σ τ ω) Request := do
  revise request (Request.addDate (plan.engine.surroundings.seconds (← Act.read).world))

/-- The request of an attempt, and how long the attempt may wait. -/
def prepared (state : AttemptState) : Act Fault (Run σ τ ω) (Request × Timeout τ) := do
  let request ← plan.sign (← plan.date (← plan.compose state))
  let timeout ← Act.ofExcept (Deadline.bound (← plan.now) plan.deadline plan.timeout)
  return (request, timeout)

/-- A timeout with nothing behind it stands for the last fault. -/
def behind (last : Option Fault) (fault : Fault) : Fault :=
  match fault.kind, fault.inner with
  | .timedOut, none => { fault with inner := last }
  | _, _ => fault

/-- What becomes of a fault in preparation: nothing was sent, and no result is recorded. -/
def refuse (last : Option Fault) (fault : Fault) : Act Failure (Run σ τ ω) α := do
  if fault.kind.isArgument then
    plan.say (Log.line Log.error .engine "The request could not be built: %s" [fault.message])
    Act.fail ⟨fault, .unprepared, none⟩
  else if fault.kind.isStorage then
    failWith (if fault.kind = .timedOut then .outOfTime else .unprepared) (behind last fault)
  else Act.fail ⟨fault, .unprepared, none⟩

def prepare (state : AttemptState) (last : Option Fault) :
    Act Failure (Run σ τ ω) (Request × Timeout τ) := do
  match ← (plan.prepared state).attempt with
  | .ok prepared => return prepared
  | .error fault => plan.refuse last fault

end ObjectStore.Plan
