import ObjectStore.Engine.Attempt
import ObjectStore.Engine.Prepare

/-!
Operations from the first attempt to the last. An operation ends with its answer when an attempt
succeeds, and with a failure when no further attempt may be made.
-/

namespace ObjectStore

structure Progress where
  state : AttemptState
  last : Option Fault := none

inductive Turn where
  | done (answer : Answer)
  | again (progress : Progress)

/-- The header that holds a signature is not shown in logs. -/
def Request.shownHeaders (request : Request) : Value :=
  .dict (request.headers.map fun name value =>
    if Text.lowerCase name == "authorization" then .text "*****" else value).entries

/-- Nor is the signature of a token. -/
def Request.shownQuery (request : Request) : Value :=
  .dict (request.query.map fun name value =>
    if name == "sig" then .text "*****" else value).entries

namespace Plan

variable {σ τ ω : Type} [Seconds τ] (plan : Plan σ τ ω)

def sayAt (level : Int) (pattern : String) (arguments : List Log.Argument) :
    Act ε (Run σ τ ω) Unit :=
  plan.say (Log.line level .engine pattern arguments)

def cancelled : Act Failure (Run σ τ ω) α :=
  failWith .cancelled Cause.cancelled

def outOfTime (last : Option Fault) : Act Failure (Run σ τ ω) α :=
  failWith .outOfTime ⟨.timedOut, last⟩

def endWith (reason : String) (fault : Fault) : Act Failure (Run σ τ ω) α := do
  plan.sayAt Log.error "%s: HTTP status code=%s, Exception=%s."
    [reason, fault.status, fault.message]
  failWith .recorded fault

def isCancelled (run : Run σ τ ω) : Bool :=
  run.context.token.any fun token => plan.engine.surroundings.isCancelled token run.world

/-- No attempt is made once the operation was cancelled or its time is over. -/
def check (last : Option Fault) : Act Failure (Run σ τ ω) Unit := do
  if plan.isCancelled (← Act.read) then
    plan.sayAt Log.error "Operation was cancelled." []
    cancelled
  let expired ← Act.ofExcept ((Deadline.hasExpired (← plan.now) plan.deadline Seconds.zero).mapError
    interruption)
  if expired then
    plan.sayAt Log.error "Operation exceeded the maximum execution time." []
    outOfTime last

def announceRequest (request : Request) (state : AttemptState) :
    Act Failure (Run σ τ ω) Request := do
  let exchange ← (plan.announceOn (.sendingRequest state.retryCount) ⟨request, none⟩).mapError
    interruption
  let request := exchange.request
  plan.sayAt Log.info "Outgoing request: Location=%s, Method=%s, Path=%s, Query=%s, Headers=%s."
    [Text.oneLine (state.location.text Location.name), Text.oneLine request.method,
     Text.oneLine (request.path.getD "None"), request.shownQuery,
     request.shownHeaders]
  return request

def succeed (attempted : Attempted) (product : Product) : Act Failure (Run σ τ ω) Turn := do
  let location := attempted.state.location
  match attempted.exchange.response with
  | none => Act.fail (interruption (Value.null.lacks "status"))
  | some response =>
    Act.change fun run => { run with context := { run.context with host := location } }
    plan.sayAt Log.info "Operation completed: Location=%s, HTTP Status Code=%s."
      [Text.oneLine (location.text Location.name), toString response.status]
    return .done (product.settle response)

/-- Whether the caller expects an error code. Codes that cannot be looked up are refused. -/
def isExpected (fault : Fault) : Except Fault Bool :=
  match fault.code.unhashable? with
  | some type => .error (.misfit .type ("unhashable type: '" ++ type ++ "'"))
  | none => .ok (plan.operation.expectedErrors.any (·.same fault.code))

def rest (interval : τ) : Act Failure (Run σ τ ω) Unit := do
  let clock ← plan.now
  match (← Act.read).context.token with
  | none =>
    outside ((plan.engine.surroundings.sleep interval).mapError interruption)
    Act.change (·.note (.slept interval clock))
  | some token =>
    Act.change (·.note (.waited interval clock))
    if ← outside ((plan.engine.surroundings.wait token interval).mapError interruption) then
      plan.sayAt Log.error "Operation was cancelled while waiting to retry." []
      cancelled

/-- Where the next attempt starts from, and where it goes. -/
def advance (state : AttemptState) : Act Failure (Run σ τ ω) AttemptState := do
  let state ← (plan.take (plan.operation.recover state)).mapError interruption
  let state := state.nextAttempt
  let location ← Act.ofExcept ((Mode.next state.mode state.location plan.endpoints).mapError
    interruption)
  return { state with location := .known location }

/-- Repeats an attempt after a pause, if there is time for it. -/
def retry (context : RetryContext) (attempted : Attempted) (fault : Fault) (interval : τ) :
    Act Failure (Run σ τ ω) Turn := do
  let state := attempted.state
  let tooLate ← Act.ofExcept ((Deadline.hasExpired (← plan.now) plan.deadline interval).mapError
    interruption)
  if tooLate then
    plan.sayAt Log.error
      "Operation cannot be retried: Retry interval=%s exceeds the maximum execution time."
      [Seconds.text interval]
    outOfTime (some fault)
  plan.sayAt Log.warning "Retry policy is allowing a retry: Retry count=%s, Interval=%s."
    [toString state.retryCount, Seconds.text interval]
  let request := attempted.exchange.request
  let _ ← (plan.announceOn (.retrying context) ⟨request, none⟩).mapError interruption
  let next ← plan.advance state
  plan.rest interval
  return .again ⟨next, some fault⟩

/-- Leaves an expected error to the caller. A fault that reports nothing cannot be one, even where a
missing code is expected. -/
def surrender (fault : Fault) : Act Failure (Run σ τ ω) α := do
  if fault.report?.isNone then
    Act.fail (interruption (.misfit .attribute
      ("'" ++ fault.kind.name ++ "' object has no attribute 'error_code'")))
  plan.sayAt Log.info "Operation returned an expected error: ErrorCode=%s."
    [fault.code]
  failWith .recorded fault

/-- What follows a failed attempt: the policy decides unless the fault itself does. -/
def decide (attempted : Attempted) (fault : Fault) : Act Failure (Run σ τ ω) Turn := do
  if ← Act.ofExcept ((plan.isExpected fault).mapError interruption) then
    plan.surrender fault
  let state := attempted.state
  let context : RetryContext :=
    ⟨state.retryCount, state.location, some fault, some attempted.exchange.request,
      attempted.exchange.response⟩
  plan.sayAt Log.info ("Operation failed: checking if the operation should be retried. " ++
      "Current retry count=%s, HTTP status code=%s, Exception=%s.")
    [toString state.retryCount, context.status, fault.message]
  match ← outside ((plan.policy.decide context).mapError interruption) with
  | none => plan.endWith "Retry policy did not allow for a retry" fault
  | some interval => plan.retry context attempted fault interval

/-- Makes one attempt and finds out what it leads to. -/
def turn (progress : Progress) : Act Failure (Run σ τ ω) Turn := do
  plan.check progress.last
  let (request, timeout) ← plan.prepare progress.state progress.last
  let request ← plan.announceRequest request progress.state
  let attempted ← (plan.attempt request timeout progress.state).mapError interruption
  match attempted.outcome with
  | .success product => plan.succeed attempted product
  | .fatal fault => plan.endWith "The operation failed with a fatal error" fault
  | .retryable fault =>
    if fault.kind = .signing then plan.endWith "The operation failed with a fatal error" fault
    else plan.decide attempted fault

/-- Makes up to a number of attempts. None means that the operation has not ended. -/
def run : Nat → Progress → Act Failure (Run σ τ ω) (Option Answer)
  | 0, _ => return none
  | fuel + 1, progress => do
    match ← plan.turn progress with
    | .done answer => return some answer
    | .again progress => run fuel progress

end Plan

namespace Engine

variable {σ τ ω : Type} [Seconds τ] (engine : Engine σ τ)

/-- The mode of an operation. A context that holds on to a location goes before it. -/
def modeOf (operation : Operation σ τ ω) (configured : Named Mode) (policy : Policy σ τ)
    (endpoints : Endpoints) (context : OperationContext τ) : Except Fault (Named Mode) := do
  let mode ← Mode.effective configured operation.restriction policy.toSecondary (some endpoints)
  let held := match context.host with
    | .other none | .other (some "") => false
    | _ => true
  return if context.lock && held && operation.restriction = .known .either then
      .known (Mode.staying context.host)
    else mode

def plan (operation : Operation σ τ ω) (policy : Option (Policy σ τ)) (handlers : Handlers σ)
    (clock : τ) (context : OperationContext τ) : Except Fault (Plan σ τ ω × AttemptState) := do
  let options := operation.options.withDefaults engine.client.defaults
  let policy := ((policy.orElse fun _ => options.retry).getD Policy.never)
  let endpoints ← match operation.endpoints with
    | some endpoints => .ok endpoints
    | none => engine.client.endpoints
  let deadline ← Deadline.ofBudget clock options.budget
  let mode ← modeOf operation (options.mode.getD default) policy endpoints context
  endpoints.validate mode
  let location ← Mode.start mode endpoints
  return (
    { engine, operation, handlers, policy, endpoints, deadline
      serverTimeout := options.serverTimeout
      timeout := options.timeout.orElse Client.standardTimeout },
    { operation.start with mode, location := .known location })

/-- Runs an operation, of which at most `fuel` attempts are made. -/
def execute (operation : Operation σ τ ω) (policy : Option (Policy σ τ)) (handlers : Handlers σ)
    (fuel : Nat) : Act Failure (Run σ τ ω) (Option Answer) := do
  Act.change fun run => { run with context := run.context.reset }
  let run ← Act.read
  let clock := engine.surroundings.clock run.world
  let (plan, start) ← Act.ofExcept ((engine.plan operation policy handlers clock run.context).mapError
    fun fault => ⟨fault, .unprepared, none⟩)
  plan.run fuel ⟨start, none⟩

end Engine

end ObjectStore
