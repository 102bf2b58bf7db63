import ObjectStore.Engine.Basic

/-!
One attempt: the request is sent, the response is judged and dealt with, and the result is recorded.
Whatever goes wrong here is a failure of the attempt, not of the operation.
-/

namespace ObjectStore

structure Sending (σ τ ω : Type) where
  run : Run σ τ ω
  state : AttemptState
  exchange : Exchange

structure Attempted where
  outcome : Outcome
  state : AttemptState
  exchange : Exchange

namespace Outcome

def fault? : Outcome → Option Fault
  | success _ => none
  | retryable fault | fatal fault => some fault

/-- The outcome of an attempt that a fault ended. Reports on operations stand for themselves. -/
def ofFault (fault : Fault) : Outcome :=
  .retryable (if fault.kind.isStorage then fault else fault.wrap)

end Outcome

namespace Plan

variable {σ τ ω : Type} [Seconds τ] (plan : Plan σ τ ω)

def onRun (x : Act Fault (Run σ τ ω) α) : Act Fault (Sending σ τ ω) α :=
  x.on (·.run) fun run sending => { sending with run }

def transmit (request : Request) (timeout : Timeout τ) : Act Fault (Run σ τ ω) Response := do
  let streamed := plan.operation.streamed
  let outgoing ← Act.ofExcept (plan.engine.client.connection.outgoing request timeout streamed)
  let clock ← plan.now
  Act.change (·.note (.sent outgoing clock))
  let reply ← outside (plan.engine.surroundings.send outgoing)
  Act.ofExcept (Connection.response reply streamed)

def handle (response : Response) (step : Handling σ ω α) : Act Fault (Sending σ τ ω) α :=
  fun sending =>
    let (result, receipt) := step ⟨⟨sending.run.world, sending.run.work, []⟩, sending.state, response⟩
    (result, {
      run := { sending.run with world := receipt.bench.world, work := receipt.bench.work }.logAll
        plan.engine.surroundings.logThreshold receipt.bench.said
      state := receipt.state
      exchange := { sending.exchange with response := some receipt.response } })

def receivedLine (response : Response) : Log.Line :=
  Log.line Log.info .engine "Receiving Response: HTTP Status Code=%s, Message=%s, Headers=%s."
    [toString response.status, response.message,
     Value.dict response.headers.entries]

/-- Announces a response that has arrived. What the listeners change stays changed, also if one of
them fails. -/
def greet : Act Fault (Sending σ τ ω) Unit :=
  (plan.announce .responseReceived).on (fun sending => (sending.run, sending.exchange))
    fun (run, exchange) sending => { sending with run, exchange }

/-- Deals with the current response by a step of the operation. -/
def handleCurrent (step : Handling σ ω α) : Act Fault (Sending σ τ ω) α := do
  match (← Act.read).exchange.response with
  | some response => plan.handle response step
  | none => Act.fail (Value.null.lacks "status")

def deal : Act Fault (Sending σ τ ω) Outcome := do
  match ← plan.handleCurrent plan.operation.judge with
  | .success product => return .success (← plan.handleCurrent (plan.operation.finish product))
  | outcome => return outcome

def exchange (timeout : Timeout τ) : Act Fault (Sending σ τ ω) Outcome := do
  let response ← onRun (plan.transmit (← Act.read).exchange.request timeout)
  Act.change fun sending =>
    { sending with exchange := { sending.exchange with response := some response } }
  plan.greet
  match (← Act.read).exchange.response with
  | some response => onRun (plan.say (receivedLine response))
  | none => pure ()
  plan.deal

/-- Records the result of an attempt. The time it took counts also if there is no result. -/
def record (started : τ) (start : Time.DateTime) (attempted : Attempted) :
    Act Fault (Run σ τ ω) RequestResult := do
  let spent ← Act.ofExcept (Seconds.sub (← plan.now) started)
  let total ← Act.ofExcept (Seconds.add (← Act.read).context.clientTime spent)
  Act.change fun run => { run with context := { run.context with clientTime := total } }
  let world := (← Act.read).world
  let stop := plan.engine.surroundings.moment world
  let result ← Act.ofExcept (RequestResult.ofAttempt (plan.engine.surroundings.readDate world)
    attempted.state.location start stop attempted.exchange.response attempted.outcome.fault?)
  Act.change fun run => { run with context := run.context.append result }
  return result

/-- Makes an attempt with a request that is ready, and announces how it ended. -/
def attempt (request : Request) (timeout : Timeout τ) (state : AttemptState) :
    Act Fault (Run σ τ ω) Attempted := do
  let started ← plan.now
  let start := plan.engine.surroundings.moment (← Act.read).world
  let attempted : Attempted ← fun run =>
    let (result, sending) := plan.exchange timeout ⟨run, state, ⟨request, none⟩⟩
    let outcome := match result with
      | .ok outcome => outcome
      | .error fault => Outcome.ofFault fault
    (.ok ⟨outcome, sending.state, sending.exchange⟩, sending.run)
  let result ← plan.record started start attempted
  let exchange ← plan.announceOn (.requestCompleted result) attempted.exchange
  return { attempted with exchange }

end Plan

end ObjectStore
