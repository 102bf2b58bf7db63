import ObjectStore.Client.Basic
import ObjectStore.Engine.Journal

/-!
What an engine is made of, how an operation can fail, and the ways in which the engine touches the
world, the operation and its listeners.
-/

namespace ObjectStore

/-- What the world does for an operation: clocks, the network, pauses, cancellation and the reading of
dates. -/
structure Surroundings (σ τ : Type) where
  clock : σ → τ
  /-- Whole seconds since the start of 1970. -/
  seconds : σ → Int
  moment : σ → Time.DateTime
  /-- Reads a date in whichever form it is written. What the form leaves open may depend on the day. -/
  readDate : σ → Value → Except Fault Time.DateTime
  send : Outgoing τ → Act Fault σ Reply
  sleep : τ → Act Fault σ Unit
  isCancelled : String → σ → Bool
  /-- Pauses until the time is over or the token is cancelled, which the answer tells. -/
  wait : String → τ → Act Fault σ Bool
  /-- The least level that is logged, if anything is. -/
  logThreshold : Option Int := none

inductive Manner where
  | unprepared
  | recorded
  | outOfTime
  | cancelled
  /-- A listener, a policy or a step between two attempts failed. -/
  | interrupted
deriving DecidableEq

structure Failure where
  fault : Fault
  manner : Manner
  /-- The results of all attempts, where the fault carries them. -/
  attached : Option (List RequestResult) := none

structure Engine (σ τ : Type) where
  surroundings : Surroundings σ τ
  client : Client σ τ
  handlers : Handlers σ := {}

/-- Everything that stays the same while an operation runs. -/
structure Plan (σ τ ω : Type) where
  engine : Engine σ τ
  operation : Operation σ τ ω
  handlers : Handlers σ
  serverTimeout : Value
  timeout : Timeout τ
  policy : Policy σ τ
  endpoints : Endpoints
  deadline : Option τ

namespace Plan

variable {σ τ ω : Type} {ε α : Type} (plan : Plan σ τ ω)

def say (line : Log.Line) : Act ε (Run σ τ ω) Unit :=
  Act.change (·.log plan.engine.surroundings.logThreshold line)

/-- Takes a step of the operation, whose lines are logged when it has ended. -/
def take (step : Step σ ω α) : Act Fault (Run σ τ ω) α := fun run =>
  let (result, bench) := step ⟨run.world, run.work, []⟩
  (result, { run with world := bench.world, work := bench.work }.logAll
    plan.engine.surroundings.logThreshold bench.said)

def outside (x : Act ε σ α) : Act ε (Run σ τ ω) α :=
  x.on (·.world) fun world run => { run with world }

def now : Act ε (Run σ τ ω) τ := fun run =>
  (.ok (plan.engine.surroundings.clock run.world), run)

def tell (event : Event) (listener : Listener σ) : Act Fault (Run σ τ ω × Exchange) Unit :=
  fun (run, exchange) =>
    let run := run.note (.heard listener.name event exchange)
    let (result, world, exchange) := listener.hear event (run.world, exchange)
    (result, { run with world }, exchange)

/-- Lets all listeners hear an event, those of the client first. -/
def announce (event : Event) : Act Fault (Run σ τ ω × Exchange) Unit := do
  (plan.engine.handlers.of event.kind).fire (tell event)
  (plan.handlers.of event.kind).fire (tell event)

/-- Announces an event about an exchange, which the listeners may change. -/
def announceOn (event : Event) (exchange : Exchange) : Act Fault (Run σ τ ω) Exchange := fun run =>
  match plan.announce event (run, exchange) with
  | (.ok _, run, exchange) => (.ok exchange, run)
  | (.error fault, run, _) => (.error fault, run)

/-- Ends the operation with a fault that carries the results of its attempts. -/
def failWith (manner : Manner) (fault : Fault) : Act Failure (Run σ τ ω) α := fun run =>
  (.error ⟨fault, manner, some run.context.results⟩, run)

def interruption (fault : Fault) : Failure :=
  ⟨fault, .interrupted, none⟩

end Plan

end ObjectStore
