import ObjectStore.Event.Multicaster
import ObjectStore.Operation.Context
import ObjectStore.Retry.Basic

/-!
What listeners hear of an operation. A listener may change the request that is about to be sent and
the response that has arrived, and its faults are faults of the operation.
-/

namespace ObjectStore

/-- The request of an attempt, and its response once there is one. -/
structure Exchange where
  request : Request
  response : Option Response := none

inductive Event where
  /-- A request is built and signed and goes out next. -/
  | sendingRequest (retryCount : Int)
  /-- Status and headers of a response have arrived. -/
  | responseReceived
  /-- The attempt is to be repeated after a pause; its response is out of reach by now. -/
  | retrying (context : RetryContext)
  | requestCompleted (result : RequestResult)

namespace Event

inductive Kind where
  | sendingRequest
  | responseReceived
  | retrying
  | requestCompleted
deriving DecidableEq

def Kind.all : List Kind := [sendingRequest, responseReceived, retrying, requestCompleted]

def Kind.name : Kind → String
  | sendingRequest => "sending_request"
  | responseReceived => "response_received"
  | retrying => "retrying"
  | requestCompleted => "request_completed"

def kind : Event → Kind
  | sendingRequest _ => .sendingRequest
  | responseReceived => .responseReceived
  | retrying _ => .retrying
  | requestCompleted _ => .requestCompleted

end Event

structure Listener (σ : Type) where
  name : String
  hear : Event → Act Fault (σ × Exchange) Unit

structure Handlers (σ : Type) where
  sendingRequest : Multicaster (Listener σ) := {}
  responseReceived : Multicaster (Listener σ) := {}
  retrying : Multicaster (Listener σ) := {}
  requestCompleted : Multicaster (Listener σ) := {}

namespace Handlers

def none : Handlers σ := {}

def of (handlers : Handlers σ) : Event.Kind → Multicaster (Listener σ)
  | .sendingRequest => handlers.sendingRequest
  | .responseReceived => handlers.responseReceived
  | .retrying => handlers.retrying
  | .requestCompleted => handlers.requestCompleted

def every (listener : Listener σ) : Handlers σ :=
  let alone := Multicaster.ofList [listener]
  ⟨alone, alone, alone, alone⟩

end Handlers

end ObjectStore
