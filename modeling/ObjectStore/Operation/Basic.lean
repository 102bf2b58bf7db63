import ObjectStore.Location.Route
import ObjectStore.Log
import ObjectStore.Operation.Options
import ObjectStore.Operation.State
import ObjectStore.Response.ErrorBody
import ObjectStore.Retry.Basic

/-!
Operations as a series of steps that an engine puts together: how the request of an attempt is
built, what a response means, and what the next attempt starts from. `σ` is the world, and `ω` is
what the operation itself works on.
-/

namespace ObjectStore

/-- What a step works with. Lines it says are logged when it ends. -/
structure Bench (σ ω : Type) where
  world : σ
  work : ω
  said : List Log.Line := []

/-- What a step works with that deals with a response. -/
structure Receipt (σ ω : Type) where
  bench : Bench σ ω
  state : AttemptState
  response : Response

abbrev Step (σ ω α : Type) : Type :=
  Act Fault (Bench σ ω) α

abbrev Handling (σ ω α : Type) : Type :=
  Act Fault (Receipt σ ω) α

namespace Step

variable {σ ω : Type}

def say (line : Log.Line) : Step σ ω Unit :=
  Act.change fun bench => { bench with said := bench.said ++ [line] }

def onWork (x : Act Fault ω α) : Step σ ω α :=
  x.on (·.work) fun work bench => { bench with work }

end Step

namespace Handling

variable {σ ω : Type}

def onBench (x : Step σ ω α) : Handling σ ω α :=
  x.on (·.bench) fun bench receipt => { receipt with bench }

def changeState (f : AttemptState → AttemptState) : Handling σ ω Unit :=
  Act.change fun receipt => { receipt with state := f receipt.state }

def readBody : Handling σ ω Value := fun receipt =>
  let (body, response) := receipt.response.readBody
  (body, { receipt with response })

def takePieces (size : Int) : Handling σ ω (List (List UInt8) × Option Fault) := fun receipt =>
  let (pieces, fault, response) := receipt.response.pieces size
  (.ok (pieces, fault), { receipt with response })

end Handling

/-- What an operation yields: a value of its own, or the response or its headers as they are when the
operation ends. -/
inductive Product where
  | value (v : Value)
  | headers
  | response

inductive Answer where
  | value (v : Value)
  | response (r : Response)

def Product.settle (product : Product) (response : Response) : Answer :=
  match product with
  | value v => .value v
  | headers => .value (.dict response.headers.entries)
  | .response => .response response

inductive Outcome where
  | success (product : Product)
  | retryable (fault : Fault)
  /-- The operation must not be tried again. -/
  | fatal (fault : Fault)

/-- The steps, options and places of an operation.

Building, setting headers and signing are given the state of the attempt but cannot write to it;
the steps that deal with a response and `recover` can. No step and no listener can write to the
context of the operation. Operations whose steps do otherwise are outside the model. -/
structure Operation (σ τ ω : Type) where
  /-- The request of an attempt, its path being relative to the address of the location. -/
  build : AttemptState → Step σ ω Request
  setHeaders : AttemptState → Request → Step σ ω Request := fun _ request => pure request
  /-- None leaves signing to the client. -/
  sign : Option (Request → Step σ ω Request) := none
  judge : Handling σ ω Outcome
  finish : Product → Handling σ ω Product := pure
  recover : AttemptState → Step σ ω AttemptState := pure
  restriction : Named Restriction := .known .primaryOnly
  options : Options τ (Policy σ τ) := {}
  /-- None stands for the addresses of the client. -/
  endpoints : Option Endpoints := none
  /-- Error codes that are for the caller to deal with. -/
  expectedErrors : List Value := []
  streamed : Bool := false
  start : AttemptState := {}

namespace Operation

def refuse : Handling σ ω Outcome := fun receipt =>
  let (fault, response) := receipt.response.fault
  (fault.map .retryable, { receipt with response })

def judgeStatus (accepts : Int → Bool) : Handling σ ω Outcome := do
  if accepts (← Act.read).response.status then return .success .response else refuse

/-- Without a list of statuses, all below 300 are accepted. -/
def accepts (expected : List Value) (status : Int) : Bool :=
  if expected.isEmpty then status < 300 else expected.any (·.same (.int status))

end Operation

end ObjectStore
