import ObjectStore.Log
import ObjectStore.Response.Header
import ObjectStore.Time.Seconds

/-!
The context of an operation: its identity, and the record of the requests that were made for it. A
context can serve several operations one after another.
-/

namespace ObjectStore

structure RequestResult where
  location : Named Location := .other none
  start : Option Time.DateTime := none
  stop : Option Time.DateTime := none
  status : Value := .null
  message : Value := .null
  requestId : Value := .null
  etag : Value := .null
  contentMd5 : Value := .null
  date : Value := .null
  fault : Option Fault := none

namespace RequestResult

def succeeded (result : RequestResult) : Bool :=
  result.fault.isNone

def description (result : RequestResult) : String :=
  "RequestResult(location=" ++ result.location.text Location.name ++ ", status=" ++
    result.status.toText ++ ", request_id=" ++ result.requestId.toText ++
    ", exception=" ++ (result.fault.map Fault.quoted).getD "None" ++ ")"

/-- The result of an attempt, unless the reader of dates fails. The status that a fault reports comes
before that of the response, unless it is zero or nothing. -/
def ofAttempt (read : Value → Except Fault Time.DateTime) (location : Named Location)
    (start stop : Time.DateTime) (response : Option Response) (fault : Option Fault) :
    Except Fault RequestResult := do
  let date ← match response with
    | some response => response.dateBy read
    | none => .ok .null
  let reported := (fault.map Fault.status).getD .null
  return {
    location
    start
    stop
    status :=
      if reported.truthy then reported else Value.ofOption (fun r => .int r.status) response
    message := (response.map (·.message)).getD .null
    requestId := (response.map (·.requestId)).getD .null
    etag := (response.map (·.etag)).getD .null
    contentMd5 := (response.map (·.contentMd5)).getD .null
    date
    fault }

end RequestResult

structure OperationContext (τ : Type) where
  requestId : String
  /-- Headers added to every request. -/
  userHeaders : Option (Fields Value) := none
  /-- The least level of entries that are logged for the operation. -/
  logLevel : Option Int := none
  /-- The name of the token that can cancel the operation. -/
  token : Option String := none
  /-- Operations stay with the location that served the first of them. -/
  lock : Bool := false
  host : Named Location := .other none
  results : List RequestResult := []
  clientTime : τ

namespace OperationContext

variable {τ : Type}

def lastResult? (context : OperationContext τ) : Option RequestResult :=
  context.results.getLast?

def append (context : OperationContext τ) (result : RequestResult) : OperationContext τ :=
  { context with results := context.results ++ [result] }

/-- Forgets the requests of the operation before. The location that served it is kept. -/
def reset [Seconds τ] (context : OperationContext τ) : OperationContext τ :=
  { context with results := [], clientTime := Seconds.zero }

def audience (context : OperationContext τ) (threshold : Option Int) : Log.Audience :=
  ⟨threshold, context.logLevel, some context.requestId⟩

end OperationContext

end ObjectStore
