import ObjectStore.Operation.Basic
import ObjectStore.Request.Standard
import ObjectStore.Transfer.Download

/-!
Uploads of a part of a stream. Every attempt goes back to the same mark and sends the same bytes.
-/

namespace ObjectStore

structure Upload where
  path : String
  /-- How much is sent, or none for the rest of the stream. -/
  count : Option Int := none
  headers : Option (Fields Value) := none
  metadata : Option (Fields Value) := none
  conditions : Option AccessCondition := none
  withDigest : Bool := false

namespace Upload

def seek (position : Int) : Act Fault Stream Unit := do
  if (← Act.read).canSeek then
    if position < 0 then
      Act.fail (.misfit .value ("negative seek value " ++ toString position))
    else Act.change (·.seek position.toNat)
  else Act.fail (Cause.given .unsupported [.text "seek"])

def read (count : Int) : Act Fault Stream (List UInt8) := fun stream =>
  let (content, stream) := stream.read count
  (.ok content, stream)

/-- The mark that every attempt starts from. -/
def mark (stream : Stream) : Except Fault Nat :=
  match stream.tell? with
  | some position => .ok position
  | none => .error Cause.unseekableSource

def rest (stream : Stream) : Except Fault Int :=
  if stream.canSeek then .ok ((stream.content.length : Int) - stream.position)
  else .error Cause.uncountedSource

/-- The mark, and the number of bytes to send from there. -/
def extent (upload : Upload) (stream : Stream) : Except Fault (Nat × Int) := do
  (Value.stream stream).requireReadable "stream"
  (Value.ofOption .int upload.count).requireNotNegative "count"
  let start ← mark stream
  match upload.count with
  | some count => return (start, count)
  | none => return (start, ← rest stream)

def readPart (state : AttemptState) : Act Fault Stream (List UInt8) := do
  seek (state.offset.getD 0)
  let wanted := state.length.getD (-1)
  let content ← read wanted
  if (content.length : Int) = wanted then return content
  else Act.fail (Cause.sourceEnded content.length wanted)

def request (upload : Upload) (content : List UInt8) : Request :=
  let request : Request :=
    { method := "PUT", path := some upload.path, body := .bytes content }
  let request := (Request.addMetadata upload.metadata
    (request.setHeaders (upload.headers.getD Fields.empty))).2
  if upload.withDigest then request.setHeader "Content-MD5" (.text (Value.md5Text content))
  else request

def isAccepted (status : Int) : Bool :=
  status == 200 || status == 201

def properties (response : Response) : Value :=
  .dict [("etag", response.etag), ("last_modified", response.lastModified)]

variable {σ τ : Type}

/-- The operation that sends the part of the stream; its answer is what the service calls it. -/
def operation (upload : Upload) (stream : Stream) (options : Options τ (Policy σ τ))
    (endpoints : Option Endpoints) : Except Fault (Operation σ τ Stream) := do
  let (start, count) ← upload.extent stream
  return {
    build := fun state => do
      return upload.request (← Step.onWork (readPart state))
    setHeaders := fun _ request =>
      Act.ofExcept (Download.setConditions upload.conditions request)
    judge := Operation.judgeStatus isAccepted
    finish := fun _ => do
      return .value (properties (← Act.read).response)
    recover := fun state => do
      Step.onWork (seek (state.offset.getD 0))
      return state
    restriction := .known .primaryOnly
    options
    endpoints
    start := { offset := some start, length := some count } }

end Upload

end ObjectStore
