import ObjectStore.Operation.Basic
import ObjectStore.Request.Range

/-!
Downloads that resume where they were interrupted. The first response decides which version of the
resource is read and where; after a failure only what is missing is asked for.
-/

namespace ObjectStore

/-- Which part of a resource is wanted, and under which conditions. Both ends are included. -/
structure Download where
  path : String
  start : Option Int := none
  last : Option Int := none
  conditions : Option AccessCondition := none
  rangeDigest : Bool := false
  skipDigest : Bool := false

namespace Download

def pieceSize : Nat := 65536

/-- What is asked for must make sense before anything is sent. -/
def validate (download : Download) : Except Fault Unit := do
  (Value.ofOption .int download.start).requireNotNegative "start_range"
  match download.last with
  | none => .ok ()
  | some last =>
    match download.start with
    | none => .error (Cause.absent "start_range")
    | some start => if last < start then .error Cause.invertedRange else .ok ()
  if download.rangeDigest && download.last.isNone then .error Cause.digestWithoutRange

/-- How many bytes are wanted, if that is known. -/
def length? (download : Download) : Option Int :=
  match download.start, download.last with
  | some start, some last => some (last - start + 1)
  | _, _ => none

def checksWhole (download : Download) : Bool :=
  !download.skipDigest && download.start.isNone

def rules (download : Download) : Request.RangeRules :=
  { startRequired := false, endRequired := false, withDigest := download.rangeDigest }

def request (download : Download) (state : AttemptState) : Except Fault Request :=
  let request : Request := { method := "GET", path := some download.path }
  match state.offset with
  | none => .ok request
  | some offset =>
    let last := state.length.map fun length => offset + length - 1
    match Request.addRange download.rules (.int offset) (Value.ofOption .int last) request with
    | (.ok _, request) => .ok request
    | (.error fault, _) => .error fault

def setConditions (conditions : Option AccessCondition) (request : Request) :
    Except Fault Request :=
  match Request.addConditions conditions request with
  | (.ok _, request) => .ok request
  | (.error fault, _) => .error fault

/-- Later attempts are under the conditions of the first response. -/
def conditionsOf (download : Download) (state : AttemptState) : Option AccessCondition :=
  state.lock.orElse fun _ => download.conditions

/-- What is known of the resource from a response. -/
def properties (state : AttemptState) (response : Response) : Except Fault Value := do
  let size ← response.downloadSize (Value.ofOption .int state.offset)
  return .dict [("etag", response.etag), ("last_modified", response.lastModified),
    ("content_length", size), ("content_md5", response.resourceMd5)]

/-- Holds on to the version and the place of the first response. -/
def pin (download : Download) (response : Response) (properties : Value) (state : AttemptState) :
    AttemptState :=
  let etag := response.etag
  let digest := response.resourceMd5
  let checked := download.checksWhole && digest.truthy
  { state with
    properties
    populated := true
    lockedEtag := etag
    lock := if etag.truthy then some ((download.conditions.getD {}).withIfMatch etag) else state.lock
    mode := .known (Mode.staying state.location)
    contentMd5 := if checked then digest else state.contentMd5
    digested := if checked then some [] else state.digested }

def isAccepted (status : Int) : Bool :=
  status == 200 || status == 206

variable {σ ω : Type}

/-- Accepts a response with content, and with the digest of the content where it was asked for. -/
def judge (download : Download) : Handling σ ω Outcome := do
  let receipt ← Act.read
  let response := receipt.response
  if !isAccepted response.status then
    Operation.refuse
  else if download.rangeDigest && !response.contentMd5.truthy then
    return .fatal Cause.digestMissing
  else do
    if !receipt.state.populated then
      let properties ← Act.ofExcept (properties receipt.state response)
      Handling.changeState (download.pin response properties)
    return .success .response

/-- Writes pieces one after another, counting and digesting what was written. -/
def writeAll (write : List UInt8 → Act Fault ω Unit) : List (List UInt8) → Handling σ ω Unit
  | [] => pure ()
  | piece :: rest => do
    Handling.onBench (Step.onWork (write piece))
    Handling.changeState fun state => { state with
      received := state.received + piece.length
      digested := state.digested.map (· ++ piece) }
    writeAll write rest

def checkDigest (expected : Value) (content : List UInt8) : Except Fault Unit :=
  let computed := Value.md5Text content
  match expected with
  | .text s =>
    if s = computed then .ok () else .error (Cause.digestMismatch s computed)
  | _ => .error (Cause.digestMismatch expected.toText computed)

/-- As many bytes must have come as were announced. -/
def checkLength (expected : Value) (received : Int) : Except Fault Unit :=
  match expected with
  | .number (.int n) => if received = n then .ok () else .error (Cause.lengthMismatch n received)
  | _ => .ok ()

/-- The digest of all that was written must be that of the resource, if it is being checked. -/
def checkWhole (state : AttemptState) : Except Fault Unit :=
  match state.digested with
  | some content => checkDigest state.contentMd5 content
  | none => .ok ()

/-- Writes the content of a response and checks its length and its digests. -/
def finish (download : Download) (write : List UInt8 → Act Fault ω Unit) : Handling σ ω Product := do
  let announced ← Act.ofExcept (← Act.read).response.contentLength
  let (pieces, fault) ← Handling.takePieces pieceSize
  writeAll write pieces
  if let some fault := fault then Act.fail fault
  let receipt ← Act.read
  Act.ofExcept (checkLength announced receipt.state.received)
  if download.rangeDigest then
    Act.ofExcept (checkDigest receipt.response.contentMd5 pieces.flatten)
  Act.ofExcept (checkWhole receipt.state)
  return .value receipt.state.properties

def resumedLine (offset : Int) (length : Option Int) : Log.Line :=
  Log.line Log.debug .transfer "Resuming download: Offset=%s, Length=%s."
    [Value.int offset, Value.ofOption .int length]

/-- After an attempt that transferred something, the next asks for what follows. -/
def resume (state : AttemptState) : AttemptState :=
  if state.received ≤ 0 then state
  else { state with
    offset := some (state.offset.getD 0 + state.received)
    length := state.length.map (· - state.received) }

def recover (state : AttemptState) : Step σ ω AttemptState := do
  let next := resume state
  if 0 < state.received then
    Step.say (resumedLine (next.offset.getD 0) next.length)
  return next

/-- The operation that writes the wanted part; its answer is what the first response told about the
resource. -/
def operation (download : Download) (write : List UInt8 → Act Fault ω Unit)
    (options : Options τ (Policy σ τ)) (endpoints : Option Endpoints) :
    Except Fault (Operation σ τ ω) := do
  download.validate
  return {
    build := fun state => Act.ofExcept (download.request state)
    setHeaders := fun state request =>
      Act.ofExcept (setConditions (download.conditionsOf state) request)
    judge := download.judge
    finish := fun _ => download.finish write
    recover
    restriction := .known .either
    options
    endpoints
    streamed := true
    start := { offset := download.start, length := download.length? } }

end Download

end ObjectStore
