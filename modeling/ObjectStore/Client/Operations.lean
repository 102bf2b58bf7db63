import ObjectStore.Client.Basic
import ObjectStore.Transfer.Upload

/-!
The operations that a client offers on a resource: reading its properties, downloading it or a part
of it, and uploading it.
-/

namespace ObjectStore.Client

variable {σ τ ω : Type}

/-- Reads the headers of a resource from either location. -/
def getProperties (path : Value) (conditions : Option AccessCondition)
    (options : Options τ (Policy σ τ)) : Except Fault (Operation σ τ ω) := do
  path.requireGiven "path"
  return {
    build := fun _ => return { method := "HEAD", path := some (Path.ofSegments [path]) }
    setHeaders := fun _ request => Act.ofExcept (Download.setConditions conditions request)
    judge := Operation.judgeStatus (· == 200)
    finish := fun _ => return .headers
    restriction := .known .either
    options }

structure Part where
  path : Value
  start : Option Int := none
  last : Option Int := none
  conditions : Option AccessCondition := none

def Part.download (part : Part) (options : Options τ (Policy σ τ)) : Download where
  path := Path.ofSegments [part.path]
  start := part.start
  last := part.last
  conditions := part.conditions
  rangeDigest := options.rangeDigest.truthy
  skipDigest := options.skipDigest.truthy

/-- Downloads to a sink, which must be there. -/
def downloadTo (write : Option (List UInt8 → Act Fault ω Unit)) (part : Part)
    (options : Options τ (Policy σ τ)) : Except Fault (Operation σ τ ω) :=
  match write with
  | none => .error (Cause.absent "stream")
  | some write => (part.download options).operation write options none

def collect (piece : List UInt8) : Act Fault (List UInt8) Unit :=
  Act.change (· ++ piece)

def downloadBytes (part : Part) (options : Options τ (Policy σ τ)) :
    Except Fault (Operation σ τ (List UInt8)) :=
  downloadTo (some collect) part options

/-- What is stored with uploaded content, and under which conditions. -/
structure Cargo where
  path : Value
  headers : Option (Fields Value) := none
  metadata : Option (Fields Value) := none
  conditions : Option AccessCondition := none

/-- What can be read from is a stream. -/
def streamOf (name : String) : Value → Except Fault Stream
  | .stream stream => .ok stream
  | _ => .error (Cause.notReadable name)

def uploadStream (cargo : Cargo) (source : Value) (count : Option Int)
    (options : Options τ (Policy σ τ)) : Except Fault (Operation σ τ Stream × Stream) := do
  let stream ← streamOf "stream" source
  let upload : Upload := {
    path := Path.ofSegments [cargo.path]
    count
    headers := cargo.headers
    metadata := cargo.metadata
    conditions := cargo.conditions
    withDigest := options.rangeDigest.truthy }
  return (← upload.operation stream options none, stream)

def uploadBytes (cargo : Cargo) (data : Value) (options : Options τ (Policy σ τ)) :
    Except Fault (Operation σ τ Stream × Stream) :=
  match data with
  | .bytes content => uploadStream cargo (.stream ⟨.memory, content, 0⟩) (some content.length) options
  | _ => .error (Cause.notBytes "data")

end ObjectStore.Client
