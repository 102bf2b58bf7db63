import ObjectStore.Response.Basic
import ObjectStore.Value.Conversion

/-!
What the headers of a response say: who answered, when, about which version of the resource and
how much of it.
-/

namespace ObjectStore.Response

def header (response : Response) (name : String) : Value :=
  (response.headers.get? name).getD .null

def requestId (response : Response) : Value :=
  response.header "x-ms-request-id"

def etag (response : Response) : Value :=
  response.header "etag"

def contentMd5 (response : Response) : Value :=
  response.header "content-md5"

def lastModified (response : Response) : Value :=
  response.header "last-modified"

/-- The digest of the whole resource, as far as it is known. -/
def resourceMd5 (response : Response) : Value :=
  let stored := response.header "x-ms-blob-content-md5"
  if stored.truthy then stored else response.contentMd5

/-- The date by a reader of dates. What is not written, or is taken for no date, counts as none. -/
def dateBy (read : Value → Except Fault Time.DateTime) (response : Response) : Except Fault Value :=
  let written := response.header "date"
  if !written.truthy then .ok .null
  else match read written with
  | .ok t => .ok (.moment t)
  | .error fault => if fault.kind.isSenseless then .ok .null else .error fault

def contentLength (response : Response) : Except Fault Value :=
  (response.header "content-length").toInt?

def noSuchPart : Fault :=
  .misfit .index "list index out of range"

/-- The total that follows the range in `bytes 0-9/100`. -/
def totalText (range : String) : Except Fault String :=
  match Text.cut ' ' range.toList with
  | (_, none) => .error noSuchPart
  | (_, some extent) =>
    match Text.cut '/' extent with
    | (_, none) => .error noSuchPart
    | (_, some total) => .ok (String.ofList total)

/-- The size of the whole resource, of which a range from `start` was asked for, if any. -/
def downloadSize (start : Value) (response : Response) : Except Fault Value :=
  let range := response.header "content-range"
  if !start.isNull && range.truthy then
    match range with
    | .text s => do
      let total ← totalText s
      return .int (← (Value.text total).toInt)
    | .bytes _ | .byteArray _ =>
      .error (.misfit .type "a bytes-like object is required, not 'str'")
    | _ => .error (range.lacks "split")
  else response.contentLength

end ObjectStore.Response
