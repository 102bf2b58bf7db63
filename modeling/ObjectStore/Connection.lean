import ObjectStore.Deadline
import ObjectStore.Request.Basic
import ObjectStore.Response.Basic
import ObjectStore.Text.Case
import ObjectStore.Text.Split
import ObjectStore.Value.Conversion

/-!
The way to the service: what of a request is handed to a session, and what becomes of the answer.
-/

namespace ObjectStore

/-- A request as it is sent. -/
structure Outgoing (τ : Type) where
  method : String
  url : String
  params : Fields Value
  headers : Fields Value
  data : Value
  timeout : Timeout τ
  proxies : Option (Fields String)
  /-- The body of the response is left on the way until it is asked for. -/
  streamed : Bool

/-- An answer as it arrives. Names of headers are the same in any case. -/
structure Reply where
  status : Int
  reason : Value
  headers : Fields Value
  incoming : Incoming

structure Connection (τ : Type) where
  protocol : Option String := some "https"
  timeout : Timeout τ
  proxies : Option (Fields String) := none

namespace Connection

variable {τ : Type}

/-- The headers every session starts with and a connection does without. -/
def unwanted : List String := ["Accept", "Accept-Encoding"]

def setProxy (connection : Connection τ) (host port user password : Value) : Connection τ :=
  let place := host.toText ++ ":" ++ port.toText
  let place := if user.truthy && password.truthy then
    user.toText ++ ":" ++ password.toText ++ "@" ++ place else place
  { connection with
    proxies := some (Fields.ofList [("http", "http://" ++ place), ("https", "https://" ++ place)]) }

/-- The protocol of a request is that of the connection unless it names one. -/
def protocolOf (connection : Connection τ) (request : Request) : Except Fault String :=
  match request.protocol, connection.protocol with
  | none, none | some "", none => .error (Value.null.lacks "lower")
  | none, some protocol | some "", some protocol => .ok protocol
  | some protocol, _ => .ok protocol

def pathOf (request : Request) : Except Fault String :=
  (Value.ofText? request.path).asText

/-- What is sent for a request. An empty body is none. -/
def outgoing (connection : Connection τ) (request : Request) (timeout : Timeout τ)
    (streamed : Bool) : Except Fault (Outgoing τ) := do
  let body ← if request.body.truthy then request.body.asContent "request.body" else .ok .null
  let protocol ← connection.protocolOf request
  let path ← pathOf request
  return {
    method := request.method
    url := Text.lowerCase protocol ++ "://" ++ request.host ++ path
    params := request.query
    headers := request.headers
    data := body
    timeout := timeout.orElse connection.timeout
    proxies := connection.proxies
    streamed }

/-- Headers that differ only in case are one; it has the last name and the last value. -/
def mergeCases (headers : Fields Value) : Fields (String × Value) :=
  Fields.ofList (headers.entries.map fun entry => (Text.lowerCase entry.1, entry))

/-- Names in lower case, except that metadata keep theirs. -/
def lowerHeaders (headers : Fields Value) : Fields Value :=
  Fields.ofList ((mergeCases headers).entries.map fun (lower, name, value) =>
    (if Text.hasPrefix "x-ms-meta-" lower then name else lower, value))

/-- What an answer brings. The content of one with status zero cannot be had as a whole. -/
def contentOf (reply : Reply) : Incoming :=
  { reply.incoming with withheld := reply.status == 0 }

/-- The response an answer makes. Unless it is streamed, its body is received at once. -/
def response (reply : Reply) (streamed : Bool) : Except Fault Response := do
  let headers := lowerHeaders reply.headers
  if streamed then
    return ⟨reply.status, reply.reason, headers, .null, some (contentOf reply)⟩
  else
    let whole ← (contentOf reply).receive.1
    return ⟨reply.status, reply.reason, headers, Value.ofOption .bytes whole, none⟩

end Connection

end ObjectStore
