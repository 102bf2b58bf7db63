import ObjectStore.Connection
import ObjectStore.Location.Endpoints
import ObjectStore.Operation.Options
import ObjectStore.Request.Path
import ObjectStore.Request.Standard
import ObjectStore.Retry.Basic
import ObjectStore.Signing.Authentication

/-!
Clients of an account: where it is, how requests are authenticated and sent, and the defaults of
operations.
-/

namespace ObjectStore

structure Credentials where
  account : Option String := none
  key : Value := .null
  token : Option String := none
  lite : Bool := false
  table : Bool := false

namespace Credentials

def scheme (credentials : Credentials) : Signing.Scheme :=
  match credentials.table, credentials.lite with
  | true, true => .tableLite
  | true, false => .table
  | false, true => .lite
  | false, false => .full

/-- A key comes before a token. -/
def authentication (credentials : Credentials) : Authentication :=
  if credentials.key.truthy then
    .sharedKey credentials.scheme credentials.account credentials.key
  else match credentials.token with
    | none | some "" => .anonymous
    | token => .token token

end Credentials

structure Client (σ τ : Type) where
  credentials : Credentials
  primaryHost : Option String
  secondaryHost : Option String
  authentication : Authentication
  connection : Connection τ
  retry : Option (Policy σ τ)
  mode : Option (Named Mode) := some (.known .primaryOnly)
  budget : Timeout τ := .none
  sender : Request.Sender

namespace Client

variable {σ τ : Type}

/-- The version of the service that is spoken. -/
def serviceVersion : String := "2017-04-17"

/-- Waiting for the service ends after this many seconds unless another limit is set. -/
def standardTimeout [Seconds τ] : Timeout τ :=
  .single (Seconds.ofNat 20)

def make (credentials : Credentials) (primaryHost secondaryHost : Option String)
    (connection : Connection τ) (retry : Policy σ τ) (agent : String) :
    Except Fault (Client σ τ) :=
  match primaryHost with
  | none | some "" => .error Cause.noEndpoint
  | _ => .ok {
      credentials, primaryHost, secondaryHost
      authentication := credentials.authentication
      connection
      retry := some retry
      sender := ⟨.text serviceVersion, .text agent⟩ }

def defaults (client : Client σ τ) : Defaults τ (Policy σ τ) :=
  ⟨client.budget, client.mode, client.retry, client.connection.timeout⟩

def addressOf (protocol host : Option String) : Except Fault String :=
  match protocol with
  | some protocol => (Value.ofText? host).asText.map (protocol ++ "://" ++ ·)
  | none =>
    .error (.misfit .type "unsupported operand type(s) for +: 'NoneType' and 'str'")

def endpoints (client : Client σ τ) : Except Fault Endpoints := do
  let protocol := client.connection.protocol
  let secondary ← match client.secondaryHost with
    | none | some "" => .ok none
    | host => (addressOf protocol host).map some
  let primary ← addressOf protocol client.primaryHost
  return ⟨some primary, secondary, by simp⟩

/-- The address of a resource at a location, with a token or as the client authenticates. -/
def url (client : Client σ τ) (path : Value) (location : Named Location) (token : Option String) :
    Except Fault String := do
  let base ← (← client.endpoints).get? location
  match base with
  | none => .error (Cause.unconfigured (location.text Location.name))
  | some base =>
    let url := base ++ Path.ofSegments [path]
    match token with
    | none | some "" => return client.authentication.extend url
    | some token => return Signing.Token.addTo token url

end Client

end ObjectStore
