import ObjectStore.Log
import ObjectStore.Signing.Canonical
import ObjectStore.Signing.Token
import ObjectStore.Value.Conversion

/-!
How requests are authenticated: not at all, with a shared key or with a token.
-/

namespace ObjectStore

inductive Authentication where
  | anonymous
  | sharedKey (scheme : Signing.Scheme) (account : Option String) (key : Value)
  | token (given : Option String)

namespace Authentication

def name : Authentication → String
  | anonymous => "_StorageNoAuthentication"
  | sharedKey .full .. => "_StorageSharedKeyAuthentication"
  | sharedKey .lite .. => "_StorageSharedKeyLiteAuthentication"
  | sharedKey .table .. => "_StorageTableSharedKeyAuthentication"
  | sharedKey .tableLite .. => "_StorageTableSharedKeyLiteAuthentication"
  | token _ => "_StorageSASAuthentication"

/-- The text to sign as it is logged: each line end in two characters. -/
def signedLine (text : String) : Log.Line :=
  Log.line Log.debug .signing "String to sign: %s" [Text.replaceChar '\n' ['\\', 'n'] text]

def authorization (scheme : Signing.Scheme) (account : String) (signature : String) : Value :=
  .text (scheme.name ++ " " ++ account ++ ":" ++ signature)

/-- Signs with a shared key. Only texts, times and keys that do not fit can go wrong here, and such
a fault stands behind the one that is raised. -/
def signShared (scheme : Signing.Scheme) (account : String) (key : Value) (request : Request) :
    Except Fault Request :=
  let text := Signing.stringToSign scheme account request
  match key.sign (.text text) true with
  | .ok signature => .ok (request.setHeader "Authorization" (authorization scheme account signature))
  | .error fault => .error fault.wrapUnsigned

/-- Signs a request. The lines to log come first, whether signing succeeds or not. -/
def sign (authentication : Authentication) (request : Request) :
    List Log.Line × Except Fault Request :=
  match authentication with
  | anonymous => ([], .ok request)
  | sharedKey scheme account key =>
    match account with
    | none | some "" => ([], .error Cause.noAccountName)
    | some account =>
      ([signedLine (Signing.stringToSign scheme account request)],
        signShared scheme account key request)
  | token given => ([], .ok (Signing.Token.sign (given.getD "") request))

/-- An address with what the authentication adds to it. -/
def extend (authentication : Authentication) (address : String) : String :=
  match authentication with
  | token given => Signing.Token.addTo (given.getD "") address
  | _ => address

end Authentication

end ObjectStore
