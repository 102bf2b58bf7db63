import ObjectStore.Location.Endpoints
import ObjectStore.Request.Basic
import ObjectStore.Uri

/-!
Pointing a request at the address of a location.
-/

namespace ObjectStore.Request

/-- An address without scheme starts with its host. -/
def withSlashes (address : String) : String :=
  if Text.occursIn [':', '/', '/'] address.toList then address else "//" ++ address

def dropEndSlashes (path : String) : String :=
  String.ofList (path.toList.reverse.dropWhile (· == '/')).reverse

/-- Sends the request to an address, whose path goes before that of the request. -/
def pointAt (request : Request) (address : String) (location : Location) : Except Fault Request := do
  let uri ← Uri.parse (withSlashes address)
  let base := dropEndSlashes uri.path
  return { request with
    protocol := if uri.scheme.isEmpty then request.protocol else some uri.scheme
    host := uri.host
    path := if base.isEmpty then request.path else some (base ++ request.pathOrRoot)
    location := some location }

/-- Sends the request to a location, which must have an address. -/
def applyLocation (request : Request) (endpoints : Endpoints) (location : Named Location) :
    Except Fault Request := do
  let location ← Endpoints.locate location
  match endpoints.address? location with
  | none => .error (Cause.missingAddress location)
  | some address => request.pointAt address location

end ObjectStore.Request
