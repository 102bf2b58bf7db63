import ObjectStore.Act
import ObjectStore.Fields

/-!
Requests as they are put together, before they are sent.
-/

namespace ObjectStore

structure Request where
  /-- None leaves the protocol to the client. -/
  protocol : Option String := none
  host : String := ""
  method : String := ""
  path : Option String := some ""
  query : Fields Value := Fields.empty
  headers : Fields Value := Fields.empty
  body : Value := .text ""
  location : Option Location := none

namespace Request

def setHeader (request : Request) (name : String) (value : Value) : Request :=
  { request with headers := request.headers.set name value }

def setQuery (request : Request) (name : String) (value : Value) : Request :=
  { request with query := request.query.set name value }

def setHeaders (request : Request) (headers : Fields Value) : Request :=
  { request with headers := request.headers.setAll headers.entries }

/-- The path, or the root where there is none. -/
def pathOrRoot (request : Request) : String :=
  match request.path with
  | none | some "" => "/"
  | some path => path

end Request

end ObjectStore
