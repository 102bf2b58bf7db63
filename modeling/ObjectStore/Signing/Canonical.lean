import ObjectStore.Request.Basic
import ObjectStore.Text.Blank
import ObjectStore.Text.Case
import ObjectStore.Text.Split

/-!
The text that a shared key signs: a fixed part of a request, in one order however the request was
put together.
-/

namespace ObjectStore.Signing

/-- The four ways to sign with a shared key. -/
inductive Scheme where
  | full
  | lite
  | table
  | tableLite
deriving DecidableEq

def Scheme.name : Scheme → String
  | full | table => "SharedKey"
  | lite | tableLite => "SharedKeyLite"

/-- Header values by lower-case names. Headers without value are not sent. -/
def lowerHeaders (headers : Fields Value) : Fields String :=
  Fields.ofList ((headers.entries.filter fun entry => !entry.2.isNull).map fun entry =>
    (Text.lowerCase entry.1, entry.2.toText))

def header (headers : Fields String) (name : String) : String :=
  (headers.get? name).getD ""

/-- An empty content is signed as one without length. -/
def lengthText (headers : Fields String) : String :=
  let length := header headers "content-length"
  if length == "0" then "" else length

/-- The date, where the service's own date header does not take its place. -/
def plainDate (headers : Fields String) : String :=
  if headers.contains "x-ms-date" then "" else header headers "date"

def serviceDate (headers : Fields String) : String :=
  (headers.get? "x-ms-date").getD (header headers "date")

/-- The values that are signed by their places. -/
def standardValues (scheme : Scheme) (headers : Fields String) : List String :=
  match scheme with
  | .full =>
    [header headers "content-encoding", header headers "content-language", lengthText headers,
     header headers "content-md5", header headers "content-type", plainDate headers,
     header headers "if-modified-since", header headers "if-match", header headers "if-none-match",
     header headers "if-unmodified-since", header headers "range"]
  | .lite => [header headers "content-md5", header headers "content-type", plainDate headers]
  | .table => [header headers "content-md5", header headers "content-type", serviceDate headers]
  | .tableLite => [serviceDate headers]

def lineText (s : String) : String :=
  s ++ "\n"

def concat (texts : List String) : String :=
  texts.foldr (· ++ ·) ""

/-- The headers of the service, sorted by name; tables do not sign them. -/
def serviceHeaders (scheme : Scheme) (headers : Fields String) : String :=
  match scheme with
  | .full | .lite =>
    let named := headers.entries.filter fun entry => Text.hasPrefix "x-ms-" entry.1
    let sorted := named.mergeSort fun a b => a.1 ≤ b.1
    concat (sorted.map fun entry => lineText (entry.1 ++ ":" ++ Text.stripBlank entry.2))
  | .table | .tableLite => ""

/-- The text of a query value; several values are sorted. -/
def queryText : Value → String
  | .list items | .tuple items =>
    String.intercalate "," ((items.map Value.toText).mergeSort fun a b => a ≤ b)
  | value => value.toText

/-- All parameters that have a value, sorted by their lower-case names. -/
def fullQuery (query : Fields Value) : String :=
  let named := (query.entries.filter fun entry => !entry.2.isNull).map fun entry =>
    (Text.lowerCase entry.1, entry.2)
  let sorted := named.mergeSort fun a b => a.1 ≤ b.1
  concat (sorted.map fun entry => "\n" ++ entry.1 ++ ":" ++ queryText entry.2)

/-- The first parameter that names a component of the resource. -/
def componentQuery (query : Fields Value) : String :=
  match query.entries.find? fun entry =>
      Text.lowerCase entry.1 == "comp" && !entry.2.isNull with
  | some entry => "?comp=" ++ entry.2.toText
  | none => ""

def queryPart (scheme : Scheme) (query : Fields Value) : String :=
  match scheme with
  | .full => fullQuery query
  | _ => componentQuery query

def verb (scheme : Scheme) (method : String) : String :=
  match scheme with
  | .tableLite => ""
  | _ => lineText method

def stringToSign (scheme : Scheme) (account : String) (request : Request) : String :=
  let headers := lowerHeaders request.headers
  verb scheme request.method ++ concat ((standardValues scheme headers).map lineText) ++
    serviceHeaders scheme headers ++ "/" ++ account ++ request.pathOrRoot ++
    queryPart scheme request.query

end ObjectStore.Signing
