import ObjectStore.Document.Json
import ObjectStore.Document.Xml
import ObjectStore.Response.Header
import ObjectStore.Text.Blank

/-!
What a response with an error says about it. The code stands in a header or in the body; further
details stand in the body, which is XML or JSON. A body that cannot be read has no details.
-/

namespace ObjectStore

namespace ErrorBody

/-- The name of the code among the details. -/
def codeName : String := "Code"

/-- The texts of the children of the root; the last of one name counts. -/
def xmlDetails (text : String) : Fields Value :=
  match Document.Xml.parse? text with
  | some root =>
    Fields.ofList (root.children.map fun child =>
      (child.tag, if child.text.isEmpty then .null else .text child.text))
  | none => Fields.empty

/-- The message inside an error: either the message itself or the value of a localised one. -/
def messageDetails : Option Value → List (String × Value)
  | some (.dict entries) => [("Message", (entries.lookup "value").getD .null)]
  | none | some .null => []
  | some message => [("Message", message)]

/-- The code and the message of the error member of a document. -/
def errorMember : Value → Fields Value
  | .dict members =>
    match members.lookup "odata.error" with
    | some (.dict error) =>
      let code := (error.lookup "code").map fun code => (codeName, code)
      Fields.ofList (code.toList ++ messageDetails (error.lookup "message"))
    | _ => Fields.empty
  | _ => Fields.empty

def jsonDetails (text : String) : Except Fault (Fields Value) :=
  match Document.Json.parse text with
  | .ok document => .ok (errorMember document)
  | .error .malformed => .ok Fields.empty
  | .error (.tooDeep opened) =>
    .error (.misfit .nesting ("maximum recursion depth exceeded while decoding a JSON " ++ opened ++
      " from a unicode string"))

/-- The kind of document is told by its first character. -/
def details (text : String) : Except Fault (Fields Value) :=
  let text := Text.stripBlank text
  if Text.hasPrefix "<" text then .ok (xmlDetails text)
  else if Text.hasPrefix "\x7b" text then jsonDetails text
  else .ok Fields.empty

def text? (body : Value) : Except Fault (Option String) :=
  match body with
  | .bytes content =>
    .ok ((Text.Utf8.decode? (Text.Utf8.dropMark content)).map String.ofList)
  | .text s => .ok (some s)
  | .byteArray _ => .error (.misfit .type "a bytes-like object is required, not 'str'")
  | _ => .error (body.lacks "strip")

def bodyDetails (body : Value) : Except Fault (Fields Value) :=
  if body.truthy then do
    match ← text? body with
    | some text => details text
    | none => return Fields.empty
  else .ok Fields.empty

/-- The code of an error and its other details. The header comes before the body. -/
def read (headers : Option (Fields Value)) (body : Value) : Except Fault (Value × Fields Value) := do
  let found ← bodyDetails body
  let code := match (headers.getD Fields.empty).get? "x-ms-error-code" with
    | none | some .null => (found.get? codeName).getD .null
    | some code => code
  return (code, found.erase codeName)

def bodyText : Value → String
  | .bytes content => String.ofList (Text.Utf8.decodeLossy (Text.Utf8.dropMark content))
  | body => body.toText

def codeText (code : Value) : Except Fault String :=
  if code.truthy then code.asText.map (" ErrorCode: " ++ ·) else .ok ""

/-- The fault an error response stands for. -/
def fault (status message : Value) (headers : Option (Fields Value)) (body : Value) :
    Except Fault Fault := do
  let (code, found) ← read headers body
  let text := message.toText ++ (← codeText code) ++
    (if body.truthy then "\n" ++ bodyText body else "")
  return Cause.service ⟨.text text, status, code, .dict found.entries⟩

end ErrorBody

namespace Response

def fault (response : Response) : Except Fault Fault × Response :=
  match response.readBody with
  | (.ok body, response) =>
    (ErrorBody.fault (.int response.status) response.message (some response.headers) body, response)
  | (.error fault, response) => (.error fault, response)

end Response

end ObjectStore
