import ObjectStore.Request.Condition
import ObjectStore.Request.Path

/-!
What every request carries: the length of its content, the version of the service, who sends it
under which identity, its time limit at the server, its date and its encoded path.
-/

namespace ObjectStore.Request

/-- Methods whose requests have content. -/
def methodsWithContent : List String := ["PUT", "POST", "MERGE"]

def methodsWithLength : List String := methodsWithContent ++ ["DELETE"]

/-- Announces the length of the body. A stream whose length cannot be told is refused. -/
def addLength : Act Fault Request Unit := do
  let request ← Act.read
  if request.body.truthy then
    let content ← Act.ofExcept (request.body.asContent "request.body")
    let (length, content) := content.measure
    Act.change fun request => { request with body := content }
    match length with
    | none => Act.fail (Cause.unmeasurable "request.body")
    | some length =>
      if methodsWithLength.contains request.method then
        Act.change (·.setHeader "Content-Length" (.text (toString length)))
      else pure ()
  else if methodsWithContent.contains request.method then
    Act.change (·.setHeader "Content-Length" (.text "0"))
  else pure ()

/-- Who sends a request: the version of the service asked for, and the name of the client. -/
structure Sender where
  version : Value
  agent : Value

def addSender (sender : Sender) (requestId : Value) : Act Fault Request Unit :=
  Act.change fun request =>
    ((request.setHeader "x-ms-version" sender.version).setHeader "User-Agent" sender.agent).setHeader
      "x-ms-client-request-id" requestId

/-- The time limit of the server, in whole seconds. -/
def addTimeout (timeout : Value) : Act Fault Request Unit :=
  if timeout.isNull then pure ()
  else do
    let seconds ← Act.ofExcept timeout.toIntText?
    Act.change (·.setQuery "timeout" seconds)

def encodePath : Act Fault Request Unit := do
  match (← Act.read).path with
  | none => Act.fail (.misfit .type "quote_from_bytes() expected bytes")
  | some path => Act.change fun request => { request with path := some (Path.encode path) }

/-- Completes a request that was built and addressed. -/
def complete (sender : Sender) (requestId timeout : Value) : Act Fault Request Unit := do
  addLength
  addSender sender requestId
  addTimeout timeout
  encodePath

def addHeaders (headers : Option (Fields Value)) : Act Fault Request Unit :=
  Act.change fun request => request.setHeaders (headers.getD Fields.empty)

/-- Metadata travel in headers of their own. -/
def metadataPrefix : String := "x-ms-meta-"

def addMetadata (metadata : Option (Fields Value)) : Act Fault Request Unit :=
  Act.change fun request =>
    let entries := (metadata.getD Fields.empty).entries.map fun entry =>
      (metadataPrefix ++ entry.1, entry.2)
    { request with headers := request.headers.setAll entries }

/-- The date, given in seconds since the start of 1970. -/
def addDate (seconds : Int) : Act Fault Request Unit :=
  Act.change (·.setHeader "x-ms-date" (.text (Time.DateTime.ofSeconds seconds 0 none).headerText))

end ObjectStore.Request
