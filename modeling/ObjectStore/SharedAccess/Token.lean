import ObjectStore.Fields
import ObjectStore.Text.Percent
import ObjectStore.Text.Split
import ObjectStore.Value.Conversion

/-!
Tokens that grant access to an account or to one resource. A token is a query string whose last
parameter signs the others.
-/

namespace ObjectStore.SharedAccess

/-- Who may do what, from when to when, and how. -/
structure Grant where
  permission : Value := .null
  expiry : Value := .null
  start : Value := .null
  ip : Value := .null
  protocol : Value := .null

/-- The account that issues tokens, with its key and the version of the service. -/
structure Issuer where
  account : Value
  key : Value
  version : Value := .text "2017-04-17"

def Issuer.make (account key version : Value) : Except Fault Issuer := do
  account.requireGiven "account_name"
  key.requireGiven "account_key"
  return ⟨account, key, version⟩

abbrev Parameters := Fields String

/-- Adds a parameter unless nothing is given for it. -/
def add (name : String) (value : Value) (parameters : Parameters) : Parameters :=
  if value.truthy then parameters.set name value.toText else parameters

/-- Times are written in the form of tokens; texts stand for themselves. -/
def timeText (value : Value) : Except Fault Value :=
  match value with
  | .moment _ | .date _ => value.toTokenTime.map .text
  | _ => .ok value

def base (grant : Grant) (version : Value) : Except Fault Parameters := do
  let start ← timeText grant.start
  let expiry ← timeText grant.expiry
  return add "sv" version (add "spr" grant.protocol (add "sip" grant.ip
    (add "sp" grant.permission (add "se" expiry (add "st" start Fields.empty)))))

/-- The lines that are signed for parameters; one that is absent is an empty line. -/
def lines (parameters : Parameters) (names : List String) : String :=
  (names.map fun name => (parameters.get? name).getD "" ++ "\n").foldr (· ++ ·) ""

def withoutLastLineEnd (s : String) : String :=
  match s.toList.reverse with
  | '\n' :: rest => String.ofList rest.reverse
  | _ => s

def write (parameters : Parameters) : String :=
  String.intercalate "&" (parameters.entries.map fun (name, value) =>
    name ++ "=" ++ Text.Percent.encode ['/'] value)

def signed (issuer : Issuer) (text : String) (parameters : Parameters) : Except Fault String := do
  let signature ← Value.sign issuer.key (.text text) true
  return write (add "sig" (.text signature) parameters)

def accountText (account : String) (parameters : Parameters) : String :=
  account ++ "\n" ++ lines parameters ["sp", "ss", "srt", "st", "se", "sip", "spr", "sv"]

def accountToken (issuer : Issuer) (services resourceTypes : Value) (grant : Grant) :
    Except Fault String := do
  let parameters := add "srt" resourceTypes (add "ss" services (← base grant issuer.version))
  signed issuer (accountText (← issuer.account.asText) parameters) parameters

/-- A resource of a service and what responses for it shall carry. -/
structure Target where
  service : Value
  path : Value
  resourceType : Value := .null
  /-- A stored policy the token refers to. -/
  policyId : Value := .null
  cacheControl : Value := .null
  contentDisposition : Value := .null
  contentEncoding : Value := .null
  contentLanguage : Value := .null
  contentType : Value := .null

/-- The path under a slash. An empty path names no resource. -/
def rootedPath (path : Value) : Except Fault String :=
  if path.count? = some 0 then .error (.misfit .index "index out of range")
  else path.asText.map fun path => if Text.hasPrefix "/" path then path else "/" ++ path

/-- The text that a token for a resource signs; the overrides count if the type is given. -/
def resourceText (account service path : String) (target : Target) (parameters : Parameters) :
    String :=
  withoutLastLineEnd (lines parameters ["sp", "st", "se"] ++
    "/" ++ service ++ "/" ++ account ++ path ++ "\n" ++
    lines parameters ["si", "sip", "spr", "sv"] ++
    (if target.resourceType.isNull then ""
      else lines parameters ["rscc", "rscd", "rsce", "rscl", "rsct"]))

def targetParameters (target : Target) (parameters : Parameters) : Parameters :=
  add "rsct" target.contentType (add "rscl" target.contentLanguage
    (add "rsce" target.contentEncoding (add "rscd" target.contentDisposition
      (add "rscc" target.cacheControl (add "sr" target.resourceType
        (add "si" target.policyId parameters))))))

def resourceToken (issuer : Issuer) (target : Target) (grant : Grant) : Except Fault String := do
  let parameters := targetParameters target (← base grant issuer.version)
  let path ← rootedPath target.path
  let service ← target.service.asText
  signed issuer (resourceText (← issuer.account.asText) service path target parameters) parameters

end ObjectStore.SharedAccess
