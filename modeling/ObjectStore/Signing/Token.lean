import ObjectStore.Request.Basic
import ObjectStore.Text.Case
import ObjectStore.Text.Form

/-!
Tokens that carry their own signature. They become part of the query of each request, or of an
address; what a token names is taken from the token.
-/

namespace ObjectStore.Signing.Token

/-- A token as it was given, without a question mark in front. -/
def plain (token : String) : String :=
  match token.toList with
  | '?' :: rest => String.ofList rest
  | _ => token

def parameters (token : String) : List (String × String) :=
  Text.Form.decode (plain token)

/-- Adds parameters to a query, in place of those of the same names in any case. -/
def merge (query : Fields α) (added : List (String × α)) : Fields α :=
  let names := added.map fun entry => Text.lowerCase entry.1
  (query.filter fun entry => !names.contains (Text.lowerCase entry.1)).setAll added

def sign (token : String) (request : Request) : Request :=
  if request.query.contains "sig" then request
  else
    let added := (parameters token).map fun entry => (entry.1, Value.text entry.2)
    { request with query := merge request.query added }

/-- The parameters of a query as they are written; the last of one name counts. -/
def written (query : List Char) : Fields (List Char) :=
  Fields.ofList (((Text.pieces '&' query).filter (!·.isEmpty)).map fun piece =>
    let (name, value) := Text.cut '=' piece
    (String.ofList name, value.getD []))

/-- Adds a token to an address, with all values as they are written. -/
def addTo (token : String) (address : String) : String :=
  let token := plain token
  if token.isEmpty then address
  else
    let (base, query) := Text.cut '?' address.toList
    let merged := merge (written (query.getD [])) (written token.toList).entries
    let pairs := merged.entries.map fun entry => entry.1.toList ++ '=' :: entry.2
    String.ofList (base ++ '?' :: Text.join ['&'] pairs)

end ObjectStore.Signing.Token
