import ObjectStore.Document.NameChars
import ObjectStore.Text.Split

/-!
Namespaces: what prefixes stand for, and names with their namespace in front, in braces.
-/

namespace ObjectStore.Document.Xml

/-- Namespaces by prefix; the empty prefix is that of names without one. -/
abbrev Scope := List (List Char × List Char)

/-- The namespaces that every document knows are named by addresses at this host. -/
def standardHost : String := "www.w3.org"

def standardNamespace (path : String) : List Char :=
  ("http://" ++ standardHost ++ "/" ++ path).toList

def xmlNamespace : List Char :=
  standardNamespace "XML/1998/namespace"

def xmlnsNamespace : List Char :=
  standardNamespace "2000/xmlns/"

/-- A name has at most one colon, with a name behind it. -/
def isQualifiedName (name : List Char) : Bool :=
  match Text.cut ':' name with
  | (_, none) => true
  | (before, some after) =>
    !before.isEmpty && !after.contains ':' && after.head?.any isNameStart

def split (name : List Char) : List Char × List Char :=
  match Text.cut ':' name with
  | (whole, none) => ([], whole)
  | (before, some after) => (before, after)

/-- The prefix that an attribute declares, if it declares one. -/
def declared? (name : List Char) : Option (List Char) :=
  match split name with
  | ([], whole) => if whole == "xmlns".toList then some [] else none
  | (before, after) => if before == "xmlns".toList then some after else none

/-- A namespace can be bound to a prefix. The brace that ends a namespace in names cannot be part of
one. -/
def isBindable (name uri : List Char) : Bool :=
  let isXml := uri == xmlNamespace
  !uri.contains '\x7d' && name != "xmlns".toList && (uri.isEmpty → name.isEmpty) &&
    (if name == "xml".toList then isXml else !isXml && uri != xmlnsNamespace)

def declare? (scope : Scope) (pair : List Char × List Char) : Option Scope :=
  match declared? pair.1 with
  | some name => if isBindable name pair.2 then some ((name, pair.2) :: scope) else none
  | none => some scope

/-- A name with its namespace in braces. Attributes without prefix have none. -/
def expand? (scope : Scope) (isAttribute : Bool) (name : List Char) : Option (List Char) :=
  let (before, after) := split name
  if before.isEmpty && isAttribute then some after
  else if before == "xml".toList then some ('\x7b' :: xmlNamespace ++ '\x7d' :: after)
  else match scope.lookup before with
    | some uri => if uri.isEmpty then some after else some ('\x7b' :: uri ++ '\x7d' :: after)
    | none => if before.isEmpty then some after else none

end ObjectStore.Document.Xml
