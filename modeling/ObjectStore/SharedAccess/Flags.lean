/-!
Sets of one-letter grants. The letters of a kind have a fixed order, in which a set is written.
-/

namespace ObjectStore.SharedAccess

namespace Flags

inductive Kind where
  | services
  | resourceTypes
  | permissions
deriving DecidableEq

/-- The grants of a kind: each letter with its name. -/
def Kind.grants : Kind → List (Char × String)
  | .services => [('b', "blob"), ('q', "queue"), ('t', "table"), ('f', "file")]
  | .resourceTypes => [('s', "service"), ('c', "container"), ('o', "object")]
  | .permissions =>
    [('r', "read"), ('w', "write"), ('d', "delete"), ('l', "list"), ('a', "add"), ('c', "create"),
     ('u', "update"), ('p', "process")]

def Kind.typeName : Kind → String
  | .services => "Services"
  | .resourceTypes => "ResourceTypes"
  | .permissions => "AccountPermissions"

def Kind.letters (kind : Kind) : List Char :=
  kind.grants.map Prod.fst

end Flags

structure Flags where
  kind : Flags.Kind
  held : Char → Bool

namespace Flags

/-- The grants whose letters occur in a text. -/
def ofText (kind : Kind) (s : String) : Flags :=
  ⟨kind, s.toList.contains⟩

/-- The grants given by name, and those whose letters occur in a text. -/
def ofNames (kind : Kind) (names : List String) (s : String) : Flags :=
  let named := (kind.grants.filter fun grant => names.contains grant.2).map Prod.fst
  ⟨kind, fun c => named.contains c || s.toList.contains c⟩

def text (flags : Flags) : String :=
  String.ofList (flags.kind.letters.filter flags.held)

def union (flags : Flags) (s : String) : Flags :=
  ofText flags.kind (flags.text ++ s)

/-- The flags after each of several unions, the first flags included. -/
def unions (flags : Flags) : List String → List Flags
  | [] => [flags]
  | s :: rest => flags :: (flags.union s).unions rest

def attributes (flags : Flags) : List (String × Bool) :=
  flags.kind.grants.map fun grant => (grant.2, flags.held grant.1)

end Flags

end ObjectStore.SharedAccess
