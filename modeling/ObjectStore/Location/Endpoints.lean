import ObjectStore.Fault

/-!
The addresses of an account: one for each location, of which at least one is known.
-/

namespace ObjectStore

structure Endpoints where
  primary : Option String
  secondary : Option String
  given : primary.isSome || secondary.isSome
deriving DecidableEq

namespace Endpoints

def ofAddresses (primary secondary : Option String) : Except Fault Endpoints :=
  if given : primary.isSome || secondary.isSome then .ok ⟨primary, secondary, given⟩
  else .error (Cause.missingAddress .primary)

def address? (e : Endpoints) : Location → Option String
  | .primary => e.primary
  | .secondary => e.secondary

def locate : Named Location → Except Fault Location
  | .known location => .ok location
  | n => .error (Cause.unknownLocation (n.text Location.name))

def get? (e : Endpoints) (location : Named Location) : Except Fault (Option String) :=
  (locate location).map e.address?

def has (e : Endpoints) (location : Named Location) : Except Fault Bool :=
  (e.get? location).map Option.isSome

/-- A mode that never leaves a location needs its address. -/
def validate (e : Endpoints) : Named Mode → Except Fault Unit
  | .known .primaryOnly => if e.primary.isNone then .error (Cause.missingAddress .primary) else .ok ()
  | .known .secondaryOnly =>
    if e.secondary.isNone then .error (Cause.missingAddress .secondary) else .ok ()
  | _ => .ok ()

def description (e : Endpoints) : String :=
  "StorageUri(primary=" ++ (Value.ofText? e.primary).quoted ++ ", secondary=" ++
    (Value.ofText? e.secondary).quoted ++ ")"

end Endpoints

end ObjectStore
