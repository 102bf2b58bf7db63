import ObjectStore.Location.Endpoints

/-!
Which location each attempt of an operation goes to. The configured mode and the operation's
restriction make an effective mode; the modes that start at one location and go on to the other
alternate between the locations that have an address.
-/

namespace ObjectStore

namespace Mode

/-- A mode left open means the primary location. -/
def orDefault : Named Mode → Named Mode
  | .other none | .other (some "") => .known primaryOnly
  | mode => mode

/-- Combines what is configured with what the operation permits. An operation that may be read from
either location goes on to the secondary one if retries there are wanted and it has an address. -/
def effective (configured : Named Mode) (restriction : Named Restriction) (retryToSecondary : Bool)
    (endpoints : Option Endpoints) : Except Fault (Named Mode) :=
  let mode := orDefault configured
  match restriction with
  | .known .primaryOnly =>
    if mode = .known secondaryOnly then .error Cause.primaryOnly else .ok (.known primaryOnly)
  | .known .secondaryOnly =>
    if mode = .known primaryOnly then .error Cause.secondaryOnly else .ok (.known secondaryOnly)
  | _ =>
    if retryToSecondary && mode = .known primaryOnly && (endpoints.bind (·.secondary)).isSome then
      .ok (.known primaryThenSecondary)
    else .ok mode

def reach (endpoints : Endpoints) (location : Location) : Except Fault Location :=
  if (endpoints.address? location).isSome then .ok location
  else .error (Cause.missingAddress location)

def start (mode : Named Mode) (endpoints : Endpoints) : Except Fault Location :=
  match mode with
  | .known primaryOnly | .known primaryThenSecondary => reach endpoints .primary
  | .known secondaryOnly => reach endpoints .secondary
  | .known secondaryThenPrimary =>
    reach endpoints (if endpoints.secondary.isNone then .primary else .secondary)
  | n => .error (Cause.unknownMode (n.text name))

/-- The location to alternate to; whatever is not the primary location leads there. -/
def alternate : Named Location → Location
  | .known .primary => .secondary
  | _ => .primary

/-- The location of the attempt after one at the location `last`. -/
def next (mode : Named Mode) (last : Named Location) (endpoints : Endpoints) :
    Except Fault Location :=
  match mode with
  | .known primaryOnly => reach endpoints .primary
  | .known secondaryOnly => reach endpoints .secondary
  | _ =>
    match last with
    | .other none => start mode endpoints
    | _ =>
      if (endpoints.address? (alternate last)).isSome then .ok (alternate last)
      else do reach endpoints (← Endpoints.locate last)

def staying : Named Location → Mode
  | .known .secondary => secondaryOnly
  | _ => primaryOnly

/-- The locations of the attempts that follow one at `last`. -/
def walk (mode : Named Mode) (endpoints : Endpoints) :
    Nat → Named Location → Except Fault (List Location)
  | 0, _ => .ok []
  | n + 1, last => do
    let location ← next mode last endpoints
    return location :: (← walk mode endpoints n (.known location))

end Mode

end ObjectStore
