import ObjectStore.Location.Route
import ObjectStore.Request.Condition

/-!
What one attempt of an operation hands on to the next: what is still to be transferred, which version
of the resource is being read and where, and how many attempts there were.
-/

namespace ObjectStore

structure AttemptState where
  /-- Where the range that is left starts. -/
  offset : Option Int := none
  /-- How much is left, or none for all that follows. -/
  length : Option Int := none
  /-- The entity tag that the first response named. -/
  lockedEtag : Value := .null
  /-- The conditions of later attempts, which name that entity tag. -/
  lock : Option AccessCondition := none
  contentMd5 : Value := .null
  populated : Bool := false
  properties : Value := .null
  /-- Bytes that this attempt transferred. -/
  received : Int := 0
  location : Named Location := .other none
  mode : Named Mode := .other none
  retryCount : Int := 0
  /-- All bytes that a running digest has seen. -/
  digested : Option (List UInt8) := none

namespace AttemptState

def nextAttempt (state : AttemptState) : AttemptState :=
  { state with received := 0, retryCount := state.retryCount + 1 }

def integer : Value → Int
  | .number (.int n) => n
  | .bool b => if b then 1 else 0
  | _ => 0

def integer? : Value → Option Int
  | .null => none
  | value => some (integer value)

def name? : Value → Option String
  | .text s => some s
  | _ => none

/-- Replaces a part of the state, if the state has one of that name. -/
def change (state : AttemptState) (name : String) (value : Value) : Except Fault AttemptState :=
  match name with
  | "offset" => .ok { state with offset := integer? value }
  | "length" => .ok { state with length := integer? value }
  | "locked_etag" => .ok { state with lockedEtag := value }
  | "content_md5" => .ok { state with contentMd5 := value }
  | "properties_populated" => .ok { state with populated := value.truthy }
  | "properties" => .ok { state with properties := value }
  | "current_request_byte_count" => .ok { state with received := integer value }
  | "current_location" => .ok { state with location := Named.location (name? value) }
  | "location_mode" => .ok { state with mode := Named.mode (name? value) }
  | "retry_count" => .ok { state with retryCount := integer value }
  | "etag_lock_condition" => .ok { state with lock := none }
  | "md5" => .ok { state with digested := none }
  | _ => .error (Cause.noAttribute name)

/-- Replaces parts of the state, unless one of them does not exist. -/
def changeAll (state : AttemptState) (changes : List (String × Value)) :
    Except Fault AttemptState :=
  changes.foldlM (fun state entry => state.change entry.1 entry.2) state

/-- A state made of parts; the others are as at the start. -/
def ofParts (parts : List (String × Value)) : Except Fault AttemptState :=
  match ({} : AttemptState).changeAll parts with
  | .ok state => .ok state
  | .error fault => .error (.misfit .type ("unexpected keyword argument '" ++ fault.message ++ "'"))

end AttemptState

end ObjectStore
