import ObjectStore.Rehearsal.Naming
import ObjectStore.Rehearsal.World

/-!
Retry policies as they are chosen in scripts.
-/

namespace ObjectStore.Rehearsal

inductive PolicyChoice where
  | exponential (policy : Retry.Exponential)
  | linear (policy : Retry.Linear)
  /-- The same policy, known by its decision alone. -/
  | bound (policy : Retry.Linear)
  /-- A policy with something else than a number among its numbers. -/
  | unusable (grows : Bool) (most : Option Number) (toSecondary : Bool)
  | never
  /-- Waits from a list, of which the last repeats. -/
  | waits (spans : List (Option Number))

namespace PolicyChoice

/-- The wait after a number of repetitions. -/
def spanAt (spans : List (Option Number)) (count : Int) : Except Fault (Option Number) :=
  let last : Int := (spans.length : Int) - 1
  let i := if last < count then last else count
  let i := if i < 0 then i + spans.length else i
  match if i < 0 then none else spans[i.toNat]? with
  | some span => .ok span
  | none => .error (.misfit .index "list index out of range")

def policy : PolicyChoice → Policy World Number
  | exponential policy => .exponential World.fraction policy
  | linear policy | bound policy => .linear policy
  | unusable _ most toSecondary => .unusable most (.misfit .type "not a number") toSecondary
  | never => .never
  | waits spans => { decide := fun context => Act.ofExcept (spanAt spans context.count) }

def name : PolicyChoice → String
  | exponential _ | unusable true .. => "ExponentialRetry"
  | linear _ | unusable false .. => "LinearRetry"
  | bound _ => "bound LinearRetry"
  | never => "function no_retry"
  | waits _ => "function script"

/-- The parts of a kind of policy, and what they are unless something else is said. -/
def standardParts (kind : String) : Fields Value :=
  let both : List (String × Value) := [("max_attempts", .int 3), ("retry_to_secondary", .bool false)]
  .ofList (match kind with
    | "exponential" =>
      [("initial_backoff", .int 30), ("min_backoff", .int 3), ("max_backoff", .int 90)] ++ both
    | "linear" | "bound" => ("backoff", .int 30) :: both
    | _ => [])

/-- All parts of a policy of which some are given. -/
def partsOf (kind : String) (given : Fields Value) : Fields Value :=
  (standardParts kind).map fun name standard => (given.get? name).getD standard

/-- What can be told about a policy: its parts, unless only its decision is known. -/
def config (kind : String) (given : Fields Value) : Fields Value :=
  if kind = "bound" then {} else partsOf kind given

def linearOf (part : String → Value) : Except PolicyChoice Retry.Linear :=
  let toSecondary := (part "retry_to_secondary").truthy
  match (part "max_attempts").number? with
  | some most => .ok ⟨(part "backoff").number?, most, toSecondary⟩
  | none => .error (unusable false none toSecondary)

def exponentialOf (part : String → Value) : Except Fault PolicyChoice :=
  let toSecondary := (part "retry_to_secondary").truthy
  let least := part "min_backoff"
  let most := part "max_backoff"
  match most.number?, least.number? with
  | some greatest, some smallest =>
    if greatest.lt smallest then .error (Cause.backoffBounds most.toText least.toText)
    else match (part "initial_backoff").number?, (part "max_attempts").number? with
    | some first, some attempts =>
      (Retry.Exponential.make first smallest greatest attempts toSecondary).map exponential
    | _, attempts => .ok (unusable true attempts toSecondary)
  | _, _ =>
    .error (.misfit .type ("'<' not supported between instances of '" ++ most.fullTypeName ++
      "' and '" ++ least.fullTypeName ++ "'"))

/-- Policies made of parts have no other parts than those of their kind. -/
def checkParts (kind : String) (given : Fields Value) : Except Fault Unit :=
  let known := (standardParts kind).names
  if known.isEmpty then .ok () else checkNames known [] given.names

def ofParts? (kind : String) (given : Fields Value) (spans : List (Option Number)) :
    Except Fault (Option PolicyChoice) := do
  checkParts kind given
  let part (name : String) := ((partsOf kind given).get? name).getD .null
  let fixed (make : Retry.Linear → PolicyChoice) : PolicyChoice :=
    match linearOf part with
    | .ok policy => make policy
    | .error choice => choice
  match kind with
  | "exponential" => (exponentialOf part).map some
  | "linear" => .ok (some (fixed linear))
  | "bound" => .ok (some (fixed bound))
  | "none" => .ok (some never)
  | "script" => .ok (some (waits spans))
  | _ => .ok none

end PolicyChoice

end ObjectStore.Rehearsal
