/-!
The two locations that hold an account's data, the modes that say which of them an operation may
use, and the restrictions an operation itself is under.
-/

namespace ObjectStore

/-- Something chosen by its name. Callers may name none, or one that is not known. -/
inductive Named (α : Type) where
  | known (a : α)
  | other (name : Option String)
deriving DecidableEq

inductive Location where
  | primary
  /-- A read-only copy that may lag behind. -/
  | secondary
deriving DecidableEq

inductive Mode where
  | primaryOnly
  /-- Starts at the primary location and alternates. -/
  | primaryThenSecondary
  | secondaryOnly
  | secondaryThenPrimary
deriving DecidableEq

inductive Restriction where
  | primaryOnly
  | secondaryOnly
  | either
deriving DecidableEq

namespace Location

def name : Location → String
  | primary => "primary"
  | secondary => "secondary"

def all : List Location := [primary, secondary]

end Location

namespace Mode

def name : Mode → String
  | primaryOnly => "primary_only"
  | primaryThenSecondary => "primary_then_secondary"
  | secondaryOnly => "secondary_only"
  | secondaryThenPrimary => "secondary_then_primary"

def all : List Mode := [primaryOnly, primaryThenSecondary, secondaryOnly, secondaryThenPrimary]

end Mode

namespace Restriction

def name : Restriction → String
  | primaryOnly => "primary_only"
  | secondaryOnly => "secondary_only"
  | either => "primary_or_secondary"

def all : List Restriction := [primaryOnly, secondaryOnly, either]

end Restriction

namespace Named

instance : Inhabited (Named α) := ⟨other none⟩

instance : Coe α (Named α) := ⟨known⟩

def ofName (all : List α) (nameOf : α → String) (name : Option String) : Named α :=
  match all.find? fun a => some (nameOf a) == name with
  | some a => known a
  | none => other name

def location : Option String → Named Location :=
  ofName Location.all Location.name

def mode : Option String → Named Mode :=
  ofName Mode.all Mode.name

def restriction : Option String → Named Restriction :=
  ofName Restriction.all Restriction.name

def name? (nameOf : α → String) : Named α → Option String
  | known a => some (nameOf a)
  | other name => name

def text (nameOf : α → String) (n : Named α) : String :=
  (n.name? nameOf).getD "None"

end Named

end ObjectStore
