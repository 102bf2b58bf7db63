import ObjectStore.Deadline
import ObjectStore.Location.Basic
import ObjectStore.Value.Basic

/-!
Options of an operation. What is left open is taken from the defaults of the client.
-/

namespace ObjectStore

/-- `ρ` is the type of retry policies. -/
structure Options (τ ρ : Type) where
  /-- The time limit of the server for each request. -/
  serverTimeout : Value := .null
  /-- The time the operation may take in all. -/
  budget : Timeout τ := .none
  mode : Option (Named Mode) := none
  retry : Option ρ := none
  timeout : Timeout τ := .none
  /-- Each range that is transferred comes with its digest. -/
  rangeDigest : Value := .null
  /-- The digest of a whole resource is not checked. -/
  skipDigest : Value := .null

structure Defaults (τ ρ : Type) where
  budget : Timeout τ := .none
  mode : Option (Named Mode) := none
  retry : Option ρ := none
  timeout : Timeout τ := .none

/-- The default mode; an empty one counts as none. -/
def Defaults.modeOrPrimary (defaults : Defaults τ ρ) : Named Mode :=
  match defaults.mode with
  | none | some (.other none) | some (.other (some "")) => .known .primaryOnly
  | some mode => mode

def Options.mapRetry (f : α → β) (options : Options τ α) : Options τ β :=
  { options with retry := options.retry.map f }

/-- A choice that was left open is a refusal. -/
def orFalse (choice : Value) : Value :=
  if choice.isNull then .bool false else choice

def Options.withDefaults (options : Options τ ρ) (defaults : Defaults τ ρ) : Options τ ρ where
  serverTimeout := options.serverTimeout
  budget := options.budget.orElse defaults.budget
  mode := some (options.mode.getD defaults.modeOrPrimary)
  retry := options.retry.orElse fun _ => defaults.retry
  timeout := options.timeout.orElse defaults.timeout
  rangeDigest := orFalse options.rangeDigest
  skipDigest := orFalse options.skipDigest

end ObjectStore
