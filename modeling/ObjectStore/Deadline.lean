import ObjectStore.Time.Seconds
import ObjectStore.Value.Conversion

/-!
The time an operation may take as a whole, and what it leaves to each attempt. A deadline is an
instant, or none if there is no limit.
-/

namespace ObjectStore

/-- How long an attempt may wait for the service: no limit, one limit, or limits for its parts. -/
inductive Timeout (τ : Type) where
  | none
  | single (limit : τ)
  | parts (limits : List (Option τ))
  /-- A value that is no limit. It is found out when it meets a deadline. -/
  | unordered (value : Value)

namespace Timeout

def limit? : Value → Option (Option Number)
  | .null => some Option.none
  | value => value.number?.map some

def ofValue (value : Value) : Timeout Number :=
  match value with
  | .null => .none
  | .tuple items =>
    match items.mapM limit? with
    | some limits => .parts limits
    | Option.none => .unordered value
  | _ =>
    match value.number? with
    | some n => .single n
    | Option.none => .unordered value

def orElse (timeout default : Timeout τ) : Timeout τ :=
  match timeout with
  | .none => default
  | timeout => timeout

/-- What keeps a value from being a limit: the value, or the first such part of it. -/
def offender : Value → Value
  | .tuple items => (items.find? fun item => (limit? item).isNone).getD (.tuple items)
  | value => value

end Timeout

namespace Deadline

variable {τ : Type} [Seconds τ]

def expiry (now : τ) : Option τ → Except Fault (Option τ)
  | none => .ok none
  | some budget =>
    if Seconds.isNegative budget then .error (Cause.negative "maximum_execution_time")
    else (Seconds.add now budget).map some

/-- The instant at which a budget is spent that is written as a limit. It has no parts. -/
def ofBudget (now : τ) : Timeout τ → Except Fault (Option τ)
  | .none => .ok none
  | .single budget => expiry now (some budget)
  | .parts _ => .error (Value.tuple []).unordered
  | .unordered value => .error value.unordered

/-- Whether the deadline will be past after some more time. At the deadline itself it is not. -/
def hasExpired (now : τ) (deadline : Option τ) (more : τ) : Except Fault Bool :=
  match deadline with
  | none => .ok false
  | some deadline => (Seconds.add now more).map fun later => Seconds.lt deadline later

/-- The time that is left, which is more than none. -/
def remaining (now : τ) : Option τ → Except Fault (Option τ)
  | none => .ok none
  | some deadline => do
    let left ← Seconds.sub deadline now
    if Seconds.le left Seconds.zero then .error Cause.timedOut else .ok (some left)

/-- The limits of an attempt that has some time left. -/
def within (left : τ) : Timeout τ → Except Fault (Timeout τ)
  | .none => .ok (.single left)
  | .single limit => .ok (.single (Seconds.shorter limit left))
  | .parts limits => .ok (.parts (limits.map fun
      | none => some left
      | some limit => some (Seconds.shorter limit left)))
  | .unordered value =>
    .error (.misfit .type ("'<' not supported between instances of 'float' and '" ++
      (Timeout.offender value).fullTypeName ++ "'"))

/-- The limits of an attempt that must end before the deadline. -/
def bound (now : τ) (deadline : Option τ) (timeout : Timeout τ) : Except Fault (Timeout τ) := do
  match ← remaining now deadline with
  | none => return timeout
  | some left => within left timeout

end Deadline

end ObjectStore
