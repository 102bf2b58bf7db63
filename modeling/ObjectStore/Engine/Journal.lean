import ObjectStore.Connection
import ObjectStore.Event.Basic
import ObjectStore.Operation.Basic

/-!
The state of a running operation and its journal: what was sent and when, what each listener heard,
the pauses and the log entries, in the order in which they happened.
-/

namespace ObjectStore

inductive Entry (τ : Type) where
  | sent (request : Outgoing τ) (clock : τ)
  | heard (listener : String) (event : Event) (exchange : Exchange)
  /-- A pause that nothing can cut short. -/
  | slept (span clock : τ)
  /-- A pause that ends early if the operation is cancelled. -/
  | waited (span clock : τ)
  | logged (record : Log.Record)

namespace Entry

def sent? : Entry τ → Option (Outgoing τ)
  | sent request _ => some request
  | _ => none

def heard? : Entry τ → Option (String × Event × Exchange)
  | heard listener event exchange => some (listener, event, exchange)
  | _ => none

def logged? : Entry τ → Option Log.Record
  | logged record => some record
  | _ => none

end Entry

structure Run (σ τ ω : Type) where
  world : σ
  work : ω
  context : OperationContext τ
  journal : List (Entry τ) := []

namespace Run

variable {σ τ ω : Type}

def note (entry : Entry τ) (run : Run σ τ ω) : Run σ τ ω :=
  { run with journal := run.journal ++ [entry] }

/-- Logs a line if anybody listens; `threshold` is the level of the log. -/
def log (threshold : Option Int) (line : Log.Line) (run : Run σ τ ω) : Run σ τ ω :=
  match (run.context.audience threshold).record? line with
  | some record => run.note (.logged record)
  | none => run

def logAll (threshold : Option Int) (lines : List Log.Line) (run : Run σ τ ω) : Run σ τ ω :=
  lines.foldl (fun run line => run.log threshold line) run

end Run

end ObjectStore
