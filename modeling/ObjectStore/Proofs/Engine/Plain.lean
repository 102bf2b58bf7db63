import ObjectStore.Proofs.Engine.Attempt
import ObjectStore.Retry.Backoff

/-! An engine in its plainest form: no credentials, no listeners, and a world in which nothing happens
but what the service and the pauses do. Statements about all engines are tried on it, with a few policies,
an operation that sends an empty request, and replies that are made up. -/

namespace ObjectStore

variable {σ τ ω : Type} [Seconds τ]

/-- Gives up nothing and never waits. -/
def Policy.persistent : Policy σ τ where
  decide _ := pure (some Seconds.zero)

/-- Repeats an operation once, and never waits. -/
def Policy.once : Policy σ τ where
  decide context := pure (if context.count < 1 then some Seconds.zero else none)

/-- Repeats what another attempt may mend, twice at most, and waits a second each time. -/
def Policy.twice : Policy σ Number :=
  .linear { backoff := some (.int 1), maxAttempts := .int 2 }

/-- Never gives up, and goes back and forth between the locations. -/
def Policy.alternating : Policy σ τ :=
  { Policy.persistent with toSecondary := true }

def Client.plain (policy : Policy σ τ) : Client σ τ where
  credentials := {}
  primaryHost := some "a.example"
  secondaryHost := none
  authentication := .anonymous
  connection := { timeout := .none }
  retry := some policy
  sender := ⟨.null, .null⟩

/-- A client of two locations. -/
def Client.paired (policy : Policy σ τ) : Client σ τ :=
  { Client.plain policy with secondaryHost := some "b.example" }

def Engine.plain (clock : σ → τ) (send : Outgoing τ → Act Fault σ Reply)
    (sleep : τ → Act Fault σ Unit) : Engine σ τ where
  surroundings := {
    clock
    seconds := fun _ => 0
    moment := fun _ => Time.DateTime.ofSeconds 0 0 none
    readDate := fun _ => Value.readMoment ⟨1970, 1, 1⟩
    send
    sleep
    isCancelled := fun _ _ => false
    wait := fun _ _ => pure false }
  client := .plain .persistent

section Unheard

variable {clock : σ → τ} {send : Outgoing τ → Act Fault σ Reply} {sleep : τ → Act Fault σ Unit}

theorem Engine.bounded_plain (bounds : Frame (σ × Exchange)) (kind : Event.Kind) :
    (Engine.plain clock send sleep).Bounded {} bounds kind := by
  intro listener none
  cases kind <;> exact absurd none List.not_mem_nil

theorem Engine.polite_plain (kind : Event.Kind) : (Engine.plain clock send sleep).Polite {} kind := by
  intro listener none
  cases kind <;> exact absurd none List.not_mem_nil

end Unheard

def OperationContext.plain : OperationContext τ where
  requestId := "id"
  clientTime := Seconds.zero

/-- A reply that announces a length. The content arrives as one piece. -/
def Reply.plain (status : Int) (length : String) (content : List UInt8) (ending : Option Fault) :
    Reply where
  status
  reason := .null
  headers := Fields.ofList [("Content-Length", .text length)]
  incoming := { deliver := fun _ => [content], ending }

def Fault.lost : Fault :=
  Cause.given (.system "ConnectionError") []

/-- The service answers the requests it gets one by one, and time stands still. -/
def Engine.answering (replies : Nat → Reply) : Engine Nat Number :=
  .plain (fun _ => .float 0) (fun _ sent => (.ok (replies sent), sent + 1)) fun _ => pure ()

/-- Busy once, and then there is an answer. -/
def Reply.busyOnce : Nat → Reply
  | 0 => .plain 503 "0" [] none
  | _ => .plain 200 "0" [] none

/-- Busy all the time. The code in the body of the answer is a list. -/
def Reply.oddCode : Nat → Reply
  | _ => .plain 503 "27" (Text.Utf8.encode "\x7b\"odata.error\":\x7b\"code\":[]\x7d\x7d".toList) none

/-- An empty request, whose answer is judged by its status. -/
def Operation.plain : Operation σ τ Unit where
  build _ := pure {}
  judge := Operation.judgeStatus (Operation.accepts [])

/-- The beginning of a run in a world where nothing has happened. -/
def Run.plain [Inhabited σ] [Inhabited ω] : Run σ τ ω :=
  ⟨default, default, .plain, []⟩

omit [Seconds τ] in
theorem Operation.plain_within (bounds : Frame AttemptState) :
    (Operation.plain : Operation σ τ Unit).Within bounds where
  judges := judgeStatus_keeps (fun receipt _ => bounds.refl receipt.state) _
  finishes _ receipt := bounds.refl receipt.state
  recovers state := .pure (bounds.refl state)

/-- The empty request, which may be served by either location. -/
def Operation.roaming : Operation σ τ Unit :=
  { (Operation.plain : Operation σ τ Unit) with restriction := .known .either }

omit [Seconds τ] in
theorem Operation.roaming_within (bounds : Frame AttemptState) :
    (Operation.roaming : Operation σ τ Unit).Within bounds := by
  have plain : (Operation.plain : Operation σ τ Unit).Within bounds := plain_within bounds
  exact ⟨plain.judges, plain.finishes, plain.recovers⟩

/-- The outcome is an answer. -/
def Answer.isGiven : Except Failure (Option Answer) → Bool
  | .ok (some _) => true
  | _ => false

theorem Answer.given_of_isGiven {result : Except Failure (Option Answer)}
    (given : isGiven result = true) : ∃ answer, result = .ok (some answer) := by
  match result, given with
  | .ok (some answer), _ => exact ⟨answer, rfl⟩

/-- The operation failed in such a manner. -/
def Answer.failsIn (manner : Manner) : Except Failure (Option Answer) → Bool
  | .error failure => failure.manner == manner
  | _ => false

omit [Seconds τ] in
theorem Answer.failure_of_failsIn {manner : Manner} {outcome : Except Failure (Option Answer) × Run σ τ ω}
    (fails : failsIn manner outcome.1 = true) :
    ∃ failure, outcome = (.error failure, outcome.2) ∧ failure.manner = manner := by
  obtain ⟨result, ended⟩ := outcome
  cases result with
  | ok answer => cases fails
  | error failure => exact ⟨failure, rfl, beq_iff_eq.mp fails⟩

end ObjectStore
