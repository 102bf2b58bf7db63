import ObjectStore.Rehearsal.World

/-!
Operations whose steps follow a script: each step has a list of cues, one for each time it is taken,
of which the last repeats.
-/

namespace ObjectStore.Rehearsal

/-- One turn of a step: the clock advances, then the step fails or does what it is to do. -/
structure Cue (α : Type) where
  advance : Number := .int 0
  raise : Option Fault := none
  task : α

inductive Judgement where
  | success (value : Value)
  | retryable (fault : Fault)
  | fatal (fault : Fault)
  | byStatus

inductive Finish where
  | keep
  | body
  | pieces (size : Int)

structure Recovery where
  changes : List (String × Value) := []
  addOffset : Option Int := none

structure Script where
  build : List (Cue Request)
  setHeaders : Option (List (Cue (Fields Value))) := none
  sign : Option (List (Cue Unit)) := none
  judge : Option (List (Cue Judgement)) := none
  finish : Option (List (Cue Finish)) := none
  recover : Option (List (Cue Recovery)) := none

/-- What is left of a script, and the states that requests were built from. -/
structure Stage where
  script : Script
  states : List AttemptState := []

abbrev Play (α : Type) := Step World Stage α

def takeCue (default : α) (get : Script → List (Cue α)) (set : List (Cue α) → Script → Script) :
    Play α := do
  let (cue, rest) := draw { task := default } (get (← Act.read).work.script)
  Act.change fun bench => { bench with
    work := { bench.work with script := set rest bench.work.script }
    world := bench.world.advance cue.advance }
  match cue.raise with
  | some fault => Act.fail fault
  | none => return cue.task

def buildStep (default : Request) (state : AttemptState) : Play Request := do
  Act.change fun bench =>
    { bench with work := { bench.work with states := bench.work.states ++ [state] } }
  takeCue default (·.build) fun build script => { script with build }

def headersStep (_ : AttemptState) (request : Request) : Play Request := do
  let headers ← takeCue {} (·.setHeaders.getD []) fun cues script =>
    { script with setHeaders := some cues }
  return request.setHeaders headers

def signStep (request : Request) : Play Request := do
  takeCue () (·.sign.getD []) fun cues script => { script with sign := some cues }
  return request

def judgeStep (accepts : Int → Bool) : Handling World Stage Outcome := do
  let judgement ← Handling.onBench (takeCue .byStatus (·.judge.getD []) fun cues script =>
    { script with judge := some cues })
  match judgement with
  | .success value => return .success (.value value)
  | .retryable fault => return .retryable fault
  | .fatal fault => return .fatal fault
  | .byStatus => Operation.judgeStatus accepts

def takeCounted (size : Int) : Handling World Stage Product := do
  let (pieces, fault) ← Handling.takePieces size
  Handling.changeState fun state =>
    { state with received := state.received + pieces.flatten.length }
  match fault with
  | some fault => Act.fail fault
  | none => return .value (.list (pieces.map .bytes))

def finishStep (product : Product) : Handling World Stage Product := do
  let finish ← Handling.onBench (takeCue .keep (·.finish.getD []) fun cues script =>
    { script with finish := some cues })
  match finish with
  | .keep => return product
  | .body => return .value (← Handling.readBody)
  | .pieces size => takeCounted size

def recoverStep (state : AttemptState) : Play AttemptState := do
  let recovery ← takeCue {} (·.recover.getD []) fun cues script =>
    { script with recover := some cues }
  let changed ← Act.ofExcept (state.changeAll recovery.changes)
  return match recovery.addOffset with
    | some more => { changed with offset := some (state.offset.getD 0 + more) }
    | none => changed

structure Setting where
  target : String
  restriction : Named Restriction := .known .primaryOnly
  expectedErrors : List Value := []
  expectedStatus : List Value := []
  streamed : Bool := false
  endpoints : Option Endpoints := none
  start : AttemptState := {}

/-- The operation that follows a script. Steps without a list of cues are the standard ones. -/
def operation (script : Script) (setting : Setting) (options : Options Number (Policy World Number)) :
    Operation World Number Stage where
  build := buildStep { method := "GET", path := some ("/" ++ setting.target) }
  setHeaders := if script.setHeaders.isSome then headersStep else fun _ request => pure request
  sign := if script.sign.isSome then some signStep else none
  judge :=
    let accepts := Operation.accepts setting.expectedStatus
    if script.judge.isSome then judgeStep accepts else Operation.judgeStatus accepts
  finish := if script.finish.isSome then finishStep else pure
  recover := if script.recover.isSome then recoverStep else pure
  restriction := setting.restriction
  options
  endpoints := setting.endpoints
  expectedErrors := setting.expectedErrors
  streamed := setting.streamed
  start := setting.start

end ObjectStore.Rehearsal
