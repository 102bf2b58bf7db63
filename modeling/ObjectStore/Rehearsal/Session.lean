import ObjectStore.Client.Operations
import ObjectStore.Engine.Execute
import ObjectStore.Rehearsal.Change
import ObjectStore.Rehearsal.Listening
import ObjectStore.Rehearsal.Policy
import ObjectStore.Rehearsal.Script

/-!
Sessions: a client in a scripted world performs operations one after another. Contexts live on from
one operation to the next, and every listener is scripted.
-/

namespace ObjectStore.Rehearsal

/-- A context, and how many results the fault of its last attempt carries. -/
structure Held where
  context : OperationContext Number
  attached : Nat := 0

structure Session where
  world : World
  client : Client World Number
  rules : List Rule := []
  logThreshold : Option Int := none
  contexts : List (String × Held) := []
  /-- How many requests the operation before sent. -/
  lastSent : Nat := 0

/-- Where downloads write to. The write of a given number fails. -/
structure Sink where
  written : List UInt8 := []
  writes : Nat := 0
  failAt : Option Nat := none

def Sink.write (piece : List UInt8) : Act Fault Sink Unit := fun sink =>
  let sink := { sink with writes := sink.writes + 1 }
  if sink.failAt = some sink.writes then
    (.error (Cause.given (.system "OSError") [.text "disk full"]), sink)
  else (.ok (), { sink with written := sink.written ++ piece })

inductive Job where
  | getProperties (path : Value) (conditions : Option AccessCondition)
  | downloadBytes (part : Client.Part)
  /-- Without a sink there is nowhere to write to. -/
  | downloadStream (part : Client.Part) (sink : Option Sink)
  | uploadBytes (cargo : Client.Cargo) (data : Value)
  | uploadStream (cargo : Client.Cargo) (source : Value) (count : Option Int)
  | execute (request : Except Fault (Script × Setting)) (retry : Option PolicyChoice)
      (newEngine : Bool)

structure Task where
  job : Job
  options : Options Number PolicyChoice := {}
  context : Option String := none

structure Performance where
  result : Except Failure (Option Answer)
  journal : List (Entry Number) := []
  written : Option (List UInt8) := none
  states : Option (List AttemptState) := none

namespace Session

/-- No operation makes more attempts than this. -/
def patience : Nat := 100000

def engine (session : Session) (isNew : Bool) : Engine World Number where
  surroundings := World.surroundings session.logThreshold
  client := session.client
  handlers := if isNew then {} else handlers session.rules "client"

def freshContext (identity : String) : OperationContext Number where
  requestId := identity
  clientTime := .int 0

/-- Gives a context an identity unless it has one. -/
def identify (context : OperationContext Number) (world : World) :
    OperationContext Number × World :=
  if context.requestId.isEmpty then
    let (identity, world) := world.newIdentity
    ({ context with requestId := identity }, world)
  else (context, world)

/-- Adds a context. The time at which its token is cancelled counts only if the token is new. -/
def addContext (name : String) (context : OperationContext Number) (cancelAt : Option Number)
    (session : Session) : String × Session :=
  let world := match context.token with
    | some token => session.world.addToken token cancelAt
    | none => session.world
  let (context, world) := identify context world
  (context.requestId,
    { session with world, contexts := assign name { context } session.contexts })

def change (changes : List Change) (session : Session) : Session :=
  { session with client := changeClient changes session.client }

def advance (seconds : Number) (session : Session) : Session :=
  { session with world := session.world.advance seconds }

def respond (responders : List Responder) (session : Session) : Session :=
  { session with world := { session.world with responders } }

/-- Cancels a token. Tells of every token, in the order of their names, whether it is cancelled. -/
def cancel (token : String) (session : Session) : List Bool × Session :=
  let world := session.world.cancel token
  let names := (world.tokens.map Prod.fst).mergeSort fun a b => a ≤ b
  (names.map world.isCancelled, { session with world })

def held? (session : Session) (name : Option String) : Option Held :=
  name.bind fun name => session.contexts.lookup name

def attachedAfter (result : Except Failure (Option Answer)) (results : Nat) : Nat :=
  match result with
  | .error ⟨_, .recorded, _⟩ => results
  | _ => 0

/-- Runs an operation in a context, or in one of its own. -/
def run (session : Session) (operation : Except Fault (Operation World Number ω)) (work : ω)
    (name : Option String) (retry : Option PolicyChoice) (newEngine : Bool) :
    Except Failure (Option Answer) × List (Entry Number) × ω × Session :=
  match operation with
  | .error fault => (.error ⟨fault, .unprepared, none⟩, [], work, session)
  | .ok operation =>
    let held := session.held? name
    let (context, world) := match held with
      | some held => (held.context, session.world)
      | none =>
        let (identity, world) := session.world.newIdentity
        (freshContext identity, world)
    let listening := match held, name with
      | some _, some name => handlers session.rules name
      | _, _ => {}
    let (result, run) := (session.engine newEngine).execute operation
      (retry.map PolicyChoice.policy) listening patience ⟨world, work, context, []⟩
    let contexts := match held, name with
      | some _, some name =>
        assign name ⟨run.context, attachedAfter result run.context.results.length⟩ session.contexts
      | _, _ => session.contexts
    (result, run.journal, run.work, { session with world := run.world, contexts })

def collected (result : Except Failure (Option Answer)) (content : List UInt8) :
    Except Failure (Option Answer) :=
  result.map fun answer => answer.map fun _ => .value (.bytes content)

def apart (x : Except Fault (α × β)) (default : β) : Except Fault α × β :=
  match x with
  | .ok (a, b) => (.ok a, b)
  | .error fault => (.error fault, default)

def emptyStream : Stream := ⟨.memory, [], 0⟩

def performJob (session : Session) (task : Task) : Performance × Session :=
  let options := task.options.mapRetry PolicyChoice.policy
  match task.job with
  | .getProperties path conditions =>
    let (result, journal, _, session) :=
      session.run (Client.getProperties path conditions options) () task.context none false
    ({ result, journal }, session)
  | .downloadBytes part =>
    let (result, journal, content, session) :=
      session.run (Client.downloadBytes part options) [] task.context none false
    ({ result := collected result content, journal }, session)
  | .downloadStream part sink =>
    let (result, journal, after, session) :=
      session.run (Client.downloadTo (sink.map fun _ => Sink.write) part options)
        (sink.getD {}) task.context none false
    ({ result, journal, written := sink.map fun _ => after.written }, session)
  | .uploadBytes cargo data =>
    let (operation, stream) := apart (Client.uploadBytes cargo data options) emptyStream
    let (result, journal, _, session) := session.run operation stream task.context none false
    ({ result, journal }, session)
  | .uploadStream cargo source count =>
    let (operation, stream) := apart (Client.uploadStream cargo source count options) emptyStream
    let (result, journal, _, session) := session.run operation stream task.context none false
    ({ result, journal }, session)
  | .execute request retry newEngine =>
    match request with
    | .error fault =>
      ({ result := .error ⟨fault, .unprepared, none⟩, states := some [] }, session)
    | .ok (script, setting) =>
      let (result, journal, stage, session) :=
        session.run (.ok (operation script setting options)) { script } task.context retry
          newEngine
      ({ result, journal, states := some stage.states }, session)

def perform (session : Session) (task : Task) : Performance × Session :=
  let (performance, session) := session.performJob task
  (performance, { session with lastSent := (performance.journal.filterMap Entry.sent?).length })

end Session

end ObjectStore.Rehearsal
