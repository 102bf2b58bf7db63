import ObjectStore.Engine.Basic
import ObjectStore.Rehearsal.Phrase
import ObjectStore.Retry.Backoff

/-!
A scripted world: a clock that only scripts move, random numbers from a list, tokens that are cancelled
at set times, and a service that answers from a list of scripted answers.
-/

namespace ObjectStore.Rehearsal

/-- What answers a request. The clock is advanced first. -/
structure Scripted where
  advance : Number := .int 0
  raise : Option Fault := none
  status : Int := 200
  /-- None stands for the standard phrase. -/
  reason : Option Value := none
  headers : Fields Value := {}
  body : List UInt8 := []
  /-- How many bytes of the body are delivered before it fails. -/
  failAfter : Option Nat := none
  failWith : Fault := Cause.given (.system "ConnectionError") [.text "Connection reset by peer"]

namespace Scripted

/-- The body up to where it fails. A failure beyond its end is never met. -/
def incoming (scripted : Scripted) : Incoming :=
  match scripted.failAfter with
  | none => .ofContent scripted.body none
  | some n =>
    if n ≤ scripted.body.length then .ofContent (scripted.body.take n) (some scripted.failWith)
    else .ofContent scripted.body none

def reply (scripted : Scripted) : Reply where
  status := scripted.status
  reason := scripted.reason.getD (.text (phrase scripted.status))
  headers := scripted.headers
  incoming := scripted.incoming

end Scripted

/-- An answer that may depend on the host. -/
structure Responder where
  byHost : List (String × Scripted) := []
  otherwise : Scripted := {}

/-- The answer of the first host that the address is on. -/
def Responder.pick (responder : Responder) (url : String) : Scripted :=
  match responder.byHost.find? fun entry =>
      Text.occursIn ("://" ++ entry.1).toList url.toList with
  | some entry => entry.2
  | none => responder.otherwise

structure Token where
  cancelled : Bool := false
  cancelAt : Option Number := none

structure World where
  clock : Number
  /-- Fractions to draw, of which the last repeats. -/
  fractions : List Float := [0.5]
  identities : Nat := 0
  tokens : List (String × Token) := []
  /-- Answers to come, of which the last repeats. -/
  responders : List Responder := [{}]
  /-- How often each listener heard each kind of event. -/
  heard : List ((String × Event.Kind) × Nat) := []

/-- The first of a list and what is left; the last is never used up. -/
def draw (default : α) : List α → α × List α
  | [] => (default, [])
  | [last] => (last, [last])
  | first :: rest => (first, rest)

namespace World

def advance (seconds : Number) (world : World) : World :=
  { world with clock := (world.clock.add? seconds).getD world.clock }

/-- The wall clock shows the start of 2018 when the clock is at zero. -/
def epoch : Int := 1514764800

def seconds (world : World) : Int :=
  epoch + (Number.truncate? world.clock.toFloat.floor).getD 0

/-- A double that is not negative, rounded to a whole number; of two that are as near, the even one
is taken. -/
def roundHalfEven (x : Float) : Nat :=
  let low := x.floor
  let n := ((Number.truncate? low).getD 0).toNat
  if x - low > 0.5 || (x - low == 0.5 && n % 2 = 1) then n + 1 else n

def moment (world : World) : Time.DateTime :=
  let clock := world.clock.toFloat
  let micro := roundHalfEven ((clock - clock.floor) * 1000000)
  .ofSeconds (world.seconds + (micro / 1000000 : Nat)) (micro % 1000000) (some 0)

/-- Dates are read on the day that the wall clock shows. -/
def readDate (world : World) (value : Value) : Except Fault Time.DateTime :=
  value.readMoment world.moment.date

def newIdentity (world : World) : String × World :=
  let n := world.identities + 1
  ("00000000-0000-0000-0000-" ++ Time.padded 12 n, { world with identities := n })

def fraction : Act Fault World Float := fun world =>
  let (x, rest) := draw 0.5 world.fractions
  (.ok x, { world with fractions := rest })

def send (request : Outgoing Number) : Act Fault World Reply := fun world =>
  let (responder, rest) := draw {} world.responders
  let scripted := responder.pick request.url
  let world := { world with responders := rest }.advance scripted.advance
  match scripted.raise with
  | some fault => (.error fault, world)
  | none => (.ok scripted.reply, world)

def sleep (span : Number) : Act Fault World Unit := fun world =>
  if span.lt (.int 0) then (.error Cause.negativePause, world)
  else (.ok (), world.advance span)

def token (name : String) (world : World) : Token :=
  (world.tokens.lookup name).getD {}

def setToken (name : String) (token : Token) (world : World) : World :=
  { world with tokens := assign name token world.tokens }

/-- Makes a token unless there is one of that name. -/
def addToken (name : String) (cancelAt : Option Number) (world : World) : World :=
  if (world.tokens.lookup name).isSome then world else world.setToken name { cancelAt }

/-- A token is cancelled by a call, or from a set time on. -/
def isCancelled (name : String) (world : World) : Bool :=
  let token := world.token name
  token.cancelled || token.cancelAt.any (·.le world.clock)

def cancel (name : String) (world : World) : World :=
  world.setToken name { world.token name with cancelled := true }

def wait (name : String) (span : Number) : Act Fault World Bool := fun world =>
  if world.isCancelled name then (.ok true, world)
  else
    let waited := world.advance (if span.lt (.int 0) then .int 0 else span)
    match (world.token name).cancelAt with
    | some time =>
      if time.le waited.clock then (.ok true, { world with clock := time })
      else (.ok false, waited)
    | none => (.ok false, waited)

/-- How often an event was heard before, counting this time. -/
def countHeard (listener : String) (kind : Event.Kind) (world : World) : Nat × World :=
  let key := (listener, kind)
  let count := (world.heard.lookup key).getD 0
  (count, { world with heard := (key, count + 1) :: world.heard.filter (·.1 != key) })

def surroundings (logThreshold : Option Int) : Surroundings World Number where
  clock := clock
  seconds := seconds
  moment := moment
  readDate := readDate
  send := send
  sleep := sleep
  isCancelled := isCancelled
  wait := wait
  logThreshold

end World

end ObjectStore.Rehearsal

namespace ObjectStore

/-- The date of a response by itself, read when the clock is at zero. -/
def Response.date (response : Response) : Except Fault Value :=
  response.dateBy (Rehearsal.World.readDate { clock := .int 0 })

end ObjectStore
