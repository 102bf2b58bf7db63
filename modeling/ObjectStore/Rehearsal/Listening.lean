import ObjectStore.Rehearsal.World

/-!
Scripted listeners: they do what their rules say when they hear an event.
-/

namespace ObjectStore.Rehearsal

inductive Action where
  | setStatus (status : Int)
  | setResponseHeader (name : String) (value : Value)
  | setRequestHeader (name : String) (value : Value)
  | advance (seconds : Number)
  | cancel (token : String)
  | raise (fault : Fault)

/-- A rule of a listener for events of a kind, either for one of them or for all. -/
structure Rule where
  listener : String
  kind : Event.Kind
  nth : Option Nat := none
  actions : List Action

abbrev Hearing := Act Fault (World × Exchange)

def onResponse (f : Response → Response) : Hearing Unit := fun (world, exchange) =>
  match exchange.response with
  | some response => (.ok (), world, { exchange with response := some (f response) })
  | none => (.error (Value.null.lacks "status"), world, exchange)

def Action.perform : Action → Hearing Unit
  | setStatus status => onResponse fun response => { response with status }
  | setResponseHeader name value =>
    onResponse fun response => { response with headers := response.headers.set name value }
  | setRequestHeader name value => Act.change fun (world, exchange) =>
    (world, { exchange with request := exchange.request.setHeader name value })
  | advance seconds => Act.change fun (world, exchange) => (world.advance seconds, exchange)
  | cancel token => Act.change fun (world, exchange) => (world.cancel token, exchange)
  | raise fault => Act.fail fault

def performAll : List Action → Hearing Unit
  | [] => pure ()
  | action :: rest => do
    action.perform
    performAll rest

def Rule.applies (rule : Rule) (listener : String) (kind : Event.Kind) (count : Nat) : Bool :=
  rule.listener == listener && rule.kind = kind && rule.nth.all (· == count)

def listener (rules : List Rule) (name : String) : Listener World where
  name
  hear event := fun (world, exchange) =>
    let (count, world) := world.countHeard name event.kind
    performAll ((rules.filter (·.applies name event.kind count)).flatMap (·.actions))
      (world, exchange)

def handlers (rules : List Rule) (name : String) : Handlers World :=
  .every (listener rules name)

end ObjectStore.Rehearsal
