import ObjectStore.Proofs.Engine.Path
import ObjectStore.Proofs.Engine.Remarks
import ObjectStore.Proofs.Signing.Veil

/-! Two runs that look the same through a veil. What is said and paused is the same in both, and what is heard
and sent differs in nothing but what the veil hides. -/

namespace ObjectStore

variable {σ τ ω ρ ε α : Type}

namespace Veil

variable (veil : Veil)

def outgoing (outgoing : Outgoing τ) : Outgoing τ :=
  { outgoing with
    params := outgoing.params.map (shade veil.parameter)
    headers := outgoing.headers.map (shade veil.header) }

def exchange (exchange : Exchange) : Exchange :=
  { exchange with request := veil.request exchange.request }

def context (context : RetryContext) : RetryContext :=
  { context with request := context.request.map veil.request }

def event : Event → Event
  | .retrying context => .retrying (veil.context context)
  | event => event

def entry : Entry τ → Entry τ
  | .sent outgoing clock => .sent (veil.outgoing outgoing) clock
  | .heard listener event exchange => .heard listener (veil.event event) (veil.exchange exchange)
  | entry => entry

def heard (entry : String × Event × Exchange) : String × Event × Exchange :=
  (entry.1, veil.event entry.2.1, veil.exchange entry.2.2)

variable {veil} {request other : Request}

theorem exchange_mk {response response' : Option Response} (same : veil.Same request other)
    (equal : response = response') :
    veil.exchange ⟨request, response⟩ = veil.exchange ⟨other, response'⟩ := by
  simp only [Veil.exchange, same, equal]

section Shown

variable {exchange exchange' : Exchange} (shown : veil.exchange exchange = veil.exchange exchange')
include shown

theorem request_eq : veil.Same exchange.request exchange'.request :=
  congrArg (·.request) shown

theorem response_eq : exchange.response = exchange'.response :=
  congrArg (·.response) shown

end Shown

theorem event_kind (event : Event) : (veil.event event).kind = event.kind := by
  cases event <;> rfl

theorem shownHeaders_request (request : Request) :
    (veil.request request).shownHeaders = request.shownHeaders := by
  simp only [Request.shownHeaders, Veil.request, Fields.map, List.map_map]
  congr 1
  refine List.map_congr_left fun entry _ => ?_
  cases hidden : veil.header entry.1 with
  | true => simp [veil.only_header _ hidden]
  | false => simp [shade, hidden]

theorem shownQuery_request (request : Request) : (veil.request request).shownQuery = request.shownQuery := by
  simp only [Request.shownQuery, Veil.request, Fields.map, List.map_map]
  congr 1
  refine List.map_congr_left fun entry _ => ?_
  cases hidden : veil.parameter entry.1 with
  | true => simp [veil.only_parameter _ hidden]
  | false => simp [shade, hidden]

/-- Logs do not show what is hidden. -/
theorem shown_eq (same : veil.Same request other) :
    request.method = other.method ∧ request.path = other.path ∧ request.shownQuery = other.shownQuery ∧
      request.shownHeaders = other.shownHeaders := by
  refine ⟨congrArg (·.method) same, congrArg (·.path) same, ?_, ?_⟩
  · rw [← shownQuery_request request, same, shownQuery_request]
  · rw [← shownHeaders_request request, same, shownHeaders_request]

/-- Whether a request can be sent does not depend on what is hidden. -/
theorem outgoing_agree (same : veil.Same request other) (connection : Connection τ)
    (timeout : Timeout τ) (streamed : Bool) :
    Agree (fun sent sent' => veil.outgoing sent = veil.outgoing sent')
      (connection.outgoing request timeout streamed) (connection.outgoing other timeout streamed) := by
  cases request
  cases other
  simp only [Veil.Same, Veil.request, Request.mk.injEq] at same
  obtain ⟨rfl, rfl, rfl, rfl, params, headers, rfl, rfl⟩ := same
  unfold Connection.outgoing
  dsimp only
  split
  all_goals
    refine .after _ fun body => .after _ fun protocol => .after _ fun path => .ok ?_
    simp only [Veil.outgoing, params, headers]

/-- What goes along with an exchange. -/
def Beside (veil : Veil) (close : ρ → ρ → Prop) (told other : ρ × Exchange) : Prop :=
  close told.1 other.1 ∧ veil.exchange told.2 = veil.exchange other.2

end Veil

/-- Runs that look the same through a veil, in worlds that are near each other. -/
structure Run.Near (veil : Veil) (near : σ → σ → Prop) (run other : Run σ τ ω) : Prop where
  world : near run.world other.world
  work : run.work = other.work
  context : run.context = other.context
  journal : run.journal.map veil.entry = other.journal.map veil.entry

namespace Run.Near

variable {veil : Veil} {near : σ → σ → Prop} {run other : Run σ τ ω}

theorem note (close : Run.Near veil near run other) {entry entry' : Entry τ}
    (same : veil.entry entry = veil.entry entry') :
    Run.Near veil near (run.note entry) (other.note entry') where
  world := close.world
  work := close.work
  context := close.context
  journal := by
    simp only [Run.note, List.map_append, close.journal, List.map_cons, same, List.map_nil]

theorem log (close : Run.Near veil near run other) (threshold : Option Int) (line : Log.Line) :
    Run.Near veil near (run.log threshold line) (other.log threshold line) := by
  unfold Run.log
  rw [close.context]
  split
  · exact close.note rfl
  · exact close

theorem logAll (close : Run.Near veil near run other) (threshold : Option Int) {lines lines' : List Log.Line}
    (same : lines = lines') :
    Run.Near veil near (run.logAll threshold lines) (other.logAll threshold lines') := by
  subst same
  induction lines generalizing run other with
  | nil => exact close
  | cons line rest ih => exact ih (close.log threshold line)

theorem worked (close : Run.Near veil near run other) {world world' : σ} {work work' : ω}
    (worlds : near world world') (works : work = work') :
    Run.Near veil near { run with world, work } { other with world := world', work := work' } :=
  ⟨worlds, works, close.context, close.journal⟩

/-- What is seen of the entries is the same if it does not change under the veil. -/
theorem views {view : Entry τ → Option ρ} {through : ρ → ρ}
    (sees : ∀ entry, view (veil.entry entry) = (view entry).map through)
    (close : Run.Near veil near run other) :
    (run.journal.filterMap view).map through = (other.journal.filterMap view).map through := by
  have seen : ∀ journal : List (Entry τ),
      (journal.filterMap view).map through = (journal.map veil.entry).filterMap view := by
    intro journal
    rw [List.map_filterMap, List.filterMap_map]
    exact congrArg (journal.filterMap ·) (funext fun entry => (sees entry).symm)
  rw [seen, close.journal, seen]

theorem views_eq {view : Entry τ → Option ρ} (sees : ∀ entry, view (veil.entry entry) = view entry)
    (close : Run.Near veil near run other) : run.journal.filterMap view = other.journal.filterMap view := by
  have seen : ∀ entry, view (veil.entry entry) = (view entry).map id :=
    fun entry => (sees entry).trans Option.map_id_apply.symm
  simpa only [List.map_id] using close.views seen

end Run.Near

def Bench.Near (near : σ → σ → Prop) (bench other : Bench σ ω) : Prop :=
  near bench.world other.world ∧ bench.work = other.work ∧ bench.said = other.said

def Receipt.Near (near : σ → σ → Prop) (receipt other : Receipt σ ω) : Prop :=
  receipt.bench.Near near other.bench ∧ receipt.state = other.state ∧ receipt.response = other.response

/-- The steps of an operation cannot tell worlds apart that are near each other. -/
structure Operation.Oblivious (operation : Operation σ τ ω) (near : σ → σ → Prop) : Prop where
  builds : ∀ state, (operation.build state).Alike (Bench.Near near) Eq (operation.build state)
  heads : ∀ state request,
    (operation.setHeaders state request).Alike (Bench.Near near) Eq (operation.setHeaders state request)
  signs : ∀ sign, operation.sign = some sign → ∀ request,
    (sign request).Alike (Bench.Near near) Eq (sign request)
  judges : operation.judge.Alike (Receipt.Near near) Eq operation.judge
  finishes : ∀ product,
    (operation.finish product).Alike (Receipt.Near near) Eq (operation.finish product)
  recovers : ∀ state, (operation.recover state).Alike (Bench.Near near) Eq (operation.recover state)

/-- Nothing can tell worlds apart that are near each other, and neither the service nor the policy nor a
listener looks at what is hidden. -/
structure Engine.Oblivious (engine : Engine σ τ) (operation : Operation σ τ ω) (policy : Policy σ τ)
    (handlers : Handlers σ) (veil : Veil) (near : σ → σ → Prop) : Prop where
  clocks : ∀ {world other}, near world other →
    engine.surroundings.clock world = engine.surroundings.clock other
  dates : ∀ {world other}, near world other →
    engine.surroundings.seconds world = engine.surroundings.seconds other
  moments : ∀ {world other}, near world other →
    engine.surroundings.moment world = engine.surroundings.moment other
  reads : ∀ {world other}, near world other →
    engine.surroundings.readDate world = engine.surroundings.readDate other
  cancels : ∀ {world other} token, near world other →
    engine.surroundings.isCancelled token world = engine.surroundings.isCancelled token other
  sleeps : ∀ span, (engine.surroundings.sleep span).Alike near Eq (engine.surroundings.sleep span)
  waits : ∀ token span,
    (engine.surroundings.wait token span).Alike near Eq (engine.surroundings.wait token span)
  sends : ∀ {sent sent'}, veil.outgoing sent = veil.outgoing sent' →
    (engine.surroundings.send sent).Alike near Eq (engine.surroundings.send sent')
  decides : ∀ {context context'}, veil.context context = veil.context context' →
    (policy.decide context).Alike near Eq (policy.decide context')
  hears : ∀ kind, ∀ listener ∈ engine.listeners handlers kind, ∀ {event event'},
    veil.event event = veil.event event' →
    (listener.hear event).Alike (veil.Beside near) Eq (listener.hear event')
  works : operation.Oblivious near

theorem Bench.eq_of_near {bench other : Bench σ ω} (close : bench.Near Eq other) : bench = other := by
  obtain ⟨world, work, said⟩ := close
  cases bench
  cases other
  simp_all

theorem Receipt.eq_of_near {receipt other : Receipt σ ω} (close : receipt.Near Eq other) :
    receipt = other := by
  obtain ⟨bench, state, response⟩ := close
  have same := Bench.eq_of_near bench
  cases receipt
  cases other
  simp_all

/-- The steps of an operation do not see what they are not given. -/
theorem Operation.oblivious_eq (operation : Operation σ τ ω) : operation.Oblivious Eq := by
  have step : ∀ {α : Type} (x : Step σ ω α), x.Alike (Bench.Near Eq) Eq x := by
    intro α x bench other close
    obtain rfl := Bench.eq_of_near close
    exact ⟨⟨rfl, rfl, rfl⟩, .of_eq rfl⟩
  have handling : ∀ {α : Type} (x : Handling σ ω α), x.Alike (Receipt.Near Eq) Eq x := by
    intro α x receipt other close
    obtain rfl := Receipt.eq_of_near close
    exact ⟨⟨⟨rfl, rfl, rfl⟩, rfl, rfl⟩, .of_eq rfl⟩
  exact ⟨fun _ => step _, fun _ _ => step _, fun _ _ _ => step _, handling _, fun _ => handling _,
    fun _ => step _⟩

/-- Where worlds can be told apart, only those count who see the requests. -/
theorem Engine.oblivious_eq {engine : Engine σ τ} {operation : Operation σ τ ω} {policy : Policy σ τ}
    {handlers : Handlers σ} {veil : Veil}
    (sends : ∀ {sent sent'}, veil.outgoing sent = veil.outgoing sent' →
      (engine.surroundings.send sent).Alike Eq Eq (engine.surroundings.send sent'))
    (decides : ∀ {context context'}, veil.context context = veil.context context' →
      (policy.decide context).Alike Eq Eq (policy.decide context'))
    (hears : ∀ kind, ∀ listener ∈ engine.listeners handlers kind, ∀ {event event'},
      veil.event event = veil.event event' →
      (listener.hear event).Alike (veil.Beside Eq) Eq (listener.hear event')) :
    engine.Oblivious operation policy handlers veil Eq where
  clocks := congrArg _
  dates := congrArg _
  moments := congrArg _
  reads := congrArg _
  cancels _ := congrArg _
  sleeps _ := .refl _
  waits _ _ := .refl _
  sends := sends
  decides := decides
  hears := hears
  works := operation.oblivious_eq

theorem Multicaster.callAll_alike {call call' : ρ → Act ε σ Unit} {near : σ → σ → Prop} {listeners : List ρ}
    (alike : ∀ listener ∈ listeners, (call listener).Alike near Eq (call' listener)) :
    (callAll call listeners).Alike near Eq (callAll call' listeners) := by
  induction listeners with
  | nil => exact .pure rfl
  | cons listener rest ih =>
      exact .onward (alike listener List.mem_cons_self)
        fun _ => ih fun other member => alike other (List.mem_cons_of_mem _ member)

/-- The same client with other credentials. -/
def Client.signedBy (client : Client σ τ) (credentials : Credentials) (authentication : Authentication) :
    Client σ τ :=
  { client with credentials, authentication }

def Engine.signedBy (engine : Engine σ τ) (credentials : Credentials) (authentication : Authentication) :
    Engine σ τ :=
  { engine with client := engine.client.signedBy credentials authentication }

namespace Plan

def signedBy (plan : Plan σ τ ω) (credentials : Credentials) (authentication : Authentication) :
    Plan σ τ ω :=
  { plan with engine := plan.engine.signedBy credentials authentication }

variable {plan : Plan σ τ ω} {credentials : Credentials} {authentication : Authentication} {veil : Veil}
  {near : σ → σ → Prop} {same : α → α → Prop}

theorem say_alike (line : Log.Line) : (plan.say line : Act ε (Run σ τ ω) Unit).Alike (Run.Near veil near) Eq
    ((plan.signedBy credentials authentication).say line) :=
  .change fun _ _ close => close.log _ line

theorem take_alike {step step' : Step σ ω α} (alike : step.Alike (Bench.Near near) same step') :
    (plan.take step).Alike (Run.Near veil near) same
      ((plan.signedBy credentials authentication).take step') := by
  intro run other close
  obtain ⟨⟨world, work, said⟩, agree⟩ := alike ⟨run.world, run.work, []⟩ ⟨other.world, other.work, []⟩
    ⟨close.world, close.work, rfl⟩
  exact ⟨(close.worked world work).logAll _ said, agree⟩

theorem outside_alike {x y : Act ε σ α} (alike : x.Alike near same y) :
    (outside x : Act ε (Run σ τ ω) α).Alike (Run.Near veil near) same (outside y) :=
  .on alike (fun _ _ close => close.world) fun _ _ _ _ close moved => { close with world := moved }

theorem failWith_alike (manner : Manner) (fault : Fault) :
    (failWith manner fault : Act Failure (Run σ τ ω) α).Alike (Run.Near veil near) same
      (failWith manner fault) := by
  intro run other close
  refine ⟨close, ?_⟩
  unfold failWith
  rw [close.context]
  exact .error _

theorem tell_alike {event event' : Event} {listener : Listener σ}
    (seen : veil.event event = veil.event event')
    (alike : (listener.hear event).Alike (veil.Beside near) Eq (listener.hear event')) :
    (tell event listener : Act Fault (Run σ τ ω × Exchange) Unit).Alike
      (veil.Beside (Run.Near veil near)) Eq (tell event' listener) := by
  rintro ⟨run, exchange⟩ ⟨other, exchange'⟩ ⟨close, shown⟩
  obtain ⟨⟨world, told⟩, agree⟩ := alike (run.world, exchange) (other.world, exchange') ⟨close.world, shown⟩
  refine ⟨⟨{ close.note ?_ with world }, told⟩, agree⟩
  simp only [Veil.entry, seen, shown]

section Oblivious

variable (oblivious : plan.engine.Oblivious plan.operation plan.policy plan.handlers veil near)
include oblivious

theorem now_alike : (plan.now : Act ε (Run σ τ ω) τ).Alike (Run.Near veil near) Eq
    (plan.signedBy credentials authentication).now :=
  fun _ _ close => ⟨close, .ok (oblivious.clocks close.world)⟩

theorem announce_alike {event event' : Event} (seen : veil.event event = veil.event event') :
    (plan.announce event).Alike (veil.Beside (Run.Near veil near)) Eq
      ((plan.signedBy credentials authentication).announce event') := by
  have kinds : event'.kind = event.kind := by
    rw [← Veil.event_kind, ← seen, Veil.event_kind]
  rw [announce_eq, announce_eq, kinds]
  exact Multicaster.callAll_alike fun listener member =>
    tell_alike seen (oblivious.hears event.kind listener member seen)

theorem announceOn_alike {event event' : Event} {exchange exchange' : Exchange}
    (seen : veil.event event = veil.event event') (shown : veil.exchange exchange = veil.exchange exchange') :
    (plan.announceOn event exchange).Alike (Run.Near veil near)
      (fun told told' => veil.exchange told = veil.exchange told')
      ((plan.signedBy credentials authentication).announceOn event' exchange') := by
  intro run other close
  have alike : (plan.announce event).Alike (veil.Beside (Run.Near veil near)) Eq
      ((plan.signedBy credentials authentication).announce event') := announce_alike oblivious seen
  have announced := alike (run, exchange) (other, exchange') ⟨close, shown⟩
  unfold announceOn
  cases left : plan.announce event (run, exchange) with
  | mk result told =>
  cases right : (plan.signedBy credentials authentication).announce event' (other, exchange') with
  | mk result' told' =>
  rw [left, right] at announced
  obtain ⟨⟨closer, told⟩, agree⟩ := announced
  cases agree with
  | ok _ => exact ⟨closer, .ok told⟩
  | error fault => exact ⟨closer, .error fault⟩

end Oblivious

end Plan

end ObjectStore
