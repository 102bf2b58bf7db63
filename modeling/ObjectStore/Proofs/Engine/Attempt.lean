import ObjectStore.Proofs.Engine.Remarks

/-! One attempt: it sends one request or none, makes remarks on it, and appends one result to the
context unless the result cannot be made. -/

namespace ObjectStore

variable {σ τ ω α : Type}

/-- The outcome of an attempt that ended with a judgement or with a fault. -/
def Outcome.ofResult : Except Fault Outcome → Outcome
  | .ok outcome => outcome
  | .error fault => .ofFault fault

theorem RequestResult.of_ofAttempt {read : Value → Except Fault Time.DateTime} {location : Named Location}
    {start stop : Time.DateTime} {response : Option Response} {fault : Option Fault} {result : RequestResult}
    (made : ofAttempt read location start stop response fault = .ok result) :
    result.location = location ∧ result.fault = fault := by
  cases response with
  | none => cases made; exact ⟨rfl, rfl⟩
  | some response =>
      cases dated : response.dateBy read with
      | error error => simp only [ofAttempt, dated, bind, Except.bind, reduceCtorEq] at made
      | ok date =>
          simp only [ofAttempt, dated, bind, Except.bind] at made
          cases made
          exact ⟨rfl, rfl⟩

/-- What is sent of a request. Its body goes out as it is, unless there is nothing in it. -/
structure Outgoing.Shows (outgoing : Outgoing τ) (request : Request) : Prop where
  method : outgoing.method = request.method
  url : ∃ protocol path, request.path = some path ∧
    outgoing.url = Text.lowerCase protocol ++ "://" ++ request.host ++ path
  params : outgoing.params = request.query
  headers : outgoing.headers = request.headers
  data : (if request.body.truthy then request.body.asContent "request.body" else .ok .null) =
    .ok outgoing.data

theorem Connection.outgoing_shows {connection : Connection τ} {request : Request} {timeout : Timeout τ}
    {streamed : Bool} {outgoing : Outgoing τ}
    (made : connection.outgoing request timeout streamed = .ok outgoing) : outgoing.Shows request := by
  simp only [Connection.outgoing, bind, Except.bind] at made
  have located : ∀ {path}, Connection.pathOf request = .ok path → request.path = some path := by
    intro path found
    unfold Connection.pathOf at found
    cases given : request.path with
    | none =>
        rw [given] at found
        contradiction
    | some own =>
        rw [given] at found
        exact congrArg some (Except.ok.inj found)
  split at made
  · next filled =>
    repeat' split at made
    all_goals first
      | contradiction
      | cases made
        exact ⟨rfl, ⟨_, _, located (by assumption), rfl⟩, rfl, rfl, (if_pos filled).trans (by assumption)⟩
  · next empty =>
    repeat' split at made
    all_goals first
      | contradiction
      | cases made; exact ⟨rfl, ⟨_, _, located (by assumption), rfl⟩, rfl, rfl, if_neg empty⟩

/-- What the steps of an operation do to the state of an attempt stays in bounds. -/
structure Operation.Within (operation : Operation σ τ ω) (bounds : Frame AttemptState) : Prop where
  judges : operation.judge.Keeps (bounds.within Receipt.state)
  finishes : ∀ product, (operation.finish product).Keeps (bounds.within Receipt.state)
  recovers : ∀ state, (operation.recover state).Yields (bounds.rel state)

theorem Operation.Within.weaken {operation : Operation σ τ ω} {bounds weaker : Frame AttemptState}
    (within : operation.Within bounds) (implied : ∀ before after, bounds.rel before after →
      weaker.rel before after) : operation.Within weaker where
  judges := within.judges.weaken fun _ _ => implied _ _
  finishes product := (within.finishes product).weaken fun _ _ => implied _ _
  recovers state bench := (within.recovers state bench).mono (fun _ _ => implied _ _) fun _ _ => id

section Judging

variable {bounds : Frame (Receipt σ ω)}
  (reads : ∀ receipt response, bounds.rel receipt { receipt with response })
include reads

/-- A refusal only reads the body of the response. -/
theorem Operation.refuse_keeps : (refuse : Handling σ ω Outcome).Keeps bounds :=
  fun receipt => reads receipt _

theorem Operation.judgeStatus_keeps (accepts : Int → Bool) :
    (judgeStatus accepts : Handling σ ω Outcome).Keeps bounds := by
  refine .bind .read fun receipt => ?_
  split
  · exact .pure _
  · exact refuse_keeps reads

end Judging

namespace Plan

variable (plan : Plan σ τ ω)

def outgoing (request : Request) (timeout : Timeout τ) : Except Fault (Outgoing τ) :=
  plan.engine.client.connection.outgoing request timeout plan.operation.streamed

/-- A run after a request went out. -/
def sentOut (outgoing : Outgoing τ) (world : σ) (run : Run σ τ ω) : Run σ τ ω :=
  { run.note (.sent outgoing (plan.engine.surroundings.clock run.world)) with world }

/-- A response that the world gave to a request. -/
def Answered (outgoing : Outgoing τ) (world : σ) (response : Response) (after : σ) : Prop :=
  ∃ reply, plan.engine.surroundings.send outgoing world = (.ok reply, after) ∧
    Connection.response reply plan.operation.streamed = .ok response

/-- What was sent by the time that sending failed: nothing only if nothing could be made of the request. -/
def Unanswered (request : Request) (timeout : Timeout τ) (run after : Run σ τ ω) : Prop :=
  (after = run ∧ ∃ fault, plan.outgoing request timeout = .error fault) ∨
    ∃ outgoing world, plan.outgoing request timeout = .ok outgoing ∧
      after = plan.sentOut outgoing world run

theorem outgoing_timeout {plan : Plan σ τ ω} {request : Request} {timeout : Timeout τ}
    {outgoing : Outgoing τ} (made : plan.outgoing request timeout = .ok outgoing) :
    outgoing.timeout = timeout.orElse plan.engine.client.connection.timeout := by
  simp only [Plan.outgoing, Connection.outgoing, bind, Except.bind] at made
  repeat' split at made
  all_goals first
    | contradiction
    | cases made; rfl

theorem outgoing_headers {plan : Plan σ τ ω} {request : Request} {timeout : Timeout τ}
    {outgoing : Outgoing τ} (made : plan.outgoing request timeout = .ok outgoing) :
    outgoing.headers = request.headers :=
  (Connection.outgoing_shows made).headers

theorem Unanswered.work {plan : Plan σ τ ω} {request : Request} {timeout : Timeout τ}
    {run after : Run σ τ ω} (unanswered : plan.Unanswered request timeout run after) :
    after.work = run.work := by
  obtain ⟨rfl, _⟩ | ⟨outgoing, world, _, rfl⟩ := unanswered <;> rfl

theorem transmit_ends (request : Request) (timeout : Timeout τ) (run : Run σ τ ω) :
    (plan.transmit request timeout).Ends run
      (fun response after => ∃ outgoing world, plan.outgoing request timeout = .ok outgoing ∧
        plan.Answered outgoing run.world response world ∧ after = plan.sentOut outgoing world run)
      (fun _ after => plan.Unanswered request timeout run after) := by
  cases made : plan.outgoing request timeout with
  | error fault =>
      have unsent : plan.transmit request timeout run = (.error fault, run) := by
        simp only [outgoing] at made
        simp only [transmit, Act.bind_apply, Act.ofExcept_apply, made]
      exact (Act.ends_of_error unsent).mpr (.inl ⟨rfl, fault, made⟩)
  | ok outgoing =>
      have sent : plan.transmit request timeout run =
          (do
            let reply ← outside (plan.engine.surroundings.send outgoing)
            Act.ofExcept (Connection.response reply plan.operation.streamed))
          (run.note (.sent outgoing (plan.engine.surroundings.clock run.world))) := by
        simp only [Plan.outgoing] at made
        simp only [transmit, Act.bind_apply, Act.ofExcept_apply, made]
        rfl
      rw [Act.Ends, sent, Act.bind_apply]
      cases replied : plan.engine.surroundings.send outgoing run.world with
      | mk result world =>
          have outsideRun : outside (plan.engine.surroundings.send outgoing)
              (run.note (.sent outgoing (plan.engine.surroundings.clock run.world))) =
              (result, plan.sentOut outgoing world run) := by
            simp only [outside, Act.on_apply, Run.note, replied, sentOut]
          rw [outsideRun]
          cases result with
          | error fault => exact .inr ⟨outgoing, world, made, rfl⟩
          | ok reply =>
              simp only [Act.ofExcept_apply]
              cases read : Connection.response reply plan.operation.streamed with
              | error fault => exact .inr ⟨outgoing, world, made, rfl⟩
              | ok response => exact ⟨outgoing, world, rfl, ⟨reply, replied, read⟩, rfl⟩

theorem transmit_work (request : Request) (timeout : Timeout τ) :
    (plan.transmit request timeout).Keeps (.same Run.work) := by
  refine .of_ends fun run => (plan.transmit_ends request timeout run).mono ?_ ?_
  · rintro response _ ⟨outgoing, world, _, _, rfl⟩
    rfl
  · exact fun _ _ unanswered => unanswered.work

/-- What follows once a response has arrived. -/
def attend (response : Response) : Act Fault (Sending σ τ ω) Outcome := do
  Act.change fun sending =>
    { sending with exchange := { sending.exchange with response := some response } }
  plan.greet
  match (← Act.read).exchange.response with
  | some response => onRun (plan.say (receivedLine response))
  | none => pure ()
  plan.deal

theorem exchange_of_answer {timeout : Timeout τ} {sending : Sending σ τ ω} {response : Response}
    {run : Run σ τ ω}
    (sent : plan.transmit sending.exchange.request timeout sending.run = (.ok response, run)) :
    plan.exchange timeout sending = plan.attend response { sending with run } := by
  have arrived : onRun (plan.transmit sending.exchange.request timeout) sending =
      (.ok response, { sending with run }) := by
    simp only [onRun, Act.on_apply, sent]
  exact (Act.bind_of_ok (Act.read_apply sending) _).trans (Act.bind_of_ok arrived _)

theorem exchange_of_fault {timeout : Timeout τ} {sending : Sending σ τ ω} {fault : Fault}
    {run : Run σ τ ω}
    (unsent : plan.transmit sending.exchange.request timeout sending.run = (.error fault, run)) :
    plan.exchange timeout sending = (.error fault, { sending with run }) := by
  simp only [exchange, Act.bind_apply, Act.read_apply, onRun, Act.on_apply, unsent]

/-- The attempt after a step dealt with the response. -/
def handled (sending : Sending σ τ ω) (receipt : Receipt σ ω) : Sending σ τ ω where
  run := { sending.run with world := receipt.bench.world, work := receipt.bench.work }.logAll
    plan.engine.surroundings.logThreshold receipt.bench.said
  state := receipt.state
  exchange := { sending.exchange with response := some receipt.response }

theorem handle_ends {response : Response} {step : Handling σ ω α} {sending : Sending σ τ ω}
    {Q : α → Sending σ τ ω → Prop} {E : Fault → Sending σ τ ω → Prop}
    (ends : step.Ends ⟨⟨sending.run.world, sending.run.work, []⟩, sending.state, response⟩
      (fun a receipt => Q a (plan.handled sending receipt))
      (fun fault receipt => E fault (plan.handled sending receipt))) :
    (plan.handle response step).Ends sending Q E := by
  unfold Act.Ends at ends ⊢
  unfold handle
  split at ends
  · next ended =>
    rw [ended]
    exact ends
  · next ended =>
    rw [ended]
    exact ends

theorem handleCurrent_eq {step : Handling σ ω α} {sending : Sending σ τ ω} {response : Response}
    (current : sending.exchange.response = some response) :
    plan.handleCurrent step sending = plan.handle response step sending := by
  simp only [handleCurrent, Act.bind_apply, Act.read_apply, current]

theorem handleCurrent_ends {step : Handling σ ω α} {sending : Sending σ τ ω}
    {Q : α → Sending σ τ ω → Prop} {E : Fault → Sending σ τ ω → Prop}
    (missing : ∀ fault, E fault sending)
    (ends : ∀ response, sending.exchange.response = some response →
      step.Ends ⟨⟨sending.run.world, sending.run.work, []⟩, sending.state, response⟩
        (fun a receipt => Q a (plan.handled sending receipt))
        (fun fault receipt => E fault (plan.handled sending receipt))) :
    (plan.handleCurrent step).Ends sending Q E := by
  refine Act.ends_bind.mpr (Act.ends_read.mpr ?_)
  split
  · next response current => exact plan.handle_ends (ends response current)
  · exact missing _

theorem handle_follows (response : Response) (step : Handling σ ω α) :
    (plan.handle response step).Keeps (Run.follows.within Sending.run) := by
  intro sending
  refine Run.follows.trans (b := { sending.run with world := _, work := _ }) ?_
    (Run.logAll_follows _ _ _)
  exact ⟨rfl, [], by simp, by simp⟩

theorem handleCurrent_follows (step : Handling σ ω α) :
    (plan.handleCurrent step).Keeps (Run.follows.within Sending.run) := by
  refine .bind .read fun sending => ?_
  split
  · exact plan.handle_follows _ step
  · exact .fail _

theorem deal_follows : plan.deal.Keeps (Run.follows.within Sending.run) := by
  refine .bind (plan.handleCurrent_follows _) fun outcome => ?_
  split
  · exact .bind (plan.handleCurrent_follows _) fun _ => .pure _
  · exact .pure _

/-- Greeting a response leaves the state of the attempt alone. -/
def greeted (bounds : Frame (σ × Exchange)) : Frame (Sending σ τ ω) where
  rel before after :=
    (Run.beside bounds).rel (before.run, before.exchange) (after.run, after.exchange) ∧
      after.state = before.state
  refl _ := ⟨(Run.beside bounds).refl _, rfl⟩
  trans {_ b _} early late :=
    ⟨(Run.beside bounds).trans (b := (b.run, b.exchange)) early.1 late.1, late.2.trans early.2⟩

theorem greet_keeps {bounds : Frame (σ × Exchange)} (bounded : plan.Bounded bounds .responseReceived) :
    plan.greet.Keeps (greeted bounds) :=
  Act.Keeps.on (plan.announce_keeps .responseReceived bounded) fun _ _ kept => ⟨kept, rfl⟩

theorem attend_follows (response : Response) :
    (plan.attend response).Keeps (Run.follows.within Sending.run) := by
  refine .bind (.change fun _ => Run.Follows.refl _) fun _ => ?_
  have greets : plan.greet.Keeps (Run.follows.within Sending.run) :=
    (plan.greet_keeps (plan.bounded_any _)).weaken fun _ _ kept => kept.1.1.toFollows
  refine .bind greets fun _ => ?_
  refine .bind .read fun sending => ?_
  split
  · refine .bind ?_ fun _ => plan.deal_follows
    exact .on (plan.say_follows _) fun _ _ follows => follows
  · exact plan.deal_follows

/-- A run after an attempt went through the network: one request went out, or none. -/
def Sent (request : Request) (timeout : Timeout τ) (run after : Run σ τ ω) : Prop :=
  ∃ early, plan.Unanswered request timeout run early ∧ Run.Follows early after

theorem Sent.context {plan : Plan σ τ ω} {request : Request} {timeout : Timeout τ}
    {run after : Run σ τ ω} (sent : plan.Sent request timeout run after) :
    after.context = run.context := by
  obtain ⟨early, ⟨rfl, _⟩ | ⟨outgoing, world, _, rfl⟩, follows⟩ := sent <;> exact follows.context

theorem exchange_sent (timeout : Timeout τ) (sending : Sending σ τ ω) :
    plan.Sent sending.exchange.request timeout sending.run (plan.exchange timeout sending).2.run := by
  have ends := plan.transmit_ends sending.exchange.request timeout sending.run
  cases transmitted : plan.transmit sending.exchange.request timeout sending.run with
  | mk result run =>
      cases result with
      | error fault =>
          rw [plan.exchange_of_fault transmitted]
          exact ⟨run, (Act.ends_of_error transmitted).mp ends, .refl run⟩
      | ok response =>
          obtain ⟨outgoing, world, made, _, rfl⟩ := (Act.ends_of_ok transmitted).mp ends
          rw [plan.exchange_of_answer transmitted]
          exact ⟨_, .inr ⟨outgoing, world, made, rfl⟩,
            plan.attend_follows response { sending with run := _ }⟩

/-- An attempt gone through the network: where it ended and with what. -/
def exchanged (request : Request) (timeout : Timeout τ) (state : AttemptState) (run : Run σ τ ω) :
    Attempted × Run σ τ ω :=
  let met := plan.exchange timeout ⟨run, state, ⟨request, none⟩⟩
  (⟨.ofResult met.1, met.2.state, met.2.exchange⟩, met.2.run)

theorem exchanged_sent (request : Request) (timeout : Timeout τ) (state : AttemptState)
    (run : Run σ τ ω) :
    plan.Sent request timeout run (plan.exchanged request timeout state run).2 :=
  plan.exchange_sent timeout ⟨run, state, ⟨request, none⟩⟩

section Bounds

variable {plan} {bounds : Frame AttemptState} (judges : plan.operation.judge.Keeps (bounds.within Receipt.state))
  (finishes : ∀ product, (plan.operation.finish product).Keeps (bounds.within Receipt.state))

theorem handleCurrent_bounded {step : Handling σ ω α} (keeps : step.Keeps (bounds.within Receipt.state)) :
    (plan.handleCurrent step).Keeps (bounds.within Sending.state) := by
  refine .bind .read fun sending => ?_
  split
  · exact fun current => keeps ⟨_, current.state, _⟩
  · exact .fail _

include judges finishes

/-- Only the steps of the operation change the state of an attempt. -/
theorem exchange_bounded (timeout : Timeout τ) :
    (plan.exchange timeout).Keeps (bounds.within Sending.state) := by
  have aside : ∀ {α : Type} (x : Act Fault (Run σ τ ω) α), (onRun x).Keeps (bounds.within Sending.state) :=
    fun x sending => bounds.refl sending.state
  have deals : plan.deal.Keeps (bounds.within Sending.state) := by
    refine .bind (handleCurrent_bounded judges) fun outcome => ?_
    split
    · exact .bind (handleCurrent_bounded (finishes _)) fun _ => .pure _
    · exact .pure _
  have greets : plan.greet.Keeps (bounds.within Sending.state) :=
    fun sending => bounds.refl sending.state
  refine .bind .read fun sending => .bind (aside _) fun response => ?_
  refine .bind (.change fun sending => bounds.refl sending.state) fun _ => ?_
  refine .bind greets fun _ => .bind .read fun greeted => ?_
  split
  · exact .bind (aside _) fun _ => deals
  · exact deals

theorem exchanged_bounded (request : Request) (timeout : Timeout τ) (state : AttemptState)
    (run : Run σ τ ω) : bounds.rel state (plan.exchanged request timeout state run).1.state :=
  exchange_bounded judges finishes timeout ⟨run, state, ⟨request, none⟩⟩

end Bounds

variable [Seconds τ]

/-- Recording changes nothing but the context, to which it appends one result at most. -/
theorem record_ends (started : τ) (start : Time.DateTime) (attempted : Attempted) (run : Run σ τ ω) :
    (plan.record started start attempted).Ends run
      (fun result after => ∃ time, after =
          { run with context := { run.context with clientTime := time }.append result } ∧
        ∃ stop, RequestResult.ofAttempt (plan.engine.surroundings.readDate run.world)
          attempted.state.location start stop attempted.exchange.response attempted.outcome.fault? =
            .ok result)
      (fun _ after => ∃ time, after = { run with context := { run.context with clientTime := time } }) := by
  cases measured : Seconds.sub (plan.engine.surroundings.clock run.world) started with
  | error fault =>
      have stopped : plan.record started start attempted run = (.error fault, run) := by
        simp only [record, Act.bind_apply, now, Act.ofExcept_apply, measured]
      exact (Act.ends_of_error stopped).mpr ⟨run.context.clientTime, rfl⟩
  | ok spent =>
      cases summed : Seconds.add run.context.clientTime spent with
      | error fault =>
          have stopped : plan.record started start attempted run = (.error fault, run) := by
            simp only [record, Act.bind_apply, now, Act.ofExcept_apply, Act.read_apply, measured, summed]
          exact (Act.ends_of_error stopped).mpr ⟨run.context.clientTime, rfl⟩
      | ok total =>
          cases made : RequestResult.ofAttempt (plan.engine.surroundings.readDate run.world)
              attempted.state.location start (plan.engine.surroundings.moment run.world)
              attempted.exchange.response attempted.outcome.fault? with
          | error fault =>
              have stopped : plan.record started start attempted run = (.error fault,
                  { run with context := { run.context with clientTime := total } }) := by
                simp only [record, Act.bind_apply, now, Act.ofExcept_apply, Act.read_apply,
                  Act.change_apply, measured, summed, made]
              exact (Act.ends_of_error stopped).mpr ⟨total, rfl⟩
          | ok result =>
              have recorded : plan.record started start attempted run = (.ok result, { run with
                  context := { run.context with clientTime := total }.append result }) := by
                simp only [record, Act.bind_apply, now, Act.ofExcept_apply, Act.read_apply,
                  Act.change_apply, Act.pure_apply, measured, summed, made]
              exact (Act.ends_of_ok recorded).mpr ⟨total, rfl, _, made⟩

/-- An attempt that went through the network is recorded and announced. -/
def report (started : τ) (start : Time.DateTime) (met : Attempted) : Act Fault (Run σ τ ω) Attempted := do
  let result ← plan.record started start met
  let exchange ← plan.announceOn (.requestCompleted result) met.exchange
  return { met with exchange }

theorem attempt_eq {request : Request} {timeout : Timeout τ} {state : AttemptState} {run landed : Run σ τ ω}
    {met : Attempted} (went : plan.exchanged request timeout state run = (met, landed)) :
    plan.attempt request timeout state run = plan.report (plan.engine.surroundings.clock run.world)
      (plan.engine.surroundings.moment run.world) met landed := by
  simp only [exchanged, Prod.mk.injEq] at went
  obtain ⟨rfl, rfl⟩ := went
  rfl

/-- Recorded or not, an attempt ends as it went through the network. -/
theorem attempt_ends {bounds : Frame (σ × Exchange)} (bounded : plan.Bounded bounds .requestCompleted)
    (request : Request) (timeout : Timeout τ) (state : AttemptState) (run : Run σ τ ω) :
    (plan.attempt request timeout state).Ends run
      (fun attempted after => ∃ met landed time result,
        plan.exchanged request timeout state run = (met, landed) ∧
        attempted = { met with exchange := attempted.exchange } ∧ result.fault = met.outcome.fault? ∧
        (Run.beside bounds).rel ({ landed with
          context := { landed.context with clientTime := time }.append result }, met.exchange)
          (after, attempted.exchange))
      (fun _ after => ∃ met landed time results,
        plan.exchanged request timeout state run = (met, landed) ∧
        Run.Aside (.any σ) { landed with context := { landed.context with
          clientTime := time, results := landed.context.results ++ results } } after) := by
  obtain ⟨met, landed, went⟩ : ∃ met landed,
      plan.exchanged request timeout state run = (met, landed) := ⟨_, _, rfl⟩
  rw [Act.Ends, plan.attempt_eq went]
  refine Act.ends_bind.mpr ?_
  refine (plan.record_ends _ _ met landed).mono ?_ ?_
  · rintro result after ⟨time, rfl, stop, made⟩
    have fault := (RequestResult.of_ofAttempt made).2
    refine Act.ends_bind.mpr ((plan.announceOn_ends (.requestCompleted result) bounded
      met.exchange _).mono ?_ ?_)
    · intro changed after kept
      exact ⟨met, landed, time, result, went, rfl, fault, kept⟩
    · rintro _ after ⟨changed, kept⟩
      exact ⟨met, landed, time, [result], went, kept.1⟩
  · rintro _ after ⟨time, rfl⟩
    refine ⟨met, landed, time, [], went, ?_⟩
    rw [List.append_nil]
    exact (Run.aside (.any σ)).refl _

end Plan

end ObjectStore
