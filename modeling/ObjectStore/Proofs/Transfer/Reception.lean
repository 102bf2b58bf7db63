import ObjectStore.Proofs.Engine.Plain
import ObjectStore.Proofs.Transfer.Gain
import ObjectStore.Proofs.Transfer.Standing

/-! What a download gains from one attempt, whatever the service answers. `Fits` says which responses
a request for a range may be given; all that is written comes from such a response. -/

namespace ObjectStore

open Request (asked sameRange)

variable {σ τ ω : Type}

/-- What the attempt under way works on, and its state. -/
def Sending.ledger (sending : Sending σ τ ω) : ω × AttemptState :=
  (sending.run.work, sending.state)

/-- Listeners may change a response, as long as it still fits the range it was given for. -/
def Response.fitting (Fits : List Value → Response → Prop) : Frame (σ × Exchange) where
  rel before after := ∀ range, (∀ response, before.2.response = some response → Fits range response) →
    ∀ response, after.2.response = some response → Fits range response
  refl _ _ fits := fits
  trans first second range fits := second range (first range fits)

/-- Every response fits the range that was asked for, and the listeners leave it so. -/
structure Engine.Honest (engine : Engine σ τ) (handlers : Handlers σ) (streamed : Bool)
    (Fits : List Value → Response → Prop) : Prop where
  answers : ∀ outgoing world reply after response,
    engine.surroundings.send outgoing world = (.ok reply, after) →
    Connection.response reply streamed = .ok response → Fits (asked outgoing.headers) response
  asks : engine.Bounded handlers (sameRange.within (·.2.request)) .sendingRequest
  brings : engine.Bounded handlers (Response.fitting Fits) .responseReceived

/-- A service that answers a request by the range it asks for. -/
def Engine.ranged (answer : List Value → Reply) : Engine Unit Number :=
  .plain (fun _ => .int 0) (fun outgoing => pure (answer (asked outgoing.headers))) fun _ => pure ()

theorem Engine.honest_ranged {answer : List Value → Reply} {Fits : List Value → Response → Prop}
    (fits : ∀ range response, Connection.response (answer range) true = .ok response → Fits range response) :
    (ranged answer).Honest {} true Fits := by
  refine ⟨?_, bounded_plain _ _, bounded_plain _ _⟩
  intro outgoing world reply after response sent read
  cases sent
  exact fits _ response read

namespace Plan

abbrev Honest (plan : Plan σ τ ω) (Fits : List Value → Response → Prop) : Prop :=
  plan.engine.Honest plan.handlers plan.operation.streamed Fits

/-- A download as the operation of a plan. -/
structure Serves (plan : Plan σ τ ω) (download : Download) (write : List UInt8 → Act Fault ω Unit) :
    Prop where
  valid : download.Valid
  build : plan.operation.build = fun state => Act.ofExcept (download.request state)
  setHeaders : plan.operation.setHeaders = fun state request =>
    Act.ofExcept (Download.setConditions (download.conditionsOf state) request)
  unsigned : plan.operation.sign = none
  judge : plan.operation.judge = download.judge
  finish : plan.operation.finish = fun _ => download.finish write
  recover : plan.operation.recover = Download.recover
  streamed : plan.operation.streamed = true
  start : plan.operation.start = { offset := download.start, length := download.length? }

theorem serves_of_operation {plan : Plan σ τ ω} {download : Download}
    {write : List UInt8 → Act Fault ω Unit} {options : Options τ (Policy σ τ)}
    {endpoints : Option Endpoints}
    (made : download.operation write options endpoints = .ok plan.operation) :
    plan.Serves download write := by
  have valid := Download.valid_of_operation made
  simp only [Download.operation, bind, Except.bind] at made
  split at made
  · contradiction
  · have operation := (Except.ok.inj made).symm
    constructor
    case valid => exact valid
    all_goals rw [operation]

variable (plan : Plan σ τ ω)

theorem handled_ledger (sending : Sending σ τ ω) (receipt : Receipt σ ω) :
    (plan.handled sending receipt).ledger = receipt.ledger := by
  have logged : Run.Aside (.any σ) _ (plan.handled sending receipt).run := Run.logAll_aside _ _ _
  exact Prod.ext logged.work rfl

end Plan

namespace Download

variable {write : List UInt8 → Act Fault ω Unit} {sink : Sink write} {download : Download}
  {Fits : List Value → Response → Prop} {range : List Value}

/-- Pieces are written only from an accepted response that fits the range. -/
def Source (Fits : List Value → Response → Prop) (range : List Value) (written : List (List UInt8)) :
    Prop :=
  written = [] ∨ ∃ response, Fits range response ∧ isAccepted response.status = true ∧
    written <+: piecesOf response

/-- All of the content of such a response was written. -/
def Complete (Fits : List Value → Response → Prop) (range : List Value) (written : List (List UInt8)) :
    Prop :=
  ∃ response, Fits range response ∧ isAccepted response.status = true ∧
    Whole response written written.flatten.length

/-- What an attempt gained by the time it dealt with the response. It began without having received
anything. -/
def Gained (sink : Sink write) (Fits : List Value → Response → Prop) (range : List Value)
    (before after : ω × AttemptState) (Q : List (List UInt8) → Prop) : Prop :=
  ∃ written, Wrote sink written before after ∧ Source Fits range written ∧ Q written

theorem Gained.mono {before after : ω × AttemptState} {Q Q' : List (List UInt8) → Prop}
    (gained : Gained sink Fits range before after Q) (weaker : ∀ written, Q written → Q' written) :
    Gained sink Fits range before after Q' := by
  obtain ⟨written, wrote, source, holds⟩ := gained
  exact ⟨written, wrote, source, weaker written holds⟩

theorem Gained.nothing (ledger : ω × AttemptState) {Q : List (List UInt8) → Prop} (holds : Q []) :
    Gained sink Fits range ledger ledger Q :=
  ⟨[], .none sink ledger, .inl rfl, holds⟩

/-- A success was complete. -/
def Succeeded (Fits : List Value → Response → Prop) (range : List Value) (outcome : Outcome)
    (written : List (List UInt8)) : Prop :=
  ∀ product, outcome = .success product → Complete Fits range written

theorem succeeded_of_fault {fault : Fault} {written : List (List UInt8)} :
    Succeeded Fits range (.ofResult (.error fault)) written := by
  intro product impossible
  cases impossible

/-- Finishing an accepted response writes from it, all of it if nothing fails. -/
theorem finish_gained (sink : Sink write) (plan : Plan σ τ ω) (download : Download)
    {judged : Sending σ τ ω} {start : ω × AttemptState} (same : Wrote sink [] start judged.ledger)
    (fresh : start.2.received = 0)
    (fits : ∀ response, judged.exchange.response = some response →
      Fits range response ∧ isAccepted response.status = true) :
    (plan.handleCurrent (download.finish write)).Ends judged
      (fun _ after => Gained sink Fits range start after.ledger (Complete Fits range))
      (fun _ after => Gained sink Fits range start after.ledger fun _ => True) := by
  refine plan.handleCurrent_ends (fun _ => ⟨[], same, .inl rfl, trivial⟩) fun response current => ?_
  obtain ⟨fitting, accepted⟩ := fits response current
  refine (finish_ends sink.effect download _).mono ?_ ?_
  · rintro _ finished ⟨written, appended, whole, _⟩
    have total : Wrote sink written start finished.ledger := same.trans appended.wrote
    have counted : finished.state.received = (written.flatten.length : Int) := by
      have := total.received
      simpa [Receipt.ledger, fresh] using this
    rw [counted] at whole
    refine ⟨written, ?_, .inr ⟨response, fitting, accepted, ?_⟩, response, fitting, accepted, whole⟩
    · rw [plan.handled_ledger]
      exact total
    · exact whole.1 ▸ List.prefix_rfl
  · rintro _ finished ⟨written, begun, appended⟩
    have total : Wrote sink written start finished.ledger := same.trans appended.wrote
    refine ⟨written, ?_, .inr ⟨response, fitting, accepted, begun⟩, trivial⟩
    rw [plan.handled_ledger]
    exact total

theorem deal_ends {plan : Plan σ τ ω} (serves : plan.Serves download write) (sending : Sending σ τ ω)
    (fits : ∀ response, sending.exchange.response = some response → Fits range response)
    (fresh : sending.state.received = 0) :
    plan.deal.Ends sending
      (fun outcome after => Gained sink Fits range sending.ledger after.ledger
        (Succeeded Fits range outcome))
      (fun _ after => Gained sink Fits range sending.ledger after.ledger fun _ => True) := by
  unfold Plan.deal
  rw [serves.judge, serves.finish]
  refine Act.ends_bind.mpr ?_
  refine plan.handleCurrent_ends (fun _ => .nothing _ trivial) fun response current => ?_
  refine (judge_ends download _).mono ?_ ?_
  · rintro outcome receipt judged
    have same : Wrote sink [] sending.ledger (plan.handled sending receipt).ledger := by
      rw [plan.handled_ledger]
      exact judged.wrote
    cases judged with
    | @accepted product _ ok unchanged _ _ =>
        have fitsStill : ∀ later, some receipt.response = some later →
            Fits range later ∧ isAccepted later.status = true := by
          rintro later ⟨⟩
          rw [unchanged]
          exact ⟨fits response current, ok⟩
        refine Act.ends_bind.mpr ((finish_gained sink plan download same fresh fitsStill).mono ?_
          fun _ _ gained => gained)
        exact fun _ _ gained => gained.mono fun _ complete _ _ => complete
    | refused other _ =>
        split
        · next product => exact absurd rfl (other product)
        · exact ⟨[], same, .inl rfl, fun product success => absurd success (other product)⟩
  · intro fault receipt judged
    refine ⟨[], ?_, .inl rfl, trivial⟩
    rw [plan.handled_ledger, judged]
    exact .none sink _

/-- Greeting a response and saying what it is writes nothing, and the response still fits. -/
theorem attend_ends (sink : Sink write) {plan : Plan σ τ ω} (serves : plan.Serves download write)
    (brings : plan.Bounded (Response.fitting Fits) .responseReceived) {response : Response}
    (fits : Fits range response) (sending : Sending σ τ ω) (fresh : sending.state.received = 0) :
    (plan.attend response).Ends sending
      (fun outcome after => Gained sink Fits range sending.ledger after.ledger
        (Succeeded Fits range outcome))
      (fun _ after => Gained sink Fits range sending.ledger after.ledger fun _ => True) := by
  refine Act.ends_bind.mpr ((Act.ends_change _).mpr ?_)
  refine Act.ends_bind.mpr (((plan.greet_keeps brings).ends _).mono ?_ ?_)
  · rintro _ greeted ⟨kept, state⟩
    have ledger : greeted.ledger = sending.ledger := Prod.ext kept.1.work state
    have fitsStill : ∀ response, greeted.exchange.response = some response → Fits range response :=
      kept.2 range fun _ same => Option.some.inj same ▸ fits
    have dealt : ∀ later : Sending σ τ ω, later.ledger = greeted.ledger →
        later.exchange = greeted.exchange → plan.deal.Ends later
          (fun outcome after => Gained sink Fits range sending.ledger after.ledger
            (Succeeded Fits range outcome))
          (fun _ after => Gained sink Fits range sending.ledger after.ledger fun _ => True) := by
      intro later sameLedger sameExchange
      have freshStill : later.ledger.2.received = 0 := by rw [sameLedger, ledger]; exact fresh
      rw [← ledger, ← sameLedger]
      exact deal_ends serves later (sameExchange ▸ fitsStill) freshStill
    have logged : ∀ threshold line, Run.Aside (.any σ) greeted.run (greeted.run.log threshold line) :=
      fun _ _ => Run.log_aside _ _ _
    refine Act.ends_bind.mpr (Act.ends_read.mpr ?_)
    dsimp only
    split
    · refine Act.ends_bind.mpr (Act.ends_on.mpr (plan.say_ends.mpr ?_))
      exact dealt _ (Prod.ext (logged _ _).work rfl) rfl
    · exact dealt greeted rfl rfl
  · rintro _ greeted ⟨kept, state⟩
    have ledger : greeted.ledger = sending.ledger := Prod.ext kept.1.work state
    rw [ledger]
    exact .nothing _ trivial

theorem exchanged_gained (sink : Sink write) {plan : Plan σ τ ω} (serves : plan.Serves download write)
    (honest : plan.Honest Fits) {request : Request} (asks : asked request.headers = range)
    (timeout : Timeout τ) {state : AttemptState} (fresh : state.received = 0) {run landed : Run σ τ ω}
    {met : Attempted} (went : plan.exchanged request timeout state run = (met, landed)) :
    Gained sink Fits range (run.work, state) (landed.work, met.state)
      (Succeeded Fits range met.outcome) := by
  simp only [Plan.exchanged, Prod.mk.injEq] at went
  obtain ⟨rfl, rfl⟩ := went
  cases transmitted : plan.transmit request timeout run with
  | mk result early =>
      have ends := plan.transmit_ends request timeout run
      cases result with
      | error fault =>
          rw [plan.exchange_of_fault transmitted]
          have same := ((Act.ends_of_error transmitted).mp ends).work
          exact ⟨[], ⟨by simp [same], by simp, rfl, rfl⟩, .inl rfl, succeeded_of_fault⟩
      | ok response =>
          obtain ⟨outgoing, world, made, answered, rfl⟩ := (Act.ends_of_ok transmitted).mp ends
          rw [plan.exchange_of_answer transmitted]
          have fits : Fits range response := by
            obtain ⟨reply, sent, read⟩ := answered
            have := honest.answers outgoing run.world reply world response sent read
            rwa [Plan.outgoing_headers made, asks] at this
          have attended := attend_ends sink serves honest.brings fits
            ⟨plan.sentOut outgoing world run, state, ⟨request, none⟩⟩ fresh
          cases dealt : plan.attend response
              ⟨plan.sentOut outgoing world run, state, ⟨request, none⟩⟩ with
          | mk result after =>
              cases result with
              | ok outcome => exact (Act.ends_of_ok dealt).mp attended
              | error fault =>
                  exact ((Act.ends_of_error dealt).mp attended).mono fun _ _ => succeeded_of_fault

end Download

end ObjectStore
