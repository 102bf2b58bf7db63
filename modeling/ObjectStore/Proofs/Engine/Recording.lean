import ObjectStore.Proofs.Engine.Results
import ObjectStore.Proofs.Location.Pinning
import ObjectStore.Proofs.Retry.Transient

/-! Attempts whose requests are ready. Each sends its request, and it is recorded if the date of its
response can be read. Otherwise its fault is not that of the attempt but one of the operation. -/

namespace ObjectStore

section Dates

variable {σ τ ω : Type}

/-- The date of the response can be read where the attempt came back, if there is a response. -/
def Engine.Dates (engine : Engine σ τ) (met : Attempted) (landed : Run σ τ ω) : Prop :=
  ∀ response, met.exchange.response = some response →
    ∃ date, response.dateBy (engine.surroundings.readDate landed.world) = .ok date

theorem Engine.dates_iff {engine : Engine σ τ} {met : Attempted} {landed : Run σ τ ω} :
    (met.exchange.response.all fun response =>
      (response.dateBy (engine.surroundings.readDate landed.world)).isOk) = true ↔ engine.Dates met landed := by
  unfold Dates
  cases met.exchange.response with
  | none => simp
  | some response =>
      cases read : response.dateBy (engine.surroundings.readDate landed.world) with
      | ok date => simp [read, Except.isOk, Except.toBool]
      | error fault => simp [read, Except.isOk, Except.toBool]

instance (engine : Engine σ τ) (met : Attempted) (landed : Run σ τ ω) : Decidable (engine.Dates met landed) :=
  decidable_of_iff _ Engine.dates_iff

end Dates

namespace RequestResult

variable {read : Value → Except Fault Time.DateTime}

theorem ofAttempt_of_dated {response : Option Response}
    (dated : ∀ answer, response = some answer → ∃ date, answer.dateBy read = .ok date)
    (location : Named Location) (start stop : Time.DateTime) (fault : Option Fault) :
    ∃ result, ofAttempt read location start stop response fault = .ok result := by
  cases response with
  | none => exact ⟨_, rfl⟩
  | some answer =>
      obtain ⟨date, reads⟩ := dated answer rfl
      simp only [ofAttempt, reads, bind, Except.bind]
      exact ⟨_, rfl⟩

theorem ofAttempt_of_undated {answer : Response} (unread : ¬ ∃ date, answer.dateBy read = .ok date)
    (location : Named Location) (start stop : Time.DateTime) (fault : Option Fault) :
    ∃ error, ofAttempt read location start stop (some answer) fault = .error error := by
  cases reads : answer.dateBy read with
  | ok date => exact absurd ⟨date, reads⟩ unread
  | error error =>
      simp only [ofAttempt, reads, bind, Except.bind]
      exact ⟨_, rfl⟩

end RequestResult

/-- A response that is there stays there. -/
def Exchange.answered : Frame Exchange where
  rel before after := before.response.isSome → after.response.isSome
  refl _ := id
  trans early late := late ∘ early

variable {σ ω : Type}

/-- The time the attempts took so far is a double, unless there were none. -/
def Run.Measured (run : Run σ Number ω) : Prop :=
  run.context.clientTime = .int 0 ∨ ∃ x, run.context.clientTime = .float x

theorem Run.Measured.add {run : Run σ Number ω} (measured : run.Measured) (spent : Float) :
    ∃ total : Float, Seconds.add run.context.clientTime (Number.float spent) = .ok (.float total) := by
  rcases measured with zero | ⟨x, double⟩
  · rw [zero]
    exact ⟨Float.ofInt 0 + spent, rfl⟩
  · rw [double]
    exact ⟨x + spent, rfl⟩

namespace Plan

variable (plan : Plan σ Number ω)

/-- The clock shows doubles. -/
def Timed : Prop :=
  ∀ world, ∃ x, plan.engine.surroundings.clock world = Number.float x

variable {plan}

section Record

variable (timed : plan.Timed) {run : Run σ Number ω} (measured : run.Measured) {met : Attempted}
  (world : σ) (start : Time.DateTime)

include timed measured

theorem record_of_dated (dated : plan.engine.Dates met run) : ∃ result after,
    plan.record (plan.engine.surroundings.clock world) start met run = (.ok result, after) ∧
      after.requests = run.requests ∧ after.Measured := by
  obtain ⟨began, first⟩ := timed world
  obtain ⟨ended, last⟩ := timed run.world
  obtain ⟨total, summed⟩ := measured.add (ended - began)
  obtain ⟨result, made⟩ := RequestResult.ofAttempt_of_dated dated met.state.location start
    (plan.engine.surroundings.moment run.world) met.outcome.fault?
  refine ⟨result, { run with context :=
    { run.context with clientTime := Number.float total }.append result }, ?_, rfl, .inr ⟨total, rfl⟩⟩
  have spent : Seconds.sub (plan.engine.surroundings.clock run.world)
      (plan.engine.surroundings.clock world) = .ok (Number.float (ended - began)) := by
    rw [first, last]
    rfl
  simp only [record, Act.bind_apply, now_apply, Act.ofExcept_apply, Act.read_apply, Act.change_apply,
    Act.pure_apply, spent, summed, made]

theorem record_of_undated (undated : ¬ plan.engine.Dates met run) : ∃ fault after,
    plan.record (plan.engine.surroundings.clock world) start met run = (.error fault, after) := by
  obtain ⟨began, first⟩ := timed world
  obtain ⟨ended, last⟩ := timed run.world
  obtain ⟨total, summed⟩ := measured.add (ended - began)
  obtain ⟨response, responded, unread⟩ : ∃ response, met.exchange.response = some response ∧
      ¬ ∃ date, response.dateBy (plan.engine.surroundings.readDate run.world) = .ok date := by
    simpa only [Engine.Dates, not_forall, exists_prop] using undated
  obtain ⟨fault, refused⟩ := RequestResult.ofAttempt_of_undated unread met.state.location start
    (plan.engine.surroundings.moment run.world) met.outcome.fault?
  refine ⟨fault, { run with context := { run.context with clientTime := Number.float total } }, ?_⟩
  have spent : Seconds.sub (plan.engine.surroundings.clock run.world)
      (plan.engine.surroundings.clock world) = .ok (Number.float (ended - began)) := by
    rw [first, last]
    rfl
  simp only [record, Act.bind_apply, now_apply, Act.ofExcept_apply, Act.read_apply, Act.change_apply,
    spent, summed, responded, refused]

end Record

variable {progress : Progress} {run landed signed announced : Run σ Number ω} {met : Attempted}
  {request changed : Request} {outgoing : Outgoing Number}

variable (plan) in
/-- A request is built, signed and announced, and something can be sent of it. -/
def Ready (progress : Progress) (run : Run σ Number ω) : Prop :=
  ∃ request signed changed announced outgoing,
    plan.signed progress.state run = (.ok request, signed) ∧
    plan.announceRequest request progress.state signed = (.ok changed, announced) ∧
    plan.outgoing changed plan.timeout = .ok outgoing

variable (plan) in
/-- How the attempt goes through the network with the request that is ready. -/
def Met (progress : Progress) (run : Run σ Number ω) (met : Attempted) (landed : Run σ Number ω) : Prop :=
  ∃ request signed changed announced,
    plan.signed progress.state run = (.ok request, signed) ∧
    plan.announceRequest request progress.state signed = (.ok changed, announced) ∧
    plan.exchanged changed plan.timeout progress.state announced = (met, landed)

theorem prepare_of_signed (unlimited : plan.deadline = none)
    (signs : plan.signed progress.state run = (.ok request, signed)) :
    plan.prepare progress.state progress.last run = (.ok (request, plan.timeout), signed) := by
  have prepared : plan.prepared progress.state run = (.ok (request, plan.timeout), signed) := by
    rw [prepared_eq, Act.bind_of_ok signs, Act.bind_of_ok (plan.now_apply signed), unlimited]
    rfl
  rw [prepare, Act.bind_apply, Act.attempt_apply, prepared]
  rfl

theorem launch_of_met (unlimited : plan.deadline = none) (free : plan.isCancelled run = false)
    (signs : plan.signed progress.state run = (.ok request, signed))
    (announces : plan.announceRequest request progress.state signed = (.ok changed, announced))
    (went : plan.exchanged changed plan.timeout progress.state announced = (met, landed)) :
    plan.launch progress run = (plan.report (plan.engine.surroundings.clock announced.world)
      (plan.engine.surroundings.moment announced.world) met).mapError interruption landed := by
  have early : Deadline.hasExpired (plan.engine.surroundings.clock run.world) plan.deadline
      Seconds.zero = .ok false := by
    rw [unlimited]
    rfl
  have checked : plan.check progress.last run = (.ok (), run) := plan.check_of_free free early
  rw [launch, Act.bind_of_ok checked, Act.bind_of_ok (prepare_of_signed unlimited signs)]
  refine (Act.bind_of_ok announces _).trans ?_
  simp only [Act.mapError, plan.attempt_eq went]

/-- What an attempt takes from the network: a state that is pinned at most, and a response if it is a
success. -/
structure Takes (state : AttemptState) (met : Attempted) : Prop where
  pinned : AttemptState.pinned.rel state met.state
  response : ∀ product, met.outcome = .success product → met.exchange.response.isSome

section Network

variable (judges : plan.operation.judge.Keeps (AttemptState.pinned.within Receipt.state))
  (finishes : ∀ product, (plan.operation.finish product).Keeps (AttemptState.pinned.within Receipt.state))

/-- A success is made of a response. -/
theorem deal_answers (sending : Sending σ Number ω) :
    plan.deal.Ends sending (fun outcome after => ∀ product, outcome = .success product →
      after.exchange.response.isSome) fun _ _ => True := by
  refine .bind (Act.Yields.any _ sending) fun judged current _ => ?_
  cases judged with
  | success product =>
      refine Act.ends_bind.mpr (plan.handleCurrent_ends (fun _ => trivial) fun response here => ?_)
      exact (Act.Yields.any _ _).imp fun _ _ _ _ _ => rfl
  | retryable fault => exact nofun
  | fatal fault => exact nofun

theorem exchange_answers (timeout : Timeout Number) (sending : Sending σ Number ω) :
    (plan.exchange timeout).Ends sending (fun outcome after => ∀ product, outcome = .success product →
      after.exchange.response.isSome) fun _ _ => True := by
  refine Act.ends_bind.mpr (Act.ends_read.mpr ?_)
  refine .bind (Act.Yields.any _ _) fun response answered _ => ?_
  refine Act.ends_bind.mpr ((Act.ends_change _).mpr ?_)
  refine .bind (Act.Yields.any _ _) fun _ greeted _ => Act.ends_bind.mpr (Act.ends_read.mpr ?_)
  split
  · exact .bind (Act.Yields.any _ _) fun _ said _ => deal_answers said
  · exact deal_answers greeted

theorem exchanged_answers (request : Request) (timeout : Timeout Number) (state : AttemptState)
    (run : Run σ Number ω) {product : Product}
    (success : (plan.exchanged request timeout state run).1.outcome = .success product) :
    (plan.exchanged request timeout state run).1.exchange.response.isSome := by
  have answers := plan.exchange_answers timeout ⟨run, state, ⟨request, none⟩⟩
  simp only [exchanged] at success ⊢
  unfold Act.Ends at answers
  split at answers
  · next went =>
    rw [went] at success ⊢
    exact answers product success
  · next went =>
    rw [went] at success
    cases success

include judges finishes in
theorem exchanged_takes {request : Request} {timeout : Timeout Number} {state : AttemptState}
    (went : plan.exchanged request timeout state run = (met, landed)) : Takes state met := by
  obtain ⟨rfl, _⟩ := Prod.mk.inj went
  exact ⟨exchange_bounded judges finishes timeout ⟨run, state, ⟨request, none⟩⟩,
    fun _ success => exchanged_answers request timeout state run success⟩

end Network

variable (plan) in
/-- Nothing but what the attempts meet decides how the operation goes on: time does not run out, nobody
cancels, the policy counts attempts up to a number and its pauses can be waited, the steps of the
operation pin the location at most, and recovery and listeners do not fail. -/
structure Untroubled (most : Int) : Prop where
  unlimited : plan.deadline = none
  uncancelled : ∀ token world, plan.engine.surroundings.isCancelled token world = false
  timed : plan.Timed
  counts : plan.policy.Counts most
  sleeps : ∀ pause world, Number.le (.int 0) pause = true →
    ∃ after, plan.engine.surroundings.sleep pause world = (.ok (), after)
  waits : ∀ token pause world, Number.le (.int 0) pause = true →
    ∃ after, plan.engine.surroundings.wait token pause world = (.ok false, after)
  judges : plan.operation.judge.Keeps (AttemptState.pinned.within Receipt.state)
  finishes : ∀ product, (plan.operation.finish product).Keeps (AttemptState.pinned.within Receipt.state)
  recovers : ∀ state bench, ∃ recovered after,
    plan.operation.recover state bench = (.ok recovered, after) ∧
    AttemptState.pinned.rel state recovered
  retrying : plan.engine.Polite plan.handlers .retrying
  completed : plan.engine.Polite plan.handlers .requestCompleted
  responses : plan.Bounded (Exchange.answered.within Prod.snd) .requestCompleted

namespace Untroubled

variable {most : Int} (untroubled : plan.Untroubled most)
include untroubled

theorem free (run : Run σ Number ω) : plan.isCancelled run = false := by
  unfold isCancelled
  cases run.context.token with
  | none => rfl
  | some token => exact untroubled.uncancelled token run.world

theorem report_of_dated (measured : landed.Measured) (dated : plan.engine.Dates met landed) (world : σ)
    (start : Time.DateTime) : ∃ attempted after,
      plan.report (plan.engine.surroundings.clock world) start met landed = (.ok attempted, after) ∧
      attempted.outcome = met.outcome ∧ attempted.state = met.state ∧
      (met.exchange.response.isSome → attempted.exchange.response.isSome) ∧
      after.requests = landed.requests ∧ after.Measured := by
  obtain ⟨result, recording, recorded, requests, timed⟩ :=
    record_of_dated untroubled.timed measured world start dated
  obtain ⟨exchange, after, announced⟩ :=
    plan.announceOn_returns (.requestCompleted result) untroubled.completed met.exchange recording
  have kept := (Act.ends_of_ok announced).mp
    (plan.announceOn_ends (.requestCompleted result) untroubled.responses met.exchange recording)
  refine ⟨{ met with exchange }, after, ?_, rfl, rfl, kept.2, ?_, ?_⟩
  · rw [report, Act.bind_of_ok recorded, Act.bind_of_ok announced]
    rfl
  · exact kept.1.toFollows.requests.trans requests
  · rw [Run.Measured, kept.1.toFollows.context]
    exact timed

theorem report_of_undated (measured : landed.Measured) (undated : ¬ plan.engine.Dates met landed) (world : σ)
    (start : Time.DateTime) : ∃ fault after,
      plan.report (plan.engine.surroundings.clock world) start met landed = (.error fault, after) := by
  obtain ⟨fault, after, refused⟩ := record_of_undated untroubled.timed measured world start undated
  exact ⟨fault, after, Act.bind_of_error refused _⟩

/-- What comes of an attempt whose request is ready: it sends one request, and with a date that can be
read it is recorded, or else the operation is interrupted. -/
theorem launch_cases (measured : run.Measured) (ready : plan.Ready progress run) :
    ∃ met landed outgoing, plan.Met progress run met landed ∧
      landed.requests = run.requests ++ [outgoing] ∧ Takes progress.state met ∧
      (plan.engine.Dates met landed → ∃ attempted after, plan.launch progress run = (.ok attempted, after) ∧
        attempted.outcome = met.outcome ∧ Takes progress.state attempted ∧
        after.requests = landed.requests ∧ after.Measured) ∧
      (¬ plan.engine.Dates met landed → ∃ failure after, plan.launch progress run = (.error failure, after) ∧
        failure.manner = .interrupted) := by
  obtain ⟨request, signed, changed, announced, outgoing, signs, announces, made⟩ := ready
  obtain ⟨met, landed, went⟩ : ∃ met landed, plan.exchanged changed plan.timeout progress.state
      announced = (met, landed) := ⟨_, _, rfl⟩
  have takes := exchanged_takes untroubled.judges untroubled.finishes went
  have sent := plan.exchanged_sent changed plan.timeout progress.state announced
  rw [went] at sent
  have before : Run.Follows run announced := by
    obtain ⟨exchange, _, kept, _⟩ := (Act.ends_of_ok announces).mp
      (plan.announceRequest_ends (plan.bounded_any _) request progress.state signed)
    exact ((plan.signed_follows _).of_ok signs).trans kept.toFollows
  have landedMeasured : landed.Measured := by
    rw [Run.Measured, sent.context, before.context]
    exact measured
  have launched := launch_of_met untroubled.unlimited (untroubled.free run) signs announces went
  refine ⟨met, landed, outgoing, ⟨request, signed, changed, announced, signs, announces, went⟩, ?_,
    takes, fun dated => ?_, fun undated => ?_⟩
  · rw [sent.requests_of_outgoing made, before.requests]
  · obtain ⟨attempted, after, reported, outcome, state, response, requests, timed⟩ :=
      untroubled.report_of_dated landedMeasured dated announced.world
        (plan.engine.surroundings.moment announced.world)
    refine ⟨attempted, after, ?_, outcome, ⟨state ▸ takes.pinned, fun product success => ?_⟩, requests,
      timed⟩
    · rw [launched, Act.mapError, reported]
    · exact response (takes.response product (outcome ▸ success))
  · obtain ⟨fault, after, refused⟩ := untroubled.report_of_undated landedMeasured undated
      announced.world (plan.engine.surroundings.moment announced.world)
    refine ⟨interruption fault, after, ?_, rfl⟩
    rw [launched, Act.mapError, refused]

end Untroubled

end Plan

end ObjectStore
