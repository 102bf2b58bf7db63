import ObjectStore.Proofs.Engine.Prepare
import ObjectStore.Proofs.Engine.Requests
import ObjectStore.Proofs.Request.ConditionHeader
import ObjectStore.Proofs.Transfer.Reception

/-! Downloads from attempt to attempt. Every attempt asks for exactly what has not been written, and
whatever the service answers, the pieces written add up over the attempts. -/

namespace ObjectStore

open Request (asked sameRange)

variable {σ τ ω α : Type}

namespace Download

variable {write : List UInt8 → Act Fault ω Unit} {sink : Sink write} {download : Download}
  {Fits : List Value → Response → Prop} {range : List Value} {written : List (List UInt8)}

/-- What one turn that asks for a range does to a run: at most one request, and what was written on
its response. -/
structure Gains (sink : Sink write) (Fits : List Value → Response → Prop) (range : List Value)
    (written : List (List UInt8)) (run after : Run σ τ ω) : Prop where
  taken : sink.taken after.work = sink.taken run.work ++ written
  source : Source Fits range written
  requests : after.requests = run.requests ∨
    ∃ outgoing, after.requests = run.requests ++ [outgoing] ∧ asked outgoing.headers = range
  userHeaders : after.context.userHeaders = run.context.userHeaders

theorem Gains.of_still {run after : Run σ τ ω} (still : Run.still.rel run after) :
    Gains sink Fits range [] run after := by
  obtain ⟨work, requests, userHeaders⟩ := Run.still_iff.mp still
  exact ⟨by simp [work], .inl rfl, .inl requests, userHeaders⟩

theorem Gains.after_still {first run after : Run σ τ ω} (gains : Gains sink Fits range written run after)
    (still : Run.still.rel first run) : Gains sink Fits range written first after := by
  obtain ⟨work, requests, userHeaders⟩ := Run.still_iff.mp still
  exact ⟨work ▸ gains.taken, gains.source, requests ▸ gains.requests, userHeaders ▸ gains.userHeaders⟩

theorem Gains.then_still {run after last : Run σ τ ω} (gains : Gains sink Fits range written run after)
    (still : Run.still.rel after last) : Gains sink Fits range written run last := by
  obtain ⟨work, requests, userHeaders⟩ := Run.still_iff.mp still
  exact ⟨work ▸ gains.taken, gains.source, requests ▸ gains.requests,
    userHeaders.trans gains.userHeaders⟩

variable {plan : Plan σ τ ω}

variable [Seconds τ]

/-- The state in which an attempt ended that began in another. -/
structure Advanced (written : List (List UInt8)) (before : AttemptState) (attempted : Attempted)
    (Fits : List Value → Response → Prop) (range : List Value) : Prop where
  offset : attempted.state.offset = before.offset
  length : attempted.state.length = before.length
  received : attempted.state.received = written.flatten.length
  succeeded : Succeeded Fits range attempted.outcome written

theorem attempt_gains (sink : Sink write) (serves : plan.Serves download write) (honest : plan.Honest Fits)
    {request : Request} (asks : asked request.headers = range) (timeout : Timeout τ)
    {state : AttemptState} (fresh : state.received = 0) (run : Run σ τ ω) :
    (plan.attempt request timeout state).Ends run
      (fun attempted after => ∃ written, Gains sink Fits range written run after ∧
        Advanced written state attempted Fits range)
      (fun _ after => ∃ written, Gains sink Fits range written run after) := by
  have sentOnce : ∀ {met landed after}, plan.exchanged request timeout state run = (met, landed) →
      after.work = landed.work → after.requests = landed.requests →
      after.context.userHeaders = landed.context.userHeaders → ∃ written,
        Gains sink Fits range written run after ∧ Wrote sink written (run.work, state)
          (landed.work, met.state) ∧ Succeeded Fits range met.outcome written := by
    intro met landed after went work requests userHeaders
    obtain ⟨written, wrote, source, succeeded⟩ :=
      exchanged_gained sink serves honest asks timeout fresh went
    have sent : plan.Sent request timeout run landed := by
      have := plan.exchanged_sent request timeout state run
      rwa [went] at this
    refine ⟨written, ⟨work ▸ wrote.taken, source, ?_, ?_⟩, wrote, succeeded⟩
    · rcases sent.requests with ⟨_, none⟩ | ⟨outgoing, made, one⟩
      · exact .inl (requests.trans none)
      · exact .inr ⟨outgoing, requests.trans one, (Plan.outgoing_headers made ▸ asks)⟩
    · rw [userHeaders, sent.context]
  refine (plan.attempt_ends (plan.bounded_any _) request timeout state run).mono ?_ ?_
  · rintro attempted after ⟨met, landed, time, result, went, same, fault, kept⟩
    obtain ⟨work, requests, userHeaders⟩ := Run.still_iff.mp kept.1.still
    obtain ⟨written, gains, wrote, succeeded⟩ := sentOnce went work requests userHeaders
    refine ⟨written, gains, ?_⟩
    rw [same]
    exact ⟨wrote.offset, wrote.length, by simpa [fresh] using wrote.received, succeeded⟩
  · rintro fault after ⟨met, landed, time, results, went, kept⟩
    obtain ⟨work, requests, userHeaders⟩ := Run.still_iff.mp kept.still
    obtain ⟨written, gains, _⟩ := sentOnce went work requests userHeaders
    exact ⟨written, gains⟩

omit [Seconds τ] in
theorem sign_still (serves : plan.Serves download write) (request : Request) :
    (plan.sign request).Keeps Run.still := by
  unfold Plan.sign
  rw [serves.unsigned]
  exact plan.take_still fun _ => ⟨rfl, trivial⟩

theorem prepare_still (serves : plan.Serves download write) (state : AttemptState)
    (last : Option Fault) : (plan.prepare state last).Keeps Run.still := by
  refine plan.prepare_keeps plan.say_still (plan.prepared_keeps ?_ ?_ ?_ state) last
  · intro state
    rw [serves.build]
    exact plan.take_still (.ofExcept _)
  · intro state request
    rw [serves.setHeaders]
    exact plan.take_still (.ofExcept _)
  · exact sign_still serves

theorem prepare_asks (serves : plan.Serves download write) {before : Nat} {state : AttemptState}
    (standing : download.Standing before state) (last : Option Fault) {run : Run σ τ ω}
    (unranged : Plan.Unranged run.context) :
    (plan.prepare state last).Ends run
      (fun made _ => asked made.1.headers = download.rangeAfter before) fun _ _ => True := by
  refine plan.prepare_ends (plan.prepared_asks unranged ?_ ?_ serves.unsigned) last
  · intro bench request built
    rw [serves.build] at built
    exact serves.valid.request_asks standing built
  · intro request bench changed headed
    rw [serves.setHeaders] at headed
    have foreign : ∀ kind ∈ Request.Condition.all, kind.key ≠ "x-ms-range" := by decide
    exact setConditions_keeps (fun kind member => Request.set_sameUnder (foreign kind member)) headed

theorem conclude_still (serves : plan.Serves download write) (attempted : Attempted) :
    (plan.conclude attempted).Keeps Run.still := by
  refine plan.conclude_keeps plan.say_still (fun _ _ => rfl) (fun _ => Plan.outside_still fun _ => trivial)
    (plan.retry_keeps plan.say_still ?_ ?_ plan.rest_still) attempted
  · intro state
    rw [serves.recover]
    refine plan.take_still ?_
    dsimp only [recover]
    split
    · exact .bind (Step.say_idle _ _) fun _ => .pure _
    · exact .pure _
  · intro context exchange
    have free : plan.Bounded ((Frame.any σ).within Prod.fst) .retrying := fun _ _ _ _ => trivial
    exact (plan.announceOn_keeps (.retrying context) free exchange).weaken fun _ _ => Run.Aside.still

omit [Seconds τ] in
theorem recover_eq {state recovered : AttemptState} {bench : Bench σ ω}
    (done : (recover state bench).1 = .ok recovered) : recovered = resume state := by
  dsimp only [recover] at done
  split at done <;> exact (Except.ok.inj done).symm

section Turn

variable (sink : Sink write) (serves : plan.Serves download write) (honest : plan.Honest Fits)
  {before : Nat} {progress : Progress} (standing : download.Standing before progress.state)
  {run : Run σ τ ω} (unranged : Plan.Unranged run.context)
include serves honest standing unranged

/-- The turn up to the end of its attempt. -/
theorem launch_gains :
    (plan.launch progress).Ends run
      (fun attempted after => ∃ written, Gains sink Fits (download.rangeAfter before) written run after ∧
        Advanced written progress.state attempted Fits (download.rangeAfter before))
      (fun _ after => ∃ written, Gains sink Fits (download.rangeAfter before) written run after) := by
  have failed : ∀ {after}, Run.still.rel run after →
      ∃ written, Gains sink Fits (download.rangeAfter before) written run after :=
    fun still => ⟨[], .of_still still⟩
  refine Act.ends_bind.mpr (((plan.check_keeps plan.say_still _).ends run).mono ?_ fun _ _ => failed)
  intro _ checked still
  have unrangedChecked : Plan.Unranged checked.context := by
    unfold Plan.Unranged
    rw [(Run.still_iff.mp still).2.2]
    exact unranged
  refine Act.ends_bind.mpr ((((prepare_still serves _ _).ends checked).and
    (prepare_asks serves standing _ unrangedChecked)).mono ?_ ?_)
  · rintro ⟨request, timeout⟩ prepared ⟨stillToo, asks⟩
    refine Act.ends_bind.mpr ((plan.announceRequest_ends honest.asks request _ prepared).mono ?_ ?_)
    · rintro changed announced ⟨exchange, rfl, kept⟩
      have asksStill : asked exchange.request.headers = download.rangeAfter before :=
        Eq.trans kept.2 asks
      have quiet : Run.still.rel run announced :=
        Run.still.trans still (Run.still.trans stillToo kept.1.still)
      refine Act.ends_mapError.mpr ((attempt_gains sink serves honest asksStill timeout
        standing.received announced).mono ?_ ?_)
      · rintro attempted after ⟨written, gains, advanced⟩
        exact ⟨written, gains.after_still quiet, advanced⟩
      · rintro fault after ⟨written, gains⟩
        exact ⟨written, gains.after_still quiet⟩
    · rintro fault announced ⟨exchange, kept⟩
      exact failed (Run.still.trans still (Run.still.trans stillToo kept.1.still))
  · rintro failure prepared ⟨stillToo, _⟩
    exact failed (Run.still.trans still stillToo)

/-- A turn writes what it gained, and the next one stands that much further on. -/
theorem turn_gains :
    (plan.turn progress).Ends run
      (fun turn after => ∃ written, Gains sink Fits (download.rangeAfter before) written run after ∧
        match turn with
        | .done _ => Complete Fits (download.rangeAfter before) written
        | .again next => download.Standing (before + written.flatten.length) next.state)
      (fun _ after => ∃ written, Gains sink Fits (download.rangeAfter before) written run after) := by
  rw [plan.turn_eq]
  refine Act.ends_bind.mpr ((launch_gains sink serves honest standing unranged).mono ?_
    fun _ _ gains => gains)
  rintro attempted landed ⟨written, gains, advanced⟩
  refine (((conclude_still serves attempted).ends landed).and
    (plan.conclude_yields attempted landed)).mono ?_ ?_
  · rintro turn after ⟨still, follows⟩
    refine ⟨written, gains.then_still still, ?_⟩
    cases turn with
    | done answer =>
        obtain ⟨product, _, success, _⟩ := follows
        exact advanced.succeeded product success
    | again next =>
        obtain ⟨fault, bench, recovered, location, _, recovery, _, rfl⟩ := follows
        rw [serves.recover] at recovery
        obtain rfl := recover_eq recovery
        have further := standing.resume advanced.offset advanced.length advanced.received
        exact ⟨further.received, further.offset, further.length⟩
  · rintro failure after ⟨still, _⟩
    exact ⟨written, gains.then_still still⟩

/-- A turn that ends the operation gives an answer only after all of a response was written. -/
theorem ending_gains {result : Except Failure (Option Answer)}
    (ends : Turn.ending (plan.turn progress run).1 = some result) :
    ∃ written, Gains sink Fits (download.rangeAfter before) written run (plan.turn progress run).2 ∧
      ∀ answer, result = .ok (some answer) → Complete Fits (download.rangeAfter before) written := by
  have turns := turn_gains sink serves honest standing unranged
  cases turned : plan.turn progress run with
  | mk outcome after =>
      rw [turned] at ends
      cases outcome with
      | error failure =>
          obtain ⟨written, gains⟩ := (Act.ends_of_error turned).mp turns
          cases ends
          exact ⟨written, gains, nofun⟩
      | ok turn =>
          obtain ⟨written, gains, further⟩ := (Act.ends_of_ok turned).mp turns
          cases turn with
          | done answer => exact ⟨written, gains, fun _ _ => further⟩
          | again next => cases ends

end Turn

/-- What is true of the pieces written so far whenever an attempt adds to them. -/
structure Upheld (download : Download) (Fits : List Value → Response → Prop)
    (P : List (List UInt8) → Prop) : Prop where
  start : P []
  grow : ∀ before written, P before →
    Source Fits (download.rangeAfter before.flatten.length) written → P (before ++ written)

variable {P : List (List UInt8) → Prop} {start : Progress} {begun run : Run σ τ ω}

/-- The induction along a path: what was written determines where the download stands. -/
theorem path_gains (sink : Sink write) (serves : plan.Serves download write) (honest : plan.Honest Fits)
    (upheld : download.Upheld Fits P) (standing : download.Standing 0 start.state)
    (unranged : Plan.Unranged begun.context) {made : List Attempted} {progress : Progress}
    (path : plan.Path start begun made progress run) :
    ∃ before, sink.taken run.work = sink.taken begun.work ++ before ∧ P before ∧
      download.Standing before.flatten.length progress.state ∧ Plan.Unranged run.context := by
  induction path with
  | start => exact ⟨[], by simp, upheld.start, standing, unranged⟩
  | again path launched concluded ih =>
      obtain ⟨before, taken, holds, stands, unranged⟩ := ih
      have turned := (Plan.turn_of_conclude launched).trans concluded
      obtain ⟨written, gains, further⟩ :=
        (Act.ends_of_ok turned).mp (turn_gains sink serves honest stands unranged)
      refine ⟨before ++ written, ?_, upheld.grow _ _ holds gains.source, ?_, ?_⟩
      · rw [gains.taken, taken, List.append_assoc]
      · rwa [List.flatten_append, List.length_append]
      · unfold Plan.Unranged
        rw [gains.userHeaders]
        exact unranged

/-- After any number of attempts the next one asks for exactly what has not been written, and an
answer is given only after all of a response was written. -/
theorem run_gains (sink : Sink write) (serves : plan.Serves download write) (honest : plan.Honest Fits)
    (upheld : download.Upheld Fits P) (standing : download.Standing 0 start.state)
    (unranged : Plan.Unranged begun.context) (fuel : Nat) :
    ∃ before, sink.taken (plan.run fuel start begun).2.work = sink.taken begun.work ++ before ∧
      P before ∧
      (∀ answer, (plan.run fuel start begun).1 = .ok (some answer) → ∃ early late,
        before = early ++ late ∧ P early ∧
          Complete Fits (download.rangeAfter early.flatten.length) late) ∧
      ∃ written, Gains sink Fits (download.rangeAfter before.flatten.length) written
        (plan.run fuel start begun).2 (plan.run (fuel + 1) start begun).2 := by
  obtain ⟨made, progress, run, path, rfl, ran⟩ | ⟨made, progress, run, result, path, within, ends, ran⟩ :=
    plan.run_cases start begun fuel
  · obtain ⟨before, taken, holds, stands, unranged⟩ :=
      path_gains sink serves honest upheld standing unranged path
    rw [ran, path.run_eq 1, Plan.run_one]
    refine ⟨before, taken, holds, nofun, ?_⟩
    obtain ⟨_, written, gains, _⟩ | ⟨_, written, gains⟩ :=
      (turn_gains sink serves honest stands unranged).cases
    · exact ⟨written, gains⟩
    · exact ⟨written, gains⟩
  · obtain ⟨early, taken, holds, stands, unranged⟩ :=
      path_gains sink serves honest upheld standing unranged path
    obtain ⟨late, gains, complete⟩ := ending_gains sink serves honest stands unranged ends
    rw [ran, path.run_of_ending ends (Nat.lt_succ_of_lt within)]
    refine ⟨early ++ late, ?_, upheld.grow _ _ holds gains.source, ?_, [], .of_still ?_⟩
    · rw [gains.taken, taken, List.append_assoc]
    · exact fun answer answered => ⟨early, late, rfl, holds, complete answer answered⟩
    · exact Run.still.refl _

variable {engine : Engine σ τ} {operation : Operation σ τ ω} {handlers : Handlers σ}
  {options : Options τ (Policy σ τ)} {endpoints : Option Endpoints}

/-- The same of whole operations, for any policy and any number of attempts. -/
theorem execute_gains (sink : Sink write) (policy : Option (Policy σ τ))
    (made : download.operation write options endpoints = .ok operation)
    (honest : engine.Honest handlers true Fits) (upheld : download.Upheld Fits P)
    (unranged : Plan.Unranged run.context) (fuel : Nat) :
    ∃ before, sink.taken (engine.execute operation policy handlers fuel run).2.work =
        sink.taken run.work ++ before ∧ P before ∧
      (∀ answer, (engine.execute operation policy handlers fuel run).1 = .ok (some answer) →
        ∃ early late, before = early ++ late ∧ P early ∧
          Complete Fits (download.rangeAfter early.flatten.length) late) ∧
      ∃ written, Gains sink Fits (download.rangeAfter before.flatten.length) written
        (engine.execute operation policy handlers fuel run).2
        (engine.execute operation policy handlers (fuel + 1) run).2 := by
  cases planned : engine.planFor operation policy handlers run with
  | error fault =>
      rw [Engine.execute_of_refusal planned, Engine.execute_of_refusal planned]
      exact ⟨[], by simp [Engine.opened], upheld.start, nofun, [], .of_still (Run.still.refl _)⟩
  | ok settled =>
      obtain ⟨plan, start⟩ := settled
      obtain ⟨rfl, rfl, rfl, mode, location, _, rfl⟩ := Engine.planFor_eq planned
      rw [Engine.execute_of_plan planned, Engine.execute_of_plan planned]
      have serves := Plan.serves_of_operation made
      have unrangedStill : Plan.Unranged (Engine.opened run).context := unranged
      refine run_gains sink serves ?_ upheld (serves.valid.standing_start ?_ ?_ ?_) unrangedStill fuel
      · rwa [← serves.streamed] at honest
      all_goals rw [serves.start]

end Download

end ObjectStore
