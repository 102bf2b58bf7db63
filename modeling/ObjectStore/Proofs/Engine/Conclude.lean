import ObjectStore.Proofs.Engine.Path
import ObjectStore.Proofs.Engine.Remarks

/-! What follows from an attempt: the answer, a failure, or after a pause another attempt that starts
from the recovered state. -/

namespace ObjectStore.Plan

variable {σ τ ω α : Type} (plan : Plan σ τ ω) {frame : Frame (Run σ τ ω)}

section Parts

variable [Seconds τ]

/-- What a policy is told of an attempt with a fault. -/
def reported (attempted : Attempted) (fault : Fault) : RetryContext :=
  ⟨attempted.state.retryCount, attempted.state.location, some fault, some attempted.exchange.request,
    attempted.exchange.response⟩

/-- Announces another attempt, and finds out what it starts from. -/
def ready (context : RetryContext) (attempted : Attempted) (interval : τ) :
    Act Failure (Run σ τ ω) AttemptState := do
  plan.sayAt Log.warning "Retry policy is allowing a retry: Retry count=%s, Interval=%s."
    [toString attempted.state.retryCount, Seconds.text interval]
  let _ ← (plan.announceOn (.retrying context) ⟨attempted.exchange.request, none⟩).mapError interruption
  plan.advance attempted.state

/-- The way to another attempt once there is time for the pause. -/
def resume (context : RetryContext) (attempted : Attempted) (fault : Fault) (interval : τ) :
    Act Failure (Run σ τ ω) Turn := do
  let next ← plan.ready context attempted interval
  plan.rest interval
  return .again ⟨next, some fault⟩

/-- Lets the policy decide on a fault that the caller does not expect. -/
def consult (attempted : Attempted) (fault : Fault) : Act Failure (Run σ τ ω) Turn := do
  let context := reported attempted fault
  plan.sayAt Log.info ("Operation failed: checking if the operation should be retried. " ++
      "Current retry count=%s, HTTP status code=%s, Exception=%s.")
    [toString attempted.state.retryCount, context.status, fault.message]
  match ← outside ((plan.policy.decide context).mapError interruption) with
  | none => plan.endWith "Retry policy did not allow for a retry" fault
  | some interval => plan.retry context attempted fault interval

theorem check_eq (last : Option Fault) : plan.check last = (do
    if plan.isCancelled (← Act.read) then
      plan.sayAt Log.error "Operation was cancelled." []
      cancelled
    else
      let clock ← plan.now
      let expired ← Act.ofExcept ((Deadline.hasExpired clock plan.deadline Seconds.zero).mapError
        interruption)
      if expired then
        plan.sayAt Log.error "Operation exceeded the maximum execution time." []
        outOfTime last) := by
  rfl

theorem check_of_free {last : Option Fault} {run : Run σ τ ω} {expired : Bool}
    (free : plan.isCancelled run = false)
    (checked : Deadline.hasExpired (plan.engine.surroundings.clock run.world) plan.deadline
      Seconds.zero = .ok expired) :
    plan.check last run = (if expired then do
      plan.sayAt Log.error "Operation exceeded the maximum execution time." []
      outOfTime last
    else pure () : Act Failure (Run σ τ ω) Unit) run := by
  rw [check_eq, Act.bind_of_ok (Act.read_apply run), free, if_neg Bool.false_ne_true,
    Act.bind_of_ok (plan.now_apply run), checked]
  rfl

theorem retry_eq (context : RetryContext) (attempted : Attempted) (fault : Fault) (interval : τ) :
    plan.retry context attempted fault interval = (do
      let clock ← plan.now
      let tooLate ← Act.ofExcept ((Deadline.hasExpired clock plan.deadline interval).mapError
        interruption)
      if tooLate then
        plan.sayAt Log.error
          "Operation cannot be retried: Retry interval=%s exceeds the maximum execution time."
          [Seconds.text interval]
        outOfTime (some fault)
      else plan.resume context attempted fault interval) := by
  simp only [retry, resume, ready, Act.bind_assoc]
  rfl

theorem retry_of_checked {context : RetryContext} {attempted : Attempted} {fault : Fault} {interval : τ}
    {run : Run σ τ ω} {tooLate : Bool}
    (checked : Deadline.hasExpired (plan.engine.surroundings.clock run.world) plan.deadline
      interval = .ok tooLate) :
    plan.retry context attempted fault interval run = (if tooLate then do
        plan.sayAt Log.error
          "Operation cannot be retried: Retry interval=%s exceeds the maximum execution time."
          [Seconds.text interval]
        outOfTime (some fault)
      else plan.resume context attempted fault interval : Act Failure (Run σ τ ω) Turn) run := by
  rw [retry_eq, Act.bind_of_ok (plan.now_apply run), checked]
  rfl

omit [Seconds τ] in
theorem surrender_bind {β : Type} (fault : Fault) (f : α → Act Failure (Run σ τ ω) β) :
    plan.surrender fault >>= f = plan.surrender fault := by
  unfold surrender
  split <;> rfl

theorem decide_eq (attempted : Attempted) (fault : Fault) : plan.decide attempted fault = (do
    if ← Act.ofExcept ((plan.isExpected fault).mapError interruption) then plan.surrender fault
    else plan.consult attempted fault) := by
  unfold decide
  congr 1
  funext expected
  cases expected with
  | false => rfl
  | true => exact plan.surrender_bind fault _

theorem conclude_of_retryable {attempted : Attempted} {fault : Fault}
    (outcome : attempted.outcome = .retryable fault) (unsigned : fault.kind ≠ .signing) :
    plan.conclude attempted = plan.decide attempted fault := by
  unfold conclude
  split
  · next same => rw [outcome] at same; contradiction
  · next same => rw [outcome] at same; contradiction
  · next same =>
    obtain rfl := Outcome.retryable.inj (outcome.symm.trans same)
    exact if_neg unsigned

/-- The policy decides on a fault that is neither fatal nor expected. -/
theorem decide_of_unexpected {attempted : Attempted} {fault : Fault}
    (unexpected : plan.isExpected fault = .ok false) :
    plan.decide attempted fault = plan.consult attempted fault := by
  rw [decide_eq, unexpected]
  rfl

/-- The run in which the policy is asked: a line is said, which does nothing to the world. -/
def consulted (attempted : Attempted) (fault : Fault) (run : Run σ τ ω) : Run σ τ ω :=
  run.log plan.engine.surroundings.logThreshold (Log.line Log.info .engine
    ("Operation failed: checking if the operation should be retried. " ++
      "Current retry count=%s, HTTP status code=%s, Exception=%s.")
    [toString attempted.state.retryCount, (reported attempted fault).status, fault.message])

theorem consult_eq (attempted : Attempted) (fault : Fault) (run : Run σ τ ω) :
    plan.consult attempted fault run = (do
      match ← outside ((plan.policy.decide (reported attempted fault)).mapError interruption) with
      | none => plan.endWith "Retry policy did not allow for a retry" fault
      | some interval => plan.retry (reported attempted fault) attempted fault interval)
      (plan.consulted attempted fault run) := rfl

omit [Seconds τ] in
theorem consulted_aside (attempted : Attempted) (fault : Fault) (run : Run σ τ ω) :
    Run.Aside (.same id) run (plan.consulted attempted fault run) :=
  Run.log_aside _ _ run

/-- Only the world counts for a policy, and it is left as the policy leaves it. -/
theorem consult_of_answered {attempted : Attempted} {fault : Fault} {run : Run σ τ ω} {world : σ}
    {answer : Option τ}
    (decided : plan.policy.decide (reported attempted fault) run.world = (.ok answer, world)) :
    plan.consult attempted fault run = (match answer with
      | none => plan.endWith "Retry policy did not allow for a retry" fault
      | some interval => plan.retry (reported attempted fault) attempted fault interval)
      { plan.consulted attempted fault run with world } := by
  have sameWorld : (plan.consulted attempted fault run).world = run.world :=
    (plan.consulted_aside attempted fault run).inWorld
  have answered : outside ((plan.policy.decide (reported attempted fault)).mapError interruption)
      (plan.consulted attempted fault run) = (.ok answer, { plan.consulted attempted fault run with world }) := by
    simp only [outside, Act.on_apply, Act.mapError, sameWorld, decided]
  rw [consult_eq, Act.bind_of_ok answered]

theorem consult_of_decided {attempted : Attempted} {fault : Fault} {run : Run σ τ ω} {world : σ}
    {answer : Option τ}
    (decided : plan.policy.decide (reported attempted fault) run.world = (.ok answer, world)) :
    ∃ after, Run.Follows run after ∧ after.world = world ∧
      plan.consult attempted fault run = (match answer with
        | none => plan.endWith "Retry policy did not allow for a retry" fault
        | some interval => plan.retry (reported attempted fault) attempted fault interval) after := by
  have aside := plan.consulted_aside attempted fault run
  exact ⟨{ plan.consulted attempted fault run with world }, ⟨aside.context, aside.journal⟩, rfl,
    plan.consult_of_answered decided⟩

theorem consult_of_refused {attempted : Attempted} {fault error : Fault} {run : Run σ τ ω} {world : σ}
    (refused : plan.policy.decide (reported attempted fault) run.world = (.error error, world)) :
    plan.consult attempted fault run =
      (.error (interruption error), { plan.consulted attempted fault run with world }) := by
  have sameWorld : (plan.consulted attempted fault run).world = run.world :=
    (plan.consulted_aside attempted fault run).inWorld
  rw [consult_eq]
  refine Act.bind_of_error ?_ _
  simp only [outside, Act.on_apply, Act.mapError, sameWorld, refused]

theorem consult_of_fault {attempted : Attempted} {fault error : Fault} {run : Run σ τ ω} {world : σ}
    (refused : plan.policy.decide (reported attempted fault) run.world = (.error error, world)) :
    ∃ after, plan.consult attempted fault run = (.error (interruption error), after) :=
  ⟨_, plan.consult_of_refused refused⟩

end Parts

/-- Lines that are said whatever the fault of an attempt is. -/
inductive Routine : Log.Line → Prop where
  | cancelled : Routine (Log.line Log.error .engine "Operation was cancelled." [])
  | expired : Routine (Log.line Log.error .engine "Operation exceeded the maximum execution time." [])
  | disturbed : Routine (Log.line Log.error .engine "Operation was cancelled while waiting to retry." [])
  | completed (location : Named Location) (status : Int) :
      Routine (Log.line Log.info .engine "Operation completed: Location=%s, HTTP Status Code=%s."
        [Text.oneLine (location.text Location.name), toString status])
  | expected (code : Value) :
      Routine (Log.line Log.info .engine "Operation returned an expected error: ErrorCode=%s." [code])

/-- Lines that are said with the length of a pause. -/
inductive Paused [Seconds τ] (interval : τ) : Log.Line → Prop where
  | tooLong : Paused interval (Log.line Log.error .engine
      "Operation cannot be retried: Retry interval=%s exceeds the maximum execution time."
      [Seconds.text interval])
  | allowed (count : Int) : Paused interval (Log.line Log.warning .engine
      "Retry policy is allowing a retry: Retry count=%s, Interval=%s." [toString count, Seconds.text interval])

section Routine

variable (said : ∀ line, Routine line → (plan.say line : Act Failure (Run σ τ ω) Unit).Keeps frame)
include said

theorem surrender_keeps_of_routine (fault : Fault) :
    (plan.surrender fault : Act Failure (Run σ τ ω) α).Keeps frame := by
  have rest : (do
      plan.sayAt Log.info "Operation returned an expected error: ErrorCode=%s." [fault.code]
      failWith .recorded fault : Act Failure (Run σ τ ω) α).Keeps frame :=
    .bind (said _ (.expected _)) fun _ => frame.refl
  unfold surrender
  split
  · exact .bind (.fail _) fun _ => rest
  · exact rest

theorem succeed_keeps_of_routine (hosted : ∀ run location, frame.rel run
      { run with context := { run.context with host := location } }) (attempted : Attempted)
    (product : Product) : (plan.succeed attempted product).Keeps frame := by
  unfold succeed
  split
  · exact .fail _
  · next response _ =>
    refine .bind (.change fun run => hosted run _) fun _ => .bind ?_ fun _ => .pure _
    exact said _ (.completed attempted.state.location response.status)

theorem rest_keeps_of_routine
    (acts : ∀ {β : Type} (x : Act Failure σ β), (outside x : Act Failure (Run σ τ ω) β).Keeps frame)
    (notes : ∀ entry run, entry.sent? = none → entry.logged? = none → frame.rel run (run.note entry))
    (interval : τ) : (plan.rest interval).Keeps frame := by
  refine .bind frame.refl fun clock => .bind .read fun run => ?_
  split
  · exact .bind (acts _) fun _ => .change fun run => notes _ run rfl rfl
  · refine .bind (.change fun run => notes _ run rfl rfl) fun _ => .bind (acts _) fun ended => ?_
    split
    · exact .bind (said _ .disturbed) fun _ => frame.refl
    · exact .pure ()

theorem check_keeps_of_routine [Seconds τ] (last : Option Fault) : (plan.check last).Keeps frame := by
  rw [check_eq]
  refine .bind .read fun run => ?_
  split
  · exact .bind (said _ .cancelled) fun _ => frame.refl
  · refine .bind frame.refl fun _ => .bind (.ofExcept _) fun expired => ?_
    split
    · exact .bind (said _ .expired) fun _ => frame.refl
    · exact .pure ()

end Routine

theorem retry_keeps_of_paused [Seconds τ] {interval : τ}
    (said : ∀ line, Paused interval line → (plan.say line : Act Failure (Run σ τ ω) Unit).Keeps frame)
    (recovered : ∀ state, (plan.take (plan.operation.recover state)).Keeps frame)
    (announced : ∀ context exchange, (plan.announceOn (.retrying context) exchange).Keeps frame)
    (rested : ∀ interval, (plan.rest interval).Keeps frame) (context : RetryContext) (attempted : Attempted)
    (fault : Fault) : (plan.retry context attempted fault interval).Keeps frame := by
  have resumed : (plan.resume context attempted fault interval).Keeps frame := by
    refine .bind ?_ fun next => .bind (rested _) fun _ => .pure _
    refine .bind (said _ (.allowed _)) fun _ => .bind ((announced _ _).mapError _) fun _ => ?_
    exact .bind ((recovered _).mapError _) fun _ => .bind (.ofExcept _) fun _ => .pure _
  rw [retry_eq]
  refine .bind frame.refl fun _ => .bind (.ofExcept _) fun tooLate => ?_
  split
  · exact .bind (said _ .tooLong) fun _ => frame.refl
  · exact resumed

section Frames

variable (said : ∀ line, (plan.say line : Act Failure (Run σ τ ω) Unit).Keeps frame)

include said

theorem endWith_keeps (reason : String) (fault : Fault) :
    (plan.endWith reason fault : Act Failure (Run σ τ ω) α).Keeps frame :=
  .bind (said _) fun _ => frame.refl

theorem surrender_keeps (fault : Fault) :
    (plan.surrender fault : Act Failure (Run σ τ ω) α).Keeps frame :=
  plan.surrender_keeps_of_routine (fun line _ => said line) fault

theorem succeed_keeps (hosted : ∀ run location, frame.rel run
      { run with context := { run.context with host := location } }) (attempted : Attempted)
    (product : Product) : (plan.succeed attempted product).Keeps frame :=
  plan.succeed_keeps_of_routine (fun line _ => said line) hosted attempted product

theorem rest_keeps
    (acts : ∀ {β : Type} (x : Act Failure σ β), (outside x : Act Failure (Run σ τ ω) β).Keeps frame)
    (notes : ∀ entry run, entry.sent? = none → frame.rel run (run.note entry)) (interval : τ) :
    (plan.rest interval).Keeps frame :=
  plan.rest_keeps_of_routine (fun line _ => said line) acts (fun entry run unsent _ => notes entry run unsent)
    interval

variable [Seconds τ]

theorem check_keeps (last : Option Fault) : (plan.check last).Keeps frame :=
  plan.check_keeps_of_routine (fun line _ => said line) last

/-- Only after a success does it matter who served the attempt. -/
theorem conclude_keeps_of_fault
    (decided : ∀ context, (outside (plan.policy.decide context)).Keeps frame)
    (retried : ∀ context attempted fault interval,
      (plan.retry context attempted fault interval).Keeps frame) {attempted : Attempted}
    (failed : attempted.outcome.fault?.isSome) : (plan.conclude attempted).Keeps frame := by
  unfold conclude
  split
  · next succeeded =>
    rw [succeeded] at failed
    contradiction
  · exact plan.endWith_keeps said _ _
  · next fault _ =>
    split
    · exact plan.endWith_keeps said _ _
    · rw [decide_eq]
      refine .bind (.ofExcept _) fun expected => ?_
      split
      · exact plan.surrender_keeps said _
      · refine .bind (said _) fun _ => .bind ?_ fun answer => ?_
        · intro run
          have kept := decided (reported attempted fault) run
          simp only [outside, Act.on_apply, Act.mapError] at kept ⊢
          split <;> simp_all
        · cases answer with
          | none => exact plan.endWith_keeps said _ _
          | some interval => exact retried _ _ _ _

theorem conclude_keeps (hosted : ∀ run location, frame.rel run
      { run with context := { run.context with host := location } })
    (decided : ∀ context, (outside (plan.policy.decide context)).Keeps frame)
    (retried : ∀ context attempted fault interval,
      (plan.retry context attempted fault interval).Keeps frame) (attempted : Attempted) :
    (plan.conclude attempted).Keeps frame := by
  cases failed : attempted.outcome.fault? with
  | some fault => exact plan.conclude_keeps_of_fault said decided retried (by rw [failed]; rfl)
  | none =>
      unfold conclude
      split
      · exact plan.succeed_keeps said hosted _ _
      all_goals
        next outcome =>
        rw [outcome] at failed
        cases failed

variable (recovered : ∀ state, (plan.take (plan.operation.recover state)).Keeps frame)
  (announced : ∀ context exchange, (plan.announceOn (.retrying context) exchange).Keeps frame)
  (rested : ∀ interval, (plan.rest interval).Keeps frame)
include recovered announced rested

theorem retry_keeps (context : RetryContext) (attempted : Attempted) (fault : Fault) (interval : τ) :
    (plan.retry context attempted fault interval).Keeps frame :=
  plan.retry_keeps_of_paused (fun line _ => said line) recovered announced rested context attempted fault

end Frames

section Results

variable [Seconds τ] {landed : Run σ τ ω}

/-- What the next attempt starts from after an attempt with a fault. -/
def Recovers (attempted : Attempted) (next : Progress) : Prop :=
  ∃ fault bench recovered location, attempted.outcome = .retryable fault ∧
    (plan.operation.recover attempted.state bench).1 = .ok recovered ∧
    Mode.next recovered.mode recovered.location plan.endpoints = .ok location ∧
    next = ⟨{ recovered.nextAttempt with location := .known location }, some fault⟩

/-- The operation is done only after a success, and goes on only after a fault that is not fatal. -/
def Follow (attempted : Attempted) : Turn → Prop
  | .done answer => ∃ product response, attempted.outcome = .success product ∧
      answer = product.settle response
  | .again next => plan.Recovers attempted next

omit [Seconds τ] in
theorem endWith_yields {P : α → Prop} (reason : String) (fault : Fault) :
    (plan.endWith reason fault : Act Failure (Run σ τ ω) α).Yields P :=
  .after fun _ _ => trivial

omit [Seconds τ] in
theorem surrender_yields {P : α → Prop} (fault : Fault) :
    (plan.surrender fault : Act Failure (Run σ τ ω) α).Yields P := by
  unfold surrender
  split
  · exact .after fun _ => .after fun _ _ => trivial
  · exact .after fun _ _ => trivial

omit [Seconds τ] in
theorem advance_yields (state : AttemptState) :
    (plan.advance state).Yields fun next => ∃ bench recovered location,
      (plan.operation.recover state bench).1 = .ok recovered ∧
      Mode.next recovered.mode recovered.location plan.endpoints = .ok location ∧
      next = { recovered.nextAttempt with location := .known location } := by
  have recovers : (plan.take (plan.operation.recover state)).Yields fun recovered =>
      ∃ bench, (plan.operation.recover state bench).1 = .ok recovered :=
    fun run => (plan.take_ends _ run).imp fun _ _ good => ⟨_, good.1⟩
  refine .bind (recovers.mapError interruption) fun recovered recovery => ?_
  obtain ⟨bench, recovery⟩ := recovery
  refine .bind (.ofExcept fun _ moved => moved) fun location moved => .pure ?_
  refine ⟨bench, recovered, location, recovery, ?_, rfl⟩
  exact Act.except_mapError_eq_ok.mp moved

theorem retry_yields {attempted : Attempted} {fault : Fault}
    (outcome : attempted.outcome = .retryable fault) (context : RetryContext) (interval : τ) :
    (plan.retry context attempted fault interval).Yields (plan.Follow attempted) := by
  have resumed : (plan.resume context attempted fault interval).Yields (plan.Follow attempted) := by
    have advanced := plan.advance_yields attempted.state
    refine .bind (.after fun _ => .after fun _ => advanced) fun next advances => ?_
    obtain ⟨bench, recovered, location, recovery, moved, rfl⟩ := advances
    exact .after fun _ => .pure ⟨fault, bench, recovered, location, outcome, recovery, moved, rfl⟩
  rw [retry_eq]
  refine .after fun _ => .after fun tooLate => ?_
  split
  · exact .after fun _ _ => trivial
  · exact resumed

theorem conclude_yields (attempted : Attempted) :
    (plan.conclude attempted).Yields (plan.Follow attempted) := by
  unfold conclude
  split
  · next product outcome =>
    unfold succeed
    split
    · exact .fail _
    · exact .after fun _ => .after fun _ => .pure ⟨product, _, outcome, rfl⟩
  · exact plan.endWith_yields _ _
  · next fault outcome =>
    split
    · exact plan.endWith_yields _ _
    · rw [decide_eq]
      refine .after fun expected => ?_
      split
      · exact plan.surrender_yields fault
      · refine .after fun _ => .after fun answer => ?_
        cases answer with
        | none => exact plan.endWith_yields _ _
        | some interval => exact plan.retry_yields outcome _ _

end Results

end ObjectStore.Plan
