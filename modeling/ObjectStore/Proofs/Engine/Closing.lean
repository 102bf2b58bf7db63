import ObjectStore.Proofs.Engine.Accord
import ObjectStore.Proofs.Engine.Settling

/-! How a turn fails. Either the next request cannot be prepared, and then nobody heard of it, or the
failure closes the operation: it is the fault of the last attempt, or it says that the time was over or
that somebody cancelled. -/

namespace ObjectStore

variable {σ ω : Type}

/-- The failure carries all results of the run that it ends. It is the fault of the last of them, or it
has that fault behind it because the time was over, or the operation was cancelled. -/
structure Failure.Closes (failure : Failure) (ended : Run σ Number ω) : Prop where
  attached : failure.attached = some ended.context.results
  reason : failure.manner = .recorded ∧ ended.lastFault = some failure.fault ∨
    failure.manner = .outOfTime ∧ failure.fault.kind = .timedOut ∧
      failure.fault.inner = ended.lastFault ∨
    failure.manner = .cancelled ∧ failure.fault.kind = .cancelled

theorem Failure.Closes.uninterrupted {failure : Failure} {ended : Run σ Number ω}
    (closes : failure.Closes ended) : failure.manner ≠ .interrupted := by
  rcases closes.reason with ⟨manner, _⟩ | ⟨manner, _⟩ | ⟨manner, _⟩ <;>
    · rw [manner]
      decide

namespace Plan

variable (plan : Plan σ Number ω)

/-- The next request cannot be prepared. Its failure ends the operation, with the last fault behind it
if the time was over, and nothing was sent and nothing heard. -/
def Unready (progress : Progress) (run : Run σ Number ω) (failure : Failure) (ended : Run σ Number ω) :
    Prop :=
  plan.check progress.last run = (.ok (), run) ∧
  (∃ fault unready, plan.prepared progress.state run = (.error fault, unready) ∧
    failure.fault = behind run.lastFault fault) ∧
  plan.prepare progress.state progress.last run = (.error failure, ended) ∧
  ended.requests = run.requests ∧ ended.heard = run.heard

variable {plan} {progress : Progress} {run after : Run σ Number ω} {failure : Failure} {fault : Fault}

theorem closes_endWith {Q : Turn → Run σ Number ω → Prop} (reason : String)
    (known : run.lastFault = some fault) :
    (plan.endWith reason fault : Act Failure (Run σ Number ω) Turn).Ends run Q
      fun failure after => failure.Closes after :=
  ⟨rfl, .inl ⟨rfl, (Run.log_follows _ _ run).lastFault.trans known⟩⟩

theorem closes_surrender {Q : Turn → Run σ Number ω → Prop} (reports : fault.report?.isSome)
    (known : run.lastFault = some fault) :
    (plan.surrender fault : Act Failure (Run σ Number ω) Turn).Ends run Q
      fun failure after => failure.Closes after := by
  have there : fault.report?.isNone = false := by
    rw [Option.isNone_eq_false_iff]
    exact reports
  unfold surrender
  rw [there]
  exact ⟨rfl, .inl ⟨rfl, (Run.log_follows _ _ run).lastFault.trans known⟩⟩

theorem hasExpired_zero (timed : plan.Timed) (run : Run σ Number ω) :
    ∃ expired, Deadline.hasExpired (plan.engine.surroundings.clock run.world) plan.deadline
      (Seconds.zero : Number) = .ok expired := by
  obtain ⟨x, shows⟩ := timed run.world
  rw [shows]
  cases plan.deadline with
  | none => exact ⟨_, rfl⟩
  | some deadline => exact ⟨_, rfl⟩

variable (plan) in
/-- A check changes nothing if the attempt may be made, and closes the operation if not. -/
theorem check_ends (timed : plan.Timed) {last : Option Fault} (known : last = run.lastFault) :
    (plan.check last).Ends run (fun _ after => after = run) fun failure after => failure.Closes after := by
  cases free : plan.isCancelled run with
  | true =>
      rw [check_eq]
      refine Act.ends_bind.mpr (Act.ends_read.mpr ?_)
      rw [free]
      exact ⟨rfl, .inr (.inr ⟨rfl, rfl⟩)⟩
  | false =>
      obtain ⟨expired, checked⟩ := hasExpired_zero timed run
      refine (Act.ends_of_eq (plan.check_of_free free checked)).mpr ?_
      cases expired with
      | true => exact ⟨rfl, .inr (.inl ⟨rfl, rfl, known.trans (Run.log_follows _ _ run).lastFault.symm⟩)⟩
      | false => rfl

theorem behind_of_other {last : Option Fault} (other : fault.kind ≠ .timedOut) :
    behind last fault = fault := by
  unfold behind
  split
  · next timedOut _ => exact absurd timedOut other
  · rfl

/-- What becomes of a fault in preparation. Faults that report on operations carry the results. -/
theorem refuse_ends {α : Type} (last : Option Fault) (fault : Fault) (run : Run σ Number ω) :
    (plan.refuse last fault : Act Failure (Run σ Number ω) α).Ends run (fun _ _ => False)
      fun failure after => failure.fault = behind last fault ∧ failure.manner ≠ .interrupted ∧
        (failure.fault.kind.isStorage → failure.attached = some after.context.results) := by
  unfold refuse
  split
  · next argument =>
    have plain : fault.kind ≠ .timedOut ∧ fault.kind.isStorage = false := by
      revert argument
      cases fault.kind <;> simp [Fault.Kind.isArgument, Fault.Kind.isStorage]
    refine ⟨(behind_of_other plain.1).symm, nofun, fun storage => ?_⟩
    rw [show Failure.fault _ = fault from rfl, plain.2] at storage
    contradiction
  · split
    · refine ⟨rfl, ?_, fun _ => rfl⟩
      split <;> nofun
    · next storage =>
      have other : fault.kind ≠ .timedOut := by
        intro timedOut
        exact storage (by rw [timedOut]; rfl)
      exact ⟨(behind_of_other other).symm, nofun, fun claimed => absurd claimed storage⟩

theorem prepare_fails {state : AttemptState} {last : Option Fault}
    (refused : plan.prepare state last run = (.error failure, after)) :
    ∃ fault unready, plan.prepared state run = (.error fault, unready) ∧ failure.manner ≠ .interrupted ∧
      (failure.fault.kind.isStorage → failure.attached = some after.context.results) ∧
      failure.fault = behind last fault := by
  rw [prepare, Act.bind_apply, Act.attempt_apply] at refused
  cases prepared : plan.prepared state run with
  | mk result unready =>
  rw [prepared] at refused
  cases result with
  | ok ready => cases refused
  | error fault =>
      obtain ⟨shown, manner, attached⟩ := (Act.ends_of_error refused).mp (refuse_ends last fault unready)
      exact ⟨fault, unready, rfl, manner, attached, shown⟩

theorem announceRequest_returns (polite : plan.Polite .sendingRequest) (request : Request)
    (state : AttemptState) : (plan.announceRequest request state).Returns := by
  refine .bind ((plan.announceOn_returns (.sendingRequest _) polite _).mapError _) fun exchange => ?_
  exact .bind (fun run => ⟨(), _, rfl⟩) fun _ => .pure _

/-- What a turn fails with before its request is handed over. -/
theorem depart_fails (timed : plan.Timed) (polite : plan.Polite .sendingRequest)
    (known : progress.last = run.lastFault)
    (refused : plan.depart progress run = (.error failure, after)) :
    failure.manner ≠ .interrupted ∧ (failure.fault.kind.isStorage → failure.attached = some after.context.results) ∧
      (failure.Closes after ∨ plan.Unready progress run failure after) := by
  have checks := plan.check_ends timed known
  cases checked : plan.check progress.last run with
  | mk result early =>
  cases result with
  | error other =>
      have closes := (Act.ends_of_error checked).mp checks
      rw [depart, Act.bind_of_error checked] at refused
      cases refused
      exact ⟨closes.uninterrupted, fun _ => closes.attached, .inl closes⟩
  | ok _ =>
      obtain rfl := (Act.ends_of_ok checked).mp checks
      rw [depart, Act.bind_of_ok checked] at refused
      cases prepared : plan.prepare progress.state progress.last early with
      | mk result late =>
      cases result with
      | ok ready =>
          obtain ⟨request, timeout⟩ := ready
          obtain ⟨changed, announced, announces⟩ := announceRequest_returns polite request progress.state late
          rw [Act.bind_of_ok prepared] at refused
          dsimp only at refused
          rw [Act.bind_of_ok announces] at refused
          cases refused
      | error other =>
          rw [Act.bind_of_error prepared] at refused
          cases refused
          have quiet := (plan.prepare_silent progress.state progress.last).of_error prepared
          have unsent := ((plan.prepare_follows progress.state progress.last).of_error prepared).requests
          obtain ⟨fault, unready, refusal, manner, attached, shown⟩ :=
            prepare_fails prepared
          refine ⟨manner, attached, .inr ⟨checked, ⟨fault, unready, refusal, ?_⟩, prepared, unsent, quiet⟩⟩
          rw [← known]
          exact shown

variable (plan) in
/-- A pause, which may be cut short only if there is a token that cancels the operation. -/
def pause (token : Option String) (interval : Number) : Act Fault σ Bool :=
  match token with
  | none => do
    plan.engine.surroundings.sleep interval
    return false
  | some token => plan.engine.surroundings.wait token interval

section Pause

variable {interval : Number} {world : σ}

/-- After a pause the operation goes on unless it was cancelled meanwhile. -/
theorem rest_of_paused {cancel : Bool}
    (paused : plan.pause run.context.token interval run.world = (.ok cancel, world)) :
    (plan.rest interval).Ends run (fun _ _ => True) fun failure after => failure.Closes after := by
  rw [Act.Ends, rest, Act.bind_of_ok (plan.now_apply run), Act.bind_of_ok (Act.read_apply run)]
  cases token : run.context.token with
  | none =>
      rw [token, pause] at paused
      cases slept : plan.engine.surroundings.sleep interval run.world with
      | mk result after =>
      cases result with
      | error fault => cases (Act.bind_of_error slept _).symm.trans paused
      | ok _ =>
          have rested : outside ((plan.engine.surroundings.sleep interval).mapError interruption) run =
              (.ok (), { run with world := after }) := by
            simp only [outside, Act.on_apply, Act.mapError, slept]
          simp only [Act.bind_of_ok rested]
          trivial
  | some name =>
      rw [token, pause] at paused
      simp only [Act.bind_apply, Act.change_apply, outside, Act.on_apply, Act.mapError, Run.note, paused]
      cases cancel with
      | true => exact ⟨rfl, .inr (.inr ⟨rfl, rfl⟩)⟩
      | false => trivial

theorem rest_of_broken
    (broken : plan.pause run.context.token interval run.world = (.error fault, world)) :
    ∃ after, plan.rest interval run = (.error (interruption fault), after) := by
  rw [rest, Act.bind_of_ok (plan.now_apply run), Act.bind_of_ok (Act.read_apply run)]
  cases token : run.context.token with
  | none =>
      rw [token, pause] at broken
      cases slept : plan.engine.surroundings.sleep interval run.world with
      | mk result after =>
      cases result with
      | ok _ => cases (Act.bind_of_ok slept _).symm.trans broken
      | error other =>
          cases (Act.bind_of_error slept _).symm.trans broken
          have stopped : outside ((plan.engine.surroundings.sleep interval).mapError interruption) run =
              (.error (interruption fault), { run with world }) := by
            simp only [outside, Act.on_apply, Act.mapError, slept]
          exact ⟨_, Act.bind_of_error stopped _⟩
  | some name =>
      rw [token, pause] at broken
      simp only [Act.bind_apply, Act.change_apply, outside, Act.on_apply, Act.mapError, Run.note, broken]
      exact ⟨_, rfl⟩

end Pause

section Conditions

variable (plan)

/-- The pause can be made whenever it is asked for. -/
abbrev Bearable (token : Option String) (interval : Number) : Prop :=
  (plan.pause token interval).Returns

/-- The pause is never possible. -/
def Unbearable (token : Option String) (interval : Number) : Prop :=
  ∀ world, ∃ fault after, plan.pause token interval world = (.error fault, after)

/-- Nobody but the service fails: not the clock, the listeners, the policy or recovery. Listeners do not
take away a response that has arrived. The policy grants no negative pause, whether a pause can be made
is a matter of its length, and the steps of the operation do not leave the locations that serve. -/
structure Undisturbed : Prop where
  timed : plan.Timed
  polite : ∀ kind, plan.Polite kind
  responses : plan.Bounded (Exchange.answered.within Prod.snd) .requestCompleted
  decides : ∀ context, (plan.policy.decide context).Returns
  grants : ∀ context, (plan.policy.decide context).Yields fun answer =>
    ∀ interval, answer = some interval → Number.le (.int 0) interval = true
  pauses : ∀ token interval, Number.le (.int 0) interval = true →
    plan.Bearable token interval ∨ plan.Unbearable token interval
  stationed : plan.operation.Within plan.endpoints.stationed
  recovers : ∀ state, (plan.operation.recover state).Returns

/-- There is an answer to whether a granted pause ends in time, and it can be made if it does. -/
def Affords (token : Option String) (interval : Number) (world : σ) : Prop :=
  ∃ tooLate, Deadline.hasExpired (plan.engine.surroundings.clock world) plan.deadline interval =
      .ok tooLate ∧ (tooLate = false → plan.Bearable token interval)

/-- What has to be read of a failed attempt can be: whether its code is expected, the code if it is, and
the pause if the policy grants one. -/
def Readable (attempted : Attempted) (landed : Run σ Number ω) : Prop :=
  ∀ fault, attempted.outcome = .retryable fault → fault.kind ≠ .signing →
    fault.code.unhashable? = none ∧ (plan.Expects fault → fault.report?.isSome) ∧
    (¬ plan.Expects fault → ∀ interval world,
      plan.policy.decide (reported attempted fault) landed.world = (.ok (some interval), world) →
      plan.Affords landed.context.token interval world)

end Conditions

namespace Undisturbed

variable (undisturbed : plan.Undisturbed) {attempted : Attempted} {landed : Run σ Number ω}
include undisturbed

theorem advance_serves {state : AttemptState} (serves : plan.endpoints.Serves state)
    (run : Run σ Number ω) : ∃ next after, plan.advance state run = (.ok next, after) ∧
      plan.endpoints.Serves next := by
  obtain ⟨recovered, bench, recovery⟩ := undisturbed.recovers state ⟨run.world, run.work, []⟩
  exact advance_of_serves recovery ((undisturbed.stationed.recovers state).of_ok recovery serves)

theorem ready_serves (serves : plan.endpoints.Serves attempted.state) (context : RetryContext)
    (interval : Number) (run : Run σ Number ω) :
    ∃ next readied, plan.ready context attempted interval run = (.ok next, readied) ∧
      plan.endpoints.Serves next := by
  obtain ⟨_, said, spoken⟩ : ∃ done said, (plan.sayAt Log.warning
      "Retry policy is allowing a retry: Retry count=%s, Interval=%s."
      [toString attempted.state.retryCount, Seconds.text interval] :
      Act Failure (Run σ Number ω) Unit) run = (.ok done, said) := ⟨(), _, rfl⟩
  obtain ⟨exchange, announced, announces⟩ := (plan.announceOn_returns (.retrying context)
    (undisturbed.polite _) ⟨attempted.exchange.request, none⟩).mapError interruption said
  obtain ⟨next, readied, advanced, arrives⟩ := undisturbed.advance_serves serves announced
  refine ⟨next, readied, ?_, arrives⟩
  rw [ready, Act.bind_of_ok spoken, Act.bind_of_ok announces, advanced]

/-- With a pause that can be made, another attempt follows unless the operation is cancelled. -/
theorem resume_of_bearable (serves : plan.endpoints.Serves attempted.state) {interval : Number}
    (bearable : plan.Bearable run.context.token interval) (context : RetryContext) (fault : Fault) :
    (plan.resume context attempted fault interval).Ends run
      (fun turn _ => ∀ next, turn = .again next → plan.endpoints.Serves next.state)
      (fun failure after => failure.Closes after) := by
  obtain ⟨next, readied, readies, arrives⟩ := undisturbed.ready_serves serves context interval run
  have follows := (plan.ready_follows context attempted interval).of_ok readies
  obtain ⟨cancel, world, paused⟩ := bearable readied.world
  rw [← follows.context] at paused
  rw [resume, Act.ends_bind, Act.ends_of_ok readies]
  refine Act.ends_bind.mpr ((rest_of_paused paused).mono ?_ fun _ _ closes => closes)
  rintro _ _ _ _ ⟨⟩
  exact arrives

theorem resume_of_unbearable (serves : plan.endpoints.Serves attempted.state) {interval : Number}
    (unbearable : plan.Unbearable run.context.token interval) (context : RetryContext) (fault : Fault) :
    ∃ failure after, plan.resume context attempted fault interval run = (.error failure, after) ∧
      failure.manner = .interrupted := by
  obtain ⟨next, readied, readies, _⟩ := undisturbed.ready_serves serves context interval run
  have follows := (plan.ready_follows context attempted interval).of_ok readies
  obtain ⟨broken, world, breaks⟩ := unbearable readied.world
  rw [← follows.context] at breaks
  obtain ⟨after, rested⟩ := rest_of_broken breaks
  refine ⟨interruption broken, after, ?_, rfl⟩
  rw [resume, Act.bind_of_ok readies, Act.bind_of_error rested]

/-- What follows from a pause that the policy grants. -/
theorem retry_of_affords (serves : plan.endpoints.Serves attempted.state) {interval : Number}
    (affords : plan.Affords run.context.token interval run.world) (context : RetryContext) {fault : Fault}
    (known : run.lastFault = some fault) :
    (plan.retry context attempted fault interval).Ends run
      (fun turn _ => ∀ next, turn = .again next → plan.endpoints.Serves next.state)
      (fun failure after => failure.Closes after) := by
  obtain ⟨tooLate, checked, bearable⟩ := affords
  refine (Act.ends_of_eq (plan.retry_of_checked checked)).mpr ?_
  cases tooLate with
  | true => exact ⟨rfl, .inr (.inl ⟨rfl, rfl, known.symm.trans (Run.log_follows _ _ run).lastFault.symm⟩)⟩
  | false => exact undisturbed.resume_of_bearable serves (bearable rfl) context fault

theorem retry_of_not_affords (serves : plan.endpoints.Serves attempted.state) {interval : Number}
    (positive : Number.le (.int 0) interval = true)
    (lacks : ¬ plan.Affords run.context.token interval run.world) (context : RetryContext) (fault : Fault) :
    ∃ failure after, plan.retry context attempted fault interval run = (.error failure, after) ∧
      failure.manner = .interrupted := by
  cases checked : Deadline.hasExpired (plan.engine.surroundings.clock run.world) plan.deadline interval with
  | error broken =>
      refine ⟨interruption broken, run, ?_, rfl⟩
      rw [retry_eq, Act.bind_of_ok (plan.now_apply run), checked]
      rfl
  | ok tooLate =>
      cases tooLate with
      | true => exact absurd ⟨true, checked, nofun⟩ lacks
      | false =>
          rcases undisturbed.pauses run.context.token interval positive with bearable | unbearable
          · exact absurd ⟨false, checked, fun _ => bearable⟩ lacks
          · rw [plan.retry_of_checked checked]
            exact undisturbed.resume_of_unbearable serves unbearable context fault

/-- The policy is asked in the world as the attempt left it. -/
theorem consult_of_readable (readable : plan.Readable attempted landed) {fault : Fault}
    (outcome : attempted.outcome = .retryable fault) (unsigned : fault.kind ≠ .signing)
    (unexpected : ¬ plan.Expects fault) (serves : plan.endpoints.Serves attempted.state)
    (known : landed.lastFault = some fault) :
    (plan.consult attempted fault).Ends landed
      (fun turn _ => ∀ next, turn = .again next → plan.endpoints.Serves next.state)
      (fun failure after => failure.Closes after) := by
  obtain ⟨answer, world, decided⟩ := undisturbed.decides (reported attempted fault) landed.world
  obtain ⟨after, follows, sameWorld, consulted⟩ := plan.consult_of_decided decided
  have knownToo := follows.lastFault.trans known
  refine (Act.ends_of_eq consulted).mpr ?_
  cases answer with
  | none => exact closes_endWith _ knownToo
  | some interval =>
      have affords := (readable fault outcome unsigned).2.2 unexpected interval world decided
      rw [← sameWorld, ← follows.context] at affords
      exact undisturbed.retry_of_affords serves affords _ knownToo

/-- An attempt that can be read leads to another from a location that serves, or closes the operation. -/
theorem conclude_of_readable (readable : plan.Readable attempted landed)
    (serves : plan.endpoints.Serves attempted.state)
    (known : landed.lastFault = attempted.outcome.fault?)
    (responded : ∀ product, attempted.outcome = .success product → attempted.exchange.response.isSome) :
    (plan.conclude attempted).Ends landed
      (fun turn _ => ∀ next, turn = .again next → plan.endpoints.Serves next.state)
      (fun failure after => failure.Closes after) := by
  cases outcome : attempted.outcome with
  | success product =>
      obtain ⟨response, answered⟩ := Option.isSome_iff_exists.mp (responded product outcome)
      obtain ⟨ended, done⟩ := plan.conclude_of_success outcome answered landed
      refine (Act.ends_of_ok done).mpr fun next again => ?_
      cases again
  | fatal fault =>
      rw [outcome] at known
      simp only [conclude, outcome]
      exact closes_endWith _ known
  | retryable fault =>
      rw [outcome] at known
      by_cases signing : fault.kind = .signing
      · simp only [conclude, outcome, if_pos signing]
        exact closes_endWith _ known
      · obtain ⟨hashable, reports, _⟩ := readable fault outcome signing
        rw [plan.conclude_of_retryable outcome signing]
        by_cases expected : plan.Expects fault
        · rw [decide_of_expected hashable expected]
          exact closes_surrender (reports expected) known
        · rw [plan.decide_of_unexpected (isExpected_of_not hashable expected)]
          exact undisturbed.consult_of_readable readable outcome signing expected serves known

/-- An attempt that cannot be read interrupts the operation. -/
theorem conclude_of_unreadable (unreadable : ¬ plan.Readable attempted landed)
    (serves : plan.endpoints.Serves attempted.state) :
    ∃ failure after, plan.conclude attempted landed = (.error failure, after) ∧
      failure.manner = .interrupted := by
  simp only [Readable, not_forall] at unreadable
  obtain ⟨fault, outcome, unsigned, unread⟩ := unreadable
  rw [plan.conclude_of_retryable outcome unsigned]
  cases hashable : fault.code.unhashable? with
  | some type => exact decide_of_unhashable hashable landed
  | none =>
      by_cases expected : plan.Expects fault
      · have silent : ¬ fault.report?.isSome := fun reports =>
          unread ⟨hashable, fun _ => reports, fun unexpected => absurd expected unexpected⟩
        obtain ⟨failure, stopped, manner⟩ := plan.surrender_of_silence silent landed
        rw [decide_of_expected hashable expected]
        exact ⟨failure, landed, stopped, manner⟩
      · have unaffordable : ∃ interval world,
            plan.policy.decide (reported attempted fault) landed.world = (.ok (some interval), world) ∧
            ¬ plan.Affords landed.context.token interval world := by
          by_contra affordable
          refine unread ⟨hashable, fun expects => absurd expects expected, fun _ interval world decided => ?_⟩
          exact not_not.mp fun lacks => affordable ⟨interval, world, decided, lacks⟩
        obtain ⟨interval, world, decided, lacks⟩ := unaffordable
        have positive := (undisturbed.grants (reported attempted fault)).of_ok decided interval rfl
        obtain ⟨after, follows, sameWorld, consulted⟩ := plan.consult_of_decided decided
        rw [← sameWorld, ← follows.context] at lacks
        rw [plan.decide_of_unexpected (isExpected_of_not hashable expected), consulted]
        exact undisturbed.retry_of_not_affords serves positive lacks _ fault

end Undisturbed

end Plan

end ObjectStore
