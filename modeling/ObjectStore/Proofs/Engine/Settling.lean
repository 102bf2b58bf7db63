import ObjectStore.Proofs.Engine.Recording

/-! When an attempt settles an operation. It does so unless it met a fault that nobody expects, that may
pass, and that came while attempts were left. Where a fault cannot be read, neither follows. -/

namespace ObjectStore.Plan

variable {σ ω : Type} (plan : Plan σ Number ω)

/-- The code of the fault is one that the caller deals with. -/
def Expects (fault : Fault) : Prop :=
  plan.operation.expectedErrors.any (·.same fault.code) = true

/-- The attempt with this index settles the operation, where `most` attempts may be repeated. -/
def Settles (most : Int) (index : Nat) (attempted : Attempted) : Prop :=
  match attempted.outcome with
  | .success _ | .fatal _ => True
  | .retryable fault => fault.kind = .signing ∨ plan.Expects fault ∨ most ≤ index ∨
    ¬ Retry.Mendable (reported attempted fault).status attempted.state.location

/-- What has to be read of the attempt can be: whether its code is expected, the code if it is, and its
status if that decides. -/
def Clear (most : Int) (index : Nat) (attempted : Attempted) : Prop :=
  ∀ fault, attempted.outcome = .retryable fault → fault.kind ≠ .signing →
    fault.code.unhashable? = none ∧ (plan.Expects fault → fault.report?.isSome) ∧
    (¬ plan.Expects fault → index < most → Retry.Ranked (reported attempted fault).status)

/-- The operation ends with what the attempt brought: its product, or its fault with all results. -/
def EndsWith (attempted : Attempted) (result : Except Failure (Option Answer)) (ended : Run σ Number ω) :
    Prop :=
  match attempted.outcome with
  | .success product => ∃ response, attempted.exchange.response = some response ∧
    result = .ok (some (product.settle response))
  | .fatal fault | .retryable fault => result = .error ⟨fault, .recorded, some ended.context.results⟩

variable {plan} {attempted : Attempted} {run : Run σ Number ω} {fault : Fault} {most : Int} {index : Nat}

theorem isExpected_eq (hashable : fault.code.unhashable? = none) :
    plan.isExpected fault = .ok (plan.operation.expectedErrors.any (·.same fault.code)) := by
  unfold isExpected
  rw [hashable]

theorem decide_of_expected (hashable : fault.code.unhashable? = none) (expected : plan.Expects fault) :
    plan.decide attempted fault = plan.surrender fault := by
  rw [decide_eq, isExpected_eq hashable, show _ = true from expected]
  rfl

theorem decide_of_unhashable {type : String} (unhashable : fault.code.unhashable? = some type)
    (run : Run σ Number ω) : ∃ failure after, plan.decide attempted fault run = (.error failure, after) ∧
      failure.manner = .interrupted := by
  refine ⟨interruption (.misfit .type ("unhashable type: '" ++ type ++ "'")), run, ?_, rfl⟩
  have refused : plan.isExpected fault =
      .error (.misfit .type ("unhashable type: '" ++ type ++ "'")) := by
    rw [isExpected, unhashable]
  rw [decide_eq, refused]
  rfl

theorem isExpected_of_not (hashable : fault.code.unhashable? = none) (unexpected : ¬ plan.Expects fault) :
    plan.isExpected fault = .ok false := by
  rw [isExpected_eq hashable, Bool.not_eq_true _ |>.mp unexpected]

/-- A fault that ends the operation is reported with all results. -/
theorem endWith_run (reason : String) (fault : Fault) (run : Run σ Number ω) :
    ∃ ended, (plan.endWith reason fault : Act Failure (Run σ Number ω) Turn) run =
      (.error ⟨fault, .recorded, some ended.context.results⟩, ended) :=
  ⟨_, rfl⟩

theorem surrender_of_report (reports : fault.report?.isSome) (run : Run σ Number ω) :
    ∃ ended, (plan.surrender fault : Act Failure (Run σ Number ω) Turn) run =
      (.error ⟨fault, .recorded, some ended.context.results⟩, ended) := by
  have there : fault.report?.isNone = false := by
    rw [Option.isNone_eq_false_iff]
    exact reports
  unfold surrender
  rw [there]
  exact ⟨_, rfl⟩

variable (plan) in
theorem surrender_of_silence (silent : ¬ fault.report?.isSome) (run : Run σ Number ω) :
    ∃ failure, (plan.surrender fault : Act Failure (Run σ Number ω) Turn) run = (.error failure, run) ∧
      failure.manner = .interrupted := by
  have missing : fault.report?.isNone = true := by
    rw [Option.isNone_iff_eq_none]
    exact Option.not_isSome_iff_eq_none.mp silent
  unfold surrender
  rw [missing]
  exact ⟨_, rfl, rfl⟩

/-- The policy gives up on a fault. -/
theorem consult_of_refusal {world : σ}
    (refused : plan.policy.decide (reported attempted fault) run.world = (.ok none, world)) :
    ∃ ended, plan.consult attempted fault run =
      (.error ⟨fault, .recorded, some ended.context.results⟩, ended) := by
  obtain ⟨after, _, _, consulted⟩ := plan.consult_of_decided refused
  obtain ⟨ended, stopped⟩ := plan.endWith_run "Retry policy did not allow for a retry" fault after
  exact ⟨ended, consulted.trans stopped⟩

theorem endsWith_of_fault {ended : Run σ Number ω} (faulty : attempted.outcome.fault? = some fault) :
    EndsWith attempted (.error ⟨fault, .recorded, some ended.context.results⟩) ended := by
  unfold EndsWith
  cases outcome : attempted.outcome with
  | success product =>
      rw [outcome] at faulty
      contradiction
  | fatal other | retryable other =>
      rw [outcome] at faulty
      rw [Option.some.inj faulty]

theorem conclude_of_success {product : Product} {response : Response}
    (outcome : attempted.outcome = .success product)
    (answered : attempted.exchange.response = some response) (run : Run σ Number ω) :
    ∃ ended, plan.conclude attempted run = (.ok (.done (product.settle response)), ended) := by
  simp only [conclude, outcome, succeed, answered]
  exact ⟨_, rfl⟩

theorem conclude_of_fatal (run : Run σ Number ω) (fatal : attempted.outcome = .fatal fault ∨
      attempted.outcome = .retryable fault ∧ fault.kind = .signing) :
    ∃ ended, plan.conclude attempted run =
      (.error ⟨fault, .recorded, some ended.context.results⟩, ended) := by
  have stopped := plan.endWith_run "The operation failed with a fatal error" fault run
  rcases fatal with outcome | ⟨outcome, signing⟩
  · simpa only [conclude, outcome] using stopped
  · simpa only [conclude, outcome, if_pos signing] using stopped

theorem isWanted_of_clear (clear : plan.Clear most index attempted)
    (outcome : attempted.outcome = .retryable fault) (unsigned : fault.kind ≠ .signing)
    (unexpected : ¬ plan.Expects fault) (counted : attempted.state.retryCount = index) :
    ∃ wanted, Retry.isWanted (.int most) (reported attempted fault) = .ok wanted ∧
      (wanted = true ↔ index < most ∧
        Retry.Mendable (reported attempted fault).status attempted.state.location) := by
  rw [Retry.isWanted_eq]
  have count : (reported attempted fault).count = index := counted
  by_cases left : index < most
  · have ranked := (clear fault outcome unsigned).2.2 unexpected left
    obtain ⟨mends, mendable, iff⟩ := Retry.isMendable_of_ranked ranked
    rw [if_neg (by rw [count]; exact Int.not_le.mpr left)]
    exact ⟨mends, mendable, iff.trans (and_iff_right left).symm⟩
  · rw [if_pos (by rw [count]; exact Int.not_lt.mp left)]
    exact ⟨false, rfl, nofun, fun both => absurd both.1 left⟩

/-- From a recovered state that serves there is a way to another one. -/
theorem advance_of_serves {state recovered : AttemptState} {bench : Bench σ ω}
    (recovery : plan.operation.recover state ⟨run.world, run.work, []⟩ = (.ok recovered, bench))
    (serves : plan.endpoints.Serves recovered) :
    ∃ next after, plan.advance state run = (.ok next, after) ∧ plan.endpoints.Serves next := by
  obtain ⟨location, moved, arrives⟩ := serves.next
  obtain ⟨after, taken⟩ : ∃ after, (plan.take (plan.operation.recover state)).mapError interruption run =
      (.ok recovered, after) := ⟨_, by simp only [Act.mapError, take, recovery]; rfl⟩
  have moves : (Mode.next recovered.nextAttempt.mode recovered.nextAttempt.location
      plan.endpoints).mapError interruption = .ok location :=
    Act.except_mapError_eq_ok.mpr moved
  have advanced : plan.advance state run =
      (.ok { recovered.nextAttempt with location := .known location }, after) := by
    rw [advance, Act.bind_of_ok taken]
    simp only [Act.bind_apply, Act.ofExcept_apply, moves]
    rfl
  exact ⟨_, _, advanced, arrives⟩

namespace Untroubled

variable (untroubled : plan.Untroubled most)
include untroubled

/-- A fault that may be repeated still settles the operation if it is expected or not wanted. -/
theorem conclude_of_retryable_settles (clear : plan.Clear most index attempted)
    (settles : plan.Settles most index attempted) (counted : attempted.state.retryCount = index)
    (outcome : attempted.outcome = .retryable fault) (unsigned : fault.kind ≠ .signing)
    (run : Run σ Number ω) : ∃ ended, plan.conclude attempted run =
      (.error ⟨fault, .recorded, some ended.context.results⟩, ended) := by
  obtain ⟨hashable, reports, _⟩ := clear fault outcome unsigned
  rw [plan.conclude_of_retryable outcome unsigned]
  by_cases expected : plan.Expects fault
  · rw [decide_of_expected hashable expected]
    exact surrender_of_report (reports expected) run
  · obtain ⟨wanted, answer, iff⟩ := isWanted_of_clear clear outcome unsigned expected counted
    have unwanted : wanted = false := by
      rw [Settles, outcome] at settles
      rw [← Bool.not_eq_true, iff]
      rintro ⟨left, mendable⟩
      rcases settles with signing | expects | spent | hopeless
      · exact unsigned signing
      · exact expected expects
      · exact absurd left (Int.not_lt.mpr spent)
      · exact hopeless mendable
    rw [unwanted] at answer
    rw [plan.decide_of_unexpected (isExpected_of_not hashable expected)]
    exact consult_of_refusal (untroubled.counts.decide_of_unwanted answer run.world)

theorem conclude_of_settles (clear : plan.Clear most index attempted)
    (settles : plan.Settles most index attempted) (counted : attempted.state.retryCount = index)
    (response : ∀ product, attempted.outcome = .success product → attempted.exchange.response.isSome)
    (run : Run σ Number ω) : ∃ result ended, EndsWith attempted result ended ∧
      (plan.conclude attempted run).2 = ended ∧
      Turn.ending (plan.conclude attempted run).1 = some result := by
  have of_failure : ∀ {fault : Fault}, attempted.outcome.fault? = some fault →
      (∃ ended, plan.conclude attempted run =
        (.error ⟨fault, .recorded, some ended.context.results⟩, ended)) →
      ∃ result ended, EndsWith attempted result ended ∧ (plan.conclude attempted run).2 = ended ∧
        Turn.ending (plan.conclude attempted run).1 = some result := by
    rintro fault faulty ⟨ended, stopped⟩
    refine ⟨_, ended, endsWith_of_fault faulty, ?_, ?_⟩ <;> rw [stopped]
    rfl
  cases outcome : attempted.outcome with
  | success product =>
      obtain ⟨answer, answered⟩ := Option.isSome_iff_exists.mp (response product outcome)
      obtain ⟨ended, done⟩ := plan.conclude_of_success outcome answered run
      refine ⟨.ok (some (product.settle answer)), ended, ?_, ?_, ?_⟩
      · rw [EndsWith, outcome]
        exact ⟨answer, answered, rfl⟩
      · rw [done]
      · rw [done]
        rfl
  | fatal fault =>
      exact of_failure (by rw [outcome]; rfl) (plan.conclude_of_fatal run (.inl outcome))
  | retryable fault =>
      refine of_failure (by rw [outcome]; rfl) ?_
      by_cases signing : fault.kind = .signing
      · exact plan.conclude_of_fatal run (.inr ⟨outcome, signing⟩)
      · exact untroubled.conclude_of_retryable_settles clear settles counted outcome signing run

theorem advance_returns {state : AttemptState} (serves : plan.endpoints.Serves state)
    (run : Run σ Number ω) : ∃ next after, plan.advance state run = (.ok next, after) := by
  obtain ⟨recovered, bench, recovery, pinned⟩ := untroubled.recovers state ⟨run.world, run.work, []⟩
  obtain ⟨next, after, advanced, _⟩ := advance_of_serves recovery (serves.of_pinned pinned)
  exact ⟨next, after, advanced⟩

theorem rest_returns {pause : Number} (positive : Number.le (.int 0) pause = true)
    (run : Run σ Number ω) : ∃ after, plan.rest pause run = (.ok (), after) := by
  rw [rest, Act.bind_of_ok (plan.now_apply run), Act.bind_of_ok (Act.read_apply run)]
  cases run.context.token with
  | none =>
      obtain ⟨world, slept⟩ := untroubled.sleeps pause run.world positive
      have rested : outside ((plan.engine.surroundings.sleep pause).mapError interruption) run =
          (.ok (), { run with world }) := by
        simp only [outside, Act.on_apply, Act.mapError, slept]
      exact ⟨_, Act.bind_of_ok rested _⟩
  | some token =>
      obtain ⟨world, waited⟩ := untroubled.waits token pause run.world positive
      refine ⟨{ run.note (.waited pause (plan.engine.surroundings.clock run.world)) with world }, ?_⟩
      simp only [Act.bind_apply, Act.change_apply, outside, Act.on_apply, Act.mapError, Run.note, waited]
      rfl

theorem resume_returns (serves : plan.endpoints.Serves attempted.state) {pause : Number}
    (positive : Number.le (.int 0) pause = true) (context : RetryContext) (fault : Fault)
    (run : Run σ Number ω) :
    ∃ next after, plan.resume context attempted fault pause run = (.ok (.again next), after) := by
  have readies : (plan.ready context attempted pause : Act Failure (Run σ Number ω) _).Returns := by
    refine .bind (fun run => ⟨(), _, rfl⟩) fun _ => .bind ?_ fun _ => untroubled.advance_returns serves
    exact (plan.announceOn_returns (.retrying context) untroubled.retrying _).mapError _
  obtain ⟨next, ready, readied⟩ := readies run
  obtain ⟨after, rested⟩ := untroubled.rest_returns positive ready
  refine ⟨⟨next, some fault⟩, after, ?_⟩
  rw [resume, Act.bind_of_ok readied, Act.bind_of_ok rested]
  rfl

/-- An attempt that does not settle the operation leads to another. -/
theorem conclude_of_unsettled (clear : plan.Clear most index attempted)
    (unsettled : ¬ plan.Settles most index attempted) (counted : attempted.state.retryCount = index)
    (serves : plan.endpoints.Serves attempted.state) (run : Run σ Number ω) :
    ∃ next after, plan.conclude attempted run = (.ok (.again next), after) := by
  cases outcome : attempted.outcome with
  | success product =>
      rw [Settles, outcome] at unsettled
      exact absurd trivial unsettled
  | fatal fault =>
      rw [Settles, outcome] at unsettled
      exact absurd trivial unsettled
  | retryable fault =>
      rw [Settles, outcome] at unsettled
      simp only [not_or, not_not, Int.not_le] at unsettled
      obtain ⟨unsigned, unexpected, left, mendable⟩ := unsettled
      obtain ⟨hashable, _⟩ := clear fault outcome unsigned
      obtain ⟨wanted, answer, iff⟩ := isWanted_of_clear clear outcome unsigned unexpected counted
      rw [iff.mpr ⟨left, mendable⟩] at answer
      have repeated : 0 ≤ (reported attempted fault).count := by
        rw [show (reported attempted fault).count = index from counted]
        exact Int.natCast_nonneg index
      obtain ⟨pause, world, decided, positive⟩ :=
        untroubled.counts.decide_of_wanted repeated answer run.world
      obtain ⟨after, _, _, consulted⟩ := plan.consult_of_decided decided
      obtain ⟨next, last, resumed⟩ := untroubled.resume_returns serves positive
        (reported attempted fault) fault after
      have unlimited : Deadline.hasExpired (plan.engine.surroundings.clock after.world) plan.deadline
          pause = .ok false := by
        rw [untroubled.unlimited]
        rfl
      refine ⟨next, last, ?_⟩
      rw [plan.conclude_of_retryable outcome unsigned,
        plan.decide_of_unexpected (isExpected_of_not hashable unexpected)]
      exact consulted.trans ((plan.retry_of_checked unlimited).trans resumed)

/-- An attempt that cannot be read interrupts the operation. -/
theorem conclude_of_unclear (unclear : ¬ plan.Clear most index attempted)
    (counted : attempted.state.retryCount = index) (run : Run σ Number ω) :
    ∃ failure after, plan.conclude attempted run = (.error failure, after) ∧
      failure.manner = .interrupted := by
  simp only [Clear, not_forall] at unclear
  obtain ⟨fault, outcome, unsigned, unread⟩ := unclear
  rw [plan.conclude_of_retryable outcome unsigned]
  cases hashable : fault.code.unhashable? with
  | some type => exact decide_of_unhashable hashable run
  | none =>
      by_cases expected : plan.Expects fault
      · have silent : ¬ fault.report?.isSome := fun reports =>
          unread ⟨hashable, fun _ => reports, fun unexpected => absurd expected unexpected⟩
        obtain ⟨failure, stopped, manner⟩ := plan.surrender_of_silence silent run
        rw [decide_of_expected hashable expected]
        exact ⟨failure, run, stopped, manner⟩
      · have unranked : index < most ∧ ¬ Retry.Ranked (reported attempted fault).status := by
          by_contra readable
          refine unread ⟨hashable, fun expects => absurd expects expected, fun _ left => ?_⟩
          exact not_not.mp fun unranked => readable ⟨left, unranked⟩
        have count : (reported attempted fault).count = index := counted
        obtain ⟨error, refused⟩ := Retry.isMendable_of_unranked unranked.2
        have unanswered : Retry.isWanted (.int most) (reported attempted fault) = .error error := by
          rw [Retry.isWanted_eq, count, if_neg (Int.not_le.mpr unranked.1), refused]
        have undecided := untroubled.counts.decide_of_fault unanswered run.world
        obtain ⟨after, stopped⟩ := plan.consult_of_fault undecided
        rw [plan.decide_of_unexpected (isExpected_of_not hashable expected)]
        exact ⟨interruption error, after, stopped, rfl⟩

end Untroubled

end ObjectStore.Plan
