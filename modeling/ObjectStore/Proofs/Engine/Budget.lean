import ObjectStore.Proofs.Engine.Plain
import ObjectStore.Proofs.Engine.Results
import ObjectStore.Proofs.Time.Exact

/-! Operations that may take a limited time. Nothing is sent at the deadline or later, no attempt and
no pause reaches beyond it, and an operation that ends for want of time says what the last attempt
met. -/

namespace ObjectStore

variable {σ τ ω : Type} [AddCommGroup τ] [LinearOrder τ]

/-- A request goes out before the deadline with limits that end by then, and a pause ends by then. -/
def Entry.Timely (deadline : τ) (configured : Timeout τ) : Entry τ → Prop
  | .sent outgoing clock => clock < deadline ∧ configured.Within (deadline - clock) outgoing.timeout
  | .slept span clock | .waited span clock => clock + span ≤ deadline
  | .heard .. | .logged _ => True

/-- All that is added to the journal is timely. -/
def Run.Timely (deadline : τ) (configured : Timeout τ) (run after : Run σ τ ω) : Prop :=
  ∃ entries, (∀ entry ∈ entries, entry.Timely deadline configured) ∧
    after.journal = run.journal ++ entries

theorem Run.Timely.refl (deadline : τ) (configured : Timeout τ) (run : Run σ τ ω) :
    Run.Timely deadline configured run run :=
  ⟨[], by simp, by simp⟩

theorem Run.Timely.trans {deadline : τ} {configured : Timeout τ} {first second third : Run σ τ ω}
    (begins : Run.Timely deadline configured first second)
    (goesOn : Run.Timely deadline configured second third) :
    Run.Timely deadline configured first third := by
  obtain ⟨early, earlyTimely, journal⟩ := begins
  obtain ⟨late, lateTimely, journal'⟩ := goesOn
  refine ⟨early ++ late, fun entry member => ?_, by rw [journal', journal, List.append_assoc]⟩
  rcases List.mem_append.mp member with member | member
  · exact earlyTimely entry member
  · exact lateTimely entry member

def Run.timely (deadline : τ) (configured : Timeout τ) : Frame (Run σ τ ω) :=
  ⟨Run.Timely deadline configured, .refl deadline configured, .trans⟩

theorem Entry.timely_of_isRemark {entry : Entry τ} {deadline : τ} {configured : Timeout τ}
    (remark : entry.isRemark = true) : entry.Timely deadline configured := by
  cases entry <;> trivial

theorem Run.Follows.timely {run after : Run σ τ ω} {deadline : τ} {configured : Timeout τ}
    (follows : Run.Follows run after) : Run.Timely deadline configured run after := by
  obtain ⟨remarks, areRemarks, journal⟩ := follows.journal
  exact ⟨remarks, fun entry member => Entry.timely_of_isRemark (areRemarks entry member), journal⟩

theorem Run.note_timely (entry : Entry τ) {deadline : τ} {configured : Timeout τ}
    (timely : entry.Timely deadline configured) (run : Run σ τ ω) :
    Run.Timely deadline configured run (run.note entry) :=
  ⟨[entry], by simpa using timely, rfl⟩

/-- Time stands still. -/
def Engine.clockStill (engine : Engine σ τ) : Frame σ :=
  .same engine.surroundings.clock

/-- Time stands still while the listeners hear what is about to happen and while an operation
recovers. Everywhere else it may pass. -/
structure Engine.Prompt (engine : Engine σ τ) (handlers : Handlers σ) (operation : Operation σ τ ω) :
    Prop where
  sending : engine.Bounded handlers (engine.clockStill.within Prod.fst) .sendingRequest
  retrying : engine.Bounded handlers (engine.clockStill.within Prod.fst) .retrying
  recovering : ∀ state, (operation.recover state).Keeps (engine.clockStill.within Bench.world)

namespace Plan

variable (plan : Plan σ τ ω)

abbrev Prompt : Prop :=
  plan.engine.Prompt plan.handlers plan.operation

/-- Remarks that take no time. -/
def promptly : Frame (Run σ τ ω) where
  rel run after := Run.Follows run after ∧ plan.engine.clockStill.rel run.world after.world
  refl run := ⟨.refl run, plan.engine.clockStill.refl _⟩
  trans early late := ⟨early.1.trans late.1, plan.engine.clockStill.trans early.2 late.2⟩

variable {plan} {deadline : τ}

theorem follows_timely {α : Type} {ε : Type} {x : Act ε (Run σ τ ω) α} (follows : x.Keeps Run.follows)
    (configured : Timeout τ) : x.Keeps (Run.timely deadline configured) :=
  follows.weaken fun _ _ => Run.Follows.timely

theorem say_timely (line : Log.Line) (configured : Timeout τ) :
    (plan.say line : Act Failure (Run σ τ ω) Unit).Keeps (Run.timely deadline configured) :=
  follows_timely (plan.say_follows line) configured

/-- One request goes out at most, with the timeout that was found for it. -/
theorem Sent.timely {request : Request} {timeout : Timeout τ} {configured : Timeout τ}
    {run after : Run σ τ ω} (sent : plan.Sent request timeout run after)
    (early : plan.engine.surroundings.clock run.world < deadline)
    (within : configured.Within (deadline - plan.engine.surroundings.clock run.world) timeout) :
    Run.Timely deadline configured run after := by
  obtain ⟨met, ⟨rfl, _⟩ | ⟨outgoing, world, made, rfl⟩, follows⟩ := sent
  · exact follows.timely
  · have sentTimely : Run.Timely deadline configured run (plan.sentOut outgoing world run) := by
      refine Run.note_timely (.sent outgoing _) ⟨early, ?_⟩ run
      rw [outgoing_timeout made, within.orElse_eq]
      exact within
    exact sentTimely.trans follows.timely

omit [AddCommGroup τ] [LinearOrder τ] in
theorem take_promptly {α : Type} {step : Step σ ω α}
    (still : step.Keeps (plan.engine.clockStill.within Bench.world)) :
    (plan.take step).Keeps plan.promptly := by
  intro run
  have logged : Run.Aside (.same id) _ (plan.take step run).2 := Run.logAll_aside _ _ _
  have sameWorld : (plan.take step run).2.world = (step ⟨run.world, run.work, []⟩).2.world :=
    logged.inWorld
  refine ⟨plan.take_follows step run, ?_⟩
  rw [sameWorld]
  exact still ⟨run.world, run.work, []⟩

/-- A pause begins when it is decided on, and nothing is noted while it lasts. -/
theorem rest_timely {interval : τ} {run : Run σ τ ω}
    (fits : plan.engine.surroundings.clock run.world + interval ≤ deadline) (configured : Timeout τ) :
    (plan.rest interval).Ends run (fun _ after => Run.Timely deadline configured run after)
      (fun _ after => Run.Timely deadline configured run after) := by
  have paused : ∀ {α : Type} (x : Act Failure σ α),
      (outside x : Act Failure (Run σ τ ω) α).Keeps (Run.timely deadline configured) :=
    fun x => follows_timely (outside_follows x) configured
  refine Act.ends_bind.mpr (Act.ends_bind.mpr ?_)
  refine Act.ends_read.mpr ?_
  split
  · refine Act.ends_bind.mpr (((paused _).ends run).mono ?_ fun _ _ timely => timely)
    exact fun _ slept timely => timely.trans (Run.note_timely (.slept _ _) fits slept)
  · have noted : Run.Timely deadline configured run
        (run.note (.waited interval (plan.engine.surroundings.clock run.world))) :=
      Run.note_timely (.waited interval _) fits run
    refine Act.ends_bind.mpr (Act.ends_change _ |>.mpr ?_)
    refine Act.ends_bind.mpr (((paused _).ends (run.note _)).mono ?_
      fun _ _ timely => noted.trans timely)
    rintro ended waited timely
    cases ended with
    | false => exact noted.trans timely
    | true => exact noted.trans (timely.trans (say_timely _ configured waited))

variable [Seconds τ]

omit [AddCommGroup τ] [LinearOrder τ] in
theorem ready_promptly (prompt : plan.Prompt) (context : RetryContext) (attempted : Attempted)
    (interval : τ) : (plan.ready context attempted interval).Keeps plan.promptly := by
  refine .bind ?_ fun _ => .bind (.mapError _ ?_) fun _ => .bind (.mapError _ ?_) fun _ => ?_
  · exact (plan.say_keeps _).weaken fun _ _ aside => ⟨aside.toFollows, aside.inWorld⟩
  · exact (plan.announceOn_keeps (.retrying context) prompt.retrying _).weaken
      fun _ _ aside => ⟨aside.toFollows, aside.inWorld⟩
  · exact take_promptly (prompt.recovering _)
  · exact .bind (.ofExcept _) fun _ => .pure _

theorem attempt_timely {request : Request} {timeout : Timeout τ} {state : AttemptState}
    {run : Run σ τ ω} {configured : Timeout τ}
    (early : plan.engine.surroundings.clock run.world < deadline)
    (within : configured.Within (deadline - plan.engine.surroundings.clock run.world) timeout) :
    (plan.attempt request timeout state).Ends run
      (fun _ after => Run.Timely deadline configured run after)
      (fun _ after => Run.Timely deadline configured run after) := by
  have sent : ∀ {met landed}, plan.exchanged request timeout state run = (met, landed) →
      Run.Timely deadline configured run landed := by
    intro met landed went
    have := plan.exchanged_sent request timeout state run
    rw [went] at this
    exact this.timely early within
  refine (plan.attempt_ends (plan.bounded_any _) request timeout state run).mono ?_ ?_
  · rintro _ after ⟨met, landed, time, result, went, _, _, kept, _⟩
    exact (sent went).trans kept.toFollows.timely
  · rintro _ after ⟨met, landed, time, results, went, kept⟩
    exact (sent went).trans kept.toFollows.timely

variable [IsOrderedAddMonoid τ] [Seconds.Exact τ]

/-- No time passes between the check of what is left and the sending. -/
theorem launch_timely (prompt : plan.Prompt) (due : plan.deadline = some deadline)
    (progress : Progress) : (plan.launch progress).Keeps (Run.timely deadline plan.timeout) := by
  refine .of_ends fun run => ?_
  refine Act.ends_bind.mpr (((plan.check_keeps (fun line => say_timely line _) _).ends run).mono ?_
    fun _ _ kept => kept)
  intro _ checked still
  refine Act.ends_bind.mpr ((((plan.prepare_follows _ _).ends checked).and
    (plan.prepare_ends (plan.prepared_bounds _ checked) _)).mono ?_ ?_)
  · rintro ⟨request, timeout⟩ prepared ⟨follows, bound⟩
    rw [due] at bound
    obtain ⟨early, within⟩ := Deadline.bound_eq bound
    have quiet : ∀ {after}, Run.Follows prepared after → Run.Timely deadline plan.timeout run after :=
      fun followed => .trans still (.trans follows.timely followed.timely)
    refine Act.ends_bind.mpr ((plan.announceRequest_ends prompt.sending _ _ prepared).mono ?_ ?_)
    · rintro changed announced ⟨exchange, _, kept, clock⟩
      have sameClock : plan.engine.surroundings.clock announced.world =
          plan.engine.surroundings.clock prepared.world := clock
      rw [← sameClock] at early within
      refine Act.ends_mapError.mpr ((attempt_timely early within).mono ?_ ?_)
      · exact fun _ _ timely => (quiet kept.toFollows).trans timely
      · exact fun _ _ timely => (quiet kept.toFollows).trans timely
    · rintro fault announced ⟨exchange, kept, _⟩
      exact quiet kept.toFollows
  · rintro failure prepared ⟨follows, _⟩
    exact .trans still follows.timely

/-- A pause is begun only if it ends by the deadline. -/
theorem retry_timely (prompt : plan.Prompt) (due : plan.deadline = some deadline)
    (configured : Timeout τ) (context : RetryContext) (attempted : Attempted) (fault : Fault)
    (interval : τ) :
    (plan.retry context attempted fault interval).Keeps (Run.timely deadline configured) := by
  refine .of_ends fun run => ?_
  rw [retry_eq]
  refine Act.ends_bind.mpr ?_
  refine Act.ends_bind.mpr (Act.ends_ofExcept ?_ fun _ _ => Run.Timely.refl deadline configured run)
  intro tooLate checked
  rw [due, Deadline.hasExpired_eq] at checked
  obtain rfl := Except.ok.inj checked
  split
  · exact Act.ends_bind.mpr (((say_timely _ configured).ends run).mono (fun _ _ timely => timely)
      fun _ _ timely => timely)
  · next early =>
    refine Act.ends_bind.mpr (((ready_promptly prompt _ _ _).ends run).mono ?_
      fun _ _ kept => kept.1.timely)
    rintro next after ⟨follows, still⟩
    have fits : plan.engine.surroundings.clock after.world + interval ≤ deadline := by
      rw [show plan.engine.surroundings.clock after.world = _ from still]
      exact not_lt.mp fun late => early (decide_eq_true late)
    refine Act.ends_bind.mpr ((rest_timely fits configured).mono ?_
      fun _ _ timely => .trans follows.timely timely)
    exact fun _ _ timely => .trans follows.timely timely

theorem turn_timely (prompt : plan.Prompt) (due : plan.deadline = some deadline) (progress : Progress) :
    (plan.turn progress).Keeps (Run.timely deadline plan.timeout) := by
  rw [turn_eq]
  refine .bind (launch_timely prompt due progress) fun attempted => ?_
  refine plan.conclude_keeps (fun line => say_timely line _) ?_ ?_
    (retry_timely prompt due plan.timeout) attempted
  · exact fun run _ => ⟨[], by simp, (List.append_nil _).symm⟩
  · exact fun _ => follows_timely (outside_follows _) _

/-- How an operation ends for want of time: with the fault of the last attempt and with all results. -/
def outOfTimeAt (ended : Run σ τ ω) : Failure :=
  ⟨⟨.timedOut, ended.lastFault⟩, .outOfTime, some ended.context.results⟩

/-- Where time ends an operation: before an attempt once the deadline is past, when a request is ready
at the deadline or later, and before a pause that would end after it. -/
inductive Late (plan : Plan σ τ ω) (deadline : τ) (progress : Progress) (run : Run σ τ ω) : Prop where
  | before : plan.isCancelled run = false → deadline < plan.engine.surroundings.clock run.world →
      Late plan deadline progress run
  | ready {checked request after} : plan.check progress.last run = (.ok (), checked) →
      plan.signed progress.state checked = (.ok request, after) →
      deadline ≤ plan.engine.surroundings.clock after.world → Late plan deadline progress run
  | pause {attempted landed fault interval world} :
      plan.launch progress run = (.ok attempted, landed) → attempted.outcome = .retryable fault →
      fault.kind ≠ .signing → plan.isExpected fault = .ok false →
      plan.policy.decide (reported attempted fault) landed.world = (.ok (some interval), world) →
      deadline < plan.engine.surroundings.clock world + interval → Late plan deadline progress run

omit [AddCommGroup τ] [LinearOrder τ] [Seconds τ] [IsOrderedAddMonoid τ] [Seconds.Exact τ] in
theorem say_outOfTime (plan : Plan σ τ ω) {α : Type} (line : Log.Line) {last : Option Fault}
    {run : Run σ τ ω} (same : last = run.lastFault) :
    ∃ ended, (plan.say line >>= fun _ => outOfTime last : Act Failure (Run σ τ ω) α) run =
      (.error (outOfTimeAt ended), ended) := by
  -- logging adds no result, so the last fault is still the one that was passed on
  have follows : Run.Follows run (run.log plan.engine.surroundings.logThreshold line) :=
    Run.log_follows _ line run
  refine ⟨run.log plan.engine.surroundings.logThreshold line, ?_⟩
  rw [same, ← follows.lastFault]
  rfl

theorem check_of_late {last : Option Fault} {run : Run σ τ ω} (due : plan.deadline = some deadline)
    (same : last = run.lastFault) (free : plan.isCancelled run = false)
    (late : deadline < plan.engine.surroundings.clock run.world) :
    ∃ ended, plan.check last run = (.error (outOfTimeAt ended), ended) := by
  have expired : Deadline.hasExpired (plan.engine.surroundings.clock run.world) plan.deadline
      Seconds.zero = .ok true := by
    rw [due, Deadline.hasExpired_eq, Seconds.Exact.zero, add_zero, decide_eq_true late]
  rw [plan.check_of_free free expired]
  exact plan.say_outOfTime _ same

/-- Nothing is prepared at the deadline or later. The fault has nothing behind it yet, so it gets the
fault of the last attempt. -/
theorem prepare_of_late {state : AttemptState} {last : Option Fault} {request : Request}
    {run after : Run σ τ ω} (due : plan.deadline = some deadline) (same : last = run.lastFault)
    (signed : plan.signed state run = (.ok request, after))
    (late : deadline ≤ plan.engine.surroundings.clock after.world) :
    plan.prepare state last run = (.error (outOfTimeAt after), after) := by
  have follows : Run.Follows run after := (plan.signed_follows state).of_ok signed
  have unbounded : plan.prepared state run = (.error Cause.timedOut, after) := by
    rw [prepared_eq, Act.bind_of_ok signed, Act.bind_of_ok (plan.now_apply after), due,
      Deadline.bound_of_late late]
    rfl
  have refused : plan.prepare state last run = plan.refuse last Cause.timedOut after := by
    rw [prepare, Act.bind_apply, Act.attempt_apply, unbounded]
  rw [refused, same, ← follows.lastFault]
  rfl

theorem conclude_of_late {attempted : Attempted} {fault : Fault} {interval : τ} {run : Run σ τ ω}
    {world : σ} (due : plan.deadline = some deadline) (same : some fault = run.lastFault)
    (outcome : attempted.outcome = .retryable fault) (unsigned : fault.kind ≠ .signing)
    (unexpected : plan.isExpected fault = .ok false)
    (decided : plan.policy.decide (reported attempted fault) run.world = (.ok (some interval), world))
    (late : deadline < plan.engine.surroundings.clock world + interval) :
    ∃ ended, plan.conclude attempted run = (.error (outOfTimeAt ended), ended) := by
  obtain ⟨after, follows, rfl, consulted⟩ := plan.consult_of_decided decided
  have tooLate : Deadline.hasExpired (plan.engine.surroundings.clock after.world) plan.deadline
      interval = .ok true := by
    rw [due, Deadline.hasExpired_eq, decide_eq_true late]
  obtain ⟨ended, stopped⟩ := plan.say_outOfTime (α := Turn) _ (same.trans follows.lastFault.symm)
  refine ⟨ended, ?_⟩
  rw [plan.conclude_of_retryable outcome unsigned, plan.decide_of_unexpected unexpected]
  exact consulted.trans ((plan.retry_of_checked tooLate).trans stopped)

theorem turn_of_late {progress : Progress} {run : Run σ τ ω} (due : plan.deadline = some deadline)
    (same : progress.last = run.lastFault) (late : plan.Late deadline progress run) :
    ∃ ended, plan.turn progress run = (.error (outOfTimeAt ended), ended) := by
  rw [turn_eq]
  cases late with
  | before free late =>
      obtain ⟨ended, stopped⟩ := check_of_late due same free late
      exact ⟨ended, Act.bind_of_error (Act.bind_of_error stopped _) _⟩
  | @ready checked request after begins signed late =>
      have follows : Run.Follows run checked :=
        (plan.check_keeps plan.say_follows progress.last).of_ok begins
      have stopped := prepare_of_late due (same.trans follows.lastFault.symm) signed late
      refine ⟨after, Act.bind_of_error ?_ _⟩
      exact (Act.bind_of_ok begins _).trans (Act.bind_of_error stopped _)
  | @pause attempted landed fault interval world launched outcome unsigned unexpected decided late =>
      obtain ⟨result, recorded, met⟩ := (Act.ends_of_ok launched).mp (plan.launch_records _ _)
      have known : some fault = landed.lastFault := by
        rw [Run.lastFault, recorded, List.getLast?_concat, Option.bind_some, met, outcome]
        rfl
      rw [Act.bind_of_ok launched]
      exact conclude_of_late due known outcome unsigned unexpected decided late

end Plan

namespace Engine

variable [Seconds τ] [IsOrderedAddMonoid τ] [Seconds.Exact τ] {engine : Engine σ τ}
  {operation : Operation σ τ ω} {policy : Option (Policy σ τ)} {handlers : Handlers σ}
  {run : Run σ τ ω} {budget : τ}

/-- The time of an operation is over when its budget is spent, counted from its beginning. -/
theorem planFor_due {plan : Plan σ τ ω} {start : AttemptState}
    (planned : engine.planFor operation policy handlers run = .ok (plan, start))
    (budgeted : (engine.optionsOf operation).budget = .single budget) :
    plan.deadline = some (engine.surroundings.clock run.world + budget) := by
  have limited := (planFor_options planned).1
  rw [budgeted, Deadline.ofBudget, Deadline.expiry, Seconds.Exact.add] at limited
  split at limited
  · contradiction
  · exact (Except.ok.inj limited).symm

/-- Whatever happens, an operation with a budget keeps to it, and where it ends for want of time it says
so and what the last attempt met. -/
theorem execute_in_time (prompt : engine.Prompt handlers operation)
    (budgeted : (engine.optionsOf operation).budget = .single budget) (fuel : Nat) :
    Run.Timely (engine.surroundings.clock run.world + budget)
        ((engine.optionsOf operation).timeout.orElse Client.standardTimeout) (opened run)
        (engine.execute operation policy handlers fuel run).2 ∧
      ∀ plan start made progress reached,
        engine.planFor operation policy handlers run = .ok (plan, start) →
        plan.Path ⟨start, none⟩ (opened run) made progress reached → made.length < fuel →
        plan.Late (engine.surroundings.clock run.world + budget) progress reached →
        ∃ ended, engine.execute operation policy handlers fuel run =
          (.error (Plan.outOfTimeAt ended), ended) := by
  refine ⟨?_, ?_⟩
  · cases planned : engine.planFor operation policy handlers run with
    | error fault =>
        rw [execute_of_refusal planned]
        exact .refl _ _ _
    | ok settled =>
        obtain ⟨plan, start⟩ := settled
        obtain ⟨rfl, rfl, rfl, _⟩ := planFor_eq planned
        rw [execute_of_plan planned, ← (planFor_options planned).2.1]
        exact Plan.run_keeps (Plan.turn_timely prompt (planFor_due planned budgeted)) fuel _ _
  · intro plan start made progress reached planned path enough late
    obtain ⟨rfl, _⟩ := planFor_eq planned
    have same : progress.last = reached.lastFault := path.last_eq rfl
    obtain ⟨ended, stopped⟩ := Plan.turn_of_late (planFor_due planned budgeted) same late
    refine ⟨ended, ?_⟩
    rw [execute_of_plan planned, path.run_of_ending (by rw [stopped]; rfl) enough, stopped]

end Engine

namespace Overdue

/-! Every request is lost after three seconds and every pause lasts four, where five may be spent. -/

def engine : Engine Int Int :=
  .plain id (fun _ clock => (.error .lost, clock + 3)) fun _ clock => (.ok (), clock + 4)

def operation : Operation Int Int Unit :=
  { (Operation.plain : Operation Int Int Unit) with options := { budget := .single 5 } }

def begun : Run Int Int Unit :=
  .plain

/-- The first turn leads to another when the time is over. -/
def afterOne : Bool :=
  match engine.planFor operation none {} begun with
  | .ok (plan, start) =>
    match plan.turn ⟨start, none⟩ (Engine.opened begun) with
    | (.ok (.again _), after) => !plan.isCancelled after && decide (5 < after.world)
    | _ => false
  | .error _ => false

/-- Nothing is sent a second time, and the pause that lasted too long ends the operation. -/
theorem ends_after_one : engine.Prompt {} operation ∧
    (engine.optionsOf operation).budget = .single 5 ∧
    Run.Timely 5 (.single 20) (Engine.opened begun) (engine.execute operation none {} 2 begun).2 ∧
    ∃ ended, engine.execute operation none {} 2 begun = (.error (Plan.outOfTimeAt ended), ended) := by
  have prompt : engine.Prompt {} operation :=
    ⟨Engine.bounded_plain _ _, Engine.bounded_plain _ _, fun _ _ => rfl⟩
  have budgeted : (engine.optionsOf operation).budget = .single 5 := rfl
  have timely : Run.Timely (engine.surroundings.clock begun.world + 5)
      ((engine.optionsOf operation).timeout.orElse Client.standardTimeout) (Engine.opened begun)
      (engine.execute operation none {} 2 begun).2 := (Engine.execute_in_time prompt budgeted 2).1
  refine ⟨prompt, budgeted, timely, ?_⟩
  have overdue : afterOne = true := by decide +kernel
  unfold afterOne at overdue
  split at overdue
  · next plan start planned =>
    split at overdue
    · next next after turned =>
      obtain ⟨free, late⟩ := Bool.and_eq_true_iff.mp overdue
      obtain ⟨attempted, path⟩ := Plan.Path.start.turn_again turned
      refine (Engine.execute_in_time prompt budgeted 2).2 plan start _ _ _ planned path
        Nat.one_lt_two (.before ?_ ?_)
      · exact Bool.not_eq_true' _ |>.mp free
      · rw [(Engine.planFor_eq planned).1]
        exact of_decide_eq_true late
    · contradiction
  · contradiction

end Overdue

end ObjectStore
