import ObjectStore.Proofs.Engine.Plain
import ObjectStore.Proofs.Transfer.Tidiness

/-! The log of a run, line by line. Each turn shows a fault at most where a request cannot be built and where an
attempt has failed, so that all entries are on one line if and only if the faults that are heard of are. -/

namespace ObjectStore

variable {σ τ ω : Type}

/-- A failure that blames the arguments of a request shows its fault. -/
def Failure.shown (failure : Failure) : List Showing :=
  if failure.manner = .unprepared ∧ failure.fault.kind.isArgument then [⟨Log.error, failure.fault⟩] else []

theorem Failure.shown_of_manner {failure : Failure} (other : failure.manner ≠ .unprepared) : failure.shown = [] :=
  if_neg fun shows => other shows.1

namespace Plan

variable {plan : Plan σ τ ω} {audience : Log.Audience}

abbrev Logs (plan : Plan σ τ ω) (audience : Log.Audience) (shown : List Showing) (run after : Run σ τ ω) : Prop :=
  Run.Logs plan.engine.surroundings.logThreshold audience shown run after

theorem inline_of_routine {line : Log.Line} (routine : Routine line) : Text.Inline line.text := by
  cases routine with
  | cancelled => decide
  | expired => decide
  | disturbed => decide
  | completed location status =>
      refine (Log.inline_format_iff rfl).mpr ⟨by decide, ?_⟩
      simp
  | expected code =>
      refine (Log.inline_format_iff rfl).mpr ⟨by decide, ?_⟩
      simp

theorem shown_interruption (fault : Fault) : (interruption fault).shown = [] :=
  Failure.shown_of_manner nofun

/-- Nothing of a fault is shown on the way, unless it fails and the failure shows its fault. -/
def Discloses (plan : Plan σ τ ω) (audience : Log.Audience) {α : Type} (x : Act Failure (Run σ τ ω) α) : Prop :=
  ∀ run, x.Ends run (fun _ after => plan.Logs audience [] run after)
    fun failure after => plan.Logs audience failure.shown run after

namespace Discloses

variable {α β : Type} {x : Act Failure (Run σ τ ω) α}

theorem pure (a : α) : plan.Discloses audience (Pure.pure a : Act Failure (Run σ τ ω) α) :=
  (plan.tidy audience).refl

theorem bind {f : α → Act Failure (Run σ τ ω) β} (first : plan.Discloses audience x)
    (rest : ∀ a, plan.Discloses audience (f a)) : plan.Discloses audience (x >>= f) := by
  intro run
  refine Act.Ends.bind (first run) fun a between early => ?_
  exact (rest a between).mono (fun _ _ late => early.append late) fun _ _ late => early.append late

theorem of_tidy (keeps : x.Keeps (plan.tidy audience))
    (silent : ∀ run, x.Ends run (fun _ _ => True) fun failure _ => failure.shown = []) :
    plan.Discloses audience x := by
  intro run
  refine ((keeps.ends run).and (silent run)).mono (fun _ _ both => both.1) ?_
  rintro failure after ⟨kept, quiet⟩
  rw [quiet]
  exact kept

theorem interrupted {x : Act Fault (Run σ τ ω) α} (keeps : x.Keeps (plan.tidy audience)) :
    plan.Discloses audience (x.mapError interruption) := by
  refine of_tidy (keeps.mapError _) fun run => Act.ends_mapError.mpr ?_
  exact (Act.Yields.any x run).mono (fun _ _ _ => trivial) fun fault _ _ => shown_interruption fault

end Discloses

section Saying

variable (opens : Text.Inline audience.opening)
include opens

theorem endWith_logs {α : Type} {reason : String} (inline : Text.Inline reason) (fault : Fault)
    (run : Run σ τ ω) : plan.Logs audience [⟨Log.error, fault⟩] run
      (plan.endWith reason fault run : Except Failure α × Run σ τ ω).2 := by
  refine Run.log_shows opens ?_ run
  have pattern : Text.Inline "%s: HTTP status code=%s, Exception=%s." := by decide
  rw [Log.line, Log.inline_format_iff rfl]
  simp [pattern, inline]

theorem say_discloses {line : Log.Line} (inline : Text.Inline line.text) :
    plan.Discloses audience (plan.say line) :=
  .of_tidy (say_tidy opens inline) fun _ => trivial

theorem routine_tidy {ε : Type} {line : Log.Line} (routine : Routine line) :
    (plan.say line : Act ε (Run σ τ ω) Unit).Keeps (plan.tidy audience) :=
  say_tidy opens (inline_of_routine routine)

/-- A request that cannot be built shows why, if it is the caller who is to blame. -/
theorem refuse_discloses {α : Type} (last : Option Fault) (fault : Fault) :
    plan.Discloses audience (plan.refuse last fault : Act Failure (Run σ τ ω) α) := by
  intro run
  have quiet : ∀ failure : Failure, failure.fault.kind = fault.kind → ¬ fault.kind.isArgument →
      plan.Logs audience failure.shown run run := by
    intro failure same other
    have silent : failure.shown = [] := if_neg fun ⟨_, argument⟩ => other (same ▸ argument)
    rw [silent]
    exact (plan.tidy audience).refl run
  unfold refuse
  split
  · next argument =>
    have shown : (⟨fault, .unprepared, none⟩ : Failure).shown = [⟨Log.error, fault⟩] := if_pos ⟨rfl, argument⟩
    refine Act.ends_bind.mpr ?_
    show plan.Logs audience (Failure.shown _) run _
    rw [shown]
    refine Run.log_shows opens ?_ run
    have pattern : Text.Inline "The request could not be built: %s" := by decide
    rw [Log.line, Log.inline_format_iff rfl]
    simp [pattern]
  · next other =>
    have behindKind : (behind last fault).kind = fault.kind := by
      unfold behind
      split <;> rfl
    split
    · exact quiet _ behindKind other
    · exact quiet _ rfl other

/-- What is logged of a request is on one line, whatever its listeners make of it. -/
theorem announceRequest_discloses (request : Request) (state : AttemptState) :
    plan.Discloses audience (plan.announceRequest request state) := by
  refine .bind (.interrupted (announceOn_tidy _ _)) fun exchange => ?_
  refine .bind (say_discloses opens ?_) fun _ => .pure _
  refine (Log.inline_format_iff rfl).mpr ⟨by decide, ?_⟩
  simp

end Saying

section Turns

variable [Seconds τ]

/-- What is shown of a fault with the answer of the policy. -/
def shownWith (fault : Fault) : Except Fault (Option τ) → List Showing
  | .ok none => [⟨Log.error, fault⟩]
  | _ => []

/-- What is shown of the fault of an attempt: that it is fatal, that the policy is asked, and that the policy
does not allow for a retry. Nothing is shown of a fault that the caller expects. -/
def shown (plan : Plan σ τ ω) (attempted : Attempted) (world : σ) : List Showing :=
  match attempted.outcome with
  | .success _ => []
  | .fatal fault => [⟨Log.error, fault⟩]
  | .retryable fault =>
    if fault.kind = .signing then [⟨Log.error, fault⟩]
    else match plan.isExpected fault with
      | .ok false => ⟨Log.info, fault⟩ :: shownWith fault (plan.policy.decide (reported attempted fault) world).1
      | _ => []

/-- What is shown of faults in a run with so many turns. -/
def showings (plan : Plan σ τ ω) : Nat → Progress → Run σ τ ω → List Showing
  | 0, _, _ => []
  | turns + 1, progress, run =>
    match plan.launch progress run with
    | (.error failure, _) => failure.shown
    | (.ok attempted, landed) =>
      plan.shown attempted landed.world ++
        match plan.conclude attempted landed with
        | (.ok (.again next), after) => plan.showings turns next after
        | _ => []

theorem inline_of_paused (texts : ∀ interval : τ, Text.Inline (Seconds.text interval)) {interval : τ}
    {line : Log.Line} (paused : Paused interval line) : Text.Inline line.text := by
  cases paused with
  | tooLong =>
      refine (Log.inline_format_iff rfl).mpr ⟨by decide, ?_⟩
      simp [texts]
  | allowed count =>
      refine (Log.inline_format_iff rfl).mpr ⟨by decide, ?_⟩
      simp [texts]

/-- An operation that is not to go on shows no fault. -/
theorem check_shows (last : Option Fault) (run : Run σ τ ω) :
    (plan.check last).Ends run (fun _ _ => True) fun failure _ => failure.shown = [] := by
  rw [check_eq]
  refine Act.ends_bind.mpr (Act.ends_read.mpr ?_)
  split
  · exact Failure.shown_of_manner nofun
  · refine Act.ends_bind.mpr (Act.ends_bind.mpr (Act.ends_ofExcept (fun expired _ => ?_) fun failure made => ?_))
    · split
      · exact Failure.shown_of_manner nofun
      · trivial
    · cases checked : Deadline.hasExpired (plan.engine.surroundings.clock run.world) plan.deadline Seconds.zero with
      | ok expired =>
          rw [checked] at made
          cases made
      | error fault =>
          rw [checked] at made
          cases made
          exact shown_interruption fault

variable (opens : Text.Inline audience.opening)
include opens

theorem check_discloses (last : Option Fault) : plan.Discloses audience (plan.check last) :=
  .of_tidy (plan.check_keeps_of_routine (fun _ => routine_tidy opens) last) (check_shows last)

variable (tidy : plan.operation.Tidy)
include tidy

theorem prepare_discloses (state : AttemptState) (last : Option Fault) :
    plan.Discloses audience (plan.prepare state last) := by
  have prepares : plan.Discloses audience (plan.prepared state).attempt := by
    refine .of_tidy (prepared_tidy opens tidy state).attempt fun run => Act.ends_attempt.mpr ?_
    exact (Act.Yields.any _ run).mono (fun _ _ _ => trivial) fun _ _ _ => trivial
  refine .bind prepares fun result => ?_
  cases result with
  | ok prepared => exact .pure prepared
  | error fault => exact refuse_discloses opens last fault

theorem launch_discloses (progress : Progress) : plan.Discloses audience (plan.launch progress) := by
  refine .bind (check_discloses opens _) fun _ => .bind (prepare_discloses opens tidy _ _) fun prepared => ?_
  refine .bind (announceRequest_discloses opens _ _) fun request => ?_
  exact .interrupted (attempt_tidy opens tidy request prepared.2 progress.state)

variable (texts : ∀ interval : τ, Text.Inline (Seconds.text interval))
include texts

theorem retry_tidy (context : RetryContext) (attempted : Attempted) (fault : Fault) (interval : τ) :
    (plan.retry context attempted fault interval).Keeps (plan.tidy audience) := by
  refine plan.retry_keeps_of_paused (fun _ paused => say_tidy opens (inline_of_paused texts paused)) ?_
    (fun _ _ => announceOn_tidy _ _) ?_ context attempted fault
  · exact fun state => take_tidy opens (tidy.recovers state)
  · exact plan.rest_keeps_of_routine (fun _ => routine_tidy opens) (fun x => outside_tidy x)
      fun _ run _ silent => Run.note_tidy silent run

/-- The policy is asked, which shows the fault, and what it answers may show it again. -/
theorem consult_logs (attempted : Attempted) (fault : Fault) (run : Run σ τ ω) :
    plan.Logs audience
      (⟨Log.info, fault⟩ :: shownWith fault (plan.policy.decide (reported attempted fault) run.world).1)
      run (plan.consult attempted fault run).2 := by
  have asked : plan.Logs audience [⟨Log.info, fault⟩] run (plan.consulted attempted fault run) := by
    refine Run.log_shows opens ?_ run
    have before : Text.Inline "Operation failed: checking if the operation should be retried. " := by decide
    have after : Text.Inline "Current retry count=%s, HTTP status code=%s, Exception=%s." := by decide
    have fits : Log.places ("Operation failed: checking if the operation should be retried. " ++
        "Current retry count=%s, HTTP status code=%s, Exception=%s.").toList = some 3 := by decide +kernel
    rw [Log.line, Log.inline_format_iff fits, Text.inline_append]
    simp [before, after]
  have onward : plan.Logs audience (shownWith fault (plan.policy.decide (reported attempted fault) run.world).1)
      (plan.consulted attempted fault run) (plan.consult attempted fault run).2 := by
    cases decided : plan.policy.decide (reported attempted fault) run.world with
    | mk answer world =>
    have answered : plan.Logs audience [] (plan.consulted attempted fault run)
        { plan.consulted attempted fault run with world } := .of_still rfl rfl
    cases answer with
    | error error =>
        rw [plan.consult_of_refused decided]
        exact answered
    | ok answer =>
        rw [plan.consult_of_answered decided]
        cases answer with
        | none => exact answered.append (endWith_logs opens (by decide) fault _)
        | some interval => exact answered.append (retry_tidy opens tidy texts _ attempted fault interval _)
  exact asked.append onward

/-- What follows from an attempt shows its fault, or nothing. -/
theorem conclude_logs (attempted : Attempted) (run : Run σ τ ω) :
    plan.Logs audience (plan.shown attempted run.world) run (plan.conclude attempted run).2 := by
  unfold conclude shown
  cases attempted.outcome with
  | success product =>
      exact plan.succeed_keeps_of_routine (fun _ => routine_tidy opens) (fun _ _ => .of_still rfl rfl) attempted
        product run
  | fatal fault => exact endWith_logs opens (by decide) fault run
  | retryable fault =>
      dsimp only
      split
      · exact endWith_logs opens (by decide) fault run
      · rw [decide_eq]
        cases expected : plan.isExpected fault with
        | error error => exact (plan.tidy audience).refl run
        | ok wanted =>
            cases wanted with
            | true => exact plan.surrender_keeps_of_routine (fun _ => routine_tidy opens) fault run
            | false => exact consult_logs opens tidy texts attempted fault run

/-- Turn by turn, a run logs what it shows of faults, and what is on one line. -/
theorem run_logs (turns : Nat) (progress : Progress) (run : Run σ τ ω) :
    plan.Logs audience (plan.showings turns progress run) run (plan.run turns progress run).2 := by
  induction turns generalizing progress run with
  | zero => exact (plan.tidy audience).refl run
  | succ turns ih =>
      have launches := launch_discloses opens tidy progress run
      rw [Plan.run, turn_eq, Act.bind_assoc, showings]
      cases launched : plan.launch progress run with
      | mk result landed =>
      cases result with
      | error failure =>
          rw [Act.bind_of_error launched]
          exact (Act.ends_of_error launched).mp launches
      | ok attempted =>
          have concludes := conclude_logs opens tidy texts attempted landed
          rw [Act.bind_of_ok launched]
          refine ((Act.ends_of_ok launched).mp launches).append (concludes.append ?_)
          cases concluded : plan.conclude attempted landed with
          | mk turn after =>
          cases turn with
          | error failure =>
              rw [Act.bind_of_error concluded]
              exact (plan.tidy audience).refl after
          | ok turn =>
              rw [Act.bind_of_ok concluded]
              cases turn with
              | done answer => exact (plan.tidy audience).refl after
              | again next => exact ih next after

end Turns

end Plan

namespace Engine

/-- What an operation shows of faults in a run with so many turns. -/
def showings [Seconds τ] (engine : Engine σ τ) (operation : Operation σ τ ω) (policy : Option (Policy σ τ))
    (handlers : Handlers σ) (turns : Nat) (run : Run σ τ ω) : List Showing :=
  match engine.planFor operation policy handlers run with
  | .ok (plan, start) => plan.showings turns ⟨start, none⟩ (opened run)
  | .error _ => []

/-- Whatever the server, the network, the policy and the listeners do, the log of an operation has one line for
each entry if and only if no fault that somebody hears of says more than one line. -/
theorem execute_inline_iff (engine : Engine σ Number) {operation : Operation σ Number ω}
    (tidy : operation.Tidy) (policy : Option (Policy σ Number)) (handlers : Handlers σ) (turns : Nat)
    {run : Run σ Number ω} (named : Text.Inline run.context.requestId) :
    ∃ added, (engine.execute operation policy handlers turns run).2.records = run.records ++ added ∧
      ((∀ record ∈ added, Text.Inline record.message) ↔
        ∀ showing ∈ engine.showings operation policy handlers turns run,
          showing.Tidy (run.context.audience engine.surroundings.logThreshold)) := by
  have begins : Run.Logs engine.surroundings.logThreshold
      (run.context.audience engine.surroundings.logThreshold) [] run (opened run) := .of_still rfl rfl
  have opens : Text.Inline (run.context.audience engine.surroundings.logThreshold).opening := by
    refine Log.Audience.inline_opening fun id same => ?_
    cases same
    exact named
  unfold showings
  cases planned : engine.planFor operation policy handlers run with
  | error fault =>
      rw [execute_of_refusal planned]
      exact (begins rfl).2
  | ok settled =>
      obtain ⟨plan, start⟩ := settled
      obtain ⟨rfl, rfl, rfl, -⟩ := planFor_eq planned
      rw [execute_of_plan planned]
      exact (begins.append (Plan.run_logs opens tidy Number.inline_text turns _ _) rfl).2

end Engine

namespace Refusing

/-! A service that refuses all requests, and sends something with each refusal. -/

def engine (threshold : Int) (content : List UInt8) : Engine Nat Number :=
  let plain : Engine Nat Number := .answering fun _ =>
    ⟨503, .text "Service Unavailable", Fields.empty, .ofContent content none⟩
  { plain with surroundings := { plain.surroundings with logThreshold := some threshold } }

/-- A download of one resource. -/
def operation : Operation Nat Number (List UInt8) :=
  (Client.downloadBytes { path := .text "a" } {}).toOption.get rfl

theorem operation_eq : Client.downloadBytes { path := .text "a" } {} = .ok operation := rfl

def begun : Run Nat Number (List UInt8) :=
  .plain

/-- Nothing is sent with the refusal: it is heard of in four entries of one line each. -/
theorem bare_refusal_keeps_to_lines : operation.Tidy ∧ Text.Inline begun.context.requestId ∧
    ((engine Log.debug []).showings operation (some .never) {} 1 begun).map (·.level) = [Log.info, Log.error] ∧
    ∃ added, ((engine Log.debug []).execute operation (some .never) {} 1 begun).2.records =
        begun.records ++ added ∧ added.length = 4 ∧ ∀ record ∈ added, Text.Inline record.message := by
  have tidy : operation.Tidy := Client.downloadTo_tidy operation_eq
  have named : Text.Inline begun.context.requestId := by decide
  obtain ⟨added, records, iff⟩ :=
    Engine.execute_inline_iff (engine Log.debug []) tidy (some .never) {} 1 named
  have four : ((engine Log.debug []).execute operation (some .never) {} 1 begun).2.records.length = 4 := by
    decide +kernel
  rw [records] at four
  refine ⟨tidy, named, by decide +kernel, added, records, four, iff.mpr ?_⟩
  decide +kernel

/-- What the service sends with a refusal stands in the log as it is, line by line. -/
theorem refusal_on_three_lines : Client.downloadBytes { path := .text "a" } {} = .ok operation ∧
    Text.Inline begun.context.requestId ∧
    ∃ record ∈ ((engine Log.error "first\nsecond".toUTF8.toList).execute operation (some .never) {} 1
        begun).2.records,
      record.message = "Client-Request-ID=id: Retry policy did not allow for a retry: " ++
        "HTTP status code=503, Exception=Service Unavailable\nfirst\nsecond." ∧
      ¬ Text.Inline record.message := by
  refine ⟨rfl, by decide, ?_⟩
  decide +kernel

end Refusing

end ObjectStore
