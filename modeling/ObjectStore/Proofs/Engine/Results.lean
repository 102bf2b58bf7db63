import ObjectStore.Proofs.Engine.Attempt
import ObjectStore.Proofs.Engine.Conclude
import ObjectStore.Proofs.Engine.Prepare
import ObjectStore.Proofs.Engine.Requests

/-! The results of a run. Each attempt that was concluded from is recorded once, with its fault, and
nothing else is recorded. -/

namespace ObjectStore

variable {σ τ ω α : Type}

/-- What the owner of a context has set. -/
def OperationContext.settings (context : OperationContext τ) :
    String × Option (Fields Value) × Option Int × Option String × Bool :=
  (context.requestId, context.userHeaders, context.logLevel, context.token, context.lock)

/-- What attempts leave alone: the settings, and who served the operation before. -/
def OperationContext.standing (context : OperationContext τ) :
    (String × Option (Fields Value) × Option Int × Option String × Bool) × Named Location :=
  (context.settings, context.host)

/-- The fault of the last recorded attempt. -/
def Run.lastFault (run : Run σ τ ω) : Option Fault :=
  run.context.results.getLast?.bind (·.fault)

/-- Nothing is sent, and nothing is recorded. -/
def Run.unsent : Frame (Run σ τ ω) :=
  .same fun run => (run.requests, run.context.results, run.context.clientTime)

theorem Run.unsent_iff {run after : Run σ τ ω} : Run.unsent.rel run after ↔
    after.requests = run.requests ∧ after.context.results = run.context.results ∧
      after.context.clientTime = run.context.clientTime := by
  simp [Run.unsent, Frame.same]

theorem Run.Follows.unsent {run after : Run σ τ ω} (follows : Run.Follows run after) :
    Run.unsent.rel run after := by
  rw [Run.unsent_iff, follows.requests, follows.context]
  exact ⟨rfl, rfl, rfl⟩

theorem Run.Follows.lastFault {run after : Run σ τ ω} (follows : Run.Follows run after) :
    after.lastFault = run.lastFault := by
  rw [Run.lastFault, follows.context, Run.lastFault]

namespace Plan

variable (plan : Plan σ τ ω)

theorem say_unsent (line : Log.Line) :
    (plan.say line : Act Failure (Run σ τ ω) Unit).Keeps Run.unsent :=
  (plan.say_follows line).weaken fun _ _ follows => follows.unsent

theorem note_unsent {entry : Entry τ} (pause : entry.sent? = none) (run : Run σ τ ω) :
    Run.unsent.rel run (run.note entry) := by
  refine Run.unsent_iff.mpr ⟨?_, rfl, rfl⟩
  simp [Run.note, Run.requests, List.filterMap_append, pause]

variable [Seconds τ]

section Follows

variable {frame : Frame (Run σ τ ω)} (follows : ∀ run after, Run.Follows run after → frame.rel run after)
  (notes : ∀ entry run, entry.sent? = none → frame.rel run (run.note entry))
include follows notes

/-- Another attempt is led up to by remarks and a pause. -/
theorem retry_keeps_of_follows (context : RetryContext) (attempted : Attempted) (fault : Fault)
    (interval : τ) : (plan.retry context attempted fault interval).Keeps frame := by
  have said : ∀ line, (plan.say line : Act Failure (Run σ τ ω) Unit).Keeps frame :=
    fun line => (plan.say_follows line).weaken follows
  refine plan.retry_keeps said ?_ ?_ ?_ context attempted fault interval
  · exact fun _ => (plan.take_follows _).weaken follows
  · exact fun _ _ => (plan.announceOn_follows _ _).weaken follows
  · exact plan.rest_keeps said (fun x => (outside_follows x).weaken follows) notes

/-- What follows from an attempt is remarks, pauses, and at most another host. -/
theorem conclude_keeps_of_follows
    (hosted : ∀ run location, frame.rel run { run with context := { run.context with host := location } })
    (attempted : Attempted) : (plan.conclude attempted).Keeps frame :=
  plan.conclude_keeps (fun line => (plan.say_follows line).weaken follows) hosted
    (fun _ => (outside_follows _).weaken follows) (plan.retry_keeps_of_follows follows notes) attempted

/-- Who served it does not change where the attempt failed. -/
theorem conclude_keeps_of_failed {attempted : Attempted} (failed : attempted.outcome.fault?.isSome) :
    (plan.conclude attempted).Keeps frame :=
  plan.conclude_keeps_of_fault (fun line => (plan.say_follows line).weaken follows)
    (fun _ => (outside_follows _).weaken follows) (plan.retry_keeps_of_follows follows notes) failed

end Follows

/-- Getting ready for another attempt sends nothing and records nothing. -/
theorem ready_follows (context : RetryContext) (attempted : Attempted) (interval : τ) :
    (plan.ready context attempted interval).Keeps Run.follows := by
  refine .bind (plan.say_follows _) fun _ => .bind ((plan.announceOn_follows _ _).mapError _) fun _ => ?_
  refine .bind ((plan.take_follows _).mapError _) fun _ => .bind (.ofExcept _) fun _ => .pure _

theorem conclude_unsent (attempted : Attempted) :
    (plan.conclude attempted).Keeps Run.unsent := by
  refine plan.conclude_keeps_of_follows (fun _ _ follows => follows.unsent) ?_ (fun _ _ => rfl) attempted
  exact fun _ run pause => note_unsent pause run

/-- Who served an attempt is known once it has succeeded, and changes nothing else that its owner gave. -/
theorem conclude_settings (attempted : Attempted) :
    (plan.conclude attempted).Keeps (.same fun run => run.context.settings) :=
  plan.conclude_keeps_of_follows (fun _ _ follows => congrArg (·.settings) follows.context)
    (fun _ _ _ => rfl) (fun _ _ => rfl) attempted

/-- The operation is served by the location of an attempt that it is done with. -/
theorem conclude_host (attempted : Attempted) (run : Run σ τ ω) :
    (plan.conclude attempted).Ends run
      (fun turn after => after.context.host = match turn with
        | .done _ => attempted.state.location
        | .again _ => run.context.host)
      (fun _ after => after.context.host = run.context.host) := by
  cases failed : attempted.outcome.fault? with
  | some fault =>
      have keeps : (plan.conclude attempted).Keeps (.same fun run => run.context.host) :=
        plan.conclude_keeps_of_failed (fun _ _ follows => congrArg (·.host) follows.context)
          (fun _ _ _ => rfl) (by rw [failed]; rfl)
      refine ((keeps.ends run).and (plan.conclude_yields attempted run)).mono ?_ fun _ _ both => both.1
      rintro turn after ⟨kept, follow⟩
      cases turn with
      | again next => exact kept
      | done answer =>
          obtain ⟨product, response, succeeded, _⟩ := follow
          rw [succeeded] at failed
          cases failed
  | none =>
      unfold conclude
      split
      · unfold succeed
        split
        · exact rfl
        · refine Act.ends_bind.mpr ((Act.ends_change _).mpr (Act.ends_bind.mpr (plan.say_ends.mpr ?_)))
          refine (Act.ends_pure _).mpr ?_
          rw [(Run.log_follows _ _ _).context]
      all_goals
        next outcome =>
        rw [outcome] at failed
        cases failed

omit [Seconds τ] in
theorem announceRequest_follows (request : Request) (state : AttemptState) :
    (plan.announceRequest request state).Keeps Run.follows :=
  .bind ((plan.announceOn_follows _ _).mapError _) fun _ => .bind (plan.say_follows _) fun _ => .pure _

/-- An attempt changes nothing but the records of a context. -/
theorem launch_standing (progress : Progress) :
    (plan.launch progress).Keeps (.same fun run => run.context.standing) := by
  have aside : ∀ {α : Type} {x : Act Failure (Run σ τ ω) α}, x.Keeps Run.follows →
      x.Keeps (.same fun run => run.context.standing) :=
    fun keeps => keeps.weaken fun _ _ follows => congrArg OperationContext.standing follows.context
  refine .bind (aside (plan.check_keeps plan.say_follows _)) fun _ => ?_
  refine .bind (aside (plan.prepare_follows _ _)) fun prepared => ?_
  refine .bind (aside (plan.announceRequest_follows _ _)) fun request => .mapError _ (.of_ends fun run => ?_)
  have met : (plan.exchanged request prepared.2 progress.state run).2.context.standing =
      run.context.standing := congrArg OperationContext.standing (plan.exchanged_sent _ _ _ run).context
  refine (plan.attempt_ends (plan.bounded_any _) request prepared.2 progress.state run).mono ?_ ?_
  · rintro attempted after ⟨_, landed, time, result, went, _, _, kept, _⟩
    rw [went] at met
    exact (congrArg OperationContext.standing kept.context).trans met
  · rintro fault after ⟨_, landed, time, results, went, kept⟩
    rw [went] at met
    exact (congrArg OperationContext.standing kept.context).trans met

/-- An attempt that ends is recorded with its fault. -/
theorem launch_records (progress : Progress) (run : Run σ τ ω) :
    (plan.launch progress).Ends run
      (fun attempted after => ∃ result, after.context.results = run.context.results ++ [result] ∧
        result.fault = attempted.outcome.fault?)
      (fun _ _ => True) := by
  refine Act.ends_bind.mpr (((plan.check_keeps plan.say_unsent _).ends run).imp ?_)
  intro _ checked same
  refine Act.ends_bind.mpr (((plan.prepare_follows _ _).ends checked).imp ?_)
  intro prepared after follows
  refine Act.ends_bind.mpr ((plan.announceRequest_ends (plan.bounded_any _) _ _ after).imp ?_)
  rintro request announced ⟨exchange, _, kept, _⟩
  have before : announced.context.results = run.context.results :=
    (Run.unsent_iff.mp (Run.unsent.trans same
      (Run.unsent.trans follows.unsent kept.toFollows.unsent))).2.1
  refine Act.ends_mapError.mpr ((plan.attempt_ends (plan.bounded_any _) _ _ _ announced).imp ?_)
  rintro attempted last ⟨met, landed, time, result, went, sameMet, fault, ended, _⟩
  have sent := plan.exchanged_sent request prepared.2 progress.state announced
  rw [went] at sent
  refine ⟨result, ?_, by rw [sameMet]; exact fault⟩
  calc last.context.results = landed.context.results ++ [result] := by rw [ended.context]; rfl
    _ = announced.context.results ++ [result] := by rw [sent.context]
    _ = run.context.results ++ [result] := by rw [before]

variable {plan} {start progress : Progress} {begun run : Run σ τ ω} {made : List Attempted}

/-- The faults that are recorded when an attempt ends, of those before and of the attempt itself. -/
theorem launch_appends {attempted : Attempted} {landed : Run σ τ ω} {results : List RequestResult}
    (recorded : run.context.results = begun.context.results ++ results)
    (faults : results.map (·.fault) = made.map (·.outcome.fault?))
    (launched : plan.launch progress run = (.ok attempted, landed)) :
    ∃ all, landed.context.results = begun.context.results ++ all ∧
      all.map (·.fault) = (made ++ [attempted]).map (·.outcome.fault?) := by
  obtain ⟨result, one, fault⟩ := (Act.ends_of_ok launched).mp (plan.launch_records _ _)
  refine ⟨results ++ [result], ?_, by simp [faults, fault]⟩
  rw [one, recorded, List.append_assoc]

/-- The recorded faults are those of the attempts on the path, in their order. -/
theorem Path.results (path : plan.Path start begun made progress run) :
    ∃ results, run.context.results = begun.context.results ++ results ∧
      results.map (·.fault) = made.map (·.outcome.fault?) := by
  induction path with
  | start => exact ⟨[], by simp, rfl⟩
  | again path launched concluded ih =>
      obtain ⟨results, recorded, faults⟩ := ih
      obtain ⟨all, appended, agree⟩ := launch_appends recorded faults launched
      have same := (Run.unsent_iff.mp ((plan.conclude_unsent _).of_ok concluded)).2.1
      exact ⟨all, same.trans appended, agree⟩

/-- A turn knows the fault of the attempt that was recorded last. -/
theorem Path.last_eq (path : plan.Path start begun made progress run)
    (first : start.last = begun.lastFault) : progress.last = run.lastFault := by
  cases path with
  | start => exact first
  | again path launched concluded =>
      obtain ⟨result, one, fault⟩ := (Act.ends_of_ok launched).mp (plan.launch_records _ _)
      have same := (Run.unsent_iff.mp ((plan.conclude_unsent _).of_ok concluded)).2.1
      obtain ⟨retried, bench, recovered, location, outcome, _, _, rfl⟩ :=
        (plan.conclude_yields _).of_ok concluded
      have results : run.context.results = _ ++ [result] := Eq.trans same one
      rw [Run.lastFault, results, List.getLast?_concat, Option.bind_some, fault, outcome]
      rfl

end Plan

end ObjectStore
