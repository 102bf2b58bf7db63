import ObjectStore.Proofs.Engine.Closing
import ObjectStore.Proofs.Engine.Refusal

/-! Every failure is accounted for. The context holds a result for each request that was handed over,
and the failure closes the operation or belongs to a request that was not handed over any more. This is
so if and only if everything that has to be read of the attempts can be read. -/

namespace ObjectStore

variable {σ ω : Type}

namespace Plan

/-- The date of the response can be read, and what the attempt is judged by once it is recorded. -/
def Lucid (plan : Plan σ Number ω) (trip : Trip σ Number ω) : Prop :=
  plan.engine.Dates trip.met trip.landed ∧
    ∀ attempted landed, plan.register trip trip.landed = (.ok attempted, landed) →
      plan.Readable attempted landed

variable {plan : Plan σ Number ω} {trip : Trip σ Number ω} {start progress : Progress}
  {begun run landed after last : Run σ Number ω} {trips : List (Trip σ Number ω)}
  {made : List Attempted} {attempted : Attempted} {result : Except Failure (Option Answer)}

/-- What holds when an attempt has been recorded. -/
structure Recorded (plan : Plan σ Number ω) (run : Run σ Number ω) (attempted : Attempted)
    (landed : Run σ Number ω) : Prop where
  serves : plan.endpoints.Serves attempted.state
  fault : landed.lastFault = attempted.outcome.fault?
  response : ∀ product, attempted.outcome = .success product → attempted.exchange.response.isSome
  counted : landed.context.results.length = run.context.results.length + 1

theorem lucid_of_readable (timed : plan.Timed) (measured : trip.landed.Measured)
    (registered : plan.register trip trip.landed = (.ok attempted, landed))
    (readable : plan.Readable attempted landed) : plan.Lucid trip := by
  refine ⟨dated_of_register timed measured registered, fun other after same => ?_⟩
  obtain ⟨⟨⟩, rfl⟩ := Prod.mk.inj (registered.symm.trans same)
  exact readable

namespace Undisturbed

variable (undisturbed : plan.Undisturbed)
include undisturbed

theorem responds (departs : plan.Departs progress run trip)
    (registered : plan.register trip trip.landed = (.ok attempted, landed)) {product : Product}
    (success : attempted.outcome = .success product) : attempted.exchange.response.isSome := by
  have met : ∀ product, trip.met.outcome = .success product → trip.met.exchange.response.isSome := by
    obtain ⟨prepared, request, timeout, announced, _, rfl⟩ := departs
    exact fun _ => exchanged_answers request timeout progress.state announced
  have reports : (plan.register trip).Ends trip.landed
      (fun attempted _ => attempted.outcome = trip.met.outcome ∧
        Exchange.answered.rel trip.met.exchange attempted.exchange) fun _ _ => True := by
    refine Act.ends_mapError.mpr (Act.ends_bind.mpr ((Act.Yields.any _ trip.landed).imp ?_))
    intro result recorded _
    refine Act.ends_bind.mpr ((plan.announceOn_ends (.requestCompleted result) undisturbed.responses
      trip.met.exchange recorded).imp ?_)
    exact fun changed _ kept => ⟨rfl, kept.2⟩
  obtain ⟨outcome, answered⟩ := (Act.ends_of_ok registered).mp reports
  exact answered (met product (outcome ▸ success))

theorem recorded (departs : plan.Departs progress run trip) (serves : plan.endpoints.Serves progress.state)
    (registered : plan.register trip trip.landed = (.ok attempted, landed)) :
    plan.Recorded run attempted landed := by
  obtain ⟨outcome, state⟩ := (register_yields trip).of_ok registered
  obtain ⟨one, results, _, fault, _⟩ :=
    (Act.ends_of_ok registered).mp (register_ends (undisturbed.polite _) trip trip.landed)
  refine ⟨?_, ?_, fun _ => undisturbed.responds departs registered, ?_⟩
  · rw [state]
    obtain ⟨prepared, request, timeout, announced, _, rfl⟩ := departs
    exact exchanged_bounded undisturbed.stationed.judges undisturbed.stationed.finishes request timeout
      progress.state announced serves
  · rw [Run.lastFault, results, List.getLast?_concat, Option.bind_some, fault, outcome]
  · rw [results, departs.context, List.length_append, List.length_singleton]

/-- A recorded attempt that can be read goes on to a location that serves, or closes the operation. -/
theorem concludes (recorded : plan.Recorded run attempted landed)
    (readable : plan.Readable attempted landed) :
    (plan.conclude attempted).Ends landed
      (fun turn _ => ∀ next, turn = .again next → plan.endpoints.Serves next.state)
      (fun failure after => failure.Closes after) :=
  undisturbed.conclude_of_readable readable recorded.serves recorded.fault recorded.response

/-- A run goes on after an attempt only if it could be read. -/
theorem again {next : Progress} (departs : plan.Departs progress run trip)
    (serves : plan.endpoints.Serves progress.state) (measured : run.Measured)
    (registered : plan.register trip trip.landed = (.ok attempted, landed))
    (goesOn : plan.conclude attempted landed = (.ok (.again next), after)) :
    plan.Lucid trip ∧ plan.endpoints.Serves next.state ∧ after.Measured := by
  have recorded := undisturbed.recorded departs serves registered
  have readable : plan.Readable attempted landed := by
    by_contra unreadable
    obtain ⟨_, _, concluded, _⟩ := undisturbed.conclude_of_unreadable unreadable recorded.serves
    cases goesOn.symm.trans concluded
  refine ⟨lucid_of_readable undisturbed.timed (departs.measured measured) registered readable, ?_, ?_⟩
  · exact (Act.ends_of_ok goesOn).mp (undisturbed.concludes recorded readable) next rfl
  · exact departs.measured_onward undisturbed.timed (undisturbed.polite _) measured registered goesOn

/-- An operation whose attempts can be read has a result for each of them. If it fails, the failure
closes it or belongs to a request that was not ready. -/
theorem accounted (course : plan.Course progress run trips result last)
    (path : plan.Path start begun made progress run) (first : start.last = begun.lastFault)
    (serves : plan.endpoints.Serves progress.state) (measured : run.Measured)
    (lucid : ∀ trip ∈ trips, plan.Lucid trip) :
    last.context.results.length = run.context.results.length + trips.length ∧
    ∀ failure, result = .error failure →
      (failure.fault.kind.isStorage → failure.attached = some last.context.results) ∧
      (failure.Closes last ∨ ∃ earlier next reached, plan.Path start begun earlier next reached ∧
        earlier.length = made.length + trips.length ∧ plan.Unready next reached failure last) := by
  induction course generalizing made with
  | spent => exact ⟨rfl, nofun⟩
  | @unready progress run failure after refused =>
      have follows := (plan.depart_follows progress).of_error refused
      obtain ⟨_, attached, reason⟩ := depart_fails undisturbed.timed (undisturbed.polite _)
        (path.last_eq first) refused
      refine ⟨by rw [follows.context]; rfl, ?_⟩
      rintro _ ⟨⟩
      exact ⟨attached, reason.imp_right fun unready => ⟨made, progress, run, path, rfl, unready⟩⟩
  | @unregistered progress run trip failure after departs refused =>
      obtain ⟨_, _, registered, _⟩ := register_of_dated undisturbed.timed (undisturbed.polite _)
        (departs.measured measured) (lucid trip List.mem_cons_self).1
      rw [refused] at registered
      cases registered
  | @ended progress run trip attempted landed result after departs registered ends stopped =>
      have recorded := undisturbed.recorded departs serves registered
      have readable := (lucid trip List.mem_cons_self).2 attempted landed registered
      have same := (Run.unsent_iff.mp (plan.conclude_unsent attempted landed)).2.1
      rw [stopped] at same
      refine ⟨by rw [same, recorded.counted, List.length_singleton], ?_⟩
      rintro failure rfl
      have closes : failure.Closes after := by
        have concluded : plan.conclude attempted landed = (.error failure, after) :=
          Prod.ext (Turn.failure_of_ending ends) stopped
        exact (Act.ends_of_error concluded).mp (undisturbed.concludes recorded readable)
      exact ⟨fun _ => closes.attached, .inl closes⟩
  | @again progress run trip attempted landed next after trips result last departs registered goesOn rest ih =>
      have recorded := undisturbed.recorded departs serves registered
      obtain ⟨_, serving, measuredToo⟩ := undisturbed.again departs serves measured registered goesOn
      obtain ⟨_, same, _⟩ := Run.unsent_iff.mp ((plan.conclude_unsent attempted).of_ok goesOn)
      obtain ⟨counted, failed⟩ := ih (.again path ((launch_of_departs departs).trans registered) goesOn)
        serving measuredToo fun trip member => lucid trip (List.mem_cons_of_mem _ member)
      have whole : after.context.results.length + trips.length =
          run.context.results.length + (trip :: trips).length := by
        rw [same, recorded.counted, List.length_cons]
        omega
      refine ⟨counted.trans whole, fun failure failing => ?_⟩
      obtain ⟨attached, reason⟩ := failed failure failing
      refine ⟨attached, reason.imp_right ?_⟩
      rintro ⟨earlier, further, reached, comes, long, unready⟩
      refine ⟨earlier, further, reached, comes, ?_, unready⟩
      rw [long, List.length_append, List.length_singleton, List.length_cons]
      omega

/-- An attempt that cannot be read interrupts the operation. -/
theorem interrupted (course : plan.Course progress run trips result last)
    (serves : plan.endpoints.Serves progress.state) (measured : run.Measured)
    (illegible : ¬ ∀ trip ∈ trips, plan.Lucid trip) :
    ∃ failure, result = .error failure ∧ failure.manner = .interrupted := by
  induction course with
  | spent => exact absurd (List.forall_mem_nil _) illegible
  | unready => exact absurd (List.forall_mem_nil _) illegible
  | @unregistered progress run trip failure after departs refused =>
      exact ⟨failure, rfl,
        ((Act.ends_of_error refused).mp (register_ends (undisturbed.polite _) trip trip.landed)).1⟩
  | @ended progress run trip attempted landed result after departs registered ends stopped =>
      have recorded := undisturbed.recorded departs serves registered
      have unreadable : ¬ plan.Readable attempted landed := by
        intro readable
        refine illegible fun other member => ?_
        obtain rfl := List.mem_singleton.mp member
        exact lucid_of_readable undisturbed.timed (departs.measured measured) registered readable
      obtain ⟨failure, broken, concluded, manner⟩ :=
        undisturbed.conclude_of_unreadable unreadable recorded.serves
      rw [concluded] at ends
      cases ends
      exact ⟨failure, rfl, manner⟩
  | @again progress run trip attempted landed next after trips result last departs registered goesOn rest ih =>
      obtain ⟨lucid, serving, measuredToo⟩ := undisturbed.again departs serves measured registered goesOn
      exact ih serving measuredToo fun others => illegible (List.forall_mem_cons.mpr ⟨lucid, others⟩)

end Undisturbed

end Plan

namespace Engine

variable (engine : Engine σ Number) (operation : Operation σ Number ω)
  (policy : Option (Policy σ Number)) (handlers : Handlers σ) (run : Run σ Number ω)

/-- Why an operation fails after so many attempts: it was refused as a whole, its next request could not
be prepared, or it was closed. -/
inductive Reason (attempts : Nat) (failure : Failure) (ended : Run σ Number ω) : Prop where
  | refused : engine.planFor operation policy handlers run = .error failure.fault →
      ended = opened run → Reason attempts failure ended
  | unready {plan start made progress reached} :
      engine.planFor operation policy handlers run = .ok (plan, start) →
      plan.Path ⟨start, none⟩ (opened run) made progress reached → made.length = attempts →
      plan.Unready progress reached failure ended → Reason attempts failure ended
  | closed : failure.Closes ended → Reason attempts failure ended

/-- The context holds one result for each attempt that was handed over, and the failure carries these
results if it reports on the operation. -/
structure Accounts (turns : Nat) (failure : Failure) (ended : Run σ Number ω) : Prop where
  counted : ended.context.results.length = (engine.trips operation policy handlers turns run).length
  attached : failure.fault.kind.isStorage → failure.attached = some ended.context.results
  reason : engine.Reason operation policy handlers run
    (engine.trips operation policy handlers turns run).length failure ended

variable {engine operation policy handlers run} {failure : Failure} {ended : Run σ Number ω} {turns : Nat}

theorem Reason.uninterrupted {attempts : Nat} {plan : Plan σ Number ω} {start : AttemptState}
    (reason : engine.Reason operation policy handlers run attempts failure ended)
    (planned : engine.planFor operation policy handlers run = .ok (plan, start)) :
    failure.manner ≠ .interrupted := by
  cases reason with
  | refused refusal _ => cases planned.symm.trans refusal
  | unready _ _ _ unready =>
      obtain ⟨_, _, _, manner, _⟩ := Plan.prepare_fails unready.2.2.1
      exact manner
  | closed closes => exact closes.uninterrupted

theorem serves_of_plan {plan : Plan σ Number ω} {start : AttemptState}
    (planned : engine.planFor operation policy handlers run = .ok (plan, start)) :
    plan.endpoints.Serves start := by
  obtain ⟨_, _, _, mode, location, starts, rfl⟩ := planFor_eq planned
  exact Endpoints.serves_start starts

theorem lucid_of_uninterrupted {plan : Plan σ Number ω} {start : AttemptState}
    (undisturbed : plan.Undisturbed)
    (planned : engine.planFor operation policy handlers run = .ok (plan, start))
    (failed : engine.execute operation policy handlers turns run = (.error failure, ended))
    (uninterrupted : failure.manner ≠ .interrupted) :
    ∀ trip ∈ engine.trips operation policy handlers turns run, plan.Lucid trip := by
  have course := course_of_plan planned turns
  rw [failed] at course
  by_contra illegible
  obtain ⟨_, ⟨⟩, manner⟩ :=
    undisturbed.interrupted course (serves_of_plan planned) (.inl rfl) illegible
  exact uninterrupted manner

/-- Failures are accounted for exactly if everything can be read of the attempts. -/
theorem execute_accounts_iff
    (undisturbed : ∀ plan start, engine.planFor operation policy handlers run = .ok (plan, start) →
      plan.Undisturbed)
    (failed : engine.execute operation policy handlers turns run = (.error failure, ended)) :
    engine.Accounts operation policy handlers run turns failure ended ↔
      ∀ plan start, engine.planFor operation policy handlers run = .ok (plan, start) →
        ∀ trip ∈ engine.trips operation policy handlers turns run, plan.Lucid trip := by
  cases planned : engine.planFor operation policy handlers run with
  | error fault =>
      rw [execute_of_refusal planned] at failed
      cases failed
      have accounts : engine.Accounts operation policy handlers run turns
          ⟨fault, .unprepared, none⟩ (opened run) := by
        refine ⟨by rw [trips_of_refusal planned]; rfl, fun storage => ?_, .refused planned rfl⟩
        rw [planFor_unreporting planned] at storage
        contradiction
      exact iff_of_true accounts fun _ _ same => by cases same
  | ok settled =>
      obtain ⟨plan, start⟩ := settled
      have calm := undisturbed plan start planned
      constructor
      · rintro accounts _ _ ⟨⟩
        exact lucid_of_uninterrupted calm planned failed (accounts.reason.uninterrupted planned)
      · intro lucid
        have course := course_of_plan planned turns
        rw [failed] at course
        obtain ⟨counted, reasons⟩ := calm.accounted course .start rfl (serves_of_plan planned) (.inl rfl)
          (lucid plan start rfl)
        obtain ⟨attached, reason⟩ := reasons failure rfl
        refine ⟨counted.trans (Nat.zero_add _), attached, ?_⟩
        rcases reason with closes | ⟨made, progress, reached, path, long, unready⟩
        · exact .closed closes
        · exact .unready planned path (long.trans (Nat.zero_add _)) unready

end Engine

namespace Repeating

/-! An operation that is repeated once. -/

theorem undisturbed (replies : Nat → Reply) (plan : Plan Nat Number Unit) (start : AttemptState)
    (planned : (Engine.answering replies).planFor .plain (some .once) {} .plain = .ok (plan, start)) :
    plan.Undisturbed := by
  obtain ⟨rfl, rfl⟩ := Prod.mk.inj (Except.ok.inj planned)
  exact {
    timed := fun _ => ⟨0, rfl⟩
    polite := Engine.polite_plain
    responses := Engine.bounded_plain _ _
    decides := fun context world => ⟨_, world, rfl⟩
    grants := by
      intro context
      refine .pure fun interval granted => ?_
      split at granted
      · cases granted
        rfl
      · cases granted
    pauses := fun token interval _ => .inl fun world => by
      cases token <;> exact ⟨_, world, rfl⟩
    stationed := Operation.plain_within _
    recovers := fun state bench => ⟨state, bench, rfl⟩ }

def execute (replies : Nat → Reply) (turns : Nat) :
    Except Failure (Option Answer) × Run Nat Number Unit :=
  (Engine.answering replies).execute .plain (some .once) {} turns .plain

def Accounts (replies : Nat → Reply) (turns : Nat) (failure : Failure) (ended : Run Nat Number Unit) : Prop :=
  (Engine.answering replies).Accounts .plain (some .once) {} .plain turns failure ended

/-- The service stays busy. -/
def busy : Nat → Reply
  | _ => .plain 503 "0" [] none

/-- The operation ends with the fault of its second attempt. -/
theorem busy_accounted : (∀ plan start, (Engine.answering busy).planFor .plain (some .once) {} .plain =
      .ok (plan, start) → plan.Undisturbed) ∧
    ∃ failure ended, execute busy 5 = (.error failure, ended) ∧ Accounts busy 5 failure ended ∧
      ended.context.results.length = 2 := by
  have recorded : Answer.failsIn .recorded (execute busy 5).1 = true := by decide +kernel
  have counted : (execute busy 5).2.context.results.length = 2 := by decide +kernel
  obtain ⟨failure, failed, manner⟩ := Answer.failure_of_failsIn recorded
  refine ⟨undisturbed busy, failure, _, failed, ?_, counted⟩
  refine (Engine.execute_accounts_iff (undisturbed busy) failed).mpr fun plan start planned => ?_
  refine Engine.lucid_of_uninterrupted (undisturbed busy plan start planned) planned failed ?_
  rw [manner]
  decide

/-- The failure is not that of the attempt, since a list is not looked up among the codes that are
expected. -/
theorem odd_code_unaccounted :
    (∀ plan start, (Engine.answering Reply.oddCode).planFor .plain (some .once) {} .plain = .ok (plan, start) →
      plan.Undisturbed) ∧
    ∃ failure ended, execute Reply.oddCode 1 = (.error failure, ended) ∧
      ¬ Accounts Reply.oddCode 1 failure ended := by
  have interrupted : Answer.failsIn .interrupted (execute Reply.oddCode 1).1 = true := by decide +kernel
  obtain ⟨failure, failed, manner⟩ := Answer.failure_of_failsIn interrupted
  refine ⟨undisturbed Reply.oddCode, failure, _, failed, fun accounts => ?_⟩
  cases planned : (Engine.answering Reply.oddCode).planFor .plain (some .once) {} .plain with
  | error fault =>
      have refused := congrArg Prod.fst failed
      rw [execute, Engine.execute_of_refusal planned] at refused
      cases refused
      cases manner
  | ok settled => exact accounts.reason.uninterrupted planned manner

end Repeating

end ObjectStore
