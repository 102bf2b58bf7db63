import ObjectStore.Proofs.Engine.Accounting
import ObjectStore.Proofs.Response.ErrorStatus

/-! What becomes of the status of a refused response: it is that of the fault of its attempt, of the result
that is recorded, and of the failure of an operation that ends there. -/

namespace ObjectStore

variable {σ τ ω : Type}

namespace Plan

/-- The response of a trip as it is judged, after its listeners. -/
def judged? (plan : Plan σ τ ω) (trip : Trip σ τ ω) : Option Response :=
  match plan.meet trip.timeout ⟨trip.run, trip.state, ⟨trip.request, none⟩⟩ with
  | (.ok _, sending) => sending.exchange.response
  | _ => none

theorem handle_of_eq {plan : Plan σ τ ω} {sending : Sending σ τ ω} {response : Response} {α : Type}
    {step : Handling σ ω α} {result : Except Fault α} {receipt : Receipt σ ω}
    (same : step ⟨⟨sending.run.world, sending.run.work, []⟩, sending.state, response⟩ = (result, receipt)) :
    plan.handle response step sending = (result, plan.handled sending receipt) := by
  simp only [handle, same]
  rfl

section Refusal

variable {plan : Plan σ τ ω} {accepts : Int → Bool} (standard : plan.operation.judge = Operation.judgeStatus accepts)
  {response : Response} (unaccepted : accepts response.status = false)
include standard unaccepted

theorem deal_refuses {sending : Sending σ τ ω} (current : sending.exchange.response = some response) :
    ∃ after, plan.deal sending = (response.fault.1.map .retryable, after) ∧
      after.exchange.response = some response.fault.2 := by
  let receipt : Receipt σ ω := ⟨⟨sending.run.world, sending.run.work, []⟩, sending.state, response⟩
  have refuses : plan.operation.judge receipt =
      (response.fault.1.map .retryable, { receipt with response := response.fault.2 }) := by
    rw [standard, Operation.judgeStatus, Act.bind_of_ok (Act.read_apply receipt), unaccepted]
    rfl
  refine ⟨plan.handled sending { receipt with response := response.fault.2 }, ?_, rfl⟩
  rw [deal, Act.bind_apply, plan.handleCurrent_eq current, handle_of_eq refuses]
  cases response.fault.1 <;> rfl

variable [Seconds τ] {progress : Progress} {run : Run σ τ ω} {trip : Trip σ τ ω}

/-- The outcome of a trip whose response is refused. -/
theorem met_of_judged (departs : plan.Departs progress run trip) (judged : plan.judged? trip = some response) :
    trip.met.outcome = .ofResult (response.fault.1.map .retryable) ∧
      trip.met.exchange.response = some response.fault.2 := by
  obtain ⟨prepared, request, timeout, announced, _, rfl⟩ := departs
  unfold judged? at judged
  split at judged
  · next sending met =>
    have meets : plan.meet timeout ⟨announced, progress.state, ⟨request, none⟩⟩ = (.ok (), sending) := met
    obtain ⟨after, dealt, shown⟩ := deal_refuses standard unaccepted judged
    have went : plan.exchange timeout ⟨announced, progress.state, ⟨request, none⟩⟩ =
        (response.fault.1.map .retryable, after) := by
      rw [exchange_eq, Act.bind_of_ok meets, dealt]
    refine ⟨?_, ?_⟩
    · simp only [trip, exchanged, went]
    · simp only [trip, exchanged, went, shown]
  · contradiction

end Refusal

end Plan

/-- A result that was recorded of a trip. -/
def Trip.Records (trip : Trip σ τ ω) (result : RequestResult) : Prop :=
  ∃ read location start stop, RequestResult.ofAttempt read location start stop trip.met.exchange.response
    trip.met.outcome.fault? = .ok result

namespace RequestResult

variable {read : Value → Except Fault Time.DateTime} {location : Named Location} {start stop : Time.DateTime}
  {response : Response} {fault : Option Fault} {result : RequestResult}

/-- The status of a result is that of its response, unless its fault reports another. -/
theorem status_of_ofAttempt (made : ofAttempt read location start stop (some response) fault = .ok result)
    (same : ∀ reported, fault = some reported → reported.status.truthy = true →
      reported.status = .int response.status) : result.status = .int response.status := by
  simp only [ofAttempt, bind, Except.bind] at made
  split at made
  · contradiction
  · cases made
    dsimp only
    split
    · next truthy =>
      cases fault with
      | none => contradiction
      | some reported => exact same reported rfl truthy
    · rfl

end RequestResult

/-- The result of a trip whose fault says what a response says has the status of the response. -/
theorem Trip.Records.status {trip : Trip σ τ ω} {result : RequestResult} {response shown : Response}
    {content : List UInt8} {fault : Fault} (records : trip.Records result)
    (current : trip.met.exchange.response = some shown) (same : shown.status = response.status)
    (fails : trip.met.outcome = .retryable fault) (faithful : response.Faithful content fault) :
    result.status = .int response.status ∧ result.fault = trip.met.outcome.fault? := by
  obtain ⟨_, _, _, _, recorded⟩ := records
  refine ⟨?_, (RequestResult.of_ofAttempt recorded).2⟩
  rw [current] at recorded
  rw [RequestResult.status_of_ofAttempt recorded, same]
  intro reported reports _
  obtain ⟨message, details, rfl, _⟩ := faithful.said
  rw [fails] at reports
  rw [← Option.some.inj reports, same]
  rfl

namespace Plan

section Records

variable [Seconds τ] {plan : Plan σ τ ω} {progress : Progress} {run last : Run σ τ ω} {trip : Trip σ τ ω}
  {trips : List (Trip σ τ ω)} {result : Except Failure (Option Answer)}

/-- What is recorded of a trip is its result. If registering it fails, it may have been recorded or not. -/
theorem register_adds (trip : Trip σ τ ω) (run : Run σ τ ω) : (plan.register trip).Ends run
    (fun _ after => ∃ result, after.context.results = run.context.results ++ [result] ∧ trip.Records result)
    (fun _ after => after.context.results = run.context.results ∨
      ∃ result, after.context.results = run.context.results ++ [result] ∧ trip.Records result) := by
  refine Act.ends_mapError.mpr (Act.ends_bind.mpr ((plan.record_ends _ _ trip.met run).mono ?_ ?_))
  · rintro result recorded ⟨time, rfl, stop, made⟩
    have records : trip.Records result := ⟨_, _, _, _, made⟩
    refine Act.ends_bind.mpr ((((plan.announceOn_follows _ trip.met.exchange).ends _).mono ?_) ?_)
    · intro _ after follows
      exact ⟨result, by rw [follows.context]; rfl, records⟩
    · intro _ after follows
      exact .inr ⟨result, by rw [follows.context]; rfl, records⟩
  · rintro _ recorded ⟨time, rfl⟩
    exact .inl rfl

/-- The results of a run are those of its trips, in their order. The last trip may be without one. -/
theorem Course.records (course : plan.Course progress run trips result last) :
    ∃ results, last.context.results = run.context.results ++ results ∧
      ∀ (index : Nat) (trip : Trip σ τ ω) result, trips[index]? = some trip →
        results[index]? = some result → trip.Records result := by
  have one : ∀ {trip : Trip σ τ ω} {result}, trip.Records result → ∀ (index : Nat) (other : Trip σ τ ω)
      another, [trip][index]? = some other → [result][index]? = some another → other.Records another := by
    intro trip result records index other another here there
    cases index with
    | zero =>
        cases here
        cases there
        exact records
    | succ index => cases here
  induction course with
  | spent => exact ⟨[], (List.append_nil _).symm, fun _ _ _ here _ => absurd here (by simp)⟩
  | @unready progress run failure after refused =>
      have follows := (plan.depart_follows progress).of_error refused
      exact ⟨[], by rw [follows.context, List.append_nil], fun _ _ _ here _ => absurd here (by simp)⟩
  | @unregistered progress run trip failure after departs refused =>
      have adds := (Act.ends_of_error refused).mp (plan.register_adds trip trip.landed)
      rw [departs.context] at adds
      obtain none | ⟨result, added, records⟩ := adds
      · exact ⟨[], by rw [none, List.append_nil], fun _ _ _ _ there => absurd there (by simp)⟩
      · exact ⟨[result], added, one records⟩
  | @ended progress run trip attempted landed result after departs registered ends stopped =>
      obtain ⟨result, added, records⟩ := (Act.ends_of_ok registered).mp (plan.register_adds trip trip.landed)
      obtain ⟨_, same, _⟩ := Run.unsent_iff.mp (plan.conclude_unsent attempted landed)
      rw [stopped] at same
      exact ⟨[result], by rw [same, added, departs.context], one records⟩
  | @again progress run trip attempted landed next after trips result last departs registered goesOn rest ih =>
      obtain ⟨result, added, records⟩ := (Act.ends_of_ok registered).mp (plan.register_adds trip trip.landed)
      obtain ⟨_, same, _⟩ := Run.unsent_iff.mp ((plan.conclude_unsent attempted).of_ok goesOn)
      obtain ⟨results, later, others⟩ := ih
      refine ⟨result :: results, ?_, fun index other another here there => ?_⟩
      · rw [later, same, added, departs.context, List.append_assoc, List.singleton_append]
      · cases index with
        | zero =>
            cases here
            cases there
            exact records
        | succ index => exact others index other another here there

end Records

section Raised

variable {plan : Plan σ Number ω} {start progress : Progress} {begun run last : Run σ Number ω}
  {trip : Trip σ Number ω} {trips : List (Trip σ Number ω)} {made : List Attempted}
  {result : Except Failure (Option Answer)} {failure : Failure}

/-- A request that cannot be prepared ends an operation in other ways than an attempt does. -/
theorem prepare_unrecorded (state : AttemptState) (fault? : Option Fault) (run : Run σ Number ω) :
    (plan.prepare state fault?).Ends run (fun _ _ => True) fun failure _ => failure.manner ≠ .recorded := by
  refine Act.ends_bind.mpr (Act.ends_attempt.mpr ?_)
  refine (Act.Yields.any _ run).mono (fun _ _ _ => trivial) fun fault unready _ => ?_
  show (plan.refuse fault? fault : Act Failure (Run σ Number ω) _).Ends unready _ _
  unfold refuse
  split
  · exact Act.ends_bind.mpr (plan.say_ends.mpr nofun)
  split
  · dsimp only [failWith, Act.Ends]
    split <;> nofun
  · nofun

/-- The attempts before the last one could be read, since the run went on after them. -/
theorem Undisturbed.lucid_of_again (undisturbed : plan.Undisturbed)
    (course : plan.Course progress run trips result last) (serves : plan.endpoints.Serves progress.state)
    (measured : run.Measured) : ∀ trip ∈ trips.dropLast, plan.Lucid trip := by
  induction course with
  | spent => exact List.forall_mem_nil _
  | unready => exact List.forall_mem_nil _
  | unregistered => exact List.forall_mem_nil _
  | ended => exact List.forall_mem_nil _
  | @again progress run trip attempted landed next after trips result last departs registered goesOn rest ih =>
      obtain ⟨lucid, serving, measuredToo⟩ := undisturbed.again departs serves measured registered goesOn
      have others := ih serving measuredToo
      cases trips with
      | nil => exact List.forall_mem_nil _
      | cons second more => exact List.forall_mem_cons.mpr ⟨lucid, others⟩

theorem Undisturbed.lucid_of_last (undisturbed : plan.Undisturbed)
    (course : plan.Course progress run trips result last) (serves : plan.endpoints.Serves progress.state)
    (measured : run.Measured) (final : trips.getLast? = some trip) (lucid : plan.Lucid trip) :
    ∀ other ∈ trips, plan.Lucid other := by
  obtain ⟨earlier, rfl⟩ := List.getLast?_eq_some_iff.mp final
  have before := undisturbed.lucid_of_again course serves measured
  rw [List.dropLast_concat] at before
  intro other member
  rcases List.mem_append.mp member with inside | same
  · exact before other inside
  · exact List.mem_singleton.mp same ▸ lucid

/-- If all attempts could be read, an operation that ends with the last of them fails with its fault. -/
theorem Undisturbed.raised (undisturbed : plan.Undisturbed)
    (course : plan.Course progress run trips (.error failure) last)
    (path : plan.Path start begun made progress run) (first : start.last = begun.lastFault)
    (fresh : run.context.results = []) (serves : plan.endpoints.Serves progress.state)
    (measured : run.Measured) (lucid : ∀ trip ∈ trips, plan.Lucid trip)
    (final : trips.getLast? = some trip) :
    failure.manner ≠ .interrupted ∧
      (failure.manner = .recorded → some failure.fault = trip.met.outcome.fault?) := by
  obtain ⟨counted, reasons⟩ := undisturbed.accounted course path first serves measured lucid
  obtain closes | ⟨_, _, _, _, _, unready⟩ := (reasons failure rfl).2
  · refine ⟨closes.uninterrupted, fun manner => ?_⟩
    obtain ⟨results, added, records⟩ := course.records
    rw [fresh, List.nil_append] at added
    rw [added, fresh, List.length_nil, Nat.zero_add] at counted
    have known : last.lastFault = some failure.fault := by
      rcases closes.reason with ⟨_, known⟩ | ⟨other, _⟩ | ⟨other, _⟩
      · exact known
      · rw [manner] at other
        contradiction
      · rw [manner] at other
        contradiction
    rw [Run.lastFault, added] at known
    obtain ⟨result, final', fault⟩ := Option.bind_eq_some_iff.mp known
    rw [List.getLast?_eq_getElem?] at final final'
    rw [counted] at final'
    obtain ⟨_, _, _, _, recorded⟩ := records _ trip result final final'
    rw [← fault, (RequestResult.of_ofAttempt recorded).2]
  · obtain ⟨_, _, _, manner, _⟩ := prepare_fails unready.2.2.1
    have unrecorded := (Act.ends_of_error unready.2.2.1).mp (prepare_unrecorded _ _ _)
    exact ⟨manner, fun recorded => absurd recorded unrecorded⟩

end Raised

end Plan

namespace Engine

open Response

variable {engine : Engine σ Number} {operation : Operation σ Number ω}
  {policy : Option (Policy σ Number)} {handlers : Handlers σ} {run : Run σ Number ω} {turns : Nat}
  {plan : Plan σ Number ω} {start : AttemptState} {trip : Trip σ Number ω} {expected : List Value}
  {response : Response} {content : List UInt8}

variable (engine operation policy handlers run turns) in
/-- What a refused response says is not lost. -/
structure StatusKept (trip : Trip σ Number ω) (response : Response) (content : List UInt8) : Prop where
  /-- The attempt fails with a fault that says the same. -/
  translated : ∃ fault, response.fault.1 = .ok fault ∧ response.Faithful content fault ∧
    trip.met.outcome = .retryable fault
  /-- The result that is recorded of the attempt has the status, and the fault of the attempt. -/
  recorded : ∀ (index : Nat) (result : RequestResult),
    (engine.trips operation policy handlers turns run)[index]? = some trip →
    (engine.execute operation policy handlers turns run).2.context.results[index]? = some result →
    result.status = .int response.status ∧ result.fault = trip.met.outcome.fault?
  /-- The operation fails with this fault if it is the last attempt that ends it. -/
  raised : (engine.trips operation policy handlers turns run).getLast? = some trip →
    ∀ failure, (engine.execute operation policy handlers turns run).1 = .error failure →
      failure.manner ≠ .interrupted ∧
        (failure.manner = .recorded → some failure.fault = trip.met.outcome.fault?)

/-- The status of a refused response is kept if and only if its code can be said and, where the operation
fails after it, everything can be read of the attempt. -/
theorem execute_keeps_status_iff (planned : engine.planFor operation policy handlers run = .ok (plan, start))
    (undisturbed : plan.Undisturbed) (standard : operation.judge = Operation.judgeStatus (Operation.accepts expected))
    (member : trip ∈ engine.trips operation policy handlers turns run)
    (judged : plan.judged? trip = some response)
    (refused : response.Refused (Operation.accepts expected) content) :
    engine.StatusKept operation policy handlers run turns trip response content ↔
      Sayable (response.errorCode content) ∧
        ((engine.trips operation policy handlers turns run).getLast? = some trip →
          ∀ failure, (engine.execute operation policy handlers turns run).1 = .error failure →
            plan.Lucid trip) := by
  have course := course_of_plan planned turns
  have serves := serves_of_plan planned
  have judges : plan.operation.judge = Operation.judgeStatus (Operation.accepts expected) := by
    obtain ⟨_, same, _⟩ := planFor_eq planned
    rw [same, standard]
  obtain ⟨progress, reached, departs, _⟩ := course.departs trip member
  obtain ⟨outcome, shown⟩ := Plan.met_of_judged judges refused.status departs judged
  have translation := fault_eq refused.body
  -- Only the first and the last of the three parts of `StatusKept` can fail: one condition for each.
  constructor
  · intro kept
    refine ⟨?_, fun final failure failed => ?_⟩
    · by_contra unsayable
      obtain ⟨fault, made, _⟩ := kept.translated
      obtain ⟨text, unsaid⟩ := fault_of_unsayable refused.headers refused.shallow unsayable
      rw [translation, unsaid] at made
      contradiction
    · exact lucid_of_uninterrupted undisturbed planned (Prod.ext failed rfl)
        (kept.raised final failure failed).1 trip member
  · rintro ⟨sayable, lucid⟩
    obtain ⟨fault, made, faithful⟩ := fault_of_sayable refused.headers refused.shallow sayable
    have fails : trip.met.outcome = .retryable fault := by
      rw [outcome, translation, made]
      rfl
    refine ⟨⟨fault, by rw [translation, made], faithful, fails⟩, ?_, ?_⟩
    · intro index result here there
      obtain ⟨results, added, records⟩ := course.records
      rw [show (opened run).context.results = [] from rfl, List.nil_append] at added
      rw [added] at there
      have status : response.fault.2.status = response.status := by
        rw [translation]
        exact response.readBody_keeps.1
      exact (records index trip result here there).status shown status fails faithful
    · intro final failure failed
      have all := undisturbed.lucid_of_last course serves (.inl rfl) final (lucid final failure failed)
      rw [failed] at course
      exact undisturbed.raised course .start rfl rfl serves (.inl rfl) all final

end Engine

namespace Repeating

open Response

/-! The operation that is repeated once, against services that refuse it. -/

/-- The operation is refused at the end. The response that is judged last has this body, and is as asked. -/
def endsRefused (replies : Nat → Reply) (turns : Nat) (content : List UInt8) (asked : Response → Bool) : Bool :=
  match (Engine.answering replies).planFor .plain (some .once) {} .plain with
  | .ok (plan, _) =>
    match ((Engine.answering replies).trips .plain (some .once) {} turns .plain).getLast? with
    | some trip => match plan.judged? trip with
      | some response => response.isRefused (Operation.accepts []) content && asked response
      | none => false
    | none => false
  | .error _ => false

variable {replies : Nat → Reply} {turns : Nat} {content : List UInt8} {asked : Response → Bool}

theorem refused_of_endsRefused (holds : endsRefused replies turns content asked = true) :
    ∃ plan start trip response,
      (Engine.answering replies).planFor .plain (some .once) {} .plain = .ok (plan, start) ∧
      ((Engine.answering replies).trips .plain (some .once) {} turns .plain).getLast? = some trip ∧
      plan.judged? trip = some response ∧ response.Refused (Operation.accepts []) content ∧
      asked response = true := by
  unfold endsRefused at holds
  split at holds
  · next plan start planned =>
    split at holds
    · next trip final =>
      split at holds
      · next response judged =>
        obtain ⟨refused, known⟩ := Bool.and_eq_true_iff.mp holds
        exact ⟨plan, start, trip, response, planned, final, judged, Response.refused_of_isRefused refused, known⟩
      · contradiction
    · contradiction
  · contradiction

/-- The body that says that there is no such object. -/
def lost : List UInt8 :=
  Text.Utf8.encode "<Error><Code>NotFound</Code></Error>".toList

/-- The object is not there. -/
def gone : Nat → Reply
  | _ => .plain 404 "36" lost none

/-- The operation fails with the fault that the response stands for. -/
theorem gone_status_kept : ∃ plan start trip response,
    (Engine.answering gone).planFor .plain (some .once) {} .plain = .ok (plan, start) ∧ plan.Undisturbed ∧
    (Operation.plain : Operation Nat Number Unit).judge = Operation.judgeStatus (Operation.accepts []) ∧
    trip ∈ (Engine.answering gone).trips .plain (some .once) {} 5 .plain ∧
    plan.judged? trip = some response ∧ response.Refused (Operation.accepts []) lost ∧
    Answer.failsIn .recorded (execute gone 5).1 = true ∧
    (Engine.answering gone).StatusKept .plain (some .once) {} .plain 5 trip response lost := by
  have ends : endsRefused gone 5 lost (fun response => decide (Sayable (response.errorCode lost))) = true := by
    decide +kernel
  have recorded : Answer.failsIn .recorded (execute gone 5).1 = true := by decide +kernel
  obtain ⟨plan, start, trip, response, planned, final, judged, refused, sayable⟩ := refused_of_endsRefused ends
  obtain ⟨failure, failed, manner⟩ := Answer.failure_of_failsIn recorded
  have member := List.mem_of_getLast? final
  have settled := undisturbed gone plan start planned
  refine ⟨plan, start, trip, response, planned, settled, rfl, member, judged, refused, recorded,
    (Engine.execute_keeps_status_iff planned settled rfl member judged refused).mpr
      ⟨of_decide_eq_true sayable, fun _ _ _ => ?_⟩⟩
  refine Engine.lucid_of_uninterrupted settled planned failed ?_ trip member
  rw [manner]
  decide

/-- This body has a number for its code. -/
def numbered : List UInt8 :=
  Text.Utf8.encode "\x7b\"odata.error\":\x7b\"code\":5\x7d\x7d".toList

/-- The error has a code that is a number. -/
def counting : Nat → Reply
  | _ => .plain 404 "26" numbered none

/-- The status of the response is lost, since its code cannot be put into the message of the fault. -/
theorem numeric_code_status_lost : ∃ plan start trip response,
    (Engine.answering counting).planFor .plain (some .once) {} .plain = .ok (plan, start) ∧ plan.Undisturbed ∧
    trip ∈ (Engine.answering counting).trips .plain (some .once) {} 5 .plain ∧
    plan.judged? trip = some response ∧ response.Refused (Operation.accepts []) numbered ∧
    ¬ (Engine.answering counting).StatusKept .plain (some .once) {} .plain 5 trip response numbered := by
  have ends : endsRefused counting 5 numbered
      (fun response => !decide (Sayable (response.errorCode numbered))) = true := by decide +kernel
  obtain ⟨plan, start, trip, response, planned, final, judged, refused, unsayable⟩ := refused_of_endsRefused ends
  have member := List.mem_of_getLast? final
  have settled := undisturbed counting plan start planned
  refine ⟨plan, start, trip, response, planned, settled, member, judged, refused, fun kept => ?_⟩
  obtain ⟨sayable, _⟩ := (Engine.execute_keeps_status_iff planned settled rfl member judged refused).mp kept
  simp [sayable] at unsayable

end Repeating

end ObjectStore
