import ObjectStore.Proofs.Engine.Hearing
import ObjectStore.Proofs.Engine.Plain
import ObjectStore.Proofs.Engine.Recording

/-! What an operation leaves behind: the requests that went out, the results of its attempts, and the
events that were heard. They agree attempt by attempt, unless the date of a response cannot be read,
whose attempt has no result. -/

namespace ObjectStore

variable {σ τ ω : Type}

/-- The location in use and the number of the attempt stay. -/
def AttemptState.placed : Frame AttemptState :=
  .same fun state => (state.location, state.retryCount)

/-- The events of an attempt with a number and a result. -/
def Trip.events (trip : Trip σ τ ω) (count : Int) (result : RequestResult) : List Event :=
  .sendingRequest count :: (if trip.reply.isOk then [.responseReceived] else []) ++
    [.requestCompleted result]

/-- The events of some attempts with their results, of which the first has a number. Between two of
them another attempt is announced, and perhaps once more after the last. -/
inductive Told : Int → List (Trip σ τ ω) → List RequestResult → List Event → Prop where
  | nothing {count} : Told count [] [] []
  | last {count trip result} : Told count [trip] [result] (trip.events count result)
  | again {count trip result context trips results events} : context.count = count →
      context.fault = trip.met.outcome.fault? → Told (count + 1) trips results events →
      Told count (trip :: trips) (result :: results)
        (trip.events count result ++ .retrying context :: events)

namespace Plan

variable [Seconds τ] {plan : Plan σ τ ω} {trip : Trip σ τ ω}

/-- An attempt is recorded and then announced to be over. If it is not recorded, nothing is heard. -/
theorem register_ends (polite : plan.Polite .requestCompleted) (trip : Trip σ τ ω) (run : Run σ τ ω) :
    (plan.register trip).Ends run
      (fun _ after => ∃ result, after.context.results = run.context.results ++ [result] ∧
        result.location = trip.met.state.location ∧ result.fault = trip.met.outcome.fault? ∧
        after.heard = run.heard ++ plan.delivered (.requestCompleted result))
      (fun failure after => failure.manner = .interrupted ∧
        after.context.results = run.context.results ∧ after.heard = run.heard) := by
  refine Act.ends_mapError.mpr (Act.ends_bind.mpr ((plan.record_ends _ _ trip.met run).mono ?_ ?_))
  · rintro result recorded ⟨time, rfl, stop, made⟩
    obtain ⟨location, fault⟩ := RequestResult.of_ofAttempt made
    obtain ⟨changed, after, announced, heard⟩ := announceOn_tells
      (.requestCompleted result) polite trip.met.exchange
      { run with context := { run.context with clientTime := time }.append result }
    have follows := (plan.announceOn_follows _ _).of_ok announced
    refine Act.ends_bind.mpr ((Act.ends_of_ok announced).mpr ?_)
    exact ⟨result, by rw [follows.context]; rfl, location, fault, heard⟩
  · rintro _ recorded ⟨time, rfl⟩
    exact ⟨rfl, rfl, rfl⟩

end Plan

namespace Plan

variable {plan : Plan σ Number ω} {trip : Trip σ Number ω} {progress : Progress}
  {run last : Run σ Number ω} {trips : List (Trip σ Number ω)}
  {result : Except Failure (Option Answer)}

theorem register_of_dated (timed : plan.Timed) (polite : plan.Polite .requestCompleted)
    (measured : run.Measured) (dated : plan.engine.Dates trip.met run) :
    ∃ attempted after, plan.register trip run = (.ok attempted, after) ∧ after.Measured := by
  obtain ⟨result, recording, recorded, _, measuredToo⟩ := record_of_dated timed measured trip.run.world
    (plan.engine.surroundings.moment trip.run.world) dated
  obtain ⟨exchange, after, announced⟩ :=
    plan.announceOn_returns (.requestCompleted result) polite trip.met.exchange recording
  have follows := (plan.announceOn_follows _ _).of_ok announced
  refine ⟨{ trip.met with exchange }, after, ?_, ?_⟩
  · rw [register, Act.mapError, report, Act.bind_of_ok recorded, Act.bind_of_ok announced]
    rfl
  · rw [Run.Measured, follows.context]
    exact measuredToo

/-- Only attempts whose date can be read are recorded. -/
theorem dated_of_register {attempted : Attempted} {after : Run σ Number ω} (timed : plan.Timed)
    (measured : run.Measured) (registered : plan.register trip run = (.ok attempted, after)) :
    plan.engine.Dates trip.met run := by
  by_contra undated
  obtain ⟨fault, recording, refused⟩ := record_of_undated timed measured trip.run.world
    (plan.engine.surroundings.moment trip.run.world) undated
  rw [register, Act.mapError, report, Act.bind_of_error refused] at registered
  cases registered

variable (plan) in
/-- A run adds one result for each trip and the events of the trips, and nothing else. -/
def Tallies (count : Int) (trips : List (Trip σ Number ω)) (run last : Run σ Number ω) : Prop :=
  ∃ results events, last.context.results = run.context.results ++ results ∧
    results.map (fun result => (result.location, result.fault)) =
      trips.map (fun trip => (trip.state.location, trip.met.outcome.fault?)) ∧
    Told count trips results events ∧ last.heard = run.heard ++ events.flatMap plan.delivered

/-- The frame of a step that is kept by the trip it is a part of. -/
theorem Departs.placed (placed : plan.operation.Within AttemptState.placed)
    (departs : plan.Departs progress run trip) :
    trip.met.state.location = trip.state.location ∧ trip.met.state.retryCount = trip.state.retryCount := by
  obtain ⟨prepared, request, timeout, announced, departed, rfl⟩ := departs
  exact Prod.mk.inj (exchanged_bounded placed.judges placed.finishes request timeout progress.state announced)

theorem Departs.measured (departs : plan.Departs progress run trip) (measured : run.Measured) :
    trip.landed.Measured := by
  rw [Run.Measured, departs.context]
  exact measured

theorem measured_of_register {attempted : Attempted} {landed : Run σ Number ω} (timed : plan.Timed)
    (polite : plan.Polite .requestCompleted) (measured : run.Measured)
    (registered : plan.register trip run = (.ok attempted, landed)) : landed.Measured := by
  obtain ⟨_, _, same, measuredToo⟩ := register_of_dated timed polite measured
    (dated_of_register timed measured registered)
  rw [registered] at same
  cases same
  exact measuredToo

/-- The time that is counted stays a number while attempts go on. -/
theorem Departs.measured_onward {attempted : Attempted} {landed after : Run σ Number ω} {next : Progress}
    (timed : plan.Timed) (polite : plan.Polite .requestCompleted) (departs : plan.Departs progress run trip)
    (measured : run.Measured) (registered : plan.register trip trip.landed = (.ok attempted, landed))
    (goesOn : plan.conclude attempted landed = (.ok (.again next), after)) : after.Measured := by
  obtain ⟨_, _, time⟩ := Run.unsent_iff.mp ((plan.conclude_unsent attempted).of_ok goesOn)
  rw [Run.Measured, time]
  exact measured_of_register timed polite (departs.measured measured) registered

section Course

variable (polite : ∀ kind, plan.Polite kind) (placed : plan.operation.Within AttemptState.placed)
include polite placed

/-- What a trip adds up to the point at which it is recorded. -/
theorem Departs.tallies {attempted : Attempted} {landed : Run σ Number ω}
    (departs : plan.Departs progress run trip)
    (registered : plan.register trip trip.landed = (.ok attempted, landed)) :
    ∃ result, landed.context.results = run.context.results ++ [result] ∧
      result.location = trip.state.location ∧ result.fault = trip.met.outcome.fault? ∧
      landed.heard = run.heard ++ (trip.events progress.state.retryCount result).flatMap plan.delivered := by
  obtain ⟨result, results, location, fault, heard⟩ :=
    (Act.ends_of_ok registered).mp (register_ends (polite _) trip trip.landed)
  refine ⟨result, results.trans (by rw [departs.context]), location.trans (departs.placed placed).1, fault, ?_⟩
  rw [heard, departs.heard (polite _) (polite _), departs.state]
  have greeted : plan.greeting trip.reply =
      (if trip.reply.isOk then [Event.responseReceived] else []).flatMap plan.delivered := by
    cases trip.reply with
    | ok response => exact (List.flatMap_singleton ..).symm
    | error fault => rfl
  rw [greeted]
  simp only [Trip.events, List.cons_append, List.flatMap_cons, List.flatMap_append, List.flatMap_nil,
    List.append_nil, List.append_assoc]

/-- The next attempt has the next number, and it was announced under the number of this one. -/
theorem Departs.again {attempted : Attempted} {landed after : Run σ Number ω} {next : Progress}
    (departs : plan.Departs progress run trip)
    (registered : plan.register trip trip.landed = (.ok attempted, landed))
    (goesOn : plan.conclude attempted landed = (.ok (.again next), after)) :
    next.state.retryCount = progress.state.retryCount + 1 ∧ after.context.results = landed.context.results ∧
      ∃ context, context.count = progress.state.retryCount ∧ context.fault = trip.met.outcome.fault? ∧
        after.heard = landed.heard ++ plan.delivered (.retrying context) := by
  obtain ⟨outcome, state⟩ := (register_yields trip).of_ok registered
  obtain ⟨_, results, _⟩ := Run.unsent_iff.mp ((plan.conclude_unsent _).of_ok goesOn)
  have count : attempted.state.retryCount = progress.state.retryCount := by
    rw [state, (departs.placed placed).2, departs.state]
  refine ⟨?_, results, ?_⟩
  · obtain ⟨fault, bench, recovered, location, _, recovery, _, rfl⟩ :=
      (plan.conclude_yields _).of_ok goesOn
    have same : recovered.retryCount = attempted.state.retryCount :=
      (Prod.mk.inj ((placed.recovers attempted.state).of_ok (Prod.ext recovery rfl))).2
    rw [← count, ← same]
    rfl
  · obtain ⟨fault, retryable, heard⟩ := heard_of_again (polite _) goesOn
    refine ⟨reported attempted fault, count, ?_, heard⟩
    rw [← outcome, retryable]
    rfl

/-- Where every date can be read, every trip is recorded and announced. -/
theorem Course.tallies (timed : plan.Timed) (course : plan.Course progress run trips result last)
    (measured : run.Measured) (dated : ∀ trip ∈ trips, plan.engine.Dates trip.met trip.landed) :
    plan.Tallies progress.state.retryCount trips run last := by
  induction course with
  | spent => exact ⟨[], [], (List.append_nil _).symm, rfl, .nothing, (List.append_nil _).symm⟩
  | @unready progress run failure after refused =>
      have heard := (Act.ends_of_error refused).mp (depart_tells (polite _) progress run)
      have follows := (plan.depart_follows progress).of_error refused
      refine ⟨[], [], ?_, rfl, .nothing, heard.trans (List.append_nil _).symm⟩
      rw [follows.context, List.append_nil]
  | @unregistered progress run trip failure after departs refused =>
      obtain ⟨attempted, recorded, registered, _⟩ := register_of_dated timed (polite _)
        (departs.measured measured) (dated trip List.mem_cons_self)
      rw [refused] at registered
      cases registered
  | @ended progress run trip attempted landed result after departs registered ends stopped =>
      obtain ⟨one, results, location, fault, heard⟩ := departs.tallies polite placed registered
      obtain ⟨_, same, _⟩ := Run.unsent_iff.mp (plan.conclude_unsent attempted landed)
      rw [stopped] at same
      have onward := heard_of_conclude (polite _) attempted landed
      rw [stopped] at onward
      obtain ⟨outcome, state⟩ := (register_yields trip).of_ok registered
      rcases onward with silent | ⟨retried, retryable, told⟩
      · exact ⟨[one], _, same.trans results, by simp [location, fault], .last, silent.trans heard⟩
      · have number : (reported attempted retried).count = progress.state.retryCount := by
          rw [reported, state, (departs.placed placed).2, departs.state]
        refine ⟨[one], _, same.trans results, by simp [location, fault],
          .again number ?_ .nothing, ?_⟩
        · rw [← outcome, retryable]
          rfl
        · rw [told, heard]
          simp
  | @again progress run trip attempted landed next after trips result last departs registered goesOn rest ih =>
      obtain ⟨one, results, location, fault, heard⟩ := departs.tallies polite placed registered
      obtain ⟨count, same, context, number, met, told⟩ := departs.again polite placed registered goesOn
      have measuredToo := departs.measured_onward timed (polite _) measured registered goesOn
      obtain ⟨others, events, recorded, agree, tells, all⟩ :=
        ih measuredToo fun trip member => dated trip (List.mem_cons_of_mem _ member)
      rw [count] at tells
      refine ⟨one :: others, _, ?_, by simp [location, fault, agree], .again number met tells, ?_⟩
      · rw [recorded, same, results, List.append_assoc, List.singleton_append]
      · rw [all, told, heard]
        simp [List.append_assoc]

/-- A trip whose date cannot be read has no result. -/
theorem Course.dated (timed : plan.Timed) (course : plan.Course progress run trips result last)
    (measured : run.Measured)
    (counted : run.context.results.length + trips.length ≤ last.context.results.length) :
    ∀ trip ∈ trips, plan.engine.Dates trip.met trip.landed := by
  induction course with
  | spent => exact List.forall_mem_nil _
  | unready => exact List.forall_mem_nil _
  | @unregistered progress run trip failure after departs refused =>
      obtain ⟨_, same, _⟩ := (Act.ends_of_error refused).mp (register_ends (polite _) trip trip.landed)
      rw [same, departs.context, List.length_singleton] at counted
      omega
  | @ended progress run trip attempted landed result after departs registered ends stopped =>
      intro other member
      obtain rfl := List.mem_singleton.mp member
      exact dated_of_register timed (departs.measured measured) registered
  | @again progress run trip attempted landed next after trips result last departs registered goesOn rest ih =>
      obtain ⟨one, results, _⟩ := departs.tallies polite placed registered
      obtain ⟨_, same, _⟩ := departs.again polite placed registered goesOn
      have countedToo : after.context.results.length + trips.length ≤ last.context.results.length := by
        rw [same, results, List.length_append, List.length_singleton]
        rw [List.length_cons] at counted
        omega
      have others := ih (departs.measured_onward timed (polite _) measured registered goesOn) countedToo
      intro other member
      rcases List.mem_cons.mp member with rfl | later
      · exact dated_of_register timed (departs.measured measured) registered
      · exact others other later

end Course

end Plan

/-- The operation does not move a request that was pointed at a location, neither by its headers nor by
its signature. -/
structure Operation.Unmoving (operation : Operation σ τ ω) : Prop where
  headed : ∀ state request bench changed, (operation.setHeaders state request bench).1 = .ok changed →
    Request.sameLocation.rel request changed
  signed : ∀ sign, operation.sign = some sign → ∀ request bench signed,
    (sign request bench).1 = .ok signed → Request.sameLocation.rel request signed

/-- A request is prepared for the location of its attempt. -/
theorem Plan.Departs.pointed [Seconds τ] {plan : Plan σ τ ω} {trip : Trip σ τ ω} {progress : Progress}
    {run : Run σ τ ω} (departs : plan.Departs progress run trip) (unmoving : plan.operation.Unmoving) :
    trip.prepared.location.map Named.known = some trip.state.location := by
  have user : (Request.addHeaders run.context.userHeaders).Keeps Request.sameLocation :=
    .change fun request => Request.setHeaders_sameLocation request _
  have signs : plan.SignedWithin Request.sameLocation :=
    Plan.signedWithin Request.sameLocation_unconcerned.indifferent unmoving.signed
  obtain ⟨changed, ⟨addressed, _, ⟨_, _, _, applied⟩, changes⟩, kept⟩ :=
    departs.completes signs Request.sameLocation_unconcerned user
  have location : trip.prepared.location = addressed.location :=
    Eq.trans kept (unmoving.headed _ _ _ _ changes)
  rw [location]
  exact (Request.applyLocation_eq applied).2

namespace Engine

/-- The requests, the results and the events of a run agree, attempt by attempt. Each request goes to
the location that its result names, unless a listener moves it, each result has the fault of its
attempt, and only the last attempt may have none. -/
structure Accord (engine : Engine σ τ) (operation : Operation σ τ ω) (handlers : Handlers σ)
    (trips : List (Trip σ τ ω)) (run ended : Run σ τ ω) : Prop where
  requests : ended.requests = run.requests ++ trips.flatMap (engine.posted operation)
  passed : ∀ trip ∈ trips, engine.Passes handlers trip.prepared trip.request
  pointed : operation.Unmoving → ∀ trip ∈ trips,
    trip.prepared.location.map Named.known = some trip.state.location
  results : ended.context.results.map (fun result => (result.location, result.fault)) =
    trips.map fun trip => (trip.state.location, trip.met.outcome.fault?)
  failed : ∀ trip ∈ trips.dropLast, trip.met.outcome.fault?.isSome
  told : ∃ events, Told operation.start.retryCount trips ended.context.results events ∧
    ended.heard = run.heard ++ events.flatMap (engine.delivered handlers)

variable {engine : Engine σ Number} {operation : Operation σ Number ω}
  {policy : Option (Policy σ Number)} {handlers : Handlers σ}

/-- The logs of an operation agree exactly if the date of every response can be read. -/
theorem execute_accord_iff (timed : ∀ world, ∃ x, engine.surroundings.clock world = Number.float x)
    (polite : ∀ kind, engine.Polite handlers kind) (placed : operation.Within AttemptState.placed)
    (turns : Nat) (run : Run σ Number ω) :
    engine.Accord operation handlers (engine.trips operation policy handlers turns run) run
        (engine.execute operation policy handlers turns run).2 ↔
      ∀ trip ∈ engine.trips operation policy handlers turns run, engine.Dates trip.met trip.landed := by
  cases planned : engine.planFor operation policy handlers run with
  | error fault =>
      rw [trips_of_refusal planned, execute_of_refusal planned]
      refine iff_of_true ?_ (List.forall_mem_nil _)
      exact ⟨(List.append_nil _).symm, List.forall_mem_nil _,
        fun _ => List.forall_mem_nil _, rfl,
        List.forall_mem_nil _, [], .nothing, (List.append_nil _).symm⟩
  | ok settled =>
      obtain ⟨plan, start⟩ := settled
      have course := course_of_plan planned turns
      obtain ⟨rfl, rfl, rfl, mode, location, _, rfl⟩ := planFor_eq planned
      have measured : (opened run).Measured := .inl rfl
      constructor
      · intro accord
        refine course.dated polite placed timed measured ?_
        have counted := congrArg List.length accord.results
        rw [List.length_map, List.length_map] at counted
        exact Nat.le_of_eq ((Nat.zero_add _).trans counted.symm)
      · intro dated
        obtain ⟨results, events, recorded, agree, told, heard⟩ :=
          course.tallies polite placed timed measured dated
        have same : (plan.engine.execute plan.operation policy plan.handlers turns run).2.context.results =
            results := recorded
        refine ⟨course.requests, fun trip member => ?_, fun unmoving trip member => ?_,
          by rw [same]; exact agree, course.failed, events, by rw [same]; exact told, heard⟩
        · obtain ⟨progress, reached, departs, _⟩ := course.departs trip member
          exact departs.passes
        · obtain ⟨progress, reached, departs, _⟩ := course.departs trip member
          exact departs.pointed unmoving

end Engine

namespace Overheard

/-! An operation that two listeners hear of, one that belongs to the client and one of its own. -/

def listener (name : String) : Listener Nat :=
  ⟨name, fun _ => pure ()⟩

def engine (replies : Nat → Reply) : Engine Nat Number :=
  { Engine.answering replies with handlers := .every (listener "client") }

def handlers : Handlers Nat :=
  .every (listener "operation")

def trips (replies : Nat → Reply) : List (Trip Nat Number Unit) :=
  (engine replies).trips .plain none handlers 2 .plain

def ended (replies : Nat → Reply) : Run Nat Number Unit :=
  ((engine replies).execute .plain none handlers 2 .plain).2

theorem timed (replies : Nat → Reply) (world : Nat) :
    ∃ x, (engine replies).surroundings.clock world = Number.float x :=
  ⟨0, rfl⟩

theorem polite (replies : Nat → Reply) (kind : Event.Kind) : (engine replies).Polite handlers kind := by
  intro listener member event run
  have silent : listener.hear event = pure () := by
    cases kind <;> rcases List.mem_append.mp member with one | one <;>
      rw [List.mem_singleton.mp one] <;> rfl
  rw [silent]
  exact ⟨(), run, rfl⟩

/-- Both attempts are recorded, and both listeners hear of both. -/
theorem once_accord : (∀ world, ∃ x, (engine Reply.busyOnce).surroundings.clock world = Number.float x) ∧
    (∀ kind, (engine Reply.busyOnce).Polite handlers kind) ∧
    (Operation.plain : Operation Nat Number Unit).Within AttemptState.placed ∧
    (engine Reply.busyOnce).Accord .plain handlers (trips Reply.busyOnce) .plain (ended Reply.busyOnce) ∧
    (trips Reply.busyOnce).length = 2 ∧ (ended Reply.busyOnce).heard.length = 14 := by
  refine ⟨timed _, polite _, Operation.plain_within _, ?_, by decide +kernel, by decide +kernel⟩
  exact (Engine.execute_accord_iff (timed _) (polite _) (Operation.plain_within _) 2 .plain).mpr
    (by decide +kernel)

/-- The date of this answer has more digits than decimals keep. -/
def overlong : Nat → Reply
  | _ => { Reply.plain 200 "0" [] none with
      headers := Fields.ofList [("Date", .text "10:100000000000000000000000000000")] }

/-- The answer arrives and is taken for a success, but no result is recorded of it. -/
theorem overlong_unrecorded : (∀ world, ∃ x, (engine overlong).surroundings.clock world = Number.float x) ∧
    (∀ kind, (engine overlong).Polite handlers kind) ∧
    (Operation.plain : Operation Nat Number Unit).Within AttemptState.placed ∧
    ¬ (engine overlong).Accord .plain handlers (trips overlong) .plain (ended overlong) := by
  refine ⟨timed _, polite _, Operation.plain_within _, fun accord => ?_⟩
  have counted := congrArg List.length accord.results
  rw [List.length_map, List.length_map] at counted
  exact absurd counted (by decide +kernel)

end Overheard

end ObjectStore
