import ObjectStore.Proofs.Location.Pinning
import ObjectStore.Proofs.Transfer.Acceptance

/-! What a download holds on to. The first response that is accepted settles the place, the conditions,
the properties and the digest, and no later attempt changes any of them. -/

namespace ObjectStore.Download

variable {σ τ ω : Type} {write : List UInt8 → Act Fault ω Unit} {effect : Effect write}
  {download : Download} {start state judged : AttemptState} {response : Response}
  {content : List UInt8}

/-- The conditions of every attempt after a response was accepted. -/
def conditionsAfter (download : Download) (response : Response) : Option AccessCondition :=
  if response.etag.truthy then some ((download.conditions.getD {}).withIfMatch response.etag)
  else download.conditions

/-- A state that holds on to nothing yet. -/
structure Fresh (state : AttemptState) : Prop where
  populated : state.populated = false
  lock : state.lock = none
  digested : state.digested = none
  located : ∃ place, state.location = .known place

/-- What a state holds on to since a response was accepted for the first time, by an attempt that began
in another state. So much content was written since then. -/
structure Held (download : Download) (start : AttemptState) (response : Response)
    (content : List UInt8) (state : AttemptState) : Prop where
  located : ∃ place, start.location = .known place
  populated : state.populated = true
  properties : Download.properties start response = .ok state.properties
  location : state.location = start.location
  mode : state.mode = .known (Mode.staying start.location)
  conditions : download.conditionsOf state = download.conditionsAfter response
  digest : download.checksWhole = true → response.resourceMd5.truthy = true →
    state.contentMd5 = response.resourceMd5 ∧ state.digested = some content

/-- The answer is what the first accepted response told, and the content has the digest it named. -/
structure Fulfils (download : Download) (start : AttemptState) (response : Response)
    (content : List UInt8) (answer : Answer) : Prop where
  properties : ∃ known, Download.properties start response = .ok known ∧ answer = .value known
  digest : download.checksWhole = true → response.resourceMd5.truthy = true →
    response.resourceMd5 = .text (Value.md5Text content)

theorem checkDigest_eq_ok {expected : Value} :
    checkDigest expected content = .ok () ↔ expected = .text (Value.md5Text content) := by
  unfold checkDigest
  dsimp only
  split
  · split <;> simp_all
  · next other => exact ⟨fun failed => absurd failed (by simp), fun same => absurd same (other _)⟩

theorem Fresh.conditions (fresh : Fresh state) : download.conditionsOf state = download.conditions := by
  rw [conditionsOf, fresh.lock]
  rfl

theorem Fresh.held (fresh : Fresh state) (accepts : download.Accepts response state judged) :
    Held download state response [] judged := by
  cases accepts with
  | later populated =>
      rw [fresh.populated] at populated
      contradiction
  | first _ captured =>
      refine ⟨fresh.located, rfl, captured, rfl, rfl, ?_, ?_⟩
      · simp only [conditionsOf, conditionsAfter, pin, fresh.lock]
        split <;> rfl
      · intro checks truthy
        simp [pin, checks, truthy]

namespace Held

theorem accepts {other : Response} (held : Held download start response content state)
    (accepts : download.Accepts other state judged) : judged = state := by
  cases accepts with
  | later _ => rfl
  | first unpopulated _ =>
      rw [held.populated] at unpopulated
      contradiction

/-- The digest runs over all that is written. -/
theorem having (held : Held download start response content state) (more : List UInt8) :
    Held download start response (content ++ more) (state.having more) where
  located := held.located
  populated := held.populated
  properties := held.properties
  location := held.location
  mode := held.mode
  conditions := held.conditions
  digest checks truthy := by
    obtain ⟨expected, digested⟩ := held.digest checks truthy
    exact ⟨expected, by rw [AttemptState.having, digested]; rfl⟩

theorem fulfils (held : Held download start response content state)
    (whole : checkWhole state = .ok ()) :
    Fulfils download start response content (.value state.properties) where
  properties := ⟨_, held.properties, rfl⟩
  digest checks truthy := by
    obtain ⟨expected, digested⟩ := held.digest checks truthy
    rw [checkWhole, digested] at whole
    rw [← expected]
    exact checkDigest_eq_ok.mp whole

end Held

section Step

variable {before after : ω × AttemptState} {outcome : Outcome} {accepted : Option Response}

/-- What an attempt brings that has ended in some way: nothing but what it has written, and a success
only after the check of the whole. -/
structure Brings (effect : Effect write) (download : Download) (start : AttemptState)
    (response : Response) (early : List UInt8) (before after : ω × AttemptState) (outcome : Outcome)
    (written : List (List UInt8)) : Prop where
  work : effect.rel written before.1 after.1
  held : Held download start response (early ++ written.flatten) after.2
  fulfils : ∀ product later, outcome = .success product →
    Fulfils download start response (early ++ written.flatten) (product.settle later)

theorem Held.brings (held : Held download start response content judged) {written : List (List UInt8)}
    (appended : Appended effect written (before.1, judged) after)
    (settles : ∀ product, outcome = .success product →
      product = .value after.2.properties ∧ checkWhole after.2 = .ok ()) :
    Brings effect download start response content before after outcome written := by
  have heldToo : Held download start response (content ++ written.flatten) after.2 := by
    rw [appended.state]
    exact held.having _
  refine ⟨appended.work, heldToo, fun product later success => ?_⟩
  obtain ⟨rfl, whole⟩ := settles product success
  exact heldToo.fulfils whole

theorem Held.outturn (held : Held download start response content before.2)
    (turnedOut : Outturn effect download before outcome accepted after) :
    ∃ written, Brings effect download start response content before after outcome written := by
  cases turnedOut with
  | refused failed =>
      refine ⟨[], effect.none _, ?_, fun product _ success => absurd success (failed product)⟩
      rw [List.flatten_nil, List.append_nil]
      exact held
  | accepted _ accepts appended settles =>
      rw [held.accepts accepts] at appended
      exact ⟨_, held.brings appended settles⟩

/-- Nothing comes of an attempt in a fresh state until it is the first to have its response accepted. -/
theorem Fresh.outturn (fresh : Fresh before.2)
    (turnedOut : Outturn effect download before outcome accepted after) :
    (accepted = none ∧ after = before ∧ ∀ product, outcome ≠ .success product) ∨
      ∃ response written, accepted = some response ∧ isAccepted response.status = true ∧
        Brings effect download before.2 response [] before after outcome written := by
  cases turnedOut with
  | refused failed => exact .inl ⟨rfl, rfl, failed⟩
  | accepted status accepts appended settles =>
      exact .inr ⟨_, _, rfl, status, (fresh.held accepts).brings appended settles⟩

end Step

/-- The state of the attempt that comes after one in a given state. -/
def onward (state : AttemptState) (location : Location) : AttemptState :=
  { (resume state).nextAttempt with location := .known location }

theorem resume_eq (state : AttemptState) :
    resume state = { state with offset := (resume state).offset, length := (resume state).length } := by
  unfold resume
  split <;> rfl

theorem Fresh.onward (fresh : Fresh state) (location : Location) : Fresh (onward state location) := by
  rw [Download.onward, resume_eq]
  exact ⟨fresh.populated, fresh.lock, fresh.digested, location, rfl⟩

theorem Fresh.at_start {plan : Plan σ τ ω} (serves : plan.Serves download write) (mode : Named Mode)
    (location : Location) :
    Fresh { plan.operation.start with mode, location := .known location } := by
  rw [serves.start]
  exact ⟨rfl, rfl, rfl, location, rfl⟩

theorem Held.onward (held : Held download start response content state) {location : Location}
    {endpoints : Endpoints} (moved : Mode.next state.mode state.location endpoints = .ok location) :
    Held download start response content (onward state location) := by
  obtain ⟨place, there⟩ := held.located
  rw [held.mode, there] at moved
  rw [Download.onward, resume_eq]
  refine ⟨⟨place, there⟩, held.populated, held.properties, ?_, held.mode, held.conditions, held.digest⟩
  rw [there, Endpoints.next_staying moved]

/-- A run that stops after a trip. -/
structure Stops (trip : Trip σ τ ω) (result : Except Failure (Option Answer)) (last : Run σ τ ω) :
    Prop where
  work : last.work = trip.landed.work
  success : ∀ answer, result = .ok (some answer) →
    ∃ product later, trip.met.outcome = .success product ∧ answer = product.settle later

theorem Brings.stopped {early : List UInt8} {written : List (List UInt8)} {trip : Trip σ τ ω}
    {run last : Run σ τ ω} {result : Except Failure (Option Answer)}
    (brings : Brings effect download start response early (run.work, state)
      (trip.landed.work, trip.met.state) trip.met.outcome written) (stops : Stops trip result last) :
    effect.rel written run.work last.work ∧ ∀ answer, result = .ok (some answer) →
      Fulfils download start response (early ++ written.flatten) answer := by
  refine ⟨stops.work ▸ brings.work, fun answer answered => ?_⟩
  obtain ⟨product, later, success, rfl⟩ := stops.success answer answered
  exact brings.fulfils product later success

/-- The attempts of a download, split at the first one to have its response accepted. -/
structure Split (download : Download) (trips early : List (Trip σ τ ω)) (first : Trip σ τ ω)
    (response : Response) (late : List (Trip σ τ ω)) : Prop where
  trips : trips = early ++ first :: late
  early : ∀ trip ∈ early, trip.accepted = none ∧ Fresh trip.state
  fresh : Fresh first.state
  accepted : first.accepted = some response
  status : isAccepted response.status = true
  late : ∀ trip ∈ late, ∃ content, Held download first.state response content trip.state

/-- What a download comes to. Either no response is accepted, nothing is written and there is no answer,
or all goes by the first response that was accepted. -/
inductive Served (effect : Effect write) (download : Download) (trips : List (Trip σ τ ω))
    (run last : Run σ τ ω) (result : Except Failure (Option Answer)) : Prop where
  | never : (∀ trip ∈ trips, trip.accepted = none ∧ Fresh trip.state) →
      effect.rel [] run.work last.work → (∀ answer, result ≠ .ok (some answer)) →
      Served effect download trips run last result
  | once {early first response late written} : download.Split trips early first response late →
      effect.rel written run.work last.work →
      (∀ answer, result = .ok (some answer) →
        Fulfils download first.state response written.flatten answer) →
      Served effect download trips run last result

section Course

variable [Seconds τ] {plan : Plan σ τ ω} (serves : plan.Serves download write) {progress : Progress}
  {run last : Run σ τ ω} {trip : Trip σ τ ω} {trips : List (Trip σ τ ω)}
  {result : Except Failure (Option Answer)}
include serves

theorem depart_still (progress : Progress) : (plan.depart progress).Keeps Run.still := by
  refine .bind (plan.check_keeps plan.say_still _) fun _ => .bind (prepare_still serves _ _) fun prepared => ?_
  refine .bind (.of_ends fun run => ?_) fun _ => .pure _
  refine (plan.announceRequest_ends (plan.bounded_any _) prepared.1 progress.state run).mono ?_ ?_
  · rintro _ _ ⟨_, _, kept⟩
    exact kept.1.still
  · rintro _ _ ⟨_, kept⟩
    exact kept.1.still

theorem still_of_departs (departs : plan.Departs progress run trip) : Run.still.rel run trip.run := by
  obtain ⟨prepared, request, timeout, announced, departed, rfl⟩ := departs
  exact (depart_still serves progress).of_ok departed

/-- What a trip comes to, counted from the turn that set out on it. -/
theorem turns_out (effect : Effect write) (departs : plan.Departs progress run trip) :
    Outturn effect download (run.work, progress.state) trip.met.outcome trip.accepted
      (trip.landed.work, trip.met.state) := by
  have turnedOut := outturn_of_departs serves effect departs
  rwa [departs.state, (Run.still_iff.mp (still_of_departs serves departs)).1] at turnedOut

omit serves in
theorem stops_of_unregistered {failure : Failure}
    (refused : plan.register trip trip.landed = (.error failure, last)) :
    Stops trip (.error failure) last where
  work := (Run.still_iff.mp ((Plan.register_still trip).of_error refused)).1
  success := nofun

theorem stops_of_ended {attempted : Attempted} {landed : Run σ τ ω}
    (registered : plan.register trip trip.landed = (.ok attempted, landed))
    (ends : Turn.ending (plan.conclude attempted landed).1 = some result)
    (stopped : (plan.conclude attempted landed).2 = last) : Stops trip result last := by
  have same := (Plan.register_yields trip).of_ok registered
  have early := Run.still_iff.mp ((Plan.register_still trip).of_ok registered)
  have late := Run.still_iff.mp (conclude_still serves attempted landed)
  refine ⟨by rw [← stopped, late.1, early.1], fun answer answered => ?_⟩
  subst answered
  obtain ⟨product, response, success, settled⟩ :=
    (plan.conclude_yields attempted).of_ok (Prod.ext (Turn.done_of_ending ends) rfl)
  exact ⟨product, response, same.1 ▸ success, settled⟩

/-- After a trip that goes on, the next attempt starts from where the download stands then. -/
theorem onward_of_again {attempted : Attempted} {landed after : Run σ τ ω} {next : Progress}
    (registered : plan.register trip trip.landed = (.ok attempted, landed))
    (goesOn : plan.conclude attempted landed = (.ok (.again next), after)) :
    after.work = trip.landed.work ∧ ∃ location,
      Mode.next trip.met.state.mode trip.met.state.location plan.endpoints = .ok location ∧
      next.state = onward trip.met.state location := by
  have early := Run.still_iff.mp ((Plan.register_still trip).of_ok registered)
  have late := Run.still_iff.mp ((conclude_still serves attempted).of_ok goesOn)
  refine ⟨by rw [late.1, early.1], ?_⟩
  obtain ⟨fault, bench, recovered, location, _, recovery, moved, rfl⟩ :=
    (plan.conclude_yields attempted).of_ok goesOn
  rw [serves.recover] at recovery
  obtain rfl := recover_eq recovery
  rw [← ((Plan.register_yields trip).of_ok registered).2]
  rw [resume_eq] at moved
  exact ⟨location, moved, rfl⟩

/-- Once a response was accepted, all later attempts hold on to it, and an answer is what it told. -/
theorem course_of_held (effect : Effect write) (course : plan.Course progress run trips result last)
    (held : Held download start response content progress.state) :
    (∀ trip ∈ trips, ∃ content, Held download start response content trip.state) ∧
      ∃ written, effect.rel written run.work last.work ∧ ∀ answer, result = .ok (some answer) →
        Fulfils download start response (content ++ written.flatten) answer := by
  have one : ∀ {progress : Progress} {run : Run σ τ ω} {trip content}, plan.Departs progress run trip →
      Held download start response content progress.state →
      ∀ other ∈ [trip], ∃ content, Held download start response content other.state :=
    fun departs held => List.forall_mem_singleton.mpr ⟨_, departs.state ▸ held⟩
  induction course generalizing content with
  | spent =>
      exact ⟨List.forall_mem_nil _, [], effect.none _, nofun⟩
  | @unready progress run failure after refused =>
      refine ⟨List.forall_mem_nil _, [], ?_, nofun⟩
      rw [(Run.still_iff.mp ((depart_still serves progress).of_error refused)).1]
      exact effect.none _
  | unregistered departs refused =>
      obtain ⟨written, brings⟩ := held.outturn (turns_out serves effect departs)
      exact ⟨one departs held, written, brings.stopped (stops_of_unregistered refused)⟩
  | ended departs registered ends stopped =>
      obtain ⟨written, brings⟩ := held.outturn (turns_out serves effect departs)
      exact ⟨one departs held, written, brings.stopped (stops_of_ended serves registered ends stopped)⟩
  | again departs registered goesOn rest ih =>
      obtain ⟨early, brings⟩ := held.outturn (turns_out serves effect departs)
      obtain ⟨work, location, moved, next⟩ := onward_of_again serves registered goesOn
      obtain ⟨others, late, wrote, fulfils⟩ := ih (next ▸ brings.held.onward moved)
      refine ⟨List.forall_mem_cons.mpr ⟨one departs held _ List.mem_cons_self, others⟩, early ++ late,
        effect.append brings.work (work ▸ wrote), fun answer answered => ?_⟩
      rw [List.flatten_append, ← List.append_assoc]
      exact fulfils answer answered

/-- An attempt that stops a run in a fresh state is the first to have its response accepted, or nothing
comes of it. -/
theorem served_of_stops (effect : Effect write) (departs : plan.Departs progress run trip)
    (fresh : Fresh progress.state) (stops : Stops trip result last) :
    Served effect download [trip] run last result := by
  have freshToo : Fresh trip.state := departs.state ▸ fresh
  obtain ⟨refused, same, failed⟩ | ⟨response, written, accepted, status, brings⟩ :=
    fresh.outturn (turns_out serves effect departs)
  · refine .never (List.forall_mem_singleton.mpr ⟨refused, freshToo⟩) ?_ fun answer answered => ?_
    · rw [stops.work, show trip.landed.work = run.work from congrArg Prod.fst same]
      exact effect.none _
    · obtain ⟨product, _, success, _⟩ := stops.success answer answered
      exact failed product success
  · obtain ⟨wrote, fulfils⟩ := brings.stopped stops
    rw [← departs.state] at fulfils
    have split : download.Split [trip] [] trip response [] :=
      ⟨rfl, List.forall_mem_nil _, freshToo, accepted, status, List.forall_mem_nil _⟩
    exact .once split wrote fulfils

omit serves [Seconds τ] in
/-- An attempt of which nothing comes may come before. -/
theorem Served.cons {after : Run σ τ ω} (served : Served effect download trips after last result)
    (refused : trip.accepted = none) (fresh : Fresh trip.state) (same : after.work = run.work) :
    Served effect download (trip :: trips) run last result := by
  have unserved : trip.accepted = none ∧ Fresh trip.state := ⟨refused, fresh⟩
  cases served with
  | never none wrote unanswered =>
      exact .never (List.forall_mem_cons.mpr ⟨unserved, none⟩) (same ▸ wrote) unanswered
  | @once early first response late written split wrote fulfils =>
      have splitToo : download.Split (trip :: trips) (trip :: early) first response late :=
        { split with
          trips := by rw [split.trips, List.cons_append]
          early := List.forall_mem_cons.mpr ⟨unserved, split.early⟩ }
      exact .once splitToo (same ▸ wrote) fulfils

/-- The induction up to the first acceptance. Until then every attempt starts in a fresh state. -/
theorem course_of_fresh (effect : Effect write) (course : plan.Course progress run trips result last)
    (fresh : Fresh progress.state) : Served effect download trips run last result := by
  induction course with
  | spent => exact .never (List.forall_mem_nil _) (effect.none _) nofun
  | @unready progress run failure after refused =>
      refine .never (List.forall_mem_nil _) ?_ nofun
      rw [(Run.still_iff.mp ((depart_still serves progress).of_error refused)).1]
      exact effect.none _
  | unregistered departs refused =>
      exact served_of_stops serves effect departs fresh (stops_of_unregistered refused)
  | ended departs registered ends stopped =>
      exact served_of_stops serves effect departs fresh (stops_of_ended serves registered ends stopped)
  | @again progress run trip attempted landed next after trips result last departs registered goesOn rest ih =>
      have freshToo : Fresh trip.state := departs.state ▸ fresh
      obtain ⟨work, location, moved, onwards⟩ := onward_of_again serves registered goesOn
      obtain ⟨refused, same, _⟩ | ⟨response, early, accepted, status, brings⟩ :=
        fresh.outturn (turns_out serves effect departs)
      · obtain ⟨sameWork, sameState⟩ := Prod.mk.inj same
        have served := ih (onwards ▸ sameState ▸ fresh.onward location)
        exact served.cons refused freshToo (work.trans sameWork)
      · obtain ⟨others, late, wrote, fulfils⟩ :=
          course_of_held serves effect rest (onwards ▸ brings.held.onward moved)
        rw [← departs.state] at others fulfils
        have split : download.Split (trip :: trips) [] trip response trips :=
          ⟨rfl, List.forall_mem_nil _, freshToo, accepted, status, others⟩
        refine .once split (effect.append brings.work (work ▸ wrote)) fun answer answered => ?_
        rw [List.flatten_append]
        exact fulfils answer answered

end Course

section Operation

variable [Seconds τ] {engine : Engine σ τ} {operation : Operation σ τ ω} {handlers : Handlers σ}
  {options : Options τ (Policy σ τ)} {endpoints : Option Endpoints} {run : Run σ τ ω}

/-- The same of whole operations, for any policy and any number of attempts. -/
theorem execute_served (effect : Effect write) (policy : Option (Policy σ τ))
    (made : download.operation write options endpoints = .ok operation) (turns : Nat) :
    Served effect download (engine.trips operation policy handlers turns run) run
      (engine.execute operation policy handlers turns run).2
      (engine.execute operation policy handlers turns run).1 := by
  cases planned : engine.planFor operation policy handlers run with
  | error fault =>
      rw [Engine.trips_of_refusal planned, Engine.execute_of_refusal planned]
      exact .never (List.forall_mem_nil _) (effect.none _) nofun
  | ok settled =>
      obtain ⟨plan, start⟩ := settled
      have course := Engine.course_of_plan planned turns
      obtain ⟨rfl, rfl, rfl, mode, location, _, rfl⟩ := Engine.planFor_eq planned
      have serves := Plan.serves_of_operation made
      have served := course_of_fresh serves effect course (.at_start serves mode location)
      -- Opening a run leaves its work alone, so that what was written is counted from the run as given.
      cases served with
      | never none wrote unanswered => exact .never none wrote unanswered
      | once split wrote fulfils => exact .once split wrote fulfils

end Operation

end ObjectStore.Download
