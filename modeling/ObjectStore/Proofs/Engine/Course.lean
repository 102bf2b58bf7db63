import ObjectStore.Proofs.Engine.Results

/-! The attempts that a run hands over to the network, in their order. A run takes a course of them,
which goes on with another attempt as long as it is told to, and stops in one of few ways. -/

namespace ObjectStore

variable {σ τ ω : Type}

/-- An attempt whose request was handed over to the network. -/
structure Trip (σ τ ω : Type) where
  /-- What the attempt started from. -/
  state : AttemptState
  /-- The request before anybody heard of it. -/
  prepared : Request
  /-- The request as it was handed over. -/
  request : Request
  timeout : Timeout τ
  /-- The run as it was when the request was handed over. -/
  run : Run σ τ ω
  /-- The response, or why there is none. -/
  reply : Except Fault Response
  /-- The response that the operation judged a success, if it did. -/
  accepted : Option Response
  met : Attempted
  /-- The run as it was when the response had been dealt with. -/
  landed : Run σ τ ω

/-- What goes out for an attempt: one request, or none if nothing can be made of it. -/
def Engine.posted (engine : Engine σ τ) (operation : Operation σ τ ω) (trip : Trip σ τ ω) :
    List (Outgoing τ) :=
  (engine.client.connection.outgoing trip.request trip.timeout operation.streamed).toOption.toList

theorem Engine.mem_posted {engine : Engine σ τ} {operation : Operation σ τ ω} {trip : Trip σ τ ω}
    {outgoing : Outgoing τ} : outgoing ∈ engine.posted operation trip ↔
      engine.client.connection.outgoing trip.request trip.timeout operation.streamed = .ok outgoing := by
  unfold posted
  cases engine.client.connection.outgoing trip.request trip.timeout operation.streamed <;>
    simp [Except.toOption, eq_comm]

/-- A request is sent as it was prepared but for what its listeners do to it: what all of them leave
alone is the same. -/
def Engine.Passes (engine : Engine σ τ) (handlers : Handlers σ) (prepared sent : Request) : Prop :=
  ∀ kept : Frame Request, engine.Bounded handlers (kept.within fun seen => seen.2.request) .sendingRequest →
    kept.rel prepared sent

namespace Plan

variable (plan : Plan σ τ ω)

abbrev posted (trip : Trip σ τ ω) : List (Outgoing τ) :=
  plan.engine.posted plan.operation trip

/-- An exchange up to where the response is judged. -/
def meet (timeout : Timeout τ) : Act Fault (Sending σ τ ω) Unit := do
  let response ← onRun (plan.transmit (← Act.read).exchange.request timeout)
  Act.change fun sending =>
    { sending with exchange := { sending.exchange with response := some response } }
  plan.greet
  match (← Act.read).exchange.response with
  | some response => onRun (plan.say (receivedLine response))
  | none => pure ()

theorem exchange_eq (timeout : Timeout τ) :
    plan.exchange timeout = plan.meet timeout >>= fun _ => plan.deal := by
  simp only [exchange, meet, Act.bind_assoc]
  congr 1
  funext sending
  congr 1
  funext response
  congr 1
  funext _
  congr 1
  funext _
  congr 1
  funext greeted
  cases greeted.exchange.response <;> rfl

def accepted? (sending : Sending σ τ ω) : Option Response :=
  match plan.handleCurrent plan.operation.judge sending with
  | (.ok (.success _), _) => sending.exchange.response
  | _ => none

def trip (state : AttemptState) (prepared request : Request) (timeout : Timeout τ) (run : Run σ τ ω) :
    Trip σ τ ω where
  state
  prepared
  request
  timeout
  run
  reply := (plan.transmit request timeout run).1
  accepted :=
    match plan.meet timeout ⟨run, state, ⟨request, none⟩⟩ with
    | (.ok _, sending) => plan.accepted? sending
    | _ => none
  met := (plan.exchanged request timeout state run).1
  landed := (plan.exchanged request timeout state run).2

variable [Seconds τ]

/-- A turn up to where its request is handed over, with the request as it was prepared. -/
def depart (progress : Progress) : Act Failure (Run σ τ ω) (Request × Request × Timeout τ) := do
  plan.check progress.last
  let (prepared, timeout) ← plan.prepare progress.state progress.last
  let request ← plan.announceRequest prepared progress.state
  return (prepared, request, timeout)

/-- An attempt is recorded and announced after its trip. -/
def register (trip : Trip σ τ ω) : Act Failure (Run σ τ ω) Attempted :=
  (plan.report (plan.engine.surroundings.clock trip.run.world)
    (plan.engine.surroundings.moment trip.run.world) trip.met).mapError interruption

/-- A turn sets out on a trip. -/
def Departs (progress : Progress) (run : Run σ τ ω) (trip : Trip σ τ ω) : Prop :=
  ∃ prepared request timeout announced,
    plan.depart progress run = (.ok (prepared, request, timeout), announced) ∧
    trip = plan.trip progress.state prepared request timeout announced

/-- The trips of a run with so many turns. -/
def trips : Nat → Progress → Run σ τ ω → List (Trip σ τ ω)
  | 0, _, _ => []
  | turns + 1, progress, run =>
    match plan.depart progress run with
    | (.error _, _) => []
    | (.ok (prepared, request, timeout), announced) =>
      plan.trip progress.state prepared request timeout announced ::
        match plan.turn progress run with
        | (.ok (.again next), after) => trips turns next after
        | _ => []

/-- What comes of a run and the trips it makes on its way. -/
inductive Course (plan : Plan σ τ ω) :
    Progress → Run σ τ ω → List (Trip σ τ ω) → Except Failure (Option Answer) → Run σ τ ω → Prop where
  /-- No more turns are allowed. -/
  | spent {progress run} : Course plan progress run [] (.ok none) run
  /-- The next request is not handed over. -/
  | unready {progress run failure after} : plan.depart progress run = (.error failure, after) →
      Course plan progress run [] (.error failure) after
  /-- The trip is not recorded, or a listener did not want to hear of it. -/
  | unregistered {progress run trip failure after} : plan.Departs progress run trip →
      plan.register trip trip.landed = (.error failure, after) →
      Course plan progress run [trip] (.error failure) after
  | ended {progress run trip attempted landed result after} : plan.Departs progress run trip →
      plan.register trip trip.landed = (.ok attempted, landed) →
      Turn.ending (plan.conclude attempted landed).1 = some result →
      (plan.conclude attempted landed).2 = after → Course plan progress run [trip] result after
  | again {progress run trip attempted landed next after trips result last} :
      plan.Departs progress run trip →
      plan.register trip trip.landed = (.ok attempted, landed) →
      plan.conclude attempted landed = (.ok (.again next), after) →
      Course plan next after trips result last →
      Course plan progress run (trip :: trips) result last

variable {plan} {progress : Progress} {run after last : Run σ τ ω} {trip : Trip σ τ ω}
  {trips : List (Trip σ τ ω)} {result : Except Failure (Option Answer)}

theorem launch_eq (progress : Progress) : plan.launch progress = (do
    let (_, request, timeout) ← plan.depart progress
    (plan.attempt request timeout progress.state).mapError interruption) := by
  simp only [launch, depart, Act.bind_assoc]
  rfl

theorem launch_of_departs (departs : plan.Departs progress run trip) :
    plan.launch progress run = plan.register trip trip.landed := by
  obtain ⟨prepared, request, timeout, announced, departed, rfl⟩ := departs
  rw [launch_eq, Act.bind_of_ok departed]
  unfold register
  simp only [Act.mapError]
  have went : plan.exchanged request timeout progress.state announced =
      ((plan.trip progress.state prepared request timeout announced).met,
        (plan.trip progress.state prepared request timeout announced).landed) := rfl
  rw [plan.attempt_eq went]
  rfl

/-- If a request cannot be prepared for want of a proper argument, nothing sets out. -/
theorem depart_of_unprepared {checked prepared : Run σ τ ω} {fault : Fault}
    (checks : plan.check progress.last run = (.ok (), checked))
    (unprepared : plan.prepared progress.state checked = (.error fault, prepared))
    (argument : fault.kind.isArgument = true) :
    ∃ after, plan.depart progress run = (.error ⟨fault, .unprepared, none⟩, after) := by
  obtain ⟨ended, refused⟩ := prepare_of_argument unprepared argument progress.last
  exact ⟨ended, by rw [depart, Act.bind_of_ok checks, Act.bind_of_error refused]⟩

theorem turn_of_refused {failure : Failure} (refused : plan.depart progress run = (.error failure, after)) :
    plan.turn progress run = (.error failure, after) := by
  rw [turn_eq, launch_eq, Act.bind_assoc, Act.bind_of_error refused]

theorem turn_of_unregistered {failure : Failure} (departs : plan.Departs progress run trip)
    (refused : plan.register trip trip.landed = (.error failure, after)) :
    plan.turn progress run = (.error failure, after) := by
  rw [turn_eq, Act.bind_of_error ((launch_of_departs departs).trans refused)]

theorem turn_of_registered {attempted : Attempted} {landed : Run σ τ ω}
    (departs : plan.Departs progress run trip)
    (registered : plan.register trip trip.landed = (.ok attempted, landed)) :
    plan.turn progress run = plan.conclude attempted landed :=
  turn_of_conclude ((launch_of_departs departs).trans registered)

theorem run_succ_of_failure {failure : Failure} (turned : plan.turn progress run = (.error failure, after))
    (turns : Nat) : plan.run (turns + 1) progress run = (.error failure, after) := by
  have ending : Turn.ending (plan.turn progress run).1 = some (.error failure) := by
    rw [turned]
    rfl
  rw [run_succ_of_ending ending, turned]

section Trips

variable (turns : Nat)

theorem trips_succ_of_refused {failure : Failure}
    (refused : plan.depart progress run = (.error failure, after)) :
    plan.trips (turns + 1) progress run = [] := by
  rw [Plan.trips, refused]

theorem trips_succ_of_ending (departs : plan.Departs progress run trip)
    (ends : Turn.ending (plan.turn progress run).1 = some result) :
    plan.trips (turns + 1) progress run = [trip] := by
  obtain ⟨prepared, request, timeout, announced, departed, rfl⟩ := departs
  simp only [Plan.trips, departed]
  split
  · next again =>
    rw [again] at ends
    contradiction
  · rfl

theorem trips_succ_of_again {next : Progress} (departs : plan.Departs progress run trip)
    (turned : plan.turn progress run = (.ok (.again next), after)) :
    plan.trips (turns + 1) progress run = trip :: plan.trips turns next after := by
  obtain ⟨prepared, request, timeout, announced, departed, rfl⟩ := departs
  simp only [Plan.trips, departed, turned]

end Trips

/-- Every run takes the course of its trips. -/
theorem course_of_run (turns : Nat) (progress : Progress) (run : Run σ τ ω) :
    plan.Course progress run (plan.trips turns progress run) (plan.run turns progress run).1
      (plan.run turns progress run).2 := by
  induction turns generalizing progress run with
  | zero => exact .spent
  | succ turns ih =>
      cases departed : plan.depart progress run with
      | mk request announced =>
      cases request with
      | error failure =>
          rw [run_succ_of_failure (turn_of_refused departed), trips_succ_of_refused turns departed]
          exact .unready departed
      | ok request =>
      have departs : plan.Departs progress run
          (plan.trip progress.state request.1 request.2.1 request.2.2 announced) :=
        ⟨_, _, _, _, departed, rfl⟩
      generalize plan.trip progress.state request.1 request.2.1 request.2.2 announced = trip at departs
      cases registered : plan.register trip trip.landed with
      | mk attempted landed =>
      cases attempted with
      | error failure =>
          have turned := turn_of_unregistered departs registered
          have ends : Turn.ending (plan.turn progress run).1 = some (.error failure) := by
            rw [turned]
            rfl
          rw [run_succ_of_failure turned, trips_succ_of_ending turns departs ends]
          exact .unregistered departs registered
      | ok attempted =>
      have turned := turn_of_registered departs registered
      cases ends : Turn.ending (plan.turn progress run).1 with
      | some result =>
          rw [run_succ_of_ending ends, trips_succ_of_ending turns departs ends]
          exact .ended departs registered (turned ▸ ends) (by rw [turned])
      | none =>
          obtain ⟨next, again⟩ := Turn.again_of_ending ends
          have goesOn : plan.turn progress run = (.ok (.again next), (plan.turn progress run).2) :=
            Prod.ext again rfl
          rw [run_succ_of_again goesOn, trips_succ_of_again turns departs goesOn]
          exact .again departs registered (turned.symm.trans goesOn) (ih _ _)

theorem depart_follows (progress : Progress) : (plan.depart progress).Keeps Run.follows := by
  refine .bind (plan.check_keeps plan.say_follows _) fun _ => ?_
  refine .bind (plan.prepare_follows _ _) fun prepared => ?_
  exact .bind (plan.announceRequest_follows _ _) fun _ => .pure _

section Completion

variable {inner : Frame Request} (signs : plan.SignedWithin inner)
include signs

theorem depart_composes (indifferent : Request.Indifferent inner) (progress : Progress)
    (run : Run σ τ ω) : (plan.depart progress).Ends run
      (fun handed _ => ∃ headed request, plan.Composed run.work progress.state headed ∧
        plan.Completes run.context headed request ∧ inner.rel request handed.1) fun _ _ => True := by
  have checks : (plan.check progress.last).Keeps (Run.aside (.any σ)) := plan.check_keeps plan.say_keeps _
  refine .bind ((checks.ends run).imp fun _ _ kept => kept) fun _ checked aside => ?_
  refine .bind (plan.prepare_ends (prepared_composes indifferent signs _ checked) _) ?_
  rintro prepared after composed
  rw [aside.work, aside.context] at composed
  have announces : (plan.announceRequest prepared.1 progress.state >>= fun request =>
      pure (prepared.1, request, prepared.2)).Yields fun handed =>
        ∃ headed request, plan.Composed run.work progress.state headed ∧
          plan.Completes run.context headed request ∧ inner.rel request handed.1 :=
    .after fun _ => .pure composed
  exact announces after

/-- What is prepared for an attempt is composed from what the operation works on, and completed. -/
theorem Departs.composes (departs : plan.Departs progress run trip)
    (indifferent : Request.Indifferent inner) :
    ∃ headed request, plan.Composed run.work trip.state headed ∧
      plan.Completes run.context headed request ∧ inner.rel request trip.prepared := by
  obtain ⟨prepared, request, timeout, announced, departed, rfl⟩ := departs
  exact (Act.ends_of_ok departed).mp (depart_composes signs indifferent progress run)

/-- It is the request that got the headers of its operation, as far as a frame counts that neither
completion nor the user and the signature touch. -/
theorem Departs.completes (unconcerned : Request.Unconcerned inner)
    (departs : plan.Departs progress run trip)
    (user : (Request.addHeaders run.context.userHeaders).Keeps inner) :
    ∃ headed, plan.Headed trip.state headed ∧ inner.rel headed trip.prepared := by
  obtain ⟨headed, request, composed, completes, kept⟩ :=
    departs.composes signs unconcerned.indifferent
  exact ⟨headed, composed.headed, inner.trans (completes.keeps unconcerned user) kept⟩

end Completion

omit [Seconds τ] in
theorem announceRequest_passes (request : Request) (state : AttemptState) :
    (plan.announceRequest request state).Yields fun sent =>
      plan.engine.Passes plan.handlers request sent := by
  intro run
  cases announced : plan.announceRequest request state run with
  | mk result after =>
  cases result with
  | error failure => exact (Act.ends_of_error announced).mpr trivial
  | ok sent =>
      refine (Act.ends_of_ok announced).mpr fun kept bounded => ?_
      obtain ⟨exchange, rfl, _, stays⟩ :=
        (Act.ends_of_ok announced).mp (plan.announceRequest_ends bounded request state run)
      exact stays

theorem depart_passes (progress : Progress) : (plan.depart progress).Yields fun handed =>
    plan.engine.Passes plan.handlers handed.1 handed.2.1 :=
  .after fun _ => .after fun _ => (announceRequest_passes _ _).bind fun _ passes => .pure passes

theorem Departs.passes (departs : plan.Departs progress run trip) :
    plan.engine.Passes plan.handlers trip.prepared trip.request := by
  obtain ⟨prepared, request, timeout, announced, departed, rfl⟩ := departs
  exact (depart_passes progress).of_ok departed

/-- A trip begins where preparation and the listeners left the run. -/
theorem Departs.follows (departs : plan.Departs progress run trip) : Run.Follows run trip.run := by
  obtain ⟨prepared, request, timeout, announced, departed, rfl⟩ := departs
  exact (plan.depart_follows progress).of_ok departed

theorem Departs.state (departs : plan.Departs progress run trip) : trip.state = progress.state := by
  obtain ⟨prepared, request, timeout, announced, departed, rfl⟩ := departs
  rfl

theorem Departs.sent (departs : plan.Departs progress run trip) :
    plan.Sent trip.request trip.timeout trip.run trip.landed := by
  obtain ⟨prepared, request, timeout, announced, departed, rfl⟩ := departs
  exact plan.exchanged_sent request timeout progress.state announced

theorem Departs.requests (departs : plan.Departs progress run trip) :
    trip.landed.requests = run.requests ++ plan.posted trip := by
  rw [← departs.follows.requests]
  obtain ⟨⟨fault, refused⟩, none⟩ | ⟨outgoing, made, one⟩ := departs.sent.requests
  · rw [Plan.outgoing] at refused
    rw [none, posted, Engine.posted, refused]
    exact (List.append_nil _).symm
  · rw [Plan.outgoing] at made
    rw [one, posted, Engine.posted, made]
    rfl

theorem Departs.context (departs : plan.Departs progress run trip) :
    trip.landed.context = run.context :=
  departs.sent.context.trans departs.follows.context

theorem register_still (trip : Trip σ τ ω) : (plan.register trip).Keeps Run.still := by
  refine .mapError _ (.of_ends fun run => ?_)
  refine Act.ends_bind.mpr ((plan.record_ends _ _ _ run).mono ?_ ?_)
  · rintro result recorded ⟨time, rfl, _⟩
    have free : plan.Bounded ((Frame.any σ).within Prod.fst) .requestCompleted := fun _ _ _ _ => trivial
    have announces := (plan.announceOn_keeps (.requestCompleted result) free trip.met.exchange).ends
      { run with context := { run.context with clientTime := time }.append result }
    exact Act.ends_bind.mpr (announces.mono (fun _ _ aside => aside.still) fun _ _ aside => aside.still)
  · rintro _ recorded ⟨time, rfl⟩
    rfl

/-- What an attempt was when it came back is what it is when it is registered, but for what the
listeners change. -/
theorem register_yields (trip : Trip σ τ ω) : (plan.register trip).Yields fun attempted =>
    attempted.outcome = trip.met.outcome ∧ attempted.state = trip.met.state :=
  .mapError (.after fun _ => .after fun _ => .pure ⟨rfl, rfl⟩) _

/-- A turn sets out on a trip, and another turn follows. -/
def Leads (plan : Plan σ τ ω) (progress : Progress) (run : Run σ τ ω) (next : Progress)
    (after : Run σ τ ω) : Prop :=
  ∃ trip attempted landed, plan.Departs progress run trip ∧
    plan.register trip trip.landed = (.ok attempted, landed) ∧
    plan.conclude attempted landed = (.ok (.again next), after)

theorem Leads.settings {next : Progress} (leads : plan.Leads progress run next after) :
    after.context.settings = run.context.settings := by
  obtain ⟨trip, attempted, landed, departs, made, goesOn⟩ := leads
  have launched : landed.context.standing = run.context.standing :=
    (plan.launch_standing progress).of_ok ((launch_of_departs departs).trans made)
  have concluded : after.context.settings = landed.context.settings :=
    (plan.conclude_settings attempted).of_ok goesOn
  exact concluded.trans (Prod.mk.inj launched).1

theorem Leads.user {next : Progress} (leads : plan.Leads progress run next after) :
    after.context.userHeaders = run.context.userHeaders :=
  congrArg (·.2.1) leads.settings

theorem Leads.token {next : Progress} (leads : plan.Leads progress run next after) :
    after.context.token = run.context.token :=
  congrArg (·.2.2.2.1) leads.settings

/-- Every trip of a run was set out on in one of its turns, and what each turn leaves to the next holds
there if it held when the run began. -/
theorem Course.departs_of {holds : Progress → Run σ τ ω → Prop}
    (kept : ∀ {progress run next after}, plan.Leads progress run next after → holds progress run →
      holds next after)
    (course : plan.Course progress run trips result last) (begins : holds progress run) :
    ∀ trip ∈ trips, ∃ progress reached, plan.Departs progress reached trip ∧ holds progress reached := by
  induction course with
  | spent => exact List.forall_mem_nil _
  | unready => exact List.forall_mem_nil _
  | unregistered departs _ => exact List.forall_mem_singleton.mpr ⟨_, _, departs, begins⟩
  | ended departs _ _ _ => exact List.forall_mem_singleton.mpr ⟨_, _, departs, begins⟩
  | again departs made goesOn rest ih =>
      have onward := kept ⟨_, _, _, departs, made, goesOn⟩ begins
      exact List.forall_mem_cons.mpr ⟨⟨_, _, departs, begins⟩, ih onward⟩

/-- What is launched went on a trip. -/
theorem departs_of_launch {attempted : Attempted} {landed : Run σ τ ω}
    (launched : plan.launch progress run = (.ok attempted, landed)) :
    ∃ trip, plan.Departs progress run trip ∧ plan.register trip trip.landed = (.ok attempted, landed) := by
  cases departed : plan.depart progress run with
  | mk handed announced =>
  cases handed with
  | error failure =>
      rw [launch_eq, Act.bind_of_error departed] at launched
      cases launched
  | ok request =>
      have departs : plan.Departs progress run
          (plan.trip progress.state request.1 request.2.1 request.2.2 announced) :=
        ⟨_, _, _, _, departed, rfl⟩
      exact ⟨_, departs, (launch_of_departs departs).symm.trans launched⟩

/-- What holds at the start and is left to each next turn holds at every turn of a path. -/
theorem Path.holds {holds : Progress → Run σ τ ω → Prop} {start : Progress} {begun : Run σ τ ω}
    {made : List Attempted}
    (kept : ∀ {progress run next after}, plan.Leads progress run next after → holds progress run →
      holds next after)
    (path : plan.Path start begun made progress run) (begins : holds start begun) : holds progress run := by
  induction path with
  | start => exact begins
  | again path launched concluded ih =>
      obtain ⟨trip, departs, registered⟩ := departs_of_launch launched
      exact kept ⟨trip, _, _, departs, registered, concluded⟩ ih

theorem Path.token {start : Progress} {begun : Run σ τ ω} {made : List Attempted}
    (path : plan.Path start begun made progress run) : run.context.token = begun.context.token :=
  path.holds (fun leads same => leads.token.trans same) rfl

/-- The trip that so many others came before sets out from a turn that as many attempts came before. -/
theorem Course.departs_at {start : Progress} {begun : Run σ τ ω} {made : List Attempted} {number : Nat}
    (course : plan.Course progress run trips result last) (path : plan.Path start begun made progress run)
    (member : trips[number]? = some trip) :
    ∃ earlier progress reached, plan.Path start begun earlier progress reached ∧
      earlier.length = made.length + number ∧ plan.Departs progress reached trip := by
  induction course generalizing made number with
  | spent => cases member
  | unready => cases member
  | unregistered departs _ | ended departs _ _ _ =>
      cases number with
      | succ number => cases member
      | zero =>
          cases member
          exact ⟨made, _, _, path, rfl, departs⟩
  | again departs registered goesOn rest ih =>
      cases number with
      | zero =>
          cases member
          exact ⟨made, _, _, path, rfl, departs⟩
      | succ number =>
          have further := path.again ((launch_of_departs departs).trans registered) goesOn
          obtain ⟨earlier, progress, reached, comes, long, sets⟩ := ih further member
          refine ⟨earlier, progress, reached, comes, ?_, sets⟩
          rw [long, List.length_append, List.length_singleton]
          omega

/-- As many trips were made on a path as attempts. -/
theorem Path.trips_eq {start : Progress} {begun : Run σ τ ω} {made : List Attempted}
    (path : plan.Path start begun made progress run) : ∃ earlier, earlier.length = made.length ∧
      ∀ turns, plan.trips (made.length + turns) start begun = earlier ++ plan.trips turns progress run := by
  induction path with
  | start => exact ⟨[], rfl, fun turns => by rw [List.length_nil, Nat.zero_add]; rfl⟩
  | again path launched concluded ih =>
      obtain ⟨earlier, long, before⟩ := ih
      obtain ⟨trip, departs, registered⟩ := departs_of_launch launched
      refine ⟨earlier ++ [trip], by simp [long], fun turns => ?_⟩
      have turned := (turn_of_registered departs registered).trans concluded
      rw [List.length_append, List.length_singleton, Nat.add_assoc, Nat.add_comm 1, before,
        trips_succ_of_again turns departs turned, List.append_assoc]
      rfl

/-- The headers that the user gave are the same in every turn. -/
theorem Course.departs (course : plan.Course progress run trips result last) :
    ∀ trip ∈ trips, ∃ progress reached, plan.Departs progress reached trip ∧
      reached.context.userHeaders = run.context.userHeaders :=
  departs_of (fun leads same => leads.user.trans same) course rfl

/-- A request is sent for each trip for which something can be sent, and for nothing else. -/
theorem Course.requests (course : plan.Course progress run trips result last) :
    last.requests = run.requests ++ trips.flatMap plan.posted := by
  have concluded : ∀ attempted (landed : Run σ τ ω),
      (plan.conclude attempted landed).2.requests = landed.requests :=
    fun attempted landed => (Run.unsent_iff.mp (plan.conclude_unsent attempted landed)).1
  have registered : ∀ (trip : Trip σ τ ω) run,
      (plan.register trip run).2.requests = run.requests :=
    fun trip run => (Run.still_iff.mp (register_still trip run)).2.1
  induction course with
  | spent => exact (List.append_nil _).symm
  | @unready progress run failure after refused =>
      have follows := (plan.depart_follows progress).of_error refused
      rw [follows.requests]
      exact (List.append_nil _).symm
  | @unregistered progress run trip failure after departs refused =>
      have same := registered trip trip.landed
      rw [refused] at same
      rw [same, departs.requests, List.flatMap_singleton]
  | @ended progress run trip attempted landed result after departs made ends stopped =>
      have same := registered trip trip.landed
      rw [made] at same
      rw [← stopped, concluded, same, departs.requests, List.flatMap_singleton]
  | @again progress run trip attempted landed next after trips result last departs made goesOn rest ih =>
      have same := registered trip trip.landed
      rw [made] at same
      have onward := concluded attempted landed
      rw [goesOn] at onward
      calc last.requests = after.requests ++ trips.flatMap plan.posted := ih
        _ = landed.requests ++ trips.flatMap plan.posted := by rw [onward]
        _ = run.requests ++ plan.posted trip ++ trips.flatMap plan.posted := by
            rw [same, departs.requests]
        _ = run.requests ++ (trip :: trips).flatMap plan.posted := by
            rw [List.append_assoc, List.flatMap_cons]

/-- Only the last trip of a run can be a success. -/
theorem Course.failed (course : plan.Course progress run trips result last) :
    ∀ trip ∈ trips.dropLast, trip.met.outcome.fault?.isSome := by
  induction course with
  | spent => exact List.forall_mem_nil _
  | unready => exact List.forall_mem_nil _
  | unregistered => exact List.forall_mem_nil _
  | ended => exact List.forall_mem_nil _
  | @again progress run trip attempted landed next after trips result last departs registered goesOn rest ih =>
      cases trips with
      | nil => exact List.forall_mem_nil _
      | cons second others =>
          obtain ⟨outcome, _⟩ := (register_yields trip).of_ok registered
          obtain ⟨fault, _, _, _, retryable, _⟩ := (plan.conclude_yields attempted).of_ok goesOn
          refine List.forall_mem_cons.mpr ⟨?_, ih⟩
          rw [← outcome, retryable]
          rfl

/-- A run with an answer has it from its last trip. -/
theorem Course.succeeded (course : plan.Course progress run trips result last) {answer : Answer}
    (answered : result = .ok (some answer)) :
    ∃ trip product, trips.getLast? = some trip ∧ trip.met.outcome = .success product := by
  induction course with
  | spent => cases answered
  | unready => contradiction
  | unregistered => contradiction
  | @ended progress run trip attempted landed result after departs registered ends stopped =>
      subst answered
      obtain ⟨product, _, success, _⟩ :=
        (plan.conclude_yields attempted).of_ok (Prod.ext (Turn.done_of_ending ends) rfl)
      exact ⟨trip, product, rfl, ((register_yields trip).of_ok registered).1 ▸ success⟩
  | again departs registered goesOn rest ih =>
      obtain ⟨final, product, isLast, success⟩ := ih answered
      exact ⟨final, product, by rw [List.getLast?_cons, isLast]; rfl, success⟩

end Plan

namespace Engine

variable [Seconds τ] (engine : Engine σ τ) (operation : Operation σ τ ω)
  (policy : Option (Policy σ τ)) (handlers : Handlers σ)

/-- The trips of an operation, of which at most so many attempts are made. -/
def trips (turns : Nat) (run : Run σ τ ω) : List (Trip σ τ ω) :=
  match engine.planFor operation policy handlers run with
  | .ok (plan, start) => plan.trips turns ⟨start, none⟩ (opened run)
  | .error _ => []

variable {engine operation policy handlers} {run : Run σ τ ω}

theorem trips_of_refusal {fault : Fault}
    (refused : engine.planFor operation policy handlers run = .error fault) (turns : Nat) :
    engine.trips operation policy handlers turns run = [] := by
  rw [trips, refused]

theorem course_of_plan {plan : Plan σ τ ω} {start : AttemptState}
    (planned : engine.planFor operation policy handlers run = .ok (plan, start)) (turns : Nat) :
    plan.Course ⟨start, none⟩ (opened run) (engine.trips operation policy handlers turns run)
      (engine.execute operation policy handlers turns run).1
      (engine.execute operation policy handlers turns run).2 := by
  rw [execute_of_plan planned, trips, planned]
  exact Plan.course_of_run turns _ _

/-- What goes out is what is posted on the trips. -/
theorem execute_requests (turns : Nat) : (engine.execute operation policy handlers turns run).2.requests =
    run.requests ++ (engine.trips operation policy handlers turns run).flatMap (engine.posted operation) := by
  cases planned : engine.planFor operation policy handlers run with
  | error fault =>
      rw [trips_of_refusal planned, execute_of_refusal planned]
      exact (List.append_nil _).symm
  | ok settled =>
      have course := course_of_plan planned turns
      obtain ⟨rfl, rfl, rfl, _⟩ := planFor_eq planned
      exact course.requests

end Engine

end ObjectStore
