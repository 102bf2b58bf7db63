import ObjectStore.Proofs.Engine.Heeding
import ObjectStore.Proofs.Engine.Plain

/-! What a cancellation does to an operation. It is seen when the next attempt is about to be made, or by the
pause before that, and from then on nothing is prepared, announced or sent. -/

namespace ObjectStore

variable {σ τ ω : Type} [Seconds τ]

/-- How an operation ends that was cancelled: with the results of its attempts. -/
def Failure.calledOff (results : List RequestResult) : Failure :=
  ⟨Cause.cancelled, .cancelled, some results⟩

namespace Plan

variable {plan : Plan σ τ ω} {token : String} {progress next : Progress} {run after last : Run σ τ ω}
  {trip : Trip σ τ ω} {trips : List (Trip σ τ ω)} {result : Except Failure (Option Answer)}

/-- A run of which nothing more becomes than a note that it was cancelled. -/
def calledOff (plan : Plan σ τ ω) (run : Run σ τ ω) : Run σ τ ω :=
  run.log plan.engine.surroundings.logThreshold (Log.line Log.error .engine "Operation was cancelled." [])

theorem depart_of_cancelled (cancelled : plan.isCancelled run = true) (progress : Progress) :
    plan.depart progress run = (.error (.calledOff run.context.results), plan.calledOff run) := by
  have follows : Run.Follows run (plan.calledOff run) := Run.log_follows _ _ run
  have checked : plan.check progress.last run =
      (.error (.calledOff (plan.calledOff run).context.results), plan.calledOff run) := by
    rw [check_eq, Act.bind_of_ok (Act.read_apply run), cancelled]
    rfl
  rw [follows.context] at checked
  exact Act.bind_of_error checked _

theorem Departs.free (departs : plan.Departs progress run trip) : plan.isCancelled run = false := by
  obtain ⟨prepared, request, timeout, announced, departed, _⟩ := departs
  by_contra cancelled
  rw [Bool.not_eq_false] at cancelled
  cases (depart_of_cancelled cancelled progress).symm.trans departed

/-- No trip is made once the operation was cancelled. -/
theorem Course.trips_of_cancelled (course : plan.Course progress run trips result last)
    (cancelled : plan.isCancelled run = true) : trips = [] := by
  cases course with
  | spent => rfl
  | unready => rfl
  | unregistered departs _ | ended departs _ _ _ | again departs _ _ _ =>
      cases cancelled.symm.trans departs.free

omit [Seconds τ] in
theorem isCancelled_eq (tokened : run.context.token = some token) :
    plan.isCancelled run = plan.engine.surroundings.isCancelled token run.world := by
  rw [isCancelled, tokened]
  rfl

/-- Up to where its request is out, nothing of an attempt is heard but its announcement. -/
abbrev outbound (plan : Plan σ τ ω) (token : String) : Frame (Run σ τ ω) :=
  plan.heeding token fun entry => entry.reacts = false

/-- After that, nothing is announced or sent. -/
abbrev inbound (plan : Plan σ τ ω) (token : String) : Frame (Run σ τ ω) :=
  plan.heeding token fun entry => entry.announces = false

/-- An entry after which a run is to be quiet is not followed by an announcement or a request. -/
def Quiets (plan : Plan σ τ ω) (token : String) (entry later : Entry τ) : Prop :=
  entry.reacts = true → plan.engine.Cancels plan.handlers token entry → later.announces = false

/-- The journal goes on, but with no announcement and no request after a listener to a response, a result or
a retry cancelled the operation, and none at all if it was cancelled before. -/
def Hushes (plan : Plan σ τ ω) (token : String) (run after : Run σ τ ω) : Prop :=
  ∃ added, after.journal = run.journal ++ added ∧ added.Pairwise (plan.Quiets token) ∧
    (plan.engine.surroundings.isCancelled token run.world = true → ∀ entry ∈ added, entry.announces = false)

omit [Seconds τ] in
theorem pairwise_of_outbound {added : List (Entry τ)} (all : ∀ entry ∈ added, entry.reacts = false) :
    added.Pairwise (plan.Quiets token) := by
  refine List.pairwise_of_forall_mem_list fun entry member later _ reacts => ?_
  cases (all entry member).symm.trans reacts

omit [Seconds τ] in
theorem pairwise_of_inbound {added : List (Entry τ)} (all : ∀ entry ∈ added, entry.announces = false) :
    added.Pairwise (plan.Quiets token) :=
  List.pairwise_of_forall_mem_list fun _ _ later member _ _ => all later member

section Binding

variable (binding : plan.Binding token)
include binding

omit [Seconds τ] in
theorem exchanged_parts (request : Request) (timeout : Timeout τ) (state : AttemptState) (run : Run σ τ ω) :
    ∃ sent, (plan.outbound token).rel run sent ∧
      (plan.inbound token).rel sent (plan.exchanged request timeout state run).2 := by
  have transmits : (plan.transmit request timeout).Keeps (plan.outbound token) :=
    transmit_heeds binding (fun _ _ => rfl) request timeout
  unfold exchanged
  cases sent : plan.transmit request timeout run with
  | mk reply after =>
  cases reply with
  | error fault =>
      have met : plan.exchange timeout ⟨run, state, ⟨request, none⟩⟩ =
          (.error fault, ⟨after, state, ⟨request, none⟩⟩) := plan.exchange_of_fault sent
      refine ⟨after, transmits.of_error sent, ?_⟩
      rw [met]
      exact (plan.inbound token).refl after
  | ok response =>
      have met : plan.exchange timeout ⟨run, state, ⟨request, none⟩⟩ =
          plan.attend response ⟨after, state, ⟨request, none⟩⟩ := plan.exchange_of_answer sent
      refine ⟨after, transmits.of_ok sent, ?_⟩
      rw [met]
      exact attend_heeds binding (fun _ => rfl) (fun _ _ => rfl) response ⟨after, state, ⟨request, none⟩⟩

theorem Departs.parts (departs : plan.Departs progress run trip) : ∃ sent,
    (plan.outbound token).rel run sent ∧ (plan.inbound token).rel sent trip.landed := by
  obtain ⟨prepared, request, timeout, announced, departed, rfl⟩ := departs
  have early : (plan.outbound token).rel run announced :=
    (depart_heeds binding (fun _ => rfl) (fun _ _ _ => rfl) progress).of_ok departed
  obtain ⟨sent, out, back⟩ := exchanged_parts binding request timeout progress.state announced
  exact ⟨sent, (plan.outbound token).trans early out, back⟩

/-- A trip and what comes after it in its turn. -/
theorem Departs.onward {onward : Run σ τ ω} (departs : plan.Departs progress run trip)
    (ends : (plan.inbound token).rel trip.landed onward) :
    ∃ added, onward.journal = run.journal ++ added ∧ added.Pairwise (plan.Quiets token) ∧
      (plan.engine.surroundings.isCancelled token run.world = true ∨
          (∃ entry ∈ added, plan.engine.Cancels plan.handlers token entry) →
        plan.engine.surroundings.isCancelled token onward.world = true) := by
  obtain ⟨sent, out, back⟩ := departs.parts binding
  obtain ⟨first, journal, ahead, lasts⟩ := out
  obtain ⟨second, journal', after, lasts'⟩ := (plan.inbound token).trans back ends
  refine ⟨first ++ second, ?_, ?_, ?_⟩
  · rw [journal', journal, List.append_assoc]
  · refine List.pairwise_append.mpr ⟨pairwise_of_outbound ahead, pairwise_of_inbound after, ?_⟩
    exact fun _ _ later member _ _ => after later member
  · rintro (before | ⟨entry, member, cancels⟩)
    · exact lasts' (.inl (lasts (.inl before)))
    · rcases List.mem_append.mp member with early | late
      · exact lasts' (.inl (lasts (.inr ⟨entry, early, cancels⟩)))
      · exact lasts' (.inr ⟨entry, late, cancels⟩)

theorem register_inbound (trip : Trip σ τ ω) : (plan.register trip).Keeps (plan.inbound token) :=
  register_heeds binding (fun _ _ _ => rfl) trip

theorem conclude_inbound (attempted : Attempted) : (plan.conclude attempted).Keeps (plan.inbound token) :=
  conclude_heeds binding (fun _ => rfl) (fun _ _ _ => rfl) (fun _ _ => ⟨rfl, rfl⟩) attempted

theorem registered_inbound {attempted : Attempted} {landed : Run σ τ ω} {follow : Except Failure Turn}
    (registered : plan.register trip trip.landed = (.ok attempted, landed))
    (concluded : plan.conclude attempted landed = (follow, after)) :
    (plan.inbound token).rel trip.landed after := by
  have ends := conclude_inbound binding attempted landed
  rw [concluded] at ends
  exact (plan.inbound token).trans ((register_inbound binding trip).of_ok registered) ends

theorem Departs.hushes (departs : plan.Departs progress run trip) (tokened : run.context.token = some token)
    (ends : (plan.inbound token).rel trip.landed after) : plan.Hushes token run after := by
  obtain ⟨added, journal, quiet, _⟩ := departs.onward binding ends
  refine ⟨added, journal, quiet, fun cancelled => ?_⟩
  rw [← isCancelled_eq tokened, departs.free] at cancelled
  cases cancelled

theorem hushes_of_refused {failure : Failure} (refused : plan.depart progress run = (.error failure, after))
    (tokened : run.context.token = some token) : plan.Hushes token run after := by
  cases cancelled : plan.isCancelled run with
  | true =>
      rw [depart_of_cancelled cancelled] at refused
      cases refused
      obtain ⟨added, journal, quiet, _⟩ : (plan.inbound token).rel run (plan.calledOff run) :=
        heeding_log (fun _ => rfl) _ _ run
      exact ⟨added, journal, pairwise_of_inbound quiet, fun _ => quiet⟩
  | false =>
      obtain ⟨added, journal, early, _⟩ : (plan.outbound token).rel run after :=
        (depart_heeds binding (fun _ => rfl) (fun _ _ _ => rfl) progress).of_error refused
      refine ⟨added, journal, pairwise_of_outbound early, fun already => ?_⟩
      rw [← isCancelled_eq tokened, cancelled] at already
      cases already

/-- A run becomes quiet when it is cancelled. -/
theorem Course.hushes (course : plan.Course progress run trips result last)
    (tokened : run.context.token = some token) : plan.Hushes token run last := by
  induction course with
  | spent => exact ⟨[], (List.append_nil _).symm, .nil, fun _ => List.forall_mem_nil _⟩
  | unready refused => exact hushes_of_refused binding refused tokened
  | unregistered departs refused =>
      exact departs.hushes binding tokened ((register_inbound binding _).of_error refused)
  | @ended progress run trip attempted landed result after departs registered ends stopped =>
      exact departs.hushes binding tokened (registered_inbound binding registered (Prod.ext rfl stopped))
  | @again progress run trip attempted landed next after trips result last departs registered goesOn rest ih =>
      have leads : plan.Leads progress run next after :=
        ⟨trip, attempted, landed, departs, registered, goesOn⟩
      obtain ⟨first, journal, quiet, lasts⟩ := departs.onward binding
        (registered_inbound binding registered goesOn)
      obtain ⟨others, journal', quiet', silent⟩ := ih (leads.token.trans tokened)
      refine ⟨first ++ others, ?_, ?_, fun cancelled => ?_⟩
      · rw [journal', journal, List.append_assoc]
      · refine List.pairwise_append.mpr ⟨quiet, quiet', fun entry member later onward _ cancels => ?_⟩
        exact silent (lasts (.inr ⟨entry, member, cancels⟩)) later onward
      · rw [← isCancelled_eq tokened, departs.free] at cancelled
        cases cancelled

/-- The trip during which an operation is cancelled is its last. -/
theorem Course.length_of_cancelled {number : Nat} (course : plan.Course progress run trips result last)
    (tokened : run.context.token = some token) (member : trips[number]? = some trip)
    (cancelled : plan.engine.surroundings.isCancelled token trip.landed.world = true) :
    trips.length = number + 1 := by
  induction course generalizing number with
  | spent => cases member
  | unready => cases member
  | unregistered departs _ | ended departs _ _ _ =>
      cases number with
      | zero => rfl
      | succ number => cases member
  | @again progress run trip attempted landed next after trips result last departs registered goesOn rest ih =>
      have leads : plan.Leads progress run next after :=
        ⟨trip, attempted, landed, departs, registered, goesOn⟩
      have kept : after.context.token = some token := leads.token.trans tokened
      cases number with
      | zero =>
          cases member
          obtain ⟨_, _, _, lasts⟩ : (plan.inbound token).rel trip.landed after :=
            registered_inbound binding registered goesOn
          rw [rest.trips_of_cancelled ((isCancelled_eq kept).trans (lasts (.inl cancelled)))]
          rfl
      | succ number => rw [List.length_cons, ih kept member]

end Binding

/-- The operation comes to a pause: its attempt failed, the policy grants an interval that ends in time,
listeners heard of the retry, and what the next attempt starts from is known. -/
structure Pauses (plan : Plan σ τ ω) (attempted : Attempted) (landed : Run σ τ ω) (fault : Fault)
    (interval : τ) (state : AttemptState) (paused : Run σ τ ω) : Prop where
  failed : attempted.outcome = .retryable fault
  unsigned : fault.kind ≠ .signing
  unexpected : plan.isExpected fault = .ok false
  granted : ∃ world,
    plan.policy.decide (reported attempted fault) landed.world = (.ok (some interval), world) ∧
    Deadline.hasExpired (plan.engine.surroundings.clock world) plan.deadline interval = .ok false ∧
    plan.ready (reported attempted fault) attempted interval
      { plan.consulted attempted fault landed with world } = (.ok state, paused)

section Pause

variable {attempted : Attempted} {landed paused : Run σ τ ω} {fault : Fault} {interval : τ}
  {state : AttemptState} (pauses : plan.Pauses attempted landed fault interval state paused)
include pauses

theorem Pauses.conclude_eq : plan.conclude attempted landed =
    (plan.rest interval >>= fun _ => pure (.again ⟨state, some fault⟩)) paused := by
  obtain ⟨world, decided, fits, ready⟩ := pauses.granted
  rw [plan.conclude_of_retryable pauses.failed pauses.unsigned, plan.decide_of_unexpected pauses.unexpected,
    plan.consult_of_answered decided]
  dsimp only
  rw [plan.retry_of_checked fits, if_neg Bool.false_ne_true, resume, Act.bind_of_ok ready]

theorem Pauses.context : paused.context = landed.context := by
  obtain ⟨world, _, _, ready⟩ := pauses.granted
  have readied := ((plan.ready_follows _ _ _).of_ok ready).context
  exact readied.trans (plan.consulted_aside attempted fault landed).context

omit [Seconds τ] pauses in
theorem rest_of_waited {ended : Bool} {world : σ} (tokened : run.context.token = some token)
    (waited : plan.engine.surroundings.wait token interval run.world = (.ok ended, world)) :
    plan.rest interval run = (if ended then do
        plan.sayAt Log.error "Operation was cancelled while waiting to retry." []
        cancelled
      else pure () : Act Failure (Run σ τ ω) Unit)
      { run.note (.waited interval (plan.engine.surroundings.clock run.world)) with world } := by
  rw [rest, Act.bind_of_ok (plan.now_apply run), Act.bind_of_ok (Act.read_apply run), tokened]
  simp only [Act.bind_apply, Act.change_apply, outside, Act.on_apply, Act.mapError, Run.note, waited]

/-- A pause by the end of which the operation was cancelled is followed by no attempt. Either it ends with
the failure, or the next turn begins with it. -/
theorem Path.run_of_pause {start : Progress} {begun : Run σ τ ω} {made : List Attempted}
    (path : plan.Path start begun made progress run)
    (launched : plan.launch progress run = (.ok attempted, landed))
    (tokened : landed.context.token = some token) {ended : Bool} {world : σ}
    (waited : plan.engine.surroundings.wait token interval paused.world = (.ok ended, world))
    (seen : ended = true ∨ plan.engine.surroundings.isCancelled token world = true) {fuel : Nat}
    (enough : made.length + 1 < fuel) : ∃ last,
      plan.run fuel start begun = (.error (.calledOff last.context.results), last) ∧
      last.context.results = landed.context.results ∧ last.requests = landed.requests := by
  have kept : paused.context.token = some token := pauses.context ▸ tokened
  have concluded := pauses.conclude_eq
  rw [Act.bind_apply, rest_of_waited kept waited] at concluded
  have unsent := plan.conclude_unsent attempted landed
  cases ended with
  | true =>
      obtain ⟨left, stopped⟩ : ∃ left, plan.conclude attempted landed =
          (.error (.calledOff left.context.results), left) := ⟨_, concluded⟩
      rw [stopped] at unsent
      have turned : plan.turn progress run = (.error (.calledOff left.context.results), left) :=
        (turn_of_conclude launched).trans stopped
      refine ⟨left, ?_, (Run.unsent_iff.mp unsent).2.1, (Run.unsent_iff.mp unsent).1⟩
      rw [path.run_of_ending (by rw [turned]; rfl) (Nat.lt_of_succ_lt enough), turned]
  | false =>
      -- the pause was over before it was seen, so the check of the next turn is what sees it
      obtain ⟨left, goesOn, keeps, rfl⟩ : ∃ left, plan.conclude attempted landed =
          (.ok (.again ⟨state, some fault⟩), left) ∧ left.context.token = some token ∧ left.world = world :=
        ⟨_, concluded, kept, rfl⟩
      have cancelled := (isCancelled_eq keeps).trans (seen.resolve_left Bool.false_ne_true)
      rw [goesOn] at unsent
      obtain ⟨requests, results, _⟩ := Run.unsent_iff.mp unsent
      have further := path.again launched goesOn
      have turned := turn_of_refused (depart_of_cancelled cancelled ⟨state, some fault⟩)
      have follows : Run.Follows left (plan.calledOff left) := Run.log_follows _ _ left
      have longer : (made ++ [attempted]).length < fuel := by
        rw [List.length_append, List.length_singleton]
        exact enough
      refine ⟨plan.calledOff left, ?_, ?_, follows.requests.trans requests⟩
      · rw [further.run_of_ending (by rw [turned]; rfl) longer, turned, follows.context]
      · rw [follows.context, results]

end Pause

end Plan

/-- A pause of this length is in vain: by its end the token is cancelled. -/
def Surroundings.Interrupts (surroundings : Surroundings σ τ) (token : String) (interval : τ)
    (world : σ) : Prop :=
  surroundings.isCancelled token world = true ∨
    ∃ ended after, surroundings.wait token interval world = (.ok ended, after) ∧
      surroundings.isCancelled token after = true

namespace Engine

/-- What becomes of an operation once its token is cancelled. -/
structure Obeys (engine : Engine σ τ) (operation : Operation σ τ ω) (policy : Option (Policy σ τ))
    (handlers : Handlers σ) (token : String) (run : Run σ τ ω) : Prop where
  /-- A turn that comes after the cancellation ends the operation, and nothing is done in it but to say so. -/
  stopped : ∀ plan start made progress reached,
    engine.planFor operation policy handlers run = .ok (plan, start) →
    plan.Path ⟨start, none⟩ (opened run) made progress reached →
    engine.surroundings.isCancelled token reached.world = true → ∀ turns, made.length < turns →
    engine.execute operation policy handlers turns run =
        (.error (.calledOff reached.context.results), plan.calledOff reached) ∧
      (engine.trips operation policy handlers turns run).length = made.length
  /-- The attempt during which the token is cancelled is the last one. -/
  last : ∀ turns number trip, (engine.trips operation policy handlers turns run)[number]? = some trip →
    engine.surroundings.isCancelled token trip.landed.world = true →
    (engine.trips operation policy handlers turns run).length = number + 1
  /-- Nothing is announced or sent after a listener to a response, a result or a retry has cancelled the
  token, and nothing at all if it was cancelled before. -/
  hushed : ∀ turns, ∃ added,
    (engine.execute operation policy handlers turns run).2.journal = run.journal ++ added ∧
    added.Pairwise (fun entry later => entry.reacts = true → engine.Cancels handlers token entry →
      later.announces = false) ∧
    (engine.surroundings.isCancelled token run.world = true → ∀ entry ∈ added, entry.announces = false)
  /-- After a pause that was in vain the operation ends with the results of all its attempts. -/
  paused : ∀ plan start made progress reached attempted landed fault interval state paused,
    engine.planFor operation policy handlers run = .ok (plan, start) →
    plan.Path ⟨start, none⟩ (opened run) made progress reached →
    plan.launch progress reached = (.ok attempted, landed) →
    plan.Pauses attempted landed fault interval state paused →
    engine.surroundings.Interrupts token interval paused.world → ∀ turns, made.length + 1 < turns →
    ∃ failure last, engine.execute operation policy handlers turns run = (.error failure, last) ∧
      failure.fault.kind = .cancelled ∧ failure.fault.code = .text "OperationCancelled" ∧
      failure.attached = some landed.context.results ∧
      landed.context.results.map (·.fault) = (made ++ [attempted]).map (·.outcome.fault?) ∧
      last.requests = landed.requests

variable {engine : Engine σ τ} {operation : Operation σ τ ω} {policy : Option (Policy σ τ)}
  {handlers : Handlers σ} {run : Run σ τ ω} {token : String}

/-- Whenever the token of an operation is cancelled, the operation obeys. -/
theorem execute_obeys
    (binding : engine.Binding operation (engine.policyFor operation policy) handlers token)
    (tokened : run.context.token = some token) :
    engine.Obeys operation policy handlers token run where
  stopped plan start made progress reached planned path cancelled turns enough := by
    obtain ⟨rfl, _⟩ := planFor_eq planned
    have kept : reached.context.token = some token := path.token.trans tokened
    have refused := Plan.depart_of_cancelled ((Plan.isCancelled_eq kept).trans cancelled) progress
    have turned := Plan.turn_of_refused refused
    obtain ⟨earlier, long, trips⟩ := path.trips_eq
    refine ⟨?_, ?_⟩
    · rw [execute_of_plan planned, path.run_of_ending (by rw [turned]; rfl) enough, turned]
    · obtain ⟨rest, rfl⟩ := Nat.exists_eq_add_of_lt enough
      rw [Engine.trips, planned]
      dsimp only
      rw [Nat.add_assoc, trips, Plan.trips_succ_of_refused rest refused, List.append_nil, long]
  last turns number trip member cancelled := by
    cases planned : engine.planFor operation policy handlers run with
    | error fault =>
        rw [trips_of_refusal planned] at member
        cases member
    | ok settled =>
        obtain ⟨plan, start⟩ := settled
        have course := course_of_plan planned turns
        obtain ⟨rfl, rfl, rfl, _⟩ := planFor_eq planned
        rw [← (planFor_options planned).2.2] at binding
        exact course.length_of_cancelled binding tokened member cancelled
  hushed turns := by
    cases planned : engine.planFor operation policy handlers run with
    | error fault =>
        rw [execute_of_refusal planned]
        exact ⟨[], (List.append_nil _).symm, .nil, fun _ => List.forall_mem_nil _⟩
    | ok settled =>
        obtain ⟨plan, start⟩ := settled
        have course := course_of_plan planned turns
        obtain ⟨rfl, rfl, rfl, _⟩ := planFor_eq planned
        rw [← (planFor_options planned).2.2] at binding
        have hushes : plan.Hushes token (opened run) _ := course.hushes binding tokened
        exact hushes
  paused plan start made progress reached attempted landed fault interval state paused planned path launched
      pauses interrupts turns enough := by
    obtain ⟨rfl, rfl, rfl, _⟩ := planFor_eq planned
    obtain ⟨earlier, recorded, faults⟩ := path.results
    obtain ⟨results, all, agree⟩ := Plan.launch_appends recorded faults launched
    have standing : landed.context.standing = reached.context.standing :=
      (plan.launch_standing progress).of_ok launched
    have kept : landed.context.token = some token :=
      (congrArg (·.1.2.2.2.1) standing).trans (path.token.trans tokened)
    obtain ⟨ended, world, waited, seen⟩ : ∃ ended world,
        plan.engine.surroundings.wait token interval paused.world = (.ok ended, world) ∧
        (ended = true ∨ plan.engine.surroundings.isCancelled token world = true) := by
      rcases interrupts with already | ⟨ended, after, waited, seen⟩
      · obtain ⟨after, woken⟩ := binding.wakes interval paused.world already
        exact ⟨true, after, woken, .inl rfl⟩
      · exact ⟨ended, after, waited, .inr seen⟩
    obtain ⟨last, stopped, same, requests⟩ :=
      path.run_of_pause pauses launched kept waited seen enough
    refine ⟨_, last, (execute_of_plan planned turns).trans stopped, rfl, rfl, congrArg some same, ?_, requests⟩
    rw [all]
    exact agree

end Engine

namespace Cancelled

/-! A service that is always busy, a policy that never gives up, and a listener that cancels the operation
as soon as an attempt is to be repeated. -/

abbrev World : Type :=
  Nat × Bool

def engine : Engine World Number :=
  let busy : Engine World Number := .plain (fun _ => .float 0)
    (fun _ world => (.ok (.plain 503 "0" [] none), (world.1 + 1, world.2))) fun _ => pure ()
  { busy with
    surroundings := { busy.surroundings with
      isCancelled := fun _ world => world.2
      wait := fun _ _ world => (.ok world.2, world) } }

def listener : Listener World where
  name := "caller"
  hear _ := Act.change fun told => ((told.1.1, true), told.2)

def handlers : Handlers World :=
  { retrying := Multicaster.ofList [listener] }

def run : Run World Number Unit :=
  { Run.plain with context := { OperationContext.plain with token := some "token" } }

theorem operation_respects (bounds : Frame World) :
    (Operation.plain : Operation World Number Unit).Respects bounds where
  builds _ bench := bounds.refl bench.world
  heads _ _ bench := bounds.refl bench.world
  signs sign given := by cases given
  judges := Operation.judgeStatus_keeps (fun receipt _ => bounds.refl receipt.bench.world) _
  finishes _ receipt := bounds.refl receipt.bench.world
  recovers state := .pure state

theorem binding : engine.Binding .plain (engine.policyFor .plain none) handlers "token" where
  sends _ _ := id
  sleeps _ := .pure ()
  waits _ _ _ := id
  decides _ _ := id
  hears kind listener member event := by
    intro told _
    cases kind with
    | retrying =>
        obtain rfl := List.mem_singleton.mp member
        rfl
    | _ => exact absurd member List.not_mem_nil
  works := operation_respects _
  wakes _ world already := ⟨world, congrArg (fun ended => (Except.ok ended, world)) already⟩

/-- Out of ten attempts only the first is made, and the failure tells its result. -/
theorem ends_in_pause : engine.Binding .plain (engine.policyFor .plain none) handlers "token" ∧
    run.context.token = some "token" ∧ engine.Obeys .plain none handlers "token" run ∧
    (engine.trips .plain none handlers 10 run).length = 1 ∧
    Answer.failsIn .cancelled (engine.execute .plain none handlers 10 run).1 = true ∧
    (engine.execute .plain none handlers 10 run).2.context.results.length = 1 :=
  ⟨binding, rfl, Engine.execute_obeys binding rfl, by decide +kernel, by decide +kernel, by decide +kernel⟩

end Cancelled

end ObjectStore
