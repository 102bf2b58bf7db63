import ObjectStore.Engine.Prepare
import ObjectStore.Proofs.Engine.Remarks
import ObjectStore.Proofs.Request.RangeHeader

/-! Preparing an attempt sends nothing. What the steps of the operation keep, preparation keeps, and a
range that was put into the request when it was built is still there when it is signed. -/

namespace ObjectStore.Plan

open Request (asked sameRange)

variable {σ τ ω ε α : Type} (plan : Plan σ τ ω) {frame : Frame (Run σ τ ω)}

theorem revise_ends {inner : Frame Request} {x : Act Fault Request Unit} (keeps : x.Keeps inner)
    (request : Request) (run : Run σ τ ω) :
    (revise request x).Ends run (fun revised after => after = run ∧ inner.rel request revised)
      (fun _ after => after = run) := by
  have kept := keeps request
  unfold revise
  split
  · next revised => exact ⟨rfl, by rwa [revised] at kept⟩
  · exact rfl

theorem revise_keeps (request : Request) (x : Act Fault Request Unit) :
    (revise request x : Act Fault (Run σ τ ω) Request).Keeps frame := by
  unfold revise
  split
  · exact .pure _
  · exact .fail _

theorem refuse_keeps (said : ∀ line, (plan.say line : Act Failure (Run σ τ ω) Unit).Keeps frame)
    (last : Option Fault) (fault : Fault) :
    (plan.refuse last fault : Act Failure (Run σ τ ω) α).Keeps frame := by
  unfold refuse
  split
  · exact .bind (said _) fun _ => .fail _
  · split
    · exact frame.refl
    · exact .fail _

theorem refuse_yields {P : α → Prop} (last : Option Fault) (fault : Fault) :
    (plan.refuse last fault : Act Failure (Run σ τ ω) α).Yields P := by
  unfold refuse
  split
  · exact .after fun _ => .fail _
  · split
    · exact fun _ => trivial
    · exact .fail _

/-- The request of an attempt with its signature. -/
def signed (state : AttemptState) : Act Fault (Run σ τ ω) Request := do
  plan.sign (← plan.date (← plan.compose state))

theorem signed_keeps (built : ∀ state, (plan.take (plan.operation.build state)).Keeps frame)
    (headed : ∀ state request, (plan.take (plan.operation.setHeaders state request)).Keeps frame)
    (signs : ∀ request, (plan.sign request).Keeps frame) (state : AttemptState) :
    (plan.signed state).Keeps frame := by
  refine .bind (.bind (built state) fun _ => ?_) fun request => ?_
  · refine .bind (.ofExcept _) fun _ => .bind (headed _ _) fun _ => ?_
    exact .bind .read fun _ => revise_keeps _ _
  · exact .bind (.bind .read fun _ => revise_keeps _ _) fun _ => signs _

theorem signed_follows (state : AttemptState) : (plan.signed state).Keeps Run.follows :=
  plan.signed_keeps (fun _ => plan.take_follows _) (fun _ _ => plan.take_follows _)
    (fun _ => plan.take_follows _) state

variable [Seconds τ]

/-- How long an attempt may wait is found out last. -/
theorem prepared_eq (state : AttemptState) : plan.prepared state = (do
    let request ← plan.signed state
    let timeout ← Act.ofExcept (Deadline.bound (← plan.now) plan.deadline plan.timeout)
    return (request, timeout)) := by
  simp only [prepared, signed, Act.bind_assoc]

theorem prepared_keeps (built : ∀ state, (plan.take (plan.operation.build state)).Keeps frame)
    (headed : ∀ state request, (plan.take (plan.operation.setHeaders state request)).Keeps frame)
    (signs : ∀ request, (plan.sign request).Keeps frame) (state : AttemptState) :
    (plan.prepared state).Keeps frame := by
  rw [prepared_eq]
  refine .bind (plan.signed_keeps built headed signs state) fun _ => .bind ?_ fun _ => ?_
  · exact frame.refl
  · exact .bind (.ofExcept _) fun _ => .pure _

theorem prepare_keeps (said : ∀ line, (plan.say line : Act Failure (Run σ τ ω) Unit).Keeps frame)
    {state : AttemptState} (prepared : (plan.prepared state).Keeps frame) (last : Option Fault) :
    (plan.prepare state last).Keeps frame := by
  refine .bind prepared.attempt fun result => ?_
  cases result with
  | ok _ => exact .pure _
  | error fault => exact plan.refuse_keeps said last fault

theorem prepare_follows (state : AttemptState) (last : Option Fault) :
    (plan.prepare state last).Keeps Run.follows := by
  refine plan.prepare_keeps plan.say_follows ?_ last
  exact plan.prepared_keeps (fun _ => plan.take_follows _) (fun _ _ => plan.take_follows _)
    (fun _ => plan.take_follows _) state

theorem prepared_of_unbuilt {plan : Plan σ τ ω} {state : AttemptState} {run : Run σ τ ω} {fault : Fault}
    (unbuilt : (plan.operation.build state ⟨run.world, run.work, []⟩).1 = .error fault) :
    ∃ after, plan.prepared state run = (.error fault, after) := by
  have takes : plan.take (plan.operation.build state) run =
      (.error fault, (plan.take (plan.operation.build state) run).2) :=
    Prod.ext unbuilt rfl
  exact ⟨_, Act.bind_of_error (Act.bind_of_error takes _) _⟩

/-- A fault in the arguments of a request ends the operation as it is. -/
theorem prepare_of_argument {plan : Plan σ τ ω} {state : AttemptState} {run prepared : Run σ τ ω}
    {fault : Fault} (unprepared : plan.prepared state run = (.error fault, prepared))
    (argument : fault.kind.isArgument = true) (last : Option Fault) :
    ∃ ended, plan.prepare state last run = (.error ⟨fault, .unprepared, none⟩, ended) := by
  rw [prepare, Act.bind_apply, Act.attempt_apply, unprepared]
  dsimp only
  rw [refuse, if_pos argument]
  exact ⟨_, rfl⟩

/-- What is prepared is what goes on from here. -/
theorem prepare_ends {state : AttemptState} {run : Run σ τ ω}
    {Q : Request × Timeout τ → Run σ τ ω → Prop} (prepares : (plan.prepared state).Ends run Q fun _ _ => True)
    (last : Option Fault) : (plan.prepare state last).Ends run Q fun _ _ => True := by
  refine Act.ends_bind.mpr (Act.ends_attempt.mpr (prepares.mono (fun _ _ good => good) ?_))
  exact fun fault after _ => (plan.refuse_yields (P := fun _ => False) last fault after).imp
    fun _ _ => False.elim

/-- The timeout is what the deadline leaves when everything else is done. -/
theorem prepared_bounds (state : AttemptState) (run : Run σ τ ω) :
    (plan.prepared state).Ends run
      (fun made after => Deadline.bound (plan.engine.surroundings.clock after.world) plan.deadline
        plan.timeout = .ok made.2) fun _ _ => True := by
  rw [prepared_eq]
  refine .bind (Act.Yields.any _ run) fun request after _ => Act.ends_bind.mpr ?_
  exact Act.ends_bind.mpr (Act.ends_ofExcept (fun _ bound => bound) fun _ _ => trivial)

section Completion

/-- A request as it is built for an attempt and pointed at the location of the attempt. -/
def Addressed (state : AttemptState) (request : Request) : Prop :=
  ∃ bench built, (plan.operation.build state bench).1 = .ok built ∧
    built.applyLocation plan.endpoints state.location = .ok request

/-- A request that has got the headers of its operation. -/
def Headed (state : AttemptState) (request : Request) : Prop :=
  ∃ addressed bench, plan.Addressed state addressed ∧
    (plan.operation.setHeaders state addressed bench).1 = .ok request

/-- A request with the headers of its operation, as it is composed from what the operation works on. -/
def Composed (work : ω) (state : AttemptState) (request : Request) : Prop :=
  ∃ world built addressed bench, (plan.operation.build state ⟨world, work, []⟩).1 = .ok built ∧
    built.applyLocation plan.endpoints state.location = .ok addressed ∧
    (plan.operation.setHeaders state addressed bench).1 = .ok request

/-- A request is completed with the headers of the user and those that all requests have. -/
def Completes (context : OperationContext τ) (headed request : Request) : Prop :=
  (do
    Request.addHeaders context.userHeaders
    Request.complete plan.engine.client.sender (.text context.requestId) plan.serverTimeout) headed =
    (.ok (), request)

/-- The request is signed in a way that the frame does not count. -/
def SignedWithin (inner : Frame Request) : Prop :=
  ∀ request bench signed, (plan.operation.sign.getD plan.signStandard request bench).1 = .ok signed →
    inner.rel request signed

variable {plan} {inner : Frame Request} {state : AttemptState} {run : Run σ τ ω}

omit [Seconds τ] in
theorem Composed.headed {work : ω} {request : Request} (composed : plan.Composed work state request) :
    plan.Headed state request := by
  obtain ⟨world, built, addressed, bench, builds, applied, heads⟩ := composed
  exact ⟨addressed, bench, ⟨_, built, builds, applied⟩, heads⟩

omit [Seconds τ] in
theorem revise_completes {context : OperationContext τ} (headed : Request) (run : Run σ τ ω) :
    (revise headed do
      Request.addHeaders context.userHeaders
      Request.complete plan.engine.client.sender (.text context.requestId) plan.serverTimeout).Ends run
      (fun request _ => plan.Completes context headed request) fun _ _ => True := by
  unfold revise
  split
  · next request completed => exact completed
  · trivial

omit [Seconds τ] in
/-- What the steps of the operation make of a request is completed at last. -/
theorem compose_ends (state : AttemptState) (run : Run σ τ ω) : (plan.compose state).Ends run
    (fun request _ => ∃ headed, plan.Composed run.work state headed ∧
      plan.Completes run.context headed request) fun _ _ => True := by
  refine Act.Ends.bind ((plan.take_ends _ run).imp fun _ _ good => good) ?_
  rintro built early ⟨builds, follows⟩
  refine Act.Ends.bind (Act.ends_ofExcept (Q := fun addressed after =>
    built.applyLocation plan.endpoints state.location = .ok addressed ∧ after = early)
    (fun addressed applied => ⟨applied, rfl⟩) fun _ _ => trivial) ?_
  rintro addressed _ ⟨applied, rfl⟩
  refine Act.Ends.bind ((plan.take_ends _ _).imp fun _ _ good => good) ?_
  rintro headed late ⟨heads, followsToo⟩
  have same : late.context = run.context := followsToo.context.trans follows.context
  refine Act.ends_bind.mpr (Act.ends_read.mpr ?_)
  rw [same]
  refine (revise_completes headed late).imp ?_
  exact fun request _ completes => ⟨headed, ⟨_, built, addressed, _, builds, applied, heads⟩, completes⟩

/-- A request that is complete is dated and signed, and a frame that does not count this is kept. -/
theorem prepared_composes (indifferent : Request.Indifferent inner) (signs : plan.SignedWithin inner)
    (state : AttemptState) (run : Run σ τ ω) : (plan.prepared state).Ends run
      (fun made _ => ∃ headed request, plan.Composed run.work state headed ∧
        plan.Completes run.context headed request ∧ inner.rel request made.1) fun _ _ => True := by
  refine Act.Ends.bind (compose_ends state run) ?_
  rintro request early ⟨headed, composed, completes⟩
  have dated : (plan.date request).Ends early (fun dated _ => inner.rel request dated) fun _ _ => True := by
    refine Act.ends_bind.mpr (Act.ends_read.mpr ?_)
    refine (revise_ends (indifferent.addDate_keeps _) request early).imp ?_
    exact fun dated _ kept => kept.2
  refine Act.Ends.bind dated fun dated late datedToo => ?_
  have signed : (plan.sign dated).Ends late (fun signed _ => inner.rel request signed) fun _ _ => True := by
    refine (plan.take_ends _ late).imp ?_
    exact fun signed _ done => inner.trans datedToo (signs _ _ _ done.1)
  refine Act.Ends.bind signed fun signed last whole => ?_
  refine Act.ends_bind.mpr ?_
  refine Act.ends_bind.mpr (Act.ends_ofExcept (fun _ _ => ?_) fun _ _ => trivial)
  exact ⟨headed, request, composed, completes, whole⟩

omit [Seconds τ] in
/-- Only a signature of the operation's own needs a condition. -/
theorem signedWithin (indifferent : Request.Indifferent inner)
    (own : ∀ sign, plan.operation.sign = some sign → ∀ request bench signed,
      (sign request bench).1 = .ok signed → inner.rel request signed) : plan.SignedWithin inner := by
  intro request bench signed done
  cases given : plan.operation.sign with
  | none =>
      rw [given] at done
      exact indifferent.sign_kept done
  | some sign =>
      rw [given] at done
      exact own sign given request bench signed done

variable (unconcerned : Request.Unconcerned inner)
include unconcerned

omit [Seconds τ] in
theorem Completes.keeps {context : OperationContext τ} {headed request : Request}
    (completes : plan.Completes context headed request)
    (user : (Request.addHeaders context.userHeaders).Keeps inner) : inner.rel headed request :=
  (user.bind fun _ => unconcerned.complete_keeps _ _ _).of_ok completes

/-- Beyond its headers, the headers of the user, the signature and what completes it, nothing of a
request changes before it is ready. -/
theorem prepared_completes (user : (Request.addHeaders run.context.userHeaders).Keeps inner)
    (signs : plan.SignedWithin inner) : (plan.prepared state).Ends run
      (fun made _ => ∃ headed, plan.Headed state headed ∧ inner.rel headed made.1) fun _ _ => True := by
  refine (prepared_composes unconcerned.indifferent signs state run).imp ?_
  rintro made _ ⟨headed, request, composed, completes, kept⟩
  exact ⟨headed, composed.headed, inner.trans (completes.keeps unconcerned user) kept⟩

end Completion

section Range

variable {range : List Value} {run : Run σ τ ω}

/-- The user's own headers do not name a range. -/
def Unranged (context : OperationContext τ) : Prop :=
  ∀ fields, context.userHeaders = some fields → fields.Avoids "x-ms-range"

/-- Dating a request and signing it as the client does leave its range alone. -/
theorem prepared_asks {state : AttemptState} (unranged : Unranged run.context)
    (built : ∀ bench request, (plan.operation.build state bench).1 = .ok request →
      asked request.headers = range)
    (headed : ∀ request bench changed, (plan.operation.setHeaders state request bench).1 = .ok changed →
      sameRange.rel request changed) (unsigned : plan.operation.sign = none) :
    (plan.prepared state).Ends run (fun made _ => asked made.1.headers = range) fun _ _ => True := by
  have unconcerned : Request.Unconcerned sameRange := Request.unconcerned_under (by decide)
  refine (prepared_completes unconcerned (Request.addHeaders_keeps unranged)
    (signedWithin unconcerned.indifferent fun _ own => by rw [unsigned] at own; contradiction)).imp ?_
  rintro made _ ⟨changed, ⟨addressed, _, ⟨_, request, requested, applied⟩, changes⟩, kept⟩
  calc asked made.1.headers = asked changed.headers := kept
    _ = asked addressed.headers := headed _ _ _ changes
    _ = asked request.headers := congrArg asked (Request.applyLocation_eq applied).1
    _ = range := built _ _ requested

end Range

omit [Seconds τ] in
/-- The request that goes out is the one that was prepared, as far as the listeners leave it so. -/
theorem announceRequest_ends {bounds : Frame (σ × Exchange)} (bounded : plan.Bounded bounds .sendingRequest)
    (request : Request) (state : AttemptState) (run : Run σ τ ω) :
    (plan.announceRequest request state).Ends run
      (fun changed after => ∃ exchange, exchange.request = changed ∧
        (Run.beside bounds).rel (run, ⟨request, none⟩) (after, exchange))
      (fun _ after => ∃ exchange, (Run.beside bounds).rel (run, ⟨request, none⟩) (after, exchange)) := by
  refine Act.ends_bind.mpr (Act.ends_mapError.mpr ?_)
  refine (plan.announceOn_ends (.sendingRequest state.retryCount) bounded _ run).mono ?_
    fun _ _ kept => kept
  intro exchange after kept
  refine Act.ends_bind.mpr (plan.say_ends.mpr ?_)
  exact ⟨exchange, rfl, Run.beside_said kept (Run.log_aside _ _ after)⟩

end ObjectStore.Plan
