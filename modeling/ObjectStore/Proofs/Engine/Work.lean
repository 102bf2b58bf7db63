import ObjectStore.Proofs.Engine.Course

/-! What an operation works on and the state it is in, from turn to turn. Nothing but its own steps touches
them, so what all of these leave alone is the same in every turn. -/

namespace ObjectStore

variable {σ τ ω : Type}

/-- What the steps of an operation do to what it works on stays in bounds. -/
structure Operation.Handles (operation : Operation σ τ ω) (bounds : Frame ω) : Prop where
  builds : ∀ state, (operation.build state).Keeps (bounds.within Bench.work)
  heads : ∀ state request, (operation.setHeaders state request).Keeps (bounds.within Bench.work)
  signs : ∀ sign, operation.sign = some sign → ∀ request, (sign request).Keeps (bounds.within Bench.work)
  judges : operation.judge.Keeps (bounds.within (·.bench.work))
  finishes : ∀ product, (operation.finish product).Keeps (bounds.within (·.bench.work))
  recovers : ∀ state, (operation.recover state).Keeps (bounds.within Bench.work)

namespace Plan

variable {ε α : Type} {plan : Plan σ τ ω} {bounds : Frame ω}

theorem worked_of_same {run after : Run σ τ ω} (same : after.work = run.work) :
    (bounds.within Run.work).rel run after := by
  show bounds.rel run.work after.work
  rw [same]
  exact bounds.refl _

theorem worked_of_aside {x : Act ε (Run σ τ ω) α} (keeps : x.Keeps (Run.aside (.any σ))) :
    x.Keeps (bounds.within Run.work) :=
  keeps.weaken fun _ _ aside => worked_of_same aside.work

theorem say_works (line : Log.Line) :
    (plan.say line : Act ε (Run σ τ ω) Unit).Keeps (bounds.within Run.work) :=
  worked_of_aside (plan.say_keeps line)

theorem announceOn_works (event : Event) (exchange : Exchange) :
    (plan.announceOn event exchange).Keeps (bounds.within Run.work) := by
  have free : plan.Bounded ((Frame.any σ).within Prod.fst) event.kind := fun _ _ _ _ => trivial
  exact worked_of_aside (plan.announceOn_keeps event free exchange)

theorem take_works {step : Step σ ω α} (keeps : step.Keeps (bounds.within Bench.work)) :
    (plan.take step).Keeps (bounds.within Run.work) := by
  intro run
  have logged : Run.Aside (.any σ) _ (plan.take step run).2 := Run.logAll_aside _ _ _
  show bounds.rel run.work (plan.take step run).2.work
  rw [logged.work]
  exact keeps ⟨run.world, run.work, []⟩

theorem handleCurrent_works {step : Handling σ ω α} (keeps : step.Keeps (bounds.within (·.bench.work))) :
    (plan.handleCurrent step).Keeps (bounds.within (·.run.work)) := by
  refine .bind .read fun sending => ?_
  split
  · next response _ =>
    intro sending
    have logged : Run.Aside (.any σ) _ (plan.handle response step sending).2.run := Run.logAll_aside _ _ _
    show bounds.rel sending.run.work (plan.handle response step sending).2.run.work
    rw [logged.work]
    exact keeps ⟨⟨sending.run.world, sending.run.work, []⟩, sending.state, response⟩
  · exact .fail _

variable (handles : plan.operation.Handles bounds)
include handles

theorem exchange_works (timeout : Timeout τ) : (plan.exchange timeout).Keeps (bounds.within (·.run.work)) := by
  have aside : ∀ {α : Type} {x : Act Fault (Run σ τ ω) α}, x.Keeps (bounds.within Run.work) →
      (onRun x).Keeps (bounds.within (·.run.work)) :=
    fun keeps => .on keeps fun _ _ kept => kept
  have transmits : ∀ request, (plan.transmit request timeout).Keeps (bounds.within Run.work) :=
    fun request => (plan.transmit_work request timeout).weaken fun _ _ => worked_of_same
  have greets : plan.greet.Keeps (bounds.within (·.run.work)) :=
    (plan.greet_keeps (plan.bounded_any _)).weaken fun _ _ kept => worked_of_same kept.1.1.work
  have deals : plan.deal.Keeps (bounds.within (·.run.work)) := by
    refine .bind (handleCurrent_works handles.judges) fun outcome => ?_
    split
    · exact .bind (handleCurrent_works (handles.finishes _)) fun _ => .pure _
    · exact .pure _
  refine .bind .read fun sending => .bind (aside (transmits _)) fun response => ?_
  refine .bind (.change fun sending => bounds.refl sending.run.work) fun _ => ?_
  refine .bind greets fun _ => .bind .read fun greeted => ?_
  split
  · exact .bind (aside (say_works _)) fun _ => deals
  · exact deals

theorem sign_works (request : Request) : (plan.sign request).Keeps (bounds.within Run.work) := by
  refine take_works ?_
  cases given : plan.operation.sign with
  | none => exact fun bench => bounds.refl bench.work
  | some sign => exact handles.signs sign given request

variable [Seconds τ] {progress next : Progress} {run after : Run σ τ ω} {trip : Trip σ τ ω}

theorem depart_works (progress : Progress) : (plan.depart progress).Keeps (bounds.within Run.work) := by
  have prepares : (plan.prepared progress.state).Keeps (bounds.within Run.work) :=
    plan.prepared_keeps (fun state => take_works (handles.builds state))
      (fun state request => take_works (handles.heads state request)) (sign_works handles) _
  have announces : ∀ request, (plan.announceRequest request progress.state).Keeps (bounds.within Run.work) :=
    fun request => .bind ((announceOn_works _ _).mapError _) fun _ => .bind (say_works _) fun _ => .pure _
  refine .bind (plan.check_keeps say_works _) fun _ => ?_
  exact .bind (plan.prepare_keeps say_works prepares _) fun _ => .bind (announces _) fun _ => .pure _

theorem conclude_works (attempted : Attempted) :
    (plan.conclude attempted).Keeps (bounds.within Run.work) := by
  have acts : ∀ {ε α : Type} (x : Act ε σ α),
      (outside x : Act ε (Run σ τ ω) α).Keeps (bounds.within Run.work) :=
    fun x => worked_of_aside (outside_keeps fun _ => trivial)
  have rests : ∀ interval, (plan.rest interval).Keeps (bounds.within Run.work) :=
    plan.rest_keeps say_works acts fun _ run _ => bounds.refl run.work
  refine plan.conclude_keeps say_works (fun run _ => bounds.refl run.work) (fun _ => acts _) ?_ attempted
  exact plan.retry_keeps say_works (fun state => take_works (handles.recovers state))
    (fun _ _ => announceOn_works _ _) rests

/-- What a turn leaves to the next is what it was given, as far as all steps leave it alone. -/
theorem Leads.works (leads : plan.Leads progress run next after) : bounds.rel run.work after.work := by
  obtain ⟨trip, attempted, landed, departs, registered, goesOn⟩ := leads
  have concluded : bounds.rel landed.work after.work := (conclude_works handles attempted).of_ok goesOn
  rw [(Run.still_iff.mp ((register_still trip).of_ok registered)).1] at concluded
  obtain ⟨prepared, request, timeout, announced, departed, rfl⟩ := departs
  have early : bounds.rel run.work announced.work := (depart_works handles progress).of_ok departed
  have met := exchange_works handles timeout ⟨announced, progress.state, ⟨request, none⟩⟩
  exact bounds.trans early (bounds.trans met concluded)

omit handles in
/-- The state of the next turn is what the steps made of this one's, at the location that comes next. -/
theorem Leads.advances {states : Frame AttemptState} (within : plan.operation.Within states)
    (leads : plan.Leads progress run next after) : ∃ recovered location,
      states.rel progress.state recovered ∧
      Mode.next recovered.mode recovered.location plan.endpoints = .ok location ∧
      next.state = { recovered.nextAttempt with location := .known location } := by
  obtain ⟨trip, attempted, landed, departs, registered, goesOn⟩ := leads
  obtain ⟨fault, bench, recovered, location, _, recovery, moved, rfl⟩ :=
    (plan.conclude_yields attempted).of_ok goesOn
  obtain ⟨prepared, request, timeout, announced, departed, rfl⟩ := departs
  have met := Plan.exchanged_bounded within.judges within.finishes request timeout progress.state announced
  rw [((register_yields _).of_ok registered).2] at recovery
  have recovers := (within.recovers _).of_ok (Prod.ext recovery rfl)
  exact ⟨recovered, location, states.trans met recovers, moved, rfl⟩

end Plan

end ObjectStore
