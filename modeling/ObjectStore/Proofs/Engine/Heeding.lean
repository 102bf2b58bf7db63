import ObjectStore.Proofs.Engine.Course

/-! Cancellation on its way through a run. A token that is cancelled stays cancelled, whoever acts next, and
the journal tells what is still announced and sent after a listener cancelled it. -/

namespace ObjectStore

variable {σ τ ω : Type}

/-- An attempt is announced, or its request goes out. -/
def Entry.announces : Entry τ → Bool
  | .sent .. | .heard _ (.sendingRequest _) _ => true
  | _ => false

/-- Something is heard of an attempt whose request went out. -/
def Entry.reacts : Entry τ → Bool
  | .heard _ (.sendingRequest _) _ => false
  | .heard .. => true
  | _ => false

/-- What was cancelled stays cancelled. -/
def Surroundings.lasting (surroundings : Surroundings σ τ) (token : String) : Frame σ where
  rel before after := surroundings.isCancelled token before = true → surroundings.isCancelled token after = true
  refl _ := id
  trans early late := late ∘ early

/-- What the steps of an operation do to the world stays in bounds. -/
structure Operation.Respects (operation : Operation σ τ ω) (bounds : Frame σ) : Prop where
  builds : ∀ state, (operation.build state).Keeps (bounds.within Bench.world)
  heads : ∀ state request, (operation.setHeaders state request).Keeps (bounds.within Bench.world)
  signs : ∀ sign, operation.sign = some sign → ∀ request, (sign request).Keeps (bounds.within Bench.world)
  judges : operation.judge.Keeps (bounds.within (·.bench.world))
  finishes : ∀ product, (operation.finish product).Keeps (bounds.within (·.bench.world))
  recovers : ∀ state, (operation.recover state).Keeps (bounds.within Bench.world)

/-- Nobody who has a part in an operation can take a cancellation back, and it ends a pause at once. -/
structure Engine.Binding (engine : Engine σ τ) (operation : Operation σ τ ω) (policy : Policy σ τ)
    (handlers : Handlers σ) (token : String) : Prop where
  sends : ∀ outgoing, (engine.surroundings.send outgoing).Keeps (engine.surroundings.lasting token)
  sleeps : ∀ interval, (engine.surroundings.sleep interval).Keeps (engine.surroundings.lasting token)
  waits : ∀ name interval, (engine.surroundings.wait name interval).Keeps (engine.surroundings.lasting token)
  decides : ∀ context, (policy.decide context).Keeps (engine.surroundings.lasting token)
  hears : ∀ kind, engine.Bounded handlers ((engine.surroundings.lasting token).within Prod.fst) kind
  works : operation.Respects (engine.surroundings.lasting token)
  wakes : ∀ interval world, engine.surroundings.isCancelled token world = true →
    ∃ after, engine.surroundings.wait token interval world = (.ok true, after)

/-- A listener is told of something that makes it cancel the token. -/
def Engine.Cancels (engine : Engine σ τ) (handlers : Handlers σ) (token : String) : Entry τ → Prop
  | .heard name event exchange =>
    ∀ listener ∈ engine.listeners handlers event.kind, listener.name = name → ∀ world,
      engine.surroundings.isCancelled token (listener.hear event (world, exchange)).2.1 = true
  | _ => False

namespace Plan

variable {ε α : Type} (plan : Plan σ τ ω) (token : String) (allowed : Entry τ → Prop)

abbrev Binding : Prop :=
  plan.engine.Binding plan.operation plan.policy plan.handlers token

/-- The journal goes on with entries that are allowed, and what was cancelled before or by a listener on the
way is cancelled at the end. -/
def heeding : Frame (Run σ τ ω) where
  rel before after := ∃ added, after.journal = before.journal ++ added ∧ (∀ entry ∈ added, allowed entry) ∧
    (plan.engine.surroundings.isCancelled token before.world = true ∨
        (∃ entry ∈ added, plan.engine.Cancels plan.handlers token entry) →
      plan.engine.surroundings.isCancelled token after.world = true)
  refl _ := ⟨[], (List.append_nil _).symm, List.forall_mem_nil _, by simp⟩
  trans := by
    rintro first second third ⟨added, journal, all, lasts⟩ ⟨added', journal', all', lasts'⟩
    refine ⟨added ++ added', ?_, List.forall_mem_append.mpr ⟨all, all'⟩, ?_⟩
    · rw [journal', journal, List.append_assoc]
    · rintro (before | ⟨entry, member, cancels⟩)
      · exact lasts' (.inl (lasts (.inl before)))
      · rcases List.mem_append.mp member with early | late
        · exact lasts' (.inl (lasts (.inr ⟨entry, early, cancels⟩)))
        · exact lasts' (.inr ⟨entry, late, cancels⟩)

variable {plan token allowed}

theorem heeding_of_still {run after : Run σ τ ω} (journal : after.journal = run.journal)
    (lasts : (plan.engine.surroundings.lasting token).rel run.world after.world) :
    (plan.heeding token allowed).rel run after := by
  refine ⟨[], by rw [journal, List.append_nil], List.forall_mem_nil _, ?_⟩
  rintro (before | ⟨_, member, _⟩)
  · exact lasts before
  · exact absurd member List.not_mem_nil

theorem heeding_note {entry : Entry τ} (may : allowed entry) (unheard : entry.heard? = none)
    (run : Run σ τ ω) : (plan.heeding token allowed).rel run (run.note entry) := by
  refine ⟨[entry], rfl, List.forall_mem_singleton.mpr may, ?_⟩
  rintro (before | ⟨other, member, cancels⟩)
  · exact before
  · rw [List.mem_singleton.mp member] at cancels
    cases entry with
    | heard name event exchange => cases unheard
    | _ => exact cancels.elim

section Logged

variable (logs : ∀ record, allowed (.logged record))
include logs

theorem heeding_log (threshold : Option Int) (line : Log.Line) (run : Run σ τ ω) :
    (plan.heeding token allowed).rel run (run.log threshold line) := by
  unfold Run.log
  split
  · exact heeding_note (logs _) rfl run
  · exact (plan.heeding token allowed).refl run

theorem heeding_logAll (threshold : Option Int) (lines : List Log.Line) (run : Run σ τ ω) :
    (plan.heeding token allowed).rel run (run.logAll threshold lines) := by
  induction lines generalizing run with
  | nil => exact (plan.heeding token allowed).refl run
  | cons line rest ih => exact (plan.heeding token allowed).trans (heeding_log logs threshold line run) (ih _)

theorem say_heeds (line : Log.Line) :
    (plan.say line : Act ε (Run σ τ ω) Unit).Keeps (plan.heeding token allowed) :=
  fun run => heeding_log logs _ line run

theorem take_heeds {step : Step σ ω α}
    (keeps : step.Keeps ((plan.engine.surroundings.lasting token).within Bench.world)) :
    (plan.take step).Keeps (plan.heeding token allowed) := by
  intro run
  have worked : (plan.heeding token allowed).rel run
      { run with world := (step ⟨run.world, run.work, []⟩).2.world
                 work := (step ⟨run.world, run.work, []⟩).2.work } :=
    heeding_of_still rfl (keeps ⟨run.world, run.work, []⟩)
  exact (plan.heeding token allowed).trans worked (heeding_logAll logs _ _ _)

theorem handleCurrent_heeds {step : Handling σ ω α}
    (keeps : step.Keeps ((plan.engine.surroundings.lasting token).within (·.bench.world))) :
    (plan.handleCurrent step).Keeps ((plan.heeding token allowed).within Sending.run) := by
  refine .bind .read fun sending => ?_
  split
  · next response _ =>
    intro sending
    have kept := keeps ⟨⟨sending.run.world, sending.run.work, []⟩, sending.state, response⟩
    refine (plan.heeding token allowed).trans (b := { sending.run with world := _, work := _ }) ?_
      (heeding_logAll logs _ _ _)
    exact heeding_of_still rfl kept
  · exact .fail _

end Logged

theorem outside_heeds {x : Act ε σ α} (keeps : x.Keeps (plan.engine.surroundings.lasting token)) :
    (outside x : Act ε (Run σ τ ω) α).Keeps (plan.heeding token allowed) :=
  Act.Keeps.on keeps fun _ _ lasts => heeding_of_still rfl lasts

/-- Who is told of an event may cancel the token, and nobody takes that back. -/
theorem tell_heeds {event : Event} {listener : Listener σ}
    (member : listener ∈ plan.engine.listeners plan.handlers event.kind)
    (keeps : (listener.hear event).Keeps ((plan.engine.surroundings.lasting token).within Prod.fst))
    (may : ∀ name exchange, allowed (.heard name event exchange)) :
    (tell event listener : Act Fault (Run σ τ ω × Exchange) Unit).Keeps
      ((plan.heeding token allowed).within Prod.fst) := by
  rintro ⟨run, exchange⟩
  refine ⟨[.heard listener.name event exchange], rfl, List.forall_mem_singleton.mpr (may _ _), ?_⟩
  rintro (before | ⟨entry, one, cancels⟩)
  · exact keeps (run.world, exchange) before
  · rw [List.mem_singleton.mp one] at cancels
    exact cancels listener member rfl run.world

section Bound

variable (binding : plan.Binding token)
include binding

theorem announce_heeds {event : Event} (may : ∀ name exchange, allowed (.heard name event exchange)) :
    (plan.announce event).Keeps ((plan.heeding token allowed).within Prod.fst) := by
  rw [announce_eq]
  exact Multicaster.callAll_keeps fun listener member =>
    tell_heeds member (binding.hears event.kind listener member event) may

theorem announceOn_heeds {event : Event} (may : ∀ name exchange, allowed (.heard name event exchange))
    (exchange : Exchange) : (plan.announceOn event exchange).Keeps (plan.heeding token allowed) := by
  intro run
  have heeds := announce_heeds binding may (run, exchange)
  unfold announceOn
  split
  · next announced =>
    rw [announced] at heeds
    exact heeds
  · next announced =>
    rw [announced] at heeds
    exact heeds

variable (logs : ∀ record, allowed (.logged record))
include logs

omit logs in
theorem transmit_heeds (sends : ∀ outgoing clock, allowed (.sent outgoing clock)) (request : Request)
    (timeout : Timeout τ) : (plan.transmit request timeout).Keeps (plan.heeding token allowed) := by
  refine .bind (.ofExcept _) fun outgoing => .bind (plan.heeding token allowed).refl fun clock => ?_
  refine .bind (.change fun run => heeding_note (sends _ _) rfl run) fun _ => ?_
  exact .bind (outside_heeds (binding.sends _)) fun reply => .ofExcept _

theorem deal_heeds : plan.deal.Keeps ((plan.heeding token allowed).within Sending.run) := by
  refine .bind (handleCurrent_heeds logs binding.works.judges) fun outcome => ?_
  split
  · exact .bind (handleCurrent_heeds logs (binding.works.finishes _)) fun _ => .pure _
  · exact .pure _

theorem attend_heeds (may : ∀ name exchange, allowed (.heard name .responseReceived exchange))
    (response : Response) :
    (plan.attend response).Keeps ((plan.heeding token allowed).within Sending.run) := by
  refine .bind (.change fun sending => (plan.heeding token allowed).refl sending.run) fun _ => ?_
  refine .bind (.on (announce_heeds binding may) fun _ _ kept => kept) fun _ => ?_
  refine .bind .read fun sending => ?_
  split
  · refine .bind (.on (say_heeds logs _) fun _ _ kept => kept) fun _ => deal_heeds binding logs
  · exact deal_heeds binding logs

theorem sign_heeds (request : Request) : (plan.sign request).Keeps (plan.heeding token allowed) := by
  refine take_heeds logs ?_
  cases given : plan.operation.sign with
  | none => exact fun bench => (plan.engine.surroundings.lasting token).refl bench.world
  | some sign => exact binding.works.signs sign given request

variable [Seconds τ]

theorem depart_heeds (may : ∀ count name exchange, allowed (.heard name (.sendingRequest count) exchange))
    (progress : Progress) : (plan.depart progress).Keeps (plan.heeding token allowed) := by
  have said : ∀ {ε : Type} line, (plan.say line : Act ε (Run σ τ ω) Unit).Keeps (plan.heeding token allowed) :=
    fun line => say_heeds logs line
  have prepares : (plan.prepared progress.state).Keeps (plan.heeding token allowed) :=
    plan.prepared_keeps (fun state => take_heeds logs (binding.works.builds state))
      (fun state request => take_heeds logs (binding.works.heads state request))
      (sign_heeds binding logs) _
  refine .bind (plan.check_keeps said _) fun _ => .bind (plan.prepare_keeps said prepares _) fun prepared => ?_
  refine .bind (.bind ((announceOn_heeds binding (may _) _).mapError _) fun _ => ?_) fun _ => .pure _
  exact .bind (said _) fun _ => .pure _

omit logs in
theorem register_heeds (may : ∀ result name exchange, allowed (.heard name (.requestCompleted result) exchange))
    (trip : Trip σ τ ω) : (plan.register trip).Keeps (plan.heeding token allowed) := by
  have records : ∀ started start met,
      (plan.record started start met).Keeps (plan.heeding token allowed) := by
    intro started start met
    refine .of_ends fun run => (plan.record_ends started start met run).mono ?_ ?_
    · rintro result after ⟨time, rfl, _⟩
      exact heeding_of_still rfl id
    · rintro fault after ⟨time, rfl⟩
      exact heeding_of_still rfl id
  refine .mapError _ (.bind (records _ _ _) fun result => ?_)
  exact .bind (announceOn_heeds binding (may result) _) fun _ => .pure _

omit [Seconds τ] in
theorem rest_heeds (pauses : ∀ span clock, allowed (.slept span clock) ∧ allowed (.waited span clock))
    (interval : τ) : (plan.rest interval).Keeps (plan.heeding token allowed) := by
  refine .bind (plan.heeding token allowed).refl fun clock => .bind .read fun run => ?_
  split
  · refine .bind (outside_heeds ((binding.sleeps _).mapError _)) fun _ => ?_
    exact .change fun run => heeding_note (pauses _ _).1 rfl run
  · refine .bind (.change fun run => heeding_note (pauses _ _).2 rfl run) fun _ => ?_
    refine .bind (outside_heeds ((binding.waits _ _).mapError _)) fun ended => ?_
    split
    · exact .bind (say_heeds logs _) fun _ => (plan.heeding token allowed).refl
    · exact .pure ()

theorem conclude_heeds (may : ∀ context name exchange, allowed (.heard name (.retrying context) exchange))
    (pauses : ∀ span clock, allowed (.slept span clock) ∧ allowed (.waited span clock))
    (attempted : Attempted) : (plan.conclude attempted).Keeps (plan.heeding token allowed) := by
  refine plan.conclude_keeps (say_heeds logs) (fun _ _ => heeding_of_still rfl id)
    (fun context => outside_heeds (binding.decides context)) ?_ attempted
  exact plan.retry_keeps (say_heeds logs) (fun state => take_heeds logs (binding.works.recovers state))
    (fun context exchange => announceOn_heeds binding (may context) exchange)
    (rest_heeds binding logs pauses)

end Bound

end Plan

end ObjectStore
