import ObjectStore.Proofs.Engine.Course
import ObjectStore.Proofs.Log.Entry

/-! Log entries on one line, as far as a run has them. What the engine says on its way is on one line whatever
the request and the response are, but for the entries that show a fault, and steps that say nothing else keep it
so. -/

namespace ObjectStore

variable {σ τ ω : Type}

theorem Text.inline_replaceChar {other : List Char} (inline : '\n' ∉ other) (s : String) :
    Text.Inline (Text.replaceChar '\n' other s) := by
  rw [Text.replaceChar, Text.inline_ofList, List.mem_flatMap]
  rintro ⟨c, -, member⟩
  split at member
  · exact inline member
  · next differs => exact differs (List.mem_singleton.mp member).symm

/-- A fault whose text is shown by an entry of a level. -/
structure Showing where
  level : Int
  fault : Fault

/-- If anybody hears of it, what the fault says is on one line. -/
def Showing.Tidy (audience : Log.Audience) (showing : Showing) : Prop :=
  audience.hears showing.level = true → Text.Inline showing.fault.message

instance (audience : Log.Audience) (showing : Showing) : Decidable (showing.Tidy audience) :=
  inferInstanceAs (Decidable (_ → _))

namespace Run

/-- All that was logged. -/
def records (run : Run σ τ ω) : List Log.Record :=
  run.journal.filterMap Entry.logged?

/-- As long as an audience listens, entries are logged that are all on one line if and only if what is shown
of faults is. -/
def Logs (threshold : Option Int) (audience : Log.Audience) (shown : List Showing) (run after : Run σ τ ω) :
    Prop :=
  run.context.audience threshold = audience → after.context.audience threshold = audience ∧
    ∃ added, after.records = run.records ++ added ∧
      ((∀ record ∈ added, Text.Inline record.message) ↔ ∀ showing ∈ shown, showing.Tidy audience)

section Logs

variable {threshold : Option Int} {audience : Log.Audience} {shown more : List Showing}
  {run between after : Run σ τ ω}

theorem Logs.of_still (records : after.records = run.records)
    (settled : after.context.audience threshold = run.context.audience threshold) :
    Logs threshold audience [] run after := by
  intro listens
  exact ⟨settled.trans listens, [], by rw [records, List.append_nil], by simp⟩

theorem Logs.append (early : Logs threshold audience shown run between)
    (late : Logs threshold audience more between after) :
    Logs threshold audience (shown ++ more) run after := by
  intro listens
  obtain ⟨listens, added, records, iff⟩ := early listens
  obtain ⟨listens, added', records', iff'⟩ := late listens
  refine ⟨listens, added ++ added', by rw [records', records, List.append_assoc], ?_⟩
  rw [List.forall_mem_append, List.forall_mem_append, iff, iff']

/-- Nothing of a fault is shown. -/
def tidy (threshold : Option Int) (audience : Log.Audience) : Frame (Run σ τ ω) where
  rel := Logs threshold audience []
  refl _ := .of_still rfl rfl
  trans early late := early.append late

theorem note_tidy {entry : Entry τ} (silent : entry.logged? = none) (run : Run σ τ ω) :
    (tidy threshold audience).rel run (run.note entry) := by
  refine Logs.of_still ?_ rfl
  simp [records, note, List.filterMap_append, silent]

variable (opens : Text.Inline audience.opening) {line : Log.Line}
include opens

theorem log_logs (shows : (audience.hears line.level = true → Text.Inline line.text) ↔
      ∀ showing ∈ shown, showing.Tidy audience) (run : Run σ τ ω) :
    Logs threshold audience shown run (run.log threshold line) := by
  intro listens
  unfold log
  rw [listens]
  split
  · next record made =>
    have hears : audience.hears line.level = true := by
      unfold Log.Audience.record? at made
      split at made
      · assumption
      · cases made
    refine ⟨listens, [record], by simp [records, note, Entry.logged?], ?_⟩
    rw [List.forall_mem_singleton, Log.Audience.inline_record opens made, ← shows, imp_iff_right hears]
  · next unheard =>
    have deaf : ¬ audience.hears line.level = true := by
      intro hears
      rw [Log.Audience.record?, if_pos hears] at unheard
      cases unheard
    refine ⟨listens, [], (List.append_nil _).symm, ?_⟩
    rw [← shows]
    simp [deaf]

theorem log_tidy (inline : Text.Inline line.text) (run : Run σ τ ω) :
    (tidy threshold audience).rel run (run.log threshold line) :=
  log_logs opens (iff_of_true (fun _ => inline) (List.forall_mem_nil _)) run

/-- An entry that shows a fault, and is otherwise on one line. -/
theorem log_shows {fault : Fault} (same : Text.Inline line.text ↔ Text.Inline fault.message)
    (run : Run σ τ ω) : Logs threshold audience [⟨line.level, fault⟩] run (run.log threshold line) := by
  refine log_logs opens ?_ run
  rw [List.forall_mem_singleton, Showing.Tidy, same]

theorem logAll_tidy {lines : List Log.Line} (inline : ∀ line ∈ lines, Text.Inline line.text)
    (run : Run σ τ ω) : (tidy threshold audience).rel run (run.logAll threshold lines) := by
  induction lines generalizing run with
  | nil => exact (tidy threshold audience).refl run
  | cons line rest ih =>
      obtain ⟨first, others⟩ := List.forall_mem_cons.mp inline
      exact (tidy threshold audience).trans (log_tidy opens first run) (ih others _)

end Logs

end Run

/-- Lines that a step says are on one line. -/
def Bench.tidy : Frame (Bench σ ω) where
  rel before after := (∀ line ∈ before.said, Text.Inline line.text) → ∀ line ∈ after.said, Text.Inline line.text
  refl _ := id
  trans early late := late ∘ early

theorem Bench.tidy_of_same {before after : Bench σ ω} (same : after.said = before.said) :
    Bench.tidy.rel before after := by
  intro inline
  rwa [same]

theorem Step.say_tidy {line : Log.Line} (inline : Text.Inline line.text) :
    (Step.say line : Step σ ω Unit).Keeps Bench.tidy :=
  fun _ before => List.forall_mem_append.mpr ⟨before, List.forall_mem_singleton.mpr inline⟩

/-- Whatever the steps of an operation say is on one line. -/
structure Operation.Tidy (operation : Operation σ τ ω) : Prop where
  builds : ∀ state, (operation.build state).Keeps Bench.tidy
  heads : ∀ state request, (operation.setHeaders state request).Keeps Bench.tidy
  signs : ∀ sign, operation.sign = some sign → ∀ request, (sign request).Keeps Bench.tidy
  judges : operation.judge.Keeps (Bench.tidy.within Receipt.bench)
  finishes : ∀ product, (operation.finish product).Keeps (Bench.tidy.within Receipt.bench)
  recovers : ∀ state, (operation.recover state).Keeps Bench.tidy

theorem Authentication.inline_sign (authentication : Authentication) (request : Request) :
    ∀ line ∈ (authentication.sign request).1, Text.Inline line.text := by
  unfold sign
  split
  · exact List.forall_mem_nil _
  · split
    · exact List.forall_mem_nil _
    · exact List.forall_mem_nil _
    · refine List.forall_mem_singleton.mpr ((Log.inline_format_iff rfl).mpr ⟨by decide, ?_⟩)
      exact List.forall_mem_singleton.mpr (Text.inline_replaceChar (by decide) _)
  · exact List.forall_mem_nil _

namespace Plan

variable {ε α : Type} (plan : Plan σ τ ω) {audience : Log.Audience}

abbrev tidy (audience : Log.Audience) : Frame (Run σ τ ω) :=
  Run.tidy plan.engine.surroundings.logThreshold audience

variable {plan}

theorem outside_tidy (x : Act ε σ α) : (outside x : Act ε (Run σ τ ω) α).Keeps (plan.tidy audience) :=
  fun _ => .of_still rfl rfl

theorem tell_tidy (event : Event) (listener : Listener σ) :
    (tell event listener : Act Fault (Run σ τ ω × Exchange) Unit).Keeps
      ((plan.tidy audience).within Prod.fst) := by
  rintro ⟨run, exchange⟩
  exact (plan.tidy audience).trans (Run.note_tidy rfl run) (.of_still rfl rfl)

theorem announce_tidy (event : Event) :
    (plan.announce event).Keeps ((plan.tidy audience).within Prod.fst) := by
  rw [announce_eq]
  exact Multicaster.callAll_keeps fun listener _ => tell_tidy event listener

theorem announceOn_tidy (event : Event) (exchange : Exchange) :
    (plan.announceOn event exchange).Keeps (plan.tidy audience) := by
  intro run
  have kept : ((plan.tidy audience).within Prod.fst).rel _ _ := announce_tidy event (run, exchange)
  unfold announceOn
  split
  · next announced =>
    rw [announced] at kept
    exact kept
  · next announced =>
    rw [announced] at kept
    exact kept

theorem transmit_tidy (request : Request) (timeout : Timeout τ) :
    (plan.transmit request timeout).Keeps (plan.tidy audience) := by
  refine .bind (.ofExcept _) fun outgoing => .bind (plan.tidy audience).refl fun clock => ?_
  refine .bind (.change fun run => Run.note_tidy rfl run) fun _ => ?_
  exact .bind (outside_tidy _) fun reply => .ofExcept _

section Saying

variable (opens : Text.Inline audience.opening)
include opens

theorem say_tidy {line : Log.Line} (inline : Text.Inline line.text) :
    (plan.say line : Act ε (Run σ τ ω) Unit).Keeps (plan.tidy audience) :=
  Run.log_tidy opens inline

theorem take_tidy {step : Step σ ω α} (keeps : step.Keeps Bench.tidy) :
    (plan.take step).Keeps (plan.tidy audience) := by
  intro run
  have inline := keeps ⟨run.world, run.work, []⟩ (List.forall_mem_nil _)
  refine (plan.tidy audience).trans (b := { run with world := _, work := _ }) ?_
    (Run.logAll_tidy opens inline _)
  exact .of_still rfl rfl

theorem handleCurrent_tidy {step : Handling σ ω α} (keeps : step.Keeps (Bench.tidy.within Receipt.bench)) :
    (plan.handleCurrent step).Keeps ((plan.tidy audience).within Sending.run) := by
  refine .bind .read fun sending => ?_
  split
  · next response _ =>
    intro sending
    have inline := keeps ⟨⟨sending.run.world, sending.run.work, []⟩, sending.state, response⟩ (List.forall_mem_nil _)
    refine (plan.tidy audience).trans (b := { sending.run with world := _, work := _ }) ?_
      (Run.logAll_tidy opens inline _)
    exact .of_still rfl rfl
  · exact .fail _

/-- What is logged of a response is on one line, whatever the server sent. -/
theorem received_tidy (response : Response) :
    (plan.say (receivedLine response) : Act ε (Run σ τ ω) Unit).Keeps (plan.tidy audience) := by
  refine say_tidy opens ((Log.inline_format_iff rfl).mpr ⟨by decide, ?_⟩)
  simp

variable (tidy : plan.operation.Tidy)
include tidy

theorem deal_tidy : plan.deal.Keeps ((plan.tidy audience).within Sending.run) := by
  refine .bind (handleCurrent_tidy opens tidy.judges) fun outcome => ?_
  split
  · exact .bind (handleCurrent_tidy opens (tidy.finishes _)) fun _ => .pure _
  · exact .pure _

theorem exchange_tidy (timeout : Timeout τ) :
    (plan.exchange timeout).Keeps ((plan.tidy audience).within Sending.run) := by
  have aside : ∀ {α : Type} {x : Act Fault (Run σ τ ω) α}, x.Keeps (plan.tidy audience) →
      (onRun x).Keeps ((plan.tidy audience).within Sending.run) :=
    fun keeps => .on keeps fun _ _ kept => kept
  have greets : plan.greet.Keeps ((plan.tidy audience).within Sending.run) :=
    .on (announce_tidy _) fun _ _ kept => kept
  refine .bind .read fun sending => .bind (aside (transmit_tidy _ _)) fun response => ?_
  refine .bind (.change fun sending => (plan.tidy audience).refl sending.run) fun _ => ?_
  refine .bind greets fun _ => .bind .read fun greeted => ?_
  split
  · exact .bind (aside (received_tidy opens _)) fun _ => deal_tidy opens tidy
  · exact deal_tidy opens tidy

theorem sign_tidy (request : Request) : (plan.sign request).Keeps (plan.tidy audience) := by
  refine take_tidy opens ?_
  cases given : plan.operation.sign with
  | some sign => exact tidy.signs sign given request
  | none =>
      intro bench before
      exact List.forall_mem_append.mpr ⟨before, Authentication.inline_sign _ request⟩

variable [Seconds τ]

theorem prepared_tidy (state : AttemptState) : (plan.prepared state).Keeps (plan.tidy audience) :=
  plan.prepared_keeps (fun state => take_tidy opens (tidy.builds state))
    (fun state request => take_tidy opens (tidy.heads state request)) (sign_tidy opens tidy) state

theorem attempt_tidy (request : Request) (timeout : Timeout τ) (state : AttemptState) :
    (plan.attempt request timeout state).Keeps (plan.tidy audience) := by
  have records : ∀ started start met, (plan.record started start met).Keeps (plan.tidy audience) := by
    intro started start met
    refine .of_ends fun run => (plan.record_ends started start met run).mono ?_ ?_
    · rintro result after ⟨time, rfl, _⟩
      exact .of_still rfl rfl
    · rintro fault after ⟨time, rfl⟩
      exact .of_still rfl rfl
  have reports : ∀ started start met, (plan.report started start met).Keeps (plan.tidy audience) :=
    fun started start met => .bind (records started start met) fun result =>
      .bind (announceOn_tidy _ _) fun _ => .pure _
  intro run
  rw [plan.attempt_eq rfl]
  exact (plan.tidy audience).trans (exchange_tidy opens tidy timeout ⟨run, state, ⟨request, none⟩⟩)
    (reports _ _ _ _)

end Saying

end Plan

end ObjectStore
