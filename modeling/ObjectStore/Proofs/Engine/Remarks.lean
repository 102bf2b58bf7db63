import ObjectStore.Engine.Execute
import ObjectStore.Proofs.Act.Frame

/-! What happens beside sending and pausing: listeners hear events and lines are logged. Such remarks
are added to the journal, and everything else is as the listeners and the steps leave it. -/

namespace ObjectStore

variable {σ τ ω : Type}

def Entry.isRemark : Entry τ → Bool
  | heard .. | logged .. => true
  | _ => false

theorem Entry.sent?_of_isRemark {entry : Entry τ} (remark : entry.isRemark = true) :
    entry.sent? = none := by
  cases entry <;> first | rfl | contradiction

namespace Run

/-- The context is as it was, and the journal goes on with remarks. -/
structure Follows (run after : Run σ τ ω) : Prop where
  context : after.context = run.context
  journal : ∃ remarks, (∀ entry ∈ remarks, entry.isRemark = true) ∧
    after.journal = run.journal ++ remarks

theorem Follows.refl (run : Run σ τ ω) : Follows run run :=
  ⟨rfl, [], by simp, by simp⟩

theorem Follows.trans {first second third : Run σ τ ω} (early : Follows first second)
    (late : Follows second third) : Follows first third := by
  obtain ⟨context, remarks, areRemarks, journal⟩ := early
  obtain ⟨context', remarks', areRemarks', journal'⟩ := late
  refine ⟨context'.trans context, remarks ++ remarks', ?_, ?_⟩
  · intro entry member
    rcases List.mem_append.mp member with member | member
    · exact areRemarks entry member
    · exact areRemarks' entry member
  · rw [journal', journal, List.append_assoc]

def follows : Frame (Run σ τ ω) :=
  ⟨Follows, .refl, .trans⟩

/-- Beyond that, the operation itself does nothing, and the world changes in bounds. -/
structure Aside (world : Frame σ) (run after : Run σ τ ω) : Prop extends Follows run after where
  work : after.work = run.work
  inWorld : world.rel run.world after.world

def aside (world : Frame σ) : Frame (Run σ τ ω) where
  rel := Aside world
  refl run := ⟨.refl run, rfl, world.refl _⟩
  trans early late :=
    ⟨early.toFollows.trans late.toFollows, late.work.trans early.work,
      world.trans early.inWorld late.inWorld⟩

/-- The bounds are on the world and on the exchange that listeners hear of. -/
def beside (bounds : Frame (σ × Exchange)) : Frame (Run σ τ ω × Exchange) where
  rel before after :=
    Aside (.any σ) before.1 after.1 ∧ bounds.rel (before.1.world, before.2) (after.1.world, after.2)
  refl _ := ⟨(aside _).refl _, bounds.refl _⟩
  trans early late := ⟨(aside _).trans early.1 late.1, bounds.trans early.2 late.2⟩

variable {world : Frame σ}

theorem Aside.widen {run after : Run σ τ ω} (aside : Aside world run after) :
    Aside (.any σ) run after :=
  ⟨aside.toFollows, aside.work, trivial⟩

/-- Lines that are said do not touch the exchange. -/
theorem beside_said {bounds : Frame (σ × Exchange)} {start : Run σ τ ω × Exchange} {after said : Run σ τ ω}
    {exchange : Exchange} (kept : (beside bounds).rel start (after, exchange))
    (aside : Aside (.same id) after said) : (beside bounds).rel start (said, exchange) := by
  have sameWorld : said.world = after.world := aside.inWorld
  refine ⟨(Run.aside _).trans kept.1 aside.widen, ?_⟩
  show bounds.rel _ (said.world, exchange)
  rw [sameWorld]
  exact kept.2

theorem note_aside (entry : Entry τ) (remark : entry.isRemark = true) (run : Run σ τ ω) :
    Aside world run (run.note entry) :=
  ⟨⟨rfl, [entry], by simpa using remark, rfl⟩, rfl, world.refl _⟩

theorem log_aside (threshold : Option Int) (line : Log.Line) (run : Run σ τ ω) :
    Aside world run (run.log threshold line) := by
  unfold log
  split
  · exact note_aside _ rfl run
  · exact (aside world).refl run

theorem logAll_aside (threshold : Option Int) (lines : List Log.Line) (run : Run σ τ ω) :
    Aside world run (run.logAll threshold lines) := by
  induction lines generalizing run with
  | nil => exact (aside world).refl run
  | cons line rest ih => exact (aside world).trans (log_aside threshold line run) (ih _)

theorem log_follows (threshold : Option Int) (line : Log.Line) (run : Run σ τ ω) :
    Follows run (run.log threshold line) := by
  have aside : Aside (.any σ) run (run.log threshold line) := log_aside threshold line run
  exact aside.toFollows

theorem logAll_follows (threshold : Option Int) (lines : List Log.Line) (run : Run σ τ ω) :
    Follows run (run.logAll threshold lines) := by
  have aside : Aside (.any σ) run (run.logAll threshold lines) := logAll_aside threshold lines run
  exact aside.toFollows

end Run

/-- Steps that leave the work of the operation alone. -/
def Bench.idle (world : Frame σ) : Frame (Bench σ ω) where
  rel before after := after.work = before.work ∧ world.rel before.world after.world
  refl _ := ⟨rfl, world.refl _⟩
  trans early late := ⟨late.1.trans early.1, world.trans early.2 late.2⟩

theorem Step.say_idle (world : Frame σ) (line : Log.Line) :
    (Step.say line : Step σ ω Unit).Keeps (Bench.idle world) :=
  fun bench => ⟨rfl, world.refl bench.world⟩

theorem Multicaster.callAll_append (call : α → Act ε σ Unit) (first second : List α) :
    callAll call (first ++ second) = callAll call first >>= fun _ => callAll call second := by
  induction first with
  | nil => rfl
  | cons listener rest ih =>
      funext s
      simp only [List.cons_append, callAll, ih, Act.bind_apply]
      cases call listener s with
      | mk result after => cases result <;> rfl

theorem Multicaster.callAll_keeps {call : α → Act ε σ Unit} {frame : Frame σ} {listeners : List α}
    (keeps : ∀ listener ∈ listeners, (call listener).Keeps frame) :
    (callAll call listeners).Keeps frame := by
  induction listeners with
  | nil => exact Act.Keeps.pure ()
  | cons listener rest ih =>
      exact .bind (keeps listener List.mem_cons_self)
        fun _ => ih fun other member => keeps other (List.mem_cons_of_mem _ member)

theorem Multicaster.callAll_returns {call : α → Act ε σ Unit} {listeners : List α}
    (returns : ∀ listener ∈ listeners, (call listener).Returns) : (callAll call listeners).Returns := by
  induction listeners with
  | nil => exact Act.Returns.pure ()
  | cons listener rest ih =>
      exact .bind (returns listener List.mem_cons_self)
        fun _ => ih fun other member => returns other (List.mem_cons_of_mem _ member)

/-- All listeners to a kind of events in the order in which they hear them. -/
def Engine.listeners (engine : Engine σ τ) (handlers : Handlers σ) (kind : Event.Kind) :
    List (Listener σ) :=
  (engine.handlers.of kind).listeners ++ (handlers.of kind).listeners

/-- What they do to the world and to an exchange stays in bounds. -/
def Engine.Bounded (engine : Engine σ τ) (handlers : Handlers σ) (bounds : Frame (σ × Exchange))
    (kind : Event.Kind) : Prop :=
  ∀ listener ∈ engine.listeners handlers kind, ∀ event, (listener.hear event).Keeps bounds

/-- They hear of every event without a fault. -/
def Engine.Polite (engine : Engine σ τ) (handlers : Handlers σ) (kind : Event.Kind) : Prop :=
  ∀ listener ∈ engine.listeners handlers kind, ∀ event, (listener.hear event).Returns

namespace Plan

variable {ε α : Type} (plan : Plan σ τ ω) {world : Frame σ} {bounds : Frame (σ × Exchange)}

abbrev Bounded (bounds : Frame (σ × Exchange)) (kind : Event.Kind) : Prop :=
  plan.engine.Bounded plan.handlers bounds kind

theorem say_ends {line : Log.Line} {run : Run σ τ ω} {Q : Unit → Run σ τ ω → Prop}
    {E : ε → Run σ τ ω → Prop} :
    (plan.say line).Ends run Q E ↔ Q () (run.log plan.engine.surroundings.logThreshold line) :=
  Iff.rfl

theorem say_keeps (line : Log.Line) : (plan.say line : Act ε (Run σ τ ω) Unit).Keeps (Run.aside world) :=
  fun run => Run.log_aside _ line run

theorem say_follows (line : Log.Line) :
    (plan.say line : Act ε (Run σ τ ω) Unit).Keeps Run.follows :=
  fun run => Run.log_follows _ line run

theorem take_keeps {step : Step σ ω α} (idle : step.Keeps (Bench.idle world)) :
    (plan.take step : Act Fault (Run σ τ ω) α).Keeps (Run.aside world) := by
  intro run
  have kept := idle ⟨run.world, run.work, []⟩
  refine (Run.aside world).trans (b := { run with world := _, work := _ }) ?_
    (Run.logAll_aside _ _ _)
  exact ⟨⟨rfl, [], by simp, by simp⟩, kept.1, kept.2⟩

/-- Whatever a step does, it neither sends nor pauses. -/
theorem take_follows (step : Step σ ω α) :
    (plan.take step : Act Fault (Run σ τ ω) α).Keeps Run.follows := by
  intro run
  refine Run.follows.trans (b := { run with world := _, work := _ }) ?_ (Run.logAll_follows _ _ _)
  exact ⟨rfl, [], by simp, by simp⟩

theorem take_ends (step : Step σ ω α) (run : Run σ τ ω) :
    (plan.take step).Ends run
      (fun a after => (step ⟨run.world, run.work, []⟩).1 = .ok a ∧ Run.Follows run after)
      (fun _ after => Run.Follows run after) := by
  have follows := plan.take_follows step run
  cases taken : plan.take step run with
  | mk result after =>
      rw [taken] at follows
      cases result with
      | ok a => exact (Act.ends_of_ok taken).mpr ⟨congrArg Prod.fst taken, follows⟩
      | error fault => exact (Act.ends_of_error taken).mpr follows

theorem outside_keeps {x : Act ε σ α} (keeps : x.Keeps world) :
    (outside x : Act ε (Run σ τ ω) α).Keeps (Run.aside world) :=
  Act.Keeps.on keeps fun _ _ inWorld => ⟨⟨rfl, [], by simp, by simp⟩, rfl, inWorld⟩

theorem outside_follows (x : Act ε σ α) : (outside x : Act ε (Run σ τ ω) α).Keeps Run.follows :=
  fun _ => ⟨rfl, [], by simp, (List.append_nil _).symm⟩

theorem now_apply (run : Run σ τ ω) :
    (plan.now : Act ε (Run σ τ ω) τ) run = (.ok (plan.engine.surroundings.clock run.world), run) := rfl

theorem tell_keeps {event : Event} {listener : Listener σ}
    (keeps : (listener.hear event).Keeps bounds) :
    (tell event listener : Act Fault (Run σ τ ω × Exchange) Unit).Keeps (Run.beside bounds) := by
  rintro ⟨run, exchange⟩
  have kept := keeps (run.world, exchange)
  have noted : Run.Aside (.any σ) run (run.note (.heard listener.name event exchange)) :=
    Run.note_aside _ rfl run
  refine ⟨(Run.aside _).trans noted ?_, kept⟩
  exact ⟨⟨rfl, [], by simp, (List.append_nil _).symm⟩, rfl, trivial⟩

theorem announce_eq (event : Event) :
    plan.announce event =
      Multicaster.callAll (tell event) (plan.engine.listeners plan.handlers event.kind) := by
  simp only [announce, Engine.listeners, Multicaster.callAll_append, Multicaster.fire]

theorem announce_keeps (event : Event) (bounded : plan.Bounded bounds event.kind) :
    (plan.announce event).Keeps (Run.beside bounds) := by
  rw [announce_eq]
  exact Multicaster.callAll_keeps fun listener member => tell_keeps (bounded listener member event)

theorem announceOn_ends (event : Event) (bounded : plan.Bounded bounds event.kind)
    (exchange : Exchange) (run : Run σ τ ω) :
    (plan.announceOn event exchange).Ends run
      (fun changed after => (Run.beside bounds).rel (run, exchange) (after, changed))
      (fun _ after => ∃ changed, (Run.beside bounds).rel (run, exchange) (after, changed)) := by
  have kept := plan.announce_keeps event bounded (run, exchange)
  obtain ⟨result, after, changed, announced⟩ : ∃ result after changed,
      plan.announce event (run, exchange) = (result, after, changed) := ⟨_, _, _, rfl⟩
  rw [announced] at kept
  cases result with
  | ok _ =>
      have run_eq : plan.announceOn event exchange run = (.ok changed, after) := by
        simp only [announceOn, announced]
      exact (Act.ends_of_ok run_eq).mpr kept
  | error fault =>
      have run_eq : plan.announceOn event exchange run = (.error fault, after) := by
        simp only [announceOn, announced]
      exact (Act.ends_of_error run_eq).mpr ⟨changed, kept⟩

theorem announceOn_keeps (event : Event) (bounded : plan.Bounded (world.within Prod.fst) event.kind)
    (exchange : Exchange) : (plan.announceOn event exchange).Keeps (Run.aside world) := by
  intro run
  have ends := plan.announceOn_ends event bounded exchange run
  unfold Act.Ends at ends
  split at ends
  · next announced =>
    rw [announced]
    exact ⟨ends.1.toFollows, ends.1.work, ends.2⟩
  · next announced =>
    obtain ⟨changed, aside, inWorld⟩ := ends
    rw [announced]
    exact ⟨aside.toFollows, aside.work, inWorld⟩

theorem announceOn_follows (event : Event) (exchange : Exchange) :
    (plan.announceOn event exchange).Keeps Run.follows := by
  have free : plan.Bounded ((Frame.any σ).within Prod.fst) event.kind := fun _ _ _ _ => trivial
  exact (plan.announceOn_keeps event free exchange).weaken fun _ _ aside => aside.toFollows

theorem announceOn_returns (event : Event) (polite : plan.engine.Polite plan.handlers event.kind)
    (exchange : Exchange) : (plan.announceOn event exchange).Returns := by
  intro run
  have returns : (plan.announce event).Returns := by
    rw [announce_eq]
    refine Multicaster.callAll_returns fun listener member => ?_
    rintro ⟨run, exchange⟩
    obtain ⟨_, _, heard⟩ := polite listener member event (run.world, exchange)
    exact ⟨(), _, by rw [tell]; simp only [Run.note, heard]; rfl⟩
  obtain ⟨_, ⟨after, changed⟩, announced⟩ := returns (run, exchange)
  exact ⟨changed, after, by simp only [announceOn, announced]⟩

theorem bounded_any (kind : Event.Kind) : plan.Bounded (.any _) kind :=
  fun _ _ _ _ => trivial

end Plan

end ObjectStore
