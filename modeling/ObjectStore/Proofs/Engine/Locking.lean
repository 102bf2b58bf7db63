import ObjectStore.Proofs.Engine.Accord
import ObjectStore.Proofs.Engine.Plain
import ObjectStore.Proofs.Engine.Work
import ObjectStore.Proofs.Transfer.Footprint

/-! Operations one after another in a context that is locked to a location. The lock is on the location that
served the last of them, so a read stays where the first was served only as long as nothing that must go to
the primary location succeeds in between. -/

namespace ObjectStore

variable {σ τ ω : Type}

/-- The attempt is at a location, and its mode stays there. -/
def AttemptState.At (state : AttemptState) (location : Location) : Prop :=
  state.location = .known location ∧ state.mode = .known (Mode.staying (.known location))

theorem AttemptState.At.of_anchored {before after : AttemptState} {location : Location}
    (here : before.At location) (kept : anchored.rel before after) : after.At location := by
  refine ⟨kept.1.trans here.1, ?_⟩
  rcases kept.2 with same | pin
  · exact same.trans here.2
  · rw [pin, here.1]

variable [Seconds τ]

namespace Plan

variable {plan : Plan σ τ ω} {progress next : Progress} {run after last : Run σ τ ω} {trip : Trip σ τ ω}
  {trips : List (Trip σ τ ω)} {result : Except Failure (Option Answer)} {location : Location}
  (within : plan.operation.Within AttemptState.anchored)
include within

theorem Leads.stays (leads : plan.Leads progress run next after) (here : progress.state.At location) :
    next.state.At location := by
  obtain ⟨recovered, other, kept, moved, same⟩ := leads.advances within
  obtain ⟨_, mode⟩ := here.of_anchored kept
  rw [mode] at moved
  rw [same, Endpoints.next_staying moved]
  exact ⟨rfl, mode⟩

theorem Course.stays (course : plan.Course progress run trips result last)
    (here : progress.state.At location) : ∀ trip ∈ trips, trip.state.location = .known location ∧
      (plan.operation.Unmoving → trip.prepared.location = some location) := by
  intro trip member
  obtain ⟨turn, reached, departs, there⟩ : ∃ turn reached, plan.Departs turn reached trip ∧
      turn.state.At location :=
    Course.departs_of (fun leads => leads.stays within) course here trip member
  have same : trip.state.location = .known location := by
    rw [departs.state]
    exact there.1
  refine ⟨same, fun unmoving => ?_⟩
  have pointed := departs.pointed unmoving
  rw [same] at pointed
  obtain ⟨place, target, known⟩ := Option.map_eq_some_iff.mp pointed
  rw [target, Named.known.inj known]

/-- What is registered of a trip is at the location of the trip. -/
theorem Departs.registers {attempted : Attempted} {landed : Run σ τ ω} (departs : plan.Departs progress run trip)
    (registered : plan.register trip trip.landed = (.ok attempted, landed)) :
    attempted.state.location = trip.state.location := by
  rw [((register_yields trip).of_ok registered).2]
  obtain ⟨prepared, request, timeout, announced, _, rfl⟩ := departs
  exact (exchanged_bounded within.judges within.finishes request timeout progress.state announced).1

/-- An operation that succeeds is served by the location of its last attempt, and one that does not is
served by none. -/
theorem Course.hosted (course : plan.Course progress run trips result last) :
    (∃ answer trip, result = .ok (some answer) ∧ trips.getLast? = some trip ∧
      last.context.host = trip.state.location) ∨
    (∀ answer, result ≠ .ok (some answer)) ∧ last.context.host = run.context.host := by
  have launched : ∀ progress (run : Run σ τ ω),
      (plan.launch progress run).2.context.host = run.context.host := by
    intro progress run
    have kept : (plan.launch progress run).2.context.standing = run.context.standing :=
      plan.launch_standing progress run
    exact (Prod.mk.inj kept).2
  induction course with
  | spent => exact .inr ⟨nofun, rfl⟩
  | @unready progress run failure after refused =>
      refine .inr ⟨nofun, ?_⟩
      rw [((plan.depart_follows progress).of_error refused).context]
  | @unregistered progress run trip failure after departs refused =>
      have same := launched progress run
      rw [launch_of_departs departs, refused] at same
      exact .inr ⟨nofun, same⟩
  | @ended progress run trip attempted landed result after departs registered ends stopped =>
      have same := launched progress run
      rw [launch_of_departs departs, registered] at same
      have hosts := plan.conclude_host attempted landed
      cases concluded : plan.conclude attempted landed with
      | mk turn left =>
      rw [concluded] at ends stopped
      obtain rfl : left = after := stopped
      cases turn with
      | error failure =>
          cases ends
          exact .inr ⟨nofun, ((Act.ends_of_error concluded).mp hosts).trans same⟩
      | ok turn =>
          cases turn with
          | again next => cases ends
          | done answer =>
              cases ends
              refine .inl ⟨answer, trip, rfl, rfl, ?_⟩
              exact ((Act.ends_of_ok concluded).mp hosts).trans (departs.registers within registered)
  | @again progress run trip attempted landed next after trips result last departs registered goesOn rest ih =>
      have same := launched progress run
      rw [launch_of_departs departs, registered] at same
      have onward : after.context.host = landed.context.host :=
        (Act.ends_of_ok goesOn).mp (plan.conclude_host attempted landed)
      rcases ih with ⟨answer, final, succeeded, isLast, served⟩ | ⟨failed, kept⟩
      · refine .inl ⟨answer, final, succeeded, ?_, served⟩
        rw [List.getLast?_cons, isLast]
        rfl
      · exact .inr ⟨failed, kept.trans (onward.trans same)⟩

end Plan

namespace Engine

variable {engine : Engine σ τ} {operation : Operation σ τ ω} {policy : Option (Policy σ τ)}
  {handlers : Handlers σ} {run : Run σ τ ω} {plan : Plan σ τ ω} {start : AttemptState} {location : Location}

/-- In a locked context an operation that may be read from either location starts where the last one was
served, and stays there. -/
theorem planFor_locked (planned : engine.planFor operation policy handlers run = .ok (plan, start))
    (locked : run.context.lock = true) (host : run.context.host = .known location)
    (roams : operation.restriction = .known .either) : start.At location := by
  have chosen := planFor_mode planned
  have mode : start.mode = .known (Mode.staying (.known location)) := by
    have reset : run.context.reset.lock = true ∧ run.context.reset.host = .known location := ⟨locked, host⟩
    simp only [modeOf, reset.1, reset.2, roams, bind, Except.bind] at chosen
    split at chosen
    · contradiction
    · exact (Except.ok.inj chosen).symm
  obtain ⟨_, _, _, starting, place, started, rfl⟩ := planFor_eq planned
  obtain rfl : starting = .known (Mode.staying (.known location)) := mode
  refine ⟨?_, rfl⟩
  cases location <;> exact congrArg Named.known (Endpoints.reach_eq_ok.mp started).2.symm

theorem execute_settings (turns : Nat) :
    (engine.execute operation policy handlers turns run).2.context.settings = run.context.settings := by
  cases planned : engine.planFor operation policy handlers run with
  | error fault =>
      rw [execute_of_refusal planned]
      rfl
  | ok settled =>
      obtain ⟨plan, start⟩ := settled
      rw [execute_of_plan planned]
      have turns : ∀ progress, (plan.turn progress).Keeps (.same fun run => run.context.settings) := by
        intro progress
        rw [Plan.turn_eq]
        refine .bind ((plan.launch_standing progress).weaken fun _ _ same => ?_) plan.conclude_settings
        exact (Prod.mk.inj same).1
      exact Plan.run_keeps turns _ _ (opened run)

/-- One operation of several, and where it begins. -/
structure Episode (engine : Engine σ τ) where
  Work : Type
  operation : Operation σ τ Work
  policy : Option (Policy σ τ) := none
  handlers : Handlers σ := {}
  turns : Nat
  begun : Run σ τ Work

namespace Episode

variable (episode : engine.Episode)

def trips : List (Trip σ τ episode.Work) :=
  engine.trips episode.operation episode.policy episode.handlers episode.turns episode.begun

def result : Except Failure (Option Answer) :=
  (engine.execute episode.operation episode.policy episode.handlers episode.turns episode.begun).1

def ended : Run σ τ episode.Work :=
  (engine.execute episode.operation episode.policy episode.handlers episode.turns episode.begun).2

/-- It may be served by either location. -/
def Reads : Prop :=
  episode.operation.restriction = .known .either

/-- It must be served by the primary location. -/
def Writes : Prop :=
  episode.operation.restriction = .known .primaryOnly

def Succeeds : Prop :=
  ∃ answer, episode.result = .ok (some answer)

/-- It succeeded, and the attempt that did was at the location. -/
def ServedBy (location : Location) : Prop :=
  episode.Succeeds ∧ ∃ trip, episode.trips.getLast? = some trip ∧ trip.state.location = .known location

/-- All its attempts are at the location. -/
def KeepsTo (location : Location) : Prop :=
  ∀ trip ∈ episode.trips, trip.state.location = .known location ∧
    (episode.operation.Unmoving → trip.prepared.location = some location)

/-- It reads or writes, and its own steps leave the location alone unless they pin the one in use. -/
structure Ordinary : Prop where
  kind : episode.Reads ∨ episode.Writes
  within : episode.operation.Within AttemptState.anchored

variable {episode}

/-- It succeeded although it had to be served by the primary location. -/
def Overwrites (episode : engine.Episode) : Prop :=
  episode.Writes ∧ episode.Succeeds

theorem not_overwrites_of_reads (reads : episode.Reads) : ¬ episode.Overwrites := by
  rintro ⟨writes, _⟩
  cases reads.symm.trans writes

/-- A success leaves its location behind, and nothing else leaves one. -/
theorem Ordinary.hosted (ordinary : episode.Ordinary) :
    (episode.Succeeds ∧ ∃ trip, episode.trips.getLast? = some trip ∧
      episode.ended.context.host = trip.state.location) ∨
    ¬ episode.Succeeds ∧ episode.ended.context.host = episode.begun.context.host := by
  unfold Succeeds trips ended result
  cases planned : engine.planFor episode.operation episode.policy episode.handlers episode.begun with
  | error fault =>
      rw [execute_of_refusal planned]
      exact .inr ⟨nofun, rfl⟩
  | ok settled =>
      have course := course_of_plan planned episode.turns
      obtain ⟨_, same, _⟩ := planFor_eq planned
      rcases course.hosted (same ▸ ordinary.within) with ⟨answer, trip, succeeded, final⟩ | ⟨failed, kept⟩
      · exact .inl ⟨⟨answer, succeeded⟩, trip, final⟩
      · exact .inr ⟨fun ⟨answer, succeeded⟩ => failed answer succeeded, kept⟩

theorem Ordinary.host_of_served (ordinary : episode.Ordinary) (served : episode.ServedBy location) :
    episode.ended.context.host = .known location := by
  obtain ⟨succeeded, trip, isLast, there⟩ := served
  rcases ordinary.hosted with ⟨_, other, final, host⟩ | ⟨failed, _⟩
  · cases final.symm.trans isLast
    exact host.trans there
  · exact absurd succeeded failed

theorem Ordinary.keepsTo (ordinary : episode.Ordinary) (starts : ∀ {plan start},
    engine.planFor episode.operation episode.policy episode.handlers episode.begun = .ok (plan, start) →
      start.At location) : episode.KeepsTo location := by
  unfold KeepsTo trips
  cases planned : engine.planFor episode.operation episode.policy episode.handlers episode.begun with
  | error fault =>
      rw [trips_of_refusal planned]
      exact List.forall_mem_nil _
  | ok settled =>
      have course := course_of_plan planned episode.turns
      have here := starts planned
      obtain ⟨_, same, _⟩ := planFor_eq planned
      have stays := course.stays (same ▸ ordinary.within) here
      rw [same] at stays
      exact stays

/-- A write is never anywhere but at the primary location. -/
theorem Ordinary.keepsTo_of_writes (ordinary : episode.Ordinary) (writes : episode.Writes) :
    episode.KeepsTo .primary :=
  ordinary.keepsTo fun planned =>
    have first := planFor_primary planned writes
    ⟨first.2, first.1⟩

/-- A write that succeeds brings its context to the primary location. -/
theorem Ordinary.host_of_overwrites (ordinary : episode.Ordinary) (overwrites : episode.Overwrites) :
    episode.ended.context.host = .known .primary := by
  obtain ⟨writes, succeeds⟩ := overwrites
  rcases ordinary.hosted with ⟨_, trip, isLast, served⟩ | ⟨failed, _⟩
  · have there := (ordinary.keepsTo_of_writes writes trip (List.mem_of_getLast? isLast)).1
    exact served.trans there
  · exact absurd succeeds failed

section Locked

variable (ordinary : episode.Ordinary) (locked : episode.begun.context.lock = true)
  (host : episode.begun.context.host = .known location)
include ordinary locked host

theorem Ordinary.keepsTo_of_reads (reads : episode.Reads) : episode.KeepsTo location :=
  ordinary.keepsTo fun planned => planFor_locked planned locked host reads

/-- Nothing else moves the context. -/
theorem Ordinary.host_stays (stays : ¬ episode.Overwrites) :
    episode.ended.context.host = .known location := by
  rcases ordinary.hosted with ⟨succeeds, trip, isLast, served⟩ | ⟨_, kept⟩
  · have reads : episode.Reads := ordinary.kind.resolve_right fun writes => stays ⟨writes, succeeds⟩
    have there := (ordinary.keepsTo_of_reads locked host reads trip (List.mem_of_getLast? isLast)).1
    exact served.trans there
  · exact kept.trans host

end Locked

theorem lock_ended (episode : engine.Episode) :
    episode.ended.context.lock = episode.begun.context.lock := by
  have same : episode.ended.context.settings = episode.begun.context.settings :=
    execute_settings episode.turns
  exact congrArg (·.2.2.2.2) same

end Episode

/-- Operations one after another in one context, which each leaves to the next. -/
inductive Sequence (engine : Engine σ τ) : OperationContext τ → List engine.Episode → OperationContext τ → Prop
  | ended {context} : Sequence engine context [] context
  | next {episode rest last} : Sequence engine episode.ended.context rest last →
      Sequence engine episode.begun.context (episode :: rest) last

variable {context last : OperationContext τ} {first rest : List engine.Episode} {episode : engine.Episode}

theorem Sequence.cons_iff : engine.Sequence context (episode :: rest) last ↔
    context = episode.begun.context ∧ engine.Sequence episode.ended.context rest last := by
  constructor
  · rintro (_ | onward)
    exact ⟨rfl, onward⟩
  · rintro ⟨rfl, onward⟩
    exact .next onward

theorem Sequence.split (sequence : engine.Sequence context (first ++ rest) last) :
    ∃ middle, engine.Sequence context first middle ∧ engine.Sequence middle rest last := by
  induction first generalizing context with
  | nil => exact ⟨context, .ended, sequence⟩
  | cons episode first ih =>
      obtain ⟨rfl, onward⟩ := cons_iff.mp sequence
      obtain ⟨middle, early, late⟩ := ih onward
      exact ⟨middle, .next early, late⟩

theorem Sequence.lock (sequence : engine.Sequence context first last) : last.lock = context.lock := by
  induction sequence with
  | ended => rfl
  | next onward ih => exact ih.trans (Episode.lock_ended _)

section Ordinary

variable (sequence : engine.Sequence context first last) (ordinary : ∀ episode ∈ first, episode.Ordinary)
  (locked : context.lock = true)
include sequence ordinary locked

theorem Sequence.host_stays (host : context.host = .known location)
    (stays : ∀ episode ∈ first, ¬ episode.Overwrites) : last.host = .known location := by
  induction sequence with
  | ended => exact host
  | @next episode rest last onward ih =>
      obtain ⟨one, others⟩ := List.forall_mem_cons.mp ordinary
      obtain ⟨same, kept⟩ := List.forall_mem_cons.mp stays
      exact ih others (episode.lock_ended.trans locked) (one.host_stays locked host same) kept

/-- From the primary location nothing leads away. -/
theorem Sequence.host_primary (host : context.host = .known .primary) : last.host = .known .primary := by
  induction sequence with
  | ended => exact host
  | @next episode rest last onward ih =>
      obtain ⟨one, others⟩ := List.forall_mem_cons.mp ordinary
      refine ih others (episode.lock_ended.trans locked) ?_
      by_cases overwrites : episode.Overwrites
      · exact one.host_of_overwrites overwrites
      · exact one.host_stays locked host overwrites

theorem Sequence.host_of_overwrites (overwrites : ∃ write ∈ first, write.Overwrites) :
    last.host = .known .primary := by
  induction sequence with
  | ended =>
      obtain ⟨write, member, _⟩ := overwrites
      exact absurd member List.not_mem_nil
  | @next episode rest last onward ih =>
      obtain ⟨one, others⟩ := List.forall_mem_cons.mp ordinary
      have onLocked : episode.ended.context.lock = true := episode.lock_ended.trans locked
      obtain ⟨write, member, overwrites⟩ := overwrites
      rcases List.mem_cons.mp member with rfl | later
      · exact onward.host_primary others onLocked (one.host_of_overwrites overwrites)
      · exact ih others onLocked ⟨write, later, overwrites⟩

end Ordinary

/-- Where the reads go after an operation of the sequence was served: to the location of that one whatever
happens, exactly if that is the primary one or no write succeeds before a read that still makes an attempt. -/
theorem sequence_keepsTo_iff {earlier later : List engine.Episode} {serving : engine.Episode}
    (sequence : engine.Sequence context (earlier ++ serving :: later) last) (locked : context.lock = true)
    (ordinary : ∀ episode ∈ serving :: later, episode.Ordinary) (served : serving.ServedBy location) :
    (∀ read ∈ later, read.Reads → read.KeepsTo location) ↔
      location = .primary ∨ ∀ between read rest, later = between ++ read :: rest → read.Reads →
        read.trips ≠ [] → ∀ write ∈ between, ¬ write.Overwrites := by
  obtain ⟨middle, early, late⟩ := sequence.split
  obtain ⟨rfl, onward⟩ := Sequence.cons_iff.mp late
  obtain ⟨one, others⟩ := List.forall_mem_cons.mp ordinary
  have onLocked : serving.ended.context.lock = true :=
    serving.lock_ended.trans (early.lock.trans locked)
  have host : serving.ended.context.host = .known location := one.host_of_served served
  -- Before each of the later operations, the ones between have left the context at some location.
  have reached : ∀ {between read rest}, later = between ++ read :: rest →
      engine.Sequence serving.ended.context between read.begun.context ∧
        (∀ episode ∈ between, episode.Ordinary) ∧ read.Ordinary ∧ read.begun.context.lock = true := by
    rintro between read rest rfl
    obtain ⟨middle, first, last⟩ := onward.split
    obtain ⟨rfl, _⟩ := Sequence.cons_iff.mp last
    obtain ⟨before, after⟩ := List.forall_mem_append.mp others
    exact ⟨first, before, after read List.mem_cons_self, first.lock.trans onLocked⟩
  constructor
  · intro keeps
    refine or_iff_not_imp_left.mpr fun secondary => ?_
    intro between read rest split reads attempts write member overwrites
    obtain ⟨first, before, ordinaryRead, lock⟩ := reached split
    obtain ⟨trip, tripped⟩ := List.exists_mem_of_ne_nil _ attempts
    have moved := first.host_of_overwrites before onLocked ⟨write, member, overwrites⟩
    have there := (ordinaryRead.keepsTo_of_reads lock moved reads trip tripped).1
    have due := (keeps read (by rw [split]; exact List.mem_append_cons_self) reads trip tripped).1
    exact secondary (Named.known.inj (due.symm.trans there))
  · rintro stays read member reads
    obtain ⟨between, rest, split⟩ := List.append_of_mem member
    obtain ⟨first, before, ordinaryRead, lock⟩ := reached split
    rcases stays with rfl | calm
    · exact ordinaryRead.keepsTo_of_reads lock (first.host_primary before onLocked host) reads
    · by_cases attempts : read.trips = []
      · intro trip tripped
        rw [attempts] at tripped
        exact absurd tripped List.not_mem_nil
      · have same := first.host_stays before onLocked host (calm between read rest split reads attempts)
        exact ordinaryRead.keepsTo_of_reads lock same reads

end Engine

/-! The operations of a client are ordinary ones. -/

section Client

open Engine

omit [Seconds τ]

variable {engine : Engine σ τ} {operation : Operation σ τ ω} {options : Options τ (Policy σ τ)}
  (policy : Option (Policy σ τ)) (handlers : Handlers σ) (turns : Nat)

theorem Operation.Within.ordinary (pinned : operation.Within AttemptState.pinned)
    (kind : operation.restriction = .known .either ∨ operation.restriction = .known .primaryOnly)
    (begun : Run σ τ ω) : (⟨ω, operation, policy, handlers, turns, begun⟩ : engine.Episode).Ordinary :=
  ⟨kind, pinned.weaken fun _ _ => AttemptState.anchored_of_pinned⟩

theorem Client.getProperties_ordinary {path : Value} {conditions : Option AccessCondition}
    (made : getProperties path conditions options = .ok operation) (begun : Run σ τ ω) :
    (⟨ω, operation, policy, handlers, turns, begun⟩ : engine.Episode).Ordinary := by
  refine (getProperties_pinned made).ordinary policy handlers turns (.inl ?_) begun
  obtain ⟨_, _, made⟩ := Act.except_bind_eq_ok.mp made
  cases made
  rfl

theorem Client.downloadTo_ordinary {write : Option (List UInt8 → Act Fault ω Unit)} {part : Part}
    (made : downloadTo write part options = .ok operation) (begun : Run σ τ ω) :
    (⟨ω, operation, policy, handlers, turns, begun⟩ : engine.Episode).Ordinary := by
  obtain ⟨_, operated⟩ := downloadTo_eq_ok made
  refine (Download.operation_pinned operated).ordinary policy handlers turns (.inl ?_) begun
  obtain ⟨_, _, same⟩ := Act.except_bind_eq_ok.mp operated
  cases same
  rfl

theorem Client.uploadStream_ordinary {cargo : Cargo} {source : Value} {count : Option Int}
    {operation : Operation σ τ Stream} {stream : Stream}
    (made : uploadStream cargo source count options = .ok (operation, stream)) (begun : Run σ τ Stream) :
    (⟨Stream, operation, policy, handlers, turns, begun⟩ : engine.Episode).Ordinary := by
  obtain ⟨_, operated⟩ := uploadStream_eq_ok made
  refine (Upload.operation_pinned operated).ordinary policy handlers turns (.inr ?_) begun
  obtain ⟨_, _, same⟩ := Act.except_bind_eq_ok.mp operated
  cases same
  rfl

end Client

namespace Locked

/-! Operations in a locked context, against a service of two locations that answers by the count of requests
it got. -/

/-- Busy at first, and the third request is refused. -/
def replies : Nat → Reply
  | 0 => .plain 503 "0" [] none
  | 2 => .plain 404 "0" [] none
  | _ => .plain 200 "0" [] none

def engine : Engine Nat Number :=
  { Engine.answering replies with client := .paired .alternating }

def context : OperationContext Number :=
  { OperationContext.plain with lock := true }

def reading : Operation Nat Number Unit :=
  (Client.getProperties (.text "a") none {}).toOption.get rfl

theorem reading_made : Client.getProperties (.text "a") none {} = .ok reading := rfl

def uploaded : Stream :=
  ⟨.memory, [1, 2, 3], 0⟩

def writing : Operation Nat Number Stream :=
  ((Client.uploadStream { path := .text "a" } (.stream uploaded) none {}).toOption.get rfl).1

theorem writing_made : Client.uploadStream { path := .text "a" } (.stream uploaded) none {} =
    .ok (writing, uploaded) := rfl

/-- Reads the properties of a resource after so many requests, with two attempts at most. -/
def read (sent : Nat) (context : OperationContext Number) : engine.Episode where
  Work := Unit
  operation := reading
  turns := 2
  begun := ⟨sent, (), context, []⟩

/-- Puts three bytes in the place of the resource after so many requests, with one attempt. -/
def write (sent : Nat) (context : OperationContext Number) : engine.Episode where
  Work := Stream
  operation := writing
  policy := some .never
  turns := 2
  begun := ⟨sent, uploaded, context, []⟩

theorem read_ordinary (sent : Nat) (context : OperationContext Number) : (read sent context).Ordinary :=
  Client.getProperties_ordinary none {} 2 reading_made _

theorem write_ordinary (sent : Nat) (context : OperationContext Number) : (write sent context).Ordinary :=
  Client.uploadStream_ordinary (some .never) {} 2 writing_made _

section Begins

variable {rest : List engine.Episode} {last : OperationContext Number} (sent : Nat)
  (context : OperationContext Number)

theorem begins_read (onward : engine.Sequence (read sent context).ended.context rest last) :
    engine.Sequence context (read sent context :: rest) last :=
  Engine.Sequence.cons_iff.mpr ⟨rfl, onward⟩

theorem begins_write (onward : engine.Sequence (write sent context).ended.context rest last) :
    engine.Sequence context (write sent context :: rest) last :=
  Engine.Sequence.cons_iff.mpr ⟨rfl, onward⟩

end Begins

def served : engine.Episode :=
  read 0 context

def refused : engine.Episode :=
  write 2 served.ended.context

/-- Which locations the attempts went to. -/
def visited (episode : engine.Episode) : List (Named Location) :=
  episode.trips.map (·.state.location)

theorem served_by_secondary : served.ServedBy .secondary := by
  have last : served.trips.getLast?.map (·.state.location) = some (.known .secondary) := by decide +kernel
  exact ⟨Answer.given_of_isGiven (by decide +kernel), Option.map_eq_some_iff.mp last⟩

/-- The read that follows the refused write stays at the secondary location. -/
theorem read_stays : ∃ last, engine.Sequence context [served, refused, read 3 refused.ended.context] last ∧
    context.lock = true ∧
    (∀ episode ∈ [served, refused, read 3 refused.ended.context], episode.Ordinary) ∧
    served.ServedBy .secondary ∧
    (∀ later ∈ [refused, read 3 refused.ended.context], later.Reads → later.KeepsTo .secondary) ∧
    visited (read 3 refused.ended.context) = [.known .secondary] := by
  have sequence : engine.Sequence context ([] ++ [served, refused, read 3 refused.ended.context])
      (read 3 refused.ended.context).ended.context :=
    begins_read _ _ (begins_write _ _ (begins_read _ _ .ended))
  have ordinary : ∀ episode ∈ [served, refused, read 3 refused.ended.context], episode.Ordinary := by
    simp only [List.forall_mem_cons]
    exact ⟨read_ordinary _ _, write_ordinary _ _, read_ordinary _ _, List.forall_mem_nil _⟩
  have fails : ∀ write ∈ [refused, read 3 refused.ended.context], ¬ write.Overwrites := by
    simp only [List.forall_mem_cons]
    refine ⟨?_, Engine.Episode.not_overwrites_of_reads rfl, List.forall_mem_nil _⟩
    rintro ⟨_, answer, given⟩
    have unanswered : Answer.isGiven refused.result = false := by decide +kernel
    rw [given] at unanswered
    cases unanswered
  refine ⟨_, sequence, rfl, ordinary, served_by_secondary, ?_, by decide +kernel⟩
  refine (Engine.sequence_keepsTo_iff sequence rfl ordinary served_by_secondary).mpr (.inr ?_)
  intro between later rest split _ _ write member
  exact fails write (by rw [split]; exact List.mem_append_left _ member)

def done : engine.Episode :=
  write 3 refused.ended.context

/-- The write that succeeds takes the read that follows it along to the primary location. -/
theorem read_strays : ∃ last, engine.Sequence context
      [served, refused, done, read 4 done.ended.context] last ∧
    context.lock = true ∧
    (∀ episode ∈ [served, refused, done, read 4 done.ended.context], episode.Ordinary) ∧
    served.ServedBy .secondary ∧ (read 4 done.ended.context).Reads ∧
    ¬ (read 4 done.ended.context).KeepsTo .secondary := by
  have sequence : engine.Sequence context [served, refused, done, read 4 done.ended.context]
      (read 4 done.ended.context).ended.context :=
    begins_read _ _ (begins_write _ _ (begins_write _ _ (begins_read _ _ .ended)))
  refine ⟨_, sequence, rfl, ?_, served_by_secondary, rfl, fun keeps => ?_⟩
  · simp only [List.forall_mem_cons]
    exact ⟨read_ordinary _ _, write_ordinary _ _, write_ordinary _ _, read_ordinary _ _,
      List.forall_mem_nil _⟩
  · have first : (visited (read 4 done.ended.context))[0]? = some (.known .primary) := by decide +kernel
    rw [visited, List.getElem?_map] at first
    obtain ⟨trip, member, strayed⟩ := Option.map_eq_some_iff.mp first
    exact absurd (strayed.symm.trans (keeps trip (List.mem_of_getElem? member)).1) (by decide)

end Locked

end ObjectStore
