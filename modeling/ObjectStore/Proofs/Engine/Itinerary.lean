import ObjectStore.Proofs.Engine.Accord
import ObjectStore.Proofs.Engine.Plain
import ObjectStore.Proofs.Engine.Work
import ObjectStore.Proofs.Location.Alternation

/-! Where the attempts of an operation go when its context is not locked to a location. Either there is no
way to start, and the operation is refused before its first attempt, or each attempt goes to the location of
its number. -/

namespace ObjectStore

variable {σ τ ω : Type} [Seconds τ]

namespace Engine

variable (engine : Engine σ τ) (operation : Operation σ τ ω) (policy : Option (Policy σ τ))
  (handlers : Handlers σ) (run : Run σ τ ω)

/-- The addresses an operation goes by: its own, or those of the client. -/
def endpointsFor : Except Fault Endpoints :=
  match operation.endpoints with
  | some endpoints => .ok endpoints
  | none => engine.client.endpoints

/-- The mode of an operation and the location of its first attempt. -/
def resolve (endpoints : Endpoints) : Except Fault (Named Mode × Location) := do
  let mode ← modeOf operation ((engine.optionsOf operation).mode.getD default)
    (engine.policyFor operation policy) endpoints run.context.reset
  endpoints.validate mode
  return (mode, ← Mode.start mode endpoints)

/-- What is settled of a plan by its addresses and its deadline. -/
def planOf (endpoints : Endpoints) (deadline : Option τ) : Plan σ τ ω where
  engine
  operation
  handlers
  endpoints
  deadline
  policy := engine.policyFor operation policy
  serverTimeout := (engine.optionsOf operation).serverTimeout
  timeout := (engine.optionsOf operation).timeout.orElse Client.standardTimeout

theorem planFor_eq_bind : engine.planFor operation policy handlers run = (do
    let endpoints ← engine.endpointsFor operation
    let deadline ← Deadline.ofBudget (engine.surroundings.clock run.world) (engine.optionsOf operation).budget
    let (mode, location) ← engine.resolve operation policy run endpoints
    return (engine.planOf operation policy handlers endpoints deadline,
      { operation.start with mode, location := .known location })) := by
  simp only [resolve, bind_assoc, pure_bind]
  unfold planFor Engine.plan endpointsFor
  cases operation.endpoints <;> rfl

/-- What an operation is to go by: its addresses, the configured mode and its restriction, in a context that
is not locked to a location. -/
structure Directed (endpoints : Endpoints) (configured : Mode) (restriction : Restriction) : Prop where
  addressed : engine.endpointsFor operation = .ok endpoints
  configured : Mode.orDefault ((engine.optionsOf operation).mode.getD default) = .known configured
  restricted : operation.restriction = .known restriction
  unlocked : run.context.lock = false

/-- The mode that the attempts go by if the operation is not refused. -/
def modeFor (endpoints : Endpoints) (configured : Mode) (restriction : Restriction) : Mode :=
  configured.decided restriction (engine.policyFor operation policy).toSecondary endpoints

variable {engine operation policy handlers run} {endpoints : Endpoints} {configured : Mode}
  {restriction : Restriction} {fault : Fault}

section Directed

variable (directed : engine.Directed operation run endpoints configured restriction)
include directed

theorem resolve_of_conflict (policy : Option (Policy σ τ)) (conflict : configured.Conflicts restriction) :
    ∃ cause : Cause, cause.kind = .value ∧
      engine.resolve operation policy run endpoints = .error cause := by
  obtain ⟨cause, kind, refused⟩ : ∃ cause : Cause, cause.kind = .value ∧
      Mode.effective ((engine.optionsOf operation).mode.getD default) (.known restriction)
        (engine.policyFor operation policy).toSecondary (some endpoints) = .error cause :=
    Mode.effective_of_conflict directed.configured conflict
  refine ⟨cause, kind, ?_⟩
  simp only [resolve, modeOf, directed.restricted, refused, bind, Except.bind]

theorem resolve_of_accord (accord : ¬ configured.Conflicts restriction) :
    engine.resolve operation policy run endpoints =
      (Mode.reach endpoints ((engine.modeFor operation policy endpoints configured restriction).first
        endpoints)).map fun location =>
          (.known (engine.modeFor operation policy endpoints configured restriction), location) := by
  have unlocked : run.context.reset.lock = false := directed.unlocked
  have chosen : modeOf operation ((engine.optionsOf operation).mode.getD default)
      (engine.policyFor operation policy) endpoints run.context.reset =
        .ok (.known (engine.modeFor operation policy endpoints configured restriction)) := by
    simp only [modeOf, directed.restricted, Mode.effective_of_accord directed.configured accord, unlocked,
      bind, Except.bind, Bool.false_and]
    rfl
  rw [resolve, chosen, ← Mode.start_of_validate]
  simp only [bind, Except.bind]
  split
  · rfl
  · cases Mode.start _ endpoints <;> rfl

/-- There is no way to start exactly if what is configured conflicts with what the operation is restricted
to, or if its first location has no address. -/
theorem resolve_refuses_iff : (∃ fault, engine.resolve operation policy run endpoints = .error fault) ↔
    configured.Conflicts restriction ∨ endpoints.address?
      ((engine.modeFor operation policy endpoints configured restriction).first endpoints) = none := by
  by_cases conflict : configured.Conflicts restriction
  · obtain ⟨cause, _, refused⟩ := resolve_of_conflict directed policy conflict
    exact iff_of_true ⟨_, refused⟩ (.inl conflict)
  · rw [resolve_of_accord directed conflict, Mode.reach]
    split
    · next address =>
      refine iff_of_false ?_ ?_
      · rintro ⟨fault, started⟩
        cases started
      · rintro (_ | missing)
        · contradiction
        · rw [missing] at address
          contradiction
    · next missing => exact iff_of_true ⟨_, rfl⟩ (.inr (Option.not_isSome_iff_eq_none.mp missing))

theorem kind_of_resolve (refused : engine.resolve operation policy run endpoints = .error fault) :
    fault.kind = .value := by
  by_cases conflict : configured.Conflicts restriction
  · obtain ⟨cause, kind, same⟩ := resolve_of_conflict directed policy conflict
    cases refused.symm.trans same
    exact kind
  · rw [resolve_of_accord directed conflict, Mode.reach] at refused
    split at refused
    · cases refused
    · cases refused
      rfl

omit directed in
/-- With addresses and a budget only the mode and the location are left to be found. -/
theorem planFor_eq_map {deadline : Option τ} (addressed : engine.endpointsFor operation = .ok endpoints)
    (budgeted : Deadline.ofBudget (engine.surroundings.clock run.world)
      (engine.optionsOf operation).budget = .ok deadline) :
    engine.planFor operation policy handlers run =
      (engine.resolve operation policy run endpoints).map fun (mode, location) =>
        (engine.planOf operation policy handlers endpoints deadline,
          { operation.start with mode, location := .known location }) := by
  rw [planFor_eq_bind, addressed, budgeted]
  show engine.resolve operation policy run endpoints >>= _ = _
  cases engine.resolve operation policy run endpoints <;> rfl

/-- What is refused ends before its first attempt, with this fault unless its budget is none. -/
theorem execute_of_resolve (refused : engine.resolve operation policy run endpoints = .error fault)
    (turns : Nat) : ∃ reason, engine.execute operation policy handlers turns run =
        (.error ⟨reason, .unprepared, none⟩, opened run) ∧
      ∀ deadline, Deadline.ofBudget (engine.surroundings.clock run.world)
        (engine.optionsOf operation).budget = .ok deadline → reason = fault := by
  cases budget : Deadline.ofBudget (engine.surroundings.clock run.world)
      (engine.optionsOf operation).budget with
  | error reason =>
      refine ⟨reason, execute_of_refusal ?_ turns, nofun⟩
      rw [planFor_eq_bind, directed.addressed, budget]
      rfl
  | ok deadline =>
      refine ⟨fault, execute_of_refusal ?_ turns, fun _ _ => rfl⟩
      rw [planFor_eq_map directed.addressed budget, refused]
      rfl

/-- What is planned goes by the mode and starts at its first location, which has an address. -/
theorem planFor_directed {plan : Plan σ τ ω} {start : AttemptState} {mode : Mode}
    (planned : engine.planFor operation policy handlers run = .ok (plan, start))
    (goes : engine.modeFor operation policy endpoints configured restriction = mode) :
    plan.endpoints = endpoints ∧ start.mode = .known mode ∧
      start.location = .known (mode.first endpoints) ∧
      (endpoints.address? (mode.first endpoints)).isSome := by
  cases budget : Deadline.ofBudget (engine.surroundings.clock run.world)
      (engine.optionsOf operation).budget with
  | error reason =>
      rw [planFor_eq_bind, directed.addressed, budget] at planned
      cases planned
  | ok deadline =>
      rw [planFor_eq_map directed.addressed budget] at planned
      by_cases conflict : configured.Conflicts restriction
      · obtain ⟨cause, _, refused⟩ := resolve_of_conflict directed policy conflict
        rw [refused] at planned
        cases planned
      · rw [resolve_of_accord directed conflict, goes, Mode.reach] at planned
        split at planned
        · next address =>
          cases planned
          exact ⟨rfl, rfl, rfl, address⟩
        · cases planned

end Directed

end Engine

namespace Plan

variable {plan : Plan σ τ ω} {start progress : Progress} {begun reached : Run σ τ ω} {made : List Attempted}
  {mode : Mode}

/-- The mode stays, and the location goes by the number of the attempt. -/
theorem Path.located (within : plan.operation.Within (mode.onCourse plan.endpoints))
    (address : (plan.endpoints.address? (mode.first plan.endpoints)).isSome)
    (goes : start.state.mode = .known mode)
    (starts : start.state.location = .known (mode.first plan.endpoints))
    (path : plan.Path start begun made progress reached) :
    progress.state.mode = .known mode ∧
      progress.state.location = .known (mode.place plan.endpoints made.length) := by
  induction path with
  | start => exact ⟨goes, starts.trans (congrArg Named.known Mode.place_zero.symm)⟩
  | again path launched concluded ih =>
      obtain ⟨trip, departs, registered⟩ := departs_of_launch launched
      have leads : plan.Leads _ _ _ _ := ⟨trip, _, _, departs, registered, concluded⟩
      obtain ⟨recovered, location, kept, moved, next⟩ := leads.advances within
      have same : recovered.mode = .known mode := kept.1.trans ih.1
      rw [same] at moved
      rw [next, List.length_append, List.length_singleton]
      exact ⟨same, congrArg Named.known (Mode.place_succ address (fun both => (kept.2 both).trans ih.2) moved)⟩

end Plan

namespace Engine

/-- Where an operation goes. Without a way to start it is refused for its arguments, before anything is
sent. Otherwise no attempt lacks an address, and the attempts go to the locations of their numbers. -/
structure Itinerary (engine : Engine σ τ) (operation : Operation σ τ ω) (policy : Option (Policy σ τ))
    (handlers : Handlers σ) (run : Run σ τ ω) (endpoints : Endpoints) (configured : Mode)
    (restriction : Restriction) (mode : Mode) : Prop where
  refused : (∃ fault, engine.resolve operation policy run endpoints = .error fault) ↔
    configured.Conflicts restriction ∨ endpoints.address? (mode.first endpoints) = none
  preferring : mode = .secondaryThenPrimary → (endpoints.address? (mode.first endpoints)).isSome
  unsent : ∀ fault, engine.resolve operation policy run endpoints = .error fault → fault.kind = .value ∧
    ∀ turns, ∃ reason, engine.execute operation policy handlers turns run =
        (.error ⟨reason, .unprepared, none⟩, opened run) ∧
      ∀ deadline, Deadline.ofBudget (engine.surroundings.clock run.world)
        (engine.optionsOf operation).budget = .ok deadline → reason = fault
  addressed : ∀ plan start made progress reached,
    engine.planFor operation policy handlers run = .ok (plan, start) →
    plan.Path ⟨start, none⟩ (opened run) made progress reached →
    progress.state.location = .known (mode.place endpoints made.length) ∧
      (∃ address, endpoints.address? (mode.place endpoints made.length) = some address ∧
        ∀ request : Request, request.applyLocation plan.endpoints progress.state.location =
          request.pointAt address (mode.place endpoints made.length)) ∧
      ∀ recovered missing, (mode.onCourse endpoints).rel progress.state recovered →
        Mode.next recovered.mode recovered.location plan.endpoints ≠ .error (Cause.missingAddress missing)
  visited : ∀ turns number trip, (engine.trips operation policy handlers turns run)[number]? = some trip →
    trip.state.location = .known (mode.place endpoints number) ∧
      (operation.Unmoving → trip.prepared.location = some (mode.place endpoints number))

variable {engine : Engine σ τ} {operation : Operation σ τ ω} {policy : Option (Policy σ τ)}
  {handlers : Handlers σ} {run : Run σ τ ω} {endpoints : Endpoints} {configured mode : Mode}
  {restriction : Restriction}

end Engine

namespace Alternating

/-! A service with two locations that is busy twice, and an operation that may be served by either. -/

def endpoints : Endpoints :=
  ⟨some "https://a.example", some "https://b.example", rfl⟩

def engine : Engine Nat Number :=
  { Engine.answering fun sent => .plain (if sent < 2 then 503 else 200) "0" [] none with
    client := .paired .alternating }

def visited (operation : Operation Nat Number Unit) : List (Named Location) :=
  (engine.trips operation none {} 3 .plain).map (·.state.location)

theorem directed : engine.Directed .roaming .plain endpoints .primaryOnly .either where
  addressed := by rfl
  configured := rfl
  restricted := rfl
  unlocked := rfl

/-- Before each further attempt it says that the last one was at the secondary location. -/
def returning : Operation Nat Number Unit :=
  { (Operation.roaming : Operation Nat Number Unit) with
    recover := fun state => pure { state with location := .known .secondary } }

end Alternating

end ObjectStore
