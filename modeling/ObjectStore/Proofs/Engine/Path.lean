import ObjectStore.Engine.Execute
import ObjectStore.Proofs.Location.Pinning

/-! An operation as a path of attempts. A turn launches an attempt and concludes from it; a path is a
series of turns of which each led to another, and a run with any fuel follows one path. -/

namespace ObjectStore

variable {σ τ ω : Type} [Seconds τ]

/-- How an operation ends with a turn that no other follows. -/
def Turn.ending : Except Failure Turn → Option (Except Failure (Option Answer))
  | .ok (.done answer) => some (.ok (some answer))
  | .ok (.again _) => none
  | .error failure => some (.error failure)

theorem Turn.again_of_ending {result : Except Failure Turn} (goesOn : Turn.ending result = none) :
    ∃ next, result = .ok (.again next) := by
  cases result with
  | error failure => contradiction
  | ok turn =>
      cases turn with
      | done answer => contradiction
      | again next => exact ⟨next, rfl⟩

theorem Turn.failure_of_ending {result : Except Failure Turn} {failure : Failure}
    (ends : Turn.ending result = some (.error failure)) : result = .error failure := by
  cases result with
  | error other => cases ends; rfl
  | ok turn => cases turn <;> cases ends

theorem Turn.done_of_ending {result : Except Failure Turn} {answer : Answer}
    (ends : Turn.ending result = some (.ok (some answer))) : result = .ok (.done answer) := by
  cases result with
  | error failure => cases ends
  | ok turn => cases turn <;> cases ends; rfl

namespace Plan

variable (plan : Plan σ τ ω)

/-- A turn up to the end of its attempt. -/
def launch (progress : Progress) : Act Failure (Run σ τ ω) Attempted := do
  plan.check progress.last
  let (request, timeout) ← plan.prepare progress.state progress.last
  let request ← plan.announceRequest request progress.state
  (plan.attempt request timeout progress.state).mapError interruption

/-- The rest of a turn: what follows from the attempt. -/
def conclude (attempted : Attempted) : Act Failure (Run σ τ ω) Turn :=
  match attempted.outcome with
  | .success product => plan.succeed attempted product
  | .fatal fault => plan.endWith "The operation failed with a fatal error" fault
  | .retryable fault =>
    if fault.kind = .signing then plan.endWith "The operation failed with a fatal error" fault
    else plan.decide attempted fault

theorem turn_eq (progress : Progress) : plan.turn progress = plan.launch progress >>= plan.conclude := by
  simp only [turn, launch, Act.bind_assoc]
  rfl

/-- The attempts between the start of an operation and a turn that it comes to. -/
inductive Path (start : Progress) (begun : Run σ τ ω) :
    List Attempted → Progress → Run σ τ ω → Prop where
  | start : Path start begun [] start begun
  | again {made progress run attempted landed next after} : Path start begun made progress run →
      plan.launch progress run = (.ok attempted, landed) →
      plan.conclude attempted landed = (.ok (.again next), after) →
      Path start begun (made ++ [attempted]) next after

variable {plan} {start progress next : Progress} {begun run after : Run σ τ ω} {made : List Attempted}

theorem Path.turn_again (path : plan.Path start begun made progress run)
    (turned : plan.turn progress run = (.ok (.again next), after)) :
    ∃ attempted, plan.Path start begun (made ++ [attempted]) next after := by
  rw [turn_eq, Act.bind_apply] at turned
  split at turned
  · next attempted landed launched => exact ⟨attempted, .again path launched turned⟩
  · cases turned

theorem turn_of_conclude {attempted : Attempted} {landed : Run σ τ ω}
    (launched : plan.launch progress run = (.ok attempted, landed)) :
    plan.turn progress run = plan.conclude attempted landed := by
  rw [turn_eq, Act.bind_of_ok launched]

theorem run_succ_of_again (turned : plan.turn progress run = (.ok (.again next), after)) (fuel : Nat) :
    plan.run (fuel + 1) progress run = plan.run fuel next after := by
  rw [Plan.run, Act.bind_of_ok turned]

theorem run_succ_of_ending {result : Except Failure (Option Answer)}
    (ends : Turn.ending (plan.turn progress run).1 = some result) (fuel : Nat) :
    plan.run (fuel + 1) progress run = (result, (plan.turn progress run).2) := by
  rw [Plan.run, Act.bind_apply]
  cases turned : plan.turn progress run with
  | mk outcome after =>
      rw [turned] at ends
      cases outcome with
      | error failure => cases ends; rfl
      | ok turn =>
          cases turn with
          | done answer => cases ends; rfl
          | again next => cases ends

theorem run_one : (plan.run 1 progress run).2 = (plan.turn progress run).2 := by
  rw [Plan.run, Act.bind_apply]
  cases plan.turn progress run with
  | mk outcome after =>
      cases outcome with
      | error failure => rfl
      | ok turn => cases turn <;> rfl

/-- A run with enough fuel goes on from every turn of the path. -/
theorem Path.run_eq (path : plan.Path start begun made progress run) (fuel : Nat) :
    plan.run (made.length + fuel) start begun = plan.run fuel progress run := by
  induction path generalizing fuel with
  | start => rw [List.length_nil, Nat.zero_add]
  | again path launched concluded ih =>
      rw [List.length_append, List.length_singleton, Nat.add_assoc, Nat.add_comm 1, ih]
      exact run_succ_of_again ((turn_of_conclude launched).trans concluded) fuel

theorem Path.run_of_ending (path : plan.Path start begun made progress run)
    {result : Except Failure (Option Answer)}
    (ends : Turn.ending (plan.turn progress run).1 = some result) {fuel : Nat}
    (enough : made.length < fuel) : plan.run fuel start begun = (result, (plan.turn progress run).2) := by
  obtain ⟨rest, rfl⟩ := Nat.exists_eq_add_of_lt enough
  rw [Nat.add_assoc, path.run_eq]
  exact run_succ_of_ending ends rest

/-- Either the fuel was spent on the path, or a turn within the fuel ended the operation. -/
theorem run_cases (plan : Plan σ τ ω) (start : Progress) (begun : Run σ τ ω) (fuel : Nat) :
    (∃ made progress run, plan.Path start begun made progress run ∧ made.length = fuel ∧
      plan.run fuel start begun = (.ok none, run)) ∨
    ∃ made progress run result, plan.Path start begun made progress run ∧ made.length < fuel ∧
      Turn.ending (plan.turn progress run).1 = some result ∧
      plan.run fuel start begun = (result, (plan.turn progress run).2) := by
  induction fuel with
  | zero => exact .inl ⟨[], start, begun, .start, rfl, rfl⟩
  | succ fuel ih =>
      obtain ⟨made, progress, run, path, rfl, _⟩ | ⟨made, progress, run, result, path, within, ends, _⟩ := ih
      · cases ends : Turn.ending (plan.turn progress run).1 with
        | some result =>
            exact .inr ⟨made, progress, run, result, path, Nat.lt_succ_self _, ends,
              path.run_of_ending ends (Nat.lt_succ_self _)⟩
        | none =>
            obtain ⟨next, again⟩ := Turn.again_of_ending ends
            obtain ⟨attempted, further⟩ := path.turn_again (Prod.ext again rfl)
            have longer : (made ++ [attempted]).length = made.length + 1 := by simp
            refine .inl ⟨_, next, _, further, longer, ?_⟩
            exact longer ▸ further.run_eq 0
      · exact .inr ⟨made, progress, run, result, path, Nat.lt_succ_of_lt within, ends,
          path.run_of_ending ends (Nat.lt_succ_of_lt within)⟩

/-- An operation that has ended stays ended with more fuel. -/
theorem run_of_ended {plan : Plan σ τ ω} {start : Progress} {begun : Run σ τ ω} {fuel : Nat}
    {result : Except Failure (Option Answer)} (ended : (plan.run fuel start begun).1 = result)
    (stopped : result ≠ .ok none) {more : Nat} (enough : fuel ≤ more) :
    plan.run more start begun = (result, (plan.run fuel start begun).2) := by
  obtain ⟨_, _, run, _, _, spent⟩ | ⟨made, progress, run, result, path, within, ends, landed⟩ :=
    plan.run_cases start begun fuel
  · rw [spent] at ended
    exact absurd ended.symm stopped
  · rw [landed] at ended ⊢
    rw [path.run_of_ending ends (Nat.lt_of_lt_of_le within enough), ← ended]

theorem run_keeps {frame : Frame (Run σ τ ω)} (each : ∀ progress, (plan.turn progress).Keeps frame)
    (fuel : Nat) (progress : Progress) : (plan.run fuel progress).Keeps frame := by
  induction fuel generalizing progress with
  | zero => exact .pure none
  | succ fuel ih =>
      refine .bind (each progress) fun turn => ?_
      cases turn with
      | done answer => exact .pure _
      | again next => exact ih next

end Plan

namespace Engine

variable (engine : Engine σ τ) (operation : Operation σ τ ω) (policy : Option (Policy σ τ))
  (handlers : Handlers σ)

/-- A run as it is when its operation begins. -/
def opened (run : Run σ τ ω) : Run σ τ ω :=
  { run with context := run.context.reset }

/-- What is settled before the first attempt, given where the run begins. -/
def planFor (run : Run σ τ ω) : Except Fault (Plan σ τ ω × AttemptState) :=
  engine.plan operation policy handlers (engine.surroundings.clock run.world) run.context.reset

variable {engine operation policy handlers} {run : Run σ τ ω}

/-- A plan is made for the operation as it is, which starts as it says, at a location of its mode. -/
theorem planFor_eq {plan : Plan σ τ ω} {start : AttemptState}
    (planned : engine.planFor operation policy handlers run = .ok (plan, start)) :
    plan.engine = engine ∧ plan.operation = operation ∧ plan.handlers = handlers ∧
      ∃ mode location, Mode.start mode plan.endpoints = .ok location ∧
        start = { operation.start with mode, location := .known location } := by
  simp only [planFor, Engine.plan, bind, Except.bind] at planned
  repeat' split at planned
  all_goals first
    | contradiction
    | cases planned; exact ⟨rfl, rfl, rfl, _, _, by assumption, rfl⟩

/-- The options of an operation with those of the client behind them. -/
def optionsOf (engine : Engine σ τ) (operation : Operation σ τ ω) : Options τ (Policy σ τ) :=
  operation.options.withDefaults engine.client.defaults

/-- The policy of the call comes before that of the options. -/
def policyFor (engine : Engine σ τ) (operation : Operation σ τ ω) (policy : Option (Policy σ τ)) : Policy σ τ :=
  (policy.orElse fun _ => (engine.optionsOf operation).retry).getD Policy.never

/-- What the options settle. The deadline counts from where the run begins. -/
theorem planFor_options {plan : Plan σ τ ω} {start : AttemptState}
    (planned : engine.planFor operation policy handlers run = .ok (plan, start)) :
    Deadline.ofBudget (engine.surroundings.clock run.world) (engine.optionsOf operation).budget =
        .ok plan.deadline ∧
      plan.timeout = (engine.optionsOf operation).timeout.orElse Client.standardTimeout ∧
      plan.policy = engine.policyFor operation policy := by
  simp only [planFor, Engine.plan, bind, Except.bind] at planned
  repeat' split at planned
  all_goals first
    | contradiction
    | cases planned; exact ⟨by assumption, rfl, rfl⟩

/-- The mode that an operation starts in. -/
theorem planFor_mode {plan : Plan σ τ ω} {start : AttemptState}
    (planned : engine.planFor operation policy handlers run = .ok (plan, start)) :
    modeOf operation ((engine.optionsOf operation).mode.getD default) plan.policy plan.endpoints
      run.context.reset = .ok start.mode := by
  simp only [planFor, Engine.plan, bind, Except.bind] at planned
  repeat' split at planned
  all_goals first
    | contradiction
    | cases planned; assumption

/-- An operation that is restricted to the primary location stays there. -/
theorem planFor_primary {plan : Plan σ τ ω} {start : AttemptState}
    (planned : engine.planFor operation policy handlers run = .ok (plan, start))
    (restricted : operation.restriction = .known .primaryOnly) :
    start.mode = .known .primaryOnly ∧ start.location = .known .primary := by
  have chosen := planFor_mode planned
  have mode : start.mode = .known .primaryOnly := by
    simp only [modeOf, Mode.effective, restricted, bind, Except.bind] at chosen
    split at chosen
    · contradiction
    · next effective =>
      split at effective
      · contradiction
      · cases effective
        exact (Except.ok.inj chosen).symm.trans (if_neg (by simp))
  obtain ⟨_, _, _, starting, location, started, rfl⟩ := planFor_eq planned
  obtain rfl : starting = .known .primaryOnly := mode
  obtain ⟨_, rfl⟩ := Endpoints.reach_eq_ok.mp started
  exact ⟨rfl, rfl⟩

theorem execute_of_plan {plan : Plan σ τ ω} {start : AttemptState}
    (planned : engine.planFor operation policy handlers run = .ok (plan, start)) (fuel : Nat) :
    engine.execute operation policy handlers fuel run = plan.run fuel ⟨start, none⟩ (opened run) := by
  unfold planFor at planned
  simp only [execute, Act.bind_apply, Act.change_apply, Act.read_apply, Act.ofExcept_apply, planned]
  rfl

theorem execute_of_refusal {fault : Fault}
    (refused : engine.planFor operation policy handlers run = .error fault) (fuel : Nat) :
    engine.execute operation policy handlers fuel run =
      (.error ⟨fault, .unprepared, none⟩, opened run) := by
  unfold planFor at refused
  simp only [execute, Act.bind_apply, Act.change_apply, Act.read_apply, Act.ofExcept_apply, refused]
  rfl

theorem execute_zero : (engine.execute operation policy handlers 0 run).2 = opened run := by
  cases planned : engine.planFor operation policy handlers run with
  | error fault => rw [execute_of_refusal planned]
  | ok settled =>
      obtain ⟨plan, start⟩ := settled
      rw [execute_of_plan planned]
      rfl

end Engine

end ObjectStore
