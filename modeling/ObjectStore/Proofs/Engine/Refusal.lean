import ObjectStore.Proofs.Engine.Path

/-! Operations that are refused before their first attempt. There is nothing to report on yet, and the
fault is one of the arguments or of the configuration. -/

namespace ObjectStore

variable {σ ω α β : Type}

/-- What fails here does not report on an operation. -/
def Unreporting (x : Except Fault α) : Prop :=
  ∀ ⦃fault⦄, x = .error fault → fault.kind.isStorage = false

namespace Unreporting

theorem ok (a : α) : Unreporting (.ok a) :=
  fun _ same => by cases same

theorem error {fault : Fault} (silent : fault.kind.isStorage = false) :
    Unreporting (.error fault : Except Fault α) := by
  rintro _ ⟨⟩
  exact silent

theorem bind {x : Except Fault α} {f : α → Except Fault β} (first : Unreporting x)
    (rest : ∀ a, Unreporting (f a)) : Unreporting (x >>= f) := by
  cases x with
  | error fault => exact .error (first rfl)
  | ok a => exact rest a

theorem map {x : Except Fault α} (first : Unreporting x) (f : α → β) : Unreporting (x.map f) := by
  cases x with
  | error fault => exact .error (first rfl)
  | ok a => exact .ok _

end Unreporting

theorem Client.addressOf_unreporting (protocol host : Option String) :
    Unreporting (Client.addressOf protocol host) := by
  cases protocol with
  | none => exact .error rfl
  | some protocol =>
      refine .map ?_ _
      cases host with
      | none => exact .error rfl
      | some host => exact .ok _

theorem Client.endpoints_unreporting {τ : Type} (client : Client σ τ) : Unreporting client.endpoints := by
  unfold Client.endpoints
  extract_lets protocol withSecondary
  have rest : ∀ secondary, Unreporting (withSecondary secondary) :=
    fun secondary => .bind (addressOf_unreporting _ _) fun primary => .ok _
  split
  · exact .bind (.ok _) rest
  · exact .bind (.ok _) rest
  · exact .bind ((addressOf_unreporting _ _).map _) rest

theorem Deadline.ofBudget_unreporting (now : Number) (budget : Timeout Number) :
    Unreporting (Deadline.ofBudget now budget) := by
  cases budget with
  | none => exact .ok _
  | parts limits => exact .error rfl
  | unordered value => exact .error rfl
  | single budget =>
      show Unreporting (if Seconds.isNegative budget then .error (Cause.negative "maximum_execution_time")
        else (Seconds.add now budget).map some)
      split
      · exact .error rfl
      · refine .map ?_ _
        show Unreporting ((now.add? budget).elim (.error outOfRange) .ok)
        cases now.add? budget with
        | none => exact .error rfl
        | some expiry => exact .ok _

namespace Mode

theorem reach_unreporting (endpoints : Endpoints) (location : Location) :
    Unreporting (reach endpoints location) := by
  unfold reach
  split
  · exact .ok _
  · cases location <;> exact .error rfl

theorem start_unreporting (mode : Named Mode) (endpoints : Endpoints) :
    Unreporting (start mode endpoints) := by
  unfold start
  split
  · exact reach_unreporting _ _
  · exact reach_unreporting _ _
  · exact reach_unreporting _ _
  · exact reach_unreporting _ _
  · exact .error rfl

theorem effective_unreporting (configured : Named Mode) (restriction : Named Restriction)
    (toSecondary : Bool) (endpoints : Option Endpoints) :
    Unreporting (effective configured restriction toSecondary endpoints) := by
  unfold effective
  extract_lets mode
  split
  · split
    · exact .error rfl
    · exact .ok _
  · split
    · exact .error rfl
    · exact .ok _
  · split <;> exact .ok _

end Mode

theorem Endpoints.validate_unreporting (endpoints : Endpoints) (mode : Named Mode) :
    Unreporting (endpoints.validate mode) := by
  unfold validate
  split
  · split
    · exact .error rfl
    · exact .ok _
  · split
    · exact .error rfl
    · exact .ok _
  · exact .ok _

namespace Engine

variable {engine : Engine σ Number} {operation : Operation σ Number ω}
  {policy : Option (Policy σ Number)} {handlers : Handlers σ} {run : Run σ Number ω}

theorem planFor_unreporting : Unreporting (engine.planFor operation policy handlers run) := by
  unfold planFor Engine.plan
  extract_lets options policy start withEndpoints
  have rest : ∀ endpoints, Unreporting (withEndpoints endpoints) := by
    intro endpoints
    refine .bind (Deadline.ofBudget_unreporting _ _) fun deadline => ?_
    refine .bind (.bind (Mode.effective_unreporting _ _ _ _) fun mode => .ok _) fun mode => ?_
    refine .bind (Endpoints.validate_unreporting _ _) fun _ => ?_
    exact .bind (Mode.start_unreporting _ _) fun location => .ok _
  split
  · exact .bind (.ok _) rest
  · exact .bind (Client.endpoints_unreporting _) rest

end Engine

end ObjectStore
