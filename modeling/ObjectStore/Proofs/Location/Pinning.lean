import ObjectStore.Operation.State
import ObjectStore.Proofs.Act.Frame

/-! Where the attempts of an operation go. As long as the steps between them pin the location in use at
most, every location that is gone on to has an address and agrees with the mode. -/

namespace ObjectStore

/-- The location stays, and the mode stays or is made to stay at the location. -/
def AttemptState.anchored : Frame AttemptState where
  rel before after := after.location = before.location ∧
    (after.mode = before.mode ∨ after.mode = .known (Mode.staying before.location))
  refl _ := ⟨rfl, .inl rfl⟩
  trans := by
    rintro first second third ⟨place, mode⟩ ⟨place', mode'⟩
    rw [place] at mode'
    refine ⟨place'.trans place, ?_⟩
    rcases mode' with same | pin
    · rw [same]
      exact mode
    · exact .inr pin

/-- The location and the count stay, and the mode stays or is made to stay at the location. -/
def AttemptState.pinned : Frame AttemptState where
  rel before after := after.location = before.location ∧ after.retryCount = before.retryCount ∧
    (after.mode = before.mode ∨ after.mode = .known (Mode.staying before.location))
  refl _ := ⟨rfl, rfl, .inl rfl⟩
  trans := by
    rintro first second third ⟨place, count, mode⟩ ⟨place', count', mode'⟩
    obtain ⟨place, mode⟩ := anchored.trans ⟨place, mode⟩ ⟨place', mode'⟩
    exact ⟨place, count'.trans count, mode⟩

theorem AttemptState.anchored_of_pinned {before after : AttemptState} (kept : pinned.rel before after) :
    anchored.rel before after :=
  ⟨kept.1, kept.2.2⟩

namespace Endpoints

variable {endpoints : Endpoints} {state after : AttemptState} {mode : Named Mode} {location : Location}

/-- The state is at a location with an address, and at the right one if its mode stays at one. -/
def Serves (endpoints : Endpoints) (state : AttemptState) : Prop :=
  ∃ location, state.location = .known location ∧ (endpoints.address? location).isSome ∧
    (state.mode = .known .primaryOnly → location = .primary) ∧
    (state.mode = .known .secondaryOnly → location = .secondary)

theorem Serves.of_pinned (serves : endpoints.Serves state)
    (pinned : AttemptState.pinned.rel state after) : endpoints.Serves after := by
  obtain ⟨location, place, address, primary, secondary⟩ := serves
  obtain ⟨samePlace, _, mode⟩ := pinned
  refine ⟨location, samePlace.trans place, address, ?_⟩
  rcases mode with same | pin
  · rw [same]
    exact ⟨primary, secondary⟩
  · rw [pin, place]
    cases location
    · exact ⟨fun _ => rfl, nofun⟩
    · exact ⟨nofun, fun _ => rfl⟩

/-- A state that is at a location which serves does not leave it for one that does not. Steps that pin
the location in use at most are of this kind. -/
def stationed (endpoints : Endpoints) : Frame AttemptState where
  rel before after := endpoints.Serves before → endpoints.Serves after
  refl _ := id
  trans early late := late ∘ early

theorem reach_eq_ok : Mode.reach endpoints location = .ok other ↔
    (endpoints.address? location).isSome ∧ location = other := by
  unfold Mode.reach
  split
  · next address => simp only [address, Except.ok.injEq, true_and]
  · next address => simp only [address, reduceCtorEq, false_and]

/-- A mode that stays at a location goes on to no other. -/
theorem next_staying {place : Location} {last : Named Location}
    (moved : Mode.next (.known (Mode.staying (.known place))) last endpoints = .ok location) :
    location = place := by
  cases place <;> exact (reach_eq_ok.mp moved).2.symm

theorem serves_start (started : Mode.start mode endpoints = .ok location) :
    endpoints.Serves { state with mode, location := .known location } := by
  unfold Mode.start at started
  split at started
  · obtain ⟨address, rfl⟩ := reach_eq_ok.mp started
    exact ⟨_, rfl, address, fun _ => rfl, nofun⟩
  · obtain ⟨address, rfl⟩ := reach_eq_ok.mp started
    exact ⟨_, rfl, address, fun _ => rfl, nofun⟩
  · obtain ⟨address, rfl⟩ := reach_eq_ok.mp started
    exact ⟨_, rfl, address, nofun, fun _ => rfl⟩
  · obtain ⟨address, rfl⟩ := reach_eq_ok.mp started
    exact ⟨_, rfl, address, nofun, nofun⟩
  · contradiction

/-- There is a location to go on to, which serves as well. -/
theorem Serves.next (serves : endpoints.Serves state) :
    ∃ location, Mode.next state.mode state.location endpoints = .ok location ∧
      endpoints.Serves { state with location := .known location } := by
  obtain ⟨last, place, address, primary, secondary⟩ := serves
  rw [place]
  by_cases primaryOnly : state.mode = .known .primaryOnly
  · obtain rfl := primary primaryOnly
    refine ⟨.primary, ?_, .primary, rfl, address, fun _ => rfl, secondary⟩
    rw [primaryOnly]
    exact reach_eq_ok.mpr ⟨address, rfl⟩
  · by_cases secondaryOnly : state.mode = .known .secondaryOnly
    · obtain rfl := secondary secondaryOnly
      refine ⟨.secondary, ?_, .secondary, rfl, address, primary, fun _ => rfl⟩
      rw [secondaryOnly]
      exact reach_eq_ok.mpr ⟨address, rfl⟩
    · have free : Mode.next state.mode (.known last) endpoints =
          if (endpoints.address? (Mode.alternate (.known last))).isSome then
            .ok (Mode.alternate (.known last))
          else Mode.reach endpoints last := by
        unfold Mode.next
        split
        · contradiction
        · contradiction
        · rfl
      rw [free]
      split
      · next other =>
        exact ⟨_, rfl, _, rfl, other, fun only => absurd only primaryOnly,
          fun only => absurd only secondaryOnly⟩
      · exact ⟨last, reach_eq_ok.mpr ⟨address, rfl⟩, last, rfl, address,
          fun only => absurd only primaryOnly, fun only => absurd only secondaryOnly⟩

end Endpoints

end ObjectStore
