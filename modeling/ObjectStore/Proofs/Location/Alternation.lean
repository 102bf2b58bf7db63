import ObjectStore.Proofs.Location.Pinning

/-! The locations of the attempts of an operation, told from its mode and the number of the attempt: a mode
that stays at a location has one location for all attempts, and one that goes on to the other location
alternates if both have an address. -/

namespace ObjectStore

/-- The mode stays as it is. -/
def AttemptState.steady : Frame AttemptState :=
  .same (·.mode)

namespace Mode

variable {mode configured : Mode} {restriction : Restriction} {endpoints : Endpoints} {toSecondary : Bool}
  {location missing : Location} {last : Named Location}

/-- The configured mode keeps to one location, and the operation is restricted to the other. -/
def Conflicts (configured : Mode) (restriction : Restriction) : Prop :=
  restriction = .primaryOnly ∧ configured = secondaryOnly ∨
    restriction = .secondaryOnly ∧ configured = primaryOnly

/-- The mode that an operation goes by where there is no conflict. A restriction decides alone; without one,
retries may go on to the secondary location although the primary one is configured. -/
def decided (configured : Mode) (restriction : Restriction) (toSecondary : Bool) (endpoints : Endpoints) :
    Mode :=
  match restriction with
  | .primaryOnly => primaryOnly
  | .secondaryOnly => secondaryOnly
  | .either =>
    if toSecondary ∧ configured = primaryOnly ∧ endpoints.secondary.isSome then primaryThenSecondary
    else configured

section Effective

variable {named : Named Mode} (given : orDefault named = .known configured)
include given

theorem effective_of_conflict (conflict : configured.Conflicts restriction) : ∃ cause : Cause,
    cause.kind = .value ∧
      effective named (.known restriction) toSecondary (some endpoints) = .error cause := by
  rcases conflict with ⟨rfl, rfl⟩ | ⟨rfl, rfl⟩
  · exact ⟨.primaryOnly, rfl, if_pos given⟩
  · exact ⟨.secondaryOnly, rfl, if_pos given⟩

theorem effective_of_accord (accord : ¬ configured.Conflicts restriction) :
    effective named (.known restriction) toSecondary (some endpoints) =
      .ok (.known (decided configured restriction toSecondary endpoints)) := by
  cases restriction with
  | primaryOnly =>
      have other : configured ≠ secondaryOnly := fun same => accord (.inl ⟨rfl, same⟩)
      simp [effective, given, decided, other]
  | secondaryOnly =>
      have other : configured ≠ primaryOnly := fun same => accord (.inr ⟨rfl, same⟩)
      simp [effective, given, decided, other]
  | either =>
      simp only [effective, given, decided, Option.bind_some, Bool.and_eq_true, decide_eq_true_eq,
        Named.known.injEq, and_assoc]
      split <;> rfl

end Effective

/-- Where a mode starts. One that prefers the secondary location does without it if there is none. -/
def first (mode : Mode) (endpoints : Endpoints) : Location :=
  match mode with
  | primaryOnly | primaryThenSecondary => .primary
  | secondaryOnly => .secondary
  | secondaryThenPrimary => if endpoints.secondary.isSome then .secondary else .primary

theorem start_eq : start (.known mode) endpoints = reach endpoints (mode.first endpoints) := by
  cases mode with
  | secondaryThenPrimary =>
      simp only [start, first]
      cases endpoints.secondary <;> rfl
  | _ => rfl

/-- A mode that keeps to a location is validated before it starts there, which makes no difference. -/
theorem start_of_validate : (do endpoints.validate (.known mode); start (.known mode) endpoints) =
    reach endpoints (mode.first endpoints) := by
  rw [start_eq]
  cases mode with
  | primaryOnly =>
      cases held : endpoints.primary <;>
        simp [Endpoints.validate, reach, first, Endpoints.address?, held, bind, Except.bind]
  | secondaryOnly =>
      cases held : endpoints.secondary <;>
        simp [Endpoints.validate, reach, first, Endpoints.address?, held, bind, Except.bind]
  | _ => rfl

/-- A mode that prefers the secondary location always has a location to start at. -/
theorem address_first_of_preference : (endpoints.address? (secondaryThenPrimary.first endpoints)).isSome := by
  simp only [first]
  split
  · assumption
  · next lacks =>
    have given := endpoints.given
    rw [Bool.or_eq_true] at given
    exact given.resolve_right lacks

/-- Whatever the location before, a mode that can start goes on to a location with an address. It fails
only where the location before is none that is known. -/
theorem next_cases (address : (endpoints.address? (mode.first endpoints)).isSome) (last : Named Location) :
    (∃ location, next (.known mode) last endpoints = .ok location ∧
      (endpoints.address? location).isSome) ∨
    ∃ name, next (.known mode) last endpoints = .error (Cause.unknownLocation name) := by
  have starts : start (.known mode) endpoints = .ok (mode.first endpoints) :=
    start_eq.trans (Endpoints.reach_eq_ok.mpr ⟨address, rfl⟩)
  by_cases free : mode = primaryThenSecondary ∨ mode = secondaryThenPrimary
  · rcases last with place | (_ | name)
    · have roams : next (.known mode) (.known place) endpoints =
          if (endpoints.address? (alternate (.known place))).isSome then .ok (alternate (.known place))
          else reach endpoints place := by
        rcases free with rfl | rfl <;> rfl
      rw [roams]
      by_cases other : (endpoints.address? (alternate (.known place))).isSome
      · exact .inl ⟨_, if_pos other, other⟩
      · have here : (endpoints.address? place).isSome := by
          have given := endpoints.given
          rw [Bool.or_eq_true] at given
          cases place with
          | primary => exact given.resolve_right other
          | secondary => exact given.resolve_left other
        exact .inl ⟨place, (if_neg other).trans (Endpoints.reach_eq_ok.mpr ⟨here, rfl⟩), here⟩
    · have restarts : next (.known mode) (.other none) endpoints = start (.known mode) endpoints := by
        rcases free with rfl | rfl <;> rfl
      exact .inl ⟨_, restarts.trans starts, address⟩
    · have roams : next (.known mode) (.other (some name)) endpoints =
          if endpoints.primary.isSome then .ok .primary else .error (Cause.unknownLocation name) := by
        rcases free with rfl | rfl <;> rfl
      rw [roams]
      by_cases other : endpoints.primary.isSome
      · exact .inl ⟨.primary, if_pos other, other⟩
      · exact .inr ⟨name, if_neg other⟩
  · refine .inl ⟨mode.first endpoints, ?_, address⟩
    cases mode with
    | primaryOnly | secondaryOnly => exact Endpoints.reach_eq_ok.mpr ⟨address, rfl⟩
    | primaryThenSecondary => exact absurd (.inl rfl) free
    | secondaryThenPrimary => exact absurd (.inr rfl) free

theorem address_of_next (address : (endpoints.address? (mode.first endpoints)).isSome)
    (moved : next (.known mode) last endpoints = .ok location) :
    (endpoints.address? location).isSome := by
  rcases next_cases address last with ⟨_, same, reachable⟩ | ⟨_, failed⟩
  · cases moved.symm.trans same
    exact reachable
  · cases moved.symm.trans failed

/-- On its way a mode never lacks an address. -/
theorem next_ne_missing (address : (endpoints.address? (mode.first endpoints)).isSome)
    (last : Named Location) (missing : Location) :
    next (.known mode) last endpoints ≠ .error (Cause.missingAddress missing) := by
  intro lacks
  rcases next_cases address last with ⟨_, moved, _⟩ | ⟨_, failed⟩
  · cases moved.symm.trans lacks
  · cases failed.symm.trans lacks

/-- The mode goes to both locations, and both have an address. -/
def Alternates (mode : Mode) (endpoints : Endpoints) : Prop :=
  (mode = primaryThenSecondary ∨ mode = secondaryThenPrimary) ∧
    endpoints.primary.isSome ∧ endpoints.secondary.isSome

/-- The mode of the attempts stays as it is, and where it alternates so does the location it goes on from. -/
def onCourse (mode : Mode) (endpoints : Endpoints) : Frame AttemptState where
  rel before after :=
    after.mode = before.mode ∧ (mode.Alternates endpoints → after.location = before.location)
  refl _ := ⟨rfl, fun _ => rfl⟩
  trans early late :=
    ⟨late.1.trans early.1, fun alternates => (late.2 alternates).trans (early.2 alternates)⟩

/-- The location of an attempt that so many others came before. -/
def place (mode : Mode) (endpoints : Endpoints) (before : Nat) : Location :=
  match mode with
  | primaryOnly => .primary
  | secondaryOnly => .secondary
  | primaryThenSecondary =>
    if endpoints.secondary.isSome ∧ before % 2 = 1 then .secondary else .primary
  | secondaryThenPrimary =>
    if endpoints.secondary.isSome ∧ (endpoints.primary.isSome → before % 2 = 0) then .secondary
    else .primary

theorem place_zero : mode.place endpoints 0 = mode.first endpoints := by
  cases mode with
  | secondaryThenPrimary => simp [place, first]
  | _ => simp [place, first]

theorem address_place (address : (endpoints.address? (mode.first endpoints)).isSome) (before : Nat) :
    (endpoints.address? (mode.place endpoints before)).isSome := by
  cases mode with
  | primaryOnly | secondaryOnly => exact address
  | primaryThenSecondary =>
      simp only [place]
      split
      · next both => exact both.1
      · exact address
  | secondaryThenPrimary =>
      simp only [place]
      split
      · next both => exact both.1
      · next one =>
        have given := endpoints.given
        rw [Bool.or_eq_true] at given
        by_cases lacks : endpoints.primary.isSome
        · exact lacks
        · exact absurd ⟨given.resolve_left lacks, fun here => absurd here lacks⟩ one

/-- Numbers go up by one, and the location changes. -/
theorem alternate_place (alternates : mode.Alternates endpoints) (before : Nat) :
    alternate (.known (mode.place endpoints before)) = mode.place endpoints (before + 1) := by
  obtain ⟨free, primary, secondary⟩ := alternates
  have parity : (before + 1) % 2 = 1 ↔ ¬ before % 2 = 1 := by omega
  have evenness : (before + 1) % 2 = 0 ↔ ¬ before % 2 = 0 := by omega
  rcases free with rfl | rfl
  · simp only [place, secondary, true_and, parity]
    by_cases odd : before % 2 = 1 <;> simp [odd, alternate]
  · simp only [place, primary, secondary, true_and, forall_const, evenness]
    by_cases even : before % 2 = 0 <;> simp [even, alternate]

theorem place_of_address (single : ¬ mode.Alternates endpoints)
    (address : (endpoints.address? (mode.first endpoints)).isSome)
    (reachable : (endpoints.address? location).isSome)
    (free : mode = primaryThenSecondary ∨ mode = secondaryThenPrimary) (before : Nat) :
    location = mode.place endpoints before := by
  have one : ¬ (endpoints.primary.isSome ∧ endpoints.secondary.isSome) := fun both => single ⟨free, both⟩
  cases location with
  | primary =>
      have none : endpoints.secondary.isSome = false := by
        simpa using fun other => one ⟨reachable, other⟩
      rcases free with rfl | rfl <;> simp [place, none]
  | secondary =>
      have none : endpoints.primary.isSome = false := by
        simpa using fun other => one ⟨other, reachable⟩
      have here : endpoints.secondary.isSome = true := reachable
      rcases free with rfl | rfl
      · exact absurd (Eq.trans (Eq.symm none) address) Bool.false_ne_true
      · simp [place, none, here]

/-- The next attempt is at the location of its number. Where a mode does not alternate, it does not matter
where the attempt before was. -/
theorem place_succ (address : (endpoints.address? (mode.first endpoints)).isSome) {before : Nat}
    (here : mode.Alternates endpoints → last = .known (mode.place endpoints before))
    (moved : next (.known mode) last endpoints = .ok location) :
    location = mode.place endpoints (before + 1) := by
  have reachable := address_of_next address moved
  by_cases alternates : mode.Alternates endpoints
  · rw [here alternates] at moved
    obtain ⟨free, both⟩ := id alternates
    have other : (endpoints.address? (alternate (.known (mode.place endpoints before)))).isSome := by
      cases alternate (.known (mode.place endpoints before)) with
      | primary => exact both.1
      | secondary => exact both.2
    have goes : next (.known mode) (.known (mode.place endpoints before)) endpoints =
        .ok (alternate (.known (mode.place endpoints before))) := by
      rcases free with rfl | rfl <;> exact if_pos other
    rw [goes, alternate_place alternates] at moved
    exact (Except.ok.inj moved).symm
  · cases mode with
    | primaryOnly | secondaryOnly => exact (Endpoints.reach_eq_ok.mp moved).2.symm
    | primaryThenSecondary => exact place_of_address alternates address reachable (.inl rfl) _
    | secondaryThenPrimary => exact place_of_address alternates address reachable (.inr rfl) _

end Mode

end ObjectStore
