import Mathlib.Algebra.Order.Group.Defs
import Mathlib.Algebra.Order.Group.Int
import Mathlib.Data.List.Forall2
import ObjectStore.Deadline

/-! Exact seconds. Where nothing is rounded and nothing overflows, spans and instants form an ordered
group, and what a deadline leaves to an attempt is a difference in it. -/

namespace ObjectStore

/-- The operations on seconds are those of an ordered group. -/
class Seconds.Exact (τ : Type) [Seconds τ] [AddCommGroup τ] [LinearOrder τ] [IsOrderedAddMonoid τ] :
    Prop where
  zero : (Seconds.zero : τ) = 0
  add (a b : τ) : Seconds.add a b = .ok (a + b)
  sub (a b : τ) : Seconds.sub a b = .ok (a - b)
  lt (a b : τ) : Seconds.lt a b = decide (a < b)
  le (a b : τ) : Seconds.le a b = decide (a ≤ b)

/-- Whole seconds. -/
instance : Seconds Int where
  ofNat n := n
  add a b := .ok (a + b)
  sub a b := .ok (a - b)
  lt a b := decide (a < b)
  le a b := decide (a ≤ b)
  text := toString

instance : Seconds.Exact Int where
  zero := rfl
  add _ _ := rfl
  sub _ _ := rfl
  lt _ _ := rfl
  le _ _ := rfl

variable {τ : Type} [Seconds τ] [AddCommGroup τ] [LinearOrder τ] [IsOrderedAddMonoid τ]
  [Seconds.Exact τ]

theorem Seconds.shorter_eq (a b : τ) : Seconds.shorter a b = min a b := by
  simp only [Seconds.shorter, Seconds.Exact.lt, decide_eq_true_eq]
  split
  · next less => exact (min_eq_right less.le).symm
  · next least => exact (min_eq_left (not_lt.mp least)).symm

namespace Timeout

/-- A limit of an attempt for which so much time is left, where another limit may be set. -/
def Tight (left : τ) (set : Option τ) (limit : τ) : Prop :=
  limit ≤ left ∧ ∀ configured, set = some configured → limit ≤ configured

/-- Every part of a timeout is within the time that is left and within the part that was set. -/
inductive Within (left : τ) : Timeout τ → Timeout τ → Prop where
  | unset {limit} : Tight left Option.none limit → Within left .none (.single limit)
  | single {configured limit} : Tight left (some configured) limit →
      Within left (.single configured) (.single limit)
  | parts {configured limits} :
      List.Forall₂ (fun set part => ∃ limit, part = some limit ∧ Tight left set limit)
        configured limits → Within left (.parts configured) (.parts limits)

omit [Seconds τ] [AddCommGroup τ] [IsOrderedAddMonoid τ] [Seconds.Exact τ] in
/-- A timeout that was found is there, so no other takes its place. -/
theorem Within.orElse_eq {left : τ} {configured timeout : Timeout τ}
    (within : configured.Within left timeout) (other : Timeout τ) : timeout.orElse other = timeout := by
  cases within <;> rfl

end Timeout

namespace Deadline

theorem hasExpired_eq (now deadline more : τ) :
    hasExpired now (some deadline) more = .ok (decide (deadline < now + more)) := by
  simp only [hasExpired, Seconds.Exact.add, Except.map, Seconds.Exact.lt]

theorem within_tight {left : τ} {configured timeout : Timeout τ}
    (made : within left configured = .ok timeout) : configured.Within left timeout := by
  have shorter : ∀ limit : τ, Timeout.Tight left (some limit) (Seconds.shorter limit left) := by
    intro limit
    rw [Seconds.shorter_eq]
    exact ⟨min_le_right limit left, fun _ same => Option.some.inj same ▸ min_le_left limit left⟩
  cases configured with
  | none =>
      cases made
      exact .unset ⟨le_rfl, nofun⟩
  | single limit =>
      cases made
      exact .single (shorter limit)
  | parts limits =>
      cases made
      refine .parts (List.forall₂_map_right_iff.mpr (List.forall₂_same.mpr fun limit _ => ?_))
      cases limit with
      | none => exact ⟨left, rfl, le_rfl, nofun⟩
      | some limit => exact ⟨_, rfl, shorter limit⟩
  | unordered value => contradiction

/-- A timeout is found only before the deadline, and it ends by then. -/
theorem bound_eq {now deadline : τ} {configured timeout : Timeout τ}
    (made : bound now (some deadline) configured = .ok timeout) :
    now < deadline ∧ configured.Within (deadline - now) timeout := by
  simp only [bound, remaining, Seconds.Exact.sub, Seconds.Exact.le, Seconds.Exact.zero,
    decide_eq_true_eq, bind, Except.bind] at made
  split at made
  · contradiction
  · next remains =>
    split at remains
    · contradiction
    · next some_left =>
      cases remains
      exact ⟨sub_pos.mp (not_le.mp some_left), within_tight made⟩

/-- At the deadline itself nothing is left. -/
theorem bound_of_late {now deadline : τ} (late : deadline ≤ now) (configured : Timeout τ) :
    bound now (some deadline) configured = .error Cause.timedOut := by
  have none_left : deadline - now ≤ 0 := sub_nonpos.mpr late
  simp only [bound, remaining, Seconds.Exact.sub, Seconds.Exact.le, Seconds.Exact.zero, none_left,
    decide_true, if_true, bind, Except.bind]

end Deadline

end ObjectStore
