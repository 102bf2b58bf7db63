import ObjectStore.Proofs.Act.Ending
import ObjectStore.Retry.Backoff

/-! Which failures a policy repeats: those that may pass, as long as attempts are left. Statuses are
numbers, whole or not, and every number except NaN has its place among the whole ones. -/

namespace ObjectStore

namespace Number

/-- Numerator and denominator of a fraction, or of an infinity if the denominator is zero. -/
def Fraction (value scale : Int) : Prop :=
  0 ≤ scale ∧ (scale = 0 → value ≠ 0)

/-- A number stands among the whole ones where a fraction would. -/
def Placed (n : Number) : Prop :=
  ∃ value scale, Fraction value scale ∧ ∀ m, n.compare? (.int m) ≠ none ∧
    (n.compare? (.int m) = some .eq ↔ value = m * scale) ∧
    (n.lt (.int m) = true ↔ value < m * scale) ∧ (le (.int m) n = true ↔ m * scale ≤ value)

theorem placed_of_compare {n : Number} {value scale : Int} (fraction : Fraction value scale)
    (after : ∀ m, n.compare? (.int m) = some (compare value (m * scale)))
    (before : ∀ m, (Number.int m).compare? n = some (compare (m * scale) value)) : n.Placed := by
  refine ⟨value, scale, fraction, fun m => ⟨?_, ?_, ?_, ?_⟩⟩
  · rw [after]
    exact Option.some_ne_none _
  · rw [after, Option.some_inj, Int.compare_eq_eq]
  · rw [lt, after, beq_iff_eq, Option.some_inj, Int.compare_eq_lt]
  · rw [le, before, ← Int.isLE_compare]
    cases compare (m * scale) value <;> rfl

theorem compareInt_placed (x : Float) : ∃ value scale, Fraction value scale ∧
    ∀ m, compareInt m x = compare (m * scale) value := by
  unfold compareInt
  cases parts? x with
  | none =>
      refine ⟨if x < 0 then -1 else 1, 0, ⟨Int.le_refl 0, fun _ => ?_⟩, fun m => ?_⟩
      · split <;> decide
      · rw [Int.mul_zero]
        dsimp only
        split <;> rfl
  | some p =>
      dsimp only
      by_cases whole : 0 ≤ p.exponent
      · simp only [if_pos whole]
        exact ⟨_, 1, ⟨by decide, nofun⟩, fun m => by rw [Int.mul_one]⟩
      · simp only [if_neg whole]
        have power : 0 < Nat.pow 2 (-p.exponent).toNat := Nat.pow_pos (by decide)
        refine ⟨_, (Nat.pow 2 (-p.exponent).toNat : Nat), ⟨Int.natCast_nonneg _, ?_⟩, fun m => rfl⟩
        exact fun none => absurd none (Int.natCast_ne_zero.mpr (Nat.ne_of_gt power))

/-- Every number has its place, except the one that is unlike any other. -/
theorem placed_or_undefined (n : Number) : n.Placed ∨
    ∀ m, n.compare? (.int m) = none ∧ (Number.int m).compare? n = none := by
  cases n with
  | int n =>
      refine .inl ?_
      have whole : Fraction n 1 := ⟨by decide, nofun⟩
      refine placed_of_compare whole ?_ ?_ <;> intro m <;> rw [Int.mul_one] <;> rfl
  | float x =>
      obtain ⟨value, scale, fraction, places⟩ := compareInt_placed x
      cases undefined : x.isNaN with
      | true =>
          refine .inr fun m => ?_
          simp only [compare?, undefined, if_true, and_self]
      | false =>
          refine .inl (placed_of_compare fraction ?_ ?_) <;> intro m <;>
            simp only [compare?, undefined, places, if_false, Int.compare_swap, Bool.false_eq_true]

theorem int_compare? (n : Number) (m : Int) :
    (Number.int m).compare? n = (n.compare? (.int m)).map Ordering.swap := by
  cases n with
  | int k =>
      rw [compare?, compare?, Option.map_some, Int.compare_swap]
  | float x =>
      rw [compare?, compare?]
      split
      · rfl
      · rw [Option.map_some, Ordering.swap_swap]

/-- Whole numbers stand before a number as before a fraction, or none of them does. -/
theorem lt_int_iff (n : Number) : (∃ value scale, Fraction value scale ∧ ∀ m,
    (lt (.int m) n = true ↔ m * scale < value) ∧ (le n (.int m) = true ↔ value ≤ m * scale)) ∨
    ∀ m, lt (.int m) n = false := by
  obtain ⟨value, scale, fraction, places⟩ | undefined := n.placed_or_undefined
  · refine .inl ⟨value, scale, fraction, fun m => ?_⟩
    obtain ⟨defined, equal, less, -⟩ := places m
    rw [lt, beq_iff_eq] at less
    rw [lt, le, int_compare?]
    generalize n.compare? (.int m) = order at *
    cases order with
    | none => exact absurd rfl defined
    | some order =>
        cases order <;> simp_all <;> omega
  · exact .inr fun m => by rw [lt, (undefined m).2]; rfl

theorem le_int (a b : Int) : le (.int a) (.int b) = decide (a ≤ b) := by
  rw [Bool.eq_iff_iff, decide_eq_true_iff, ← Int.isLE_compare, le, compare?]
  cases compare a b <;> rfl

end Number

namespace Retry

/-- A failure with this status may pass: below 300 the rest of the response was lost, the secondary
location may not have the resource yet, and the service may be busy. What is like no status at all is
unexpected and may pass as well. -/
def Passing (status : Number) (location : Named Location) : Prop :=
  status.compare? (.int 0) = none ∨
  status.lt (.int 300) = true ∨
  status.compare? (.int 404) = some .eq ∧ location = .known .secondary ∨
  status.compare? (.int 408) = some .eq ∨
  Number.le (.int 500) status = true ∧ status.compare? (.int 501) ≠ some .eq ∧
    status.compare? (.int 505) ≠ some .eq

theorem isTransient_of_undefined {status : Number}
    (undefined : ∀ m, status.compare? (.int m) = none ∧ (Number.int m).compare? status = none)
    (location : Named Location) : isTransient status location = true := by
  simp only [isTransient, Number.le, (undefined _).1, (undefined _).2]
  rfl

theorem isTransient_iff (status : Number) (location : Named Location) :
    isTransient status location = true ↔ Passing status location := by
  rcases status.placed_or_undefined with ⟨value, scale, ⟨positive, infinite⟩, places⟩ | undefined
  · unfold isTransient Passing
    simp only [(places _).1, (places _).2.1, (places _).2.2.1, (places _).2.2.2, ne_eq, false_or]
    split
    · next bounded =>
      simp only [Bool.and_eq_true, (places _).2.2.1, (places _).2.2.2] at bounded
      simp only [Bool.or_eq_true, Bool.and_eq_true, beq_iff_eq, (places _).2.1]
      by_cases secondary : location = .known .secondary
      · simp only [secondary, and_true]
        omega
      · simp only [secondary, and_false, false_or]
        omega
    · next unbounded =>
      simp only [Bool.and_eq_true, (places _).2.2.1, (places _).2.2.2] at unbounded
      simp only [Bool.and_eq_true, Bool.not_eq_true', beq_eq_false_iff_ne, ne_eq, (places _).2.1]
      by_cases secondary : location = .known .secondary
      · simp only [secondary, and_true]
        omega
      · simp only [secondary, and_false, false_or]
        omega
  · exact ⟨fun _ => .inl (undefined 0).1, fun _ => isTransient_of_undefined undefined location⟩

/-- Another attempt may mend the failure. Without a status the network is to blame. -/
def Mendable (status : Value) (location : Named Location) : Prop :=
  status = .null ∨ ∃ n, status.number? = some n ∧ Passing n location

/-- A status that can be compared with numbers, or none at all. -/
def Ranked (status : Value) : Prop :=
  status = .null ∨ (status.number?).isSome

theorem isMendable_of_ranked {context : RetryContext} (ranked : Ranked context.status) :
    ∃ mends, isMendable context = .ok mends ∧
      (mends = true ↔ Mendable context.status context.location) := by
  rcases ranked with null | number
  · refine ⟨true, ?_, fun _ => .inl null, fun _ => rfl⟩
    rw [isMendable, null]
  · obtain ⟨n, number⟩ := Option.isSome_iff_exists.mp number
    have some_status : context.status ≠ .null := by
      rintro null
      rw [null] at number
      contradiction
    refine ⟨isTransient n context.location, ?_, ?_⟩
    · simp only [isMendable, number]
    · rw [isTransient_iff, Mendable, number]
      simp only [some_status, false_or, Option.some_inj, exists_eq_left']

theorem isMendable_of_unranked {context : RetryContext} (unranked : ¬ Ranked context.status) :
    ∃ fault, isMendable context = .error fault := by
  have none_left : context.status.number? = none :=
    Option.not_isSome_iff_eq_none.mp fun number => unranked (.inr number)
  refine ⟨notOrdered context.status, ?_⟩
  unfold isMendable
  split
  · next null => exact absurd (.inl null) unranked
  · rw [none_left]

theorem isWanted_eq (most : Int) (context : RetryContext) : isWanted (.int most) context =
    if most ≤ context.count then .ok false else isMendable context := by
  simp only [isWanted, Number.le_int, decide_eq_true_iff]

end Retry

/-- The policies that count attempts, given pauses that can be waited. -/
inductive Policy.Counts (most : Int) : Policy σ Number → Prop where
  | linear {policy : Retry.Linear} {pause : Number} : policy.maxAttempts = .int most →
      policy.backoff = some pause → Number.le (.int 0) pause = true → Counts most (linear policy)
  | exponential {policy : Retry.Exponential} {draw : Act Fault σ Float} :
      policy.maxAttempts = .int most →
      (∀ count, 0 ≤ count → count < most → ∀ world, ∃ fraction after step pause,
        draw world = (.ok fraction, after) ∧ policy.step fraction = .ok step ∧
        policy.wait count step = .ok pause ∧ Number.le (.int 0) pause = true) →
      Counts most (exponential draw policy)

namespace Policy.Counts

variable {most : Int} {policy : Policy σ Number} {context : RetryContext}

theorem decide_of_unwanted (counts : policy.Counts most)
    (unwanted : Retry.isWanted (.int most) context = .ok false) (world : σ) :
    policy.decide context world = (.ok none, world) := by
  cases counts with
  | linear bound _ _ => simp [Policy.linear, Act.bind_apply, bound, unwanted]
  | exponential bound _ => simp [Policy.exponential, Act.bind_apply, bound, unwanted]

theorem decide_of_fault (counts : policy.Counts most) {fault : Fault}
    (refused : Retry.isWanted (.int most) context = .error fault) (world : σ) :
    policy.decide context world = (.error fault, world) := by
  cases counts with
  | linear bound _ _ => simp [Policy.linear, Act.bind_apply, bound, refused]
  | exponential bound _ => simp [Policy.exponential, Act.bind_apply, bound, refused]

theorem decide_of_wanted (counts : policy.Counts most) (repeated : 0 ≤ context.count)
    (wanted : Retry.isWanted (.int most) context = .ok true) (world : σ) :
    ∃ pause after, policy.decide context world = (.ok (some pause), after) ∧
      Number.le (.int 0) pause = true := by
  cases counts with
  | @linear policy pause bound backoff positive =>
      refine ⟨pause, world, ?_, positive⟩
      simp [Policy.linear, Act.bind_apply, bound, wanted, backoff]
  | @exponential policy draw bound waits =>
      have left : context.count < most := by
        rw [Retry.isWanted_eq] at wanted
        split at wanted
        · cases wanted
        · next left => exact Int.not_le.mp left
      obtain ⟨fraction, after, step, pause, drawn, stepped, waited, positive⟩ :=
        waits context.count repeated left world
      refine ⟨pause, after, ?_, positive⟩
      simp [Policy.exponential, Act.bind_apply, bound, wanted, drawn, stepped, waited]

end Policy.Counts

end ObjectStore
