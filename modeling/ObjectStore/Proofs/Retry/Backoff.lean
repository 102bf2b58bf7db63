import ObjectStore.Proofs.Retry.Growth
import ObjectStore.Proofs.Retry.Transient

/-! Bounds of the waits that grow. A wait is capped only after it was computed in doubles, and what is
computed before has to fit in them. -/

namespace ObjectStore

namespace Retry.Exponential

open Number

variable {policy : Exponential}

section Bounds

/-- The failures that are waited after: attempts are left, and another may mend what failed. -/
structure Due (policy : Exponential) (context : RetryContext) : Prop where
  counted : 0 ≤ context.count
  left : Number.lt (.int context.count) policy.maxAttempts = true
  mendable : isMendable context = .ok true

/-- Every wait is within the bounds, the first one is the least, and none is shorter than one before it. -/
def Bounded (policy : Exponential) (wait : RetryContext → Except Fault (Option Number)) : Prop :=
  ∀ context, policy.Due context → ∃ pause, wait context = .ok (some pause) ∧
    Number.le policy.minBackoff pause = true ∧ Number.le pause policy.maxBackoff = true ∧
    (context.count = 0 → pause.compare? policy.minBackoff = some .eq) ∧
    ∀ later longer, policy.Due later → context.count ≤ later.count → wait later = .ok (some longer) →
      Number.le pause longer = true

/-- If a failure is waited after at all, counts end before 1024, and the first step and the lower bound have
doubles. The double of the lower bound is the bound itself, unless both bounds are the same and cap it; where
twelve tenths of the first step are beyond doubles, every wait is capped. -/
def Fits (policy : Exponential) : Prop :=
  Number.lt (.int 0) policy.maxAttempts = true →
    Number.lt (.int 1024) policy.maxAttempts = false ∧
    ∃ initial least, policy.initialBackoff.toFloat? = some initial ∧ policy.minBackoff.toFloat? = some least ∧
      ((1.2 * initial).isFinite = true ∧ (Number.float least).compare? policy.minBackoff = some .eq ∨
        policy.minBackoff.compare? policy.maxBackoff = some .eq ∧
          ((1.2 * initial).isFinite = true → Number.le policy.minBackoff (.float least) = true))

/-- The wait after a number of repetitions, for the fraction that was drawn. -/
def waited (policy : Exponential) (fraction : Float) (count : ℤ) : Except Fault Number :=
  policy.step fraction >>= policy.wait count

variable {σ : Type} {draw : Act Fault σ Float} {world after : σ} {fraction : Float} {context : RetryContext}

/-- Attempts stand in some place among the whole numbers, since one of them is before. -/
theorem Due.places (due : policy.Due context) : ∃ value scale : ℤ, 0 ≤ scale ∧
    ∀ m, (Number.lt (.int m) policy.maxAttempts = true ↔ m * scale < value) ∧
      (Number.le policy.maxAttempts (.int m) = true ↔ value ≤ m * scale) := by
  obtain ⟨value, scale, ⟨nonneg, -⟩, places⟩ | none_left := policy.maxAttempts.lt_int_iff
  · exact ⟨value, scale, nonneg, places⟩
  · have left := due.left
    rw [none_left] at left
    contradiction

theorem Due.isWanted (due : policy.Due context) : Retry.isWanted policy.maxAttempts context = .ok true := by
  obtain ⟨value, scale, -, places⟩ := due.places
  have some_left : ¬ policy.maxAttempts.le (.int context.count) = true := by
    rw [(places context.count).2]
    exact not_le.mpr ((places context.count).1.mp due.left)
  rw [Retry.isWanted, if_neg some_left, due.mendable]

theorem Due.some_left (due : policy.Due context) : Number.lt (.int 0) policy.maxAttempts = true := by
  obtain ⟨value, scale, nonneg, places⟩ := due.places
  rw [(places 0).1, zero_mul]
  exact (mul_nonneg due.counted nonneg).trans_lt ((places _).1.mp due.left)

theorem Due.few (due : policy.Due context) (ends : Number.lt (.int 1024) policy.maxAttempts = false) :
    context.count < 1024 := by
  obtain ⟨value, scale, nonneg, places⟩ := due.places
  refine not_le.mp fun many => ?_
  have before := (mul_le_mul_of_nonneg_right many nonneg).trans_lt ((places _).1.mp due.left)
  rw [(places 1024).1.mpr before] at ends
  contradiction

theorem decide_of_due (due : policy.Due context) (drawn : draw world = (.ok fraction, after)) :
    ((Policy.exponential draw policy).decide context world).1 = (policy.waited fraction context.count).map some := by
  simp only [Policy.exponential, Act.bind_apply, Act.ofExcept_apply, due.isWanted, if_true, drawn, waited]
  cases policy.step fraction with
  | error fault => rfl
  | ok step =>
      dsimp only [bind, Except.bind]
      cases policy.wait context.count step <;> rfl

/-- A failure of the network. -/
def silence (count : ℤ) : RetryContext :=
  ⟨count, .known .primary, none, none, none⟩

theorem due_silence {count : ℤ} (counted : 0 ≤ count)
    (left : Number.lt (.int count) policy.maxAttempts = true) : policy.Due (silence count) :=
  ⟨counted, left, rfl⟩

theorem waited_eq {initial : Float} (starts : policy.initialBackoff.toFloat? = some initial) (fraction : Float)
    (count : ℤ) : policy.waited fraction count = policy.wait count (.float (stride initial fraction)) := by
  rw [waited, step_ok starts]
  rfl

theorem waited_eq_ok {count : ℤ} {wait : Number} (ends : policy.waited fraction count = .ok wait) :
    ∃ initial, policy.initialBackoff.toFloat? = some initial ∧
      policy.wait count (.float (stride initial fraction)) = .ok wait := by
  cases double : policy.initialBackoff.toFloat? with
  | none =>
      rw [waited, step_error double] at ends
      contradiction
  | some initial =>
      exact ⟨initial, rfl, (waited_eq double fraction count).symm.trans ends⟩

section Amounts

variable {first least most : ℚ} {initial : Float}

/-- What the first wait amounts to. -/
def opening (initial : Float) (least most : ℚ) : WithTop ℚ :=
  if (1.2 * initial).isFinite then most ⊓ double least else most

/-- Waits are computed for the counts that end early enough, and they grow. -/
theorem waits (measured : policy.Measured first least most)
    (starts : policy.initialBackoff.toFloat? = some initial) (fits : double least ≠ ⊤)
    (low : 0 ≤ fraction) (high : fraction ≤ 1) :
    ∃ amount : ℕ → WithTop ℚ, Monotone amount ∧ (∀ count, amount count ≤ most) ∧
      amount 0 = opening initial least most ∧
      ∀ count : ℕ, count < 1024 →
        ∃ wait, policy.waited fraction count = .ok wait ∧ wait.Amounts (amount count) := by
  obtain ⟨r, unit, le_one⟩ := worth_of_unit low high
  obtain ⟨c, worth⟩ := measured.worth_initial starts
  unfold opening
  split
  · next finite =>
    obtain ⟨s, step⟩ := worth_of_finite worth unit le_one finite
    have nonneg : 0 ≤ s := WithTop.coe_nonneg.mp step.nonneg
    refine ⟨fun count => most ⊓ grown least s count, ?_, fun count => inf_le_left, ?_, fun count few => ?_⟩
    · exact fun _ _ le => inf_le_inf_left _ (grown_mono measured.min_nonneg nonneg le)
    · dsimp only
      rw [grown_zero, measured.min.double_double measured.min_nonneg]
    · rw [waited_eq starts]
      exact wait_ok measured fits few step
  · next overflow =>
    refine ⟨fun _ => most, monotone_const, fun _ => le_rfl, rfl, fun count few => ?_⟩
    refine ⟨policy.maxBackoff, ?_, measured.max⟩
    rw [waited_eq starts]
    exact wait_ok_of_lost measured fits few (lost_of_overflow worth unit overflow)

theorem capped_iff {l m d : WithTop ℚ} (ordered : l ≤ m) (finite : Prop) [Decidable finite] :
    (if finite then m ⊓ d else m) = l ↔ finite ∧ d = l ∨ l = m ∧ (finite → l ≤ d) := by
  by_cases inside : finite
  · simp only [inside, if_true, true_and, forall_const]
    constructor
    · intro capped
      obtain below | above := le_total d m
      · exact .inl ((inf_of_le_right below).symm.trans capped)
      · obtain rfl := (inf_of_le_left above).symm.trans capped
        exact .inr ⟨rfl, above⟩
    · rintro (rfl | ⟨rfl, le⟩)
      · exact inf_of_le_right ordered
      · exact inf_of_le_left le
  · simp only [inside, if_false, false_and, false_or, false_implies, and_true]
    exact eq_comm

/-- The policy fits if the first wait is the lower bound, and counts end early enough. -/
theorem fits_iff (measured : policy.Measured first least most) : policy.Fits ↔
    (Number.lt (.int 0) policy.maxAttempts = true →
      Number.lt (.int 1024) policy.maxAttempts = false ∧
      ∃ initial, policy.initialBackoff.toFloat? = some initial ∧
        double least ≠ ⊤ ∧ opening initial least most = least) := by
  refine forall_congr' fun _ => and_congr_right fun _ => exists_congr fun initial => ?_
  obtain ⟨finite, x, min, worth⟩ | ⟨endless, none_fits⟩ := measured.min.toFloat? measured.min_nonneg
  · have amounts : (Number.float x).Amounts (double least) := worth
    simp only [min, Option.some_inj, exists_and_left, exists_eq_left', amounts.eq_iff measured.min,
      measured.min.le_iff amounts, measured.min.eq_iff measured.max, opening,
      capped_iff (WithTop.coe_le_coe.mpr measured.ordered)]
    exact and_congr_right fun _ => ⟨fun capped => ⟨finite, capped⟩, And.right⟩
  · simp [endless, none_fits]

theorem bounded_of_fits (measured : policy.Measured first least most) (low : 0 ≤ fraction) (high : fraction ≤ 1)
    (drawn : draw world = (.ok fraction, after)) (fits : policy.Fits) :
    policy.Bounded fun context => ((Policy.exponential draw policy).decide context world).1 := by
  intro context due
  obtain ⟨ends, initial, starts, finite, start⟩ := (fits_iff measured).mp fits due.some_left
  obtain ⟨amount, monotone, most_le, opens, waits⟩ := waits measured starts finite low high
  have pauses {context : RetryContext} (due : policy.Due context) : ∃ (count : ℕ) (pause : Number),
      context.count = count ∧ policy.waited fraction context.count = .ok pause ∧
        pause.Amounts (amount count) := by
    obtain ⟨count, counted⟩ := Int.eq_ofNat_of_zero_le due.counted
    have few : count < 1024 := by exact_mod_cast counted ▸ due.few ends
    obtain ⟨pause, computed, amounts⟩ := waits count few
    exact ⟨count, pause, counted, counted ▸ computed, amounts⟩
  obtain ⟨count, pause, counted, computed, amounts⟩ := pauses due
  refine ⟨pause, (decide_of_due due drawn).trans (congrArg _ computed), ?_, ?_, ?_, ?_⟩
  · rw [measured.min.le_iff amounts, ← start, ← opens]
    exact monotone (Nat.zero_le count)
  · rw [amounts.le_iff measured.max]
    exact most_le count
  · intro zero
    obtain rfl : count = 0 := by exact_mod_cast counted.symm.trans zero
    rw [amounts.eq_iff measured.min, opens, start]
  · intro later longer due' le ends'
    obtain ⟨count', pause', counted', computed', amounts'⟩ := pauses due'
    have same := (decide_of_due due' drawn).symm.trans ends'
    rw [computed'] at same
    cases same
    rw [amounts.le_iff amounts']
    rw [counted, counted'] at le
    exact monotone (by exact_mod_cast le)

theorem Bounded.computed
    (bounded : policy.Bounded fun context => ((Policy.exponential draw policy).decide context world).1)
    (drawn : draw world = (.ok fraction, after)) (due : policy.Due context) :
    ∃ pause, policy.waited fraction context.count = .ok pause ∧
      (context.count = 0 → pause.compare? policy.minBackoff = some .eq) := by
  obtain ⟨pause, ends, -, -, first, -⟩ := bounded context due
  have computed := (decide_of_due due drawn).symm.trans ends
  cases waits : policy.waited fraction context.count with
  | error fault =>
      rw [waits] at computed
      contradiction
  | ok pause' =>
      rw [waits] at computed
      cases computed
      exact ⟨pause, rfl, first⟩

theorem fits_of_bounded (measured : policy.Measured first least most) (low : 0 ≤ fraction) (high : fraction ≤ 1)
    (drawn : draw world = (.ok fraction, after))
    (bounded : policy.Bounded fun context => ((Policy.exponential draw policy).decide context world).1) :
    policy.Fits := by
  rw [fits_iff measured]
  intro some_left
  have ends : Number.lt (.int 1024) policy.maxAttempts = false := by
    refine Bool.eq_false_iff.mpr fun left => ?_
    obtain ⟨pause, computed, -⟩ := bounded.computed drawn (due_silence (by norm_num) left)
    obtain ⟨initial, -, waits⟩ := waited_eq_ok computed
    have refused : policy.wait 1024 (.float (stride initial fraction)) = .error outOfRange :=
      wait_error_of_many le_rfl _
    exact absurd (refused.symm.trans waits) nofun
  obtain ⟨pause, computed, first⟩ := bounded.computed drawn (due_silence le_rfl some_left)
  obtain ⟨initial, starts, waits'⟩ := waited_eq_ok computed
  have fits : double least ≠ ⊤ := by
    obtain ⟨finite, -⟩ | ⟨-, unfit⟩ := measured.min.toFloat? measured.min_nonneg
    · exact finite
    · exact absurd ((wait_error_of_min unfit 0 _).symm.trans waits') nofun
  obtain ⟨amount, -, -, opens, waits⟩ := waits measured starts fits low high
  obtain ⟨pause', computed', amounts⟩ := waits 0 (by norm_num)
  cases computed.symm.trans computed'
  have equal := (amounts.eq_iff measured.min).mp (first rfl)
  exact ⟨ends, initial, starts, fits, opens.symm.trans equal⟩

end Amounts

/-- The waits keep their bounds if and only if what is computed before the cap fits in doubles. -/
theorem exponential_bounded_iff (sound : policy.Sound) (drawn : draw world = (.ok fraction, after))
    (low : 0 ≤ fraction) (high : fraction ≤ 1) :
    (policy.Bounded fun context => ((Policy.exponential draw policy).decide context world).1) ↔ policy.Fits := by
  obtain ⟨first, least, most, measured⟩ := sound.measured
  exact ⟨fits_of_bounded measured low high drawn, bounded_of_fits measured low high drawn⟩

/-- A draw from the middle of the steps. -/
def middle : Act Fault Unit Float :=
  pure 0.5

theorem standard_sound : standard.Sound :=
  ⟨rfl, rfl, rfl, by decide, by decide⟩

theorem standard_fits : standard.Fits := by
  intro _
  refine ⟨by decide, 30, 3, rfl, rfl, .inl ⟨rfl, rfl⟩⟩

theorem standard_bounded : standard.Sound ∧ (0 : Float) ≤ 0.5 ∧ (0.5 : Float) ≤ 1 ∧
    standard.Bounded fun context => ((Policy.exponential middle standard).decide context ()).1 := by
  have low : (0 : Float) ≤ 0.5 := by decide
  have high : (0.5 : Float) ≤ 1 := by decide
  exact ⟨standard_sound, low, high, (exponential_bounded_iff standard_sound rfl low high).mpr standard_fits⟩

/-- A policy that repeats for a very long time. -/
def patient : Exponential :=
  { standard with maxAttempts := .int 2000 }

/-- A service that is ill, after so many repetitions. -/
def illness (count : ℤ) : RetryContext :=
  ⟨count, .known .primary, none, none, some { status := 500, message := .null, headers := {} }⟩

theorem patient_overflows : patient.Sound ∧ patient.Due (illness 1024) ∧
    ((Policy.exponential middle patient).decide (illness 1024) ()).1 = .error outOfRange := by
  have due : patient.Due (illness 1024) := ⟨by decide, by decide, rfl⟩
  have starts : patient.initialBackoff.toFloat? = some 30 := rfl
  have late : patient.wait 1024 (.float (stride 30 0.5)) = .error outOfRange := wait_error_of_many le_rfl _
  refine ⟨⟨rfl, rfl, rfl, by decide, by decide⟩, due, ?_⟩
  exact (decide_of_due due rfl).trans (congrArg _ ((waited_eq starts 0.5 1024).trans late))

end Bounds

end Retry.Exponential

end ObjectStore
