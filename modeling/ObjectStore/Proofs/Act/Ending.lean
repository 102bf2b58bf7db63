import ObjectStore.Act

/-! Where an action ends. A good end and a bad end each have a postcondition of their own, since an
action keeps what it changed before a fault. -/

namespace ObjectStore.Act

variable {ε ε' σ τ α β γ : Type} {s : σ} {Q Q' : α → σ → Prop} {E E' : ε → σ → Prop}

theorem except_mapError_eq_ok {x : Except ε α} {f : ε → ε'} {a : α} :
    x.mapError f = .ok a ↔ x = .ok a := by
  constructor
  · intro same
    cases x <;> cases same
    rfl
  · rintro rfl
    rfl

theorem except_bind_eq_ok {x : Except ε α} {f : α → Except ε β} {b : β} :
    x >>= f = .ok b ↔ ∃ a, x = .ok a ∧ f a = .ok b := by
  cases x with
  | ok a => simp [bind, Except.bind]
  | error error => simp [bind, Except.bind]

theorem bind_assoc (x : Act ε σ α) (f : α → Act ε σ β) (g : β → Act ε σ γ) :
    x >>= f >>= g = x >>= fun a => f a >>= g := by
  funext s
  simp only [bind_apply]
  cases x s with
  | mk result after => cases result <;> rfl

theorem bind_pure (x : Act ε σ Unit) : (x >>= fun _ => pure ()) = x := by
  funext s
  rw [bind_apply]
  cases x s with
  | mk result after => cases result <;> rfl

/-- Two actions end well, one after the other, if each of them does. -/
theorem bind_eq_ok {x : Act ε σ α} {f : α → Act ε σ β} {b : β} {after : σ} :
    (x >>= f) s = (.ok b, after) ↔ ∃ a between, x s = (.ok a, between) ∧ f a between = (.ok b, after) := by
  rw [bind_apply]
  cases x s with
  | mk result between => cases result <;> simp [and_assoc]

/-- Begun in `s`, the action ends well in `Q` or badly in `E`. -/
def Ends (x : Act ε σ α) (s : σ) (Q : α → σ → Prop) (E : ε → σ → Prop) : Prop :=
  match x s with
  | (.ok a, after) => Q a after
  | (.error error, after) => E error after

theorem ends_of_ok {x : Act ε σ α} {a : α} {after : σ} (run : x s = (.ok a, after)) :
    x.Ends s Q E ↔ Q a after := by
  simp only [Ends, run]

theorem ends_of_error {x : Act ε σ α} {error : ε} {after : σ} (run : x s = (.error error, after)) :
    x.Ends s Q E ↔ E error after := by
  simp only [Ends, run]

theorem ends_of_eq {x y : Act ε σ α} {s' : σ} (same : x s = y s') : x.Ends s Q E ↔ y.Ends s' Q E := by
  simp only [Ends, same]

theorem Ends.cases {x : Act ε σ α} (ends : x.Ends s Q E) :
    (∃ a, Q a (x s).2) ∨ ∃ error, E error (x s).2 := by
  unfold Ends at ends
  split at ends
  · next run => exact .inl ⟨_, by rw [run]; exact ends⟩
  · next run => exact .inr ⟨_, by rw [run]; exact ends⟩

theorem Ends.mono {x : Act ε σ α} (ends : x.Ends s Q E) (good : ∀ a after, Q a after → Q' a after)
    (bad : ∀ error after, E error after → E' error after) : x.Ends s Q' E' := by
  unfold Ends at ends ⊢
  split at ends
  · exact good _ _ ends
  · exact bad _ _ ends

/-- The same where it does not matter how the action fails. -/
theorem Ends.imp {x : Act ε σ α} (ends : x.Ends s Q E) (good : ∀ a after, Q a after → Q' a after) :
    x.Ends s Q' fun _ _ => True :=
  ends.mono good fun _ _ _ => trivial

theorem Ends.and {x : Act ε σ α} (first : x.Ends s Q E) (second : x.Ends s Q' E') :
    x.Ends s (fun a after => Q a after ∧ Q' a after)
      (fun error after => E error after ∧ E' error after) := by
  unfold Ends at first second ⊢
  split at first <;> simp_all

@[simp] theorem ends_pure (a : α) : (pure a : Act ε σ α).Ends s Q E ↔ Q a s := Iff.rfl

@[simp] theorem ends_fail (error : ε) : (fail error : Act ε σ α).Ends s Q E ↔ E error s := Iff.rfl

@[simp] theorem ends_read {Q : σ → σ → Prop} : (read : Act ε σ σ).Ends s Q E ↔ Q s s := Iff.rfl

@[simp] theorem ends_change {Q : Unit → σ → Prop} (f : σ → σ) :
    (change f : Act ε σ Unit).Ends s Q E ↔ Q () (f s) := Iff.rfl

@[simp] theorem ends_ofExcept_ok (a : α) :
    (ofExcept (.ok a) : Act ε σ α).Ends s Q E ↔ Q a s := Iff.rfl

@[simp] theorem ends_ofExcept_error (error : ε) :
    (ofExcept (.error error) : Act ε σ α).Ends s Q E ↔ E error s := Iff.rfl

theorem ends_ofExcept {x : Except ε α} (good : ∀ a, x = .ok a → Q a s)
    (bad : ∀ error, x = .error error → E error s) : (ofExcept x).Ends s Q E := by
  cases x with
  | ok a => exact good a rfl
  | error error => exact bad error rfl

theorem ends_bind {x : Act ε σ α} {f : α → Act ε σ β} {Q : β → σ → Prop} :
    (x >>= f).Ends s Q E ↔ x.Ends s (fun a after => (f a).Ends after Q E) E := by
  unfold Ends
  rw [bind_apply]
  cases x s with
  | mk result after => cases result <;> rfl

theorem Ends.bind {x : Act ε σ α} {f : α → Act ε σ β} {Q : β → σ → Prop} {M : α → σ → Prop}
    (first : x.Ends s M E) (rest : ∀ a after, M a after → (f a).Ends after Q E) :
    (x >>= f).Ends s Q E :=
  ends_bind.mpr (first.mono rest fun _ _ bad => bad)

/-- A check that is made or left out, and the same afterwards. -/
theorem ends_checked {c : Prop} [Decidable c] {x : Except ε Unit} {rest : Act ε σ α}
    (bad : ∀ error, x = .error error → E error s) (ends : rest.Ends s Q E) :
    (if c then ofExcept x >>= fun _ => rest else rest).Ends s Q E := by
  split
  · exact ends_bind.mpr (ends_ofExcept (fun _ _ => ends) bad)
  · exact ends

@[simp] theorem ends_mapError {x : Act ε σ α} {f : ε → ε'} {E : ε' → σ → Prop} :
    (x.mapError f).Ends s Q E ↔ x.Ends s Q fun error after => E (f error) after := by
  simp only [Ends, mapError]
  cases x s with
  | mk result after => cases result <;> rfl

@[simp] theorem ends_attempt {x : Act ε σ α} {Q : Except ε α → σ → Prop} {E : ε' → σ → Prop} :
    (x.attempt).Ends s Q E ↔
      x.Ends s (fun a after => Q (.ok a) after) fun error after => Q (.error error) after := by
  simp only [Ends, attempt]
  cases x s with
  | mk result after => cases result <;> rfl

@[simp] theorem ends_on {part : σ → τ} {replace : τ → σ → σ} {x : Act ε τ α} :
    (x.on part replace).Ends s Q E ↔
      x.Ends (part s) (fun a after => Q a (replace after s))
        fun error after => E error (replace after s) := by
  simp only [Ends, on]
  cases x (part s) with
  | mk result after => cases result <;> rfl

/-- Wherever it is begun, the action yields such values only, if it yields one at all. -/
def Yields (x : Act ε σ α) (P : α → Prop) : Prop :=
  ∀ s, x.Ends s (fun a _ => P a) fun _ _ => True

namespace Yields

theorem of_ok {x : Act ε σ α} {P : α → Prop} {a : α} {after : σ} (yields : x.Yields P)
    (run : x s = (.ok a, after)) : P a :=
  (ends_of_ok run).mp (yields s)

theorem any (x : Act ε σ α) : x.Yields fun _ => True := by
  intro s
  unfold Ends
  split <;> trivial

theorem pure {a : α} {P : α → Prop} (holds : P a) : (Pure.pure a : Act ε σ α).Yields P :=
  fun _ => holds

theorem fail {P : α → Prop} (error : ε) : (Act.fail error : Act ε σ α).Yields P :=
  fun _ => trivial

theorem ofExcept {x : Except ε α} {P : α → Prop} (holds : ∀ a, x = .ok a → P a) :
    (Act.ofExcept x : Act ε σ α).Yields P :=
  fun _ => ends_ofExcept holds fun _ _ => trivial

theorem mapError {x : Act ε σ α} {P : α → Prop} (yields : x.Yields P) (f : ε → ε') :
    (x.mapError f).Yields P :=
  fun s => ends_mapError.mpr (yields s)

theorem bind {x : Act ε σ α} {f : α → Act ε σ β} {P : α → Prop} {Q : β → Prop} (first : x.Yields P)
    (rest : ∀ a, P a → (f a).Yields Q) : (x >>= f).Yields Q :=
  fun s => Ends.bind (first s) fun a after holds => rest a holds after

/-- What comes first does not matter. -/
theorem after {x : Act ε σ α} {f : α → Act ε σ β} {Q : β → Prop} (rest : ∀ a, (f a).Yields Q) :
    (x >>= f).Yields Q :=
  (any x).bind fun a _ => rest a

end Yields

/-- Wherever it is begun, the action ends well. -/
def Returns (x : Act ε σ α) : Prop :=
  ∀ s, ∃ a after, x s = (.ok a, after)

namespace Returns

theorem pure (a : α) : (Pure.pure a : Act ε σ α).Returns :=
  fun s => ⟨a, s, rfl⟩

theorem bind {x : Act ε σ α} {f : α → Act ε σ β} (first : x.Returns) (rest : ∀ a, (f a).Returns) :
    (x >>= f).Returns := by
  intro s
  obtain ⟨a, after, run⟩ := first s
  rw [bind_of_ok run]
  exact rest a after

theorem mapError {x : Act ε σ α} (returns : x.Returns) (f : ε → ε') : (x.mapError f).Returns := by
  intro s
  obtain ⟨a, after, run⟩ := returns s
  refine ⟨a, after, ?_⟩
  rw [Act.mapError, run]

end Returns

end ObjectStore.Act
