import ObjectStore.Act

/-! Two actions side by side, begun in states that cannot be told apart. They are alike if neither what
they end with nor the states they end in tell them apart, whether they end well or badly. -/

namespace ObjectStore

variable {ε ε' σ τ α β : Type}

/-- Both end with the same error, or with values that correspond. -/
inductive Agree (same : α → α → Prop) : Except ε α → Except ε α → Prop where
  | ok {a b : α} (together : same a b) : Agree same (.ok a) (.ok b)
  | error (error : ε) : Agree same (.error error) (.error error)

namespace Agree

variable {same : α → α → Prop} {other : β → β → Prop} {x y : Except ε α}

theorem eq (agree : Agree Eq x y) : x = y := by
  cases agree with
  | ok together => rw [together]
  | error => rfl

theorem of_eq (equal : x = y) : Agree Eq x y := by
  subst equal
  cases x with
  | ok a => exact .ok rfl
  | error error => exact .error error

theorem of_ok {a : α} (agree : Agree same (.ok a : Except ε α) y) : ∃ b, y = .ok b ∧ same a b := by
  cases agree with
  | ok together => exact ⟨_, rfl, together⟩

theorem of_error {error : ε} (agree : Agree same (.error error : Except ε α) y) : y = .error error := by
  cases agree with
  | error => rfl

theorem mono {same' : α → α → Prop} (agree : Agree same x y) (weaker : ∀ a b, same a b → same' a b) :
    Agree same' x y := by
  cases agree with
  | ok together => exact .ok (weaker _ _ together)
  | error error => exact .error error

/-- What comes after the same outcome. -/
theorem after (x : Except ε α) {f g : α → Except ε β} (rest : ∀ a, Agree other (f a) (g a)) :
    Agree other (x >>= f) (x >>= g) := by
  cases x with
  | ok a => exact rest a
  | error error => exact .error error

end Agree

namespace Act

def Alike (near : σ → σ → Prop) (same : α → α → Prop) (x y : Act ε σ α) : Prop :=
  ∀ s t, near s t → near (x s).2 (y t).2 ∧ Agree same (x s).1 (y t).1

namespace Alike

variable {near : σ → σ → Prop} {inner : τ → τ → Prop} {same same' : α → α → Prop} {other : β → β → Prop}
  {x y : Act ε σ α}

/-- An action is like itself where states can be told apart. -/
theorem refl (x : Act ε σ α) : Alike Eq Eq x x := by
  rintro s _ rfl
  exact ⟨rfl, .of_eq rfl⟩

theorem mono (alike : Alike near same x y) (weaker : ∀ a b, same a b → same' a b) :
    Alike near same' x y :=
  fun s t close => ⟨(alike s t close).1, (alike s t close).2.mono weaker⟩

theorem pure {a b : α} (together : same a b) : Alike near same (Pure.pure a : Act ε σ α) (Pure.pure b) :=
  fun _ _ close => ⟨close, .ok together⟩

theorem fail (error : ε) : Alike near same (Act.fail error : Act ε σ α) (Act.fail error) :=
  fun _ _ close => ⟨close, .error error⟩

theorem read : Alike near near (Act.read : Act ε σ σ) Act.read :=
  fun _ _ close => ⟨close, .ok close⟩

theorem change {f g : σ → σ} (kept : ∀ s t, near s t → near (f s) (g t)) :
    Alike near Eq (Act.change f : Act ε σ Unit) (Act.change g) :=
  fun s t close => ⟨kept s t close, .ok rfl⟩

theorem ofExcept {x y : Except ε α} (agree : Agree same x y) :
    Alike near same (Act.ofExcept x : Act ε σ α) (Act.ofExcept y) :=
  fun _ _ close => ⟨close, agree⟩

theorem bind {f g : α → Act ε σ β} (first : Alike near same x y)
    (rest : ∀ a b, same a b → Alike near other (f a) (g b)) : Alike near other (x >>= f) (y >>= g) := by
  intro s t close
  obtain ⟨closer, agree⟩ := first s t close
  rw [bind_apply, bind_apply]
  cases left : x s with
  | mk result after =>
  cases right : y t with
  | mk result' after' =>
  rw [left, right] at closer agree
  cases agree with
  | ok together => exact rest _ _ together after after' closer
  | error error => exact ⟨closer, .error error⟩

/-- What comes after the same value. -/
theorem onward {f g : α → Act ε σ β} (first : Alike near Eq x y)
    (rest : ∀ a, Alike near other (f a) (g a)) : Alike near other (x >>= f) (y >>= g) := by
  refine first.bind ?_
  rintro a _ rfl
  exact rest a

theorem attempt (alike : Alike near same x y) :
    Alike near (Agree same) (x.attempt : Act ε' σ (Except ε α)) y.attempt := by
  intro s t close
  obtain ⟨closer, agree⟩ := alike s t close
  exact ⟨closer, .ok agree⟩

theorem mapError (alike : Alike near same x y) (f : ε → ε') :
    Alike near same (x.mapError f) (y.mapError f) := by
  intro s t close
  obtain ⟨closer, agree⟩ := alike s t close
  unfold Act.mapError
  cases left : x s with
  | mk result after =>
  cases right : y t with
  | mk result' after' =>
  rw [left, right] at closer agree
  cases agree with
  | ok together => exact ⟨closer, .ok together⟩
  | error error => exact ⟨closer, .error (f error)⟩

theorem on {part : σ → τ} {replace : τ → σ → σ} {x y : Act ε τ α} (alike : Alike inner same x y)
    (parts : ∀ s t, near s t → inner (part s) (part t))
    (back : ∀ s t u v, near s t → inner u v → near (replace u s) (replace v t)) :
    Alike near same (x.on part replace) (y.on part replace) := by
  intro s t close
  obtain ⟨closer, agree⟩ := alike _ _ (parts s t close)
  exact ⟨back s t _ _ close closer, agree⟩

end Alike

end Act

end ObjectStore
