import ObjectStore.Proofs.Act.Ending

/-! What an action leaves alone. A frame is a preorder on states, and an action keeps it if it ends in
a state that is related to the one it began in, whether it ended well or badly. -/

namespace ObjectStore

structure Frame (σ : Type) where
  rel : σ → σ → Prop
  refl : ∀ s, rel s s
  trans : ∀ {a b c}, rel a b → rel b c → rel a c

namespace Frame

/-- Nothing is left alone. -/
def any (σ : Type) : Frame σ where
  rel _ _ := True
  refl _ := trivial
  trans _ _ := trivial

/-- What is seen of the state stays the same. -/
def same (view : σ → β) : Frame σ where
  rel before after := view after = view before
  refl _ := rfl
  trans first second := second.trans first

/-- A frame of a part of the state. -/
def within (frame : Frame τ) (part : σ → τ) : Frame σ where
  rel before after := frame.rel (part before) (part after)
  refl s := frame.refl (part s)
  trans := frame.trans

end Frame

namespace Act

variable {ε ε' σ τ α β : Type} {frame : Frame σ}

def Keeps (frame : Frame σ) (x : Act ε σ α) : Prop :=
  ∀ s, frame.rel s (x s).2

namespace Keeps

theorem ends {x : Act ε σ α} (keeps : x.Keeps frame) (s : σ) :
    x.Ends s (fun _ after => frame.rel s after) (fun _ after => frame.rel s after) := by
  have kept := keeps s
  unfold Ends
  split
  all_goals
    next run => simpa only [run] using kept

theorem of_ends {x : Act ε σ α}
    (ends : ∀ s, x.Ends s (fun _ after => frame.rel s after) fun _ after => frame.rel s after) :
    x.Keeps frame := by
  intro s
  obtain ⟨_, kept⟩ | ⟨_, kept⟩ := (ends s).cases <;> exact kept

theorem of_ok {x : Act ε σ α} {s after : σ} {a : α} (keeps : x.Keeps frame)
    (run : x s = (.ok a, after)) : frame.rel s after :=
  (ends_of_ok run).mp (keeps.ends s)

theorem of_error {x : Act ε σ α} {s after : σ} {error : ε} (keeps : x.Keeps frame)
    (run : x s = (.error error, after)) : frame.rel s after :=
  (ends_of_error run).mp (keeps.ends s)

theorem weaken {x : Act ε σ α} {weaker : Frame σ} (keeps : x.Keeps frame)
    (implied : ∀ before after, frame.rel before after → weaker.rel before after) : x.Keeps weaker :=
  fun s => implied s _ (keeps s)

theorem pure (a : α) : (Pure.pure a : Act ε σ α).Keeps frame :=
  frame.refl

theorem fail (error : ε) : (Act.fail error : Act ε σ α).Keeps frame :=
  frame.refl

theorem read : (Act.read : Act ε σ σ).Keeps frame :=
  frame.refl

theorem ofExcept (x : Except ε α) : (Act.ofExcept x : Act ε σ α).Keeps frame :=
  frame.refl

theorem change {f : σ → σ} (related : ∀ s, frame.rel s (f s)) :
    (Act.change f : Act ε σ Unit).Keeps frame :=
  related

theorem bind {x : Act ε σ α} {f : α → Act ε σ β} (first : x.Keeps frame)
    (rest : ∀ a, (f a).Keeps frame) : (x >>= f).Keeps frame := by
  intro s
  cases run : x s with
  | mk result after =>
      cases result with
      | ok a =>
          rw [bind_of_ok run]
          exact frame.trans (first.of_ok run) (rest a after)
      | error error =>
          rw [bind_of_error run]
          exact first.of_error run

theorem attempt {x : Act ε σ α} (keeps : x.Keeps frame) :
    (x.attempt : Act ε' σ (Except ε α)).Keeps frame :=
  keeps

theorem mapError {x : Act ε σ α} (f : ε → ε') (keeps : x.Keeps frame) :
    (x.mapError f).Keeps frame := by
  intro s
  have kept := keeps s
  unfold Act.mapError
  cases run : x s with
  | mk result after =>
      rw [run] at kept
      cases result <;> exact kept

theorem on {part : σ → τ} {replace : τ → σ → σ} {x : Act ε τ α} {inner : Frame τ}
    (keeps : x.Keeps inner) (lift : ∀ s t, inner.rel (part s) t → frame.rel s (replace t s)) :
    (x.on part replace).Keeps frame :=
  fun s => lift s _ (keeps (part s))

end Keeps

end Act

end ObjectStore
