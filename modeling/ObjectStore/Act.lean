import ObjectStore.Fault

/-!
Actions on a state. An action ends with a value or with an error, and either way the state it has
changed so far remains.
-/

namespace ObjectStore

def Act (ε σ α : Type) : Type :=
  σ → Except ε α × σ

namespace Act

def done (a : α) : Act ε σ α :=
  fun s => (.ok a, s)

def fail (error : ε) : Act ε σ α :=
  fun s => (.error error, s)

def andThen (x : Act ε σ α) (f : α → Act ε σ β) : Act ε σ β :=
  fun s =>
    match x s with
    | (.ok a, s) => f a s
    | (.error error, s) => (.error error, s)

instance : Monad (Act ε σ) where
  pure := done
  bind := andThen

instance [Inhabited ε] : Inhabited (Act ε σ α) := ⟨fail default⟩

def read : Act ε σ σ :=
  fun s => (.ok s, s)

def change (f : σ → σ) : Act ε σ Unit :=
  fun s => (.ok (), f s)

def ofExcept (x : Except ε α) : Act ε σ α :=
  fun s => (x, s)

/-- Ends with what the action ended with, errors included. -/
def attempt (x : Act ε σ α) : Act ε' σ (Except ε α) :=
  fun s => (.ok (x s).1, (x s).2)

/-- Makes another error of the error an action ends with. -/
def mapError (f : ε → ε') (x : Act ε σ α) : Act ε' σ α :=
  fun s =>
    match x s with
    | (.ok a, s) => (.ok a, s)
    | (.error error, s) => (.error (f error), s)

/-- Acts on a part of the state. -/
def on (part : σ → τ) (replace : τ → σ → σ) (x : Act ε τ α) : Act ε σ α :=
  fun s => ((x (part s)).1, replace (x (part s)).2 s)

@[simp] theorem pure_apply (a : α) (s : σ) : (pure a : Act ε σ α) s = (.ok a, s) := rfl

@[simp] theorem fail_apply (error : ε) (s : σ) :
    (fail error : Act ε σ α) s = (.error error, s) := rfl

@[simp] theorem read_apply (s : σ) : (read : Act ε σ σ) s = (.ok s, s) := rfl

@[simp] theorem change_apply (f : σ → σ) (s : σ) :
    (change f : Act ε σ Unit) s = (.ok (), f s) := rfl

@[simp] theorem ofExcept_apply (x : Except ε α) (s : σ) :
    (ofExcept x : Act ε σ α) s = (x, s) := rfl

@[simp] theorem attempt_apply (x : Act ε σ α) (s : σ) :
    (attempt x : Act ε' σ (Except ε α)) s = (.ok (x s).1, (x s).2) := rfl

@[simp] theorem on_apply (part : σ → τ) (replace : τ → σ → σ) (x : Act ε τ α) (s : σ) :
    x.on part replace s = ((x (part s)).1, replace (x (part s)).2 s) := rfl

theorem bind_apply (x : Act ε σ α) (f : α → Act ε σ β) (s : σ) :
    (x >>= f) s = match x s with
      | (.ok a, s) => f a s
      | (.error error, s) => (.error error, s) := rfl

theorem bind_of_ok {x : Act ε σ α} {s s' : σ} {a : α} (h : x s = (.ok a, s'))
    (f : α → Act ε σ β) : (x >>= f) s = f a s' := by
  rw [bind_apply, h]

theorem bind_of_error {x : Act ε σ α} {s s' : σ} {error : ε} (h : x s = (.error error, s'))
    (f : α → Act ε σ β) : (x >>= f) s = (.error error, s') := by
  rw [bind_apply, h]

end Act

end ObjectStore
