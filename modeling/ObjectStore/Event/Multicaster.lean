import ObjectStore.Act
import ObjectStore.Value.Basic

/-!
Lists of listeners that grow and shrink, also while they are being called. A call goes to those that
were there when it began.
-/

namespace ObjectStore

/-- Listeners in the order in which they were added; one may be there several times. -/
structure Multicaster (α : Type) where
  listeners : List α := []
deriving DecidableEq

namespace Multicaster

def empty : Multicaster α := {}

def ofList (listeners : List α) : Multicaster α := ⟨listeners⟩

def add (m : Multicaster α) (listener : α) : Multicaster α :=
  ⟨m.listeners ++ [listener]⟩

def add? (m : Multicaster α) (listener : Option α) : Except Fault (Multicaster α) :=
  match listener with
  | some listener => .ok (m.add listener)
  | none => .error (Cause.absent "listener")

/-- Removes what was added last of a listener, if it is there at all. -/
def remove [BEq α] (m : Multicaster α) (listener : α) : Multicaster α :=
  ⟨(m.listeners.reverse.erase listener).reverse⟩

def hasListeners (m : Multicaster α) : Bool :=
  !m.listeners.isEmpty

/-- Calls one after another, up to the first that ends with an error. -/
def callAll (call : α → Act ε σ Unit) : List α → Act ε σ Unit
  | [] => pure ()
  | listener :: rest => do
    call listener
    callAll call rest

/-- Calls the listeners that are there now, whatever the calls do to the list. -/
def fire (m : Multicaster α) (call : α → Act ε σ Unit) : Act ε σ Unit :=
  callAll call m.listeners

end Multicaster

end ObjectStore
