import ObjectStore.Event.Multicaster

/-!
Listeners known by their names, which change the list they are on when they are called.
-/

namespace ObjectStore.Rehearsal

/-- A change of the list; the name may be missing. -/
inductive ListChange where
  | add (name : Option String)
  | remove (name : Option String)

/-- A list of listeners, and which of them were called. -/
structure Hall where
  multicaster : Multicaster String := {}
  calls : List String := []

namespace Hall

def change (change : ListChange) : Act Fault Hall Unit := fun hall =>
  match change with
  | .add name =>
    match hall.multicaster.add? name with
    | .ok multicaster => (.ok (), { hall with multicaster })
    | .error fault => (.error fault, hall)
  | .remove none => (.ok (), hall)
  | .remove (some name) =>
    (.ok (), { hall with multicaster := hall.multicaster.remove name })

def changeAll : List ListChange → Act Fault Hall Unit
  | [] => pure ()
  | first :: rest => do
    change first
    changeAll rest

/-- Calls a listener, which then makes its changes. -/
def call (changes : String → List ListChange) (name : String) : Act Fault Hall Unit := do
  Act.change fun hall => { hall with calls := hall.calls ++ [name] }
  changeAll (changes name)

def fire (changes : String → List ListChange) : Act Fault Hall Unit := do
  (← Act.read).multicaster.fire (call changes)

end Hall

end ObjectStore.Rehearsal
