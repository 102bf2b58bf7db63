/-!
Named values in the order in which the names were first set. Setting a name again keeps its place
and replaces its value.
-/

namespace ObjectStore

/-- Replaces the value of a name, which goes to the end if it is new. -/
def assign (name : String) (value : α) : List (String × α) → List (String × α)
  | [] => [(name, value)]
  | (n, v) :: rest => if n = name then (n, value) :: rest else (n, v) :: assign name value rest

theorem mem_names_assign {name n : String} {value : α} {entries : List (String × α)} :
    n ∈ (assign name value entries).map Prod.fst ↔ n = name ∨ n ∈ entries.map Prod.fst := by
  induction entries with
  | nil => simp [assign]
  | cons entry rest ih =>
    rw [assign]
    split
    · next same => subst same; simp
    · simp only [List.map_cons, List.mem_cons, ih]
      constructor
      · rintro (h | h | h)
        · exact .inr (.inl h)
        · exact .inl h
        · exact .inr (.inr h)
      · rintro (h | h | h)
        · exact .inr (.inl h)
        · exact .inl h
        · exact .inr (.inr h)

theorem nodup_names_assign {name : String} {value : α} {entries : List (String × α)}
    (h : (entries.map Prod.fst).Nodup) : ((assign name value entries).map Prod.fst).Nodup := by
  induction entries with
  | nil => simp [assign]
  | cons entry rest ih =>
    obtain ⟨fresh, distinct⟩ := List.nodup_cons.mp h
    rw [assign]
    split
    · exact List.nodup_cons.mpr ⟨fresh, distinct⟩
    · next other =>
      refine List.nodup_cons.mpr ⟨fun held => ?_, ih distinct⟩
      rcases mem_names_assign.mp held with same | held
      · exact other same
      · exact fresh held

/-- Entries with distinct names, in order of insertion. -/
structure Fields (α : Type) where
  entries : List (String × α)
  distinct : (entries.map Prod.fst).Nodup

namespace Fields

def empty : Fields α := ⟨[], by simp⟩

instance : Inhabited (Fields α) := ⟨empty⟩

instance : EmptyCollection (Fields α) := ⟨empty⟩

def set (fields : Fields α) (name : String) (value : α) : Fields α :=
  ⟨assign name value fields.entries, nodup_names_assign fields.distinct⟩

def get? (fields : Fields α) (name : String) : Option α :=
  (fields.entries.find? fun entry => entry.1 == name).map Prod.snd

def contains (fields : Fields α) (name : String) : Bool :=
  fields.entries.any fun entry => entry.1 == name

def isEmpty (fields : Fields α) : Bool :=
  fields.entries.isEmpty

def names (fields : Fields α) : List String :=
  fields.entries.map Prod.fst

def setAll (fields : Fields α) (entries : List (String × α)) : Fields α :=
  entries.foldl (fun fields entry => fields.set entry.1 entry.2) fields

def ofList (entries : List (String × α)) : Fields α :=
  setAll empty entries

def filter (keep : String × α → Bool) (fields : Fields α) : Fields α :=
  ⟨fields.entries.filter keep, fields.distinct.sublist ((List.filter_sublist).map Prod.fst)⟩

def erase (fields : Fields α) (name : String) : Fields α :=
  fields.filter fun entry => entry.1 != name

def map (f : String → α → β) (fields : Fields α) : Fields β :=
  ⟨fields.entries.map fun entry => (entry.1, f entry.1 entry.2), by
    simpa [List.map_map, Function.comp_def] using fields.distinct⟩

end Fields

end ObjectStore
