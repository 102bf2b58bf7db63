import ObjectStore.Proofs.Request.RangeHeader
import ObjectStore.Transfer.Download

/-! The conditions that a request carries. Each kind of condition has a header of its own, and what
stands there is what was given for it, or nothing if nothing was given. -/

namespace ObjectStore.Request

/-- A kind of condition: its header, what is given for it, and how that is written. -/
structure Condition where
  name : String
  given : AccessCondition → Value
  write : Value → Except Fault Value

namespace Condition

def all : List Condition := [
  ⟨"If-Match", AccessCondition.ifMatch, .ok⟩,
  ⟨"If-None-Match", AccessCondition.ifNoneMatch, .ok⟩,
  ⟨"If-Modified-Since", AccessCondition.ifModifiedSince, Value.toHeaderTime?⟩,
  ⟨"If-Unmodified-Since", AccessCondition.ifUnmodifiedSince, Value.toHeaderTime?⟩,
  ⟨"x-ms-lease-id", AccessCondition.leaseId, .ok⟩]

variable (kind : Condition)

/-- The header in lower case. -/
def key : String :=
  Text.lowerCase kind.name

/-- What the header is to say. -/
def said (conditions : AccessCondition) : Except Fault (List Value) :=
  if (kind.given conditions).truthy then (kind.write (kind.given conditions)).map fun written => [written]
  else .ok []

/-- What stands in the headers of a request for the condition. -/
def found (request : Request) : List Value :=
  request.headers.under kind.key

def add (conditions : AccessCondition) : Act Fault Request Unit :=
  addGiven kind.name (kind.given conditions) kind.write

/-- Adds all conditions of some kinds. -/
def addAll (conditions : AccessCondition) : List Condition → Act Fault Request Unit
  | [] => pure ()
  | kind :: rest => do
    kind.add conditions
    addAll conditions rest

end Condition

/-- The request carries all conditions that are given, and no others. -/
def Carries (conditions : Option AccessCondition) (request : Request) : Prop :=
  ∀ kind ∈ Condition.all, kind.said (conditions.getD {}) = .ok (kind.found request)

/-- What the headers say about conditions of some kinds stays. -/
def sameFor (kinds : List Condition) : Frame Request where
  rel before after := ∀ kind ∈ kinds, kind.found after = kind.found before
  refl _ _ _ := rfl
  trans early late kind member := (late kind member).trans (early kind member)

abbrev sameConditions : Frame Request :=
  sameFor Condition.all

theorem Carries.of_same {conditions : Option AccessCondition} {request changed : Request}
    (carries : Carries conditions request) (same : sameConditions.rel request changed) :
    Carries conditions changed := by
  intro kind member
  rw [same kind member]
  exact carries kind member

/-- The headers that complete a request are none of conditions. -/
theorem sameConditions_unconcerned : Unconcerned sameConditions where
  header other completes value request kind member :=
    set_sameUnder (by
      have foreign : ∀ kind ∈ Condition.all, ∀ other ∈ completing, Text.lowerCase other ≠ kind.key := by
        decide
      exact foreign kind member other completes) value request
  address _ _ _ _ _ := rfl

/-- The headers of the user name no condition. -/
def Unconditional (headers : Option (Fields Value)) : Prop :=
  ∀ fields, headers = some fields → ∀ kind ∈ Condition.all, fields.Avoids kind.key

theorem Unconditional.keeps {headers : Option (Fields Value)} (unconditional : Unconditional headers) :
    (addHeaders headers).Keeps sameConditions :=
  fun request kind member =>
    addHeaders_keeps (fun fields given => unconditional fields given kind member) request

variable {conditions : AccessCondition} {kind : Condition} {kinds : List Condition} {request : Request}

theorem add_ends (fresh : kind.found request = []) : (kind.add conditions).Ends request
    (fun _ after => kind.said conditions = .ok (kind.found after)) fun _ _ => True := by
  unfold Condition.add addGiven Condition.said
  split
  · refine Act.ends_bind.mpr (Act.ends_ofExcept (fun written wrote => ?_) fun _ _ => trivial)
    rw [wrote]
    exact congrArg Except.ok (Fields.under_set_of_fresh fresh rfl written).symm
  · exact congrArg Except.ok fresh.symm

theorem add_keeps (foreign : ∀ other ∈ kinds, kind.key ≠ other.key) :
    (kind.add conditions).Keeps (sameFor kinds) :=
  addGiven_keeps (fun value request other member => set_sameUnder (foreign other member) value request) _ _

theorem addAll_keeps {frame : Frame Request} (sets : ∀ kind ∈ kinds, ∀ value request,
    frame.rel request (request.setHeader kind.name value)) :
    (Condition.addAll conditions kinds).Keeps frame := by
  induction kinds with
  | nil => exact .pure ()
  | cons kind rest ih =>
      obtain ⟨first, others⟩ := List.forall_mem_cons.mp sets
      exact .bind (addGiven_keeps first _ _) fun _ => ih others

/-- Kinds with different headers do not get in each other's way. -/
theorem addAll_ends (distinct : (kinds.map Condition.key).Nodup)
    (fresh : ∀ kind ∈ kinds, kind.found request = []) :
    (Condition.addAll conditions kinds).Ends request
      (fun _ after => ∀ kind ∈ kinds, kind.said conditions = .ok (kind.found after))
      fun _ _ => True := by
  induction kinds generalizing request with
  | nil => exact List.forall_mem_nil _
  | cons kind rest ih =>
      obtain ⟨unlike, apart⟩ := List.nodup_cons.mp distinct
      have differs : ∀ other ∈ rest, kind.key ≠ other.key :=
        fun other member same => unlike (same ▸ List.mem_map_of_mem member)
      obtain ⟨unsaid, others⟩ := List.forall_mem_cons.mp fresh
      refine Act.ends_bind.mpr (((add_ends unsaid).and ((add_keeps differs).ends request)).imp ?_)
      rintro _ after ⟨own, same⟩
      have freshStill : ∀ other ∈ rest, other.found after = [] :=
        fun other member => (same other member).trans (others other member)
      have later : (Condition.addAll conditions rest).Keeps (sameUnder kind.key) :=
        addAll_keeps fun other member => set_sameUnder (differs other member).symm
      refine ((ih apart freshStill).and (later.ends after)).imp ?_
      rintro _ last ⟨theirs, kept⟩
      exact List.forall_mem_cons.mpr ⟨own.trans (congrArg Except.ok kept.symm), theirs⟩

/-- The conditions are added one kind after another. -/
theorem addConditions_eq (conditions : AccessCondition) :
    addConditions (some conditions) = Condition.addAll conditions Condition.all := by
  simp only [addConditions, Condition.addAll, Condition.all, Condition.add, Act.bind_pure]

theorem addConditions_keeps {frame : Frame Request} (sets : ∀ kind ∈ Condition.all, ∀ value request,
    frame.rel request (request.setHeader kind.name value)) (conditions : Option AccessCondition) :
    (addConditions conditions).Keeps frame := by
  cases conditions with
  | none => exact .pure ()
  | some given =>
      rw [addConditions_eq]
      exact addAll_keeps sets

/-- A request without conditions carries those that are added, if they can be written. -/
theorem addConditions_carries {request : Request} (fresh : ∀ kind ∈ Condition.all, kind.found request = [])
    (conditions : Option AccessCondition) : (addConditions conditions).Ends request
      (fun _ after => Carries conditions after) fun _ _ => True := by
  cases conditions with
  | none =>
      intro kind member
      have nothing : ∀ kind ∈ Condition.all, (kind.given {}).truthy = false := by decide
      rw [fresh kind member, Option.getD_none, Condition.said, nothing kind member]
      rfl
  | some given =>
      rw [addConditions_eq]
      exact addAll_ends (by decide) fresh

end ObjectStore.Request

namespace ObjectStore.Download

variable {conditions : Option AccessCondition} {request changed : Request}

theorem setConditions_ends (set : setConditions conditions request = .ok changed) :
    ∃ done, Request.addConditions conditions request = (.ok done, changed) := by
  unfold setConditions at set
  split at set
  · next done =>
    cases set
    exact ⟨_, done⟩
  · contradiction

theorem setConditions_keeps {frame : Frame Request} (sets : ∀ kind ∈ Request.Condition.all, ∀ value request,
    frame.rel request (request.setHeader kind.name value))
    (set : setConditions conditions request = .ok changed) : frame.rel request changed := by
  obtain ⟨_, done⟩ := setConditions_ends set
  exact (Request.addConditions_keeps sets conditions).of_ok done

end ObjectStore.Download
