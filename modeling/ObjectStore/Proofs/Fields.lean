import Mathlib.Data.List.Induction
import Mathlib.Data.List.Nodup
import ObjectStore.Fields

/-! What a list of settings leaves behind: each name once, where it was set first, with the value it was
set to last. -/

namespace ObjectStore

variable {α : Type} {name : String} {base entries : List (String × α)}

theorem names_assign (name : String) (value : α) (entries : List (String × α)) :
    (assign name value entries).map Prod.fst =
      if name ∈ entries.map Prod.fst then entries.map Prod.fst else entries.map Prod.fst ++ [name] := by
  induction entries with
  | nil => rfl
  | cons entry rest ih =>
      rw [assign]
      split
      · next same => simp [← same]
      · next other =>
        have here : name ∈ (entry :: rest).map Prod.fst ↔ name ∈ rest.map Prod.fst := by
          rw [List.map_cons, List.mem_cons, or_iff_right (Ne.symm other)]
        rw [List.map_cons, ih]
        simp only [here]
        split <;> rfl

theorem assign_append (value : α) (new : name ∉ base.map Prod.fst) :
    assign name value (base ++ entries) = base ++ assign name value entries := by
  induction base with
  | nil => rfl
  | cons entry rest ih =>
      obtain ⟨differs, new⟩ := not_or.mp (mt List.mem_cons.mpr new)
      rw [List.cons_append, assign, if_neg (Ne.symm differs), ih new, List.cons_append]

theorem mem_of_mem_assign {value : α} {entry : String × α} (member : entry ∈ assign name value entries) :
    entry = (name, value) ∨ entry ∈ entries := by
  induction entries with
  | nil => exact .inl (List.mem_singleton.mp member)
  | cons first rest ih =>
      rw [assign] at member
      split at member
      · next same =>
        rcases List.mem_cons.mp member with here | member
        · exact .inl (here.trans (by rw [same]))
        · exact .inr (List.mem_cons_of_mem _ member)
      · rcases List.mem_cons.mp member with here | member
        · exact .inr (List.mem_cons.mpr (.inl here))
        · exact (ih member).imp_right (List.mem_cons_of_mem _)

/-- Among entries with distinct names, one is found by its name wherever it stands. -/
theorem find_name_eq_some (distinct : (entries.map Prod.fst).Nodup) {entry : String × α} :
    entries.find? (·.1 == name) = some entry ↔ entry ∈ entries ∧ entry.1 = name := by
  constructor
  · intro found
    have named := List.find?_some found
    exact ⟨List.mem_of_find?_eq_some found, eq_of_beq named⟩
  · rintro ⟨member, rfl⟩
    have exists_named : (entries.find? (·.1 == entry.1)).isSome :=
      List.find?_isSome.mpr ⟨entry, member, beq_self_eq_true entry.1⟩
    obtain ⟨first, found⟩ := Option.isSome_iff_exists.mp exists_named
    have named := List.find?_some found
    have first_eq : first = entry :=
      List.inj_on_of_nodup_map distinct (List.mem_of_find?_eq_some found) member (eq_of_beq named)
    rw [found, first_eq]

namespace Fields

variable {fields : Fields α} {added : List (String × α)}

theorem get_set_eq (fields : Fields α) (name other : String) (value : α) :
    (fields.set name value).get? other = if name = other then some value else fields.get? other := by
  simp only [get?, set]
  induction fields.entries with
  | nil => by_cases same : name = other <;> simp [assign, same]
  | cons entry rest ih =>
      rw [assign]
      split
      · next here => by_cases same : name = other <;> simp [here, same]
      · next here =>
        by_cases found : entry.1 = other
        · have differs : name ≠ other := fun same => here (found.trans same.symm)
          simp [found, differs]
        · simpa [found] using ih

theorem get_set (fields : Fields α) (name : String) (value : α) :
    (fields.set name value).get? name = some value := by
  rw [get_set_eq, if_pos rfl]

theorem get_of_mem {entry : String × α} (member : entry ∈ fields.entries) :
    fields.get? entry.1 = some entry.2 := by
  rw [get?, (find_name_eq_some fields.distinct).mpr ⟨member, rfl⟩]
  rfl

theorem entries_set_of_new (new : name ∉ fields.names) (value : α) :
    (fields.set name value).entries = fields.entries ++ [(name, value)] :=
  (congrArg (assign name value) (List.append_nil _).symm).trans (assign_append value new)

theorem setAll_concat (fields : Fields α) (added : List (String × α)) (entry : String × α) :
    fields.setAll (added ++ [entry]) = (fields.setAll added).set entry.1 entry.2 :=
  List.foldl_concat ..

theorem ofList_concat (added : List (String × α)) (entry : String × α) :
    ofList (added ++ [entry]) = (ofList added).set entry.1 entry.2 :=
  setAll_concat ..

/-- Settings of names that the fields do not have are added at the end, as they would be on their own. -/
theorem entries_setAll_of_apart (apart : ∀ entry ∈ added, entry.1 ∉ fields.names) :
    (fields.setAll added).entries = fields.entries ++ (ofList added).entries := by
  induction added using List.reverseRecOn with
  | nil => simp [setAll, ofList, empty]
  | append_singleton before entry ih =>
      have new : entry.1 ∉ fields.names := apart entry (List.mem_append_right _ List.mem_cons_self)
      have earlier := ih fun other member => apart other (List.mem_append_left _ member)
      calc (fields.setAll (before ++ [entry])).entries
          = assign entry.1 entry.2 (fields.setAll before).entries := by rw [setAll_concat]; rfl
        _ = assign entry.1 entry.2 (fields.entries ++ (ofList before).entries) := by rw [earlier]
        _ = fields.entries ++ assign entry.1 entry.2 (ofList before).entries := assign_append _ new
        _ = fields.entries ++ (ofList (before ++ [entry])).entries := by
              rw [ofList_concat]; rfl

theorem mem_of_mem_ofList {entry : String × α} (member : entry ∈ (ofList added).entries) :
    entry ∈ added := by
  induction added using List.reverseRecOn with
  | nil => exact member
  | append_singleton before last ih =>
      rw [ofList_concat] at member
      rcases mem_of_mem_assign member with same | earlier
      · simp [same]
      · exact List.mem_append_left _ (ih earlier)

/-- The names stand in the order in which they were set first. -/
theorem names_ofList (added : List (String × α)) :
    (ofList added).names = (added.map Prod.fst).eraseDups := by
  induction added using List.reverseRecOn with
  | nil => rfl
  | append_singleton before entry ih =>
      have step : (ofList (before ++ [entry])).names =
          if entry.1 ∈ (ofList before).names then (ofList before).names
          else (ofList before).names ++ [entry.1] := by
        rw [ofList_concat]
        exact names_assign ..
      rw [step, ih, List.map_append, List.eraseDups_append, List.map_singleton]
      simp only [List.mem_eraseDups]
      by_cases old : entry.1 ∈ before.map Prod.fst
      · rw [if_pos old]
        simp [List.removeAll, old]
      · rw [if_neg old]
        simp [List.removeAll, old, List.eraseDups_cons]

/-- The value that is given to a name last. -/
def lastGiven (added : List (String × α)) (name : String) : Option α :=
  (added.reverse.find? (·.1 == name)).map Prod.snd

theorem get_ofList (added : List (String × α)) (name : String) :
    (ofList added).get? name = lastGiven added name := by
  induction added using List.reverseRecOn with
  | nil => rfl
  | append_singleton before entry ih =>
      rw [ofList_concat, get_set_eq, ih, lastGiven, lastGiven, List.reverse_concat, List.find?_cons]
      by_cases same : entry.1 = name
      · simp [same]
      · simp [beq_eq_false_iff_ne.mpr same, same]

end Fields

end ObjectStore
