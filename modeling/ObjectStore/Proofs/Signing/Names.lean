import ObjectStore.Proofs.Fields
import ObjectStore.Signing.Canonical

/-! What a shared key signs of headers and parameters, under the lower-case forms of their names. Where
those are distinct, an entry is found by its name wherever it stands, and sorting by names leaves one
order only. -/

namespace ObjectStore

namespace Fields

/-- Entries under new names are added at the end, in their order. -/
theorem entries_setAll {fields : Fields α} {added : List (String × α)}
    (distinct : ((fields.entries ++ added).map Prod.fst).Nodup) :
    (fields.setAll added).entries = fields.entries ++ added := by
  induction added generalizing fields with
  | nil => simp [setAll]
  | cons entry rest ih =>
      have new : entry.1 ∉ fields.entries.map Prod.fst := by
        rw [List.map_append, List.map_cons, List.nodup_middle, List.nodup_cons] at distinct
        exact fun member => distinct.1 (List.mem_append_left _ member)
      have set_eq := entries_set_of_new new entry.2
      have distinctToo : (((fields.set entry.1 entry.2).entries ++ rest).map Prod.fst).Nodup := by
        simpa [set_eq] using distinct
      have later := ih distinctToo
      rw [set_eq, List.append_assoc] at later
      exact later

theorem entries_ofList {entries : List (String × α)} (distinct : (entries.map Prod.fst).Nodup) :
    (ofList entries).entries = entries :=
  entries_setAll distinct

/-- The entries that have a value, under the lower-case forms of their names. -/
def given (fields : Fields Value) : List (String × Value) :=
  (fields.entries.filter fun entry => !entry.2.isNull).map fun entry =>
    (Text.lowerCase entry.1, entry.2)

/-- No two entries with values have names that differ in case only. -/
def Apart (fields : Fields Value) : Prop :=
  (fields.given.map Prod.fst).Nodup

instance (fields : Fields Value) : Decidable fields.Apart :=
  inferInstanceAs (Decidable (List.Nodup _))

end Fields

section Distinct

variable {α : Type} {entries others : List (String × α)} (distinct : (entries.map Prod.fst).Nodup)
  (same : entries.Perm others)
include distinct same

theorem find_name_eq_of_perm (name : String) :
    entries.find? (·.1 == name) = others.find? (·.1 == name) := by
  have distinct' : (others.map Prod.fst).Nodup := (same.map Prod.fst).nodup_iff.mp distinct
  refine Option.ext fun entry => ?_
  rw [find_name_eq_some distinct, find_name_eq_some distinct', same.mem_iff]

theorem sorted_eq_of_perm :
    entries.mergeSort (fun a b => a.1 ≤ b.1) = others.mergeSort fun a b => a.1 ≤ b.1 := by
  have sorted : ∀ texts : List (String × α),
      (texts.mergeSort fun a b => a.1 ≤ b.1).Pairwise fun a b => decide (a.1 ≤ b.1) = true :=
    List.pairwise_mergeSort
      (fun a b c ab bc => decide_eq_true (String.le_trans (of_decide_eq_true ab) (of_decide_eq_true bc)))
      (fun a b => by simpa using String.le_total a.1 b.1)
  refine List.Perm.eq_of_pairwise ?_ (sorted entries) (sorted others)
    (((List.mergeSort_perm entries _).trans same).trans (List.mergeSort_perm others _).symm)
  intro a b ofEntries ofOthers ab ba
  have member : a ∈ entries := List.mem_mergeSort.mp ofEntries
  have member' : b ∈ entries := same.mem_iff.mpr (List.mem_mergeSort.mp ofOthers)
  exact List.inj_on_of_nodup_map distinct member member'
    (String.le_antisymm (of_decide_eq_true ab) (of_decide_eq_true ba))

end Distinct

namespace Signing

/-- What headers say, under the lower-case forms of their names. -/
def said (headers : Fields Value) : List (String × String) :=
  headers.given.map fun entry => (entry.1, entry.2.toText)

def valueOf (headers : Fields Value) (name : String) : Option String :=
  ((said headers).find? (·.1 == name)).map Prod.snd

variable {headers : Fields Value}

theorem names_said (headers : Fields Value) :
    (said headers).map Prod.fst = headers.given.map Prod.fst := by
  simp [said, Function.comp_def]

theorem entries_lowerHeaders (apart : headers.Apart) : (lowerHeaders headers).entries = said headers := by
  have listed : lowerHeaders headers = Fields.ofList (said headers) := by
    simp [lowerHeaders, said, Fields.given, Function.comp_def]
  rw [listed, Fields.entries_ofList ((names_said headers).symm ▸ apart)]

theorem get_lowerHeaders (apart : headers.Apart) (name : String) :
    (lowerHeaders headers).get? name = valueOf headers name := by
  rw [Fields.get?, entries_lowerHeaders apart, valueOf]

theorem contains_lowerHeaders (apart : headers.Apart) (name : String) :
    (lowerHeaders headers).contains name = (valueOf headers name).isSome := by
  rw [Fields.contains, entries_lowerHeaders apart, valueOf, Option.isSome_map, List.isSome_find?]

theorem header_lowerHeaders (apart : headers.Apart) (name : String) :
    header (lowerHeaders headers) name = (valueOf headers name).getD "" := by
  rw [header, get_lowerHeaders apart]

def isOfService (entry : String × String) : Bool :=
  Text.hasPrefix "x-ms-" entry.1

def bared (entry : String × String) : String × String :=
  (entry.1, Text.stripBlank entry.2)

/-- The headers of the service with their values, without the white space around these. -/
def serviceValues (headers : Fields Value) : List (String × String) :=
  ((said headers).filter isOfService).map bared

def sortedService (headers : Fields Value) : List (String × String) :=
  (serviceValues headers).mergeSort fun a b => a.1 ≤ b.1

theorem serviceHeaders_lowerHeaders (apart : headers.Apart) :
    serviceHeaders .full (lowerHeaders headers) =
      concat ((sortedService headers).map fun entry => lineText (entry.1 ++ ":" ++ entry.2)) := by
  have sorted : (((said headers).filter isOfService).mergeSort fun a b => a.1 ≤ b.1).map bared =
      sortedService headers :=
    List.map_mergeSort fun _ _ _ _ => rfl
  rw [serviceHeaders, entries_lowerHeaders apart, ← sorted, List.map_map]
  rfl

theorem sortedService_eq_of_perm {other : Fields Value} (apart : headers.Apart)
    (same : (serviceValues headers).Perm (serviceValues other)) :
    sortedService headers = sortedService other := by
  have names : (serviceValues headers).map Prod.fst =
      ((said headers).filter isOfService).map Prod.fst := by
    simp [serviceValues, bared, Function.comp_def]
  have distinct : ((serviceValues headers).map Prod.fst).Nodup := by
    rw [names]
    exact ((names_said headers).symm ▸ apart : ((said headers).map Prod.fst).Nodup).sublist
      (List.filter_sublist.map Prod.fst)
  exact sorted_eq_of_perm distinct same

/-- The parameters that have a value, sorted by their names. -/
def parameterValues (query : Fields Value) : List (String × String) :=
  (query.given.map fun entry => (entry.1, queryText entry.2)).mergeSort fun a b => a.1 ≤ b.1

theorem parameterValues_pair {query : Fields Value} {a b : String × String}
    (listed : query.given.map (fun entry => (entry.1, queryText entry.2)) = [a, b]) :
    parameterValues query = if a.1 ≤ b.1 then [a, b] else [b, a] := by
  rw [parameterValues, listed]
  simp [List.mergeSort, List.merge]

theorem fullQuery_eq (query : Fields Value) : fullQuery query =
    concat ((parameterValues query).map fun entry => "\n" ++ entry.1 ++ ":" ++ entry.2) := by
  have sorted : (query.given.mergeSort fun a b => a.1 ≤ b.1).map (fun entry => (entry.1, queryText entry.2)) =
      parameterValues query :=
    List.map_mergeSort fun _ _ _ _ => rfl
  rw [← sorted, List.map_map]
  rfl

/-- The text to sign, with all that is sorted in its order. -/
theorem stringToSign_full {request : Request} (apart : request.headers.Apart) (account : String) :
    stringToSign .full account request =
      lineText request.method ++ concat ((standardValues .full (lowerHeaders request.headers)).map lineText) ++
        concat ((sortedService request.headers).map fun entry => lineText (entry.1 ++ ":" ++ entry.2)) ++
        "/" ++ account ++ request.pathOrRoot ++
        concat ((parameterValues request.query).map fun entry => "\n" ++ entry.1 ++ ":" ++ entry.2) := by
  rw [stringToSign, queryPart, serviceHeaders_lowerHeaders apart, fullQuery_eq]
  rfl

end Signing

end ObjectStore
