import ObjectStore.Proofs.Signing.Merging
import ObjectStore.Proofs.Signing.Names
import ObjectStore.Proofs.Text.Form

/-! An address with a token in it, beside a request that is signed with the token. The address takes the token
as it is written and the request as it is read, and to read the address gives the query of the request. -/

namespace ObjectStore

namespace Fields

theorem ofList_entries {α : Type} (fields : Fields α) : ofList fields.entries = fields :=
  eq_of_entries (entries_ofList fields.distinct)

end Fields

namespace Signing.Token

section Merging

variable {α β : Type}

/-- Of several values for one name the last counts, also if the others are left out before. -/
theorem merge_ofList (query : Fields α) (added : List (String × α)) :
    merge query (Fields.ofList added).entries = merge query added := by
  have named : ∀ name : String,
      name ∈ ((Fields.ofList added).entries.map fun given => Text.lowerCase given.1) ↔
        name ∈ added.map fun given => Text.lowerCase given.1 := by
    intro name
    have names : ∀ given, given ∈ (Fields.ofList added).names ↔ given ∈ added.map Prod.fst := by
      intro given
      rw [Fields.names_ofList, List.mem_eraseDups]
    have lower : ∀ pairs : List (String × α),
        pairs.map (fun given => Text.lowerCase given.1) = (pairs.map Prod.fst).map Text.lowerCase := by
      intro pairs
      rw [List.map_map]
      rfl
    rw [lower, lower, List.mem_map, List.mem_map]
    exact exists_congr fun given => and_congr_left fun _ => names given
  refine Fields.eq_of_entries ?_
  rw [entries_merge, entries_merge, Fields.ofList_entries]
  congr 2
  funext entry
  rw [Bool.eq_iff_iff]
  simp only [Bool.not_eq_true', List.contains_eq_mem, decide_eq_false_iff_not, named]

/-- Values are merged as they are, so it does not matter when they are read. -/
theorem map_merge (f : String → α → β) (query : Fields α) (added : List (String × α)) :
    (merge query added).map f =
      merge (query.map f) (added.map fun entry => (entry.1, f entry.1 entry.2)) := by
  rw [merge, Fields.map_setAll, merge]
  congr 1
  refine Fields.eq_of_entries ?_
  simp only [Fields.map, Fields.filter, List.filter_map, List.map_map]
  rfl

end Merging

/-- The pairs of a query string as they are written. -/
def writtenPairs (query : List Char) : List (String × List Char) :=
  ((Text.pieces '&' query).filter (!·.isEmpty)).map fun piece =>
    (String.ofList (Text.cut '=' piece).1, (Text.cut '=' piece).2.getD [])

def writtenNames (query : List Char) : List String :=
  (writtenPairs query).map Prod.fst

/-- No name is written with a character that stands for another, or with an escape. -/
def Literal (query : List Char) : Prop :=
  ∀ name ∈ writtenNames query, '%' ∉ name.toList ∧ '+' ∉ name.toList

instance (query : List Char) : Decidable (Literal query) :=
  inferInstanceAs (Decidable (∀ _ ∈ _, _))

/-- The query that a request carries if it is given by a query string. -/
def carried (query : List Char) : Fields Value :=
  (Fields.ofList (Text.Form.decode (String.ofList query))).map fun _ => .text

section Reading

variable {query : List Char}

theorem written_eq (query : List Char) : written query = Fields.ofList (writtenPairs query) :=
  rfl

theorem decode_of_literal (literal : Literal query) : Text.Form.decode (String.ofList query) =
    (writtenPairs query).map fun pair => (pair.1, Text.Form.decodePart pair.2) := by
  rw [Text.Form.decode, String.toList_ofList, writtenPairs, List.map_map]
  refine List.map_congr_left fun piece member => ?_
  have named : String.ofList (Text.cut '=' piece).1 ∈ writtenNames query := by
    rw [writtenNames, writtenPairs, List.map_map]
    exact List.mem_map_of_mem member
  have plain := literal _ named
  rw [String.toList_ofList] at plain
  have name := Text.Form.decodePart_of_plain plain.1 plain.2
  exact congrArg (·, Text.Form.decodePart ((Text.cut '=' piece).2.getD [])) name

theorem carried_of_literal (literal : Literal query) :
    carried query = (written query).map fun _ value => .text (Text.Form.decodePart value) := by
  rw [carried, decode_of_literal literal, written_eq, Fields.ofList, Fields.map_setAll, List.map_map,
    Fields.ofList, Fields.map_setAll]
  rfl

theorem contains_carried_of_literal (literal : Literal query) {name : String}
    (absent : name ∉ writtenNames query) : (carried query).contains name = false := by
  have names : (carried query).names = (writtenNames query).eraseDups := by
    rw [carried_of_literal literal, written_eq, writtenNames, ← Fields.names_ofList]
    simp [Fields.names, Fields.map, Function.comp_def]
  refine List.any_eq_false.mpr fun entry member same => absent ?_
  have listed : entry.1 ∈ (carried query).names := List.mem_map_of_mem member
  rw [names, List.mem_eraseDups, eq_of_beq same] at listed
  exact listed

end Reading

section Listing

variable {fields : Fields (List Char)}

/-- Entries that can be told from the text that lists them. -/
def Listable (fields : Fields (List Char)) : Prop :=
  ∀ entry ∈ fields.entries, '&' ∉ entry.1.toList ∧ '=' ∉ entry.1.toList ∧ '&' ∉ entry.2

/-- Entries one after the other as they stand in an address. -/
def listed (fields : Fields (List Char)) : List Char :=
  Text.join ['&'] (fields.entries.map fun entry => entry.1.toList ++ '=' :: entry.2)

theorem listable_written (query : List Char) : Listable (written query) := by
  intro entry member
  rw [written_eq] at member
  obtain ⟨piece, held, rfl⟩ := List.mem_map.mp (Fields.mem_of_mem_ofList member)
  have unmarked : '&' ∉ piece := Text.notMem_of_mem_pieces (List.mem_of_mem_filter held)
  rw [String.toList_ofList]
  refine ⟨fun inside => unmarked (Text.mem_of_mem_cut_fst inside), Text.notMem_cut '=' piece, fun inside => ?_⟩
  exact unmarked (Text.mem_of_mem_cut_snd inside)

theorem listable_merge {added : Fields (List Char)} (first : Listable fields) (second : Listable added) :
    Listable (merge fields added.entries) := by
  intro entry member
  rw [entries_merge, Fields.ofList_entries] at member
  rcases List.mem_append.mp member with kept | given
  · exact first entry (List.mem_of_mem_filter kept)
  · exact second entry given

theorem writtenPairs_listed (listable : Listable fields) : writtenPairs (listed fields) = fields.entries := by
  let texts := fields.entries.map fun entry => entry.1.toList ++ '=' :: entry.2
  have unmarked : ∀ text ∈ texts, '&' ∉ text := by
    refine List.forall_mem_map.mpr fun entry member => ?_
    obtain ⟨name, -, value⟩ := listable entry member
    simp [name, value]
  have held : ∀ text ∈ texts, (!text.isEmpty) = true :=
    List.forall_mem_map.mpr fun entry _ => by simp
  have pieces : (Text.pieces '&' (listed fields)).filter (!·.isEmpty) = texts := by
    by_cases none : fields.entries = []
    · simp [listed, texts, none, Text.join, Text.pieces]
    · rw [listed, Text.pieces_join unmarked (mt List.map_eq_nil_iff.mp none), List.filter_eq_self.mpr held]
  have read : ∀ entry ∈ fields.entries, (String.ofList (Text.cut '=' (entry.1.toList ++ '=' :: entry.2)).1,
      (Text.cut '=' (entry.1.toList ++ '=' :: entry.2)).2.getD []) = entry := by
    intro entry member
    rw [Text.cut_append (listable entry member).2.1]
    simp
  rw [writtenPairs, pieces, List.map_map]
  exact (List.map_congr_left read).trans (List.map_id' _)

theorem written_listed (listable : Listable fields) : written (listed fields) = fields := by
  rw [written_eq, writtenPairs_listed listable, Fields.ofList_entries]

end Listing

/-- What an address says before its first question mark. -/
def baseOf (address : String) : List Char :=
  (Text.cut '?' address.toList).1

/-- What an address says after its first question mark; in an address without a fragment this is its query. -/
def queryOf (address : String) : List Char :=
  (Text.cut '?' address.toList).2.getD []

section Adding

variable {token address : String}

theorem addTo_of_empty (nothing : plain token = "") (address : String) : addTo token address = address := by
  simp [addTo, nothing]

/-- What the query of an address becomes. -/
def joined (token address : String) : Fields (List Char) :=
  merge (written (queryOf address)) (written (plain token).toList).entries

theorem addTo_of_given (something : plain token ≠ "") (address : String) :
    addTo token address = String.ofList (baseOf address ++ '?' :: listed (joined token address)) := by
  rw [addTo]
  simp only [String.isEmpty_iff, if_neg something]
  rfl

theorem cut_addTo (something : plain token ≠ "") (address : String) :
    Text.cut '?' (addTo token address).toList =
      (baseOf address, some (listed (joined token address))) := by
  have unmarked : '?' ∉ baseOf address := Text.notMem_cut '?' _
  rw [addTo_of_given something, String.toList_ofList, Text.cut_append unmarked]

theorem baseOf_addTo (token address : String) : baseOf (addTo token address) = baseOf address := by
  by_cases nothing : plain token = ""
  · rw [addTo_of_empty nothing]
  · rw [baseOf, cut_addTo nothing]

theorem queryOf_addTo (something : plain token ≠ "") (address : String) :
    queryOf (addTo token address) = listed (joined token address) := by
  rw [queryOf, cut_addTo something, Option.getD_some]

theorem listable_joined (token address : String) : Listable (joined token address) :=
  listable_merge (listable_written _) (listable_written _)

theorem addTo_addTo (token address : String) : addTo token (addTo token address) = addTo token address := by
  by_cases nothing : plain token = ""
  · rw [addTo_of_empty nothing]
  · have settled : joined token (addTo token address) = joined token address := by
      rw [joined, queryOf_addTo nothing, written_listed (listable_joined token address)]
      exact merge_merge _ _
    rw [addTo_of_given nothing, settled, baseOf_addTo, ← addTo_of_given nothing]

theorem literal_joined (own : Literal (queryOf address)) (given : Literal (plain token).toList) :
    Literal (listed (joined token address)) := by
  intro name member
  rw [writtenNames, writtenPairs_listed (listable_joined token address), joined, entries_merge,
    Fields.ofList_entries, List.map_append] at member
  rcases List.mem_append.mp member with kept | added
  · obtain ⟨entry, held, rfl⟩ := List.mem_map.mp kept
    exact own _ (List.mem_map_of_mem (Fields.mem_of_mem_ofList (List.mem_of_mem_filter held)))
  · obtain ⟨entry, held, rfl⟩ := List.mem_map.mp added
    exact given _ (List.mem_map_of_mem (Fields.mem_of_mem_ofList held))

/-- To read an address with a token in it gives what its query and the token are read as, merged. -/
theorem carried_addTo (own : Literal (queryOf address)) (given : Literal (plain token).toList) :
    carried (queryOf (addTo token address)) = merge (carried (queryOf address))
      ((parameters token).map fun entry => (entry.1, .text entry.2)) := by
  by_cases nothing : plain token = ""
  · rw [addTo_of_empty nothing, parameters, nothing]
    refine Fields.eq_of_entries ?_
    simp [entries_merge, Text.Form.decode, Text.pieces, Fields.ofList, Fields.setAll, Fields.empty]
  · have read : (parameters token).map (fun entry => (entry.1, Value.text entry.2)) =
        (writtenPairs (plain token).toList).map fun pair =>
          (pair.1, .text (Text.Form.decodePart pair.2)) := by
      rw [parameters, ← String.ofList_toList (s := plain token), decode_of_literal given, List.map_map,
        String.ofList_toList]
      rfl
    rw [queryOf_addTo nothing, carried_of_literal (literal_joined own given),
      written_listed (listable_joined token address), joined, written_eq (plain token).toList, merge_ofList,
      map_merge, ← carried_of_literal own, read]

end Adding

end Signing.Token

namespace Authentication

open Signing.Token

/-- An address that was extended with a token, beside the requests to it that are signed with the token. -/
structure Extends (given : Option String) (address extended : String) : Prop where
  base : baseOf extended = baseOf address
  query : ∀ request : Request, request.query = carried (queryOf address) → ∃ signed,
    ((token given).sign request).2 = .ok signed ∧ signed.query = carried (queryOf extended)
  again : (token given).extend extended = extended

theorem token_extends (given : Option String) {address : String} (unsigned : "sig" ∉ writtenNames (queryOf address))
    (own : Literal (queryOf address)) (literal : Literal (plain (given.getD "")).toList) :
    Extends given address ((token given).extend address) where
  base := baseOf_addTo _ _
  query := by
    intro request same
    refine ⟨_, rfl, ?_⟩
    have free : ¬ request.query.contains "sig" = true := by
      rw [same, contains_carried_of_literal own unsigned]
      exact Bool.false_ne_true
    rw [Signing.Token.sign, if_neg free]
    show merge request.query _ = _
    rw [same]
    exact (carried_addTo own literal).symm
  again := addTo_addTo _ _

end Authentication

namespace Listing

/-- An address that says itself what the token says as well, with an empty pair and a name without a value. -/
def address : String := "https://acc.example.net/box?comp=list&&SV=old&mark&page=%C3%BC+1&page=2"

theorem address_extended :
    Authentication.Extends (some token) address ((Authentication.token (some token)).extend address) :=
  Authentication.token_extends (some token) (by decide) (by decide) (by decide)

end Listing

end ObjectStore
