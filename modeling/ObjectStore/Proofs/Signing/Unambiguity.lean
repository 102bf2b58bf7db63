import Mathlib.Tactic.MkIffOfInductiveProp
import ObjectStore.Proofs.Signing.Names
import ObjectStore.Proofs.Text.Case
import ObjectStore.Proofs.Text.Lines

/-! The text that a shared key signs tells what it was made from. It has no lengths in it: the first
lines have fixed places, the headers of the service end where a slash begins the resource, and the
parameters are told by the line ends in front of them. -/

namespace ObjectStore.Signing

/-- The names of the headers that are signed by their places. -/
def standardNames : List String :=
  ["content-encoding", "content-language", "content-length", "content-md5", "content-type", "date",
   "if-modified-since", "if-match", "if-none-match", "if-unmodified-since", "range"]

/-- What stands in the place of a header: its text, or nothing for the length of an empty content and
for the date of a request that has the date of the service. -/
def standing (headers : Fields Value) (name : String) : String :=
  if name = "content-length" ∧ valueOf headers name = some "0" then ""
  else if name = "date" ∧ (valueOf headers "x-ms-date").isSome then ""
  else (valueOf headers name).getD ""

/-- Requests that agree in everything that is signed with a full shared key. -/
structure SignedAlike (a b : Request) : Prop where
  method : a.method = b.method
  standard : ∀ name ∈ standardNames, standing a.headers name = standing b.headers name
  service : (serviceValues a.headers).Perm (serviceValues b.headers)
  path : a.pathOrRoot = b.pathOrRoot
  parameters : parameterValues a.query = parameterValues b.query

/-- A name that ends where its value begins, on the same line. -/
def Closed (name : String) : Prop :=
  '\n' ∉ name.toList ∧ ':' ∉ name.toList

instance (name : String) : Decidable (Closed name) :=
  inferInstanceAs (Decidable (_ ∧ _))

/-- Requests whose parts fit on one line each, and whose names end where their values begin. -/
@[mk_iff]
structure Legible (request : Request) : Prop where
  method : '\n' ∉ request.method.toList
  path : '\n' ∉ request.pathOrRoot.toList
  apart : request.headers.Apart
  header : ∀ entry ∈ request.headers.entries, entry.2.isNull = false → '\n' ∉ entry.2.toText.toList
  service : ∀ entry ∈ request.headers.entries, entry.2.isNull = false →
    Text.hasPrefix "x-ms-" (Text.lowerCase entry.1) = true → Closed entry.1
  parameter : ∀ entry ∈ request.query.entries, entry.2.isNull = false →
    Closed entry.1 ∧ '\n' ∉ (queryText entry.2).toList

instance (request : Request) : Decidable (Legible request) :=
  decidable_of_iff' _ (legible_iff request)

section Layout

/-- A name with its value on a line. -/
def pairLine (entry : String × String) : List Char :=
  entry.1.toList ++ ':' :: entry.2.toList

def standardLines (request : Request) : List (List Char) :=
  (request.method :: standardNames.map (standing request.headers)).map String.toList

theorem toList_concat (texts : List String) : (concat texts).toList = texts.flatMap String.toList := by
  induction texts with
  | nil => rfl
  | cons text rest ih => rw [concat, List.foldr_cons, ← concat, String.toList_append, ih, List.flatMap_cons]

theorem toList_concat_lineText (texts : List String) :
    (concat (texts.map lineText)).toList = Text.lines (texts.map String.toList) := by
  rw [toList_concat, List.flatMap_map, Text.lines, List.flatMap_map]
  exact List.flatMap_congr fun text _ => String.toList_append

variable {request : Request}

theorem standardValues_lowerHeaders (apart : request.headers.Apart) :
    standardValues .full (lowerHeaders request.headers) = standardNames.map (standing request.headers) := by
  have none_told : ∀ text : Option String, text.getD "" = "0" ↔ text = some "0" := by
    intro text
    cases text <;> simp
  simp [standardValues, standardNames, standing, lengthText, plainDate, header_lowerHeaders apart,
    contains_lowerHeaders apart, none_told]

theorem toList_serviceHeaders (apart : request.headers.Apart) :
    (serviceHeaders .full (lowerHeaders request.headers)).toList =
      Text.lines ((sortedService request.headers).map pairLine) := by
  rw [serviceHeaders_lowerHeaders apart, toList_concat, List.flatMap_map, Text.lines, List.flatMap_map]
  refine List.flatMap_congr fun entry _ => ?_
  simp [lineText, pairLine]

theorem toList_fullQuery (query : Fields Value) :
    (fullQuery query).toList = Text.following ((parameterValues query).map pairLine) := by
  rw [fullQuery_eq, toList_concat, List.flatMap_map, Text.following, List.flatMap_map]
  refine List.flatMap_congr fun entry _ => ?_
  simp [pairLine]

/-- The parts of the signed text in their order. -/
theorem toList_stringToSign (apart : request.headers.Apart) (account : String) :
    (stringToSign .full account request).toList =
      Text.lines (standardLines request) ++
        (Text.lines ((sortedService request.headers).map pairLine) ++
          '/' :: (account.toList ++ (request.pathOrRoot.toList ++
            Text.following ((parameterValues request.query).map pairLine)))) := by
  simp only [stringToSign, String.toList_append, standardValues_lowerHeaders apart, queryPart,
    toList_concat_lineText, toList_serviceHeaders apart, toList_fullQuery, verb, lineText,
    standardLines, List.map_cons, Text.lines, List.flatMap_cons, List.append_assoc]
  rfl

end Layout

section Recovery

variable {request a b : Request}

theorem mem_said {headers : Fields Value} {entry : String × String} : entry ∈ said headers ↔
    ∃ field ∈ headers.entries, field.2.isNull = false ∧
      entry = (Text.lowerCase field.1, field.2.toText) := by
  simp only [said, Fields.given, List.map_map, List.mem_map, List.mem_filter, Bool.not_eq_true',
    and_assoc, Function.comp_apply, eq_comm (b := entry)]

theorem notMem_stripBlank {c : Char} {s : String} (absent : c ∉ s.toList) :
    c ∉ (Text.stripBlank s).toList := by
  have trimmed : (Text.trim Text.isBlank s.toList).Sublist s.toList := by
    have back := (List.dropWhile_sublist Text.isBlank (l := (s.toList.dropWhile Text.isBlank).reverse)).reverse
    rw [List.reverse_reverse] at back
    exact back.trans (List.dropWhile_sublist _)
  rw [Text.stripBlank, String.toList_ofList]
  exact fun member => absent (trimmed.subset member)

theorem Closed.lowerCase {name : String} (closed : Closed name) : Closed (Text.lowerCase name) := by
  have absent : ∀ {mark : Char}, mark.toNat < 97 → mark ∉ name.toList →
      mark ∉ (Text.lowerCase name).toList :=
    fun low unnamed found => unnamed (Text.mem_of_mem_lowerCase found low)
  exact ⟨absent (by decide) closed.1, absent (by decide) closed.2⟩

/-- Entries whose names and values can be told on a line. -/
def Paired (entries : List (String × String)) : Prop :=
  ∀ entry ∈ entries, Closed entry.1 ∧ '\n' ∉ entry.2.toList

theorem Paired.unbroken {entries : List (String × String)} (paired : Paired entries) :
    Text.Unbroken (entries.map pairLine) := by
  intro line member
  obtain ⟨entry, listed, rfl⟩ := List.mem_map.mp member
  obtain ⟨name, value⟩ := paired entry listed
  simpa [pairLine] using ⟨name.1, value⟩

theorem pairLines_inj {entries others : List (String × String)} (paired : Paired entries)
    (paired' : Paired others) (same : entries.map pairLine = others.map pairLine) : entries = others := by
  induction entries generalizing others with
  | nil => exact (List.map_eq_nil_iff.mp same.symm).symm
  | cons entry rest ih =>
      obtain ⟨other, rest', rfl, line, lines⟩ := List.map_eq_cons_iff.mp same.symm
      obtain ⟨here, later⟩ := List.forall_mem_cons.mp paired
      obtain ⟨here', later'⟩ := List.forall_mem_cons.mp paired'
      obtain ⟨name, value⟩ := Text.cut_inj here'.1.2 here.1.2 line
      rw [ih later later' lines.symm, Prod.ext (String.toList_inj.mp name) (String.toList_inj.mp value)]

namespace Legible

variable (legible : Legible request)
include legible

theorem said {entry : String × String} (member : entry ∈ said request.headers) : '\n' ∉ entry.2.toList := by
  obtain ⟨field, listed, valued, rfl⟩ := mem_said.mp member
  exact legible.header field listed valued

theorem standing (name : String) : '\n' ∉ (standing request.headers name).toList := by
  have text : '\n' ∉ ((valueOf request.headers name).getD "").toList := by
    unfold valueOf
    cases found : (Signing.said request.headers).find? (·.1 == name) with
    | none => simp
    | some entry => exact legible.said (List.mem_of_find?_eq_some found)
  unfold Signing.standing
  split
  · simp
  · split
    · simp
    · exact text

theorem standardLines : Text.Unbroken (standardLines request) := by
  simp only [Text.Unbroken, Signing.standardLines, List.map_cons, List.map_map, List.forall_mem_cons,
    List.forall_mem_map]
  exact ⟨legible.method, fun name _ => legible.standing name⟩

theorem sortedService : Paired (sortedService request.headers) := by
  intro entry member
  obtain ⟨inner, kept, rfl⟩ := List.mem_map.mp (List.mem_mergeSort.mp member)
  obtain ⟨listed, ofService⟩ := List.mem_filter.mp kept
  refine ⟨?_, notMem_stripBlank (legible.said listed)⟩
  obtain ⟨field, held, valued, rfl⟩ := mem_said.mp listed
  exact (legible.service field held valued ofService).lowerCase

theorem parameterValues : Paired (parameterValues request.query) := by
  intro entry member
  obtain ⟨inner, given, rfl⟩ := List.mem_map.mp (List.mem_mergeSort.mp member)
  obtain ⟨field, kept, rfl⟩ := List.mem_map.mp given
  obtain ⟨held, valued⟩ := List.mem_filter.mp kept
  obtain ⟨name, value⟩ := legible.parameter field held (by simpa using valued)
  exact ⟨name.lowerCase, value⟩

end Legible

/-- No header of the service begins as the resource does. -/
theorem head_sortedService {headers : Fields Value} :
    ∀ line ∈ (sortedService headers).map pairLine, line.head? ≠ some '/' := by
  intro line member
  obtain ⟨entry, listed, rfl⟩ := List.mem_map.mp member
  obtain ⟨inner, kept, rfl⟩ := List.mem_map.mp (List.mem_mergeSort.mp listed)
  obtain ⟨_, ofService⟩ := List.mem_filter.mp kept
  obtain ⟨rest, name_eq⟩ := List.isPrefixOf_iff_prefix.mp ofService
  have begins : (pairLine (bared inner)).head? = some 'x' := by
    rw [pairLine, bared, ← name_eq]
    rfl
  rw [begins]
  decide

/-- Requests with the same text to sign agree in all that is signed. -/
theorem signedAlike_of_stringToSign_eq {account : String} (legible : Legible a) (legible' : Legible b)
    (same : stringToSign .full account a = stringToSign .full account b) : SignedAlike a b := by
  have text_eq := congrArg String.toList same
  rw [toList_stringToSign legible.apart, toList_stringToSign legible'.apart] at text_eq
  obtain ⟨standard, text_eq⟩ := Text.lines_append_inj (by simp [standardLines]) legible.standardLines
    legible'.standardLines text_eq
  obtain ⟨service, text_eq⟩ := Text.lines_append_cons_inj (by decide) legible.sortedService.unbroken
    legible'.sortedService.unbroken head_sortedService head_sortedService text_eq
  have resource := List.append_cancel_left text_eq
  obtain ⟨path, query⟩ := Text.append_following_inj legible.path legible'.path
    legible.parameterValues.unbroken legible'.parameterValues.unbroken resource
  have places : a.method :: standardNames.map (standing a.headers) =
      b.method :: standardNames.map (standing b.headers) :=
    List.map_injective_iff.mpr (fun _ _ => String.toList_inj.mp) standard
  have sorted : sortedService a.headers = sortedService b.headers :=
    pairLines_inj legible.sortedService legible'.sortedService service
  have listed : ∀ headers, (sortedService headers).Perm (serviceValues headers) :=
    fun headers => List.mergeSort_perm _ _
  exact {
    method := (List.cons.inj places).1
    standard := List.map_inj_left.mp (List.cons.inj places).2
    service := (listed a.headers).symm.trans (sorted ▸ listed b.headers)
    path := String.toList_inj.mp path
    parameters := pairLines_inj legible.parameterValues legible'.parameterValues query }

theorem stringToSign_eq_of_signedAlike {account : String} (apart : a.headers.Apart)
    (apart' : b.headers.Apart) (alike : SignedAlike a b) :
    stringToSign .full account a = stringToSign .full account b := by
  have standard : standardValues .full (lowerHeaders a.headers) =
      standardValues .full (lowerHeaders b.headers) := by
    rw [standardValues_lowerHeaders apart, standardValues_lowerHeaders apart']
    exact List.map_inj_left.mpr alike.standard
  have service : serviceHeaders .full (lowerHeaders a.headers) =
      serviceHeaders .full (lowerHeaders b.headers) := by
    rw [serviceHeaders_lowerHeaders apart, serviceHeaders_lowerHeaders apart',
      sortedService_eq_of_perm apart alike.service]
  have query : fullQuery a.query = fullQuery b.query := by
    rw [fullQuery_eq, fullQuery_eq, alike.parameters]
  simp only [stringToSign, verb, queryPart, alike.method, standard, service, alike.path, query]

end Recovery

/-- Legible requests have the same text to sign if and only if they agree in all that is signed. A
parameter that is a text is signed as it is. -/
theorem stringToSign_eq_iff {a b : Request} (legible : Legible a) (legible' : Legible b)
    (account : String) : stringToSign .full account a = stringToSign .full account b ↔ SignedAlike a b :=
  ⟨signedAlike_of_stringToSign_eq legible legible',
    stringToSign_eq_of_signedAlike legible.apart legible'.apart⟩

namespace Reworded

/-- Creates a container, with headers as a caller might give them. -/
def given : Request where
  method := "PUT"
  path := some ""
  query := Fields.ofList [("restype", .text "container"), ("Timeout", .int 5), ("marker", .null)]
  headers := Fields.ofList [("X-MS-Meta-Name", .text " photos "), ("Date", .text "today"),
    ("x-ms-date", .text "now"), ("Content-Length", .int 0)]

/-- The same request in other words. -/
def tidied : Request where
  method := "PUT"
  path := some "/"
  query := Fields.ofList [("timeout", .text "5"), ("RESTYPE", .text "container")]
  headers := Fields.ofList [("X-Ms-Date", .text "now"), ("If-Match", .null),
    ("x-ms-meta-name", .text "photos")]

/-- Another request, which differs in what it stores. -/
def altered : Request :=
  { tidied with headers := Fields.ofList [("x-ms-date", .text "now"), ("x-ms-meta-name", .text "photo")] }

theorem given_signed_as_tidied :
    Legible given ∧ Legible tidied ∧ stringToSign .full "acc" given = stringToSign .full "acc" tidied ∧
      SignedAlike given tidied ∧
      Legible altered ∧ stringToSign .full "acc" tidied ≠ stringToSign .full "acc" altered := by
  have first : Legible given := by decide +kernel
  have second : Legible tidied := by decide +kernel
  have third : Legible altered := by decide +kernel
  have listed : given.query.given.map (fun entry => (entry.1, queryText entry.2)) =
        [("restype", "container"), ("timeout", "5")] ∧
      tidied.query.given.map (fun entry => (entry.1, queryText entry.2)) =
        [("timeout", "5"), ("restype", "container")] := by
    decide +kernel
  have parameters : parameterValues given.query = parameterValues tidied.query := by
    rw [parameterValues_pair listed.1, parameterValues_pair listed.2]
    decide +kernel
  have alike : SignedAlike given tidied :=
    ⟨by decide +kernel, by decide +kernel, by decide +kernel, by decide +kernel, parameters⟩
  refine ⟨first, second, (stringToSign_eq_iff first second "acc").mpr alike, alike, third, fun same => ?_⟩
  have stored : ¬ (serviceValues tidied.headers).Perm (serviceValues altered.headers) := by decide +kernel
  exact stored ((stringToSign_eq_iff second third "acc").mp same).service

end Reworded

end ObjectStore.Signing
