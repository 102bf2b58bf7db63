import ObjectStore.Proofs.Signing.Names
import ObjectStore.Proofs.Text.Case
import ObjectStore.Signing.Authentication

/-! A shared key signs what a request says, not how the request was put together: the order of headers
and parameters and the case of their names do not count, and neither does white space around the headers
of the service where these are signed. -/

namespace ObjectStore

/-- The same entries in any order, with their names in any case, as far as their values agree. -/
def Fields.Recased (agree : String → α → α → Prop) (a b : Fields α) : Prop :=
  ∃ entries,
    List.Forall₂ (fun x y => Text.asciiFold x.1 = Text.asciiFold y.1 ∧ agree x.1 x.2 y.2) a.entries entries ∧
      entries.Perm b.entries

theorem Fields.Recased.map_given {agree : String → Value → Value → Prop} {a b : Fields Value}
    {f : String × Value → β} (recased : a.Recased agree b)
    (same : ∀ {name value other}, agree name value other → value.isNull = other.isNull ∧
      f (Text.lowerCase name, value) = f (Text.lowerCase name, other)) :
    (a.given.map f).Perm (b.given.map f) := by
  obtain ⟨entries, alike, ordered⟩ := recased
  have given_eq : a.given.map f = (entries.filter fun entry => !entry.2.isNull).map fun entry =>
      f (Text.lowerCase entry.1, entry.2) := by
    clear ordered
    rw [Fields.given, List.map_map]
    generalize a.entries = own at alike
    induction alike with
    | nil => rfl
    | cons head _ ih =>
        obtain ⟨folded, agreed⟩ := head
        obtain ⟨valued, counted⟩ := same agreed
        rw [List.filter_cons, List.filter_cons, valued]
        split
        · rw [List.map_cons, List.map_cons, ih, Function.comp_apply, counted,
            Text.lowerCase_eq_of_asciiFold folded]
        · exact ih
  rw [given_eq, Fields.given, List.map_map]
  exact (ordered.filter _).map _

namespace Signing

/-- A header as it counts for a scheme. -/
def Scheme.counted (scheme : Scheme) (entry : String × String) : String × String :=
  match scheme with
  | .full | .lite => if isOfService entry then bared entry else entry
  | .table | .tableLite => entry

def counted (scheme : Scheme) (headers : Fields Value) : List (String × String) :=
  (said headers).map scheme.counted

/-- Requests that say the same to a scheme. -/
structure Alike (scheme : Scheme) (a b : Request) : Prop where
  method : a.method = b.method
  path : a.path = b.path
  headers : (counted scheme a.headers).Perm (counted scheme b.headers)
  query : a.query.given.Perm b.query.given

/-- Values of a header that count the same: a text of the service may have other white space around it,
except for tables. -/
def Scheme.Padded (scheme : Scheme) (name : String) (value other : Value) : Prop :=
  value = other ∨ (scheme = .full ∨ scheme = .lite) ∧ Text.hasPrefix "x-ms-" (Text.lowerCase name) = true ∧
    ∃ inner outer, value = .text inner ∧ other = .text outer ∧ Text.stripBlank inner = Text.stripBlank outer

theorem Scheme.counted_name (scheme : Scheme) (entry : String × String) :
    (scheme.counted entry).1 = entry.1 := by
  cases scheme <;> simp only [counted] <;> split <;> rfl

theorem Scheme.counted_foreign (scheme : Scheme) {entry : String × String}
    (foreign : isOfService entry = false) : scheme.counted entry = entry := by
  cases scheme <;> simp [counted, foreign]

theorem names_counted (scheme : Scheme) (headers : Fields Value) :
    (counted scheme headers).map Prod.fst = headers.given.map Prod.fst := by
  rw [← names_said, counted, List.map_map]
  exact List.map_congr_left fun entry _ => scheme.counted_name entry

/-- Requests that differ in the order of entries, the case of names and white space only say the same. -/
theorem alike_of_recased {scheme : Scheme} {a b : Request} (method : a.method = b.method)
    (path : a.path = b.path) (headers : a.headers.Recased scheme.Padded b.headers)
    (query : a.query.Recased (fun _ => Eq) b.query) : Alike scheme a b where
  method := method
  path := path
  headers := by
    simp only [counted, said, List.map_map]
    refine headers.map_given fun {name value other} padded => ?_
    obtain rfl | ⟨signs, ofService, inner, outer, rfl, rfl, bare⟩ := padded
    · exact ⟨rfl, rfl⟩
    · have service : ∀ text, isOfService (Text.lowerCase name, text) = true := fun _ => ofService
      refine ⟨rfl, ?_⟩
      rcases signs with rfl | rfl <;>
        simp only [Function.comp_apply, Scheme.counted, service, if_true, bared, Value.toText, bare]
  query := by
    have same := query.map_given (f := id) fun agreed => ⟨congrArg Value.isNull agreed, by rw [agreed]⟩
    rwa [List.map_id, List.map_id] at same

/-- The headers of the service, out of what counts. -/
theorem filter_counted {scheme : Scheme} (signs : scheme = .full ∨ scheme = .lite) (headers : Fields Value) :
    (counted scheme headers).filter isOfService = serviceValues headers := by
  have named : isOfService ∘ scheme.counted = isOfService :=
    funext fun entry => congrArg (Text.hasPrefix "x-ms-") (scheme.counted_name entry)
  rw [counted, List.filter_map, named, serviceValues]
  refine List.map_congr_left fun entry member => ?_
  have ofService := (List.mem_filter.mp member).2
  rcases signs with rfl | rfl <;> simp [Scheme.counted, ofService]

/-- The first parameter that names a component, under its lower-case name. -/
theorem componentQuery_eq (query : Fields Value) : componentQuery query =
    match query.given.find? (·.1 == "comp") with
    | some entry => "?comp=" ++ entry.2.toText
    | none => "" := by
  have first : query.given.find? (·.1 == "comp") =
      (query.entries.find? fun entry => Text.lowerCase entry.1 == "comp" && !entry.2.isNull).map
        fun entry => (Text.lowerCase entry.1, entry.2) := by
    rw [Fields.given, List.find?_map, List.find?_filter]
    congr 2
    funext entry
    rw [Bool.eq_iff_iff]
    simp [and_comm]
  rw [componentQuery, first]
  cases query.entries.find? _ <;> rfl

namespace Alike

variable {scheme : Scheme} {a b : Request} (alike : Alike scheme a b) (apart : a.headers.Apart)
include alike apart

theorem apart_headers : b.headers.Apart := by
  have names := alike.headers.map Prod.fst
  rw [names_counted, names_counted] at names
  exact names.nodup_iff.mp apart

theorem find_counted (name : String) :
    ((said a.headers).find? (·.1 == name)).map scheme.counted =
      ((said b.headers).find? (·.1 == name)).map scheme.counted := by
  have find_map : ∀ headers, (counted scheme headers).find? (·.1 == name) =
      ((said headers).find? (·.1 == name)).map scheme.counted := by
    intro headers
    simp only [counted, List.find?_map, Function.comp_def, Scheme.counted_name]
  rw [← find_map, ← find_map]
  exact find_name_eq_of_perm ((names_counted scheme a.headers).symm ▸ apart) alike.headers name

/-- A header whose value counts as it is has the same value in both. -/
theorem valueOf_eq {name : String} (plain : ∀ value, scheme.counted (name, value) = (name, value)) :
    valueOf a.headers name = valueOf b.headers name := by
  have of_counted : ∀ headers, valueOf headers name =
      (((said headers).find? (·.1 == name)).map scheme.counted).map Prod.snd := by
    intro headers
    unfold valueOf
    cases found : (said headers).find? (·.1 == name) with
    | none => rfl
    | some entry =>
        have named := List.find?_some found
        obtain rfl := eq_of_beq named
        rw [Option.map_some, Option.map_some, Option.map_some, plain entry.2]
  rw [of_counted, of_counted, alike.find_counted apart name]

theorem isSome_valueOf_eq (name : String) :
    (valueOf a.headers name).isSome = (valueOf b.headers name).isSome := by
  have given := congrArg Option.isSome (alike.find_counted apart name)
  rw [Option.isSome_map, Option.isSome_map] at given
  rw [valueOf, valueOf, Option.isSome_map, Option.isSome_map, given]

theorem standardValues_eq : standardValues scheme (lowerHeaders a.headers) =
    standardValues scheme (lowerHeaders b.headers) := by
  have apart' := alike.apart_headers apart
  have header_eq : ∀ {name}, Text.hasPrefix "x-ms-" name = false →
      header (lowerHeaders a.headers) name = header (lowerHeaders b.headers) name := by
    intro name foreign
    rw [header_lowerHeaders apart, header_lowerHeaders apart',
      alike.valueOf_eq apart fun value => scheme.counted_foreign foreign]
  have plainDate_eq : plainDate (lowerHeaders a.headers) = plainDate (lowerHeaders b.headers) := by
    rw [plainDate, plainDate, contains_lowerHeaders apart, contains_lowerHeaders apart',
      alike.isSome_valueOf_eq apart, header_eq (by decide)]
  -- Tables sign the date of the service as it was given.
  have serviceDate_eq : scheme = .table ∨ scheme = .tableLite →
      serviceDate (lowerHeaders a.headers) = serviceDate (lowerHeaders b.headers) := by
    intro table
    have same : valueOf a.headers "x-ms-date" = valueOf b.headers "x-ms-date" := by
      refine alike.valueOf_eq apart fun value => ?_
      rcases table with rfl | rfl <;> rfl
    rw [serviceDate, serviceDate, get_lowerHeaders apart, get_lowerHeaders apart', same,
      header_eq (by decide)]
  cases scheme with
  | full => simp (disch := decide) only [standardValues, lengthText, header_eq, plainDate_eq]
  | lite => simp (disch := decide) only [standardValues, header_eq, plainDate_eq]
  | table => simp (disch := decide) only [standardValues, header_eq, serviceDate_eq (.inl rfl)]
  | tableLite => rw [standardValues, standardValues, serviceDate_eq (.inr rfl)]

theorem serviceHeaders_eq : serviceHeaders scheme (lowerHeaders a.headers) =
    serviceHeaders scheme (lowerHeaders b.headers) := by
  have signed : scheme = .full ∨ scheme = .lite → serviceHeaders .full (lowerHeaders a.headers) =
      serviceHeaders .full (lowerHeaders b.headers) := by
    intro signs
    have same := alike.headers.filter isOfService
    rw [filter_counted signs, filter_counted signs] at same
    rw [serviceHeaders_lowerHeaders apart, serviceHeaders_lowerHeaders (alike.apart_headers apart),
      sortedService_eq_of_perm apart same]
  cases scheme with
  | full => exact signed (.inl rfl)
  | lite => exact signed (.inr rfl)
  | table => rfl
  | tableLite => rfl

omit apart in
theorem queryPart_eq (apart : a.query.Apart) : queryPart scheme a.query = queryPart scheme b.query := by
  have full : fullQuery a.query = fullQuery b.query := by
    have distinct : ((a.query.given.map fun entry => (entry.1, queryText entry.2)).map Prod.fst).Nodup := by
      rw [List.map_map]
      exact apart
    rw [fullQuery_eq, fullQuery_eq, parameterValues, parameterValues,
      sorted_eq_of_perm distinct (alike.query.map _)]
  have component : componentQuery a.query = componentQuery b.query := by
    rw [componentQuery_eq, componentQuery_eq, find_name_eq_of_perm apart alike.query]
  cases scheme with
  | full => exact full
  | lite | table | tableLite => exact component

/-- Requests that say the same have the same text to sign. -/
theorem stringToSign_eq (apart' : a.query.Apart) (account : String) :
    stringToSign scheme account a = stringToSign scheme account b := by
  have root : a.pathOrRoot = b.pathOrRoot := by
    rw [Request.pathOrRoot, Request.pathOrRoot, alike.path]
  simp only [stringToSign, alike.method, alike.standardValues_eq apart, alike.serviceHeaders_eq apart,
    alike.queryPart_eq apart', root]

end Alike

/-- What it comes to that a text is signed: a value for the header, or the fault of the key. -/
def signatureOf (scheme : Scheme) (account : String) (key : Value) (text : String) : Except Fault Value :=
  ((key.sign (.text text) true).map (Authentication.authorization scheme account)).mapError Fault.wrapUnsigned

theorem sign_eq_signatureOf {scheme : Scheme} {account : String} (named : account ≠ "") (key : Value)
    (request : Request) : (Authentication.sharedKey scheme (some account) key).sign request =
      ([Authentication.signedLine (stringToSign scheme account request)],
        (signatureOf scheme account key (stringToSign scheme account request)).map
          (request.setHeader "Authorization")) := by
  simp only [Authentication.sign, Authentication.signShared, signatureOf]
  cases key.sign (.text (stringToSign scheme account request)) true <;> rfl

/-- A shared key treats requests that say the same alike. Either both get the same signature, or
signing fails for both in the same way. -/
theorem sign_alike {scheme : Scheme} {a b : Request} (alike : Alike scheme a b) (apart : a.headers.Apart)
    (apart' : a.query.Apart) (account : Option String) (key : Value) :
    ∃ (lines : List Log.Line) (outcome : Except Fault Value),
      (Authentication.sharedKey scheme account key).sign a = (lines, outcome.map (a.setHeader "Authorization")) ∧
      (Authentication.sharedKey scheme account key).sign b = (lines, outcome.map (b.setHeader "Authorization")) := by
  rcases account with _ | account
  · exact ⟨_, .error _, rfl, rfl⟩
  · by_cases named : account = ""
    · subst named
      exact ⟨_, .error _, rfl, rfl⟩
    · refine ⟨_, _, sign_eq_signatureOf named key a, ?_⟩
      rw [sign_eq_signatureOf named key b, alike.stringToSign_eq apart apart' account]

namespace Restated

/-- Lists blobs, with headers as a caller might give them. -/
def given : Request where
  method := "GET"
  path := some "/photos"
  query := Fields.ofList [("restype", .text "container"), ("Comp", .text "list")]
  headers := Fields.ofList [("X-MS-Meta-Name", .text " a "), ("Date", .text "today")]

/-- The same request in other words. -/
def tidied : Request where
  method := "GET"
  path := some "/photos"
  query := Fields.ofList [("comp", .text "list"), ("restype", .text "container")]
  headers := Fields.ofList [("date", .text "today"), ("x-ms-meta-name", .text "a")]

theorem given_alike : Alike .full given tidied := by
  have padded : Scheme.full.Padded "X-MS-Meta-Name" (.text " a ") (.text "a") :=
    .inr ⟨.inl rfl, by decide +kernel, " a ", "a", rfl, rfl, by decide +kernel⟩
  refine alike_of_recased rfl rfl ⟨[("x-ms-meta-name", .text "a"), ("date", .text "today")], ?_, .swap _ _ _⟩
    ⟨[("restype", .text "container"), ("comp", .text "list")], ?_, .swap _ _ _⟩
  · exact .cons ⟨by decide +kernel, padded⟩ (.cons ⟨by decide +kernel, .inl rfl⟩ .nil)
  · exact .cons ⟨rfl, rfl⟩ (.cons ⟨by decide +kernel, rfl⟩ .nil)

theorem restated_signed_alike : Alike .full given tidied ∧ given.headers.Apart ∧ given.query.Apart ∧
    ∃ (lines : List Log.Line) (outcome : Except Fault Value),
      (Authentication.sharedKey .full (some "acc") (.text "a2V5")).sign given =
        (lines, outcome.map (given.setHeader "Authorization")) ∧
      (Authentication.sharedKey .full (some "acc") (.text "a2V5")).sign tidied =
        (lines, outcome.map (tidied.setHeader "Authorization")) :=
  have apart : given.headers.Apart := by decide +kernel
  have apart' : given.query.Apart := by decide +kernel
  ⟨given_alike, apart, apart', sign_alike given_alike apart apart' (some "acc") (.text "a2V5")⟩

end Restated

namespace Kelvin

/-- A request whose parameters are told apart by ASCII letters, and still have one lower-case form. -/
def asking (parameters : List (String × Value)) : Request where
  method := "GET"
  path := some "/a"
  query := Fields.ofList parameters

def plainFirst : Request :=
  asking [("k", .text "2"), ("\u212a", .text "1")]

def plainLast : Request :=
  asking [("\u212a", .text "1"), ("k", .text "2")]

theorem stringToSign_asking {parameters : List (String × Value)} {a b : String × String}
    (listed : (asking parameters).query.given.map (fun entry => (entry.1, queryText entry.2)) = [a, b])
    (inOrder : a.1 ≤ b.1) : stringToSign .full "acc" (asking parameters) =
      "GET\n\n\n\n\n\n\n\n\n\n\n\n/acc/a" ++ ("\n" ++ a.1 ++ ":" ++ a.2 ++ ("\n" ++ b.1 ++ ":" ++ b.2)) := by
  have apart : (asking parameters).headers.Apart :=
    show (Fields.empty : Fields Value).Apart by decide +kernel
  have start : lineText "GET" ++ concat ((standardValues .full (lowerHeaders Fields.empty)).map lineText) ++
      concat ((sortedService Fields.empty).map fun entry => lineText (entry.1 ++ ":" ++ entry.2)) ++
      "/" ++ "acc" ++ "/a" = "GET\n\n\n\n\n\n\n\n\n\n\n\n/acc/a" := by
    have service : sortedService Fields.empty = [] := List.mergeSort_nil
    rw [service]
    decide +kernel
  have text := stringToSign_full apart "acc"
  rw [parameterValues_pair listed, if_pos inOrder] at text
  refine text.trans ((congrArg (· ++ _) start).trans ?_)
  simp [concat]

def authorizationOf (signed : Except Fault Request) : Option String :=
  match signed with
  | .ok request => (request.headers.get? "Authorization").map Value.toText
  | .error _ => none

theorem authorizationOf_sign {key : Value} {request : Request} {text signature : String}
    (text_eq : stringToSign .full "acc" request = text)
    (signed : (key.sign (.text text) true).toOption = some signature) :
    authorizationOf ((Authentication.sharedKey .full (some "acc") key).sign request).2 =
      authorizationOf (.ok (request.setHeader "Authorization"
        (Authentication.authorization .full "acc" signature))) := by
  cases found : key.sign (.text text) true with
  | error fault => simp [found, Except.toOption] at signed
  | ok made =>
      obtain rfl : made = signature := by simpa [found, Except.toOption] using signed
      show authorizationOf (Authentication.signShared .full "acc" key request) = _
      rw [Authentication.signShared, text_eq, found]

/-- Parameters that ASCII letters tell apart are signed in the order they were given in, if their names
have the same lower-case form. -/
theorem order_signed :
    (plainFirst.query.names.map Text.asciiFold).Nodup ∧
      plainFirst.query.entries.Perm plainLast.query.entries ∧
      (plainFirst.method, plainFirst.path, plainFirst.headers) =
        (plainLast.method, plainLast.path, plainLast.headers) ∧
      authorizationOf ((Authentication.sharedKey .full (some "acc") (.text "a2V5")).sign plainFirst).2 =
        some "SharedKey acc:bCg0OzexBUC5kBvodfhgZHGmUGE0Rz4UZhTJwomtBPw=" ∧
      authorizationOf ((Authentication.sharedKey .full (some "acc") (.text "a2V5")).sign plainLast).2 =
        some "SharedKey acc:dkJWzDd+0pu0JPvN0vQZCLPhoBYUVPXlN4uDGwXgJr0=" := by
  have listed : plainFirst.query.given.map (fun entry => (entry.1, queryText entry.2)) =
        [("k", "2"), ("k", "1")] ∧
      plainLast.query.given.map (fun entry => (entry.1, queryText entry.2)) = [("k", "1"), ("k", "2")] := by
    decide +kernel
  have first : stringToSign .full "acc" plainFirst = "GET\n\n\n\n\n\n\n\n\n\n\n\n/acc/a\nk:2\nk:1" :=
    (stringToSign_asking listed.1 (String.le_refl _)).trans (by decide +kernel)
  have last : stringToSign .full "acc" plainLast = "GET\n\n\n\n\n\n\n\n\n\n\n\n/acc/a\nk:1\nk:2" :=
    (stringToSign_asking listed.2 (String.le_refl _)).trans (by decide +kernel)
  have told_apart : (plainFirst.query.names.map Text.asciiFold).Nodup := by decide +kernel
  have signed_first : ((Value.text "a2V5").sign
      (.text "GET\n\n\n\n\n\n\n\n\n\n\n\n/acc/a\nk:2\nk:1") true).toOption =
        some "bCg0OzexBUC5kBvodfhgZHGmUGE0Rz4UZhTJwomtBPw=" := by
    decide +kernel
  have signed_last : ((Value.text "a2V5").sign
      (.text "GET\n\n\n\n\n\n\n\n\n\n\n\n/acc/a\nk:1\nk:2") true).toOption =
        some "dkJWzDd+0pu0JPvN0vQZCLPhoBYUVPXlN4uDGwXgJr0=" := by
    decide +kernel
  refine ⟨told_apart, ?_, rfl, ?_, ?_⟩
  · have first_entries : plainFirst.query.entries = [("k", .text "2"), ("\u212a", .text "1")] :=
      Fields.entries_ofList (by decide +kernel)
    have last_entries : plainLast.query.entries = [("\u212a", .text "1"), ("k", .text "2")] :=
      Fields.entries_ofList (by decide +kernel)
    rw [first_entries, last_entries]
    exact .swap _ _ _
  · rw [authorizationOf_sign first signed_first]
    decide +kernel
  · rw [authorizationOf_sign last signed_last]
    decide +kernel

end Kelvin

end Signing

end ObjectStore
