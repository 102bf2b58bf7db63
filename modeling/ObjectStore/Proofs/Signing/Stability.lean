import ObjectStore.Signing.Authentication

/-! Signing settles a request. The signature does not cover the header it is put in, and a token replaces
what it put there before, so that a signed request is signed once more without a change. A request that
cannot be signed is left as it is. -/

namespace ObjectStore

namespace Fields

variable {α : Type}

theorem eq_of_entries {a b : Fields α} (same : a.entries = b.entries) : a = b := by
  cases a
  cases b
  cases same
  rfl

theorem set_set (fields : Fields α) (name : String) (first second : α) :
    (fields.set name first).set name second = fields.set name second := by
  refine eq_of_entries ?_
  simp only [set]
  induction fields.entries with
  | nil => simp [assign]
  | cons entry rest ih =>
      by_cases same : entry.1 = name
      · simp [assign, same]
      · simp only [assign, if_neg same, ih]

section Mapped

variable {β : Type}

theorem map_set (f : String → α → β) (fields : Fields α) (name : String) (value : α) :
    (fields.set name value).map f = (fields.map f).set name (f name value) := by
  refine eq_of_entries ?_
  simp only [set, map]
  induction fields.entries with
  | nil => simp [assign]
  | cons entry rest ih =>
      by_cases same : entry.1 = name
      · simp [assign, same]
      · simp only [assign, if_neg same, List.map_cons, ih]

theorem map_setAll (f : String → α → β) (fields : Fields α) (added : List (String × α)) :
    (fields.setAll added).map f =
      (fields.map f).setAll (added.map fun entry => (entry.1, f entry.1 entry.2)) := by
  induction added generalizing fields with
  | nil => rfl
  | cons entry rest ih =>
      rw [setAll, List.foldl_cons, ← setAll, ih, map_set]
      rfl

end Mapped

section Kept

variable {kept : String → Bool} {name : String}

/-- The entries under the names that are kept. -/
def keeping (kept : String → Bool) (fields : Fields α) : Fields α :=
  fields.filter fun entry => kept entry.1

theorem keeping_set (kept_name : kept name = true) (fields : Fields α) (value : α) :
    (fields.set name value).keeping kept = (fields.keeping kept).set name value := by
  refine eq_of_entries ?_
  simp only [set, keeping, filter]
  induction fields.entries with
  | nil => simp [assign, kept_name]
  | cons entry rest ih =>
      by_cases same : entry.1 = name
      · simp [assign, same, kept_name]
      · cases here : kept entry.1 with
        | true => simp [assign, same, here, ih]
        | false => simp [assign, same, here, ih]

theorem keeping_set_of_left (left : kept name = false) (fields : Fields α) (value : α) :
    (fields.set name value).keeping kept = fields.keeping kept := by
  refine eq_of_entries ?_
  simp only [set, keeping, filter]
  induction fields.entries with
  | nil => simp [assign, left]
  | cons entry rest ih =>
      by_cases same : entry.1 = name
      · simp [assign, same, left]
      · simp only [assign, if_neg same, List.filter_cons, ih]

theorem keeping_setAll (kept : String → Bool) (fields : Fields α) (added : List (String × α)) :
    (fields.setAll added).keeping kept =
      (fields.keeping kept).setAll (added.filter fun entry => kept entry.1) := by
  induction added generalizing fields with
  | nil => rfl
  | cons entry rest ih =>
      rw [setAll, List.foldl_cons, ← setAll, ih]
      cases here : kept entry.1 with
      | true => simp [keeping_set here, here, setAll]
      | false => simp [keeping_set_of_left here, here]

theorem get_keeping (kept_name : kept name = true) (fields : Fields α) :
    (fields.keeping kept).get? name = fields.get? name := by
  simp only [get?, keeping, filter, List.find?_filter]
  congr 2
  funext entry
  by_cases same : entry.1 = name <;> simp [same, kept_name]

theorem contains_keeping (kept_name : kept name = true) (fields : Fields α) :
    (fields.keeping kept).contains name = fields.contains name := by
  simp only [contains, keeping, filter, List.any_filter]
  congr 1
  funext entry
  by_cases same : entry.1 = name <;> simp [same, kept_name]

end Kept

end Fields

namespace Signing

/-- A token that was added to a query replaces itself. -/
theorem Token.merge_merge {α : Type} (query : Fields α) (added : List (String × α)) :
    merge (merge query added) added = merge query added := by
  let names := added.map fun entry => Text.lowerCase entry.1
  let kept name := !names.contains (Text.lowerCase name)
  have none_kept : added.filter (fun entry => kept entry.1) = [] := by
    refine List.filter_eq_nil_iff.mpr fun entry member => ?_
    have listed : Text.lowerCase entry.1 ∈ names := List.mem_map.mpr ⟨entry, member, rfl⟩
    simpa [kept] using listed
  have kept_once : (merge query added).keeping kept = query.keeping kept := by
    show ((query.keeping kept).setAll added).keeping kept = _
    rw [Fields.keeping_setAll, none_kept]
    refine Fields.eq_of_entries ?_
    simp [Fields.keeping, Fields.filter, Fields.setAll]
  show ((merge query added).keeping kept).setAll added = (query.keeping kept).setAll added
  rw [kept_once]

theorem Token.sign_sign (token : String) (request : Request) :
    sign token (sign token request) = sign token request := by
  by_cases signed : request.query.contains "sig" = true
  · have same : sign token request = request := by
      rw [sign, if_pos signed]
    rw [same, same]
  · rw [sign, sign, if_neg signed]
    dsimp only
    split
    · rfl
    · rw [merge_merge]

/-- Every header but the one for the signature. -/
def isCovered (name : String) : Bool :=
  name != "authorization"

theorem lowerHeaders_keeping (headers : Fields Value) : (lowerHeaders headers).keeping isCovered =
    lowerHeaders (headers.keeping fun name => isCovered (Text.lowerCase name)) := by
  rw [lowerHeaders, Fields.ofList, Fields.keeping_setAll, lowerHeaders, List.filter_map]
  have swapped : ((headers.entries.filter fun entry => !entry.2.isNull).filter
      ((fun entry : String × String => isCovered entry.1) ∘ fun entry : String × Value =>
        (Text.lowerCase entry.1, entry.2.toText))) =
      (headers.entries.filter fun entry => isCovered (Text.lowerCase entry.1)).filter
        fun entry => !entry.2.isNull := by
    rw [List.filter_filter, List.filter_filter]
    exact List.filter_congr fun entry _ => Bool.and_comm _ _
  rw [swapped]
  rfl

theorem covered_set (headers : Fields Value) (value : Value) :
    (lowerHeaders (headers.set "Authorization" value)).keeping isCovered =
      (lowerHeaders headers).keeping isCovered := by
  rw [lowerHeaders_keeping, lowerHeaders_keeping, Fields.keeping_set_of_left (by decide +kernel)]

section Covered

variable {headers others : Fields String} (same : headers.keeping isCovered = others.keeping isCovered)
include same

theorem header_eq_of_covered {name : String} (covered : isCovered name = true) :
    header headers name = header others name := by
  rw [header, header, ← Fields.get_keeping covered, same, Fields.get_keeping covered]

theorem standardValues_eq_of_covered (scheme : Scheme) :
    standardValues scheme headers = standardValues scheme others := by
  have dated : isCovered "x-ms-date" = true := by decide
  have get_eq : headers.get? "x-ms-date" = others.get? "x-ms-date" := by
    rw [← Fields.get_keeping dated, same, Fields.get_keeping dated]
  have contains_eq : headers.contains "x-ms-date" = others.contains "x-ms-date" := by
    rw [← Fields.contains_keeping dated, same, Fields.contains_keeping dated]
  cases scheme <;> simp (disch := decide) only [standardValues, lengthText, plainDate, serviceDate, get_eq,
    contains_eq, header_eq_of_covered same]

theorem serviceHeaders_eq_of_covered (scheme : Scheme) :
    serviceHeaders scheme headers = serviceHeaders scheme others := by
  have named : ∀ fields : Fields String, (fields.entries.filter fun entry => Text.hasPrefix "x-ms-" entry.1) =
      (fields.keeping isCovered).entries.filter fun entry => Text.hasPrefix "x-ms-" entry.1 := by
    intro fields
    simp only [Fields.keeping, Fields.filter, List.filter_filter]
    refine List.filter_congr fun entry _ => ?_
    by_cases signature : entry.1 = "authorization"
    · rw [signature]
      decide
    · simp [isCovered, signature]
  cases scheme <;> simp only [serviceHeaders, named headers, same, ← named others]

end Covered

/-- The text to sign does not depend on a signature that is already there. -/
theorem stringToSign_setHeader (scheme : Scheme) (account : String) (request : Request) (value : Value) :
    stringToSign scheme account (request.setHeader "Authorization" value) =
      stringToSign scheme account request := by
  have covered : (lowerHeaders (request.setHeader "Authorization" value).headers).keeping isCovered =
      (lowerHeaders request.headers).keeping isCovered := covered_set request.headers value
  have rest : verb scheme (request.setHeader "Authorization" value).method = verb scheme request.method ∧
      (request.setHeader "Authorization" value).pathOrRoot = request.pathOrRoot ∧
      (request.setHeader "Authorization" value).query = request.query :=
    ⟨rfl, rfl, rfl⟩
  rw [stringToSign, stringToSign, standardValues_eq_of_covered covered,
    serviceHeaders_eq_of_covered covered, rest.1, rest.2.1, rest.2.2]

end Signing

namespace Authentication

variable {authentication : Authentication} {request signed : Request}

/-- The signature of a request is made from what the request says otherwise, and the request carries it. -/
theorem signShared_eq_ok {scheme : Signing.Scheme} {account : String} {key : Value} :
    signShared scheme account key request = .ok signed ↔ ∃ signature,
      key.sign (.text (Signing.stringToSign scheme account request)) true = .ok signature ∧
        request.setHeader "Authorization" (authorization scheme account signature) = signed := by
  unfold signShared
  dsimp only
  split
  · next signature made => simp [made]
  · next fault failed => simp [failed]

/-- A signed request is signed once more without a change. -/
theorem sign_signed (done : (authentication.sign request).2 = .ok signed) :
    authentication.sign signed = ((authentication.sign request).1, .ok signed) := by
  cases authentication with
  | anonymous =>
      obtain rfl := Except.ok.inj done
      rfl
  | token given =>
      obtain rfl := Except.ok.inj done
      exact congrArg (fun again => ([], Except.ok again)) (Signing.Token.sign_sign _ request)
  | sharedKey scheme account key =>
      simp only [sign] at done ⊢
      split at done
      · contradiction
      · contradiction
      · next account _ =>
        obtain ⟨signature, made, rfl⟩ := signShared_eq_ok.mp done
        have same := Signing.stringToSign_setHeader scheme account request
          (authorization scheme account signature)
        have again : signShared scheme account key
            (request.setHeader "Authorization" (authorization scheme account signature)) =
            .ok (request.setHeader "Authorization" (authorization scheme account signature)) := by
          refine signShared_eq_ok.mpr ⟨signature, same ▸ made, ?_⟩
          simp only [Request.setHeader, Fields.set_set]
        rw [again, same]

/-- What is missing if an account has no name. -/
def named (account : Option String) : Except Fault String :=
  match account with
  | none | some "" => .error Cause.noAccountName
  | some account => .ok account

/-- Signs a request where it is. -/
def signInPlace (authentication : Authentication) : Act Fault Request Unit :=
  match authentication with
  | anonymous => pure ()
  | token given => Act.change (Signing.Token.sign (given.getD ""))
  | sharedKey scheme account key => do
    let account ← Act.ofExcept (named account)
    let text := Signing.stringToSign scheme account (← Act.read)
    let signature ← Act.ofExcept ((key.sign (.text text) true).mapError Fault.wrapUnsigned)
    Act.change (·.setHeader "Authorization" (authorization scheme account signature))

/-- A request that is signed where it is becomes what signing makes of it, and stays if signing fails. -/
theorem signInPlace_eq (authentication : Authentication) (request : Request) :
    authentication.signInPlace request =
      match (authentication.sign request).2 with
      | .ok signed => (.ok (), signed)
      | .error fault => (.error fault, request) := by
  cases authentication with
  | anonymous => rfl
  | token given => rfl
  | sharedKey scheme account key =>
      simp only [signInPlace, sign, named]
      split
      · rfl
      · rfl
      · next account _ =>
        simp only [signShared, Act.bind_apply, Act.ofExcept_apply, Act.read_apply]
        cases key.sign (.text (Signing.stringToSign scheme account request)) true <;> rfl

theorem kind_of_sign_fails {fault : Fault} (failed : (authentication.sign request).2 = .error fault) :
    fault.kind = .signing := by
  cases authentication with
  | anonymous => contradiction
  | token given => contradiction
  | sharedKey scheme account key =>
      simp only [sign] at failed
      split at failed
      · cases failed
        rfl
      · cases failed
        rfl
      · unfold signShared at failed
        dsimp only at failed
        split at failed
        · contradiction
        · cases failed
          rfl

end Authentication

end ObjectStore
