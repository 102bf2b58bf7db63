import ObjectStore.Proofs.Fields
import ObjectStore.Proofs.SharedAccess.Reading
import ObjectStore.Proofs.Time.Texts
import ObjectStore.Request.Condition

/-! What becomes of a time on its way to the service. In the conditions of a request it stays the same
point in time, to the second. In a token it is written as its own clock shows it. -/

namespace ObjectStore

namespace Request

/-- What a request becomes when a header is set to what a given value was written as. -/
def noted (name : String) (value written : Value) (request : Request) : Request :=
  if value.truthy then request.setHeader name written else request

theorem addGiven_of_ok {name : String} {value written : Value} {write : Value → Except Fault Value}
    (writes : value.truthy = true → write value = .ok written) (request : Request) :
    addGiven name value write request = (.ok (), request.noted name value written) := by
  unfold addGiven noted
  split
  · next given =>
    rw [writes given]
    rfl
  · rfl

theorem get_noted {name : String} {value : Value} (given : value.truthy = true) (written : Value)
    (request : Request) : (request.noted name value written).headers.get? name = some written := by
  rw [noted, if_pos given]
  exact Fields.get_set _ _ _

theorem get_noted_of_ne {name other : String} (differs : name ≠ other) (value written : Value)
    (request : Request) :
    (request.noted name value written).headers.get? other = request.headers.get? other := by
  unfold noted
  split
  · exact (Fields.get_set_eq _ _ _ _).trans (if_neg differs)
  · rfl

/-- A condition is absent, or a time of the universal years from 1000 to 9999. -/
def Dated (value : Value) : Prop :=
  value.truthy = false ∨ ∃ t, value = .moment t ∧ t.Proper ∧ t.Within

/-- A header says the universal second of the time that is given for it. -/
def TellsSecond (name : String) (value : Value) (request : Request) : Prop :=
  ∀ t, value = .moment t → ∃ text, request.headers.get? name = some (.text text) ∧
    Time.Denotes (Time.readHeader text) t.universalSecond

theorem Dated.written {value : Value} (dated : Dated value) : ∃ written,
    (value.truthy = true → value.toHeaderTime? = .ok written) ∧ ∀ t, value = .moment t →
      ∃ text, written = .text text ∧ Time.Denotes (Time.readHeader text) t.universalSecond := by
  obtain absent | ⟨t, rfl, proper, within⟩ := dated
  · refine ⟨.null, fun given => ?_, ?_⟩
    · rw [absent] at given
      contradiction
    · rintro t rfl
      contradiction
  · obtain ⟨u, moved, denotes⟩ := Time.DateTime.headerText_denotes proper within
    refine ⟨.text u.headerText, fun _ => ?_, ?_⟩
    · simp [Value.toHeaderTime?, Value.orNull, Value.isNull, moved]
    · rintro _ ⟨⟩
      exact ⟨_, rfl, denotes⟩

/-- The conditions of a request are written, and the headers tell their times. -/
theorem addConditions_tells {conditions : AccessCondition} (modified : Dated conditions.ifModifiedSince)
    (unmodified : Dated conditions.ifUnmodifiedSince) (request : Request) :
    ∃ changed, addConditions (some conditions) request = (.ok (), changed) ∧
      TellsSecond "If-Modified-Since" conditions.ifModifiedSince changed ∧
      TellsSecond "If-Unmodified-Since" conditions.ifUnmodifiedSince changed := by
  obtain ⟨first, writes_first, tells_first⟩ := modified.written
  obtain ⟨second, writes_second, tells_second⟩ := unmodified.written
  simp only [addConditions]
  rw [Act.bind_of_ok (addGiven_of_ok (fun _ => rfl) _), Act.bind_of_ok (addGiven_of_ok (fun _ => rfl) _),
    Act.bind_of_ok (addGiven_of_ok writes_first _), Act.bind_of_ok (addGiven_of_ok writes_second _),
    addGiven_of_ok (fun _ => rfl) _]
  refine ⟨_, rfl, fun t since => ?_, fun t since => ?_⟩
  · obtain ⟨text, rfl, denotes⟩ := tells_first t since
    have given : conditions.ifModifiedSince.truthy = true := by rw [since]; rfl
    refine ⟨text, ?_, denotes⟩
    rw [get_noted_of_ne (by decide), get_noted_of_ne (by decide), get_noted given]
  · obtain ⟨text, rfl, denotes⟩ := tells_second t since
    have given : conditions.ifUnmodifiedSince.truthy = true := by rw [since]; rfl
    refine ⟨text, ?_, denotes⟩
    rw [get_noted_of_ne (by decide), get_noted given]

end Request

namespace SharedAccess

/-- A token says the universal second of a time under a name, as far as a value is one. -/
def SaysSecond (name : String) (value : Value) (token : String) : Prop :=
  ∀ t, value = .moment t → t.Proper → t.Within →
    (Time.Denotes (Time.readToken (said (Signing.Token.parameters token) name)) t.universalSecond ↔ t.Settled)

section

variable {issuer : Issuer} {grant : Grant} {subject : Subject} {signature : String} {t : Time.DateTime}

theorem truthy_tokenText (t : Time.DateTime) : (Value.text t.tokenText).truthy = true := by
  simp [Value.truthy, Time.DateTime.tokenText]

theorem said_start (start : grant.start = .moment t) :
    said (subject.pairs issuer grant signature) "st" = t.tokenText := by
  have counts := truthy_tokenText t
  simp [said, Subject.pairs, Subject.values, Grant.values, given, dated, start, counts, Value.toText]

theorem said_expiry (expiry : grant.expiry = .moment t) :
    said (subject.pairs issuer grant signature) "se" = t.tokenText := by
  have counts := truthy_tokenText t
  cases (dated grant.start).truthy <;>
    simp [said, Subject.pairs, Subject.values, Grant.values, given, dated, expiry, counts, Value.toText]

variable {account : String} {key : List UInt8}

section Issued

variable (named : issuer.account = .text account) (held : issuer.key.toKey = .ok key) (proper : subject.Named)
include named held proper

/-- A token is made, and whoever reads it finds the pairs that it was made of. -/
theorem token_pairs : ∃ token signature, subject.token issuer grant = .ok token ∧
    Signing.Token.parameters token = subject.pairs issuer grant signature := by
  have made : subject.token issuer grant = .ok _ :=
    (token_eq named held proper).trans (congrArg Except.ok write_parameters)
  exact ⟨_, _, made, parameters_written pairs_legible⟩

/-- A token tells the times that show the universal second, and no others. -/
theorem token_says : ∃ token, subject.token issuer grant = .ok token ∧
    SaysSecond "st" grant.start token ∧ SaysSecond "se" grant.expiry token := by
  obtain ⟨token, signature, made, read⟩ : ∃ token signature, subject.token issuer grant = .ok token ∧
      Signing.Token.parameters token = subject.pairs issuer grant signature := token_pairs named held proper
  refine ⟨token, made, fun t start right within => ?_, fun t expiry right within => ?_⟩
  · rw [read, said_start start]
    exact Time.DateTime.tokenText_denotes_iff right within
  · rw [read, said_expiry expiry]
    exact Time.DateTime.tokenText_denotes_iff right within

end Issued

end

end SharedAccess

/-- Of the universal years from 1000 to 9999, the conditions of a request tell every time to the second.
A token tells the times of no offset that reaches beyond the second, and no others. -/
theorem times_keep_second_iff {conditions : AccessCondition} (modified : Request.Dated conditions.ifModifiedSince)
    (unmodified : Request.Dated conditions.ifUnmodifiedSince) (request : Request)
    {issuer : SharedAccess.Issuer} {account : String} {key : List UInt8}
    (named : issuer.account = .text account) (held : issuer.key.toKey = .ok key)
    (grant : SharedAccess.Grant) {subject : SharedAccess.Subject} (proper : subject.Named) :
    (∃ changed, Request.addConditions (some conditions) request = (.ok (), changed) ∧
      Request.TellsSecond "If-Modified-Since" conditions.ifModifiedSince changed ∧
      Request.TellsSecond "If-Unmodified-Since" conditions.ifUnmodifiedSince changed) ∧
    ∃ token, subject.token issuer grant = .ok token ∧
      SharedAccess.SaysSecond "st" grant.start token ∧ SharedAccess.SaysSecond "se" grant.expiry token :=
  ⟨Request.addConditions_tells modified unmodified request, SharedAccess.token_says named held proper⟩

namespace Noon

/-- Noon of the first day of 2018 at a place. -/
def noon (offset : Option Int) : Time.DateTime :=
  ⟨⟨2018, 1, 1⟩, 12, 0, 0, 0, offset⟩

def conditions (offset : Option Int) : AccessCondition :=
  { ifModifiedSince := .moment (noon offset) }

def grant (offset : Option Int) : SharedAccess.Grant :=
  { start := .moment (noon offset), permission := .text "r" }

def issuer : SharedAccess.Issuer :=
  { account := .text "storage", key := .text "a2V5" }

def account : SharedAccess.Subject :=
  .account (.text "b") (.text "sco")

theorem noon_proper : (noon none).Proper ∧ (noon (some 3600000000)).Proper := by
  constructor
  all_goals exact ⟨by decide, by decide, by decide, by decide, by decide, by decide, by decide⟩

theorem noon_within : (noon none).Within ∧ (noon (some 3600000000)).Within := by
  constructor
  all_goals exact ⟨by decide, by decide⟩

/-- Noon at no known place is noon in the header and in the token. -/
theorem universal_noon_kept :
    (∃ changed, Request.addConditions (some (conditions none)) {} = (.ok (), changed) ∧
      ∃ text, changed.headers.get? "If-Modified-Since" = some (.text text) ∧
        Time.Denotes (Time.readHeader text) 1514808000) ∧
    ∃ token, account.token issuer (grant none) = .ok token ∧
      Time.Denotes (Time.readToken (SharedAccess.said (Signing.Token.parameters token) "st")) 1514808000 := by
  have second : (noon none).universalSecond = 1514808000 := by decide
  have settled : (noon none).Settled := ⟨by decide, by decide⟩
  have since : Request.Dated (conditions none).ifModifiedSince := .inr ⟨_, rfl, noon_proper.1, noon_within.1⟩
  have none_since : Request.Dated (conditions none).ifUnmodifiedSince := .inl rfl
  have named : issuer.account = .text "storage" := rfl
  have held : issuer.key.toKey = .ok _ := rfl
  have proper : account.Named := trivial
  obtain ⟨⟨changed, written, modified, -⟩, token, made, start, -⟩ :=
    times_keep_second_iff since none_since {} named held (grant none) proper
  refine ⟨⟨changed, written, ?_⟩, token, made, ?_⟩
  · rw [← second]
    exact modified _ rfl
  · rw [← second]
    exact (start _ rfl noon_proper.1 noon_within.1).mpr settled

/-- Noon an hour east of universal time is eleven in the header and twelve in the token. -/
theorem eastern_noon_shifted :
    (∃ changed, Request.addConditions (some (conditions (some 3600000000))) {} = (.ok (), changed) ∧
      changed.headers.get? "If-Modified-Since" = some (.text "Mon, 01 Jan 2018 11:00:00 GMT")) ∧
    ∃ token, account.token issuer (grant (some 3600000000)) = .ok token ∧
      SharedAccess.said (Signing.Token.parameters token) "st" = "2018-01-01T12:00:00Z" ∧
      ¬ Time.Denotes (Time.readToken "2018-01-01T12:00:00Z") (noon (some 3600000000)).universalSecond := by
  have header : (noon (some 3600000000)).toUniversal?.map Time.DateTime.headerText =
      some "Mon, 01 Jan 2018 11:00:00 GMT" := by
    decide
  have written : (noon (some 3600000000)).tokenText = "2018-01-01T12:00:00Z" := by decide
  have unsettled : ¬ (noon (some 3600000000)).Settled := fun settled => absurd settled.1 (by decide)
  obtain ⟨token, signature, made, read⟩ :
      ∃ token signature, account.token issuer (grant (some 3600000000)) = .ok token ∧
        Signing.Token.parameters token = account.pairs issuer (grant (some 3600000000)) signature :=
    SharedAccess.token_pairs rfl rfl trivial
  refine ⟨⟨_, rfl, ?_⟩, token, made, ?_, ?_⟩
  · exact congrArg (Option.map Value.text) header
  · rw [read, SharedAccess.said_start rfl, written]
  · rw [← written, Time.DateTime.tokenText_denotes_iff noon_proper.2 noon_within.2]
    exact unsettled

end Noon

end ObjectStore
