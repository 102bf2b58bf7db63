import ObjectStore.Operation.Basic
import ObjectStore.Proofs.Act.Ending

/-! Error responses keep their status. Whatever the body of a refused response is, the fault that it stands
for has the status of the response, unless the body names a code that is no text. -/

namespace ObjectStore

namespace ErrorBody

/-- The nesting of a document stays within the limit of its reader. -/
def Shallow (content : List UInt8) : Prop :=
  ∀ cs opened, Text.Utf8.decode? (Text.Utf8.dropMark content) = some cs →
    Document.Json.parse (Text.stripBlank (String.ofList cs)) ≠ .error (.tooDeep opened)

theorem details_of_shallow {text : String}
    (shallow : ∀ opened, Document.Json.parse (Text.stripBlank text) ≠ .error (.tooDeep opened)) :
    ∃ found, details text = .ok found := by
  rw [details]
  split
  · exact ⟨_, rfl⟩
  split
  · rw [jsonDetails]
    split
    · exact ⟨_, rfl⟩
    · exact ⟨_, rfl⟩
    · next opened deep => exact absurd deep (shallow opened)
  · exact ⟨_, rfl⟩

theorem bodyDetails_of_shallow {content : List UInt8} (shallow : Shallow content) :
    ∃ found, bodyDetails (.bytes content) = .ok found := by
  rw [bodyDetails]
  split
  · cases read : Text.Utf8.decode? (Text.Utf8.dropMark content) with
    | none =>
        simp only [text?, read, Option.map_none, bind, Except.bind]
        exact ⟨_, rfl⟩
    | some cs =>
        simp only [text?, read, Option.map_some, bind, Except.bind]
        exact details_of_shallow fun opened => shallow cs opened read
  · exact ⟨_, rfl⟩

end ErrorBody

namespace Response

/-- What the body of an error says; nothing if it cannot be read. -/
def told (content : List UInt8) : Fields Value :=
  (ErrorBody.bodyDetails (.bytes content)).toOption.getD Fields.empty

/-- The code of an error: that of the header if it is there, and otherwise that of the body. -/
def errorCode (response : Response) (content : List UInt8) : Value :=
  match response.headers.get? "x-ms-error-code" with
  | some code => code
  | none => ((told content).get? ErrorBody.codeName).getD .null

/-- The code can be put into a message: it is a text, or there is none to be put. -/
def Sayable (code : Value) : Prop :=
  code.truthy = true → ∃ s, code = .text s

theorem codeText_of_sayable {code : Value} (sayable : Sayable code) :
    ∃ text, ErrorBody.codeText code = .ok text := by
  rw [ErrorBody.codeText]
  split
  · next given =>
    obtain ⟨s, rfl⟩ := sayable given
    exact ⟨_, rfl⟩
  · exact ⟨_, rfl⟩

theorem codeText_of_unsayable {code : Value} (unsayable : ¬ Sayable code) :
    ∃ text, ErrorBody.codeText code = .error (.misfit .type text) := by
  obtain ⟨given, other⟩ := Classical.not_imp.mp unsayable
  rw [ErrorBody.codeText, if_pos given]
  cases code with
  | text s => exact absurd ⟨s, rfl⟩ other
  | _ => exact ⟨_, rfl⟩

theorem sayable_iff_isOk {code : Value} : Sayable code ↔ (ErrorBody.codeText code).isOk = true := by
  by_cases sayable : Sayable code
  · obtain ⟨text, said⟩ := codeText_of_sayable sayable
    simp [sayable, said, Except.isOk, Except.toBool]
  · obtain ⟨text, unsaid⟩ := codeText_of_unsayable sayable
    simp [sayable, unsaid, Except.isOk, Except.toBool]

instance (code : Value) : Decidable (Sayable code) :=
  decidable_of_iff _ sayable_iff_isOk.symm

/-- A fault that says what an error response says. -/
structure Faithful (response : Response) (content : List UInt8) (fault : Fault) : Prop where
  said : ∃ message details, fault = ⟨.service ⟨message, .int response.status,
      response.errorCode content, .dict details⟩, none⟩ ∧
    ErrorBody.codeName ∉ details.map Prod.fst

/-- A response that is refused for its status. Its headers are texts, and it has a body of bytes that can be
had, which may be anything. -/
structure Refused (accepts : Int → Bool) (response : Response) (content : List UInt8) : Prop where
  status : accepts response.status = false
  headers : ∀ entry ∈ response.headers.entries, ∃ s, entry.2 = .text s
  body : response.readBody.1 = .ok (.bytes content)
  shallow : ErrorBody.Shallow content

/-- The headers are texts, and the body can be had and is no deeper than its reader goes. -/
def isRefused (accepts : Int → Bool) (response : Response) (content : List UInt8) : Bool :=
  !accepts response.status &&
  (response.headers.entries.all fun entry => match entry.2 with
    | .text _ => true
    | _ => false) &&
  (match response.readBody.1 with
    | .ok (.bytes read) => read == content
    | _ => false) &&
  match Text.Utf8.decode? (Text.Utf8.dropMark content) with
  | some cs => match Document.Json.parse (Text.stripBlank (String.ofList cs)) with
    | .error (.tooDeep _) => false
    | _ => true
  | none => true

theorem refused_of_isRefused {accepts : Int → Bool} {response : Response} {content : List UInt8}
    (holds : response.isRefused accepts content = true) : response.Refused accepts content := by
  simp only [isRefused, Bool.and_eq_true, Bool.not_eq_true'] at holds
  obtain ⟨⟨⟨status, texts⟩, body⟩, shallow⟩ := holds
  refine ⟨status, fun entry member => ?_, ?_, fun cs opened read deep => ?_⟩
  · have text := List.all_eq_true.mp texts entry member
    split at text
    · exact ⟨_, by assumption⟩
    · contradiction
  · split at body
    · next read same =>
      rw [same, eq_of_beq body]
    · contradiction
  · simp only [read, deep] at shallow
    contradiction

theorem readBody_keeps (response : Response) : response.readBody.2.status = response.status ∧
    response.readBody.2.message = response.message ∧ response.readBody.2.headers = response.headers := by
  unfold readBody
  split
  · split <;> exact ⟨rfl, rfl, rfl⟩
  · exact ⟨rfl, rfl, rfl⟩

variable {response : Response} {content : List UInt8}

theorem fault_eq (body : response.readBody.1 = .ok (.bytes content)) :
    response.fault = (ErrorBody.fault (.int response.status) response.message (some response.headers)
      (.bytes content), response.readBody.2) := by
  obtain ⟨status, message, headers⟩ := response.readBody_keeps
  cases read : response.readBody with
  | mk result after =>
  simp only [read] at body status message headers
  cases body
  simp only [fault, read, status, message, headers]

section Reading

variable (headers : ∀ entry ∈ response.headers.entries, ∃ s, entry.2 = .text s)
  (shallow : ErrorBody.Shallow content)
include headers shallow

theorem read_eq : ErrorBody.read (some response.headers) (.bytes content) =
    .ok (response.errorCode content, (told content).erase ErrorBody.codeName) := by
  obtain ⟨found, read⟩ := ErrorBody.bodyDetails_of_shallow shallow
  have known : told content = found := by
    rw [told, read]
    rfl
  rw [ErrorBody.read, read, known, errorCode, known]
  cases named : response.headers.get? "x-ms-error-code" with
  | none => simp only [Option.getD_some, named]; rfl
  | some code =>
      obtain ⟨entry, found, rfl⟩ := Option.map_eq_some_iff.mp named
      obtain ⟨s, text⟩ := headers entry (List.mem_of_find?_eq_some found)
      simp only [Option.getD_some, named, text]
      rfl

/-- An error response whose code can be said is translated into a fault that says the same. -/
theorem fault_of_sayable (sayable : Sayable (response.errorCode content)) : ∃ fault,
    ErrorBody.fault (.int response.status) response.message (some response.headers) (.bytes content) =
      .ok fault ∧ Faithful response content fault := by
  obtain ⟨text, said⟩ := codeText_of_sayable sayable
  rw [ErrorBody.fault, read_eq headers shallow]
  dsimp only [bind, Except.bind]
  rw [said]
  refine ⟨_, rfl, ⟨_, _, rfl, ?_⟩⟩
  simp [Fields.erase, Fields.filter]

/-- If the code cannot be said, another fault takes the place of the response. -/
theorem fault_of_unsayable (unsayable : ¬ Sayable (response.errorCode content)) : ∃ text,
    ErrorBody.fault (.int response.status) response.message (some response.headers) (.bytes content) =
      .error (.misfit .type text) := by
  obtain ⟨text, unsaid⟩ := codeText_of_unsayable unsayable
  rw [ErrorBody.fault, read_eq headers shallow]
  dsimp only [bind, Except.bind]
  rw [unsaid]
  exact ⟨text, rfl⟩

end Reading

end Response

end ObjectStore
