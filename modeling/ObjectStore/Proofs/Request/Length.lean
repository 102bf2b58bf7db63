import ObjectStore.Proofs.Fields
import ObjectStore.Proofs.Request.RangeHeader

/-! The length that a request announces, beside what is left to read of its body. Bytes are counted,
and a stream is measured in one of two ways: by the size of the file behind it, or by the positions
that it tells. Only the second one heeds where the stream stands. -/

namespace ObjectStore

namespace Stream

/-- Neither the size of a file nor a way to the end and back. -/
def Unmeasurable (s : Stream) : Prop :=
  s.fileSize? = none ∧ (s.tell? = none ∨ s.canSeek = false)

/-- A stream stands where measuring it gives what is left of it: a file at its start, unless it is
empty, and memory not beyond its end. -/
structure Faithful (s : Stream) : Prop where
  file : s.kind = .file → s.position = 0 ∨ s.content = []
  memory : s.kind = .memory → s.position ≤ s.content.length

theorem measure_of_unmeasurable {s : Stream} (unmeasurable : s.Unmeasurable) : s.measure.1 = none := by
  obtain ⟨sizeless, untold | stuck⟩ := unmeasurable
  · rw [measure, sizeless, untold]
  · rw [measure, sizeless, stuck]
    split <;> simp_all

/-- The ways in which a stream can be measured. -/
theorem measure_cases {s : Stream} {length : Int} (measured : s.measure.1 = some length) :
    (s.kind = .file ∧ length = s.content.length) ∨
      (s.kind = .memory ∧ length = (s.content.length : Int) - s.position) := by
  cases kind : s.kind with
  | file =>
      simp only [measure, fileSize?, kind, Option.some.injEq] at measured
      exact .inl ⟨rfl, measured.symm⟩
  | memory =>
      have start : s.tell? = some s.position := by simp only [tell?, kind]
      have ended : s.seekEnd.tell? = some s.content.length := by
        simp only [seekEnd, seek, tell?, kind]
      have movable : s.canSeek = true := by simp [canSeek, kind]
      simp only [measure, fileSize?, kind, start, movable, ended, Option.map_some,
        Option.some.injEq] at measured
      exact .inr ⟨rfl, measured.symm⟩
  | readOnly => simp [measure, fileSize?, tell?, kind] at measured
  | bare => simp [measure, fileSize?, tell?, kind] at measured
  | untellable => simp [measure, fileSize?, tell?, kind] at measured
  | unseekable => simp [measure, fileSize?, tell?, canSeek, kind] at measured

/-- What is measured is what is left, exactly if the stream stands where it is measured from. -/
theorem measure_eq_rest_iff {s : Stream} {length : Int} (measured : s.measure.1 = some length) :
    length = s.rest.length ↔ s.Faithful := by
  have left : s.rest.length = s.content.length - s.position := List.length_drop
  obtain ⟨kind, rfl⟩ | ⟨kind, rfl⟩ := measure_cases measured
  · constructor
    · intro same
      refine ⟨fun _ => ?_, fun memory => absurd (kind.symm.trans memory) (by decide)⟩
      rw [← List.length_eq_zero_iff]
      omega
    · intro faithful
      obtain start | empty := faithful.file kind
      · omega
      · rw [left, empty, List.length_nil, Nat.zero_sub]
  · constructor
    · intro same
      refine ⟨fun file => absurd (kind.symm.trans file) (by decide), fun _ => ?_⟩
      omega
    · intro faithful
      have inside := faithful.memory kind
      omega

end Stream

namespace Value

/-- Content to be sent: bytes, if there are any, or a stream that can be read. -/
def HasContent : Value → Prop
  | bytes content => content ≠ []
  | stream s => s.canRead = true
  | _ => False

/-- The bytes that are read when the content is sent. -/
def remaining : Value → List UInt8
  | bytes content => content
  | stream s => (s.read (-1)).1
  | _ => []

/-- The content is measured from where it is read. Bytes always are. -/
def Faithful (value : Value) : Prop :=
  ∀ s, value = stream s → s.Faithful

def Unmeasurable (value : Value) : Prop :=
  ∃ s, value = stream s ∧ s.Unmeasurable

theorem HasContent.truthy {value : Value} (content : value.HasContent) : value.truthy = true := by
  cases value with
  | bytes content' => simpa [Value.truthy, HasContent] using content
  | stream s => rfl
  | _ => contradiction

theorem HasContent.asContent {value : Value} (content : value.HasContent) (name : String) :
    value.asContent name = .ok value := by
  cases value with
  | bytes content' => rfl
  | stream s =>
      have readable : (stream s).isReadable = true := content
      rw [Value.asContent, if_pos readable]
      all_goals simp
  | _ => contradiction

/-- The length of content is that of what is left to read, exactly if it is measured from there. -/
theorem length_eq_remaining_iff {value : Value} (content : value.HasContent) {length : Int}
    (measured : value.length? = some length) : length = value.remaining.length ↔ value.Faithful := by
  cases value with
  | bytes content' =>
      have counted : length = content'.length := (Option.some.inj measured).symm
      refine ⟨fun _ s same => by contradiction, fun _ => counted⟩
  | stream s =>
      have faithful : (stream s).Faithful ↔ s.Faithful := by simp [Faithful]
      rw [faithful]
      exact Stream.measure_eq_rest_iff measured
  | _ => contradiction

end Value

/-- A whole number is written like a natural number only if it is that one. -/
theorem eq_of_toString_eq {n : Int} {m : Nat} (same : toString n = toString m) : n = m := by
  have characters := congrArg String.toList same
  cases n with
  | ofNat n =>
      have digits : Nat.toDigits 10 n = Nat.toDigits 10 m := by
        simpa only [Int.toString_eq_repr, Int.repr, Nat.toString_eq_repr, Nat.toList_repr] using characters
      exact congrArg Int.ofNat (Request.toDigits_inj digits)
  | negSucc n =>
      have signed : '-' ∈ (toString (Int.negSucc n)).toList := by
        simp [Int.toString_eq_repr, Int.repr]
      rw [characters, Nat.toString_eq_repr, Nat.toList_repr] at signed
      exact absurd signed (Request.dash_notMem_toDigits m)

namespace Request

variable {request completed : Request} {length : Int}

/-- What a request announces as its length, and its body. -/
def sameLength : Frame Request :=
  .same fun request => (request.headers.get? "Content-Length", request.body)

theorem sameLength_indifferent : Indifferent sameLength where
  header name member value request := by
    have foreign : ∀ name ∈ regular, name ≠ "Content-Length" := by decide
    have kept : (request.headers.set name value).get? "Content-Length" =
        request.headers.get? "Content-Length" := by
      rw [Fields.get_set_eq, if_neg (foreign name member)]
    exact congrArg (·, request.body) kept
  query _ _ := rfl

theorem encodePath_sameLength : encodePath.Keeps sameLength := by
  refine .bind .read fun request => ?_
  split
  · exact .fail _
  · exact .change fun _ => rfl

/-- Content that cannot be measured is refused before anything is written. -/
theorem addLength_of_unmeasurable (content : request.body.HasContent)
    (unmeasurable : request.body.Unmeasurable) :
    addLength request = (.error (Cause.unmeasurable "request.body"), request) := by
  obtain ⟨s, body, unknowable⟩ := unmeasurable
  have unknown : request.body.length? = none := by
    rw [body, Value.length?, Value.measure]
    exact Stream.measure_of_unmeasurable unknowable
  rw [addLength_eq, if_pos content.truthy, content.asContent, unknown]

/-- Content that was measured is left as it is, and its length is announced. -/
theorem addLength_of_ok (content : request.body.HasContent)
    (carries : methodsWithLength.contains request.method = true) {measured : Request}
    (done : addLength request = (.ok (), measured)) : ∃ length, request.body.length? = some length ∧
      measured = request.setHeader "Content-Length" (.text (toString length)) := by
  rw [addLength_eq, if_pos content.truthy, content.asContent] at done
  cases known : request.body.length? with
  | none =>
      rw [known] at done
      cases done
  | some length =>
      rw [known] at done
      have written : request.announced methodsWithLength (toString length) =
          request.setHeader "Content-Length" (.text (toString length)) := if_pos carries
      exact ⟨length, rfl, (Prod.mk.inj done).2.symm.trans written⟩

/-- What is announced when a request is completed is written once, and the body stays as it is. -/
theorem complete_length {sender : Sender} {requestId timeout : Value} (content : request.body.HasContent)
    (carries : methodsWithLength.contains request.method = true)
    (done : complete sender requestId timeout request = (.ok (), completed)) :
    ∃ length, request.body.length? = some length ∧ completed.body = request.body ∧
      completed.headers.get? "Content-Length" = some (.text (toString length)) := by
  rw [complete, Act.bind_eq_ok] at done
  obtain ⟨_, measured, first, done⟩ := done
  obtain ⟨length, known, rfl⟩ := addLength_of_ok content carries first
  have later := Act.Keeps.bind (sameLength_indifferent.addSender_keeps sender requestId) fun _ =>
    .bind (sameLength_indifferent.addTimeout_keeps timeout) fun _ => encodePath_sameLength
  have kept := later.of_ok done
  obtain ⟨header, body⟩ := Prod.mk.inj kept
  refine ⟨length, known, body, header.trans ?_⟩
  exact Fields.get_set _ _ _

/-- A completed request announces how much is left to read of its body, exactly if the body stands where
it is measured from, and the body is where it was; one that cannot be measured is refused, and nothing
of the request changes. -/
theorem complete_announces_iff (sender : Sender) (requestId timeout : Value) {request : Request}
    (carries : methodsWithLength.contains request.method = true) (content : request.body.HasContent) :
    (∀ completed, complete sender requestId timeout request = (.ok (), completed) →
      completed.body = request.body ∧
      (completed.headers.get? "Content-Length" =
        some (.text (toString request.body.remaining.length)) ↔ request.body.Faithful)) ∧
    (request.body.Unmeasurable →
      complete sender requestId timeout request = (.error (Cause.unmeasurable "request.body"), request)) := by
  constructor
  · intro completed done
    obtain ⟨length, known, body, header⟩ := complete_length content carries done
    refine ⟨body, ?_⟩
    rw [header, ← Value.length_eq_remaining_iff content known]
    constructor
    · intro same
      exact eq_of_toString_eq (Value.text.inj (Option.some.inj same))
    · intro same
      rw [same]
      rfl
  · intro unmeasurable
    rw [complete, Act.bind_of_error (addLength_of_unmeasurable content unmeasurable)]

section Uploads

/-- Ten bytes that are read from the fifth one on. -/
def uploadOf (kind : Stream.Kind) : Request :=
  { method := "PUT", path := some "/x", body := .stream ⟨kind, [48, 49, 50, 51, 52, 53, 54, 55, 56, 57], 4⟩ }

def sender : Sender := ⟨.text "2017-04-17", .text "client"⟩

theorem memory_upload_announced :
    methodsWithLength.contains (uploadOf .memory).method = true ∧ (uploadOf .memory).body.HasContent ∧
    (uploadOf .memory).body.Faithful ∧
    ∃ completed, complete sender .null .null (uploadOf .memory) = (.ok (), completed) ∧
      completed.body = (uploadOf .memory).body ∧
      completed.headers.get? "Content-Length" = some (.text "6") := by
  have carries : methodsWithLength.contains (uploadOf .memory).method = true := by decide
  have content : (uploadOf .memory).body.HasContent := rfl
  have faithful : (uploadOf .memory).body.Faithful := by
    rintro s ⟨⟩
    exact ⟨fun file => absurd file (by decide), fun _ => by decide⟩
  obtain ⟨completed, done⟩ :
      ∃ completed, complete sender .null .null (uploadOf .memory) = (.ok (), completed) := ⟨_, rfl⟩
  obtain ⟨body, announces⟩ :=
    (complete_announces_iff sender .null .null carries content).1 completed done
  exact ⟨carries, content, faithful, completed, done, body, announces.mpr faithful⟩

/-- The size of a file is announced also where only a part of it is left to read. -/
theorem file_upload_misannounced :
    ∃ completed, complete sender .null .null (uploadOf .file) = (.ok (), completed) ∧
      (uploadOf .file).body.HasContent ∧ (uploadOf .file).body.remaining.length = 6 ∧
      completed.headers.get? "Content-Length" = some (.text "10") :=
  ⟨_, rfl, rfl, rfl, rfl⟩

end Uploads

end Request

end ObjectStore
