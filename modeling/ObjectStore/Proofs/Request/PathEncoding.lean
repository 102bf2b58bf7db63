import ObjectStore.Connection
import ObjectStore.Proofs.Act.Alike
import ObjectStore.Proofs.Request.Completion
import ObjectStore.Proofs.Text.Percent

/-! Paths are sent in a form that tells all of them apart. A completed request has its path in plain
characters and escapes, from which the path can be read again. -/

namespace ObjectStore

namespace Path

/-- Characters that stand for themselves in a path that is sent. -/
def isPlain (c : Char) : Bool :=
  c.isAlphanum || ['_', '.', '-', '/', '(', ')', '$', '=', '\x27', ',', '~'].contains c

/-- Digits of an escape, which has no small letters. -/
def isEscapeDigit (c : Char) : Bool :=
  c.isDigit || ['A', 'B', 'C', 'D', 'E', 'F'].contains c

/-- A path in the form in which it is sent. -/
inductive Written : List Char → Prop where
  | nil : Written []
  | plain {c : Char} {rest : List Char} : isPlain c = true → Written rest → Written (c :: rest)
  | escape {high low : Char} {rest : List Char} : isEscapeDigit high = true → isEscapeDigit low = true →
      Written rest → Written ('%' :: high :: low :: rest)

theorem Written.append {first second : List Char} (written : Written first) (more : Written second) :
    Written (first ++ second) := by
  induction written with
  | nil => exact more
  | plain plain _ ih => exact .plain plain ih
  | escape high low _ ih => exact .escape high low ih

theorem isPlain_of_isEscapeDigit {c : Char} (digit : isEscapeDigit c = true) : isPlain c = true := by
  simp only [isEscapeDigit, Bool.or_eq_true, List.contains_iff_mem] at digit
  rcases digit with digit | letter
  · simp [isPlain, Char.isAlphanum, digit]
  · have letters : ∀ d ∈ ['A', 'B', 'C', 'D', 'E', 'F'], isPlain d = true :=
      List.forall_iff_forall_mem.mp (by decide)
    exact letters c letter

theorem Written.chars {cs : List Char} (written : Written cs) :
    ∀ c ∈ cs, isPlain c = true ∨ c = '%' := by
  induction written with
  | nil => simp
  | plain plain _ ih => exact List.forall_mem_cons.mpr ⟨.inl plain, ih⟩
  | escape high low _ ih =>
      exact List.forall_mem_cons.mpr ⟨.inr rfl, List.forall_mem_cons.mpr ⟨.inl (isPlain_of_isEscapeDigit high),
        List.forall_mem_cons.mpr ⟨.inl (isPlain_of_isEscapeDigit low), ih⟩⟩⟩

/-- Nothing in it ends a path, separates it from a query or breaks a line. -/
theorem Written.notMem {cs : List Char} (written : Written cs) {c : Char}
    (separates : c ∈ ['?', '#', ' ', '\n']) : c ∉ cs := by
  intro member
  have other : ∀ c ∈ ['?', '#', ' ', '\n'], ¬ (isPlain c = true ∨ c = '%') :=
    List.forall_iff_forall_mem.mp (by decide)
  exact other c separates (written.chars c member)

theorem isPlain_iff {c : Char} :
    isPlain c = true ↔ Text.Percent.isUnreserved c = true ∨ c ∈ safe := by
  simp only [isPlain, Text.Percent.isUnreserved, safe, Bool.or_eq_true, List.contains_iff_mem,
    List.mem_cons, List.not_mem_nil, or_false, beq_iff_eq]
  tauto

theorem isEscapeDigit_upperHex : ∀ n < 16, isEscapeDigit (Text.Percent.upperHex n) = true := by
  decide

theorem written_encodeByte (b : UInt8) : Written (Text.Percent.encodeByte safe b) := by
  obtain ⟨c, same, -, -, plain⟩ | same := Text.Percent.encodeByte_cases safe b
  · rw [same]
    exact .plain (isPlain_iff.mpr plain) .nil
  · obtain ⟨high, low⟩ := Text.Percent.digits_lt b
    rw [same]
    exact .escape (isEscapeDigit_upperHex _ high) (isEscapeDigit_upperHex _ low) .nil

theorem written_encode (path : String) : Written (encode path).toList := by
  rw [encode, Text.Percent.encode, String.toList_ofList]
  induction Text.Utf8.encode path.toList with
  | nil => exact .nil
  | cons b rest ih => exact (written_encodeByte b).append ih

theorem percent_notMem_safe : '%' ∉ safe := by
  decide

/-- The bytes that the escapes and the plain characters stand for are those of the path. -/
theorem bytes_encode (path : String) :
    Text.Percent.bytes (encode path).toList = Text.Utf8.encode path.toList := by
  rw [encode, Text.Percent.encode, String.toList_ofList]
  exact Text.Percent.bytes_encode percent_notMem_safe _

theorem decode_encode (path : String) : Text.Percent.decode (encode path) = path := by
  rw [Text.Percent.decode, encode, Text.Percent.decodeChars_encode percent_notMem_safe, String.ofList_toList]

theorem encode_inj {path other : String} (same : encode path = encode other) : path = other := by
  rw [← decode_encode path, same, decode_encode]

end Path

namespace Request

/-- The same request, but for its path, which both have. -/
def Rerouted (request other : Request) : Prop :=
  ∃ path path', request.path = some path ∧ other = { request with path := some path' }

theorem announced_rerouted (methods : List String) (length : String) {request other : Request}
    (rerouted : Rerouted request other) :
    Rerouted (request.announced methods length) (other.announced methods length) := by
  obtain ⟨path, path', given, rfl⟩ := rerouted
  unfold announced
  split
  · exact ⟨path, path', given, rfl⟩
  · exact ⟨path, path', given, rfl⟩

theorem addLength_rerouted : Act.Alike Rerouted Eq addLength addLength := by
  intro request other rerouted
  obtain ⟨path, path', given, same⟩ := id rerouted
  have body : other.body = request.body := by
    rw [same]
  rw [addLength_eq, addLength_eq, body]
  split
  · split
    · exact ⟨rerouted, .error _⟩
    · exact ⟨rerouted, .error _⟩
    · exact ⟨announced_rerouted _ _ rerouted, .ok rfl⟩
  · exact ⟨announced_rerouted _ _ rerouted, .ok rfl⟩

theorem encodePath_of_path {request : Request} {path : String} (given : request.path = some path) :
    encodePath request = (.ok (), { request with path := some (Path.encode path) }) := by
  rw [encodePath, Act.bind_of_ok (Act.read_apply request), given]
  rfl

theorem encodePath_rerouted : Act.Alike Rerouted Eq encodePath encodePath := by
  rintro request _ ⟨path, path', given, rfl⟩
  have rerouted : encodePath { request with path := some path' } =
      (.ok (), { request with path := some (Path.encode path') }) := encodePath_of_path rfl
  rw [encodePath_of_path given, rerouted]
  exact ⟨⟨_, _, rfl, rfl⟩, .ok rfl⟩

/-- Whether a request can be completed does not hang on its path. -/
theorem complete_rerouted (sender : Sender) (requestId timeout : Value) :
    Act.Alike Rerouted Eq (complete sender requestId timeout) (complete sender requestId timeout) := by
  refine addLength_rerouted.onward fun _ => .onward (.change ?_) fun _ => .onward ?_ fun _ => encodePath_rerouted
  · rintro request _ ⟨path, path', given, rfl⟩
    exact ⟨path, path', given, rfl⟩
  · unfold addTimeout
    split
    · exact .pure rfl
    · refine .onward (.ofExcept (.of_eq rfl)) fun seconds => .change ?_
      rintro request _ ⟨path, path', given, rfl⟩
      exact ⟨path, path', given, rfl⟩

def samePath : Frame Request :=
  .same Request.path

theorem samePath_indifferent : Indifferent samePath where
  header _ _ _ _ := rfl
  query _ _ := rfl

theorem addLength_samePath : addLength.Keeps samePath := by
  have announced (methods : List String) (length : String) (request : Request) :
      samePath.rel request (request.announced methods length) := by
    unfold Request.announced
    split <;> rfl
  intro request
  rw [addLength_eq]
  split
  · split
    · rfl
    · rfl
    · exact announced _ _ _
  · exact announced _ _ _

/-- The path is encoded at last, and until then it stays as it is. -/
theorem complete_path {sender : Sender} {requestId timeout : Value} {request completed : Request} {path : String}
    (given : request.path = some path)
    (done : complete sender requestId timeout request = (.ok (), completed)) :
    completed.path = some (Path.encode path) := by
  have early := addLength_samePath.bind fun _ => (samePath_indifferent.addSender_keeps sender requestId).bind
    fun _ => samePath_indifferent.addTimeout_keeps timeout
  have parts : complete sender requestId timeout = (addLength >>= fun _ =>
      addSender sender requestId >>= fun _ => addTimeout timeout) >>= fun _ => encodePath := by
    simp only [complete, Act.bind_assoc]
  rw [parts, Act.bind_eq_ok] at done
  obtain ⟨_, between, prepared, encoded⟩ := done
  have same : between.path = some path := (early.of_ok prepared).trans given
  rw [encodePath_of_path same] at encoded
  cases encoded
  rfl

end Request

/-- The url of what is sent ends in the path of the request. -/
theorem Connection.outgoing_url {τ : Type} {connection : Connection τ} {request : Request} {timeout : Timeout τ}
    {streamed : Bool} {outgoing : Outgoing τ} {path : String} (given : request.path = some path)
    (sends : connection.outgoing request timeout streamed = .ok outgoing) :
    ∃ protocol, connection.protocolOf request = .ok protocol ∧
      outgoing.url = Text.lowerCase protocol ++ "://" ++ request.host ++ path := by
  have route : pathOf request = .ok path := by
    rw [pathOf, given]
    rfl
  rw [Connection.outgoing, route] at sends
  split at sends
  all_goals
    obtain ⟨body, _, sends⟩ := Act.except_bind_eq_ok.mp sends
    obtain ⟨protocol, chosen, sends⟩ := Act.except_bind_eq_ok.mp sends
    cases sends
    exact ⟨protocol, chosen, rfl⟩

namespace Request

/-- Whether a request can be completed does not hang on its path. If it can, its path is written in plain
characters and escapes, which is how it goes out, and reading these as UTF-8 gives the path back; two
paths are never written alike. -/
theorem complete_writes_path (sender : Sender) (requestId timeout : Value) (request : Request) (path : String) :
    (∀ other, (complete sender requestId timeout { request with path := some other }).1 =
      (complete sender requestId timeout { request with path := some path }).1) ∧
    ∀ completed, complete sender requestId timeout { request with path := some path } = (.ok (), completed) →
      (∃ written, completed.path = some written ∧ Path.Written written.toList ∧
        (∀ c ∈ ['?', '#', ' ', '\n'], c ∉ written.toList) ∧
        Text.Utf8.decode? (Text.Percent.bytes written.toList) = some path.toList ∧
        Text.Percent.decode written = path ∧
        ∀ (τ : Type) (connection : Connection τ) timeout streamed outgoing,
          connection.outgoing completed timeout streamed = .ok outgoing →
          ∃ protocol, connection.protocolOf completed = .ok protocol ∧
            outgoing.url = Text.lowerCase protocol ++ "://" ++ completed.host ++ written) ∧
      ∀ sender' requestId' timeout' (request' : Request) path' completed',
        complete sender' requestId' timeout' { request' with path := some path' } = (.ok (), completed') →
        completed'.path = completed.path → path' = path := by
  constructor
  · intro other
    exact (complete_rerouted sender requestId timeout _ _ ⟨other, path, rfl, rfl⟩).2.eq
  · intro completed done
    have encoded : completed.path = some (Path.encode path) := complete_path rfl done
    have written := Path.written_encode path
    refine ⟨⟨_, encoded, written, fun c => written.notMem, ?_, Path.decode_encode path, ?_⟩, ?_⟩
    · rw [Path.bytes_encode, Text.Utf8.decode_encode]
    · exact fun _ _ _ _ _ => Connection.outgoing_url encoded
    · intro _ _ _ _ path' completed' doneToo same
      have encodedToo : completed'.path = some (Path.encode path') := complete_path rfl doneToo
      exact Path.encode_inj (Option.some.inj (encodedToo.symm.trans (same.trans encoded)))

/-- A path with a space, a percent sign, a question mark and a letter beyond ASCII. -/
theorem reserved_path_written :
    ∃ completed, complete ⟨.null, .null⟩ .null .null { path := some "/a b%?ü" } = (.ok (), completed) ∧
      completed.path = some "/a%20b%25%3F%C3%BC" ∧ Path.Written "/a%20b%25%3F%C3%BC".toList ∧
      Text.Percent.decode "/a%20b%25%3F%C3%BC" = "/a b%?ü" := by
  obtain ⟨completed, done⟩ : ∃ completed,
      complete ⟨.null, .null⟩ .null .null { path := some "/a b%?ü" } = (.ok (), completed) := ⟨_, rfl⟩
  have encoded : Path.encode "/a b%?ü" = "/a%20b%25%3F%C3%BC" := by decide +kernel
  obtain ⟨_, writes⟩ := complete_writes_path ⟨.null, .null⟩ .null .null {} "/a b%?ü"
  obtain ⟨⟨written, left, form, _, _, read, _⟩, _⟩ := writes completed done
  have same : written = "/a%20b%25%3F%C3%BC" :=
    (Option.some.inj (left.symm.trans (complete_path rfl done))).trans encoded
  subst same
  exact ⟨completed, done, left, form, read⟩

end Request

end ObjectStore
