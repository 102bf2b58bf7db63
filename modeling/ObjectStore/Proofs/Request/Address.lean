import Mathlib.Data.List.DropRight
import ObjectStore.Proofs.Request.PlainPath
import ObjectStore.Proofs.Text.Case
import ObjectStore.Request.Address

/-! What becomes of the address of an account when a request is pointed at it. The address is read apart and
put together again, and the two are the same only where nothing of it is dropped or has to be encoded. -/

namespace ObjectStore

namespace Text

theorem occursIn_append (pattern before after : List Char) :
    occursIn pattern (before ++ pattern ++ after) = true := by
  induction before with
  | nil =>
      rw [List.nil_append]
      cases pattern with
      | nil => cases after <;> rfl
      | cons c rest => exact Bool.or_eq_true_iff.mpr (.inl (List.isPrefixOf_iff_prefix.mpr ⟨after, rfl⟩))
  | cons c rest ih => exact Bool.or_eq_true_iff.mpr (.inr ih)

end Text

namespace Uri

/-- A letter, and characters that a scheme may have. -/
def isScheme (protocol : String) : Bool :=
  protocol.toList.head?.any isAsciiLetter && protocol.toList.all isSchemeChar

/-- Characters that do not end a host. -/
def inHost (c : Char) : Bool :=
  c != '/' && c != '?' && c != '#'

/-- Characters that count wherever they stand. -/
def isKept (c : Char) : Bool :=
  c != '\t' && c != '\r' && c != '\n'

section Scheme

variable {c : Char} {protocol : String}

theorem ascii_of_isSchemeChar (allowed : isSchemeChar c = true) : c.toNat < 128 := by
  simp only [isSchemeChar, Bool.or_eq_true, beq_iff_eq] at allowed
  obtain ((letter | rfl) | rfl) | rfl := allowed
  · refine of_decide_eq_true (Text.Percent.isAscii_of_isUnreserved ?_)
    simp [Text.Percent.isUnreserved, letter]
  all_goals decide

theorem isSchemeChar_kept (allowed : isSchemeChar c = true) : c ≠ ':' ∧ isKept c = true := by
  have none : ∀ d ∈ [':', '\t', '\r', '\n'], isSchemeChar d = false :=
    List.forall_iff_forall_mem.mp (by decide)
  have differs : c ∉ [':', '\t', '\r', '\n'] := by
    intro member
    rw [none c member] at allowed
    contradiction
  simp only [List.mem_cons, List.not_mem_nil, or_false, not_or] at differs
  simp [isKept, differs]

theorem ascii_of_isScheme (scheme : isScheme protocol = true) : ∀ c ∈ protocol.toList, c.toNat < 128 := by
  obtain ⟨-, allowed⟩ := Bool.and_eq_true_iff.mp scheme
  exact fun c member => ascii_of_isSchemeChar (List.all_eq_true.mp allowed c member)

theorem isScheme_iff : isScheme protocol = true ↔ ∃ first rest, protocol.toList = first :: rest ∧
    isAsciiLetter first = true ∧ ∀ c ∈ first :: rest, isSchemeChar c = true := by
  unfold isScheme
  cases protocol.toList with
  | nil => simp
  | cons first rest =>
      simp only [List.head?_cons, Option.any_some, Bool.and_eq_true, List.all_eq_true, List.cons.injEq]
      constructor
      · rintro ⟨letter, allowed⟩
        exact ⟨first, rest, ⟨rfl, rfl⟩, letter, allowed⟩
      · rintro ⟨_, _, ⟨rfl, rfl⟩, letter, allowed⟩
        exact ⟨letter, allowed⟩

/-- A scheme stays one of as many characters in lower case. -/
theorem length_lowerCase_of_isScheme (scheme : isScheme protocol = true) :
    (Text.lowerCase protocol).toList.length = protocol.toList.length := by
  rw [Text.toList_lowerCase_of_ascii (ascii_of_isScheme scheme), List.length_map]

theorem lowerCase_ne_empty_of_isScheme (scheme : isScheme protocol = true) : Text.lowerCase protocol ≠ "" := by
  intro empty
  obtain ⟨first, rest, same, -⟩ := isScheme_iff.mp scheme
  have long := length_lowerCase_of_isScheme scheme
  rw [empty, same] at long
  exact absurd long (Nat.succ_ne_zero _).symm

theorem splitScheme_of_isScheme (scheme : isScheme protocol = true) (rest : List Char) :
    splitScheme (protocol.toList ++ ':' :: rest) = (protocol.toList, rest) := by
  obtain ⟨first, more, same, letter, allowed⟩ := isScheme_iff.mp scheme
  have before : ∀ c ∈ protocol.toList, (c != ':') = true := by
    intro c member
    exact bne_iff_ne.mpr (isSchemeChar_kept (allowed c (same ▸ member))).1
  have cuts : Text.cut ':' (protocol.toList ++ ':' :: rest) = (protocol.toList, some rest) := by
    rw [Text.cut, List.dropWhile_append_of_pos before, List.takeWhile_append_of_pos before]
    simp
  rw [splitScheme, cuts, same]
  dsimp only
  rw [letter, List.all_eq_true.mpr allowed]
  rfl

/-- A scheme has nothing that is passed over in front. -/
theorem cleaned_of_isScheme (scheme : isScheme protocol = true) (rest : String) :
    cleaned (protocol ++ "://" ++ rest) =
      protocol.toList ++ ':' :: '/' :: '/' :: rest.toList.filter isKept := by
  obtain ⟨first, more, same, letter, allowed⟩ := isScheme_iff.mp scheme
  have stays : protocol.toList.filter isKept = protocol.toList :=
    List.filter_eq_self.mpr fun c member => (isSchemeChar_kept (allowed c (same ▸ member))).2
  have marks : (first.toNat ≤ 0x20) = False := by
    rw [eq_iff_iff, iff_false]
    intro low
    have none : ∀ n < 0x21, isAsciiLetter (Char.ofNat n) = false := by decide
    rw [← Char.ofNat_toNat first, none _ (Nat.lt_succ_of_le low)] at letter
    contradiction
  have begins : (protocol ++ "://" ++ rest).toList.dropWhile (fun c => decide (c.toNat ≤ 0x20)) =
      protocol.toList ++ ':' :: '/' :: '/' :: rest.toList := by
    rw [String.toList_append, String.toList_append, same]
    simp [marks]
  have separator : [':', '/', '/'].filter isKept = [':', '/', '/'] := by decide
  rw [cleaned, begins]
  show (protocol.toList ++ ([':', '/', '/'] ++ rest.toList)).filter isKept = _
  rw [List.filter_append, List.filter_append, stays, separator]
  rfl

end Scheme

theorem dropParameters_of_notMem {cs : List Char} (unmarked : ';' ∉ cs) : dropParameters cs = cs := by
  have ends : (cs.reverse.takeWhile (· != '/')).reverse <:+ cs := List.rtakeWhile_suffix _ _
  have whole : (cs.reverse.takeWhile (· != '/')).reverse.takeWhile (· != ';') =
      (cs.reverse.takeWhile (· != '/')).reverse := by
    refine List.takeWhile_eq_self_iff.mpr fun c member => bne_iff_ne.mpr ?_
    rintro rfl
    exact unmarked (ends.subset member)
  rw [dropParameters, whole]
  exact List.suffix_iff_eq_append.mp ends

/-- What is read of an address with a scheme: up to where the host ends, and up to a query or a fragment,
where also parameters may be dropped. -/
theorem parse_eq_ok {protocol endpoint : String} {uri : Uri} (scheme : isScheme protocol = true)
    (parsed : parse (protocol ++ "://" ++ endpoint) = .ok uri) :
    uri.scheme = Text.lowerCase protocol ∧
      uri.host.toList = (endpoint.toList.filter isKept).takeWhile inHost ∧
      ∃ path, path = ((endpoint.toList.filter isKept).dropWhile inHost).takeWhile
          (fun c => c != '#' && c != '?') ∧
        (uri.path.toList = path ∨ uri.path.toList = dropParameters path) := by
  rw [parse, cleaned_of_isScheme scheme, splitScheme_of_isScheme scheme] at parsed
  dsimp only [splitHost] at parsed
  split at parsed
  · cases parsed
  · obtain rfl := Except.ok.inj parsed
    refine ⟨congrArg Text.lowerCase String.ofList_toList, String.toList_ofList, _, rfl, ?_⟩
    rw [String.toList_ofList]
    split
    · exact .inr rfl
    · exact .inl rfl

/-- An endpoint of which nothing is dropped and nothing has to be encoded: a host, and a path of plain
characters that does not end in a slash. -/
def Literal (endpoint : String) : Prop :=
  ∃ host base : List Char, endpoint.toList = host ++ base ∧
    (∀ c ∈ host, inHost c = true ∧ isKept c = true) ∧ (∀ c ∈ base, Path.isPlain c = true) ∧
    (∀ c ∈ base.head?, c = '/') ∧ ∀ c ∈ base.getLast?, c ≠ '/'

/-- What is plain or marks an escape belongs to a path and counts. -/
theorem written_kept {c : Char} (written : Path.isPlain c = true ∨ c = '%') :
    isKept c = true ∧ (c != '#' && c != '?') = true ∧ c ≠ ';' := by
  have none : ∀ d ∈ ['\t', '\r', '\n', '#', '?', ';'], ¬ (Path.isPlain d = true ∨ d = '%') :=
    List.forall_iff_forall_mem.mp (by decide)
  have differs : c ∉ ['\t', '\r', '\n', '#', '?', ';'] := fun member => none c member written
  simp only [List.mem_cons, List.not_mem_nil, or_false, not_or] at differs
  simp [isKept, differs]

/-- Without the slashes at its end a text is followed by slashes only. -/
theorem rdropWhile_slashes (cs : List Char) :
    ∃ slashes, cs = cs.rdropWhile (· == '/') ++ List.replicate slashes '/' := by
  have ends : ∀ c ∈ cs.rtakeWhile (· == '/'), c = '/' := by
    intro c member
    exact beq_iff_eq.mp (List.mem_rtakeWhile_imp (p := (· == '/')) member)
  refine ⟨(cs.rtakeWhile (· == '/')).length, ?_⟩
  rw [← List.eq_replicate_of_mem ends, List.rdropWhile, List.rtakeWhile, ← List.reverse_append,
    List.takeWhile_append_dropWhile, List.reverse_reverse]

section Reading

variable {protocol endpoint : String} {uri : Uri} {path : List Char}

/-- An endpoint in which nothing ends its path is read as a whole. -/
theorem read_whole (scheme : isScheme protocol = true)
    (parsed : parse (protocol ++ "://" ++ endpoint) = .ok uri)
    (kept : ∀ c ∈ endpoint.toList, isKept c = true)
    (lasting : ∀ c ∈ endpoint.toList.dropWhile inHost, (c != '#' && c != '?') = true ∧ c ≠ ';') :
    uri.host.toList = endpoint.toList.takeWhile inHost ∧
      uri.path.toList = endpoint.toList.dropWhile inHost := by
  obtain ⟨-, host, read, same, drops⟩ := parse_eq_ok scheme parsed
  rw [List.filter_eq_self.mpr kept] at host same
  rw [List.takeWhile_eq_self_iff.mpr fun c member => (lasting c member).1] at same
  have unmarked : ';' ∉ read := by
    rw [same]
    exact fun member => (lasting _ member).2 rfl
  rw [dropParameters_of_notMem unmarked, or_self] at drops
  exact ⟨host, drops.trans same⟩

theorem inHost_eq_false {c : Char} (outside : inHost c = false) : c = '/' ∨ c = '?' ∨ c = '#' := by
  simp only [inHost, Bool.and_eq_false_iff, bne_eq_false_iff_eq] at outside
  tauto

/-- What is put together from what was read, with the path of a request behind it, is the endpoint with
that path only if nothing was dropped and nothing had to be encoded. -/
theorem literal_of_eq (scheme : isScheme protocol = true)
    (parsed : parse (protocol ++ "://" ++ endpoint) = .ok uri)
    (same : uri.host.toList ++ (uri.path.toList.rdropWhile (· == '/') ++ path).flatMap Path.encodeChar =
      endpoint.toList ++ path) : Literal endpoint ∧ ∀ c ∈ path, Path.isPlain c = true := by
  obtain ⟨-, host, -⟩ := parse_eq_ok scheme parsed
  have kept : ∀ c ∈ endpoint.toList, isKept c = true := by
    intro c member
    have sent := List.mem_append_left path member
    rw [← same, List.mem_append, host] at sent
    rcases sent with inside | encoded
    · exact List.of_mem_filter ((List.takeWhile_sublist _).subset inside)
    · obtain ⟨d, -, written⟩ := List.mem_flatMap.mp encoded
      exact (written_kept (Path.isPlain_of_mem_encodeChar written)).1
  rw [List.filter_eq_self.mpr kept] at host
  have parts : uri.host.toList ++ endpoint.toList.dropWhile inHost = endpoint.toList := by
    rw [host]
    exact List.takeWhile_append_dropWhile
  generalize rest : endpoint.toList.dropWhile inHost = base at parts
  have encoded : base ++ path = (uri.path.toList.rdropWhile (· == '/') ++ path).flatMap Path.encodeChar := by
    rw [← parts, List.append_assoc] at same
    exact (List.append_cancel_left same).symm
  have written : ∀ c ∈ base, isKept c = true ∧ (c != '#' && c != '?') = true ∧ c ≠ ';' := by
    intro c member
    have sent := List.mem_append_left path member
    rw [encoded] at sent
    obtain ⟨d, -, member⟩ := List.mem_flatMap.mp sent
    exact written_kept (Path.isPlain_of_mem_encodeChar member)
  have all : uri.path.toList = base :=
    (read_whole scheme parsed kept (by rw [rest]; exact fun c member => (written c member).2)).2.trans rest
  rw [all] at encoded
  obtain ⟨slashes, ends⟩ := rdropWhile_slashes base
  have lengthened : base.rdropWhile (· == '/') ++ List.replicate slashes '/' ++ path =
      (base.rdropWhile (· == '/') ++ path).flatMap Path.encodeChar := by
    rw [← ends]
    exact encoded
  obtain ⟨none, plain⟩ := Path.isPlain_of_encode_eq lengthened
  have shortened : base.rdropWhile (· == '/') = base := by
    rw [none, List.replicate_zero, List.append_nil] at ends
    exact ends.symm
  obtain ⟨ofBase, ofPath⟩ := List.forall_mem_append.mp plain
  rw [shortened] at ofBase
  refine ⟨⟨uri.host.toList, base, parts.symm, ?_, ofBase, ?_, ?_⟩, ofPath⟩
  · intro c member
    rw [host] at member
    exact ⟨List.mem_takeWhile_imp member, kept c ((List.takeWhile_sublist _).subset member)⟩
  · intro c first
    have outside := List.head?_dropWhile_not inHost endpoint.toList
    rw [rest, Option.mem_def.mp first] at outside
    rcases inHost_eq_false outside with slash | rfl | rfl
    · exact slash
    all_goals exact absurd (written _ (List.mem_of_mem_head? first)).2.1 (by decide)
  · rintro c last rfl
    obtain ⟨nonempty, same⟩ := List.mem_getLast?_eq_getLast last
    exact List.rdropWhile_eq_self_iff.mp shortened nonempty (beq_iff_eq.mpr same.symm)

/-- Of a literal endpoint everything is read, and what is plain is sent as it is. -/
theorem eq_of_literal (scheme : isScheme protocol = true)
    (parsed : parse (protocol ++ "://" ++ endpoint) = .ok uri) (literal : Literal endpoint)
    (plain : ∀ c ∈ path, Path.isPlain c = true) :
    uri.host.toList ++ (uri.path.toList.rdropWhile (· == '/') ++ path).flatMap Path.encodeChar =
      endpoint.toList ++ path := by
  obtain ⟨name, base, parts, ofHost, ofBase, first, last⟩ := literal
  have written : ∀ c ∈ base, isKept c = true ∧ (c != '#' && c != '?') = true ∧ c ≠ ';' :=
    fun c member => written_kept (.inl (ofBase c member))
  have kept : ∀ c ∈ endpoint.toList, isKept c = true := by
    rw [parts]
    exact List.forall_mem_append.mpr ⟨fun c member => (ofHost c member).2, fun c member => (written c member).1⟩
  have ends : base.takeWhile inHost = [] ∧ base.dropWhile inHost = base := by
    cases base with
    | nil => exact ⟨rfl, rfl⟩
    | cons c rest =>
        obtain rfl := first c rfl
        exact ⟨rfl, rfl⟩
  have outside : ∀ c ∈ name, inHost c = true := fun c member => (ofHost c member).1
  have split : endpoint.toList.takeWhile inHost = name ∧ endpoint.toList.dropWhile inHost = base := by
    rw [parts, List.takeWhile_append_of_pos outside, List.dropWhile_append_of_pos outside, ends.1, ends.2]
    exact ⟨List.append_nil _, rfl⟩
  obtain ⟨host, all⟩ := read_whole scheme parsed kept (by
    rw [split.2]
    exact fun c member => (written c member).2)
  have whole : base.rdropWhile (· == '/') = base := by
    refine List.rdropWhile_eq_self_iff.mpr fun nonempty slash => ?_
    exact last _ (List.getLast?_eq_some_getLast nonempty) (beq_iff_eq.mp slash)
  rw [host, all, split.1, split.2, whole,
    Path.encode_of_isPlain (List.forall_mem_append.mpr ⟨ofBase, plain⟩), parts, List.append_assoc]

end Reading

end Uri

namespace Path

theorem toList_ofText (path : String) : (ofText path).toList = '/' :: Text.trim (· == '/') path.toList := by
  by_cases given : path = ""
  · subst given
    rfl
  · have counts : (Value.text path).truthy = true := by
      simp [Value.truthy, given]
    rw [ofText, ofSegments, List.filter_cons_of_pos counts, List.filter_nil, String.toList_ofList]
    simp [Text.join, List.intercalate, Value.toText]

theorem ofText_ne_empty (path : String) : ofText path ≠ "" := by
  intro empty
  have chars := toList_ofText path
  rw [empty] at chars
  cases chars

/-- The slashes at the ends of a path, which are left out, are plain. -/
theorem isPlain_ofText_iff {path : String} :
    (∀ c ∈ (ofText path).toList, isPlain c = true) ↔ ∀ c ∈ path.toList, isPlain c = true := by
  have slash : isPlain '/' = true := by decide
  obtain ⟨slashes, ends⟩ := Uri.rdropWhile_slashes (path.toList.dropWhile (· == '/'))
  have trimmed : Text.trim (· == '/') path.toList = (path.toList.dropWhile (· == '/')).rdropWhile (· == '/') := rfl
  have parts : path.toList = path.toList.takeWhile (· == '/') ++
      (Text.trim (· == '/') path.toList ++ List.replicate slashes '/') := by
    rw [trimmed, ← ends, List.takeWhile_append_dropWhile]
  rw [toList_ofText, List.forall_mem_cons]
  constructor
  · rintro ⟨-, plain⟩
    rw [parts]
    refine List.forall_mem_append.mpr ⟨fun c member => ?_, List.forall_mem_append.mpr ⟨plain, fun c member => ?_⟩⟩
    · obtain rfl := beq_iff_eq.mp (List.mem_takeWhile_imp (p := (· == '/')) member)
      exact slash
    · obtain rfl := List.eq_of_mem_replicate member
      exact slash
  · intro plain
    rw [parts] at plain
    exact ⟨slash, (List.forall_mem_append.mp (List.forall_mem_append.mp plain).2).1⟩

end Path

namespace Request

theorem withSlashes_of_scheme (protocol endpoint : String) :
    withSlashes (protocol ++ "://" ++ endpoint) = protocol ++ "://" ++ endpoint := by
  refine if_pos ?_
  rw [String.toList_append, String.toList_append]
  exact Text.occursIn_append [':', '/', '/'] _ _

/-- The path of the address goes before that of the request, but for the slashes at its end. -/
theorem pointAt_eq_ok {request addressed : Request} {protocol endpoint path : String} {location : Location}
    (scheme : Uri.isScheme protocol = true) (given : request.path = some path) (rooted : path ≠ "")
    (pointed : request.pointAt (protocol ++ "://" ++ endpoint) location = .ok addressed) :
    ∃ uri, Uri.parse (protocol ++ "://" ++ endpoint) = .ok uri ∧
      addressed.protocol = some (Text.lowerCase protocol) ∧ addressed.host = uri.host ∧
      addressed.path = some (dropEndSlashes uri.path ++ path) := by
  rw [pointAt, withSlashes_of_scheme] at pointed
  obtain ⟨uri, parsed, pointed⟩ := Act.except_bind_eq_ok.mp pointed
  cases pointed
  have same := (Uri.parse_eq_ok scheme parsed).1
  refine ⟨uri, parsed, ?_, rfl, ?_⟩
  · have spoken : uri.scheme.isEmpty = false := by
      rw [same, Bool.eq_false_iff]
      exact fun empty => Uri.lowerCase_ne_empty_of_isScheme scheme (String.isEmpty_iff.mp empty)
    dsimp only
    rw [spoken, same]
    rfl
  · dsimp only
    split
    · next none =>
      rw [String.isEmpty_iff.mp none, given, String.empty_append]
    · rw [pathOrRoot, given]
      split
      · next absent => cases absent
      · next empty => exact absurd (Option.some.inj empty) rooted
      · next other same => rw [Option.some.inj same]

/-- A request that is pointed at an address goes where it was told to, in so many characters, exactly if the
protocol is in lower case, the endpoint literal and the path plain. -/
theorem pointAt_writes_iff {request addressed : Request} {protocol endpoint path : String} {location : Location}
    (scheme : Uri.isScheme protocol = true) (given : request.path = some path) (rooted : path ≠ "")
    (pointed : request.pointAt (protocol ++ "://" ++ endpoint) location = .ok addressed) :
    ∃ sent, addressed.path = some sent ∧ addressed.protocol = some (Text.lowerCase protocol) ∧
      (Text.lowerCase (Text.lowerCase protocol) ++ "://" ++ addressed.host ++ Path.encode sent =
        protocol ++ "://" ++ endpoint ++ path ↔
          Text.lowerCase protocol = protocol ∧ Uri.Literal endpoint ∧ ∀ c ∈ path.toList, Path.isPlain c = true) := by
  obtain ⟨uri, parsed, lower, host, route⟩ := pointAt_eq_ok scheme given rooted pointed
  refine ⟨_, route, lower, ?_⟩
  rw [Text.lowerCase_lowerCase_of_ascii (Uri.ascii_of_isScheme scheme), host, ← String.toList_inj]
  simp only [String.toList_append, Path.toList_encode, dropEndSlashes, String.toList_ofList, List.append_assoc]
  constructor
  · intro same
    obtain ⟨first, rest⟩ := List.append_inj same (Uri.length_lowerCase_of_isScheme scheme)
    obtain ⟨literal, plain⟩ := Uri.literal_of_eq scheme parsed (List.append_cancel_left rest)
    exact ⟨String.toList_inj.mp first, literal, plain⟩
  · rintro ⟨lower, literal, plain⟩
    rw [lower]
    have whole := Uri.eq_of_literal scheme parsed literal plain
    exact congrArg (fun rest => protocol.toList ++ ("://".toList ++ rest)) whole

end Request

end ObjectStore
