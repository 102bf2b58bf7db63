import Mathlib.Data.List.Basic
import ObjectStore.Log

/-! Texts on one line. Whatever is quoted is on one line, since line ends become escapes, and so is what a
value becomes in a log entry. -/

namespace ObjectStore

namespace Text

/-- The text has no line end. -/
def Inline (s : String) : Prop :=
  '\n' ∉ s.toList

instance (s : String) : Decidable (Inline s) :=
  inferInstanceAs (Decidable (_ ∉ _))

section Inline

variable {s t : String} {cs : List Char}

@[simp]
theorem inline_append : Inline (s ++ t) ↔ Inline s ∧ Inline t := by
  simp [Inline, not_or]

@[simp]
theorem inline_ofList : Inline (String.ofList cs) ↔ '\n' ∉ cs := by
  rw [Inline, String.toList_ofList]

@[simp]
theorem inline_oneLine (s : String) : Inline (oneLine s) := by
  simp [oneLine]

theorem inline_ofDigits {cs : List Char} (digits : ∀ c ∈ cs, c.isDigit = true) : '\n' ∉ cs :=
  fun member => absurd (digits _ member) (by decide)

theorem toDigits_inline (n : Nat) : '\n' ∉ Nat.toDigits 10 n :=
  inline_ofDigits fun _ member => Nat.isDigit_of_mem_toDigits (by decide) (by decide) member

@[simp]
theorem inline_nat (n : Nat) : Inline n.repr := by
  rw [Inline, Nat.toList_repr]
  exact toDigits_inline n

@[simp]
theorem inline_int (n : Int) : Inline n.repr := by
  cases n with
  | ofNat n => exact inline_nat n
  | negSucc n => exact inline_append.mpr ⟨by decide, inline_nat (n + 1)⟩

theorem inline_intercalate {separator : String} {texts : List String} (apart : Inline separator)
    (each : ∀ text ∈ texts, Inline text) : Inline (separator.intercalate texts) := by
  rw [Inline, String.toList_intercalate]
  induction texts with
  | nil => exact List.not_mem_nil
  | cons text rest ih =>
      obtain ⟨first, others⟩ := List.forall_mem_cons.mp each
      cases rest with
      | nil => simpa [Inline] using first
      | cons second more =>
          have rest := ih others
          simp only [List.map_cons, List.intercalate_cons_cons, List.mem_append, not_or]
          exact ⟨⟨first, apart⟩, rest⟩

theorem hexDigits_inline (width n : Nat) : '\n' ∉ hexDigits width n := by
  induction width generalizing n with
  | zero => exact List.not_mem_nil
  | succ width ih =>
      have digit : ∀ m < 16, Nat.digitChar m ≠ '\n' := by decide
      rw [hexDigits, List.mem_append, List.mem_singleton, not_or]
      exact ⟨ih _, fun same => digit _ (Nat.mod_lt n (by decide)) same.symm⟩

theorem escapeCode_inline (n : Nat) : '\n' ∉ escapeCode n := by
  unfold escapeCode
  split
  · decide
  split
  · decide
  split
  · decide
  repeat' split
  all_goals
    simp only [List.mem_cons, not_or]
    exact ⟨by decide, by decide, hexDigits_inline _ _⟩

theorem quoteFor_cases (hasSingle hasDouble : Bool) :
    quoteFor hasSingle hasDouble = doubleQuote ∨ quoteFor hasSingle hasDouble = singleQuote := by
  unfold quoteFor
  split
  · exact .inl rfl
  · exact .inr rfl

theorem ne_quoteFor (hasSingle hasDouble : Bool) : '\n' ≠ quoteFor hasSingle hasDouble := by
  rcases quoteFor_cases hasSingle hasDouble with same | same <;> rw [same] <;> decide

theorem quoteChar_inline {mark : Char} (other : '\n' ≠ mark) (c : Char) : '\n' ∉ quoteChar mark c := by
  unfold quoteChar
  split
  · next marked =>
    have differs : c ≠ '\n' := by
      rintro rfl
      simp [other] at marked
    simp [differs.symm]
  · split
    · next printable =>
      have differs : c ≠ '\n' := by
        rintro rfl
        exact absurd printable (by decide)
      simp [differs.symm]
    · exact escapeCode_inline _

@[simp]
theorem inline_quote (s : String) : Inline (quote s) := by
  have mark := ne_quoteFor (s.toList.contains singleQuote) (s.toList.contains doubleQuote)
  rw [quote, inline_ofList]
  simp only [List.cons_append, List.mem_cons, List.mem_append, List.mem_flatMap, List.not_mem_nil, or_false,
    not_or, not_exists, not_and]
  exact ⟨mark, fun c _ => quoteChar_inline mark c, mark⟩

theorem quoteByte_inline {marked : List Char} (other : '\n' ∉ marked) (b : UInt8) :
    '\n' ∉ quoteByte marked b := by
  have lineEnd : ∀ n < 256, Char.ofNat n = '\n' → n = 10 := by decide +kernel
  have ends := lineEnd b.toNat b.toNat_lt
  unfold quoteByte
  dsimp only
  split
  · next escaped =>
    have differs : Char.ofNat b.toNat ≠ '\n' := by
      intro same
      rw [same] at escaped
      simp [other] at escaped
    simp [differs.symm]
  · split
    · next shown =>
      have differs : Char.ofNat b.toNat ≠ '\n' := by
        intro same
        rw [ends same] at shown
        exact absurd shown (by decide)
      simp [differs.symm]
    · exact escapeCode_inline _

theorem inline_quoteBytesWith {escaped : List Char} (other : '\n' ∉ escaped) (bs : List UInt8) :
    Inline (quoteBytesWith escaped bs) := by
  have mark := ne_quoteFor (bs.contains 0x27) (bs.contains 0x22)
  have marked : '\n' ∉ quoteFor (bs.contains 0x27) (bs.contains 0x22) :: escaped :=
    List.not_mem_cons_of_ne_of_not_mem mark other
  rw [quoteBytesWith, inline_ofList]
  simp only [List.cons_append, List.mem_cons, List.mem_append, List.mem_flatMap, List.not_mem_nil, or_false,
    not_or, not_exists, not_and]
  exact ⟨by decide, mark, fun b _ => quoteByte_inline marked b, mark⟩

end Inline

end Text

namespace Number

theorem exponentText_inline (e : Int) : '\n' ∉ exponentText e := by
  have digits := Text.toDigits_inline e.natAbs
  unfold exponentText
  dsimp only
  split <;> split <;> simp [digits]

theorem write_inline (l : Layout) {digits : List Char} (inline : '\n' ∉ digits) (power : Int) :
    '\n' ∉ l.write digits power := by
  unfold Layout.write
  dsimp only
  split
  · have exponent := exponentText_inline power
    split <;> simp_all
  split
  · simp [inline, List.mem_replicate]
  split
  · simp [inline, List.mem_replicate]
  · have before : '\n' ∉ digits.take (power.toNat + 1) := fun member => inline (List.mem_of_mem_take member)
    have after : '\n' ∉ digits.drop (power.toNat + 1) := fun member => inline (List.mem_of_mem_drop member)
    simp [before, after]

theorem leading_inline (d : Decimal) : '\n' ∉ d.leading.1 := by
  have digits := Text.toDigits_inline d.digits
  unfold Decimal.leading
  dsimp only
  split
  · decide
  · rw [List.mem_reverse]
    exact fun member => digits (List.mem_reverse.mp ((List.dropWhile_sublist _).subset member))

theorem inline_floatText (x : Float) : Text.Inline (floatText x) := by
  unfold floatText
  split
  · split
    · decide
    · split <;> decide
  · next p _ =>
    have body : '\n' ∉ (if p.mantissa = 0 then ['0', '.', '0']
        else layout.write p.interval.shortest.leading.1 p.interval.shortest.leading.2) := by
      split
      · decide
      · exact write_inline _ (leading_inline _) _
    rw [Text.inline_ofList]
    dsimp only
    split
    · exact List.not_mem_cons_of_ne_of_not_mem (by decide) body
    · exact body

@[simp]
theorem inline_text (n : Number) : Text.Inline n.text := by
  cases n with
  | int n => exact Text.inline_int n
  | float x => exact inline_floatText x

end Number

namespace Time

@[simp]
theorem inline_padded (width n : Nat) : Text.Inline (padded width n) := by
  have digits := Text.toDigits_inline n
  simp [padded, digits, List.mem_replicate]

theorem inline_clockText (t : DateTime) : Text.Inline t.clockText := by
  have mark : Text.Inline ":" := by decide
  simp [DateTime.clockText, mark]

theorem inline_date (d : Date) : Text.Inline d.text := by
  have mark : Text.Inline "-" := by decide
  simp [Date.text, mark]

theorem inline_microText (micro : Nat) : Text.Inline (microText micro) := by
  unfold microText
  split
  · decide
  · exact Text.inline_append.mpr ⟨by decide, inline_padded _ _⟩

theorem inline_offsetText (offset : Int) : Text.Inline (offsetText offset) := by
  have colon : Text.Inline ":" := by decide
  have sign : Text.Inline (if offset < 0 then "-" else "+") := by
    split <;> decide
  unfold offsetText
  dsimp only
  rw [Text.inline_append, Text.inline_append, Text.inline_append, Text.inline_append]
  refine ⟨⟨⟨⟨sign, inline_padded _ _⟩, colon⟩, inline_padded _ _⟩, ?_⟩
  split
  · decide
  · simp [colon, inline_microText]

theorem inline_fullText {mark : String} (inline : Text.Inline mark) (t : DateTime) :
    Text.Inline (t.fullText mark) := by
  unfold DateTime.fullText
  simp only [Text.inline_append, inline_date, inline_clockText, inline_microText, inline, true_and]
  split
  · exact inline_offsetText _
  · decide

theorem inline_commaJoin (numbers : List Int) : Text.Inline (commaJoin numbers) := by
  refine Text.inline_intercalate (by decide) ?_
  exact List.forall_mem_map.mpr fun n _ => Text.inline_int n

theorem inline_quotedDate (d : Date) : Text.Inline d.quoted := by
  have brackets : Text.Inline "datetime.date(" ∧ Text.Inline ")" := by decide
  exact Text.inline_append.mpr ⟨Text.inline_append.mpr ⟨brackets.1, inline_commaJoin _⟩, brackets.2⟩

theorem inline_quotedSpan (span : Int) : Text.Inline (quotedSpan span) := by
  have brackets : Text.Inline "datetime.timedelta(" ∧ Text.Inline ")" ∧ Text.Inline "=" := by decide
  have names : ∀ a b c : Int, ∀ part ∈ [("days", a), ("seconds", b), ("microseconds", c)],
      Text.Inline part.1 := by
    intro a b c
    simp only [List.forall_mem_cons, List.not_mem_nil, false_implies, implies_true, and_true]
    decide
  unfold quotedSpan
  dsimp only
  rw [Text.inline_append, Text.inline_append]
  refine ⟨⟨brackets.1, Text.inline_intercalate (by decide) (List.forall_mem_map.mpr fun part member => ?_)⟩,
    brackets.2.1⟩
  rw [Text.inline_append, Text.inline_append]
  exact ⟨⟨names _ _ _ part (List.mem_of_mem_filter member), brackets.2.2⟩, Text.inline_int _⟩

theorem inline_quotedTime (t : DateTime) : Text.Inline t.quoted := by
  have brackets : Text.Inline "datetime.datetime(" ∧ Text.Inline ")" := by decide
  unfold DateTime.quoted
  rw [Text.inline_append, Text.inline_append, Text.inline_append]
  refine ⟨⟨⟨brackets.1, inline_commaJoin _⟩, ?_⟩, brackets.2⟩
  split
  · next offset _ =>
    refine Text.inline_append.mpr ⟨by decide, ?_⟩
    unfold quotedOffset
    split
    · decide
    · simp only [Text.inline_append, inline_quotedSpan, and_true]
      decide
  · decide

end Time

namespace SharedAccess.Flags

theorem inline_text (flags : Flags) : Text.Inline flags.text := by
  have letters : ∀ kind : Kind, '\n' ∉ kind.letters := by
    rintro (_ | _ | _) <;> decide
  rw [text, Text.inline_ofList]
  exact fun member => letters _ (List.mem_of_mem_filter member)

end SharedAccess.Flags

namespace Value

theorem inline_commaJoin {texts : List String} (each : ∀ text ∈ texts, Text.Inline text) :
    Text.Inline (commaJoin texts) :=
  Text.inline_intercalate (by decide) each

theorem inline_tupleText {texts : List String} (each : ∀ text ∈ texts, Text.Inline text) :
    Text.Inline (tupleText texts) := by
  unfold tupleText
  split
  · next one =>
    simp only [Text.inline_append, each one List.mem_cons_self, and_true]
    decide
  · simp only [Text.inline_append, inline_commaJoin each, and_true]
    decide

mutual

/-- Nothing that is quoted breaks a line. -/
theorem inline_quoted (value : Value) : Text.Inline value.quoted := by
  unfold quoted
  split
  · decide
  · next b => cases b <;> decide
  · exact Number.inline_text _
  · exact Text.inline_quote _
  · exact Text.inline_quoteBytesWith List.not_mem_nil _
  · next content =>
    have inside : Text.Inline (Text.quoteBytesWith [Text.singleQuote] content) :=
      Text.inline_quoteBytesWith (by decide) content
    simp only [Text.quoteByteArray, Text.inline_append, inside, and_true]
    decide
  · next items =>
    simp only [Text.inline_append, inline_commaJoin (inline_quotedItems items), and_true]
    decide
  · next items => exact inline_tupleText (inline_quotedItems items)
  · next entries =>
    simp only [Text.inline_append, inline_commaJoin (inline_quotedEntries entries), and_true]
    decide
  · exact Time.inline_quotedTime _
  · exact Time.inline_quotedDate _
  · exact SharedAccess.Flags.inline_text _
  · decide

theorem inline_quotedItems (items : List Value) : ∀ text ∈ quotedItems items, Text.Inline text := by
  cases items with
  | nil => exact List.forall_mem_nil _
  | cons item rest =>
      rw [quotedItems]
      exact List.forall_mem_cons.mpr ⟨inline_quoted item, inline_quotedItems rest⟩

theorem inline_quotedEntries (entries : List (String × Value)) :
    ∀ text ∈ quotedEntries entries, Text.Inline text := by
  match entries with
  | [] => exact List.forall_mem_nil _
  | (name, value) :: rest =>
      rw [quotedEntries]
      have colon : Text.Inline ": " := by decide
      exact List.forall_mem_cons.mpr ⟨by simp [inline_quoted value, colon], inline_quotedEntries rest⟩

end

end Value

namespace Log

/-- What a value becomes in a log entry is on one line. -/
theorem inline_onOneLine (value : Value) : Text.Inline (onOneLine value).toText := by
  unfold onOneLine
  split
  · exact Text.inline_oneLine _
  · exact Text.inline_oneLine _
  · exact Text.inline_oneLine _
  · next untouched _ _ =>
    unfold Value.toText
    split
    · exact absurd rfl (untouched _)
    · exact Time.inline_fullText (by decide) _
    · exact Time.inline_date _
    · exact Value.inline_quoted _

end Log

end ObjectStore
