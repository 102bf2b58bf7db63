import ObjectStore.Proofs.Log.Inline

/-! Log entries on one line. An entry is on one line if what its pattern is filled with is, and values always
are; what is put into a pattern as it is, such as the text of a fault, may break the line. -/

namespace ObjectStore.Log

section Filling

variable {argument : Argument} {arguments : List Argument} {kind : Char} {text : String} {cs : List Char}

/-- What is put into a pattern is on one line: values are kept there, and other texts have to be. -/
def Argument.Inline : Argument → Prop
  | value _ => True
  | plain s => Text.Inline s

theorem Argument.inline_text : Text.Inline argument.text ↔ argument.Inline := by
  cases argument with
  | value v => exact iff_of_true (inline_onOneLine v) trivial
  | plain s => exact Iff.rfl

@[simp]
theorem Argument.inline_value (v : Value) : (Argument.value v).Inline :=
  trivial

@[simp]
theorem Argument.inline_plain (s : String) : (Argument.plain s).Inline ↔ Text.Inline s :=
  Iff.rfl

/-- The number of places of a pattern, if all of them are for texts. -/
def places : List Char → Option Nat
  | '%' :: 's' :: rest => (places rest).map (· + 1)
  | '%' :: _ => none
  | _ :: rest => places rest
  | [] => some 0

/-- With a text for each of its places, a pattern is filled with all of them and with nothing else. -/
theorem fill_inline_iff (fits : places cs = some arguments.length) :
    '\n' ∉ fill cs arguments ↔ '\n' ∉ cs ∧ ∀ argument ∈ arguments, argument.Inline := by
  fun_induction places cs generalizing arguments with
  | case1 rest ih =>
      obtain ⟨others, fit, long⟩ := Option.map_eq_some_iff.mp fits
      obtain ⟨argument, more, rfl⟩ := List.exists_cons_of_length_eq_add_one long.symm
      have filled : fill ('%' :: 's' :: rest) (argument :: more) = argument.text.toList ++ fill rest more := rfl
      have same : others = more.length := Nat.succ.inj long
      rw [filled, List.mem_append, not_or, ih (same ▸ fit), List.forall_mem_cons, List.mem_cons, List.mem_cons,
        not_or, not_or]
      have text : '\n' ∉ argument.text.toList ↔ argument.Inline := Argument.inline_text
      rw [text]
      have marks : '\n' ≠ '%' ∧ '\n' ≠ 's' := by decide
      tauto
  | case2 => cases fits
  | case3 c rest _ plain ih =>
      have filled : fill (c :: rest) arguments = c :: fill rest arguments := by
        rw [fill]
        · exact fun _ marked _ => plain marked
        · exact fun _ _ _ _ _ marked _ => plain marked
      rw [filled, List.mem_cons, List.mem_cons, not_or, not_or, ih fits, and_assoc]
  | case4 =>
      obtain rfl := List.length_eq_zero_iff.mp (Option.some.inj fits).symm
      simp [fill]

end Filling

section Lines

variable {pattern : String} {arguments : List Argument}

theorem inline_format_iff (fits : places pattern.toList = some arguments.length) :
    Text.Inline (format pattern arguments) ↔
      Text.Inline pattern ∧ ∀ argument ∈ arguments, argument.Inline := by
  rw [format, Text.inline_ofList, fill_inline_iff fits]
  rfl

end Lines

section Records

variable {audience : Audience} {line : Line} {record : Record}

theorem Audience.inline_opening (inline : ∀ id, audience.requestId = some id → Text.Inline id) :
    Text.Inline audience.opening := by
  have identity : Text.Inline (audience.requestId.getD "*") := by
    cases given : audience.requestId with
    | none =>
        show Text.Inline "*"
        decide
    | some id => exact inline id given
  have before : Text.Inline "Client-Request-ID=" := by decide
  have after : Text.Inline ":" := by decide
  unfold opening
  exact Text.inline_append.mpr ⟨Text.inline_append.mpr ⟨before, identity⟩, after⟩

/-- An entry is on one line if its line is, given that the identity which opens it is. -/
theorem Audience.inline_record (opens : Text.Inline audience.opening)
    (made : audience.record? line = some record) :
    Text.Inline record.message ↔ Text.Inline line.text := by
  have blank : Text.Inline " " := by decide
  unfold record? at made
  split at made
  · cases made
    rw [Text.inline_append, Text.inline_append]
    exact ⟨And.right, fun inline => ⟨⟨opens, blank⟩, inline⟩⟩
  · cases made

end Records

end ObjectStore.Log
