import Mathlib.Data.List.Basic

/-! Texts that are put together from lines. The lines can be told from the text, as long as none of
them has a line end in it. -/

namespace ObjectStore.Text

/-- The first mark of a text divides it in one way only. -/
theorem cut_inj {mark : α} {before before' after after' : List α} (unmarked : mark ∉ before)
    (unmarked' : mark ∉ before') (same : before ++ mark :: after = before' ++ mark :: after') :
    before = before' ∧ after = after' := by
  induction before generalizing before' with
  | nil =>
      cases before' with
      | nil => exact ⟨rfl, (List.cons.inj same).2⟩
      | cons c rest =>
          obtain rfl := (List.cons.inj same).1
          exact absurd List.mem_cons_self unmarked'
  | cons c rest ih =>
      cases before' with
      | nil =>
          obtain rfl := (List.cons.inj same).1
          exact absurd List.mem_cons_self unmarked
      | cons d others =>
          obtain ⟨rfl, tail⟩ := List.cons.inj same
          obtain ⟨rfl, rest_eq⟩ := ih (List.not_mem_of_not_mem_cons unmarked)
            (List.not_mem_of_not_mem_cons unmarked') tail
          exact ⟨rfl, rest_eq⟩

/-- Lines one after the other, each with its end. -/
def lines (texts : List (List Char)) : List Char :=
  texts.flatMap (· ++ ['\n'])

/-- Lines one after the other, each after the end of the one before it. -/
def following (texts : List (List Char)) : List Char :=
  texts.flatMap ('\n' :: ·)

/-- None of the texts has a line end in it. -/
def Unbroken (texts : List (List Char)) : Prop :=
  ∀ text ∈ texts, '\n' ∉ text

theorem lines_cons (text : List Char) (rest : List (List Char)) (more : List Char) :
    lines (text :: rest) ++ more = text ++ '\n' :: (lines rest ++ more) := by
  simp [lines]

/-- A text and the lines that follow it are the lines of them all, but for the last end. -/
theorem append_following (text : List Char) (rest : List (List Char)) :
    text ++ following rest ++ ['\n'] = lines (text :: rest) := by
  induction rest generalizing text with
  | nil => simp [following, lines]
  | cons next others ih =>
      calc text ++ following (next :: others) ++ ['\n']
          = text ++ '\n' :: (next ++ following others ++ ['\n']) := by simp [following]
        _ = lines (text :: next :: others) := by
          rw [ih next]
          simp [lines]

section Recovery

variable {texts texts' : List (List Char)} {more more' : List Char}

/-- A fixed number of lines is told from what comes after them, whatever that is. -/
theorem lines_append_inj (count : texts.length = texts'.length) (unbroken : Unbroken texts)
    (unbroken' : Unbroken texts') (same : lines texts ++ more = lines texts' ++ more') :
    texts = texts' ∧ more = more' := by
  induction texts generalizing texts' with
  | nil =>
      obtain rfl := List.length_eq_zero_iff.mp count.symm
      exact ⟨rfl, same⟩
  | cons text rest ih =>
      obtain ⟨text', rest', rfl⟩ := List.exists_cons_of_length_eq_add_one count.symm
      obtain ⟨here, others⟩ := List.forall_mem_cons.mp unbroken
      obtain ⟨here', others'⟩ := List.forall_mem_cons.mp unbroken'
      rw [lines_cons, lines_cons] at same
      obtain ⟨rfl, later⟩ := cut_inj here here' same
      obtain ⟨rfl, more_eq⟩ := ih (Nat.succ.inj count) others others' later
      exact ⟨rfl, more_eq⟩

/-- Any number of lines is told from what comes after them, if that begins as no line does. -/
theorem lines_append_cons_inj {mark : Char} (other : mark ≠ '\n') (unbroken : Unbroken texts)
    (unbroken' : Unbroken texts') (unmarked : ∀ text ∈ texts, text.head? ≠ some mark)
    (unmarked' : ∀ text ∈ texts', text.head? ≠ some mark)
    (same : lines texts ++ mark :: more = lines texts' ++ mark :: more') :
    texts = texts' ∧ more = more' := by
  -- Where only one side has a line left, that line would begin with the mark.
  have distinct : ∀ {text rest last last'}, text.head? ≠ some mark →
      mark :: last ≠ lines (text :: rest) ++ last' := by
    intro text rest last last' unmarked same
    rw [lines_cons] at same
    cases text with
    | nil => exact other (List.cons.inj same).1
    | cons c cs => exact unmarked (congrArg some (List.cons.inj same).1.symm)
  induction texts generalizing texts' with
  | nil =>
      cases texts' with
      | nil => exact ⟨rfl, (List.cons.inj same).2⟩
      | cons text' rest' => exact absurd same (distinct (unmarked' _ List.mem_cons_self))
  | cons text rest ih =>
      cases texts' with
      | nil => exact absurd same.symm (distinct (unmarked _ List.mem_cons_self))
      | cons text' rest' =>
          obtain ⟨here, others⟩ := List.forall_mem_cons.mp unbroken
          obtain ⟨here', others'⟩ := List.forall_mem_cons.mp unbroken'
          rw [lines_cons, lines_cons] at same
          obtain ⟨rfl, later⟩ := cut_inj here here' same
          obtain ⟨rfl, more_eq⟩ := ih others others'
            (List.forall_mem_cons.mp unmarked).2 (List.forall_mem_cons.mp unmarked').2 later
          exact ⟨rfl, more_eq⟩

theorem lines_inj (unbroken : Unbroken texts) (unbroken' : Unbroken texts')
    (same : lines texts = lines texts') : texts = texts' := by
  induction texts generalizing texts' with
  | nil =>
      cases texts' with
      | nil => rfl
      | cons text' rest' => simp [lines] at same
  | cons text rest ih =>
      cases texts' with
      | nil => simp [lines] at same
      | cons text' rest' =>
          obtain ⟨here, others⟩ := List.forall_mem_cons.mp unbroken
          obtain ⟨here', others'⟩ := List.forall_mem_cons.mp unbroken'
          rw [← List.append_nil (lines (text :: rest)), ← List.append_nil (lines (text' :: rest')),
            lines_cons, lines_cons, List.append_nil, List.append_nil] at same
          obtain ⟨rfl, later⟩ := cut_inj here here' same
          rw [ih others others' later]

/-- A text is told from the lines that follow it. -/
theorem append_following_inj {text text' : List Char} (here : '\n' ∉ text) (here' : '\n' ∉ text')
    (unbroken : Unbroken texts) (unbroken' : Unbroken texts')
    (same : text ++ following texts = text' ++ following texts') : text = text' ∧ texts = texts' := by
  have ended := congrArg (· ++ ['\n']) same
  simp only [append_following] at ended
  exact List.cons.inj (lines_inj (List.forall_mem_cons.mpr ⟨here, unbroken⟩)
    (List.forall_mem_cons.mpr ⟨here', unbroken'⟩) ended)

end Recovery

end ObjectStore.Text
