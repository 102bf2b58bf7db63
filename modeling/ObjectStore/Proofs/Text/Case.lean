import ObjectStore.Text.Case

/-! What lower-casing does to a text. It brings in no separators, and it does not tell apart texts that
are the same but for the case of ASCII letters. -/

namespace ObjectStore.Text

/-- A capital ASCII letter becomes the small one, and every other character stays. -/
theorem toLower_cases (c : Char) : c.toLower = c ∨
    (65 ≤ c.toNat ∧ c.toNat ≤ 90) ∧ c.toLower.toNat = c.toNat + 32 := by
  unfold Char.toLower
  split
  · next upper =>
    have above : 65 ≤ c.val.toNat := upper.1
    have below : c.val.toNat ≤ 90 := upper.2
    have raised : (c.val + ('a'.val - 'A'.val)).toNat = c.val.toNat + 32 := by
      rw [UInt32.toNat_add]
      show (c.val.toNat + 32) % _ = _
      omega
    exact .inr ⟨⟨above, below⟩, raised⟩
  · exact .inl rfl

section Separators

/-- The forms that a run leads to are characters, none of which precedes the small letters. -/
def CaseRun.isRaising (run : CaseRun) : Bool :=
  97 ≤ run.target &&
    (run.target + (run.last - run.first) < 0xD800 ||
      (0xE000 ≤ run.target && run.target + (run.last - run.first) < 0x110000))

theorem caseRuns_raising : caseRuns.all CaseRun.isRaising = true := by
  decide +kernel

theorem CaseRun.raised {run : CaseRun} {n m : Nat} (raising : run.isRaising = true)
    (lowered : run.lower? n = some m) : 97 ≤ (Char.ofNat m).toNat := by
  simp only [lower?, Option.ite_none_right_eq_some, Option.some.injEq, Bool.and_eq_true,
    decide_eq_true_eq] at lowered
  simp only [isRaising, Bool.and_eq_true, Bool.or_eq_true, decide_eq_true_eq] at raising
  obtain ⟨⟨⟨from_first, to_last⟩, _⟩, rfl⟩ := lowered
  have valid : Nat.isValidChar (run.target + (n - run.first)) := by
    unfold Nat.isValidChar
    omega
  rw [Char.ofNat, dif_pos valid]
  show 97 ≤ (UInt32.ofNatLT (run.target + (n - run.first)) _).toNat
  rw [UInt32.toNat_ofNatLT]
  omega

/-- A character before the small letters is the lower-case form of itself only. -/
theorem eq_of_mem_lowerChar {c d : Char} (member : d ∈ lowerChar c) (low : d.toNat < 97) : d = c := by
  unfold lowerChar at member
  split at member
  · obtain rfl := List.mem_singleton.mp member
    rcases toLower_cases c with same | ⟨_, raised⟩
    · exact same
    · omega
  · split at member
    · simp only [List.mem_cons, List.not_mem_nil, or_false] at member
      rcases member with rfl | rfl
      · exact absurd low (by decide)
      · exact absurd low (by decide)
    · split at member
      · next found =>
        obtain ⟨run, listed, lowered⟩ := List.exists_of_findSome?_eq_some found
        obtain rfl := List.mem_singleton.mp member
        have := CaseRun.raised (List.all_eq_true.mp caseRuns_raising run listed) lowered
        omega
      · exact List.mem_singleton.mp member

theorem mem_of_mem_lowerFrom {d : Char} {before cs : List Char} (member : d ∈ lowerFrom before cs)
    (low : d.toNat < 97) : d ∈ cs := by
  induction cs generalizing before with
  | nil => exact member
  | cons c rest ih =>
      rcases List.mem_append.mp member with here | later
      · split at here
        · split at here
          · obtain rfl := List.mem_singleton.mp here
            exact absurd low (by decide)
          · obtain rfl := List.mem_singleton.mp here
            exact absurd low (by decide)
        · obtain rfl := eq_of_mem_lowerChar here low
          exact List.mem_cons_self
      · exact List.mem_cons_of_mem _ (ih later)

/-- A separator is in the lower-case form of a text only if it is in the text. -/
theorem mem_of_mem_lowerCase {d : Char} {s : String} (member : d ∈ (lowerCase s).toList)
    (low : d.toNat < 97) : d ∈ s.toList := by
  rw [lowerCase, String.toList_ofList] at member
  exact mem_of_mem_lowerFrom member low

end Separators

section Fold

/-- A text without the case of its ASCII letters. -/
def asciiFold (s : String) : String :=
  String.ofList (s.toList.map Char.toLower)

/-- Characters that fold to the same are the same, or both are letters. -/
theorem eq_or_letters {c d : Char} (same : c.toLower = d.toLower) : c = d ∨
    ∀ e ∈ [c, d], 65 ≤ e.toNat ∧ e.toNat < 123 ∧ (e.toNat ≤ 90 ∨ 97 ≤ e.toNat) := by
  rw [List.forall_mem_cons, List.forall_mem_singleton]
  rcases toLower_cases c with plain | ⟨upper, raised⟩
  · rcases toLower_cases d with plain' | ⟨upper', raised'⟩
    · exact .inl (plain.symm.trans (same.trans plain'))
    · rw [← same, plain] at raised'
      omega
  · rcases toLower_cases d with plain' | ⟨upper', raised'⟩
    · rw [same, plain'] at raised
      omega
    · omega

/-- ASCII letters have case, and none of them is passed over when a word end is sought. -/
theorem inRanges_of_letter : ∀ n < 123, 65 ≤ n → n ≤ 90 ∨ 97 ≤ n →
    inRanges caseIgnorableRanges n = false ∧ inRanges casedRanges n = true := by
  decide +kernel

theorem lowerChar_eq_of_folded {c d : Char} (same : c.toLower = d.toLower) : lowerChar c = lowerChar d := by
  rcases eq_or_letters same with rfl | letters
  · rfl
  · have letter := letters c (by simp)
    have letter' := letters d (by simp)
    rw [lowerChar, lowerChar, if_pos (by omega), if_pos (by omega), same]

theorem sigma_iff_of_folded {c d : Char} (same : c.toLower = d.toLower) : c = 'Σ' ↔ d = 'Σ' := by
  rcases eq_or_letters same with rfl | letters
  · exact Iff.rfl
  · have plain : ∀ e ∈ [c, d], e ≠ 'Σ' := by
      rintro e member rfl
      exact absurd (letters 'Σ' member).2.1 (by decide)
    exact iff_of_false (plain c (by simp)) (plain d (by simp))

theorem meetsCased_cons (c : Char) (rest : List Char) : meetsCased (c :: rest) =
    if inRanges caseIgnorableRanges c.toNat then meetsCased rest else inRanges casedRanges c.toNat := by
  unfold meetsCased
  rw [List.find?_cons]
  cases inRanges caseIgnorableRanges c.toNat <;> rfl

theorem meetsCased_eq_of_folded {cs ds : List Char} (same : cs.map Char.toLower = ds.map Char.toLower) :
    meetsCased cs = meetsCased ds := by
  induction cs generalizing ds with
  | nil =>
      obtain rfl := List.map_eq_nil_iff.mp same.symm
      rfl
  | cons c rest ih =>
      obtain ⟨d, others, rfl, head, tail⟩ := List.map_eq_cons_iff.mp same.symm
      rw [meetsCased_cons, meetsCased_cons, ih tail.symm]
      rcases eq_or_letters head with rfl | letters
      · rfl
      · have ranges : ∀ e ∈ [d, c], inRanges caseIgnorableRanges e.toNat = false ∧
            inRanges casedRanges e.toNat = true := by
          intro e member
          obtain ⟨above, below, apart⟩ := letters e member
          exact inRanges_of_letter e.toNat below above apart
        have ofC := ranges c (by simp)
        have ofD := ranges d (by simp)
        rw [ofC.1, ofC.2, ofD.1, ofD.2]

theorem lowerFrom_eq_of_folded {before before' cs ds : List Char}
    (alike : before.map Char.toLower = before'.map Char.toLower)
    (same : cs.map Char.toLower = ds.map Char.toLower) : lowerFrom before cs = lowerFrom before' ds := by
  induction cs generalizing before before' ds with
  | nil =>
      obtain rfl := List.map_eq_nil_iff.mp same.symm
      rfl
  | cons c rest ih =>
      obtain ⟨d, others, rfl, head, tail⟩ := List.map_eq_cons_iff.mp same.symm
      have alikeToo : (c :: before).map Char.toLower = (d :: before').map Char.toLower := by
        rw [List.map_cons, List.map_cons, head, alike]
      have further := ih alikeToo tail.symm
      simp only [lowerFrom, further, sigma_iff_of_folded head.symm, lowerChar_eq_of_folded head.symm,
        meetsCased_eq_of_folded alike, meetsCased_eq_of_folded tail.symm]

/-- The case of ASCII letters does not count for the lower-case form, whatever stands around them. -/
theorem lowerCase_eq_of_asciiFold {s t : String} (same : asciiFold s = asciiFold t) :
    lowerCase s = lowerCase t := by
  have folded := congrArg String.toList same
  rw [asciiFold, asciiFold, String.toList_ofList, String.toList_ofList] at folded
  rw [lowerCase, lowerCase, lowerFrom_eq_of_folded rfl folded]

end Fold

section Ascii

theorem lowerFrom_of_ascii {cs : List Char} (ascii : ∀ c ∈ cs, c.toNat < 128) (before : List Char) :
    lowerFrom before cs = cs.map Char.toLower := by
  induction cs generalizing before with
  | nil => rfl
  | cons c rest ih =>
      obtain ⟨first, others⟩ := List.forall_mem_cons.mp ascii
      have other : c ≠ 'Σ' := by
        rintro rfl
        exact absurd first (by decide)
      rw [lowerFrom, if_neg other, lowerChar, if_pos first, ih others]
      rfl

theorem toList_lowerCase_of_ascii {s : String} (ascii : ∀ c ∈ s.toList, c.toNat < 128) :
    (lowerCase s).toList = s.toList.map Char.toLower := by
  rw [lowerCase, String.toList_ofList, lowerFrom_of_ascii ascii]

theorem toLower_toLower (c : Char) : c.toLower.toLower = c.toLower := by
  rcases toLower_cases c with same | ⟨upper, lowered⟩
  · rw [same, same]
  · rcases toLower_cases c.toLower with same | ⟨again, _⟩
    · exact same
    · omega

theorem toLower_ascii {c : Char} (ascii : c.toNat < 128) : c.toLower.toNat < 128 := by
  rcases toLower_cases c with same | ⟨upper, lowered⟩
  · rwa [same]
  · omega

theorem lowerCase_lowerCase_of_ascii {s : String} (ascii : ∀ c ∈ s.toList, c.toNat < 128) :
    lowerCase (lowerCase s) = lowerCase s := by
  have stays : ∀ c ∈ (lowerCase s).toList, c.toNat < 128 := by
    rw [toList_lowerCase_of_ascii ascii]
    exact List.forall_mem_map.mpr fun c member => toLower_ascii (ascii c member)
  rw [← String.toList_inj, toList_lowerCase_of_ascii stays, toList_lowerCase_of_ascii ascii, List.map_map]
  exact List.map_congr_left fun c _ => toLower_toLower c

end Ascii

end ObjectStore.Text
