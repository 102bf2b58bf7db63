import Mathlib.Data.List.TakeWhile
import ObjectStore.Proofs.Text.Percent
import ObjectStore.Text.Form

/-! A query string is read as it was written. Cutting undoes joining where no part has the separator in it,
and what percent encoding writes has none of the separators. -/

namespace ObjectStore.Text

section Splitting

variable {sep : Char} {piece cs : List Char}

theorem pieces_of_notMem (unmarked : sep ∉ piece) : pieces sep piece = [piece] := by
  induction piece with
  | nil => rfl
  | cons c rest ih =>
      obtain ⟨differs, unmarked⟩ := not_or.mp (mt List.mem_cons.mpr unmarked)
      rw [pieces, if_neg (Ne.symm differs), ih unmarked]

theorem pieces_append (unmarked : sep ∉ piece) (more : List Char) :
    pieces sep (piece ++ sep :: more) = piece :: pieces sep more := by
  induction piece with
  | nil => rw [List.nil_append, pieces, if_pos rfl]
  | cons c rest ih =>
      obtain ⟨differs, unmarked⟩ := not_or.mp (mt List.mem_cons.mpr unmarked)
      rw [List.cons_append, pieces, if_neg (Ne.symm differs), ih unmarked]

theorem join_cons (between text : List Char) (rest : List (List Char)) :
    join between (text :: rest) = text ++ rest.flatMap (between ++ ·) := by
  induction rest generalizing text with
  | nil => simp [join, List.intercalate]
  | cons next more ih =>
      have step : join between (text :: next :: more) = text ++ (between ++ join between (next :: more)) := by
        simp [join, List.intercalate]
      rw [step, ih, List.flatMap_cons, List.append_assoc]

theorem pieces_join {texts : List (List Char)} (unmarked : ∀ text ∈ texts, sep ∉ text) (given : texts ≠ []) :
    pieces sep (join [sep] texts) = texts := by
  induction texts with
  | nil => contradiction
  | cons text rest ih =>
      obtain ⟨first, others⟩ := List.forall_mem_cons.mp unmarked
      cases rest with
      | nil => rw [join_cons, List.flatMap_nil, List.append_nil, pieces_of_notMem first]
      | cons next more =>
          have joined : join [sep] (text :: next :: more) = text ++ sep :: join [sep] (next :: more) := by
            simp [join_cons]
          rw [joined, pieces_append first, ih others (List.cons_ne_nil _ _)]

theorem cut_append (unmarked : sep ∉ piece) (rest : List Char) :
    cut sep (piece ++ sep :: rest) = (piece, some rest) := by
  have other : ∀ c ∈ piece, (c != sep) = true := fun c member =>
    bne_iff_ne.mpr fun same => unmarked (same ▸ member)
  rw [cut, List.dropWhile_append_of_pos other, List.takeWhile_append_of_pos other]
  simp

theorem notMem_of_mem_pieces (member : piece ∈ pieces sep cs) : sep ∉ piece := by
  induction cs generalizing piece with
  | nil =>
      rw [List.mem_singleton.mp member]
      exact List.not_mem_nil
  | cons c rest ih =>
      rw [pieces] at member
      split at member
      · rcases List.mem_cons.mp member with same | member
        · rw [same]
          exact List.not_mem_nil
        · exact ih member
      · next differs =>
        split at member
        · next first more split_rest =>
          rw [split_rest] at ih
          rcases List.mem_cons.mp member with same | member
          · rw [same, List.mem_cons, not_or]
            exact ⟨Ne.symm differs, ih List.mem_cons_self⟩
          · exact ih (List.mem_cons_of_mem _ member)
        · rw [List.mem_singleton.mp member, List.mem_singleton]
          exact Ne.symm differs

theorem notMem_cut (sep : Char) (cs : List Char) : sep ∉ (cut sep cs).1 := by
  rw [cut]
  split
  · next absent =>
    intro member
    have other := List.dropWhile_eq_nil_iff.mp absent sep member
    simp at other
  · intro member
    have other := List.mem_takeWhile_imp member
    simp at other

theorem mem_of_mem_cut_fst {c : Char} (member : c ∈ (cut sep cs).1) : c ∈ cs := by
  rw [cut] at member
  split at member
  · exact member
  · exact (List.takeWhile_sublist _).subset member

theorem mem_of_mem_cut_snd {c : Char} (member : c ∈ (cut sep cs).2.getD []) : c ∈ cs := by
  rw [cut] at member
  split at member
  · cases member
  · next first rest found =>
    have inside : c ∈ cs.dropWhile (· != sep) := by
      rw [found]
      exact List.mem_cons_of_mem _ member
    exact (List.dropWhile_sublist _).subset inside

end Splitting

namespace Form

variable {safe : List Char}

/-- Characters that mean something in a query string, or in an escape. -/
def Reserved (c : Char) : Prop :=
  c = '%' ∨ c = '+' ∨ c = '&'

theorem unreserved_of_isUnreserved {c : Char} (unreserved : Percent.isUnreserved c = true) :
    ¬ Reserved c ∧ c ≠ '=' := by
  refine ⟨?_, ?_⟩
  · rintro (rfl | rfl | rfl) <;> contradiction
  · rintro rfl
    contradiction

theorem decodePart_of_plain {cs : List Char} (unescaped : '%' ∉ cs) (unspaced : '+' ∉ cs) :
    decodePart cs = String.ofList cs := by
  have spaceless : ∀ c ∈ cs, (if c = '+' then ' ' else c) = c := by
    intro c member
    refine if_neg ?_
    rintro rfl
    exact unspaced member
  rw [decodePart, List.map_congr_left spaceless, List.map_id', Percent.decodeChars_of_plain cs unescaped]

/-- A pair as it stands in a query string. -/
def writtenPair (safe : List Char) (pair : String × String) : List Char :=
  pair.1.toList ++ '=' :: (Percent.encode safe pair.2).toList

/-- A query string of pairs, with escapes in the values. -/
def written (safe : List Char) (pairs : List (String × String)) : String :=
  String.intercalate "&" (pairs.map fun (name, value) => name ++ "=" ++ Percent.encode safe value)

theorem toList_written (pairs : List (String × String)) :
    (written safe pairs).toList = join ['&'] (pairs.map (writtenPair safe)) := by
  rw [written, String.toList_intercalate, List.map_map, join]
  refine congrArg _ (List.map_congr_left fun pair _ => ?_)
  simp [writtenPair]

section Encoded

variable (harmless : ∀ c ∈ safe, ¬ Reserved c)
include harmless

theorem notMem_encode {c : Char} (separates : c = '+' ∨ c = '&') (s : String) :
    c ∉ (Percent.encode safe s).toList := by
  intro written
  have reserved : Reserved c := .inr separates
  obtain unreserved | called | escape := (Percent.encode_chars written).2
  · exact (unreserved_of_isUnreserved unreserved).1 reserved
  · exact harmless c called reserved
  · subst escape
    simp at separates

theorem decodePart_encode (s : String) : decodePart (Percent.encode safe s).toList = s := by
  have spaceless : ∀ c ∈ (Percent.encode safe s).toList, (if c = '+' then ' ' else c) = c := by
    intro c written
    refine if_neg ?_
    rintro rfl
    exact notMem_encode harmless (.inl rfl) s written
  rw [decodePart, List.map_congr_left spaceless, List.map_id',
    Percent.decodeChars_encode fun called => harmless _ called (.inl rfl), String.ofList_toList]

section Pair

variable {pair : String × String} (legible : ∀ c ∈ pair.1.toList, Percent.isUnreserved c = true)
include legible

theorem decodePair_writtenPair : decodePair (writtenPair safe pair) = pair := by
  have unmarked : '=' ∉ pair.1.toList := fun held => absurd (legible _ held) (by decide)
  have name : decodePart pair.1.toList = pair.1 := by
    have read := decodePart_encode harmless pair.1
    rwa [Percent.encode_of_unreserved safe legible] at read
  rw [decodePair, writtenPair, cut_append unmarked]
  exact Prod.ext name (decodePart_encode harmless pair.2)

theorem notMem_writtenPair : '&' ∉ writtenPair safe pair := by
  have name : '&' ∉ pair.1.toList := fun held => absurd (legible _ held) (by decide)
  simpa [writtenPair, name] using notMem_encode harmless (.inr rfl) pair.2

end Pair

/-- Pairs are read back from the query string that lists them. -/
theorem decode_written {pairs : List (String × String)}
    (legible : ∀ pair ∈ pairs, ∀ c ∈ pair.1.toList, Percent.isUnreserved c = true) :
    decode (written safe pairs) = pairs := by
  have unmarked : ∀ text ∈ pairs.map (writtenPair safe), '&' ∉ text :=
    List.forall_mem_map.mpr fun pair member => notMem_writtenPair harmless (legible pair member)
  have held : ∀ text ∈ pairs.map (writtenPair safe), (!text.isEmpty) = true :=
    List.forall_mem_map.mpr fun pair _ => by simp [writtenPair]
  have listed : (pieces '&' (join ['&'] (pairs.map (writtenPair safe)))).filter (!·.isEmpty) =
      pairs.map (writtenPair safe) := by
    by_cases given : pairs = []
    · rw [given]
      rfl
    · rw [pieces_join unmarked (mt List.map_eq_nil_iff.mp given), List.filter_eq_self.mpr held]
  have read : ∀ pair ∈ pairs, decodePair (writtenPair safe pair) = pair := fun pair member =>
    decodePair_writtenPair harmless (legible pair member)
  rw [decode, toList_written, listed, List.map_map]
  exact (List.map_congr_left read).trans (List.map_id' _)

end Encoded

end Form

end ObjectStore.Text
