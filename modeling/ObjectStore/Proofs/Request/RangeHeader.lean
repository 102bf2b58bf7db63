import Mathlib.Data.List.Basic
import ObjectStore.Proofs.Request.Completion
import ObjectStore.Request.Range

/-! The range that a request asks for. Names of headers are the same in any case, so every value
counts that stands under such a name; the steps that complete a request add none. -/

namespace ObjectStore

/-- The values whose names are `name` in lower case. -/
def Fields.under (name : String) (fields : Fields α) : List α :=
  (fields.entries.filter fun entry => Text.lowerCase entry.1 == name).map Prod.snd

theorem Fields.under_set_of_ne {name other : String} (differs : Text.lowerCase other ≠ name) (value : α)
    (fields : Fields α) : (fields.set other value).under name = fields.under name := by
  have unseen : (Text.lowerCase other == name) = false := by simpa using differs
  simp only [under, set]
  induction fields.entries with
  | nil => simp [assign, unseen]
  | cons entry rest ih =>
      rw [assign]
      split
      · next same => simp [same, unseen]
      · simp only [List.filter_cons]
        split
        · rw [List.map_cons, List.map_cons, ih]
        · exact ih

theorem Fields.under_setAll_of_ne {name : String} {entries : List (String × α)}
    (differ : ∀ entry ∈ entries, Text.lowerCase entry.1 ≠ name) (fields : Fields α) :
    (fields.setAll entries).under name = fields.under name := by
  induction entries generalizing fields with
  | nil => rfl
  | cons entry rest ih =>
      rw [setAll, List.foldl_cons]
      rw [← setAll, ih fun other member => differ other (List.mem_cons_of_mem _ member)]
      exact under_set_of_ne (differ entry List.mem_cons_self) entry.2 fields

/-- The entries of some fields stand under other names. -/
def Fields.Avoids (name : String) (fields : Fields α) : Prop :=
  ∀ entry ∈ fields.entries, Text.lowerCase entry.1 ≠ name

theorem Fields.under_eq_nil {name : String} {fields : Fields α} :
    fields.under name = [] ↔ fields.Avoids name := by
  simp only [under, Avoids, List.map_eq_nil_iff, List.filter_eq_nil_iff, beq_iff_eq, ne_eq]

theorem Fields.under_set_of_fresh {name other : String} {fields : Fields α}
    (fresh : fields.under name = []) (same : Text.lowerCase other = name) (value : α) :
    (fields.set other value).under name = [value] := by
  have avoids := under_eq_nil.mp fresh
  simp only [under, set, Avoids] at avoids ⊢
  clear fresh
  revert avoids
  induction fields.entries with
  | nil => simp [assign, same]
  | cons entry rest ih =>
      intro avoids
      have differs := avoids entry List.mem_cons_self
      have apart : entry.1 ≠ other := fun equal => differs (equal ▸ same)
      rw [assign, if_neg apart, List.filter_cons_of_neg (by simpa using differs)]
      exact ih fun entry member => avoids entry (List.mem_cons_of_mem _ member)

namespace Request

/-- What is said about the wanted range: nothing, or one value, unless headers that differ in case
name several. -/
def asked (headers : Fields Value) : List Value :=
  headers.under "x-ms-range"

def sameRange : Frame Request :=
  .same fun request => asked request.headers

/-- What stands under a name stays. -/
def sameUnder (name : String) : Frame Request :=
  .same fun request => request.headers.under name

section Under

variable {name other : String}

theorem set_sameUnder (differs : Text.lowerCase other ≠ name) (value : Value) (request : Request) :
    (sameUnder name).rel request (request.setHeader other value) :=
  Fields.under_set_of_ne differs value request.headers

theorem unconcerned_under (foreign : ∀ other ∈ completing, Text.lowerCase other ≠ name) :
    Unconcerned (sameUnder name) where
  header other completes value request := set_sameUnder (foreign other completes) value request
  address _ _ _ := rfl

theorem addHeaders_keeps {headers : Option (Fields Value)}
    (avoids : ∀ fields, headers = some fields → fields.Avoids name) :
    (addHeaders headers).Keeps (sameUnder name) := by
  refine .change fun request => ?_
  cases headers with
  | none => rfl
  | some fields => exact Fields.under_setAll_of_ne (avoids fields rfl) request.headers

end Under

section Frames

variable {frame : Frame Request}

theorem addGiven_keeps {name : String} (sets : ∀ value request, frame.rel request (request.setHeader name value))
    (value : Value) (write : Value → Except Fault Value) : (addGiven name value write).Keeps frame := by
  unfold addGiven
  split
  · exact .bind (.ofExcept _) fun written => .change (sets written)
  · exact .pure ()

theorem addRange_keeps {rules : RangeRules}
    (range : ∀ value request, frame.rel request (request.setHeader rules.header value))
    (digest : ∀ value request, frame.rel request (request.setHeader "x-ms-range-get-content-md5" value))
    (start last : Value) : (addRange rules start last).Keeps frame := by
  have checked : ∀ (c : Bool) (x : Except Fault Unit) {rest : Act Fault Request Unit}, rest.Keeps frame →
      (if c then Act.ofExcept x >>= fun _ => rest else rest).Keeps frame := by
    intro c x rest kept
    split
    · exact .bind (.ofExcept x) fun _ => kept
    · exact kept
  have digested : (do
      Act.ofExcept (requireDigestRange start last)
      Act.change (·.setHeader "x-ms-range-get-content-md5" (.text "true")) : Act Fault Request Unit).Keeps
      frame :=
    .bind (.ofExcept _) fun _ => .change (digest _)
  refine checked _ _ (checked _ _ ?_)
  split
  · split
    · exact .bind (.change (range _)) fun _ => digested
    · exact digested
  · split
    · exact .bind (.change (range _)) fun _ => .pure ()
    · exact .pure ()

end Frames

/-- A request without a range asks for the range that is added, if it can be added. -/
theorem addRange_asked {rules : RangeRules} (header : rules.header = "x-ms-range") {start : Value}
    (given : start.isNull = false) (last : Value) {request : Request}
    (fresh : asked request.headers = []) :
    (addRange rules start last).Ends request
      (fun _ after => asked after.headers = [.text (rangeText start last)]) fun _ _ => True := by
  have set : asked (request.setHeader rules.header (.text (rangeText start last))).headers =
      [.text (rangeText start last)] :=
    Fields.under_set_of_fresh fresh (by rw [header]; decide) _
  have digest : ∀ request : Request, asked (request.setHeader "x-ms-range-get-content-md5"
      (.text "true")).headers = asked request.headers :=
    set_sameUnder (by decide) _
  simp only [addRange, given]
  refine Act.ends_checked (fun _ _ => trivial) (Act.ends_checked (fun _ _ => trivial) ?_)
  simp only [Bool.not_false, if_true]
  refine Act.ends_bind.mpr ((Act.ends_change _).mpr ?_)
  split
  · refine Act.ends_bind.mpr (Act.ends_ofExcept (fun _ _ => ?_) fun _ _ => trivial)
    exact (digest _).trans set
  · exact set

/-- The value that asks for a range: both ends are included, and none stands for the end of the
resource. -/
def rangeValue (first : Nat) (last : Option Nat) : Value :=
  .text (rangeText (.int first) (Value.ofOption (fun n : Nat => .int n) last))

theorem toList_toText (n : Nat) : (Value.int n).toText.toList = Nat.toDigits 10 n :=
  Nat.toList_repr

theorem dash_notMem_toDigits (n : Nat) : '-' ∉ Nat.toDigits 10 n :=
  fun member => absurd (Nat.isDigit_of_mem_toDigits (by decide) (by decide) member) (by decide)

theorem toDigits_inj {n m : Nat} (same : Nat.toDigits 10 n = Nat.toDigits 10 m) : n = m := by
  rw [← @Nat.ofDigitChars_ten_toDigits n, same, Nat.ofDigitChars_ten_toDigits]

/-- The digits of the last position. -/
def lastDigits : Option Nat → List Char
  | none => []
  | some n => Nat.toDigits 10 n

theorem lastDigits_inj {n m : Option Nat} (same : lastDigits n = lastDigits m) : n = m := by
  cases n with
  | none =>
      cases m with
      | none => rfl
      | some m => exact absurd same.symm Nat.toDigits_ne_nil
  | some n =>
      cases m with
      | none => exact absurd same Nat.toDigits_ne_nil
      | some m => exact congrArg some (toDigits_inj same)

theorem dash_notMem_lastDigits (n : Option Nat) : '-' ∉ lastDigits n := by
  cases n with
  | none => simp [lastDigits]
  | some n => exact dash_notMem_toDigits n

theorem toList_rangeText (first : Nat) (last : Option Nat) :
    (rangeText (.int first) (Value.ofOption (fun n : Nat => .int n) last)).toList =
      "bytes=".toList ++ (Nat.toDigits 10 first ++ '-' :: lastDigits last) := by
  cases last with
  | none =>
      simp only [rangeText, Value.ofOption, Value.isNull, String.toList_append, toList_toText,
        lastDigits, if_true, List.append_assoc]
      rfl
  | some last =>
      simp only [rangeText, Value.ofOption, Value.int, Value.isNull, Bool.false_eq_true, if_false,
        String.toList_append, List.append_assoc]
      rw [← Value.int, ← Value.int, toList_toText, toList_toText]
      rfl

theorem rangeValue_inj {first first' : Nat} {last last' : Option Nat}
    (same : rangeValue first last = rangeValue first' last') : first = first' ∧ last = last' := by
  have texts := congrArg String.toList (Value.text.inj same)
  rw [toList_rangeText, toList_rangeText, List.append_cancel_left_eq,
    List.append_cons_inj_of_notMem (dash_notMem_toDigits _) (dash_notMem_lastDigits _)] at texts
  exact ⟨toDigits_inj texts.1, lastDigits_inj texts.2.2⟩

end Request

end ObjectStore
