import Mathlib.Data.List.Basic
import ObjectStore.Event.Multicaster
import ObjectStore.Proofs.Engine.Remarks

/-! Listeners that come and go leave the others as they were. As long as nobody is removed more often than
added, a removal finds one of those that were added since, and the first listeners stay in front of them. -/

namespace ObjectStore.Multicaster

variable {σ α ε : Type}

inductive Change (α : Type) where
  | added (listener : α)
  | removed (listener : α)

section Changes

variable [BEq α]

namespace Change

def adds (listener : α) : Change α → Bool
  | added other => other == listener
  | removed _ => false

def removes (listener : α) : Change α → Bool
  | added _ => false
  | removed other => other == listener

end Change

def apply (m : Multicaster α) : Change α → Multicaster α
  | .added listener => m.add listener
  | .removed listener => m.remove listener

def applyAll (m : Multicaster α) (changes : List (Change α)) : Multicaster α :=
  changes.foldl apply m

theorem applyAll_append (m : Multicaster α) (early late : List (Change α)) :
    m.applyAll (early ++ late) = (m.applyAll early).applyAll late :=
  List.foldl_append

/-- At no time was a listener removed more often than added, and in the end as often. -/
structure Balanced (changes : List (Change α)) : Prop where
  covered : ∀ listener early, early <+: changes →
    early.countP (Change.removes listener) ≤ early.countP (Change.adds listener)
  settled : ∀ listener, changes.countP (Change.removes listener) = changes.countP (Change.adds listener)

/-- How often a listener is still to be removed. -/
def due (listener : α) (pending : List α) : Nat :=
  pending.countP (· == listener)

variable [EquivBEq α]

/-- A listener that is still to be removed is found behind the first ones. -/
theorem remove_pending (first : List α) {pending : List α} {listener : α} (found : 0 < due listener pending) :
    ∃ rest, (ofList (first ++ pending)).remove listener = ofList (first ++ rest) ∧
      ∀ other, due other pending = due other rest + if listener == other then 1 else 0 := by
  obtain ⟨last, member, alike⟩ := List.countP_pos_iff.mp found
  have among : last ∈ pending.reverse := List.mem_reverse.mpr member
  obtain ⟨gone, late, early, -, same, split, erased⟩ := @List.exists_of_eraseP _ (· == listener) _ _ among alike
  have parts : pending = early.reverse ++ gone :: late.reverse := by
    rw [← List.reverse_reverse pending, split]
    simp
  refine ⟨early.reverse ++ late.reverse, ?_, fun other => ?_⟩
  · have removed : (first ++ pending).reverse.erase listener = late ++ early ++ first.reverse := by
      rw [List.reverse_append, List.erase_eq_eraseP', @List.eraseP_append_left _ _ last alike _ _ among,
        erased]
    rw [remove, ofList, removed]
    simp [ofList]
  · have congruent : (gone == other) = (listener == other) := BEq.congr_left same
    rw [parts, due, due, List.countP_append, List.countP_cons, List.countP_append, congruent]
    omega

theorem apply_pending (first pending : List α) (change : Change α)
    (covered : ∀ listener, [change].countP (Change.removes listener) ≤
      due listener pending + [change].countP (Change.adds listener)) :
    ∃ rest, (ofList (first ++ pending)).apply change = ofList (first ++ rest) ∧
      ∀ listener, due listener rest + [change].countP (Change.removes listener) =
        due listener pending + [change].countP (Change.adds listener) := by
  cases change with
  | added listener =>
      refine ⟨pending ++ [listener], by simp [apply, add, ofList], fun other => ?_⟩
      cases alike : listener == other <;> simp [due, Change.adds, Change.removes, alike]
  | removed listener =>
      have found : 0 < due listener pending := by
        simpa [Change.adds, Change.removes, Nat.one_le_iff_ne_zero, Nat.pos_iff_ne_zero] using covered listener
      obtain ⟨rest, removed, counted⟩ := remove_pending first found
      refine ⟨rest, removed, fun other => ?_⟩
      cases alike : listener == other <;> simp [counted other, Change.adds, Change.removes, alike]

/-- After changes that remove nobody more often than there are registrations to be removed, the first
listeners are followed by those that are still to be removed. -/
theorem applyAll_pending (first pending : List α) {changes : List (Change α)}
    (covered : ∀ listener early, early <+: changes → early.countP (Change.removes listener) ≤
      due listener pending + early.countP (Change.adds listener)) :
    ∃ rest, (ofList (first ++ pending)).applyAll changes = ofList (first ++ rest) ∧
      ∀ listener, due listener rest + changes.countP (Change.removes listener) =
        due listener pending + changes.countP (Change.adds listener) := by
  induction changes generalizing pending with
  | nil => exact ⟨pending, rfl, fun _ => rfl⟩
  | cons change changes ih =>
      have split (counts : Change α → Bool) (early : List (Change α)) :
          (change :: early).countP counts = [change].countP counts + early.countP counts := by
        rw [← List.singleton_append, List.countP_append]
      obtain ⟨between, applied, moved⟩ := apply_pending first pending change fun listener =>
        covered listener [change] (List.cons_prefix_cons.mpr ⟨rfl, List.nil_prefix⟩)
      have coveredLater : ∀ listener early, early <+: changes → early.countP (Change.removes listener) ≤
          due listener between + early.countP (Change.adds listener) := by
        intro listener early prefixed
        have whole := covered listener (change :: early) (List.cons_prefix_cons.mpr ⟨rfl, prefixed⟩)
        rw [split, split (Change.adds listener)] at whole
        have := moved listener
        omega
      obtain ⟨rest, appliedLater, counted⟩ := ih between coveredLater
      refine ⟨rest, ?_, fun listener => ?_⟩
      · rw [applyAll, List.foldl_cons, applied]
        exact appliedLater
      · rw [split, split (Change.adds listener)]
        have := moved listener
        have := counted listener
        omega

theorem applyAll_of_balanced {changes : List (Change α)} (balanced : Balanced changes) (m : Multicaster α) :
    m.applyAll changes = m := by
  have covered : ∀ listener early, early <+: changes → early.countP (Change.removes listener) ≤
      due listener [] + early.countP (Change.adds listener) := by
    intro listener early prefixed
    simpa [due] using balanced.covered listener early prefixed
  obtain ⟨rest, applied, counted⟩ := applyAll_pending m.listeners [] covered
  have nobody : rest = [] := by
    refine List.eq_nil_iff_forall_not_mem.mpr fun listener member => ?_
    have settled := counted listener
    rw [balanced.settled listener] at settled
    have none : due listener rest = 0 := by simpa [due] using settled
    exact absurd BEq.rfl (List.countP_eq_zero.mp none listener member)
  rw [nobody, List.append_nil] at applied
  exact applied

end Changes

section Calls

/-- Notes who is called, where the calls cannot reach it. -/
def noting (call : α → Act ε σ Unit) (listener : α) : Act ε (σ × List α) Unit := do
  Act.change fun (s, called) => (s, called ++ [listener])
  (call listener).on Prod.fst fun s noted => (s, noted.2)

/-- The calls are as they are without notes, and all listeners are called in their order unless one of
them fails, which is then the last. -/
theorem callAll_noting (call : α → Act ε σ Unit) (listeners : List α) (s : σ) (called : List α) :
    ∃ heard, callAll (noting call) listeners (s, called) =
        ((callAll call listeners s).1, (callAll call listeners s).2, called ++ heard) ∧
      ((callAll call listeners s).1 = .ok () → heard = listeners) ∧
      ∀ error, (callAll call listeners s).1 = .error error → heard ≠ [] ∧ heard <+: listeners := by
  induction listeners generalizing s called with
  | nil => exact ⟨[], by simp [callAll], fun _ => rfl, fun _ failed => by cases failed⟩
  | cons listener rest ih =>
      cases ended : call listener s with
      | mk result after =>
      have noted : noting call listener (s, called) = (result, after, called ++ [listener]) := by
        rw [noting, Act.bind_of_ok (Act.change_apply _ _), Act.on_apply, ended]
      cases result with
      | error error =>
          rw [callAll, callAll, Act.bind_of_error noted, Act.bind_of_error ended]
          refine ⟨[listener], rfl, fun done => (by cases done), fun _ _ => ⟨List.cons_ne_nil _ _, ?_⟩⟩
          exact List.cons_prefix_cons.mpr ⟨rfl, List.nil_prefix⟩
      | ok _ =>
          rw [callAll, callAll, Act.bind_of_ok noted, Act.bind_of_ok ended]
          obtain ⟨heard, calls, all, some⟩ := ih after (called ++ [listener])
          refine ⟨listener :: heard, ?_, fun done => by rw [all done], fun error failed => ?_⟩
          · rw [calls, List.append_assoc, List.singleton_append]
          · exact ⟨List.cons_ne_nil _ _, List.cons_prefix_cons.mpr ⟨rfl, (some error failed).2⟩⟩

end Calls

/-- A world with a multicaster that anybody may change, and the changes made so far. -/
structure Stage (σ α : Type) where
  world : σ
  multicaster : Multicaster α
  changes : List (Change α) := []

namespace Stage

/-- Adds a listener, unless none is given. -/
def add (listener : Option α) : Act Fault (Stage σ α) Unit := fun stage =>
  match stage.multicaster.add? listener with
  | .ok multicaster =>
    (.ok (), { stage with multicaster, changes := stage.changes ++ listener.toList.map .added })
  | .error fault => (.error fault, stage)

/-- Calls whoever is a listener now. -/
def fire (hears : α → Act ε (Stage σ α) Unit) : Act ε (Stage σ α) Unit := do
  (← Act.read).multicaster.fire hears

variable [BEq α]

def remove (listener : α) : Act ε (Stage σ α) Unit :=
  Act.change fun stage =>
    { stage with
      multicaster := stage.multicaster.remove listener
      changes := stage.changes ++ [.removed listener] }

/-- The listeners are what the changes make of them. Whoever only adds, removes and fires keeps to it. -/
def accounts : Frame (Stage σ α) where
  rel before after := ∃ changes, after.changes = before.changes ++ changes ∧
    after.multicaster = before.multicaster.applyAll changes
  refl stage := ⟨[], (List.append_nil _).symm, rfl⟩
  trans := by
    rintro first second third ⟨early, noted, applied⟩ ⟨late, notedToo, appliedToo⟩
    refine ⟨early ++ late, ?_, ?_⟩
    · rw [notedToo, noted, List.append_assoc]
    · rw [appliedToo, applied, applyAll_append]

theorem add_accounts (listener : Option α) : (add listener : Act Fault (Stage σ α) Unit).Keeps accounts := by
  cases listener with
  | none => exact accounts.refl
  | some listener => exact fun _ => ⟨[.added listener], rfl, rfl⟩

theorem remove_accounts (listener : α) : (remove listener : Act ε (Stage σ α) Unit).Keeps accounts :=
  .change fun _ => ⟨[.removed listener], rfl, rfl⟩

theorem fire_accounts {hears : α → Act ε (Stage σ α) Unit} (accounted : ∀ listener, (hears listener).Keeps accounts) :
    (fire hears).Keeps accounts :=
  .bind .read fun _ => callAll_keeps fun listener _ => accounted listener

end Stage

/-- Whoever adds and removes listeners in a balanced way, also by firing at listeners that do, leaves them
as they were, with their order and as often as they were there. Who is called is settled when firing
begins: all who are listeners then, in their order, up to the first that fails. -/
theorem balanced_changes_restore [BEq α] [EquivBEq α] {hears : α → Act ε (Stage σ α) Unit}
    (accounted : ∀ listener, (hears listener).Keeps Stage.accounts) :
    (Stage.fire hears).Keeps Stage.accounts ∧
    (∀ (β : Type) (doing : Act ε (Stage σ α) β), doing.Keeps Stage.accounts → ∀ stage changes,
      (doing stage).2.changes = stage.changes ++ changes → Balanced changes →
      (doing stage).2.multicaster = stage.multicaster) ∧
    ∀ stage, ∃ heard, stage.multicaster.fire (noting hears) (stage, []) =
        ((Stage.fire hears stage).1, (Stage.fire hears stage).2, heard) ∧
      ((Stage.fire hears stage).1 = .ok () → heard = stage.multicaster.listeners) ∧
      ∀ error, (Stage.fire hears stage).1 = .error error →
        heard ≠ [] ∧ heard <+: stage.multicaster.listeners := by
  refine ⟨Stage.fire_accounts accounted, fun _ doing accountedToo stage changes made balanced => ?_,
    fun stage => callAll_noting hears stage.multicaster.listeners stage []⟩
  obtain ⟨noted, appended, applied⟩ := accountedToo stage
  obtain rfl := List.append_cancel_left (appended.symm.trans made)
  rw [applied, applyAll_of_balanced balanced]

namespace Visit

/-! One of the listeners brings in a guest who is there already, and another sees the guest off. -/

def hears : String → Act Fault (Stage Unit String) Unit
  | "host" => Stage.add (some "guest")
  | "usher" => Stage.remove "guest"
  | _ => pure ()

theorem accounted (listener : String) : (hears listener).Keeps Stage.accounts := by
  unfold hears
  split
  · exact Stage.add_accounts _
  · exact Stage.remove_accounts _
  · exact .pure ()

def opened : Stage Unit String :=
  ⟨(), ofList ["host", "guest", "usher"], []⟩

theorem balanced : Balanced [Change.added "guest", Change.removed "guest"] where
  covered listener early prefixed := by
    simp only [List.prefix_cons_iff, List.prefix_nil] at prefixed
    rcases prefixed with rfl | ⟨_, rfl, rfl | ⟨_, rfl, rfl⟩⟩ <;> simp [Change.adds, Change.removes, List.countP_cons]
  settled listener := by simp [Change.adds, Change.removes, List.countP_cons]

theorem guest_leaves_again : (∀ listener, (hears listener).Keeps Stage.accounts) ∧
    Balanced [Change.added "guest", Change.removed "guest"] ∧
    (Stage.fire hears opened).2.changes = [.added "guest", .removed "guest"] ∧
    (Stage.fire hears opened).2.multicaster = opened.multicaster ∧
    ∃ heard, opened.multicaster.fire (noting hears) (opened, []) =
        ((Stage.fire hears opened).1, (Stage.fire hears opened).2, heard) ∧ heard = ["host", "guest", "usher"] := by
  obtain ⟨firing, restores, calls⟩ := balanced_changes_restore accounted
  obtain ⟨heard, noted, all, _⟩ := calls opened
  exact ⟨accounted, balanced, rfl, restores _ _ firing opened _ rfl balanced, heard, noted, all rfl⟩

end Visit

end ObjectStore.Multicaster
