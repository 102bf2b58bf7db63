import ObjectStore.Proofs.Request.RangeHeader
import ObjectStore.Transfer.Download

/-! Where a download stands between two attempts. The state is determined by how many bytes have been
written, and so is the range that the next attempt asks for. -/

namespace ObjectStore.Download

open Request (asked rangeValue)

variable {σ τ ω : Type} (download : Download)

/-- Positions are not negative, and a last one comes with a first one that is not beyond it. -/
structure Valid : Prop where
  start : ∀ start, download.start = some start → 0 ≤ start
  last : ∀ last, download.last = some last → ∃ start, download.start = some start ∧ start ≤ last

variable {download}

theorem valid_of_validate (validated : download.validate = .ok ()) : download.Valid := by
  have notNegative : ∀ start, download.start = some start → 0 ≤ start := by
    intro start given
    simp only [validate, given, Value.ofOption, Value.int, Value.requireNotNegative, Value.number?,
      bind, Except.bind] at validated
    split at validated
    · contradiction
    · next accepted =>
      split at accepted
      · contradiction
      · next order =>
        simp only [Number.lt, Number.compare?] at order
        by_contra negative
        have below : compare start 0 = .lt := Int.compare_eq_lt.mpr (by omega)
        simp [below] at order
  refine ⟨notNegative, fun last given => ?_⟩
  simp only [validate, given, bind, Except.bind] at validated
  split at validated
  · contradiction
  · split at validated
    · contradiction
    · next start begins =>
      split at validated
      · contradiction
      · exact ⟨start, begins, by omega⟩

section Operation

variable {write : List UInt8 → Act Fault ω Unit} {options : Options τ (Policy σ τ)}
  {endpoints : Option Endpoints} {operation : Operation σ τ ω}
  (made : download.operation write options endpoints = .ok operation)
include made

theorem validate_of_operation : download.validate = .ok () := by
  simp only [Download.operation, bind, Except.bind] at made
  split at made
  · contradiction
  · assumption

theorem valid_of_operation : download.Valid :=
  valid_of_validate (validate_of_operation made)

/-- Where the ranges come with digests, that of the whole resource is not checked. -/
theorem unchecked_of_operation (digested : download.rangeDigest = true) :
    download.checksWhole = false := by
  have validated := validate_of_operation made
  cases last : download.last with
  | none =>
      simp only [validate, last, digested, bind, Except.bind] at validated
      split at validated <;> contradiction
  | some last' =>
      obtain ⟨start, begins, _⟩ := (valid_of_operation made).last last' last
      simp [checksWhole, begins]

end Operation

/-- The position of the first wanted byte. -/
def first (download : Download) : Nat :=
  (download.start.getD 0).toNat

/-- The position of the last wanted byte, if it is not the end of the resource. -/
def final? (download : Download) : Option Nat :=
  download.last.map Int.toNat

/-- What is asked for when so many bytes have been written: all that follows, and for a whole resource
of which nothing was written yet no range at all. -/
def rangeAfter (download : Download) (written : Nat) : List Value :=
  if download.start = none ∧ written = 0 then []
  else [rangeValue (download.first + written) download.final?]

/-- The state between two attempts when so many bytes have been written. -/
structure Standing (download : Download) (written : Nat) (state : AttemptState) : Prop where
  received : state.received = 0
  offset : state.offset = if download.start = none ∧ written = 0 then none
    else some ((download.first + written : Nat) : Int)
  length : state.length =
    download.last.map fun last : Int => last - (download.first + written : Nat) + 1

theorem Valid.first_eq (valid : download.Valid) {start : Int} (given : download.start = some start) :
    (download.first : Int) = start := by
  have := valid.start start given
  simp only [first, given, Option.getD_some]
  omega

theorem Valid.length?_eq (valid : download.Valid) :
    download.length? = download.last.map fun last => last - (download.first : Int) + 1 := by
  cases ends : download.last with
  | none => cases begins : download.start <;> simp [length?, begins, ends]
  | some last =>
      obtain ⟨start, begins, _⟩ := valid.last last ends
      simp [length?, begins, ends, valid.first_eq begins]

theorem Valid.standing_start (valid : download.Valid) {state : AttemptState}
    (received : state.received = 0) (offset : state.offset = download.start)
    (length : state.length = download.length?) : download.Standing 0 state := by
  refine ⟨received, ?_, ?_⟩
  · rw [offset]
    cases begins : download.start with
    | none => simp
    | some start => simp [valid.first_eq begins]
  · rw [length, valid.length?_eq]
    simp

/-- The next attempt asks for exactly what has not been written. -/
theorem Valid.request_asks (valid : download.Valid) {written : Nat} {state : AttemptState}
    (standing : download.Standing written state) {request : Request}
    (built : download.request state = .ok request) :
    asked request.headers = download.rangeAfter written := by
  -- a whole download asks for no range until something has been written
  by_cases whole : download.start = none ∧ written = 0
  · simp only [Download.request, standing.offset, if_pos whole] at built
    cases built
    rw [rangeAfter, if_pos whole]
    rfl
  · have last : Value.ofOption .int (state.length.map fun length =>
        ((download.first + written : Nat) : Int) + length - 1) =
        Value.ofOption (fun n : Nat => .int n) download.final? := by
      rw [standing.length, final?]
      cases ends : download.last with
      | none => rfl
      | some last =>
          obtain ⟨start, begins, inOrder⟩ := valid.last last ends
          have := valid.start start begins
          simp only [Option.map_some, Value.ofOption]
          congr 1
          omega
    simp only [Download.request, standing.offset, if_neg whole, last] at built
    split at built
    · next ranged =>
      cases built
      rw [rangeAfter, if_neg whole]
      exact (Act.ends_of_ok ranged).mp (Request.addRange_asked rfl rfl _ rfl)
    · contradiction

/-- After an attempt that wrote more, the download stands that much further on. -/
theorem Standing.resume {written more : Nat} {before after : AttemptState}
    (standing : download.Standing written before) (offset : after.offset = before.offset)
    (length : after.length = before.length) (received : after.received = more) :
    download.Standing (written + more) (resume after).nextAttempt := by
  unfold Download.resume
  split
  · next none =>
    obtain rfl : more = 0 := by omega
    exact ⟨rfl, by simpa [AttemptState.nextAttempt, offset] using standing.offset,
      by simpa [AttemptState.nextAttempt, length] using standing.length⟩
  · next some =>
    refine ⟨rfl, ?_, ?_⟩
    · simp only [AttemptState.nextAttempt, offset, standing.offset, received]
      rw [if_neg (c := download.start = none ∧ written + more = 0) (by omega)]
      split
      · next whole => simp [first, whole.1, whole.2]
      · simp only [Option.getD_some]
        congr 1
        omega
    · simp only [AttemptState.nextAttempt, length, standing.length, received, Option.map_map]
      congr 1
      funext last
      simp only [Function.comp_apply]
      omega

end ObjectStore.Download
