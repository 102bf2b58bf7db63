import ObjectStore.Proofs.Transfer.Resumption

/-! Downloads of a part with two ends. An attempt asks for what is missing, up to the last wanted byte;
the range is proper as long as something is missing. -/

namespace ObjectStore.Download

open Request (asked rangeValue)

variable {σ τ ω : Type} {start last : Nat}

/-- An accepted response brings as many bytes as were asked for at most. -/
def Modest (range : List Value) (response : Response) : Prop :=
  ∀ first last, range = [rangeValue first (some last)] → isAccepted response.status = true →
    (piecesOf response).flatten.length ≤ last + 1 - first

/-- A range that is not inverted, begins with the wanted part or after it, and ends with it. -/
def Proper (start last : Nat) (range : List Value) : Prop :=
  ∃ first final, range = [rangeValue first (some final)] ∧ start ≤ first ∧ first ≤ final ∧ final = last

theorem proper_iff {first : Nat} (begins : start ≤ first) :
    Proper start last [rangeValue first (some last)] ↔ first ≤ last := by
  constructor
  · rintro ⟨first', final, same, _, inOrder, rfl⟩
    obtain ⟨rfl, _⟩ := Request.rangeValue_inj (List.cons.inj same).1
    exact inOrder
  · exact fun inOrder => ⟨first, last, rfl, begins, inOrder, rfl⟩

section Operation

variable {download : Download} (from_start : download.start = some (start : Int))
  (to_last : download.last = some (last : Int))
include from_start to_last

theorem rangeAfter_eq (written : Nat) :
    download.rangeAfter written = [rangeValue (start + written) (some last)] := by
  simp [rangeAfter, first, final?, from_start, to_last]

/-- No more than the wanted bytes are ever written. -/
theorem upheld_modest (inOrder : start ≤ last) :
    download.Upheld Modest fun written => written.flatten.length ≤ last + 1 - start where
  start := Nat.zero_le _
  grow before written bound source := by
    rcases source with rfl | ⟨response, modest, accepted, begins⟩
    · rwa [List.append_nil]
    · have most := modest _ _ (rangeAfter_eq from_start to_last _) accepted
      obtain ⟨rest, eq⟩ := begins
      rw [← eq, List.flatten_append, List.length_append] at most
      rw [List.flatten_append, List.length_append]
      omega

variable [Seconds τ] {write : List UInt8 → Act Fault ω Unit} (sink : Sink write) {engine : Engine σ τ}
  {operation : Operation σ τ ω} (policy : Option (Policy σ τ)) {handlers : Handlers σ}
  {options : Options τ (Policy σ τ)} {endpoints : Option Endpoints} {run : Run σ τ ω}

/-- After so many attempts at most the wanted bytes were written, and if the next attempt sends a
request, it asks from the first missing byte to the last wanted one. -/
theorem execute_asks_missing (made : download.operation write options endpoints = .ok operation)
    (honest : engine.Honest handlers true Modest) (unranged : Plan.Unranged run.context)
    (attempts : Nat) :
    ∃ written, sink.taken (engine.execute operation policy handlers attempts run).2.work =
        sink.taken run.work ++ written ∧ written.flatten.length ≤ last + 1 - start ∧
      ((engine.execute operation policy handlers (attempts + 1) run).2.requests =
          (engine.execute operation policy handlers attempts run).2.requests ∨
        ∃ outgoing, (engine.execute operation policy handlers (attempts + 1) run).2.requests =
            (engine.execute operation policy handlers attempts run).2.requests ++ [outgoing] ∧
          asked outgoing.headers = [rangeValue (start + written.flatten.length) (some last)]) := by
  have inOrder : start ≤ last := by
    obtain ⟨start', begins, inOrder⟩ := (valid_of_operation made).last last to_last
    rw [from_start] at begins
    cases begins
    omega
  obtain ⟨written, taken, bound, _, _, gains⟩ :=
    execute_gains sink policy made honest (upheld_modest from_start to_last inOrder) unranged attempts
  refine ⟨written, taken, bound, ?_⟩
  rw [← rangeAfter_eq from_start to_last]
  exact gains.requests

omit from_start to_last in
/-- How many bytes an operation has written after so many attempts. -/
def bytesAfter (sink : Sink write) (engine : Engine σ τ) (operation : Operation σ τ ω)
    (policy : Option (Policy σ τ)) (handlers : Handlers σ) (run : Run σ τ ω) (attempts : Nat) : Nat :=
  ((sink.taken (engine.execute operation policy handlers attempts run).2.work).drop
    (sink.taken run.work).length).flatten.length

/-- The ranges asked for are proper exactly as long as no attempt is made when all wanted bytes have
been written: an attempt that fails after its last byte is followed by an inverted range. -/
theorem execute_ranges_proper_iff (made : download.operation write options endpoints = .ok operation)
    (honest : engine.Honest handlers true Modest) (unranged : Plan.Unranged run.context)
    (attempts : Nat) :
    (∀ outgoing ∈ (engine.execute operation policy handlers attempts run).2.requests.drop
        run.requests.length, Proper start last (asked outgoing.headers)) ↔
      ∀ earlier < attempts,
        (engine.execute operation policy handlers (earlier + 1) run).2.requests ≠
          (engine.execute operation policy handlers earlier run).2.requests →
        bytesAfter sink engine operation policy handlers run earlier < last + 1 - start := by
  suffices sent : ∃ sent, (engine.execute operation policy handlers attempts run).2.requests =
      run.requests ++ sent ∧ ((∀ outgoing ∈ sent, Proper start last (asked outgoing.headers)) ↔
        ∀ earlier < attempts,
          (engine.execute operation policy handlers (earlier + 1) run).2.requests ≠
            (engine.execute operation policy handlers earlier run).2.requests →
          bytesAfter sink engine operation policy handlers run earlier < last + 1 - start) by
    obtain ⟨sent, requests, iff⟩ := sent
    rwa [requests, List.drop_left]
  -- another attempt adds at most one request on the left and its condition on the right
  induction attempts with
  | zero =>
      refine ⟨[], ?_, by simp⟩
      rw [Engine.execute_zero, List.append_nil]
      rfl
  | succ attempts ih =>
      obtain ⟨sent, requests, iff⟩ := ih
      obtain ⟨written, taken, bound, step⟩ :=
        execute_asks_missing from_start to_last sink policy made honest unranged attempts
      have bytes : bytesAfter sink engine operation policy handlers run attempts =
          written.flatten.length := by
        rw [bytesAfter, taken, List.drop_left]
      rcases step with none | ⟨outgoing, one, asks⟩
      · refine ⟨sent, none.trans requests, iff.trans ?_⟩
        rw [Nat.forall_lt_succ_right]
        exact ⟨fun early => ⟨early, fun sends => absurd none sends⟩, And.left⟩
      · refine ⟨sent ++ [outgoing], by rw [one, requests, List.append_assoc], ?_⟩
        have sends : (engine.execute operation policy handlers (attempts + 1) run).2.requests ≠
            (engine.execute operation policy handlers attempts run).2.requests := by
          rw [one]
          simp
        rw [Nat.forall_lt_succ_right, List.forall_mem_append, List.forall_mem_singleton, iff, asks,
          proper_iff (Nat.le_add_right _ _), bytes]
        refine and_congr_right fun _ => ⟨fun inOrder _ => by omega, fun missing => ?_⟩
        have := missing sends
        omega

end Operation

namespace Interrupted

/-! A service of four bytes that loses the connection once, after some or all of them. -/

def answer (delivered : List UInt8) (range : List Value) : Reply :=
  match range with
  | [.text "bytes=0-3"] => .plain 206 "4" delivered (some .lost)
  | [.text "bytes=2-3"] => .plain 206 "2" [3, 4] none
  | _ => .plain 416 "0" [] none

theorem answer_modest {delivered : List UInt8} (few : delivered.length ≤ 4) {range : List Value}
    {response : Response} (read : Connection.response (answer delivered range) true = .ok response) :
    Modest range response := by
  unfold answer at read
  split at read
  · cases read
    intro first last asked _
    have same : rangeValue first (some last) = rangeValue 0 (some 3) := (List.cons.inj asked).1.symm
    obtain ⟨rfl, ⟨⟩⟩ := Request.rangeValue_inj same
    show ([delivered].filter (!·.isEmpty)).flatten.length ≤ 3 + 1 - 0
    rw [List.flatten_filter_not_isEmpty]
    simpa using few
  · cases read
    intro first last asked _
    have same : rangeValue first (some last) = rangeValue 2 (some 3) := (List.cons.inj asked).1.symm
    obtain ⟨rfl, ⟨⟩⟩ := Request.rangeValue_inj same
    decide
  · cases read
    exact fun _ _ _ impossible => absurd impossible (by decide)

def engine (delivered : List UInt8) : Engine Unit Number :=
  .ranged (answer delivered)

def four : Download := { path := "a", start := some 0, last := some 3 }

def operation : Operation Unit Number (List (List UInt8)) :=
  (four.operation keep {} none).toOption.get rfl

def begun : Run Unit Number (List (List UInt8)) :=
  .plain

theorem honest {delivered : List UInt8} (few : delivered.length ≤ 4) :
    (engine delivered).Honest {} true Modest :=
  Engine.honest_ranged fun _ _ => answer_modest few

/-- The ranges that were asked for. -/
def ranges (delivered : List UInt8) (turns : Nat) : List (List String) :=
  ((engine delivered).execute operation none {} turns begun).2.requests.map fun outgoing =>
    (asked outgoing.headers).map Value.toText

/-- Half of the bytes come, and the second attempt asks for the other half. -/
theorem resumed_range_proper : ranges [1, 2] 2 = [["bytes=0-3"], ["bytes=2-3"]] ∧
    (engine [1, 2]).Honest {} true Modest ∧
    ∀ outgoing ∈ ((engine [1, 2]).execute operation none {} 2 begun).2.requests.drop begun.requests.length,
      Proper 0 3 (asked outgoing.headers) := by
  have few : [1, 2].length ≤ 4 := by decide
  have begins : four.start = some ((0 : Nat) : Int) := rfl
  have ends : four.last = some ((3 : Nat) : Int) := rfl
  have made : four.operation keep {} none = .ok operation := rfl
  have unranged : Plan.Unranged begun.context := nofun
  refine ⟨by decide +kernel, honest few, ?_⟩
  refine (execute_ranges_proper_iff begins ends kept none made (honest few) unranged 2).mpr ?_
  have missing : ∀ earlier < 2,
      bytesAfter kept (engine [1, 2]) operation none {} begun earlier < 4 := by decide +kernel
  exact fun earlier early _ => missing earlier early

/-- The service brings no more than it was asked for, and yet the second range is inverted, since all
bytes have been written. -/
theorem second_range_inverted : (engine [1, 2, 3, 4]).Honest {} true Modest ∧
    ¬ ∀ outgoing ∈ ((engine [1, 2, 3, 4]).execute operation none {} 2 begun).2.requests.drop
      begun.requests.length, Proper 0 3 (asked outgoing.headers) := by
  refine ⟨honest (by decide), fun proper => ?_⟩
  have texts : ranges [1, 2, 3, 4] 2 = [["bytes=0-3"], ["bytes=4-3"]] := by decide +kernel
  have second : ["bytes=4-3"] ∈ ranges [1, 2, 3, 4] 2 := by
    rw [texts]
    simp
  obtain ⟨outgoing, sent, text⟩ := List.mem_map.mp second
  obtain ⟨first, final, asks, _, inOrder, rfl⟩ := proper outgoing sent
  rw [asks] at text
  have same : rangeValue first (some 3) = rangeValue 4 (some 3) :=
    congrArg Value.text (List.cons.inj text).1
  obtain ⟨rfl, _⟩ := Request.rangeValue_inj same
  omega

end Interrupted

end ObjectStore.Download
