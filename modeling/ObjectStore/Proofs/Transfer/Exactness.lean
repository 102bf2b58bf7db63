import ObjectStore.Proofs.Transfer.Resumption

/-! Downloads of a resource that does not change. Whatever interrupts the attempts, the pieces written
are a beginning of the wanted part, without loss and without repetition, and all of it once the
operation has an answer. -/

namespace ObjectStore.Download

open Request (asked rangeValue)

variable {σ τ ω : Type}

/-- The content between two positions, of which both are included. -/
def slice (content : List UInt8) (first : Nat) : Option Nat → List UInt8
  | none => content.drop first
  | some last => (content.take (last + 1)).drop first

theorem drop_slice (content : List UInt8) (first count : Nat) (last : Option Nat) :
    (slice content first last).drop count = slice content (first + count) last := by
  cases last <;> simp [slice]

/-- The wanted part of a resource. -/
def part (download : Download) (content : List UInt8) : List UInt8 :=
  slice content download.first download.final?

/-- A response announces the length of some content, and brings a beginning of it in any pieces. -/
structure Delivers (content : List UInt8) (response : Response) : Prop where
  announced : response.contentLength = .ok (.int content.length)
  begins : (piecesOf response).flatten <+: content

/-- What a service that holds a resource makes of a request: a range that starts within the resource
and is not inverted is answered with its content, no range with all content, and whatever else with
a refusal. It may refuse anything for other reasons. -/
def Answers (content : List UInt8) (range : List Value) (response : Response) : Prop :=
  200 ≤ response.status → response.status < 300 →
    (range = [] → response.status = 200 ∧ Delivers content response) ∧
    ∀ first last, range = [rangeValue first last] → response.status = 206 ∧ first < content.length ∧
      (∀ final, last = some final → first ≤ final) ∧ Delivers (slice content first last) response

theorem accepted_bounds {status : Int} (accepted : isAccepted status = true) :
    200 ≤ status ∧ status < 300 := by
  simp only [isAccepted, Bool.or_eq_true, beq_iff_eq] at accepted
  omega

variable {download : Download} {content : List UInt8} {before written : List (List UInt8)}
  {response : Response}

/-- What an attempt is given continues what was written before. -/
theorem Answers.delivers (valid : download.Valid)
    (answers : Answers content (download.rangeAfter before.flatten.length) response)
    (accepted : isAccepted response.status = true) :
    Delivers ((download.part content).drop before.flatten.length) response := by
  obtain ⟨least, most⟩ := accepted_bounds accepted
  obtain ⟨whole, ranged⟩ := answers least most
  rw [part, drop_slice]
  by_cases unstarted : download.start = none ∧ before.flatten.length = 0
  · rw [rangeAfter, if_pos unstarted] at whole
    have endless : download.final? = none := by
      cases ends : download.last with
      | none => simp [final?, ends]
      | some last =>
          obtain ⟨start, begins, _⟩ := valid.last last ends
          rw [unstarted.1] at begins
          contradiction
    have sliced : slice content (download.first + before.flatten.length) download.final? = content := by
      rw [endless, unstarted.2, first, unstarted.1]
      rfl
    rw [sliced]
    exact (whole rfl).2
  · rw [rangeAfter, if_neg unstarted] at ranged
    exact (ranged _ _ rfl).2.2.2

theorem append_begins_of_drop {early late whole : List α} (begins : early <+: whole)
    (goesOn : late <+: whole.drop early.length) : early ++ late <+: whole := by
  obtain ⟨rest, rfl⟩ := begins
  rw [List.drop_left] at goesOn
  exact (List.prefix_append_right_inj early).mpr goesOn

theorem flatten_begins {early whole : List (List α)} (begins : early <+: whole) :
    early.flatten <+: whole.flatten := by
  obtain ⟨rest, rfl⟩ := begins
  rw [List.flatten_append]
  exact List.prefix_append _ _

/-- Being a beginning of the wanted part is upheld by every attempt. -/
theorem upheld_begins (valid : download.Valid) (content : List UInt8) :
    download.Upheld (Answers content) fun written => written.flatten <+: download.part content where
  start := List.nil_prefix
  grow before written begins source := by
    rcases source with rfl | ⟨response, answers, accepted, from_pieces⟩
    · rwa [List.append_nil]
    · rw [List.flatten_append]
      refine append_begins_of_drop begins ((flatten_begins from_pieces).trans ?_)
      exact (answers.delivers valid accepted).begins

/-- As many bytes as were announced are all that was left. -/
theorem Complete.flatten_eq (valid : download.Valid)
    (complete : Complete (Answers content) (download.rangeAfter before.flatten.length) written) :
    written.flatten = (download.part content).drop before.flatten.length := by
  obtain ⟨response, answers, accepted, rfl, announced, read, long⟩ := complete
  have delivers := answers.delivers valid accepted
  rw [delivers.announced] at read
  cases read
  refine delivers.begins.eq_of_length ?_
  simp only [Value.int, checkLength] at long
  split at long
  · omega
  · contradiction

section Operation

variable [Seconds τ] {write : List UInt8 → Act Fault ω Unit} (sink : Sink write) {engine : Engine σ τ}
  {operation : Operation σ τ ω} (policy : Option (Policy σ τ)) {handlers : Handlers σ}
  {options : Options τ (Policy σ τ)} {endpoints : Option Endpoints} {run : Run σ τ ω}

/-- A download of a resource that does not change, after so many attempts: at every moment the bytes
written were a beginning of the wanted part, with an answer they are all of it, and the next attempt
sends one request at most, for what is missing. -/
theorem execute_writes_part (made : download.operation write options endpoints = .ok operation)
    (honest : engine.Honest handlers true (Answers content)) (unranged : Plan.Unranged run.context)
    (attempts : Nat) :
    ∃ written, sink.taken (engine.execute operation policy handlers attempts run).2.work =
        sink.taken run.work ++ written ∧
      (∀ moment, moment <+: written → moment.flatten <+: download.part content) ∧
      (∀ answer, (engine.execute operation policy handlers attempts run).1 = .ok (some answer) →
        written.flatten = download.part content) ∧
      ((engine.execute operation policy handlers (attempts + 1) run).2.requests =
          (engine.execute operation policy handlers attempts run).2.requests ∨
        ∃ outgoing, (engine.execute operation policy handlers (attempts + 1) run).2.requests =
            (engine.execute operation policy handlers attempts run).2.requests ++ [outgoing] ∧
          asked outgoing.headers = download.rangeAfter written.flatten.length) := by
  have valid := valid_of_operation made
  obtain ⟨written, taken, begins, complete, _, gains⟩ :=
    execute_gains sink policy made honest (upheld_begins valid content) unranged attempts
  refine ⟨written, taken, fun moment early => (flatten_begins early).trans begins, ?_, gains.requests⟩
  intro answer answered
  obtain ⟨early, late, rfl, earlyBegins, whole⟩ := complete answer answered
  rw [List.flatten_append, whole.flatten_eq valid]
  obtain ⟨rest, eq⟩ := earlyBegins
  rw [← eq, List.drop_left]

end Operation

namespace Halved

/-! A service that holds four bytes and loses the connection after two of them. -/

def answer (range : List Value) : Reply :=
  match range with
  | [] => .plain 200 "4" [1, 2] (some .lost)
  | [.text "bytes=2-"] => .plain 206 "2" [3, 4] none
  | _ => .plain 416 "0" [] none

theorem answer_answers {range : List Value} {response : Response}
    (read : Connection.response (answer range) true = .ok response) :
    Answers [1, 2, 3, 4] range response := by
  unfold answer at read
  split at read
  · cases read
    exact fun _ _ => ⟨fun _ => ⟨rfl, rfl, [3, 4], rfl⟩, nofun⟩
  · cases read
    refine fun _ _ => ⟨nofun, fun first last asked => ?_⟩
    have same : rangeValue first last = rangeValue 2 none := (List.cons.inj asked).1.symm
    obtain ⟨rfl, rfl⟩ := Request.rangeValue_inj same
    exact ⟨rfl, by decide, nofun, rfl, [], rfl⟩
  · cases read
    exact fun _ impossible => absurd impossible (by decide)

def engine : Engine Unit Number :=
  .ranged answer

def whole : Download := { path := "a" }

def operation : Operation Unit Number (List (List UInt8)) :=
  (whole.operation keep {} none).toOption.get rfl

def begun : Run Unit Number (List (List UInt8)) :=
  .plain

/-- The second attempt asks for the other half, and together they are all of the content. -/
theorem whole_in_two_attempts :
    ∃ answer, (engine.execute operation none {} 2 begun).1 = .ok (some answer) ∧
      (engine.execute operation none {} 2 begun).2.work.flatten = whole.part [1, 2, 3, 4] := by
  have honest : engine.Honest {} true (Answers [1, 2, 3, 4]) :=
    Engine.honest_ranged fun _ _ => answer_answers
  have made : whole.operation keep {} none = .ok operation := rfl
  have unranged : Plan.Unranged begun.context := nofun
  obtain ⟨written, taken, _, complete, _⟩ := execute_writes_part kept none made honest unranged 2
  have given : Answer.isGiven (engine.execute operation none {} 2 begun).1 = true := by
    decide +kernel
  obtain ⟨answer, answered⟩ := Answer.given_of_isGiven given
  have nothing : begun.work = [] := rfl
  have pieces : (engine.execute operation none {} 2 begun).2.work = written := by
    simpa only [kept, nothing, List.nil_append] using taken
  rw [← complete answer answered, ← pieces]
  exact ⟨answer, answered, rfl⟩

end Halved

end ObjectStore.Download
