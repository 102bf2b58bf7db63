import ObjectStore.Proofs.Engine.Plain
import ObjectStore.Proofs.Transfer.Holding

/-! Downloads whose ranges come with digests. Only the attempt that gives the answer has the digest of its
response compared; what attempts before it have written stays in the stream, and nothing covers it. -/

namespace ObjectStore

variable {σ τ ω : Type} {write : List UInt8 → Act Fault ω Unit}

namespace Download

variable {sink : Sink write} {download : Download} {response : Response}

/-- The body of a response was written to its end and is as long as was announced, so that it comes to the
comparison of its digest, which is the one that the response names. -/
structure Verified (response : Response) (written : List (List UInt8)) : Prop where
  whole : Whole response written written.flatten.length
  unbroken : (response.pieces pieceSize).2.1 = none
  digest : response.contentMd5 = .text (Value.md5Text written.flatten)

/-- No digest runs over the attempts, and the one that begins has not received anything. -/
structure Unchecked (state : AttemptState) : Prop where
  received : state.received = 0
  digested : state.digested = none

theorem Unchecked.accepts {state judged : AttemptState} (unchecked : Unchecked state)
    (never : download.checksWhole = false) (accepts : download.Accepts response state judged) :
    Unchecked judged := by
  cases accepts with
  | later _ => exact unchecked
  | first _ _ => exact ⟨unchecked.received, by simp [pin, never, unchecked.digested]⟩

theorem Unchecked.onward {state : AttemptState} (digested : state.digested = none) (location : Location) :
    Unchecked (onward state location) := by
  rw [Download.onward, resume_eq]
  exact ⟨rfl, digested⟩

theorem contentMd5_pieces (response : Response) (size : Int) :
    (response.pieces size).2.2.contentMd5 = response.contentMd5 := by
  unfold Response.pieces
  repeat' split
  all_goals rfl

/-- An accepted response is finished exactly if its body is verified. -/
theorem finish_verifies (sink : Sink write) (digested : download.rangeDigest = true)
    {receipt : Receipt σ ω} (unchecked : Unchecked receipt.state) :
    (download.finish write : Handling σ ω Product).Ends receipt
      (fun _ after => ∃ written, Appended sink.effect written receipt.ledger after.ledger ∧
        Verified receipt.response written)
      (fun _ after => ∃ written, Appended sink.effect written receipt.ledger after.ledger ∧
        ¬ Verified receipt.response written) := by
  unfold finish
  refine Act.ends_bind.mpr (Act.ends_read.mpr ?_)
  refine Act.ends_bind.mpr (Act.ends_ofExcept (fun announced read => ?_) fun fault unread => ?_)
  · refine Act.ends_bind.mpr (takePieces_ends.mpr ?_)
    refine Act.ends_bind.mpr ((writeAll_ends sink.effect (piecesOf receipt.response) _).mono ?_ ?_)
    · rintro _ after ⟨appended, same⟩
      have counted : after.state.received = (piecesOf receipt.response).flatten.length := by
        have total : after.ledger.2.received = _ := appended.wrote.received
        simpa [Receipt.ledger, unchecked.received] using total
      have unchanged : after.state.digested = none := by
        have state : after.state = _ := appended.state
        rw [state]
        simp [Receipt.ledger, AttemptState.having, unchecked.digested]
      have fails (lacks : ¬ Verified receipt.response (piecesOf receipt.response)) :
          ∃ written, Appended sink.effect written receipt.ledger after.ledger ∧
            ¬ Verified receipt.response written := ⟨_, appended, lacks⟩
      dsimp only
      cases unbroken : (receipt.response.pieces pieceSize).2.1 with
      | some fault => exact fails fun verified => by simp [verified.unbroken] at unbroken
      | none =>
        refine Act.ends_bind.mpr (Act.ends_read.mpr ?_)
        -- Without a running digest the check of the whole passes, and only two checks are left that can fail.
        rw [counted, if_pos digested, same, contentMd5_pieces, checkWhole, unchanged]
        refine Act.ends_bind.mpr (Act.ends_ofExcept (fun _ long => ?_) fun _ short => ?_)
        · refine Act.ends_bind.mpr (Act.ends_ofExcept (fun _ equal => ?_) fun _ other => ?_)
          · exact ⟨_, appended, ⟨rfl, announced, read, long⟩, unbroken, checkDigest_eq_ok.mp equal⟩
          · refine fails fun verified => ?_
            cases other.symm.trans (checkDigest_eq_ok.mpr verified.digest)
        · refine fails fun verified => ?_
          obtain ⟨_, _, known, long⟩ := verified.whole
          cases read.symm.trans known
          cases short.symm.trans long
    · rintro _ after ⟨written, _, short, appended⟩
      exact ⟨written, appended, fun verified => short verified.whole.1⟩
  · refine ⟨[], .none sink.effect _, fun verified => ?_⟩
    obtain ⟨_, _, known, _⟩ := verified.whole
    cases unread.symm.trans known

/-- Nothing more is known of a dealt response than what was written of it, and it is a success exactly if
that is verified. -/
theorem Dealt.verifies {plan : Plan σ τ ω} {before after : ω × AttemptState} {outcome : Outcome}
    {accepted : Option Response} (sink : Sink write) (digested : download.rangeDigest = true)
    (never : download.checksWhole = false) (unchecked : Unchecked before.2)
    (dealt : Dealt plan download write before outcome accepted after) :
    ∃ written, Wrote sink written before after ∧ after.2.digested = none ∧
      ((∃ product, outcome = .success product) ↔
        ∃ response, accepted = some response ∧ Verified response written) := by
  cases dealt with
  | refused failed =>
      refine ⟨[], .none sink _, unchecked.digested, ?_, nofun⟩
      rintro ⟨product, success⟩
      exact absurd success (failed product)
  | @finished response judged result last _ accepts work current finished =>
      have still := unchecked.accepts never accepts
      have began : Wrote sink [] before judged.ledger := accepts.wrote work
      have grown {written} (appended : Appended sink.effect written judged.ledger last.ledger) :
          Wrote sink written before last.ledger ∧ last.ledger.2.digested = none := by
        refine ⟨began.trans appended.wrote, ?_⟩
        rw [appended.state]
        simp [Sending.ledger, AttemptState.having, still.digested]
      have finishes : (plan.handle response (download.finish write)).Ends judged
          (fun _ after => ∃ written, Appended sink.effect written judged.ledger after.ledger ∧
            Verified response written)
          (fun _ after => ∃ written, Appended sink.effect written judged.ledger after.ledger ∧
            ¬ Verified response written) := by
        refine plan.handle_ends ((finish_verifies sink digested still).mono ?_ ?_)
        all_goals
          rintro _ receipt ⟨written, appended, verdict⟩
          exact ⟨written, by rw [plan.handled_ledger]; exact appended, verdict⟩
      rw [plan.handleCurrent_eq current] at finished
      cases result with
      | ok product =>
          obtain ⟨written, appended, verified⟩ := (Act.ends_of_ok finished).mp finishes
          obtain ⟨wrote, unbegun⟩ := grown appended
          exact ⟨written, wrote, unbegun, fun _ => ⟨response, rfl, verified⟩, fun _ => ⟨_, rfl⟩⟩
      | error fault =>
          obtain ⟨written, appended, unverified⟩ := (Act.ends_of_error finished).mp finishes
          obtain ⟨wrote, unbegun⟩ := grown appended
          refine ⟨written, wrote, unbegun, ?_, ?_⟩
          · rintro ⟨product, success⟩
            exact absurd success (fault_fails product)
          · rintro ⟨_, ⟨⟩, verified⟩
            exact absurd verified unverified

end Download

namespace Trip

open Download

/-- What an attempt has written to a stream. -/
def written (sink : Sink write) (trip : Trip σ τ ω) : List (List UInt8) :=
  (sink.taken trip.landed.work).drop (sink.taken trip.run.work).length

/-- The attempt has written the body of a response, which is verified. -/
def Verified (sink : Sink write) (trip : Trip σ τ ω) : Prop :=
  ∃ response, trip.accepted = some response ∧ Download.Verified response (trip.written sink)

/-- What an attempt has received is what it has written, and it is a success exactly if that is verified. -/
structure Settles (sink : Sink write) (trip : Trip σ τ ω) : Prop where
  taken : sink.taken trip.landed.work = sink.taken trip.run.work ++ trip.written sink
  received : trip.met.state.received = (trip.written sink).flatten.length
  succeeds : (∃ product, trip.met.outcome = .success product) ↔ trip.Verified sink

theorem Settles.received_eq_zero_iff {sink : Sink write} {trip : Trip σ τ ω} (settles : trip.Settles sink) :
    trip.met.state.received = 0 ↔ (trip.written sink).flatten = [] := by
  rw [settles.received, Int.natCast_eq_zero, List.length_eq_zero_iff]

end Trip

namespace Download

section Course

variable [Seconds τ] {sink : Sink write} {download : Download} {plan : Plan σ τ ω}
  (serves : plan.Serves download write) (digested : download.rangeDigest = true)
  (never : download.checksWhole = false) {progress : Progress} {run last : Run σ τ ω}
  {trip : Trip σ τ ω} {trips : List (Trip σ τ ω)} {result : Except Failure (Option Answer)}
include serves digested never

theorem settles_of_departs (sink : Sink write) (departs : plan.Departs progress run trip)
    (unchecked : Unchecked progress.state) : trip.Settles sink ∧ trip.met.state.digested = none := by
  have fresh : Unchecked trip.state := departs.state ▸ unchecked
  obtain ⟨written, wrote, unbegun, succeeds⟩ :=
    (dealt_of_departs serves departs).verifies sink digested never fresh
  have same : trip.written sink = written := by
    rw [Trip.written, wrote.taken, List.drop_left]
  refine ⟨⟨by rw [same]; exact wrote.taken, ?_, by rw [Trip.Verified, same]; exact succeeds⟩, unbegun⟩
  rw [same, wrote.received, fresh.received, Int.zero_add]

/-- All that is written is written by the attempts, one after another. -/
theorem course_settles (sink : Sink write) (course : plan.Course progress run trips result last)
    (unchecked : Unchecked progress.state) :
    (∀ trip ∈ trips, trip.Settles sink) ∧
      sink.taken last.work = sink.taken run.work ++ trips.flatMap (·.written sink) := by
  have onBoard : ∀ {progress : Progress} {run : Run σ τ ω} {trip}, plan.Departs progress run trip →
      trip.Settles sink → sink.taken trip.landed.work = sink.taken run.work ++ trip.written sink := by
    intro progress run trip departs settles
    rw [settles.taken, (Run.still_iff.mp (still_of_departs serves departs)).1]
  -- Each attempt begins unchecked: what the one before has received is counted into its range, not into it.
  induction course with
  | spent => exact ⟨List.forall_mem_nil _, (List.append_nil _).symm⟩
  | @unready progress run failure after refused =>
      refine ⟨List.forall_mem_nil _, ?_⟩
      rw [(Run.still_iff.mp ((depart_still serves progress).of_error refused)).1]
      exact (List.append_nil _).symm
  | unregistered departs refused =>
      obtain ⟨settles, _⟩ := settles_of_departs serves digested never sink departs unchecked
      refine ⟨List.forall_mem_singleton.mpr settles, ?_⟩
      rw [(stops_of_unregistered refused).work, onBoard departs settles, List.flatMap_singleton]
  | ended departs registered ends stopped =>
      obtain ⟨settles, _⟩ := settles_of_departs serves digested never sink departs unchecked
      refine ⟨List.forall_mem_singleton.mpr settles, ?_⟩
      rw [(stops_of_ended serves registered ends stopped).work, onBoard departs settles,
        List.flatMap_singleton]
  | again departs registered goesOn rest ih =>
      obtain ⟨settles, unbegun⟩ := settles_of_departs serves digested never sink departs unchecked
      obtain ⟨work, location, _, next⟩ := onward_of_again serves registered goesOn
      obtain ⟨others, taken⟩ := ih (next ▸ Unchecked.onward unbegun location)
      refine ⟨List.forall_mem_cons.mpr ⟨settles, others⟩, ?_⟩
      rw [taken, work, onBoard departs settles, List.flatMap_cons, List.append_assoc]

end Course

section Operation

variable [Seconds τ] (sink : Sink write) {engine : Engine σ τ} {operation : Operation σ τ ω}
  {download : Download} (policy : Option (Policy σ τ)) {handlers : Handlers σ}
  {options : Options τ (Policy σ τ)} {endpoints : Option Endpoints} {run : Run σ τ ω}

/-- Every byte that an operation has written was written by an attempt that is verified. -/
structure Covered (engine : Engine σ τ) (operation : Operation σ τ ω) (policy : Option (Policy σ τ))
    (handlers : Handlers σ) (turns : Nat) (run : Run σ τ ω) : Prop where
  taken : sink.taken (engine.execute operation policy handlers turns run).2.work =
    sink.taken run.work ++ (engine.trips operation policy handlers turns run).flatMap (·.written sink)
  verified : ∀ trip ∈ engine.trips operation policy handlers turns run,
    (trip.written sink).flatten ≠ [] → trip.Verified sink

/-- An answer comes of a verified attempt, and everything that was written is covered by a digest if and
only if no attempt before that one has received anything. -/
theorem execute_covers_iff (made : download.operation write options endpoints = .ok operation)
    (digested : download.rangeDigest = true) (turns : Nat) {answer : Answer}
    (answered : (engine.execute operation policy handlers turns run).1 = .ok (some answer)) :
    (∃ trip, (engine.trips operation policy handlers turns run).getLast? = some trip ∧ trip.Verified sink) ∧
      (Covered sink engine operation policy handlers turns run ↔
        ∀ trip ∈ (engine.trips operation policy handlers turns run).dropLast,
          trip.met.state.received = 0) := by
  cases planned : engine.planFor operation policy handlers run with
  | error fault =>
      rw [Engine.execute_of_refusal planned] at answered
      cases answered
  | ok settled =>
  obtain ⟨plan, start⟩ := settled
  have course := Engine.course_of_plan planned turns
  obtain ⟨rfl, rfl, rfl, mode, location, _, rfl⟩ := Engine.planFor_eq planned
  have serves := Plan.serves_of_operation made
  have never := unchecked_of_operation made digested
  obtain ⟨settles, taken⟩ := course_settles serves digested never sink course
    ⟨by rw [serves.start], by rw [serves.start]⟩
  obtain ⟨final, product, isLast, success⟩ := course.succeeded answered
  obtain ⟨earlier, split⟩ := List.getLast?_eq_some_iff.mp isLast
  have failed := course.failed
  rw [split] at settles failed ⊢
  rw [List.dropLast_concat] at failed ⊢
  have verified := (settles final List.mem_concat_self).succeeds.mp ⟨product, success⟩
  refine ⟨⟨final, List.getLast?_concat, verified⟩, fun covered trip before => ?_, fun nothing => ⟨taken, ?_⟩⟩
  · have one := settles trip (List.mem_append_left _ before)
    refine one.received_eq_zero_iff.mpr ?_
    by_contra wrote
    have member := List.mem_append_left [final] before
    rw [← split] at member
    obtain ⟨product, succeeded⟩ := one.succeeds.mpr (covered.verified trip member wrote)
    have fault := failed trip before
    rw [succeeded] at fault
    contradiction
  · intro trip member wrote
    rw [split] at member
    rcases List.mem_append.mp member with before | last
    · exact absurd ((settles trip member).received_eq_zero_iff.mp (nothing trip before)) wrote
    · exact List.mem_singleton.mp last ▸ verified

end Operation

namespace Torn

/-! Four bytes with a digest, which the first attempt does not bring in full. -/

def four : Download := { path := "a", start := some 0, last := some 3, rangeDigest := true }

def operation : Operation Nat Number (List (List UInt8)) :=
  (four.operation keep {} none).toOption.get rfl

def begun : Run Nat Number (List (List UInt8)) :=
  .plain

def execute (replies : Nat → Reply) (turns : Nat) :
    Except Failure (Option Answer) × Run Nat Number (List (List UInt8)) :=
  (Engine.answering replies).execute operation (some .twice) {} turns begun

def trips (replies : Nat → Reply) (turns : Nat) : List (Trip Nat Number (List (List UInt8))) :=
  (Engine.answering replies).trips operation (some .twice) {} turns begun

def Covered (replies : Nat → Reply) (turns : Nat) : Prop :=
  Download.Covered kept (Engine.answering replies) operation (some .twice) {} turns begun

theorem made : four.operation keep {} none = .ok operation := rfl

def digested (reply : Reply) (digest : String) : Reply :=
  { reply with headers := reply.headers.set "Content-MD5" (.text digest) }

/-- The service is busy, and then it brings all of the bytes. -/
def late : Nat → Reply
  | 0 => .plain 503 "0" [] none
  | _ => digested (.plain 206 "4" [1, 2, 3, 4] none) "CNbAWiFRKnmh3+udKo8mLw=="

/-- The digest of the second response covers all that was written. -/
theorem late_covered : ∃ answer, (execute late 2).1 = .ok (some answer) ∧ four.rangeDigest = true ∧
    (trips late 2).length = 2 ∧ (execute late 2).2.work = [[1, 2, 3, 4]] ∧ Covered late 2 := by
  have given : Answer.isGiven (execute late 2).1 = true := by decide +kernel
  have received : ((trips late 2).dropLast.all fun trip => trip.met.state.received == 0) = true := by
    decide +kernel
  obtain ⟨answer, answered⟩ := Answer.given_of_isGiven given
  obtain ⟨_, covers⟩ := execute_covers_iff kept (some .twice) made rfl 2 answered
  refine ⟨answer, answered, rfl, by decide +kernel, by decide +kernel, covers.mpr fun trip before => ?_⟩
  exact eq_of_beq (List.all_eq_true.mp received trip before)

/-- Two bytes come that are not those of the object, and then the connection is lost. The second attempt
brings the other two, with their own digest. -/
def torn : Nat → Reply
  | 0 => digested (.plain 206 "4" [9, 9] (some .lost)) "CNbAWiFRKnmh3+udKo8mLw=="
  | _ => digested (.plain 206 "2" [3, 4] none) "xYzqfvbonKOflAHtsS0kHQ=="

/-- There is an answer, and nothing was compared with the digest of the first response. -/
theorem torn_uncovered : ∃ answer, (execute torn 2).1 = .ok (some answer) ∧ four.rangeDigest = true ∧
    (execute torn 2).2.work = [[9, 9], [3, 4]] ∧ ¬ Covered torn 2 := by
  have given : Answer.isGiven (execute torn 2).1 = true := by decide +kernel
  have received : ((trips torn 2).dropLast.all fun trip => trip.met.state.received == 0) = false := by
    decide +kernel
  obtain ⟨answer, answered⟩ := Answer.given_of_isGiven given
  refine ⟨answer, answered, rfl, by decide +kernel, fun covered => ?_⟩
  obtain ⟨trip, before, wrote⟩ := List.all_eq_false.mp received
  obtain ⟨_, covers⟩ := execute_covers_iff kept (some .twice) made rfl 2 answered
  exact wrote (beq_iff_eq.mpr (covers.mp covered trip before))

end Torn

end Download

end ObjectStore
