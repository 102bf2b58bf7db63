import ObjectStore.Proofs.Engine.Course
import ObjectStore.Proofs.Transfer.Resumption

/-! What a download makes of each of its trips. As long as no response is accepted, nothing is written
and the state stays as it is. From the first acceptance on, the state holds on to what that response
told and to all that was written since. -/

namespace ObjectStore

variable {σ τ ω : Type}

namespace Plan

variable (plan : Plan σ τ ω)

/-- Until a response is judged, the work and the state of the attempt stay as they are. -/
theorem meet_keeps (timeout : Timeout τ) : (plan.meet timeout).Keeps (.same Sending.ledger) := by
  have network : ∀ request, (onRun (plan.transmit request timeout)).Keeps (.same Sending.ledger) :=
    fun request => .on (plan.transmit_work request timeout) fun sending _ work => Prod.ext work rfl
  have greets : plan.greet.Keeps (.same Sending.ledger) :=
    (plan.greet_keeps (plan.bounded_any _)).weaken fun _ _ kept => Prod.ext kept.1.1.work kept.2
  have said : ∀ line, (plan.say line : Act Fault (Run σ τ ω) Unit).Keeps (Run.aside (.any σ)) :=
    plan.say_keeps
  refine .bind .read fun sending => .bind (network _) fun response => ?_
  refine .bind (.change fun _ => rfl) fun _ => .bind greets fun _ => .bind .read fun greeted => ?_
  split
  · exact .on (said _) fun sending _ aside => Prod.ext aside.work rfl
  · exact .pure ()

end Plan

namespace Download

variable {write : List UInt8 → Act Fault ω Unit} {effect : Effect write} {download : Download}
  {plan : Plan σ τ ω}

/-- What comes of a response, given what an attempt started from: nothing at all, or it was accepted
and a part of it was written. A success passed the check of the whole. -/
inductive Outturn (effect : Effect write) (download : Download) (before : ω × AttemptState) :
    Outcome → Option Response → ω × AttemptState → Prop where
  | refused {outcome} : (∀ product, outcome ≠ .success product) →
      Outturn effect download before outcome none before
  | accepted {outcome response judged written after} : isAccepted response.status = true →
      download.Accepts response before.2 judged → Appended effect written (before.1, judged) after →
      (∀ product, outcome = .success product →
        product = .value after.2.properties ∧ checkWhole after.2 = .ok ()) →
      Outturn effect download before outcome (some response) after

/-- How a response is dealt with: nothing comes of it, or it is accepted and finished. -/
inductive Dealt (plan : Plan σ τ ω) (download : Download) (write : List UInt8 → Act Fault ω Unit)
    (before : ω × AttemptState) : Outcome → Option Response → ω × AttemptState → Prop where
  | refused {outcome} : (∀ product, outcome ≠ .success product) →
      Dealt plan download write before outcome none before
  | finished {response judged result after} : isAccepted response.status = true →
      download.Accepts response before.2 judged.state → judged.run.work = before.1 →
      judged.exchange.response = some response →
      plan.handleCurrent (download.finish write) judged = (result, after) →
      Dealt plan download write before (.ofResult (result.map .success)) (some response) after.ledger

theorem fault_fails {fault : Fault} (product : Product) : Outcome.ofResult (.error fault) ≠ .success product := by
  intro impossible
  cases impossible

theorem finish_current (plan : Plan σ τ ω) (download : Download) (effect : Effect write) (sending : Sending σ τ ω) :
    (plan.handleCurrent (download.finish write)).Ends sending
      (fun product after => ∃ written, Appended effect written sending.ledger after.ledger ∧
        product = .value after.state.properties ∧ checkWhole after.state = .ok ())
      (fun _ after => ∃ written, Appended effect written sending.ledger after.ledger) := by
  refine plan.handleCurrent_ends (fun _ => ⟨[], .none effect _⟩) fun response _ => ?_
  refine (finish_ends effect download _).mono ?_ ?_
  · rintro product receipt ⟨written, appended, _, whole, value⟩
    exact ⟨written, by rw [plan.handled_ledger]; exact appended, value, whole⟩
  · rintro _ receipt ⟨written, _, appended⟩
    exact ⟨written, by rw [plan.handled_ledger]; exact appended⟩

theorem Dealt.outturn {before after : ω × AttemptState} {outcome : Outcome} {accepted : Option Response}
    (effect : Effect write) (dealt : Dealt plan download write before outcome accepted after) :
    Outturn effect download before outcome accepted after := by
  cases dealt with
  | refused failed => exact .refused failed
  | @finished _ judged result last status accepts work _ finished =>
      have finishes := finish_current plan download effect judged
      rw [show judged.ledger = (before.1, judged.state) from Prod.ext work rfl] at finishes
      cases result with
      | error fault =>
          obtain ⟨written, appended⟩ := (Act.ends_of_error finished).mp finishes
          exact .accepted status accepts appended fun product success => absurd success (fault_fails product)
      | ok value =>
          obtain ⟨written, appended, settles⟩ := (Act.ends_of_ok finished).mp finishes
          refine .accepted status accepts appended fun product success => ?_
          cases success
          exact settles

section Deal

variable (serves : plan.Serves download write)
include serves

theorem judge_current (sending : Sending σ τ ω) :
    (plan.handleCurrent plan.operation.judge).Ends sending
      (fun outcome after => ∃ response receipt, sending.exchange.response = some response ∧
        download.Judged ⟨⟨sending.run.world, sending.run.work, []⟩, sending.state, response⟩ outcome
          receipt ∧ after = plan.handled sending receipt)
      (fun _ after => after.ledger = sending.ledger) := by
  rw [serves.judge]
  refine plan.handleCurrent_ends (fun _ => rfl) fun response current => ?_
  refine (judge_ends download _).mono ?_ fun _ receipt same => ?_
  · exact fun outcome receipt judged => ⟨response, receipt, current, judged, rfl⟩
  · rw [plan.handled_ledger, same]
    rfl

theorem deal_dealt (sending : Sending σ τ ω) :
    Dealt plan download write sending.ledger (.ofResult (plan.deal sending).1) (plan.accepted? sending)
      (plan.deal sending).2.ledger := by
  have judges := judge_current serves sending
  rw [Plan.deal, Plan.accepted?]
  cases current : plan.handleCurrent plan.operation.judge sending with
  | mk result after =>
  cases result with
  | error fault =>
      have same := (Act.ends_of_error current).mp judges
      rw [Act.bind_of_error current, same]
      exact .refused fault_fails
  | ok outcome =>
  obtain ⟨response, receipt, arrived, judged, rfl⟩ := (Act.ends_of_ok current).mp judges
  have held := plan.handled_ledger sending receipt
  rw [Act.bind_of_ok current]
  cases judged with
  | @accepted product _ status unchanged bench accepts =>
      have work : (plan.handled sending receipt).run.work = sending.run.work :=
        (congrArg Prod.fst held).trans (congrArg Bench.work bench)
      have shown : (plan.handled sending receipt).exchange.response = some response :=
        congrArg some unchanged
      have accepted : download.Accepts response sending.ledger.2 (plan.handled sending receipt).state := accepts
      dsimp only
      rw [arrived, serves.finish]
      cases finished : plan.handleCurrent (download.finish write) (plan.handled sending receipt) with
      | mk result last =>
      have dealt := Dealt.finished status accepted work shown finished
      cases result with
      | error fault => rwa [Act.bind_of_error finished]
      | ok product => rwa [Act.bind_of_ok finished]
  | refused other same =>
      rw [show receipt.ledger = sending.ledger from same] at held
      cases outcome with
      | success product => exact absurd rfl (other product)
      | retryable fault => exact held ▸ .refused other
      | fatal fault => exact held ▸ .refused other

variable [Seconds τ] {progress : Progress} {run : Run σ τ ω} {trip : Trip σ τ ω}

/-- How the response of a trip is dealt with. -/
theorem dealt_of_departs (departs : plan.Departs progress run trip) :
    Dealt plan download write (trip.run.work, trip.state) trip.met.outcome trip.accepted
      (trip.landed.work, trip.met.state) := by
  obtain ⟨prepared, request, timeout, announced, _, rfl⟩ := departs
  have kept := (plan.meet_keeps timeout).ends ⟨announced, progress.state, ⟨request, none⟩⟩
  simp only [Plan.trip, Plan.exchanged, plan.exchange_eq]
  cases met : plan.meet timeout ⟨announced, progress.state, ⟨request, none⟩⟩ with
  | mk result sending =>
  cases result with
  | error fault =>
      have same : sending.ledger = (announced.work, progress.state) := (Act.ends_of_error met).mp kept
      rw [Act.bind_of_error met, show (sending.run.work, sending.state) = _ from same]
      exact .refused fault_fails
  | ok _ =>
      have same : sending.ledger = (announced.work, progress.state) := (Act.ends_of_ok met).mp kept
      rw [Act.bind_of_ok met, ← same]
      exact deal_dealt serves sending

/-- What a trip comes to. -/
theorem outturn_of_departs (effect : Effect write) (departs : plan.Departs progress run trip) :
    Outturn effect download (trip.run.work, trip.state) trip.met.outcome trip.accepted
      (trip.landed.work, trip.met.state) :=
  (dealt_of_departs serves departs).outturn effect

end Deal

end Download

end ObjectStore
