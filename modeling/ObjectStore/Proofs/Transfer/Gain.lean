import ObjectStore.Proofs.Act.Ending
import ObjectStore.Transfer.Download

/-! What a download gains from one response. Judging writes nothing; the content of an accepted
response is written piece by piece and counted, up to the first piece that cannot be written. -/

namespace ObjectStore

/-- What a step that deals with a response works on, and the state of the attempt. -/
def Receipt.ledger (receipt : Receipt σ ω) : ω × AttemptState :=
  (receipt.bench.work, receipt.state)

/-- The state once more content was written: it is counted, and digested where a digest runs. -/
def AttemptState.having (state : AttemptState) (content : List UInt8) : AttemptState :=
  { state with
    received := state.received + (content.length : Int)
    digested := state.digested.map (· ++ content) }

@[simp] theorem AttemptState.having_nil (state : AttemptState) : state.having [] = state := by
  simp [having]

theorem AttemptState.having_append (state : AttemptState) (early late : List UInt8) :
    state.having (early ++ late) = (state.having early).having late := by
  simp [having, Int.add_assoc, Function.comp_def]

namespace Download

variable {σ ω : Type} {write : List UInt8 → Act Fault ω Unit}

/-- What is known of a work once some pieces were written to it. -/
structure Effect (write : List UInt8 → Act Fault ω Unit) where
  rel : List (List UInt8) → ω → ω → Prop
  none : ∀ work, rel [] work work
  append : ∀ {early late before between after}, rel early before between → rel late between after →
    rel (early ++ late) before after
  write_ends : ∀ piece work, (write piece).Ends work (fun _ after => rel [piece] work after)
    (fun _ after => rel [] work after)

/-- Nothing is known of what a stream makes of the pieces. -/
def Effect.any (write : List UInt8 → Act Fault ω Unit) : Effect write where
  rel _ _ _ := True
  none _ := trivial
  append _ _ := trivial
  write_ends _ _ := by
    unfold Act.Ends
    split <;> trivial

/-- The pieces a stream has taken. A write appends a whole piece, or it fails and appends nothing. -/
structure Sink (write : List UInt8 → Act Fault ω Unit) where
  taken : ω → List (List UInt8)
  write_ends : ∀ piece work, (write piece).Ends work
    (fun _ after => taken after = taken work ++ [piece]) (fun _ after => taken after = taken work)

/-- A stream that takes whole pieces has taken what was written. -/
def Sink.effect (sink : Sink write) : Effect write where
  rel written before after := sink.taken after = sink.taken before ++ written
  none _ := (List.append_nil _).symm
  append early late := by rw [late, early, List.append_assoc]
  write_ends piece work := (sink.write_ends piece work).mono (fun _ _ appended => appended)
    fun _ _ same => by rw [same, List.append_nil]

/-- Keeps the pieces. -/
def keep (piece : List UInt8) : Act Fault (List (List UInt8)) Unit :=
  Act.change (· ++ [piece])

def kept : Sink keep where
  taken pieces := pieces
  write_ends _ _ := rfl

/-- Some pieces were written and counted, and nothing else has changed. -/
structure Appended (effect : Effect write) (written : List (List UInt8)) (before after : ω × AttemptState) :
    Prop where
  work : effect.rel written before.1 after.1
  state : after.2 = before.2.having written.flatten

/-- Some pieces were written and counted, and nothing else about the range has changed. -/
structure Wrote (sink : Sink write) (written : List (List UInt8)) (before after : ω × AttemptState) :
    Prop where
  taken : sink.taken after.1 = sink.taken before.1 ++ written
  received : after.2.received = before.2.received + (written.flatten.length : Int)
  offset : after.2.offset = before.2.offset
  length : after.2.length = before.2.length

variable {effect : Effect write} {sink : Sink write} {before after : ω × AttemptState}
  {early late written : List (List UInt8)}

theorem Appended.none (effect : Effect write) (before : ω × AttemptState) : Appended effect [] before before :=
  ⟨effect.none _, (AttemptState.having_nil _).symm⟩

theorem Appended.trans {last : ω × AttemptState} (first : Appended effect early before after)
    (second : Appended effect late after last) : Appended effect (early ++ late) before last where
  work := effect.append first.work second.work
  state := by rw [second.state, first.state, List.flatten_append, AttemptState.having_append]

theorem Appended.wrote (appended : Appended sink.effect written before after) :
    Wrote sink written before after :=
  ⟨appended.work, by rw [appended.state]; rfl, by rw [appended.state]; rfl, by rw [appended.state]; rfl⟩

theorem Wrote.none (sink : Sink write) (before : ω × AttemptState) : Wrote sink [] before before :=
  (Appended.none sink.effect before).wrote

theorem Wrote.trans {last : ω × AttemptState} (first : Wrote sink early before after)
    (second : Wrote sink late after last) : Wrote sink (early ++ late) before last where
  taken := by rw [second.taken, first.taken, List.append_assoc]
  received := by
    rw [second.received, first.received, List.flatten_append, List.length_append]
    omega
  offset := second.offset.trans first.offset
  length := second.length.trans first.length

/-- A response is accepted. The first one is held on to, and later ones change nothing. -/
inductive Accepts (download : Download) (response : Response) : AttemptState → AttemptState → Prop where
  | later {state} : state.populated = true → Accepts download response state state
  | first {state known} : state.populated = false → properties state response = .ok known →
      Accepts download response state (download.pin response known state)

/-- Accepting a response writes nothing. -/
theorem Accepts.wrote {download : Download} {response : Response}
    (accepts : download.Accepts response before.2 after.2) (work : after.1 = before.1) :
    Wrote sink [] before after := by
  obtain ⟨work', state'⟩ := after
  obtain ⟨work'', state⟩ := before
  cases work
  cases accepts with
  | later _ => exact .none sink _
  | first _ _ => exact ⟨by simp, by simp, rfl, rfl⟩

/-- What a response is judged to be. Unless it is accepted, nothing changes. -/
inductive Judged (download : Download) (receipt : Receipt σ ω) : Outcome → Receipt σ ω → Prop where
  | accepted {product after} : isAccepted receipt.response.status = true →
      after.response = receipt.response → after.bench = receipt.bench →
      download.Accepts receipt.response receipt.state after.state →
      Judged download receipt (.success product) after
  | refused {outcome after} : (∀ product, outcome ≠ .success product) →
      after.ledger = receipt.ledger → Judged download receipt outcome after

theorem Judged.wrote {download : Download} {receipt after : Receipt σ ω} {outcome : Outcome}
    (judged : download.Judged receipt outcome after) : Wrote sink [] receipt.ledger after.ledger := by
  cases judged with
  | accepted _ _ bench accepts => exact accepts.wrote (congrArg Bench.work bench)
  | refused _ same =>
      rw [same]
      exact .none sink _

theorem refuse_ends (receipt : Receipt σ ω) :
    (Operation.refuse : Handling σ ω Outcome).Ends receipt
      (fun outcome after => after.ledger = receipt.ledger ∧ ∃ fault, outcome = .retryable fault)
      (fun _ after => after.ledger = receipt.ledger) := by
  unfold Act.Ends Operation.refuse
  cases receipt.response.fault with
  | mk result response =>
      cases result with
      | ok fault => exact ⟨rfl, fault, rfl⟩
      | error fault => exact rfl

theorem judge_ends (download : Download) (receipt : Receipt σ ω) :
    download.judge.Ends receipt (download.Judged receipt)
      (fun _ after => after.ledger = receipt.ledger) := by
  unfold judge
  refine Act.ends_bind.mpr (Act.ends_read.mpr ?_)
  dsimp only
  split
  · refine (refuse_ends receipt).mono ?_ fun _ _ same => same
    rintro _ after ⟨same, fault, rfl⟩
    exact .refused (fun _ impossible => by cases impossible) same
  · next accepted =>
    have accepted : isAccepted receipt.response.status = true := by simpa using accepted
    split
    · exact .refused (fun _ impossible => by cases impossible) rfl
    · split
      · next unpopulated =>
        refine Act.ends_bind.mpr (Act.ends_ofExcept (fun known capture => ?_) fun _ _ => rfl)
        exact .accepted accepted rfl rfl (.first (by simpa using unpopulated) capture)
      · next populated =>
        exact .accepted accepted rfl rfl (.later (by simpa using populated))

theorem writeAll_ends (effect : Effect write) (pieces : List (List UInt8)) (receipt : Receipt σ ω) :
    (writeAll write pieces : Handling σ ω Unit).Ends receipt
      (fun _ after => Appended effect pieces receipt.ledger after.ledger ∧
        after.response = receipt.response)
      (fun _ after => ∃ written, written <+: pieces ∧ written ≠ pieces ∧
        Appended effect written receipt.ledger after.ledger) := by
  induction pieces generalizing receipt with
  | nil => exact ⟨.none effect _, rfl⟩
  | cons piece rest ih =>
      refine Act.ends_bind.mpr (Act.ends_on.mpr (Act.ends_on.mpr ?_))
      refine (effect.write_ends piece receipt.bench.work).mono ?_ ?_
      · intro _ work wrote
        refine Act.ends_bind.mpr ((Act.ends_change _).mpr ?_)
        have one : Appended effect [piece] receipt.ledger (work, receipt.state.having piece) :=
          ⟨wrote, by rw [List.flatten_singleton]; rfl⟩
        refine (ih _).mono ?_ ?_
        · rintro _ after ⟨others, response⟩
          exact ⟨one.trans others, response⟩
        · rintro _ after ⟨written, begun, short, others⟩
          exact ⟨piece :: written, List.prefix_cons_inj piece |>.mpr begun,
            fun same => short (List.cons.inj same).2, one.trans others⟩
      · intro _ work wrote
        exact ⟨[], List.nil_prefix, nofun, wrote, (AttemptState.having_nil _).symm⟩

/-- The pieces in which the content of a response comes. -/
def piecesOf (response : Response) : List (List UInt8) :=
  (response.pieces pieceSize).1

/-- All of the content was written, and it is as long as was announced. -/
def Whole (response : Response) (written : List (List UInt8)) (received : Int) : Prop :=
  written = piecesOf response ∧ ∃ announced, response.contentLength = .ok announced ∧
    checkLength announced received = .ok ()

theorem takePieces_ends {size : Int} {receipt : Receipt σ ω}
    {Q : List (List UInt8) × Option Fault → Receipt σ ω → Prop} {E : Fault → Receipt σ ω → Prop} :
    (Handling.takePieces size).Ends receipt Q E ↔
      Q ((receipt.response.pieces size).1, (receipt.response.pieces size).2.1)
        { receipt with response := (receipt.response.pieces size).2.2 } :=
  Iff.rfl

/-- All of the content is written and passes its checks, or a beginning of it. -/
theorem finish_ends (effect : Effect write) (download : Download) (receipt : Receipt σ ω) :
    (download.finish write : Handling σ ω Product).Ends receipt
      (fun product after => ∃ written, Appended effect written receipt.ledger after.ledger ∧
        Whole receipt.response written after.state.received ∧
        checkWhole after.state = .ok () ∧ product = .value after.state.properties)
      (fun _ after => ∃ written, written <+: piecesOf receipt.response ∧
        Appended effect written receipt.ledger after.ledger) := by
  unfold finish
  refine Act.ends_bind.mpr (Act.ends_read.mpr ?_)
  refine Act.ends_bind.mpr (Act.ends_ofExcept (fun announced read => ?_) fun _ _ =>
    ⟨[], List.nil_prefix, .none effect _⟩)
  refine Act.ends_bind.mpr (takePieces_ends.mpr ?_)
  refine Act.ends_bind.mpr ((writeAll_ends effect (piecesOf receipt.response) _).mono ?_ ?_)
  · rintro _ after ⟨appended, _⟩
    have fails : ∃ written, written <+: piecesOf receipt.response ∧
        Appended effect written receipt.ledger after.ledger := ⟨_, List.prefix_rfl, appended⟩
    dsimp only
    split
    · exact Act.ends_bind.mpr fails
    · refine Act.ends_bind.mpr (Act.ends_read.mpr ?_)
      refine Act.ends_bind.mpr (Act.ends_ofExcept (fun _ long => ?_) fun _ _ => fails)
      refine Act.ends_checked (fun _ _ => fails) ?_
      refine Act.ends_bind.mpr (Act.ends_ofExcept (fun _ whole => ?_) fun _ _ => fails)
      exact ⟨_, appended, ⟨rfl, announced, read, long⟩, whole, rfl⟩
  · rintro _ after ⟨written, begun, _, appended⟩
    exact ⟨written, begun, appended⟩

end Download

end ObjectStore
