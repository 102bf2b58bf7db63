import ObjectStore.Client.Operations
import ObjectStore.Proofs.Engine.Attempt
import ObjectStore.Proofs.Location.Pinning

/-! What the operations of a client are made of, and what their steps touch. They read the response, write pieces and count them, and a
download holds on to the first response. So the location and the number of an attempt are left alone, and the
mode is pinned to that location at most. -/

namespace ObjectStore

variable {σ τ ω : Type}

namespace Download

section Frames

variable {bounds : Frame (Receipt σ ω)} (reads : ∀ receipt response, bounds.rel receipt { receipt with response })
include reads

theorem judge_keeps (download : Download)
    (pins : ∀ response properties receipt,
      bounds.rel receipt { receipt with state := download.pin response properties receipt.state }) :
    (download.judge : Handling σ ω Outcome).Keeps bounds := by
  refine .bind .read fun receipt => ?_
  dsimp only
  split
  · exact Operation.refuse_keeps reads
  · split
    · exact .pure _
    · split
      · exact .bind (.ofExcept _) fun properties => .bind (.change (pins _ properties)) fun _ => .pure _
      · exact .pure _

variable (writes : ∀ (receipt : Receipt σ ω) work,
    bounds.rel receipt { receipt with bench := { receipt.bench with work } })
  (counts : ∀ (receipt : Receipt σ ω) received digested,
    bounds.rel receipt { receipt with state := { receipt.state with received, digested } })
include writes counts

omit reads in
theorem writeAll_keeps (write : List UInt8 → Act Fault ω Unit) (pieces : List (List UInt8)) :
    (writeAll write pieces : Handling σ ω Unit).Keeps bounds := by
  induction pieces with
  | nil => exact .pure ()
  | cons piece rest ih =>
      refine .bind (fun receipt => writes receipt _) fun _ => .bind (.change ?_) fun _ => ih
      exact fun receipt => counts receipt _ _

theorem finish_keeps (download : Download) (write : List UInt8 → Act Fault ω Unit) :
    (download.finish write : Handling σ ω Product).Keeps bounds := by
  have takes : (Handling.takePieces pieceSize : Handling σ ω _).Keeps bounds := fun receipt => reads receipt _
  refine .bind .read fun _ => .bind (.ofExcept _) fun announced => .bind takes fun taken => ?_
  refine .bind (writeAll_keeps writes counts write _) fun _ => ?_
  dsimp only
  split
  · exact bounds.refl
  · refine .bind .read fun _ => .bind (.ofExcept _) fun _ => ?_
    split
    · exact .bind (.ofExcept _) fun _ => .bind (.ofExcept _) fun _ => .pure _
    · exact .bind (.ofExcept _) fun _ => .pure _

end Frames

theorem recover_pinned (state : AttemptState) :
    (recover state : Step σ ω AttemptState).Yields (AttemptState.pinned.rel state) := by
  have kept : AttemptState.pinned.rel state (resume state) := by
    unfold resume
    split
    · exact AttemptState.pinned.refl state
    · exact ⟨rfl, rfl, .inl rfl⟩
  unfold recover
  split
  · exact .after fun _ => .pure kept
  · exact .pure kept

theorem operation_pinned {download : Download} {write : List UInt8 → Act Fault ω Unit}
    {options : Options τ (Policy σ τ)} {endpoints : Option Endpoints} {operation : Operation σ τ ω}
    (made : download.operation write options endpoints = .ok operation) :
    operation.Within AttemptState.pinned := by
  have reads : ∀ (receipt : Receipt σ ω) response,
      (AttemptState.pinned.within Receipt.state).rel receipt { receipt with response } :=
    fun receipt _ => AttemptState.pinned.refl receipt.state
  obtain ⟨_, _, made⟩ := Act.except_bind_eq_ok.mp made
  cases made
  exact {
    judges := download.judge_keeps reads fun _ _ _ => ⟨rfl, rfl, .inr rfl⟩
    finishes := fun _ => download.finish_keeps reads (fun receipt _ => AttemptState.pinned.refl receipt.state)
      (fun _ _ _ => ⟨rfl, rfl, .inl rfl⟩) write
    recovers := recover_pinned }

end Download

theorem Upload.operation_pinned {upload : Upload} {stream : Stream} {options : Options τ (Policy σ τ)}
    {endpoints : Option Endpoints} {operation : Operation σ τ Stream}
    (made : upload.operation stream options endpoints = .ok operation) :
    operation.Within AttemptState.pinned := by
  obtain ⟨_, _, made⟩ := Act.except_bind_eq_ok.mp made
  cases made
  exact {
    judges := Operation.judgeStatus_keeps (fun receipt _ => AttemptState.pinned.refl receipt.state) _
    finishes := fun _ => .bind .read fun _ => .pure _
    recovers := fun state => .after fun _ => .pure (AttemptState.pinned.refl state) }

namespace Client

theorem getProperties_pinned {path : Value} {conditions : Option AccessCondition}
    {options : Options τ (Policy σ τ)} {operation : Operation σ τ ω}
    (made : getProperties path conditions options = .ok operation) : operation.Within AttemptState.pinned := by
  obtain ⟨_, _, made⟩ := Act.except_bind_eq_ok.mp made
  cases made
  exact {
    judges := Operation.judgeStatus_keeps (fun receipt _ => AttemptState.pinned.refl receipt.state) _
    finishes := fun _ => .pure _
    recovers := fun state => .pure (AttemptState.pinned.refl state) }

theorem downloadTo_eq_ok {write : Option (List UInt8 → Act Fault ω Unit)} {part : Part}
    {options : Options τ (Policy σ τ)} {operation : Operation σ τ ω}
    (made : downloadTo write part options = .ok operation) :
    ∃ sink, (part.download options).operation sink options none = .ok operation := by
  cases write with
  | none => cases made
  | some sink => exact ⟨sink, made⟩

theorem uploadStream_eq_ok {cargo : Cargo} {source : Value} {count : Option Int}
    {options : Options τ (Policy σ τ)} {operation : Operation σ τ Stream} {stream : Stream}
    (made : uploadStream cargo source count options = .ok (operation, stream)) :
    ∃ upload : Upload, upload.operation stream options none = .ok operation := by
  obtain ⟨_, _, made⟩ := Act.except_bind_eq_ok.mp made
  obtain ⟨_, operated, same⟩ := Act.except_bind_eq_ok.mp made
  cases same
  exact ⟨_, operated⟩

end Client

end ObjectStore
