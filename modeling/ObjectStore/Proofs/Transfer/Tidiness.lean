import ObjectStore.Proofs.Engine.Tidiness
import ObjectStore.Proofs.Transfer.Footprint

/-! What the operations of a client say is on one line: where a download is resumed, and nothing else. -/

namespace ObjectStore

variable {σ τ ω α : Type}

theorem Step.onWork_tidy (x : Act Fault ω α) : (Step.onWork x : Step σ ω α).Keeps Bench.tidy :=
  fun _ => Bench.tidy_of_same rfl

namespace Download

theorem recover_tidy (state : AttemptState) : (recover state : Step σ ω AttemptState).Keeps Bench.tidy := by
  unfold recover
  split
  · refine .bind (Step.say_tidy ?_) fun _ => .pure _
    refine (Log.inline_format_iff rfl).mpr ⟨by decide, ?_⟩
    simp
  · exact .pure _

theorem operation_tidy {download : Download} {write : List UInt8 → Act Fault ω Unit}
    {options : Options τ (Policy σ τ)} {endpoints : Option Endpoints} {operation : Operation σ τ ω}
    (made : download.operation write options endpoints = .ok operation) : operation.Tidy := by
  obtain ⟨_, _, made⟩ := Act.except_bind_eq_ok.mp made
  cases made
  exact {
    builds := fun _ => .ofExcept _
    heads := fun _ _ => .ofExcept _
    signs := nofun
    judges := download.judge_keeps (fun _ _ => Bench.tidy_of_same rfl) fun _ _ _ => Bench.tidy_of_same rfl
    finishes := fun _ => download.finish_keeps (fun _ _ => Bench.tidy_of_same rfl)
      (fun _ _ => Bench.tidy_of_same rfl) (fun _ _ _ => Bench.tidy_of_same rfl) write
    recovers := recover_tidy }

end Download

theorem Upload.operation_tidy {upload : Upload} {stream : Stream} {options : Options τ (Policy σ τ)}
    {endpoints : Option Endpoints} {operation : Operation σ τ Stream}
    (made : upload.operation stream options endpoints = .ok operation) : operation.Tidy := by
  obtain ⟨_, _, made⟩ := Act.except_bind_eq_ok.mp made
  cases made
  exact {
    builds := fun _ => .bind (Step.onWork_tidy _) fun _ => .pure _
    heads := fun _ _ => .ofExcept _
    signs := nofun
    judges := Operation.judgeStatus_keeps (fun _ _ => Bench.tidy_of_same rfl) _
    finishes := fun _ => .bind .read fun _ => .pure _
    recovers := fun _ => .bind (Step.onWork_tidy _) fun _ => .pure _ }

namespace Client

theorem getProperties_tidy {path : Value} {conditions : Option AccessCondition}
    {options : Options τ (Policy σ τ)} {operation : Operation σ τ ω}
    (made : getProperties path conditions options = .ok operation) : operation.Tidy := by
  obtain ⟨_, _, made⟩ := Act.except_bind_eq_ok.mp made
  cases made
  exact {
    builds := fun _ => .pure _
    heads := fun _ _ => .ofExcept _
    signs := nofun
    judges := Operation.judgeStatus_keeps (fun _ _ => Bench.tidy_of_same rfl) _
    finishes := fun _ => .pure _
    recovers := fun _ => .pure _ }

theorem downloadTo_tidy {write : Option (List UInt8 → Act Fault ω Unit)} {part : Part}
    {options : Options τ (Policy σ τ)} {operation : Operation σ τ ω}
    (made : downloadTo write part options = .ok operation) : operation.Tidy := by
  obtain ⟨_, operated⟩ := downloadTo_eq_ok made
  exact Download.operation_tidy operated

theorem uploadStream_tidy {cargo : Cargo} {source : Value} {count : Option Int}
    {options : Options τ (Policy σ τ)} {operation : Operation σ τ Stream} {stream : Stream}
    (made : uploadStream cargo source count options = .ok (operation, stream)) : operation.Tidy := by
  obtain ⟨_, operated⟩ := uploadStream_eq_ok made
  exact Upload.operation_tidy operated

end Client

end ObjectStore
