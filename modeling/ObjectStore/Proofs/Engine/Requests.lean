import ObjectStore.Proofs.Engine.Attempt
import ObjectStore.Proofs.Engine.Conclude

/-! The requests that a run has sent. Only attempts send, and each sends one request at most. -/

namespace ObjectStore

variable {σ τ ω α : Type}

/-- The requests that were sent. -/
def Run.requests (run : Run σ τ ω) : List (Outgoing τ) :=
  run.journal.filterMap Entry.sent?

theorem Run.Follows.requests {run after : Run σ τ ω} (follows : Run.Follows run after) :
    after.requests = run.requests := by
  obtain ⟨remarks, areRemarks, journal⟩ := follows.journal
  have silent : remarks.filterMap Entry.sent? = [] :=
    List.filterMap_eq_nil_iff.mpr fun entry member => Entry.sent?_of_isRemark (areRemarks entry member)
  rw [Run.requests, journal, List.filterMap_append, silent, List.append_nil, Run.requests]

/-- The work of the operation, the requests and the headers of the user stay as they are. -/
def Run.still : Frame (Run σ τ ω) :=
  .same fun run => (run.work, run.requests, run.context.userHeaders)

theorem Run.Aside.still {world : Frame σ} {run after : Run σ τ ω} (aside : Run.Aside world run after) :
    Run.still.rel run after := by
  show (after.work, after.requests, after.context.userHeaders) = _
  rw [aside.work, aside.toFollows.requests, aside.context]

theorem Run.still_iff {run after : Run σ τ ω} : Run.still.rel run after ↔ after.work = run.work ∧
    after.requests = run.requests ∧ after.context.userHeaders = run.context.userHeaders := by
  simp [Run.still, Frame.same]

namespace Plan

section Sent

variable {plan : Plan σ τ ω} {request : Request} {timeout : Timeout τ} {run after : Run σ τ ω}

/-- Whatever comes of an attempt, a request is sent exactly if something can be made of it. -/
theorem Sent.requests (sent : plan.Sent request timeout run after) :
    (∃ fault, plan.outgoing request timeout = .error fault) ∧ after.requests = run.requests ∨
      ∃ outgoing, plan.outgoing request timeout = .ok outgoing ∧
        after.requests = run.requests ++ [outgoing] := by
  obtain ⟨early, ⟨rfl, refused⟩ | ⟨outgoing, world, made, rfl⟩, follows⟩ := sent
  · exact .inl ⟨refused, follows.requests⟩
  · refine .inr ⟨outgoing, made, follows.requests.trans ?_⟩
    simp [sentOut, Run.note, Run.requests, List.filterMap_append, Entry.sent?]

theorem Sent.requests_of_outgoing {outgoing : Outgoing τ} (sent : plan.Sent request timeout run after)
    (made : plan.outgoing request timeout = .ok outgoing) :
    after.requests = run.requests ++ [outgoing] := by
  obtain ⟨⟨fault, refused⟩, _⟩ | ⟨other, sends, one⟩ := sent.requests
  · rw [refused] at made
    contradiction
  · obtain rfl := Except.ok.inj (sends.symm.trans made)
    exact one

end Sent

theorem say_still (plan : Plan σ τ ω) (line : Log.Line) :
    (plan.say line : Act Failure (Run σ τ ω) Unit).Keeps Run.still := by
  have aside : (plan.say line : Act Failure (Run σ τ ω) Unit).Keeps (Run.aside (.any σ)) :=
    plan.say_keeps line
  exact aside.weaken fun _ _ => Run.Aside.still

theorem take_still (plan : Plan σ τ ω) {step : Step σ ω α} (idle : step.Keeps (Bench.idle (.any σ))) :
    (plan.take step).Keeps Run.still :=
  (plan.take_keeps idle).weaken fun _ _ => Run.Aside.still

theorem outside_still {ε : Type} {x : Act ε σ α} (free : x.Keeps (.any σ)) :
    (outside x : Act ε (Run σ τ ω) α).Keeps Run.still :=
  (outside_keeps free).weaken fun _ _ => Run.Aside.still

theorem note_still {entry : Entry τ} (unsent : entry.sent? = none) (run : Run σ τ ω) :
    Run.still.rel run (run.note entry) := by
  refine Run.still_iff.mpr ⟨rfl, ?_, rfl⟩
  simp [Run.note, Run.requests, List.filterMap_append, unsent]

theorem rest_still (plan : Plan σ τ ω) (interval : τ) : (plan.rest interval).Keeps Run.still :=
  plan.rest_keeps plan.say_still (fun _ => outside_still fun _ => trivial)
    (fun _ run pause => note_still pause run) interval

end Plan

end ObjectStore
