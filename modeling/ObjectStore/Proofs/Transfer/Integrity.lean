import ObjectStore.Proofs.Transfer.Exactness
import ObjectStore.Proofs.Transfer.Holding

/-! Downloads of a whole resource whose digest is checked. Whatever the service sends and whatever
interrupts the attempts, an answer is given only if the first accepted response named the digest of
all that was written. -/

namespace ObjectStore.Download

variable {σ τ ω : Type} [Seconds τ] {write : List UInt8 → Act Fault ω Unit} {download : Download}

section Split

variable {trips early late : List (Trip σ τ ω)} {first : Trip σ τ ω} {response : Response}

omit [Seconds τ] in
/-- The response that all goes by is the first one of the run that is accepted. -/
theorem Split.findSome? (split : download.Split trips early first response late) :
    trips.findSome? Trip.accepted = some response := by
  have unserved : early.findSome? Trip.accepted = none :=
    List.findSome?_eq_none_iff.mpr fun trip member => (split.early trip member).1
  rw [split.trips, List.findSome?_append, unserved, Option.none_or, List.findSome?_cons, split.accepted]

end Split

section Operation

variable (sink : Sink write) {engine : Engine σ τ} {operation : Operation σ τ ω}
  (policy : Option (Policy σ τ)) {handlers : Handlers σ} {options : Options τ (Policy σ τ)}
  {endpoints : Option Endpoints} {run : Run σ τ ω}

/-- A whole download with an answer had a response accepted, and if the first such response named a
digest, it is the digest of all bytes that were written, by whichever attempts. -/
theorem execute_writes_digested (made : download.operation write options endpoints = .ok operation)
    (whole : download.start = none) (checked : download.skipDigest = false) (turns : Nat)
    {answer : Answer}
    (answered : (engine.execute operation policy handlers turns run).1 = .ok (some answer)) :
    ∃ response written,
      (engine.trips operation policy handlers turns run).findSome? Trip.accepted = some response ∧
      isAccepted response.status = true ∧
      sink.taken (engine.execute operation policy handlers turns run).2.work =
        sink.taken run.work ++ written ∧
      (response.resourceMd5.truthy = true →
        response.resourceMd5 = .text (Value.md5Text written.flatten)) := by
  have checks : download.checksWhole = true := by rw [checksWhole, checked, whole]; rfl
  cases execute_served sink.effect policy made turns with
  | never _ _ unanswered => exact absurd answered (unanswered answer)
  | once split wrote fulfils =>
      exact ⟨_, _, split.findSome?, split.status, wrote, (fulfils answer answered).digest checks⟩

end Operation

namespace Sealed

/-! The service that loses the connection after two of its four bytes, now with their digest in its
first response. The second response names the digest of some other content. -/

def digest : String := "CNbAWiFRKnmh3+udKo8mLw=="

def answer (range : List Value) : Reply :=
  let reply := Halved.answer range
  let named := if range.isEmpty then digest else "AAAAAAAAAAAAAAAAAAAAAA=="
  { reply with headers := reply.headers.set "Content-MD5" (.text named) }

def engine : Engine Unit Number :=
  .ranged answer

/-- Both halves are written, and their digest is the one in the first response. -/
theorem halves_digested : ∃ answer,
    (engine.execute Halved.operation none {} 2 Halved.begun).1 = .ok (some answer) ∧
      ∃ response, (engine.trips Halved.operation none {} 2 Halved.begun).findSome? Trip.accepted =
          some response ∧ response.resourceMd5 = .text digest ∧
        digest = Value.md5Text (engine.execute Halved.operation none {} 2 Halved.begun).2.work.flatten := by
  have given : Answer.isGiven (engine.execute Halved.operation none {} 2 Halved.begun).1 = true := by
    decide +kernel
  have named : ((engine.trips Halved.operation none {} 2 Halved.begun).findSome? Trip.accepted).map
      (fun response => (response.resourceMd5.truthy, response.resourceMd5.toText)) =
      some (true, digest) := by
    decide +kernel
  obtain ⟨answer, answered⟩ := Answer.given_of_isGiven given
  have made : Halved.whole.operation keep {} none = .ok Halved.operation := rfl
  obtain ⟨response, written, accepted, _, taken, digested⟩ :=
    execute_writes_digested kept none made rfl rfl 2 answered
  rw [accepted] at named
  obtain ⟨truthy, text⟩ := Prod.mk.inj (Option.some.inj named)
  have nothing : Halved.begun.work = [] := rfl
  have pieces : (engine.execute Halved.operation none {} 2 Halved.begun).2.work = written := by
    simpa only [kept, nothing, List.nil_append] using taken
  have same : digest = Value.md5Text written.flatten := by
    rw [← text, digested truthy, Value.toText]
  refine ⟨answer, answered, response, accepted, ?_, by rw [pieces]; exact same⟩
  rw [digested truthy, same]

end Sealed

end ObjectStore.Download
