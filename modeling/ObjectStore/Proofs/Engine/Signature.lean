import ObjectStore.Proofs.Engine.Course
import ObjectStore.Proofs.Engine.Plain
import ObjectStore.Proofs.Fields
import ObjectStore.Proofs.Signing.Stability

/-! The signature of a request covers what is sent. A request is signed last, and unless a listener changes
it then, it goes out as it was signed. Where signing fails, nothing goes out. -/

namespace ObjectStore

variable {σ τ ω : Type}

/-- A request that bears its signature: signing it once more does not change it. -/
def Authentication.Sealed (authentication : Authentication) (request : Request) : Prop :=
  (authentication.sign request).2 = .ok request

/-- With a shared key, the request carries the signature of the text that it makes. -/
def Authentication.Carries (authentication : Authentication) (request : Request) : Prop :=
  ∀ scheme account key, authentication = sharedKey scheme account key →
    ∃ name signature, account = some name ∧
      key.sign (.text (Signing.stringToSign scheme name request)) true = .ok signature ∧
      request.headers.get? "Authorization" = some (authorization scheme name signature)

theorem Authentication.Sealed.carries {authentication : Authentication} {request : Request}
    (isSealed : authentication.Sealed request) : authentication.Carries request := by
  rintro scheme account key rfl
  simp only [Sealed, sign] at isSealed
  split at isSealed
  · contradiction
  · contradiction
  · next name _ =>
    obtain ⟨signature, made, carried⟩ := signShared_eq_ok.mp isSealed
    refine ⟨name, signature, rfl, made, ?_⟩
    rw [← carried]
    exact Fields.get_set _ _ _

/-- Whoever hears of a request before it is sent leaves it alone. -/
def Engine.Untouched (engine : Engine σ τ) (handlers : Handlers σ) : Prop :=
  engine.Bounded handlers ((Frame.same id).within fun seen => seen.2.request) .sendingRequest

namespace Plan

variable {plan : Plan σ τ ω} {progress : Progress} {run after : Run σ τ ω} {trip : Trip σ τ ω}

theorem sign_seals (standard : plan.operation.sign = none) (request : Request) :
    (plan.sign request).Yields plan.engine.client.authentication.Sealed := by
  intro run
  refine (plan.take_ends _ run).mono ?_ fun _ _ _ => trivial
  rintro signed _ ⟨done, _⟩
  rw [standard] at done
  exact congrArg Prod.snd (Authentication.sign_signed done)

variable [Seconds τ]

theorem prepared_seals (standard : plan.operation.sign = none) (state : AttemptState) :
    (plan.prepared state).Yields fun made => plan.engine.client.authentication.Sealed made.1 := by
  refine .after fun composed => .after fun dated => (sign_seals standard dated).bind ?_
  exact fun signed isSealed => .after fun _ => .after fun _ => .pure isSealed

theorem depart_seals (standard : plan.operation.sign = none) (progress : Progress) :
    (plan.depart progress).Yields fun handed => plan.engine.client.authentication.Sealed handed.1 := by
  have prepares : (plan.prepare progress.state progress.last).Yields fun made =>
      plan.engine.client.authentication.Sealed made.1 :=
    fun run => plan.prepare_ends (prepared_seals standard progress.state run) progress.last
  refine .after fun _ => prepares.bind fun made isSealed => ?_
  exact .after fun _ => .pure isSealed

/-- The request that is handed over bears its signature. -/
theorem Departs.seals (departs : plan.Departs progress run trip) (standard : plan.operation.sign = none)
    (untouched : plan.engine.Untouched plan.handlers) :
    plan.engine.client.authentication.Sealed trip.request := by
  have same : trip.request = trip.prepared := departs.passes (.same id) untouched
  obtain ⟨prepared, request, timeout, announced, departed, rfl⟩ := departs
  rw [same]
  exact (depart_seals standard progress).of_ok departed

/-- A turn gets as far as a request that cannot be signed. -/
def Unsigned (plan : Plan σ τ ω) (progress : Progress) (run : Run σ τ ω) (request : Request)
    (fault : Fault) : Prop :=
  ∃ checked dated, plan.check progress.last run = (.ok (), checked) ∧
    (plan.compose progress.state >>= plan.date) checked = (.ok request, dated) ∧
    (plan.engine.client.authentication.sign request).2 = .error fault

theorem prepared_of_unsigned {request : Request} {fault : Fault} {checked dated : Run σ τ ω}
    {state : AttemptState} (standard : plan.operation.sign = none)
    (made : (plan.compose state >>= plan.date) checked = (.ok request, dated))
    (failed : (plan.engine.client.authentication.sign request).2 = .error fault) :
    ∃ signing, plan.prepared state checked = (.error fault, signing) := by
  have signs : ∃ signing, plan.sign request dated = (.error fault, signing) := by
    rw [Plan.sign, standard]
    exact ⟨_, Prod.ext failed rfl⟩
  obtain ⟨signing, signs⟩ := signs
  refine ⟨signing, ?_⟩
  rw [prepared_eq, signed, ← Act.bind_assoc, Act.bind_assoc, Act.bind_of_ok made, Act.bind_of_error signs]

/-- If a request cannot be signed, the operation ends and nothing is sent. -/
theorem turn_of_unsigned {request : Request} {fault : Fault} (standard : plan.operation.sign = none)
    (unsigned : plan.Unsigned progress run request fault) :
    ∃ after, plan.turn progress run = (.error ⟨fault, .unprepared, none⟩, after) ∧
      after.requests = run.requests := by
  obtain ⟨checked, dated, checks, made, failed⟩ := unsigned
  obtain ⟨signing, prepares⟩ := prepared_of_unsigned standard made failed
  have argument : fault.kind.isArgument = true := by
    rw [Authentication.kind_of_sign_fails failed]
    rfl
  obtain ⟨after, refused⟩ := depart_of_unprepared checks prepares argument
  exact ⟨after, turn_of_refused refused, ((plan.depart_follows progress).of_error refused).requests⟩

end Plan

namespace Engine

variable [Seconds τ] {engine : Engine σ τ} {operation : Operation σ τ ω} (policy : Option (Policy σ τ))
  {handlers : Handlers σ}

/-- Every request of an operation that is signed as its client does bears its signature, with a shared key
that of its own text, and what is sent shows it as it was signed. If a request cannot be signed, it stays as
it was, and the operation ends without sending it. -/
theorem execute_sends_sealed (standard : operation.sign = none) (untouched : engine.Untouched handlers)
    (turns : Nat) (run : Run σ τ ω) :
    (engine.execute operation policy handlers turns run).2.requests =
        run.requests ++ (engine.trips operation policy handlers turns run).flatMap (engine.posted operation) ∧
      (∀ trip ∈ engine.trips operation policy handlers turns run,
        engine.client.authentication.Sealed trip.request ∧ engine.client.authentication.Carries trip.request ∧
        ∀ outgoing ∈ engine.posted operation trip, outgoing.Shows trip.request) ∧
      ∀ plan start, engine.planFor operation policy handlers run = .ok (plan, start) →
        ∀ progress reached request fault, plan.Unsigned progress reached request fault →
          fault.kind = .signing ∧
          engine.client.authentication.signInPlace request = (.error fault, request) ∧
          ∃ after, plan.turn progress reached = (.error ⟨fault, .unprepared, none⟩, after) ∧
            after.requests = reached.requests := by
  refine ⟨execute_requests turns, ?_, ?_⟩
  · intro trip member
    cases planned : engine.planFor operation policy handlers run with
    | error fault =>
        rw [trips_of_refusal planned] at member
        exact absurd member List.not_mem_nil
    | ok settled =>
        have course := course_of_plan planned turns
        obtain ⟨rfl, rfl, rfl, _⟩ := planFor_eq planned
        obtain ⟨_, _, departs, _⟩ := course.departs trip member
        have isSealed := departs.seals standard untouched
        exact ⟨isSealed, isSealed.carries,
          fun outgoing posts => Connection.outgoing_shows (mem_posted.mp posts)⟩
  · intro plan start planned progress reached request fault unsigned
    obtain ⟨rfl, rfl, rfl, _⟩ := planFor_eq planned
    have failed : (plan.engine.client.authentication.sign request).2 = .error fault := by
      obtain ⟨_, _, _, _, failed⟩ := unsigned
      exact failed
    refine ⟨Authentication.kind_of_sign_fails failed, ?_, Plan.turn_of_unsigned standard unsigned⟩
    rw [Authentication.signInPlace_eq, failed]

end Engine

namespace Keyed

/-! The service is busy once. With the name of its account, both requests are signed; without it, there is
none. -/

def engine (account : Option String) : Engine Nat Number :=
  { Engine.answering Reply.busyOnce with
    client := { Client.plain .persistent with authentication := .sharedKey .full account (.text "a2V5") } }

def settled : Plan Nat Number Unit × AttemptState :=
  ((engine none).planFor .plain none {} .plain).toOption.get rfl

theorem untouched (account : Option String) : (engine account).Untouched {} :=
  fun _ none => absurd none List.not_mem_nil

theorem named_seals_and_nameless_stops :
    ((engine (some "acc")).trips .plain none {} 2 .plain).length = 2 ∧
      (∀ trip ∈ (engine (some "acc")).trips .plain none {} 2 .plain,
        (engine (some "acc")).client.authentication.Sealed trip.request ∧
        ∃ signature, Value.sign (.text "a2V5") (.text (Signing.stringToSign .full "acc" trip.request)) true =
            .ok signature ∧
          trip.request.headers.get? "Authorization" =
            some (Authentication.authorization .full "acc" signature)) ∧
      ∃ request, settled.1.Unsigned ⟨settled.2, none⟩ (Engine.opened .plain) request ⟨Cause.noAccountName, none⟩ ∧
        (∃ after, settled.1.turn ⟨settled.2, none⟩ (Engine.opened .plain) =
          (.error ⟨⟨Cause.noAccountName, none⟩, .unprepared, none⟩, after) ∧ after.requests = []) := by
  have standard : (Operation.plain : Operation Nat Number Unit).sign = none := rfl
  obtain ⟨_, seals, _⟩ := Engine.execute_sends_sealed none standard (untouched (some "acc")) 2 .plain
  obtain ⟨_, _, stops⟩ := Engine.execute_sends_sealed none standard (untouched none) 2 .plain
  have planned : (engine none).planFor .plain none {} .plain = .ok settled := rfl
  have unsigned : settled.1.Unsigned ⟨settled.2, none⟩ (Engine.opened .plain) _
      ⟨Cause.noAccountName, none⟩ :=
    ⟨_, _, rfl, rfl, rfl⟩
  obtain ⟨_, _, ends⟩ := stops settled.1 settled.2 planned _ _ _ _ unsigned
  refine ⟨by decide +kernel, fun trip member => ?_, _, unsigned, ends⟩
  obtain ⟨isSealed, carries, _⟩ := seals trip member
  obtain ⟨_, signature, ⟨⟩, made, carried⟩ := carries _ _ _ rfl
  exact ⟨isSealed, signature, made, carried⟩

end Keyed

end ObjectStore
