import ObjectStore.Proofs.Engine.Plain
import ObjectStore.Proofs.Request.ConditionHeader
import ObjectStore.Proofs.Transfer.Holding

/-! Downloads stay with what served them first. Up to the first response that is accepted, all requests
carry the conditions of the caller; from then on they go where that response came from, and they carry
its entity tag besides the other conditions of the caller. Listeners may change a request once it is
prepared, and what they leave alone is sent so. -/

namespace ObjectStore

open Request (Carries Unconditional sameConditions sameTarget)

variable {σ τ ω : Type}

/-- If nobody hears of a request, it is sent as it was prepared. -/
theorem Engine.Passes.eq {engine : Engine σ τ} {handlers : Handlers σ} {prepared sent : Request}
    (passes : engine.Passes handlers prepared sent)
    (unheard : engine.listeners handlers .sendingRequest = []) : sent = prepared := by
  refine passes (.same id) fun listener member => ?_
  rw [unheard] at member
  exact absurd member List.not_mem_nil

namespace Download

variable {write : List UInt8 → Act Fault ω Unit} {download : Download} {state : AttemptState}
  {request : Request}

theorem request_keeps {frame : Frame Request} (sets : ∀ name ∈ ["x-ms-range", "x-ms-range-get-content-md5"],
    ∀ value request, frame.rel request (request.setHeader name value))
    (built : download.request state = .ok request) :
    frame.rel { method := "GET", path := some download.path } request := by
  unfold Download.request at built
  split at built
  · cases built
    exact frame.refl _
  · have kept : ∀ start last, (Request.addRange download.rules start last).Keeps frame :=
      Request.addRange_keeps (sets "x-ms-range" (by decide)) (sets _ (by decide))
    dsimp only at built
    split at built
    · next ranged =>
      cases built
      exact (kept _ _).of_ok ranged
    · contradiction

theorem request_unconditional (built : download.request state = .ok request) :
    ∀ kind ∈ Request.Condition.all, kind.found request = [] := by
  have foreign : ∀ kind ∈ Request.Condition.all, ∀ name ∈ ["x-ms-range", "x-ms-range-get-content-md5"],
      Text.lowerCase name ≠ kind.key := by
    decide
  have kept : sameConditions.rel _ request := request_keeps (fun name range value request kind member =>
    Request.set_sameUnder (foreign kind member name range) value request) built
  exact fun kind member => (kept kind member).trans rfl

section Sent

variable [Seconds τ] {plan : Plan σ τ ω} (serves : plan.Serves download write) {progress : Progress}
  {run : Run σ τ ω} {trip : Trip σ τ ω} (departs : plan.Departs progress run trip)
include serves

omit [Seconds τ] in
theorem headed_eq (headed : plan.Headed state request) : ∃ built addressed,
    download.request state = .ok built ∧
      built.applyLocation plan.endpoints state.location = .ok addressed ∧
      setConditions (download.conditionsOf state) addressed = .ok request := by
  obtain ⟨addressed, bench, ⟨bench', built, builds, applied⟩, heads⟩ := headed
  rw [serves.build] at builds
  rw [serves.setHeaders] at heads
  exact ⟨built, addressed, builds, applied, heads⟩

omit [Seconds τ] in
theorem headed_carries (headed : plan.Headed state request) :
    Carries (download.conditionsOf state) request := by
  obtain ⟨built, addressed, builds, applied, set⟩ := headed_eq serves headed
  obtain ⟨_, done⟩ := setConditions_ends set
  refine (Act.ends_of_ok done).mp (Request.addConditions_carries ?_ _)
  intro kind member
  rw [Request.Condition.found, (Request.applyLocation_eq applied).1]
  exact request_unconditional builds kind member

omit [Seconds τ] in
theorem headed_target (headed : plan.Headed state request) : ∃ built addressed,
    download.request state = .ok built ∧
      built.applyLocation plan.endpoints state.location = .ok addressed ∧
      request.target = addressed.target := by
  obtain ⟨built, addressed, builds, applied, set⟩ := headed_eq serves headed
  have kept : sameTarget.rel addressed request := setConditions_keeps (fun _ _ _ _ => rfl) set
  exact ⟨built, addressed, builds, applied, kept⟩

omit [Seconds τ] in
theorem signs {inner : Frame Request} (unconcerned : Request.Unconcerned inner) : plan.SignedWithin inner :=
  Plan.signedWithin unconcerned.indifferent fun _ own => by
    rw [serves.unsigned] at own
    contradiction

include departs

/-- A request carries the conditions that stand for its attempt. -/
theorem carries_of_departs (unconditional : Unconditional run.context.userHeaders) :
    Carries (download.conditionsOf trip.state) trip.prepared := by
  obtain ⟨headed, heads, kept⟩ := departs.completes (signs serves Request.sameConditions_unconcerned)
    Request.sameConditions_unconcerned unconditional.keeps
  exact (headed_carries serves heads).of_same kept

/-- A request goes where its attempt is. -/
theorem goes_of_departs : ∃ built addressed, download.request trip.state = .ok built ∧
    built.applyLocation plan.endpoints trip.state.location = .ok addressed ∧
    trip.prepared.target = addressed.target := by
  have user : (Request.addHeaders run.context.userHeaders).Keeps sameTarget :=
    .change fun request => Request.setHeaders_sameTarget request _
  obtain ⟨headed, heads, kept⟩ := departs.completes (signs serves Request.sameTarget_unconcerned)
    Request.sameTarget_unconcerned user
  obtain ⟨built, addressed, builds, applied, target⟩ := headed_target serves heads
  exact ⟨built, addressed, builds, applied, Eq.trans kept target⟩

/-- Attempts at the same location send their requests to the same place. -/
theorem goes_alike {other : Trip σ τ ω} {reached : Progress} {begun : Run σ τ ω}
    (departsToo : plan.Departs reached begun other) (same : other.state.location = trip.state.location) :
    other.prepared.target = trip.prepared.target := by
  obtain ⟨built, addressed, builds, applied, target⟩ := goes_of_departs serves departs
  obtain ⟨builtToo, addressedToo, buildsToo, appliedToo, targetToo⟩ := goes_of_departs serves departsToo
  have plain : ∀ {state request}, download.request state = .ok request → request.protocol = none := by
    intro state request builds
    have kept : (Frame.same Request.protocol).rel _ request := request_keeps (fun _ _ _ _ => rfl) builds
    exact kept
  rw [same] at appliedToo
  rw [target, targetToo]
  exact Request.target_of_applyLocation appliedToo applied ((plain buildsToo).trans (plain builds).symm)

end Sent

/-- There is only one first attempt to have its response accepted. -/
theorem Split.unique {trips early late early' late' : List (Trip σ τ ω)} {first first' : Trip σ τ ω}
    {response response' : Response} (split : download.Split trips early first response late)
    (trips_eq : trips = early' ++ first' :: late') (refused : ∀ trip ∈ early', trip.accepted = none)
    (accepted : first'.accepted = some response') :
    early' = early ∧ first' = first ∧ late' = late ∧ response' = response := by
  have rest : ∀ {early late : List (Trip σ τ ω)} {first response}, trips = early ++ first :: late →
      (∀ trip ∈ early, trip.accepted = none) → first.accepted = some response →
      trips.dropWhile (·.accepted.isNone) = first :: late := by
    intro early late first response eq refused accepted
    rw [eq, List.dropWhile_append_of_pos fun trip member => by rw [refused trip member]; rfl]
    exact List.dropWhile_cons_of_neg (by rw [accepted]; exact Bool.false_ne_true)
  have same := (rest trips_eq refused accepted).symm.trans
    (rest split.trips (fun trip member => (split.early trip member).1) split.accepted)
  obtain ⟨rfl, rfl⟩ := List.cons.inj same
  refine ⟨List.append_cancel_right (trips_eq.symm.trans split.trips), rfl, rfl, ?_⟩
  exact Option.some.inj (accepted.symm.trans split.accepted)

/-- An attempt that stays with a response that was accepted before: it goes where that attempt went, and
its request carries the entity tag of the response and the other conditions of the caller. -/
structure Pinned (download : Download) (first : Trip σ τ ω) (response : Response) (trip : Trip σ τ ω) :
    Prop where
  location : trip.state.location = first.state.location
  target : trip.prepared.target = first.prepared.target
  carries : Carries (download.conditionsAfter response) trip.prepared
  tag : response.etag.truthy = true → trip.prepared.headers.under "if-match" = [response.etag]

theorem tag_of_carries {response : Response} (carries : Carries (download.conditionsAfter response) request)
    (truthy : response.etag.truthy = true) : request.headers.under "if-match" = [response.etag] := by
  let kind : Request.Condition := ⟨"If-Match", AccessCondition.ifMatch, .ok⟩
  have said := carries kind List.mem_cons_self
  have tagged : kind.said ((download.conditions.getD {}).withIfMatch response.etag) =
      .ok [response.etag] := if_pos truthy
  rw [conditionsAfter, if_pos truthy, Option.getD_some, tagged] at said
  have key : kind.key = "if-match" := by decide
  rw [← key]
  exact (Except.ok.inj said).symm

section Split

variable {trips early late : List (Trip σ τ ω)} {first : Trip σ τ ω} {response : Response}
  (split : download.Split trips early first response late)
  (carries : ∀ trip ∈ trips, Carries (download.conditionsOf trip.state) trip.prepared)
include split carries

theorem Split.carries_given : ∀ trip ∈ early ++ [first], Carries download.conditions trip.prepared := by
  intro trip member
  have inRun : trip ∈ trips := by
    rw [split.trips, ← List.singleton_append, ← List.append_assoc]
    exact List.mem_append_left _ member
  have fresh : Fresh trip.state := by
    rcases List.mem_append.mp member with before | one
    · exact (split.early trip before).2
    · exact List.mem_singleton.mp one ▸ split.fresh
  exact fresh.conditions ▸ carries trip inRun

theorem Split.pins [Seconds τ] {plan : Plan σ τ ω} (serves : plan.Serves download write)
    (departs : ∀ trip ∈ trips, ∃ progress reached, plan.Departs progress reached trip) :
    ∀ trip ∈ late, download.Pinned first response trip := by
  intro trip member
  rw [split.trips] at departs carries
  obtain ⟨_, _, departsFirst⟩ := departs first (List.mem_append_right _ List.mem_cons_self)
  have inRun : trip ∈ early ++ first :: late := List.mem_append_right _ (List.mem_cons_of_mem _ member)
  obtain ⟨_, _, departsToo⟩ := departs trip inRun
  obtain ⟨content, held⟩ := split.late trip member
  have carriesTag : Carries (download.conditionsAfter response) trip.prepared :=
    held.conditions ▸ carries trip inRun
  exact ⟨held.location, goes_alike serves departsFirst departsToo held.location, carriesTag,
    tag_of_carries carriesTag⟩

end Split

section Operation

variable [Seconds τ] {engine : Engine σ τ} {operation : Operation σ τ ω}
  (policy : Option (Policy σ τ)) {handlers : Handlers σ} {options : Options τ (Policy σ τ)}
  {endpoints : Option Endpoints} {run : Run σ τ ω}

/-- A download from the first attempt to have its response accepted. Up to that one, the requests carry
the conditions of the caller and no others. All attempts after it are pinned, and an answer is what that
response told. -/
theorem execute_pins (made : download.operation write options endpoints = .ok operation)
    (unconditional : Unconditional run.context.userHeaders) (turns : Nat)
    {early late : List (Trip σ τ ω)} {first : Trip σ τ ω} {response : Response}
    (trips_eq : engine.trips operation policy handlers turns run = early ++ first :: late)
    (refused : ∀ trip ∈ early, trip.accepted = none) (accepted : first.accepted = some response) :
    (∀ trip ∈ early ++ [first], Carries download.conditions trip.prepared) ∧
      (∀ trip ∈ late, download.Pinned first response trip) ∧
      first.prepared.location.map Named.known = some first.state.location ∧
      (∀ trip ∈ early ++ first :: late, engine.Passes handlers trip.prepared trip.request) ∧
      ∀ answer, (engine.execute operation policy handlers turns run).1 = .ok (some answer) →
        ∃ known, properties first.state response = .ok known ∧ answer = .value known := by
  have inRun : first ∈ early ++ first :: late := List.mem_append_right _ List.mem_cons_self
  cases planned : engine.planFor operation policy handlers run with
  | error fault =>
      rw [Engine.trips_of_refusal planned] at trips_eq
      rw [← trips_eq] at inRun
      exact absurd inRun List.not_mem_nil
  | ok settled =>
  obtain ⟨plan, start⟩ := settled
  have course := Engine.course_of_plan planned turns
  have served : Served (.any write) download (engine.trips operation policy handlers turns run) run
      (engine.execute operation policy handlers turns run).2
      (engine.execute operation policy handlers turns run).1 := execute_served _ policy made turns
  obtain ⟨rfl, rfl, rfl, mode, location, _, rfl⟩ := Engine.planFor_eq planned
  have serves := Plan.serves_of_operation made
  have departs := course.departs
  have carries : ∀ trip ∈ plan.engine.trips plan.operation policy plan.handlers turns run,
      Carries (download.conditionsOf trip.state) trip.prepared := by
    intro trip member
    obtain ⟨progress, reached, departs, user⟩ := departs trip member
    exact carries_of_departs serves departs (user ▸ unconditional)
  cases served with
  | never none _ _ =>
      have unaccepted := (none first (trips_eq ▸ inRun)).1
      rw [accepted] at unaccepted
      contradiction
  | once split _ fulfils =>
      obtain ⟨rfl, rfl, rfl, rfl⟩ := split.unique trips_eq refused accepted
      refine ⟨split.carries_given carries, split.pins carries serves ?_, ?_, ?_, ?_⟩
      · intro trip member
        obtain ⟨progress, reached, departs, _⟩ := departs trip member
        exact ⟨progress, reached, departs⟩
      · obtain ⟨_, _, departsFirst, _⟩ := departs first (trips_eq ▸ inRun)
        obtain ⟨built, addressed, _, applied, target⟩ := goes_of_departs serves departsFirst
        rw [show first.prepared.location = addressed.location from congrArg (fun goal => goal.2.2) target]
        exact (Request.applyLocation_eq applied).2
      · intro trip member
        obtain ⟨_, _, departsToo, _⟩ := departs trip (trips_eq ▸ member)
        exact departsToo.passes
      · exact fun answer answered => (fulfils answer answered).properties

end Operation

namespace Tagged

/-! An account with two locations. The primary one is busy, and the secondary one loses the connection
after half of the content. By the time it sends the rest, it has another version. -/

def replies : Nat → Reply
  | 0 => .plain 503 "0" [] none
  | 1 => let reply := Reply.plain 200 "4" [1, 2] (some .lost)
    { reply with headers := reply.headers.set "ETag" (.text "1") }
  | _ => let reply := Reply.plain 206 "2" [3, 4] none
    { reply with headers := reply.headers.set "ETag" (.text "2") }

def engine : Engine Nat Number :=
  { Engine.answering replies with client := .paired .persistent }

def leased : Download :=
  { path := "a", conditions := some { leaseId := .text "lease" } }

def operation : Operation Nat Number (List (List UInt8)) :=
  (leased.operation keep { mode := some (.known .primaryThenSecondary) } none).toOption.get rfl

def begun : Run Nat Number (List (List UInt8)) :=
  .plain

def trips : List (Trip Nat Number (List (List UInt8))) :=
  engine.trips operation none {} 3 begun

/-- The third attempt goes to the secondary location again, and it asks for the version that the second
one was given. -/
theorem third_pinned : ∃ busy first last response, trips = [busy, first, last] ∧ busy.accepted = none ∧
    first.accepted = some response ∧ response.etag.toText = "1" ∧
    Carries leased.conditions busy.prepared ∧ Carries leased.conditions first.prepared ∧
    leased.Pinned first response last ∧ last.request = last.prepared := by
  have long : trips.length = 3 := by decide +kernel
  have tags : trips.map (fun trip => trip.accepted.map fun response => response.etag.toText) =
      [none, some "1", some "2"] := by
    decide +kernel
  obtain ⟨busy, first, last, eq⟩ := List.length_eq_three.mp long
  rw [eq, List.map_cons, List.map_cons] at tags
  obtain ⟨untagged, tags⟩ := List.cons.inj tags
  obtain ⟨response, accepted, tag⟩ := Option.map_eq_some_iff.mp (List.cons.inj tags).1
  have refused : busy.accepted = none := Option.map_eq_none_iff.mp untagged
  have made : leased.operation keep { mode := some (.known .primaryThenSecondary) } none = .ok operation :=
    rfl
  have unconditional : Unconditional begun.context.userHeaders := nofun
  have split : engine.trips operation none {} 3 begun = [busy] ++ first :: [last] := eq
  obtain ⟨before, after, _, passes, _⟩ := execute_pins none made unconditional 3 split
    (List.forall_mem_singleton.mpr refused) accepted
  exact ⟨busy, first, last, response, eq, refused, accepted, tag, before busy (by simp),
    before first (by simp), after last List.mem_cons_self, (passes last (by simp)).eq rfl⟩

end Tagged

end Download

end ObjectStore
