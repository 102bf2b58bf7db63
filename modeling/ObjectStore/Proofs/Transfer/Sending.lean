import ObjectStore.Proofs.Engine.Plain
import ObjectStore.Proofs.Engine.Work
import ObjectStore.Proofs.Request.ConditionHeader
import ObjectStore.Proofs.Request.Parcel
import ObjectStore.Transfer.Upload

/-! Uploads send the same bytes in every attempt. Wherever an attempt leaves the stream, the next one goes
back to the mark, and what it reads from there is the part that was to be sent at first. If the stream ends
before, nothing is sent at all. -/

namespace ObjectStore

open Request (Parcel sameParcel Unlabelled)

variable {σ τ : Type}

namespace Upload

/-- The stream may stand elsewhere. -/
def sameSource : Frame Stream :=
  .same fun stream => (stream.kind, stream.content)

/-- How much is to be sent of a stream, which is negative if it stands beyond its end. -/
def wanted (upload : Upload) (stream : Stream) : Int :=
  upload.count.getD ((stream.content.length : Int) - stream.position)

/-- So much from where the stream stands. -/
def part (upload : Upload) (stream : Stream) : List UInt8 :=
  stream.rest.take (upload.wanted stream).toNat

/-- As much follows as is to be sent. -/
def Fits (upload : Upload) (stream : Stream) : Prop :=
  0 ≤ upload.wanted stream ∧ upload.wanted stream ≤ stream.rest.length

instance (upload : Upload) (stream : Stream) : Decidable (upload.Fits stream) :=
  inferInstanceAs (Decidable (_ ∧ _))

/-- The fault of a stream that ends before. -/
def shortage (upload : Upload) (stream : Stream) : Fault :=
  Cause.sourceEnded stream.rest.length (upload.wanted stream)

variable {upload : Upload} {stream source : Stream} {state : AttemptState}

theorem read_eq (count : Int) (stream : Stream) :
    read count stream = (.ok (stream.read count).1, (stream.read count).2) := rfl

theorem seek_of_seekable (seekable : stream.canSeek = true) (position : Nat) :
    seek position stream = (.ok (), stream.seek position) := by
  have forward : ¬ (position : Int) < 0 := by omega
  rw [seek, Act.bind_of_ok (Act.read_apply stream), if_pos seekable, if_neg forward]
  rfl

theorem seek_keeps (position : Int) : (seek position).Keeps sameSource := by
  refine .bind .read fun stream => ?_
  split
  · split
    · exact .fail _
    · exact .change fun _ => rfl
  · exact .fail _

theorem readPart_keeps (state : AttemptState) : (readPart state).Keeps sameSource := by
  refine .bind (seek_keeps _) fun _ => ?_
  have reads : ∀ count, (read count).Keeps sameSource := fun _ _ => rfl
  refine .bind (reads _) fun content => ?_
  split
  · exact .pure _
  · exact .fail _

/-- An attempt starts from the mark, with the count that was found when the operation was made. -/
structure Marked (upload : Upload) (stream : Stream) (state : AttemptState) : Prop where
  offset : state.offset = some (stream.position : Int)
  length : state.length = some (upload.wanted stream)
  mode : state.mode = .known .primaryOnly
  location : state.location = .known .primary

theorem read_of_fits (fits : upload.Fits stream) :
    (stream.read (upload.wanted stream)).1 = upload.part stream ∧
      ((upload.part stream).length : Int) = upload.wanted stream := by
  obtain ⟨forward, enough⟩ := fits
  have taken : (upload.part stream).length = (upload.wanted stream).toNat :=
    List.length_take_of_le (by omega)
  refine ⟨?_, by omega⟩
  rw [Stream.read, if_neg (by omega)]
  rfl

theorem read_of_short (short : ¬ upload.Fits stream) :
    (stream.read (upload.wanted stream)).1.length = stream.rest.length := by
  unfold Fits at short
  unfold Stream.read
  dsimp only
  split
  · rfl
  · rw [List.length_take]
    omega

/-- The part is read, however far the stream was read before. -/
theorem readPart_of_marked (seekable : stream.canSeek = true) (marked : upload.Marked stream state)
    (same : sameSource.rel stream source) : (readPart state source).1 =
      if upload.Fits stream then .ok (upload.part stream) else .error (upload.shortage stream) := by
  obtain ⟨kind, content⟩ := Prod.mk.inj (show (source.kind, source.content) = _ from same)
  have seekableToo : source.canSeek = true := by rwa [Stream.canSeek, kind]
  have again : ((source.seek stream.position).read (upload.wanted stream)).1 =
      (stream.read (upload.wanted stream)).1 := by
    simp only [Stream.read, Stream.rest, Stream.seek, content]
  rw [readPart, marked.offset, marked.length, Option.getD_some, Option.getD_some,
    Act.bind_of_ok (seek_of_seekable seekableToo _), Act.bind_of_ok (read_eq _ _), again]
  by_cases fits : upload.Fits stream
  · obtain ⟨read, whole⟩ := read_of_fits fits
    rw [read, if_pos whole, if_pos fits]
    rfl
  · have length := read_of_short fits
    have short : ((stream.rest.length : Nat) : Int) ≠ upload.wanted stream :=
      fun same => fits ⟨by omega, by omega⟩
    rw [length, if_neg short, if_neg fits]
    rfl

/-- An upload as an operation that goes on from where a stream stands. -/
structure Serves (upload : Upload) (stream : Stream) (operation : Operation σ τ Stream) : Prop where
  build : operation.build = fun state => do return upload.request (← Step.onWork (readPart state))
  setHeaders : operation.setHeaders = fun _ request =>
    Act.ofExcept (Download.setConditions upload.conditions request)
  unsigned : operation.sign = none
  judge : operation.judge = Operation.judgeStatus isAccepted
  finish : operation.finish = fun _ => do return .value (properties (← Act.read).response)
  recover : operation.recover = fun state => do
    Step.onWork (seek (state.offset.getD 0))
    return state
  restriction : operation.restriction = .known .primaryOnly
  start : operation.start =
    { offset := some (stream.position : Int), length := some (upload.wanted stream) }

theorem kind_of_seekable (seekable : stream.canSeek = true) :
    stream.kind = .memory ∨ stream.kind = .file := by
  simpa only [Stream.canSeek, Bool.or_eq_true, beq_iff_eq] using seekable

theorem readable_of_seekable (seekable : stream.canSeek = true) :
    (Value.stream stream).requireReadable "stream" = .ok () := by
  have canRead : stream.canRead = true := by
    rcases kind_of_seekable seekable with kind | kind <;> rw [Stream.canRead, kind] <;> rfl
  exact if_pos canRead

theorem mark_of_seekable (seekable : stream.canSeek = true) : mark stream = .ok stream.position := by
  rcases kind_of_seekable seekable with kind | kind <;> rw [mark, Stream.tell?, kind]

theorem requireNotNegative_int (count : Int) (name : String) :
    (Value.int count).requireNotNegative name =
      if count < 0 then .error (Cause.negative name) else .ok () := by
  have order : (Number.int count).lt (.int 0) = decide (count < 0) := by
    rw [Bool.eq_iff_iff]
    simp [Number.lt, Number.compare?, Int.compare_eq_lt]
  simp only [Value.requireNotNegative, Value.int, Value.number?, order, decide_eq_true_eq]

theorem extent_of_seekable (seekable : stream.canSeek = true)
    (counted : ∀ count, upload.count = some count → 0 ≤ count) :
    upload.extent stream = .ok (stream.position, upload.wanted stream) := by
  rw [extent, readable_of_seekable seekable, mark_of_seekable seekable, wanted]
  cases given : upload.count with
  | none =>
      rw [Upload.rest, if_pos seekable]
      rfl
  | some count =>
      have forward : ¬ count < 0 := Int.not_lt.mpr (counted count given)
      rw [Value.ofOption, requireNotNegative_int, if_neg forward]
      rfl

theorem operation_of_negative (seekable : stream.canSeek = true) {count : Int}
    (given : upload.count = some count) (negative : count < 0) (options : Options τ (Policy σ τ))
    (endpoints : Option Endpoints) :
    upload.operation stream options endpoints = .error (Cause.negative "count") := by
  rw [Upload.operation, extent, readable_of_seekable seekable, given, Value.ofOption,
    requireNotNegative_int, if_pos negative]
  rfl

/-- There is such an operation for every stream that can be sought, unless a negative count is given. -/
theorem serves_exists (upload : Upload) (seekable : stream.canSeek = true)
    (counted : ∀ count, upload.count = some count → 0 ≤ count) (options : Options τ (Policy σ τ))
    (endpoints : Option Endpoints) : ∃ operation,
      upload.operation stream options endpoints = .ok operation ∧ upload.Serves stream operation := by
  simp only [Upload.operation, extent_of_seekable seekable counted, bind, Except.bind]
  exact ⟨_, rfl, rfl, rfl, rfl, rfl, rfl, rfl, rfl, rfl⟩

section Serves

variable {operation : Operation σ τ Stream} (serves : upload.Serves stream operation)
include serves

/-- No step of it does more to the stream than to move it. -/
theorem Serves.handles : operation.Handles sameSource where
  builds state := by
    rw [serves.build]
    exact .bind (.on (readPart_keeps state) fun _ _ kept => kept) fun _ => .pure _
  heads state request := by
    rw [serves.setHeaders]
    exact .ofExcept _
  signs sign own := by
    rw [serves.unsigned] at own
    contradiction
  judges := by
    rw [serves.judge]
    exact Operation.judgeStatus_keeps (fun receipt _ => sameSource.refl receipt.bench.work) _
  finishes product := by
    rw [serves.finish]
    exact .bind .read fun _ => .pure _
  recovers state := by
    rw [serves.recover]
    exact .bind (.on (seek_keeps _) fun _ _ kept => kept) fun _ => .pure _

/-- Its attempts leave their state alone. -/
theorem Serves.within : operation.Within (.same id) where
  judges := by
    rw [serves.judge]
    exact Operation.judgeStatus_keeps (fun _ _ => rfl) _
  finishes product := by
    rw [serves.finish]
    exact .bind .read fun _ => .pure _
  recovers state := by
    rw [serves.recover]
    exact .after fun _ => .pure rfl

theorem Serves.build_eq (state : AttemptState) (bench : Bench σ Stream) :
    (operation.build state bench).1 = (readPart state bench.work).1.map upload.request := by
  rw [serves.build]
  show ((Step.onWork (readPart state) >>= fun content => pure (upload.request content)) bench).1 = _
  rw [Act.bind_apply, Step.onWork, Act.on_apply]
  cases (readPart state bench.work).1 <;> rfl

end Serves

/-- The headers that are given for an upload do not speak of its content. -/
theorem request_parcel (unlabelled : Unlabelled upload.headers) (content : List UInt8) :
    (upload.request content).parcel =
      { method := "PUT"
        target := (none, "", none)
        path := some upload.path
        body := .bytes content
        length := []
        digest := if upload.withDigest then [.text (Value.md5Text content)] else [] } := by
  unfold Upload.request
  dsimp only
  let bare : Request := { method := "PUT", path := some upload.path, body := .bytes content }
  have plain : sameParcel.rel bare (Request.addMetadata upload.metadata
      (bare.setHeaders (upload.headers.getD Fields.empty))).2 :=
    sameParcel.trans (Request.setHeaders_sameParcel unlabelled bare) (Request.addMetadata_sameParcel _ _)
  generalize (Request.addMetadata upload.metadata
    (bare.setHeaders (upload.headers.getD Fields.empty))).2 = titled at plain
  split
  · have length : (titled.setHeader "Content-MD5" (.text (Value.md5Text content))).headers.under
        "content-length" = titled.headers.under "content-length" :=
      Fields.under_set_of_ne (by decide) _ _
    have digest : (titled.setHeader "Content-MD5" (.text (Value.md5Text content))).headers.under
        "content-md5" = [.text (Value.md5Text content)] :=
      Fields.under_set_of_fresh (congrArg Parcel.digest plain) (by decide) _
    rw [Request.parcel, length, digest]
    exact congrArg (fun parcel : Parcel => { parcel with digest := [.text (Value.md5Text content)] }) plain
  · exact plain

/-- A request that puts some content at the primary location. -/
structure Puts (upload : Upload) (endpoints : Endpoints) (content : List UInt8) (request : Request) :
    Prop where
  method : request.method = "PUT"
  place : ∃ addressed, (upload.request content).applyLocation endpoints (.known .primary) = .ok addressed ∧
    request.target = addressed.target ∧ request.path = addressed.path.map Path.encode
  body : request.body = .bytes content
  length : request.headers.under "content-length" = [.text (toString content.length)]
  digest : request.headers.under "content-md5" =
    if upload.withDigest then [.text (Value.md5Text content)] else []

/-- What is sent of such a request. Empty content goes out as no data. -/
structure Delivers (upload : Upload) (endpoints : Endpoints) (content : List UInt8) (outgoing : Outgoing τ) :
    Prop where
  method : outgoing.method = "PUT"
  url : ∃ addressed protocol path,
    (upload.request content).applyLocation endpoints (.known .primary) = .ok addressed ∧
    addressed.path = some path ∧
    outgoing.url = Text.lowerCase protocol ++ "://" ++ addressed.host ++ Path.encode path
  data : outgoing.data = if content.isEmpty then .null else .bytes content
  length : outgoing.headers.under "content-length" = [.text (toString content.length)]
  digest : outgoing.headers.under "content-md5" =
    if upload.withDigest then [.text (Value.md5Text content)] else []

section Puts

variable {endpoints : Endpoints} {content : List UInt8} {request sent : Request}

theorem Puts.of_same (puts : upload.Puts endpoints content request) (same : sameParcel.rel request sent) :
    upload.Puts endpoints content sent := by
  simp only [sameParcel, Frame.same, Request.parcel, Parcel.mk.injEq] at same
  obtain ⟨method, target, path, body, length, digest⟩ := same
  obtain ⟨addressed, applied, there, goes⟩ := puts.place
  exact ⟨method.trans puts.method, ⟨addressed, applied, target.trans there, path.trans goes⟩,
    body.trans puts.body, length.trans puts.length, digest.trans puts.digest⟩

theorem Puts.delivers (puts : upload.Puts endpoints content request) {outgoing : Outgoing τ}
    (shows : outgoing.Shows request) : upload.Delivers endpoints content outgoing where
  method := shows.method.trans puts.method
  url := by
    obtain ⟨addressed, applied, target, path⟩ := puts.place
    obtain ⟨protocol, encoded, located, url⟩ := shows.url
    rw [path] at located
    obtain ⟨plain, given, rfl⟩ := Option.map_eq_some_iff.mp located
    have host : request.host = addressed.host := congrArg (fun target => target.2.1) target
    exact ⟨addressed, protocol, plain, applied, given, host ▸ url⟩
  data := by
    have data := shows.data
    rw [puts.body] at data
    cases content with
    | nil => exact (Except.ok.inj data).symm
    | cons byte rest => exact (Except.ok.inj data).symm
  length := by rw [shows.headers, puts.length]
  digest := by rw [shows.headers, puts.digest]

/-- A request that is built from some content, pointed at the primary location and completed puts it there. -/
theorem puts_of_completed {addressed headed : Request} {headers : Option (Fields Value)}
    (unlabelled : Unlabelled upload.headers) (unlabelledToo : Unlabelled headers)
    (applied : (upload.request content).applyLocation endpoints (.known .primary) = .ok addressed)
    (heads : sameParcel.rel addressed headed) {sender : Request.Sender} {requestId timeout : Value}
    (completes : (do
      Request.addHeaders headers
      Request.complete sender requestId timeout) headed = (.ok (), request)) :
    upload.Puts endpoints content request := by
  have built := request_parcel unlabelled content
  have pointed : addressed.parcel = { (upload.request content).parcel with
      target := addressed.target, path := addressed.path } := by
    obtain ⟨_, _, _, _, _, rfl⟩ := Request.applyLocation_points applied
    rfl
  rw [built] at pointed
  have titled := Eq.trans heads pointed
  simp only [Request.parcel, Parcel.mk.injEq] at titled
  obtain ⟨method, target, path, body, length, digest⟩ := titled
  have carries : Request.methodsWithContent.contains headed.method = true := by
    rw [method]
    decide
  have completed := (Act.ends_of_ok completes).mp
    (Request.complete_parcel unlabelledToo carries body length sender requestId timeout)
  simp only [Request.parcel, Parcel.mk.injEq] at completed
  obtain ⟨methodToo, targetToo, pathToo, bodyToo, announced, digestToo⟩ := completed
  exact ⟨methodToo.trans method, ⟨addressed, applied, targetToo.trans target, by rw [pathToo, path]⟩,
    bodyToo.trans body, announced, digestToo.trans digest⟩

end Puts

section Plan

variable [Seconds τ] {plan : Plan σ τ Stream} {progress next : Progress} {run after : Run σ τ Stream}
  {trip : Trip σ τ Stream} (serves : upload.Serves stream plan.operation) (seekable : stream.canSeek = true)
include serves

omit [Seconds τ] in
theorem Serves.signs {inner : Frame Request} (indifferent : Request.Indifferent inner) :
    plan.SignedWithin inner :=
  Plan.signedWithin indifferent fun _ own => by
    rw [serves.unsigned] at own
    contradiction

/-- Where an upload stands when a turn begins: at the mark, with the stream that it was made for. -/
structure Stands (upload : Upload) (stream : Stream) (headers : Option (Fields Value)) (progress : Progress)
    (run : Run σ τ Stream) : Prop where
  marked : upload.Marked stream progress.state
  source : sameSource.rel stream run.work
  headers : run.context.userHeaders = headers

variable {headers : Option (Fields Value)}

theorem Stands.onward (stands : upload.Stands stream headers progress run)
    (leads : plan.Leads progress run next after) : upload.Stands stream headers next after := by
  obtain ⟨recovered, location, same, moved, state⟩ := leads.advances serves.within
  obtain rfl : recovered = progress.state := same
  obtain ⟨offset, length, mode, place⟩ := stands.marked
  rw [mode] at moved
  obtain ⟨_, rfl⟩ := Endpoints.reach_eq_ok.mp moved
  refine ⟨?_, sameSource.trans stands.source (leads.works serves.handles), leads.user.trans stands.headers⟩
  rw [state]
  exact ⟨offset, length, mode, rfl⟩

include seekable

/-- An attempt that gets as far as a request sends the part that was to be sent. -/
theorem Stands.puts (stands : upload.Stands stream headers progress run)
    (unlabelled : Unlabelled upload.headers) (unlabelledToo : Unlabelled headers)
    (departs : plan.Departs progress run trip) :
    upload.Fits stream ∧ upload.Puts plan.endpoints (upload.part stream) trip.prepared := by
  have indifferent := Request.sameParcel_indifferent
  obtain ⟨headed, request, composed, completes, kept⟩ :=
    departs.composes (serves.signs indifferent) indifferent
  obtain ⟨world, built, addressed, bench, builds, applied, heads⟩ := composed
  rw [departs.state] at builds applied heads
  rw [serves.build_eq, readPart_of_marked seekable stands.marked stands.source] at builds
  rw [stands.marked.location] at applied
  rw [serves.setHeaders] at heads
  rw [← stands.headers] at unlabelledToo
  split at builds
  · next fits =>
    obtain rfl : upload.request (upload.part stream) = built := Except.ok.inj builds
    have titled : sameParcel.rel addressed headed :=
      Download.setConditions_keeps (fun kind member => by
        have foreign : ∀ kind ∈ Request.Condition.all, Text.lowerCase kind.name ≠ "content-length" ∧
            Text.lowerCase kind.name ≠ "content-md5" := by
          decide
        obtain ⟨length, digest⟩ := foreign kind member
        exact Request.setHeader_sameParcel length digest) heads
    exact ⟨fits, (puts_of_completed unlabelled unlabelledToo applied titled completes).of_same kept⟩
  · contradiction

/-- If the stream ends before, the first attempt ends the upload. -/
theorem Stands.stops (stands : upload.Stands stream headers progress run) (short : ¬ upload.Fits stream)
    {checked : Run σ τ Stream} (checks : plan.check progress.last run = (.ok (), checked)) :
    ∃ after, plan.depart progress run = (.error ⟨upload.shortage stream, .unprepared, none⟩, after) := by
  have aside : (plan.check progress.last).Keeps (Run.aside (.any σ)) := plan.check_keeps plan.say_keeps _
  have sourceToo : sameSource.rel stream checked.work := by
    rw [(aside.of_ok checks).work]
    exact stands.source
  have unbuilt : (plan.operation.build progress.state ⟨checked.world, checked.work, []⟩).1 =
      .error (upload.shortage stream) := by
    rw [serves.build_eq, readPart_of_marked seekable stands.marked sourceToo, if_neg short]
    rfl
  obtain ⟨prepared, unprepared⟩ := Plan.prepared_of_unbuilt unbuilt
  exact Plan.depart_of_unprepared checks unprepared rfl

end Plan

section Operation

variable [Seconds τ] {engine : Engine σ τ} {operation : Operation σ τ Stream}
  {policy : Option (Policy σ τ)} {handlers : Handlers σ} {run : Run σ τ Stream} {plan : Plan σ τ Stream}
  {start : AttemptState}

/-- An upload begins at the mark, whatever has become of the position since it was made. -/
theorem Serves.stands (serves : upload.Serves stream operation)
    (planned : engine.planFor operation policy handlers run = .ok (plan, start))
    (same : sameSource.rel stream run.work) :
    upload.Stands stream run.context.userHeaders ⟨start, none⟩ (Engine.opened run) := by
  obtain ⟨mode, location⟩ := Engine.planFor_primary planned serves.restriction
  obtain ⟨_, _, _, _, _, _, rfl⟩ := Engine.planFor_eq planned
  refine ⟨⟨?_, ?_, mode, location⟩, same, rfl⟩
  · exact congrArg AttemptState.offset serves.start
  · exact congrArg AttemptState.length serves.start

theorem Serves.sends (serves : upload.Serves stream operation) (seekable : stream.canSeek = true)
    (unlabelled : Unlabelled upload.headers) (unlabelledToo : Unlabelled run.context.userHeaders)
    (same : sameSource.rel stream run.work) {turns : Nat} {trip : Trip σ τ Stream}
    (member : trip ∈ engine.trips operation policy handlers turns run) :
    ∃ plan start, engine.planFor operation policy handlers run = .ok (plan, start) ∧
      upload.Fits stream ∧ upload.Puts plan.endpoints (upload.part stream) trip.prepared ∧
      engine.Passes handlers trip.prepared trip.request := by
  cases planned : engine.planFor operation policy handlers run with
  | error fault =>
      rw [Engine.trips_of_refusal planned] at member
      exact absurd member List.not_mem_nil
  | ok settled =>
      have begins := serves.stands planned same
      have course := Engine.course_of_plan planned turns
      obtain ⟨rfl, rfl, rfl, _⟩ := Engine.planFor_eq planned
      obtain ⟨progress, reached, departs, stands⟩ :=
        course.departs_of (fun leads stands => stands.onward serves leads) begins trip member
      obtain ⟨fits, puts⟩ := stands.puts serves seekable unlabelled unlabelledToo departs
      exact ⟨settled.1, settled.2, rfl, fits, puts, departs.passes⟩

theorem Serves.stops (serves : upload.Serves stream operation) (seekable : stream.canSeek = true)
    (same : sameSource.rel stream run.work) (short : ¬ upload.Fits stream)
    (planned : engine.planFor operation policy handlers run = .ok (plan, start)) {checked : Run σ τ Stream}
    (checks : plan.check none (Engine.opened run) = (.ok (), checked)) (turns : Nat) :
    (engine.execute operation policy handlers (turns + 1) run).1 =
      .error ⟨upload.shortage stream, .unprepared, none⟩ := by
  have begins := serves.stands planned same
  rw [Engine.execute_of_plan planned]
  obtain ⟨rfl, rfl, rfl, _⟩ := Engine.planFor_eq planned
  obtain ⟨after, refused⟩ := begins.stops serves seekable short checks
  rw [Plan.run_succ_of_failure (Plan.turn_of_refused refused)]

variable (policy handlers) (options : Options τ (Policy σ τ)) (endpoints : Option Endpoints)

/-- All requests of an upload put the part that follows the place where its stream stood when it was made.
Each of them is sent so unless a listener changes it. If the stream ends before, nothing is sent, and an
upload that is neither cancelled nor out of time ends with that fault. A negative count is refused at once. -/
theorem execute_sends_part (engine : Engine σ τ) (upload : Upload) (stream : Stream)
    (seekable : stream.canSeek = true) (unlabelled : Unlabelled upload.headers) (run : Run σ τ Stream)
    (same : sameSource.rel stream run.work) (unlabelledToo : Unlabelled run.context.userHeaders)
    (turns : Nat) :
    (∃ count, upload.count = some count ∧ count < 0 ∧
      upload.operation stream options endpoints = .error (Cause.negative "count")) ∨
    ∃ operation, upload.operation stream options endpoints = .ok operation ∧
      (engine.execute operation policy handlers turns run).2.requests =
        run.requests ++ (engine.trips operation policy handlers turns run).flatMap (engine.posted operation) ∧
      (∀ trip ∈ engine.trips operation policy handlers turns run,
        ∃ plan start, engine.planFor operation policy handlers run = .ok (plan, start) ∧
          upload.Fits stream ∧ upload.Puts plan.endpoints (upload.part stream) trip.prepared ∧
          engine.Passes handlers trip.prepared trip.request ∧
          (engine.Bounded handlers (sameParcel.within fun seen => seen.2.request) .sendingRequest →
            ∀ outgoing ∈ engine.posted operation trip,
              upload.Delivers plan.endpoints (upload.part stream) outgoing)) ∧
      (¬ upload.Fits stream → (upload.shortage stream).kind = .value ∧
        (engine.execute operation policy handlers turns run).2.requests = run.requests ∧
        ∀ plan start checked, engine.planFor operation policy handlers run = .ok (plan, start) →
          plan.check none (Engine.opened run) = (.ok (), checked) →
          (engine.execute operation policy handlers (turns + 1) run).1 =
            .error ⟨upload.shortage stream, .unprepared, none⟩) := by
  by_cases refused : ∃ count, upload.count = some count ∧ count < 0
  · obtain ⟨count, given, negative⟩ := refused
    exact .inl ⟨count, given, negative, operation_of_negative seekable given negative options endpoints⟩
  have counted : ∀ count, upload.count = some count → 0 ≤ count :=
    fun count given => Int.not_lt.mp fun negative => refused ⟨count, given, negative⟩
  obtain ⟨operation, made, serves⟩ := serves_exists upload seekable counted options endpoints
  have sends : ∀ trip ∈ engine.trips operation policy handlers turns run,
      ∃ plan start, engine.planFor operation policy handlers run = .ok (plan, start) ∧
        upload.Fits stream ∧ upload.Puts plan.endpoints (upload.part stream) trip.prepared ∧
        engine.Passes handlers trip.prepared trip.request :=
    fun trip member => serves.sends seekable unlabelled unlabelledToo same member
  refine .inr ⟨operation, made, Engine.execute_requests turns, ?_, ?_⟩
  · intro trip member
    obtain ⟨plan, start, planned, fits, puts, passes⟩ := sends trip member
    refine ⟨plan, start, planned, fits, puts, passes, fun bounded outgoing posts => ?_⟩
    have shows := Connection.outgoing_shows (Engine.mem_posted.mp posts)
    exact (puts.of_same (passes sameParcel bounded)).delivers shows
  · intro short
    have none : engine.trips operation policy handlers turns run = [] := by
      refine List.eq_nil_iff_forall_not_mem.mpr fun trip member => ?_
      obtain ⟨_, _, _, fits, _⟩ := sends trip member
      exact short fits
    refine ⟨rfl, by rw [Engine.execute_requests, none]; exact List.append_nil _, ?_⟩
    intro plan start checked planned checks
    exact serves.stops seekable same short planned checks turns

end Operation

end Upload

namespace Upload.Resent

/-! The service is busy once. By the time that the upload begins, the stream stands at its end. -/

def stream : Stream :=
  ⟨.memory, [1, 2, 3, 4, 5], 1⟩

def begun : Run Nat Number Stream :=
  ⟨0, stream.seek 5, .plain, []⟩

def engine : Engine Nat Number :=
  .answering Reply.busyOnce

def fitting : Upload :=
  { path := "a", count := some 3, withDigest := true }

def excessive : Upload :=
  { path := "a", count := some 9 }

def operation : Operation Nat Number Stream :=
  (fitting.operation stream {} none).toOption.get rfl

def settled : Plan Nat Number Stream × AttemptState :=
  (engine.planFor operation none {} begun).toOption.get rfl

def refused : Operation Nat Number Stream :=
  (excessive.operation stream {} none).toOption.get rfl

/-- Both attempts put the same three bytes. Nine bytes are refused, as only four follow. -/
theorem twice_the_same_part :
    (engine.trips operation none {} 2 begun).length = 2 ∧
      (∀ trip ∈ engine.trips operation none {} 2 begun,
        fitting.Puts settled.1.endpoints [2, 3, 4] trip.prepared ∧
        ∀ outgoing ∈ engine.posted operation trip,
          fitting.Delivers settled.1.endpoints [2, 3, 4] outgoing) ∧
      (engine.execute refused none {} 1 begun).1 =
        .error ⟨Cause.sourceEnded 4 9, .unprepared, none⟩ := by
  have unlabelled : Unlabelled none := nofun
  have seekable : stream.canSeek = true := by decide
  have same : sameSource.rel stream begun.work := rfl
  have untouched : engine.Bounded {} (sameParcel.within fun seen => seen.2.request) .sendingRequest :=
    fun _ none => absurd none List.not_mem_nil
  have sends := execute_sends_part none {} {} none engine fitting stream seekable unlabelled begun same
    unlabelled 2
  have stops := execute_sends_part none {} {} none engine excessive stream seekable unlabelled begun same
    unlabelled 0
  refine ⟨by decide +kernel, ?_, ?_⟩
  · obtain ⟨count, given, negative, _⟩ | ⟨_, made, _, puts, _⟩ := sends
    · cases given
      contradiction
    · obtain rfl : operation = _ := Except.ok.inj made
      intro trip member
      obtain ⟨plan, start, planned, _, putsPart, _, delivers⟩ := puts trip member
      obtain ⟨rfl, rfl⟩ : settled = (plan, start) := Except.ok.inj planned
      exact ⟨putsPart, delivers untouched⟩
  · obtain ⟨count, given, negative, _⟩ | ⟨_, made, _, _, stopped⟩ := stops
    · cases given
      contradiction
    · obtain rfl : refused = _ := Except.ok.inj made
      have short : ¬ excessive.Fits stream := by decide
      obtain ⟨_, _, ends⟩ := stopped short
      exact ends _ _ _ rfl rfl

end Upload.Resent

end ObjectStore
