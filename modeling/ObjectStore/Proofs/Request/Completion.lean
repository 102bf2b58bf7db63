import ObjectStore.Engine.Prepare
import ObjectStore.Proofs.Act.Frame

/-! What completing a request leaves alone. A request is completed by a few headers, by its query and
by its path, and a frame that does not count these is kept by every step that completes it. -/

namespace ObjectStore

theorem Stream.eq_position_of_tell {s : Stream} {start : Nat} (told : s.tell? = some start) :
    start = s.position := by
  unfold Stream.tell? at told
  split at told
  · exact (Option.some.inj told).symm
  · exact (Option.some.inj told).symm
  · exact (Option.some.inj told).symm
  all_goals contradiction

/-- A stream that was measured is where it was. -/
theorem Stream.measure_snd (s : Stream) : s.measure.2 = s := by
  unfold Stream.measure
  split
  · rfl
  · split
    · next start _ told _ =>
      rw [Stream.eq_position_of_tell told]
      rfl
    · rfl

theorem Value.measure_snd (value : Value) : value.measure.2 = value := by
  cases value with
  | stream s => exact congrArg Value.stream s.measure_snd
  | _ => rfl

/-- Content is given as it is. -/
theorem Value.eq_of_asContent {name : String} {value content : Value} (given : value.isNull = false)
    (accepted : value.asContent name = .ok content) : content = value := by
  unfold Value.asContent at accepted
  split at accepted
  · contradiction
  · exact (Except.ok.inj accepted).symm
  · split at accepted
    · exact (Except.ok.inj accepted).symm
    · contradiction

namespace Request

/-- What a request becomes when a length is announced, if its method has one. -/
def announced (methods : List String) (length : String) (request : Request) : Request :=
  if methods.contains request.method then request.setHeader "Content-Length" (.text length) else request

/-- A body that counts is measured and left as it is, and a length that cannot be told is a fault. -/
theorem addLength_eq (request : Request) : addLength request =
    if request.body.truthy then
      match request.body.asContent "request.body", request.body.length? with
      | .error fault, _ => (.error fault, request)
      | .ok _, none => (.error (Cause.unmeasurable "request.body"), request)
      | .ok _, some length => (.ok (), request.announced methodsWithLength (toString length))
    else (.ok (), request.announced methodsWithContent "0") := by
  rw [addLength, Act.bind_of_ok (Act.read_apply request)]
  by_cases counts : request.body.truthy = true
  · rw [if_pos counts, if_pos counts]
    cases accepted : request.body.asContent "request.body" with
    | error fault => rfl
    | ok content =>
        have given : request.body.isNull = false := by
          cases body : request.body <;> simp_all [Value.truthy, Value.isNull]
        obtain rfl := Value.eq_of_asContent given accepted
        have same : { request with body := request.body.measure.2 } = request := by
          rw [Value.measure_snd]
        rw [Act.bind_of_ok (Act.ofExcept_apply _ request)]
        dsimp only
        rw [Act.bind_of_ok (Act.change_apply _ request), same, Value.length?]
        cases request.body.measure.1 with
        | none => rfl
        | some length =>
            dsimp only
            unfold announced
            split <;> rfl
  · rw [if_neg counts, if_neg counts]
    unfold announced
    split <;> rfl

/-- The headers that are written when a request is completed, whatever it contains. -/
def regular : List String :=
  ["x-ms-version", "User-Agent", "x-ms-client-request-id", "x-ms-date", "Authorization"]

/-- The headers that are written when a request is completed. -/
def completing : List String :=
  ["Content-Length", "x-ms-version", "User-Agent", "x-ms-client-request-id", "x-ms-date", "Authorization"]

/-- A frame that counts nothing of what completes a request, except that it may count the length and the
path. -/
structure Indifferent (frame : Frame Request) : Prop where
  header : ∀ name ∈ regular, ∀ value request, frame.rel request (request.setHeader name value)
  query : ∀ request query, frame.rel request { request with query }

/-- A frame that counts nothing of what completes a request. -/
structure Unconcerned (frame : Frame Request) : Prop where
  header : ∀ name ∈ completing, ∀ value request, frame.rel request (request.setHeader name value)
  address : ∀ request query path, frame.rel request { request with query, path }

namespace Indifferent

variable {frame : Frame Request} (indifferent : Indifferent frame)
include indifferent

theorem addSender_keeps (sender : Sender) (requestId : Value) :
    (addSender sender requestId).Keeps frame := by
  refine .change fun request => ?_
  refine frame.trans (indifferent.header "x-ms-version" (by decide) sender.version request) ?_
  refine frame.trans (indifferent.header "User-Agent" (by decide) sender.agent _) ?_
  exact indifferent.header "x-ms-client-request-id" (by decide) requestId _

theorem addTimeout_keeps (timeout : Value) : (addTimeout timeout).Keeps frame := by
  unfold addTimeout
  split
  · exact .pure ()
  · exact .bind (.ofExcept _) fun seconds => .change fun request => indifferent.query request _

theorem addDate_keeps (seconds : Int) : (addDate seconds).Keeps frame :=
  .change (indifferent.header "x-ms-date" (by decide) _)

theorem sign_kept {authentication : Authentication} {request signed : Request}
    (done : (authentication.sign request).2 = .ok signed) : frame.rel request signed := by
  cases authentication with
  | anonymous =>
      cases done
      exact frame.refl request
  | token given =>
      cases done
      unfold Signing.Token.sign
      split
      · exact frame.refl request
      · exact indifferent.query request _
  | sharedKey scheme account key =>
      simp only [Authentication.sign] at done
      split at done
      · contradiction
      · contradiction
      · simp only [Authentication.signShared] at done
        split at done
        · cases done
          exact indifferent.header "Authorization" (by decide) _ request
        · contradiction

end Indifferent

namespace Unconcerned

variable {frame : Frame Request} (unconcerned : Unconcerned frame)
include unconcerned

theorem indifferent : Indifferent frame where
  header name member := unconcerned.header name (List.mem_cons_of_mem "Content-Length" member)
  query request query := unconcerned.address request query request.path

theorem announced_keeps (methods : List String) (length : String) (request : Request) :
    frame.rel request (request.announced methods length) := by
  unfold announced
  split
  · exact unconcerned.header "Content-Length" (by decide) _ request
  · exact frame.refl request

theorem addLength_keeps : addLength.Keeps frame := by
  intro request
  rw [addLength_eq]
  split
  · split
    · exact frame.refl request
    · exact frame.refl request
    · exact unconcerned.announced_keeps _ _ request
  · exact unconcerned.announced_keeps _ _ request

theorem encodePath_keeps : encodePath.Keeps frame := by
  refine .bind .read fun request => ?_
  split
  · exact .fail _
  · exact .change fun request => unconcerned.address request _ _

theorem complete_keeps (sender : Sender) (requestId timeout : Value) :
    (complete sender requestId timeout).Keeps frame := by
  refine .bind unconcerned.addLength_keeps fun _ => ?_
  refine .bind (unconcerned.indifferent.addSender_keeps _ _) fun _ => ?_
  exact .bind (unconcerned.indifferent.addTimeout_keeps _) fun _ => unconcerned.encodePath_keeps

end Unconcerned

/-- The location that a request was pointed at stays. -/
def sameLocation : Frame Request :=
  .same Request.location

theorem sameLocation_unconcerned : Unconcerned sameLocation where
  header _ _ _ _ := rfl
  address _ _ _ := rfl

theorem setHeaders_sameLocation (request : Request) (headers : Fields Value) :
    sameLocation.rel request (request.setHeaders headers) := rfl

/-- A request is pointed at a location by its address, and the rest of it is left alone. -/
theorem applyLocation_points {request addressed : Request} {endpoints : Endpoints}
    {location : Named Location} (applied : request.applyLocation endpoints location = .ok addressed) :
    ∃ protocol host path place, location = .known place ∧
      addressed = { request with protocol, host, path, location := some place } := by
  cases location with
  | other name => contradiction
  | known location =>
      simp only [applyLocation, Endpoints.locate, bind, Except.bind] at applied
      split at applied
      · contradiction
      · simp only [pointAt, bind, Except.bind] at applied
        split at applied
        · contradiction
        · cases applied
          exact ⟨_, _, _, location, rfl, rfl⟩

theorem applyLocation_eq {request addressed : Request} {endpoints : Endpoints}
    {location : Named Location} (applied : request.applyLocation endpoints location = .ok addressed) :
    addressed.headers = request.headers ∧ addressed.location.map Named.known = some location := by
  obtain ⟨_, _, _, _, rfl, rfl⟩ := applyLocation_points applied
  exact ⟨rfl, rfl⟩

/-- Where a request goes, as far as a location settles it. -/
def target (request : Request) : Option String × String × Option Location :=
  (request.protocol, request.host, request.location)

def sameTarget : Frame Request :=
  .same target

theorem sameTarget_unconcerned : Unconcerned sameTarget where
  header _ _ _ _ := rfl
  address _ _ _ := rfl

theorem setHeaders_sameTarget (request : Request) (headers : Fields Value) :
    sameTarget.rel request (request.setHeaders headers) := rfl

/-- Requests with the same protocol that are pointed at the same location go to the same place. -/
theorem target_of_applyLocation {request other addressed otherwise : Request} {endpoints : Endpoints}
    {location : Named Location} (applied : request.applyLocation endpoints location = .ok addressed)
    (appliedToo : other.applyLocation endpoints location = .ok otherwise)
    (same : request.protocol = other.protocol) : addressed.target = otherwise.target := by
  cases location with
  | other name => contradiction
  | known location =>
      simp only [applyLocation, Endpoints.locate, bind, Except.bind] at applied appliedToo
      split at applied
      · contradiction
      · next address given =>
        simp only [given, pointAt, bind, Except.bind] at applied appliedToo
        split at applied
        · contradiction
        · next uri parsed =>
          simp only [parsed] at appliedToo
          cases applied
          cases appliedToo
          simp only [target, same]

end Request

end ObjectStore
