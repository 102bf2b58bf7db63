import ObjectStore.Client.Operations
import ObjectStore.Proofs.Engine.Itinerary
import ObjectStore.Proofs.Request.Address
import ObjectStore.Proofs.Request.ConditionHeader

/-! Where the attempts to read the properties of a resource go, and the address that the client makes for it.
They are made in different ways: the one is read apart and encoded, the other is put together as it is. -/

namespace ObjectStore

variable {σ τ ω : Type}

namespace Request

/-- The scheme, the host and the path of what is sent. -/
def sameAddress : Frame Request :=
  .same fun request => (request.protocol, request.host, request.path)

theorem sameAddress_indifferent : Indifferent sameAddress where
  header _ _ _ _ := rfl
  query _ _ := rfl

end Request

namespace Client

variable {client : Client σ τ} {endpoints : Endpoints} {location : Location} {protocol address : String}

/-- The endpoint of a location, if one is configured. -/
def endpointOf (client : Client σ τ) : Location → Option String
  | .primary => client.primaryHost
  | .secondary => client.secondaryHost

/-- The address of the secondary location, which there need not be. -/
def secondaryAddress (protocol : String) : Option String → Except Fault (Option String)
  | none | some "" => .ok none
  | some endpoint => .ok (some (protocol ++ "://" ++ endpoint))

theorem endpoints_eq (given : client.connection.protocol = some protocol) : client.endpoints = (do
    let secondary ← secondaryAddress protocol client.secondaryHost
    let primary ← addressOf (some protocol) client.primaryHost
    return ⟨some primary, secondary, by simp⟩) := by
  rw [Client.endpoints, given]
  split
  · next none => rw [none]; rfl
  · next empty => rw [empty]; rfl
  · next host missing empty =>
    cases other : client.secondaryHost with
    | none => exact absurd other missing
    | some endpoint =>
        have nonempty : endpoint ≠ "" := fun same => empty (same ▸ other)
        rw [secondaryAddress]
        · rfl
        · exact nonempty

/-- The address of a location is its endpoint behind the protocol. -/
theorem address_of_endpoints (given : client.connection.protocol = some protocol)
    (made : client.endpoints = .ok endpoints) (known : endpoints.address? location = some address) :
    ∃ endpoint, client.endpointOf location = some endpoint ∧ address = protocol ++ "://" ++ endpoint := by
  rw [endpoints_eq given] at made
  obtain ⟨secondary, other, made⟩ := Act.except_bind_eq_ok.mp made
  obtain ⟨primary, first, made⟩ := Act.except_bind_eq_ok.mp made
  cases made
  cases location with
  | primary =>
      cases known
      cases host : client.primaryHost with
      | none =>
          rw [host] at first
          cases first
      | some endpoint =>
          rw [host] at first
          cases first
          exact ⟨endpoint, host, rfl⟩
  | secondary =>
      obtain rfl : secondary = some address := known
      unfold secondaryAddress at other
      split at other
      · cases other
      · cases other
      · next endpoint _ host =>
        cases other
        exact ⟨endpoint, host, rfl⟩

theorem extend_of_untokened {authentication : Authentication} (untokened : ∀ token, authentication ≠ .token token)
    (address : String) : authentication.extend address = address := by
  cases authentication with
  | anonymous => rfl
  | sharedKey => rfl
  | token given => exact absurd rfl (untokened given)

/-- Without a token, the address of a resource is its path behind the address of the location. -/
theorem url_of_address (untokened : ∀ token, client.authentication ≠ .token token)
    (made : client.endpoints = .ok endpoints) (known : endpoints.address? location = some address)
    (path : Value) : client.url path (.known location) none = .ok (address ++ Path.ofSegments [path]) := by
  have base : endpoints.get? (.known location) = .ok (some address) := congrArg Except.ok known
  simp only [url, made, bind, Except.bind, base]
  exact congrArg Except.ok (extend_of_untokened untokened _)

end Client

namespace Plan

variable [Seconds τ] {plan : Plan σ τ ω} {progress : Progress} {run : Run σ τ ω} {trip : Trip σ τ ω}

/-- A request whose headers and signature leave its address alone goes to the address that its location has
for it, with its path encoded. -/
theorem Departs.routed (departs : plan.Departs progress run trip)
    (signs : plan.SignedWithin Request.sameAddress)
    (heads : ∀ state request bench changed, (plan.operation.setHeaders state request bench).1 = .ok changed →
      Request.sameAddress.rel request changed) :
    ∃ bench built addressed, (plan.operation.build trip.state bench).1 = .ok built ∧
      built.applyLocation plan.endpoints trip.state.location = .ok addressed ∧
      trip.prepared.protocol = addressed.protocol ∧ trip.prepared.host = addressed.host ∧
      ∀ path, addressed.path = some path → trip.prepared.path = some (Path.encode path) := by
  obtain ⟨headed, request, ⟨world, built, addressed, bench, builds, applied, set⟩, completes, signed⟩ :=
    departs.composes signs Request.sameAddress_indifferent
  obtain ⟨_, given, adds, completed⟩ := Act.bind_eq_ok.mp completes
  have user : Request.sameAddress.rel headed given :=
    (Act.Keeps.change fun _ => rfl : (Request.addHeaders run.context.userHeaders).Keeps _).of_ok adds
  have early : Request.sameAddress.rel addressed given := Request.sameAddress.trans (heads _ _ _ _ set) user
  obtain ⟨protocol, rest⟩ := Prod.mk.inj early
  obtain ⟨host, route⟩ := Prod.mk.inj rest
  obtain ⟨protocolToo, restToo⟩ := Prod.mk.inj signed
  obtain ⟨hostToo, routeToo⟩ := Prod.mk.inj restToo
  have target := (Request.sameTarget_unconcerned.complete_keeps _ _ _).of_ok completed
  obtain ⟨spoken, place⟩ := Prod.mk.inj target
  refine ⟨_, built, addressed, builds, applied, protocolToo.trans (spoken.trans protocol),
    hostToo.trans ((Prod.mk.inj place).1.trans host), fun path known => ?_⟩
  exact routeToo.trans (Request.complete_path (route.trans known) completed)

end Plan

theorem Connection.protocolOf_some {connection : Connection τ} {request : Request} {protocol : String}
    (given : request.protocol = some protocol) (spoken : protocol ≠ "") :
    connection.protocolOf request = .ok protocol := by
  rw [protocolOf, given]
  split
  · contradiction
  · next empty _ => exact absurd (Option.some.inj empty) spoken
  · contradiction
  · next empty _ => exact absurd (Option.some.inj empty) spoken
  · next same _ _ => rw [Option.some.inj same]

theorem Request.pointAt_of_applyLocation {request addressed : Request} {endpoints : Endpoints}
    {location : Named Location} (applied : request.applyLocation endpoints location = .ok addressed) :
    ∃ place address, location = .known place ∧ endpoints.address? place = some address ∧
      request.pointAt address place = .ok addressed := by
  cases location with
  | other name => contradiction
  | known place =>
      simp only [applyLocation, Endpoints.locate, bind, Except.bind] at applied
      split at applied
      · contradiction
      · next address known => exact ⟨place, address, rfl, known, applied⟩

/-- The properties of a resource are asked for at its path, by a request that is signed as all are. -/
theorem Client.getProperties_eq_ok {path : String} {conditions : Option AccessCondition}
    {options : Options τ (Policy σ τ)} {operation : Operation σ τ ω}
    (made : Client.getProperties (.text path) conditions options = .ok operation) :
    (∀ state bench built, (operation.build state bench).1 = .ok built →
        built.path = some (Path.ofText path)) ∧
      (∀ state request bench changed, (operation.setHeaders state request bench).1 = .ok changed →
        Request.sameAddress.rel request changed) ∧
      operation.sign = none ∧ operation.endpoints = none := by
  cases made
  refine ⟨?_, ?_, rfl, rfl⟩
  · rintro state bench _ ⟨⟩
    rfl
  · intro state request bench changed set
    exact Download.setConditions_keeps (fun _ _ _ _ => rfl) set

namespace Engine

variable [Seconds τ] {engine : Engine σ τ} {operation : Operation σ τ ω} {policy : Option (Policy σ τ)}
  {handlers : Handlers σ} {run : Run σ τ ω}

theorem planFor_endpoints {plan : Plan σ τ ω} {start : AttemptState}
    (planned : engine.planFor operation policy handlers run = .ok (plan, start)) :
    engine.endpointsFor operation = .ok plan.endpoints := by
  rw [planFor_eq_bind] at planned
  obtain ⟨endpoints, found, planned⟩ := Act.except_bind_eq_ok.mp planned
  obtain ⟨deadline, _, planned⟩ := Act.except_bind_eq_ok.mp planned
  obtain ⟨⟨mode, location⟩, _, planned⟩ := Act.except_bind_eq_ok.mp planned
  cases planned
  exact found

/-- Every attempt to read the properties of a resource is at a location for which the client makes an address
of the resource. What the attempt sends goes to that address exactly if the protocol is in lower case, the
endpoint literal and the path plain: the address made is not encoded, while what is sent is. -/
theorem posted_url_eq_iff {path protocol : String} {conditions : Option AccessCondition}
    {options : Options τ (Policy σ τ)}
    (made : Client.getProperties (.text path) conditions options = .ok operation)
    (untokened : ∀ token, engine.client.authentication ≠ .token token)
    (given : engine.client.connection.protocol = some protocol) (scheme : Uri.isScheme protocol = true)
    (undirected : engine.Bounded handlers (Request.sameAddress.within fun seen => seen.2.request) .sendingRequest)
    (turns : Nat) :
    ∀ trip ∈ engine.trips operation policy handlers turns run, ∀ outgoing ∈ engine.posted operation trip,
      ∃ location endpoint url, trip.state.location = .known location ∧
        engine.client.endpointOf location = some endpoint ∧
        engine.client.url (.text path) (.known location) none = .ok url ∧
        (outgoing.url = url ↔ Text.lowerCase protocol = protocol ∧ Uri.Literal endpoint ∧
          ∀ c ∈ path.toList, Path.isPlain c = true) := by
  intro trip member outgoing sent
  obtain ⟨builds, heads, standard, own⟩ := Client.getProperties_eq_ok made
  cases planned : engine.planFor operation policy handlers run with
  | error fault =>
      rw [trips_of_refusal planned] at member
      cases member
  | ok settled =>
      obtain ⟨plan, start⟩ := settled
      obtain ⟨progress, reached, departs, _⟩ := (course_of_plan planned turns).departs trip member
      have addressed := planFor_endpoints planned
      obtain ⟨rfl, rfl, rfl, _⟩ := planFor_eq planned
      rw [endpointsFor, own] at addressed
      have signs : plan.SignedWithin Request.sameAddress :=
        Plan.signedWithin Request.sameAddress_indifferent fun sign given => by
          rw [standard] at given
          contradiction
      obtain ⟨bench, built, pointed, asked, applied, spoken, host, route⟩ := departs.routed signs heads
      obtain ⟨location, address, place, known, points⟩ := Request.pointAt_of_applyLocation applied
      obtain ⟨endpoint, configured, rfl⟩ := Client.address_of_endpoints given addressed known
      obtain ⟨text, written, lower, iff⟩ :=
        Request.pointAt_writes_iff scheme (builds _ _ _ asked) (Path.ofText_ne_empty path) points
      refine ⟨location, endpoint, _, place, configured,
        Client.url_of_address untokened addressed known _, ?_⟩
      have passed : Request.sameAddress.rel trip.prepared trip.request := departs.passes _ undirected
      obtain ⟨protocols, rest⟩ := Prod.mk.inj passed
      obtain ⟨hosts, paths⟩ := Prod.mk.inj rest
      obtain ⟨used, chosen, url⟩ :=
        Connection.outgoing_url (paths.trans (route _ written)) (mem_posted.mp sent)
      have named := Uri.lowerCase_ne_empty_of_isScheme scheme
      rw [Connection.protocolOf_some (protocols.trans (spoken.trans lower)) named] at chosen
      cases chosen
      rw [url, hosts, host]
      exact iff.trans (and_congr_right fun _ => and_congr_right fun _ => Path.isPlain_ofText_iff)

end Engine

namespace Asking

/-! A service that has every resource, asked for the properties of one. -/

def engine : Engine Nat Number :=
  Engine.answering fun _ => .plain 200 "0" [] none

def operation (path : String) : Operation Nat Number Unit where
  build _ := pure { method := "HEAD", path := some (Path.ofText path) }
  setHeaders _ request := Act.ofExcept (Download.setConditions none request)
  judge := Operation.judgeStatus (· == 200)
  finish _ := pure .headers
  restriction := .known .either

theorem operation_eq (path : String) : Client.getProperties (.text path) none {} = .ok (operation path) := rfl

def trips (path : String) : List (Trip Nat Number Unit) :=
  engine.trips (operation path) none {} 1 .plain

/-- Where the attempts are, and where what they send goes. -/
def visited (path : String) : List (Named Location × List String) :=
  (trips path).map fun trip => (trip.state.location, (engine.posted (operation path) trip).map (·.url))

theorem posted_of_visited {path url : String} (once : visited path = [(.known .primary, [url])]) :
    ∃ trip ∈ trips path, trip.state.location = .known .primary ∧
      ∃ outgoing ∈ engine.posted (operation path) trip, outgoing.url = url := by
  have first : (Named.known Location.primary, [url]) ∈ visited path := by
    rw [once]
    exact List.mem_cons_self
  obtain ⟨trip, member, same⟩ := List.mem_map.mp first
  obtain ⟨place, urls⟩ := Prod.mk.inj same
  have sent : url ∈ (engine.posted (operation path) trip).map (·.url) := by
    rw [urls]
    exact List.mem_cons_self
  exact ⟨trip, member, place, List.mem_map.mp sent⟩

theorem plain_path_goes_there : Client.getProperties (.text "a/b") none {} = .ok (operation "a/b") ∧
    (∀ token, engine.client.authentication ≠ .token token) ∧
    engine.client.connection.protocol = some "https" ∧ Uri.isScheme "https" = true ∧
    engine.Bounded {} (Request.sameAddress.within fun seen => seen.2.request) .sendingRequest ∧
    ∃ trip ∈ trips "a/b", trip.state.location = .known .primary ∧
      ∃ outgoing ∈ engine.posted (operation "a/b") trip,
        engine.client.url (.text "a/b") (.known .primary) none = .ok outgoing.url := by
  have untokened : ∀ token, engine.client.authentication ≠ .token token := nofun
  have undirected : engine.Bounded {} (Request.sameAddress.within fun seen => seen.2.request) .sendingRequest :=
    Engine.bounded_plain _ _
  have scheme : Uri.isScheme "https" = true := by decide
  refine ⟨operation_eq "a/b", untokened, rfl, scheme, undirected, ?_⟩
  have once : visited "a/b" = [(.known .primary, ["https://a.example/a/b"])] := by decide +kernel
  obtain ⟨trip, member, primary, outgoing, posted, -⟩ := posted_of_visited once
  obtain ⟨location, endpoint, url, place, configured, address, same⟩ :=
    Engine.posted_url_eq_iff (operation_eq "a/b") untokened rfl scheme undirected 1 trip member outgoing posted
  obtain rfl : location = .primary := Named.known.inj (place.symm.trans primary)
  obtain rfl : endpoint = "a.example" := (Option.some.inj configured).symm
  have host : ∀ c ∈ "a.example".toList, Uri.inHost c = true ∧ Uri.isKept c = true :=
    List.forall_iff_forall_mem.mp (by decide)
  have literal : Uri.Literal "a.example" := ⟨"a.example".toList, [], by decide, host, nofun, nofun, nofun⟩
  have plain : ∀ c ∈ "a/b".toList, Path.isPlain c = true :=
    List.forall_iff_forall_mem.mp (by decide)
  have goes := same.mpr ⟨by decide +kernel, literal, plain⟩
  exact ⟨trip, member, primary, outgoing, posted, goes ▸ address⟩

/-- A path with a space: the address that is made for it is not the one that is asked. -/
theorem spaced_path_goes_elsewhere : Client.getProperties (.text "a b") none {} = .ok (operation "a b") ∧
    engine.client.url (.text "a b") (.known .primary) none = .ok "https://a.example/a b" ∧
    ∃ trip ∈ trips "a b", trip.state.location = .known .primary ∧
      ∃ outgoing ∈ engine.posted (operation "a b") trip, outgoing.url = "https://a.example/a%20b" := by
  have made : Path.ofSegments [.text "a b"] = "/a b" := by decide +kernel
  refine ⟨operation_eq "a b", ?_, posted_of_visited (by decide +kernel)⟩
  exact congrArg (fun path => Except.ok ("https" ++ "://" ++ "a.example" ++ path)) made

end Asking

end ObjectStore
