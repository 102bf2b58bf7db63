import ObjectStore.Proofs.Request.RangeHeader

/-! What a request says of its content, and where it goes. When a request is completed, its path is
encoded and the length of its content is announced; the rest is what it was built with. -/

namespace ObjectStore.Request

structure Parcel where
  method : String
  target : Option String × String × Option Location
  path : Option String
  body : Value
  /-- What the headers say of the length of the body and of its digest. -/
  length : List Value
  digest : List Value

def parcel (request : Request) : Parcel where
  method := request.method
  target := request.target
  path := request.path
  body := request.body
  length := request.headers.under "content-length"
  digest := request.headers.under "content-md5"

def sameParcel : Frame Request :=
  .same parcel

/-- The headers name neither the length of a content nor its digest. -/
def Unlabelled (headers : Option (Fields Value)) : Prop :=
  ∀ fields, headers = some fields → fields.Avoids "content-length" ∧ fields.Avoids "content-md5"

variable {request : Request} {content : List UInt8}

theorem sameParcel_of_headers {headers : Fields Value}
    (length : headers.under "content-length" = request.headers.under "content-length")
    (digest : headers.under "content-md5" = request.headers.under "content-md5") :
    sameParcel.rel request { request with headers } := by
  show Parcel.mk _ _ _ _ (headers.under _) (headers.under _) = request.parcel
  rw [length, digest]
  rfl

theorem setHeader_sameParcel {name : String} (length : Text.lowerCase name ≠ "content-length")
    (digest : Text.lowerCase name ≠ "content-md5") (value : Value) (request : Request) :
    sameParcel.rel request (request.setHeader name value) :=
  sameParcel_of_headers (Fields.under_set_of_ne length value _) (Fields.under_set_of_ne digest value _)

theorem setHeaders_sameParcel {headers : Option (Fields Value)} (unlabelled : Unlabelled headers)
    (request : Request) : sameParcel.rel request (request.setHeaders (headers.getD Fields.empty)) := by
  cases headers with
  | none => rfl
  | some fields =>
      obtain ⟨length, digest⟩ := unlabelled fields rfl
      exact sameParcel_of_headers (Fields.under_setAll_of_ne length _) (Fields.under_setAll_of_ne digest _)

/-- The names of metadata do not pass for others. -/
theorem lowerCase_metadata_ne {other : String} (unlike : other.toList.head? ≠ some 'x') (name : String) :
    Text.lowerCase (metadataPrefix ++ name) ≠ other := by
  intro same
  refine unlike ?_
  rw [← same, Text.lowerCase, String.toList_ofList, String.toList_append]
  rfl

theorem addMetadata_sameParcel (metadata : Option (Fields Value)) : (addMetadata metadata).Keeps sameParcel := by
  refine .change fun request => ?_
  have differ : ∀ {other : String}, other.toList.head? ≠ some 'x' →
      ∀ entry ∈ (metadata.getD Fields.empty).entries.map fun entry => (metadataPrefix ++ entry.1, entry.2),
        Text.lowerCase entry.1 ≠ other := by
    intro other unlike entry member
    obtain ⟨given, _, rfl⟩ := List.mem_map.mp member
    exact lowerCase_metadata_ne unlike given.1
  exact sameParcel_of_headers (Fields.under_setAll_of_ne (differ (by decide)) _)
    (Fields.under_setAll_of_ne (differ (by decide)) _)

theorem sameParcel_indifferent : Indifferent sameParcel where
  header name member value request := by
    have foreign : ∀ name ∈ regular, Text.lowerCase name ≠ "content-length" ∧
        Text.lowerCase name ≠ "content-md5" := by
      decide
    obtain ⟨length, digest⟩ := foreign name member
    exact setHeader_sameParcel length digest value request
  query _ _ := rfl

/-- The length of bytes is announced, also if there are none. -/
theorem addLength_of_bytes (carries : methodsWithContent.contains request.method = true)
    (bytes : request.body = .bytes content) :
    addLength request = (.ok (), request.setHeader "Content-Length" (.text (toString content.length))) := by
  have known : methodsWithLength.contains request.method = true := by
    rw [methodsWithLength, List.contains_append, carries, Bool.true_or]
  rw [addLength_eq, bytes]
  cases content with
  | nil =>
      rw [announced, if_pos carries]
      rfl
  | cons byte rest =>
      simp only [announced, known, Value.truthy, List.isEmpty_cons, Bool.not_false, if_true, Value.asContent,
        Value.length?, Value.measure, Value.count?, Option.map_some]
      rfl

theorem addLength_parcel (carries : methodsWithContent.contains request.method = true)
    (bytes : request.body = .bytes content) (fresh : request.headers.under "content-length" = []) :
    addLength.Ends request (fun _ after =>
      after.parcel = { request.parcel with length := [.text (toString content.length)] }) fun _ _ => True := by
  refine (Act.ends_of_ok (addLength_of_bytes carries bytes)).mpr ?_
  have announced : (request.setHeader "Content-Length" (.text (toString content.length))).headers.under
      "content-length" = [.text (toString content.length)] :=
    Fields.under_set_of_fresh fresh rfl _
  have digest : (request.setHeader "Content-Length" (.text (toString content.length))).headers.under
      "content-md5" = request.headers.under "content-md5" :=
    Fields.under_set_of_ne (by decide) _ _
  rw [parcel, announced, digest]
  rfl

theorem encodePath_parcel (request : Request) : encodePath.Ends request
    (fun _ after => after.parcel = { request.parcel with path := request.parcel.path.map Path.encode })
    fun _ _ => True := by
  refine Act.ends_bind.mpr (Act.ends_read.mpr ?_)
  split
  · trivial
  · next given =>
    refine (Act.ends_change _).mpr ?_
    rw [show request.parcel.path = _ from given]
    rfl

/-- Completed with headers that do not speak of its content, a request announces the length of the bytes
that it was built with. -/
theorem complete_parcel {headers : Option (Fields Value)} (unlabelled : Unlabelled headers)
    (carries : methodsWithContent.contains request.method = true)
    (bytes : request.body = .bytes content) (fresh : request.headers.under "content-length" = [])
    (sender : Sender) (requestId timeout : Value) : (do
      addHeaders headers
      complete sender requestId timeout).Ends request
        (fun _ after => after.parcel = { request.parcel with
          path := request.path.map Path.encode
          length := [.text (toString content.length)] }) fun _ _ => True := by
  have indifferent := sameParcel_indifferent
  refine Act.ends_bind.mpr ((Act.ends_change _).mpr ?_)
  have titled : (request.setHeaders (headers.getD Fields.empty)).parcel = request.parcel :=
    setHeaders_sameParcel unlabelled request
  generalize request.setHeaders (headers.getD Fields.empty) = plain at titled
  rw [← show plain.method = request.method from congrArg Parcel.method titled] at carries
  have sameBody : plain.body = .bytes content := (congrArg Parcel.body titled).trans bytes
  have unsaid : plain.headers.under "content-length" = [] := (congrArg Parcel.length titled).trans fresh
  refine Act.Ends.bind (addLength_parcel carries sameBody unsaid) fun _ measured announced => ?_
  refine Act.ends_bind.mpr (((indifferent.addSender_keeps sender requestId).ends measured).imp ?_)
  refine fun _ sent keptSender => Act.ends_bind.mpr (((indifferent.addTimeout_keeps timeout).ends sent).imp ?_)
  refine fun _ timed keptTimeout => (encodePath_parcel timed).imp fun _ after encoded => ?_
  have same : timed.parcel = { request.parcel with length := [.text (toString content.length)] } := by
    rw [← titled, ← announced]
    exact sameParcel.trans keptSender keptTimeout
  rw [encoded, same]
  rfl

end ObjectStore.Request
