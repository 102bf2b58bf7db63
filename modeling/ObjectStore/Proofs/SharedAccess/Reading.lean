import ObjectStore.Proofs.Signing.Merging
import ObjectStore.Proofs.Signing.Names
import ObjectStore.Proofs.Text.Form
import ObjectStore.SharedAccess.Token

/-! A token says what was signed. Whoever reads it as a query string finds the parameters it was made of,
and can put the signed text together again from them. -/

namespace ObjectStore

namespace SharedAccess

/-- The values that count, as texts. -/
def given (values : List (String × Value)) : List (String × String) :=
  (values.filter fun entry => entry.2.truthy).map fun entry => (entry.1, entry.2.toText)

/-- A time in the form of tokens; any other value stands for itself. -/
def dated : Value → Value
  | .moment t => .text t.tokenText
  | .date d => .text (Value.midnight d).tokenText
  | value => value

theorem timeText_eq (value : Value) : timeText value = .ok (dated value) := by
  cases value <;> rfl

def Grant.values (grant : Grant) (version : Value) : List (String × Value) :=
  [("st", dated grant.start), ("se", dated grant.expiry), ("sp", grant.permission), ("sip", grant.ip),
    ("spr", grant.protocol), ("sv", version)]

def Target.values (target : Target) : List (String × Value) :=
  [("si", target.policyId), ("sr", target.resourceType), ("rscc", target.cacheControl),
    ("rscd", target.contentDisposition), ("rsce", target.contentEncoding),
    ("rscl", target.contentLanguage), ("rsct", target.contentType)]

/-- What a token gives access to. -/
inductive Subject where
  | account (services resourceTypes : Value)
  | resource (target : Target)

namespace Subject

def token (issuer : Issuer) (grant : Grant) : Subject → Except Fault String
  | account services resourceTypes => accountToken issuer services resourceTypes grant
  | resource target => resourceToken issuer target grant

/-- The parameters of a token, all that are offered, in their order. -/
def values (issuer : Issuer) (grant : Grant) (subject : Subject) : List (String × Value) :=
  grant.values issuer.version ++
    match subject with
    | account services resourceTypes => [("ss", services), ("srt", resourceTypes)]
    | resource target => target.values

/-- A resource is named by its service and a path that is not empty. -/
def Named : Subject → Prop
  | account .. => True
  | resource target => ∃ service path, target.service = .text service ∧ target.path = .text path ∧ path ≠ ""

def rooted (path : String) : String :=
  if Text.hasPrefix "/" path then path else "/" ++ path

/-- The lines of the signed text, for what is said under each name. An account's last line has an end. -/
def signedLines (account : String) (said : String → String) : Subject → List String
  | .account .. => account :: (["sp", "ss", "srt", "st", "se", "sip", "spr", "sv"].map said ++ [""])
  | .resource target =>
    ["sp", "st", "se"].map said ++
      ("/" ++ target.service.toText ++ "/" ++ account ++ rooted target.path.toText) ::
      (["si", "sip", "spr", "sv"].map said ++
        if target.resourceType.isNull then [] else ["rscc", "rscd", "rsce", "rscl", "rsct"].map said)

end Subject

/-- What a token says under a name; nothing if it does not have the name. -/
def said (read : List (String × String)) (name : String) : String :=
  ((read.find? (·.1 == name)).map Prod.snd).getD ""

section Parameters

variable {values : List (String × Value)} {parameters : Parameters}

theorem foldl_add (values : List (String × Value)) (parameters : Parameters) :
    values.foldl (fun parameters entry => add entry.1 entry.2 parameters) parameters =
      parameters.setAll (given values) := by
  induction values generalizing parameters with
  | nil => rfl
  | cons entry rest ih =>
      rw [List.foldl_cons, ih, add, given, given, List.filter_cons]
      split <;> rfl

theorem names_given (values : List (String × Value)) :
    ((given values).map Prod.fst).Sublist (values.map Prod.fst) := by
  have names : (given values).map Prod.fst = (values.filter fun entry => entry.2.truthy).map Prod.fst := by
    simp [given, Function.comp_def]
  rw [names]
  exact List.filter_sublist.map Prod.fst

theorem base_eq (grant : Grant) (version : Value) :
    base grant version = .ok (Fields.empty.setAll (given (grant.values version))) := by
  rw [base, timeText_eq, timeText_eq, ← foldl_add]
  rfl

theorem targetParameters_eq (target : Target) (parameters : Parameters) :
    targetParameters target parameters = parameters.setAll (given target.values) := by
  rw [← foldl_add]
  rfl

theorem given_append (values more : List (String × Value)) :
    given (values ++ more) = given values ++ given more := by
  simp [given]

theorem setAll_append (parameters : Parameters) (pairs more : List (String × String)) :
    parameters.setAll (pairs ++ more) = (parameters.setAll pairs).setAll more :=
  List.foldl_append ..

end Parameters

section Texts

variable {account : String} {said other : String → String} {parameters : Parameters}

theorem withoutLastLineEnd_append (s : String) : withoutLastLineEnd (s ++ "\n") = s := by
  simp [withoutLastLineEnd]

/-- What a parameter adds to the signed text. -/
def valueOf (parameters : Parameters) (name : String) : String :=
  (parameters.get? name).getD ""

theorem accountText_eq (services resourceTypes : Value) : accountText account parameters =
    String.intercalate "\n" ((Subject.account services resourceTypes).signedLines account
      (valueOf parameters)) := by
  simp [accountText, lines, Subject.signedLines, valueOf, String.intercalate_cons_cons, String.append_assoc]

theorem resourceText_eq {target : Target} {service path : String} (serves : target.service = .text service)
    (located : target.path = .text path) :
    resourceText account service (Subject.rooted path) target parameters =
      String.intercalate "\n" ((Subject.resource target).signedLines account (valueOf parameters)) := by
  rw [← withoutLastLineEnd_append (String.intercalate _ _), resourceText]
  refine congrArg withoutLastLineEnd ?_
  cases untyped : target.resourceType.isNull <;>
    simp [lines, Subject.signedLines, serves, located, untyped, Value.toText, valueOf,
      String.intercalate_cons_cons, String.append_assoc, -String.reduceAppend]

/-- The signed text says nothing of the signature. -/
theorem signedLines_congr (same : ∀ name ≠ "sig", said name = other name) (subject : Subject) :
    subject.signedLines account said = subject.signedLines account other := by
  cases subject <;> simp (disch := decide) [Subject.signedLines, same]

end Texts

/-- The keyed digest of a text as it is written in a token. -/
def sealOf (key : List UInt8) (text : String) : String :=
  Digest.Base64.encodeText (Digest.Hmac.sign key (Text.Utf8.encode text.toList))

theorem sealOf_ne_empty (key : List UInt8) (text : String) : (sealOf key text).isEmpty = false := by
  have written : ∀ message, Digest.Base64.encode (Digest.Sha256.hash message) ≠ [] := by
    intro message
    have digest : ∃ a b c rest, Digest.Sha256.hash message = a :: b :: c :: rest := ⟨_, _, _, _, rfl⟩
    obtain ⟨a, b, c, rest, same⟩ := digest
    simp [same, Digest.Base64.encode]
  simp [sealOf, Digest.Base64.encodeText, Digest.Hmac.sign, written]

section Issued

variable {issuer : Issuer} {grant : Grant} {subject : Subject} {account : String} {key : List UInt8}

/-- The parameters of a token beside its signature. -/
def Subject.parameters (issuer : Issuer) (grant : Grant) (subject : Subject) : Parameters :=
  Fields.ofList (given (subject.values issuer grant))

def Subject.names : Subject → List String
  | .account .. => ["st", "se", "sp", "sip", "spr", "sv", "ss", "srt"]
  | .resource _ =>
    ["st", "se", "sp", "sip", "spr", "sv", "si", "sr", "rscc", "rscd", "rsce", "rscl", "rsct"]

theorem Subject.names_values (subject : Subject) : (subject.values issuer grant).map Prod.fst = subject.names := by
  cases subject <;> rfl

theorem Subject.names_proper (subject : Subject) : subject.names.Nodup ∧ "sig" ∉ subject.names ∧
    ∀ name ∈ subject.names, name.toList.all Text.Percent.isUnreserved = true := by
  cases subject with
  | account services resourceTypes =>
      rw [names]
      decide
  | resource target =>
      rw [names]
      decide

theorem signed_eq (held : issuer.key.toKey = .ok key) (text : String) (parameters : Parameters) :
    signed issuer text parameters = .ok (write (parameters.set "sig" (sealOf key text))) := by
  have made : Value.sign issuer.key (.text text) true = .ok (sealOf key text) := by
    rw [Value.sign, held]
    rfl
  have counts : (Value.text (sealOf key text)).truthy = true := by
    rw [Value.truthy, sealOf_ne_empty]
    rfl
  rw [signed, made]
  show Except.ok (write (add "sig" (.text (sealOf key text)) parameters)) = _
  rw [add, if_pos counts]
  rfl

variable (named : issuer.account = .text account) (held : issuer.key.toKey = .ok key)
include named held

theorem token_eq (proper : subject.Named) : subject.token issuer grant =
    .ok (write ((subject.parameters issuer grant).set "sig" (sealOf key (String.intercalate "\n"
      (subject.signedLines account (valueOf (subject.parameters issuer grant))))))) := by
  cases subject with
  | account services resourceTypes =>
      have made : add "srt" resourceTypes (add "ss" services
          (Fields.empty.setAll (given (grant.values issuer.version)))) =
          (Subject.account services resourceTypes).parameters issuer grant := by
        rw [Subject.parameters, Subject.values, given_append, Fields.ofList, setAll_append, ← foldl_add [_, _]]
        rfl
      rw [Subject.token, accountToken, base_eq, named]
      show signed issuer (accountText account _) _ = _
      rw [made, accountText_eq services resourceTypes, signed_eq held]
  | resource target =>
      obtain ⟨service, path, serves, located, given_path⟩ := proper
      have made : targetParameters target (Fields.empty.setAll (given (grant.values issuer.version))) =
          (Subject.resource target).parameters issuer grant := by
        rw [targetParameters_eq, Subject.parameters, Subject.values, given_append, Fields.ofList, setAll_append]
      have rooted : rootedPath target.path = .ok (Subject.rooted path) := by
        rw [rootedPath, located, if_neg (by simpa [Value.count?] using given_path)]
        rfl
      rw [Subject.token, resourceToken, base_eq, named, serves, rooted]
      show signed issuer (resourceText account service (Subject.rooted path) target _) _ = _
      rw [made, resourceText_eq serves located, signed_eq held]

end Issued

section Written

variable {pairs : List (String × String)}
  (legible : ∀ pair ∈ pairs, ∀ c ∈ pair.1.toList, Text.Percent.isUnreserved c = true)
include legible

theorem plain_written : Signing.Token.plain (Text.Form.written ['/'] pairs) = Text.Form.written ['/'] pairs := by
  have start : (Text.Form.written ['/'] pairs).toList.head? ≠ some '?' := by
    cases pairs with
    | nil => simp [Text.Form.toList_written, Text.join, List.intercalate]
    | cons pair rest =>
        have first := legible pair List.mem_cons_self
        rw [Text.Form.toList_written, List.map_cons, Text.join_cons, Text.Form.writtenPair, List.append_assoc]
        cases name : pair.1.toList with
        | nil => simp
        | cons c more =>
            have unreserved : Text.Percent.isUnreserved c = true := first c (name ▸ List.mem_cons_self)
            simp only [List.cons_append, List.head?_cons, ne_eq, Option.some.injEq]
            rintro rfl
            contradiction
  rw [Signing.Token.plain]
  split
  · next rest same => simp [same] at start
  · rfl

/-- A token is read as it was written. -/
theorem parameters_written : Signing.Token.parameters (Text.Form.written ['/'] pairs) = pairs := by
  rw [Signing.Token.parameters, plain_written legible]
  exact Text.Form.decode_written (by simp [Text.Form.Reserved]) legible

/-- A request without a query is signed with just the pairs of a token, if their names are distinct. -/
theorem sign_written (distinct : (pairs.map Prod.fst).Nodup) {request : Request}
    (bare : request.query = Fields.empty) :
    (Signing.Token.sign (Text.Form.written ['/'] pairs) request).query.entries =
      pairs.map fun entry => (entry.1, .text entry.2) := by
  have unsigned : ¬ request.query.contains "sig" = true := by simp [bare, Fields.contains, Fields.empty]
  rw [Signing.Token.sign, if_neg unsigned]
  dsimp only
  rw [parameters_written legible, Signing.Token.entries_merge, bare, Fields.entries_ofList]
  · rfl
  · rwa [List.map_map]

end Written

section Pairs

variable {issuer : Issuer} {grant : Grant} {subject : Subject} {signature : String}

/-- A token as a list of pairs: the parameters in their order, and the signature. -/
def Subject.pairs (issuer : Issuer) (grant : Grant) (subject : Subject) (signature : String) :
    List (String × String) :=
  given (subject.values issuer grant) ++ [("sig", signature)]

theorem names_listed : ((given (subject.values issuer grant)).map Prod.fst).Sublist subject.names :=
  subject.names_values ▸ names_given _

theorem names_pairs : ((subject.pairs issuer grant signature).map Prod.fst).Sublist (subject.names ++ ["sig"]) := by
  rw [Subject.pairs, List.map_append]
  exact names_listed.append (List.Sublist.refl _)

theorem pairs_legible : ∀ pair ∈ subject.pairs issuer grant signature, ∀ c ∈ pair.1.toList,
    Text.Percent.isUnreserved c = true := by
  intro pair member
  refine List.all_eq_true.mp ?_
  obtain listed | sig := List.mem_append.mp (names_pairs.subset (List.mem_map_of_mem member))
  · exact subject.names_proper.2.2 _ listed
  · rw [List.mem_singleton.mp sig]
    decide

theorem pairs_distinct : ((subject.pairs issuer grant signature).map Prod.fst).Nodup := by
  obtain ⟨distinct, unsigned, -⟩ := subject.names_proper
  exact (distinct.append (List.nodup_singleton _) (List.disjoint_singleton.mpr unsigned)).sublist names_pairs

theorem entries_parameters : (subject.parameters issuer grant).entries = given (subject.values issuer grant) :=
  Fields.entries_ofList (subject.names_proper.1.sublist names_listed)

theorem unsigned_parameters : "sig" ∉ (given (subject.values issuer grant)).map Prod.fst :=
  fun member => subject.names_proper.2.1 (names_listed.subset member)

theorem write_parameters : write ((subject.parameters issuer grant).set "sig" signature) =
    Text.Form.written ['/'] (subject.pairs issuer grant signature) := by
  have new : "sig" ∉ (subject.parameters issuer grant).names := by
    rw [Fields.names, entries_parameters]
    exact unsigned_parameters
  rw [write, Fields.entries_set_of_new new, entries_parameters]
  rfl

theorem said_pairs {name : String} (other : name ≠ "sig") :
    said (subject.pairs issuer grant signature) name = valueOf (subject.parameters issuer grant) name := by
  simp [said, Subject.pairs, valueOf, Fields.get?, entries_parameters, List.find?_append, Ne.symm other]

theorem said_signature : said (subject.pairs issuer grant signature) "sig" = signature := by
  have absent : (given (subject.values issuer grant)).find? (·.1 == "sig") = none :=
    List.find?_eq_none.mpr fun pair member same => by
      have listed := List.mem_map_of_mem (f := Prod.fst) member
      rw [eq_of_beq same] at listed
      exact unsigned_parameters listed
  simp [said, Subject.pairs, List.find?_append, absent]

end Pairs

/-- A token that says what was signed, to those who read it as a client does. -/
structure Tells (issuer : Issuer) (grant : Grant) (subject : Subject) (account : String) (key : List UInt8)
    (token : String) : Prop where
  /-- It says the parameters in their order, and then the signature. -/
  read : ∃ signature, Signing.Token.parameters token =
    given (subject.values issuer grant) ++ [("sig", signature)]
  /-- A request without a query of its own carries just these if it is signed with the token. -/
  carried : ∀ request : Request, request.query = Fields.empty → ∃ signed,
    ((Authentication.token (some token)).sign request).2 = .ok signed ∧
      signed.query.entries = (Signing.Token.parameters token).map (fun entry => (entry.1, .text entry.2)) ∧
      { signed with query := request.query } = request
  /-- The signature is the one of the text that the token says itself. -/
  sealed : said (Signing.Token.parameters token) "sig" = sealOf key (String.intercalate "\n"
    (subject.signedLines account (said (Signing.Token.parameters token))))

/-- A token is made of whatever values are given, and it says what was signed. -/
theorem token_tells {issuer : Issuer} {grant : Grant} {subject : Subject} {account : String} {key : List UInt8}
    (named : issuer.account = .text account) (held : issuer.key.toKey = .ok key) (proper : subject.Named) :
    ∃ token, subject.token issuer grant = .ok token ∧ Tells issuer grant subject account key token := by
  let signature := sealOf key (String.intercalate "\n"
    (subject.signedLines account (valueOf (subject.parameters issuer grant))))
  let pairs := subject.pairs issuer grant signature
  have made : subject.token issuer grant = .ok (Text.Form.written ['/'] pairs) :=
    (token_eq named held proper).trans (congrArg Except.ok write_parameters)
  have read : Signing.Token.parameters (Text.Form.written ['/'] pairs) = pairs :=
    parameters_written pairs_legible
  have lines : subject.signedLines account (said pairs) =
      subject.signedLines account (valueOf (subject.parameters issuer grant)) :=
    signedLines_congr (fun _ other => said_pairs other) subject
  refine ⟨_, made, { read := ⟨signature, read⟩, carried := fun request bare => ?_, sealed := ?_ }⟩
  · refine ⟨_, rfl, ?_, ?_⟩
    · rw [read]
      exact sign_written pairs_legible pairs_distinct bare
    · rw [Option.getD_some, Signing.Token.sign]
      split <;> rfl
  · rw [read, lines, said_signature]

namespace Reading

/-- Values with all that means something in a query string. -/
def issuer : Issuer :=
  { account := .text "storage", key := .text "a2V5", version := .text "1=2&3+4%5" }

def grant : Grant :=
  { permission := .text "r", expiry := .date ⟨2018, 1, 1⟩ }

/-- A path without a slash in front, and an empty type, which is given all the same. -/
def blob : Subject :=
  .resource { service := .text "blob", path := .text "box/ü ?", resourceType := .text "" }

theorem blob_token_tells : ∃ token, blob.token issuer grant = .ok token ∧
    Tells issuer grant blob "storage" [107, 101, 121] token :=
  token_tells rfl rfl ⟨"blob", "box/ü ?", rfl, rfl, by decide⟩

end Reading

end SharedAccess

end ObjectStore
