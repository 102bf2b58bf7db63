import ObjectStore.Proofs.Act.Alike
import ObjectStore.Proofs.Signing.Stability

/-! What a signature puts into a request, drawn over with a veil. Requests that were signed with two keys, or
with tokens that differ in their signatures, look the same through it. -/

namespace ObjectStore

/-- Which headers and parameters of requests are kept from view: none but those that logs do not show. -/
structure Veil where
  header : String → Bool
  parameter : String → Bool
  only_header : ∀ name, header name = true → Text.lowerCase name = "authorization"
  only_parameter : ∀ name, parameter name = true → name = "sig"

namespace Veil

/-- Hides the header that a shared key signs. -/
def authorization : Veil where
  header name := Text.lowerCase name == "authorization"
  parameter _ := false
  only_header _ := beq_iff_eq.mp
  only_parameter _ hidden := by cases hidden

/-- Hides the signature of a token. -/
def signature : Veil where
  header _ := false
  parameter name := name == "sig"
  only_header _ hidden := by cases hidden
  only_parameter _ := beq_iff_eq.mp

variable (veil : Veil)

def shade (hides : String → Bool) (name : String) (value : Value) : Value :=
  if hides name then .null else value

/-- A request as it is seen through a veil. -/
def request (request : Request) : Request :=
  { request with
    query := request.query.map (shade veil.parameter)
    headers := request.headers.map (shade veil.header) }

/-- Requests that differ in nothing but what is hidden. -/
abbrev Same (one other : Request) : Prop :=
  veil.request one = veil.request other

/-- A parameter of a token as it is seen through a veil. -/
def pair (entry : String × String) : String × String :=
  (entry.1, if veil.parameter entry.1 then "" else entry.2)

/-- The same way to authenticate, with one valid key or another, or with one signature or another. -/
inductive Akin : Authentication → Authentication → Prop where
  | sharedKey {scheme : Signing.Scheme} {account : Option String} {key key' : Value}
      {bytes bytes' : List UInt8} (hidden : veil.header "Authorization" = true)
      (valid : key.toKey = .ok bytes) (valid' : key'.toKey = .ok bytes') :
      Akin (.sharedKey scheme account key) (.sharedKey scheme account key')
  | token {given given' : Option String}
      (same : (Signing.Token.parameters (given.getD "")).map veil.pair =
        (Signing.Token.parameters (given'.getD "")).map veil.pair) : Akin (.token given) (.token given')

variable {veil}

theorem same_setHeader (hidden : veil.header "Authorization" = true) (request : Request)
    (first second : Value) : veil.Same (request.setHeader "Authorization" first)
      (request.setHeader "Authorization" second) := by
  simp only [Veil.Same, Veil.request, Request.setHeader, Fields.map_set, shade, hidden, if_true]

/-- Tokens that differ in what is hidden have the same names, and put the same parameters in their place. -/
theorem same_sign {token other : String}
    (same : (Signing.Token.parameters token).map veil.pair = (Signing.Token.parameters other).map veil.pair)
    (request : Request) :
    veil.Same (Signing.Token.sign token request) (Signing.Token.sign other request) := by
  have names : ∀ given, (Signing.Token.parameters given).map (fun entry => Text.lowerCase entry.1) =
      ((Signing.Token.parameters given).map veil.pair).map fun entry => Text.lowerCase entry.1 := by
    intro given
    rw [List.map_map]
    rfl
  have values : ∀ given, (Signing.Token.parameters given).map
      (fun entry => (entry.1, shade veil.parameter entry.1 (.text entry.2))) =
      ((Signing.Token.parameters given).map veil.pair).map fun entry =>
        (entry.1, shade veil.parameter entry.1 (.text entry.2)) := by
    intro given
    rw [List.map_map]
    refine List.map_congr_left fun entry _ => ?_
    cases hidden : veil.parameter entry.1 <;> simp [pair, shade, hidden]
  unfold Signing.Token.sign
  split
  · rfl
  · simp only [Veil.Same, Veil.request, Signing.Token.merge, Fields.map_setAll, List.map_map,
      Function.comp_def]
    rw [names token, names other, values token, values other, same]

end Veil

theorem Value.sign_of_key {key : Value} {bytes : List UInt8} (valid : key.toKey = .ok bytes) (text : String) :
    ∃ signature, key.sign (.text text) true = .ok signature := by
  simp only [Value.sign, if_true, valid]
  exact ⟨_, rfl⟩

/-- A request is signed either way or not at all, and what is said of it is the same. -/
theorem Veil.Akin.sign {veil : Veil} {authentication other : Authentication}
    (akin : veil.Akin authentication other) (request : Request) :
    (authentication.sign request).1 = (other.sign request).1 ∧
      Agree veil.Same (authentication.sign request).2 (other.sign request).2 := by
  cases akin with
  | token same => exact ⟨rfl, .ok (same_sign same request)⟩
  | @sharedKey scheme account key key' bytes bytes' hidden valid valid' =>
      simp only [Authentication.sign]
      split
      · exact ⟨rfl, .error _⟩
      · exact ⟨rfl, .error _⟩
      · next account _ =>
        obtain ⟨signature, made⟩ := key.sign_of_key valid (Signing.stringToSign scheme account request)
        obtain ⟨signature', made'⟩ := key'.sign_of_key valid' (Signing.stringToSign scheme account request)
        rw [Authentication.signShared_eq_ok.mpr ⟨signature, made, rfl⟩,
          Authentication.signShared_eq_ok.mpr ⟨signature', made', rfl⟩]
        exact ⟨rfl, .ok (same_setHeader hidden request _ _)⟩

end ObjectStore
