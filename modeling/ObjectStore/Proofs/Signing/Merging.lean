import ObjectStore.Proofs.Fields
import ObjectStore.Proofs.Signing.Stability

/-! What signing with a token makes of a query. The token is asked first: what it names is taken from the
query, in any case, and what it gives stands behind the rest, each name once and with its last value. -/

namespace ObjectStore

namespace Signing.Token

theorem entries_merge {α : Type} (query : Fields α) (added : List (String × α)) :
    (merge query added).entries =
      query.entries.filter (fun entry =>
        !(added.map fun given => Text.lowerCase given.1).contains (Text.lowerCase entry.1)) ++
      (Fields.ofList added).entries := by
  refine Fields.entries_setAll_of_apart fun given member held => ?_
  obtain ⟨entry, kept, same⟩ := List.mem_map.mp held
  have unnamed := (List.mem_filter.mp kept).2
  have named : Text.lowerCase entry.1 ∈ added.map fun given => Text.lowerCase given.1 :=
    List.mem_map.mpr ⟨given, member, by rw [same]⟩
  simp [named] at unnamed

/-- A token gives a value to a name, in whatever case. -/
def Names (token name : String) : Prop :=
  Text.lowerCase name ∈ (parameters token).map fun given => Text.lowerCase given.1

instance (token name : String) : Decidable (Names token name) :=
  inferInstanceAs (Decidable (_ ∈ _))

/-- A request with a token in its query, and otherwise as it was. -/
structure Joined (token : String) (request signed : Request) : Prop where
  /-- What the token does not name stays in its order. Behind it stands each name of the token once, in the
  order in which the token gives them first, with the value it gives last. -/
  query : ∃ added, signed.query.entries =
      (request.query.entries.filter fun entry => ¬ Names token entry.1) ++ added ∧
    added.map Prod.fst = ((parameters token).map Prod.fst).eraseDups ∧
    ∀ entry ∈ added, ∃ value, Fields.lastGiven (parameters token) entry.1 = some value ∧
      entry.2 = .text value
  rest : { signed with query := request.query } = request

theorem joined_sign (token : String) {request : Request} (unsigned : request.query.contains "sig" = false) :
    Joined token request (sign token request) := by
  let texts := (parameters token).map fun given => (given.1, Value.text given.2)
  have signed : sign token request = { request with query := merge request.query texts } := by
    rw [sign, if_neg (by simp [unsigned])]
  have names : ∀ {β : Type} (f : String → β),
      texts.map (fun given => f given.1) = (parameters token).map fun given => f given.1 := fun f => by
    simp [texts]
  have last : ∀ name, Fields.lastGiven texts name = (Fields.lastGiven (parameters token) name).map .text := by
    intro name
    simp [texts, Fields.lastGiven, ← List.map_reverse, List.find?_map, Function.comp_def]
  rw [signed]
  refine ⟨⟨(Fields.ofList texts).entries, ?_, ?_, fun entry member => ?_⟩, rfl⟩
  · have kept : ∀ entry ∈ request.query.entries,
        (!(texts.map fun given => Text.lowerCase given.1).contains (Text.lowerCase entry.1)) =
          decide (¬ Names token entry.1) := fun entry _ => by
      rw [names, List.contains_eq_mem, decide_not]
      rfl
    rw [entries_merge, List.filter_congr kept]
  · exact (Fields.names_ofList texts).trans (congrArg List.eraseDups (names id))
  · have found := Fields.get_of_mem member
    rw [Fields.get_ofList, last] at found
    obtain ⟨value, given, same⟩ := Option.map_eq_some_iff.mp found
    exact ⟨value, given, same.symm⟩

end Signing.Token

namespace Authentication

/-- A request that is signed as often as is said. -/
def signTimes (authentication : Authentication) : Nat → Request → Except Fault Request
  | 0, request => .ok request
  | times + 1, request => do authentication.signTimes times (← (authentication.sign request).2)

/-- Signing again changes nothing, however often it is done. -/
theorem signTimes_of_signed {authentication : Authentication} {request signed : Request}
    (done : (authentication.sign request).2 = .ok signed) (times : Nat) :
    authentication.signTimes (times + 1) request = .ok signed := by
  induction times generalizing request with
  | zero => rw [signTimes, done]; rfl
  | succ times ih =>
      have again : (authentication.sign signed).2 = .ok signed := by rw [sign_signed done]
      rw [signTimes, done]
      exact ih again

/-- A token joins the query of a request that has no signature yet, once and for all. -/
theorem token_joins (given : Option String) {request : Request}
    (unsigned : request.query.contains "sig" = false) :
    ∃ signed, Signing.Token.Joined (given.getD "") request signed ∧
      ∀ times, (token given).signTimes (times + 1) request = .ok signed :=
  ⟨_, Signing.Token.joined_sign _ unsigned, signTimes_of_signed rfl⟩

end Authentication

namespace Listing

/-- A request that says itself what the token says as well. -/
def request : Request :=
  { method := "GET", query := Fields.ofList [("comp", .text "list"), ("SV", .text "old")] }

/-- A token with a name that comes twice and one without a value. -/
def token : String := "?sv=1&empty=&sv=2&sig=ab%2B"

theorem listing_joined :
    ∃ signed, Signing.Token.Joined token request signed ∧
      ∀ times, (Authentication.token (some token)).signTimes (times + 1) request = .ok signed :=
  Authentication.token_joins (some token) (by decide)

end Listing

end ObjectStore
