import ObjectStore.Proofs.Engine.Plain
import ObjectStore.Proofs.Engine.Settling

/-! The meaning of repetition. If nothing but the attempts decides how an operation goes on, it ends with
the first attempt that settles it, after exactly one request for each attempt up to that one. This is
so if and only if everything that has to be read of the attempts can be read. -/

namespace ObjectStore

variable {σ ω : Type}

namespace Plan

variable (plan : Plan σ Number ω)

/-- What has to be read of the attempt with this index can be: the date of its response, and what else
its fault is judged by. -/
def Legible (most : Int) (index : Nat) (progress : Progress) (run : Run σ Number ω) : Prop :=
  (∀ met landed, plan.Met progress run met landed → plan.engine.Dates met landed) ∧
  ∀ attempted landed, plan.launch progress run = (.ok attempted, landed) →
    plan.Clear most index attempted

/-- Where an operation stands before the attempt with this index: at a location that serves, with one
request sent for each attempt before. -/
structure Stands (begun : Run σ Number ω) (index : Nat) (progress : Progress) (run : Run σ Number ω) :
    Prop where
  serves : plan.endpoints.Serves progress.state
  counted : progress.state.retryCount = index
  measured : run.Measured
  requests : run.requests.length = begun.requests.length + index

/-- The operation ends with the first attempt that settles it, however many attempts are allowed
beyond. Each attempt up to that one sent one request and was recorded with its fault. -/
def EndsAtFirst (most : Int) (start : Progress) (begun : Run σ Number ω)
    (execute : Nat → Except Failure (Option Answer) × Run σ Number ω) : Prop :=
  ∃ made progress reached attempted landed result ended,
    plan.Path start begun made progress reached ∧
    plan.launch progress reached = (.ok attempted, landed) ∧
    (∀ index (earlier : index < made.length), ¬ plan.Settles most index made[index]) ∧
    plan.Settles most made.length attempted ∧ EndsWith attempted result ended ∧
    (∀ attempts, made.length < attempts → execute attempts = (result, ended)) ∧
    ended.requests.length = begun.requests.length + made.length + 1 ∧
    ended.context.results.map (·.fault) =
      begun.context.results.map (·.fault) ++ (made ++ [attempted]).map (·.outcome.fault?)

variable {plan} {most : Int} {index : Nat} {start progress : Progress}
  {begun run landed other : Run σ Number ω} {met met' : Attempted} {made : List Attempted}

/-- An attempt goes through the network in one way only. -/
theorem Met.unique (first : plan.Met progress run met landed)
    (second : plan.Met progress run met' other) : met = met' ∧ landed = other := by
  obtain ⟨request, signed, changed, announced, signs, announces, went⟩ := first
  obtain ⟨request', signed', changed', announced', signs', announces', went'⟩ := second
  obtain ⟨⟨⟩, rfl⟩ := Prod.mk.inj (signs.symm.trans signs')
  obtain ⟨⟨⟩, rfl⟩ := Prod.mk.inj (announces.symm.trans announces')
  exact Prod.mk.inj (went.symm.trans went')

namespace Untroubled

variable (untroubled : plan.Untroubled most)
include untroubled

theorem turn_of_illegible (stands : plan.Stands begun index progress run)
    (ready : plan.Ready progress run) (illegible : ¬ plan.Legible most index progress run) :
    ∃ failure, Turn.ending (plan.turn progress run).1 = some (.error failure) ∧
      failure.manner = .interrupted := by
  obtain ⟨met, landed, _, meets, _, _, recorded, refused⟩ :=
    untroubled.launch_cases stands.measured ready
  by_cases dated : plan.engine.Dates met landed
  · obtain ⟨attempted, after, launched, _, takes, _⟩ := recorded dated
    have unclear : ¬ plan.Clear most index attempted := by
      intro clear
      refine illegible ⟨fun met' landed' meets' => ?_, fun attempted' after' same => ?_⟩
      · obtain ⟨rfl, rfl⟩ := meets.unique meets'
        exact dated
      · obtain ⟨⟨⟩, rfl⟩ := Prod.mk.inj (launched.symm.trans same)
        exact clear
    obtain ⟨failure, ended, stopped, manner⟩ := untroubled.conclude_of_unclear unclear
      (takes.pinned.2.1.trans stands.counted) after
    refine ⟨failure, ?_, manner⟩
    rw [turn_of_conclude launched, stopped]
    rfl
  · obtain ⟨failure, ended, stopped, manner⟩ := refused dated
    refine ⟨failure, ?_, manner⟩
    rw [turn_eq, Act.bind_of_error stopped]
    rfl

theorem launch_of_legible (stands : plan.Stands begun index progress run)
    (ready : plan.Ready progress run) (legible : plan.Legible most index progress run) :
    ∃ attempted landed, plan.launch progress run = (.ok attempted, landed) ∧
      Takes progress.state attempted ∧ plan.Clear most index attempted := by
  obtain ⟨met, _, _, meets, _, _, recorded, _⟩ := untroubled.launch_cases stands.measured ready
  obtain ⟨attempted, landed, launched, _, takes, _⟩ := recorded (legible.1 met _ meets)
  exact ⟨attempted, landed, launched, takes, legible.2 attempted landed launched⟩

/-- An attempt that is concluded from has sent one request. -/
theorem launch_sends {attempted : Attempted} (stands : plan.Stands begun index progress run)
    (ready : plan.Ready progress run)
    (launched : plan.launch progress run = (.ok attempted, landed)) :
    Takes progress.state attempted ∧ landed.Measured ∧
      landed.requests.length = begun.requests.length + index + 1 := by
  obtain ⟨met, arrived, outgoing, _, sent, _, recorded, refused⟩ :=
    untroubled.launch_cases stands.measured ready
  by_cases dated : plan.engine.Dates met arrived
  · obtain ⟨attempted', landed', launched', _, takes, requests, measured⟩ := recorded dated
    obtain ⟨⟨⟩, rfl⟩ := Prod.mk.inj (launched.symm.trans launched')
    refine ⟨takes, measured, ?_⟩
    rw [requests, sent, List.length_append, stands.requests, List.length_singleton]
  · obtain ⟨failure, _, stopped, _⟩ := refused dated
    rw [launched] at stopped
    cases stopped

/-- Where the next attempt stands. -/
theorem stands_again {attempted : Attempted} {next : Progress} {after : Run σ Number ω}
    (stands : plan.Stands begun index progress run) (ready : plan.Ready progress run)
    (launched : plan.launch progress run = (.ok attempted, landed))
    (concluded : plan.conclude attempted landed = (.ok (.again next), after)) :
    plan.Stands begun (index + 1) next after := by
  obtain ⟨takes, measured, sent⟩ := untroubled.launch_sends stands ready launched
  obtain ⟨requests, _, clientTime⟩ := Run.unsent_iff.mp ((plan.conclude_unsent _).of_ok concluded)
  obtain ⟨fault, bench, recovered, location, _, recovery, moved, rfl⟩ :=
    (plan.conclude_yields _).of_ok concluded
  obtain ⟨recovered', _, recovery', pinned⟩ := untroubled.recovers attempted.state bench
  rw [recovery'] at recovery
  obtain rfl := Except.ok.inj recovery
  have whole : AttemptState.pinned.rel progress.state recovered' :=
    AttemptState.pinned.trans takes.pinned pinned
  obtain ⟨location', moved', serves⟩ := (stands.serves.of_pinned whole).next
  obtain rfl := Except.ok.inj (moved.symm.trans moved')
  refine ⟨serves, ?_, ?_, ?_⟩
  · show recovered'.retryCount + 1 = ((index + 1 : Nat) : Int)
    rw [whole.2.1, stands.counted]
    rfl
  · rw [Run.Measured, clientTime]
    exact measured
  · rw [requests, sent]
    rfl

section Path

variable (first : plan.Stands begun 0 start begun)
  (ready : ∀ made progress run, plan.Path start begun made progress run → plan.Ready progress run)
include first ready

theorem path_stands (path : plan.Path start begun made progress run) :
    plan.Stands begun made.length progress run := by
  induction path with
  | start => exact first
  | again path launched concluded ih =>
      rw [List.length_append, List.length_singleton]
      exact untroubled.stands_again ih (ready _ _ _ path) launched concluded

/-- An operation that ends without interruption comes only to attempts that can be read. -/
theorem legible_of_ended {attempts : Nat} {result : Except Failure (Option Answer)} {ended : Run σ Number ω}
    (stopped : ∀ more, attempts < more → plan.run more start begun = (result, ended))
    (whole : ∀ failure, result = .error failure → failure.manner ≠ .interrupted)
    (path : plan.Path start begun made progress run) : plan.Legible most made.length progress run := by
  by_contra illegible
  obtain ⟨failure, interrupted, manner⟩ := untroubled.turn_of_illegible
    (untroubled.path_stands first ready path) (ready _ _ _ path) illegible
  -- with fuel for both, the end that was given and this one are ends of the same run
  have settled := stopped (attempts + made.length + 1) (by omega)
  rw [path.run_of_ending interrupted (by omega)] at settled
  exact whole failure (Prod.mk.inj settled).1.symm manner

/-- As long as attempts can be read, one of them settles the operation: at the latest the one after
which no more may be repeated. -/
theorem exists_settled
    (legible : ∀ made progress run, plan.Path start begun made progress run →
      plan.Legible most made.length progress run) (left : Nat)
    (path : plan.Path start begun made progress run) (enough : most ≤ made.length + left)
    (unsettled : ∀ index (earlier : index < made.length), ¬ plan.Settles most index made[index]) :
    ∃ made progress reached attempted landed, plan.Path start begun made progress reached ∧
      plan.launch progress reached = (.ok attempted, landed) ∧
      (∀ index (earlier : index < made.length), ¬ plan.Settles most index made[index]) ∧
      plan.Settles most made.length attempted := by
  -- on how many attempts may still be repeated: with none left, whatever comes next settles
  induction left generalizing made progress run with
  | zero =>
      obtain ⟨attempted, landed, launched, _⟩ := untroubled.launch_of_legible
        (untroubled.path_stands first ready path) (ready _ _ _ path) (legible _ _ _ path)
      refine ⟨made, progress, run, attempted, landed, path, launched, unsettled, ?_⟩
      unfold Settles
      split
      · trivial
      · trivial
      · exact .inr (.inr (.inl (by simpa using enough)))
  | succ left ih =>
      have stands := untroubled.path_stands first ready path
      obtain ⟨attempted, landed, launched, takes, clear⟩ := untroubled.launch_of_legible
        stands (ready _ _ _ path) (legible _ _ _ path)
      by_cases settles : plan.Settles most made.length attempted
      · exact ⟨made, progress, run, attempted, landed, path, launched, unsettled, settles⟩
      · obtain ⟨next, after, concluded⟩ := untroubled.conclude_of_unsettled clear settles
          (takes.pinned.2.1.trans stands.counted) (stands.serves.of_pinned takes.pinned) landed
        refine ih (.again path launched concluded) ?_ ?_
        · rw [List.length_append, List.length_singleton]
          omega
        · intro index earlier
          rw [List.length_append, List.length_singleton] at earlier
          rcases Nat.lt_succ_iff_lt_or_eq.mp earlier with before | rfl
          · rw [List.getElem_append_left before]
            exact unsettled index before
          · rw [List.getElem_concat_length rfl]
            exact settles

end Path

end Untroubled

end Plan

section Reach

variable (plan : Plan σ Number ω)

/-- Where the path of an operation comes to with so many attempts. -/
def Plan.reach (start : Progress) (begun : Run σ Number ω) : Nat → Option (Progress × Run σ Number ω)
  | 0 => some (start, begun)
  | attempts + 1 => do
    let (progress, run) ← reach start begun attempts
    match plan.turn progress run with
    | (.ok (.again next), after) => some (next, after)
    | _ => none

def Plan.isReady (progress : Progress) (run : Run σ Number ω) : Bool :=
  match plan.signed progress.state run with
  | (.ok request, signed) =>
    match plan.announceRequest request progress.state signed with
    | (.ok changed, _) => (plan.outgoing changed plan.timeout).isOk
    | _ => false
  | _ => false

variable {plan} {start progress : Progress} {begun run : Run σ Number ω} {made : List Attempted}

theorem Plan.Path.reach_eq (path : plan.Path start begun made progress run) :
    plan.reach start begun made.length = some (progress, run) := by
  induction path with
  | start => rfl
  | again path launched concluded ih =>
      have turned := (turn_of_conclude launched).trans concluded
      simp only [List.length_append, List.length_singleton, reach, ih, turned, Option.bind_eq_bind,
        Option.bind_some]

theorem Plan.reach_of_none {bound : Nat} (none : plan.reach start begun bound = none) (more : Nat) :
    plan.reach start begun (bound + more) = .none := by
  induction more with
  | zero => exact none
  | succ more ih => rw [← Nat.add_assoc, reach, ih]; rfl

theorem Plan.ready_of_isReady (holds : plan.isReady progress run = true) : plan.Ready progress run := by
  unfold isReady at holds
  split at holds
  · next request signed signs =>
    split at holds
    · next changed announced announces =>
      cases made : plan.outgoing changed plan.timeout with
      | ok outgoing => exact ⟨request, signed, changed, announced, outgoing, signs, announces, made⟩
      | error fault =>
          rw [made] at holds
          contradiction
    · contradiction
  · contradiction

/-- Requests are ready all along a path if they are as far as it goes. -/
theorem Plan.Path.ready (bound : Nat) (last : (plan.reach start begun bound).isNone)
    (all : ∀ attempts < bound, (plan.reach start begun attempts).all fun here =>
      plan.isReady here.1 here.2) (path : plan.Path start begun made progress run) :
    plan.Ready progress run := by
  by_cases within : made.length < bound
  · have here := all made.length within
    rw [path.reach_eq] at here
    exact ready_of_isReady here
  · obtain ⟨more, beyond⟩ := Nat.exists_eq_add_of_le (Nat.not_lt.mp within)
    have nowhere := reach_of_none (Option.isNone_iff_eq_none.mp last) more
    rw [← beyond, path.reach_eq] at nowhere
    contradiction

end Reach

/-- An attempt that settles an operation never interrupts it. -/
theorem Plan.EndsWith.manner {attempted : Attempted} {failure : Failure} {ended : Run σ Number ω}
    (ends : EndsWith attempted (.error failure) ended) : failure.manner = .recorded := by
  unfold EndsWith at ends
  split at ends
  · obtain ⟨_, _, answer⟩ := ends
    contradiction
  all_goals
    cases ends
    rfl

namespace Engine

open Plan

variable {engine : Engine σ Number} {operation : Operation σ Number ω}
  {policy : Option (Policy σ Number)} {handlers : Handlers σ} {run : Run σ Number ω}
  {plan : Plan σ Number ω} {start : AttemptState} {most : Int}

theorem stands_start (planned : engine.planFor operation policy handlers run = .ok (plan, start))
    (fresh : operation.start.retryCount = 0) : plan.Stands (opened run) 0 ⟨start, none⟩ (opened run) := by
  obtain ⟨_, _, _, mode, location, started, rfl⟩ := planFor_eq planned
  exact ⟨Endpoints.serves_start started, fresh, .inl rfl, rfl⟩

/-- An operation that nothing else troubles ends with the first attempt that settles it, exactly if the
attempts that it comes to can be read. -/
theorem execute_ends_at_first_iff
    (planned : engine.planFor operation policy handlers run = .ok (plan, start))
    (untroubled : plan.Untroubled most) (fresh : operation.start.retryCount = 0)
    (ready : ∀ made progress reached, plan.Path ⟨start, none⟩ (opened run) made progress reached →
      plan.Ready progress reached) :
    plan.EndsAtFirst most ⟨start, none⟩ (opened run)
        (fun attempts => engine.execute operation policy handlers attempts run) ↔
      ∀ made progress reached, plan.Path ⟨start, none⟩ (opened run) made progress reached →
        plan.Legible most made.length progress reached := by
  have first := stands_start planned fresh
  constructor
  · rintro ⟨made, _, _, attempted, _, result, ended, path, _, _, _, ends, stopped, _⟩
    have settled : ∀ attempts, made.length < attempts →
        plan.run attempts ⟨start, none⟩ (opened run) = (result, ended) := by
      intro attempts enough
      rw [← execute_of_plan planned]
      exact stopped attempts enough
    have whole : ∀ failure, result = .error failure → failure.manner ≠ .interrupted := by
      rintro failure rfl
      rw [ends.manner]
      decide
    exact fun made progress reached path => untroubled.legible_of_ended first ready settled whole path
  · intro legible
    obtain ⟨made, progress, reached, attempted, landed, path, launched, unsettled, settles⟩ :=
      untroubled.exists_settled first ready legible most.toNat .start
        (by rw [List.length_nil]; omega) nofun
    have stands := untroubled.path_stands first ready path
    obtain ⟨takes, _, sent⟩ := untroubled.launch_sends stands (ready _ _ _ path) launched
    obtain ⟨result, ended, ends, landing, ending⟩ := untroubled.conclude_of_settles
      ((legible _ _ _ path).2 attempted landed launched) settles
      (takes.pinned.2.1.trans stands.counted) takes.response landed
    refine ⟨made, progress, reached, attempted, landed, result, ended, path, launched, unsettled, settles,
      ends, ?_, ?_, ?_⟩
    · intro attempts enough
      have turned := turn_of_conclude launched
      show engine.execute operation policy handlers attempts run = _
      rw [execute_of_plan planned, path.run_of_ending (by rw [turned]; exact ending) enough, turned,
        landing]
    · rw [← landing, (Run.unsent_iff.mp (plan.conclude_unsent attempted landed)).1, sent]
    · obtain ⟨results, recorded, faults⟩ := path.results
      obtain ⟨last, one, fault⟩ := (Act.ends_of_ok launched).mp (plan.launch_records _ _)
      rw [← landing, (Run.unsent_iff.mp (plan.conclude_unsent attempted landed)).2.1, one, recorded]
      simp [faults, fault]

end Engine

namespace Busy

/-! The empty request under a policy that repeats it twice, against services that answer one by one. -/

variable (replies : Nat → Reply)

def settled : Plan Nat Number Unit × AttemptState :=
  ((Engine.answering replies).planFor .plain (some .twice) {} .plain).toOption.get rfl

def plan : Plan Nat Number Unit :=
  (settled replies).1

def start : AttemptState :=
  (settled replies).2

theorem planned : (Engine.answering replies).planFor .plain (some .twice) {} .plain =
    .ok (plan replies, start replies) := rfl

def execute (attempts : Nat) : Except Failure (Option Answer) × Run Nat Number Unit :=
  (Engine.answering replies).execute .plain (some .twice) {} attempts .plain

theorem execute_eq (attempts : Nat) : execute replies attempts =
    (plan replies).run attempts ⟨start replies, none⟩ (Engine.opened .plain) :=
  Engine.execute_of_plan (planned replies) attempts

theorem untroubled : (plan replies).Untroubled 2 where
  unlimited := rfl
  uncancelled _ _ := rfl
  timed _ := ⟨0, rfl⟩
  counts := .linear rfl rfl rfl
  sleeps _ world _ := ⟨world, rfl⟩
  waits _ _ world _ := ⟨world, rfl⟩
  judges := (Operation.plain_within _).judges
  finishes := (Operation.plain_within _).finishes
  recovers state bench := ⟨state, bench, rfl, AttemptState.pinned.refl state⟩
  retrying := Engine.polite_plain _
  completed := Engine.polite_plain _
  responses := Engine.bounded_plain _ _

/-- The second attempt settles the operation, after two requests. -/
theorem once_ends_at_second :
    (plan Reply.busyOnce).EndsAtFirst 2 ⟨start Reply.busyOnce, none⟩ (Engine.opened .plain)
        (execute Reply.busyOnce) ∧
      (execute Reply.busyOnce 2).2.requests.length = 2 := by
  have ready : ∀ made progress reached, (plan Reply.busyOnce).Path ⟨start Reply.busyOnce, none⟩
      (Engine.opened .plain) made progress reached → (plan Reply.busyOnce).Ready progress reached :=
    fun _ _ _ path => path.ready 2 (by decide +kernel) (by decide +kernel)
  have first : (plan Reply.busyOnce).Stands (Engine.opened .plain) 0 ⟨start Reply.busyOnce, none⟩
      (Engine.opened .plain) :=
    Engine.stands_start (planned Reply.busyOnce) rfl
  have answered : Answer.isGiven (execute Reply.busyOnce 2).1 = true := by decide +kernel
  obtain ⟨answer, given⟩ := Answer.given_of_isGiven answered
  rw [execute_eq] at given
  have stopped : ∀ more, 1 < more → (plan Reply.busyOnce).run more ⟨start Reply.busyOnce, none⟩
      (Engine.opened .plain) = (.ok (some answer),
        ((plan Reply.busyOnce).run 2 ⟨start Reply.busyOnce, none⟩ (Engine.opened .plain)).2) :=
    fun more enough => Plan.run_of_ended given nofun enough
  have iff := Engine.execute_ends_at_first_iff (planned Reply.busyOnce) (untroubled Reply.busyOnce) rfl ready
  refine ⟨iff.mpr fun _ _ _ path => ?_, by decide +kernel⟩
  exact (untroubled Reply.busyOnce).legible_of_ended first ready stopped nofun path

/-- The service is busy, and yet nothing is repeated, since a list is not looked up among the codes that
are expected. -/
theorem odd_code_not_repeated : (plan Reply.oddCode).Untroubled 2 ∧
    (∀ made progress reached, (plan Reply.oddCode).Path ⟨start Reply.oddCode, none⟩ (Engine.opened .plain)
      made progress reached → (plan Reply.oddCode).Ready progress reached) ∧
    ¬ (plan Reply.oddCode).EndsAtFirst 2 ⟨start Reply.oddCode, none⟩ (Engine.opened .plain)
        (execute Reply.oddCode) := by
  refine ⟨untroubled Reply.oddCode,
    fun _ _ _ path => path.ready 1 (by decide +kernel) (by decide +kernel), ?_⟩
  rintro ⟨made, _, _, attempted, _, result, ended, _, _, _, _, ends, stopped, _⟩
  have interrupted : Answer.failsIn .interrupted (execute Reply.oddCode 1).1 = true := by decide +kernel
  obtain ⟨failure, failed, manner⟩ := Answer.failure_of_failsIn interrupted
  have broken := congrArg Prod.fst failed
  have settled := stopped (made.length + 1) (Nat.lt_succ_self _)
  rw [execute_eq] at broken settled
  have again : (plan Reply.oddCode).run (made.length + 1) ⟨start Reply.oddCode, none⟩ (Engine.opened .plain) =
      (.error failure, ((plan Reply.oddCode).run 1 ⟨start Reply.oddCode, none⟩ (Engine.opened .plain)).2) :=
    Plan.run_of_ended broken nofun (by omega)
  rw [again] at settled
  obtain ⟨rfl, _⟩ := Prod.mk.inj settled
  rw [ends.manner] at manner
  exact absurd manner (by decide)

end Busy

end ObjectStore
