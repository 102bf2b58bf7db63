import ObjectStore.Proofs.Engine.Attempt
import ObjectStore.Proofs.Engine.Conclude
import ObjectStore.Proofs.Engine.Likeness
import ObjectStore.Proofs.Engine.Plain
import ObjectStore.Proofs.Engine.Prepare
import ObjectStore.Proofs.Engine.Requests

/-! Secrets stay out of the log. A request is signed after everything that is said of its making, what is said
of it later does not show the signature, and nobody whose answers count looks at it. -/

namespace ObjectStore

variable {σ τ ω ε α : Type}

/-- Attempts in progress that look the same through a veil. -/
structure Sending.Near (veil : Veil) (near : σ → σ → Prop) (sending other : Sending σ τ ω) : Prop where
  run : Run.Near veil near sending.run other.run
  state : sending.state = other.state
  exchange : veil.exchange sending.exchange = veil.exchange other.exchange

/-- Attempts that look the same through a veil. -/
structure Attempted.Near (veil : Veil) (attempted other : Attempted) : Prop where
  outcome : attempted.outcome = other.outcome
  state : attempted.state = other.state
  exchange : veil.exchange attempted.exchange = veil.exchange other.exchange

namespace Plan

variable {plan : Plan σ τ ω} {credentials : Credentials} {authentication : Authentication} {veil : Veil}
  {near : σ → σ → Prop} {same : α → α → Prop}

/-- Requests and timeouts that were prepared alike. -/
def Prepared (veil : Veil) (made made' : Request × Timeout τ) : Prop :=
  veil.Same made.1 made'.1 ∧ made.2 = made'.2

theorem revise_alike (request : Request) (x : Act Fault Request Unit) :
    (revise request x : Act Fault (Run σ τ ω) Request).Alike (Run.Near veil near) Eq (revise request x) := by
  unfold revise
  split
  · exact .pure rfl
  · exact .fail _

theorem onRun_alike {x y : Act Fault (Run σ τ ω) α} (alike : x.Alike (Run.Near veil near) same y) :
    (onRun x).Alike (Sending.Near veil near) same (onRun y) :=
  .on alike (fun _ _ close => close.run) fun _ _ _ _ close moved => { close with run := moved }

/-- What a policy is told of attempts that look the same looks the same. -/
theorem reported_alike {attempted attempted' : Attempted} (alike : Attempted.Near veil attempted attempted')
    (fault : Fault) : veil.context (reported attempted fault) = veil.context (reported attempted' fault) := by
  simp only [reported, Veil.context, alike.state, Veil.request_eq alike.exchange,
    Veil.response_eq alike.exchange, Option.map_some]

theorem refuse_alike (last : Option Fault) (fault : Fault) :
    (plan.refuse last fault : Act Failure (Run σ τ ω) α).Alike (Run.Near veil near) same
      ((plan.signedBy credentials authentication).refuse last fault) := by
  unfold refuse
  split
  · exact .onward (say_alike _) fun _ => .fail _
  · split
    · exact failWith_alike _ _
    · exact .fail _

theorem handle_alike {step : Handling σ ω α} (alike : step.Alike (Receipt.Near near) Eq step)
    (response : Response) : (plan.handle response step).Alike (Sending.Near veil near) Eq
      ((plan.signedBy credentials authentication).handle response step) := by
  rintro ⟨run, state, exchange⟩ ⟨other, _, exchange'⟩ ⟨close, rfl, shown⟩
  obtain ⟨⟨⟨world, work, said⟩, states, responses⟩, agree⟩ := alike
    ⟨⟨run.world, run.work, []⟩, state, response⟩ ⟨⟨other.world, other.work, []⟩, state, response⟩
    ⟨⟨close.world, close.work, rfl⟩, rfl, rfl⟩
  refine ⟨⟨(close.worked world work).logAll _ said, states, ?_⟩, agree⟩
  exact Veil.exchange_mk (Veil.request_eq shown) (congrArg some responses)

theorem handleCurrent_alike {step : Handling σ ω α} (alike : step.Alike (Receipt.Near near) Eq step) :
    (plan.handleCurrent step).Alike (Sending.Near veil near) Eq
      ((plan.signedBy credentials authentication).handleCurrent step) := by
  refine .bind .read fun sending other close => ?_
  rw [Veil.response_eq close.exchange]
  split
  · exact handle_alike alike _
  · exact .fail _

theorem endWith_alike (reason : String) (fault : Fault) :
    (plan.endWith reason fault : Act Failure (Run σ τ ω) α).Alike (Run.Near veil near) same
      ((plan.signedBy credentials authentication).endWith reason fault) :=
  .onward (say_alike _) fun _ => failWith_alike _ _

theorem surrender_alike (fault : Fault) :
    (plan.surrender fault : Act Failure (Run σ τ ω) α).Alike (Run.Near veil near) same
      ((plan.signedBy credentials authentication).surrender fault) := by
  unfold surrender
  split
  · exact .onward (.fail _) fun _ => .onward (say_alike _) fun _ => failWith_alike _ _
  · exact .onward (say_alike _) fun _ => failWith_alike _ _

theorem succeed_alike {attempted attempted' : Attempted} (alike : Attempted.Near veil attempted attempted')
    (product : Product) : (plan.succeed attempted product).Alike (Run.Near veil near) Eq
      ((plan.signedBy credentials authentication).succeed attempted' product) := by
  unfold succeed
  rw [alike.state, Veil.response_eq alike.exchange]
  split
  · exact .fail _
  · refine .onward (.change fun run other close => ?_) fun _ => .onward (say_alike _) fun _ => .pure rfl
    exact { close with context := by rw [close.context] }

section Oblivious

variable (oblivious : plan.engine.Oblivious plan.operation plan.policy plan.handlers veil near)
include oblivious

theorem compose_alike (state : AttemptState) : (plan.compose state).Alike (Run.Near veil near) Eq
    ((plan.signedBy credentials authentication).compose state) := by
  refine .onward (take_alike (oblivious.works.builds state)) fun built => ?_
  refine .onward (.ofExcept (.of_eq rfl)) fun located => ?_
  refine .onward (take_alike (oblivious.works.heads state located)) fun headed => ?_
  refine .bind .read fun run other close => ?_
  rw [close.context]
  exact revise_alike _ _

theorem date_alike (request : Request) : (plan.date request).Alike (Run.Near veil near) Eq
    ((plan.signedBy credentials authentication).date request) := by
  refine .bind .read fun run other close => ?_
  rw [oblivious.dates close.world]
  exact revise_alike _ _

theorem isCancelled_alike {run other : Run σ τ ω} (close : Run.Near veil near run other) :
    plan.isCancelled run = (plan.signedBy credentials authentication).isCancelled other := by
  unfold isCancelled
  rw [close.context]
  cases other.context.token with
  | none => rfl
  | some token => exact oblivious.cancels token close.world

/-- The request that goes out is logged without what is hidden. -/
theorem announceRequest_alike {request request' : Request} (same : veil.Same request request')
    (state : AttemptState) : (plan.announceRequest request state).Alike (Run.Near veil near) veil.Same
      ((plan.signedBy credentials authentication).announceRequest request' state) := by
  refine .bind ((announceOn_alike oblivious rfl (Veil.exchange_mk same rfl)).mapError _) ?_
  intro told told' kept
  have sent : veil.Same told.request told'.request := Veil.request_eq kept
  obtain ⟨method, path, query, headers⟩ := Veil.shown_eq sent
  -- listeners may have changed the request, but not so that what is hidden shows elsewhere
  dsimp only
  rw [method, path, query, headers]
  exact .onward (say_alike _) fun _ => .pure sent

theorem transmit_alike {request request' : Request} (same : veil.Same request request')
    (timeout : Timeout τ) : (plan.transmit request timeout).Alike (Run.Near veil near) Eq
      ((plan.signedBy credentials authentication).transmit request' timeout) := by
  refine .bind (.ofExcept (Veil.outgoing_agree same _ _ _)) fun sent sent' shown => ?_
  refine .onward (now_alike oblivious) fun clock => ?_
  refine .onward (.change fun run other close => close.note (by simp only [Veil.entry, shown])) fun _ => ?_
  exact .onward (outside_alike (oblivious.sends shown)) fun reply => .ofExcept (.of_eq rfl)

theorem deal_alike : plan.deal.Alike (Sending.Near veil near) Eq
    (plan.signedBy credentials authentication).deal := by
  refine .onward (handleCurrent_alike oblivious.works.judges) fun outcome => ?_
  split
  · exact .onward (handleCurrent_alike (oblivious.works.finishes _)) fun product => .pure rfl
  · exact .pure rfl

theorem greet_alike : plan.greet.Alike (Sending.Near veil near) Eq
    (plan.signedBy credentials authentication).greet :=
  .on (announce_alike oblivious rfl) (fun _ _ close => ⟨close.run, close.exchange⟩)
    fun _ _ _ _ close told => ⟨told.1, close.state, told.2⟩

theorem exchange_alike (timeout : Timeout τ) : (plan.exchange timeout).Alike (Sending.Near veil near) Eq
    ((plan.signedBy credentials authentication).exchange timeout) := by
  refine .bind .read fun sending other close => ?_
  have same := Veil.request_eq close.exchange
  refine .onward (onRun_alike (transmit_alike oblivious same timeout)) fun response => ?_
  refine .onward (.change fun sending other close => ?_) fun _ => ?_
  · exact { close with exchange := Veil.exchange_mk (Veil.request_eq close.exchange) rfl }
  · refine .onward (greet_alike oblivious) fun _ => .bind .read fun sending other close => ?_
    rw [Veil.response_eq close.exchange]
    split
    · exact .onward (onRun_alike (say_alike _)) fun _ => deal_alike oblivious
    · exact deal_alike oblivious

theorem exchanged_alike {request request' : Request}
    (same : veil.Same request request') (timeout : Timeout τ) (state : AttemptState)
    {run other : Run σ τ ω} (close : Run.Near veil near run other) :
    Attempted.Near veil (plan.exchanged request timeout state run).1
        ((plan.signedBy credentials authentication).exchanged request' timeout state other).1 ∧
      Run.Near veil near (plan.exchanged request timeout state run).2
        ((plan.signedBy credentials authentication).exchanged request' timeout state other).2 := by
  have alike : (plan.exchange timeout).Alike (Sending.Near veil near) Eq
      ((plan.signedBy credentials authentication).exchange timeout) := exchange_alike oblivious timeout
  obtain ⟨closer, agree⟩ := alike ⟨run, state, ⟨request, none⟩⟩ ⟨other, state, ⟨request', none⟩⟩
    ⟨close, rfl, Veil.exchange_mk same rfl⟩
  exact ⟨⟨congrArg Outcome.ofResult agree.eq, closer.state, closer.exchange⟩, closer.run⟩

theorem rest_alike (interval : τ) : (plan.rest interval).Alike (Run.Near veil near) Eq
    ((plan.signedBy credentials authentication).rest interval) := by
  refine .onward (now_alike oblivious) fun clock => .bind .read fun run other close => ?_
  rw [close.context]
  split
  · refine .onward (outside_alike ((oblivious.sleeps interval).mapError _)) fun _ => ?_
    exact .change fun run other close => close.note rfl
  · next token _ =>
    refine .onward (.change fun run other close => close.note rfl) fun _ => ?_
    refine .onward (outside_alike ((oblivious.waits token interval).mapError _)) fun ended => ?_
    split
    · exact .onward (say_alike _) fun _ => failWith_alike _ _
    · exact .pure rfl

theorem advance_alike (state : AttemptState) : (plan.advance state).Alike (Run.Near veil near) Eq
    ((plan.signedBy credentials authentication).advance state) := by
  refine .onward ((take_alike (oblivious.works.recovers state)).mapError _) fun recovered => ?_
  exact .onward (.ofExcept (.of_eq rfl)) fun location => .pure rfl

variable [Seconds τ]

theorem check_alike (last : Option Fault) : (plan.check last).Alike (Run.Near veil near) Eq
    ((plan.signedBy credentials authentication).check last) := by
  rw [check_eq, check_eq]
  refine .bind .read fun run other close => ?_
  have seen : plan.isCancelled run = (plan.signedBy credentials authentication).isCancelled other :=
    isCancelled_alike oblivious close
  rw [seen]
  split
  · exact .onward (say_alike _) fun _ => failWith_alike _ _
  · refine .onward (now_alike oblivious) fun clock => .onward (.ofExcept (.of_eq rfl)) fun expired => ?_
    split
    · exact .onward (say_alike _) fun _ => failWith_alike _ _
    · exact .pure rfl

theorem record_alike (started : τ) (start : Time.DateTime) {met met' : Attempted}
    (alike : Attempted.Near veil met met') : (plan.record started start met).Alike (Run.Near veil near) Eq
      ((plan.signedBy credentials authentication).record started start met') := by
  refine .onward (now_alike oblivious) fun clock => .onward (.ofExcept (.of_eq rfl)) fun spent => ?_
  refine .bind .read fun run other close => ?_
  rw [close.context]
  refine .onward (.ofExcept (.of_eq rfl)) fun total => ?_
  refine .onward (.change fun run other close => ?_) fun _ => .bind .read fun run other close => ?_
  · exact { close with context := by rw [close.context] }
  · dsimp only
    rw [oblivious.moments close.world, oblivious.reads close.world, alike.state, alike.outcome,
      Veil.response_eq alike.exchange]
    refine .onward (.ofExcept (.of_eq rfl)) fun result => ?_
    refine .onward (.change fun run other close => ?_) fun _ => ?_
    · exact { close with context := by rw [close.context] }
    · exact .pure rfl

theorem report_alike (started : τ) (start : Time.DateTime) {met met' : Attempted}
    (alike : Attempted.Near veil met met') :
    (plan.report started start met).Alike (Run.Near veil near) (Attempted.Near veil)
      ((plan.signedBy credentials authentication).report started start met') := by
  refine .onward (record_alike oblivious started start alike) fun result => ?_
  refine .bind (announceOn_alike oblivious rfl alike.exchange) fun told told' shown => ?_
  exact .pure { alike with exchange := shown }

theorem attempt_alike {request request' : Request} (same : veil.Same request request')
    (timeout : Timeout τ) (state : AttemptState) :
    (plan.attempt request timeout state).Alike (Run.Near veil near) (Attempted.Near veil)
      ((plan.signedBy credentials authentication).attempt request' timeout state) := by
  intro run other close
  have clocks : plan.engine.surroundings.clock run.world = plan.engine.surroundings.clock other.world :=
    oblivious.clocks close.world
  have moments : plan.engine.surroundings.moment run.world = plan.engine.surroundings.moment other.world :=
    oblivious.moments close.world
  obtain ⟨alike, closer⟩ := exchanged_alike oblivious same timeout state close
  rw [plan.attempt_eq rfl, (plan.signedBy credentials authentication).attempt_eq rfl, clocks, moments]
  exact report_alike oblivious _ _ alike _ _ closer

theorem ready_alike {attempted attempted' : Attempted} {context context' : RetryContext}
    (alike : Attempted.Near veil attempted attempted') (told : veil.context context = veil.context context')
    (interval : τ) : (plan.ready context attempted interval).Alike (Run.Near veil near) Eq
      ((plan.signedBy credentials authentication).ready context' attempted' interval) := by
  have seen : veil.event (.retrying context) = veil.event (.retrying context') := congrArg Event.retrying told
  have shown : veil.exchange ⟨attempted.exchange.request, none⟩ =
      veil.exchange ⟨attempted'.exchange.request, none⟩ :=
    Veil.exchange_mk (Veil.request_eq alike.exchange) rfl
  unfold ready
  rw [alike.state]
  refine .onward (say_alike _) fun _ => ?_
  exact .bind ((announceOn_alike oblivious seen shown).mapError _) fun _ _ _ => advance_alike oblivious _

theorem retry_alike {attempted attempted' : Attempted} {context context' : RetryContext}
    (alike : Attempted.Near veil attempted attempted') (told : veil.context context = veil.context context')
    (fault : Fault) (interval : τ) :
    (plan.retry context attempted fault interval).Alike (Run.Near veil near) Eq
      ((plan.signedBy credentials authentication).retry context' attempted' fault interval) := by
  rw [retry_eq, retry_eq]
  refine .onward (now_alike oblivious) fun clock => .onward (.ofExcept (.of_eq rfl)) fun tooLate => ?_
  split
  · exact .onward (say_alike _) fun _ => failWith_alike _ _
  · exact .onward (ready_alike oblivious alike told interval) fun next =>
      .onward (rest_alike oblivious interval) fun _ => .pure rfl

theorem decide_alike {attempted attempted' : Attempted} (alike : Attempted.Near veil attempted attempted')
    (fault : Fault) : (plan.decide attempted fault).Alike (Run.Near veil near) Eq
      ((plan.signedBy credentials authentication).decide attempted' fault) := by
  have told : veil.context (reported attempted fault) = veil.context (reported attempted' fault) :=
    reported_alike alike fault
  have status : (reported attempted fault).status = (reported attempted' fault).status :=
    congrArg (·.status) told
  rw [decide_eq, decide_eq]
  refine .onward (.ofExcept (.of_eq rfl)) fun expected => ?_
  split
  · exact surrender_alike fault
  · unfold consult
    dsimp only
    rw [alike.state, status]
    refine .onward (say_alike _) fun _ => ?_
    refine .onward (outside_alike ((oblivious.decides told).mapError _)) fun answer => ?_
    cases answer with
    | none => exact endWith_alike _ _
    | some interval => exact retry_alike oblivious alike told fault interval

theorem conclude_alike {attempted attempted' : Attempted} (alike : Attempted.Near veil attempted attempted') :
    (plan.conclude attempted).Alike (Run.Near veil near) Eq
      ((plan.signedBy credentials authentication).conclude attempted') := by
  unfold conclude
  rw [alike.outcome]
  split
  · exact succeed_alike alike _
  · exact endWith_alike _ _
  · split
    · exact endWith_alike _ _
    · exact decide_alike oblivious alike _

section Run

variable (akin : veil.Akin plan.engine.client.authentication authentication)
include akin

omit [Seconds τ] in
/-- Signing is where the secret comes in. -/
theorem signing_alike (request : Request) : (plan.sign request).Alike (Run.Near veil near) veil.Same
    ((plan.signedBy credentials authentication).sign request) := by
  refine take_alike ?_
  cases own : plan.operation.sign with
  | some sign =>
      have signs : (sign request).Alike (Bench.Near near) Eq (sign request) :=
        oblivious.works.signs sign own request
      have kept : (plan.signedBy credentials authentication).operation.sign = some sign := own
      rw [kept]
      exact signs.mono fun _ _ equal => congrArg veil.request equal
  | none =>
      have kept : (plan.signedBy credentials authentication).operation.sign = none := own
      rw [kept]
      -- the text to sign is logged before the secret is used on it
      rintro bench other ⟨world, work, said⟩
      obtain ⟨lines, agree⟩ := akin.sign request
      refine ⟨⟨world, work, ?_⟩, agree⟩
      exact (congrArg (bench.said ++ ·) lines).trans (congrArg (· ++ (authentication.sign request).1) said)

omit [Seconds τ] in
theorem signed_alike (state : AttemptState) : (plan.signed state).Alike (Run.Near veil near) veil.Same
    ((plan.signedBy credentials authentication).signed state) :=
  .onward (compose_alike oblivious state) fun composed =>
    .onward (date_alike oblivious composed) fun dated => signing_alike oblivious akin dated

theorem prepared_alike (state : AttemptState) : (plan.prepared state).Alike (Run.Near veil near)
    (Prepared veil) ((plan.signedBy credentials authentication).prepared state) := by
  rw [prepared_eq, prepared_eq]
  refine .bind (signed_alike oblivious akin state) fun signed signed' same => ?_
  refine .onward (now_alike oblivious) fun clock => .onward (.ofExcept (.of_eq rfl)) fun timeout => ?_
  exact .pure ⟨same, rfl⟩

theorem prepare_alike (state : AttemptState) (last : Option Fault) :
    (plan.prepare state last).Alike (Run.Near veil near) (Prepared veil)
      ((plan.signedBy credentials authentication).prepare state last) := by
  refine .bind (prepared_alike oblivious akin state).attempt fun made made' agree => ?_
  cases agree with
  | ok same => exact .pure same
  | error fault => exact refuse_alike last fault

theorem launch_alike (progress : Progress) : (plan.launch progress).Alike (Run.Near veil near)
    (Attempted.Near veil) ((plan.signedBy credentials authentication).launch progress) := by
  refine .onward (check_alike oblivious _) fun _ => ?_
  refine .bind (prepare_alike oblivious akin _ _) fun made made' same => ?_
  obtain ⟨request, timeout⟩ := made
  obtain ⟨request', _⟩ := made'
  obtain ⟨same, rfl⟩ := same
  refine .bind (announceRequest_alike oblivious same _) fun sent sent' same => ?_
  exact (attempt_alike oblivious same _ _).mapError _

theorem turn_alike (progress : Progress) : (plan.turn progress).Alike (Run.Near veil near) Eq
    ((plan.signedBy credentials authentication).turn progress) := by
  rw [turn_eq, turn_eq]
  exact .bind (launch_alike oblivious akin progress) fun _ _ alike => conclude_alike oblivious alike

/-- Two runs look the same however many attempts they make. -/
theorem run_alike (turns : Nat) (progress : Progress) :
    (plan.run turns progress).Alike (Run.Near veil near) Eq
      ((plan.signedBy credentials authentication).run turns progress) := by
  induction turns generalizing progress with
  | zero => exact .pure rfl
  | succ turns ih =>
      refine .onward (turn_alike oblivious akin progress) fun turn => ?_
      cases turn with
      | done answer => exact .pure rfl
      | again next => exact ih next

end Run

end Oblivious

end Plan

/-- A pause, and when it began. -/
def Entry.pause? : Entry τ → Option (τ × τ)
  | .slept span clock | .waited span clock => some (span, clock)
  | _ => none

/-- Two ends of an operation that look the same: all that is logged, paused, recorded and returned is the
same, and all that is heard and sent but for what is hidden of the requests. -/
structure Run.Discreet (veil : Veil) (near : σ → σ → Prop)
    (ended other : Except Failure (Option Answer) × Run σ τ ω) : Prop where
  outcome : ended.1 = other.1
  close : Run.Near veil near ended.2 other.2
  records : ended.2.journal.filterMap Entry.logged? = other.2.journal.filterMap Entry.logged?
  pauses : ended.2.journal.filterMap Entry.pause? = other.2.journal.filterMap Entry.pause?
  results : ended.2.context.results = other.2.context.results
  events : (ended.2.journal.filterMap Entry.heard?).map veil.heard =
    (other.2.journal.filterMap Entry.heard?).map veil.heard
  requests : ended.2.requests.map veil.outgoing = other.2.requests.map veil.outgoing

namespace Engine

variable [Seconds τ] {engine : Engine σ τ} {operation : Operation σ τ ω} {policy : Option (Policy σ τ)}
  {handlers : Handlers σ} {credentials : Credentials} {authentication : Authentication} {veil : Veil}
  {near : σ → σ → Prop} {run other : Run σ τ ω}

/-- Credentials have no part in what is settled before the first attempt. -/
theorem planFor_alike
    (oblivious : engine.Oblivious operation (engine.policyFor operation policy) handlers veil near)
    (close : Run.Near veil near run other) :
    Agree (fun settled settled' => settled' = (settled.1.signedBy credentials authentication, settled.2))
      (engine.planFor operation policy handlers run)
      ((engine.signedBy credentials authentication).planFor operation policy handlers other) := by
  have clock : engine.surroundings.clock other.world = engine.surroundings.clock run.world :=
    (oblivious.clocks close.world).symm
  show Agree _ _ ((engine.signedBy credentials authentication).plan operation policy handlers
    (engine.surroundings.clock other.world) other.context.reset)
  rw [clock, ← close.context]
  unfold planFor Engine.plan
  dsimp only
  split
  all_goals
    refine .after _ fun endpoints => .after _ fun deadline => .after _ fun mode => ?_
    exact .after _ fun _ => .after _ fun location => .ok rfl

theorem execute_alike
    (oblivious : engine.Oblivious operation (engine.policyFor operation policy) handlers veil near)
    (akin : veil.Akin engine.client.authentication authentication) (turns : Nat) :
    (engine.execute operation policy handlers turns).Alike (Run.Near veil near) Eq
      ((engine.signedBy credentials authentication).execute operation policy handlers turns) := by
  intro run other close
  have opens : Run.Near veil near (opened run) (opened other) :=
    { close with context := congrArg OperationContext.reset close.context }
  have settles : Agree _ (engine.planFor operation policy handlers run)
      ((engine.signedBy credentials authentication).planFor operation policy handlers other) :=
    planFor_alike oblivious close
  cases planned : engine.planFor operation policy handlers run with
  | error fault =>
      rw [planned] at settles
      rw [execute_of_refusal planned, execute_of_refusal settles.of_error]
      exact ⟨opens, .error _⟩
  | ok settled =>
      obtain ⟨plan, start⟩ := settled
      rw [planned] at settles
      obtain ⟨_, planned', rfl⟩ := settles.of_ok
      obtain ⟨rfl, rfl, rfl, _⟩ := planFor_eq planned
      rw [← (planFor_options planned).2.2] at oblivious
      rw [execute_of_plan planned, execute_of_plan planned']
      exact Plan.run_alike oblivious akin turns ⟨start, none⟩ _ _ opens

/-- Whatever an operation comes to, its secret is not told: run with one key or another, or with a token of
one signature or another, it looks the same. -/
theorem execute_discreet
    (oblivious : engine.Oblivious operation (engine.policyFor operation policy) handlers veil near)
    (akin : veil.Akin engine.client.authentication authentication) (close : Run.Near veil near run other)
    (turns : Nat) : Run.Discreet veil near (engine.execute operation policy handlers turns run)
      ((engine.signedBy credentials authentication).execute operation policy handlers turns other) := by
  obtain ⟨closer, agree⟩ := execute_alike oblivious akin turns run other close
  exact {
    outcome := agree.eq
    close := closer
    records := closer.views_eq fun entry => by cases entry <;> rfl
    pauses := closer.views_eq fun entry => by cases entry <;> rfl
    results := congrArg OperationContext.results closer.context
    events := closer.views fun entry => by cases entry <;> rfl
    requests := closer.views fun entry => by cases entry <;> rfl }

end Engine

namespace Hidden

/-! A service that is busy once, a listener that hears everything, and a log that keeps everything. -/

def engine (authentication : Authentication) : Engine Nat Number :=
  let answering := Engine.answering Reply.busyOnce
  { answering with
    surroundings := { answering.surroundings with logThreshold := some Log.debug }
    client := { Client.plain .persistent with authentication } }

def handlers : Handlers Nat :=
  .every ⟨"listener", fun _ => pure ()⟩

def key (text : String) : Authentication :=
  .sharedKey .full (some "acc") (.text text)

def token (signature : String) : Authentication :=
  .token (some ("sv=1&sig=" ++ signature))

def ended (authentication : Authentication) : Except Failure (Option Answer) × Run Nat Number Unit :=
  (engine authentication).execute .plain none handlers 2 .plain

theorem oblivious (authentication : Authentication) (veil : Veil) :
    (engine authentication).Oblivious Operation.plain ((engine authentication).policyFor Operation.plain none)
      handlers veil Eq := by
  refine Engine.oblivious_eq (fun _ => .refl _) (fun _ => .refl _) ?_
  intro kind listener member event event' _
  have silent : listener.hear event = pure () ∧ listener.hear event' = pure () := by
    cases kind <;> rw [List.mem_singleton.mp member] <;> exact ⟨rfl, rfl⟩
  rw [silent.1, silent.2]
  exact .pure rfl

theorem near (veil : Veil) : Run.Near veil Eq (.plain : Run Nat Number Unit) .plain :=
  ⟨rfl, rfl, rfl, rfl⟩

theorem keys_akin : Veil.authorization.Akin (key "a2V5") (key "c2VjcmV0") :=
  .sharedKey (by decide +kernel) (by rfl) (by rfl)

theorem tokens_akin : Veil.signature.Akin (token "first") (token "second") :=
  .token (by decide +kernel)

def said (authentication : Authentication) : List Log.Record :=
  (ended authentication).2.journal.filterMap Entry.logged?

def signatures (authentication : Authentication) : List (Option String) :=
  (ended authentication).2.requests.map fun outgoing => (outgoing.params.get? "sig").map Value.toText

/-- The tokens go out with both requests, and no log tells which it was. -/
theorem secrets_stay_hidden :
    (Veil.authorization.Akin (key "a2V5") (key "c2VjcmV0") ∧
      Run.Discreet .authorization Eq (ended (key "a2V5")) (ended (key "c2VjcmV0")) ∧
      (said (key "a2V5")).length = 9) ∧
    (Veil.signature.Akin (token "first") (token "second") ∧
      Run.Discreet .signature Eq (ended (token "first")) (ended (token "second")) ∧
      (said (token "first")).length = 7 ∧ signatures (token "first") = [some "first", some "first"] ∧
      signatures (token "second") = [some "second", some "second"]) :=
  ⟨⟨keys_akin, Engine.execute_discreet (oblivious _ _) keys_akin (near _) 2, by decide +kernel⟩,
    tokens_akin, Engine.execute_discreet (oblivious _ _) tokens_akin (near _) 2, by decide +kernel,
    by decide +kernel, by decide +kernel⟩

end Hidden

end ObjectStore
