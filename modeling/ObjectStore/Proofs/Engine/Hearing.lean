import ObjectStore.Proofs.Engine.Course

/-! What listeners hear. Each event goes to the listeners of the client and then to those of the
operation, and nothing else is heard. -/

namespace ObjectStore

variable {σ τ ω : Type}

/-- What was heard, and by whom, in the order in which it was. -/
def Run.heard (run : Run σ τ ω) : List (String × Event) :=
  run.journal.filterMap fun entry => entry.heard?.map fun (listener, event, _) => (listener, event)

/-- Nobody hears of anything. -/
def Run.silent : Frame (Run σ τ ω) :=
  .same Run.heard

namespace Run

theorem note_silent {entry : Entry τ} (quiet : entry.heard? = none) (run : Run σ τ ω) :
    silent.rel run (run.note entry) := by
  show (run.note entry).heard = run.heard
  simp [heard, note, List.filterMap_append, quiet]

theorem log_silent (threshold : Option Int) (line : Log.Line) (run : Run σ τ ω) :
    silent.rel run (run.log threshold line) := by
  unfold log
  split
  · exact note_silent rfl run
  · exact silent.refl run

theorem logAll_silent (threshold : Option Int) (lines : List Log.Line) (run : Run σ τ ω) :
    silent.rel run (run.logAll threshold lines) := by
  induction lines generalizing run with
  | nil => exact silent.refl run
  | cons line rest ih => exact silent.trans (log_silent threshold line run) (ih _)

end Run

/-- Who hears of an event, in order. -/
def Engine.delivered (engine : Engine σ τ) (handlers : Handlers σ) (event : Event) :
    List (String × Event) :=
  (engine.listeners handlers event.kind).map fun listener => (listener.name, event)

namespace Plan

variable {ε α : Type} (plan : Plan σ τ ω)

abbrev Polite (kind : Event.Kind) : Prop :=
  plan.engine.Polite plan.handlers kind

abbrev delivered (event : Event) : List (String × Event) :=
  plan.engine.delivered plan.handlers event

section Silence

theorem say_silent (line : Log.Line) : (plan.say line : Act ε (Run σ τ ω) Unit).Keeps Run.silent :=
  fun run => Run.log_silent _ line run

theorem take_silent (step : Step σ ω α) :
    (plan.take step : Act Fault (Run σ τ ω) α).Keeps Run.silent :=
  fun run => Run.silent.trans (b := { run with world := _, work := _ }) rfl (Run.logAll_silent _ _ _)

theorem outside_silent (x : Act ε σ α) : (outside x : Act ε (Run σ τ ω) α).Keeps Run.silent :=
  fun _ => rfl

theorem rest_silent (interval : τ) : (plan.rest interval).Keeps Run.silent := by
  have slept : ∀ interval clock (run : Run σ τ ω), Run.silent.rel run (run.note (.slept interval clock)) :=
    fun _ _ run => Run.note_silent rfl run
  have waited : ∀ interval clock (run : Run σ τ ω), Run.silent.rel run (run.note (.waited interval clock)) :=
    fun _ _ run => Run.note_silent rfl run
  refine .bind (fun _ => rfl) fun clock => .bind .read fun run => ?_
  split
  · exact .bind (outside_silent _) fun _ => .change (slept _ _)
  · refine .bind (.change (waited _ _)) fun _ => .bind (outside_silent _) fun ended => ?_
    split
    · exact .bind (plan.say_silent _) fun _ _ => rfl
    · exact .pure ()

theorem handleCurrent_silent (step : Handling σ ω α) :
    (plan.handleCurrent step).Keeps (Run.silent.within Sending.run) := by
  refine .bind .read fun sending => ?_
  split
  · intro current
    exact Run.silent.trans (b := { current.run with world := _, work := _ }) rfl
      (Run.logAll_silent _ _ _)
  · exact .fail _

theorem deal_silent : plan.deal.Keeps (Run.silent.within Sending.run) := by
  refine .bind (plan.handleCurrent_silent _) fun outcome => ?_
  split
  · exact .bind (plan.handleCurrent_silent _) fun _ => .pure _
  · exact .pure _

theorem advance_silent (state : AttemptState) : (plan.advance state).Keeps Run.silent :=
  .bind ((plan.take_silent _).mapError _) fun _ => .bind (.ofExcept _) fun _ => .pure _

end Silence

section Announcements

variable {plan} (event : Event)

theorem callAll_tells (listeners : List (Listener σ))
    (polite : ∀ listener ∈ listeners, (listener.hear event).Returns) (run : Run σ τ ω)
    (exchange : Exchange) : ∃ after changed,
      Multicaster.callAll (tell event) listeners (run, exchange) = (.ok (), after, changed) ∧
      after.heard = run.heard ++ listeners.map fun listener => (listener.name, event) := by
  induction listeners generalizing run exchange with
  | nil => exact ⟨run, exchange, rfl, (List.append_nil _).symm⟩
  | cons listener rest ih =>
      obtain ⟨_, ⟨world, changed⟩, heard⟩ := polite listener List.mem_cons_self (run.world, exchange)
      have told : tell event listener (run, exchange) =
          (.ok (), { run.note (.heard listener.name event exchange) with world }, changed) := by
        simp only [tell, Run.note, heard]
      obtain ⟨after, last, called, all⟩ := ih (fun other member => polite other (List.mem_cons_of_mem _ member))
        { run.note (.heard listener.name event exchange) with world } changed
      refine ⟨after, last, (Act.bind_of_ok told _).trans called, ?_⟩
      rw [all]
      simp [Run.heard, Run.note, List.filterMap_append, Entry.heard?]

/-- Polite listeners all hear of an event. -/
theorem announce_tells (polite : plan.Polite event.kind) (run : Run σ τ ω) (exchange : Exchange) :
    ∃ after changed, plan.announce event (run, exchange) = (.ok (), after, changed) ∧
      after.heard = run.heard ++ plan.delivered event := by
  rw [announce_eq]
  exact callAll_tells event _ (fun listener member => polite listener member event) run exchange

theorem announceOn_tells (polite : plan.Polite event.kind) (exchange : Exchange) (run : Run σ τ ω) :
    ∃ changed after, plan.announceOn event exchange run = (.ok changed, after) ∧
      after.heard = run.heard ++ plan.delivered event := by
  obtain ⟨after, changed, announced, heard⟩ := announce_tells event polite run exchange
  exact ⟨changed, after, by simp only [announceOn, announced], heard⟩

end Announcements

/-- What is heard of the response, if there is one. -/
def greeting (reply : Except Fault Response) : List (String × Event) :=
  match reply with
  | .ok _ => plan.delivered .responseReceived
  | .error _ => []

theorem transmit_silent (request : Request) (timeout : Timeout τ) :
    (plan.transmit request timeout).Keeps Run.silent := by
  refine .bind (.ofExcept _) fun outgoing => .bind (fun _ => rfl) fun clock => ?_
  refine .bind (.change fun run => Run.note_silent rfl run) fun _ => ?_
  exact .bind (outside_silent _) fun reply => .ofExcept _

variable {plan}

theorem attend_tells (polite : plan.Polite .responseReceived) (response : Response)
    (sending : Sending σ τ ω) : (plan.attend response sending).2.run.heard =
      sending.run.heard ++ plan.delivered .responseReceived := by
  obtain ⟨after, changed, announced, heard⟩ := announce_tells .responseReceived polite sending.run
    { sending.exchange with response := some response }
  have greeted : plan.greet { sending with exchange := { sending.exchange with response := some response } } =
      (.ok (), { sending with run := after, exchange := changed }) := by
    simp only [greet, Act.on_apply, announced]
  have said : ∀ line, (onRun (plan.say line) : Act Fault (Sending σ τ ω) Unit).Keeps
      (Run.silent.within Sending.run) :=
    fun line => .on (plan.say_silent line) fun _ _ kept => kept
  rw [attend, Act.bind_of_ok (Act.change_apply _ _), Act.bind_of_ok greeted,
    Act.bind_of_ok (Act.read_apply _), ← heard]
  cases changed.response with
  | none => exact plan.deal_silent _
  | some response => exact Act.Keeps.bind (said _) (fun _ => plan.deal_silent) _

theorem exchange_tells (polite : plan.Polite .responseReceived) (timeout : Timeout τ)
    (sending : Sending σ τ ω) : (plan.exchange timeout sending).2.run.heard = sending.run.heard ++
      plan.greeting (plan.transmit sending.exchange.request timeout sending.run).1 := by
  have silent := plan.transmit_silent sending.exchange.request timeout sending.run
  cases transmitted : plan.transmit sending.exchange.request timeout sending.run with
  | mk reply run =>
  rw [transmitted] at silent
  have quiet : run.heard = sending.run.heard := silent
  cases reply with
  | error fault =>
      rw [plan.exchange_of_fault transmitted, greeting, List.append_nil]
      exact quiet
  | ok response =>
      rw [plan.exchange_of_answer transmitted, attend_tells polite, quiet]
      rfl

variable [Seconds τ]

variable (plan) in
theorem prepare_silent (state : AttemptState) (last : Option Fault) :
    (plan.prepare state last).Keeps Run.silent :=
  plan.prepare_keeps plan.say_silent (plan.prepared_keeps (fun _ => plan.take_silent _)
    (fun _ _ => plan.take_silent _) (fun _ => plan.take_silent _) state) last

/-- A request is announced exactly if it is handed over. -/
theorem depart_tells (polite : plan.Polite .sendingRequest) (progress : Progress) (run : Run σ τ ω) :
    (plan.depart progress).Ends run
      (fun _ after => after.heard =
        run.heard ++ plan.delivered (.sendingRequest progress.state.retryCount))
      (fun _ after => after.heard = run.heard) := by
  refine .bind ((plan.check_keeps plan.say_silent progress.last).ends run) fun _ checked early => ?_
  have prepares := (plan.prepare_silent progress.state progress.last).ends checked
  refine .bind (prepares.mono (fun _ _ kept => Eq.trans kept early) fun _ _ kept => Eq.trans kept early) ?_
  intro prepared after quiet
  obtain ⟨changed, announced, hears, heard⟩ := announceOn_tells
    (.sendingRequest progress.state.retryCount) polite ⟨prepared.1, none⟩ after
  refine Act.ends_bind.mpr (Act.ends_bind.mpr (Act.ends_mapError.mpr ?_))
  refine (Act.ends_of_ok hears).mpr (Act.ends_bind.mpr (plan.say_ends.mpr ?_))
  refine (Run.log_silent _ _ announced).trans (heard.trans ?_)
  rw [quiet]

theorem Departs.heard {progress : Progress} {run : Run σ τ ω} {trip : Trip σ τ ω}
    (departs : plan.Departs progress run trip) (sending : plan.Polite .sendingRequest)
    (received : plan.Polite .responseReceived) : trip.landed.heard = run.heard ++
      (plan.delivered (.sendingRequest trip.state.retryCount) ++ plan.greeting trip.reply) := by
  obtain ⟨prepared, request, timeout, announced, departed, rfl⟩ := departs
  have early := (Act.ends_of_ok departed).mp (depart_tells sending progress run)
  rw [← List.append_assoc]
  exact (exchange_tells received timeout ⟨announced, progress.state, ⟨request, none⟩⟩).trans
    (congrArg (· ++ _) early)

variable (plan) in
/-- Another attempt is announced after a fault. -/
def Onward (attempted : Attempted) (run after : Run σ τ ω) : Prop :=
  ∃ fault, attempted.outcome = .retryable fault ∧
    after.heard = run.heard ++ plan.delivered (.retrying (reported attempted fault))

omit [Seconds τ] in
theorem endWith_tells (reason : String) (fault : Fault) (run : Run σ τ ω) :
    (plan.endWith reason fault : Act Failure (Run σ τ ω) α).Ends run (fun _ _ => False)
      fun _ after => after.heard = run.heard :=
  Run.log_silent _ _ run

omit [Seconds τ] in
theorem surrender_tells (fault : Fault) (run : Run σ τ ω) :
    (plan.surrender fault : Act Failure (Run σ τ ω) α).Ends run (fun _ _ => False)
      fun _ after => after.heard = run.heard := by
  unfold surrender
  split
  · exact rfl
  · exact Run.log_silent _ _ run

section Retrying

variable (polite : plan.Polite .retrying) {attempted : Attempted} {fault : Fault}
  (outcome : attempted.outcome = .retryable fault)
include polite

theorem ready_tells (context : RetryContext) (interval : τ) (run : Run σ τ ω) :
    (plan.ready context attempted interval).Ends run
      (fun _ after => after.heard = run.heard ++ plan.delivered (.retrying context))
      (fun _ after => after.heard = run.heard ++ plan.delivered (.retrying context)) := by
  refine Act.ends_bind.mpr (plan.say_ends.mpr (Act.ends_bind.mpr (Act.ends_mapError.mpr ?_)))
  obtain ⟨changed, announced, hears, heard⟩ := announceOn_tells (.retrying context) polite
    ⟨attempted.exchange.request, none⟩ (run.log plan.engine.surroundings.logThreshold _)
  refine (Act.ends_of_ok hears).mpr ?_
  rw [show Run.heard (run.log _ _) = run.heard from Run.log_silent _ _ run] at heard
  have advances := (plan.advance_silent attempted.state).ends announced
  exact advances.mono (fun _ _ quiet => Eq.trans quiet heard) fun _ _ quiet => Eq.trans quiet heard

theorem resume_tells (context : RetryContext) (interval : τ) (run : Run σ τ ω) :
    (plan.resume context attempted fault interval).Ends run
      (fun _ after => after.heard = run.heard ++ plan.delivered (.retrying context))
      (fun _ after => after.heard = run.heard ++ plan.delivered (.retrying context)) := by
  refine .bind (ready_tells polite context interval run) fun next readied heard => ?_
  have rests := (plan.rest_silent interval).ends readied
  refine .bind (rests.mono (fun _ _ quiet => Eq.trans quiet heard) fun _ _ quiet => Eq.trans quiet heard) ?_
  exact fun _ _ same => same

theorem retry_tells (context : RetryContext) (interval : τ) (run : Run σ τ ω) :
    (plan.retry context attempted fault interval).Ends run
      (fun _ after => after.heard = run.heard ++ plan.delivered (.retrying context))
      (fun _ after => after.heard = run.heard ∨
        after.heard = run.heard ++ plan.delivered (.retrying context)) := by
  rw [retry_eq]
  refine Act.ends_bind.mpr (Act.ends_bind.mpr (Act.ends_ofExcept (fun tooLate _ => ?_) fun _ _ => .inl rfl))
  cases tooLate with
  | true => exact .inl (Run.log_silent _ _ run)
  | false =>
      refine (resume_tells polite context interval run).mono ?_ ?_
      · exact fun _ _ heard => heard
      · exact fun _ _ heard => .inr heard

include outcome

theorem consult_tells (run : Run σ τ ω) : (plan.consult attempted fault).Ends run
    (fun _ after => plan.Onward attempted run after)
    (fun _ after => after.heard = run.heard ∨ plan.Onward attempted run after) := by
  refine Act.ends_bind.mpr (plan.say_ends.mpr ?_)
  refine .bind (M := fun _ decided => decided.heard = run.heard) ?_ fun answer decided quiet => ?_
  · have decides := (outside_silent (τ := τ) (ω := ω)
      ((plan.policy.decide (reported attempted fault)).mapError interruption)).ends
    refine (decides _).mono (fun _ _ kept => ?_) fun _ _ kept => .inl ?_
    all_goals exact Eq.trans kept (Run.log_silent _ _ run)
  · cases answer with
    | none =>
        refine (endWith_tells _ fault decided).mono (fun _ _ => False.elim) fun _ _ same => ?_
        exact .inl (same.trans quiet)
    | some interval =>
        refine (retry_tells polite (reported attempted fault) interval decided).mono ?_ ?_
        · intro _ _ heard
          rw [quiet] at heard
          exact ⟨fault, outcome, heard⟩
        · intro _ _ heard
          rw [quiet] at heard
          exact heard.imp_right fun told => ⟨fault, outcome, told⟩

theorem decide_tells (run : Run σ τ ω) : (plan.decide attempted fault).Ends run
    (fun _ after => plan.Onward attempted run after)
    (fun _ after => after.heard = run.heard ∨ plan.Onward attempted run after) := by
  rw [decide_eq]
  refine Act.ends_bind.mpr (Act.ends_ofExcept (fun expected _ => ?_) fun _ _ => .inl rfl)
  cases expected with
  | true =>
      exact (surrender_tells fault run).mono (fun _ _ => False.elim) fun _ _ same => .inl same
  | false => exact consult_tells polite outcome run

end Retrying

/-- Another attempt is announced before it is made, and only once. -/
theorem conclude_tells (polite : plan.Polite .retrying) (attempted : Attempted) (run : Run σ τ ω) :
    (plan.conclude attempted).Ends run
      (fun turn after => (∃ answer, turn = .done answer) ∧ after.heard = run.heard ∨
        plan.Onward attempted run after)
      (fun _ after => after.heard = run.heard ∨ plan.Onward attempted run after) := by
  have fails : ∀ reason fault, (plan.endWith reason fault : Act Failure (Run σ τ ω) Turn).Ends run
      (fun turn after => (∃ answer, turn = .done answer) ∧ after.heard = run.heard ∨
        plan.Onward attempted run after)
      (fun _ after => after.heard = run.heard ∨ plan.Onward attempted run after) := by
    intro reason fault
    exact (endWith_tells reason fault run).mono (fun _ _ => False.elim) fun _ _ same => .inl same
  unfold conclude
  split
  · unfold succeed
    split
    · exact .inl rfl
    · exact .inl ⟨⟨_, rfl⟩, Run.log_silent _ _ _⟩
  · exact fails _ _
  · next fault outcome =>
    split
    · exact fails _ _
    · exact (decide_tells polite outcome run).mono (fun _ _ onward => .inr onward) fun _ _ told => told

variable {attempted : Attempted} {landed after : Run σ τ ω}

theorem heard_of_again {next : Progress} (polite : plan.Polite .retrying)
    (concluded : plan.conclude attempted landed = (.ok (.again next), after)) :
    plan.Onward attempted landed after := by
  obtain ⟨⟨answer, done⟩, _⟩ | onward := (Act.ends_of_ok concluded).mp (conclude_tells polite attempted landed)
  · contradiction
  · exact onward

theorem heard_of_conclude (polite : plan.Polite .retrying) (attempted : Attempted) (landed : Run σ τ ω) :
    (plan.conclude attempted landed).2.heard = landed.heard ∨
      plan.Onward attempted landed (plan.conclude attempted landed).2 := by
  obtain ⟨_, ⟨_, same⟩ | onward⟩ | ⟨_, told⟩ := (conclude_tells polite attempted landed).cases
  · exact .inl same
  · exact .inr onward
  · exact told

end Plan

end ObjectStore
