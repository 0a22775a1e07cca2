import ZaloBot.IngressTransactions

/-!
# Exactly-once ingress

Calls of `process` for any events and with any decisions run beside switches of
the ingress mode, in any number and any order, failing or dropped anywhere.
The row of an event is inserted, promoted once and then stays; only the call
that leaves it accepted applies effects, and every later call for the event
changes nothing.
-/

namespace ZaloBot

open Sessions LabelledRuns TaskPool

/-- The discipline of ingress calls. -/
def ingressRules (Error : Type) : Discipline BotRow IngressEvent Error where
  invariant _ := True
  advances := EventsStay
  permitted _ _ := True
  guarantee := PublishesEvent
  refusal _ _ := True
  advances_refl := .refl
  advances_trans := .trans
  keeps _ publishes := ⟨trivial, publishes.stays⟩

namespace Ingress

section Verification

theorem accepts_serve (call : IngressCall) :
    Accepts (ingressRules IngressFailure) call := by
  cases call with
  | process environment request observation decide =>
      exact ⟨fun _ _ => trivial, id, fun _ seen => ⟨rfl, seen⟩,
        fun _ rejects => rejects, fun _ _ _ processes _ _ => processes⟩
  | switch mode => exact ⟨fun _ _ => trivial, fun _ same => same⟩

theorem verifiesAll :
    (ingressRules IngressFailure).VerifiesAll (fun _ _ => True) serve
      fun _ _ => True :=
  .of_wp fun call _ _ => wp_serve (accepts_serve call) trivial

end Verification

section Runs

/-- The publication of the call that processes an event. -/
def Processed (scope eventId : String) (event : IngressEvent) : Prop :=
  ∃ request accountId effects, event = .processed request accountId effects ∧
    request.providerScope = scope ∧ request.providerEventId = eventId

/-- A publication of a call for an event. -/
def Concerns (scope eventId : String) : IngressEvent → Prop
  | .duplicate request =>
      request.providerScope = scope ∧ request.providerEventId = eventId
  | .modeRejected request =>
      request.providerScope = scope ∧ request.providerEventId = eventId
  | .processed request _ _ =>
      request.providerScope = scope ∧ request.providerEventId = eventId
  | _ => False

/-- The event is accepted. -/
def IsAccepted (scope eventId : String) (store : BotStore) : Prop :=
  ∃ row, store (.inboundEvent scope eventId) = some row ∧
    row.processingState = .accepted

variable {scope eventId : String} {before after : BotStore}
  {event : IngressEvent}

theorem IsAccepted.stays (accepted : IsAccepted scope eventId before)
    (advances : EventsStay before after) : IsAccepted scope eventId after := by
  obtain ⟨row, present, isAccepted⟩ := accepted
  obtain ⟨next, found, _, same⟩ := advances.events scope eventId row present
  exact ⟨next, found, same isAccepted ▸ isAccepted⟩

/-- Processing turns an event that is not accepted into one that is. -/
theorem accepts_of_processed (publishes : PublishesEvent before event after)
    (processed : Processed scope eventId event) :
    ¬ IsAccepted scope eventId before ∧ IsAccepted scope eventId after := by
  obtain ⟨request, accountId, effects, rfl, rfl, rfl⟩ := processed
  have processes : ProcessesEvent request accountId before after := publishes
  obtain ⟨row, present, accepted, _, promoted⟩ := processes.event
  refine ⟨?_, row, present, accepted⟩
  rintro ⟨old, isOld, isAccepted⟩
  rw [(promoted old isOld).1] at isAccepted
  contradiction

/-- A call for an event that is accepted changes nothing. -/
theorem duplicate_of_accepted (publishes : PublishesEvent before event after)
    (accepted : IsAccepted scope eventId before)
    (concerns : Concerns scope eventId event) :
    (∃ request, event = .duplicate request) ∧ after = before := by
  cases event with
  | duplicate request => exact ⟨⟨request, rfl⟩, publishes.1⟩
  | modeRejected request =>
      obtain ⟨rfl, rfl⟩ := concerns
      obtain ⟨row, present, _⟩ := accepted
      have absent := RejectsEvent.absent publishes
      rw [absent] at present
      contradiction
  | processed request accountId effects =>
      obtain ⟨rfl, rfl⟩ := concerns
      exact absurd accepted (accepts_of_processed publishes
        ⟨request, accountId, effects, rfl, rfl, rfl⟩).1
  | switched => exact concerns.elim
  | reviewFollowup accountId submissionId now => exact concerns.elim
  | failureFollowup => exact concerns.elim

/-- An accepted row was accepted before, or by processing its event. -/
theorem accepted_of_publishes (publishes : PublishesEvent before event after)
    {row : InboundEventRow}
    (present : after (.inboundEvent scope eventId) = some row)
    (accepted : row.processingState = .accepted) :
    before (.inboundEvent scope eventId) = some row ∨
      Processed scope eventId event := by
  cases event with
  | duplicate request =>
      rw [publishes.1] at present
      exact .inl present
  | modeRejected request =>
      obtain ⟨inserted, rejected, _, rfl⟩ := RejectsEvent.event publishes
      by_cases same : scope = request.providerScope ∧
          eventId = request.providerEventId
      · obtain ⟨rfl, rfl⟩ := same
        rw [Function.update_self] at present
        cases present
        rw [rejected] at accepted
        contradiction
      · rw [Function.update_of_ne (by simpa using same)] at present
        exact .inl present
  | processed request accountId effects =>
      by_cases same : scope = request.providerScope ∧
          eventId = request.providerEventId
      · obtain ⟨rfl, rfl⟩ := same
        exact .inr ⟨request, accountId, effects, rfl, rfl, rfl⟩
      · have others := ProcessesEvent.others publishes scope eventId same
        exact .inl (others.symm.trans present)
  | switched => exact .inl ((publishes _ (by simp)).symm.trans present)
  | reviewFollowup accountId submissionId now => exact publishes.elim
  | failureFollowup => exact publishes.elim

/-- Only processing an event changes rows other than those of events. -/
theorem processed_of_changes (publishes : PublishesEvent before event after)
    {key : BotKey} (isOther : key.isEventRow = false)
    (changed : after key ≠ before key) :
    ∃ scope eventId, Processed scope eventId event := by
  by_contra other
  refine changed (publishes.same_of_other isOther ?_)
  rintro request accountId effects rfl
  exact other ⟨_, _, request, accountId, effects, rfl, rfl, rfl⟩

variable {initial : BotStore}
  {pool : Pool (Database BotRow IngressEvent)
    (SessionTask BotRow IngressEvent IngressFailure IngressAnswer)}

/-- However calls interleave with each other and with switches of the mode,
each event is processed by at most one call.  Every later call for it changes
nothing and answers that it is a duplicate, accepted rows stay and come from
that call, and so does every change outside the rows of events.  Their source
is the mode at its commit, a sender has one account, and a call that returns
an error has changed nothing. -/
theorem ingress_happens_once
    (run : SessionReaches serve (Pool.idle (Database.fresh initial)) pool) :
    (∀ scope eventId, pool.world.log.Pairwise fun later earlier =>
      ¬ (Processed scope eventId later.event ∧
        Processed scope eventId earlier.event)) ∧
    (∀ later publication earlier,
      pool.world.log = later ++ publication :: earlier →
      ∀ scope eventId, Processed scope eventId publication.event →
      ∀ other ∈ later, Concerns scope eventId other.event →
        (∃ request, other.event = .duplicate request) ∧
          other.after = other.before) ∧
    (∀ publication ∈ pool.world.log,
      EventsStay publication.before publication.after ∧
      EventsStay publication.after pool.world.store ∧
      (∀ scope eventId row,
        publication.after (.inboundEvent scope eventId) = some row →
        row.processingState = .accepted →
        publication.before (.inboundEvent scope eventId) = some row ∨
          Processed scope eventId publication.event) ∧
      ∀ key, key.isEventRow = false →
        publication.after key ≠ publication.before key →
        ∃ scope eventId, Processed scope eventId publication.event) ∧
    (∀ publication ∈ pool.world.log, ∀ request accountId effects,
      publication.event = .processed request accountId effects →
      ∃ control row,
        publication.before .ingressControl = some control ∧
        publication.after .ingressControl = some control ∧
        publication.after (.inboundEvent request.providerScope
          request.providerEventId) = some row ∧
        row.processingState = .accepted ∧
        row.ingressSource = control.mode) ∧
    (∀ publication ∈ pool.world.log, ∀ request accountId effects,
      publication.event = .processed request (some accountId) effects →
      ∃ row, pool.world.store (.providerIdentity request.providerScope
        request.providerSenderId) = some row ∧ row.accountId = accountId) ∧
    (Reaches (poolStep (sessionAct serve)) acknowledged
        (Pool.idle (Database.fresh initial)) pool → ∀ owner,
      (∀ error, pool.tasks owner = some (.ended (.error error)) →
        publishedBy pool.world owner = []) ∧
      ∀ answer, pool.tasks owner = some (.ended (.ok answer)) →
        ∃ publication, publishedBy pool.world owner = [publication] ∧
          ReportsAnswer publication.event answer) := by
  have holds := Discipline.sound_of_reaches verifiesAll trivial
    (fun _ _ _ => ⟨fun _ _ _ _ _ _ => trivial, fun _ _ _ _ => trivial⟩) run
  have logged := holds.shared.logged
  have publishes (publication) (member : publication ∈ pool.world.log) :
      PublishesEvent publication.before publication.event
        publication.after :=
    (logged.of_mem member).2.2
  refine ⟨?_, ?_, ?_, ?_, ?_, ?_⟩
  · intro scope eventId
    exact (logged.spends_once
      (fun publication => Processed scope eventId publication.event)
      (IsAccepted scope eventId) IsAccepted.stays
      fun publication _ _ published => accepts_of_processed published).1
  · intro later publication earlier split scope eventId processed other
      member concerns
    have accepted := (accepts_of_processed
      (publishes publication (by simp [split])) processed).2
    exact duplicate_of_accepted (publishes other (by simp [split, member]))
      (accepted.stays (logged.advances_before split other member)) concerns
  · intro publication member
    exact ⟨(publishes publication member).stays,
      logged.advances_of_mem member,
      fun scope eventId row => accepted_of_publishes
        (publishes publication member),
      fun key => processed_of_changes (publishes publication member)⟩
  · intro publication member request accountId effects isEvent
    have processes : ProcessesEvent request accountId publication.before
        publication.after := by
      have published := publishes publication member
      rwa [isEvent] at published
    obtain ⟨control, isControl, mode⟩ := processes.mode
    obtain ⟨row, present, accepted, source, _⟩ := processes.event
    exact ⟨control, row, isControl, processes.control.trans isControl, present,
      accepted, source.trans mode.symm⟩
  · intro publication member request accountId effects isEvent
    have processes : ProcessesEvent request (some accountId)
        publication.before publication.after := by
      have published := publishes publication member
      rwa [isEvent] at published
    obtain ⟨row, present, same⟩ := processes.account accountId rfl
    have advances : EventsStay publication.after pool.world.store :=
      logged.advances_of_mem member
    exact ⟨row, advances.identities _ _ row present, same⟩
  · intro acknowledgedRun owner
    have reported := reported_of_reaches commitsOnce_serve
      (fun _ _ permitted => permitted) acknowledgedRun owner
    refine ⟨fun error ended => ?_, fun answer ended => ?_⟩
    · rw [ended] at reported
      exact reported
    · rw [ended] at reported
      exact reported

end Runs

section Samples

/-- An environment in which the periods of an account are known. -/
def dailyProcess : ProcessEnvironment :=
  { stillProcess with
    context := { stillContext with
      localDate := fun _ => some fun _ => 0
      interactivePeriod := fun _ _ _ => some (0, 0) }
    effects := { stillEnvironment with queuedJobs := ["export"] } }

def memberRequest : IngressRequest :=
  ⟨.webhook, "zalo", "event", "sender", "chat", true, "ok", 0⟩

/-- A call for an event of an allowed sender, decided to have these effects and
a reply. -/
def memberCall (effects : List IngressEffect) : IngressCall :=
  .process dailyProcess memberRequest ⟨.textCommandEnvelope, none⟩
    fun _ => .ok ⟨effects, some "xong"⟩

/-- The environment of a call for another event. -/
def neighbourProcess : ProcessEnvironment :=
  { dailyProcess with
    eventId := ⟨"inbound 2"⟩
    newAccountId := ⟨"account 2"⟩
    identityId := ⟨"identity 2"⟩
    outboundId := ⟨"outbound 2"⟩
    deliverJobId := ⟨"deliver 2"⟩ }

def neighbourRequest : IngressRequest :=
  ⟨.webhook, "zalo", "event 2", "sender 2", "chat 2", true, "ok", 0⟩

/-- Another sender consents. -/
def neighbourCall : IngressCall :=
  .process neighbourProcess neighbourRequest ⟨.textCommandEnvelope, none⟩
    fun _ => .ok ⟨[.grantConsent Conversation.consentVersion], some "xong"⟩

/-- Two calls take turns, and the first takes the rest of its steps. -/
def turnsRun {Request : Type} (first second : Request) (turns rest : Nat) :
    List (Nat × SessionLabel Request) :=
  List.flatten [[(0, .begin first), (1, .begin second)],
    List.flatten (.replicate turns [(0, .advance), (1, .advance)]),
    .replicate rest (0, .advance)]

/-- The call of the member takes turns with that of another sender, and a copy
of it that has begun before follows. -/
def memberRun (effects : List IngressEffect) (rest : Nat) :
    List (Nat × SessionLabel IngressCall) :=
  List.flatten [[(2, .begin (memberCall effects)), (2, .advance)],
    turnsRun (memberCall effects) neighbourCall 31 rest,
    .replicate 4 (2, .advance)]

theorem ingress_happens_once_twice :
    ∃ pool, runLabels (poolStep (sessionAct serve))
        (Pool.idle (Database.fresh BotStore.initial))
        (memberRun [.grantConsent Conversation.consentVersion] 0) =
          some pool ∧
      pool.tasks 0 = some (.ended (.ok (.processed memberRequest
        (.accepted ⟨"inbound"⟩)))) ∧
      pool.tasks 2 = some (.ended (.ok (.processed memberRequest
        (.duplicate ⟨"inbound"⟩)))) ∧
      (pool.world.store (.account ⟨"account"⟩)).map
        AccountRow.lifecycleState = some .active ∧
      (pool.world.store (.outbound (replyKey memberRequest))).isSome = true ∧
      pool.world.log.Pairwise fun later earlier =>
        ¬ (Processed "zalo" "event" later.event ∧
          Processed "zalo" "event" earlier.event) := by
  have runs : ∃ pool, runLabels (poolStep (sessionAct serve))
        (Pool.idle (Database.fresh BotStore.initial))
        (memberRun [.grantConsent Conversation.consentVersion] 0) =
          some pool ∧
      pool.tasks 0 = some (.ended (.ok (.processed memberRequest
        (.accepted ⟨"inbound"⟩)))) ∧
      pool.tasks 2 = some (.ended (.ok (.processed memberRequest
        (.duplicate ⟨"inbound"⟩)))) ∧
      (pool.world.store (.account ⟨"account"⟩)).map
        AccountRow.lifecycleState = some .active ∧
      (pool.world.store (.outbound (replyKey memberRequest))).isSome = true :=
    ⟨_, rfl, rfl, rfl, rfl, rfl⟩
  obtain ⟨pool, ran, first, copy, consented, replied⟩ := runs
  exact ⟨pool, ran, first, copy, consented, replied, (ingress_happens_once
    (reaches_of_runLabels (permits_anyStep _ (memberRun _ 0)) ran)).1 _ _⟩

end Samples

end Ingress

end ZaloBot
