import ZaloBot.OutboundRows
import ZaloBot.TaskPool
import ZaloBot.WorkRuns

/-!
# Delivery executions

Executions of `deliver_for_job` and `deliver_next`, statement by statement,
over the durable-work tables and the outbox.  A statement that checks the
lease and then updates a row takes its snapshot first and reaches the row
later.  An execution may be dropped between any two steps, which covers
crashes, lost leases and shutdowns, and any job may be executed with any lease
token, which covers workers whose lease has been lost.  Everything that matters
to the outside is appended to a history, latest event first.
-/

namespace ZaloBot

open TaskPool LabelledRuns

/-- What an observer of one outbox row sees. -/
inductive DeliveryEvent where
  | reserved (sender : Nat) (outboundId : Uuid)
  | httpSent (sender : Nat) (outboundId : Uuid)
  | httpReturned (sender : Nat) (outboundId : Uuid) (result : SendResult)
  | settled (sender : Nat) (outboundId : Uuid) (state : OutboundState)

/-- The two databases an execution works on, and the history. -/
structure DeliveryWorld where
  work : WorkDb
  outbox : OutboundTable
  history : List DeliveryEvent

/-- Append an event. -/
def DeliveryWorld.record (world : DeliveryWorld) (outbox : OutboundTable)
    (event : DeliveryEvent) : DeliveryWorld :=
  { world with outbox := outbox, history := event :: world.history }

/-- The lease an execution acts under; `deliver_next` has none. -/
structure DeliveryLease where
  job : Uuid
  token : Uuid
deriving DecidableEq, Repr

/-- Where an execution is. -/
inductive DeliveryStage where
  | loading (job : ClaimedJob)
  | foundSending (lease : DeliveryLease) (outboundId : Uuid)
  | markingAmbiguous (lease : DeliveryLease) (outboundId : Uuid)
  | markingRow (outboundId : Uuid)
  | reserving (lease : DeliveryLease) (outboundId : Uuid)
  | reservingRow (lease : DeliveryLease) (outboundId : Uuid)
  | unreserved (lease : DeliveryLease) (outboundId : Uuid)
  | refreshing (outboundId : Uuid)
  | reserved (lease : Option DeliveryLease) (outboundId : Uuid)
      (providerTarget body : String)
  | inFlight (lease : Option DeliveryLease) (outboundId : Uuid)
  | returned (lease : Option DeliveryLease) (outboundId : Uuid)
      (result : SendResult)
  | recording (lease : Option DeliveryLease) (outboundId : Uuid)
      (result : SendResult)
  | recordingRow (lease : Option DeliveryLease) (outboundId : Uuid)
      (result : SendResult)
  | executed (execution : OutboundJobExecution)
  | delivered (result : Option DeliveryResult)
  | dropped

/-- What can happen next. -/
inductive DeliveryAction where
  | startJob (job : ClaimedJob)
  | startNext (now : Timestamp) (rowLocked : Uuid → Bool)
  | advance (now : Timestamp)
  | sendRejected (error : ProviderSend.ZaloProviderError)
  | respond (result : SendResult)
  | drop
  | enqueueOutbound (row : OutboundRow)
  | call (now : Timestamp) (call : WorkCall)

namespace OutboundDelivery

/-- `OUTBOUND_DELIVER_JOB_TYPE`. -/
def outboundDeliverJobType : String :=
  "outbound.deliver"

/-- `OUTBOUND_DELIVER_SCHEMA_VERSION`. -/
def outboundDeliverSchemaVersion : Int :=
  1

/-- `parse_outbound_id`; `parseUuid` is `Uuid::parse_str`. -/
def parseOutboundId (parseUuid : String → Option Uuid) (job : ClaimedJob) :
    Option Uuid :=
  if job.jobType ≠ outboundDeliverJobType then
    none
  else if job.payloadVersion ≠ outboundDeliverSchemaVersion then
    none
  else
    (job.payload.members.lookup "outbound_id").bind parseUuid

/-- `job_lease_current`. -/
def jobLeaseCurrent (now : Timestamp) (lease : DeliveryLease) (db : WorkDb) :
    Bool :=
  (db.jobs.find lease.job).any (JobRow.holdsLease lease.token now)

/-- The first lookup of `deliver_for_job` and the branch it takes. -/
def load (parseUuid : String → Option Uuid) (job : ClaimedJob)
    (outbox : OutboundTable) : DeliveryStage :=
  let lease : DeliveryLease := ⟨job.id, job.leaseToken⟩
  match parseOutboundId parseUuid job with
  | none => .executed .invalidJob
  | some outboundId =>
      match outbox.find outboundId with
      | none => .executed .invalidJob
      | some row =>
          if job.dedupeKey ≠
              outboundDeliverJobType ++ ":" ++ row.idempotencyKey then
            .executed .invalidJob
          else
            match row.state with
            | .sent => .executed (.complete ⟨outboundId, .sent⟩)
            | .ambiguous => .executed (.complete ⟨outboundId, .ambiguous⟩)
            | .sending => .foundSending lease outboundId
            | .queued | .failed => .reserving lease outboundId
            | .suppressed => .executed .invalidJob

/-- The last lookup after a reservation that affected no row. -/
def refresh (outboundId : Uuid) (outbox : OutboundTable) :
    OutboundJobExecution :=
  match (outbox.find outboundId).map OutboundRow.state with
  | some .sent => .complete ⟨outboundId, .sent⟩
  | some .ambiguous => .complete ⟨outboundId, .ambiguous⟩
  | _ => .staleLease

/-- The row update of `reserve_outbound_under_lease`. -/
def reserveRow (now : Timestamp) (world : DeliveryWorld) (sender : Nat)
    (lease : DeliveryLease) (outboundId : Uuid) :
    DeliveryWorld × DeliveryStage :=
  match Outbound.updateRow outboundId OutboundRow.isReservable
      (OutboundRow.markSending now) world.outbox,
    world.outbox.find outboundId with
  | some outbox, some row =>
      (world.record outbox (.reserved sender outboundId),
        .reserved (some lease) outboundId row.providerTarget row.body)
  | _, _ => (world, .unreserved lease outboundId)

/-- The row update of `mark_ambiguous_under_lease`. -/
def markRow (now : Timestamp) (world : DeliveryWorld) (sender : Nat)
    (outboundId : Uuid) : DeliveryWorld × DeliveryStage :=
  match Outbound.updateRow outboundId OutboundRow.isSending
      (OutboundRow.markRecovered now) world.outbox with
  | some outbox =>
      (world.record outbox (.settled sender outboundId .ambiguous),
        .executed (.complete ⟨outboundId, .ambiguous⟩))
  | none => (world, .executed .staleLease)

/-- The row update of `update_delivery` and `update_delivery_under_lease`. -/
def recordRow (now : Timestamp) (world : DeliveryWorld) (sender : Nat)
    (lease : Option DeliveryLease) (outboundId : Uuid) (result : SendResult) :
    DeliveryWorld × DeliveryStage :=
  match Outbound.updateDelivery now outboundId result world.outbox with
  | some outbox =>
      (world.record outbox
          (.settled sender outboundId result.deliveryState.rowState),
        if lease.isSome then
          .executed (result.execution outboundId)
        else
          .delivered (some ⟨outboundId, result.deliveryState⟩))
  | none =>
      (world, if lease.isSome then .executed .staleLease else .dropped)

/-- Reserve the next queued row, as `deliver_next` does in one statement. -/
def reserveNext (now : Timestamp) (world : DeliveryWorld) (sender : Nat)
    (rowLocked : Uuid → Bool) : DeliveryWorld × DeliveryStage :=
  match Outbound.nextCandidate rowLocked world.outbox with
  | none => (world, .delivered none)
  | some row =>
      (world.record
          (world.outbox.modify row.id (fun _ => true)
            (OutboundRow.markSending now))
          (.reserved sender row.id),
        .reserved none row.id row.providerTarget row.body)

section Machine

variable (parseUuid : String → Option Uuid)

/-- The next statement of an execution. -/
def advance (now : Timestamp) (world : DeliveryWorld) (sender : Nat)
    (stage : DeliveryStage) : Option (DeliveryWorld × DeliveryStage) :=
  match stage with
  | .loading job => some (world, load parseUuid job world.outbox)
  | .foundSending lease outboundId =>
      if jobLeaseCurrent now lease world.work then
        some (world, .markingAmbiguous lease outboundId)
      else
        some (world, .executed .staleLease)
  | .markingAmbiguous lease outboundId =>
      if jobLeaseCurrent now lease world.work ∧
          (world.outbox.find outboundId).any OutboundRow.isSending then
        some (world, .markingRow outboundId)
      else
        some (world, .executed .staleLease)
  | .markingRow outboundId => some (markRow now world sender outboundId)
  | .reserving lease outboundId =>
      if jobLeaseCurrent now lease world.work ∧
          (world.outbox.find outboundId).any OutboundRow.isReservable then
        some (world, .reservingRow lease outboundId)
      else
        some (world, .unreserved lease outboundId)
  | .reservingRow lease outboundId =>
      some (reserveRow now world sender lease outboundId)
  | .unreserved lease outboundId =>
      if jobLeaseCurrent now lease world.work then
        some (world, .refreshing outboundId)
      else
        some (world, .executed .staleLease)
  | .refreshing outboundId =>
      some (world, .executed (refresh outboundId world.outbox))
  | .reserved lease outboundId _ _ =>
      some (world.record world.outbox (.httpSent sender outboundId),
        .inFlight lease outboundId)
  | .inFlight _ _ => none
  | .returned none outboundId result =>
      some (world, .recording none outboundId result)
  | .returned (some lease) outboundId result =>
      if jobLeaseCurrent now lease world.work then
        some (world, .recording (some lease) outboundId result)
      else
        some (world, .executed .staleLease)
  | .recording none outboundId result =>
      some (world, .recordingRow none outboundId result)
  | .recording (some lease) outboundId result =>
      if jobLeaseCurrent now lease world.work ∧
          (world.outbox.find outboundId).any OutboundRow.isSending then
        some (world, .recordingRow (some lease) outboundId result)
      else
        some (world, .executed .staleLease)
  | .recordingRow lease outboundId result =>
      some (recordRow now world sender lease outboundId result)
  | .executed _ | .delivered _ | .dropped => none

/-- One action of an execution or of its surroundings. -/
def act (world : DeliveryWorld) (sender : Nat)
    (stage : Option DeliveryStage) (action : DeliveryAction) :
    Option (DeliveryWorld × Option DeliveryStage) :=
  match stage, action with
  | none, .startJob job => some (world, some (.loading job))
  | none, .startNext now rowLocked =>
      let (after, stage) := reserveNext now world sender rowLocked
      some (after, some stage)
  | some stage, .advance now =>
      (advance parseUuid now world sender stage).map
        fun (after, stage) => (after, some stage)
  | some (.reserved lease outboundId _ _), .sendRejected error =>
      if error.errorClass = .validation then
        some (world, some (.returned lease outboundId (.error error)))
      else
        none
  | some (.inFlight lease outboundId), .respond result =>
      some (world.record world.outbox
          (.httpReturned sender outboundId result),
        some (.returned lease outboundId result))
  | some _, .drop => some (world, some .dropped)
  | stage, .enqueueOutbound row =>
      if (row.state = .queued ∨ row.state = .suppressed) ∧
          row.attemptCount = 0 then
        (world.outbox.insert row).map
          fun outbox => ({ world with outbox := outbox }, stage)
      else
        none
  | stage, .call now call =>
      some ({ world with work := (call.exec now world.work).2 }, stage)
  | _, _ => none

/-- The databases after the migrations, with an empty history. -/
def initial : DeliveryWorld where
  work := WorkDb.empty
  outbox := Table.empty
  history := []

/-- Runs of any number of executions. -/
def DeliveryReaches :
    Pool DeliveryWorld DeliveryStage → Pool DeliveryWorld DeliveryStage →
      Prop :=
  Reaches (poolStep (act parseUuid)) anyStep

end Machine

end OutboundDelivery

end ZaloBot
