import ZaloBot.ReceiptStatementRules
import ZaloBot.UsageQuota

/-!
# Insight snapshots and their narratives

A snapshot is refreshed in the transaction of an ingress event, which drops the
narrative of an aggregate that has changed.  The narrator reads the aggregate,
works outside any transaction, and stores its text if no narrative is stored.
Aggregates, periods, digests, drawn UUIDs and clock readings are decided by the
environment, and so is the unique key under which the snapshot of a payload is
found.
-/

namespace ZaloBot

open Sessions LabelledRuns TaskPool

namespace Insights

open SpendingTotals

structure InsightError where
  message : String
deriving DecidableEq, Repr

/-- What is committed: an ingress transaction, or an execution of the narrator
with the aggregate that it has read and whether it has stored its text. -/
inductive InsightEvent where
  | recorded
  | narrated (key : SnapshotKey) (aggregate : InsightAggregate)
      (stored : Bool)
deriving DecidableEq, Repr

abbrev Statement (Value : Type) :=
  Session BotRow InsightEvent InsightError Value

def metricInsightNarratives : String :=
  "insight_narratives"

section Recording

/-- What the environment decides about one snapshot: the period of its kind
with its start in the key, the aggregate that the queries over the expenses
give, and what becomes of the ingress transaction. -/
structure RecordEnvironment where
  key : SnapshotKey
  periodEnd : Option Timestamp
  aggregate : InsightAggregate
  digest : InsightAggregate → String
  snapshotId : Uuid
  narrateJobId : Uuid
  now : Timestamp
  observedAt : Timestamp
  period : String
  insightsLlmEnabled : Bool
  monthlyInsightNarratives : Nat
  commits : Bool

variable (environment : RecordEnvironment)

/-- The row that `upsert_snapshot` leaves under the key. -/
def refreshedRow (periodEnd : Timestamp) : Option SnapshotRow → SnapshotRow
  | none => ⟨environment.snapshotId, periodEnd, environment.aggregate, none,
      none, none⟩
  | some row =>
      if row.aggregate = environment.aggregate then
        { row with periodEnd := periodEnd }
      else
        ⟨row.id, periodEnd, environment.aggregate, none, none, none⟩

/-- `upsert_snapshot`. -/
def upsertSnapshot (periodEnd : Timestamp) : Statement SnapshotRow :=
  .lock .exclusive (.insightSnapshot environment.key) (fun _ => true)
    (fun existing =>
      .write (.insightSnapshot environment.key)
        (some (refreshedRow environment periodEnd existing))
        (.done (refreshedRow environment periodEnd existing)))
    (.fail ⟨"insight snapshot upsert failed"⟩)

/-- `remaining_in_transaction` for the narratives of an account. -/
def remainingNarratives : Statement Int :=
  .query ⟨"insight narrative quota lookup failed"⟩ fun view =>
    let counter := view (.usageCounter UsageQuota.scopeAccount
      environment.key.accountId.text environment.period
      metricInsightNarratives)
    max (UsageQuota.storedLimit environment.monthlyInsightNarratives -
      (counter.map UsageCounterRow.count).getD 0) 0

/-- `narrate_dedupe_key`. -/
def narrateDedupeKey (snapshotId : Uuid) (aggregateDigest : String) :
    String :=
  "insight.narrate:" ++ snapshotId.text ++ ":" ++ aggregateDigest

/-- `enqueue_narrate_in_transaction`. -/
def enqueueNarrateInTransaction (snapshotId : Uuid) : Statement Unit := do
  let digest := environment.digest environment.aggregate
  let _ ← (Receipts.enqueueInTransaction environment.now
    { id := environment.narrateJobId
      jobType := "insight.narrate"
      payload := ⟨some 1,
        [("account_id", environment.key.accountId.text),
          ("snapshot_id", snapshotId.text), ("aggregate_digest", digest)]⟩
      dedupeKey := narrateDedupeKey snapshotId digest
      serializationKey :=
        some (accountSerializationKey environment.key.accountId)
      priority := 0
      runAt := environment.observedAt
      maxAttempts := 10 }).mapError
        fun _ => ⟨"insight narrate enqueue failed"⟩
  pure ()

/-- The rest of `record_snapshot_in_transaction` once the snapshot is stored:
the job of the narrator is enqueued unless there is a narrative. -/
def requestNarrative (snapshot : SnapshotRow) : Statement Unit :=
  if environment.insightsLlmEnabled && snapshot.narrativeText.isNone then do
    let remaining ← remainingNarratives environment
    if 0 < remaining then
      enqueueNarrateInTransaction environment snapshot.id
    else
      pure ()
  else
    pure ()

/-- `record_snapshot_in_transaction`. -/
def recordSnapshotInTransaction : Statement (Uuid × InsightAggregate) :=
  match environment.periodEnd with
  | none => .fail ⟨"invalid timezone for insight period"⟩
  | some periodEnd => do
      let _ ← .query ⟨"insight totals query failed"⟩ fun _ => ()
      let _ ← .query ⟨"insight category query failed"⟩ fun _ => ()
      let _ ← .query ⟨"insight merchant query failed"⟩ fun _ => ()
      let snapshot ← upsertSnapshot environment periodEnd
      requestNarrative environment snapshot
      pure (snapshot.id, environment.aggregate)

/-- An ingress transaction that records a snapshot. -/
def recordSnapshot : Statement Unit := do
  let _ ← recordSnapshotInTransaction environment
  if environment.commits then
    .commitTransaction ⟨"ingress commit failed"⟩ .recorded
  else
    .fail ⟨"ingress transaction failed"⟩

end Recording

section Narrating

/-- `InsightNarratePayload` without its digest, which is not read. -/
structure InsightNarratePayload where
  schemaVersion : Int
  accountId : Uuid
  snapshotId : Uuid

/-- What the environment decides during one execution. -/
structure NarrateEnvironment where
  key : SnapshotKey
  now : Timestamp
  period : String
  monthlyLimit : Nat
  rollbackAcknowledged : Bool

variable (narrate : InsightAggregate → Except InsightError String)
variable (environment : NarrateEnvironment) (payload : InsightNarratePayload)

/-- `WHERE id = $1 AND account_id = $2` for the row under the key. -/
def isSnapshotOf (row : SnapshotRow) : Bool :=
  row.id = payload.snapshotId && environment.key.accountId = payload.accountId

/-- The `CHECK` on the narrative. -/
def isNarrative (text : String) : Bool :=
  1 ≤ RustText.charCount text && RustText.charCount text ≤ 2000

/-- The `UPDATE` that stores a narrative where there is none; the result says
whether a row was affected. -/
def persistNarrative (narrative : String) : Statement Bool :=
  .lock .exclusive (.insightSnapshot environment.key)
    (fun row => row.any fun row =>
      isSnapshotOf environment payload row && row.narrativeText.isNone)
    (fun row =>
      match row.filter fun row =>
        isSnapshotOf environment payload row && row.narrativeText.isNone with
      | none => .done false
      | some row =>
          if isNarrative narrative then
            .write (.insightSnapshot environment.key)
              (some { row with
                narrativeText := some narrative
                narrativeProfile := some "fake"
                narrativeGeneratedAt := some environment.now })
              (.done true)
          else
            .fail ⟨"insight narrative persist failed"⟩)
    (.fail ⟨"insight narrative persist failed"⟩)

/-- The transaction of `execute_insight_narrate`, with the aggregate that was
read before it. -/
def narrateAggregate (aggregate : InsightAggregate) : Statement Unit := do
  let counter ← UsageQuota.incrementInTransaction
    ⟨"insight narrative quota increment failed"⟩ UsageQuota.scopeAccount
    payload.accountId.text environment.period metricInsightNarratives
    (UsageQuota.storedLimit environment.monthlyLimit)
  if counter.exceeded then
    .rollback (if environment.rollbackAcknowledged then pure ()
      else .fail ⟨"insight narrate rollback failed"⟩)
  else
    match narrate aggregate with
    | .error error => .fail error
    | .ok narrative => do
        let stored ← persistNarrative environment payload narrative
        .commitTransaction ⟨"insight narrate transaction commit failed"⟩
          (.narrated environment.key aggregate stored)

/-- `execute_insight_narrate`. -/
def executeInsightNarrate : Statement Unit :=
  if payload.schemaVersion ≠ 1 then
    .fail ⟨"unsupported insight narrate payload version"⟩
  else do
    let row ← .query ⟨"insight snapshot lookup failed"⟩ fun view =>
      (view (.insightSnapshot environment.key)).filter
        (isSnapshotOf environment payload)
    match row with
    | none => pure ()
    | some row =>
        if row.narrativeText.isSome then
          pure ()
        else
          narrateAggregate narrate environment payload row.aggregate

end Narrating

/-- The calls that this module is about. -/
inductive InsightRequest where
  | record (environment : RecordEnvironment)
  | narrate (environment : NarrateEnvironment)
      (payload : InsightNarratePayload)

/-- What a call does. -/
def serve (narrate : InsightAggregate → Except InsightError String) :
    InsightRequest → Statement Unit
  | .record environment => recordSnapshot environment
  | .narrate environment payload =>
      executeInsightNarrate narrate environment payload

section Matching

variable {narrate : InsightAggregate → Except InsightError String}

/-- Every narrative is the narrator's output for the aggregate beside it. -/
def NarrativesMatch (narrate : InsightAggregate → Except InsightError String)
    (store : BotStore) : Prop :=
  ∀ key row, store (.insightSnapshot key) = some row →
    ∀ text ∈ row.narrativeText, narrate row.aggregate = .ok text

/-- An execution that stores its text has read the aggregate that the row
still has. -/
def narratesCurrent (store : BotStore) : InsightEvent → Prop
  | .recorded => True
  | .narrated key aggregate stored => stored = true →
      ∀ row, store (.insightSnapshot key) = some row →
        row.aggregate = aggregate

/-- The rules that keep narratives and aggregates together. -/
def narrativeRules (narrate : InsightAggregate → Except InsightError String) :
    Discipline BotRow InsightEvent InsightError where
  invariant := NarrativesMatch narrate
  advances _ _ := True
  permitted := narratesCurrent
  guarantee _ _ after := NarrativesMatch narrate after
  refusal _ _ := True
  advances_refl _ := trivial
  advances_trans _ _ := trivial
  keeps _ kept := ⟨kept, trivial⟩

/-- Everything but the snapshots. -/
def isNoSnapshot (key : BotKey) : Prop :=
  ∀ snapshot, key ≠ .insightSnapshot snapshot

variable {own : Overlay BotRow} {store : BotStore}

/-- A transaction that has written at most one snapshot. -/
theorem narrativesMatch_view {key : SnapshotKey} {row : SnapshotRow}
    (holds : NarrativesMatch narrate store)
    (written : own (.insightSnapshot key) = some (some row))
    (others : ∀ other, other ≠ key → own (.insightSnapshot other) = none)
    (matched : ∀ text ∈ row.narrativeText, narrate row.aggregate = .ok text) :
    NarrativesMatch narrate (own.view store) := by
  intro other found present text told
  by_cases same : other = key
  · subst same
    simp only [Overlay.view, written, Option.getD_some,
      Option.some.injEq] at present
    subst present
    exact matched text told
  · simp only [Overlay.view, others other same, Option.getD_none] at present
    exact holds other found present text told

theorem narrativesMatch_view_unwritten
    (holds : NarrativesMatch narrate store)
    (unwritten : ∀ key, own (.insightSnapshot key) = none) :
    NarrativesMatch narrate (own.view store) := by
  intro key row present
  simp only [Overlay.view, unwritten key, Option.getD_none] at present
  exact holds key row present

theorem writesWithin_requestNarrative {environment : RecordEnvironment}
    {snapshot : SnapshotRow} :
    (requestNarrative environment snapshot).WritesWithin isNoSnapshot
      fun _ => True := by
  unfold requestNarrative
  split
  · refine .bind (Session.writesWithin_query trivial) fun remaining => ?_
    split
    · unfold enqueueNarrateInTransaction
      refine .bind (Session.writesWithin_mapError (fun _ => id) ?_)
        fun _ => Session.writesWithin_pure
      unfold Receipts.enqueueInTransaction
      split
      · trivial
      · refine .bind (Session.writesWithin_insertRow trivial nofun)
          fun inserted => ?_
        cases inserted <;> trivial
    · exact Session.writesWithin_pure
  · exact Session.writesWithin_pure

/-- A refresh drops the narrative of an aggregate that has changed. -/
theorem refreshedRow_matches {environment : RecordEnvironment}
    {periodEnd : Timestamp} {existing : Option SnapshotRow}
    (matched : ∀ row ∈ existing, ∀ text ∈ row.narrativeText,
      narrate row.aggregate = .ok text) :
    ∀ text ∈ (refreshedRow environment periodEnd existing).narrativeText,
      narrate (refreshedRow environment periodEnd existing).aggregate =
        .ok text := by
  intro text told
  cases existing with
  | none => simp [refreshedRow] at told
  | some row =>
      simp only [refreshedRow] at told ⊢
      split at told
      · rename_i same
        rw [if_pos same]
        exact matched row rfl text told
      · simp at told

/-- Recording a snapshot keeps narratives and aggregates together. -/
theorem wp_recordSnapshotInTransaction {environment : RecordEnvironment}
    (holds : NarrativesMatch narrate store) :
    (narrativeRules narrate).wp (recordSnapshotInTransaction environment)
      Overlay.none store fun _ last final =>
        final = store ∧ NarrativesMatch narrate (last.view store) := by
  unfold recordSnapshotInTransaction
  cases environment.periodEnd with
  | none => trivial
  | some periodEnd =>
      dsimp only
      rw [Discipline.wp_monad_bind]
      refine Discipline.wp_query trivial fun _ _ => ?_
      rw [Discipline.wp_monad_bind]
      refine Discipline.wp_query trivial fun _ _ => ?_
      rw [Discipline.wp_monad_bind]
      refine Discipline.wp_query trivial fun _ _ => ?_
      rw [Discipline.wp_monad_bind]
      refine ⟨fun _ => ?_, fun _ _ missed => by simp at missed, trivial⟩
      refine (Discipline.wp_monad_bind).mpr (Discipline.wp_mono ?_
        (Discipline.wp_frame (fun _ _ => trivial)
          writesWithin_requestNarrative))
      rintro _ last final ⟨rfl, same⟩
      have matched : ∀ text ∈ (refreshedRow environment periodEnd
          (final (.insightSnapshot environment.key))).narrativeText, _ :=
        refreshedRow_matches fun row present => holds _ row present
      have written : last (.insightSnapshot environment.key) = some (some
          (refreshedRow environment periodEnd
            (final (.insightSnapshot environment.key)))) := by
        rw [same _ fun free => free _ rfl]
        exact Function.update_self ..
      refine ⟨rfl, narrativesMatch_view holds written ?_ matched⟩
      intro other different
      rw [same _ fun free => free _ rfl]
      exact Function.update_of_ne (by simpa using different) _ _

theorem verifies_recordSnapshot {environment : RecordEnvironment}
    (holds : NarrativesMatch narrate store) :
    (narrativeRules narrate).wp (recordSnapshot environment) Overlay.none store
      fun _ _ _ => True := by
  refine (Discipline.wp_monad_bind).mpr (Discipline.wp_mono ?_
    (wp_recordSnapshotInTransaction holds))
  rintro _ last final ⟨rfl, kept⟩
  split
  · exact Discipline.wp_commitTransaction (fun _ => trivial)
      fun _ => ⟨kept, fun _ _ => trivial⟩
  · trivial

theorem wp_persistNarrative {environment : NarrateEnvironment}
    {payload : InsightNarratePayload} {narrative : String}
    {post : Bool → Overlay BotRow → BotStore → Prop}
    (missed : post false own store)
    (stored : ∀ row : SnapshotRow,
      own.view store (.insightSnapshot environment.key) = some row →
        post true (own.set (.insightSnapshot environment.key)
          (some { row with
            narrativeText := some narrative
            narrativeProfile := some "fake"
            narrativeGeneratedAt := some environment.now })) store) :
    (narrativeRules narrate).wp (persistNarrative environment payload narrative)
      own store post := by
  refine ⟨fun hit => ?_, fun older _ miss => ?_, trivial⟩
  · obtain ⟨row, present, selected⟩ := (Option.any_eq_true _ _).mp hit
    rw [present]
    simp only [Option.filter, selected, if_true]
    split
    · exact stored row present
    · trivial
  · have nothing : (own.view older (.insightSnapshot environment.key)).filter
        (fun row => isSnapshotOf environment payload row &&
          row.narrativeText.isNone) = none := by
      simpa [Option.any_eq_false, Option.isSome_iff_ne_none] using miss
    dsimp only
    rw [nothing]
    exact missed

/-- A stored narrative is that of the aggregate that was read; at the commit
the row still has it. -/
theorem wp_narrateAggregate {environment : NarrateEnvironment}
    {payload : InsightNarratePayload} {aggregate : InsightAggregate}
    (holds : NarrativesMatch narrate store) :
    (narrativeRules narrate).wp
      (narrateAggregate narrate environment payload aggregate) Overlay.none
      store fun _ _ _ => True := by
  have charges : (UsageQuota.incrementInTransaction
      ⟨"insight narrative quota increment failed"⟩ UsageQuota.scopeAccount
      payload.accountId.text environment.period metricInsightNarratives
      (UsageQuota.storedLimit environment.monthlyLimit) :
      Statement UsageCounterRow).WritesWithin isNoSnapshot fun _ => True :=
    ⟨fun _ => ⟨nofun, trivial⟩, trivial⟩
  refine (Discipline.wp_monad_bind).mpr (Discipline.wp_mono ?_
    (Discipline.wp_frame (fun _ _ => trivial) charges))
  rintro counter charged final ⟨rfl, same⟩
  have unwritten (key : SnapshotKey) :
      charged (.insightSnapshot key) = none :=
    same _ fun free => free _ rfl
  split
  · intro later isLater
    split
    · trivial
    · trivial
  · cases told : narrate aggregate with
    | error error => trivial
    | ok narrative =>
        refine (Discipline.wp_monad_bind).mpr (wp_persistNarrative ?_ ?_)
        · exact Discipline.wp_commitTransaction (fun _ => trivial)
            fun _ => ⟨narrativesMatch_view_unwritten holds unwritten,
              fun _ _ => trivial⟩
        · intro row present
          simp only [Overlay.view, unwritten, Option.getD_none] at present
          refine Discipline.wp_commitTransaction (fun _ => trivial)
            fun current => ⟨?_, fun _ _ => trivial⟩
          refine narrativesMatch_view holds (Function.update_self ..) ?_ ?_
          · intro other different
            refine (Function.update_of_ne ?_ _ _).trans (unwritten other)
            simpa using different
          · rintro text ⟨⟩
            rw [current rfl row present]
            exact told

theorem verifies_executeInsightNarrate {environment : NarrateEnvironment}
    {payload : InsightNarratePayload}
    (holds : NarrativesMatch narrate store) :
    (narrativeRules narrate).wp
      (executeInsightNarrate narrate environment payload) Overlay.none store
      fun _ _ _ => True := by
  unfold executeInsightNarrate
  split
  · trivial
  · rw [Discipline.wp_monad_bind]
    refine Discipline.wp_query trivial fun older _ => ?_
    split
    · trivial
    · split
      · trivial
      · exact wp_narrateAggregate holds

variable {initial : BotStore}
variable {pool : Pool (Database BotRow InsightEvent)
  (SessionTask BotRow InsightEvent InsightError Unit)}

/-- In every run in which each execution of the narrator that stores its text
has read the aggregate that the row still has, every committed narrative is the
narrator's output for the aggregate stored in the same row. -/
theorem narratives_match_aggregates
    (initially : NarrativesMatch narrate initial)
    (run : Reaches (poolStep (sessionAct (serve narrate)))
      (publishesOnly narratesCurrent)
      (Pool.idle (Database.fresh initial)) pool) :
    ∀ key row, pool.world.store (.insightSnapshot key) = some row →
      ∀ text, row.narrativeText = some text →
        narrate row.aggregate = .ok text := by
  have verifies : Discipline.VerifiesAll (narrativeRules narrate)
      (fun _ _ => True) (serve narrate) fun _ _ => True := by
    refine .of_wp fun request store holds => ?_
    cases request with
    | record environment => exact verifies_recordSnapshot holds
    | narrate environment payload =>
        exact verifies_executeInsightNarrate holds
  have sound := Discipline.sound_of_reaches verifies initially
    (fun _ _ permitted => ⟨permitted, fun _ _ _ _ => trivial⟩) run
  exact sound.shared.invariant

end Matching

section Runs

/-- `FakeNarrator::narrate`, over the formatting of amounts. -/
def fakeNarrate (formatMinor : Int → String → String)
    (aggregate : InsightAggregate) : Except InsightError String :=
  .ok ("Trong kỳ này bạn đã ghi nhận " ++ toString aggregate.txCount ++
    " khoản, tổng " ++
    formatMinor aggregate.totalMinor aggregate.currency ++ ".")

/-- The format of small amounts in VND. -/
def formatSmall (amount : Int) (_ : String) : String :=
  toString amount ++ " ₫"

/-- An executable form of `narratesCurrent`. -/
def checksCurrent (store : BotStore) : InsightEvent → Bool
  | .recorded => true
  | .narrated key aggregate stored => !stored ||
      (store (.insightSnapshot key)).all (·.aggregate = aggregate)

theorem narratesCurrent_of_checksCurrent (store : BotStore)
    (event : InsightEvent) (passed : checksCurrent store event = true) :
    narratesCurrent store event := by
  cases event with
  | recorded => trivial
  | narrated key aggregate stored =>
      rintro rfl row present
      simpa [checksCurrent, present] using passed

/-- The week of an account. -/
def aWeek : SnapshotKey :=
  ⟨⟨"account"⟩, .week, 0, "Asia/Ho_Chi_Minh"⟩

/-- An aggregate with a number of expenses of 100 VND each. -/
def anAggregate (txCount : Nat) : InsightAggregate :=
  ⟨100 * txCount, "VND", txCount, [], []⟩

/-- The snapshot of the week with a number of expenses. -/
def aRecord (txCount : Nat) : InsightRequest :=
  .record ⟨aWeek, some 604800000000, anAggregate txCount, fun _ => "digest",
    ⟨"snapshot"⟩, ⟨"job"⟩, 0, 0, "1970-01", false, 10, true⟩

/-- An execution of the narrator for the snapshot. -/
def aNarration : InsightRequest :=
  .narrate ⟨aWeek, 1, "1970-01", 10, true⟩ ⟨1, ⟨"account"⟩, ⟨"snapshot"⟩⟩

/-- A snapshot is recorded and then narrated. -/
def narratedWeek : List (Nat × SessionLabel InsightRequest) :=
  List.flatten [[(0, .begin (aRecord 1))], .replicate 7 (0, .advance),
    [(1, .begin aNarration)], .replicate 7 (1, .advance)]

theorem narratives_match_aggregates_week :
    ∃ pool row, runLabels (poolStep (sessionAct (serve
        (fakeNarrate formatSmall))))
        (Pool.idle (Database.fresh BotStore.initial)) narratedWeek =
          some pool ∧
      pool.world.store (.insightSnapshot aWeek) = some row ∧
      row.narrativeText =
        some "Trong kỳ này bạn đã ghi nhận 1 khoản, tổng 100 ₫." ∧
      fakeNarrate formatSmall row.aggregate =
        .ok "Trong kỳ này bạn đã ghi nhận 1 khoản, tổng 100 ₫." := by
  have initially : NarrativesMatch (fakeNarrate formatSmall)
      BotStore.initial :=
    fun _ _ absent => nomatch absent
  have permitted : permits (poolStep (sessionAct (serve
      (fakeNarrate formatSmall)))) (publishesOnly narratesCurrent)
      (Pool.idle (Database.fresh BotStore.initial)) narratedWeek :=
    permits_of_checks (publishesOnly_of_check
      narratesCurrent_of_checksCurrent) rfl
  have runs : (runLabels (poolStep (sessionAct (serve
        (fakeNarrate formatSmall))))
      (Pool.idle (Database.fresh BotStore.initial)) narratedWeek).bind
        (fun pool => (pool.world.store (.insightSnapshot aWeek)).map
          SnapshotRow.narrativeText) =
      some (some "Trong kỳ này bạn đã ghi nhận 1 khoản, tổng 100 ₫.") := by
    decide +kernel
  obtain ⟨pool, ran, found⟩ := Option.bind_eq_some_iff.mp runs
  obtain ⟨row, present, told⟩ := Option.map_eq_some_iff.mp found
  have matched := narratives_match_aggregates initially
    (reaches_of_runLabels permitted ran)
  exact ⟨pool, row, ran, present, told, matched aWeek row present _ told⟩

/-- The narrator has read the snapshot of one expense, and stores its text
after a refresh to two expenses. -/
def refreshedWeek : List (Nat × SessionLabel InsightRequest) :=
  List.flatten [[(0, .begin (aRecord 1))], .replicate 7 (0, .advance),
    [(1, .begin aNarration), (1, .advance)],
    [(2, .begin (aRecord 2))], .replicate 7 (2, .advance),
    .replicate 6 (1, .advance)]

theorem narrative_of_outdated_aggregate :
    ∃ pool row, SessionReaches (serve (fakeNarrate formatSmall))
        (Pool.idle (Database.fresh BotStore.initial)) pool ∧
      pool.world.store (.insightSnapshot aWeek) = some row ∧
      row.aggregate = anAggregate 2 ∧
      row.narrativeText =
        some "Trong kỳ này bạn đã ghi nhận 1 khoản, tổng 100 ₫." ∧
      fakeNarrate formatSmall row.aggregate ≠
        .ok "Trong kỳ này bạn đã ghi nhận 1 khoản, tổng 100 ₫." := by
  have runs : (runLabels (poolStep (sessionAct (serve
        (fakeNarrate formatSmall))))
      (Pool.idle (Database.fresh BotStore.initial)) refreshedWeek).bind
        (fun pool => (pool.world.store (.insightSnapshot aWeek)).map
          fun row => (row.aggregate, row.narrativeText)) =
      some (anAggregate 2,
        some "Trong kỳ này bạn đã ghi nhận 1 khoản, tổng 100 ₫.") := by
    decide +kernel
  obtain ⟨pool, ran, found⟩ := Option.bind_eq_some_iff.mp runs
  obtain ⟨row, present, shown⟩ := Option.map_eq_some_iff.mp found
  obtain ⟨isAggregate, told⟩ := Prod.mk.inj shown
  refine ⟨pool, row, reaches_of_runLabels (permits_anyStep _ refreshedWeek)
    ran, present, isAggregate, told, ?_⟩
  rw [isAggregate]
  decide

end Runs

end Insights

end ZaloBot
