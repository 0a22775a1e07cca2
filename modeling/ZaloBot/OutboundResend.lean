import ZaloBot.OutboundDelivery

/-!
# No resend after an uncertain send

The latest reservation of a row names the only execution that can settle it
as failed, and as long as that execution has not done so the row cannot be
reserved again.  Hence between two HTTP sends of a row the earlier sender has
settled it as failed after a definite error.
-/

namespace ZaloBot

open TaskPool LabelledRuns

namespace OutboundDelivery

/-- The execution that made the latest reservation of a row. -/
def lastReserver (outboundId : Uuid) : List DeliveryEvent → Option Nat
  | [] => none
  | .reserved sender row :: older =>
      if row = outboundId then some sender else lastReserver outboundId older
  | _ :: older => lastReserver outboundId older

/-- A reservation of the row. -/
def reserves (outboundId : Uuid) : DeliveryEvent → Bool
  | .reserved _ row => row = outboundId
  | _ => false

/-- The end of a reservation of the row. -/
def settles (outboundId : Uuid) : DeliveryEvent → Bool
  | .settled _ row _ => row = outboundId
  | _ => false

/-- The events between a send and now contain the sender's definite error and
then its move of the row to `failed`. -/
def SettledFailed (sender : Nat) (outboundId : Uuid)
    (newer : List DeliveryEvent) : Prop :=
  ∃ afterwards between before error,
    newer = afterwards ++
      DeliveryEvent.settled sender outboundId .failed :: between ++
      DeliveryEvent.httpReturned sender outboundId (.error error) :: before ∧
    error.errorClass ≠ .providerAmbiguous

/-- Every send of the row by the sender has been settled as failed. -/
def Cleared (sender : Nat) (outboundId : Uuid)
    (history : List DeliveryEvent) : Prop :=
  ∀ newer older,
    history = newer ++ DeliveryEvent.httpSent sender outboundId :: older →
      SettledFailed sender outboundId newer

/-- Between two sends of a row the earlier one was settled as failed. -/
def SendsSeparated (history : List DeliveryEvent) : Prop :=
  ∀ newest between oldest later earlier outboundId,
    history = newest ++ DeliveryEvent.httpSent later outboundId :: between ++
      DeliveryEvent.httpSent earlier outboundId :: oldest →
        SettledFailed earlier outboundId between

/-- Every send of the row by the sender has returned the result. -/
def ReturnedAfter (sender : Nat) (outboundId : Uuid) (result : SendResult)
    (history : List DeliveryEvent) : Prop :=
  ∀ newer older,
    history = newer ++ DeliveryEvent.httpSent sender outboundId :: older →
      ∃ afterwards before, newer = afterwards ++
        DeliveryEvent.httpReturned sender outboundId result :: before

section Histories

variable {sender : Nat} {outboundId : Uuid} {history : List DeliveryEvent}
variable {event : DeliveryEvent} {result : SendResult}

/-- Where a send stands in a history with a new head. -/
theorem cons_split {newer older : List DeliveryEvent} {sent : DeliveryEvent}
    (different : event ≠ sent)
    (split : event :: history = newer ++ sent :: older) :
    ∃ rest, newer = event :: rest ∧ history = rest ++ sent :: older := by
  cases newer with
  | nil =>
      simp only [List.nil_append, List.cons.injEq] at split
      exact absurd split.1 different
  | cons head rest =>
      simp only [List.cons_append, List.cons.injEq] at split
      exact ⟨rest, by rw [split.1], split.2⟩

theorem SettledFailed.cons {newer : List DeliveryEvent}
    (settled : SettledFailed sender outboundId newer)
    (event : DeliveryEvent) :
    SettledFailed sender outboundId (event :: newer) := by
  rcases settled with ⟨afterwards, between, before, error, rfl, definite⟩
  exact ⟨event :: afterwards, between, before, error, by simp, definite⟩

theorem Cleared.cons (cleared : Cleared sender outboundId history)
    (different : event ≠ .httpSent sender outboundId) :
    Cleared sender outboundId (event :: history) := by
  intro newer older split
  rcases cons_split different split with ⟨rest, rfl, restSplit⟩
  exact (cleared rest older restSplit).cons event

/-- A sender that has not sent is cleared. -/
theorem Cleared.of_not_sent
    (unsent : .httpSent sender outboundId ∉ history) :
    Cleared sender outboundId history := by
  intro newer older split
  exact absurd (by simp [split]) unsent

theorem SendsSeparated.cons (separated : SendsSeparated history)
    (different : ∀ later outboundId, event ≠ .httpSent later outboundId) :
    SendsSeparated (event :: history) := by
  intro newest between oldest later earlier outboundId split
  rw [List.append_assoc] at split
  rcases cons_split (different later outboundId) split with
    ⟨rest, _, restSplit⟩
  exact separated rest between oldest later earlier outboundId
    (by simpa using restSplit)

/-- A send keeps the separation when all earlier sends of the row are
cleared. -/
theorem SendsSeparated.cons_sent (separated : SendsSeparated history)
    (cleared : ∀ earlier, Cleared earlier outboundId history) :
    SendsSeparated (.httpSent sender outboundId :: history) := by
  intro newest between oldest later earlier row split
  cases newest with
  | nil =>
      simp only [List.nil_append, List.cons_append, List.cons.injEq,
        DeliveryEvent.httpSent.injEq] at split
      obtain ⟨⟨_, rfl⟩, restSplit⟩ := split
      exact cleared earlier between oldest restSplit
  | cons head rest =>
      simp only [List.cons_append, List.cons.injEq] at split
      exact separated rest between oldest later earlier row split.2

theorem ReturnedAfter.cons
    (returned : ReturnedAfter sender outboundId result history)
    (different : event ≠ .httpSent sender outboundId) :
    ReturnedAfter sender outboundId result (event :: history) := by
  intro newer older split
  rcases cons_split different split with ⟨rest, rfl, restSplit⟩
  rcases returned rest older restSplit with ⟨afterwards, before, rfl⟩
  exact ⟨event :: afterwards, before, rfl⟩

theorem ReturnedAfter.of_response :
    ReturnedAfter sender outboundId result
      (.httpReturned sender outboundId result :: history) := by
  intro newer older split
  rcases cons_split (by simp) split with ⟨rest, rfl, _⟩
  exact ⟨[], rest, rfl⟩

theorem ReturnedAfter.of_not_sent
    (unsent : .httpSent sender outboundId ∉ history) :
    ReturnedAfter sender outboundId result history := by
  intro newer older split
  exact absurd (by simp [split]) unsent

/-- Settling a definite error clears the sender. -/
theorem Cleared.of_settled {error : ProviderSend.ZaloProviderError}
    (returned : ReturnedAfter sender outboundId (.error error) history)
    (definite : error.errorClass ≠ .providerAmbiguous) :
    Cleared sender outboundId
      (.settled sender outboundId .failed :: history) := by
  intro newer older split
  rcases cons_split (by simp) split with ⟨rest, rfl, restSplit⟩
  rcases returned rest older restSplit with ⟨afterwards, before, rfl⟩
  exact ⟨[], afterwards, before, error, by simp, definite⟩

end Histories

/-- The execution made the latest reservation of the row, which is still
unsettled or has been marked ambiguous meanwhile. -/
def Holding (world : DeliveryWorld) (sender : Nat) (outboundId : Uuid) :
    Prop :=
  lastReserver outboundId world.history = some sender ∧
    ∃ row, world.outbox.find outboundId = some row ∧
      (row.state = .sending ∨ row.state = .ambiguous)

/-- The execution has not sent anything. -/
def Unsent (world : DeliveryWorld) (sender : Nat) : Prop :=
  ∀ outboundId, .httpSent sender outboundId ∉ world.history

/-- How a row's counter and state reflect the history. -/
structure RowAccounts (row : OutboundRow) (history : List DeliveryEvent) :
    Prop where
  attempts : row.attemptCount = history.countP (reserves row.id)
  outstanding : history.countP (reserves row.id) =
    history.countP (settles row.id) + if row.isSending then 1 else 0

/-- What the outbox and the history satisfy. -/
structure Accounted (world : DeliveryWorld) : Prop where
  separated : SendsSeparated world.history
  sends : ∀ sender outboundId,
    .httpSent sender outboundId ∈ world.history →
      Cleared sender outboundId world.history ∨
        (lastReserver outboundId world.history = some sender ∧
          ∀ row, world.outbox.find outboundId = some row →
            row.isReservable = false)
  rows : ∀ row ∈ world.outbox, RowAccounts row world.history
  known : ∀ event ∈ world.history, ∀ outboundId,
    world.outbox.find outboundId = none →
      reserves outboundId event = false ∧
      settles outboundId event = false ∧
      ∀ sender, event ≠ .httpSent sender outboundId

/-- What holds of an execution at each stage. -/
def StageHolds (world : DeliveryWorld) (sender : Nat) :
    Option DeliveryStage → Prop
  | some (.reserved _ outboundId _ _) =>
      Holding world sender outboundId ∧ Unsent world sender
  | some (.inFlight _ outboundId) => Holding world sender outboundId
  | some (.returned _ outboundId result)
  | some (.recording _ outboundId result)
  | some (.recordingRow _ outboundId result) =>
      Holding world sender outboundId ∧
        ReturnedAfter sender outboundId result world.history
  | some (.executed _) | some (.delivered _) | some .dropped => True
  | _ => Unsent world sender

/-- A change that an execution does not notice. -/
structure Unnoticed (sender : Nat) (before after : DeliveryWorld) : Prop where
  unsent : Unsent before sender → Unsent after sender
  holding : ∀ outboundId,
    Holding before sender outboundId → Holding after sender outboundId
  returned : ∀ outboundId result,
    ReturnedAfter sender outboundId result before.history →
      ReturnedAfter sender outboundId result after.history

/-- Rows in a final state stay as they are. -/
def KeepsFinal (before after : OutboundTable) : Prop :=
  ∀ outboundId row, before.find outboundId = some row →
    row.isReservable = false → row.isSending = false →
      after.find outboundId = some row

/-- What an action has to establish. -/
structure Consistent (sender : Nat) (before after : DeliveryWorld)
    (stage : Option DeliveryStage) : Prop where
  accounted : Accounted after
  own : StageHolds after sender stage
  others : ∀ other, other ≠ sender → Unnoticed other before after
  final : KeepsFinal before.outbox after.outbox

section Steps

variable {world after : DeliveryWorld} {sender other : Nat}
variable {outboundId : Uuid} {event : DeliveryEvent}
variable {stage next : Option DeliveryStage} {now : Timestamp}

theorem Unnoticed.refl (sender : Nat) (world : DeliveryWorld) :
    Unnoticed sender world world :=
  ⟨id, fun _ => id, fun _ _ => id⟩

theorem StageHolds.unnoticed (holds : StageHolds world sender stage)
    (same : Unnoticed sender world after) :
    StageHolds after sender stage := by
  cases stage with
  | none => exact same.unsent holds
  | some stage =>
      cases stage with
      | reserved lease outboundId target body =>
          exact ⟨same.holding _ holds.1, same.unsent holds.2⟩
      | inFlight lease outboundId => exact same.holding _ holds
      | returned lease outboundId result =>
          exact ⟨same.holding _ holds.1, same.returned _ _ holds.2⟩
      | recording lease outboundId result =>
          exact ⟨same.holding _ holds.1, same.returned _ _ holds.2⟩
      | recordingRow lease outboundId result =>
          exact ⟨same.holding _ holds.1, same.returned _ _ holds.2⟩
      | executed _ => trivial
      | delivered _ => trivial
      | dropped => trivial
      | loading _ => exact same.unsent holds
      | foundSending _ _ => exact same.unsent holds
      | markingAmbiguous _ _ => exact same.unsent holds
      | markingRow _ => exact same.unsent holds
      | reserving _ _ => exact same.unsent holds
      | reservingRow _ _ => exact same.unsent holds
      | unreserved _ _ => exact same.unsent holds
      | refreshing _ => exact same.unsent holds

theorem Consistent.of_unchanged (accounted : Accounted world)
    (own : StageHolds world sender stage) :
    Consistent sender world world stage :=
  ⟨accounted, own, fun other _ => Unnoticed.refl other world,
    fun _ _ found _ _ => found⟩

/-- A change of one row that is not in a final state. -/
theorem KeepsFinal.of_row {before after : OutboundTable} {row : OutboundRow}
    (found : before.find outboundId = some row)
    (active : row.isReservable = true ∨ row.isSending = true)
    (unchanged : ∀ other, other ≠ outboundId →
      after.find other = before.find other) : KeepsFinal before after := by
  intro other entry otherFound unreservable notSending
  have different : other ≠ outboundId := by
    rintro rfl
    rw [found, Option.some.injEq] at otherFound
    subst otherFound
    rcases active with reservable | sending
    · rw [reservable] at unreservable
      contradiction
    · rw [sending] at notSending
      contradiction
  rw [unchanged other different, otherFound]

/-- Events of another execution leave one's own sends and responses alone. -/
theorem Unnoticed.of_event {outbox : OutboundTable}
    (foreign : ∀ outboundId, event ≠ .httpSent other outboundId)
    (holding : ∀ outboundId, Holding world other outboundId →
      Holding (world.record outbox event) other outboundId) :
    Unnoticed other world (world.record outbox event) where
  unsent := by
    intro unsent outboundId member
    rcases List.mem_cons.mp member with same | old
    · exact foreign outboundId same.symm
    · exact unsent outboundId old
  holding := holding
  returned := fun outboundId _ returned => returned.cons (foreign outboundId)

/-- A new event of a row whose other rows keep their accounts. -/
theorem Accounted.rows_of_event {outbox : OutboundTable} {row : OutboundRow}
    (accounted : Accounted world)
    (found : outbox.find outboundId = some row)
    (rowAccounts : RowAccounts row (event :: world.history))
    (unchanged : ∀ other, other ≠ outboundId →
      outbox.find other = world.outbox.find other)
    (about : ∀ other, other ≠ outboundId →
      reserves other event = false ∧ settles other event = false) :
    ∀ entry ∈ outbox, RowAccounts entry (event :: world.history) := by
  intro entry member
  have entryFound := Table.find_of_mem member
  by_cases same : entry.id = outboundId
  · rw [same, found, Option.some.injEq] at entryFound
    exact entryFound ▸ rowAccounts
  · rw [unchanged entry.id same] at entryFound
    have old := accounted.rows entry (Table.mem_of_find entryFound)
    obtain ⟨noReservation, noSettlement⟩ := about entry.id same
    exact ⟨by simp [noReservation, old.attempts],
      by simp [noReservation, noSettlement, old.outstanding]⟩

theorem Accounted.known_of_event {outbox : OutboundTable}
    {row : OutboundRow} (accounted : Accounted world)
    (found : outbox.find outboundId = some row)
    (unchanged : ∀ other, other ≠ outboundId →
      outbox.find other = world.outbox.find other)
    (about : ∀ other, other ≠ outboundId →
      reserves other event = false ∧ settles other event = false ∧
        ∀ sender, event ≠ .httpSent sender other) :
    ∀ entry ∈ event :: world.history, ∀ missing,
      outbox.find missing = none →
        reserves missing entry = false ∧ settles missing entry = false ∧
          ∀ sender, entry ≠ .httpSent sender missing := by
  intro entry member missing absent
  have different : missing ≠ outboundId := by
    rintro rfl
    rw [found] at absent
    contradiction
  rcases List.mem_cons.mp member with rfl | old
  · exact about missing different
  · rw [unchanged missing different] at absent
    exact accounted.known entry old missing absent

/-- Keeping the accounts of sends when the latest reservation is the same. -/
theorem Accounted.sends_of_event {outbox : OutboundTable}
    (accounted : Accounted world)
    (foreign : ∀ sender outboundId, event ≠ .httpSent sender outboundId)
    (sameReserver : ∀ other, lastReserver other (event :: world.history) =
      lastReserver other world.history)
    (stays : ∀ sender row, .httpSent sender row ∈ world.history →
      lastReserver row world.history = some sender →
      (∀ entry, world.outbox.find row = some entry →
        entry.isReservable = false) →
      Cleared sender row (event :: world.history) ∨
        ∀ entry, outbox.find row = some entry →
          entry.isReservable = false) :
    ∀ sender row, .httpSent sender row ∈ event :: world.history →
      Cleared sender row (event :: world.history) ∨
        (lastReserver row (event :: world.history) = some sender ∧
          ∀ entry, outbox.find row = some entry →
            entry.isReservable = false) := by
  intro sender row member
  rcases List.mem_cons.mp member with same | old
  · exact absurd same.symm (foreign sender row)
  · rcases accounted.sends sender row old with cleared | ⟨latest, closed⟩
    · exact Or.inl (cleared.cons (foreign sender row))
    · rcases stays sender row old latest closed with cleared | closed
      · exact Or.inl cleared
      · exact Or.inr ⟨(sameReserver row).trans latest, closed⟩

/-- A reservation. -/
theorem reserve_consistent (now : Timestamp) {outbox : OutboundTable}
    {row : OutboundRow} {lease : Option DeliveryLease}
    {target body : String}
    (accounted : Accounted world) (unsent : Unsent world sender)
    (found : world.outbox.find outboundId = some row)
    (reservable : row.isReservable = true)
    (foundAfter : outbox.find outboundId =
      some ((OutboundRow.markSending now).apply row))
    (unchanged : ∀ other, other ≠ outboundId →
      outbox.find other = world.outbox.find other) :
    Consistent sender world
      (world.record outbox (.reserved sender outboundId))
      (some (.reserved lease outboundId target body)) := by
  have sameId : row.id = outboundId := Table.key_of_find found
  have notSending : row.isSending = false := by
    rcases state : row.state <;>
      simp [OutboundRow.isReservable, OutboundRow.isSending, state] at *
  have old := accounted.rows row (Table.mem_of_find found)
  refine ⟨⟨accounted.separated.cons (by simp), ?_, ?_, ?_⟩, ?_, ?_,
    .of_row found (Or.inl reservable) unchanged⟩
  · intro earlier entry member
    rcases List.mem_cons.mp member with same | member
    · contradiction
    · rcases accounted.sends earlier entry member with
        cleared | ⟨latest, closed⟩
      · exact Or.inl (cleared.cons (by simp))
      · have different : entry ≠ outboundId := by
          rintro rfl
          have unreservable := closed row found
          rw [reservable] at unreservable
          contradiction
        refine Or.inr ⟨?_, ?_⟩
        · have notThis : outboundId ≠ entry := fun same =>
            different same.symm
          simpa [DeliveryWorld.record, lastReserver, notThis] using latest
        · intro other otherFound
          exact closed other (by
            rw [← unchanged entry different]
            exact otherFound)
  · refine accounted.rows_of_event foundAfter ?_ unchanged ?_
    · have attempts := old.attempts
      have outstanding := old.outstanding
      rw [notSending, sameId] at outstanding
      rw [sameId] at attempts
      constructor
      · simp [OutboundRow.markSending, sameId, reserves, attempts]
      · simp [OutboundRow.markSending, OutboundRow.isSending, sameId,
          reserves, settles, outstanding]
    · intro other different
      have notThis : outboundId ≠ other := fun same => different same.symm
      simp [reserves, settles, notThis]
  · refine accounted.known_of_event foundAfter unchanged ?_
    intro other different
    have notThis : outboundId ≠ other := fun same => different same.symm
    simp [reserves, settles, notThis]
  · refine ⟨⟨by simp [DeliveryWorld.record, lastReserver], _, foundAfter,
      Or.inl rfl⟩, ?_⟩
    intro entry member
    rcases List.mem_cons.mp member with same | member
    · contradiction
    · exact unsent entry member
  · intro other _
    refine Unnoticed.of_event (by simp) ?_
    rintro entry ⟨latest, held, heldFound, heldState⟩
    have different : entry ≠ outboundId := by
      rintro rfl
      rw [found, Option.some.injEq] at heldFound
      subst heldFound
      rcases heldState with sending | ambiguous
      · simp [OutboundRow.isReservable, sending] at reservable
      · simp [OutboundRow.isReservable, ambiguous] at reservable
    have notThis : outboundId ≠ entry := fun same => different same.symm
    refine ⟨by simpa [DeliveryWorld.record, lastReserver, notThis] using
      latest, held, ?_, heldState⟩
    exact (unchanged entry different).trans heldFound

/-- The HTTP request goes out. -/
theorem sent_consistent {lease : Option DeliveryLease}
    (accounted : Accounted world)
    (holding : Holding world sender outboundId)
    (unsent : Unsent world sender) :
    Consistent sender world
      (world.record world.outbox (.httpSent sender outboundId))
      (some (.inFlight lease outboundId)) := by
  obtain ⟨latest, row, found, state⟩ := holding
  have unreservable : row.isReservable = false := by
    rcases state with sending | ambiguous
    · simp [OutboundRow.isReservable, sending]
    · simp [OutboundRow.isReservable, ambiguous]
  have cleared : ∀ earlier, Cleared earlier outboundId world.history := by
    intro earlier
    by_cases sent : .httpSent earlier outboundId ∈ world.history
    · rcases accounted.sends earlier outboundId sent with
        cleared | ⟨otherLatest, _⟩
      · exact cleared
      · rw [latest, Option.some.injEq] at otherLatest
        exact absurd (otherLatest ▸ sent) (unsent outboundId)
    · exact .of_not_sent sent
  refine ⟨⟨accounted.separated.cons_sent cleared, ?_, ?_, ?_⟩, ?_, ?_,
    fun _ _ entryFound _ _ => entryFound⟩
  · intro earlier entry member
    rcases List.mem_cons.mp member with same | member
    · simp only [DeliveryEvent.httpSent.injEq] at same
      obtain ⟨rfl, rfl⟩ := same
      refine Or.inr ⟨latest, fun other otherFound => ?_⟩
      rw [DeliveryWorld.record, found, Option.some.injEq] at otherFound
      exact otherFound ▸ unreservable
    · rcases accounted.sends earlier entry member with clearedEntry | closed
      · refine Or.inl (clearedEntry.cons fun same => ?_)
        exact unsent outboundId (same ▸ member)
      · exact Or.inr closed
  · refine accounted.rows_of_event found ?_ (fun _ _ => rfl) ?_
    · have old := accounted.rows row (Table.mem_of_find found)
      exact ⟨by simp [reserves, old.attempts],
        by simp [reserves, settles, old.outstanding]⟩
    · exact fun _ _ => ⟨rfl, rfl⟩
  · refine accounted.known_of_event found (fun _ _ => rfl) ?_
    intro other different
    have notThis : outboundId ≠ other := fun same => different same.symm
    simp [reserves, settles, notThis]
  · exact ⟨latest, row, found, state⟩
  · intro other different
    refine Unnoticed.of_event ?_ (fun _ held => held)
    intro entry same
    simp only [DeliveryEvent.httpSent.injEq] at same
    exact different same.1.symm

/-- The provider answers. -/
theorem returned_consistent {lease : Option DeliveryLease}
    {result : SendResult} (accounted : Accounted world)
    (holding : Holding world sender outboundId) :
    Consistent sender world
      (world.record world.outbox (.httpReturned sender outboundId result))
      (some (.returned lease outboundId result)) := by
  obtain ⟨latest, row, found, state⟩ := holding
  refine ⟨⟨accounted.separated.cons (by simp), ?_, ?_, ?_⟩, ?_, ?_,
    fun _ _ entryFound _ _ => entryFound⟩
  · exact accounted.sends_of_event (by simp) (fun _ => rfl)
      fun _ _ _ _ closed => Or.inr closed
  · intro entry member
    have old := accounted.rows entry member
    exact ⟨by simp [DeliveryWorld.record, reserves, old.attempts],
      by simp [DeliveryWorld.record, reserves, settles, old.outstanding]⟩
  · refine accounted.known_of_event found (fun _ _ => rfl) ?_
    intro other _
    simp [reserves, settles]
  · exact ⟨⟨latest, row, found, state⟩, .of_response⟩
  · intro other _
    exact Unnoticed.of_event (by simp) fun _ held => held

/-- The accounts of a row whose reservation is settled. -/
theorem RowAccounts.settle {row : OutboundRow}
    {set : Table.Setter OutboundRow.id} {state : OutboundState}
    {history : List DeliveryEvent} (old : RowAccounts row history)
    (sending : row.isSending = true)
    (sameCount : (set.apply row).attemptCount = row.attemptCount)
    (settled : (set.apply row).isSending = false) :
    RowAccounts (set.apply row) (.settled sender row.id state :: history) := by
  have outstanding := old.outstanding
  rw [sending, if_pos rfl] at outstanding
  constructor
  · simp [set.keepsKey, reserves, sameCount, old.attempts]
  · simp [set.keepsKey, reserves, settles, settled, outstanding]

/-- A reservation is settled: by its holder with the outcome of the send, or by
anyone as ambiguous. -/
theorem settle_consistent {outbox : OutboundTable} {row : OutboundRow}
    {set : Table.Setter OutboundRow.id} {state : OutboundState}
    (accounted : Accounted world)
    (found : world.outbox.find outboundId = some row)
    (sending : row.isSending = true)
    (foundAfter : outbox.find outboundId = some (set.apply row))
    (unchanged : ∀ other, other ≠ outboundId →
      outbox.find other = world.outbox.find other)
    (sameCount : (set.apply row).attemptCount = row.attemptCount)
    (stateAfter : (set.apply row).state = state)
    (notSending : state ≠ .sending)
    (unreservable : (set.apply row).isReservable = false ∨
      (lastReserver outboundId world.history = some sender ∧
        Cleared sender outboundId
          (.settled sender outboundId state :: world.history)))
    (entitled : state = .ambiguous ∨
      lastReserver outboundId world.history = some sender)
    (ended : StageHolds
      (world.record outbox (.settled sender outboundId state)) sender
      stage) :
    Consistent sender world
      (world.record outbox (.settled sender outboundId state)) stage := by
  have sameId : row.id = outboundId := Table.key_of_find found
  have settled : (set.apply row).isSending = false := by
    simp [OutboundRow.isSending, stateAfter, notSending]
  refine ⟨⟨accounted.separated.cons (by simp), ?_, ?_, ?_⟩, ended, ?_,
    .of_row found (Or.inr sending) unchanged⟩
  · refine accounted.sends_of_event (by simp) (fun _ => rfl) ?_
    intro earlier entry _ latest closed
    by_cases same : entry = outboundId
    · subst same
      rcases unreservable with unreservable | ⟨holder, cleared⟩
      · refine Or.inr fun other otherFound => ?_
        rw [DeliveryWorld.record, foundAfter, Option.some.injEq] at otherFound
        exact otherFound ▸ unreservable
      · rw [latest, Option.some.injEq] at holder
        exact Or.inl (holder ▸ cleared)
    · exact Or.inr fun other otherFound =>
        closed other ((unchanged entry same).symm.trans otherFound)
  · refine accounted.rows_of_event foundAfter ?_ unchanged ?_
    · have old := accounted.rows row (Table.mem_of_find found)
      exact sameId ▸ old.settle sending sameCount settled
    · intro other different
      have notThis : outboundId ≠ other := fun same => different same.symm
      simp [reserves, settles, notThis]
  · refine accounted.known_of_event foundAfter unchanged ?_
    intro other different
    have notThis : outboundId ≠ other := fun same => different same.symm
    simp [reserves, settles, notThis]
  · intro other different
    refine Unnoticed.of_event (by simp) ?_
    rintro entry ⟨latest, held, heldFound, heldState⟩
    refine ⟨latest, ?_⟩
    by_cases same : entry = outboundId
    · subst same
      rcases entitled with ambiguous | holder
      · exact ⟨_, foundAfter, Or.inr (stateAfter.trans ambiguous)⟩
      · rw [latest, Option.some.injEq] at holder
        exact absurd holder different
    · exact ⟨held, (unchanged entry same).trans heldFound, heldState⟩

theorem reserveRow_consistent {lease : DeliveryLease}
    (accounted : Accounted world) (unsent : Unsent world sender) :
    Consistent sender world
      (reserveRow now world sender lease outboundId).1
      (some (reserveRow now world sender lease outboundId).2) := by
  unfold reserveRow
  split
  · rename_i outbox row updated found
    rcases Outbound.updateRow_eq_some updated with
      ⟨old, oldFound, reservable, foundAfter, unchanged⟩
    exact reserve_consistent now accounted unsent oldFound reservable
      foundAfter unchanged
  · exact .of_unchanged accounted unsent

theorem reserveNext_consistent {rowLocked : Uuid → Bool}
    (accounted : Accounted world) (unsent : Unsent world sender) :
    Consistent sender world (reserveNext now world sender rowLocked).1
      (some (reserveNext now world sender rowLocked).2) := by
  unfold reserveNext
  split
  · exact .of_unchanged accounted trivial
  · rename_i row candidate
    have eligible := Outbound.nextCandidate_eq_some candidate
    have found := Table.find_of_mem eligible.1
    have reservable : row.isReservable = true := by
      simp [OutboundRow.isReservable, eligible.2]
    refine reserve_consistent now accounted unsent found reservable ?_ ?_
    · rw [Table.find_modify_self, found]
      rfl
    · exact fun other different => Table.find_modify_other different

theorem markRow_consistent (accounted : Accounted world) :
    Consistent sender world (markRow now world sender outboundId).1
      (some (markRow now world sender outboundId).2) := by
  unfold markRow
  split
  · rename_i outbox updated
    rcases Outbound.updateRow_eq_some updated with
      ⟨row, found, sending, foundAfter, unchanged⟩
    exact settle_consistent accounted found sending foundAfter unchanged rfl
      rfl (by decide) (Or.inl rfl) (Or.inl rfl) trivial
  · exact .of_unchanged accounted trivial

/-- A send result that is recorded as failed is a definite error. -/
theorem definite_of_failed {result : SendResult}
    (failed : result.deliveryState = .failed) :
    ∃ error, result = .error error ∧
      error.errorClass ≠ .providerAmbiguous := by
  cases result with
  | ok sent => simp [SendResult.deliveryState] at failed
  | error error =>
      refine ⟨error, rfl, fun ambiguous => ?_⟩
      simp [SendResult.deliveryState, ambiguous] at failed

theorem recordRow_consistent {lease : Option DeliveryLease}
    {result : SendResult} (accounted : Accounted world)
    (holding : Holding world sender outboundId)
    (returned : ReturnedAfter sender outboundId result world.history) :
    Consistent sender world
      (recordRow now world sender lease outboundId result).1
      (some (recordRow now world sender lease outboundId result).2) := by
  unfold recordRow
  split
  · rename_i outbox updated
    rcases Outbound.updateRow_eq_some updated with
      ⟨row, found, sending, foundAfter, unchanged⟩
    have notSending : result.deliveryState.rowState ≠ .sending := by
      cases result.deliveryState <;> simp [DeliveryState.rowState]
    refine settle_consistent accounted found sending foundAfter unchanged rfl
      rfl notSending ?_ (Or.inr holding.1) ?_
    · cases state : result.deliveryState with
      | sent =>
          simp [OutboundRow.isReservable, OutboundRow.markDelivered, state,
            DeliveryState.rowState]
      | ambiguous =>
          simp [OutboundRow.isReservable, OutboundRow.markDelivered, state,
            DeliveryState.rowState]
      | failed =>
          rcases definite_of_failed state with ⟨error, rfl, definite⟩
          exact Or.inr ⟨holding.1, .of_settled returned definite⟩
    · cases lease <;> trivial
  · cases lease <;> exact .of_unchanged accounted trivial

private theorem branch_consistent {condition : Prop} [Decidable condition]
    {first second reached : DeliveryStage} (accounted : Accounted world)
    (stepTo : (if condition then some (world, first)
      else some (world, second)) = some (after, reached))
    (firstHolds : StageHolds world sender (some first))
    (secondHolds : StageHolds world sender (some second)) :
    Consistent sender world after (some reached) := by
  split at stepTo <;> simp only [Option.some.injEq, Prod.mk.injEq] at stepTo
  · obtain ⟨rfl, rfl⟩ := stepTo
    exact .of_unchanged accounted firstHolds
  · obtain ⟨rfl, rfl⟩ := stepTo
    exact .of_unchanged accounted secondHolds

theorem load_holds {parseUuid : String → Option Uuid} {job : ClaimedJob}
    (unsent : Unsent world sender) :
    StageHolds world sender (some (load parseUuid job world.outbox)) := by
  unfold load
  dsimp only
  split
  · trivial
  · split
    · trivial
    · split
      · trivial
      · split
        · trivial
        · trivial
        · exact unsent
        · exact unsent
        · exact unsent
        · trivial

/-- Every statement of an execution is consistent. -/
theorem advance_consistent {parseUuid : String → Option Uuid}
    {current reached : DeliveryStage} (accounted : Accounted world)
    (holds : StageHolds world sender (some current))
    (stepTo : advance parseUuid now world sender current =
      some (after, reached)) :
    Consistent sender world after (some reached) := by
  cases current with
  | loading job =>
      simp only [advance, Option.some.injEq, Prod.mk.injEq] at stepTo
      obtain ⟨rfl, rfl⟩ := stepTo
      exact .of_unchanged accounted (load_holds holds)
  | foundSending lease outboundId =>
      simp only [advance] at stepTo
      exact branch_consistent accounted stepTo holds trivial
  | markingAmbiguous lease outboundId =>
      simp only [advance] at stepTo
      exact branch_consistent accounted stepTo holds trivial
  | markingRow outboundId =>
      simp only [advance, Option.some.injEq] at stepTo
      have marked : Consistent sender world
          (markRow now world sender outboundId).1
          (some (markRow now world sender outboundId).2) :=
        markRow_consistent accounted
      rwa [stepTo] at marked
  | reserving lease outboundId =>
      simp only [advance] at stepTo
      exact branch_consistent accounted stepTo holds holds
  | reservingRow lease outboundId =>
      simp only [advance, Option.some.injEq] at stepTo
      have reservation : Consistent sender world
          (reserveRow now world sender lease outboundId).1
          (some (reserveRow now world sender lease outboundId).2) :=
        reserveRow_consistent accounted holds
      rwa [stepTo] at reservation
  | unreserved lease outboundId =>
      simp only [advance] at stepTo
      exact branch_consistent accounted stepTo holds trivial
  | refreshing outboundId =>
      simp only [advance, Option.some.injEq, Prod.mk.injEq] at stepTo
      obtain ⟨rfl, rfl⟩ := stepTo
      exact .of_unchanged accounted trivial
  | reserved lease outboundId target body =>
      simp only [advance, Option.some.injEq, Prod.mk.injEq] at stepTo
      obtain ⟨rfl, rfl⟩ := stepTo
      exact sent_consistent accounted holds.1 holds.2
  | inFlight lease outboundId => simp [advance] at stepTo
  | returned lease outboundId result =>
      cases lease with
      | none =>
          simp only [advance, Option.some.injEq, Prod.mk.injEq] at stepTo
          obtain ⟨rfl, rfl⟩ := stepTo
          exact .of_unchanged accounted holds
      | some lease =>
          simp only [advance] at stepTo
          exact branch_consistent accounted stepTo holds trivial
  | recording lease outboundId result =>
      cases lease with
      | none =>
          simp only [advance, Option.some.injEq, Prod.mk.injEq] at stepTo
          obtain ⟨rfl, rfl⟩ := stepTo
          exact .of_unchanged accounted holds
      | some lease =>
          simp only [advance] at stepTo
          exact branch_consistent accounted stepTo holds trivial
  | recordingRow lease outboundId result =>
      simp only [advance, Option.some.injEq] at stepTo
      have recorded : Consistent sender world
          (recordRow now world sender lease outboundId result).1
          (some (recordRow now world sender lease outboundId result).2) :=
        recordRow_consistent accounted holds.1 holds.2
      rwa [stepTo] at recorded
  | executed execution => simp [advance] at stepTo
  | delivered result => simp [advance] at stepTo
  | dropped => simp [advance] at stepTo

/-- A new row has no history. -/
theorem enqueue_consistent {row : OutboundRow} {outbox : OutboundTable}
    (accounted : Accounted world)
    (holds : StageHolds world sender stage)
    (fresh : row.state = .queued ∨ row.state = .suppressed)
    (unattempted : row.attemptCount = 0)
    (insertion : world.outbox.insert row = some outbox) :
    Consistent sender world { world with outbox := outbox } stage := by
  have absent := (Table.insert_eq_some_iff.mp insertion).1
  have known := fun event member => accounted.known event member row.id absent
  have keepsFound {other : Uuid} {entry : OutboundRow}
      (found : world.outbox.find other = some entry) :
      outbox.find other = some entry := by
    rw [Table.find_insert insertion, if_neg, found]
    rintro rfl
    rw [absent] at found
    contradiction
  have unnoticed (reader : Nat) :
      Unnoticed reader world { world with outbox := outbox } := by
    refine ⟨id, ?_, fun _ _ => id⟩
    rintro other ⟨latest, entry, found, state⟩
    exact ⟨latest, entry, keepsFound found, state⟩
  refine ⟨⟨accounted.separated, ?_, ?_, ?_⟩, holds.unnoticed
    (unnoticed sender), fun other _ => unnoticed other,
    fun _ _ found _ _ => keepsFound found⟩
  · intro earlier other member
    rcases accounted.sends earlier other member with
      cleared | ⟨latest, closed⟩
    · exact Or.inl cleared
    · refine Or.inr ⟨latest, fun entry found => ?_⟩
      rw [Table.find_insert insertion] at found
      split at found
      · rename_i same
        have unknown := (known _ member).2.2 earlier
        rw [same] at unknown
        exact absurd rfl unknown
      · exact closed entry found
  · intro entry member
    rcases (Table.mem_insert insertion).mp member with old | rfl
    · exact accounted.rows entry old
    · have noReservation :
          world.history.countP (reserves entry.id) = 0 :=
        List.countP_eq_zero.mpr fun event member => by
          simp [(known event member).1]
      have noSettlement : world.history.countP (settles entry.id) = 0 :=
        List.countP_eq_zero.mpr fun event member => by
          simp [(known event member).2.1]
      have notSending : entry.isSending = false := by
        rcases fresh with queued | suppressed
        · simp [OutboundRow.isSending, queued]
        · simp [OutboundRow.isSending, suppressed]
      exact ⟨by simp [unattempted, noReservation],
        by simp [noReservation, noSettlement, notSending]⟩
  · intro event member missing notFound
    refine accounted.known event member missing ?_
    cases found : world.outbox.find missing with
    | none => rfl
    | some entry =>
        rw [keepsFound found] at notFound
        contradiction

/-- Every action is consistent. -/
theorem act_consistent {parseUuid : String → Option Uuid}
    {action : DeliveryAction} (accounted : Accounted world)
    (holds : StageHolds world sender stage)
    (acted : act parseUuid world sender stage action = some (after, next)) :
    Consistent sender world after next := by
  unfold act at acted
  split at acted
  · simp only [Option.some.injEq, Prod.mk.injEq] at acted
    obtain ⟨rfl, rfl⟩ := acted
    exact .of_unchanged accounted holds
  · rename_i started rowLocked
    simp only [Option.some.injEq, Prod.mk.injEq] at acted
    obtain ⟨rfl, rfl⟩ := acted
    exact reserveNext_consistent accounted holds
  · obtain ⟨⟨reachedWorld, reached⟩, stepTo, equal⟩ :=
      Option.map_eq_some_iff.mp acted
    simp only [Prod.mk.injEq] at equal
    obtain ⟨rfl, rfl⟩ := equal
    exact advance_consistent accounted holds stepTo
  · split at acted
    · simp only [Option.some.injEq, Prod.mk.injEq] at acted
      obtain ⟨rfl, rfl⟩ := acted
      exact .of_unchanged accounted
        ⟨holds.1, .of_not_sent (holds.2 _)⟩
    · contradiction
  · simp only [Option.some.injEq, Prod.mk.injEq] at acted
    obtain ⟨rfl, rfl⟩ := acted
    exact returned_consistent accounted holds
  · simp only [Option.some.injEq, Prod.mk.injEq] at acted
    obtain ⟨rfl, rfl⟩ := acted
    exact .of_unchanged accounted trivial
  · split at acted
    · rename_i fresh
      obtain ⟨outbox, insertion, equal⟩ := Option.map_eq_some_iff.mp acted
      simp only [Prod.mk.injEq] at equal
      obtain ⟨rfl, rfl⟩ := equal
      exact enqueue_consistent accounted holds fresh.1 fresh.2 insertion
    · contradiction
  · simp only [Option.some.injEq, Prod.mk.injEq] at acted
    obtain ⟨rfl, rfl⟩ := acted
    have unnoticed (reader : Nat) (work : WorkDb) :
        Unnoticed reader world { world with work := work } :=
      ⟨id, fun _ => id, fun _ _ => id⟩
    exact ⟨⟨accounted.separated, accounted.sends, accounted.rows,
      accounted.known⟩, holds.unnoticed (unnoticed sender _),
      fun other _ => unnoticed other _, fun _ _ found _ _ => found⟩
  · contradiction

end Steps

section Runs

variable {parseUuid : String → Option Uuid}
variable {first last : Pool DeliveryWorld DeliveryStage}

theorem act_noninterference (pool : Pool DeliveryWorld DeliveryStage)
    (sender : Nat) (action : DeliveryAction) (world : DeliveryWorld)
    (stage : Option DeliveryStage)
    (holds : Holds Accounted StageHolds pool)
    (acted : act parseUuid pool.world sender (pool.tasks sender) action =
      some (world, stage)) :
    Accounted world ∧ StageHolds world sender stage ∧
      ∀ other, other ≠ sender → StageHolds world other (pool.tasks other) := by
  have consistent := act_consistent holds.shared (holds.own sender) acted
  exact ⟨consistent.accounted, consistent.own, fun other different =>
    (holds.own other).unnoticed (consistent.others other different)⟩

theorem DeliveryReaches.holds
    (reached : DeliveryReaches parseUuid first last)
    (initially : Holds Accounted StageHolds first) :
    Holds Accounted StageHolds last :=
  Holds.reaches
    (fun pool sender action world stage holds _ acted =>
      act_noninterference pool sender action world stage holds acted)
    reached initially

theorem KeepsFinal.trans {before middle after : OutboundTable}
    (earlier : KeepsFinal before middle) (later : KeepsFinal middle after) :
    KeepsFinal before after := by
  intro outboundId row found closed settled
  exact later outboundId row (earlier outboundId row found closed settled)
    closed settled

end Runs

end OutboundDelivery

end ZaloBot
