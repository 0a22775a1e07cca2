import ZaloBot.ReceiptStatementRules

/-!
# The discipline of the receipt lifecycle

The invariant that all operations of the receipt lifecycle keep, the order in
which they move submissions and drafts, and what their commits guarantee.  A
transaction is in order as long as the rows it sees satisfy the invariant and
are ahead of the committed ones; every kind of change of a transaction has a
lemma that says when it keeps this.
-/

namespace ZaloBot

open Sessions

/-- The sequences of states, latest first, that start at `pending` and follow
`canTransition`. -/
inductive ReceiptPath : List ReceiptState → Prop where
  | pending : ReceiptPath [.pending]
  | step {current next : ReceiptState} {earlier : List ReceiptState}
      (path : ReceiptPath (current :: earlier))
      (legal : canTransition current next = true) :
      ReceiptPath (next :: current :: earlier)

/-- A terminal state is followed by `deleted` at most. -/
theorem ReceiptPath.head_of_terminal {history : List ReceiptState}
    (path : ReceiptPath history) {state : ReceiptState}
    (member : state ∈ history) (terminal : state.isTerminal = true) :
    history.head? = some state ∨ history.head? = some .deleted := by
  induction path with
  | pending =>
      rw [List.mem_singleton.mp member] at terminal
      contradiction
  | @step current next earlier path legal ih =>
      rcases List.mem_cons.mp member with rfl | earlierMem
      · exact Or.inl rfl
      · rcases ih earlierMem with isCurrent | isDeleted
        · obtain rfl : current = state := by simpa using isCurrent
          have deleted := (canTransition_of_isTerminal terminal legal).1
          exact Or.inr (by rw [deleted]; rfl)
        · obtain rfl : current = .deleted := by simpa using isDeleted
          exact absurd rfl (canTransition_of_isTerminal rfl legal).2

namespace SubmissionRow

/-- A row whose columns and history fit its state. -/
structure Legal (id : Uuid) (row : SubmissionRow) : Prop where
  checks : row.satisfiesChecks id = true
  path : ReceiptPath row.history
  current : row.history.head? = some row.state

theorem legal_new (id accountId : Uuid) (inboundEventId : Option Uuid) :
    (new accountId inboundEventId).Legal id :=
  ⟨rfl, .pending, rfl⟩

theorem Legal.transitioned {id : Uuid} {row : SubmissionRow}
    {now : Timestamp} {next : ReceiptState}
    {failureErrorClass : Option String} {reviewExpiryHours : Option Int}
    {confirmedExpenseId duplicateOfSubmissionId : Option Uuid}
    (legal : row.Legal id) (moves : canTransition row.state next = true)
    (checks : (row.transitioned now next failureErrorClass reviewExpiryHours
      confirmedExpenseId duplicateOfSubmissionId).satisfiesChecks id =
        true) :
    (row.transitioned now next failureErrorClass reviewExpiryHours
      confirmedExpenseId duplicateOfSubmissionId).Legal id := by
  refine ⟨checks, ?_, rfl⟩
  have path := legal.path
  have current := legal.current
  change ReceiptPath (next :: row.history)
  cases sequence : row.history with
  | nil => simp [sequence] at current
  | cons head earlier =>
      rw [sequence] at path current
      obtain rfl : head = row.state := by simpa using current
      exact .step path moves

/-- A state whose row has been terminal is terminal. -/
theorem Legal.state_of_terminal {id : Uuid} {row : SubmissionRow}
    (legal : row.Legal id) {state : ReceiptState}
    (member : state ∈ row.history) (terminal : state.isTerminal = true) :
    row.state = state ∨ row.state = .deleted := by
  have head := legal.path.head_of_terminal member terminal
  rw [legal.current] at head
  simpa using head

theorem satisfiesChecks_iff {id : Uuid} {row : SubmissionRow} :
    row.satisfiesChecks id = true ↔
      0 < row.version ∧ row.duplicateOfSubmissionId ≠ some id ∧
      (row.state = .confirmed → row.confirmedExpenseId.isSome) ∧
      (row.confirmedExpenseId.isSome →
        row.state = .confirmed ∨ row.state = .deleted) ∧
      (row.state = .reviewRequired → row.reviewExpiresAt.isSome) ∧
      (row.failureErrorClass.isSome → row.state = .failedTransient ∨
        row.state = .failedPermanent ∨ row.state = .deleted) ∧
      (row.duplicateOfSubmissionId.isSome →
        row.state = .failedPermanent ∨ row.state = .deleted) := by
  simp only [satisfiesChecks, Bool.and_eq_true, Bool.or_eq_true,
    decide_eq_true_eq]
  grind [Option.isNone_iff_eq_none, Option.isSome_iff_ne_none]

/-- A submission under review names no expense. -/
theorem Legal.unnamed {id : Uuid} {row : SubmissionRow}
    (legal : row.Legal id) (inReview : row.state = .reviewRequired) :
    row.confirmedExpenseId = none := by
  have booked := (satisfiesChecks_iff.mp legal.checks).2.2.2.1
  rw [inReview] at booked
  simpa using booked

/-- The columns carried over and the columns set by a transition satisfy the
checks of the new state. -/
theorem satisfiesChecks_transitioned {id : Uuid} {row : SubmissionRow}
    {now : Timestamp} {next : ReceiptState}
    {failureErrorClass : Option String} {reviewExpiryHours : Option Int}
    {confirmedExpenseId duplicateOfSubmissionId : Option Uuid}
    (checks : row.satisfiesChecks id = true)
    (legal : canTransition row.state next = true)
    (expense : confirmedExpenseId.isSome ↔ next = .confirmed)
    (expiry : next = .reviewRequired → reviewExpiryHours.isSome)
    (duplicate : ∀ original, duplicateOfSubmissionId = some original →
      next = .failedPermanent ∧ original ≠ id) :
    (row.transitioned now next failureErrorClass reviewExpiryHours
      confirmedExpenseId duplicateOfSubmissionId).satisfiesChecks id =
        true := by
  have finished (terminal : row.state.isTerminal = true) : next = .deleted :=
    (canTransition_of_isTerminal terminal legal).1
  obtain ⟨version, notOwn, _, booked, _, _, copied⟩ :=
    satisfiesChecks_iff.mp checks
  refine satisfiesChecks_iff.mpr ⟨?_, ?_, ?_, ?_, ?_, ?_, ?_⟩
  · exact Int.lt_add_one_of_le (Int.le_of_lt version)
  · cases duplicateOfSubmissionId with
    | none => exact notOwn
    | some original =>
        simpa [transitioned] using (duplicate original rfl).2
  · intro isConfirmed
    have given := expense.mpr isConfirmed
    simp [transitioned, given]
  · cases confirmedExpenseId with
    | some expenseId => exact fun _ => Or.inl (expense.mp rfl)
    | none =>
        intro carried
        refine Or.inr (finished ?_)
        rcases booked carried with isConfirmed | isDeleted
        · rw [isConfirmed]
          rfl
        · rw [isDeleted]
          rfl
  · intro isReview
    obtain ⟨hours, rfl⟩ := Option.isSome_iff_exists.mp (expiry isReview)
    rfl
  · cases next <;> simp [transitioned]
  · cases duplicateOfSubmissionId with
    | some original => exact fun _ => Or.inl (duplicate original rfl).1
    | none =>
        intro carried
        refine Or.inr (finished ?_)
        rcases copied carried with isPermanent | isDeleted
        · rw [isPermanent]
          rfl
        · rw [isDeleted]
          rfl

end SubmissionRow

/-- What holds of the receipts in every committed state. -/
structure ReceiptInvariant (store : BotStore) : Prop where
  legal : ∀ id row, store (.submission id) = some row → row.Legal id
  stored : ∀ id row, store (.submission id) = some row →
    .stored ∈ row.history → (store (.asset id)).isSome
  confirmed : ∀ id row, store (.submission id) = some row →
    .confirmed ∈ row.history → ∃ expenseId,
      row.confirmedExpenseId = some expenseId ∧
      store (.receiptExpense id) = some expenseId
  indexed : ∀ id expenseId, store (.receiptExpense id) = some expenseId →
    (∃ row, store (.submission id) = some row ∧ .confirmed ∈ row.history) ∧
    ∃ expense, store (.expense expenseId) = some expense ∧
      expense.receiptSubmissionId = some id
  referred : ∀ id expenseId expense,
    store (.expense expenseId) = some expense →
    expense.receiptSubmissionId = some id →
      store (.receiptExpense id) = some expenseId

/-- How the receipts move: histories grow, expenses stay booked, and draft
versions do not decrease. -/
structure ReceiptAdvances (before after : BotStore) : Prop where
  submissions : ∀ id row, before (.submission id) = some row →
    ∃ next, after (.submission id) = some next ∧
      row.history <:+ next.history ∧
      ∀ expenseId, row.confirmedExpenseId = some expenseId →
        next.confirmedExpenseId = some expenseId
  drafts : ∀ id draft, before (.draft id) = some draft →
    ∃ next, after (.draft id) = some next ∧ draft.version ≤ next.version

namespace ReceiptAdvances

theorem refl (store : BotStore) : ReceiptAdvances store store where
  submissions _ row present :=
    ⟨row, present, List.suffix_refl _, fun _ booked => booked⟩
  drafts _ draft present := ⟨draft, present, Int.le_refl _⟩

theorem trans {first middle last : BotStore}
    (begun : ReceiptAdvances first middle)
    (ended : ReceiptAdvances middle last) : ReceiptAdvances first last where
  submissions id row present := by
    obtain ⟨next, found, grown, kept⟩ := begun.submissions id row present
    obtain ⟨final, foundFinal, grownFinal, keptFinal⟩ :=
      ended.submissions id next found
    exact ⟨final, foundFinal, grown.trans grownFinal,
      fun expenseId booked => keptFinal expenseId (kept expenseId booked)⟩
  drafts id draft present := by
    obtain ⟨next, found, older⟩ := begun.drafts id draft present
    obtain ⟨final, foundFinal, olderFinal⟩ := ended.drafts id next found
    exact ⟨final, foundFinal, Int.le_trans older olderFinal⟩

theorem of_undisturbed {before after : BotStore}
    (same : ReceiptsUndisturbed before after) :
    ReceiptAdvances before after where
  submissions id row present :=
    ⟨row, (same.submissions id).trans present, List.suffix_refl _,
      fun _ booked => booked⟩
  drafts id draft present :=
    ⟨draft, (same.drafts id).trans present, Int.le_refl _⟩

end ReceiptAdvances

theorem ReceiptInvariant.undisturbed {before after : BotStore}
    (holds : ReceiptInvariant before)
    (same : ReceiptsUndisturbed before after) : ReceiptInvariant after where
  legal id row present :=
    holds.legal id row ((same.submissions id).symm.trans present)
  stored id row present member :=
    same.assets id
      (holds.stored id row ((same.submissions id).symm.trans present) member)
  confirmed id row present member := by
    rw [same.receiptExpenses]
    exact holds.confirmed id row ((same.submissions id).symm.trans present)
      member
  indexed id expenseId present := by
    rw [same.submissions, same.expenses]
    exact holds.indexed id expenseId
      ((same.receiptExpenses id).symm.trans present)
  referred id expenseId expense present refers := by
    rw [same.receiptExpenses]
    exact holds.referred id expenseId expense
      ((same.expenses expenseId).symm.trans present) refers

/-- The rows a transaction sees are in order, and ahead of the committed
ones. -/
structure ReceiptProgress (before view : BotStore) : Prop where
  invariant : ReceiptInvariant view
  advances : ReceiptAdvances before view

namespace ReceiptProgress

variable {committed store : BotStore} {own : Overlay BotRow} {id : Uuid}

theorem refl (holds : ReceiptInvariant store) : ReceiptProgress store store :=
  ⟨holds, .refl store⟩

theorem trans {first middle last : BotStore}
    (begun : ReceiptProgress first middle)
    (ended : ReceiptProgress middle last) : ReceiptProgress first last :=
  ⟨ended.invariant, begun.advances.trans ended.advances⟩

theorem undisturbed {view after : BotStore}
    (progress : ReceiptProgress committed view)
    (same : ReceiptsUndisturbed view after) :
    ReceiptProgress committed after :=
  ⟨progress.invariant.undisturbed same,
    progress.advances.trans (.of_undisturbed same)⟩

/-- A new row for a submission, with no change of its expense. -/
theorem submission {updated : SubmissionRow} {after : BotStore}
    (progress : ReceiptProgress committed (own.view store))
    (legal : updated.Legal id)
    (grown : ∀ row, own.view store (.submission id) = some row →
      row.history <:+ updated.history ∧
      ∀ expenseId, row.confirmedExpenseId = some expenseId →
        updated.confirmedExpenseId = some expenseId)
    (same : ReceiptsUndisturbed
      ((own.set (.submission id) (some updated)).view store) after)
    (stored : .stored ∈ updated.history → (after (.asset id)).isSome)
    (confirmed : .confirmed ∈ updated.history → ∃ expenseId,
      updated.confirmedExpenseId = some expenseId ∧
      own.view store (.receiptExpense id) = some expenseId) :
    ReceiptProgress committed after := by
  have holds := progress.invariant
  have written : after (.submission id) = some updated := by
    rw [same.submissions, Overlay.set_view_self]
  have others (other : Uuid) (different : other ≠ id) :
      after (.submission other) = own.view store (.submission other) := by
    rw [same.submissions, Overlay.set_view_other (by simpa using different)]
  have drafts (other : Uuid) :
      after (.draft other) = own.view store (.draft other) := by
    rw [same.drafts, Overlay.set_view_other (by simp)]
  have expenses (other : Uuid) :
      after (.expense other) = own.view store (.expense other) := by
    rw [same.expenses, Overlay.set_view_other (by simp)]
  have receiptExpenses (other : Uuid) : after (.receiptExpense other) =
      own.view store (.receiptExpense other) := by
    rw [same.receiptExpenses, Overlay.set_view_other (by simp)]
  have assets (other : Uuid)
      (present : (own.view store (.asset other)).isSome) :
      (after (.asset other)).isSome := by
    refine same.assets other ?_
    rwa [Overlay.set_view_other (by simp)]
  refine ⟨⟨?_, ?_, ?_, ?_, ?_⟩, progress.advances.trans ⟨?_, ?_⟩⟩
  · intro other row present
    by_cases isId : other = id
    · subst isId
      rw [written] at present
      cases present
      exact legal
    · rw [others other isId] at present
      exact holds.legal other row present
  · intro other row present member
    by_cases isId : other = id
    · subst isId
      rw [written] at present
      cases present
      exact stored member
    · rw [others other isId] at present
      exact assets other (holds.stored other row present member)
  · intro other row present member
    rw [receiptExpenses]
    by_cases isId : other = id
    · subst isId
      rw [written] at present
      cases present
      exact confirmed member
    · rw [others other isId] at present
      exact holds.confirmed other row present member
  · intro other expenseId present
    rw [receiptExpenses] at present
    obtain ⟨⟨row, found, member⟩, booked⟩ :=
      holds.indexed other expenseId present
    rw [expenses]
    refine ⟨?_, booked⟩
    by_cases isId : other = id
    · subst isId
      exact ⟨updated, written, (grown row found).1.mem member⟩
    · exact ⟨row, (others other isId).trans found, member⟩
  · intro other expenseId expense present refers
    rw [expenses] at present
    rw [receiptExpenses]
    exact holds.referred other expenseId expense present refers
  · intro other row present
    by_cases isId : other = id
    · subst isId
      exact ⟨updated, written, grown row present⟩
    · exact ⟨row, (others other isId).trans present, List.suffix_refl _,
        fun _ booked => booked⟩
  · intro other draft present
    exact ⟨draft, (drafts other).trans present, Int.le_refl _⟩

/-- A transition to a state other than `confirmed`. -/
theorem transition {row : SubmissionRow} {after : BotStore}
    {now : Timestamp} {next : ReceiptState}
    {failureErrorClass : Option String} {reviewExpiryHours : Option Int}
    {duplicateOfSubmissionId : Option Uuid}
    (progress : ReceiptProgress committed (own.view store))
    (present : own.view store (.submission id) = some row)
    (moves : canTransition row.state next = true)
    (checks : (row.transitioned now next failureErrorClass reviewExpiryHours
      none duplicateOfSubmissionId).satisfiesChecks id = true)
    (unconfirmed : next ≠ .confirmed)
    (same : ReceiptsUndisturbed
      ((own.set (.submission id) (some (row.transitioned now next
        failureErrorClass reviewExpiryHours none
        duplicateOfSubmissionId))).view store) after)
    (stored : next = .stored → (after (.asset id)).isSome) :
    ReceiptProgress committed after := by
  have holds := progress.invariant
  refine progress.submission
    ((holds.legal id row present).transitioned moves checks) ?_ same ?_ ?_
  · intro other found
    rw [present] at found
    cases found
    exact ⟨List.suffix_cons _ _, fun expenseId booked => booked⟩
  · intro member
    rcases List.mem_cons.mp member with isNext | earlier
    · exact stored isNext.symm
    · refine same.assets id ?_
      rw [Overlay.set_view_other (by simp)]
      exact holds.stored id row present earlier
  · intro member
    rcases List.mem_cons.mp member with isNext | earlier
    · exact absurd isNext.symm unconfirmed
    · exact holds.confirmed id row present earlier

/-- A new submission. -/
theorem accepted {accountId : Uuid} {inboundEventId : Option Uuid}
    (progress : ReceiptProgress committed (own.view store))
    (free : own.view store (.submission id) = none) :
    ReceiptProgress committed ((own.set (.submission id)
      (some (.new accountId inboundEventId))).view store) := by
  refine progress.submission (SubmissionRow.legal_new _ _ _) ?_ (.refl _) ?_ ?_
  · intro row present
    rw [free] at present
    contradiction
  · intro member
    simp [SubmissionRow.new] at member
  · intro member
    simp [SubmissionRow.new] at member

/-- A draft whose version does not decrease. -/
theorem draft {draft : DraftRow}
    (progress : ReceiptProgress committed (own.view store))
    (newer : ∀ before, own.view store (.draft id) = some before →
      before.version ≤ draft.version) :
    ReceiptProgress committed
      ((own.set (.draft id) (some draft)).view store) := by
  have holds := progress.invariant
  refine ⟨⟨?_, ?_, ?_, ?_, ?_⟩, progress.advances.trans ⟨?_, ?_⟩⟩
  · intro other row present
    rw [Overlay.set_view_other (by simp)] at present
    exact holds.legal other row present
  · intro other row present member
    rw [Overlay.set_view_other (by simp)] at present ⊢
    exact holds.stored other row present member
  · intro other row present member
    rw [Overlay.set_view_other (by simp)] at present ⊢
    exact holds.confirmed other row present member
  · intro other expenseId present
    rw [Overlay.set_view_other (by simp)] at present ⊢
    rw [Overlay.set_view_other (by simp)]
    exact holds.indexed other expenseId present
  · intro other expenseId expense present refers
    rw [Overlay.set_view_other (by simp)] at present ⊢
    exact holds.referred other expenseId expense present refers
  · intro other row present
    rw [Overlay.set_view_other (by simp)]
    exact ⟨row, present, List.suffix_refl _, fun _ booked => booked⟩
  · intro other before present
    by_cases isId : other = id
    · subst isId
      exact ⟨draft, Overlay.set_view_self _ _ _ _, newer before present⟩
    · rw [Overlay.set_view_other (by simpa using isId)]
      exact ⟨before, present, Int.le_refl _⟩

/-- An expense that keeps its submission. -/
theorem expense {expenseId : Uuid} {before after : ExpenseRow}
    (progress : ReceiptProgress committed (own.view store))
    (present : own.view store (.expense expenseId) = some before)
    (kept : after.receiptSubmissionId = before.receiptSubmissionId) :
    ReceiptProgress committed
      ((own.set (.expense expenseId) (some after)).view store) := by
  have holds := progress.invariant
  refine ⟨⟨?_, ?_, ?_, ?_, ?_⟩, progress.advances.trans ⟨?_, ?_⟩⟩
  · intro other row found
    rw [Overlay.set_view_other (by simp)] at found
    exact holds.legal other row found
  · intro other row found member
    rw [Overlay.set_view_other (by simp)] at found ⊢
    exact holds.stored other row found member
  · intro other row found member
    rw [Overlay.set_view_other (by simp)] at found ⊢
    exact holds.confirmed other row found member
  · intro other otherExpense found
    rw [Overlay.set_view_other (by simp)] at found ⊢
    obtain ⟨history, booked, foundBooked, refers⟩ :=
      holds.indexed other otherExpense found
    refine ⟨history, ?_⟩
    by_cases isExpense : otherExpense = expenseId
    · subst isExpense
      rw [present] at foundBooked
      cases foundBooked
      exact ⟨after, Overlay.set_view_self _ _ _ _, kept.trans refers⟩
    · rw [Overlay.set_view_other (by simpa using isExpense)]
      exact ⟨booked, foundBooked, refers⟩
  · intro other otherExpense booked found refers
    rw [Overlay.set_view_other (by simp)]
    by_cases isExpense : otherExpense = expenseId
    · subst isExpense
      rw [Overlay.set_view_self] at found
      cases found
      exact holds.referred other otherExpense before present
        (kept.symm.trans refers)
    · rw [Overlay.set_view_other (by simpa using isExpense)] at found
      exact holds.referred other otherExpense booked found refers
  · intro other row found
    rw [Overlay.set_view_other (by simp)]
    exact ⟨row, found, List.suffix_refl _, fun _ booked => booked⟩
  · intro other draft found
    rw [Overlay.set_view_other (by simp)]
    exact ⟨draft, found, Int.le_refl _⟩

/-- The index entry, the expense and the submission of a confirmation. -/
theorem booking {row updated : SubmissionRow} {expenseId : Uuid}
    {expense : ExpenseRow}
    (progress : ReceiptProgress committed (own.view store))
    (present : own.view store (.submission id) = some row)
    (unbooked : own.view store (.receiptExpense id) = none)
    (fresh : own.view store (.expense expenseId) = none)
    (refers : expense.receiptSubmissionId = some id)
    (legal : updated.Legal id)
    (grown : updated.history = .confirmed :: row.history)
    (unnamed : row.confirmedExpenseId = none)
    (named : updated.confirmedExpenseId = some expenseId) :
    ReceiptProgress committed (((own.set (.receiptExpense id)
      (some expenseId)).set (.expense expenseId) (some expense)).set
      (.submission id) (some updated) |>.view store) := by
  have holds := progress.invariant
  have submissions (other : Uuid) (different : other ≠ id) :
      (((own.set (.receiptExpense id) (some expenseId)).set
        (.expense expenseId) (some expense)).set (.submission id)
        (some updated)).view store (.submission other) =
          own.view store (.submission other) := by
    rw [Overlay.set_view_other (by simpa using different),
      Overlay.set_view_other (by simp), Overlay.set_view_other (by simp)]
  have expenses (other : Uuid) (different : other ≠ expenseId) :
      (((own.set (.receiptExpense id) (some expenseId)).set
        (.expense expenseId) (some expense)).set (.submission id)
        (some updated)).view store (.expense other) =
          own.view store (.expense other) := by
    rw [Overlay.set_view_other (by simp),
      Overlay.set_view_other (by simpa using different),
      Overlay.set_view_other (by simp)]
  have receiptExpenses (other : Uuid) (different : other ≠ id) :
      (((own.set (.receiptExpense id) (some expenseId)).set
        (.expense expenseId) (some expense)).set (.submission id)
        (some updated)).view store (.receiptExpense other) =
          own.view store (.receiptExpense other) := by
    rw [Overlay.set_view_other (by simp), Overlay.set_view_other (by simp),
      Overlay.set_view_other (by simpa using different)]
  have booked : (((own.set (.receiptExpense id) (some expenseId)).set
      (.expense expenseId) (some expense)).set (.submission id)
      (some updated)).view store (.receiptExpense id) = some expenseId := by
    rw [Overlay.set_view_other (by simp), Overlay.set_view_other (by simp),
      Overlay.set_view_self]
  have stored : (((own.set (.receiptExpense id) (some expenseId)).set
      (.expense expenseId) (some expense)).set (.submission id)
      (some updated)).view store (.expense expenseId) = some expense := by
    rw [Overlay.set_view_other (by simp), Overlay.set_view_self]
  have written := Overlay.set_view_self ((own.set (.receiptExpense id)
    (some expenseId)).set (.expense expenseId) (some expense))
    (.submission id) (some updated) store
  refine ⟨⟨?_, ?_, ?_, ?_, ?_⟩, progress.advances.trans ⟨?_, ?_⟩⟩
  · intro other found foundRow
    by_cases isId : other = id
    · subst isId
      rw [written] at foundRow
      cases foundRow
      exact legal
    · rw [submissions other isId] at foundRow
      exact holds.legal other found foundRow
  · intro other found foundRow member
    rw [Overlay.set_view_other (by simp), Overlay.set_view_other (by simp),
      Overlay.set_view_other (by simp)]
    by_cases isId : other = id
    · subst isId
      rw [written] at foundRow
      cases foundRow
      rw [grown] at member
      refine holds.stored other row present ?_
      simpa using member
    · rw [submissions other isId] at foundRow
      exact holds.stored other found foundRow member
  · intro other found foundRow member
    by_cases isId : other = id
    · subst isId
      rw [written] at foundRow
      cases foundRow
      exact ⟨expenseId, named, booked⟩
    · rw [submissions other isId] at foundRow
      rw [receiptExpenses other isId]
      exact holds.confirmed other found foundRow member
  · intro other otherExpense found
    by_cases isId : other = id
    · subst isId
      rw [booked] at found
      cases found
      exact ⟨⟨updated, written, by rw [grown]; simp⟩, expense, stored, refers⟩
    · rw [receiptExpenses other isId] at found
      obtain ⟨history, old, foundOld, oldRefers⟩ :=
        holds.indexed other otherExpense found
      have different : otherExpense ≠ expenseId := by
        rintro rfl
        rw [fresh] at foundOld
        contradiction
      rw [submissions other isId, expenses otherExpense different]
      exact ⟨history, old, foundOld, oldRefers⟩
  · intro other otherExpense found foundRow foundRefers
    by_cases isExpense : otherExpense = expenseId
    · subst isExpense
      rw [stored] at foundRow
      cases foundRow
      rw [refers] at foundRefers
      cases foundRefers
      exact booked
    · rw [expenses otherExpense isExpense] at foundRow
      have entry := holds.referred other otherExpense found foundRow
        foundRefers
      have different : other ≠ id := by
        rintro rfl
        rw [unbooked] at entry
        contradiction
      rw [receiptExpenses other different]
      exact entry
  · intro other found foundRow
    by_cases isId : other = id
    · subst isId
      rw [present] at foundRow
      cases foundRow
      refine ⟨updated, written, ?_, ?_⟩
      · rw [grown]
        exact List.suffix_cons _ _
      · intro otherExpense bookedBefore
        rw [unnamed] at bookedBefore
        contradiction
    · exact ⟨found, (submissions other isId).trans foundRow,
        List.suffix_refl _, fun _ bookedBefore => bookedBefore⟩
  · intro other draft found
    rw [Overlay.set_view_other (by simp), Overlay.set_view_other (by simp),
      Overlay.set_view_other (by simp)]
    exact ⟨draft, found, Int.le_refl _⟩

end ReceiptProgress

/-- A submission awaits review of its draft at a version. -/
def UnderReview (store : BotStore) (submissionId : Uuid) (version : Int) :
    Prop :=
  ∃ row draft, store (.submission submissionId) = some row ∧
    row.state = .reviewRequired ∧
    store (.draft submissionId) = some draft ∧ draft.version = version

/-- The submission has been confirmed or rejected, or its draft is past a
version. -/
def Settled (store : BotStore) (submissionId : Uuid) (version : Int) : Prop :=
  (∃ row, store (.submission submissionId) = some row ∧
    (.confirmed ∈ row.history ∨ .rejected ∈ row.history)) ∨
  ∃ draft, store (.draft submissionId) = some draft ∧ version < draft.version

theorem Settled.advances {before after : BotStore} {submissionId : Uuid}
    {version : Int} (settled : Settled before submissionId version)
    (advances : ReceiptAdvances before after) :
    Settled after submissionId version := by
  rcases settled with ⟨row, present, decided⟩ | ⟨draft, present, past⟩
  · obtain ⟨next, found, grown, _⟩ :=
      advances.submissions submissionId row present
    exact Or.inl ⟨next, found, decided.imp (grown.mem ·) (grown.mem ·)⟩
  · obtain ⟨next, found, newer⟩ := advances.drafts submissionId draft present
    exact Or.inr ⟨next, found, by omega⟩

/-- A settled version is not under review. -/
theorem Settled.not_underReview {store : BotStore} {submissionId : Uuid}
    {version : Int} (settled : Settled store submissionId version)
    (holds : ReceiptInvariant store) :
    ¬ UnderReview store submissionId version := by
  rintro ⟨row, draft, present, inReview, presentDraft, current⟩
  have legal := holds.legal submissionId row present
  rcases settled with ⟨other, found, decided⟩ | ⟨other, found, past⟩
  · rw [present] at found
    cases found
    rcases decided with confirmed | rejected
    · have state := legal.state_of_terminal confirmed rfl
      simp [inReview] at state
    · have state := legal.state_of_terminal rejected rfl
      simp [inReview] at state
  · rw [presentDraft] at found
    cases found
    omega

/-- An expense has what the draft of a receipt says, column by column. -/
structure ExpenseRow.RecordsDraft (expense : ExpenseRow)
    (accountId submissionId : Uuid) (draft : DraftRow) : Prop where
  account : expense.accountId = accountId
  submission : expense.receiptSubmissionId = some submissionId
  amount : expense.amountMinor = draft.amountMinor
  currency : expense.currency = draft.currency
  merchant : expense.description = draft.merchant
  category : expense.categoryKey = draft.categoryKey
  transactionType : expense.transactionType = draft.transactionType
  date : expense.occurredAt = draft.occurredAt
  source : expense.source = .receipt
  state : expense.state = .confirmed
  version : expense.version = 1

theorem Receipts.confirmedExpense_recordsDraft (accountId submissionId : Uuid)
    (draft : DraftRow) :
    (confirmedExpense accountId submissionId draft).RecordsDraft accountId
      submissionId draft :=
  ⟨rfl, rfl, rfl, rfl, rfl, rfl, rfl, rfl, rfl, rfl, rfl⟩

/-- A confirmation that books the draft it names. -/
structure Books (request : ConfirmRequest) (expenseId : Uuid)
    (before after : BotStore) : Prop where
  review : ∃ row, before (.submission request.submissionId) = some row ∧
    row.state = .reviewRequired
  booked : ∃ draft expense,
    before (.draft request.submissionId) = some draft ∧
    draft.version = request.expectedDraftVersion ∧
    after (.expense expenseId) = some expense ∧
    expense.RecordsDraft request.accountId request.submissionId draft
  confirmed : ∃ row, after (.submission request.submissionId) = some row ∧
    row.state = .confirmed ∧ .confirmed ∈ row.history

/-- A confirmation of a submission that is confirmed. -/
structure Repeats (request : ConfirmRequest) (expenseId : Uuid)
    (before after : BotStore) : Prop where
  unchanged : after = before
  confirmed : ∃ row, before (.submission request.submissionId) = some row ∧
    row.state = .confirmed ∧ row.confirmedExpenseId = some expenseId

/-- What the requests of a user commit. -/
def receiptFacts (before : BotStore) (event : ReceiptEvent)
    (after : BotStore) : Prop :=
  match event with
  | .confirm request (.confirmed expenseId) =>
      Books request expenseId before after
  | .confirm request (.alreadyConfirmed expenseId) =>
      Repeats request expenseId before after
  | .reject request =>
      after = before ∨
      (UnderReview before request.submissionId
        request.expectedDraftVersion ∧
      Settled after request.submissionId request.expectedDraftVersion)
  | .edit request =>
      UnderReview before request.submissionId request.expectedVersion ∧
      Settled after request.submissionId request.expectedVersion
  | _ => True

/-- The discipline of the receipt lifecycle, for any condition on errors. -/
def receiptRules (refusal : ReceiptFailure → BotStore → Prop) :
    Discipline BotRow ReceiptEvent ReceiptFailure where
  invariant := ReceiptInvariant
  advances := ReceiptAdvances
  permitted _ _ := True
  guarantee before event after :=
    ReceiptProgress before after ∧ receiptFacts before event after
  refusal := refusal
  advances_refl := .refl
  advances_trans := .trans
  keeps _ guaranteed := ⟨guaranteed.1.invariant, guaranteed.1.advances⟩

end ZaloBot
