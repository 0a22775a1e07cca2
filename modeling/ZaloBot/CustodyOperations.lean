import ZaloBot.CustodyRules

/-!
# Operations that keep custody

Each operation of the receipt lifecycle keeps the receipts in custody.  What an
operation knows about a submission when it ends is stated about its history, so
that it stays true.
-/

namespace ZaloBot

open Sessions

/-- The states a submission reaches only after its ingestion is over. -/
def ReceiptState.isPastIngest : ReceiptState → Bool
  | .pending | .queued => false
  | _ => true

/-- The states a submission reaches only after its extraction is over. -/
def ReceiptState.isPastExtraction : ReceiptState → Bool
  | .reviewRequired | .confirmed | .rejected | .expired | .failedPermanent
  | .deleted => true
  | _ => false

theorem isPastExtraction_of_canTransition (state next : ReceiptState)
    (isPast : state.isPastExtraction = true)
    (legal : canTransition state next = true) :
    next.isPastExtraction = true := by
  cases state <;> cases next <;>
    simp_all [ReceiptState.isPastExtraction, canTransition]

/-- A submission has been in one of certain states. -/
def HasBeen (wanted : ReceiptState → Bool) (store : BotStore) (id : Uuid) :
    Prop :=
  ∃ row, store (.submission id) = some row ∧
    ∃ state ∈ row.history, wanted state = true

/-- A set of states that transitions do not leave is not left. -/
theorem ReceiptPath.closed {history : List ReceiptState}
    {wanted : ReceiptState → Bool} (path : ReceiptPath history)
    (stays : ∀ state next, wanted state = true →
      canTransition state next = true → wanted next = true)
    (never : wanted .pending = false) {state : ReceiptState}
    (member : state ∈ history) (isWanted : wanted state = true) :
    ∃ current ∈ history.head?, wanted current = true := by
  induction path with
  | pending =>
      rw [List.mem_singleton.mp member, never] at isWanted
      contradiction
  | @step current next earlier path legal ih =>
      rcases List.mem_cons.mp member with rfl | earlierMem
      · exact ⟨state, rfl, isWanted⟩
      · obtain ⟨found, isHead, holds⟩ := ih earlierMem
        cases isHead
        exact ⟨next, rfl, stays current next holds legal⟩

section Facts

variable {noCancel : Prop} {before after store : BotStore} {id : Uuid}
variable {row : SubmissionRow} {wanted : ReceiptState → Bool}

theorem HasBeen.advances (hasBeen : HasBeen wanted before id)
    (moves : CustodyAdvances before after) : HasBeen wanted after id := by
  obtain ⟨row, present, state, member, isWanted⟩ := hasBeen
  obtain ⟨next, found, _, grown, _⟩ := moves.submissions id row present
  exact ⟨next, found, state, grown.mem member, isWanted⟩

theorem Custody.hasBeen (holds : Custody noCancel store)
    (present : store (.submission id) = some row)
    (isWanted : wanted row.state = true) : HasBeen wanted store id :=
  ⟨row, present, row.state, List.mem_of_mem_head?
    (holds.submissions id row present).legal.current, isWanted⟩

theorem Custody.wasStored (holds : Custody noCancel store)
    (present : store (.submission id) = some row)
    (hasBeen : row.state.hasBeenStored = true) : WasStored store id :=
  ⟨row, present, (holds.submissions id row present).underway hasBeen⟩

theorem WasStored.pastIngest (stored : WasStored store id) :
    HasBeen ReceiptState.isPastIngest store id := by
  obtain ⟨row, present, member⟩ := stored
  exact ⟨row, present, .stored, member, rfl⟩

/-- A submission that has been ingested is not queued. -/
theorem Custody.not_queued (holds : Custody noCancel store)
    (past : HasBeen ReceiptState.isPastIngest store id)
    (present : store (.submission id) = some row) :
    row.state ≠ .queued := by
  intro isQueued
  obtain ⟨found, isFound, state, member, isPast⟩ := past
  rw [present] at isFound
  cases isFound
  rw [((holds.submissions id row present).queued isQueued).1] at member
  rcases List.mem_pair.mp member with rfl | rfl <;> contradiction

/-- A submission that has been extracted does not wait for it. -/
theorem Custody.not_awaiting (holds : Custody noCancel store)
    (past : HasBeen ReceiptState.isPastExtraction store id)
    (present : store (.submission id) = some row) :
    row.state.awaitsExtraction = false := by
  obtain ⟨found, isFound, state, member, isPast⟩ := past
  rw [present] at isFound
  cases isFound
  have legal := (holds.submissions id row present).legal
  obtain ⟨current, isHead, isPast⟩ := legal.path.closed
    isPastExtraction_of_canTransition rfl member isPast
  rw [legal.current] at isHead
  cases isHead
  revert isPast
  cases row.state <;>
    simp [ReceiptState.isPastExtraction, ReceiptState.awaitsExtraction]

/-- A submission of an account, at an earlier time. -/
def Owns (id accountId : Uuid) (store : BotStore) : Prop :=
  ∃ row, store (.submission id) = some row ∧ row.accountId = accountId

theorem Owns.advances {accountId : Uuid} (owns : Owns id accountId before)
    (moves : CustodyAdvances before after) : Owns id accountId after := by
  obtain ⟨row, present, owner⟩ := owns
  obtain ⟨next, found, sameOwner, _⟩ := moves.submissions id row present
  exact ⟨next, found, sameOwner.trans owner⟩

/-- The account of a submission is active. -/
theorem Custody.account_active {accountId : Uuid}
    (holds : Custody noCancel store) (owns : Owns id accountId store) :
    AccountActive store accountId := by
  obtain ⟨row, present, rfl⟩ := owns
  exact (holds.submissions id row present).active

end Facts

namespace Receipts

variable {Value : Type} {permitted : ReceiptEvent → Prop} {noCancel : Prop}
variable {own : Overlay BotRow} {store : BotStore} {now : Timestamp}
variable {submissionId accountId : Uuid}

/-- The commit of a transaction that has written nothing in custody. -/
theorem wp_commitTended {event : ReceiptEvent}
    {post : Unit → Overlay BotRow → BotStore → Prop}
    (tends : Tends noCancel store own)
    (after : ∀ later, Custody noCancel later →
      CustodyAdvances (own.view store) later → post () Overlay.none later) :
    (custodyRules ReceiptEvent permitted noCancel).wp (commit event) own store
      post :=
  wp_commitCustody tends.progress after

theorem custody_failQueued {errorClass : ErrorClass}
    (holds : Custody noCancel store) :
    (custodyRules ReceiptEvent permitted noCancel).wp
      (failQueued now submissionId accountId errorClass) Overlay.none store
      fun _ last _ => last = Overlay.none := by
  unfold failQueued
  rw [Discipline.wp_monad_bind]
  refine wp_loadSubmissionForUpdate trivial trivial fun row present _ => ?_
  split
  · exact wp_commitTended (.refl holds) fun _ _ _ => rfl
  split
  · trivial
  rw [Discipline.wp_monad_bind]
  refine wp_transitionTended (.refl holds) ?_ ?_ ?_ ?_ ?_
  · rintro ⟨⟩
  · rintro ⟨⟩
  · rintro ⟨⟩
  · rintro _ ⟨⟩
  exact fun _ last tends _ _ _ _ => wp_commitTended tends fun _ _ _ => rfl

theorem custody_markFailure {errorClass : ErrorClass}
    (holds : Custody noCancel store) :
    (custodyRules ReceiptEvent permitted noCancel).wp (markFailure now
      submissionId accountId .failedPermanent errorClass) Overlay.none store
      fun _ last _ => last = Overlay.none := by
  unfold markFailure
  rw [Discipline.wp_monad_bind]
  refine wp_loadSubmissionForUpdate trivial trivial fun row present _ => ?_
  split
  · rw [Discipline.wp_monad_bind]
    refine wp_transitionTended (.refl holds) ?_ ?_ ?_ ?_ ?_
    · rintro ⟨⟩
    · rintro ⟨⟩
    · rintro ⟨⟩
    · rintro _ ⟨⟩
    exact fun _ last tends _ _ _ _ => wp_commitTended tends fun _ _ _ => rfl
  · exact wp_commitTended (.refl holds) fun _ _ _ => rfl

/-- A submission that has been absorbed as a duplicate of another one. -/
def Absorbed (store : BotStore) (id accountId original : Uuid) : Prop :=
  ∃ row, store (.submission id) = some row ∧ row.accountId = accountId ∧
    .failedPermanent ∈ row.history ∧
    row.duplicateOfSubmissionId = some original

theorem Absorbed.advances {before after : BotStore} {original : Uuid}
    (absorbed : Absorbed before submissionId accountId original)
    (moves : CustodyAdvances before after) :
    Absorbed after submissionId accountId original := by
  obtain ⟨row, present, owner, member, names⟩ := absorbed
  obtain ⟨next, found, sameOwner, grown, named⟩ :=
    moves.submissions submissionId row present
  exact ⟨next, found, sameOwner.trans owner, grown.mem member,
    named original names⟩

theorem custody_absorbDuplicate {original : Uuid}
    (holds : Custody noCancel store)
    (hasAsset : HasAsset store original accountId) :
    (custodyRules ReceiptEvent permitted noCancel).wp (absorbDuplicate now
      submissionId accountId original) Overlay.none store
      fun _ last later => last = Overlay.none ∧ Custody noCancel later ∧
        CustodyAdvances store later ∧
        Absorbed later submissionId accountId original := by
  unfold absorbDuplicate
  rw [Discipline.wp_monad_bind]
  refine wp_loadSubmissionForUpdate trivial trivial fun row present owner => ?_
  split
  · rename_i already
    refine wp_commitTended (.refl holds) fun later holdsLater moves => ?_
    have current := List.mem_of_mem_head?
      (holds.submissions submissionId row present).legal.current
    rw [already.2] at current
    have absorbed : Absorbed store submissionId accountId original :=
      ⟨row, present, owner, current, already.1⟩
    exact ⟨rfl, holdsLater, moves, absorbed.advances moves⟩
  · rw [Discipline.wp_monad_bind]
    refine wp_transitionTended (.refl holds) ?_ ?_ ?_ ?_ ?_
    · rintro ⟨⟩
    · rintro ⟨⟩
    · rintro ⟨⟩
    · rintro other ⟨⟩
      exact ⟨rfl, hasAsset⟩
    · intro moved last tends found sameOwner member names
      refine wp_commitTended tends fun later holdsLater moves => ?_
      have absorbed : Absorbed (last.view store) submissionId accountId
          original :=
        ⟨moved, found, sameOwner, member, names original rfl⟩
      exact ⟨rfl, holdsLater, tends.advances.trans moves,
        absorbed.advances moves⟩

section Extraction

variable {config : ReceiptConfig} {environment : ExtractEnvironment}

/-- What is known when the claim of an extraction has ended. -/
def ClaimKnown (submissionId accountId : Uuid)
    (claimed : Option ExtractOutcome) (store : BotStore) : Prop :=
  if claimed.isSome then
    HasBeen ReceiptState.isPastExtraction store submissionId
  else
    Owns submissionId accountId store

theorem custody_claimExtracting (holds : Custody noCancel store) :
    (custodyRules ReceiptEvent permitted noCancel).wp
      (claimExtracting now accountId submissionId) Overlay.none store
      fun claimed last later => last = Overlay.none ∧ Custody noCancel later ∧
        ClaimKnown submissionId accountId claimed later := by
  unfold claimExtracting
  rw [Discipline.wp_monad_bind]
  refine wp_loadSubmissionForUpdate trivial trivial fun row present owner => ?_
  have owns : Owns submissionId accountId store := ⟨row, present, owner⟩
  split
  · rename_i inReview
    rw [Discipline.wp_monad_bind]
    refine wp_commitTended (.refl holds) fun later holdsLater moves => ?_
    exact ⟨rfl, holdsLater, (holds.hasBeen present
      (by rw [inReview]; rfl)).advances moves⟩
  split
  · rename_i terminal
    rw [Discipline.wp_monad_bind]
    refine wp_commitTended (.refl holds) fun later holdsLater moves => ?_
    refine ⟨rfl, holdsLater, (holds.hasBeen present ?_).advances moves⟩
    revert terminal
    cases row.state <;>
      simp [ReceiptState.isTerminal, ReceiptState.isPastExtraction]
  split
  · rename_i ready
    rw [Discipline.wp_monad_bind]
    refine wp_transitionTended (.refl holds) ?_ ?_ ?_ ?_ ?_
    · rintro ⟨⟩
    · rintro ⟨⟩
    · rintro ⟨⟩
    · rintro _ ⟨⟩
    intro moved last tends found sameOwner _ _
    rw [Discipline.wp_monad_bind]
    refine wp_commitTended tends fun later holdsLater moves => ?_
    exact ⟨rfl, holdsLater, Owns.advances ⟨moved, found, sameOwner⟩ moves⟩
  split
  · rw [Discipline.wp_monad_bind]
    refine wp_commitTended (.refl holds) fun later holdsLater moves => ?_
    exact ⟨rfl, holdsLater, owns.advances moves⟩
  · trivial

theorem custody_persistExtractionSuccess {draftId : Uuid}
    {extraction : ExtractionResult} (holds : Custody noCancel store) :
    (custodyRules ReceiptEvent permitted noCancel).wp
      (persistExtractionSuccess config now draftId accountId submissionId
        extraction) Overlay.none store
      fun _ last later => last = Overlay.none ∧
        HasBeen ReceiptState.isPastExtraction later submissionId := by
  unfold persistExtractionSuccess
  rw [Discipline.wp_monad_bind]
  refine wp_loadSubmissionForUpdate trivial trivial fun row present _ => ?_
  split
  · rename_i inReview
    rw [Discipline.wp_monad_bind]
    refine wp_commitTended (.refl holds) fun later _ moves => ?_
    exact ⟨rfl, (holds.hasBeen present (by rw [inReview]; rfl)).advances
      moves⟩
  split
  · rename_i terminal
    intro later isLater
    refine ⟨rfl, (holds.hasBeen present ?_).advances isLater.advances⟩
    revert terminal
    cases row.state <;>
      simp [ReceiptState.isTerminal, ReceiptState.isPastExtraction]
  split
  · exact fun _ _ => trivial
  rw [Discipline.wp_monad_bind]
  refine wp_outsideCustody (within_query _ _) fun attempts last leaves => ?_
  have tends := tends_of_leaves holds leaves
  rw [Discipline.wp_monad_bind]
  refine wp_outsideCustody (within_recordExtractionAttempt not_false)
    fun _ last leaves => ?_
  have tends := tends.leaves leaves
  rw [Discipline.wp_monad_bind]
  refine wp_outsideCustody (within_upsertDraft not_false)
    fun _ last leaves => ?_
  rw [Discipline.wp_monad_bind]
  refine wp_transitionTended (tends.leaves leaves) ?_ ?_ ?_ ?_ ?_
  · rintro ⟨⟩
  · rintro ⟨⟩
  · rintro ⟨⟩
  · rintro _ ⟨⟩
  intro moved last tends found _ member _
  rw [Discipline.wp_monad_bind]
  refine wp_commitTended tends fun later _ moves => ?_
  exact ⟨rfl, HasBeen.advances ⟨moved, found, _, member, rfl⟩ moves⟩

theorem custody_persistExtractionFailure {errorClass : ErrorClass}
    {terminalState : ReceiptState} (holds : Custody noCancel store) :
    (custodyRules ReceiptEvent permitted noCancel).wp
      (persistExtractionFailure now accountId submissionId errorClass
        terminalState) Overlay.none store
      fun _ last _ => last = Overlay.none := by
  unfold persistExtractionFailure
  rw [Discipline.wp_monad_bind]
  refine wp_loadSubmissionForUpdate trivial trivial fun row present _ => ?_
  split
  · exact fun _ _ => rfl
  rw [Discipline.wp_monad_bind]
  refine wp_outsideCustody (within_query _ _) fun attempts last leaves => ?_
  have tends := tends_of_leaves holds leaves
  rw [Discipline.wp_monad_bind]
  refine wp_outsideCustody (within_recordExtractionAttempt not_false)
    fun _ last leaves => ?_
  have tends := tends.leaves leaves
  rw [Discipline.wp_monad_bind]
  by_cases legal : canTransition .extracting terminalState = true
  · refine wp_transitionTended tends ?_ ?_ ?_ ?_ ?_
    · rintro rfl
      contradiction
    · rintro rfl
      contradiction
    · rintro ⟨⟩ ⟨⟩
    · rintro _ ⟨⟩
    · exact fun _ last tends _ _ _ _ => wp_commitTended tends
        fun _ _ _ => rfl
  · unfold transitionState
    rw [if_neg legal]
    trivial

/-- The answer of a part that only reads, or its error. -/
theorem wp_attemptReads {part : Operation Value}
    {fails : ReceiptFailure → Prop}
    {post : Except ReceiptFailure Value → Overlay BotRow → BotStore → Prop}
    (holds : Custody noCancel store)
    (reads : part.WritesWithin (fun _ => False) fails)
    (after : ∀ outcome later, Custody noCancel later →
      CustodyAdvances store later → post outcome Overlay.none later) :
    (custodyRules ReceiptEvent permitted noCancel).wp part.attempt
      Overlay.none store post := by
  rw [Discipline.wp_attempt]
  refine Discipline.wp_mono ?_ (Discipline.wp_frame ?_ reads)
  · rintro value last final ⟨rfl, kept⟩
    obtain rfl : last = Overlay.none :=
      funext fun key => kept key not_false
    exact after _ _ holds (.refl _)
  · intro error _ later isLater
    exact after _ _ isLater.invariant isLater.advances

theorem custody_extractClaimed (holds : Custody noCancel store) :
    (custodyRules ReceiptEvent permitted noCancel).wp
      (extractClaimed config environment accountId submissionId) Overlay.none
      store fun outcome last later => last = Overlay.none ∧
        (outcome ≠ .unsupported →
          HasBeen ReceiptState.isPastExtraction later submissionId) := by
  unfold extractClaimed
  rw [Discipline.wp_monad_bind]
  refine wp_attemptReads holds within_readAndExtract
    fun extracted later holds _ => ?_
  cases extracted with
  | error error =>
      dsimp only
      rw [Discipline.wp_monad_bind]
      exact Discipline.wp_mono (fun _ _ _ _ => trivial)
        (custody_persistExtractionFailure holds)
  | ok extraction =>
      dsimp only
      split
      · rw [Discipline.wp_monad_bind]
        refine Discipline.wp_mono ?_ (custody_persistExtractionFailure holds)
        exact fun _ _ _ nothing => ⟨nothing, fun supported =>
          absurd rfl supported⟩
      · refine Discipline.wp_mono ?_ (custody_persistExtractionSuccess holds)
        exact fun _ _ _ facts => ⟨facts.1, fun _ => facts.2⟩

theorem custody_extract (holds : Custody noCancel store) :
    (custodyRules ReceiptEvent permitted noCancel).wp
      (extract config environment accountId submissionId) Overlay.none store
      fun outcome last later => last = Overlay.none ∧
        (outcome ≠ .unsupported →
          HasBeen ReceiptState.isPastExtraction later submissionId) := by
  unfold extract
  rw [Discipline.wp_monad_bind]
  refine Discipline.wp_mono ?_ (custody_claimExtracting holds)
  rintro claimed last store ⟨rfl, holds, known⟩
  cases claimed with
  | some outcome => exact ⟨rfl, fun _ => known⟩
  | none =>
      dsimp only
      rw [Discipline.wp_monad_bind]
      refine Discipline.wp_query trivial fun older earlier => ?_
      have active := holds.account_active known
      rw [AccountActive, earlier.advances.accounts] at active
      obtain ⟨account, isAccount, isActive⟩ := active
      have answered : ((Overlay.none : Overlay BotRow).view older
          (.account accountId)).any (·.lifecycleState = .active) = true := by
        rw [Overlay.none_view, isAccount]
        simpa using isActive
      rw [if_pos answered]
      split
      case isFalse =>
        rw [Discipline.wp_monad_bind]
        exact Discipline.wp_mono (fun _ _ _ _ => trivial)
          (custody_persistExtractionFailure holds)
      rw [Discipline.wp_monad_bind]
      refine wp_outsideCustody (within_incrementInTransaction not_false)
        fun counter last leaves => ?_
      rw [Discipline.wp_monad_bind]
      refine wp_commitCustody (tends_of_leaves holds leaves).progress
        fun later holds moves => ?_
      split
      · rw [Discipline.wp_monad_bind]
        exact Discipline.wp_mono (fun _ _ _ _ => trivial)
          (custody_persistExtractionFailure holds)
      · exact custody_extractClaimed holds

end Extraction

end Receipts

end ZaloBot
