import ZaloBot.AmountDescent
import ZaloBot.ParsingPanics

/-!
# Which messages are read without a panic

The messages and amounts that `parse_intent`, `parse_amount` and `decide` end
on, told from the texts themselves.
-/

namespace ZaloBot

namespace Conversation

open RustText

section Keywords

variable {raw lowered keyword : List Char} {keywords : List (List Char)}

/-- An offset between two characters, or at an end of the text. -/
def IsBoundary (text : List Char) (offset : Nat) : Prop :=
  ∃ before after, text = before ++ after ∧ byteLength before = offset

/-- A keyword that is not found, or that is found at the end of the text. -/
def LeavesNothing (raw lowered keyword : List Char) : Prop :=
  ∀ offset, find keyword lowered = some offset →
    ∃ before after, raw = before ++ after ∧
      byteLength before = offset + byteLength keyword ∧ trimChars after = []

/-- The first keyword with something behind it, and those before it, end
between two characters of the text where they end in its lowercase. -/
def KeywordsAlign (raw lowered : List Char) (keywords : List (List Char)) :
    Prop :=
  ∀ earlier keyword later offset, keywords = earlier ++ keyword :: later →
    (∀ other ∈ earlier, LeavesNothing raw lowered other) →
    find keyword lowered = some offset →
    IsBoundary raw (offset + byteLength keyword)

theorem keywordsAlign_cons_iff :
    KeywordsAlign raw lowered (keyword :: keywords) ↔
      (∀ offset, find keyword lowered = some offset →
        IsBoundary raw (offset + byteLength keyword)) ∧
      (LeavesNothing raw lowered keyword →
        KeywordsAlign raw lowered keywords) := by
  constructor
  · refine fun align => ⟨fun offset found =>
      align [] keyword keywords offset rfl (by simp) found, ?_⟩
    rintro nothing earlier other later offset rfl allNothing found
    refine align (keyword :: earlier) other later offset rfl ?_ found
    exact List.forall_mem_cons.mpr ⟨nothing, allNothing⟩
  · rintro ⟨first, rest⟩ earlier other later offset split nothing found
    rcases earlier with _ | ⟨head, earlier⟩
    · cases split
      exact first offset found
    · cases split
      rw [List.forall_mem_cons] at nothing
      exact rest nothing.1 earlier other later offset rfl nothing.2 found

theorem returns_sliceAfter_iff {offset : Nat} :
    Returns (sliceAfter raw keyword offset) ↔
      IsBoundary raw (offset + byteLength keyword) := by
  unfold sliceAfter IsBoundary
  cases slice : sliceFrom raw (offset + byteLength keyword) with
  | error panic =>
      rw [error_bind]
      refine iff_of_false (not_returns_error panic) ?_
      rintro ⟨before, after, isRaw, length⟩
      rw [sliceFrom_eq_ok_iff.mpr ⟨before, isRaw, length⟩] at slice
      nomatch slice
  | ok after =>
      obtain ⟨before, isRaw, length⟩ := sliceFrom_eq_ok_iff.mp slice
      exact iff_of_true (returns_ok _) ⟨before, after, isRaw, length⟩

theorem leavesNothing_iff {after : List Char} {offset : Nat}
    (found : find keyword lowered = some offset)
    (slice : sliceAfter raw keyword offset = .ok after) :
    LeavesNothing raw lowered keyword ↔ after = [] := by
  unfold sliceAfter at slice
  cases cut : sliceFrom raw (offset + byteLength keyword) with
  | error panic => simp [cut, error_bind] at slice
  | ok rest =>
      simp only [cut, ok_bind, Except.ok.injEq] at slice
      obtain ⟨before, isRaw, length⟩ := sliceFrom_eq_ok_iff.mp cut
      constructor
      · intro nothing
        obtain ⟨front, back, isSplit, sameLength, blank⟩ := nothing offset found
        rw [sliceFrom_eq_ok_iff.mpr ⟨front, isSplit, sameLength⟩] at cut
        rw [← slice, ← Except.ok.inj cut, blank]
      · rintro rfl other foundOther
        rw [found] at foundOther
        cases foundOther
        exact ⟨before, rest, isRaw, length, slice⟩

/-- The loop over the keywords ends where these align. -/
theorem returns_extractAfter_iff :
    Returns (extractAfter raw lowered keywords) ↔
      KeywordsAlign raw lowered keywords := by
  induction keywords with
  | nil =>
      refine iff_of_true (returns_ok _) ?_
      intro earlier keyword later offset split
      simp at split
  | cons keyword others ih =>
      rw [keywordsAlign_cons_iff, ← ih, extractAfter]
      cases found : find keyword lowered with
      | none =>
          have nothing : LeavesNothing raw lowered keyword := by
            simp [LeavesNothing, found]
          simp [nothing]
      | some offset =>
          simp only [Option.some.injEq, forall_eq']
          rw [← returns_sliceAfter_iff]
          cases slice : sliceAfter raw keyword offset with
          | error panic => simp [error_bind, Returns]
          | ok after =>
              rw [leavesNothing_iff found slice, ok_bind]
              split
              · rename_i empty
                rw [List.isEmpty_iff] at empty
                simp [empty, returns_ok]
              · rename_i nonempty
                rw [List.isEmpty_iff] at nonempty
                simp [nonempty, returns_ok]

end Keywords

section Messages

variable (tables : TextTables) (zones : ZoneLibrary) (texts : CardTexts)

def Handed.IsSafe (currency : String) : Handed → Prop
  | .amount token => KelvinIsSafe tables.endsWord token.toList currency
  | .merchant message =>
      KeywordsAlign message.toList
        (toLowercase tables.endsWord message.toList)
        (merchantKeywords.map String.toList)

/-- What a message hands on is read without a panic. -/
def IntentIsSafe (text currency : String) : Prop :=
  ∀ piece ∈ handed tables text currency, piece.IsSafe tables currency

/-- The message is safe wherever `decide` parses it. -/
def DecisionIsSafe (context : AccountContext) (text : String) : Prop :=
  context.allowlisted = true →
    (context.lifecycle = .pendingConsent → IntentIsSafe tables text "VND") ∧
    (context.lifecycle = .active →
      IntentIsSafe tables text context.defaultCurrency)

/-- The parsers and the decision about a text end, and the recursion of the
amount parser descends. -/
structure ParsesSafely (text currency : String) (context : AccountContext)
    (now : Timestamp) : Prop where
  amount : Returns (parseAmount tables.endsWord text.toList currency)
  recursion : Descends tables.endsWord text.toList currency
  intent : Returns (parseIntentChecked tables text currency)
  decision : Returns (decideChecked tables zones texts context text now)

variable {tables zones texts} {text currency : String}

theorem returns_bind_ok_iff {Value Other : Type}
    {computation : Checked Value} {rest : Value → Other} :
    Returns (do let value ← computation; .ok (rest value)) ↔
      Returns computation := by
  cases computation with
  | error panic => simp [error_bind, Returns]
  | ok value => simp [ok_bind, Returns]

theorem Handed.isRead_iff (piece : Handed) :
    piece.IsRead tables currency ↔ piece.IsSafe tables currency := by
  cases piece with
  | amount token => exact returns_bind_ok_iff.trans returns_parseAmount_iff
  | merchant message =>
      exact returns_bind_ok_iff.trans returns_extractAfter_iff

theorem endsIn_parseIntent_of_safe (within : DecomposesWithinWords tables)
    (text currency : String) :
    EndsIn (parseIntentChecked tables text currency)
      (parseIntent tables.library text currency)
      (IntentIsSafe tables text currency) :=
  (endsIn_parseIntent within text currency).congr
    (forall₂_congr fun piece _ => piece.isRead_iff)

theorem endsIn_handlePendingConsent (within : DecomposesWithinWords tables)
    (context : AccountContext) (text : String) :
    EndsIn (handlePendingConsentChecked tables context text)
      (handlePendingConsent tables.library context text)
      (IntentIsSafe tables text "VND") := by
  have parsed := endsIn_parseIntent_of_safe within text "VND"
  unfold handlePendingConsentChecked handlePendingConsent
  simp only
  generalize parseIntent tables.library text "VND" = intent at parsed ⊢
  refine EndsIn.congr ?_ (iff_of_eq (and_true _))
  refine parsed.bind ?_
  cases intent.kind <;> exact .ok _

theorem endsIn_handleActive (within : DecomposesWithinWords tables)
    (context : AccountContext) (text : String) (now : Timestamp) :
    EndsIn (handleActiveChecked tables zones texts context text now)
      (handleActive tables.library zones texts context text now)
      (IntentIsSafe tables text context.defaultCurrency) := by
  have parsed := endsIn_parseIntent_of_safe within text
    context.defaultCurrency
  unfold handleActiveChecked handleActive
  simp only
  generalize parseIntent tables.library text context.defaultCurrency = intent
    at parsed ⊢
  refine EndsIn.congr ?_ (iff_of_eq (and_true _))
  refine parsed.bind ?_
  cases context.pending with
  | none => exact .ok _
  | some pending =>
      simp only
      split
      · exact .ok _
      · split <;> exact .ok _

/-- `decide` ends in its decision where it parses safe messages only. -/
theorem endsIn_decide (within : DecomposesWithinWords tables)
    (context : AccountContext) (text : String) (now : Timestamp) :
    EndsIn (decideChecked tables zones texts context text now)
      (decide tables.library zones texts context text now)
      (DecisionIsSafe tables context text) := by
  unfold decideChecked decide DecisionIsSafe
  cases context.allowlisted with
  | false => exact (EndsIn.ok _).congr (by simp)
  | true =>
  simp only [Bool.not_true, Bool.false_eq_true, if_false, forall_const]
  cases context.lifecycle with
  | suspended => exact (EndsIn.ok _).congr (by simp)
  | pendingConsent =>
      exact (endsIn_handlePendingConsent within context text).congr (by simp)
  | active =>
      exact (endsIn_handleActive within context text now).congr (by simp)

/-- The parsers and the decision end on a text, and the recursion descends,
exactly where no Kelvin sign that ends an amount is cut, no letters behind a
multiplier outgrow the text, and the keywords of a merchant edit align. -/
theorem parsing_ends_iff (within : DecomposesWithinWords tables)
    (zones : ZoneLibrary) (texts : CardTexts) (text currency : String)
    (context : AccountContext) (now : Timestamp) :
    ParsesSafely tables zones texts text currency context now ↔
      KelvinIsSafe tables.endsWord text.toList currency ∧
      ¬ Outgrows tables.endsWord text.toList currency ∧
      IntentIsSafe tables text currency ∧
      DecisionIsSafe tables context text := by
  have intent := endsIn_parseIntent_of_safe within text currency
  have decision : EndsIn (decideChecked tables zones texts context text now)
      _ (DecisionIsSafe tables context text) :=
    endsIn_decide within context text now
  rw [← returns_parseAmount_iff, ← descends_iff, ← intent.returns_iff,
    ← decision.returns_iff]
  exact ⟨fun safely => ⟨safely.amount, safely.recursion, safely.intent,
      safely.decision⟩,
    fun ⟨amount, recursion, intent, decision⟩ =>
      ⟨amount, recursion, intent, decision⟩⟩

end Messages

section Samples

def plainTables : TextTables where
  endsWord := fun _ _ => false
  decompose := fun char => [char]
  isCombiningMark := fun _ => false
  resolveCategoryKey := fun _ => none
  parseDateToken := fun _ => none

def utcOnly : ZoneLibrary where
  known := (· == "UTC")
  localDate := fun _ _ => ⟨2026, 1, 1⟩
  localNoon := fun _ _ => []

def blankTexts : CardTexts where
  categoryDisplay := fun _ _ => ""
  defaultCategoryDisplay := fun _ => ""
  transactionTypeLabel := fun _ _ => ""
  defaultTypeLabel := fun _ => ""

def idleContext : AccountContext where
  nextExpenseId := ⟨"expense"⟩
  nextSubmissionId := ⟨"submission"⟩
  nextIngestJobId := ⟨"job"⟩
  lifecycle := .active
  allowlisted := true
  defaultCurrency := "VND"
  timezone := "UTC"
  locale := "vi-VN"
  originalReceiptRetentionDays := 30
  remainingDailyReceipts := 10
  confirmedExpenseCount := 0
  pending := none
  todaySummary := none
  weekSummary := none
  monthSummary := none
  schedules := []
  recentLines := []

/-- A coffee for five thousand, written with a Kelvin sign. -/
def kelvinMessage : String :=
  String.ofList ['5', kelvinSign, ' ', 'p', 'h', 'o']

/-- A user who is asked to confirm a coffee for fifty thousand. -/
def askedContext : AccountContext :=
  { idleContext with
    pending := some {
      kind := .manualExpense
      referenceId := ⟨"expense"⟩
      optimisticVersion := 1
      expiresAt := 60000000
      draft := {
        version := 1
        amountMinor := 50000
        currency := "VND"
        merchant := "Cafe"
        categoryKey := "coffee"
        categoryDisplay := "Cafe"
        transactionType := "expense"
        typeLabel := "Chi"
        dateDisplay := "01/01/2026"
        occurredAt := 0 } } }

theorem plainTables_decomposes : DecomposesWithinWords plainTables := by
  intro char other member
  rw [List.mem_singleton.mp member]

theorem parsing_ends_on_merchant_edit :
    ParsesSafely plainTables utcOnly blankTexts "fix store Pho 50k" "VND"
      askedContext 0 := by
  have handedOn : handed plainTables "fix store Pho 50k" "VND" =
      [.merchant "fix store Pho 50k"] := by
    decide +kernel
  have intentSafe : IntentIsSafe plainTables "fix store Pho 50k" "VND" := by
    intro piece member
    rw [handedOn, List.mem_singleton] at member
    subst member
    exact returns_extractAfter_iff.mp ⟨some "Pho 50k".toList, rfl⟩
  refine (parsing_ends_iff plainTables_decomposes _ _ _ _ _ _).mpr
    ⟨fun _ _ last => absurd last (by decide), ?_, intentSafe,
      fun _ => ⟨fun pending => absurd pending (by decide),
        fun _ => intentSafe⟩⟩
  rintro ⟨after, split, longer⟩
  have shorter := split.lt_of_not_growing (by decide)
  omega

theorem parsing_panics_on_kelvin :
    ¬ ParsesSafely plainTables utcOnly blankTexts kelvinMessage "VND"
      idleContext 0 := by
  intro safely
  have panics : parseIntentChecked plainTables kelvinMessage "VND" =
      .error .slice := by
    decide +kernel
  exact not_returns_error .slice (panics ▸ safely.intent)

end Samples

end Conversation

end ZaloBot
