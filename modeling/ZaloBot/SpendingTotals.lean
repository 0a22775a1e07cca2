import Mathlib.Algebra.BigOperators.Group.List.Basic
import Mathlib.Data.List.Dedup
import ZaloBot.BotRows
import ZaloBot.FallibleSteps

/-!
# Spending totals

The queries that total the confirmed expenses of an account, over the rows of
the `expenses` table: today's totals, the totals of a period, the insight
aggregate with its categories and merchants, and the totals of a scheduled
summary.  Every total is shown with a currency.  A query fails when one of its
sums does not fit into a `BIGINT`.
-/

namespace ZaloBot

namespace SpendingTotals

/-- `SUM(amount_minor)`. -/
def sumMinor (rows : List ExpenseRow) : Int :=
  (rows.map ExpenseRow.amountMinor).sum

/-- `value::BIGINT`. -/
def castBigint (value : Int) : Option Int :=
  if -9223372036854775808 ≤ value ∧ value ≤ 9223372036854775807 then
    some value
  else
    none

/-- `MIN(currency)`. -/
def minCurrency : List ExpenseRow → Option String
  | [] => none
  | row :: rows =>
      match minCurrency rows with
      | none => some row.currency
      | some other =>
          some (if other < row.currency then other else row.currency)

structure PeriodTotals where
  totalMinor : Int
  count : Nat
  currency : String
deriving DecidableEq, Repr

/-- The sum, count and smallest currency of the selected rows. -/
def selectTotals (rows : List ExpenseRow) (selected : ExpenseRow → Bool)
    (fallbackCurrency : String) : Option PeriodTotals :=
  let chosen := rows.filter selected
  (castBigint (sumMinor chosen)).map fun totalMinor =>
    ⟨totalMinor, chosen.length, (minCurrency chosen).getD fallbackCurrency⟩

/-- `account_id = $1 AND state = 'confirmed'`. -/
def isConfirmedOf (accountId : Uuid) (row : ExpenseRow) : Bool :=
  row.accountId = accountId && row.state = .confirmed

/-- The confirmed expenses of an account in `[periodStart, periodEnd)`. -/
def inPeriod (accountId : Uuid) (periodStart periodEnd : Timestamp)
    (row : ExpenseRow) : Bool :=
  isConfirmedOf accountId row && periodStart ≤ row.occurredAt &&
    row.occurredAt < periodEnd

/-- The confirmed expenses of an account on the local date of an instant. -/
def onLocalDate (localDate : Timestamp → Int) (accountId : Uuid)
    (observedAt : Timestamp) (row : ExpenseRow) : Bool :=
  isConfirmedOf accountId row &&
    localDate row.occurredAt = localDate observedAt

/-- `load_period_totals`. -/
def loadPeriodTotals (rows : List ExpenseRow) (accountId : Uuid)
    (periodStart periodEnd : Timestamp) (fallbackCurrency : String) :
    Option PeriodTotals :=
  selectTotals rows (inPeriod accountId periodStart periodEnd)
    fallbackCurrency

/-- Today's totals in `load_decision_context`. -/
def loadTodayTotals (localDate : Timestamp → Int) (rows : List ExpenseRow)
    (accountId : Uuid) (observedAt : Timestamp) : Option PeriodTotals :=
  selectTotals rows (onLocalDate localDate accountId observedAt) "VND"

/-- `GROUP BY`: the rows of every key that occurs. -/
def groups (key : ExpenseRow → String) (rows : List ExpenseRow) :
    List (String × List ExpenseRow) :=
  (rows.map key).dedup.map fun name =>
    (name, rows.filter fun row => key row = name)

/-- The totals of the groups, largest first and then by display. -/
def groupTotals (key : ExpenseRow → String) (display : String → String)
    (rows : List ExpenseRow) : Option (List GroupTotal) := do
  let totals ← (groups key rows).mapM fun (name, members) =>
    (castBigint (sumMinor members)).map fun totalMinor =>
      (⟨name, display name, totalMinor, members.length⟩ : GroupTotal)
  pure (totals.mergeSort fun first second =>
    first.totalMinor > second.totalMinor ||
      (first.totalMinor = second.totalMinor &&
        !(second.display < first.display)))

/-- `compute_aggregate`; `displayNameVi` is the name of a category. -/
def computeAggregate (displayNameVi : String → String)
    (rows : List ExpenseRow) (accountId : Uuid)
    (periodStart periodEnd : Timestamp) (fallbackCurrency : String) :
    Option InsightAggregate := do
  let chosen := rows.filter (inPeriod accountId periodStart periodEnd)
  let totals ← loadPeriodTotals rows accountId periodStart periodEnd
    fallbackCurrency
  let categories ← groupTotals ExpenseRow.categoryKey displayNameVi chosen
  let merchants ← groupTotals ExpenseRow.description id chosen
  pure ⟨totals.totalMinor, totals.currency, totals.count, categories,
    merchants.take 5⟩

section Figures

/-- The expenses of its period that a total is about. -/
inductive FigureScope where
  | everything
  | category (key : String)
  | merchant (name : String)

/-- A total that the bot shows. -/
structure Figure where
  minor : Int
  currency : String
  scope : FigureScope

/-- The messages with totals: the replies to `/today`, `/week` and `/month`
that `decide` makes, the insight aggregate behind their final text and the
narrative, and the scheduled summary. -/
inductive TotalsMessage where
  | today (observedAt : Timestamp)
  | period (periodStart periodEnd : Timestamp) (defaultCurrency : String)
  | aggregate (periodStart periodEnd : Timestamp) (defaultCurrency : String)
  | scheduled (periodStart periodEnd : Timestamp)

/-- A total is shown unless nothing has been counted. -/
def totalFigure (txCount : Nat) (totals : PeriodTotals) : List Figure :=
  if txCount = 0 then []
  else [⟨totals.totalMinor, totals.currency, .everything⟩]

/-- `count as u32`, which is how the read model of `decide` holds a count. -/
def PeriodTotals.countAsU32 (totals : PeriodTotals) : Nat :=
  totals.count % 4294967296

/-- The figures of an aggregate; all of them are in its currency. -/
def aggregateFigures (aggregate : InsightAggregate) : List Figure :=
  ⟨aggregate.totalMinor, aggregate.currency, .everything⟩ ::
    (aggregate.byCategory.map fun category =>
      ⟨category.totalMinor, aggregate.currency, .category category.key⟩) ++
    aggregate.topMerchants.map fun merchant =>
      ⟨merchant.totalMinor, aggregate.currency, .merchant merchant.key⟩

/-- The figures that a message shows; `none` if one of its queries fails. -/
def shownFigures (localDate : Timestamp → Int)
    (displayNameVi : String → String) (rows : List ExpenseRow)
    (accountId : Uuid) : TotalsMessage → Option (List Figure)
  | .today observedAt =>
      (loadTodayTotals localDate rows accountId observedAt).map fun totals =>
        totalFigure totals.countAsU32 totals
  | .period periodStart periodEnd defaultCurrency =>
      (loadPeriodTotals rows accountId periodStart periodEnd
        defaultCurrency).map fun totals =>
          totalFigure totals.countAsU32 totals
  | .aggregate periodStart periodEnd defaultCurrency =>
      (computeAggregate displayNameVi rows accountId periodStart periodEnd
        defaultCurrency).map aggregateFigures
  | .scheduled periodStart periodEnd =>
      (loadPeriodTotals rows accountId periodStart periodEnd "VND").map
        fun totals => totalFigure totals.count totals

end Figures

section Meaning

variable (localDate : Timestamp → Int) (accountId : Uuid)
  (message : TotalsMessage)

/-- The confirmed expenses of the account in the period of a message. -/
def TotalsMessage.Includes (row : ExpenseRow) : Prop :=
  row.accountId = accountId ∧ row.state = .confirmed ∧
    match message with
    | .today observedAt => localDate row.occurredAt = localDate observedAt
    | .period periodStart periodEnd _ | .aggregate periodStart periodEnd _
    | .scheduled periodStart periodEnd =>
        periodStart ≤ row.occurredAt ∧ row.occurredAt < periodEnd

instance TotalsMessage.decidableIncludes (row : ExpenseRow) :
    Decidable (message.Includes localDate accountId row) :=
  match message with
  | .today _ => inferInstanceAs (Decidable (_ ∧ _ ∧ _ = _))
  | .period _ _ _ | .aggregate _ _ _ | .scheduled _ _ =>
      inferInstanceAs (Decidable (_ ∧ _ ∧ _ ≤ _ ∧ _ < _))

/-- The expenses in the scope of a total. -/
def FigureScope.Holds (row : ExpenseRow) : FigureScope → Prop
  | .everything => True
  | .category key => row.categoryKey = key
  | .merchant name => row.description = name

instance FigureScope.decidableHolds (scope : FigureScope)
    (row : ExpenseRow) : Decidable (scope.Holds row) :=
  match scope with
  | .everything => inferInstanceAs (Decidable True)
  | .category _ | .merchant _ => inferInstanceAs (Decidable (_ = _))

/-- An expense that the total of a scope is about. -/
def TotalsMessage.Covers (scope : FigureScope) (row : ExpenseRow) : Prop :=
  message.Includes localDate accountId row ∧ scope.Holds row

instance TotalsMessage.decidableCovers (scope : FigureScope)
    (row : ExpenseRow) :
    Decidable (message.Covers localDate accountId scope row) :=
  inferInstanceAs (Decidable (_ ∧ _))

/-- The amounts of some expenses together. -/
def amountOf (selected : ExpenseRow → Prop) [DecidablePred selected]
    (rows : List ExpenseRow) : Int :=
  ((rows.filter selected).map ExpenseRow.amountMinor).sum

/-- A figure is the sum of the expenses in its currency. -/
def Figure.Honest (rows : List ExpenseRow) (figure : Figure) : Prop :=
  figure.minor = amountOf (fun row =>
    message.Covers localDate accountId figure.scope row ∧
      row.currency = figure.currency) rows

/-- A currency of the period with no smaller one. -/
def TotalsMessage.IsSmallest (rows : List ExpenseRow) (currency : String) :
    Prop :=
  (∃ row ∈ rows, message.Includes localDate accountId row ∧
    row.currency = currency) ∧
  ∀ row ∈ rows, message.Includes localDate accountId row →
    ¬ row.currency < currency

/-- The covered expenses in all currencies but the smallest one of the period
cancel out. -/
def TotalsMessage.OthersCancel (rows : List ExpenseRow)
    (scope : FigureScope) : Prop :=
  ∀ currency, message.IsSmallest localDate accountId rows currency →
    amountOf (fun row => message.Covers localDate accountId scope row ∧
      row.currency ≠ currency) rows = 0

end Meaning

section Sums

variable {rows : List ExpenseRow}

/-- A sum splits along any condition. -/
theorem amountOf_split (covers holds : ExpenseRow → Prop)
    [DecidablePred covers] [DecidablePred holds] :
    amountOf covers rows =
      amountOf (fun row => covers row ∧ holds row) rows +
        amountOf (fun row => covers row ∧ ¬ holds row) rows := by
  induction rows with
  | nil => rfl
  | cons row rows ih =>
      simp only [amountOf] at ih ⊢
      by_cases isCovered : covers row
      · by_cases isHeld : holds row
        · simp [isCovered, isHeld, ih]
          omega
        · simp [isCovered, isHeld, ih]
          omega
      · simpa [isCovered] using ih

theorem amountOf_congr {first second : ExpenseRow → Prop}
    [DecidablePred first] [DecidablePred second]
    (same : ∀ row ∈ rows, first row ↔ second row) :
    amountOf first rows = amountOf second rows := by
  have sameFilter : rows.filter first = rows.filter second :=
    List.filter_congr fun row member => by simp [same row member]
  rw [amountOf, amountOf, sameFilter]

/-- A sum of positive amounts is zero only if there are none. -/
theorem amountOf_eq_zero_iff {selected : ExpenseRow → Prop}
    [DecidablePred selected] (positive : ∀ row ∈ rows, 0 < row.amountMinor) :
    amountOf selected rows = 0 ↔ ∀ row ∈ rows, ¬ selected row := by
  induction rows with
  | nil => simp [amountOf]
  | cons row rows ih =>
      obtain ⟨first, others⟩ := List.forall_mem_cons.mp positive
      have nonnegative : 0 ≤ amountOf selected rows := by
        refine List.sum_nonneg fun amount member => ?_
        obtain ⟨other, isOther, rfl⟩ := List.mem_map.mp member
        exact (others other (List.mem_of_mem_filter isOther)).le
      rw [List.forall_mem_cons, ← ih others]
      unfold amountOf at *
      by_cases isSelected : selected row
      · simp only [isSelected, decide_true, List.filter_cons_of_pos,
          List.map_cons, List.sum_cons, not_true_eq_false, false_and,
          iff_false]
        omega
      · simp [isSelected]

theorem castBigint_eq_some {value cast : Int}
    (fits : castBigint value = some cast) : cast = value := by
  unfold castBigint at fits
  split at fits
  · exact (Option.some.inj fits).symm
  · contradiction

theorem minCurrency_eq_none_iff :
    minCurrency rows = none ↔ rows = [] := by
  cases rows with
  | nil => simp [minCurrency]
  | cons row rows =>
      simp only [minCurrency, reduceCtorEq, iff_false]
      split <;> simp

/-- `MIN(currency)` occurs, and no smaller currency does. -/
theorem minCurrency_eq_some {currency : String}
    (isMin : minCurrency rows = some currency) :
    (∃ row ∈ rows, row.currency = currency) ∧
      ∀ row ∈ rows, ¬ row.currency < currency := by
  induction rows generalizing currency with
  | nil => cases isMin
  | cons row rows ih =>
      rw [minCurrency] at isMin
      cases rest : minCurrency rows with
      | none =>
          obtain rfl := minCurrency_eq_none_iff.mp rest
          obtain rfl := Option.some.inj isMin
          refine ⟨⟨row, by simp, rfl⟩, ?_⟩
          rw [List.forall_mem_singleton]
          exact lt_irrefl _
      | some other =>
          obtain ⟨⟨found, isFound, sameCurrency⟩, smallest⟩ := ih rest
          rw [rest] at isMin
          obtain rfl := Option.some.inj isMin
          by_cases smaller : other < row.currency
          · rw [if_pos smaller]
            refine ⟨⟨found, by simp [isFound], sameCurrency⟩, ?_⟩
            rw [List.forall_mem_cons]
            exact ⟨not_lt_of_gt smaller, smallest⟩
          · rw [if_neg smaller]
            refine ⟨⟨row, by simp, rfl⟩, ?_⟩
            rw [List.forall_mem_cons]
            exact ⟨lt_irrefl _, fun later member below =>
              smallest later member (lt_of_lt_of_le below (not_lt.mp smaller))⟩

theorem totalMinor_of_selectTotals {selected : ExpenseRow → Bool}
    {fallbackCurrency : String} {totals : PeriodTotals}
    (loaded : selectTotals rows selected fallbackCurrency = some totals) :
    totals.totalMinor = sumMinor (rows.filter selected) := by
  obtain ⟨totalMinor, fits, rfl⟩ := Option.map_eq_some_iff.mp loaded
  exact castBigint_eq_some fits

/-- What the totals of a selection say. -/
theorem totals_of_selectTotals {selected : ExpenseRow → Bool}
    {fallbackCurrency : String} {totals : PeriodTotals}
    (loaded : selectTotals rows selected fallbackCurrency = some totals) :
    totals.totalMinor = amountOf (selected · = true) rows ∧
      totals.currency =
        (minCurrency (rows.filter selected)).getD fallbackCurrency := by
  constructor
  · rw [totalMinor_of_selectTotals loaded]
    simp [sumMinor, amountOf]
  · obtain ⟨totalMinor, fits, rfl⟩ := Option.map_eq_some_iff.mp loaded
    rfl

/-- The total of a group is the sum of the rows with its key. -/
theorem totalMinor_of_groupTotals {key : ExpenseRow → String}
    {display : String → String} {totals : List GroupTotal}
    (grouped : groupTotals key display rows = some totals)
    {group : GroupTotal} (member : group ∈ totals) :
    group.totalMinor = amountOf (fun row => key row = group.key) rows := by
  simp only [groupTotals, Option.bind_eq_bind, Option.bind_eq_some_iff]
    at grouped
  obtain ⟨unsorted, mapped, sorted⟩ := grouped
  obtain rfl := Option.some.inj sorted
  have unsortedMem : group ∈ unsorted := List.mem_mergeSort.mp member
  obtain ⟨⟨name, members⟩, groupMem, read⟩ :=
    FallibleSteps.returnsRule_option.exists_of_mem_targets mapped unsortedMem
  obtain ⟨totalMinor, fits, rfl⟩ := Option.map_eq_some_iff.mp read
  obtain ⟨other, _, same⟩ := List.mem_map.mp groupMem
  obtain ⟨rfl, rfl⟩ := Prod.mk.inj same
  exact castBigint_eq_some fits

end Sums

section Honesty

variable {localDate : Timestamp → Int} {displayNameVi : String → String}
variable {rows : List ExpenseRow} {accountId : Uuid}

/-- The sum of what is covered, in the smallest currency of the period. -/
structure SumsUp (localDate : Timestamp → Int) (accountId : Uuid)
    (message : TotalsMessage) (rows : List ExpenseRow) (figure : Figure) :
    Prop where
  total : figure.minor =
    amountOf (message.Covers localDate accountId figure.scope) rows
  labelled : (∃ row ∈ rows, message.Includes localDate accountId row) →
    message.IsSmallest localDate accountId rows figure.currency

theorem isConfirmedOf_iff {row : ExpenseRow} :
    isConfirmedOf accountId row = true ↔
      row.accountId = accountId ∧ row.state = .confirmed := by
  simp [isConfirmedOf]

theorem inPeriod_iff {periodStart periodEnd : Timestamp} {row : ExpenseRow} :
    inPeriod accountId periodStart periodEnd row = true ↔
      row.accountId = accountId ∧ row.state = .confirmed ∧
        periodStart ≤ row.occurredAt ∧ row.occurredAt < periodEnd := by
  simp [inPeriod, isConfirmedOf_iff, and_assoc]

theorem onLocalDate_iff {observedAt : Timestamp} {row : ExpenseRow} :
    onLocalDate localDate accountId observedAt row = true ↔
      row.accountId = accountId ∧ row.state = .confirmed ∧
        localDate row.occurredAt = localDate observedAt := by
  simp [onLocalDate, isConfirmedOf_iff, and_assoc]

section Selections

variable {message : TotalsMessage} {selected : ExpenseRow → Bool}
  {fallbackCurrency : String} {totals : PeriodTotals}

/-- The currency of totals is the smallest one of what they select. -/
theorem isSmallest_of_selectTotals
    (selects : ∀ row, selected row = true ↔
      message.Includes localDate accountId row)
    (loaded : selectTotals rows selected fallbackCurrency = some totals)
    (included : ∃ row ∈ rows, message.Includes localDate accountId row) :
    message.IsSmallest localDate accountId rows totals.currency := by
  obtain ⟨row, isRow, includes⟩ := included
  rw [(totals_of_selectTotals loaded).2]
  cases isMin : minCurrency (rows.filter selected) with
  | none =>
      have empty := minCurrency_eq_none_iff.mp isMin
      have member : row ∈ rows.filter selected :=
        List.mem_filter.mpr ⟨isRow, (selects row).mpr includes⟩
      rw [empty] at member
      contradiction
  | some currency =>
      obtain ⟨⟨found, isFound, sameCurrency⟩, smallest⟩ :=
        minCurrency_eq_some isMin
      obtain ⟨inRows, isSelected⟩ := List.mem_filter.mp isFound
      refine ⟨⟨found, inRows, (selects found).mp isSelected, sameCurrency⟩, ?_⟩
      intro other isOther includesOther
      exact smallest other (List.mem_filter.mpr
        ⟨isOther, (selects other).mpr includesOther⟩)

theorem sumsUp_of_mem_totalFigure
    (selects : ∀ row, selected row = true ↔
      message.Includes localDate accountId row)
    (loaded : selectTotals rows selected fallbackCurrency = some totals)
    {txCount : Nat} {figure : Figure}
    (shown : figure ∈ totalFigure txCount totals) :
    SumsUp localDate accountId message rows figure := by
  unfold totalFigure at shown
  split at shown
  · contradiction
  · obtain rfl := List.mem_singleton.mp shown
    refine ⟨?_, isSmallest_of_selectTotals selects loaded⟩
    rw [(totals_of_selectTotals loaded).1]
    exact amountOf_congr fun row _ => by
      simp [selects, TotalsMessage.Covers, FigureScope.Holds]

end Selections

theorem amountOf_filter {selected : ExpenseRow → Bool}
    {holds : ExpenseRow → Prop} [DecidablePred holds] :
    amountOf holds (rows.filter selected) =
      amountOf (fun row => selected row = true ∧ holds row) rows := by
  unfold amountOf
  rw [List.filter_filter]
  congr 2
  exact List.filter_congr fun row _ => by simp [and_comm]

theorem sumsUp_of_mem_aggregateFigures {periodStart periodEnd : Timestamp}
    {defaultCurrency : String} {aggregate : InsightAggregate}
    (computed : computeAggregate displayNameVi rows accountId periodStart
      periodEnd defaultCurrency = some aggregate) {figure : Figure}
    (shown : figure ∈ aggregateFigures aggregate) :
    SumsUp localDate accountId
      (.aggregate periodStart periodEnd defaultCurrency) rows figure := by
  simp only [computeAggregate, Option.bind_eq_bind,
    Option.bind_eq_some_iff] at computed
  obtain ⟨totals, loaded, categories, byCategory, merchants, byMerchant,
    same⟩ := computed
  obtain rfl := Option.some.inj same
  have selects (row : ExpenseRow) :
      inPeriod accountId periodStart periodEnd row = true ↔
        (TotalsMessage.aggregate periodStart periodEnd
          defaultCurrency).Includes localDate accountId row := inPeriod_iff
  have labelled := isSmallest_of_selectTotals selects loaded
  simp only [aggregateFigures, List.cons_append, List.mem_cons,
    List.mem_append, List.mem_map] at shown
  rcases shown with rfl | ⟨category, member, rfl⟩ | ⟨merchant, member, rfl⟩
  · refine ⟨?_, labelled⟩
    rw [(totals_of_selectTotals loaded).1]
    exact amountOf_congr fun row _ => by
      simp [selects, TotalsMessage.Covers, FigureScope.Holds]
  · refine ⟨?_, labelled⟩
    rw [totalMinor_of_groupTotals byCategory member, amountOf_filter]
    exact amountOf_congr fun row _ => by
      simp [selects, TotalsMessage.Covers, FigureScope.Holds]
  · refine ⟨?_, labelled⟩
    rw [totalMinor_of_groupTotals byMerchant (List.mem_of_mem_take member),
      amountOf_filter]
    exact amountOf_congr fun row _ => by
      simp [selects, TotalsMessage.Covers, FigureScope.Holds]

/-- Every figure sums up all the expenses that it covers, and its currency is
the smallest one of the period. -/
theorem sumsUp_of_mem_shownFigures {message : TotalsMessage}
    {figures : List Figure}
    (shown : shownFigures localDate displayNameVi rows accountId message =
      some figures) {figure : Figure} (member : figure ∈ figures) :
    SumsUp localDate accountId message rows figure := by
  cases message with
  | today observedAt =>
      obtain ⟨totals, loaded, rfl⟩ := Option.map_eq_some_iff.mp shown
      exact sumsUp_of_mem_totalFigure (fun _ => onLocalDate_iff) loaded member
  | period periodStart periodEnd defaultCurrency =>
      obtain ⟨totals, loaded, rfl⟩ := Option.map_eq_some_iff.mp shown
      exact sumsUp_of_mem_totalFigure (fun _ => inPeriod_iff) loaded member
  | aggregate periodStart periodEnd defaultCurrency =>
      obtain ⟨aggregate, computed, rfl⟩ := Option.map_eq_some_iff.mp shown
      exact sumsUp_of_mem_aggregateFigures computed member
  | scheduled periodStart periodEnd =>
      obtain ⟨totals, loaded, rfl⟩ := Option.map_eq_some_iff.mp shown
      exact sumsUp_of_mem_totalFigure (fun _ => inPeriod_iff) loaded member

/-- A currency with no smaller one is the smallest one. -/
theorem TotalsMessage.IsSmallest.unique {message : TotalsMessage}
    {first second : String}
    (firstSmallest : message.IsSmallest localDate accountId rows first)
    (secondSmallest : message.IsSmallest localDate accountId rows second) :
    first = second := by
  obtain ⟨⟨row, isRow, includes, rfl⟩, below⟩ := firstSmallest
  obtain ⟨⟨other, isOther, includesOther, rfl⟩, belowOther⟩ := secondSmallest
  exact le_antisymm (not_lt.mp (below other isOther includesOther))
    (not_lt.mp (belowOther row isRow includes))

/-- A figure is the sum of the expenses in its currency exactly if the covered
expenses in all currencies but the smallest one of the period sum to zero; with
positive amounts, if every covered expense is in that currency. -/
theorem figure_honest_iff {message : TotalsMessage} {figures : List Figure}
    (shown : shownFigures localDate displayNameVi rows accountId message =
      some figures) {figure : Figure} (member : figure ∈ figures) :
    (figure.Honest localDate accountId message rows ↔
      message.OthersCancel localDate accountId rows figure.scope) ∧
    ((∀ row ∈ rows, 0 < row.amountMinor) →
      (figure.Honest localDate accountId message rows ↔
        ∀ row ∈ rows, message.Covers localDate accountId figure.scope row →
          ∀ other ∈ rows, message.Includes localDate accountId other →
            ¬ other.currency < row.currency)) := by
  have sums := sumsUp_of_mem_shownFigures shown member
  have split := @amountOf_split rows
    (message.Covers localDate accountId figure.scope)
    (fun row => row.currency = figure.currency) _ _
  have honest : figure.Honest localDate accountId message rows ↔
      amountOf (fun row => message.Covers localDate accountId figure.scope
        row ∧ ¬ row.currency = figure.currency) rows = 0 := by
    rw [Figure.Honest, sums.total, split]
    omega
  constructor
  · rw [honest]
    constructor
    · intro cancel currency isSmallest
      obtain ⟨row, isRow, includes, _⟩ := isSmallest.1
      rw [isSmallest.unique (sums.labelled ⟨row, isRow, includes⟩)]
      exact cancel
    · intro cancel
      by_cases included : ∃ row ∈ rows,
          message.Includes localDate accountId row
      · exact cancel _ (sums.labelled included)
      · have none (row : ExpenseRow) (isRow : row ∈ rows) :
            ¬ message.Covers localDate accountId figure.scope row :=
          fun covers => included ⟨row, isRow, covers.1⟩
        unfold amountOf
        rw [List.filter_eq_nil_iff.mpr fun row isRow => by
          simp [none row isRow]]
        rfl
  · intro positive
    rw [honest, amountOf_eq_zero_iff positive]
    constructor
    · intro alike row isRow covers other isOther includesOther
      have isSmallest := sums.labelled ⟨row, isRow, covers.1⟩
      have same : row.currency = figure.currency := by
        by_contra different
        exact alike row isRow ⟨covers, different⟩
      rw [same]
      exact isSmallest.2 other isOther includesOther
    · rintro smallest row isRow ⟨covers, different⟩
      have isSmallest := sums.labelled ⟨row, isRow, covers.1⟩
      obtain ⟨other, isOther, includesOther, same⟩ := isSmallest.1
      refine different (le_antisymm ?_ ?_)
      · rw [← same]
        exact not_lt.mp (smallest row isRow covers other isOther includesOther)
      · exact not_lt.mp (isSmallest.2 row isRow covers.1)

end Honesty

section MixedCurrencies

/-- Two confirmed expenses of one day: ten thousand dong and five cents. -/
def dongAndCents : List ExpenseRow :=
  [⟨⟨"account"⟩, 10000, "VND", 0, "pho", .manual, .confirmed, 2, none, "khac",
    "expense"⟩,
   ⟨⟨"account"⟩, 5, "USD", 1, "gum", .manual, .confirmed, 2, none, "khac",
    "expense"⟩]

/-- Two expenses in dong, and dollars of a rejected one and of another
account. -/
def dongOnly : List ExpenseRow :=
  [⟨⟨"account"⟩, 10000, "VND", 0, "pho", .manual, .confirmed, 2, none, "khac",
    "expense"⟩,
   ⟨⟨"account"⟩, 20000, "VND", 1, "bun", .receipt, .confirmed, 1, none,
    "an-uong", "expense"⟩,
   ⟨⟨"account"⟩, 5, "USD", 1, "gum", .manual, .rejected, 2, none, "khac",
    "expense"⟩,
   ⟨⟨"other"⟩, 7, "USD", 1, "gum", .manual, .confirmed, 2, none, "khac",
    "expense"⟩]

theorem figure_honest_iff_dong :
    ∃ figures, shownFigures (fun _ => 0) id dongOnly ⟨"account"⟩
        (.today 2) = some figures ∧
      ∃ figure ∈ figures, figure.minor = 30000 ∧ figure.currency = "VND" ∧
        figure.Honest (fun _ => 0) ⟨"account"⟩ (.today 2) dongOnly := by
  have shown : shownFigures (fun _ => 0) id dongOnly
      ⟨"account"⟩ (.today 2) = some [⟨30000, "VND", .everything⟩] := rfl
  refine ⟨_, shown, _, List.mem_cons_self, rfl, rfl, ?_⟩
  refine ((figure_honest_iff shown List.mem_cons_self).2 ?_).mpr ?_
  · decide
  · unfold TotalsMessage.Covers
    decide

/-- The reply to `/today` shows the sum of both as dollars. -/
theorem today_total_mixes_currencies :
    ∃ figures, shownFigures (fun _ => 0) id dongAndCents ⟨"account"⟩
        (.today 2) = some figures ∧
      ∃ figure ∈ figures, figure.minor = 10005 ∧ figure.currency = "USD" ∧
        ¬ figure.Honest (fun _ => 0) ⟨"account"⟩ (.today 2) dongAndCents := by
  refine ⟨_, rfl, _, List.mem_cons_self, rfl, rfl, ?_⟩
  unfold Figure.Honest
  decide

end MixedCurrencies

end SpendingTotals

end ZaloBot
