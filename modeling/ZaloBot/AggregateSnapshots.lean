import Mathlib.Algebra.BigOperators.Group.List.Lemmas
import Mathlib.Data.String.Basic
import ZaloBot.InsightNarratives
import ZaloBot.SessionReadings
import ZaloBot.SpendingTotals

/-!
# The statements of an insight aggregate

`compute_aggregate` reads the totals, the categories and the merchants of a
period with three statements, each of which sees the rows that are committed
when it runs.  Whatever else is committed in between, the aggregate is
consistent exactly if the categories are read from as many expenses with as
large a sum as the totals, and no merchant that is read exceeds them.
-/

namespace ZaloBot

open Sessions LabelledRuns TaskPool

namespace SpendingTotals

section Groups

variable {Item Weight : Type} [AddCommMonoid Weight]

theorem sum_map_single {name : String} {names : List String} {weight : Weight}
    (nodup : names.Nodup) (member : name ∈ names) :
    (names.map fun other => if name = other then weight else 0).sum =
      weight := by
  induction names with
  | nil => contradiction
  | cons first names induction =>
      obtain ⟨notMem, nodup⟩ := List.nodup_cons.mp nodup
      rw [List.map_cons, List.sum_cons]
      rcases List.mem_cons.mp member with rfl | later
      · have absent : (names.map fun other =>
            if name = other then weight else 0).sum = 0 := by
          refine List.sum_eq_zero fun value inside => ?_
          obtain ⟨other, otherMem, rfl⟩ := List.mem_map.mp inside
          refine if_neg ?_
          rintro rfl
          exact notMem otherMem
        rw [if_pos rfl, absent, add_zero]
      · have different : name ≠ first := fun same => notMem (same ▸ later)
        rw [if_neg different, zero_add, induction nodup later]

/-- The weights of the groups add up to the weight of all items. -/
theorem sum_groups {key : Item → String} {weight : Item → Weight}
    {names : List String} (nodup : names.Nodup) {items : List Item}
    (covered : ∀ item ∈ items, key item ∈ names) :
    (names.map fun name =>
      ((items.filter fun item => key item = name).map weight).sum).sum =
        (items.map weight).sum := by
  induction items with
  | nil => simp
  | cons item items induction =>
      have split (name : String) :
          (((item :: items).filter fun item => key item = name).map
            weight).sum =
            (if key item = name then weight item else 0) +
              ((items.filter fun item => key item = name).map weight).sum := by
        by_cases same : key item = name
        · simp [same]
        · simp [same]
      simp only [split, List.sum_map_add]
      rw [sum_map_single nodup (covered item List.mem_cons_self),
        induction fun other inside =>
          covered other (List.mem_cons_of_mem _ inside), List.map_cons,
        List.sum_cons]

theorem eq_map_of_mapM {Source Target : Type}
    {read : Source → Option Target} {answer : Source → Target}
    (answers : ∀ source target, read source = some target →
      target = answer source)
    {sources : List Source} {targets : List Target}
    (mapped : sources.mapM read = some targets) :
    targets = sources.map answer := by
  induction sources generalizing targets with
  | nil => simpa using mapped.symm
  | cons source sources induction =>
      simp only [List.mapM_cons, Option.bind_eq_bind, Option.bind_eq_some_iff]
        at mapped
      obtain ⟨first, readFirst, others, readOthers, same⟩ := mapped
      obtain rfl : first :: others = targets := by simpa using same
      rw [List.map_cons, ← answers source first readFirst,
        ← induction readOthers]

end Groups

section Totals

variable {key : ExpenseRow → String} {display : String → String}
variable {rows : List ExpenseRow} {totals : List GroupTotal}

/-- `ORDER BY SUM(amount_minor) DESC`, and then by display. -/
def isBefore (first second : GroupTotal) : Bool :=
  first.totalMinor > second.totalMinor ||
    (first.totalMinor = second.totalMinor &&
      !(second.display < first.display))

theorem isBefore_trans (first second third : GroupTotal)
    (begins : isBefore first second = true)
    (ends : isBefore second third = true) :
    isBefore first third = true := by
  simp only [isBefore, Bool.or_eq_true, Bool.and_eq_true, Bool.not_eq_true',
    decide_eq_true_eq, decide_eq_false_iff_not, not_lt] at *
  rcases begins with more | ⟨same, inOrder⟩
  · rcases ends with further | ⟨equal, -⟩
    · exact .inl (by omega)
    · exact .inl (by omega)
  · rcases ends with further | ⟨equal, next⟩
    · exact .inl (by omega)
    · exact .inr ⟨by omega, le_trans inOrder next⟩

theorem isBefore_total (first second : GroupTotal) :
    (isBefore first second || isBefore second first) = true := by
  simp only [isBefore, Bool.or_eq_true, Bool.and_eq_true, Bool.not_eq_true',
    decide_eq_true_eq, decide_eq_false_iff_not, not_lt]
  rcases lt_trichotomy first.totalMinor second.totalMinor with
    less | same | more
  · exact .inr (.inl less)
  · rcases le_total first.display second.display with inOrder | inOrder
    · exact .inl (.inr ⟨same, inOrder⟩)
    · exact .inr (.inr ⟨same.symm, inOrder⟩)
  · exact .inl (.inl more)

/-- The total of the rows with a key. -/
def groupOf (key : ExpenseRow → String) (display : String → String)
    (rows : List ExpenseRow) (name : String) : GroupTotal where
  key := name
  display := display name
  totalMinor := sumMinor (rows.filter fun row => key row = name)
  count := (rows.filter fun row => key row = name).length

/-- The totals of the groups, in order. -/
theorem groupTotals_eq
    (grouped : groupTotals key display rows = some totals) :
    totals = ((rows.map key).dedup.map (groupOf key display rows)).mergeSort
      isBefore := by
  simp only [groupTotals, Option.bind_eq_bind, Option.bind_eq_some_iff]
    at grouped
  obtain ⟨unsorted, mapped, sorted⟩ := grouped
  have shape : unsorted = (groups key rows).map fun group =>
      ⟨group.1, display group.1, sumMinor group.2, group.2.length⟩ := by
    refine eq_map_of_mapM (fun group total isRead => ?_) mapped
    obtain ⟨totalMinor, fits, rfl⟩ := Option.map_eq_some_iff.mp isRead
    rw [castBigint_eq_some fits]
  rw [← Option.some.inj sorted, shape, groups, List.map_map]
  rfl

section Grouped

variable (grouped : groupTotals key display rows = some totals)
include grouped

theorem groupTotals_perm :
    totals.Perm ((rows.map key).dedup.map (groupOf key display rows)) := by
  rw [groupTotals_eq grouped]
  exact List.mergeSort_perm _ _

theorem groupTotals_keys_nodup : (totals.map GroupTotal.key).Nodup := by
  have same := (groupTotals_perm grouped).map GroupTotal.key
  rw [List.map_map] at same
  refine same.nodup_iff.mpr ?_
  have keys : GroupTotal.key ∘ groupOf key display rows = id := rfl
  rw [keys, List.map_id]
  exact List.nodup_dedup _

theorem groupTotals_descending :
    totals.Pairwise fun first second =>
      second.totalMinor ≤ first.totalMinor := by
  rw [groupTotals_eq grouped]
  refine (List.pairwise_mergeSort isBefore_trans isBefore_total _).imp ?_
  intro first second inOrder
  simp only [isBefore, Bool.or_eq_true, Bool.and_eq_true, decide_eq_true_eq]
    at inOrder
  omega

theorem groupTotals_sum :
    (totals.map GroupTotal.totalMinor).sum = sumMinor rows := by
  rw [((groupTotals_perm grouped).map GroupTotal.totalMinor).sum_eq,
    List.map_map]
  exact sum_groups (List.nodup_dedup _) fun row member =>
    List.mem_dedup.mpr (List.mem_map_of_mem member)

theorem groupTotals_count :
    (totals.map GroupTotal.count).sum = rows.length := by
  rw [((groupTotals_perm grouped).map GroupTotal.count).sum_eq, List.map_map]
  have lengths (items : List ExpenseRow) :
      (items.map fun _ => 1).sum = items.length := by
    simp
  have summed : ((rows.map key).dedup.map fun name =>
      ((rows.filter fun row => key row = name).map fun _ => 1).sum).sum =
        (rows.map fun _ => 1).sum :=
    sum_groups (List.nodup_dedup _) fun row member =>
      List.mem_dedup.mpr (List.mem_map_of_mem member)
  simp only [lengths] at summed
  exact summed

theorem groupTotals_mem {total : GroupTotal} (member : total ∈ totals) :
    total = groupOf key display rows total.key := by
  obtain ⟨name, _, rfl⟩ :=
    List.mem_map.mp ((groupTotals_perm grouped).mem_iff.mp member)
  rfl

end Grouped

end Totals

end SpendingTotals

namespace Insights

open SpendingTotals

/-- What an aggregate is about; `expenseIds` are the expenses among which the
statements select. -/
structure AggregateQuery where
  expenseIds : List Uuid
  displayNameVi : String → String
  accountId : Uuid
  periodStart : Timestamp
  periodEnd : Timestamp
  fallbackCurrency : String

section Computing

variable (query : AggregateQuery)

/-- `FROM expenses`. -/
def fromExpenses (view : BotStore) : List ExpenseRow :=
  query.expenseIds.filterMap fun id => view (.expense id)

/-- The confirmed expenses of the account in the period. -/
def selected (view : BotStore) : List ExpenseRow :=
  (fromExpenses query view).filter
    (inPeriod query.accountId query.periodStart query.periodEnd)

/-- `LEFT JOIN expense_drafts … JOIN categories`: an expense with the key of
its category. -/
def joinCategory (view : BotStore) (row : ExpenseRow) : Option ExpenseRow :=
  let draft := (row.receiptSubmissionId.bind fun id => view (.draft id)).filter
    (·.accountId = row.accountId)
  let key := ((some row.categoryKey).or (draft.map DraftRow.categoryKey)).getD
    "khac"
  if key ∈ categoryKeys then some { row with categoryKey := key } else none

/-- The statement on the totals. -/
def totalsStatement (view : BotStore) : Option PeriodTotals :=
  loadPeriodTotals (fromExpenses query view) query.accountId
    query.periodStart query.periodEnd query.fallbackCurrency

/-- The statement on the categories. -/
def categoryStatement (view : BotStore) : Option (List GroupTotal) :=
  groupTotals ExpenseRow.categoryKey query.displayNameVi
    ((selected query view).filterMap (joinCategory view))

/-- The statement on the merchants. -/
def merchantStatement (view : BotStore) : Option (List GroupTotal) :=
  (groupTotals ExpenseRow.description id (selected query view)).map
    (·.take 5)

/-- A statement whose sums may not fit. -/
def fetch {Value : Type} (message : String)
    (ask : BotStore → Option Value) : Statement Value :=
  .read (fun view =>
    match ask view with
    | none => .fail ⟨message⟩
    | some value => .done value) (.fail ⟨message⟩)

/-- `compute_aggregate`. -/
def computeAggregate : Statement InsightAggregate := do
  let totals ← fetch "insight totals query failed" (totalsStatement query)
  let byCategory ← fetch "insight category query failed"
    (categoryStatement query)
  let topMerchants ← fetch "insight merchant query failed"
    (merchantStatement query)
  pure ⟨totals.totalMinor, totals.currency, totals.count, byCategory,
    topMerchants⟩

end Computing

section Consistency

variable {query : AggregateQuery}

/-- The parts of an aggregate agree. -/
structure Consistent (aggregate : InsightAggregate) : Prop where
  sums : (aggregate.byCategory.map GroupTotal.totalMinor).sum =
    aggregate.totalMinor
  counts : (aggregate.byCategory.map GroupTotal.count).sum = aggregate.txCount
  distinct : (aggregate.byCategory.map GroupTotal.key).Nodup
  descending : aggregate.byCategory.Pairwise fun first second =>
    second.totalMinor ≤ first.totalMinor
  merchants : ∀ merchant ∈ aggregate.topMerchants,
    merchant.totalMinor ≤ aggregate.totalMinor ∧
      merchant.count ≤ aggregate.txCount

/-- The confirmed expenses of the period that the three statements see: as
many and with as large a sum for the categories as for the totals, and no more
of any merchant that is read. -/
structure StatementsAgree (query : AggregateQuery)
    (totals categories merchants : BotStore) : Prop where
  sums : sumMinor (selected query categories) =
    sumMinor (selected query totals)
  counts : (selected query categories).length =
    (selected query totals).length
  merchants : ∀ merchant ∈ (merchantStatement query merchants).getD [],
    let rows := (selected query merchants).filter
      (·.description = merchant.key)
    sumMinor rows ≤ sumMinor (selected query totals) ∧
      rows.length ≤ (selected query totals).length

/-- The category of every expense exists, as the foreign key demands. -/
def CategoriesExist (view : BotStore) : Prop :=
  ∀ id row, view (.expense id) = some row → row.categoryKey ∈ categoryKeys

/-- The joins neither drop nor duplicate an expense. -/
theorem filterMap_joinCategory {view : BotStore}
    (exist : CategoriesExist view) :
    (selected query view).filterMap (joinCategory view) =
      selected query view := by
  have joined : ∀ row ∈ selected query view,
      joinCategory view row = some row := by
    intro row member
    obtain ⟨id, -, present⟩ :=
      List.mem_filterMap.mp (List.mem_of_mem_filter member)
    unfold joinCategory
    simp only [Option.some_or, Option.getD_some]
    exact if_pos (exist id row present)
  rw [List.filterMap_congr joined]
  exact List.filterMap_some

theorem consistent_iff {totals categories merchants : BotStore}
    {periodTotals : PeriodTotals} {byCategory topMerchants : List GroupTotal}
    (exist : CategoriesExist categories)
    (readTotals : totalsStatement query totals = some periodTotals)
    (readCategories : categoryStatement query categories = some byCategory)
    (readMerchants : merchantStatement query merchants =
      some topMerchants) :
    Consistent ⟨periodTotals.totalMinor, periodTotals.currency,
      periodTotals.count, byCategory, topMerchants⟩ ↔
        StatementsAgree query totals categories merchants := by
  have isTotal : periodTotals.totalMinor = sumMinor (selected query totals) :=
    totalMinor_of_selectTotals readTotals
  have isCount : periodTotals.count = (selected query totals).length := by
    obtain ⟨_, _, rfl⟩ := Option.map_eq_some_iff.mp readTotals
    rfl
  rw [categoryStatement, filterMap_joinCategory exist] at readCategories
  have merchantsRead : (merchantStatement query merchants).getD [] =
      topMerchants := by
    rw [readMerchants, Option.getD_some]
  obtain ⟨allMerchants, grouped, rfl⟩ :=
    Option.map_eq_some_iff.mp readMerchants
  have merchantTotals (merchant : GroupTotal)
      (member : merchant ∈ allMerchants.take 5) :
      merchant = groupOf ExpenseRow.description id
        (selected query merchants) merchant.key :=
    groupTotals_mem grouped (List.mem_of_mem_take member)
  constructor
  · intro consistent
    refine ⟨?_, ?_, ?_⟩
    · rw [← groupTotals_sum readCategories, ← isTotal]
      exact consistent.sums
    · rw [← groupTotals_count readCategories, ← isCount]
      exact consistent.counts
    · rw [merchantsRead]
      intro merchant member
      have bounds := consistent.merchants merchant member
      rw [merchantTotals merchant member] at bounds
      rw [← isTotal, ← isCount]
      exact bounds
  · intro agree
    refine ⟨?_, ?_, groupTotals_keys_nodup readCategories,
      groupTotals_descending readCategories, ?_⟩
    · rw [groupTotals_sum readCategories, isTotal]
      exact agree.sums
    · rw [groupTotals_count readCategories, isCount]
      exact agree.counts
    · intro merchant member
      have bounds := agree.merchants merchant (merchantsRead ▸ member)
      rw [← isTotal, ← isCount] at bounds
      rw [merchantTotals merchant member]
      exact bounds

theorem sumMinor_filter_le {rows : List ExpenseRow} {kept : ExpenseRow → Bool}
    (positive : ∀ row ∈ rows, 0 < row.amountMinor) :
    sumMinor (rows.filter kept) ≤ sumMinor rows := by
  induction rows with
  | nil => exact le_rfl
  | cons row rows induction =>
      have rest := induction fun other inside =>
        positive other (List.mem_cons_of_mem _ inside)
      have first := positive row List.mem_cons_self
      simp only [sumMinor] at rest ⊢
      cases keeps : kept row with
      | false =>
          rw [List.filter_cons_of_neg (by simp [keeps]), List.map_cons,
            List.sum_cons]
          omega
      | true =>
          rw [List.filter_cons_of_pos keeps, List.map_cons, List.map_cons,
            List.sum_cons, List.sum_cons]
          omega

/-- If every statement sees the same expenses, all of them positive, the
statements agree. -/
theorem statementsAgree_of_same {totals categories merchants : BotStore}
    (sameCategories : selected query categories = selected query totals)
    (sameMerchants : selected query merchants = selected query totals)
    (positive : ∀ row ∈ selected query totals, 0 < row.amountMinor) :
    StatementsAgree query totals categories merchants := by
  refine ⟨by rw [sameCategories], by rw [sameCategories], ?_⟩
  intro merchant member
  rw [sameMerchants]
  exact ⟨sumMinor_filter_le positive, List.length_filter_le _ _⟩

end Consistency

section Runs

variable {Request : Type}
variable {program : Request → Statement InsightAggregate}
variable {first last : Pool (Database BotRow InsightEvent)
  (SessionTask BotRow InsightEvent InsightError InsightAggregate)}
variable {query : AggregateQuery} {owner : Nat} {own : Overlay BotRow}
variable {aggregate : InsightAggregate}

/-- What a statement fetches is read from the rows committed at one point of
the run. -/
theorem exists_fetched {Value : Type} {message : String}
    {ask : BotStore → Option Value}
    {rest : Value → Statement InsightAggregate}
    (run : SessionReaches program first last)
    (begins : first.tasks owner =
      some (.running own (fetch message ask >>= rest)))
    (ends : last.tasks owner = some (.ended (.ok aggregate))) :
    ∃ middle after value, SessionReaches program first middle ∧
      SessionReaches program middle after ∧
      SessionReaches program after last ∧
      ask (own.view middle.world.store) = some value ∧
      after.tasks owner = some (.running own (rest value)) := by
  obtain ⟨middle, after, reaches, taken, rests, found⟩ :=
    exists_reading run begins ends
  cases answer : ask (own.view middle.world.store) with
  | some value =>
      refine ⟨middle, after, value, reaches, taken, rests, answer, ?_⟩
      rw [found]
      simp only [answer]
      rfl
  | none =>
      simp only [answer] at found
      have failed : Except.ok aggregate =
          .error (InsightError.mk message) :=
        LeadsTo.ended rests (.inl ⟨own, _, found, rfl⟩) ends
      cases failed

/-- The aggregate is what the three statements read from these rows. -/
def ReadFrom (query : AggregateQuery) (aggregate : InsightAggregate)
    (totals categories merchants : BotStore) : Prop :=
  ∃ periodTotals byCategory topMerchants,
    totalsStatement query totals = some periodTotals ∧
    categoryStatement query categories = some byCategory ∧
    merchantStatement query merchants = some topMerchants ∧
    aggregate = ⟨periodTotals.totalMinor, periodTotals.currency,
      periodTotals.count, byCategory, topMerchants⟩

/-- The statements of an aggregate see the rows committed at three points of
the run, under the writes of their own transaction. -/
theorem exists_snapshots
    (run : SessionReaches program first last)
    (begins : first.tasks owner =
      some (.running own (computeAggregate query)))
    (ends : last.tasks owner = some (.ended (.ok aggregate))) :
    ∃ one two three, SessionReaches program first one ∧
      SessionReaches program one two ∧ SessionReaches program two three ∧
      SessionReaches program three last ∧
      ReadFrom query aggregate (own.view one.world.store)
        (own.view two.world.store) (own.view three.world.store) := by
  obtain ⟨one, afterOne, totals, reachesOne, fromOne, run, readTotals,
    begins⟩ := exists_fetched run begins ends
  obtain ⟨two, afterTwo, byCategory, reachesTwo, fromTwo, run,
    readCategories, begins⟩ := exists_fetched run begins ends
  obtain ⟨three, afterThree, topMerchants, reachesThree, fromThree, run,
    readMerchants, begins⟩ := exists_fetched run begins ends
  have returned : Except.ok aggregate = .ok ⟨totals.totalMinor,
      totals.currency, totals.count, byCategory, topMerchants⟩ :=
    LeadsTo.ended run (.inl ⟨own, _, begins, rfl⟩) ends
  exact ⟨one, two, three, reachesOne, fromOne.trans reachesTwo,
    fromTwo.trans reachesThree, fromThree.trans run, totals, byCategory,
    topMerchants, readTotals, readCategories, readMerchants,
    Except.ok.inj returned⟩

/-- However other sessions commit while an aggregate is computed, its
statements read at three points of the run, and the aggregate is consistent
exactly if what they see agrees.  It is, if the confirmed expenses of the
period, all of them positive, stay as they are. -/
theorem aggregate_consistent_iff
    (run : SessionReaches program first last)
    (begins : first.tasks owner =
      some (.running own (computeAggregate query)))
    (ends : last.tasks owner = some (.ended (.ok aggregate)))
    (exist : ∀ middle, SessionReaches program first middle →
      CategoriesExist (own.view middle.world.store)) :
    (∃ one two three, SessionReaches program first one ∧
      SessionReaches program one two ∧ SessionReaches program two three ∧
      SessionReaches program three last ∧
      ReadFrom query aggregate (own.view one.world.store)
        (own.view two.world.store) (own.view three.world.store) ∧
      (Consistent aggregate ↔ StatementsAgree query
        (own.view one.world.store) (own.view two.world.store)
        (own.view three.world.store))) ∧
    ((∀ middle, SessionReaches program first middle →
        SessionReaches program middle last →
        selected query (own.view middle.world.store) =
          selected query (own.view first.world.store)) →
      (∀ row ∈ selected query (own.view first.world.store),
        0 < row.amountMinor) →
      Consistent aggregate) := by
  obtain ⟨one, two, three, toOne, toTwo, toThree, toLast, readFrom⟩ :=
    exists_snapshots run begins ends
  obtain ⟨totals, byCategory, topMerchants, readTotals, readCategories,
    readMerchants, rfl⟩ := readFrom
  have agrees := consistent_iff (exist two (toOne.trans toTwo)) readTotals
    readCategories readMerchants
  refine ⟨⟨one, two, three, toOne, toTwo, toThree, toLast,
    ⟨totals, byCategory, topMerchants, readTotals, readCategories,
      readMerchants, rfl⟩, agrees⟩, fun stays positive => agrees.mpr ?_⟩
  have sameOne := stays one toOne (toTwo.trans (toThree.trans toLast))
  have sameTwo := stays two (toOne.trans toTwo) (toThree.trans toLast)
  have sameThree := stays three (toOne.trans (toTwo.trans toThree)) toLast
  rw [← sameOne] at sameTwo sameThree positive
  exact statementsAgree_of_same sameTwo sameThree positive

end Runs

section Samples

/-- A confirmed expense of one account on the first day. -/
def lunchRow (amountMinor : Int) : ExpenseRow where
  accountId := ⟨"account"⟩
  amountMinor := amountMinor
  currency := "VND"
  occurredAt := 1
  description := "pho"
  source := .manual
  state := .confirmed
  version := 1
  receiptSubmissionId := none
  categoryKey := "an-uong"
  transactionType := "expense"

def lunchQuery : AggregateQuery where
  expenseIds := [⟨"first"⟩, ⟨"second"⟩]
  displayNameVi := fun key => key
  accountId := ⟨"account"⟩
  periodStart := 0
  periodEnd := 10
  fallbackCurrency := "VND"

/-- A database with one confirmed expense. -/
def oneLunch : BotStore :=
  Function.update BotStore.initial (.expense ⟨"first"⟩)
    (some (lunchRow 45000))

/-- An aggregate is computed, or an expense is confirmed. -/
def lunchProgram : Bool → Statement InsightAggregate
  | true => computeAggregate lunchQuery
  | false =>
      .lock .exclusive (.expense ⟨"second"⟩) (fun _ => true)
        (fun _ => .write (.expense ⟨"second"⟩) (some (lunchRow 30000))
          (.commit .recorded (.fail ⟨"done"⟩) (.fail ⟨"commit failed"⟩)))
        (.fail ⟨"lock failed"⟩)

/-- The expense is confirmed after the totals have been read. -/
def racingLabels : List (Nat × SessionLabel Bool) :=
  [(0, .begin true), (0, .advance), (1, .begin false), (1, .advance),
    (1, .advance), (1, .advance), (0, .advance), (0, .advance),
    (0, .advance)]

theorem wp_fetch {rules : Discipline BotRow InsightEvent InsightError}
    {Value : Type} {message : String} {ask : BotStore → Option Value}
    {own : Overlay BotRow} {store : BotStore}
    {post : Value → Overlay BotRow → BotStore → Prop}
    (refused : rules.refusal ⟨message⟩ store)
    (fetched : ∀ value, post value own store) :
    rules.wp (fetch message ask) own store post := by
  refine ⟨fun older _ => ?_, refused⟩
  cases answer : ask (own.view older) with
  | none =>
      simp only [answer]
      exact refused
  | some value =>
      simp only [answer]
      exact fetched value

/-- A ride, of another category and merchant than lunch. -/
def rideRow : ExpenseRow :=
  { lunchRow 30000 with description := "xe om", categoryKey := "di-lai" }

/-- The lunch of another account. -/
def strangerRow : ExpenseRow :=
  { lunchRow 80000 with accountId := ⟨"stranger"⟩ }

/-- A database with two lunches and a ride. -/
def threeExpenses : BotStore :=
  Function.update (Function.update oneLunch (.expense ⟨"second"⟩)
    (some rideRow)) (.expense ⟨"third"⟩) (some (lunchRow 55000))

/-- The same database with the lunch of another account. -/
def besideStranger : BotStore :=
  Function.update threeExpenses (.expense ⟨"stranger"⟩) (some strangerRow)

def groupsQuery : AggregateQuery :=
  { lunchQuery with
    expenseIds := [⟨"first"⟩, ⟨"second"⟩, ⟨"third"⟩, ⟨"stranger"⟩] }

/-- An aggregate is computed, or the lunch of another account is confirmed. -/
def strangerProgram : Bool → Statement InsightAggregate
  | true => computeAggregate groupsQuery
  | false => do
      .upsertRow ⟨"insert failed"⟩ (.expense ⟨"stranger"⟩) strangerRow id
      .commitTransaction ⟨"commit failed"⟩ .recorded
      .fail ⟨"done"⟩

/-- Only the lunch of another account is committed. -/
def strangerRules : Discipline BotRow InsightEvent InsightError where
  invariant now := now = threeExpenses ∨ now = besideStranger
  advances _ _ := True
  permitted _ _ := True
  guarantee _ _ after := after = besideStranger
  refusal _ _ := True
  advances_refl _ := trivial
  advances_trans _ _ := trivial
  keeps _ guaranteed := ⟨.inr guaranteed, trivial⟩

theorem strangerProgram_isHarmless
    {pool : Pool (Database BotRow InsightEvent)
      (SessionTask BotRow InsightEvent InsightError InsightAggregate)}
    (run : SessionReaches strangerProgram
      (Pool.idle (Database.fresh threeExpenses)) pool) :
    pool.world.store = threeExpenses ∨ pool.world.store = besideStranger := by
  have verifies : Discipline.VerifiesAll strangerRules (fun _ _ => True)
      strangerProgram (fun _ _ => True) := by
    refine Discipline.VerifiesAll.of_wp fun request store holds => ?_
    cases request with
    | true =>
        refine Discipline.wp_monad_bind.mpr (wp_fetch trivial fun _ => ?_)
        refine Discipline.wp_monad_bind.mpr (wp_fetch trivial fun _ => ?_)
        refine Discipline.wp_monad_bind.mpr (wp_fetch trivial fun _ => ?_)
        exact Discipline.wp_pure.mpr trivial
    | false =>
        refine Discipline.wp_monad_bind.mpr
          (Discipline.wp_upsertRow trivial ?_)
        refine Discipline.wp_monad_bind.mpr
          (Discipline.wp_commitTransaction (fun _ => trivial) fun _ =>
            ⟨?_, fun _ _ => trivial⟩)
        rw [Overlay.set_view, Overlay.none_view]
        rcases holds with rfl | rfl
        · rfl
        · exact Function.update_idem ..
  have holds := Discipline.sound_of_reaches verifies (.inl rfl)
    (fun _ _ _ => ⟨fun _ _ _ _ _ _ => trivial, fun _ _ _ _ => trivial⟩) run
  exact holds.shared.invariant

theorem CategoriesExist.update {view : BotStore} {id : Uuid}
    {row : ExpenseRow} (exist : CategoriesExist view)
    (isCategory : row.categoryKey ∈ categoryKeys) :
    CategoriesExist (Function.update view (.expense id) (some row)) := by
  intro other found present
  by_cases same : other = id
  · subst same
    rw [Function.update_self, Option.some.injEq] at present
    rw [← present]
    exact isCategory
  · rw [Function.update_of_ne (by simpa using same)] at present
    exact exist other found present

theorem threeExpenses_categories : CategoriesExist threeExpenses := by
  have nothing : CategoriesExist BotStore.initial := by
    intro id row present
    cases present
  exact ((nothing.update (by decide)).update (by decide)).update (by decide)

theorem aggregate_consistent_iff_beside :
    ∃ pool aggregate,
      SessionReaches strangerProgram
        (Pool.idle (Database.fresh threeExpenses)) pool ∧
      pool.world.store (.expense ⟨"stranger"⟩) = some strangerRow ∧
      pool.tasks 0 = some (.ended (.ok aggregate)) ∧
      aggregate.byCategory.length = 2 ∧ Consistent aggregate := by
  let begun : Pool (Database BotRow InsightEvent)
      (SessionTask BotRow InsightEvent InsightError InsightAggregate) :=
    ⟨Database.fresh threeExpenses, Function.update (fun _ => none) 0
      (some (.running Overlay.none (computeAggregate groupsQuery)))⟩
  have begins : SessionReaches strangerProgram
      (Pool.idle (Database.fresh threeExpenses)) begun :=
    reaches_of_runLabels (permits_anyStep _ [(0, .begin true)]) rfl
  have harmless (middle : Pool (Database BotRow InsightEvent)
        (SessionTask BotRow InsightEvent InsightError InsightAggregate))
      (reached : SessionReaches strangerProgram begun middle) :=
    strangerProgram_isHarmless (begins.trans reached)
  let aggregate : InsightAggregate := ⟨130000, "VND", 3,
    [⟨"di-lai", "di-lai", 30000, 1⟩,
      ⟨"an-uong", "an-uong", 100000, 2⟩].mergeSort isBefore,
    ([⟨"xe om", "xe om", 30000, 1⟩,
      ⟨"pho", "pho", 100000, 2⟩].mergeSort isBefore).take 5⟩
  have run : ∃ last, SessionReaches strangerProgram begun last ∧
      last.world.store (.expense ⟨"stranger"⟩) = some strangerRow ∧
      last.tasks 0 = some (.ended (.ok aggregate)) :=
    ⟨_, reaches_of_runLabels (permits_anyStep _ [(0, .advance),
      (1, .begin false), (1, .advance), (1, .advance), (1, .advance),
      (0, .advance), (0, .advance), (0, .advance)]) rfl, rfl, rfl⟩
  obtain ⟨last, run, stored, ends⟩ := run
  refine ⟨last, aggregate, begins.trans run, stored, ends, ?_, ?_⟩
  · exact List.length_mergeSort _
  refine (aggregate_consistent_iff run rfl ends ?_).2 ?_ ?_
  · intro middle reached
    rcases harmless middle reached with same | same <;> rw [same]
    · exact threeExpenses_categories
    · exact threeExpenses_categories.update (by decide)
  · intro middle reached _
    rcases harmless middle reached with same | same <;> rw [same] <;> rfl
  · intro row member
    have positive : ∀ row ∈ [lunchRow 45000, rideRow, lunchRow 55000],
        0 < row.amountMinor := by
      decide
    exact positive row member

theorem confirmed_meanwhile_is_inconsistent :
    ∃ pool aggregate,
      runLabels (poolStep (sessionAct lunchProgram))
        (Pool.idle (Database.fresh oneLunch)) racingLabels = some pool ∧
      pool.tasks 0 = some (.ended (.ok aggregate)) ∧
      ¬ Consistent aggregate := by
  refine ⟨_, ⟨45000, "VND", 1,
    [⟨"an-uong", "an-uong", 75000, 2⟩].mergeSort isBefore,
    ([⟨"pho", "pho", 75000, 2⟩].mergeSort isBefore).take 5⟩, rfl, rfl,
    fun consistent => ?_⟩
  have sums := consistent.sums
  simp at sums

end Samples

end Insights

end ZaloBot
