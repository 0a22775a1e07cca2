import ZaloBot.BotRows

/-!
# Usage counters

The atomic increment of a usage counter, as a statement over the bot's rows.
-/

namespace ZaloBot

open Sessions

/-- `QuotaOutcome::exceeded` of the counter after an increment. -/
def UsageCounterRow.exceeded (counter : UsageCounterRow) : Bool :=
  counter.limitValue < counter.count

namespace UsageQuota

def scopeAccount : String :=
  "account"

def scopeGlobal : String :=
  "global"

def globalScopeId : String :=
  "global"

def metricReceipts : String :=
  "receipts"

def metricExtractionPages : String :=
  "extraction_pages"

def metricZaloMessages : String :=
  "zalo_messages"

/-- A configured limit as a counter stores it: `i64::try_from(limit)`, or the
largest value. -/
def storedLimit (limit : Nat) : Int :=
  min limit 9223372036854775807

/-- `increment_in_transaction`: the counter after the increment. -/
def incrementInTransaction {Event Error : Type} (failed : Error)
    (scope scopeId period metric : String) (limit : Int) :
    Session BotRow Event Error UsageCounterRow :=
  .lock .exclusive (.usageCounter scope scopeId period metric)
    (fun _ => true)
    (fun counter =>
      let next : UsageCounterRow :=
        ⟨(counter.map UsageCounterRow.count).getD 0 + 1, limit⟩
      .write (.usageCounter scope scopeId period metric) (some next)
        (.done next))
    (.fail failed)

end UsageQuota

end ZaloBot
