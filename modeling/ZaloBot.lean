import ZaloBot.AggregateSnapshots
import ZaloBot.LabelledRuns
import ZaloBot.TaskPool
import ZaloBot.KeyedTable
import ZaloBot.Transactions
import ZaloBot.LeaseLedger
import ZaloBot.RustText
import ZaloBot.ErrorClass
import ZaloBot.WorkTypes
import ZaloBot.WorkStore
import ZaloBot.WorkLedger
import ZaloBot.WorkGuarantees
import ZaloBot.WorkClaiming
import ZaloBot.WorkRuns
import ZaloBot.WorkFencing
import ZaloBot.ClaimConcurrency
import ZaloBot.ClaimViews
import ZaloBot.ClaimExclusivity
import ZaloBot.AttemptAccounting
import ZaloBot.AttemptRuns
import ZaloBot.ProviderSend
import ZaloBot.MediaAddresses
import ZaloBot.MediaDownload
import ZaloBot.OutboundRows
import ZaloBot.IndeterminateSends
import ZaloBot.OutboundDelivery
import ZaloBot.OutboundResend
import ZaloBot.SessionPrograms
import ZaloBot.SessionRuns
import ZaloBot.SessionRules
import ZaloBot.SessionOutcomes
import ZaloBot.SessionFootprints
import ZaloBot.SessionEvents
import ZaloBot.SessionTriples
import ZaloBot.SessionComposition
import ZaloBot.SessionSolo
import ZaloBot.SessionTraces
import ZaloBot.SessionGrants
import ZaloBot.ReceiptTypes
import ZaloBot.BotRows
import ZaloBot.UsageQuota
import ZaloBot.ReceiptStatements
import ZaloBot.ReceiptLifecycle
import ZaloBot.ExpenseStatements
import ZaloBot.ReceiptStatementRules
import ZaloBot.ReceiptDiscipline
import ZaloBot.ReceiptVerification
import ZaloBot.ReceiptReviews
import ZaloBot.ReceiptMachine
import ZaloBot.ReceiptBooking
import ZaloBot.InsightNarratives
import ZaloBot.JobStatements
import ZaloBot.ReceiptFollowups
import ZaloBot.OutboxEnqueue
import ZaloBot.QuotaCharges
import ZaloBot.QuotaTransactions
import ZaloBot.QuotaEnforcement
import ZaloBot.OriginalCompensation
import ZaloBot.ReceiptWorker
import ZaloBot.WorkerExecutions
import ZaloBot.WorkerLeases
import ZaloBot.WorkerReceipts
import ZaloBot.RetentionPasses
import ZaloBot.ReceiptCustody
import ZaloBot.CustodyRules
import ZaloBot.CustodyOperations
import ZaloBot.ReceiptLeases
import ZaloBot.CustodyRequests
import ZaloBot.CustodyIngestion
import ZaloBot.WorkerCustody
import ZaloBot.DuplicateAbsorption
import ZaloBot.SpendingTotals
import ZaloBot.ConversationIntents
import ZaloBot.ConversationDecisions
import ZaloBot.ConversationAuthority
import ZaloBot.SessionFaults
import ZaloBot.JobExecutions
import ZaloBot.JobDispatch
import ZaloBot.DispatchReports
import ZaloBot.DispatchFaults
import ZaloBot.IngressContext
import ZaloBot.IngressEffects
import ZaloBot.IngressProcess
import ZaloBot.UpdateAtomicity
import ZaloBot.AmountCurrencies
import ZaloBot.DisplayedAmounts
import ZaloBot.ParsingSafety
import ZaloBot.CsvExport
import ZaloBot.DateEdits
import ZaloBot.StorableDrafts
import ZaloBot.RecentLedger
import ZaloBot.ClaimSelection
import ZaloBot.ReceiptAcceptance
import ZaloBot.ScheduleInstants
import ZaloBot.CalendarPeriods
import ZaloBot.DeliveryBrackets
import ZaloBot.SessionReadings
import ZaloBot.MerchantEdits
import ZaloBot.FoldedCuts
import ZaloBot.EditIntents
import ZaloBot.WordBoundaries
import ZaloBot.TextReplacements
import ZaloBot.Redaction
import ZaloBot.UnixPaths
import ZaloBot.ObjectPaths
import ZaloBot.SoloAttempts
import ZaloBot.ExtractionRuns
import ZaloBot.FailureMessages
import ZaloBot.UnsupportedImages
import ZaloBot.AmountEdits
import ZaloBot.ExactlyOnceIngress
import ZaloBot.PerformedEffects
import ZaloBot.AccountHistories
import ZaloBot.BotDecisions
import ZaloBot.ConsentedData
import ZaloBot.PromptAnswers
import ZaloBot.StaleReplies
