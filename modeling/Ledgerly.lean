import Ledgerly.DoubleEntry
import Ledgerly.BackendEquivalence
import Ledgerly.ChangeLog
import Ledgerly.PullCursor
import Ledgerly.TenantIsolation
import Ledgerly.VersionChain
import Ledgerly.SyncService
import Ledgerly.BookLog
import Ledgerly.SyncWorld
import Ledgerly.SentMutation
import Ledgerly.Convergence
import Ledgerly.OfflineSync
import Ledgerly.Wedge
import Ledgerly.Admission
import Ledgerly.Delivery
import Ledgerly.Compaction
import Ledgerly.CategoryTree
import Ledgerly.SyncLocks
import Ledgerly.SessionSafety
import Ledgerly.SessionEpochSafe
import Ledgerly.AutoLedgerCapture
import Ledgerly.Rescue
import Ledgerly.RecurringOnce
import Ledgerly.RecurringBooked
import Ledgerly.JobQueue
import Ledgerly.JobConservation
import Ledgerly.IncrementalLaw
import Ledgerly.Attachments
import Ledgerly.PartAcks
import Ledgerly.RetentionBases
import Ledgerly.ReadyBytes
import Ledgerly.CategoryForest
import Ledgerly.CategorySync
import Ledgerly.TransactionRule
import Ledgerly.PullPaging
import Ledgerly.FailedPush
import Ledgerly.TrueDedup
import Ledgerly.LoggedRow
import Ledgerly.Bootstrap
import Ledgerly.ServerReports
import Ledgerly.LocalReports
import Ledgerly.LedgerCsv
import Ledgerly.CsvColumns
import Ledgerly.CsvRoundTrip
import Ledgerly.PartPlan
import Ledgerly.MonthQuery
import Ledgerly.BudgetReport
import Ledgerly.ReportSums
import Ledgerly.SummaryWindow
import Ledgerly.OccurredAt
import Ledgerly.AccountIds
import Ledgerly.EditProvenance
import Ledgerly.RecurringStarvation
import Ledgerly.KeepLocal
import Ledgerly.CustomRange
import Ledgerly.AuditTrail
import Ledgerly.RecurringDates
import Ledgerly.BundleRetention
import Ledgerly.MerchantRules
import Ledgerly.AttachmentBackup
import Ledgerly.ImportedDates
import Ledgerly.SignedUrls
import Ledgerly.ServerRestore
import Ledgerly.JsonReader
import Ledgerly.BackupContainers
import Ledgerly.PlainArchive
import Ledgerly.EncryptedArchive
import Ledgerly.Library.Base64
import Ledgerly.DisplayedAmounts
import Ledgerly.MerchantCategories
import Ledgerly.MonthBalance
import Ledgerly.BudgetSpending
import Ledgerly.CapturedAmount
import Ledgerly.UnparsedQueue
import Ledgerly.StuckUploads
import Ledgerly.EndpointSafety
import Ledgerly.FailureRecords
import Ledgerly.BundleTampering
import Ledgerly.ServerRecovery
import Ledgerly.DeviceRestore
import Ledgerly.RestoreOutcome
import Ledgerly.RestoredDevice
