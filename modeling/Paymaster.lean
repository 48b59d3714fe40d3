import Paymaster.Main
import Paymaster.Json.Record
import Paymaster.Payroll.Summary
import Paymaster.Retry.Script
import Paymaster.Scheduler.Timeline
import Paymaster.Config.Environment
import Paymaster.Connection.Opening
import Paymaster.Proofs.Ledger.Confined
import Paymaster.Proofs.Ledger.Posting
import Paymaster.Proofs.Ledger.Rows
import Paymaster.Proofs.Payroll.Settlement
import Paymaster.Proofs.Payroll.Runs
import Paymaster.Proofs.Payroll.Conservation
import Paymaster.Proofs.Calendar.Months
import Paymaster.Proofs.Calendar.MonthStarts
import Paymaster.Proofs.Retry.Invariant
import Paymaster.Proofs.Retry.Log
import Paymaster.Proofs.Scheduler.NextMonth
import Paymaster.Proofs.Text.Places
import Paymaster.Proofs.Calendar.StoredOrder
import Paymaster.Proofs.Payroll.Monthly
import Paymaster.Proofs.AutoBalance.Replacement
import Paymaster.Proofs.Payroll.Journal
import Paymaster.Proofs.Payroll.OncePerMonth
import Paymaster.Proofs.Payroll.NoTrace
import Paymaster.Proofs.Payroll.OneByOne
import Paymaster.Proofs.Retry.Cancellation
import Paymaster.Proofs.Scheduler.Cancellation
import Paymaster.Proofs.Error.Kinds
import Paymaster.Proofs.Retry.Settling
import Paymaster.Proofs.AutoBalance.Checks
import Paymaster.Proofs.Ledger.Following
import Paymaster.Proofs.Payroll.HalfWay
import Paymaster.Proofs.Payroll.Markers
import Paymaster.Proofs.WellFormed
import Paymaster.Proofs.Allocation.Weights
import Paymaster.Proofs.Allocation.Ranking
import Paymaster.Proofs.Allocation.Shares
import Paymaster.Proofs.Payroll.SideBySide
import Paymaster.Proofs.Payroll.Footprint
import Paymaster.Proofs.Payroll.Commuting
import Paymaster.Proofs.Scheduler.Delays
import Paymaster.Proofs.Calendar.FirstInstants
import Paymaster.Proofs.Payroll.Undated
import Paymaster.Proofs.AutoBalance.Listing
import Paymaster.Proofs.Payroll.Unhindered
import Paymaster.Proofs.Confidential
import Paymaster.Proofs.Calendar.SetBack
import Paymaster.Proofs.Scheduler.Repeats
import Paymaster.Proofs.Text.Bytes
import Paymaster.Proofs.Payroll.Eligibility
import Paymaster.Proofs.Calendar.Tiling
import Paymaster.Proofs.Ledger.Balances
import Paymaster.Proofs.Payroll.Deficits
import Paymaster.Proofs.Allocation.Words
import Paymaster.Proofs.Allocation.Limits
import Paymaster.Proofs.Calendar.Readings
import Paymaster.Proofs.Payroll.Failures
import Paymaster.Proofs.Allocation.Fairness
import Paymaster.Proofs.Allocation.Proportions
import Paymaster.Proofs.Payroll.Labels
import Paymaster.Proofs.Error.Validation
import Paymaster.Proofs.Retry.Hopeless
import Paymaster.Proofs.Text.Digits
import Paymaster.Proofs.Text.Amounts
import Paymaster.Proofs.Json.Strings
import Paymaster.Proofs.Json.RoundTrip
import Paymaster.Proofs.Calendar.ReadBack
import Paymaster.Proofs.Json.Records
import Paymaster.Proofs.Text.Utf8
import Paymaster.Proofs.FileTree.Directories
import Paymaster.Proofs.Connection.PlainPaths
import Paymaster.Proofs.Connection.Directory
