import NimbusPos.Access.Branches
import NimbusPos.AccountsPayable.OneBill
import NimbusPos.AccountsPayable.ServicePeriods
import NimbusPos.AccountsPayable.SubLedger
import NimbusPos.AccountsReceivable.Aging
import NimbusPos.AccountsReceivable.OnBooks
import NimbusPos.AccountsReceivable.StoredTotals
import NimbusPos.AccountsReceivable.SubLedger
import NimbusPos.Alerts.NextRun
import NimbusPos.Alerts.Retries
import NimbusPos.Analytics.Recalculation
import NimbusPos.Analytics.Service
import NimbusPos.Attendance.ClockCalls
import NimbusPos.Attendance.Exclusivity
import NimbusPos.Auth.Logouts
import NimbusPos.Auth.PasswordChanges
import NimbusPos.Auth.QuickPinLimit
import NimbusPos.Auth.QuickPinStrength
import NimbusPos.BankRec.Completion
import NimbusPos.BankRec.Matches
import NimbusPos.BankRec.RetainedEarnings
import NimbusPos.BankRec.Totals
import NimbusPos.Billing.LocationCap
import NimbusPos.Billing.PaidPlan
import NimbusPos.Billing.Periods
import NimbusPos.Budget.Actuals
import NimbusPos.Budget.Covers
import NimbusPos.Budget.Forecast
import NimbusPos.Cashier.Caps
import NimbusPos.Cashier.Refunds
import NimbusPos.Cashier.SplitAgreement
import NimbusPos.ClientOnboarding.InvitationLife
import NimbusPos.ControlPlane.Isolation
import NimbusPos.ControlPlane.OneTraining
import NimbusPos.DeviceRegistry.Registry
import NimbusPos.Discounts.Agreement
import NimbusPos.Discounts.Threshold
import NimbusPos.Events.Capacity
import NimbusPos.Events.CheckIns
import NimbusPos.Exports.Listing
import NimbusPos.Feedback.OneAnswer
import NimbusPos.FranchiseAnalytics.Windows
import NimbusPos.History
import NimbusPos.HmsIntegration.Isolation
import NimbusPos.Inventory.Fifo
import NimbusPos.Inventory.LowStock
import NimbusPos.Inventory.OnHand
import NimbusPos.Isolation
import NimbusPos.Kds.Completeness
import NimbusPos.Kds.Queue
import NimbusPos.Ledger.DoubleEntry
import NimbusPos.Ledger.PeriodLife
import NimbusPos.Ledger.Postings
import NimbusPos.Ledger.ReversalCalls
import NimbusPos.Lib.Csv
import NimbusPos.Lib.Failures
import NimbusPos.Lib.Json
import NimbusPos.Lib.Serial
import NimbusPos.Menu.Catalogue
import NimbusPos.Menu.Service
import NimbusPos.MerchantPayments.Readiness
import NimbusPos.OrderLifecycle
import NimbusPos.OrderMoney
import NimbusPos.OrderNumbers
import NimbusPos.OrderPayments
import NimbusPos.Orders.LostEdits
import NimbusPos.Payments.Captured
import NimbusPos.Payments.Closing
import NimbusPos.Payments.Confirmed
import NimbusPos.Payments.IntentKeys
import NimbusPos.Payments.Processed
import NimbusPos.Payments.Redelivery
import NimbusPos.Payroll.SinglePayment
import NimbusPos.PosHandoff.Balance
import NimbusPos.PosHandoff.Conservation
import NimbusPos.PosHandoff.CostConservation
import NimbusPos.PosHandoff.Merges
import NimbusPos.PublicCommerce.Overbooking
import NimbusPos.Receipts.Agreement
import NimbusPos.Recipes.Agreement
import NimbusPos.Refunds.Conservation
import NimbusPos.Refunds.VoidWindow
import NimbusPos.Reliability.Intents
import NimbusPos.Reliability.Replay
import NimbusPos.Reliability.StableStringify
import NimbusPos.Reliability.SyncLifecycle
import NimbusPos.Reliability.Tenants
import NimbusPos.Reports.Agreement
import NimbusPos.Reports.CashVariance
import NimbusPos.Reports.Csv
import NimbusPos.Reservations.Exclusivity
import NimbusPos.Reservations.FailedSeating
import NimbusPos.Reservations.Lifecycle
import NimbusPos.Shifts.Agreement
import NimbusPos.Shifts.Custody
import NimbusPos.Staff.Codes
import NimbusPos.Staff.DefaultBranch
import NimbusPos.Staff.Schema
import NimbusPos.Staff.Service
import NimbusPos.StaffInsights.Scores
import NimbusPos.TableRelease
import NimbusPos.Tills.ExpectedCash
import NimbusPos.UnifiedApprovals.Decisions
import NimbusPos.UnifiedApprovals.Paging
import NimbusPos.Waiter.Modifiers
import NimbusPos.Workforce.CoverageGaps
import NimbusPos.Writes
