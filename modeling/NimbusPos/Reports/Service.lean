import NimbusPos.Accounting.Schema
import NimbusPos.Common

/-!
# Reports

A report is asked for a window of time, is noted as pending, and completed with what its
generator finds. The cash variance report lists till sessions.
-/

namespace NimbusPos.ReportsService

open Lib

inductive ReportType
  | shiftEnd
  | dailySales
  | paymentMix
  | topItems
  | stockVariance
  | anomalySummary
  | reservationSummary
  | eventSummary
  | salesByCategory
  | salesByHour
  | discountsSummary
  | voidsSummary
  | refundsSummary
  | cashVariance
  | cashMovements
  | wastageSummary
  | lowStock
  | reservationDeposits
  | reservationNoShows
  | eventBookings
  | eventCheckins
  | staffOperations
  | highRiskActors
  | openClosedOrders
  | reportCatalog
  deriving DecidableEq, Repr

inductive ReportWindow
  | day
  | week
  | month
  | custom
  deriving DecidableEq, Repr

inductive ReportRunStatus
  | pending
  | completed
  | failed
  deriving DecidableEq, Repr

structure ReportRun (α : Type) where
  orgId : Id
  branchId : Id
  reportType : ReportType
  reportWindow : ReportWindow
  requestedById : Id
  status : ReportRunStatus
  dateFrom : Time
  dateTo : Time
  parameters : Option String
  rowCount : Nat := 0
  summary : Option α := none
  generatedAt : Option Time := none
  failedAt : Option Time := none
  failureReason : Option String := none
  deriving DecidableEq, Repr

/-- `CreateCashVarianceReportDto` -/
structure ReportRequest where
  reportWindow : ReportWindow
  dateFrom : Option Time := none
  dateTo : Option Time := none
  parameters : Option String := none
  deriving DecidableEq, Repr

-- ---
-- The window
-- ---

/-- The server's local calendar: where the day, the week and the month of a time begin, and
the month after. -/
structure Calendar where
  day : Time → Time
  week : Time → Time
  month : Time → Time
  nextMonth : Time → Time

/-- The first time of the window, and the first one behind it. -/
structure Range where
  first : Time
  behind : Time
  deriving DecidableEq, Repr

def Range.has (range : Range) (time : Time) : Bool := range.first ≤ time && time < range.behind

def resolveRange (calendar : Calendar) (now : Time) (request : ReportRequest) :
    Except HttpError Range :=
  match request.reportWindow with
  | .custom =>
    match request.dateFrom, request.dateTo with
    | some dateFrom, some dateTo => .ok ⟨dateFrom, dateTo⟩
    | _, _ => .error (badRequest "dateFrom and dateTo required for CUSTOM window")
  | .day => .ok ⟨calendar.day now, calendar.day now + 24 * 60 * 60 * 1000⟩
  | .week => .ok ⟨calendar.week now, calendar.week now + 7 * 24 * 60 * 60 * 1000⟩
  | .month => .ok ⟨calendar.month now, calendar.nextMonth now⟩

/-- The run is written as pending, and again with what came of it. -/
def executeReport {α : Type} (calendar : Calendar) (now : Time) (runs : Table (ReportRun α))
    (ctx : BranchContext) (requestedById : Id) (reportType : ReportType) (request : ReportRequest)
    (generator : Range → Except HttpError (α × Nat)) :
    Table (ReportRun α) × Except HttpError (Id × ReportRun α) :=
  match resolveRange calendar now request with
  | .error e => (runs, .error e)
  | .ok range =>
    let run : ReportRun α :=
      { orgId := ctx.organizationId, branchId := ctx.branchId, reportType
        reportWindow := request.reportWindow, requestedById, status := .pending
        dateFrom := range.first, dateTo := range.behind, parameters := request.parameters }
    let updated (data : ReportRun α → ReportRun α) := (runs.insert run).update runs.next data
    match generator range with
    | .ok (summary, rowCount) =>
      let complete (run : ReportRun α) : ReportRun α :=
        { run with status := .completed, summary := some summary, rowCount,
                   generatedAt := some now }
      (updated complete, .ok (runs.next, complete run))
    | .error e =>
      (updated fun run =>
        { run with status := .failed, failedAt := some now, failureReason := some e.message },
        .error e)

-- ---
-- Cash variance
-- ---

structure TillLine where
  tillId : Id
  tillCode : String
  operatorEmail : String
  openingFloat : String
  expectedCash : String
  countedCash : Option String
  variance : Option String
  varianceStatus : Option VarianceStatus
  deriving DecidableEq, Repr

structure CashVarianceSummary where
  tillCount : Nat
  totalVariance : String
  tillBreakdown : List TillLine
  deriving DecidableEq, Repr

/-- `where: { orgId, branchId, status: 'CLOSED', closedAt }` -/
def closedIn (ctx : BranchContext) (range : Range) (_ : Id) (till : TillSession) : Bool :=
  till.orgId == ctx.organizationId && till.branchId == ctx.branchId && till.status == .closed &&
    till.closedAt.any range.has

def tillLine (email : Id → String) (row : Id × TillSession) : TillLine where
  tillId := row.1
  tillCode := row.2.tillCode
  operatorEmail := email row.2.operatorUserId
  openingFloat := amountText row.2.openingFloat
  expectedCash := amountText row.2.expectedCash
  countedCash := row.2.countedCash.map fun (amount : Cents) => amountText amount
  variance := row.2.variance.map fun (amount : Cents) => amountText amount
  varianceStatus := row.2.varianceStatus

def cashVariance (email : Id → String) (tills : List (Id × TillSession)) : CashVarianceSummary where
  tillCount := tills.length
  totalVariance := amountText ((tills.map fun row => row.2.variance.getD 0).sum : Cents)
  tillBreakdown := tills.map (tillLine email)

/-- `email` is that of a user. -/
def generateCashVarianceReport (calendar : Calendar) (email : Id → String) (s : Store)
    (runs : Table (ReportRun CashVarianceSummary)) (ctx : BranchContext) (requestedById : Id)
    (request : ReportRequest) :
    Table (ReportRun CashVarianceSummary) ×
      Except HttpError (Id × ReportRun CashVarianceSummary) :=
  executeReport calendar s.clock runs ctx requestedById .cashVariance request fun range =>
    let tills := s.tillSessions.findMany (closedIn ctx range)
    .ok (cashVariance email tills, tills.length)

theorem generateCashVarianceReport_ok
    (h : (generateCashVarianceReport calendar email s runs ctx requestedById request).2 =
      .ok (runId, run)) :
    ∃ range, resolveRange calendar s.clock request = .ok range ∧
      run.summary = some (cashVariance email (s.tillSessions.findMany (closedIn ctx range))) := by
  unfold generateCashVarianceReport executeReport at h
  cases hrange : resolveRange calendar s.clock request with
  | error e =>
    rw [hrange] at h
    cases h
  | ok range =>
    rw [hrange] at h
    cases h
    exact ⟨range, rfl, rfl⟩

end NimbusPos.ReportsService
