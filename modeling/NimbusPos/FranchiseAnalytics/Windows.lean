import NimbusPos.FranchiseAnalytics.Service
import NimbusPos.Lib.Windows

/-!
# Financials of consecutive windows

A window has both its ends, and a pay run or a budget counts in every window that its period
overlaps. `financials_by_window`: the figures of the windows are those of the span and, once more,
those at each cut.
-/

namespace NimbusPos.FranchiseAnalyticsService

open Lib
open BudgetService (Budget BudgetLine)

inductive Figure
  | revenue
  | cogs
  | laborCost
  | overheadCost
  | totalBudget
  | totalActual
  deriving DecidableEq, Repr

def BranchFinancials.of (financials : BranchFinancials) : Figure → Cents
  | .revenue => financials.revenue
  | .cogs => financials.cogs
  | .laborCost => financials.laborCost
  | .overheadCost => financials.overheadCost
  | .totalBudget => financials.totalBudget
  | .totalActual => financials.totalActual

section

variable (d : Database) (orgId branchId : Id)

def isClosed (order : Order) : Bool :=
  order.orgId == orgId && order.branchId == branchId && order.status == .closed

def isApproved (run : PayrollService.PayRun) : Bool :=
  run.orgId == orgId && run.branchId == branchId && run.status == .approved

def isCurrent (budget : Budget) : Bool :=
  budget.orgId == orgId && budget.branchId == branchId &&
    (budget.status == .active || budget.status == .finalized)

/-- The budget lines of a kind, by the periods of their budgets. -/
def overBudgets (kind : BudgetLine → Bool) (column : BudgetLine → Cents)
    (met : Time → Time → Bool) : Cents :=
  d.budgetLines.sumOver (fun line => (d.budgets.get? line.budgetId).filter fun _ => kind line)
    (isCurrent orgId branchId) (·.periodStart) (·.periodEnd) column met

/-- A figure as a sum over the rows whose time or period `met` holds of. -/
def figureOver (figure : Figure) (met : Time → Time → Bool) : Cents :=
  match figure with
  | .revenue => d.store.orders.sumOver some (isClosed orgId branchId) (·.createdAt) (·.createdAt)
      (·.total) met
  | .cogs => d.store.orderItems.sumOver (fun item => d.store.orders.get? item.orderId)
      (isClosed orgId branchId) (·.createdAt) (·.createdAt) (fun item => item.costTotal.getD 0) met
  | .laborCost => d.payroll.paySlips.sumOver (fun slip => d.payroll.payRuns.get? slip.payRunId)
      (isApproved orgId branchId) (fun run => midnight run.periodStart)
      (fun run => midnight run.periodEnd) (·.netPay) met
  | .overheadCost => overBudgets d orgId branchId
      (fun line => overheadCategories.contains line.category) (·.actualAmount) met
  | .totalBudget => overBudgets d orgId branchId (fun _ => true) (·.budgetAmount) met
  | .totalActual => overBudgets d orgId branchId (fun _ => true) (·.actualAmount) met

end

variable {d : Database} {orgId branchId : Id} {start finish : Time} {cuts : List Time}

theorem soldIn_eq (order : Order) : soldIn orgId branchId start finish order =
    (isClosed orgId branchId order && meets order.createdAt order.createdAt (start, finish)) := by
  simp only [soldIn, isClosed, meets]
  ac_rfl

theorem approvedRunIn_eq (run : PayrollService.PayRun) :
    approvedRunIn orgId branchId start finish run = (isApproved orgId branchId run &&
      meets (midnight run.periodStart) (midnight run.periodEnd) (start, finish)) := by
  simp only [approvedRunIn, isApproved, meets]
  ac_rfl

theorem budgetIn_eq (budget : Budget) : budgetIn orgId branchId start finish budget =
    (isCurrent orgId branchId budget &&
      meets budget.periodStart budget.periodEnd (start, finish)) := by
  simp only [budgetIn, isCurrent, meets]
  ac_rfl

theorem overBudgets_eq (kind : BudgetLine → Bool) (column : BudgetLine → Cents) :
    (overBudgets d orgId branchId kind column fun a b => meets a b (start, finish)) =
      d.budgetLines.sumWhere
        (fun id line => lineIn d orgId branchId start finish id line && kind line) column := by
  simp only [overBudgets, Table.sumOver, lineIn, Table.sumWhere_eq_total]
  refine Table.total_congr fun _ line _ => ?_
  cases d.budgets.get? line.budgetId with
  | none => simp
  | some budget => cases kind line <;> simp [budgetIn_eq]

/-- The figures of a window are those of the rows that meet it. -/
theorem computeBranchFinancials_of (figure : Figure) :
    (computeBranchFinancials d orgId branchId start finish).of figure =
      figureOver d orgId branchId figure fun a b => meets a b (start, finish) := by
  cases figure with
  | revenue =>
    simp only [computeBranchFinancials, BranchFinancials.of, revenue, figureOver, Table.sumOver]
    congr 1
    funext _ order
    exact soldIn_eq order
  | cogs =>
    simp only [computeBranchFinancials, BranchFinancials.of, actualCogs, lineSold, figureOver,
      Table.sumOver]
    congr 1
    funext _ item
    exact congrArg (Option.any · _) (funext soldIn_eq)
  | laborCost =>
    simp only [computeBranchFinancials, BranchFinancials.of, laborCost, figureOver, Table.sumOver]
    congr 1
    funext _ slip
    exact congrArg (Option.any · _) (funext approvedRunIn_eq)
  | overheadCost => exact (overBudgets_eq _ _).symm
  | totalBudget =>
    have hlines : (overBudgets d orgId branchId (fun _ => true) (·.budgetAmount) fun a b =>
        meets a b (start, finish)) = _ := overBudgets_eq _ _
    simp only [Bool.and_true] at hlines
    exact hlines.symm
  | totalActual =>
    have hlines : (overBudgets d orgId branchId (fun _ => true) (·.actualAmount) fun a b =>
        meets a b (start, finish)) = _ := overBudgets_eq _ _
    simp only [Bool.and_true] at hlines
    exact hlines.symm

-- ---
-- Windows of a span
-- ---

/-- A pay run is marked as paid. -/
def Database.pay (d : Database) (id userId : Id) (now : Time) (notes : Option String) : Database :=
  { d with payroll := (PayrollService.exec d.payroll (.payRun id userId now notes)).1 }

/-- The windows add up to the span, and paying a run that is approved changes no figure. -/
structure CountedOnce (d : Database) (orgId branchId : Id) (start : Time) (cuts : List Time)
    (finish : Time) : Prop where
  additive : ∀ figure, ((windows start cuts finish).map fun window =>
      (computeBranchFinancials d orgId branchId window.1 window.2).of figure).sum =
    (computeBranchFinancials d orgId branchId start finish).of figure
  paid : ∀ id run userId now notes, d.payroll.payRuns.get? id = some run →
    run.status = .approved → ∀ figure,
      (computeBranchFinancials (d.pay id userId now notes) orgId branchId start finish).of figure =
        (computeBranchFinancials d orgId branchId start finish).of figure

/-- No period ends before it begins. -/
structure Proper (d : Database) : Prop where
  runs : ∀ runId run, d.payroll.payRuns.get? runId = some run → run.periodStart ≤ run.periodEnd
  budgets : ∀ budgetId budget, d.budgets.get? budgetId = some budget →
    budget.periodStart ≤ budget.periodEnd

/-- What the span counts and no window does. -/
def slipped (d : Database) (orgId branchId : Id) (start : Time) (cuts : List Time) (finish : Time)
    (figure : Figure) : Cents :=
  figureOver d orgId branchId figure (slips start cuts finish)

theorem overBudgets_slips (hproper : Proper d) (h : Ordered start cuts finish)
    (kind : BudgetLine → Bool) (column : BudgetLine → Cents) :
    overBudgets d orgId branchId kind column (slips start cuts finish) = 0 := by
  refine Table.sumOver_slips_zero h fun _ line budget _ hbudget => ?_
  obtain ⟨hbudget, -⟩ := Option.filter_eq_some_iff.mp hbudget
  exact hproper.budgets _ budget hbudget

theorem slipped_zero (hproper : Proper d) (h : Ordered start cuts finish) (figure : Figure) :
    slipped d orgId branchId start cuts finish figure = 0 := by
  unfold slipped figureOver
  cases figure with
  | revenue => exact Table.sumOver_slips_zero h fun _ _ _ _ _ => le_rfl
  | cogs => exact Table.sumOver_slips_zero h fun _ _ _ _ _ => le_rfl
  | laborCost =>
    refine Table.sumOver_slips_zero h fun _ slip run _ hrun => ?_
    exact Nat.mul_le_mul_right _ (hproper.runs _ run hrun)
  | overheadCost => exact overBudgets_slips hproper h _ _
  | totalBudget => exact overBudgets_slips hproper h _ _
  | totalActual => exact overBudgets_slips hproper h _ _

theorem figureOver_windows (h : Ordered start cuts finish) (figure : Figure) :
    ((windows start cuts finish).map fun window =>
          figureOver d orgId branchId figure fun a b => meets a b window).sum +
        slipped d orgId branchId start cuts finish figure =
      (figureOver d orgId branchId figure fun a b => meets a b (start, finish)) +
        (cuts.map fun cut =>
          figureOver d orgId branchId figure fun a b => meets a b (cut, cut)).sum := by
  cases figure <;> exact Table.sumOver_windows _ _ _ _ _ _ h

/-- The figures of consecutive windows, with those of the periods that slip through, are the
figures of the span and, once more, those at each cut. Nothing slips through where no period ends
before it begins, and paying a run changes no figure but the labor cost. -/
theorem financials_by_window (h : Ordered start cuts finish) (figure : Figure) :
    ((windows start cuts finish).map fun window =>
          (computeBranchFinancials d orgId branchId window.1 window.2).of figure).sum +
        slipped d orgId branchId start cuts finish figure =
      (computeBranchFinancials d orgId branchId start finish).of figure +
        (cuts.map fun cut => (computeBranchFinancials d orgId branchId cut cut).of figure).sum ∧
    (Proper d → slipped d orgId branchId start cuts finish figure = 0) ∧
    (figure ≠ .laborCost → ∀ id userId now notes,
      (computeBranchFinancials (d.pay id userId now notes) orgId branchId start finish).of figure =
        (computeBranchFinancials d orgId branchId start finish).of figure) := by
  refine ⟨?_, fun hproper => slipped_zero hproper h figure, ?_⟩
  · simp only [computeBranchFinancials_of]
    exact figureOver_windows h figure
  · intro hfigure id userId now notes
    cases figure with
    | laborCost => exact absurd rfl hfigure
    | _ => rfl

/-- An order of 10.00 that was created where the span is cut. -/
def orderAtCut : Database where
  store :=
    { orders := Table.empty.insert
        { orgId := 0, branchId := 0, tableId := none, userId := 0, orderNumber := "1"
          status := .closed, serviceType := .takeaway, subtotal := 1000, total := 1000
          createdAt := 10, updatedAt := 10 } }

theorem financials_by_window_at_cut :
    ((windows 0 [10] 20).map fun window =>
        (computeBranchFinancials orderAtCut 0 0 window.1 window.2).of .revenue).sum =
      (computeBranchFinancials orderAtCut 0 0 0 20).of .revenue +
        (computeBranchFinancials orderAtCut 0 0 10 10).of .revenue := by
  have hordered : Ordered 0 [10] 20 := by decide
  have hproper : Proper orderAtCut := by
    constructor
    · rintro runId run ⟨⟩
    · rintro budgetId budget ⟨⟩
  obtain ⟨hsum, hzero, -⟩ :=
    @financials_by_window orderAtCut 0 0 0 20 [10] hordered .revenue
  rw [hzero hproper, add_zero] at hsum
  simpa using hsum

/-- Its 10.00 are in both windows. -/
theorem counted_at_cut :
    ¬∀ d orgId branchId start cuts finish, Ordered start cuts finish →
      CountedOnce d orgId branchId start cuts finish := by
  intro hall
  have hordered : Ordered 0 [10] 20 := by decide
  have hrevenue := (hall orderAtCut 0 0 0 [10] 20 hordered).additive .revenue
  revert hrevenue
  decide

end NimbusPos.FranchiseAnalyticsService
