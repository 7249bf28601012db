import NimbusPos.Budget.Service
import NimbusPos.Orders.Pricing
import NimbusPos.Payroll.Service

/-!
# Figures of a branch

`computeBranchWaste` compares the cost columns of the lines that were sold with what the recipes
of their menu items cost today, by the line's quantity. `computeBranchFinancials` takes the orders
that were created in a window, both ends included, and the pay runs and budgets whose periods
overlap it.
-/

namespace NimbusPos.FranchiseAnalyticsService

open Lib
open BudgetService (Budget BudgetLine)

-- ---
-- Theoretical and actual cost of goods
-- ---

/-- The closed orders of a branch in a window, both ends included. -/
def soldIn (orgId branchId : Id) (start finish : Time) (order : Order) : Bool :=
  order.orgId == orgId && order.branchId == branchId && order.status == .closed &&
    decide (start ≤ order.createdAt) && decide (order.createdAt ≤ finish)

/-- Lines joined with their orders. -/
def lineSold (s : Store) (orgId branchId : Id) (start finish : Time) (item : OrderItem) : Bool :=
  (s.orders.get? item.orderId).any (soldIn orgId branchId start finish)

/-- Every row of the menu item's recipe, in units of `10⁻¹⁰`. -/
def theoreticalUnitCost (s : Store) (menuItemId : Id) : Int :=
  s.menu.recipeIngredients.sumWhere (fun _ row => row.menuItemId == menuItemId) (·.extCost)

def theoreticalCogs (s : Store) (orgId branchId : Id) (start finish : Time) : Int :=
  s.orderItems.sumWhere (fun _ item => lineSold s orgId branchId start finish item)
    fun item => item.quantity * theoreticalUnitCost s item.menuItemId

def actualCogs (s : Store) (orgId branchId : Id) (start finish : Time) : Cents :=
  s.orderItems.sumWhere (fun _ item => lineSold s orgId branchId start finish item)
    fun item => item.costTotal.getD 0

/-- The columns that compare the costs; the percentage has four places. -/
structure BranchWaste where
  theoreticalCogs : Cents
  actualCogs : Cents
  varianceAmount : Cents
  variancePct : Int
  deriving DecidableEq, Repr

def computeBranchWaste (s : Store) (orgId branchId : Id) (start finish : Time) : BranchWaste :=
  let theoretical := theoreticalCogs s orgId branchId start finish
  let actual := actualCogs s orgId branchId start finish
  let variance := actual * 100000000 - theoretical
  { theoreticalCogs := roundHalfUp theoretical 100000000, actualCogs := actual
    varianceAmount := roundHalfUp variance 100000000
    variancePct := if 0 < theoretical then roundHalfUp (variance * 1000000) theoretical else 0 }

-- ---
-- Financials
-- ---

/-- The tables that the analytics read. -/
structure Database where
  store : Store := {}
  payroll : PayrollService.Store := {}
  budgets : Table Budget := .empty
  budgetLines : Table BudgetLine := .empty

variable (d : Database) (orgId branchId : Id) (start finish : Time)

def revenue : Cents :=
  d.store.orders.sumWhere (fun _ => soldIn orgId branchId start finish) (·.total)

/-- The columns of a pay run's period are dates. -/
def approvedRunIn (run : PayrollService.PayRun) : Bool :=
  run.orgId == orgId && run.branchId == branchId && run.status == .approved &&
    decide (midnight run.periodStart ≤ finish) && decide (start ≤ midnight run.periodEnd)

/-- Slips joined with their runs. -/
def laborCost : Cents :=
  d.payroll.paySlips.sumWhere (fun _ slip => (d.payroll.payRuns.get? slip.payRunId).any
    (approvedRunIn orgId branchId start finish)) (·.netPay)

def budgetIn (budget : Budget) : Bool :=
  budget.orgId == orgId && budget.branchId == branchId &&
    (budget.status == .active || budget.status == .finalized) &&
    decide (budget.periodStart ≤ finish) && decide (start ≤ budget.periodEnd)

def lineIn (_ : Id) (line : BudgetLine) : Bool :=
  (d.budgets.get? line.budgetId).any (budgetIn orgId branchId start finish)

def overheadCategories : List String := ["OVERHEAD", "UTILITIES", "REPAIRS", "RENT", "INSURANCE"]

def overheadCost : Cents :=
  d.budgetLines.sumWhere (fun id line => lineIn d orgId branchId start finish id line &&
    overheadCategories.contains line.category) (·.actualAmount)

/-- Amounts are in cents, percentages have four places. -/
structure BranchFinancials where
  revenue : Cents
  cogs : Cents
  grossProfit : Cents
  grossMarginPct : Int
  laborCost : Cents
  primeCost : Cents
  primeCostPct : Int
  overheadCost : Cents
  totalBudget : Cents
  totalActual : Cents
  budgetVariance : Cents
  budgetVariancePct : Int
  deriving DecidableEq, Repr

def percentOf (amount whole : Cents) : Int :=
  if 0 < whole then roundHalfUp (amount * 1000000) whole else 0

def computeBranchFinancials : BranchFinancials :=
  let revenue := revenue d orgId branchId start finish
  let cogs := actualCogs d.store orgId branchId start finish
  let laborCost := laborCost d orgId branchId start finish
  let totalBudget := d.budgetLines.sumWhere (lineIn d orgId branchId start finish) (·.budgetAmount)
  let totalActual := d.budgetLines.sumWhere (lineIn d orgId branchId start finish) (·.actualAmount)
  let grossProfit := revenue - cogs
  let primeCost := cogs + laborCost
  { revenue, cogs, grossProfit, grossMarginPct := percentOf grossProfit revenue
    laborCost, primeCost, primeCostPct := percentOf primeCost revenue
    overheadCost := overheadCost d orgId branchId start finish
    totalBudget, totalActual, budgetVariance := totalBudget - totalActual
    budgetVariancePct := percentOf (totalBudget - totalActual) totalBudget }

end NimbusPos.FranchiseAnalyticsService
