import NimbusPos.Accounting.Schema

/-!
# Budgets

A budget plans amounts for a branch and a period, by account. A refresh reads what was posted
to the accounts in a window, and writes it and the variance on each line.
-/

namespace NimbusPos.BudgetService

open Lib Lib.Service

inductive BudgetStatus
  | draft
  | active
  | finalized
  | archived
  deriving DecidableEq, Repr

structure Budget where
  orgId : Id
  branchId : Id
  status : BudgetStatus := .draft
  periodStart : Time
  periodEnd : Time
  totalBudget : Cents := 0
  updatedById : Option Id := none
  deriving DecidableEq, Repr

/-- `variancePct` has four places. -/
structure BudgetLine where
  budgetId : Id
  accountId : Option Id
  category : String
  budgetAmount : Cents
  actualAmount : Cents := 0
  varianceAmount : Cents := budgetAmount
  variancePct : Int := 0
  actualsUpdatedAt : Option Time := none
  deriving DecidableEq, Repr

/-- The books, and the budgets. -/
structure Store where
  books : Books
  budgets : Table Budget := .empty
  budgetLines : Table BudgetLine := .empty

structure UpdateActualsDto where
  windowStart : Option Time := none
  windowEnd : Option Time := none
  deriving DecidableEq, Repr

structure BudgetWithLines where
  budget : Budget
  lines : List (Id × BudgetLine)
  deriving DecidableEq, Repr

def Store.findBudget (s : Store) (ctx : BranchContext) (budgetId : Id) : Option Budget :=
  (s.budgets.get? budgetId).filter fun budget =>
    budget.orgId == ctx.organizationId && budget.branchId == ctx.branchId

def Store.lines (s : Store) (budgetId : Id) : List (Id × BudgetLine) :=
  s.budgetLines.findMany fun _ line => line.budgetId == budgetId

/-- The first and the last instant whose journals count. -/
def UpdateActualsDto.window (dto : UpdateActualsDto) (budget : Budget) (now : Time) : Time × Time :=
  (dto.windowStart.getD budget.periodStart, dto.windowEnd.getD (min budget.periodEnd now))

/-- The date column is compared with the days of the window. -/
def inWindow (window : Time × Time) (entry : JournalEntry) : Bool :=
  dayOf window.1 ≤ entry.journalDate && entry.journalDate ≤ dayOf window.2

/-- The entry's lines on an account. -/
def onAccount (accountId : Id) (entry : JournalEntry) : Cents :=
  ((entry.lines.filter (·.accountId == accountId)).map (·.amount)).sum

/-- `journalLine.groupBy`: what an account has. One that has no lines is not in the map that
is filled, and counts zero. -/
def actualsByAccount (s : Books) (orgId : Id) (window : Time × Time) (accountId : Id) : Cents :=
  s.journalEntries.sumWhere
    (fun _ entry => entry.orgId == orgId && entry.status == .posted && inWindow window entry)
    (onAccount accountId)

/-- `variance / budget * 100` to four places. -/
def variancePct (varianceAmount budgetAmount : Cents) : Int :=
  if budgetAmount = 0 then 0
  else persist ((varianceAmount : ℚ) / budgetAmount * 1000000)

def refresh (actual : Id → Cents) (now : Time) (line : BudgetLine) : BudgetLine :=
  let actualAmount := line.accountId.elim 0 actual
  let varianceAmount := line.budgetAmount - actualAmount
  { line with
    actualAmount, varianceAmount
    variancePct := variancePct varianceAmount line.budgetAmount
    actualsUpdatedAt := some now }

def getBudget (ctx : BranchContext) (budgetId : Id) :
    Service AccountingError Store BudgetWithLines := do
  let s ← get
  let budget ← need (s.findBudget ctx budgetId)
    (missing ("Budget \"" ++ toString budgetId ++ "\" not found"))
  pure ⟨budget, s.lines budgetId⟩

def updateActuals (userId : Id) (ctx : BranchContext) (budgetId : Id) (dto : UpdateActualsDto) :
    Service AccountingError Store BudgetWithLines := do
  let s ← get
  let budget ← need (s.findBudget ctx budgetId)
    (missing ("Budget \"" ++ toString budgetId ++ "\" not found"))
  ensure (budget.status != .archived) (bad "Cannot refresh actuals on an ARCHIVED budget")
  let now := s.books.clock
  let actual := actualsByAccount s.books ctx.organizationId (dto.window budget now)
  modify fun s => { s with
    budgetLines := s.budgetLines.updateWhere (fun _ line => line.budgetId == budgetId)
      (refresh actual now) }
  let totalBudget := ((s.lines budgetId).map (·.2.budgetAmount)).sum
  modify fun s => { s with
    budgets := s.budgets.update budgetId fun budget =>
      { budget with totalBudget, updatedById := some userId } }
  getBudget ctx budgetId

/-- A refreshed line has the actual of its account. -/
theorem updateActuals_ok (h : updateActuals userId ctx budgetId dto s = .ok refreshed t) :
    ∃ budget, s.budgets.get? budgetId = some budget ∧ budget.orgId = ctx.organizationId ∧
      budget.branchId = ctx.branchId ∧ t.books = s.books ∧
      t.budgetLines = s.budgetLines.updateWhere (fun _ line => line.budgetId == budgetId)
        (refresh (actualsByAccount s.books ctx.organizationId (dto.window budget s.books.clock))
          s.books.clock) := by
  simp only [updateActuals, getBudget, Store.findBudget, bind_ok, get_ok, need_ok, ensure_ok,
    modify_ok, pure_ok, Option.filter_eq_some_iff, Bool.and_eq_true, beq_iff_eq] at h
  obtain ⟨_, _, ⟨rfl, rfl⟩, budget, _, ⟨⟨hget, horg, hbranch⟩, rfl⟩, _, _, ⟨-, rfl⟩, _, _, rfl,
    _, _, rfl, _, _, ⟨rfl, rfl⟩, _, _, ⟨-, rfl⟩, -, rfl⟩ := h
  exact ⟨budget, hget, horg, hbranch, rfl, rfl⟩

end NimbusPos.BudgetService
