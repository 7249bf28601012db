import NimbusPos.Accounting.Schema
import NimbusPos.Common
import NimbusPos.Lib.Program
import NimbusPos.Text

/-!
# Pay runs

A run is built for a branch and a period: one slip for each active employee of the branch, or
of none, from the components and the adjustments of the branch, or of none. Approving a run
freezes its slips and paying it pays them. Run and slips are written in one transaction, and
what a call checks is read before.
-/

namespace NimbusPos.PayrollService

open Lib Lib.Program

-- ---
-- Rows
-- ---

inductive EmployeeStatus
  | active
  | onLeave
  | suspended
  | terminated
  deriving DecidableEq, Repr

inductive PayComponentType
  | earning
  | deduction
  | employerCost
  | other
  deriving DecidableEq, Repr

inductive PayrollAdjustmentType
  | bonus
  | overtime
  | advance
  | deduction
  | penalty
  | other
  deriving DecidableEq, Repr

inductive PayRunStatus
  | draft
  | approved
  | paid
  | cancelled
  deriving DecidableEq, Repr

instance : ToString PayRunStatus where
  toString
    | .draft => "DRAFT"
    | .approved => "APPROVED"
    | .paid => "PAID"
    | .cancelled => "CANCELLED"

inductive PaySlipStatus
  | draft
  | final
  | paid
  deriving DecidableEq, Repr

structure CompensationProfile where
  baseAmount : Option Cents
  deriving DecidableEq, Repr

structure Employee where
  orgId : Id
  branchId : Option Id
  status : EmployeeStatus := .active
  compensationProfileId : Option Id := none
  deriving DecidableEq, Repr

structure PayComponent where
  orgId : Id
  branchId : Option Id
  code : String
  name : String
  componentType : PayComponentType
  defaultAmount : Option Cents
  active : Bool := true
  deriving DecidableEq, Repr

structure PayrollAdjustment where
  orgId : Id
  branchId : Option Id
  employeeId : Id
  payComponentId : Option Id := none
  adjustmentType : PayrollAdjustmentType
  amount : Cents
  effectiveDate : Day
  deriving DecidableEq, Repr

structure PayRun where
  orgId : Id
  branchId : Id
  name : String
  periodStart : Day
  periodEnd : Day
  status : PayRunStatus
  builtById : Id
  approvedById : Option Id := none
  approvedAt : Option Time := none
  paidById : Option Id := none
  paidAt : Option Time := none
  employeeCount : Nat
  grossTotal : Cents
  netTotal : Cents
  notes : Option String
  deriving DecidableEq, Repr

structure ComponentLine where
  id : Id
  code : String
  name : String
  amount : Option Cents
  deriving DecidableEq, Repr

structure AdjustmentLine where
  id : Id
  type : PayrollAdjustmentType
  amount : Cents
  payComponentCode : Option String
  deriving DecidableEq, Repr

structure ComponentSnapshot where
  basePay : Cents
  earningComponents : List ComponentLine
  deductionComponents : List ComponentLine
  adjustments : List AdjustmentLine
  grossPay : Cents
  totalDeductions : Cents
  netPay : Cents
  deriving DecidableEq, Repr

/-- `paySlipData`: a slip that has no run yet. -/
structure PaySlipData where
  orgId : Id
  branchId : Id
  employeeId : Id
  grossPay : Cents
  totalDeductions : Cents
  netPay : Cents
  componentSnapshot : ComponentSnapshot
  deriving DecidableEq, Repr

structure PaySlip extends PaySlipData where
  payRunId : Id
  status : PaySlipStatus := .draft
  paidAt : Option Time := none
  deriving DecidableEq, Repr

structure Store where
  clock : Time := 0
  employees : Table Employee := .empty
  compensationProfiles : Table CompensationProfile := .empty
  payComponents : Table PayComponent := .empty
  adjustments : Table PayrollAdjustment := .empty
  payRuns : Table PayRun := .empty
  paySlips : Table PaySlip := .empty

-- ---
-- Statements
-- ---

/-- A row with the one that its column refers to. -/
structure Including (α β : Type) where
  id : Id
  row : α
  included : Option β
  deriving DecidableEq, Repr

structure RunWithSlips where
  id : Id
  run : PayRun
  paySlips : List (Id × PaySlip)
  deriving DecidableEq, Repr

inductive Statement
  | now
  | findOverlap (ctx : BranchContext) (periodStart periodEnd : Day)
  | findEmployees (ctx : BranchContext) (employeeIds : List Id)
  | findComponents (ctx : BranchContext)
  | findAdjustments (ctx : BranchContext) (periodStart periodEnd : Day)
  | createRun (run : PayRun) (slips : List PaySlipData)
  | findRun (ctx : BranchContext) (id : Id)
  | approveRun (id userId : Id) (now : Time) (notes : Option String)
  | payRun (id userId : Id) (now : Time) (notes : Option String)
  deriving DecidableEq, Repr

abbrev Statement.Answer : Statement → Type
  | .now => Time
  | .findOverlap .. => Option (Id × PayRun)
  | .findEmployees .. => List (Including Employee CompensationProfile)
  | .findComponents _ => List (Id × PayComponent)
  | .findAdjustments .. => List (Including PayrollAdjustment PayComponent)
  | .createRun .. | .approveRun .. | .payRun .. => RunWithSlips
  | .findRun .. => Option PayRun

/-- `OR: [{ branchId }, { branchId: null }]` -/
def ofBranch (ctx : BranchContext) (branchId : Option Id) : Bool :=
  branchId == some ctx.branchId || branchId == none

/-- A run that is not cancelled and has a day of the period. -/
def PayRun.covers (periodStart periodEnd : Day) (run : PayRun) : Bool :=
  run.status != .cancelled && run.periodStart ≤ periodEnd && periodStart ≤ run.periodEnd

def slipOf (id : Id) (_ : Id) (slip : PaySlip) : Bool := slip.payRunId == id

/-- `payRun.update` with the run's slips as they were, and then `paySlip.updateMany`. -/
def updateRun (s : Store) (id : Id) (data : PayRun → PayRun) (slipData : PaySlip → PaySlip) :
    Store × Except HttpError RunWithSlips :=
  match s.payRuns.get? id with
  | some run =>
    ({ s with
      payRuns := s.payRuns.update id data
      paySlips := s.paySlips.updateWhere (slipOf id) slipData },
      .ok ⟨id, data run, s.paySlips.findMany (slipOf id)⟩)
  | none => (s, .error (notFound "Record to update not found"))

def insertRun (s : Store) (run : PayRun) (slips : List PaySlipData) : Store :=
  { s with
    payRuns := s.payRuns.insert run
    paySlips := (slips.map fun data =>
      { toPaySlipData := data, payRunId := s.payRuns.next }).foldl Table.insert s.paySlips }

def exec (s : Store) : (k : Statement) → Store × Except HttpError k.Answer
  | .now => (s, .ok s.clock)
  | .findOverlap ctx periodStart periodEnd =>
    (s, .ok (s.payRuns.findFirst fun _ run =>
      run.orgId == ctx.organizationId && run.branchId == ctx.branchId &&
        run.covers periodStart periodEnd))
  | .findEmployees ctx employeeIds =>
    (s, .ok ((s.employees.findMany fun id employee =>
      employee.orgId == ctx.organizationId && employee.status == .active &&
        ofBranch ctx employee.branchId && (employeeIds.isEmpty || employeeIds.contains id)).map
      fun row => ⟨row.1, row.2, row.2.compensationProfileId.bind s.compensationProfiles.get?⟩))
  | .findComponents ctx =>
    (s, .ok (s.payComponents.findMany fun _ component =>
      component.orgId == ctx.organizationId && component.active &&
        ofBranch ctx component.branchId))
  | .findAdjustments ctx periodStart periodEnd =>
    (s, .ok ((s.adjustments.findMany fun _ adjustment =>
      adjustment.orgId == ctx.organizationId && periodStart ≤ adjustment.effectiveDate &&
        adjustment.effectiveDate ≤ periodEnd && ofBranch ctx adjustment.branchId).map
      fun row => ⟨row.1, row.2, row.2.payComponentId.bind s.payComponents.get?⟩))
  | .createRun run slips =>
    let t := insertRun s run slips
    (t, .ok ⟨s.payRuns.next, run, t.paySlips.findMany (slipOf s.payRuns.next)⟩)
  | .findRun ctx id =>
    (s, .ok ((s.payRuns.get? id).filter fun run =>
      run.orgId == ctx.organizationId && run.branchId == ctx.branchId))
  | .approveRun id userId now notes =>
    updateRun s id
      (fun run => { run with
        status := .approved, approvedById := some userId, approvedAt := some now, notes })
      fun slip => { slip with status := .final }
  | .payRun id userId now notes =>
    updateRun s id
      (fun run => { run with
        status := .paid, paidById := some userId, paidAt := some now, notes })
      fun slip => { slip with status := .paid, paidAt := some now }

-- ---
-- Slips
-- ---

/-- The components of a type that have an amount. -/
def ofType (type : PayComponentType) (components : List (Id × PayComponent)) :
    List (Id × PayComponent) :=
  components.filter fun c => c.2.componentType == type && c.2.defaultAmount.isSome

def defaultAmounts (components : List (Id × PayComponent)) : Cents :=
  (components.map fun c => c.2.defaultAmount.getD 0).sum

/-- The adjustments that add to the pay. -/
def PayrollAdjustmentType.earns (type : PayrollAdjustmentType) : Bool :=
  type == .bonus || type == .overtime

def PayrollAdjustmentType.deducts (type : PayrollAdjustmentType) : Bool :=
  type == .deduction || type == .penalty || type == .advance

def adjustmentAmounts (counts : PayrollAdjustmentType → Bool)
    (adjustments : List (Including PayrollAdjustment PayComponent)) : Cents :=
  ((adjustments.filter fun a => counts a.row.adjustmentType).map (·.row.amount)).sum

def componentLines (components : List (Id × PayComponent)) : List ComponentLine :=
  components.map fun c => ⟨c.1, c.2.code, c.2.name, c.2.defaultAmount⟩

/-- One round of the loop over the employees. -/
def buildSlip (ctx : BranchContext) (components : List (Id × PayComponent))
    (adjustments : List (Including PayrollAdjustment PayComponent))
    (emp : Including Employee CompensationProfile) : PaySlipData :=
  let empAdjustments := adjustments.filter (·.row.employeeId == emp.id)
  let basePay := (emp.included.bind (·.baseAmount)).getD 0
  let earningComponents := ofType .earning components
  let deductionComponents := ofType .deduction components
  let grossPay := basePay + defaultAmounts earningComponents +
    adjustmentAmounts (·.earns) empAdjustments
  let totalDeductions := defaultAmounts deductionComponents +
    adjustmentAmounts (·.deducts) empAdjustments
  let netPay := grossPay - totalDeductions
  { orgId := ctx.organizationId, branchId := ctx.branchId, employeeId := emp.id
    grossPay, totalDeductions, netPay
    componentSnapshot :=
      { basePay
        earningComponents := componentLines earningComponents
        deductionComponents := componentLines deductionComponents
        adjustments := empAdjustments.map fun a =>
          ⟨a.id, a.row.adjustmentType, a.row.amount, a.included.map (·.code)⟩
        grossPay, totalDeductions, netPay } }

-- ---
-- Calls
-- ---

abbrev PayrollProgram := Program Statement Statement.Answer HttpError

abbrev query (k : Statement) : PayrollProgram k.Answer := statement k

structure BuildPayRunDto where
  name : String
  periodStart : Time
  periodEnd : Time
  employeeIds : List Id := []
  notes : Option String := none
  deriving DecidableEq, Repr

/-- `toISOString().split('T')[0]` of a date column. -/
def isoDate (day : Day) : String :=
  String.ofList ((toISOString (midnight day)).toList.takeWhile (· != 'T'))

def buildPayRun (userId : Id) (ctx : BranchContext) (dto : BuildPayRunDto) :
    PayrollProgram RunWithSlips := do
  ensure (dto.periodStart ≤ dto.periodEnd) (badRequest "periodEnd must be on or after periodStart")
  let periodStart := dayOf dto.periodStart
  let periodEnd := dayOf dto.periodEnd
  let overlap ← query (.findOverlap ctx periodStart periodEnd)
  match overlap with
  | some (_, run) =>
    throw (conflict ("Pay run \"" ++ run.name ++ "\" already covers an overlapping period (" ++
      isoDate run.periodStart ++ " to " ++ isoDate run.periodEnd ++ ")"))
  | none =>
    let employees ← query (.findEmployees ctx dto.employeeIds)
    ensure (!employees.isEmpty) (badRequest "No active employees found for this pay run")
    let components ← query (.findComponents ctx)
    let adjustments ← query (.findAdjustments ctx periodStart periodEnd)
    let paySlipData := employees.map (buildSlip ctx components adjustments)
    query (.createRun
      { orgId := ctx.organizationId, branchId := ctx.branchId, name := dto.name
        periodStart, periodEnd, status := .draft, builtById := userId
        employeeCount := employees.length
        grossTotal := (paySlipData.map (·.grossPay)).sum
        netTotal := (paySlipData.map (·.netPay)).sum
        notes := dto.notes } paySlipData)

/-- The run, in the status that the call asks for. -/
def checkRun (ctx : BranchContext) (id : Id) (status : PayRunStatus) (verb : String) :
    PayrollProgram PayRun := do
  let found ← query (.findRun ctx id)
  let existing ← need found (notFound ("Pay run \"" ++ toString id ++ "\" not found"))
  ensure (existing.status == status)
    (badRequest ("Only " ++ toString status ++ " pay runs can be " ++ verb ++ " (current: " ++
      toString existing.status ++ ")"))
  return existing

def approvePayRun (userId : Id) (ctx : BranchContext) (id : Id) (notes : Option String) :
    PayrollProgram RunWithSlips := do
  let existing ← checkRun ctx id .draft "approved"
  let now ← query .now
  query (.approveRun id userId now (notes <|> existing.notes))

def payPayRun (userId : Id) (ctx : BranchContext) (id : Id) (notes : Option String) :
    PayrollProgram RunWithSlips := do
  let existing ← checkRun ctx id .approved "marked as paid"
  let now ← query .now
  query (.payRun id userId now (notes <|> existing.notes))

inductive PayrollCall
  | buildPayRun (userId : Id) (ctx : BranchContext) (dto : BuildPayRunDto)
  | approvePayRun (userId : Id) (ctx : BranchContext) (id : Id) (notes : Option String)
  | payPayRun (userId : Id) (ctx : BranchContext) (id : Id) (notes : Option String)
  deriving DecidableEq, Repr

def PayrollCall.program : PayrollCall → PayrollProgram RunWithSlips
  | .buildPayRun userId ctx dto => PayrollService.buildPayRun userId ctx dto
  | .approvePayRun userId ctx id notes => PayrollService.approvePayRun userId ctx id notes
  | .payPayRun userId ctx id notes => PayrollService.payPayRun userId ctx id notes

end NimbusPos.PayrollService
