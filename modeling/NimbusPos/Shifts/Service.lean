import NimbusPos.Lib.Program
import NimbusPos.Numbering
import NimbusPos.Tills.Service

/-!
# Shifts

A shift closes once its tills are reconciled, with a summary of the sales,
refunds and cash movements of its window.
-/

namespace NimbusPos.ShiftsService

open Lib Lib.Service
open TillsService (inWindow refundCashOut drawerFrame)

def openShift (userId : Id) (ctx : BranchContext) : Db Unit := do
  let s ← get
  let existingShift := s.shifts.findFirst fun _ shift =>
    shift.branchId == ctx.branchId && shift.openedById == userId && shift.status == .open
  ensure existingShift.isNone (conflict "User already has an active shift in this branch")
  let lastShift := s.shifts.findLatest (fun _ shift => shift.branchId == ctx.branchId) (·.createdAt)
  let shiftNumber := nextNumber shiftLabel (lastShift.map (·.2.shiftNumber))
  ensure (s.shifts.count (fun _ other =>
      other.branchId == ctx.branchId && other.shiftNumber == shiftNumber) == 0)
    { kind := .uniqueViolation, message := "Unique constraint failed on (branchId, shiftNumber)" }
  modify fun s =>
    let shift : Shift :=
      { orgId := ctx.organizationId, branchId := ctx.branchId, shiftNumber, openedById := userId
        openedAt := s.clock, createdAt := s.clock }
    { s with shifts := s.shifts.insert shift }

/-- Completed payments of a branch in a window that satisfy a condition. -/
def sales (s : Store) (ctx : BranchContext) (timeStart timeEnd : Time)
    (counts : PaymentMethod → Bool) : Cents :=
  s.payments.sumWhere (fun _ payment =>
    payment.branchId == ctx.branchId && payment.orgId == ctx.organizationId &&
      payment.status == .completed && inWindow timeStart timeEnd payment.createdAt &&
      counts payment.method) (·.amount)

def movementSum (s : Store) (shiftId : Id) (type : CashMovementType) : Cents :=
  s.cashMovements.sumWhere (fun _ movement =>
    movement.shiftId == some shiftId && movement.type == type) (·.amount)

def totalOpeningFloat (s : Store) (shiftId : Id) : Cents :=
  s.tillSessions.sumWhere (fun _ till => till.shiftId == shiftId) (·.openingFloat)

/-- Counted cash of the tills that were counted, when there is one. -/
def countedCash (s : Store) (shiftId : Id) : Option Cents :=
  let reconciledTills := s.tillSessions.findMany fun _ till =>
    till.shiftId == shiftId && till.countedCash.isSome
  if reconciledTills.isEmpty then none
  else some (reconciledTills.map fun (_, till) => till.countedCash.getD 0).sum

def expectedCash (s : Store) (ctx : BranchContext) (shiftId : Id) (timeStart timeEnd : Time) :
    Cents :=
  totalOpeningFloat s shiftId + sales s ctx timeStart timeEnd (· == .cash)
    + movementSum s shiftId .paidIn - movementSum s shiftId .safeDrop
    - movementSum s shiftId .cashPickup - refundCashOut s ctx timeStart timeEnd
    - movementSum s shiftId .paidOut

/-- The window runs from the opening of the shift to now. -/
def generateShiftCloseSummary (s : Store) (ctx : BranchContext) (shiftId : Id) (shift : Shift) :
    ShiftCloseSummary :=
  let timeStart := shift.openedAt
  let timeEnd := s.clock
  let expected := expectedCash s ctx shiftId timeStart timeEnd
  let counted := countedCash s shiftId
  { shiftId
    grossSales := sales s ctx timeStart timeEnd fun _ => true
    cashSales := sales s ctx timeStart timeEnd (· == .cash)
    momoSales := sales s ctx timeStart timeEnd (· == .momo)
    cardSales := sales s ctx timeStart timeEnd (· == .card)
    refundCashOut := refundCashOut s ctx timeStart timeEnd
    safeDropTotal := movementSum s shiftId .safeDrop
    pickupTotal := movementSum s shiftId .cashPickup
    expectedCash := expected
    countedCash := counted
    variance := counted.map (· - expected)
    ordersClosedCount := s.orders.count fun _ order =>
      order.branchId == ctx.branchId && order.orgId == ctx.organizationId &&
        order.status == .closed && inWindow timeStart timeEnd order.updatedAt
    refundsCount := s.refunds.count fun _ refund =>
      refund.branchId == ctx.branchId && refund.orgId == ctx.organizationId &&
        refund.status == .completed && inWindow timeStart timeEnd refund.createdAt }

def closeShift (shiftId : Id) (ctx : BranchContext) : Db Unit := do
  let s ← get
  let shift ← need ((s.shifts.get? shiftId).filter fun shift =>
      shift.branchId == ctx.branchId && shift.orgId == ctx.organizationId)
    (notFound "Shift not found")
  ensure (shift.status == .open) (conflict "Shift is not open")
  ensure (s.tillSessions.count (fun _ till => till.shiftId == shiftId && till.status == .open) == 0)
    (conflict "Cannot close shift — there are unreconciled till sessions. Reconcile and close all tills first.")
  modify fun s => { s with
    shiftCloseSummaries :=
      s.shiftCloseSummaries.insert (generateShiftCloseSummary s ctx shiftId shift)
    shifts := s.shifts.update shiftId fun shift =>
      { shift with status := .closed, closedAt := some s.clock } }

theorem openShift_keeps : Keeps drawerFrame (openShift userId ctx) :=
  .bind Reads.get.keeps fun _ => .bind (Reads.ensure _ _).keeps fun _ =>
    .bind (Reads.ensure _ _).keeps fun _ => .modify fun _ => rfl

theorem closeShift_keeps : Keeps drawerFrame (closeShift shiftId ctx) :=
  .bind Reads.get.keeps fun _ => .bind (Reads.need _ _).keeps fun _ =>
    .bind (Reads.ensure _ _).keeps fun _ => .bind (Reads.ensure _ _).keeps fun _ => .modify fun _ =>
      rfl

end NimbusPos.ShiftsService

/-!
# Shifts and tills, statement by statement

The calls that open and close shifts and that open and reconcile tills, as programs of
their statements. The reads of a close summary and those of the expected cash are taken
together.
-/

namespace NimbusPos.CashControl

open Lib Lib.Program

/-- What a reconciliation writes. -/
structure Reconciliation where
  countedCash : Cents
  expectedCash : Cents
  variance : Cents
  varianceStatus : VarianceStatus
  closedAt : Time
  deriving DecidableEq, Repr

/-- The times of a row that is created are those of the statement. -/
inductive Statement
  | now
  | findOpenShift (branchId userId : Id)
  | lastShiftNumber (branchId : Id)
  | createShift (row : Shift)
  | findShift (ctx : BranchContext) (shiftId : Id)
  | countOpenTills (shiftId : Id)
  | summarise (ctx : BranchContext) (shiftId : Id) (shift : Shift)
  | createSummary (row : ShiftCloseSummary)
  | updateClosed (shiftId : Id) (closedAt : Time)
  | findOpenTill (branchId : Id) (tillCode : String)
  | createTill (row : TillSession)
  | createMovement (row : CashMovement)
  | findTill (ctx : BranchContext) (tillId : Id)
  | computeExpectedCash (tillId : Id) (openingFloat : Cents) (ctx : BranchContext)
  | updateReconciled (tillId : Id) (data : Reconciliation)
  deriving DecidableEq, Repr

abbrev Statement.Answer : Statement → Type
  | .now => Time
  | .findOpenShift .. => Option (Id × Shift)
  | .lastShiftNumber _ => Option String
  | .createShift _ | .createTill _ => Id
  | .findShift .. => Option Shift
  | .countOpenTills _ => Nat
  | .summarise .. => ShiftCloseSummary
  | .findOpenTill .. => Option (Id × TillSession)
  | .findTill .. => Option TillSession
  | .computeExpectedCash .. => Cents
  | _ => Unit

def isOpenShift (branchId userId : Id) (_ : Id) (shift : Shift) : Bool :=
  shift.branchId == branchId && shift.openedById == userId && shift.status == .open

def isOpenTill (branchId : Id) (tillCode : String) (_ : Id) (till : TillSession) : Bool :=
  till.branchId == branchId && till.tillCode == tillCode && till.status == .open

def isOpenTillOf (shiftId _ : Id) (till : TillSession) : Bool :=
  till.shiftId == shiftId && till.status == .open

/-- A shift of the branch has the number. -/
def numberTaken (s : Store) (row : Shift) : Bool :=
  s.shifts.count (fun _ other =>
    other.branchId == row.branchId && other.shiftNumber == row.shiftNumber) != 0

def numberViolation : HttpError :=
  { kind := .uniqueViolation, message := "Unique constraint failed on (branchId, shiftNumber)" }

def reconciled (data : Reconciliation) (till : TillSession) : TillSession :=
  { till with
    countedCash := some data.countedCash, expectedCash := data.expectedCash
    variance := some data.variance, varianceStatus := some data.varianceStatus
    status := .reconciled, closedAt := some data.closedAt }

def exec (s : Store) : (k : Statement) → Store × Except HttpError k.Answer
  | .now => (s, .ok s.clock)
  | .findOpenShift branchId userId => (s, .ok (s.shifts.findFirst (isOpenShift branchId userId)))
  | .lastShiftNumber branchId =>
    (s, .ok ((s.shifts.findLatest (fun _ shift => shift.branchId == branchId) (·.createdAt)).map
      (·.2.shiftNumber)))
  | .createShift row =>
    if numberTaken s row then (s, .error numberViolation)
    else ({ s with
      shifts := s.shifts.insert { row with openedAt := s.clock, createdAt := s.clock } },
      .ok s.shifts.next)
  | .findShift ctx shiftId =>
    (s, .ok ((s.shifts.get? shiftId).filter fun shift =>
      shift.branchId == ctx.branchId && shift.orgId == ctx.organizationId))
  | .countOpenTills shiftId => (s, .ok (s.tillSessions.count (isOpenTillOf shiftId)))
  | .summarise ctx shiftId shift =>
    (s, .ok (ShiftsService.generateShiftCloseSummary s ctx shiftId shift))
  | .createSummary row =>
    ({ s with shiftCloseSummaries := s.shiftCloseSummaries.insert row }, .ok ())
  | .updateClosed shiftId closedAt =>
    ({ s with
      shifts := s.shifts.update shiftId fun shift =>
        { shift with status := .closed, closedAt := some closedAt } }, .ok ())
  | .findOpenTill branchId tillCode =>
    (s, .ok (s.tillSessions.findFirst (isOpenTill branchId tillCode)))
  | .createTill row =>
    ({ s with tillSessions := s.tillSessions.insert { row with openedAt := s.clock } },
      .ok s.tillSessions.next)
  | .createMovement row => ({ s with cashMovements := s.cashMovements.insert row }, .ok ())
  | .findTill ctx tillId => (s, .ok (TillsService.findTill s ctx tillId))
  | .computeExpectedCash tillId openingFloat ctx =>
    (s, .ok (TillsService.computeExpectedCash s tillId openingFloat ctx))
  | .updateReconciled tillId data =>
    ({ s with tillSessions := s.tillSessions.update tillId (reconciled data) }, .ok ())

-- ---
-- Calls
-- ---

abbrev DrawerProgram := Program Statement Statement.Answer HttpError

abbrev query (k : Statement) : DrawerProgram k.Answer := statement k

inductive Reply
  | shiftOpened (shiftId : Id) (shiftNumber : String)
  | shiftClosed (shiftId : Id) (summary : ShiftCloseSummary)
  | tillOpened (tillId : Id)
  | tillReconciled (tillId : Id) (data : Reconciliation)
  deriving DecidableEq, Repr

def openShift (userId : Id) (ctx : BranchContext) : DrawerProgram Reply := do
  let existingShift ← query (.findOpenShift ctx.branchId userId)
  ensure existingShift.isNone (conflict "User already has an active shift in this branch")
  let lastShift ← query (.lastShiftNumber ctx.branchId)
  let shiftNumber := nextNumber shiftLabel lastShift
  let shiftId ← query (.createShift
    { orgId := ctx.organizationId, branchId := ctx.branchId, shiftNumber, openedById := userId
      openedAt := 0, createdAt := 0 })
  return .shiftOpened shiftId shiftNumber

def closeShift (shiftId : Id) (ctx : BranchContext) : DrawerProgram Reply := do
  let found ← query (.findShift ctx shiftId)
  let shift ← need found (notFound "Shift not found")
  ensure (shift.status == .open) (conflict "Shift is not open")
  let openTills ← query (.countOpenTills shiftId)
  ensure (openTills == 0)
    (conflict ("Cannot close shift — there are unreconciled till sessions. " ++
    "Reconcile and close all tills first."))
  let summary ← query (.summarise ctx shiftId shift)
  query (.createSummary summary)
  let closedAt ← query .now
  query (.updateClosed shiftId closedAt)
  return .shiftClosed shiftId summary

def openTill (userId : Id) (ctx : BranchContext) (dto : TillsService.OpenTillDto) :
    DrawerProgram Reply := do
  let activeShift ← query (.findOpenShift ctx.branchId userId)
  let (shiftId, _) ← need activeShift
    (badRequest "No active shift found. Open a shift before opening a till.")
  let existingTill ← query (.findOpenTill ctx.branchId dto.tillCode)
  ensure existingTill.isNone
    (conflict ("Till \"" ++ dto.tillCode ++ "\" already has an active session in this branch"))
  let tillId ← query (.createTill
    { orgId := ctx.organizationId, branchId := ctx.branchId, shiftId, tillCode := dto.tillCode
      operatorUserId := userId, openedAt := 0, openingFloat := dto.openingFloat
      expectedCash := dto.openingFloat })
  query (.createMovement
    { orgId := ctx.organizationId, branchId := ctx.branchId, tillSessionId := tillId
      shiftId := some shiftId, type := .openingFloat, amount := dto.openingFloat })
  return .tillOpened tillId

def reconcileTill (tillId : Id) (ctx : BranchContext) (dto : TillsService.ReconcileTillDto) :
    DrawerProgram Reply := do
  let found ← query (.findTill ctx tillId)
  let till ← need found (notFound "Till session not found")
  ensure (till.status == .open) (conflict "Reconciliation only allowed on an OPEN till session")
  let expectedCash ← query (.computeExpectedCash tillId till.openingFloat ctx)
  let variance := dto.countedCash - expectedCash
  let varianceStatus := TillsService.varianceStatusOf variance
  ensure (varianceStatus == .matched || !dto.varianceReason.all String.isEmpty)
    (badRequest "Variance reason is required when counted cash does not match expected cash")
  let closedAt ← query .now
  let data := { countedCash := dto.countedCash, expectedCash, variance, varianceStatus, closedAt }
  query (.updateReconciled tillId data)
  return .tillReconciled tillId data

inductive DrawerCall
  | openShift (userId : Id) (ctx : BranchContext)
  | closeShift (shiftId : Id) (ctx : BranchContext)
  | openTill (userId : Id) (ctx : BranchContext) (dto : TillsService.OpenTillDto)
  | reconcileTill (tillId : Id) (ctx : BranchContext) (dto : TillsService.ReconcileTillDto)
  deriving DecidableEq, Repr

def DrawerCall.program : DrawerCall → DrawerProgram Reply
  | .openShift userId ctx => CashControl.openShift userId ctx
  | .closeShift shiftId ctx => CashControl.closeShift shiftId ctx
  | .openTill userId ctx dto => CashControl.openTill userId ctx dto
  | .reconcileTill tillId ctx dto => CashControl.reconcileTill tillId ctx dto

end NimbusPos.CashControl
