import NimbusPos.Common

/-!
# Tills

A till session holds a float, is drawn on by safe drops, and is reconciled
against the cash that the branch's payments, refunds and movements predict.
-/

namespace NimbusPos.TillsService

open Lib Lib.Service

structure OpenTillDto where
  tillCode : String
  openingFloat : Cents
  /-- `@Min(0)` -/
  openingFloat_nonneg : 0 ≤ openingFloat
  deriving DecidableEq, Repr

def openTill (userId : Id) (ctx : BranchContext) (dto : OpenTillDto) : Db Unit := do
  let s ← get
  let (shiftId, _) ← need (s.shifts.findFirst fun _ shift =>
      shift.branchId == ctx.branchId && shift.openedById == userId && shift.status == .open)
    (badRequest "No active shift found. Open a shift before opening a till.")
  let existingTill := s.tillSessions.findFirst fun _ till =>
    till.branchId == ctx.branchId && till.tillCode == dto.tillCode && till.status == .open
  ensure existingTill.isNone
    (conflict ("Till \"" ++ dto.tillCode ++ "\" already has an active session in this branch"))
  modify fun s =>
    let till : TillSession :=
      { orgId := ctx.organizationId, branchId := ctx.branchId, shiftId, tillCode := dto.tillCode
        operatorUserId := userId, openedAt := s.clock, openingFloat := dto.openingFloat
        expectedCash := dto.openingFloat }
    let movement : CashMovement :=
      { orgId := ctx.organizationId, branchId := ctx.branchId, tillSessionId := s.tillSessions.next
        shiftId := some shiftId, type := .openingFloat, amount := dto.openingFloat }
    { s with
      tillSessions := s.tillSessions.insert till
      cashMovements := s.cashMovements.insert movement }

def findTill (s : Store) (ctx : BranchContext) (tillId : Id) : Option TillSession :=
  (s.tillSessions.get? tillId).filter fun till =>
    till.branchId == ctx.branchId && till.orgId == ctx.organizationId

structure SafeDropDto where
  amount : Cents
  /-- `@Min(0.01)` -/
  amount_pos : 1 ≤ amount
  deriving Repr

def safeDrop (tillId : Id) (ctx : BranchContext) (dto : SafeDropDto) : Db Unit := do
  let s ← get
  let till ← need (findTill s ctx tillId) (notFound "Till session not found")
  ensure (till.status == .open) (conflict "Safe drop only allowed on an OPEN till session")
  modify fun s =>
    let movement : CashMovement :=
      { orgId := ctx.organizationId, branchId := ctx.branchId, tillSessionId := tillId
        shiftId := some till.shiftId, type := .safeDrop, amount := dto.amount }
    { s with
      cashMovements := s.cashMovements.insert movement
      tillSessions := s.tillSessions.update tillId fun till =>
        { till with expectedCash := till.expectedCash - dto.amount } }

-- ---
-- Expected cash
-- ---

/-- `createdAt: { gte: timeStart, lte: timeEnd }`. -/
def inWindow (timeStart timeEnd createdAt : Time) : Bool :=
  decide (timeStart ≤ createdAt) && decide (createdAt ≤ timeEnd)

/-- Completed cash payments of a branch in a window. -/
def cashSales (s : Store) (ctx : BranchContext) (timeStart timeEnd : Time) : Cents :=
  s.payments.sumWhere (fun _ payment =>
    payment.branchId == ctx.branchId && payment.orgId == ctx.organizationId &&
      payment.method == .cash && payment.status == .completed &&
      inWindow timeStart timeEnd payment.createdAt) (·.amount)

/-- Completed refunds of a branch in a window, of every payment method. -/
def refundCashOut (s : Store) (ctx : BranchContext) (timeStart timeEnd : Time) : Cents :=
  s.refunds.sumWhere (fun _ refund =>
    refund.branchId == ctx.branchId && refund.orgId == ctx.organizationId &&
      refund.status == .completed && inWindow timeStart timeEnd refund.createdAt) (·.amount)

def movementSum (s : Store) (tillId : Id) (type : CashMovementType) : Cents :=
  s.cashMovements.sumWhere (fun _ movement =>
    movement.tillSessionId == tillId && movement.type == type) (·.amount)

def computeExpectedCash (s : Store) (tillId : Id) (openingFloat : Cents) (ctx : BranchContext) :
    Cents :=
  match s.tillSessions.get? tillId with
  | none => openingFloat
  | some till =>
    let timeStart := till.openedAt
    let timeEnd := till.closedAt.getD s.clock
    openingFloat + cashSales s ctx timeStart timeEnd + movementSum s tillId .paidIn
      - movementSum s tillId .safeDrop - movementSum s tillId .cashPickup
      - refundCashOut s ctx timeStart timeEnd - movementSum s tillId .refundPayout
      - movementSum s tillId .paidOut

structure ReconcileTillDto where
  countedCash : Cents
  /-- `@Min(0)` -/
  countedCash_nonneg : 0 ≤ countedCash
  varianceReason : Option String := none
  deriving DecidableEq, Repr

/-- A cent of tolerance. -/
def varianceStatusOf (variance : Cents) : VarianceStatus :=
  if variance.natAbs ≤ 1 then .matched else if variance < 0 then .short else .over

def reconcileTill (tillId : Id) (ctx : BranchContext) (dto : ReconcileTillDto) : Db Unit := do
  let s ← get
  let till ← need (findTill s ctx tillId) (notFound "Till session not found")
  ensure (till.status == .open) (conflict "Reconciliation only allowed on an OPEN till session")
  let expectedCash := computeExpectedCash s tillId till.openingFloat ctx
  let variance := dto.countedCash - expectedCash
  let varianceStatus := varianceStatusOf variance
  ensure (varianceStatus == .matched || !dto.varianceReason.all String.isEmpty)
    (badRequest "Variance reason is required when counted cash does not match expected cash")
  let rewrite (till : TillSession) : TillSession :=
    { till with countedCash := some dto.countedCash, expectedCash, variance := some variance
                varianceStatus := some varianceStatus, status := .reconciled,
                closedAt := some s.clock }
  modify fun s => { s with tillSessions := s.tillSessions.update tillId rewrite }

theorem safeDrop_ok (h : safeDrop tillId ctx dto s = .ok u t) :
    ∃ till, findTill s ctx tillId = some till ∧ till.status = .open ∧ t = { s with
      cashMovements := s.cashMovements.insert
        { orgId := ctx.organizationId, branchId := ctx.branchId, tillSessionId := tillId
          shiftId := some till.shiftId, type := .safeDrop, amount := dto.amount }
      tillSessions := s.tillSessions.update tillId fun till =>
        { till with expectedCash := till.expectedCash - dto.amount } } := by
  simp only [safeDrop, bind_ok, get_ok, need_ok, ensure_ok, modify_ok, beq_iff_eq] at h
  obtain ⟨_, _, ⟨rfl, rfl⟩, till, _, ⟨hfind, rfl⟩, _, _, ⟨hopen, rfl⟩, rfl⟩ := h
  exact ⟨till, hfind, hopen, rfl⟩

theorem safeDrop_atomic : Atomic (safeDrop tillId ctx dto) :=
  Reads.get.then fun _ => (Reads.need _ _).then fun _ => (Reads.ensure _ _).then fun _ =>
    (Total.modify _).atomic

-- ---
-- What the calls change
-- ---

/-- Only the drawer's own tables are written. -/
def drawerFrame : Frame Store := .same fun s =>
  { s with
    shifts := .empty, tillSessions := .empty, cashMovements := .empty,
    shiftCloseSummaries := .empty }

theorem openTill_keeps : Keeps drawerFrame (openTill userId ctx dto) :=
  .bind Reads.get.keeps fun _ => .bind (Reads.need _ _).keeps fun _ =>
    .bind (Reads.ensure _ _).keeps fun _ => .modify fun _ => rfl

theorem safeDrop_keeps : Keeps drawerFrame (safeDrop tillId ctx dto) :=
  .bind Reads.get.keeps fun _ => .bind (Reads.need _ _).keeps fun _ =>
    .bind (Reads.ensure _ _).keeps fun _ => .modify fun _ => rfl

theorem reconcileTill_keeps : Keeps drawerFrame (reconcileTill tillId ctx dto) :=
  .bind Reads.get.keeps fun _ => .bind (Reads.need _ _).keeps fun _ =>
    .bind (Reads.ensure _ _).keeps fun _ => .bind (Reads.ensure _ _).keeps fun _ => .modify fun _ =>
      rfl

end NimbusPos.TillsService
