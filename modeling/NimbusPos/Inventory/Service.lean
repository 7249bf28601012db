import Mathlib.Data.List.Sort
import NimbusPos.Lib.Program
import NimbusPos.Numbering
import NimbusPos.Text

/-!
# Stock

Batches of an item and adjustments of its stock. A negative adjustment checks the stock that
is on hand and then takes from the oldest batches, each by an update of its own to what it
read of the batch less what it takes. Quantities are in thousandths.
-/

namespace NimbusPos.InventoryService

open Lib Lib.Program

/-- `/^-?\d+(\.\d{1,3})?$/`, without the sign. -/
def matchesQuantity (text : List Char) : Bool :=
  !(text.takeWhile Char.isDigit).isEmpty &&
    match text.dropWhile Char.isDigit with
    | [] => true
    | '.' :: fraction => fraction.all Char.isDigit && 1 ≤ fraction.length && fraction.length ≤ 3
    | _ => false

/-- `new Decimal(_)` of digits with or without a point. -/
def thousandths (text : List Char) : Nat :=
  let fraction := (text.dropWhile Char.isDigit).drop 1
  parseDigits (text.takeWhile Char.isDigit) * 1000 +
    parseDigits fraction * 10 ^ (3 - fraction.length)

/-- The text as a request spells it, with what it says. -/
structure QuantityText where
  text : String
  valid : matchesQuantity text.toList = true

def QuantityText.value (q : QuantityText) : Int := thousandths q.text.toList

/-- The same with a sign in front. -/
structure SignedText where
  negative : Bool
  digits : QuantityText

def SignedText.value (q : SignedText) : Int :=
  if q.negative then -q.digits.value else q.digits.value

def SignedText.text (q : SignedText) : String := (if q.negative then "-" else "") ++ q.digits.text

/-- `Decimal.toFixed(3)` -/
def toFixed3 (q : Int) : String :=
  (if q < 0 then "-" else "") ++ toString (q.natAbs / 1000) ++ "." ++ padded 3 (q.natAbs % 1000)

example : toFixed3 (thousandths "12.05".toList) = "12.050" := by decide +kernel

-- ---
-- Rows
-- ---

structure InventoryItem where
  orgId : Id
  branchId : Id
  deriving DecidableEq, Repr

structure StockBatch where
  orgId : Id
  branchId : Id
  itemId : Id
  batchNumber : Option String := none
  receivedQty : Int
  remainingQty : Int
  unitCost : Cents
  expiryDate : Option Time := none
  receivedAt : Time
  goodsReceiptId : Option Id := none
  deriving DecidableEq, Repr

structure StockAdjustment where
  orgId : Id
  branchId : Id
  itemId : Id
  qtyDelta : Int
  reason : Option String
  userId : Id
  createdAt : Time
  deriving DecidableEq, Repr

structure Store where
  clock : Time := 0
  items : Table InventoryItem := .empty
  batches : Table StockBatch := .empty
  adjustments : Table StockAdjustment := .empty

/-- An item of a branch. -/
structure Stocked where
  orgId : Id
  branchId : Id
  itemId : Id
  deriving DecidableEq, Repr

def stocked (ctx : BranchContext) (itemId : Id) : Stocked :=
  ⟨ctx.organizationId, ctx.branchId, itemId⟩

def StockBatch.stocked (batch : StockBatch) : Stocked := ⟨batch.orgId, batch.branchId, batch.itemId⟩

/-- A batch of the item that is not empty. -/
def StockBatch.holds (item : Stocked) (_ : Id) (batch : StockBatch) : Bool :=
  batch.stocked == item && 0 < batch.remainingQty

/-- The batch received first comes first. -/
def byReceipt (batches : List (Id × StockBatch)) : List (Id × StockBatch) :=
  batches.insertionSort fun a b => a.2.receivedAt ≤ b.2.receivedAt

/-- `aggregate`, of the batches that are not empty. -/
def Store.onHand (s : Store) (item : Stocked) : Int :=
  s.batches.sumWhere (StockBatch.holds item) (·.remainingQty)

-- ---
-- Statements
-- ---

/-- `findBatches` says what will be taken of the batches, which it does not use, and an update
what was read of the batch and what is taken of that. -/
inductive Statement
  | now
  | findItem (ctx : BranchContext) (itemId : Id)
  | createBatch (row : StockBatch)
  | onHand (ctx : BranchContext) (itemId : Id)
  | findBatches (ctx : BranchContext) (itemId : Id) (qty : Int)
  | updateRemaining (batchId : Id) (batchRemaining deductAmount : Int)
  | createAdjustment (row : StockAdjustment)
  deriving DecidableEq, Repr

abbrev Statement.Answer : Statement → Type
  | .now => Time
  | .findItem .. => Option InventoryItem
  | .createBatch _ | .createAdjustment _ => Id
  | .onHand .. => Int
  | .findBatches .. => List (Id × StockBatch)
  | .updateRemaining .. => Unit

def exec (s : Store) : (k : Statement) → Store × Except HttpError k.Answer
  | .now => (s, .ok s.clock)
  | .findItem ctx itemId =>
    (s, .ok ((s.items.get? itemId).filter fun item =>
      item.branchId == ctx.branchId && item.orgId == ctx.organizationId))
  | .createBatch row => ({ s with batches := s.batches.insert row }, .ok s.batches.next)
  | .onHand ctx itemId => (s, .ok (s.onHand (stocked ctx itemId)))
  | .findBatches ctx itemId _ =>
    (s, .ok (byReceipt (s.batches.findMany (StockBatch.holds (stocked ctx itemId)))))
  | .updateRemaining batchId batchRemaining deductAmount =>
    if (s.batches.get? batchId).isSome then
      ({ s with
        batches := s.batches.update batchId fun batch =>
          { batch with remainingQty := batchRemaining - deductAmount } }, .ok ())
    else (s, .error (notFound "Record to update not found"))
  | .createAdjustment row =>
    ({ s with adjustments := s.adjustments.insert { row with createdAt := s.clock } },
      .ok s.adjustments.next)

-- ---
-- Calls
-- ---

abbrev StockProgram := Program Statement Statement.Answer HttpError

abbrev query (k : Statement) : StockProgram k.Answer := statement k

structure CreateStockBatchDto where
  itemId : Id
  batchNumber : Option String := none
  receivedQty : QuantityText
  unitCost : Cents
  expiryDate : Option Time := none
  receivedAt : Option Time := none
  goodsReceiptId : Option Id := none

structure CreateStockAdjustmentDto where
  itemId : Id
  qtyDelta : SignedText
  reason : Option String := none

/-- A window that blocks the writes of the inventory. -/
structure MaintenanceWindow where
  id : Id
  code : String
  endsAt : Time
  deriving DecidableEq, Repr

/-- What the control plane answers a call. -/
structure ControlPlane where
  blocking : Option MaintenanceWindow := none
  trainingSessionId : Option Id := none
  deriving DecidableEq, Repr

inductive Reply
  | received (item : Stocked) (receivedQty : Int) (batchId : Id)
  | adjusted (item : Stocked) (qtyDelta : Int) (adjustmentId : Id)
  | simulated (trainingSessionId : Id)
  deriving DecidableEq, Repr

def createStockBatch (ctx : BranchContext) (dto : CreateStockBatchDto) : StockProgram Reply := do
  let item ← query (.findItem ctx dto.itemId)
  let _ ← need item (notFound "Inventory item not found")
  let receivedQty := dto.receivedQty.value
  ensure (0 < receivedQty) (badRequest "receivedQty must be greater than 0")
  let now ← query .now
  let batchId ← query (.createBatch
    { orgId := ctx.organizationId, branchId := ctx.branchId, itemId := dto.itemId
      batchNumber := dto.batchNumber, receivedQty, remainingQty := receivedQty
      unitCost := dto.unitCost, expiryDate := dto.expiryDate
      receivedAt := dto.receivedAt.getD now, goodsReceiptId := dto.goodsReceiptId })
  return .received (stocked ctx dto.itemId) receivedQty batchId

/-- The loop over the batches, with what remains to be taken. -/
def deductFrom : List (Id × StockBatch) → Int → StockProgram (List (Id × Int))
  | [], _ => return []
  | (batchId, batch) :: batches, remaining =>
    if remaining ≤ 0 then return []
    else do
      let deductAmount := min batch.remainingQty remaining
      query (.updateRemaining batchId batch.remainingQty deductAmount)
      let deductions ← deductFrom batches (remaining - deductAmount)
      return (batchId, deductAmount) :: deductions

def fifoDeduct (ctx : BranchContext) (itemId : Id) (qty : Int) :
    StockProgram (List (Id × Int)) := do
  let batches ← query (.findBatches ctx itemId qty)
  deductFrom batches qty

def blockedBy (window : MaintenanceWindow) : HttpError :=
  { kind := .conflict, code := some "MAINTENANCE_WINDOW_ACTIVE"
    message := "Write blocked by active maintenance window '" ++ window.code ++
      "'. Try again after " ++ toISOString window.endsAt ++ "." }

/-- A negative change is taken from the batches, and a positive one is a batch without cost. -/
def changeStock (ctx : BranchContext) (dto : CreateStockAdjustmentDto) (currentOnHand : Int) :
    StockProgram Unit :=
  if dto.qtyDelta.value < 0 then do
    ensure (0 ≤ currentOnHand + dto.qtyDelta.value)
      (badRequest ("Adjustment would result in negative stock. Current on-hand: " ++
        toFixed3 currentOnHand ++ ", requested delta: " ++ dto.qtyDelta.text))
    let _ ← fifoDeduct ctx dto.itemId (-dto.qtyDelta.value)
    return ()
  else do
    let now ← query .now
    let _ ← query (.createBatch
      { orgId := ctx.organizationId, branchId := ctx.branchId, itemId := dto.itemId
        receivedQty := dto.qtyDelta.value, remainingQty := dto.qtyDelta.value, unitCost := 0
        receivedAt := now })
    return ()

def adjust (userId : Id) (ctx : BranchContext) (dto : CreateStockAdjustmentDto) :
    StockProgram Reply := do
  let item ← query (.findItem ctx dto.itemId)
  let _ ← need item (notFound "Inventory item not found")
  ensure (dto.qtyDelta.value != 0) (badRequest "qtyDelta must not be zero")
  let currentOnHand ← query (.onHand ctx dto.itemId)
  changeStock ctx dto currentOnHand
  let adjustmentId ← query (.createAdjustment
    { orgId := ctx.organizationId, branchId := ctx.branchId, itemId := dto.itemId
      qtyDelta := dto.qtyDelta.value, reason := dto.reason, userId, createdAt := 0 })
  return .adjusted (stocked ctx dto.itemId) dto.qtyDelta.value adjustmentId

def createStockAdjustment (plane : ControlPlane) (userId : Id) (ctx : BranchContext)
    (dto : CreateStockAdjustmentDto) : StockProgram Reply :=
  match plane.blocking, plane.trainingSessionId with
  | some window, _ => throw (blockedBy window)
  | none, some sessionId => return .simulated sessionId
  | none, none => adjust userId ctx dto

inductive StockCall
  | createStockBatch (ctx : BranchContext) (dto : CreateStockBatchDto)
  | createStockAdjustment (plane : ControlPlane) (userId : Id) (ctx : BranchContext)
      (dto : CreateStockAdjustmentDto)

def StockCall.program : StockCall → StockProgram Reply
  | .createStockBatch ctx dto => InventoryService.createStockBatch ctx dto
  | .createStockAdjustment plane userId ctx dto =>
    InventoryService.createStockAdjustment plane userId ctx dto

end NimbusPos.InventoryService
