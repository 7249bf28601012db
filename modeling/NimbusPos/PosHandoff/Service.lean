import NimbusPos.Common
import NimbusPos.Numbering

/-!
# Order handoff

Splitting lines off into a child order, moving them to another order, merging
two orders, and moving an order to another table. A split and a move validate
every selection first and then run one loop over them; the loop works on the
lines as they were read before it.
-/

namespace NimbusPos.PosHandoffService

open Lib Lib.Service

def handoffOpenStatuses : List OrderStatus := [.new, .sent, .inKitchen, .ready, .served]

theorem active_of_open (h : status ∈ handoffOpenStatuses) : status.active = true := by
  revert h
  cases status <;> decide

def loadOpenOrder (ctx : BranchContext) (orderId : Id) : Db Order := do
  let s ← get
  let order ← need (s.findOrder ctx orderId) (notFound "Order not found in this branch")
  ensure (handoffOpenStatuses.contains order.status)
    { kind := .conflict, code := "ORDER_NOT_OPEN_FOR_HANDOFF",
      message := "Order is in " ++ toString order.status ++
        " state; handoff requires one of NEW, SENT, IN_KITCHEN, READY, SERVED" }
  pure order

/-- `recomputeTotals` over the lines of one order. -/
def lineValue (items : Table OrderItem) (orderId : Id) : Cents :=
  items.sumWhere (fun _ item => item.orderId == orderId) fun item => item.price * item.quantity

/-- Tax and discount keep their stored values. -/
def recomputeAndSaveOrderTotals (s : Store) (orderId : Id) : Store :=
  let subtotal := lineValue s.orderItems orderId
  s.updateOrder orderId fun order =>
    { order with subtotal, total := subtotal + order.tax - order.discount }

/-- Completed payments of an order. -/
def completedPayments (s : Store) (orderId : Id) : Cents :=
  s.payments.sumWhere (fun _ payment => payment.orderId == orderId && payment.status == .completed)
    (·.amount)

def computeOutstanding (s : Store) (orderId : Id) : Cents :=
  match s.orders.get? orderId with
  | none => 0
  | some order => max (order.total - completedPayments s orderId) 0

-- ---
-- Selections
-- ---

/-- What the DTO lets through: an integer quantity of at least one. -/
structure ItemSelection where
  orderItemId : Id
  quantity : Int
  quantity_pos : 1 ≤ quantity
  deriving DecidableEq, Repr

/-- `@ArrayMinSize(1) @ArrayMaxSize(100)`. -/
structure Selections where
  items : List ItemSelection
  size : 1 ≤ items.length ∧ items.length ≤ 100
  deriving DecidableEq, Repr

def validateSelection (s : Store) (sourceId : Id) (exceeds : ItemSelection → Int → HttpError)
    (sel : ItemSelection) : Db Unit := do
  let it ← need (s.itemOn sourceId sel.orderItemId)
    (badRequest ("OrderItem " ++ toString sel.orderItemId ++ " not found on source order"))
  ensure (sel.quantity ≤ it.quantity) (exceeds sel it.quantity)

/-- Every selection is checked against the lines as they stand before the loop. -/
def validateSelections (s : Store) (sourceId : Id) (exceeds : ItemSelection → Int → HttpError) :
    List ItemSelection → Db Unit
  | [] => pure ()
  | sel :: rest => do
    validateSelection s sourceId exceeds sel
    validateSelections s sourceId exceeds rest

/-- The new row of a partial move. The margin columns are not written. -/
def movedLine (targetId : Id) (it : OrderItem) (moveQty : Int) : OrderItem :=
  { orderId := targetId, menuItemId := it.menuItemId, menuItemServingId := it.menuItemServingId
    quantity := moveQty, price := it.price, subtotal := it.price * moveQty
    metadata := it.metadata, costUnit := it.costUnit, costTotal := it.costUnit.map (· * moveQty)
    marginTotal := none, marginPct := none }

/-- One turn of the loop; `it` is the line as it was read before the loop. -/
def moveLine (targetId : Id) (items : Table OrderItem) (itemId : Id) (it : OrderItem)
    (moveQty : Int) : Table OrderItem :=
  let remaining := it.quantity - moveQty
  if remaining = 0 then items.update itemId fun row => { row with orderId := targetId }
  else
    let decrement (row : OrderItem) : OrderItem :=
      { row with quantity := remaining, subtotal := it.price * remaining }
    (items.update itemId decrement).insert (movedLine targetId it moveQty)

def moveSelection (itemMap : Id → Option OrderItem) (targetId : Id) (items : Table OrderItem)
    (sel : ItemSelection) : Table OrderItem :=
  match itemMap sel.orderItemId with
  | some it => moveLine targetId items sel.orderItemId it sel.quantity
  | none => items

def moveSelections (itemMap : Id → Option OrderItem) (targetId : Id) (items : Table OrderItem)
    (selections : List ItemSelection) : Table OrderItem :=
  selections.foldl (moveSelection itemMap targetId) items

-- ---
-- Split, move, merge
-- ---

def generateChildOrderNumber (s : Store) (parentOrderNumber : String) (parentId : Id) : String :=
  childOrderNumber parentOrderNumber
    (s.orders.count fun _ row => row.splitFromOrderId == some parentId)

/-- A table of the branch that is in use. -/
def findActiveTable (s : Store) (ctx : BranchContext) (tableId : Id) : Option DiningTable :=
  (s.findTable ctx tableId).filter (·.isActive)

structure SplitItemsDto extends Selections where
  targetTableId : Option Id := none
  deriving DecidableEq, Repr

def splitQuantityExceeds (sel : ItemSelection) (available : Int) : HttpError :=
  { kind := .badRequest, code := "SPLIT_QUANTITY_EXCEEDS_SOURCE",
    message := "Requested quantity " ++ toString sel.quantity ++ " exceeds available " ++
      toString available ++ " for " ++ toString sel.orderItemId }

def checkTargetTable (ctx : BranchContext) (targetTableId : Option Id) : Db Unit := do
  let s ← get
  match targetTableId with
  | none => pure ()
  | some tableId =>
    ensure (findActiveTable s ctx tableId).isSome (notFound "Target table not found in this branch")

/-- The child order: its tax and discount start at zero. -/
def childOrder (s : Store) (ctx : BranchContext) (sourceId : Id) (source : Order)
    (targetTableId : Option Id) : Order :=
  { orgId := ctx.organizationId, branchId := ctx.branchId, userId := source.userId
    tableId := targetTableId <|> source.tableId
    orderNumber := generateChildOrderNumber s source.orderNumber sourceId
    serviceType := source.serviceType, splitFromOrderId := some sourceId
    createdAt := s.clock, updatedAt := s.clock }

def splitItems (ctx : BranchContext) (orderId : Id) (dto : SplitItemsDto) : Db Unit := do
  let source ← loadOpenOrder ctx orderId
  let s ← get
  validateSelections s orderId splitQuantityExceeds dto.items
  checkTargetTable ctx dto.targetTableId
  transaction do
    let childId ← createOrderRow (childOrder s ctx orderId source dto.targetTableId)
    modify fun t =>
      let moved := { t with
        orderItems := moveSelections (s.itemOn orderId) childId t.orderItems dto.items }
      recomputeAndSaveOrderTotals (recomputeAndSaveOrderTotals moved orderId) childId

structure MoveOrderItemsDto extends Selections where
  targetOrderId : Id
  deriving DecidableEq, Repr

def moveQuantityExceeds (sel : ItemSelection) (available : Int) : HttpError :=
  { kind := .badRequest, code := "MOVE_QUANTITY_EXCEEDS_SOURCE",
    message := "Requested quantity " ++ toString sel.quantity ++ " exceeds available " ++
      toString available }

def moveItems (ctx : BranchContext) (sourceOrderId : Id) (dto : MoveOrderItemsDto) : Db Unit := do
  ensure (sourceOrderId != dto.targetOrderId)
    (badRequest "sourceOrderId and targetOrderId must differ")
  let _ ← loadOpenOrder ctx sourceOrderId
  let _ ← loadOpenOrder ctx dto.targetOrderId
  let s ← get
  validateSelections s sourceOrderId moveQuantityExceeds dto.items
  modify fun t =>
    let moved := { t with
      orderItems := moveSelections (s.itemOn sourceOrderId) dto.targetOrderId t.orderItems dto.items
        }
    recomputeAndSaveOrderTotals (recomputeAndSaveOrderTotals moved sourceOrderId) dto.targetOrderId

structure MergeOrdersDto where
  sourceOrderId : Id
  targetOrderId : Id
  deriving DecidableEq, Repr

/-- Every line of the source, one update after another. -/
def reparentAll (targetId : Id) (items : Table OrderItem) (lines : List (Id × OrderItem)) :
    Table OrderItem :=
  lines.foldl (fun items line => items.update line.1 fun row => { row with orderId := targetId })
    items

def mergeOrders (ctx : BranchContext) (dto : MergeOrdersDto) : Db Unit := do
  ensure (dto.sourceOrderId != dto.targetOrderId)
    (badRequest "sourceOrderId and targetOrderId must differ")
  let _ ← loadOpenOrder ctx dto.sourceOrderId
  let _ ← loadOpenOrder ctx dto.targetOrderId
  let s ← get
  ensure (s.payments.count (fun _ payment => payment.orderId == dto.sourceOrderId &&
      (payment.status == .completed || payment.status == .pending)) == 0)
    { kind := .conflict, code := "MERGE_SOURCE_HAS_PAYMENTS",
      message := "Source order has payments; resolve via refunds before merging" }
  modify fun t =>
    let moved := { t with
      orderItems := reparentAll dto.targetOrderId t.orderItems (s.itemsOf dto.sourceOrderId) }
    let summed := recomputeAndSaveOrderTotals (recomputeAndSaveOrderTotals moved dto.targetOrderId)
      dto.sourceOrderId
    summed.updateOrder dto.sourceOrderId fun order =>
      { order with status := .voided, mergedIntoOrderId := some dto.targetOrderId }

structure TransferTableDto where
  targetTableId : Id
  deriving DecidableEq, Repr

def transferTable (ctx : BranchContext) (orderId : Id) (dto : TransferTableDto) : Db Unit := do
  let order ← loadOpenOrder ctx orderId
  let s ← get
  ensure (findActiveTable s ctx dto.targetTableId).isSome
    (notFound "Target table not found in this branch")
  ensure (order.tableId != some dto.targetTableId)
    (badRequest "Order is already at the target table")
  modify fun s => s.updateOrder orderId fun order =>
    { order with tableId := some dto.targetTableId }

structure TransferServerDto where
  targetUserId : Id
  deriving DecidableEq, Repr

/-- `membership` is what the lookup of the target's active membership finds. -/
def transferServer (ctx : BranchContext) (orderId : Id) (dto : TransferServerDto)
    (membership : Bool) : Db Unit := do
  let order ← loadOpenOrder ctx orderId
  ensure membership (forbidden "Target user has no active membership in this branch")
  ensure (order.userId != dto.targetUserId)
    (badRequest "Order is already assigned to the target server")
  modify fun s => s.updateOrder orderId fun order => { order with userId := dto.targetUserId }

inductive SplitBillMode
  | equal
  | custom
  deriving DecidableEq, Repr

/-- `groups` has the amount of each group. -/
structure SplitBillDto where
  mode : SplitBillMode
  count : Option Nat := none
  groups : List (Option Cents) := []
  deriving DecidableEq, Repr

/-- The loop over the groups, from group `i` on. -/
def sumGroups (i : Nat) : List (Option Cents) → Db Cents
  | [] => pure 0
  | amount :: groups => do
    let amount ← need amount
      (badRequest ("groups[" ++ toString i ++ "].amount is required for CUSTOM split"))
    ensure (decide (0 < amount)) (badRequest ("groups[" ++ toString i ++ "].amount must be > 0"))
    let rest ← sumGroups (i + 1) groups
    pure (amount + rest)

def checkGroups (total : Cents) (dto : SplitBillDto) : Db Unit :=
  match dto.mode with
  | .equal => ensure (decide (2 ≤ dto.count.getD 0)) (badRequest "EQUAL split requires count >= 2")
  | .custom => do
    ensure (decide (2 ≤ dto.groups.length)) (badRequest "CUSTOM split requires at least 2 groups")
    let sum ← sumGroups 0 dto.groups
    ensure (sum == total)
      { kind := .badRequest, code := "SPLIT_BILL_AMOUNT_MISMATCH"
        message := "Sum of split groups (" ++ toFixed sum ++ ") must equal order total (" ++
          toFixed total ++ ")" }

/-- The groups go into `metadata`; the columns of the order stay. -/
def splitBill (ctx : BranchContext) (orderId : Id) (dto : SplitBillDto) : Db Unit := do
  let order ← loadOpenOrder ctx orderId
  checkGroups order.total dto
  modify fun s => s.updateOrder orderId id

-- ---
-- What a successful call did
-- ---

theorem loadOpenOrder_reads : Reads (loadOpenOrder ctx orderId) :=
  .bind .get fun _ => .bind (.need _ _) fun _ => .bind (.ensure _ _) fun _ => .pure _

@[simp] theorem loadOpenOrder_ok :
    loadOpenOrder ctx orderId s = .ok order t ↔
      (s.findOrder ctx orderId = some order ∧ order.status ∈ handoffOpenStatuses) ∧ s = t := by
  rw [loadOpenOrder_reads.returns, and_congr_left_iff]
  rintro rfl
  simp only [Returns, loadOpenOrder, bind_ok, get_ok, need_ok, ensure_ok, pure_ok,
    List.contains_eq_mem, decide_eq_true_eq]
  constructor
  · rintro ⟨_, _, ⟨rfl, rfl⟩, _, _, ⟨hfind, rfl⟩, _, _, ⟨hopen, _⟩, rfl, _⟩
    exact ⟨hfind, hopen⟩
  · rintro ⟨hfind, hopen⟩
    exact ⟨_, _, ⟨rfl, rfl⟩, _, _, ⟨hfind, rfl⟩, (), _, ⟨hopen, rfl⟩, rfl, rfl⟩

theorem validateSelection_reads : Reads (validateSelection r sourceId exceeds sel) :=
  .bind (.need _ _) fun _ => .ensure _ _

theorem validateSelections_reads : Reads (validateSelections r sourceId exceeds sels) := by
  induction sels with
  | nil => exact .pure ()
  | cons sel sels ih => exact .bind validateSelection_reads fun _ => ih

/-- Every selection names a line of the order and fits the line's quantity. -/
def selectionsFit (s : Store) (sourceId : Id) (sels : List ItemSelection) : Prop :=
  ∀ sel ∈ sels, ∃ it, s.itemOn sourceId sel.orderItemId = some it ∧ sel.quantity ≤ it.quantity

theorem validateSelections_iff :
    validateSelections r sourceId exceeds sels s = .ok u t ↔
      selectionsFit r sourceId sels ∧ s = t := by
  induction sels with
  | nil => simp [validateSelections, selectionsFit]
  | cons sel sels ih =>
    simp only [validateSelections, validateSelection, bind_ok, need_ok, ensure_ok,
      decide_eq_true_eq]
    constructor
    · rintro ⟨_, _, ⟨it, _, ⟨hit, rfl⟩, hle, rfl⟩, hrest⟩
      obtain ⟨hfits, rfl⟩ := ih.mp hrest
      refine ⟨?_, rfl⟩
      rintro sel' (_ | ⟨_, hmem⟩)
      · exact ⟨it, hit, hle⟩
      · exact hfits sel' hmem
    · rintro ⟨hfits, rfl⟩
      obtain ⟨it, hit, hle⟩ := hfits sel (.head _)
      exact ⟨(), s, ⟨it, s, ⟨hit, rfl⟩, hle, rfl⟩,
        ih.mpr ⟨fun sel' h => hfits sel' (.tail _ h), rfl⟩⟩

theorem checkTargetTable_reads : Reads (checkTargetTable ctx tableId) := by
  cases tableId with
  | none => exact .bind .get fun _ => .pure _
  | some tableId => exact .bind .get fun _ => .ensure _ _

@[simp] theorem checkTargetTable_ok :
    checkTargetTable ctx tableId s = .ok u t ↔ Returns (checkTargetTable ctx tableId) s u ∧ s = t :=
  checkTargetTable_reads.returns

/-- Both orders of a split or a move after the loop. -/
def resum (s : Store) (first second : Id) : Store :=
  recomputeAndSaveOrderTotals (recomputeAndSaveOrderTotals s first) second

/-- The row of an order whose lines are worth `value`. -/
def rebilled (value : Cents) (now : Time) (order : Order) : Order :=
  { order with subtotal := value, total := value + order.tax - order.discount, updatedAt := now }

theorem resum_get (s : Store) (a b k : Id) : (resum s a b).orders.get? k =
    (s.orders.get? k).map fun order =>
      if k = a ∨ k = b then rebilled (lineValue s.orderItems k) s.clock order else order := by
  simp only [resum, recomputeAndSaveOrderTotals, updateOrder_get]
  by_cases hb : k = b
  · by_cases ha : k = a
    · subst hb ha
      cases s.orders.get? k <;> simp [rebilled, Store.updateOrder]
    · subst hb
      cases s.orders.get? k <;> simp [ha, rebilled, Store.updateOrder]
  · by_cases ha : k = a
    · subst ha
      cases s.orders.get? k <;> simp [hb, rebilled]
    · simp [ha, hb]

theorem splitItems_ok (h : splitItems ctx orderId dto s = .ok u t) :
    ∃ source, s.findOrder ctx orderId = some source ∧ source.status ∈ handoffOpenStatuses ∧
      selectionsFit s orderId dto.items ∧
      let child := childOrder s ctx orderId source dto.targetTableId
      s.numberFree child.branchId child.orderNumber ∧
      let moved := moveSelections (s.itemOn orderId) s.orders.next s.orderItems dto.items
      t = resum { s with orders := s.orders.insert child, orderItems := moved } orderId
        s.orders.next := by
  simp only [splitItems, bind_ok, loadOpenOrder_ok, get_ok, validateSelections_iff,
    checkTargetTable_ok, transaction_ok, createOrderRow_ok, modify_ok] at h
  obtain ⟨source, _, ⟨⟨hfind, hopen⟩, rfl⟩, _, _, ⟨rfl, rfl⟩, _, _, ⟨hfits, rfl⟩, _, _, ⟨_, rfl⟩, _,
    _, ⟨hfree, rfl, rfl⟩, rfl⟩ := h
  exact ⟨source, hfind, hopen, hfits, hfree, rfl⟩

theorem moveItems_ok (h : moveItems ctx sourceId dto s = .ok u t) :
    sourceId ≠ dto.targetOrderId ∧
      (∃ source, s.findOrder ctx sourceId = some source ∧ source.status ∈ handoffOpenStatuses) ∧
      (∃ target, s.findOrder ctx dto.targetOrderId = some target ∧
        target.status ∈ handoffOpenStatuses) ∧
      selectionsFit s sourceId dto.items ∧
      let moved := moveSelections (s.itemOn sourceId) dto.targetOrderId s.orderItems dto.items
      t = resum { s with orderItems := moved } sourceId dto.targetOrderId := by
  simp only [moveItems, bind_ok, ensure_ok, loadOpenOrder_ok, get_ok, validateSelections_iff,
    modify_ok, bne_iff_ne] at h
  obtain ⟨_, _, ⟨hne, rfl⟩, source, _, ⟨hsource, rfl⟩, target, _, ⟨htarget, rfl⟩, _, _, ⟨rfl, rfl⟩,
    _, _, ⟨hfits, rfl⟩, rfl⟩ := h
  exact ⟨hne, ⟨source, hsource⟩, ⟨target, htarget⟩, hfits, rfl⟩

/-- Every line of one order under another. -/
def reparent (items : Table OrderItem) (sourceId targetId : Id) : Table OrderItem :=
  items.updateWhere (fun _ item => item.orderId == sourceId) fun item =>
    { item with orderId := targetId }

theorem mergeOrders_ok (h : mergeOrders ctx dto s = .ok u t) :
    dto.sourceOrderId ≠ dto.targetOrderId ∧
      (∃ source, s.findOrder ctx dto.sourceOrderId = some source ∧
        source.status ∈ handoffOpenStatuses) ∧
      (∃ target, s.findOrder ctx dto.targetOrderId = some target ∧
        target.status ∈ handoffOpenStatuses) ∧
      (∀ k payment, s.payments.get? k = some payment → payment.orderId = dto.sourceOrderId →
        payment.status ≠ .completed ∧ payment.status ≠ .pending) ∧
      let moved := reparentAll dto.targetOrderId s.orderItems (s.itemsOf dto.sourceOrderId)
      let summed := resum { s with orderItems := moved } dto.targetOrderId dto.sourceOrderId
      t = summed.updateOrder dto.sourceOrderId fun order =>
        { order with status := .voided, mergedIntoOrderId := some dto.targetOrderId } := by
  simp only [mergeOrders, bind_ok, ensure_ok, loadOpenOrder_ok, get_ok, modify_ok, bne_iff_ne,
    beq_iff_eq, Table.count_eq_zero, Bool.and_eq_false_imp, Bool.or_eq_false_iff,
    beq_eq_false_iff_ne] at h
  obtain ⟨_, _, ⟨hne, rfl⟩, source, _, ⟨hsource, rfl⟩, target, _, ⟨htarget, rfl⟩, _, _, ⟨rfl, rfl⟩,
    _, _, ⟨hpaid, rfl⟩, rfl⟩ := h
  exact ⟨hne, ⟨source, hsource⟩, ⟨target, htarget⟩, hpaid, rfl⟩

theorem transferTable_ok (h : transferTable ctx orderId dto s = .ok u t) :
    ∃ order, s.findOrder ctx orderId = some order ∧ order.status ∈ handoffOpenStatuses ∧
      t = s.updateOrder orderId fun order => { order with tableId := some dto.targetTableId } := by
  simp only [transferTable, bind_ok, ensure_ok, loadOpenOrder_ok, get_ok, modify_ok] at h
  obtain ⟨order, _, ⟨⟨hfind, hopen⟩, rfl⟩, _, _, ⟨rfl, rfl⟩, _, _, ⟨_, rfl⟩, _, _, ⟨_, rfl⟩, rfl⟩ :=
    h
  exact ⟨order, hfind, hopen, rfl⟩

theorem transferServer_ok (h : transferServer ctx orderId dto membership s = .ok u t) :
    ∃ order, s.findOrder ctx orderId = some order ∧ order.status ∈ handoffOpenStatuses ∧
      t = s.updateOrder orderId fun order => { order with userId := dto.targetUserId } := by
  simp only [transferServer, bind_ok, ensure_ok, loadOpenOrder_ok, modify_ok] at h
  obtain ⟨order, _, ⟨⟨hfind, hopen⟩, rfl⟩, _, _, ⟨_, rfl⟩, _, _, ⟨_, rfl⟩, rfl⟩ := h
  exact ⟨order, hfind, hopen, rfl⟩

theorem sumGroups_reads : Reads (sumGroups i groups) := by
  induction groups generalizing i with
  | nil => exact .pure 0
  | cons amount groups ih =>
    exact .bind (.need _ _) fun _ => .bind (.ensure _ _) fun _ => .bind ih fun _ => .pure _

theorem checkGroups_reads : Reads (checkGroups total dto) := by
  unfold checkGroups
  split
  · exact .ensure _ _
  · exact .bind (.ensure _ _) fun _ => .bind sumGroups_reads fun _ => .ensure _ _

theorem splitBill_ok (h : splitBill ctx orderId dto s = .ok u t) :
    ∃ order, s.findOrder ctx orderId = some order ∧ order.status ∈ handoffOpenStatuses ∧
      t = s.updateOrder orderId id := by
  simp only [splitBill, bind_ok, loadOpenOrder_ok, checkGroups_reads.returns, modify_ok] at h
  obtain ⟨order, _, ⟨⟨hfind, hopen⟩, rfl⟩, _, _, ⟨_, rfl⟩, rfl⟩ := h
  exact ⟨order, hfind, hopen, rfl⟩

-- ---
-- A failed call changed nothing
-- ---

theorem splitItems_atomic : Atomic (splitItems ctx orderId dto) :=
  loadOpenOrder_reads.then fun _ => Reads.get.then fun _ => validateSelections_reads.then fun _ =>
    checkTargetTable_reads.then fun _ => transaction_atomic _

theorem moveItems_atomic : Atomic (moveItems ctx sourceId dto) :=
  (Reads.ensure _ _).then fun _ => loadOpenOrder_reads.then fun _ =>
    loadOpenOrder_reads.then fun _ =>
    Reads.get.then fun _ => validateSelections_reads.then fun _ => (Total.modify _).atomic

theorem mergeOrders_atomic : Atomic (mergeOrders ctx dto) :=
  (Reads.ensure _ _).then fun _ => loadOpenOrder_reads.then fun _ =>
    loadOpenOrder_reads.then fun _ =>
    Reads.get.then fun _ => (Reads.ensure _ _).then fun _ => (Total.modify _).atomic

theorem transferTable_atomic : Atomic (transferTable ctx orderId dto) :=
  loadOpenOrder_reads.then fun _ => Reads.get.then fun _ => (Reads.ensure _ _).then fun _ =>
    (Reads.ensure _ _).then fun _ => (Total.modify _).atomic

theorem transferServer_atomic : Atomic (transferServer ctx orderId dto membership) :=
  loadOpenOrder_reads.then fun _ => (Reads.ensure _ _).then fun _ =>
    (Reads.ensure _ _).then fun _ => (Total.modify _).atomic

theorem splitBill_atomic : Atomic (splitBill ctx orderId dto) :=
  loadOpenOrder_reads.then fun _ => checkGroups_reads.then fun _ => (Total.modify _).atomic

end NimbusPos.PosHandoffService
