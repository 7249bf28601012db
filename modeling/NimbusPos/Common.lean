import NimbusPos.Lib.Service
import NimbusPos.Schema

/-!
# What every service shares

The request context, the HTTP errors with their texts, the store monad, and the
waiter guards of `common/auth`. Audit rows and emitted events are written by the
services and read by none of them, so they are not part of the store.
-/

namespace NimbusPos

open Lib Lib.Service

structure BranchContext where
  organizationId : Id
  branchId : Id
  deriving DecidableEq, Repr

inductive HttpErrorKind
  | badRequest
  | unauthorized
  | forbidden
  | notFound
  | conflict
  | internalServerError
  /-- A unique constraint of the database refused the row. -/
  | uniqueViolation
  deriving DecidableEq, Repr

structure HttpError where
  kind : HttpErrorKind
  code : Option String := none
  message : String
  deriving DecidableEq, Repr

def badRequest (message : String) : HttpError := { kind := .badRequest, message }
def unauthorized (message : String) : HttpError := { kind := .unauthorized, message }
def notFound (message : String) : HttpError := { kind := .notFound, message }
def conflict (message : String) : HttpError := { kind := .conflict, message }
def forbidden (message : String) : HttpError := { kind := .forbidden, message }

def uniqueFailed (columns : String) : HttpError :=
  { kind := .uniqueViolation, message := "Unique constraint failed on " ++ columns }

/-- A row is written unless its unique columns are taken. -/
def unlessTaken {σ α : Type} (taken : Bool) (columns : String) (s t : σ) (a : α) :
    σ × Except HttpError α :=
  if taken then (s, .error (uniqueFailed columns)) else (t, .ok a)

theorem unlessTaken_cases {σ α : Type} (taken : Bool) (columns : String) (s t : σ) (a : α) :
    (taken = true ∧ unlessTaken taken columns s t a = (s, .error (uniqueFailed columns))) ∨
      (taken = false ∧ unlessTaken taken columns s t a = (t, .ok a)) := by
  cases taken with
  | true => exact .inl ⟨rfl, rfl⟩
  | false => exact .inr ⟨rfl, rfl⟩

/-- A call of one of the services. -/
abbrev Db (α : Type) := Service HttpError Store α

/-- `amount.toFixed(2)`. -/
def toFixed (amount : Cents) : String :=
  let cents := amount.natAbs % 100
  (if amount < 0 then "-" else "") ++ toString (amount.natAbs / 100) ++ "." ++
    (if cents < 10 then "0" else "") ++ toString cents

-- ---
-- Actors
-- ---

structure ActorLike where
  id : Id
  /-- The `jobRole` of each assigned role. -/
  roles : List (Option String)
  deriving DecidableEq, Repr

structure RequestMeta where
  actor : Option ActorLike := none
  deriving DecidableEq, Repr

def isWaiterOnly (user : ActorLike) : Bool :=
  !user.roles.isEmpty && user.roles.all (· == some "WAITER")

def assertWaiterOrderOwnership (user : ActorLike) (order : Order) : Db Unit :=
  ensure (!isWaiterOnly user || order.userId == user.id)
    { kind := .forbidden, code := "ORDER_NOT_OWNED_BY_WAITER",
      message := "Waiter cannot access another waiter’s order" }

/-- Sending and serving are the waiter-safe transitions. -/
def assertWaiterTransitionAllowed (user : ActorLike) (targetStatus : OrderStatus) : Db Unit :=
  ensure (!isWaiterOnly user || targetStatus == .sent || targetStatus == .served)
    { kind := .forbidden, code := "ORDER_TRANSITION_NOT_WAITER_SAFE",
      message := "Waiter cannot transition order to " ++ toString targetStatus }

def assertWaiterShiftOpen (actor : Option ActorLike) (ctx : BranchContext) : Db Unit :=
  match actor with
  | none => pure ()
  | some actor => do
    let s ← get
    let openShift := s.shifts.findFirst fun _ shift =>
      shift.orgId == ctx.organizationId && shift.branchId == ctx.branchId &&
        shift.openedById == actor.id && shift.status == .open
    ensure (!isWaiterOnly actor || openShift.isSome)
      { kind := .conflict, code := "SHIFT_NOT_OPEN",
        message := "Waiter must open a shift before performing this action" }

/-- A check made when the request names its actor. -/
def whenActor (actor : Option ActorLike) (check : ActorLike → Db Unit) : Db Unit :=
  match actor with
  | none => pure ()
  | some actor => check actor

theorem whenActor_reads (h : ∀ a, Reads (check a)) : Reads (whenActor actor check) := by
  cases actor with
  | none => exact .pure ()
  | some actor => exact h actor

theorem assertWaiterOrderOwnership_reads : Reads (assertWaiterOrderOwnership user order) :=
  .ensure _ _

theorem assertWaiterTransitionAllowed_reads : Reads (assertWaiterTransitionAllowed user target) :=
  .ensure _ _

theorem assertWaiterShiftOpen_reads : Reads (assertWaiterShiftOpen actor ctx) := by
  cases actor with
  | none => exact .pure ()
  | some actor => exact .bind .get fun _ => .ensure _ _

-- ---
-- Scoped reads
-- ---

/-- `notIn: [CLOSED, VOIDED]`. -/
def OrderStatus.active (status : OrderStatus) : Bool := status != .closed && status != .voided

/-- `order.findFirst({ where: { id, branchId, orgId } })`. -/
def Store.findOrder (s : Store) (ctx : BranchContext) (orderId : Id) : Option Order :=
  (s.orders.get? orderId).filter fun order =>
    order.branchId == ctx.branchId && order.orgId == ctx.organizationId

def Store.findTable (s : Store) (ctx : BranchContext) (tableId : Id) : Option DiningTable :=
  (s.tables.get? tableId).filter fun table =>
    table.branchId == ctx.branchId && table.orgId == ctx.organizationId

def Store.findReservation (s : Store) (ctx : BranchContext) (id : Id) : Option Reservation :=
  (s.reservations.get? id).filter fun reservation =>
    reservation.branchId == ctx.branchId && reservation.orgId == ctx.organizationId

theorem findOrder_get {s : Store} (h : s.findOrder ctx orderId = some order) :
    s.orders.get? orderId = some order ∧ order.branchId = ctx.branchId ∧
      order.orgId = ctx.organizationId := by
  simpa [Store.findOrder, Option.filter_eq_some_iff] using h

theorem findReservation_get {s : Store}
    (h : s.findReservation ctx reservationId = some reservation) :
    s.reservations.get? reservationId = some reservation ∧ reservation.branchId = ctx.branchId ∧
      reservation.orgId = ctx.organizationId := by
  simpa [Store.findReservation, Option.filter_eq_some_iff] using h

/-- The lines of an order, `include: { items: true }`. -/
def Store.itemsOf (s : Store) (orderId : Id) : List (Id × OrderItem) :=
  s.orderItems.findMany fun _ item => item.orderId == orderId

/-- One line of an order, `orderItem.findFirst({ where: { id: itemId, orderId } })`. -/
def Store.itemOn (s : Store) (orderId itemId : Id) : Option OrderItem :=
  (s.orderItems.get? itemId).filter (·.orderId == orderId)

theorem itemOn_iff {s : Store} :
    s.itemOn orderId itemId = some item ↔
      s.orderItems.get? itemId = some item ∧ item.orderId = orderId := by
  simp [Store.itemOn, Option.filter_eq_some_iff]

/-- The threshold under which discounts and refunds need no approval. -/
def Store.approvalThreshold (s : Store) (orgId : Id) : Cents :=
  match s.orgSettings.findFirst fun _ settings => settings.orgId == orgId with
  | some (_, settings) => settings.discountApprovalThreshold
  | none => 500000

/-- `order.update`: every write of an order stamps `updatedAt`. -/
def Store.updateOrder (s : Store) (orderId : Id) (data : Order → Order) : Store :=
  { s with orders := s.orders.update orderId fun order => { data order with updatedAt := s.clock } }

theorem updateOrder_get {s : Store} : (s.updateOrder orderId data).orders.get? k =
    if k = orderId then
      (s.orders.get? k).map fun order => { data order with updatedAt := s.clock }
    else s.orders.get? k :=
  Table.get?_update _ _

/-- `table.updateMany` with `status: { not: 'OCCUPIED' }`. -/
def Store.occupyTable (s : Store) (tableId : Id) : Store :=
  { s with
    tables := s.tables.updateWhere (fun k table => k == tableId && table.status != .occupied)
      fun table => { table with status := .occupied } }

/-- `order.create` under the unique constraint on `(branchId, orderNumber)`. -/
def createOrderRow (order : Order) : Db Id := do
  let s ← get
  ensure (s.orders.count (fun _ other =>
      other.branchId == order.branchId && other.orderNumber == order.orderNumber) == 0)
    { kind := .uniqueViolation, message := "Unique constraint failed on (branchId, orderNumber)" }
  modify fun s => { s with orders := s.orders.insert order }
  pure s.orders.next

/-- The number is free in the order's branch. -/
def Store.numberFree (s : Store) (branchId : Id) (orderNumber : String) : Prop :=
  ∀ k other, s.orders.get? k = some other → other.branchId = branchId →
    other.orderNumber ≠ orderNumber

@[simp] theorem createOrderRow_ok :
    createOrderRow order s = .ok orderId t ↔ s.numberFree order.branchId order.orderNumber ∧
      s.orders.next = orderId ∧ { s with orders := s.orders.insert order } = t := by
  simp only [createOrderRow, bind_ok, get_ok, ensure_ok, modify_ok, pure_ok, beq_iff_eq,
    Table.count_eq_zero, Bool.and_eq_false_imp, beq_eq_false_iff_ne, Store.numberFree]
  constructor
  · rintro ⟨_, _, ⟨rfl, rfl⟩, _, _, ⟨hfree, rfl⟩, _, _, rfl, rfl, rfl⟩
    exact ⟨hfree, rfl, rfl⟩
  · rintro ⟨hfree, rfl, rfl⟩
    exact ⟨_, _, ⟨rfl, rfl⟩, (), _, ⟨hfree, rfl⟩, (), _, rfl, rfl, rfl⟩

theorem createOrderRow_atomic : Atomic (createOrderRow order) :=
  Reads.get.then fun _ => (Reads.ensure _ _).then fun _ =>
    (Total.bind (.modify _) fun _ => .pure _).atomic

/-- A PIN check against the caller's stored hash. `bcrypt` is `bcrypt.compare`. -/
def checkManagerPin (bcrypt : String → String → Bool) (userId : Id) (pin : String)
    (missing : String) : Db Unit := do
  let s ← get
  let hash ← need ((s.users.get? userId).bind (·.quickPinHash)) (unauthorized missing)
  ensure (bcrypt pin hash) (unauthorized "Invalid manager PIN")

theorem checkManagerPin_reads : Reads (checkManagerPin bcrypt userId pin missing) :=
  .bind .get fun _ => .bind (.need _ _) fun _ => .ensure _ _

@[simp] theorem assertWaiterShiftOpen_ok :
    assertWaiterShiftOpen actor ctx s = .ok u t ↔
      Returns (assertWaiterShiftOpen actor ctx) s u ∧ s = t :=
  assertWaiterShiftOpen_reads.returns

@[simp] theorem checkManagerPin_ok :
    checkManagerPin bcrypt userId pin missing s = .ok u t ↔
      Returns (checkManagerPin bcrypt userId pin missing) s u ∧ s = t :=
  checkManagerPin_reads.returns

end NimbusPos
