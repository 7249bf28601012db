import NimbusPos.Lib.Table

/-!
# The point-of-sale tables

Rows of the database schema that the order, discount, payment, refund, till and
reservation services read or write. Money is a whole number of cents, a
percentage a whole number of hundredths of a percent, a recipe quantity and an
ingredient cost a whole number of thousandths: the scales of the columns. Times
are milliseconds. Columns that no modelled function reads are left out.
-/

namespace NimbusPos

open Lib (Table)

abbrev Id := Nat
abbrev Cents := Int
abbrev Time := Nat

-- ---
-- Enumerations
-- ---

inductive OrderStatus
  | new
  | sent
  | inKitchen
  | ready
  | served
  | voided
  | closed
  deriving DecidableEq, Repr

def OrderStatus.toString : OrderStatus → String
  | .new => "NEW"
  | .sent => "SENT"
  | .inKitchen => "IN_KITCHEN"
  | .ready => "READY"
  | .served => "SERVED"
  | .voided => "VOIDED"
  | .closed => "CLOSED"

instance : ToString OrderStatus := ⟨OrderStatus.toString⟩

inductive ServiceType
  | dineIn
  | takeaway
  deriving DecidableEq, Repr

inductive TableStatus
  | available
  | occupied
  | reserved
  | cleaning
  deriving DecidableEq, Repr

inductive DiscountType
  | percentage
  | fixed
  deriving DecidableEq, Repr

inductive DiscountStatus
  | pending
  | approved
  | rejected
  deriving DecidableEq, Repr

def DiscountStatus.toString : DiscountStatus → String
  | .pending => "PENDING"
  | .approved => "APPROVED"
  | .rejected => "REJECTED"

instance : ToString DiscountStatus := ⟨DiscountStatus.toString⟩

inductive PaymentMethod
  | cash
  | card
  | momo
  | bankTransfer
  deriving DecidableEq, Repr

inductive PaymentStatus
  | pending
  | completed
  | failed
  | refunded
  deriving DecidableEq, Repr

def PaymentStatus.toString : PaymentStatus → String
  | .pending => "PENDING"
  | .completed => "COMPLETED"
  | .failed => "FAILED"
  | .refunded => "REFUNDED"

instance : ToString PaymentStatus := ⟨PaymentStatus.toString⟩

inductive PaymentCaptureMode
  | onlineProvider
  | manualReference
  deriving DecidableEq, Repr

inductive PaymentIntentStatus
  | pending
  | requiresAction
  | succeeded
  | failed
  | cancelled
  deriving DecidableEq, Repr

def PaymentIntentStatus.toString : PaymentIntentStatus → String
  | .pending => "PENDING"
  | .requiresAction => "REQUIRES_ACTION"
  | .succeeded => "SUCCEEDED"
  | .failed => "FAILED"
  | .cancelled => "CANCELLED"

instance : ToString PaymentIntentStatus := ⟨PaymentIntentStatus.toString⟩

inductive Provider
  | mtn
  | airtel
  deriving DecidableEq, Repr

inductive RefundStatus
  | pending
  | approved
  | completed
  | failed
  deriving DecidableEq, Repr

def RefundStatus.toString : RefundStatus → String
  | .pending => "PENDING"
  | .approved => "APPROVED"
  | .completed => "COMPLETED"
  | .failed => "FAILED"

instance : ToString RefundStatus := ⟨RefundStatus.toString⟩

inductive ReservationStatus
  | pending
  | confirmed
  | seated
  | completed
  | cancelled
  | noShow
  deriving DecidableEq, Repr

def ReservationStatus.toString : ReservationStatus → String
  | .pending => "PENDING"
  | .confirmed => "CONFIRMED"
  | .seated => "SEATED"
  | .completed => "COMPLETED"
  | .cancelled => "CANCELLED"
  | .noShow => "NO_SHOW"

instance : ToString ReservationStatus := ⟨ReservationStatus.toString⟩

inductive CashMovementType
  | openingFloat
  | safeDrop
  | cashPickup
  | paidIn
  | paidOut
  | refundPayout
  deriving DecidableEq, Repr

inductive ShiftStatus
  | open
  | closed
  deriving DecidableEq, Repr

inductive TillSessionStatus
  | open
  | reconciled
  | closed
  deriving DecidableEq, Repr

inductive VarianceStatus
  | matched
  | short
  | over
  deriving DecidableEq, Repr

-- ---
-- Rows
-- ---

/-- An entry of `Order.anomalyFlags`. -/
inductive AnomalyFlag
  | heavyDiscount
  | highValueRefund (amount : Cents) (flaggedAt : Time)
  deriving DecidableEq, Repr

structure Order where
  orgId : Id
  branchId : Id
  tableId : Option Id
  userId : Id
  orderNumber : String
  status : OrderStatus := .new
  serviceType : ServiceType
  subtotal : Cents := 0
  tax : Cents := 0
  discount : Cents := 0
  total : Cents := 0
  anomalyFlags : List AnomalyFlag := []
  splitFromOrderId : Option Id := none
  mergedIntoOrderId : Option Id := none
  createdAt : Time
  updatedAt : Time
  deriving DecidableEq, Repr

/-- `metadata.selectedModifiers`: the option chosen by each entry, when the entry
names one. -/
abbrev LineMetadata := List (Option Id)

structure OrderItem where
  orderId : Id
  menuItemId : Id
  menuItemServingId : Option Id
  quantity : Int
  price : Cents
  subtotal : Cents
  metadata : LineMetadata
  costUnit : Option Cents
  costTotal : Option Cents
  marginTotal : Option Cents
  marginPct : Option Int
  deriving DecidableEq, Repr

/-- `value` is cents for a fixed discount and hundredths of a percent for a
percentage. -/
structure Discount where
  orgId : Id
  branchId : Id
  orderId : Id
  type : DiscountType
  value : Int
  status : DiscountStatus
  approvedAt : Option Time
  managerPinVerified : Bool := false
  deriving DecidableEq, Repr

/-- `paymentIntentId` is the entry of `metadata` that a webhook writes. -/
structure Payment where
  orgId : Id
  branchId : Id
  orderId : Id
  amount : Cents
  method : PaymentMethod
  status : PaymentStatus
  captureMode : PaymentCaptureMode := .onlineProvider
  transactionId : Option String := none
  externalTransactionId : Option String := none
  paymentIntentId : Option Id := none
  createdAt : Time
  deriving DecidableEq, Repr

structure PaymentIntent where
  orgId : Id
  branchId : Id
  orderId : Id
  provider : Provider
  amount : Cents
  status : PaymentIntentStatus
  externalId : Option String
  providerRef : Option String := none
  providerTransactionId : Option String := none
  confirmedAmount : Option Cents := none
  idempotencyKey : Option String := none
  deriving DecidableEq, Repr

structure WebhookEvent where
  provider : Provider
  verified : Bool := false
  processed : Bool := false
  processingError : Option String := none
  intentUpdated : Bool := false
  paymentCreated : Bool := false
  autoSettled : Bool := false
  deriving DecidableEq, Repr

structure Refund where
  orgId : Id
  branchId : Id
  orderId : Id
  paymentId : Id
  amount : Cents
  status : RefundStatus
  createdAt : Time
  deriving DecidableEq, Repr

structure DiningTable where
  orgId : Id
  branchId : Id
  status : TableStatus := .available
  isActive : Bool := true
  deriving DecidableEq, Repr

structure Reservation where
  orgId : Id
  branchId : Id
  reservationNumber : String
  reservationAt : Time
  expectedDurationMinutes : Option Nat
  status : ReservationStatus
  tableId : Option Id
  seatedOrderId : Option Id := none
  createdAt : Time
  deriving DecidableEq, Repr

inductive ReservationEventType
  | created
  | confirmed
  | seated
  | cancelled
  | noShow
  | completed
  | tableAssigned
  deriving DecidableEq, Repr

structure ReservationEvent where
  reservationId : Id
  type : ReservationEventType
  deriving DecidableEq, Repr

structure Shift where
  orgId : Id
  branchId : Id
  shiftNumber : String
  openedById : Id
  openedAt : Time
  closedAt : Option Time := none
  status : ShiftStatus := .open
  createdAt : Time
  deriving DecidableEq, Repr

structure TillSession where
  orgId : Id
  branchId : Id
  shiftId : Id
  tillCode : String
  operatorUserId : Id
  openedAt : Time
  closedAt : Option Time := none
  openingFloat : Cents
  expectedCash : Cents
  countedCash : Option Cents := none
  variance : Option Cents := none
  varianceStatus : Option VarianceStatus := none
  status : TillSessionStatus := .open
  deriving DecidableEq, Repr

structure CashMovement where
  orgId : Id
  branchId : Id
  tillSessionId : Id
  shiftId : Option Id
  type : CashMovementType
  amount : Cents
  deriving DecidableEq, Repr

structure ShiftCloseSummary where
  shiftId : Id
  grossSales : Cents
  cashSales : Cents
  momoSales : Cents
  cardSales : Cents
  refundCashOut : Cents
  safeDropTotal : Cents
  pickupTotal : Cents
  expectedCash : Cents
  countedCash : Option Cents
  variance : Option Cents
  ordersClosedCount : Nat
  refundsCount : Nat
  deriving DecidableEq, Repr

structure MenuItem where
  orgId : Id
  branchId : Id
  price : Cents
  isActive : Bool := true
  deriving DecidableEq, Repr

structure MenuItemServing where
  menuItemId : Id
  price : Cents
  isDefault : Bool := false
  sortOrder : Int := 0
  isActive : Bool := true
  deriving DecidableEq, Repr

structure ModifierGroup where
  orgId : Id
  branchId : Id
  isActive : Bool := true
  deriving DecidableEq, Repr

structure ModifierOption where
  groupId : Id
  priceDelta : Cents
  isActive : Bool := true
  deriving DecidableEq, Repr

structure MenuItemOnGroup where
  itemId : Id
  groupId : Id
  deriving DecidableEq, Repr

/-- `theoreticalUnitCost` is the included inventory item's column. -/
structure RecipeIngredient where
  branchId : Id
  menuItemId : Id
  menuItemServingId : Option Id
  modifierOptionId : Option Id
  qtyPerUnit : Int
  wastePct : Int
  theoreticalUnitCost : Int
  deriving DecidableEq, Repr

structure OrgSettings where
  orgId : Id
  discountApprovalThreshold : Cents
  deriving DecidableEq, Repr

structure User where
  quickPinHash : Option String
  deriving DecidableEq, Repr

-- ---
-- The store
-- ---

structure Menu where
  menuItems : Table MenuItem := .empty
  servings : Table MenuItemServing := .empty
  modifierGroups : Table ModifierGroup := .empty
  modifierOptions : Table ModifierOption := .empty
  menuItemOnGroups : Table MenuItemOnGroup := .empty
  recipeIngredients : Table RecipeIngredient := .empty

structure Store where
  /-- What `new Date()` and the column default `now()` read. -/
  clock : Time := 0
  menu : Menu := {}
  orgSettings : Table OrgSettings := .empty
  users : Table User := .empty
  orders : Table Order := .empty
  orderItems : Table OrderItem := .empty
  discounts : Table Discount := .empty
  payments : Table Payment := .empty
  paymentIntents : Table PaymentIntent := .empty
  webhookEvents : Table WebhookEvent := .empty
  refunds : Table Refund := .empty
  tables : Table DiningTable := .empty
  reservations : Table Reservation := .empty
  reservationEvents : Table ReservationEvent := .empty
  shifts : Table Shift := .empty
  tillSessions : Table TillSession := .empty
  cashMovements : Table CashMovement := .empty
  shiftCloseSummaries : Table ShiftCloseSummary := .empty

end NimbusPos
