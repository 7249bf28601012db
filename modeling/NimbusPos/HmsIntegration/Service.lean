import Mathlib.Data.List.Sort
import NimbusPos.Common
import NimbusPos.Events.Service

/-!
# HMS integration

Reads for hotel systems, by API keys. A key is of an organisation and may be restricted
to one of its branches. Its row decides what a request sees; a branch that the request
asks for narrows the reads of a key of the whole organisation only.

`ρ` stands for the columns that are handed on and that nothing here looks at. A text in
a query that is empty counts as absent.
-/

namespace NimbusPos.HmsIntegrationService

open Lib
open EventsService (EventStatus)

-- ---
-- Rows
-- ---

inductive ApiKeyStatus
  | active
  | revoked
  deriving DecidableEq, Repr

inductive BranchStatus
  | active
  | inactive
  deriving DecidableEq, Repr

structure Organization where
  name : String
  slug : String
  createdAt : Time
  updatedAt : Time
  deriving DecidableEq, Repr

structure Branch where
  organizationId : Id
  name : String
  code : Option String
  slug : Option String
  timezone : String
  currencyCode : String
  address : Option String
  phone : Option String
  email : Option String
  status : BranchStatus
  createdAt : Time
  deriving DecidableEq, Repr

structure ApiKey where
  orgId : Id
  branchId : Option Id
  name : String
  keyPrefix : String
  keyHash : String
  status : ApiKeyStatus := .active
  scopes : List String := []
  lastUsedAt : Option Time := none
  lastUsedIp : Option String := none
  expiresAt : Option Time := none
  createdAt : Time
  deriving DecidableEq, Repr

structure IntegrationAccessLog (ρ : Type) where
  orgId : Id
  apiKeyId : Id
  branchId : Option Id
  statusCode : Int
  createdAt : Time
  columns : ρ

structure DiningTable where
  label : String
  deriving DecidableEq, Repr

structure User where
  firstName : String
  lastName : String
  deriving DecidableEq, Repr

structure Order (ρ : Type) where
  orgId : Id
  branchId : Id
  tableId : Option Id
  userId : Id
  orderNumber : String
  status : OrderStatus
  serviceType : ServiceType
  subtotal : Cents
  tax : Cents
  discount : Cents
  total : Cents
  notes : Option String
  createdAt : Time
  updatedAt : Time
  columns : ρ

structure OrderItem where
  orderId : Id
  menuItemId : Id
  quantity : Int
  price : Cents
  subtotal : Cents
  notes : Option String
  deriving DecidableEq, Repr

structure Payment where
  orgId : Id
  branchId : Id
  orderId : Id
  amount : Cents
  method : PaymentMethod
  status : PaymentStatus
  transactionId : Option String
  externalTransactionId : Option String
  postedAt : Time
  createdAt : Time
  deriving DecidableEq, Repr

structure Discount where
  orderId : Id
  type : DiscountType
  value : Cents
  reason : String
  status : DiscountStatus
  createdAt : Time
  deriving DecidableEq, Repr

structure Refund (ρ : Type) where
  orgId : Id
  branchId : Id
  orderId : Id
  amount : Cents
  reason : String
  status : RefundStatus
  createdAt : Time
  columns : ρ

structure Reservation (ρ : Type) where
  orgId : Id
  branchId : Id
  status : ReservationStatus
  createdAt : Time
  columns : ρ

structure Event (ρ : Type) where
  orgId : Id
  branchId : Id
  status : EventStatus
  startsAt : Time
  columns : ρ

structure EventBooking (ρ : Type) where
  orgId : Id
  branchId : Id
  createdAt : Time
  columns : ρ

structure MenuItem (ρ : Type) where
  orgId : Id
  branchId : Id
  categoryId : Id
  name : String
  columns : ρ

structure InventoryItem (ρ : Type) where
  orgId : Id
  branchId : Id
  name : String
  columns : ρ

structure Shift (ρ : Type) where
  orgId : Id
  branchId : Id
  status : ShiftStatus
  openedAt : Time
  columns : ρ

structure Account (ρ : Type) where
  orgId : Id
  code : String
  columns : ρ

structure Invoice (ρ : Type) where
  orgId : Id
  branchId : Option Id
  createdAt : Time
  columns : ρ

structure VendorBill (ρ : Type) where
  orgId : Id
  branchId : Option Id
  createdAt : Time
  columns : ρ

structure Store (ρ : Type) where
  organizations : Table Organization := .empty
  branches : Table Branch := .empty
  apiKeys : Table ApiKey := .empty
  accessLogs : Table (IntegrationAccessLog ρ) := .empty
  tables : Table DiningTable := .empty
  users : Table User := .empty
  orders : Table (Order ρ) := .empty
  orderItems : Table OrderItem := .empty
  payments : Table Payment := .empty
  discounts : Table Discount := .empty
  refunds : Table (Refund ρ) := .empty
  reservations : Table (Reservation ρ) := .empty
  events : Table (Event ρ) := .empty
  eventBookings : Table (EventBooking ρ) := .empty
  menuItems : Table (MenuItem ρ) := .empty
  inventoryItems : Table (InventoryItem ρ) := .empty
  shifts : Table (Shift ρ) := .empty
  accounts : Table (Account ρ) := .empty
  invoices : Table (Invoice ρ) := .empty
  vendorBills : Table (VendorBill ρ) := .empty

-- ---
-- Queries
-- ---

inductive Failure
  | http (error : HttpError)
  /-- Prisma refuses the statement. -/
  | internal
  deriving DecidableEq, Repr

structure HmsPaginationDto where
  limit : Option Nat := some 50
  skip : Option Nat := some 0
  «from» : Option Time := none
  «to» : Option Time := none
  /-- `some none` is the empty text. -/
  branchId : Option (Option Id) := none
  deriving DecidableEq, Repr

structure HmsListOrdersDto extends HmsPaginationDto where
  status : Option String := none
  serviceType : Option String := none
  deriving DecidableEq, Repr

structure HmsListPaymentsDto extends HmsPaginationDto where
  method : Option String := none
  status : Option String := none
  deriving DecidableEq, Repr

/-- `HmsListReservationsDto`, `HmsListEventsDto` and `HmsListShiftsDto`. -/
structure HmsListByStatusDto extends HmsPaginationDto where
  status : Option String := none
  deriving DecidableEq, Repr

structure HmsListMenuDto extends HmsPaginationDto where
  categoryId : Option Id := none
  deriving DecidableEq, Repr

structure HmsListAccessLogsDto extends HmsPaginationDto where
  statusCode : Option Int := none
  deriving DecidableEq, Repr

def orderStatuses : List (String × OrderStatus) :=
  [("NEW", .new), ("SENT", .sent), ("IN_KITCHEN", .inKitchen), ("READY", .ready),
    ("SERVED", .served), ("VOIDED", .voided), ("CLOSED", .closed)]

def serviceTypes : List (String × ServiceType) := [("DINE_IN", .dineIn), ("TAKEAWAY", .takeaway)]

def paymentMethods : List (String × PaymentMethod) :=
  [("CASH", .cash), ("CARD", .card), ("MOMO", .momo), ("BANK_TRANSFER", .bankTransfer)]

def paymentStatuses : List (String × PaymentStatus) :=
  [("PENDING", .pending), ("COMPLETED", .completed), ("FAILED", .failed), ("REFUNDED", .refunded)]

def reservationStatuses : List (String × ReservationStatus) :=
  [("PENDING", .pending), ("CONFIRMED", .confirmed), ("SEATED", .seated), ("COMPLETED", .completed),
    ("CANCELLED", .cancelled), ("NO_SHOW", .noShow)]

def eventStatuses : List (String × EventStatus) :=
  [("DRAFT", .draft), ("PUBLISHED", .published), ("OPEN", .open), ("CLOSED", .closed),
    ("CANCELLED", .cancelled), ("COMPLETED", .completed)]

def shiftStatuses : List (String × ShiftStatus) := [("OPEN", .open), ("CLOSED", .closed)]

/-- A filter by an enumeration; Prisma refuses a value it does not know. -/
def enumFilter {ε : Type} (values : List (String × ε)) (value : Option String) :
    Except Failure (Option ε) :=
  match value with
  | none | some "" => .ok none
  | some value =>
    match values.lookup value with
    | some e => .ok (some e)
    | none => .error .internal

def effectiveBranchFilter (keyBranchId : Option Id) (requestedBranchId : Option (Option Id)) :
    Option (Option Id) :=
  match keyBranchId with
  | some branchId => some (some branchId)
  | none => requestedBranchId

structure Window where
  gte : Option Time := none
  lte : Option Time := none
  deriving DecidableEq, Repr

def windowFilter (q : HmsPaginationDto) : Option Window :=
  if q.«from».isNone && q.«to».isNone then none else some { gte := q.«from», lte := q.«to» }

def inWindow (window : Option Window) (time : Time) : Bool :=
  window.all fun window => window.gte.all (· ≤ time) && window.lte.all (time ≤ ·)

-- ---
-- Pages
-- ---

structure Page (α : Type) where
  items : List α
  total : Nat
  limit : Nat
  skip : Nat
  deriving DecidableEq, Repr

variable {ρ α β : Type}

/-- The rows of a page, in order; rows that compare equal stay in the order of the table. -/
def pageRows (found : List (Id × α)) (before : α → α → Bool) (limit skip : Nat) :
    List (Id × α) :=
  ((found.insertionSort fun row row' => before row.2 row'.2 = true).drop skip).take limit

def page (found : List (Id × α)) (before : α → α → Bool) (limit skip : Nat)
    (select : Id → α → β) : Page β where
  items := (pageRows found before limit skip).map fun row => select row.1 row.2
  total := found.length
  limit := limit
  skip := skip

/-- `orderBy: { time: 'desc' }`. -/
def newestBy (time : α → Time) (row row' : α) : Bool := time row' ≤ time row

/-- `orderBy: { text: 'asc' }`. -/
def ascendingBy (text : α → String) (row row' : α) : Bool := text row ≤ text row'

/-- The rows of an organisation, or of one of its branches, that meet a filter. -/
def scopedRows (t : Table α) (place : α → Id × Option Id) (orgId : Id) (branchId : Option Id)
    (filter : α → Bool) : List (Id × α) :=
  t.findMany fun _ row =>
    (place row).1 == orgId && branchId.all (fun b => (place row).2 == some b) && filter row

/-- What the lists of the service have in common. -/
def listScoped (t : Table α) (place : α → Id × Option Id) (before : α → α → Bool)
    (select : Id → α → β) (orgId : Id) (keyBranchId : Option Id) (q : HmsPaginationDto)
    (filter : α → Bool) : Page β :=
  page (scopedRows t place orgId (effectiveBranchFilter keyBranchId q.branchId).join filter) before
    (q.limit.getD 50) (q.skip.getD 0) select

-- ---
-- The organisation and its branches
-- ---

inductive KeyScope
  | branch
  | organization
  deriving DecidableEq, Repr

def keyScope (keyBranchId : Option Id) : KeyScope :=
  if keyBranchId.isSome then .branch else .organization

structure BranchProfile where
  id : Id
  name : String
  code : Option String
  slug : Option String
  timezone : String
  currencyCode : String
  address : Option String
  phone : Option String
  email : Option String
  status : BranchStatus
  deriving DecidableEq, Repr

structure BranchItem where
  id : Id
  name : String
  code : Option String
  slug : Option String
  timezone : String
  currencyCode : String
  status : BranchStatus
  createdAt : Time
  deriving DecidableEq, Repr

structure OrganizationOverview where
  organizationId : Id
  organization : Organization
  branchScope : KeyScope
  branches : List BranchProfile
  deriving DecidableEq, Repr

variable (s : Store ρ) (now : Time)

section

variable (orgId : Id) (keyBranchId : Option Id)

/-- The branches that the key is for, by name. -/
def branchesOf : List (Id × Branch) :=
  (s.branches.findMany fun id branch =>
    branch.organizationId == orgId && keyBranchId.all (id == ·)).insertionSort fun row row' =>
      ascendingBy (·.name) row.2 row'.2 = true

def getOrganization : Except Failure OrganizationOverview := do
  let some organization := s.organizations.get? orgId | throw .internal
  return {
    organizationId := orgId, organization, branchScope := keyScope keyBranchId
    branches := (branchesOf s orgId keyBranchId).map fun (id, branch) =>
      { id, name := branch.name, code := branch.code, slug := branch.slug
        timezone := branch.timezone, currencyCode := branch.currencyCode
        address := branch.address, phone := branch.phone, email := branch.email
        status := branch.status } }

def listBranches : List BranchItem :=
  (branchesOf s orgId keyBranchId).map fun (id, branch) =>
    { id, name := branch.name, code := branch.code, slug := branch.slug
      timezone := branch.timezone, currencyCode := branch.currencyCode
      status := branch.status, createdAt := branch.createdAt }

-- ---
-- Orders
-- ---

structure OrderSummary where
  id : Id
  orgId : Id
  branchId : Id
  orderNumber : String
  status : OrderStatus
  serviceType : ServiceType
  subtotal : Cents
  tax : Cents
  discount : Cents
  total : Cents
  notes : Option String
  createdAt : Time
  updatedAt : Time
  table : Option (Id × DiningTable)
  user : Option (Id × User)
  deriving DecidableEq, Repr

def orderSummary (id : Id) (order : Order ρ) : OrderSummary where
  id := id
  orgId := order.orgId
  branchId := order.branchId
  orderNumber := order.orderNumber
  status := order.status
  serviceType := order.serviceType
  subtotal := order.subtotal
  tax := order.tax
  discount := order.discount
  total := order.total
  notes := order.notes
  createdAt := order.createdAt
  updatedAt := order.updatedAt
  table := order.tableId.bind fun tableId => (s.tables.get? tableId).map (tableId, ·)
  user := (s.users.get? order.userId).map (order.userId, ·)

def Order.place (order : Order ρ) : Id × Option Id := (order.orgId, some order.branchId)

def listOrders (q : HmsListOrdersDto) : Except Failure (Page OrderSummary) := do
  let createdAt := windowFilter q.toHmsPaginationDto
  let status ← enumFilter orderStatuses q.status
  let serviceType ← enumFilter serviceTypes q.serviceType
  return listScoped s.orders Order.place (newestBy (·.createdAt)) (orderSummary s) orgId keyBranchId
    q.toHmsPaginationDto fun order =>
      status.all (· == order.status) && serviceType.all (· == order.serviceType) &&
        inWindow createdAt order.createdAt

structure OrderPayment where
  id : Id
  amount : Cents
  method : PaymentMethod
  status : PaymentStatus
  transactionId : Option String
  externalTransactionId : Option String
  createdAt : Time
  deriving DecidableEq, Repr

structure OrderRefund where
  id : Id
  amount : Cents
  reason : String
  status : RefundStatus
  createdAt : Time
  deriving DecidableEq, Repr

structure OrderDetail (ρ : Type) where
  id : Id
  order : Order ρ
  items : List (Id × OrderItem)
  payments : List OrderPayment
  discounts : List (Id × Discount)
  refunds : List OrderRefund

def getOrder (id : Id) : Except Failure (OrderDetail ρ) := do
  let some order := (s.orders.get? id).filter fun order =>
      order.orgId == orgId && keyBranchId.all (order.branchId == ·)
    | throw (.http (notFound "Order not found in scope"))
  return {
    id, order
    items := s.orderItems.findMany fun _ item => item.orderId == id
    payments := (s.payments.findMany fun _ payment => payment.orderId == id).map
      fun (paymentId, payment) =>
        { id := paymentId, amount := payment.amount, method := payment.method
          status := payment.status, transactionId := payment.transactionId
          externalTransactionId := payment.externalTransactionId, createdAt := payment.createdAt }
    discounts := s.discounts.findMany fun _ discount => discount.orderId == id
    refunds := (s.refunds.findMany fun _ refund => refund.orderId == id).map
      fun (refundId, refund) =>
        { id := refundId, amount := refund.amount, reason := refund.reason
          status := refund.status, createdAt := refund.createdAt } }

-- ---
-- Payments, refunds and sales
-- ---

structure PaymentSummary where
  id : Id
  orderId : Id
  branchId : Id
  amount : Cents
  method : PaymentMethod
  status : PaymentStatus
  transactionId : Option String
  externalTransactionId : Option String
  postedAt : Time
  createdAt : Time
  deriving DecidableEq, Repr

def paymentSummary (id : Id) (payment : Payment) : PaymentSummary where
  id := id
  orderId := payment.orderId
  branchId := payment.branchId
  amount := payment.amount
  method := payment.method
  status := payment.status
  transactionId := payment.transactionId
  externalTransactionId := payment.externalTransactionId
  postedAt := payment.postedAt
  createdAt := payment.createdAt

def Payment.place (payment : Payment) : Id × Option Id := (payment.orgId, some payment.branchId)

def listPayments (q : HmsListPaymentsDto) : Except Failure (Page PaymentSummary) := do
  let createdAt := windowFilter q.toHmsPaginationDto
  let method ← enumFilter paymentMethods q.method
  let status ← enumFilter paymentStatuses q.status
  return listScoped s.payments Payment.place (newestBy (·.createdAt)) paymentSummary orgId
    keyBranchId q.toHmsPaginationDto fun payment =>
      method.all (· == payment.method) && status.all (· == payment.status) &&
        inWindow createdAt payment.createdAt

def Refund.place (refund : Refund ρ) : Id × Option Id := (refund.orgId, some refund.branchId)

def listRefunds (q : HmsPaginationDto) : Page (Id × Refund ρ) :=
  listScoped s.refunds Refund.place (newestBy (·.createdAt)) Prod.mk orgId keyBranchId q
    fun refund => inWindow (windowFilter q) refund.createdAt

structure Totals where
  subtotal : Cents
  tax : Cents
  discount : Cents
  grandTotal : Cents
  deriving DecidableEq, Repr

structure SalesSummary where
  windowFrom : Option Time
  windowTo : Option Time
  /-- `none` is `ORGANIZATION`. -/
  scope : Option (Option Id)
  closedOrders : Nat
  totals : Totals
  deriving DecidableEq, Repr

def salesSummary (q : HmsPaginationDto) : SalesSummary :=
  let branchId := effectiveBranchFilter keyBranchId q.branchId
  let createdAt := (windowFilter q).getD { gte := some (now - 7 * 24 * 60 * 60 * 1000) }
  let closed := scopedRows s.orders Order.place orgId branchId.join fun order =>
    inWindow (some createdAt) order.createdAt && order.status == .closed
  { windowFrom := createdAt.gte
    windowTo := createdAt.lte
    scope := branchId
    closedOrders := closed.length
    totals :=
      { subtotal := (closed.map (·.2.subtotal)).sum
        tax := (closed.map (·.2.tax)).sum
        discount := (closed.map (·.2.discount)).sum
        grandTotal := (closed.map (·.2.total)).sum } }

-- ---
-- The other lists
-- ---

def Reservation.place (reservation : Reservation ρ) : Id × Option Id :=
  (reservation.orgId, some reservation.branchId)

def listReservations (q : HmsListByStatusDto) : Except Failure (Page (Id × Reservation ρ)) := do
  let createdAt := windowFilter q.toHmsPaginationDto
  let status ← enumFilter reservationStatuses q.status
  return listScoped s.reservations Reservation.place (newestBy (·.createdAt)) Prod.mk orgId
    keyBranchId q.toHmsPaginationDto fun reservation =>
      status.all (· == reservation.status) && inWindow createdAt reservation.createdAt

def Event.place (event : Event ρ) : Id × Option Id := (event.orgId, some event.branchId)

def listEvents (q : HmsListByStatusDto) : Except Failure (Page (Id × Event ρ)) := do
  let status ← enumFilter eventStatuses q.status
  return listScoped s.events Event.place (newestBy (·.startsAt)) Prod.mk orgId keyBranchId
    q.toHmsPaginationDto fun event => status.all (· == event.status)

def EventBooking.place (booking : EventBooking ρ) : Id × Option Id :=
  (booking.orgId, some booking.branchId)

def listEventBookings (q : HmsPaginationDto) : Page (Id × EventBooking ρ) :=
  listScoped s.eventBookings EventBooking.place (newestBy (·.createdAt)) Prod.mk orgId keyBranchId q
    fun _ => true

def MenuItem.place (item : MenuItem ρ) : Id × Option Id := (item.orgId, some item.branchId)

def listMenuItems (q : HmsListMenuDto) : Page (Id × MenuItem ρ) :=
  listScoped s.menuItems MenuItem.place (ascendingBy (·.name)) Prod.mk orgId keyBranchId
    q.toHmsPaginationDto fun item => q.categoryId.all (· == item.categoryId)

def InventoryItem.place (item : InventoryItem ρ) : Id × Option Id :=
  (item.orgId, some item.branchId)

def listInventory (q : HmsPaginationDto) : Page (Id × InventoryItem ρ) :=
  listScoped s.inventoryItems InventoryItem.place (ascendingBy (·.name)) Prod.mk orgId keyBranchId q
    fun _ => true

def Shift.place (shift : Shift ρ) : Id × Option Id := (shift.orgId, some shift.branchId)

def listShifts (q : HmsListByStatusDto) : Except Failure (Page (Id × Shift ρ)) := do
  let openedAt := windowFilter q.toHmsPaginationDto
  let status ← enumFilter shiftStatuses q.status
  return listScoped s.shifts Shift.place (newestBy (·.openedAt)) Prod.mk orgId keyBranchId
    q.toHmsPaginationDto fun shift =>
      status.all (· == shift.status) && inWindow openedAt shift.openedAt

/-- The accounts are those of the organisation, whatever the branch of the key. -/
def listAccounts (q : HmsPaginationDto) : Page (Id × Account ρ) :=
  page (s.accounts.findMany fun _ account => account.orgId == orgId) (ascendingBy (·.code))
    (q.limit.getD 100) (q.skip.getD 0) Prod.mk

def Invoice.place (invoice : Invoice ρ) : Id × Option Id := (invoice.orgId, invoice.branchId)

def listInvoices (q : HmsPaginationDto) : Page (Id × Invoice ρ) :=
  listScoped s.invoices Invoice.place (newestBy (·.createdAt)) Prod.mk orgId keyBranchId q
    fun invoice => inWindow (windowFilter q) invoice.createdAt

def VendorBill.place (bill : VendorBill ρ) : Id × Option Id := (bill.orgId, bill.branchId)

def listVendorBills (q : HmsPaginationDto) : Page (Id × VendorBill ρ) :=
  listScoped s.vendorBills VendorBill.place (newestBy (·.createdAt)) Prod.mk orgId keyBranchId q
    fun bill => inWindow (windowFilter q) bill.createdAt

-- ---
-- The key itself
-- ---

def listAccessLogs (apiKeyId : Id) (q : HmsListAccessLogsDto) :
    Page (Id × IntegrationAccessLog ρ) :=
  let statusCode := q.statusCode.filter (· != 0)
  page (s.accessLogs.findMany fun _ log =>
      log.orgId == orgId && log.apiKeyId == apiKeyId &&
        keyBranchId.all (fun branchId => log.branchId == some branchId) &&
          statusCode.all (· == log.statusCode))
    (newestBy (·.createdAt)) (q.limit.getD 50) (q.skip.getD 0) Prod.mk

end

structure WhoAmI where
  id : Id
  orgId : Id
  branchId : Option Id
  name : String
  keyPrefix : String
  status : ApiKeyStatus
  scopes : List String
  lastUsedAt : Option Time
  lastUsedIp : Option String
  expiresAt : Option Time
  createdAt : Time
  /-- Its identifier, name and slug. -/
  organization : Option (Id × String × String)
  scope : KeyScope
  grantedPermissions : List String
  deriving DecidableEq, Repr

def whoAmI (apiKeyId : Id) : Except Failure WhoAmI := do
  let some k := s.apiKeys.get? apiKeyId | throw .internal
  return {
    id := apiKeyId, orgId := k.orgId, branchId := k.branchId, name := k.name
    keyPrefix := k.keyPrefix, status := k.status, scopes := k.scopes, lastUsedAt := k.lastUsedAt
    lastUsedIp := k.lastUsedIp, expiresAt := k.expiresAt, createdAt := k.createdAt
    organization := (s.organizations.get? k.orgId).map fun org => (k.orgId, org.name, org.slug)
    scope := keyScope k.branchId, grantedPermissions := "hms:read:*" :: k.scopes }

-- ---
-- The guard
-- ---

structure Headers where
  xApiKey : Option String := none
  authorization : Option String := none
  xForwardedFor : Option String := none
  deriving DecidableEq, Repr

structure ApiKeyContext where
  apiKeyId : Id
  orgId : Id
  branchId : Option Id
  ipAddress : Option String
  deriving DecidableEq, Repr

/-- White space in the text of a header. -/
def isSpace (c : Char) : Bool := [' ', '\t', '\n', '\u000b', '\u000c', '\r', '\u00a0'].contains c

def trim (text : List Char) : List Char :=
  ((text.dropWhile isSpace).reverse.dropWhile isSpace).reverse

/-- What follows `ApiKey` and white space, in any case. -/
def afterScheme (text : List Char) : Option (List Char) :=
  let (scheme, rest) := text.splitAt 6
  if scheme.map Char.toLower == "apikey".toList && (rest.head?.any isSpace) then
    some (rest.dropWhile isSpace)
  else none

def extractKey (headers : Headers) : Option String :=
  match (headers.xApiKey.map fun key => trim key.toList).filter (!·.isEmpty) with
  | some key => some (String.ofList key)
  | none =>
    (headers.authorization.bind fun auth => afterScheme auth.toList).map fun key =>
      String.ofList (trim key)

/-- An empty text counts as absent. -/
def truthy (text : Option String) : Option String := text.filter (· != "")

def keyRefused (code message : String) : Failure :=
  .http { kind := .unauthorized, code, message }

def findKey (keyHash : String) : Option (Id × ApiKey) :=
  s.apiKeys.findFirst fun _ apiKey => apiKey.keyHash == keyHash

/-- The context and the permissions that the guard gives to a request. -/
def canActivate (sha256 : String → String) (headers : Headers) (ip : Option String) :
    Except Failure (ApiKeyContext × List String) := do
  let some raw := truthy (extractKey headers)
    | throw (keyRefused "API_KEY_MISSING"
        "x-api-key header (or Authorization: ApiKey <key>) is required")
  let some (apiKeyId, apiKey) := findKey s (sha256 raw)
    | throw (keyRefused "API_KEY_INVALID" "API key not recognised")
  if apiKey.status ≠ .active then
    throw (keyRefused "API_KEY_REVOKED" "API key has been revoked")
  if apiKey.expiresAt.any (· < now) then
    throw (keyRefused "API_KEY_EXPIRED" "API key has expired")
  let ipAddress := truthy ip <|> truthy headers.xForwardedFor
  return ({ apiKeyId, orgId := apiKey.orgId, branchId := apiKey.branchId, ipAddress },
    ("hms:read:*" :: apiKey.scopes).eraseDups)

/-- The use of the key is written while the request goes on. -/
def touch (context : ApiKeyContext) : Store ρ :=
  { s with
    apiKeys := s.apiKeys.update context.apiKeyId fun row =>
      { row with lastUsedAt := some now, lastUsedIp := context.ipAddress <|> row.lastUsedIp } }

-- ---
-- The routes
-- ---

inductive Route
  | whoAmI
  | accessLogs (q : HmsListAccessLogsDto)
  | organization
  | branches
  | orders (q : HmsListOrdersDto)
  | order (id : Id)
  | payments (q : HmsListPaymentsDto)
  | refunds (q : HmsPaginationDto)
  | salesSummary (q : HmsPaginationDto)
  | reservations (q : HmsListByStatusDto)
  | events (q : HmsListByStatusDto)
  | eventBookings (q : HmsPaginationDto)
  | menu (q : HmsListMenuDto)
  | inventory (q : HmsPaginationDto)
  | shifts (q : HmsListByStatusDto)
  | accounts (q : HmsPaginationDto)
  | invoices (q : HmsPaginationDto)
  | vendorBills (q : HmsPaginationDto)
  deriving DecidableEq, Repr

inductive Response (ρ : Type)
  | whoAmI (key : WhoAmI)
  | accessLogs (page : Page (Id × IntegrationAccessLog ρ))
  | organization (overview : OrganizationOverview)
  | branches (branches : List BranchItem)
  | orders (page : Page OrderSummary)
  | order (order : OrderDetail ρ)
  | payments (page : Page PaymentSummary)
  | refunds (page : Page (Id × Refund ρ))
  | salesSummary (summary : SalesSummary)
  | reservations (page : Page (Id × Reservation ρ))
  | events (page : Page (Id × Event ρ))
  | eventBookings (page : Page (Id × EventBooking ρ))
  | menu (page : Page (Id × MenuItem ρ))
  | inventory (page : Page (Id × InventoryItem ρ))
  | shifts (page : Page (Id × Shift ρ))
  | accounts (page : Page (Id × Account ρ))
  | invoices (page : Page (Id × Invoice ρ))
  | vendorBills (page : Page (Id × VendorBill ρ))

/-- `HmsIntegrationController`. -/
def serve (c : ApiKeyContext) : Route → Except Failure (Response ρ)
  | .whoAmI => .whoAmI <$> whoAmI s c.apiKeyId
  | .accessLogs q => .ok (.accessLogs (listAccessLogs s c.orgId c.branchId c.apiKeyId q))
  | .organization => .organization <$> getOrganization s c.orgId c.branchId
  | .branches => .ok (.branches (listBranches s c.orgId c.branchId))
  | .orders q => .orders <$> listOrders s c.orgId c.branchId q
  | .order id => .order <$> getOrder s c.orgId c.branchId id
  | .payments q => .payments <$> listPayments s c.orgId c.branchId q
  | .refunds q => .ok (.refunds (listRefunds s c.orgId c.branchId q))
  | .salesSummary q => .ok (.salesSummary (salesSummary s now c.orgId c.branchId q))
  | .reservations q => .reservations <$> listReservations s c.orgId c.branchId q
  | .events q => .events <$> listEvents s c.orgId c.branchId q
  | .eventBookings q => .ok (.eventBookings (listEventBookings s c.orgId c.branchId q))
  | .menu q => .ok (.menu (listMenuItems s c.orgId c.branchId q))
  | .inventory q => .ok (.inventory (listInventory s c.orgId c.branchId q))
  | .shifts q => .shifts <$> listShifts s c.orgId c.branchId q
  | .accounts q => .ok (.accounts (listAccounts s c.orgId q))
  | .invoices q => .ok (.invoices (listInvoices s c.orgId c.branchId q))
  | .vendorBills q => .ok (.vendorBills (listVendorBills s c.orgId c.branchId q))

/-- `@Permissions` of the controller. -/
def requiredPermissions : List String := ["hms:read:*"]

structure HmsRequest where
  headers : Headers
  ip : Option String := none
  route : Route
  deriving DecidableEq, Repr

/-- A request from its guards to its response; `touched` says whether the use of the key
was written before the route reads. -/
def handle (sha256 : String → String) (touched : Bool) (request : HmsRequest) :
    Except Failure (Response ρ) := do
  let (context, permissions) ← canActivate s now sha256 request.headers request.ip
  if !requiredPermissions.all permissions.contains then
    throw (.http { kind := .forbidden, message := "Insufficient permissions" })
  serve (if touched then touch s now context else s) now context request.route

end NimbusPos.HmsIntegrationService
