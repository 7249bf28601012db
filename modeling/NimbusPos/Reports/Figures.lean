import NimbusPos.Dashboards.Service
import NimbusPos.Orders.Pricing

/-!
# Sales, refund, discount and staff reports

What the generators of these reports find in a range. Amounts are in cents.
-/

namespace NimbusPos.ReportsService

open Lib

/-- Columns of discounts and refunds that the reports read. -/
structure Columns where
  discountCreatedAt : Id → Time
  discountCreatedById : Id → Id
  refundCreatedById : Id → Id

variable (s : Store) (columns : Columns) (ctx : BranchContext) (range : Range)

/-- `status: { in: ['CLOSED', 'SERVED'] }` -/
def soldIn (_ : Id) (order : Order) : Bool :=
  order.orgId == ctx.organizationId && order.branchId == ctx.branchId &&
    (order.status == .closed || order.status == .served) && range.has order.createdAt

def voidedIn (_ : Id) (order : Order) : Bool :=
  order.orgId == ctx.organizationId && order.branchId == ctx.branchId &&
    order.status == .voided && range.has order.updatedAt

def paidIn (_ : Id) (payment : Payment) : Bool :=
  payment.orgId == ctx.organizationId && payment.branchId == ctx.branchId &&
    payment.status == .completed && range.has payment.createdAt

/-- Refunds in any status. -/
def refundIn (_ : Id) (refund : Refund) : Bool :=
  refund.orgId == ctx.organizationId && refund.branchId == ctx.branchId &&
    range.has refund.createdAt

/-- Discounts in any status. -/
def discountIn (discountId : Id) (discount : Discount) : Bool :=
  discount.orgId == ctx.organizationId && discount.branchId == ctx.branchId &&
    range.has (columns.discountCreatedAt discountId)

-- ---
-- Sales and payments
-- ---

structure SalesFigures where
  grossSales : Cents
  netSales : Cents
  taxTotal : Cents
  subtotalSales : Cents
  deriving DecidableEq, Repr

def salesFigures (subtotal total tax : Cents) : SalesFigures :=
  { grossSales := total, netSales := total - tax, taxTotal := tax, subtotalSales := subtotal }

structure DailySales extends SalesFigures where
  discountTotal : Cents
  orderCount : Nat
  avgOrderValue : ℚ
  paymentBreakdown : List (PaymentMethod × Cents)
  refundTotal : Cents
  refundCount : Nat
  deriving DecidableEq, Repr

def dailySales : DailySales :=
  let sold := soldIn ctx range
  let sum (column : Order → Int) : Int := s.orders.sumWhere sold column
  let payments := groupByMethod (s.payments.findMany (paidIn ctx range))
  let refunded (id : Id) (refund : Refund) : Bool :=
    refundIn ctx range id refund && refund.status == .completed
  { salesFigures (sum (·.subtotal)) (sum (·.total)) (sum (·.tax)) with
    discountTotal := sum (·.discount), orderCount := s.orders.count sold
    avgOrderValue := (sum (·.total) : ℚ) / s.orders.count sold
    paymentBreakdown := payments.map fun group => (group.1, group.2.total)
    refundTotal := s.refunds.sumWhere refunded (·.amount)
    refundCount := s.refunds.count refunded }

/-- The percentage has two places. -/
structure PaymentShare where
  method : PaymentMethod
  amount : Cents
  count : Nat
  percentage : Int
  deriving DecidableEq, Repr

structure PaymentMixSummary where
  totalAmount : Cents
  breakdown : List PaymentShare
  deriving DecidableEq, Repr

def paymentMix : PaymentMixSummary :=
  let payments := groupByMethod (s.payments.findMany (paidIn ctx range))
  let totalAmount := (payments.map fun group => group.2.total).sum
  { totalAmount
    breakdown := payments.map fun group =>
      { method := group.1, amount := group.2.total, count := group.2.count
        percentage :=
          if 0 < totalAmount then roundHalfUp (group.2.total * 10000) totalAmount else 0 } }

structure HourSales where
  hour : Fin 24
  label : String
  orderCount : Nat
  sales : Cents
  deriving DecidableEq, Repr

structure SalesByHour where
  hourlyBreakdown : List HourSales
  totalOrders : Nat
  peakHour : String
  peakSales : Cents
  deriving DecidableEq, Repr

/-- Every hour of the day, with the orders that were created in it. -/
def byHour (getHours : Time → Fin 24) (orders : List (Id × Order)) : Tally (Fin 24) CountTotal :=
  orders.foldl (fun t row => t.upsert (getHours row.2.createdAt) {} (CountTotal.add row.2.total))
    ((List.finRange 24).map fun hour => (hour, {}))

def hourLabel (hour : Fin 24) : String :=
  (if hour < 10 then "0" else "") ++ toString hour.val ++ ":00"

def hourSales (entry : Fin 24 × CountTotal) : HourSales :=
  { hour := entry.1, label := hourLabel entry.1, orderCount := entry.2.count
    sales := entry.2.total }

/-- The first hour with the most sales. -/
def peak (hourlyBreakdown : List HourSales) (first : HourSales) : HourSales :=
  hourlyBreakdown.foldl (fun best cur => if best.sales < cur.sales then cur else best) first

/-- `getHours` is the local hour of a time. -/
def salesByHour (getHours : Time → Fin 24) : SalesByHour :=
  let orders := s.orders.findMany (soldIn ctx range)
  let hourlyBreakdown := (byHour getHours orders).map hourSales
  let peakHour := peak hourlyBreakdown (hourlyBreakdown.headD (hourSales (0, {})))
  { hourlyBreakdown, totalOrders := orders.length, peakHour := peakHour.label
    peakSales := peakHour.sales }

-- ---
-- Discounts and refunds by actor
-- ---

structure ActorTotal where
  userId : Id
  email : String
  count : Nat
  total : Cents
  deriving DecidableEq, Repr

/-- The entries of a `Map` by actor, those with more first. -/
def actorBreakdown (email : Id → String) (byActor : Tally Id CountTotal) : List ActorTotal :=
  (byActor.map fun entry =>
    { userId := entry.1, email := email entry.1, count := entry.2.count
      total := entry.2.total : ActorTotal }).mergeSort fun a b => decide (b.total ≤ a.total)

structure DiscountsSummary where
  totalDiscounts : Nat
  grandTotal : Cents
  byStatus : List (DiscountStatus × Nat)
  typeBreakdown : List (DiscountType × CountTotal)
  actorBreakdown : List ActorTotal
  deriving DecidableEq, Repr

/-- The value of a percentage is added as that of a fixed discount is. -/
def discountsSummary (email : Id → String) : DiscountsSummary :=
  let discounts := s.discounts.findMany (discountIn columns ctx range)
  let value (row : Id × Discount) : CountTotal → CountTotal := CountTotal.add row.2.value
  { totalDiscounts := discounts.length
    grandTotal := (discounts.map fun row => row.2.value).sum
    byStatus := Tally.collect (fun row => row.2.status) (fun _ => 0) (fun _ n => n + 1) discounts
    typeBreakdown := Tally.collect (fun row => row.2.type) (fun _ => {}) value discounts
    actorBreakdown := actorBreakdown email
      (Tally.collect (fun row => columns.discountCreatedById row.1) (fun _ => {}) value
        discounts) }

structure RefundsSummary where
  totalRefunds : Nat
  grandTotal : Cents
  byStatus : List (RefundStatus × Nat)
  actorBreakdown : List ActorTotal
  deriving DecidableEq, Repr

def refundsSummary (email : Id → String) : RefundsSummary :=
  let refunds := s.refunds.findMany (refundIn ctx range)
  { totalRefunds := refunds.length
    grandTotal := (refunds.map fun row => row.2.amount).sum
    byStatus := Tally.collect (fun row => row.2.status) (fun _ => 0) (fun _ n => n + 1) refunds
    actorBreakdown := actorBreakdown email
      (Tally.collect (fun row => columns.refundCreatedById row.1) (fun _ => {})
        (fun row => CountTotal.add row.2.amount) refunds) }

-- ---
-- Staff operations
-- ---

structure StaffFigures where
  sales : CountTotal := {}
  refunds : CountTotal := {}
  discounts : CountTotal := {}
  voids : CountTotal := {}
  deriving DecidableEq, Repr

structure StaffLine where
  userId : Id
  email : String
  figures : StaffFigures
  deriving DecidableEq, Repr

structure StaffOperations where
  staffCount : Nat
  staffBreakdown : List StaffLine
  deriving DecidableEq, Repr

/-- What the four loops add, and under which user. -/
inductive StaffEntry
  | sale (userId : Id) (total : Cents)
  | refund (userId : Id) (amount : Cents)
  | discount (userId : Id) (value : Int)
  | void (userId : Id) (total : Cents)
  deriving DecidableEq, Repr

def StaffEntry.userId : StaffEntry → Id
  | .sale userId _ | .refund userId _ | .discount userId _ | .void userId _ => userId

def StaffFigures.add : StaffEntry → StaffFigures → StaffFigures
  | .sale _ total, figures => { figures with sales := figures.sales.add total }
  | .refund _ amount, figures => { figures with refunds := figures.refunds.add amount }
  | .discount _ value, figures => { figures with discounts := figures.discounts.add value }
  | .void _ total, figures => { figures with voids := figures.voids.add total }

def staffEntries : List StaffEntry :=
  (s.orders.findMany (soldIn ctx range)).map (fun row => .sale row.2.userId row.2.total) ++
    (s.refunds.findMany (refundIn ctx range)).map
      (fun row => .refund (columns.refundCreatedById row.1) row.2.amount) ++
    (s.discounts.findMany (discountIn columns ctx range)).map
      (fun row => .discount (columns.discountCreatedById row.1) row.2.value) ++
    (s.orders.findMany (voidedIn ctx range)).map (fun row => .void row.2.userId row.2.total)

def staffMap : Tally Id StaffFigures :=
  Tally.collect StaffEntry.userId (fun _ => {}) StaffFigures.add (staffEntries s columns ctx range)

def staffOperations (email : Id → String) : StaffOperations :=
  let line (entry : Id × StaffFigures) : StaffLine :=
    { userId := entry.1
      email := if (s.users.get? entry.1).isSome then email entry.1 else "Unknown"
      figures := entry.2 }
  let staffBreakdown := ((staffMap s columns ctx range).map line).mergeSort
    fun a b => decide (b.figures.sales.total ≤ a.figures.sales.total)
  { staffCount := staffBreakdown.length, staffBreakdown }

end NimbusPos.ReportsService
