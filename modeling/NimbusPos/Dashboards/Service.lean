import Mathlib.Data.Rat.Defs
import NimbusPos.Lib.Tally
import NimbusPos.Reports.Service

/-!
# Live figures

What the dashboards aggregate over a range, of one branch or of every branch of the organization.
-/

namespace NimbusPos

open Lib

/-- A group of rows: how many they are, and the sum of a column. -/
structure CountTotal where
  count : Nat := 0
  total : Cents := 0
  deriving DecidableEq, Repr

def CountTotal.add (amount : Cents) (group : CountTotal) : CountTotal :=
  ⟨group.count + 1, group.total + amount⟩

/-- `groupBy({ by: ['method'] })` -/
def groupByMethod (payments : List (Id × Payment)) : Tally PaymentMethod CountTotal :=
  Tally.collect (fun row => row.2.method) (fun _ => {}) (fun row => CountTotal.add row.2.amount)
    payments

namespace DashboardsService

open ReportsService (Range)

def inScope (orgId : Id) (branchId : Option Id) (rowOrgId rowBranchId : Id) : Bool :=
  rowOrgId == orgId && branchId.all (rowBranchId == ·)

structure Sales where
  grossSales : Cents
  netSales : Cents
  taxTotal : Cents
  discountTotal : Cents
  subtotalSales : Cents
  orderCount : Nat
  avgOrderValue : ℚ
  deriving DecidableEq, Repr

def aggregateSales (s : Store) (orgId : Id) (branchId : Option Id) (range : Range) : Sales :=
  let orders (_ : Id) (order : Order) : Bool := inScope orgId branchId order.orgId order.branchId &&
    (order.status == .closed || order.status == .served) && range.has order.createdAt
  let grossSales := s.orders.sumWhere orders (·.total)
  let taxTotal := s.orders.sumWhere orders (·.tax)
  { grossSales, netSales := grossSales - taxTotal, taxTotal
    discountTotal := s.orders.sumWhere orders (·.discount)
    subtotalSales := s.orders.sumWhere orders (·.subtotal)
    orderCount := s.orders.count orders
    avgOrderValue := (grossSales : ℚ) / s.orders.count orders }

structure PaymentMix where
  cash : Cents := 0
  card : Cents := 0
  momo : Cents := 0
  deriving DecidableEq, Repr

/-- The `switch` over the method of a group. -/
def PaymentMix.set (mix : PaymentMix) (group : PaymentMethod × CountTotal) : PaymentMix :=
  match group.1 with
  | .cash => { mix with cash := group.2.total }
  | .card => { mix with card := group.2.total }
  | .momo => { mix with momo := group.2.total }
  | .bankTransfer => mix

def aggregatePaymentMix (s : Store) (orgId : Id) (branchId : Option Id) (range : Range) :
    PaymentMix :=
  (groupByMethod (s.payments.findMany fun _ payment =>
    inScope orgId branchId payment.orgId payment.branchId && payment.status == .completed &&
      range.has payment.createdAt)).foldl PaymentMix.set {}

def aggregateRefunds (s : Store) (orgId : Id) (branchId : Option Id) (range : Range) : Cents :=
  s.refunds.sumWhere (fun _ refund => inScope orgId branchId refund.orgId refund.branchId &&
    refund.status == .completed && range.has refund.createdAt) (·.amount)

-- ---
-- The mix of some groups
-- ---

/-- The figure of a method; a bank transfer has none. -/
def PaymentMix.of (mix : PaymentMix) : PaymentMethod → Cents
  | .cash => mix.cash
  | .card => mix.card
  | .momo => mix.momo
  | .bankTransfer => 0

def PaymentMix.sum (mix : PaymentMix) : Cents := mix.cash + mix.card + mix.momo

theorem PaymentMix.of_set_ne (h : method ≠ group.1) : (PaymentMix.set mix group).of method =
    mix.of method := by
  unfold PaymentMix.set
  split <;> cases method <;> first | rfl | simp_all

theorem PaymentMix.of_foldl_set {groups : Tally PaymentMethod CountTotal}
    (h : method ∉ groups.map Prod.fst) : (groups.foldl PaymentMix.set mix).of method =
      mix.of method := by
  induction groups generalizing mix with
  | nil => rfl
  | cons group groups ih =>
    simp only [List.map_cons, List.mem_cons, not_or] at h
    rw [List.foldl_cons, ih h.2, of_set_ne h.1]

/-- A group of a method that had no figure adds its total, unless it is of bank transfers. -/
theorem PaymentMix.sum_set (h : mix.of group.1 = 0) : (PaymentMix.set mix group).sum =
    mix.sum + if group.1 = .bankTransfer then 0 else group.2.total := by
  unfold PaymentMix.set
  split <;> rename_i hmethod <;> simp only [hmethod, PaymentMix.of] at h <;>
    simp [hmethod, PaymentMix.sum, h] <;> ring

theorem PaymentMix.sum_foldl_set {groups : Tally PaymentMethod CountTotal}
    (hkeys : (groups.map Prod.fst).Nodup) : (groups.foldl PaymentMix.set {}).sum =
      (groups.map fun group => if group.1 = .bankTransfer then 0 else group.2.total).sum := by
  induction groups using List.reverseRecOn with
  | nil => rfl
  | append_singleton groups group ih =>
    rw [List.map_append, List.nodup_append] at hkeys
    obtain ⟨hgroups, -, hfresh⟩ := hkeys
    have hnone : (groups.foldl PaymentMix.set {}).of group.1 = 0 := by
      rw [of_foldl_set fun hmem => hfresh _ hmem _ (List.mem_singleton_self _) rfl]
      cases group.1 <;> rfl
    rw [List.foldl_append, List.foldl_cons, List.foldl_nil, sum_set hnone, ih hgroups]
    simp

end DashboardsService

end NimbusPos
