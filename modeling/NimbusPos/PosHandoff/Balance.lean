import NimbusPos.PosHandoff.Conservation

/-!
# What is owed across a handoff

Lines move between orders; discounts and payments stay where they are, and a
debt does not go below zero. So what an operation takes off the source's bill
counts only as far as it was still owed there, and what it puts on the target's
bill is first met by the target's surplus.
-/

namespace NimbusPos.PosHandoffService

open Lib Lib.Service

/-- What an operation takes from its source: selected lines, or all of them and
the order itself. -/
inductive Taken
  | selected (sels : List ItemSelection)
  | everything

/-- An accepted split, move or merge, with its source and its target. -/
inductive Handoff (s : Store) : Taken → Id → Id → Store → Prop
  | split (h : splitItems ctx orderId dto s = .ok u t) :
      Handoff s (.selected dto.items) orderId s.orders.next t
  | move (h : moveItems ctx sourceId dto s = .ok u t) :
      Handoff s (.selected dto.items) sourceId dto.targetOrderId t
  | merge (h : mergeOrders ctx dto s = .ok u t) :
      Handoff s .everything dto.sourceOrderId dto.targetOrderId t

variable {s t : Store}

/-- What is outstanding on an order that is neither closed nor voided. -/
def liveOutstanding (s : Store) (orderId : Id) : Cents :=
  if (s.orders.get? orderId).any (·.status.active) then computeOutstanding s orderId else 0

-- ---
-- Both sides before the operation
-- ---

/-- The bill of an order less its payments; negative when it is overpaid. -/
def balance (s : Store) (orderId : Id) : Cents :=
  match s.orders.get? orderId with
  | none => 0
  | some order => order.total - completedPayments s orderId

/-- What the balance of an order is once its lines are worth `value`. An order
not created yet has no tax and no discount. -/
def balanceAt (s : Store) (orderId : Id) (value : Cents) : Cents :=
  match s.orders.get? orderId with
  | none => value
  | some order => value + order.tax - order.discount - completedPayments s orderId

/-- By how much the source's balance falls. -/
def fall (s : Store) (sourceId : Id) (sels : List ItemSelection) : Cents :=
  balance s sourceId - balanceAt s sourceId (keptValue s.orderItems sourceId sels)

/-- The value that leaves the source for the target. -/
def Taken.value (s : Store) (sourceId : Id) : Taken → Cents
  | .selected sels => arrivingValue s.orderItems sourceId sels
  | .everything => lineValue s.orderItems sourceId

/-- By how much the target's balance rises. -/
def rise (s : Store) (sourceId targetId : Id) (taken : Taken) : Cents :=
  balanceAt s targetId (lineValue s.orderItems targetId + taken.value s sourceId) - balance s
    targetId

/-- The part of the fall that was owed: a surplus is counted first, and no more
than the debt is let go. A merged source lets all of its debt go. -/
def letGo (s : Store) (sourceId : Id) : Taken → Cents
  | .selected sels =>
    min (max (balance s sourceId) 0) (fall s sourceId sels + max (-balance s sourceId) 0)
  | .everything => max (balance s sourceId) 0

/-- The part of the rise that is owed: what exceeds the target's surplus, or at
least its debt taken off. -/
def takenOn (s : Store) (sourceId targetId : Id) (taken : Taken) : Cents :=
  max (-max (balance s targetId) 0) (rise s sourceId targetId taken - max (-balance s targetId) 0)

theorem letGo_eq (b fall : Int) :
    min (max b 0) (fall + max (-b) 0) = max b 0 - max (b - fall) 0 := by
  omega

theorem takenOn_eq (b rise : Int) :
    max (-max b 0) (rise - max (-b) 0) = max (b + rise) 0 - max b 0 := by
  omega

-- ---
-- Both sides after the operation
-- ---

theorem liveOutstanding_active (hget : s.orders.get? k = some order)
    (hactive : order.status.active = true) :
    liveOutstanding s k = max (balance s k) 0 := by
  simp only [liveOutstanding, hget, Option.any_some, hactive, if_true, computeOutstanding, balance]

theorem liveOutstanding_none (hget : s.orders.get? k = none) :
    liveOutstanding s k = max (balance s k) 0 := by
  simp [liveOutstanding, balance, hget]

/-- An order after an operation that left the payments alone. -/
theorem liveOutstanding_after (hget : t.orders.get? k = some order)
    (hactive : order.status.active = true) (hpayments : t.payments = s.payments) :
    liveOutstanding t k = max (order.total - completedPayments s k) 0 := by
  rw [liveOutstanding_active hget hactive]
  simp only [balance, hget, completedPayments, hpayments]

theorem balanceAt_some (hget : s.orders.get? k = some order) :
    balanceAt s k value = value + order.tax - order.discount - completedPayments s k := by
  simp only [balanceAt, hget]

/-- No payment names an order before it exists. -/
theorem completedPayments_next (hs : Billed s) : completedPayments s s.orders.next = 0 := by
  rw [completedPayments, Table.sumWhere_eq_total]
  apply Table.total_zero
  intro k payment hget
  have hne : payment.orderId ≠ s.orders.next := Nat.ne_of_lt (hs.payments k payment hget).lt_next
  simp [hne]

/-- What is left to owe on the source. -/
def Taken.left (s : Store) (sourceId : Id) : Taken → Cents
  | .selected sels => max (balanceAt s sourceId (keptValue s.orderItems sourceId sels)) 0
  | .everything => 0

/-- What both orders owe before and after, in terms of the store before. -/
structure Shifted (s t : Store) (taken : Taken) (sourceId targetId : Id) : Prop where
  source : liveOutstanding s sourceId = max (balance s sourceId) 0
  target : liveOutstanding s targetId = max (balance s targetId) 0
  sourceAfter : liveOutstanding t sourceId = taken.left s sourceId
  targetAfter : liveOutstanding t targetId =
    max (balanceAt s targetId (lineValue s.orderItems targetId + taken.value s sourceId)) 0

theorem splitItems_shifted (hs : Billed s) (h : splitItems ctx sourceId dto s = .ok u t) :
    Shifted s t (.selected dto.items) sourceId s.orders.next := by
  obtain ⟨source, hfind, hopen, hfits, _, ht⟩ := splitItems_ok h
  have hmoved : Moved s.orderItems sourceId s.orders.next dto.items _ := moved_of_fits hfits
  have hget := (findOrder_get hfind).1
  have hne : sourceId ≠ s.orders.next := Nat.ne_of_lt (Table.lt_next hget)
  have ht : t = splitStore s sourceId (childOrder s ctx sourceId source dto.targetTableId)
      dto.items := ht
  have hrows := splitStore_get s sourceId (childOrder s ctx sourceId source dto.targetTableId)
      dto.items
  have hpayments : t.payments = s.payments := ht ▸ rfl
  refine ⟨liveOutstanding_active hget (active_of_open hopen), liveOutstanding_none Table.get?_next,
    ?_, ?_⟩
  · have hrow := hrows sourceId
    rw [Table.get?_insert_of_some hget, Option.map_some, if_pos (.inl rfl), ← ht,
      hmoved.kept hne] at hrow
    rw [liveOutstanding_after hrow (active_of_open hopen) hpayments, Taken.left,
      balanceAt_some hget]
    rfl
  · have hrow := hrows s.orders.next
    rw [Table.get?_insert_self, Option.map_some, if_pos (.inr rfl), ← ht,
      hmoved.arriving hne] at hrow
    rw [liveOutstanding_after hrow rfl hpayments, completedPayments_next hs, Taken.value, balanceAt,
      Table.get?_next]
    simp [rebilled, childOrder]

theorem moveItems_shifted (h : moveItems ctx sourceId dto s = .ok u t) :
    Shifted s t (.selected dto.items) sourceId dto.targetOrderId := by
  obtain ⟨hne, ⟨source, hsource, hopen⟩, ⟨target, htarget, hopen'⟩, hfits, ht⟩ := moveItems_ok h
  have hmoved : Moved s.orderItems sourceId dto.targetOrderId dto.items _ := moved_of_fits hfits
  have hget := (findOrder_get hsource).1
  have hget' := (findOrder_get htarget).1
  have ht : t = movedStore s sourceId dto.targetOrderId dto.items := ht
  have hpayments : t.payments = s.payments := ht ▸ rfl
  refine ⟨liveOutstanding_active hget (active_of_open hopen),
    liveOutstanding_active hget' (active_of_open hopen'), ?_, ?_⟩
  · have hrow := movedStore_get s sourceId dto.targetOrderId dto.items sourceId
    rw [hget, Option.map_some, if_pos (.inl rfl), ← ht, hmoved.kept hne] at hrow
    rw [liveOutstanding_after hrow (active_of_open hopen) hpayments, Taken.left,
      balanceAt_some hget]
    rfl
  · have hrow := movedStore_get s sourceId dto.targetOrderId dto.items dto.targetOrderId
    rw [hget', Option.map_some, if_pos (.inr rfl), ← ht, hmoved.arriving hne] at hrow
    rw [liveOutstanding_after hrow (active_of_open hopen') hpayments, balanceAt_some hget']
    rfl

theorem mergeOrders_shifted (h : mergeOrders ctx dto s = .ok u t) :
    Shifted s t .everything dto.sourceOrderId dto.targetOrderId := by
  obtain ⟨hne, ⟨source, hsource, hopen⟩, ⟨target, htarget, hopen'⟩, _, ht⟩ := mergeOrders_ok h
  have hget := (findOrder_get hsource).1
  have hget' := (findOrder_get htarget).1
  have ht : t = mergedStore s dto.sourceOrderId dto.targetOrderId := ht
  have hpayments : t.payments = s.payments := ht ▸ rfl
  refine ⟨liveOutstanding_active hget (active_of_open hopen),
    liveOutstanding_active hget' (active_of_open hopen'), ?_, ?_⟩
  · have hrow := mergedStore_get s dto.sourceOrderId dto.targetOrderId dto.sourceOrderId
    rw [hget, Option.map_some, ← ht] at hrow
    simp only [if_true] at hrow
    rw [liveOutstanding, hrow]
    rfl
  · have hrow := mergedStore_get s dto.sourceOrderId dto.targetOrderId dto.targetOrderId
    rw [hget', Option.map_some, ← ht] at hrow
    simp only [if_neg hne.symm, if_true, reparentAll_eq, lineValue_reparent _ hne] at hrow
    rw [liveOutstanding_after hrow (active_of_open hopen') hpayments, balanceAt_some hget']
    rfl

-- ---
-- When a handoff preserves what is owed
-- ---

theorem Shifted.owed_iff (h : Shifted s t taken sourceId targetId) :
    liveOutstanding t sourceId + liveOutstanding t targetId =
      liveOutstanding s sourceId + liveOutstanding s targetId ↔
    letGo s sourceId taken = takenOn s sourceId targetId taken := by
  have hsource : letGo s sourceId taken =
      liveOutstanding s sourceId - liveOutstanding t sourceId := by
    rw [h.source, h.sourceAfter]
    cases taken with
    | selected sels =>
      rw [letGo, letGo_eq, fall, sub_sub_cancel]
      rfl
    | everything => exact (sub_zero _).symm
  have htarget : takenOn s sourceId targetId taken =
      liveOutstanding t targetId - liveOutstanding s targetId := by
    rw [h.target, h.targetAfter, takenOn, takenOn_eq, rise, add_sub_cancel]
  rw [hsource, htarget, sub_eq_sub_iff_add_eq_add, add_comm (liveOutstanding t targetId)]
  exact eq_comm

theorem five_off : (1 : Int) ≤ 500 := by decide

/-- Two orders of one unit at 10.00, the first with 5.00 off. -/
def discountedPair : List Event :=
  [⟨.orders (.createOrder 0 ⟨0, 0⟩ { serviceType := .takeaway } {}), 0⟩,
   ⟨.orders (.addOrderItem ⟨0, 0⟩ 0 { menuItemId := 0 } {}), 0⟩,
   ⟨.discounts (.requestDiscount ⟨0, 0⟩ 0 ⟨.fixed, 500, five_off⟩), 0⟩,
   ⟨.orders (.createOrder 0 ⟨0, 0⟩ { serviceType := .takeaway } {}), 0⟩,
   ⟨.orders (.addOrderItem ⟨0, 0⟩ 1 { menuItemId := 0 } {}), 0⟩]

end NimbusPos.PosHandoffService
