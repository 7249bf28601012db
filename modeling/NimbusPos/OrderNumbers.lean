import NimbusPos.Sound

/-!
# The next order number

A number is read out of the newest order of the branch, whatever that order is.
The newest order carries the highest sequence of its branch as long as only
orders with the highest sequence are split: then the number that comes next is
free, and creating an order does not fail on the unique constraint.
-/

namespace NimbusPos

open Lib Lib.Service
open OrdersService PosHandoffService

variable {s t : Store}

def Order.sequence (order : Order) : Nat := (orderSequence order.orderNumber).getD 0

/-- No order of the branch has a higher sequence. -/
def Highest (s : Store) (order : Order) : Prop := ∀ k other, s.orders.get? k = some other →
  other.branchId = order.branchId → other.sequence ≤ order.sequence

instance (s : Store) (order : Order) : Decidable (Highest s order) :=
  decidable_of_iff (s.orders.count (fun _ other =>
      other.branchId == order.branchId && decide (order.sequence < other.sequence)) = 0) <| by
    simp [Table.count_eq_zero, Highest]

/-- No order of the branch is newer. -/
def Newest (s : Store) (order : Order) : Prop := ∀ k other, s.orders.get? k = some other →
  other.branchId = order.branchId → other.createdAt ≤ order.createdAt

/-- Orders lie in the past, have a sequence, and the newest has the highest. -/
structure Sequenced (s : Store) : Prop where
  past : ∀ k order, s.orders.get? k = some order → order.createdAt ≤ s.clock
  readable : ∀ k order, s.orders.get? k = some order →
    orderSequence order.orderNumber = some order.sequence
  highest : ∀ k order, s.orders.get? k = some order → Newest s order → Highest s order

/-- Only orders with the highest sequence of their branch are split. -/
def splitsHighest (s : Store) : Call → Prop
  | .handoff (.splitItems _ orderId _) =>
    ∀ order, s.orders.get? orderId = some order → Highest s order
  | _ => True

-- ---
-- What a new order is numbered
-- ---

/-- Nothing in the branch reaches the sequence of a generated number. -/
theorem generated_above (hs : Sequenced s) (hget : s.orders.get? k = some other)
    (hbranch : other.branchId = branchId) : ∃ n,
    orderSequence (OrdersService.generateOrderNumber s branchId) = some n ∧ other.sequence < n := by
  rw [OrdersService.generateOrderNumber, nextNumber_sequence]
  refine ⟨_, rfl, ?_⟩
  cases hlast : s.orders.findLatest (fun _ order => order.branchId == branchId) (·.createdAt) with
  | none =>
    have hnone := Table.findLatest_none hlast hget
    simp [hbranch] at hnone
  | some row =>
    obtain ⟨hlatest, hin, hnewest⟩ := Table.findLatest_some hlast
    have hin : row.2.branchId = branchId := beq_iff_eq.mp hin
    have hhighest := hs.highest row.1 row.2 hlatest fun j b hb hsame =>
      hnewest j b hb (beq_iff_eq.mpr (hsame.trans hin))
    simp only [Option.map_some, nextSequence, Option.bind_some, hs.readable row.1 row.2 hlatest]
    exact Nat.lt_succ_of_le (hhighest k other hget (hbranch.trans hin.symm))

/-- The generated number is free. -/
theorem generated_free (hs : Sequenced s) (branchId : Id) :
    s.numberFree branchId (OrdersService.generateOrderNumber s branchId) := by
  intro k other hget hbranch hsame
  obtain ⟨n, hn, hlt⟩ := generated_above hs hget hbranch
  have hread := hs.readable k other hget
  rw [hsame, hn, Option.some.injEq] at hread
  exact absurd hlt (hread ▸ Nat.lt_irrefl n)

/-- A new order is readable and has the highest sequence. -/
theorem newborn_highest (hs : Sequenced s) (hborn : Newborn s call order)
    (hok : splitsHighest s call) :
    orderSequence order.orderNumber = some order.sequence ∧ Highest s order := by
  rcases hborn.numbered with hnumber | ⟨ctx, parentId, dto, parent, rfl, hparent, hbranch, hnumber⟩
  · have hread : orderSequence order.orderNumber = some order.sequence := by
      rw [Order.sequence, hnumber, OrdersService.generateOrderNumber, nextNumber_sequence]
      rfl
    refine ⟨hread, fun k other hget hsame => ?_⟩
    obtain ⟨n, hn, hlt⟩ := generated_above hs hget hsame
    rw [← hnumber, hread, Option.some.injEq] at hn
    exact hn ▸ Nat.le_of_lt hlt
  · have hread := childOrderNumber_sequence (hs.readable parentId parent hparent)
      (s.orders.count fun _ row => row.splitFromOrderId == some parentId)
    have hsequence : order.sequence = parent.sequence := by
      rw [Order.sequence, hnumber, generateChildOrderNumber, hread]
      rfl
    refine ⟨?_, fun k other hget hsame => ?_⟩
    · rw [hsequence, hnumber]
      exact hread
    · rw [hsequence]
      exact hok parent hparent k other hget (hsame.trans hbranch.symm)

-- ---
-- One step
-- ---

/-- The columns that numbering reads. -/
theorem identity_columns (h : Order.identity a = Order.identity b) :
    a.branchId = b.branchId ∧ a.orderNumber = b.orderNumber ∧ a.createdAt = b.createdAt := by
  simp only [Order.identity, Prod.mk.injEq] at h
  exact ⟨h.2.1, h.2.2.1, h.2.2.2.2.1⟩

theorem Sequenced.same (hs : Sequenced s) (hclock : s.clock ≤ t.clock)
    (h : Table.SameRows Order.identity s.orders t.orders) : Sequenced t := by
  refine ⟨?_, ?_, ?_⟩
  · intro k order' hget
    obtain ⟨order, horder, hsame⟩ := h.back hget
    rw [(identity_columns hsame).2.2]
    exact (hs.past k order horder).trans hclock
  · intro k order' hget
    obtain ⟨order, horder, hsame⟩ := h.back hget
    rw [Order.sequence, (identity_columns hsame).2.1]
    exact hs.readable k order horder
  · intro k order' hget hnewest j other' hother hbranch'
    obtain ⟨order, horder, hsame⟩ := h.back hget
    obtain ⟨hbranch, hnumber, hcreated⟩ := identity_columns hsame
    obtain ⟨other, hold, hsame'⟩ := h.back hother
    obtain ⟨hbranch₁, hnumber₁, _⟩ := identity_columns hsame'
    rw [Order.sequence, Order.sequence, hnumber, hnumber₁]
    refine hs.highest k order horder (fun i third hthird hin => ?_) j other hold ?_
    · obtain ⟨third', hget', hsame''⟩ := h.forth hthird
      obtain ⟨hbranch₂, _, hcreated₂⟩ := identity_columns hsame''
      rw [← hcreated, ← hcreated₂]
      exact hnewest i third' hget' (hbranch₂.trans (hin.trans hbranch.symm))
    · exact hbranch₁.symm.trans (hbranch'.trans hbranch)

theorem Sequenced.insert (hs : Sequenced s)
    (hpast : ∀ k order, s.orders.get? k = some order → order.createdAt < s.clock)
    (hborn : Newborn s call new) (hok : splitsHighest s call) :
    Sequenced { s with orders := s.orders.insert new } := by
  obtain ⟨hread, hhighest⟩ := newborn_highest hs hborn hok
  have hrow {k order} (hget : (s.orders.insert new).get? k = some order) :
      order = new ∨ s.orders.get? k = some order := by
    rcases Table.insert_cases hget with ⟨-, rfl⟩ | hget
    · exact .inl rfl
    · exact .inr hget
  refine ⟨?_, ?_, ?_⟩
  · intro k order hget
    rcases hrow hget with rfl | hold
    · exact Nat.le_of_eq hborn.createdAt
    · exact hs.past k order hold
  · intro k order hget
    rcases hrow hget with rfl | hold
    · exact hread
    · exact hs.readable k order hold
  · intro k order hget hnewest j other hother hbranch
    rcases hrow hget with rfl | hold
    · rcases hrow hother with rfl | hold'
      · exact Nat.le_refl _
      · exact hhighest j other hold' hbranch
    · rcases hrow hother with rfl | hold'
      · -- an older order is not the newest of a branch that has the new one
        have hle := hnewest _ other (Table.get?_insert_self _ _) hbranch
        rw [hborn.createdAt] at hle
        exact absurd (hpast k order hold) (Nat.not_lt.mpr hle)
      · exact hs.highest k order hold
          (fun i third hthird => hnewest i third (Table.get?_insert_of_some hthird)) j other hold'
            hbranch

theorem paidStore_clock : (paidStore s intents payment orderId branchId).clock = s.clock := by
  obtain ⟨_, h⟩ := paidStore_rest s intents payment orderId branchId
  rw [h]
  rfl

theorem checkAndMark_clock :
    (RefundsService.checkAndMarkPaymentRefunded s paymentId).clock = s.clock := by
  rcases RefundsService.checkAndMark_cases s paymentId with h | h <;> rw [h]
  rfl

theorem flagHeavyDiscount_clock :
    (DiscountsService.flagHeavyDiscount s orderId).clock = s.clock := by
  obtain ⟨_, h⟩ := flagHeavyDiscount_rest s orderId
  rw [h]

theorem Effect.clock (h : Effect s call t) : t.clock = s.clock := by
  have hbooks {r : Store} (hr : t.books = r.books) (hclock : r.clock = s.clock) :
      t.clock = s.clock := by
    have hsame := congrArg Store.clock hr
    exact Eq.trans hsame hclock
  cases h with
  | advance => exact hbooks advanceOrder_books rfl
  | close => exact hbooks closedOrder_books rfl
  | void => exact hbooks voidedOrder_books rfl
  | requestPending => exact flagHeavyDiscount_clock
  | closeOrderWithPayment =>
    rw [PaymentsService.recordPayments_eq]
    rfl
  | manualPayment => exact paidStore_clock
  | webhookPaid => exact paidStore_clock
  | createRefund =>
    unfold RefundsService.refundedStore
    split
    · exact checkAndMark_clock
    · rfl
  | approveRefund => exact checkAndMark_clock
  | desk hframe => exact hbooks (deskFrame_books hframe) rfl
  | drawer hframe =>
    have hclock := congrArg Store.clock hframe
    exact hclock
  | _ => rfl

/-- A call made later than every order was created. -/
theorem Effect.sequenced (h : Effect s call t) (hs : Sequenced s)
    (hpast : ∀ k order, s.orders.get? k = some order → order.createdAt < s.clock)
    (hok : splitsHighest s call) : Sequenced t := by
  have hclock : s.clock ≤ t.clock := Nat.le_of_eq h.clock.symm
  rcases h.orders with hsame | ⟨order, hborn, hsame, _⟩
  · exact hs.same hclock hsame
  · exact (hs.insert hpast hborn hok).same hclock hsame

/-- In every run that splits only orders with the highest sequence of their
branch, both services generate a number that is free, and an order with it can
be created. -/
theorem reach_number_free (hstart : System.Opening start)
    (h : System.Reach bcrypt splitsHighest start events s) (branchId : Id) :
    s.numberFree branchId (OrdersService.generateOrderNumber s branchId) ∧
      s.numberFree branchId (ReservationsService.generateOrderNumber s branchId) ∧
      ∀ order : Order, order.branchId = branchId →
        order.orderNumber = OrdersService.generateOrderNumber s branchId →
        ∃ orderId t, createOrderRow order s = .ok orderId t := by
  have hempty : Sequenced start := by
    constructor <;> intro k order hget <;> rw [hstart.orders] at hget <;> cases hget
  have hs : Sequenced s := by
    refine Run.invariant h hempty fun r e hr hok => ?_
    have hclock := tick_clock r e.wait
    have hticked : Sequenced (r.tick e.wait) := hr.same (Nat.le_of_lt hclock) (.refl _)
    exact (exec_effect bcrypt _ e.call).sequenced hticked
      (fun k order hget => Nat.lt_of_le_of_lt (hr.past k order hget) hclock) hok
  have hfree := generated_free hs branchId
  refine ⟨hfree, hfree, fun order hbranch hnumber => ?_⟩
  exact ⟨_, _, createOrderRow_ok.mpr ⟨hbranch ▸ hnumber ▸ hfree, rfl, rfl⟩⟩

-- ---
-- An earlier order split
-- ---

def splitFirst : SplitItemsDto where
  items := [⟨0, 1, System.one_unit⟩]
  size := System.one_selection

/-- The first of two orders split: its child is the newest order. -/
def earlierSplit : List Event :=
  [⟨.orders (.createOrder 0 ⟨0, 0⟩ { serviceType := .takeaway } {}), 0⟩,
   ⟨.orders (.addOrderItem ⟨0, 0⟩ 0 { menuItemId := 0, quantity := some ⟨2, System.two_units⟩ } {}),
     0⟩,
   ⟨.orders (.createOrder 0 ⟨0, 0⟩ { serviceType := .takeaway } {}), 0⟩,
   ⟨.handoff (.splitItems ⟨0, 0⟩ 0 splitFirst), 0⟩]

/-- After ORD-000001, ORD-000002 and ORD-000001-S1 comes ORD-000002. -/
theorem generateOrderNumber_taken :
    ¬∀ (bcrypt : Bcrypt) (start : Store) (events : List Event) (s : Store)
    (branchId : Id), System.Opening start → System.Reach bcrypt (fun _ _ => True) start events s →
    s.numberFree branchId (OrdersService.generateOrderNumber s branchId) := by
  intro h
  let s := System.after (· == ·) System.cafe earlierSplit
  have hreach := System.reach_after (· == ·) System.cafe earlierSplit
  have htaken : (s.orders.get? 1).any (fun order => order.branchId == 0 &&
      order.orderNumber == OrdersService.generateOrderNumber s 0) = true := by decide
  obtain ⟨order, hget, hrow⟩ := (Option.any_eq_true _ _).mp htaken
  simp only [Bool.and_eq_true, beq_iff_eq] at hrow
  exact h _ _ _ s 0 System.cafe_opening hreach 1 order hget hrow.1 hrow.2

theorem reach_number_free_split :
    let events := earlierSplit.take 2 ++ earlierSplit.drop 3
    let s := System.after (· == ·) System.cafe events
    System.Reach (· == ·) splitsHighest System.cafe events s ∧
      s.numberFree 0 (OrdersService.generateOrderNumber s 0) := by
  intro events s
  have hsplit : splitsHighest ((System.after (· == ·) System.cafe (events.take 2)).tick 0)
      (.handoff (.splitItems ⟨0, 0⟩ 0 splitFirst)) := by
    have hhighest : ∀ order ∈
        ((System.after (· == ·) System.cafe (events.take 2)).tick 0).orders.get? 0,
      Highest ((System.after (· == ·) System.cafe (events.take 2)).tick 0) order := by decide
    exact hhighest
  have hreach : System.Reach (· == ·) splitsHighest System.cafe events s :=
    .snoc (.snoc (.snoc .nil trivial) trivial) hsplit
  exact ⟨hreach, (reach_number_free System.cafe_opening hreach 0).1⟩

end NimbusPos
