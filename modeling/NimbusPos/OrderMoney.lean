import NimbusPos.Sound

/-!
# The money of an order

Three services recompute an order, each with its own code. Line changes and
discount decisions re-derive the discount from the approved row and cut the
total at zero; a handoff keeps the stored discount and does not cut. The totals
of every order stay right as long as no step prices an order's lines below zero
and no handoff leaves less value on an order than the discount stored there.
-/

namespace NimbusPos

open Lib Lib.Service
open OrdersService DiscountsService PosHandoffService

variable {s t : Store}

-- ---
-- Taxes and discounts
-- ---

/-- No call writes a tax. -/
def Untaxed (s : Store) : Prop := ∀ k order, s.orders.get? k = some order → order.tax = 0

theorem Effect.untaxed (h : Effect s call t) (hs : Untaxed s) : Untaxed t := by
  intro k order' hget
  have htax {a b : Order} (hab : a.identity = b.identity) : a.tax = b.tax := by
    simp only [Order.identity, Prod.mk.injEq] at hab
    exact hab.2.2.2.2.2
  rcases h.orders with hsame | ⟨new, hborn, hsame, _⟩
  · obtain ⟨order, horder, hab⟩ := hsame.back hget
    exact (htax hab).trans (hs k order horder)
  · obtain ⟨order, horder, hab⟩ := hsame.back hget
    rcases Table.insert_cases horder with ⟨-, rfl⟩ | horder
    · exact (htax hab).trans hborn.money.2.1
    · exact (htax hab).trans (hs k order horder)

/-- What the DTO and the percentage check let into the table. -/
structure DiscountSound (discount : Discount) : Prop where
  value : 0 ≤ discount.value
  percentage : discount.type = .percentage → discount.value ≤ 10000

def DiscountsSound (s : Store) : Prop := ∀ k discount, s.discounts.get? k = some discount →
  DiscountSound discount

theorem DiscountsSound.insert (hs : DiscountsSound s) (hnew : DiscountSound discount)
    (ht : t.discounts = s.discounts.insert discount) : DiscountsSound t := by
  intro k row hget
  rw [ht, Table.get?_insert] at hget
  split at hget
  · cases hget
    exact hnew
  · exact hs k row hget

/-- A decision keeps the kind and the value of a discount. -/
theorem DiscountsSound.same (hs : DiscountsSound s)
    (hsame : Table.SameRows (fun row => (row.type, row.value)) s.discounts t.discounts) :
    DiscountsSound t := by
  intro k row hget
  obtain ⟨old, hold, hrow⟩ := hsame.back hget
  obtain ⟨htype, hvalue⟩ := Prod.mk.inj hrow
  have hsound := hs k old hold
  exact ⟨hvalue ▸ hsound.value, htype ▸ hvalue ▸ hsound.percentage⟩

theorem flagHeavyDiscount_discounts : (flagHeavyDiscount s orderId).discounts = s.discounts := by
  obtain ⟨_, h⟩ := flagHeavyDiscount_rest s orderId
  rw [h]

theorem requested_sound {dto : RequestDiscountDto}
    (hpct : dto.type = .percentage → dto.value ≤ 10000) :
    DiscountSound (requestedDiscount s ctx orderId dto auto) :=
  ⟨Int.le_trans Int.one_nonneg dto.value_pos, hpct⟩

theorem Effect.discounts (h : Effect s call t) (hs : DiscountsSound s) : DiscountsSound t := by
  have hsame (heq : t.discounts = s.discounts) : DiscountsSound t :=
    fun k row hget => hs k row (heq ▸ hget)
  have haside (hcall : call.reckons = false) : DiscountsSound t := hsame (h.aside hcall).2.1
  cases h with
  | nothing => exact hs
  | addOrderItem | updateOrderItem | deleteOrderItem => exact hsame rfl
  | advance hcall => exact haside (reckons_of_transition hcall)
  | requestDiscount _ _ hpct => exact hs.insert (requested_sound hpct) rfl
  | requestPending _ _ hpct => exact hs.insert (requested_sound hpct) flagHeavyDiscount_discounts
  | approveDiscount | rejectDiscount =>
    refine hs.same ?_
    dsimp only [recalcOrderDiscount, Store.updateOrder]
    exact .updateWhere fun _ => rfl
  | splitItems | moveItems | mergeOrders => exact hsame rfl
  | _ => exact haside rfl

/-- The discount in force takes nothing below zero. -/
theorem approvedAmount_bounds (hs : DiscountsSound s) (hsub : 0 ≤ subtotal) :
    0 ≤ s.approvedAmount orderId subtotal ∧ s.approvedAmount orderId subtotal ≤ subtotal := by
  unfold Store.approvedAmount
  split
  · rename_i k discount hlatest
    have hsound := hs k discount (Table.findLatest_some hlatest).1
    exact discountAmount_bounds hsub hsound.value hsound.percentage
  · exact ⟨Int.le_refl 0, hsub⟩

-- ---
-- One order
-- ---

/-- The totals of an order whose lines sum up to `value`. -/
structure Money (value : Cents) (order : Order) : Prop where
  subtotal : order.subtotal = value
  discount : 0 ≤ order.discount ∧ order.discount ≤ order.subtotal
  total : order.total = order.subtotal - order.discount

def MoneyHolds (s : Store) : Prop :=
  ∀ k order, s.orders.get? k = some order → order.status ≠ .voided →
  Money (s.lineSum k) order

theorem Money.of_money (h : Money value order) (hsame : order'.money = order.money) :
    Money value order' := by
  simp only [Order.money, Prod.mk.injEq] at hsame
  obtain ⟨hsub, _, hdisc, htotal⟩ := hsame
  exact ⟨hsub ▸ h.subtotal, hsub ▸ hdisc ▸ h.discount, hsub ▸ hdisc ▸ htotal ▸ h.total⟩

/-- A handoff is right about an order without tax whose lines cover its
discount. -/
theorem money_rebilled (htax : order.tax = 0) (hpos : 0 ≤ order.discount)
    (hle : order.discount ≤ value) :
    Money value (rebilled value now order) := by
  refine ⟨rfl, ⟨hpos, hle⟩, ?_⟩
  simp only [rebilled, htax, add_zero]

/-- The total is cut at zero, which a discount in bounds does not reach. -/
theorem money_derived (hdisc : 0 ≤ discount ∧ discount ≤ value) (hsub : order.subtotal = value)
    (hdiscount : order.discount = discount) (htotal : order.total = max (value - discount) 0) :
    Money value order := by
  subst hsub hdiscount
  exact ⟨rfl, hdisc, htotal.trans (max_eq_left (sub_nonneg.mpr hdisc.2))⟩

theorem money_recalcTotals {r : Store} (hd : DiscountsSound r) (hsum : 0 ≤ r.lineSum orderId)
    (hothers : ∀ k order, k ≠ orderId → r.orders.get? k = some order → order.status ≠ .voided →
      Money (r.lineSum k) order) : MoneyHolds (recalcOrderTotals r orderId) := by
  intro k order' hget hlive
  rw [recalcOrderTotals, updateOrder_get] at hget
  split at hget
  · rename_i hk
    subst hk
    obtain ⟨order, _, rfl⟩ := Option.map_eq_some_iff.mp hget
    exact money_derived (approvedAmount_bounds hd hsum) rfl rfl rfl
  · rename_i hk
    exact hothers k order' hk hget hlive

theorem money_recalcDiscount {r : Store} (hd : DiscountsSound r) (hr : MoneyHolds r) :
    MoneyHolds (recalcOrderDiscount r orderId) := by
  intro k order' hget hlive
  rw [recalcOrderDiscount, updateOrder_get] at hget
  split at hget
  · rename_i hk
    subst hk
    obtain ⟨order, horder, rfl⟩ := Option.map_eq_some_iff.mp hget
    have hmoney := hr k order horder hlive
    have hsub : 0 ≤ order.subtotal := hmoney.discount.1.trans hmoney.discount.2
    have hsum : order.subtotal = r.lineSum k := hmoney.subtotal
    rw [← hsum] at hmoney
    exact hsum ▸ money_derived (approvedAmount_bounds hd hsub) rfl rfl rfl
  · exact hr k order' hget hlive

-- ---
-- Line changes
-- ---

theorem lineSum_insert (s : Store) (item : OrderItem) (k : Id) :
    { s with orderItems := s.orderItems.insert item }.lineSum k =
      s.lineSum k + if item.orderId = k then item.subtotal else 0 := by
  simp only [Store.lineSum, Table.sumWhere_eq_total, Table.total_insert, beq_iff_eq]

theorem lineSum_update {s : Store} {data : OrderItem → OrderItem}
    (hget : s.orderItems.get? itemId = some item)
    (hdata : (data item).orderId = item.orderId) (k : Id) :
    { s with orderItems := s.orderItems.update itemId data }.lineSum k =
      s.lineSum k + if item.orderId = k then (data item).subtotal - item.subtotal else 0 := by
  simp only [Store.lineSum, Table.sumWhere_eq_total, Table.total_update hget, beq_iff_eq, hdata]
  split <;> ring

theorem lineSum_erase {s : Store} (hget : s.orderItems.get? itemId = some item) (k : Id) :
    { s with orderItems := s.orderItems.erase itemId }.lineSum k =
      s.lineSum k - if item.orderId = k then item.subtotal else 0 := by
  simp only [Store.lineSum, Table.sumWhere_eq_total, Table.total_erase hget, beq_iff_eq]

/-- A line change on an order whose lines still sum up to something. -/
theorem money_lines {items : Table OrderItem} (hd : DiscountsSound s) (hs : MoneyHolds s)
    (hsum : 0 ≤ { s with orderItems := items }.lineSum orderId)
    (hothers : ∀ k, k ≠ orderId → { s with orderItems := items }.lineSum k = s.lineSum k) :
    MoneyHolds (recalcOrderTotals { s with orderItems := items } orderId) := by
  refine money_recalcTotals (r := { s with orderItems := items }) hd hsum ?_
  intro k order hk hget hlive
  rw [hothers k hk]
  exact hs k order hget hlive

-- ---
-- Handoffs
-- ---

/-- The value covers the discount stored on the order. -/
def covers (s : Store) (orderId : Id) (value : Cents) : Prop :=
  ∀ order, s.orders.get? orderId = some order → order.discount ≤ value

instance : Decidable (covers s orderId value) :=
  decidable_of_iff ((s.orders.get? orderId).all fun order => decide (order.discount ≤ value)) <| by
    cases h : s.orders.get? orderId <;> simp [covers, h]

/-- An order that a handoff recomputes. -/
theorem money_covered (hs : MoneyHolds s) (htax : Untaxed s) (hget : s.orders.get? k = some order)
    (hlive : order.status ≠ .voided) (hcovers : covers s k value) :
    Money value (rebilled value now order) :=
  money_rebilled (htax k order hget) (hs k order hget hlive).discount.1 (hcovers order hget)

theorem money_split (hs : MoneyHolds s) (htax : Untaxed s) (hlines : LinesSound s)
    (hlines' : LinesSound (splitStore s sourceId child sels))
    (hfits : selectionsFit s sourceId sels)
    (hsource : sourceId < s.orders.next) (hchild : child.tax = 0 ∧ child.discount = 0)
    (hkept : covers s sourceId (keptValue s.orderItems sourceId sels))
    (harrive : 0 ≤ arrivingValue s.orderItems sourceId sels) :
    MoneyHolds (splitStore s sourceId child sels) := by
  intro k order' hget hlive
  have hmoved : Moved s.orderItems sourceId s.orders.next sels _ := moved_of_fits hfits
  have hne : sourceId ≠ s.orders.next := Nat.ne_of_lt hsource
  rw [lineSum_eq hlines']
  rw [splitStore_get, Option.map_eq_some_iff] at hget
  obtain ⟨order, horder, rfl⟩ := hget
  have hitems : (splitStore s sourceId child sels).orderItems =
    moveSelections (s.itemOn sourceId) s.orders.next s.orderItems sels := rfl
  rw [hitems]
  rcases Table.insert_cases horder with ⟨rfl, rfl⟩ | horder
  · rw [if_pos (.inr rfl)]
    refine money_rebilled hchild.1 (Int.le_of_eq hchild.2.symm) ?_
    rw [hchild.2, hmoved.arriving hne, lineValue_next hlines, zero_add]
    exact harrive
  · have hk : k ≠ s.orders.next := Nat.ne_of_lt (Table.lt_next horder)
    by_cases hks : k = sourceId
    · subst hks
      rw [if_pos (.inl rfl)] at hlive ⊢
      rw [hmoved.kept hne]
      exact money_covered hs htax horder hlive hkept
    · rw [if_neg (by simp [hks, hk])] at hlive ⊢
      rw [hmoved.others hks hk, ← lineSum_eq hlines]
      exact hs k order horder hlive

theorem money_move (hs : MoneyHolds s) (htax : Untaxed s) (hlines : LinesSound s)
    (hlines' : LinesSound (movedStore s sourceId targetId sels))
    (hfits : selectionsFit s sourceId sels)
    (hne : sourceId ≠ targetId) (hkept : covers s sourceId (keptValue s.orderItems sourceId sels))
    (harrive : covers s targetId
      (lineValue s.orderItems targetId + arrivingValue s.orderItems sourceId sels)) :
    MoneyHolds (movedStore s sourceId targetId sels) := by
  intro k order' hget hlive
  have hmoved : Moved s.orderItems sourceId targetId sels _ := moved_of_fits hfits
  have hitems : (movedStore s sourceId targetId sels).orderItems =
    moveSelections (s.itemOn sourceId) targetId s.orderItems sels := rfl
  rw [lineSum_eq hlines', hitems]
  rw [movedStore_get, Option.map_eq_some_iff] at hget
  obtain ⟨order, horder, rfl⟩ := hget
  by_cases hks : k = sourceId
  · subst hks
    rw [if_pos (.inl rfl)] at hlive ⊢
    rw [hmoved.kept hne]
    exact money_covered hs htax horder hlive hkept
  · by_cases hkt : k = targetId
    · subst hkt
      rw [if_pos (.inr rfl)] at hlive ⊢
      rw [hmoved.arriving hne]
      exact money_covered hs htax horder hlive harrive
    · rw [if_neg (by simp [hks, hkt])] at hlive ⊢
      rw [hmoved.others hks hkt, ← lineSum_eq hlines]
      exact hs k order horder hlive

theorem money_merge (hs : MoneyHolds s) (htax : Untaxed s) (hlines : LinesSound s)
    (hlines' : LinesSound (mergedStore s sourceId targetId)) (hne : sourceId ≠ targetId)
    (hcovers : covers s targetId
      (lineValue s.orderItems targetId + lineValue s.orderItems sourceId)) :
    MoneyHolds (mergedStore s sourceId targetId) := by
  intro k order' hget hlive
  have hitems : (mergedStore s sourceId targetId).orderItems =
      reparent s.orderItems sourceId targetId :=
    reparentAll_eq s sourceId targetId
  rw [lineSum_eq hlines', hitems]
  rw [mergedStore_get, Option.map_eq_some_iff] at hget
  obtain ⟨order, horder, rfl⟩ := hget
  simp only [reparentAll_eq] at hlive ⊢
  by_cases hks : k = sourceId
  · rw [if_pos hks] at hlive
    exact absurd rfl hlive
  · rw [if_neg hks] at hlive ⊢
    by_cases hkt : k = targetId
    · subst hkt
      rw [if_pos rfl] at hlive ⊢
      rw [lineValue_reparent _ hne]
      exact money_covered hs htax horder hlive hcovers
    · rw [if_neg hkt] at hlive ⊢
      rw [lineValue_reparent_others _ hks hkt, ← lineSum_eq hlines]
      exact hs k order horder hlive

-- ---
-- Runs
-- ---

/-- No step prices the lines of an order below zero, and no handoff leaves less
value on an order than its stored discount. -/
def keepsMoney (s : Store) : Call → Prop
  | .orders (.addOrderItem ctx orderId dto _) => ∀ pricing,
    Returns (computeLinePricing ctx dto.menuItemId dto.menuItemServingId dto.orderedQuantity
      dto.metadata) s pricing → 0 ≤ s.lineSum orderId + pricing.subtotal
  | .orders (.updateOrderItem ctx orderId itemId dto _) => ∀ existing pricing,
    s.itemOn orderId itemId = some existing →
    Returns (computeLinePricing ctx existing.menuItemId existing.menuItemServingId
      (dto.updatedQuantity existing) (dto.metadata.getD existing.metadata)) s pricing →
    0 ≤ s.lineSum orderId + (pricing.subtotal - existing.subtotal)
  | .orders (.deleteOrderItem _ orderId itemId _) => ∀ existing,
    s.itemOn orderId itemId = some existing → 0 ≤ s.lineSum orderId - existing.subtotal
  | .handoff (.splitItems _ orderId dto) =>
    covers s orderId (keptValue s.orderItems orderId dto.items) ∧
      0 ≤ arrivingValue s.orderItems orderId dto.items
  | .handoff (.moveItems _ sourceId dto) =>
    covers s sourceId (keptValue s.orderItems sourceId dto.items) ∧
      covers s dto.targetOrderId
        (lineValue s.orderItems dto.targetOrderId + arrivingValue s.orderItems sourceId dto.items)
  | .handoff (.mergeOrders _ dto) =>
    covers s dto.targetOrderId
      (lineValue s.orderItems dto.targetOrderId + lineValue s.orderItems dto.sourceOrderId)
  | _ => True

/-- The totals with what they rest on. -/
structure Reckoned (s : Store) : Prop where
  lines : LinesSound s
  untaxed : Untaxed s
  discounts : DiscountsSound s
  money : MoneyHolds s

/-- Calls that carry the money of the orders over. -/
theorem MoneyHolds.carried (hs : MoneyHolds s) (hlines : LinesSound s)
    (hitems : t.orderItems = s.orderItems) (h : Carried s t) : MoneyHolds t := by
  intro k order' hget hlive
  have hsum : t.lineSum k = s.lineSum k := by rw [Store.lineSum, hitems, Store.lineSum]
  rw [hsum]
  rcases h k order' hget hlive with ⟨order, horder, hold, hmoney⟩ | ⟨rfl, hmoney⟩
  · exact (hs k order horder hold).of_money hmoney
  · simp only [Order.money, Prod.mk.injEq] at hmoney
    obtain ⟨hsub, _, hdisc, htotal⟩ := hmoney
    rw [lineSum_eq hlines, lineValue_next hlines]
    exact ⟨hsub, by simp [hsub, hdisc], by simp [hsub, hdisc, htotal]⟩

theorem flagHeavyDiscount_carried (s : Store) (discounts : Table Discount) (orderId : Id) :
    Carried s (flagHeavyDiscount { s with discounts } orderId) := by
  rcases flagHeavyDiscount_cases { s with discounts } orderId with h | h
  · rw [h]
    exact .refl rfl
  · rw [h]
    exact .update rfl fun _ _ => ⟨rfl, fun hlive => hlive⟩

theorem Effect.money (h : Effect s call t) (hs : Reckoned s) (hok : keepsMoney s call) :
    MoneyHolds t := by
  have hlines' := h.lines hs.lines
  have hdiscounts' := h.discounts hs.discounts
  have haside (hcall : call.reckons = false) : MoneyHolds t :=
    hs.money.carried hs.lines (h.aside hcall).1 (h.aside hcall).2.2
  cases h with
  | nothing => exact hs.money
  | addOrderItem _ _ hprice =>
    refine money_lines hs.discounts hs.money ?_ fun k hk => ?_
    · simp only [lineSum_insert, newItem, if_true]
      exact hok _ hprice
    · simp only [lineSum_insert, newItem, if_neg (Ne.symm hk), add_zero]
  | updateOrderItem _ _ hitem hprice =>
    obtain ⟨hget, horder⟩ := itemOn_iff.mp hitem
    refine money_lines hs.discounts hs.money ?_ fun k hk => ?_
    · rw [lineSum_update hget rfl, if_pos horder]
      exact hok _ _ hitem hprice
    · rw [lineSum_update hget rfl, if_neg (horder ▸ Ne.symm hk), add_zero]
  | deleteOrderItem _ _ hitem =>
    obtain ⟨hget, horder⟩ := itemOn_iff.mp hitem
    refine money_lines hs.discounts hs.money ?_ fun k hk => ?_
    · rw [lineSum_erase hget, if_pos horder]
      exact hok _ hitem
    · rw [lineSum_erase hget, if_neg (horder ▸ Ne.symm hk), sub_zero]
  | advance hcall => exact haside (reckons_of_transition hcall)
  | requestDiscount | approveDiscount => exact money_recalcDiscount hdiscounts' hs.money
  | requestPending =>
    exact hs.money.carried hs.lines flagHeavyDiscount_items (flagHeavyDiscount_carried s _ _)
  | rejectDiscount => exact hs.money
  | splitItems hfind _ hfits =>
    exact money_split hs.money hs.untaxed hs.lines hlines' hfits
      (Table.lt_next (findOrder_get hfind).1)
      ⟨rfl, rfl⟩ hok.1 hok.2
  | moveItems hne _ _ _ _ hfits =>
    exact money_move hs.money hs.untaxed hs.lines hlines' hfits hne hok.1 hok.2
  | mergeOrders hne => exact money_merge hs.money hs.untaxed hs.lines hlines' hne hok
  | _ => exact haside rfl

theorem Effect.reckoned (h : Effect s call t) (hs : Reckoned s) (hok : keepsMoney s call) :
    Reckoned t :=
  ⟨h.lines hs.lines, h.untaxed hs.untaxed, h.discounts hs.discounts, h.money hs hok⟩

theorem opening_reckoned (h : System.Opening s) : Reckoned s := by
  refine ⟨?_, ?_, ?_, ?_⟩
  · intro k item hget
    rw [h.orderItems] at hget
    cases hget
  · intro k order hget
    rw [h.orders] at hget
    cases hget
  · intro k discount hget
    rw [h.discounts] at hget
    cases hget
  · intro k order hget
    rw [h.orders] at hget
    cases hget

/-- In every run whose steps keep the value of each order at its stored discount
or above, every order that is not voided has the totals of its lines. -/
theorem reach_money (hstart : System.Opening start)
    (h : System.Reach bcrypt keepsMoney start events s)
    (hget : s.orders.get? k = some order) (hlive : order.status ≠ .voided) :
    Money (s.lineSum k) order ∧ 0 ≤ order.total := by
  have hreckoned : Reckoned s := by
    refine h.invariant (opening_reckoned hstart) (fun _ _ hs => ?_) fun r call hs hok =>
      (exec_effect bcrypt r call).reckoned hs hok
    exact ⟨hs.lines.same rfl (Nat.le_refl _), hs.untaxed, hs.discounts, hs.money⟩
  have hmoney := hreckoned.money k order hget hlive
  exact ⟨hmoney, hmoney.total ▸ sub_nonneg.mpr hmoney.discount.2⟩

-- ---
-- A discount left on too few lines
-- ---

def splitOne : SplitItemsDto where
  items := [⟨0, 1, System.one_unit⟩]
  size := System.one_selection

/-- Two units at 10.00 with 15.00 off, and one of them split off. -/
def discountedSplit : List Event :=
  [⟨.orders (.createOrder 0 ⟨0, 0⟩ { serviceType := .takeaway } {}), 0⟩,
   ⟨.orders (.addOrderItem ⟨0, 0⟩ 0 { menuItemId := 0, quantity := some ⟨2, System.two_units⟩ } {}),
     0⟩,
   ⟨.discounts (.requestDiscount ⟨0, 0⟩ 0 ⟨.fixed, 1500, by decide⟩), 0⟩,
   ⟨.handoff (.splitItems ⟨0, 0⟩ 0 splitOne), 0⟩]

/-- The order left behind has a total of -5.00. -/
theorem splitItems_negative_total :
    ¬∀ (bcrypt : Bcrypt) (start : Store) (events : List Event) (s : Store)
    (k : Id) (order : Order), System.Opening start →
    System.Reach bcrypt (fun _ _ => True) start events s → s.orders.get? k = some order →
    order.status ≠ .voided → Money (s.lineSum k) order ∧ 0 ≤ order.total := by
  intro h
  let s := System.after (· == ·) System.cafe discountedSplit
  have hreach := System.reach_after (· == ·) System.cafe discountedSplit
  have hbad : (s.orders.get? 0).any (fun order => order.status == .new && order.total == -500) =
      true := by
    decide
  obtain ⟨order, hget, hrow⟩ := (Option.any_eq_true _ _).mp hbad
  simp only [Bool.and_eq_true, beq_iff_eq] at hrow
  have htotal := (h _ _ _ s 0 order System.cafe_opening hreach hget (by simp [hrow.1])).2
  rw [hrow.2] at htotal
  exact absurd htotal (by decide)

/-- One unit split off two. -/
def plainSplit : List Event :=
  [⟨.orders (.createOrder 0 ⟨0, 0⟩ { serviceType := .takeaway } {}), 0⟩,
   ⟨.orders (.addOrderItem ⟨0, 0⟩ 0 { menuItemId := 0, quantity := some ⟨2, System.two_units⟩ } {}),
     0⟩,
   ⟨.handoff (.splitItems ⟨0, 0⟩ 0 splitOne), 0⟩]

theorem reach_money_split :
    let s := System.after (· == ·) System.cafe plainSplit
    System.Reach (· == ·) keepsMoney System.cafe plainSplit s ∧
      ∃ order, s.orders.get? 0 = some order ∧ Money (s.lineSum 0) order ∧ 0 ≤ order.total := by
  intro s
  have hadd : keepsMoney ((System.after (· == ·) System.cafe (plainSplit.take 1)).tick 0)
      (.orders (.addOrderItem ⟨0, 0⟩ 0 { menuItemId := 0, quantity := some ⟨2, System.two_units⟩ }
        {})) := by
    intro pricing hprice
    have hsub : (value? (computeLinePricing ⟨0, 0⟩ 0 none 2 []
        ((System.after (· == ·) System.cafe (plainSplit.take 1)).tick 0))).map (·.subtotal) =
          some 2000 := by
      decide
    have hpriced : 2000 = pricing.subtotal :=
      Option.some.inj (hsub.symm.trans (congrArg (Option.map (·.subtotal)) hprice.value?))
    rw [← hpriced]
    decide
  have hsplit : keepsMoney ((System.after (· == ·) System.cafe (plainSplit.take 2)).tick 0)
      (.handoff (.splitItems ⟨0, 0⟩ 0 splitOne)) := ⟨by decide, by decide⟩
  have hreach : System.Reach (· == ·) keepsMoney System.cafe plainSplit s :=
    .snoc (.snoc (.snoc .nil trivial) hadd) hsplit
  have hnew : (s.orders.get? 0).any (·.status == .new) = true := by decide
  obtain ⟨order, hget, hrow⟩ := (Option.any_eq_true _ _).mp hnew
  exact ⟨hreach, order, hget,
    reach_money System.cafe_opening hreach hget (by simp [beq_iff_eq.mp hrow])⟩

end NimbusPos