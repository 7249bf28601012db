import NimbusPos.OrderMoney

/-!
# The auto-approval threshold

A discount is approved at once when what it takes off the order of the moment is not
above the organisation's threshold. A fixed amount stays there; a percentage is taken
again of every later subtotal, and stays there as long as the lines do not outgrow it.
-/

namespace NimbusPos

open Lib Lib.Service
open OrdersService DiscountsService

namespace DiscountThreshold

/-- The calls that edit an order's lines or ask for a discount. -/
def edits : Call → Bool
  | .orders (.addOrderItem ..) | .orders (.updateOrderItem ..) | .orders (.deleteOrderItem ..)
  | .discounts (.requestDiscount ..) => true
  | _ => false

/-- An approved percentage, taken of the subtotal and rounded to cents, is not above the
threshold of its organisation. -/
def withinThreshold (s : Store) (orderId : Id) (subtotal : Cents) : Prop :=
  ∀ row ∈ s.approvedDiscount orderId, row.2.type = .percentage →
    2 * (subtotal * row.2.value) < (2 * s.approvalThreshold row.2.orgId + 1) * 10000

/-- The lines that a call leaves on its order do not outgrow the percentage approved for
it. -/
def linesWithin (s : Store) : Call → Prop
  | .orders (.addOrderItem ctx orderId dto _) => ∀ pricing,
    Returns (computeLinePricing ctx dto.menuItemId dto.menuItemServingId dto.orderedQuantity
      dto.metadata) s pricing → withinThreshold s orderId (s.lineSum orderId + pricing.subtotal)
  | .orders (.updateOrderItem ctx orderId itemId dto _) => ∀ existing pricing,
    s.itemOn orderId itemId = some existing →
    Returns (computeLinePricing ctx existing.menuItemId existing.menuItemServingId
      (dto.updatedQuantity existing) (dto.metadata.getD existing.metadata)) s pricing →
    withinThreshold s orderId (s.lineSum orderId + (pricing.subtotal - existing.subtotal))
  | .orders (.deleteOrderItem _ orderId itemId _) => ∀ existing,
    s.itemOn orderId itemId = some existing →
    withinThreshold s orderId (s.lineSum orderId - existing.subtotal)
  | _ => True

/-- No discount takes more off an order than its organisation's threshold. -/
def Within (s : Store) : Prop :=
  ∀ k order, s.orders.get? k = some order → order.discount ≤ s.approvalThreshold order.orgId

/-- A store in which no discount is approved yet, and none is taken off. -/
structure Undiscounted (s : Store) : Prop where
  none_approved : ∀ k row, s.discounts.get? k = some row → row.status ≠ .approved
  nothing_off : ∀ k order, s.orders.get? k = some order → order.discount = 0
  threshold : ∀ orgId, 0 ≤ s.approvalThreshold orgId

/-- What the approval of a discount without a manager leaves on its row. -/
structure AutoApproved (s : Store) (row : Discount) : Prop where
  time : row.approvedAt.getD 0 ≤ s.clock
  fixed : row.type = .fixed → row.value ≤ s.approvalThreshold row.orgId
  org : ∀ order, s.orders.get? row.orderId = some order → order.orgId = row.orgId

structure Inv (s : Store) : Prop where
  threshold : ∀ orgId, 0 ≤ s.approvalThreshold orgId
  approved : ∀ k row, s.discounts.get? k = some row → row.status = .approved → AutoApproved s row
  within : Within s

variable {s t : Store}

theorem Undiscounted.inv (h : Undiscounted s) : Inv s where
  threshold := h.threshold
  approved k row hget happroved := absurd happroved (h.none_approved k row hget)
  within k order hget := h.nothing_off k order hget ▸ h.threshold order.orgId

theorem Inv.tick (h : Inv s) (wait : Nat) : Inv (s.tick wait) where
  threshold := h.threshold
  approved k row hget happroved :=
    have hrow := h.approved k row hget happroved
    ⟨hrow.time.trans (Nat.le_of_lt (tick_clock s wait)), hrow.fixed, hrow.org⟩
  within := h.within

theorem approvedDiscount_some (h : s.approvedDiscount orderId = some (k, row)) :
    s.discounts.get? k = some row ∧ row.orderId = orderId ∧ row.status = .approved := by
  obtain ⟨hget, hrow, -⟩ := Table.findLatest_some h
  simp only [Bool.and_eq_true, beq_iff_eq] at hrow
  exact ⟨hget, hrow.1, hrow.2⟩

/-- What the approved discount takes off a subtotal that it is not outgrown by. -/
theorem Inv.amount (h : Inv s) (hget : s.orders.get? orderId = some order)
    (hwithin : withinThreshold s orderId subtotal) :
    s.approvedAmount orderId subtotal ≤ s.approvalThreshold order.orgId := by
  unfold Store.approvedAmount
  cases hlatest : s.approvedDiscount orderId with
  | none => exact h.threshold order.orgId
  | some row =>
    obtain ⟨hrow, horder, happroved⟩ := approvedDiscount_some hlatest
    have hauto := h.approved row.1 row.2 hrow happroved
    have horg : order.orgId = row.2.orgId := hauto.org order (horder ▸ hget)
    dsimp only
    unfold discountAmount
    cases htype : row.2.type with
    | percentage =>
      exact (roundHalfUp_le_iff (by decide) (h.threshold order.orgId)).mpr
        (horg ▸ hwithin row hlatest htype)
    | fixed => exact (min_le_left _ _).trans (horg ▸ hauto.fixed htype)

/-- The orders after one of them was rewritten, its discount within the threshold. -/
theorem Inv.rewrites (h : Inv s) {data : Order → Order} (hdiscounts : t.discounts = s.discounts)
    (hsettings : t.orgSettings = s.orgSettings) (hclock : t.clock = s.clock)
    (horders : t.orders = (s.updateOrder orderId data).orders)
    (hdata : ∀ order, s.orders.get? orderId = some order → (data order).orgId = order.orgId ∧
      (data order).discount ≤ s.approvalThreshold order.orgId) : Inv t := by
  have hthreshold : ∀ orgId, t.approvalThreshold orgId = s.approvalThreshold orgId := by
    intro orgId
    simp only [Store.approvalThreshold, hsettings]
  have hback : ∀ k order', t.orders.get? k = some order' → ∃ order,
      s.orders.get? k = some order ∧ order'.orgId = order.orgId ∧
        order'.discount ≤ s.approvalThreshold order.orgId := by
    intro k order' hget
    rw [horders, updateOrder_get] at hget
    split at hget
    · rename_i hk
      subst hk
      obtain ⟨order, horder, rfl⟩ := Option.map_eq_some_iff.mp hget
      exact ⟨order, horder, hdata order horder⟩
    · exact ⟨order', hget, rfl, h.within k order' hget⟩
  refine ⟨fun orgId => hthreshold orgId ▸ h.threshold orgId, fun k row hget happroved => ?_,
    fun k order' hget => ?_⟩
  · have hauto := h.approved k row (hdiscounts ▸ hget) happroved
    refine ⟨hclock ▸ hauto.time, fun hfixed => hthreshold _ ▸ hauto.fixed hfixed,
      fun order' horder' => ?_⟩
    obtain ⟨order, horder, horg, -⟩ := hback _ order' horder'
    exact horg.trans (hauto.org order horder)
  · obtain ⟨order, -, horg, hle⟩ := hback k order' hget
    rw [hthreshold, horg]
    exact hle

/-- Lines change, and the totals of their order are recomputed. -/
theorem Inv.lines (h : Inv s) {items : Table OrderItem}
    (hwithin : withinThreshold s orderId ({ s with orderItems := items }.lineSum orderId)) :
    Inv (recalcOrderTotals { s with orderItems := items } orderId) :=
  h.rewrites rfl rfl rfl rfl fun _ hget => ⟨rfl, h.amount hget hwithin⟩

/-- A new row in the discount table. -/
theorem Inv.requested (h : Inv s) {row : Discount}
    (hrow : row.status = .approved → AutoApproved s row) :
    Inv { s with discounts := s.discounts.insert row } where
  threshold := h.threshold
  approved k old hget happroved := by
    rcases Table.insert_cases hget with ⟨-, rfl⟩ | hget
    · have hauto := hrow happroved
      exact ⟨hauto.time, hauto.fixed, hauto.org⟩
    · have hauto := h.approved k old hget happroved
      exact ⟨hauto.time, hauto.fixed, hauto.org⟩
  within := h.within

/-- The row that was just approved is the one in force. -/
theorem Inv.newest (h : Inv s) (ctx : BranchContext) (orderId : Id) (dto : RequestDiscountDto) :
    Store.approvedDiscount
      { s with discounts := s.discounts.insert (requestedDiscount s ctx orderId dto true) }
        orderId =
      some (s.discounts.next, requestedDiscount s ctx orderId dto true) := by
  refine Table.findLatest_insert (by simp [requestedDiscount]) fun k row hget hrow => ?_
  simp only [Bool.and_eq_true, beq_iff_eq] at hrow
  exact (h.approved k row hget hrow.2).time

theorem autoApproves_le (orderId : Id) (horg : order.orgId = ctx.organizationId)
    (happroves : autoApproves s ctx order dto = true) :
    discountAmount order.subtotal (requestedDiscount s ctx orderId dto true) ≤
        s.approvalThreshold order.orgId ∧
      (dto.type = .fixed → dto.value ≤ s.approvalThreshold ctx.organizationId) := by
  unfold autoApproves at happroves
  rw [horg]
  cases htype : dto.type with
  | fixed =>
    simp only [htype, decide_eq_true_eq] at happroves
    simp only [discountAmount, requestedDiscount, htype]
    exact ⟨(min_le_left _ _).trans happroves, fun _ => happroves⟩
  | percentage =>
    simp only [htype, decide_eq_true_eq] at happroves
    simp only [discountAmount, requestedDiscount, htype]
    exact ⟨happroves, fun hno => by cases hno⟩

theorem flagHeavyDiscount_inv (h : Inv s) (orderId : Id) : Inv (flagHeavyDiscount s orderId) := by
  rcases flagHeavyDiscount_cases s orderId with heq | heq <;> rw [heq]
  · exact h
  · exact h.rewrites rfl rfl rfl rfl fun order hget => ⟨rfl, h.within orderId order hget⟩

theorem edits_reckons (h : edits call = true) : call.reckons = true := by
  unfold edits at h
  split at h
  · rfl
  · rfl
  · rfl
  · rfl
  · cases h

theorem Inv.effect (h : Inv s) (heffect : Effect s call t) (hedits : edits call = true)
    (hlines : linesWithin s call) : Inv t := by
  cases heffect with
  | nothing => exact h
  | addOrderItem _ _ hprice =>
    refine h.lines ?_
    simp only [lineSum_insert, newItem, if_true]
    exact hlines _ hprice
  | updateOrderItem _ _ hitem hprice =>
    obtain ⟨hget, horder⟩ := itemOn_iff.mp hitem
    refine h.lines ?_
    rw [lineSum_update hget rfl, if_pos horder]
    exact hlines _ _ hitem hprice
  | deleteOrderItem _ _ hitem =>
    obtain ⟨hget, horder⟩ := itemOn_iff.mp hitem
    refine h.lines ?_
    rw [lineSum_erase hget, if_pos horder]
    exact hlines _ hitem
  | @requestDiscount ctx orderId order dto hfind _ _ happroves =>
    obtain ⟨hget, -, horg⟩ := findOrder_get hfind
    obtain ⟨hle, hfixed⟩ := autoApproves_le orderId horg happroves
    let row := requestedDiscount s ctx orderId dto true
    have hrequested : Inv { s with discounts := s.discounts.insert row } := h.requested fun _ =>
      ⟨Nat.le_refl _, hfixed, fun order' hget' => by
        cases hget.symm.trans hget'
        exact horg⟩
    refine hrequested.rewrites rfl rfl rfl rfl fun order' hget' => ⟨rfl, ?_⟩
    cases hget.symm.trans hget'
    simp only [Store.approvedAmount, h.newest]
    exact hle
  | requestPending =>
    exact flagHeavyDiscount_inv (h.requested fun happroved => by cases happroved) _
  | advance hcall => cases (edits_reckons hedits).symm.trans (reckons_of_transition hcall)
  | _ => cases hedits

/-- While no call lets the lines of an order outgrow its approved percentage, no
threshold is passed. -/
theorem reach_within (bcrypt : Bcrypt) (hstart : Undiscounted start)
    (h : System.Reach bcrypt (fun s call => edits call = true ∧ linesWithin s call) start events
      s) :
    Within s := by
  have hinv : Inv s := h.invariant hstart.inv (fun _ wait hr => hr.tick wait) fun r call hr hok =>
    hr.effect (exec_effect bcrypt r call) hok.1 hok.2
  exact hinv.within

-- ---
-- Half off, and more lines
-- ---

/-- The menu item at 10.00 and an open order without lines. -/
def openOrder : Store :=
  { System.cafe with
    orders := Table.empty.insert
      { orgId := 0, branchId := 0, tableId := none, userId := 0, orderNumber := "ORD-0001"
        serviceType := .takeaway, createdAt := 0, updatedAt := 0 } }

theorem openOrder_undiscounted : Undiscounted openOrder where
  none_approved k row hget := by cases hget
  nothing_off k order hget := by
    simp only [openOrder, Table.get?_insert] at hget
    split at hget
    · cases hget
      rfl
    · cases hget
  threshold _ := Int.natCast_nonneg 500000

def addsDishes (quantity : Quantity) : Event :=
  ⟨.orders (.addOrderItem ⟨0, 0⟩ 0 { menuItemId := 0, quantity := some quantity } {}), 0⟩

theorem half_pos : (1 : Int) ≤ 5000 := by decide

/-- Half of 10.00, under the default threshold of 5000.00. -/
def halfOff : List Event :=
  [addsDishes ⟨1, System.one_unit⟩,
    ⟨.discounts (.requestDiscount ⟨0, 0⟩ 0 ⟨.percentage, 5000, half_pos⟩), 0⟩]

/-- The same half of 20010.00, with no approval in between. -/
theorem halfOff_outgrown :
    ¬∀ (bcrypt : Bcrypt) (start : Store) (events : List Event), Undiscounted start →
      (∀ e ∈ events, edits e.call = true) → Within (System.after bcrypt start events) := by
  intro h
  let events := halfOff ++ [addsDishes ⟨2000, by decide⟩]
  have hwithin := h (· == ·) openOrder events openOrder_undiscounted (by decide)
  have hbad : ((System.after (· == ·) openOrder events).orders.get? 0).any (fun order =>
      decide ((System.after (· == ·) openOrder events).approvalThreshold order.orgId <
        order.discount)) = true := by
    decide
  obtain ⟨order, hget, hlt⟩ := (Option.any_eq_true _ _).mp hbad
  exact absurd (hwithin 0 order hget) (Int.not_le.mpr (of_decide_eq_true hlt))

theorem reach_within_twoDishes :
    let events := halfOff ++ [addsDishes ⟨1, System.one_unit⟩]
    let s := System.after (· == ·) openOrder events
    System.Reach (· == ·) (fun s call => edits call = true ∧ linesWithin s call) openOrder events
      s ∧
      (s.orders.get? 0).map (·.discount) = some 1000 ∧ Within s := by
  intro events s
  have hadd : linesWithin ((System.after (· == ·) openOrder halfOff).tick 0)
      (addsDishes ⟨1, System.one_unit⟩).call := by
    intro pricing hprice row hrow _
    have hsub : (value? (computeLinePricing ⟨0, 0⟩ 0 none 1 []
        ((System.after (· == ·) openOrder halfOff).tick 0))).map (·.subtotal) = some 1000 := by
      decide
    have hpriced : 1000 = pricing.subtotal :=
      Option.some.inj (hsub.symm.trans (congrArg (Option.map (·.subtotal)) hprice.value?))
    have hvalue : (((System.after (· == ·) openOrder halfOff).tick 0).approvedDiscount 0).map
        (·.2.value) = some 5000 := by
      decide
    rw [hrow] at hvalue
    have hhalf : row.2.value = 5000 := Option.some.inj hvalue
    have hthreshold : ((System.after (· == ·) openOrder halfOff).tick 0).approvalThreshold
        row.2.orgId = 500000 := rfl
    rw [← hpriced, hhalf, hthreshold]
    decide
  have hfirst : linesWithin (openOrder.tick 0) (addsDishes ⟨1, System.one_unit⟩).call := by
    intro pricing _ row hrow
    cases hrow
  have hreach : System.Reach (· == ·) (fun s call => edits call = true ∧ linesWithin s call)
      openOrder events s :=
    .snoc (.snoc (.snoc .nil ⟨rfl, hfirst⟩) ⟨rfl, trivial⟩) ⟨rfl, hadd⟩
  exact ⟨hreach, by decide, reach_within (· == ·) openOrder_undiscounted hreach⟩

end DiscountThreshold
end NimbusPos
