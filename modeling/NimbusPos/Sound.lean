import NimbusPos.Effects
import NimbusPos.PosHandoff.Lines

/-!
# What holds in every reachable store

Orders are only ever added, and keep their branch, their number and their
creation time. Lines are priced and refer to an order; payments and intents
refer to an order of their branch; no call writes a tax.
-/

namespace NimbusPos

open Lib Lib.Service
open Lib.Table (SameRows)
open OrdersService DiscountsService PosHandoffService PaymentsService RefundsService

variable {s t : Store}

-- ---
-- Orders
-- ---

/-- The columns of an order that no call rewrites. -/
def Order.identity (order : Order) : Id × Id × String × Option Id × Time × Cents :=
  (order.orgId, order.branchId, order.orderNumber, order.splitFromOrderId, order.createdAt,
    order.tax)

/-- A number comes from the branch's newest order, or from the parent that a
call splits. -/
def Numbered (s : Store) (call : Call) (order : Order) : Prop :=
  order.orderNumber = OrdersService.generateOrderNumber s order.branchId ∨
    ∃ ctx parentId dto parent, call = .handoff (.splitItems ctx parentId dto) ∧
      s.orders.get? parentId = some parent ∧ parent.branchId = order.branchId ∧
      order.orderNumber = generateChildOrderNumber s parent.orderNumber parentId

/-- A row that `order.create` inserts. -/
structure Newborn (s : Store) (call : Call) (order : Order) : Prop where
  status : order.status = .new
  money : order.subtotal = 0 ∧ order.tax = 0 ∧ order.discount = 0 ∧ order.total = 0
  createdAt : order.createdAt = s.clock
  numbered : Numbered s call order
  free : s.numberFree order.branchId order.orderNumber

theorem updateOrder_same {data : Order → Order}
    (h : ∀ order, (data order).identity = order.identity) :
    SameRows Order.identity s.orders (s.updateOrder orderId data).orders :=
  .update fun order => h order

theorem setStatus_same : SameRows Order.identity s.orders (setStatus s orderId status).orders :=
  updateOrder_same fun _ => rfl

theorem recompute_same :
    SameRows Order.identity s.orders (recomputeAndSaveOrderTotals s orderId).orders :=
  updateOrder_same fun _ => rfl

theorem resum_same (s : Store) (a b : Id) : SameRows Order.identity s.orders (resum s a b).orders :=
  recompute_same.trans recompute_same

theorem splitStore_same :
    SameRows Order.identity (s.orders.insert child) (splitStore s a child sels).orders :=
  resum_same { s with
    orders := s.orders.insert child
    orderItems := moveSelections (s.itemOn a) s.orders.next s.orderItems sels } a s.orders.next

theorem movedStore_same : SameRows Order.identity s.orders (movedStore s a b sels).orders :=
  resum_same { s with orderItems := moveSelections (s.itemOn a) b s.orderItems sels } a b

theorem mergedStore_same : SameRows Order.identity s.orders (mergedStore s a b).orders :=
  (resum_same { s with orderItems := reparentAll b s.orderItems (s.itemsOf a) } b a).trans
    (updateOrder_same fun _ => rfl)

theorem recalcOrderTotals_same :
    SameRows Order.identity s.orders (recalcOrderTotals s orderId).orders :=
  updateOrder_same fun _ => rfl

theorem recalcOrderDiscount_same :
    SameRows Order.identity s.orders (recalcOrderDiscount s orderId).orders :=
  updateOrder_same fun _ => rfl

theorem flagHeavyDiscount_same :
    SameRows Order.identity s.orders (flagHeavyDiscount s orderId).orders := by
  rcases flagHeavyDiscount_cases s orderId with h | h
  · rw [h]
    exact .refl _
  · rw [h]
    exact updateOrder_same fun _ => rfl

theorem orders_of_books (h : t.books = s.books) : t.orders = s.orders := by
  have horders := congrArg Store.orders h
  exact horders

theorem paidStore_same :
    SameRows Order.identity s.orders (paidStore s intents payment orderId branchId).orders := by
  rcases paidStore_cases s intents payment orderId branchId with h | ⟨_, h⟩
  · rw [h]
    exact .refl _
  · rw [h]
    exact setStatus_same

theorem checkAndMark_orders : (checkAndMarkPaymentRefunded s paymentId).orders = s.orders := by
  rcases checkAndMark_cases s paymentId with h | h <;> rw [h]
  rfl

theorem insert_status {orders : Table Order} (h : order.status = .new) :
    ∀ row, (orders.insert order).get? orders.next = some row → row.status = .new := by
  intro row hrow
  rw [Table.get?_insert_self] at hrow
  exact Option.some.inj hrow ▸ h

/-- Every call keeps the orders there are, or adds one. -/
theorem Effect.orders (h : Effect s call t) :
    SameRows Order.identity s.orders t.orders ∨
      ∃ order, Newborn s call order ∧ SameRows Order.identity (s.orders.insert order) t.orders ∧
        ∀ row, t.orders.get? s.orders.next = some row → row.status = .new := by
  cases h with
  | nothing => exact .inl (.refl _)
  | createOrder hfree =>
    exact .inr ⟨_, ⟨rfl, ⟨rfl, rfl, rfl, rfl⟩, rfl, .inl rfl, hfree⟩, .refl _, insert_status rfl⟩
  | addOrderItem | updateOrderItem | deleteOrderItem => exact .inl recalcOrderTotals_same
  | advance =>
    rw [orders_of_books advanceOrder_books]
    exact .inl setStatus_same
  | close =>
    rw [orders_of_books closedOrder_books]
    exact .inl setStatus_same
  | void =>
    rw [orders_of_books voidedOrder_books]
    exact .inl setStatus_same
  | requestDiscount | approveDiscount => exact .inl recalcOrderDiscount_same
  | requestPending => exact .inl flagHeavyDiscount_same
  | rejectDiscount => exact .inl (.refl _)
  | splitItems hfind _ _ hfree =>
    obtain ⟨hget, hbranch, _⟩ := findOrder_get hfind
    refine .inr ⟨_, ⟨rfl, ⟨rfl, rfl, rfl, rfl⟩, rfl, .inr ⟨_, _, _, _, rfl, hget, hbranch, rfl⟩,
      hfree⟩, splitStore_same, fun row hrow => ?_⟩
    rw [splitStore_get, Table.get?_insert_self, Option.map_some, if_pos (.inr rfl)] at hrow
    cases hrow
    rfl
  | moveItems => exact .inl movedStore_same
  | mergeOrders => exact .inl mergedStore_same
  | transferTable => exact .inl (updateOrder_same fun _ => rfl)
  | closeOrderWithPayment =>
    refine .inl ?_
    rw [recordPayments_eq]
    exact updateOrder_same fun _ => rfl
  | createIntent => exact .inl (.refl _)
  | manualPayment => exact .inl paidStore_same
  | intentsNoted => exact .inl (.refl _)
  | webhookPaid => exact .inl paidStore_same
  | createRefund =>
    refine .inl ?_
    unfold refundedStore
    split
    · rw [checkAndMark_orders]
      exact .refl _
    · exact updateOrder_same fun _ => rfl
  | approveRefund =>
    rw [checkAndMark_orders]
    exact .inl (.refl _)
  | postCloseVoid => exact .inl setStatus_same
  | seat => exact .inl (.refl _)
  | seatWithOrder _ _ hfree =>
    exact .inr ⟨_, ⟨rfl, ⟨rfl, rfl, rfl, rfl⟩, rfl, .inl rfl, hfree⟩, .refl _, insert_status rfl⟩
  | desk hframe =>
    rw [orders_of_books (deskFrame_books hframe)]
    exact .inl (.refl _)
  | drawer hframe =>
    have horders : t.orders = s.orders := by
      have h := congrArg Store.orders hframe
      exact h
    rw [horders]
    exact .inl (.refl _)
  | editMenu => exact .inl (.refl _)

theorem Effect.orders_next (h : Effect s call t) : s.orders.next ≤ t.orders.next := by
  rcases h.orders with h | ⟨order, _, h, _⟩
  · exact Nat.le_of_eq h.2.symm
  · rw [h.2]
    exact Nat.le_succ _

/-- An order keeps its columns. -/
theorem Effect.orders_forth (h : Effect s call t) (hget : s.orders.get? k = some order) :
    ∃ order', t.orders.get? k = some order' ∧ order'.identity = order.identity := by
  rcases h.orders with h | ⟨new, _, h, _⟩
  · exact h.forth hget
  · exact h.forth (Table.get?_insert_of_some hget)

-- ---
-- Calls that leave the money of an order alone
-- ---

/-- The nine calls that recompute an order. -/
def Call.reckons : Call → Bool
  | .orders (.addOrderItem ..) => true
  | .orders (.updateOrderItem ..) => true
  | .orders (.deleteOrderItem ..) => true
  | .discounts _ => true
  | .handoff (.transferTable ..) => false
  | .handoff _ => true
  | _ => false

def Order.money (order : Order) : Cents × Cents × Cents × Cents :=
  (order.subtotal, order.tax, order.discount, order.total)

/-- An order that is not voided was not voided before, with the same money, or
is new and empty. -/
def Carried (s t : Store) : Prop :=
  ∀ k order', t.orders.get? k = some order' → order'.status ≠ .voided →
    (∃ order, s.orders.get? k = some order ∧ order.status ≠ .voided ∧ order'.money = order.money) ∨
      k = s.orders.next ∧ order'.money = (0, 0, 0, 0)

theorem Carried.refl (h : t.orders = s.orders) : Carried s t :=
  fun _ order hget hlive => .inl ⟨order, h ▸ hget, hlive, rfl⟩

theorem Carried.update {data : Order → Order} (ht : t.orders = (s.updateOrder orderId data).orders)
    (hdata : ∀ order, s.orders.get? orderId = some order → (data order).money = order.money ∧
      ((data order).status ≠ .voided → order.status ≠ .voided)) : Carried s t := by
  intro k order' hget hlive
  simp only [ht, Store.updateOrder, Table.get?_update] at hget
  split at hget
  · rename_i hk
    subst hk
    obtain ⟨order, horder, rfl⟩ := Option.map_eq_some_iff.mp hget
    obtain ⟨hmoney, hvoid⟩ := hdata order horder
    exact .inl ⟨order, horder, hvoid hlive, hmoney⟩
  · exact .inl ⟨order', hget, hlive, rfl⟩

theorem Carried.insert (hmoney : order.money = (0, 0, 0, 0))
    (ht : t.orders = s.orders.insert order) :
    Carried s t := by
  intro k order' hget hlive
  rw [ht, Table.get?_insert] at hget
  split at hget
  · rename_i hk
    cases hget
    exact .inr ⟨hk, hmoney⟩
  · exact .inl ⟨order', hget, hlive, rfl⟩

/-- A status is written over one that is not final. -/
theorem Carried.setStatus (hget : s.orders.get? orderId = some order)
    (hlive : order.status ≠ .voided)
    (ht : t.orders = (OrdersService.setStatus s orderId status).orders) : Carried s t := by
  refine .update ht fun order' hget' => ⟨rfl, fun _ => ?_⟩
  cases hget.symm.trans hget'
  exact hlive

theorem live_of_transition {status target : OrderStatus} (h : target ∈ status.validTransitions) :
    status ≠ .voided ∧ status ≠ .closed := by
  constructor <;> rintro rfl <;> simp [OrderStatus.validTransitions] at h

theorem Carried.paid (intents : Table PaymentIntent) (payment : Payment) (orderId branchId : Id) :
    Carried s (paidStore s intents payment orderId branchId) := by
  rcases paidStore_cases s intents payment orderId branchId with h | ⟨⟨order, hfind, hactive, _⟩, h⟩
  · exact h ▸ .refl rfl
  · have hlive : order.status ≠ .voided := by
      rintro hv
      simp [OrderStatus.active, hv] at hactive
    exact h ▸ .setStatus (findOrderInBranch_iff.mp hfind).1 hlive rfl

theorem ofBooks (h : t.books = s.books) :
    t.orders = s.orders ∧ t.orderItems = s.orderItems ∧ t.discounts = s.discounts := by
  have horders := congrArg Store.orders h
  have hitems := congrArg Store.orderItems h
  have hdiscounts := congrArg Store.discounts h
  exact ⟨horders, hitems, hdiscounts⟩

theorem ofDrawer (h : TillsService.drawerFrame.rel s t) :
    t.orders = s.orders ∧ t.orderItems = s.orderItems ∧ t.discounts = s.discounts := by
  have horders := congrArg Store.orders h
  have hitems := congrArg Store.orderItems h
  have hdiscounts := congrArg Store.discounts h
  exact ⟨horders, hitems, hdiscounts⟩

theorem paidStore_items : (paidStore s intents payment orderId branchId).orderItems = s.orderItems ∧
    (paidStore s intents payment orderId branchId).discounts = s.discounts := by
  obtain ⟨_, h⟩ := paidStore_rest s intents payment orderId branchId
  rw [h]
  exact ⟨rfl, rfl⟩

theorem checkAndMark_aside {r : Store}
    (h : r.orderItems = s.orderItems ∧ r.discounts = s.discounts ∧ r.orders = s.orders) :
    (checkAndMarkPaymentRefunded r paymentId).orderItems = s.orderItems ∧
      (checkAndMarkPaymentRefunded r paymentId).discounts = s.discounts ∧
      Carried s (checkAndMarkPaymentRefunded r paymentId) := by
  rcases checkAndMark_cases r paymentId with hr | hr <;> rw [hr] <;> exact ⟨h.1, h.2.1, .refl h.2.2⟩

/-- Calls other than the nine keep lines, discounts and the money of orders. -/
theorem Effect.aside (h : Effect s call t) (hcall : call.reckons = false) :
    t.orderItems = s.orderItems ∧ t.discounts = s.discounts ∧ Carried s t := by
  cases h with
  | nothing => exact ⟨rfl, rfl, .refl rfl⟩
  | createOrder => exact ⟨rfl, rfl, .insert rfl rfl⟩
  | addOrderItem | updateOrderItem | deleteOrderItem | requestDiscount | requestPending
  | approveDiscount | rejectDiscount | splitItems | moveItems | mergeOrders => cases hcall
  | advance _ hfind hvalid =>
    obtain ⟨horders, hitems, hdiscounts⟩ := ofBooks advanceOrder_books
    exact ⟨hitems, hdiscounts,
      .setStatus (findOrder_get hfind).1 (live_of_transition hvalid).1 horders⟩
  | close hfind hserved =>
    obtain ⟨horders, hitems, hdiscounts⟩ := ofBooks closedOrder_books
    exact ⟨hitems, hdiscounts, .setStatus (findOrder_get hfind).1 (by simp [hserved]) horders⟩
  | void hfind hvalid =>
    obtain ⟨horders, hitems, hdiscounts⟩ := ofBooks voidedOrder_books
    exact ⟨hitems, hdiscounts,
      .setStatus (findOrder_get hfind).1 (live_of_transition hvalid).1 horders⟩
  | transferTable => exact ⟨rfl, rfl, .update rfl fun _ _ => ⟨rfl, fun h => h⟩⟩
  | closeOrderWithPayment hfind hserved =>
    rw [recordPayments_eq]
    refine ⟨rfl, rfl, .update rfl fun order hget => ⟨rfl, fun _ => ?_⟩⟩
    cases (findOrder_get hfind).1.symm.trans hget
    simp [hserved]
  | createIntent => exact ⟨rfl, rfl, .refl rfl⟩
  | manualPayment => exact ⟨paidStore_items.1, paidStore_items.2, .paid _ _ _ _⟩
  | intentsNoted => exact ⟨rfl, rfl, .refl rfl⟩
  | webhookPaid => exact ⟨paidStore_items.1, paidStore_items.2, .paid _ _ _ _⟩
  | createRefund =>
    unfold refundedStore
    split
    · exact checkAndMark_aside ⟨rfl, rfl, rfl⟩
    · exact ⟨rfl, rfl, .update rfl fun _ _ => ⟨rfl, fun h => h⟩⟩
  | approveRefund => exact checkAndMark_aside ⟨rfl, rfl, rfl⟩
  | postCloseVoid hfind hclosed =>
    exact ⟨rfl, rfl, .setStatus (findOrder_get hfind).1 (by simp [hclosed]) rfl⟩
  | seat => exact ⟨rfl, rfl, .refl rfl⟩
  | seatWithOrder => exact ⟨rfl, rfl, .insert rfl rfl⟩
  | desk hframe =>
    obtain ⟨horders, hitems, hdiscounts⟩ := ofBooks (deskFrame_books hframe)
    exact ⟨hitems, hdiscounts, .refl horders⟩
  | drawer hframe =>
    obtain ⟨horders, hitems, hdiscounts⟩ := ofDrawer hframe
    exact ⟨hitems, hdiscounts, .refl horders⟩
  | editMenu => exact ⟨rfl, rfl, .refl rfl⟩

-- ---
-- Lines
-- ---

/-- A line is worth its price times its quantity, is not empty and belongs to
an order. -/
structure LineSound (s : Store) (item : OrderItem) : Prop where
  priced : item.subtotal = item.price * item.quantity
  quantity : 1 ≤ item.quantity
  placed : item.orderId < s.orders.next

def LinesSound (s : Store) : Prop := ∀ k item, s.orderItems.get? k = some item → LineSound s item

theorem LineSound.mono (h : LineSound s item) (hnext : s.orders.next ≤ t.orders.next) :
    LineSound t item :=
  ⟨h.priced, h.quantity, Nat.lt_of_lt_of_le h.placed hnext⟩

theorem LinesSound.same (hs : LinesSound s) (hitems : t.orderItems = s.orderItems)
    (hnext : s.orders.next ≤ t.orders.next) : LinesSound t :=
  fun k item hget => (hs k item (hitems ▸ hget)).mono hnext

theorem fate_sound (hit : LineSound s it) (hnext : s.orders.next ≤ t.orders.next)
    (htarget : targetId < t.orders.next)
    (hbounds : ∀ quantity ∈ requests, 1 ≤ quantity ∧ quantity ≤ it.quantity) :
    LineSound t (fate targetId it requests) := by
  refine ⟨?_, leftQuantity_pos hit.quantity hbounds, ?_⟩
  · simp only [fate]
    split
    · rename_i hnone
      simp [leftQuantity, List.isEmpty_iff.mp hnone, hit.priced]
    · rfl
  · simp only [fate]
    split
    · exact htarget
    · exact Nat.lt_of_lt_of_le hit.placed hnext

theorem shed_sound (htarget : targetId < t.orders.next)
    (hbounds : ∀ quantity ∈ requests, 1 ≤ quantity ∧ quantity ≤ it.quantity)
    (hrow : row ∈ shed targetId it requests) : LineSound t row := by
  obtain ⟨quantity, hq, rfl⟩ := List.mem_map.mp hrow
  exact ⟨rfl, (partials_bounds hbounds quantity hq).1, htarget⟩

/-- The selection loop makes no unsound row. -/
theorem LinesSound.moved (hs : LinesSound s) (hfits : selectionsFit s sourceId sels)
    (hmoved : Moved s.orderItems sourceId targetId sels t.orderItems)
    (hnext : s.orders.next ≤ t.orders.next) (htarget : targetId < t.orders.next) :
    LinesSound t := by
  intro k row hget
  rcases hmoved.rows k row hget with ⟨hold, _⟩ | ⟨it, hit, rfl⟩ | ⟨j, it, hit, hrow⟩
  · exact (hs k row hold).mono hnext
  · exact fate_sound (hs k it (sourceLine_iff.mp hit).1) hnext htarget (requested_bounds hfits hit)
  · exact shed_sound htarget (requested_bounds hfits hit) hrow

theorem LinesSound.reparented (hs : LinesSound s)
    (hitems : t.orderItems = reparent s.orderItems sourceId targetId)
    (hnext : s.orders.next ≤ t.orders.next) (htarget : targetId < t.orders.next) :
    LinesSound t := by
  intro k row hget
  rw [hitems, reparent, Table.get?_updateWhere, Option.map_eq_some_iff] at hget
  obtain ⟨item, hitem, rfl⟩ := hget
  have hsound := hs k item hitem
  split
  · exact ⟨hsound.priced, hsound.quantity, htarget⟩
  · exact hsound.mono hnext

/-- The loop of a split or a move, from the selections that passed validation. -/
theorem moved_of_fits (hfits : selectionsFit s sourceId sels) :
    Moved s.orderItems sourceId targetId sels
    (moveSelections (s.itemOn sourceId) targetId s.orderItems sels) :=
  moveSelections_moved s.orderItems sourceId targetId fun sel hsel => by
    obtain ⟨it, hit, _⟩ := hfits sel hsel
    exact ⟨it, hit⟩

theorem placed_of_find (hfind : s.findOrder ctx orderId = some order)
    (hnext : s.orders.next ≤ t.orders.next) : orderId < t.orders.next :=
  Nat.lt_of_lt_of_le (Table.lt_next (findOrder_get hfind).1) hnext

theorem AddOrderItemDto.orderedQuantity_pos (dto : AddOrderItemDto) : 1 ≤ dto.orderedQuantity :=
  (dto.quantity.getD ⟨1, by decide⟩).property

theorem UpdateOrderItemDto.updatedQuantity_pos (dto : UpdateOrderItemDto)
    (h : 1 ≤ existing.quantity) :
    1 ≤ dto.updatedQuantity existing := by
  unfold UpdateOrderItemDto.updatedQuantity
  cases dto.quantity with
  | none => exact h
  | some quantity => exact quantity.property

theorem flagHeavyDiscount_items : (flagHeavyDiscount s orderId).orderItems = s.orderItems := by
  obtain ⟨_, h⟩ := flagHeavyDiscount_rest s orderId
  rw [h]

theorem reckons_of_transition {call : OrdersCall} (h : call.transition = some target) :
    (Call.orders call).reckons = false := by
  cases call with
  | createOrder | addOrderItem | updateOrderItem | deleteOrderItem | voidOrder => cases h
  | _ => rfl

theorem Effect.lines (h : Effect s call t) (hs : LinesSound s) : LinesSound t := by
  have hnext := h.orders_next
  have haside (hcall : call.reckons = false) : LinesSound t := hs.same (h.aside hcall).1 hnext
  cases h with
  | nothing => exact hs
  | addOrderItem hfind _ hprice =>
    intro k item hget
    have hget : (s.orderItems.insert _).get? k = some item := hget
    rcases Table.insert_cases hget with ⟨-, rfl⟩ | hget
    · exact ⟨computeLinePricing_subtotal hprice, AddOrderItemDto.orderedQuantity_pos _,
        placed_of_find hfind hnext⟩
    · exact (hs k item hget).mono hnext
  | updateOrderItem hfind _ hitem hprice =>
    intro k item hget
    have hget : (s.orderItems.update _ _).get? k = some item := hget
    rcases Table.update_cases hget with ⟨-, item, hold, rfl⟩ | ⟨-, hget⟩
    · have hexisting := hs _ _ (itemOn_iff.mp hitem).1
      exact ⟨computeLinePricing_subtotal hprice,
        UpdateOrderItemDto.updatedQuantity_pos _ hexisting.quantity, (hs k item hold).placed⟩
    · exact (hs k item hget).mono hnext
  | deleteOrderItem =>
    intro k item hget
    have hget : (s.orderItems.erase _).get? k = some item := hget
    rw [Table.get?_erase] at hget
    split at hget
    · cases hget
    · exact (hs k item hget).mono hnext
  | requestDiscount | approveDiscount | rejectDiscount => exact hs.same rfl hnext
  | requestPending => exact hs.same flagHeavyDiscount_items hnext
  | splitItems _ _ hfits => exact hs.moved hfits (moved_of_fits hfits) hnext (Nat.lt_succ_self _)
  | moveItems _ _ _ htarget _ hfits =>
    exact hs.moved hfits (moved_of_fits hfits) hnext (placed_of_find htarget hnext)
  | mergeOrders _ _ _ htarget =>
    exact hs.reparented (reparentAll_eq s _ _) hnext (placed_of_find htarget hnext)
  | advance hcall => exact haside (reckons_of_transition hcall)
  | _ => exact haside rfl

/-- The sum of the subtotals is the value that the handoff recomputes. -/
theorem lineSum_eq (hs : LinesSound s) (orderId : Id) :
    s.lineSum orderId = lineValue s.orderItems orderId := by
  rw [Store.lineSum, Table.sumWhere_eq_total, lineValue_eq]
  apply Table.total_congr
  intro k item hget
  simp only [worthOn, beq_iff_eq, (hs k item hget).priced]

/-- No line names an order before it exists. -/
theorem lineValue_next (hs : LinesSound s) : lineValue s.orderItems s.orders.next = 0 := by
  rw [lineValue_eq]
  apply Table.total_zero
  intro k item hget
  exact if_neg (Nat.ne_of_lt (hs k item hget).placed)

theorem reach_lines (hstart : System.Opening start) (h : System.Reach bcrypt ok start events s) :
    LinesSound s := by
  refine h.invariant ?_ (fun _ _ hs => hs.same rfl (Nat.le_refl _)) fun _ call hs _ =>
    (exec_effect bcrypt _ call).lines hs
  intro k item hget
  rw [hstart.orderItems] at hget
  cases hget

-- ---
-- Payments
-- ---

/-- The order exists, in the branch. -/
def Belongs (s : Store) (orderId branchId : Id) : Prop :=
  ∃ order, s.orders.get? orderId = some order ∧ order.branchId = branchId

/-- What a call does to the payments: nothing, recording completed ones, or,
if it is about a refund, marking some as refunded. -/
inductive Collects (s : Store) : Call → Table Payment → Prop
  | same : Collects s call s.payments
  | refunded (request : RefundRequest) (p : Id → Payment → Bool) :
      Collects s (.refunds request)
        (s.payments.updateWhere p fun payment => { payment with status := .refunded })
  | taken (new : List Payment)
      (h : ∀ payment ∈ new, Belongs s payment.orderId payment.branchId ∧
        payment.status = .completed) :
      Collects s call (new.foldl Table.insert s.payments)

def IntentsBelong (s : Store) : Prop :=
  ∀ k intent, s.paymentIntents.get? k = some intent → Belongs s intent.orderId intent.branchId

theorem Belongs.forth (h : Effect s call t) (hs : Belongs s orderId branchId) :
    Belongs t orderId branchId := by
  obtain ⟨order, hget, hbranch⟩ := hs
  obtain ⟨order', hget', hsame⟩ := h.orders_forth hget
  simp only [Order.identity, Prod.mk.injEq] at hsame
  exact ⟨order', hget', hsame.2.1.trans hbranch⟩

theorem belongs_of_find (h : s.findOrder ctx orderId = some order) :
    Belongs s orderId ctx.branchId :=
  ⟨order, (findOrder_get h).1, (findOrder_get h).2.1⟩

theorem Belongs.lt_next (h : Belongs s orderId branchId) : orderId < s.orders.next := by
  obtain ⟨order, hget, _⟩ := h
  exact Table.lt_next hget

theorem paidStore_payments :
    (paidStore s intents payment orderId branchId).payments = s.payments.insert payment ∧
      (paidStore s intents payment orderId branchId).paymentIntents = intents := by
  obtain ⟨_, h⟩ := paidStore_rest s intents payment orderId branchId
  rw [h]
  exact ⟨rfl, rfl⟩

theorem checkAndMark_payments {r : Store} (hr : r.payments = s.payments) :
    Collects s (.refunds request) (checkAndMarkPaymentRefunded r paymentId).payments := by
  rcases checkAndMark_cases r paymentId with h | h
  · rw [h, hr]
    exact .same
  · rw [h, markRefunded, hr]
    exact .refunded _ fun k _ => k == paymentId

theorem flagHeavyDiscount_payments : (flagHeavyDiscount s orderId).payments = s.payments ∧
    (flagHeavyDiscount s orderId).paymentIntents = s.paymentIntents := by
  obtain ⟨_, h⟩ := flagHeavyDiscount_rest s orderId
  rw [h]
  exact ⟨rfl, rfl⟩

theorem checkAndMark_intents :
    (checkAndMarkPaymentRefunded s paymentId).paymentIntents = s.paymentIntents := by
  rcases checkAndMark_cases s paymentId with h | h <;> rw [h]
  rfl

theorem payments_of_books (h : t.books = s.books) :
    t.payments = s.payments ∧ t.paymentIntents = s.paymentIntents := by
  have hpayments := congrArg Store.payments h
  have hintents := congrArg Store.paymentIntents h
  exact ⟨hpayments, hintents⟩

theorem Effect.payments (h : Effect s call t) (hs : IntentsBelong s) : Collects s call t.payments :=
  by
  cases h with
  | advance =>
    rw [(payments_of_books advanceOrder_books).1]
    exact .same
  | close =>
    rw [(payments_of_books closedOrder_books).1]
    exact .same
  | void =>
    rw [(payments_of_books voidedOrder_books).1]
    exact .same
  | requestPending =>
    rw [flagHeavyDiscount_payments.1]
    exact .same
  | closeOrderWithPayment hfind =>
    rw [recordPayments_eq]
    refine .taken _ fun payment hmem => ?_
    obtain ⟨p, _, rfl⟩ := List.mem_map.mp hmem
    exact ⟨belongs_of_find hfind, rfl⟩
  | manualPayment horder =>
    rw [paidStore_payments.1]
    refine .taken [_] fun payment hmem => ?_
    cases List.mem_singleton.mp hmem
    exact ⟨belongs_of_find horder, rfl⟩
  | webhookPaid _ hresolve =>
    refine paidStore_payments.1 ▸ .taken [_] fun payment hmem => ?_
    cases List.mem_singleton.mp hmem
    exact ⟨hs _ _ (resolveIntent_get hresolve), rfl⟩
  | createRefund =>
    unfold refundedStore
    split
    · exact checkAndMark_payments rfl
    · exact .same
  | approveRefund => exact checkAndMark_payments rfl
  | postCloseVoid => exact .refunded _ _
  | desk hframe =>
    rw [(payments_of_books (deskFrame_books hframe)).1]
    exact .same
  | drawer hframe =>
    have hpayments := congrArg Store.payments hframe
    have hsame : t.payments = s.payments := hpayments
    rw [hsame]
    exact .same
  | _ => exact .same

/-- Payments are completed or refunded, and payments and intents refer to an
order of their branch. -/
structure Billed (s : Store) : Prop where
  payments : ∀ k payment, s.payments.get? k = some payment →
    Belongs s payment.orderId payment.branchId
  settled : ∀ k payment, s.payments.get? k = some payment →
    payment.status = .completed ∨ payment.status = .refunded
  intents : IntentsBelong s

/-- A payment after a call was there before, perhaps not yet refunded, or has
just been recorded. -/
theorem Collects.back (h : Collects s call payments) (hget : payments.get? k = some payment) :
    (∃ old, s.payments.get? k = some old ∧ payment.orderId = old.orderId ∧
      payment.branchId = old.branchId ∧
        (payment.status = old.status ∨ payment.status = .refunded)) ∨
    Belongs s payment.orderId payment.branchId ∧ payment.status = .completed := by
  cases h with
  | same => exact .inl ⟨payment, hget, rfl, rfl, .inl rfl⟩
  | refunded _ p =>
    rw [Table.get?_updateWhere, Option.map_eq_some_iff] at hget
    obtain ⟨old, hold, rfl⟩ := hget
    refine .inl ⟨old, hold, ?_⟩
    split
    · exact ⟨rfl, rfl, .inr rfl⟩
    · exact ⟨rfl, rfl, .inl rfl⟩
  | taken new hnew =>
    rcases Table.get?_foldl_insert hget with hold | hmem
    · exact .inl ⟨payment, hold, rfl, rfl, .inl rfl⟩
    · exact .inr (hnew payment hmem)

theorem Effect.intents (h : Effect s call t) (hs : IntentsBelong s) : IntentsBelong t := by
  have hkeep (hsame : SameIntents s t.paymentIntents) : IntentsBelong t := by
    intro k intent' hget
    obtain ⟨intent, hintent, horder, hbranch, _⟩ := hsame k intent' hget
    exact horder ▸ hbranch ▸ (hs k intent hintent).forth h
  have hsame (heq : t.paymentIntents = s.paymentIntents) : IntentsBelong t := hkeep (heq ▸ .refl s)
  cases h with
  | advance => exact hsame (payments_of_books advanceOrder_books).2
  | close => exact hsame (payments_of_books closedOrder_books).2
  | void => exact hsame (payments_of_books voidedOrder_books).2
  | requestPending => exact hsame flagHeavyDiscount_payments.2
  | closeOrderWithPayment =>
    refine hsame ?_
    rw [recordPayments_eq]
    rfl
  | createIntent horder hfor =>
    intro k intent' hget
    have hget : (s.paymentIntents.insert _).get? k = some intent' := hget
    rcases Table.insert_cases hget with ⟨-, rfl⟩ | hget
    · rw [hfor.1, hfor.2.1]
      exact belongs_of_find horder
    · exact hs k intent' hget
  | manualPayment => exact hsame paidStore_payments.2
  | intentsNoted hintents => exact hkeep hintents
  | webhookPaid _ _ _ _ hintents => exact hkeep (paidStore_payments.2 ▸ hintents)
  | createRefund =>
    refine hsame ?_
    unfold refundedStore
    split
    · exact checkAndMark_intents
    · rfl
  | approveRefund => exact hsame checkAndMark_intents
  | desk hframe => exact hsame (payments_of_books (deskFrame_books hframe)).2
  | drawer hframe =>
    have hintents := congrArg Store.paymentIntents hframe
    exact hsame hintents
  | _ => exact hsame rfl

theorem Effect.billed (h : Effect s call t) (hs : Billed s) : Billed t := by
  have hback {k payment} (hget : t.payments.get? k = some payment) :=
    (h.payments hs.intents).back hget
  refine ⟨?_, ?_, h.intents hs.intents⟩
  · intro k payment hget
    obtain ⟨old, hold, horder, hbranch, _⟩ | ⟨hbelongs, _⟩ := hback hget
    · exact horder ▸ hbranch ▸ (hs.payments k old hold).forth h
    · exact hbelongs.forth h
  · intro k payment hget
    obtain ⟨old, hold, _, _, hstatus | hstatus⟩ | ⟨_, hstatus⟩ := hback hget
    · exact hstatus ▸ hs.settled k old hold
    · exact .inr hstatus
    · exact .inl hstatus

theorem opening_billed (h : System.Opening s) : Billed s := by
  refine ⟨?_, ?_, ?_⟩
  · intro k payment hget
    rw [h.payments] at hget
    cases hget
  · intro k payment hget
    rw [h.payments] at hget
    cases hget
  · intro k intent hget
    rw [h.paymentIntents] at hget
    cases hget

theorem Billed.tick (hs : Billed s) (wait : Nat) : Billed (s.tick wait) :=
  ⟨hs.payments, hs.settled, hs.intents⟩

theorem reach_billed (hstart : System.Opening start) (h : System.Reach bcrypt ok start events s) :
    Billed s :=
  h.invariant (opening_billed hstart) (fun _ wait hs => hs.tick wait) fun _ call hs _ =>
    (exec_effect bcrypt _ call).billed hs

end NimbusPos
