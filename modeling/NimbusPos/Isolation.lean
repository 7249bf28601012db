import NimbusPos.OrderPayments
import NimbusPos.Writes

/-!
# Branches do not touch one another

Calls made in other branches, and callbacks for intents of other branches, leave every row
of a branch as it is. That needs more than the guards of the calls: approving a discount or
a refund rewrites the order or the payment that its row names, so the rows of a reachable
store have to name rows of their own branch. The tables of the floor are not among them:
`createOrder` takes a table of any branch.
-/

namespace NimbusPos

open Lib Lib.Service
open Lib.Table (AgreeOn)
open OrdersService DiscountsService PosHandoffService PaymentsService RefundsService
open ReservationsService

-- ---
-- Where a call is made
-- ---

def OrdersCall.ctx : OrdersCall → BranchContext
  | .createOrder _ ctx _ _ | .addOrderItem ctx _ _ _ | .updateOrderItem ctx _ _ _ _
  | .deleteOrderItem ctx _ _ _ | .sendOrder ctx _ _ | .markInKitchen ctx _ _ | .markReady ctx _ _
  | .markServed ctx _ _ | .closeOrder ctx _ _ | .voidOrder ctx _ _ _ => ctx

def DiscountsCall.ctx : DiscountsCall → BranchContext
  | .requestDiscount ctx _ _ | .approveDiscount _ ctx _ _ | .rejectDiscount ctx _ => ctx

def HandoffCall.ctx : HandoffCall → BranchContext
  | .splitItems ctx _ _ | .moveItems ctx _ _ | .mergeOrders ctx _ | .transferTable ctx _ _ => ctx

/-- A webhook carries no context. -/
def PaymentsCall.ctx? : PaymentsCall → Option BranchContext
  | .closeOrderWithPayment ctx _ _ | .createPaymentIntent ctx _ _ _ | .cancelPaymentIntent ctx _
  | .createManualReferencePayment ctx _ => some ctx
  | .processWebhook _ => none

def RefundsService.RefundRequest.ctx : RefundRequest → BranchContext
  | .createRefund ctx _ _ | .approveRefund _ ctx _ _ | .postCloseVoid _ ctx _ _ => ctx

def DrawerCall.ctx : DrawerCall → BranchContext
  | .openShift _ ctx | .closeShift _ ctx | .openTill _ ctx _ | .safeDrop _ ctx _
  | .reconcileTill _ ctx _ => ctx

def Call.ctx? : Call → Option BranchContext
  | .orders call => some call.ctx
  | .discounts call => some call.ctx
  | .handoff call => some call.ctx
  | .payments call => call.ctx?
  | .refunds call => some call.ctx
  | .reservations call => some call.ctx
  | .drawer call => some call.ctx
  | .editMenu _ => none

/-- The call is made in another branch, or is a callback for an intent of another one. -/
structure Elsewhere (b : Id) (s : Store) (call : Call) : Prop where
  ctx : ∀ ctx, call.ctx? = some ctx → ctx.branchId ≠ b
  intent : ∀ d e k intent, call = .payments (.processWebhook d) → d.externalId = some e →
    resolveIntent s d e = some (k, intent) → intent.branchId ≠ b

theorem transition_ctx {call : OrdersCall} (h : call.transition = some (ctx, orderId, target)) :
    call.ctx = ctx := by
  cases call with
  | sendOrder | markInKitchen | markReady | markServed | closeOrder => exact (congrArg
      (fun triple => (triple.map Prod.fst).getD ctx) h)
  | _ => cases h

/-- The rows of a branch are the same in both stores. -/
structure SameBranch (b : Id) (s t : Store) : Prop where
  orders : AgreeOn (fun _ row => row.branchId = b) s.orders t.orders
  orderItems : AgreeOn (fun _ row => Belongs s row.orderId b) s.orderItems t.orderItems
  discounts : AgreeOn (fun _ row => row.branchId = b) s.discounts t.discounts
  payments : AgreeOn (fun _ row => row.branchId = b) s.payments t.payments
  paymentIntents : AgreeOn (fun _ row => row.branchId = b) s.paymentIntents t.paymentIntents
  refunds : AgreeOn (fun _ row => row.branchId = b) s.refunds t.refunds
  reservations : AgreeOn (fun _ row => row.branchId = b) s.reservations t.reservations
  shifts : AgreeOn (fun _ row => row.branchId = b) s.shifts t.shifts
  tillSessions : AgreeOn (fun _ row => row.branchId = b) s.tillSessions t.tillSessions
  cashMovements : AgreeOn (fun _ row => row.branchId = b) s.cashMovements t.cashMovements

variable {s t : Store} {call : Call} {b : Id}

theorem SameBranch.refl (b : Id) (s : Store) : SameBranch b s s :=
  ⟨.refl _, .refl _, .refl _, .refl _, .refl _, .refl _, .refl _, .refl _, .refl _, .refl _⟩

theorem belongs_iff_of_agree
    (h : AgreeOn (fun _ row => row.branchId = b) s.orders t.orders) :
    Belongs s orderId b ↔ Belongs t orderId b :=
  exists_congr fun _ => and_congr_left fun hbranch => h orderId _ hbranch

theorem SameBranch.trans (h : SameBranch b s t) (h' : SameBranch b t u) : SameBranch b s u where
  orders := h.orders.trans h'.orders
  orderItems := h.orderItems.trans
    (h'.orderItems.mono fun _ _ hrow => (belongs_iff_of_agree h.orders).mp hrow)
  discounts := h.discounts.trans h'.discounts
  payments := h.payments.trans h'.payments
  paymentIntents := h.paymentIntents.trans h'.paymentIntents
  refunds := h.refunds.trans h'.refunds
  reservations := h.reservations.trans h'.reservations
  shifts := h.shifts.trans h'.shifts
  tillSessions := h.tillSessions.trans h'.tillSessions
  cashMovements := h.cashMovements.trans h'.cashMovements

-- ---
-- Rows name rows of their branch
-- ---

def DiscountsBelong (s : Store) : Prop :=
  ∀ k row, s.discounts.get? k = some row → Belongs s row.orderId row.branchId

/-- What a call makes of the discounts of any store. -/
theorem Effect.discountsBelong (h : Effect s call t) (hs : DiscountsBelong s) :
    DiscountsBelong t := by
  have hsame (heq : t.discounts = s.discounts) : DiscountsBelong t :=
    fun k row hget => (hs k row (heq ▸ hget)).forth h
  have hnew (new : Discount) (heq : t.discounts = s.discounts.insert new)
      (hplace : Belongs s new.orderId new.branchId) : DiscountsBelong t := by
    intro k row hget
    rw [heq] at hget
    rcases Table.insert_cases hget with ⟨-, rfl⟩ | hget
    · exact hplace.forth h
    · exact (hs k row hget).forth h
  have hdecided {p : Id → Discount → Bool} {decision : Discount → Discount}
      (hkept : ∀ row, (decision row).orderId = row.orderId ∧
        (decision row).branchId = row.branchId)
      (heq : t.discounts = s.discounts.updateWhere p decision) : DiscountsBelong t := by
    intro k row hget
    rw [heq, Table.get?_updateWhere] at hget
    obtain ⟨old, hold, rfl⟩ := Option.map_eq_some_iff.mp hget
    have hplace := (hs k old hold).forth h
    split
    · rw [(hkept old).1, (hkept old).2]
      exact hplace
    · exact hplace
  have haside (hcall : call.reckons = false) : DiscountsBelong t := hsame (h.aside hcall).2.1
  cases h with
  | nothing => exact hs
  | @requestDiscount ctx orderId _ dto hfind =>
    exact hnew (requestedDiscount s ctx orderId dto true) rfl (belongs_of_find hfind)
  | @requestPending ctx orderId _ dto hfind =>
    refine hnew (requestedDiscount s ctx orderId dto false) ?_ (belongs_of_find hfind)
    obtain ⟨_, h⟩ := flagHeavyDiscount_rest _ _
    rw [h]
  | approveDiscount | rejectDiscount =>
    refine hdecided ?_ (by dsimp only [recalcOrderDiscount, Store.updateOrder])
    exact fun _ => ⟨rfl, rfl⟩
  | addOrderItem | updateOrderItem | deleteOrderItem | splitItems | moveItems | mergeOrders =>
    exact hsame rfl
  | advance hcall => exact haside (reckons_of_transition hcall)
  | _ => exact haside rfl

/-- Discounts and refunds name an order and a payment of their branch. -/
structure Placed (s : Store) : Prop where
  billed : Billed s
  discounts : DiscountsBelong s
  refunds : RefundsLinked s

theorem Placed.tick (hs : Placed s) (wait : Nat) : Placed (s.tick wait) :=
  ⟨hs.billed.tick wait, hs.discounts, hs.refunds⟩

theorem Effect.placed (h : Effect s call t) (hs : Placed s) : Placed t :=
  ⟨h.billed hs.billed, h.discountsBelong hs.discounts, h.refundsLinked hs.billed hs.refunds⟩

theorem opening_placed (h : System.Opening s) : Placed s := by
  refine ⟨opening_billed h, ?_, ?_⟩
  · intro k row hget
    rw [h.discounts] at hget
    cases hget
  · intro k row hget
    rw [h.refunds] at hget
    cases hget

-- ---
-- Orders and their lines
-- ---

/-- Rows that are rewritten in place, none of them the branch's. -/
theorem agree_rewritten {orders orders' : Table Order} {rewrite : Id → Order → Order}
    (hget : ∀ k, orders'.get? k = (orders.get? k).map (rewrite k))
    (hplace : ∀ k order, (rewrite k order).branchId = order.branchId)
    (hkept : ∀ k order, orders.get? k = some order → order.branchId = b →
      rewrite k order = order) :
    AgreeOn (fun _ row => row.branchId = b) orders orders' := by
  intro k row hrow
  rw [hget, Option.map_eq_some_iff]
  constructor
  · exact fun h => ⟨row, h, hkept k row h hrow⟩
  · rintro ⟨old, hold, rfl⟩
    rw [hkept k old hold (hplace k old ▸ hrow)]
    exact hold

theorem agree_updateOrder {data : Order → Order}
    (hplace : ∀ order, (data order).branchId = order.branchId)
    (hother : ∀ order, s.orders.get? orderId = some order → order.branchId ≠ b) :
    AgreeOn (fun _ row => row.branchId = b) s.orders (s.updateOrder orderId data).orders := by
  refine .update fun order hget => ⟨hother order hget, ?_⟩
  show (data order).branchId ≠ b
  exact hplace order ▸ hother order hget

theorem other_of_find (hfind : s.findOrder ctx orderId = some order) (hne : ctx.branchId ≠ b) :
    ∀ row, s.orders.get? orderId = some row → row.branchId ≠ b := by
  obtain ⟨hget, hbranch, -⟩ := findOrder_get hfind
  intro row hrow
  cases hget.symm.trans hrow
  exact hbranch ▸ hne

theorem other_of_belongs (hplace : Belongs s orderId branchId) (hne : branchId ≠ b) :
    ∀ row, s.orders.get? orderId = some row → row.branchId ≠ b := by
  obtain ⟨order, hget, hbranch⟩ := hplace
  intro row hrow
  cases hget.symm.trans hrow
  exact hbranch ▸ hne

theorem agree_paid (hne : branchId ≠ b) :
    AgreeOn (fun _ row => row.branchId = b) s.orders
      (paidStore s intents payment orderId branchId).orders := by
  rcases paidStore_cases s intents payment orderId branchId with h | ⟨⟨order, hfind, _⟩, h⟩
  · rw [h]
    exact .refl _
  · rw [h]
    refine agree_updateOrder (s := s.withPayment intents payment) (fun _ => rfl) fun row hrow => ?_
    obtain ⟨hget, hbranch⟩ := findOrderInBranch_iff.mp hfind
    cases hget.symm.trans hrow
    exact hbranch ▸ hne

theorem agree_split (hne : child.branchId ≠ b)
    (hother : ∀ row, s.orders.get? sourceId = some row → row.branchId ≠ b) :
    AgreeOn (fun _ row => row.branchId = b) s.orders (splitStore s sourceId child sels).orders := by
  refine (AgreeOn.insert s.orders hne).trans (agree_rewritten (splitStore_get s sourceId child sels)
    (fun k order => ?_) fun k order hget hbranch => if_neg ?_)
  · split <;> rfl
  · rcases Table.insert_cases hget with ⟨-, rfl⟩ | hold
    · exact absurd hbranch hne
    · rintro (rfl | rfl)
      · exact hother order hold hbranch
      · exact absurd (Table.lt_next hold) (Nat.lt_irrefl _)

theorem agree_move (hother : ∀ row, s.orders.get? sourceId = some row → row.branchId ≠ b)
    (hother' : ∀ row, s.orders.get? targetId = some row → row.branchId ≠ b) :
    AgreeOn (fun _ row => row.branchId = b) s.orders
      (movedStore s sourceId targetId sels).orders := by
  refine agree_rewritten (movedStore_get s sourceId targetId sels) (fun k order => ?_)
    fun k order hget hbranch => if_neg ?_
  · split <;> rfl
  · rintro (rfl | rfl)
    · exact hother order hget hbranch
    · exact hother' order hget hbranch

theorem agree_merge (hother : ∀ row, s.orders.get? sourceId = some row → row.branchId ≠ b)
    (hother' : ∀ row, s.orders.get? targetId = some row → row.branchId ≠ b) :
    AgreeOn (fun _ row => row.branchId = b) s.orders (mergedStore s sourceId targetId).orders := by
  refine agree_rewritten (mergedStore_get s sourceId targetId) (fun k order => ?_)
    fun k order hget hbranch => ?_
  · simp only
    split
    · rfl
    · split <;> rfl
  · have hsource : k ≠ sourceId := by
      rintro rfl
      exact hother order hget hbranch
    have htarget : k ≠ targetId := by
      rintro rfl
      exact hother' order hget hbranch
    simp only [if_neg hsource, if_neg htarget]

theorem Effect.agree_orders (h : Effect s call t) (hs : Placed s) (hcall : Elsewhere b s call) :
    AgreeOn (fun _ row => row.branchId = b) s.orders t.orders := by
  have hsame (heq : t.orders = s.orders) :
      AgreeOn (fun _ row => row.branchId = b) s.orders t.orders := heq ▸ .refl _
  cases h with
  | createOrder | seatWithOrder => exact .insert _ (hcall.ctx _ rfl)
  | addOrderItem hfind | updateOrderItem hfind | deleteOrderItem hfind | requestDiscount hfind
  | transferTable hfind =>
    exact agree_updateOrder (fun _ => rfl) (other_of_find hfind (hcall.ctx _ rfl))
  | advance htransition hfind =>
    rw [orders_of_books advanceOrder_books]
    refine agree_updateOrder (fun _ => rfl) (other_of_find hfind (hcall.ctx _ ?_))
    exact congrArg some (transition_ctx htransition)
  | close hfind =>
    rw [orders_of_books closedOrder_books]
    exact agree_updateOrder (fun _ => rfl) (other_of_find hfind (hcall.ctx _ rfl))
  | void hfind =>
    rw [orders_of_books voidedOrder_books]
    exact agree_updateOrder (fun _ => rfl) (other_of_find hfind (hcall.ctx _ rfl))
  | requestPending hfind =>
    rcases flagHeavyDiscount_cases _ _ with h | h
    · rw [h]
      exact .refl _
    · rw [h]
      exact agree_updateOrder (fun _ => rfl) (other_of_find hfind (hcall.ctx _ rfl))
  | @approveDiscount ctx discountId discount _ _ _ _ hdiscount =>
    simp only [findDiscount, Option.filter_eq_some_iff, Bool.and_eq_true, beq_iff_eq] at hdiscount
    have hne : discount.branchId ≠ b := hdiscount.2.1 ▸ hcall.ctx _ rfl
    exact agree_updateOrder (fun _ => rfl)
      (other_of_belongs (hs.discounts discountId discount hdiscount.1) hne)
  | splitItems hfind => exact agree_split (hcall.ctx _ rfl) (other_of_find hfind (hcall.ctx _ rfl))
  | moveItems _ hsource _ htarget =>
    exact agree_move (other_of_find hsource (hcall.ctx _ rfl))
      (other_of_find htarget (hcall.ctx _ rfl))
  | mergeOrders _ hsource _ htarget =>
    exact agree_merge (other_of_find hsource (hcall.ctx _ rfl))
      (other_of_find htarget (hcall.ctx _ rfl))
  | closeOrderWithPayment hfind =>
    rw [recordPayments_eq]
    exact agree_updateOrder (fun _ => rfl) (other_of_find hfind (hcall.ctx _ rfl))
  | manualPayment => exact agree_paid (hcall.ctx _ rfl)
  | webhookPaid hexternal hresolve => exact agree_paid (hcall.intent _ _ _ _ rfl hexternal hresolve)
  | createRefund hfind =>
    unfold refundedStore
    split
    · rw [checkAndMark_orders]
      exact .refl _
    · exact agree_updateOrder (fun _ => rfl) (other_of_find hfind (hcall.ctx _ rfl))
  | approveRefund => exact hsame checkAndMark_orders
  | postCloseVoid hfind =>
    exact agree_updateOrder (fun _ => rfl) (other_of_find hfind (hcall.ctx _ rfl))
  | desk hframe => exact hsame (orders_of_books (deskFrame_books hframe))
  | drawer hframe => exact hsame (ofDrawer hframe).1
  | _ => exact hsame rfl

/-- A row that the loop does not read stays where it is. -/
theorem moveSelections_untouched {itemMap : Id → Option OrderItem} {items : Table OrderItem}
    (hk : itemMap k = none) (hget : items.get? k = some row) :
    (moveSelections itemMap targetId items sels).get? k = some row := by
  induction sels generalizing items with
  | nil => exact hget
  | cons sel sels ih =>
    refine ih ?_
    unfold moveSelection
    cases hit : itemMap sel.orderItemId with
    | none => exact hget
    | some it =>
      have hne : k ≠ sel.orderItemId := by
        rintro rfl
        cases hk.symm.trans hit
      simp only [moveLine]
      split
      · rw [Table.get?_update_ne _ _ hne]
        exact hget
      · exact Table.get?_insert_of_some ((Table.get?_update_ne _ _ hne).trans hget)

section Lines

variable {P : Id → Prop}

/-- The lines of orders other than the two that a loop moves between. -/
theorem agree_moved (hfits : selectionsFit s sourceId sels) (hsource : ¬P sourceId)
    (htarget : ¬P targetId) :
    AgreeOn (fun _ row => P row.orderId) s.orderItems
      (moveSelections (s.itemOn sourceId) targetId s.orderItems sels) := by
  intro k row hrow
  constructor
  · intro hget
    refine moveSelections_untouched ?_ hget
    rw [Option.eq_none_iff_forall_ne_some]
    intro it hit
    obtain ⟨hget', horder⟩ := itemOn_iff.mp hit
    cases hget.symm.trans hget'
    exact hsource (horder ▸ hrow)
  · intro hget
    have hmoved : Moved s.orderItems sourceId targetId sels _ := moved_of_fits hfits
    rcases hmoved.rows k row hget with
      ⟨hold, -⟩ | ⟨it, hit, rfl⟩ | ⟨j, it, _, hshed⟩
    · exact hold
    · have horder := (sourceLine_iff.mp hit).2
      simp only [fate] at hrow
      split at hrow
      · exact absurd hrow htarget
      · exact absurd (horder ▸ hrow) hsource
    · obtain ⟨_, _, rfl⟩ := List.mem_map.mp hshed
      exact absurd hrow htarget

theorem agree_reparented (hsource : ¬P sourceId) (htarget : ¬P targetId) :
    AgreeOn (fun _ row => P row.orderId) s.orderItems
      (reparentAll targetId s.orderItems (s.itemsOf sourceId)) := by
  rw [reparentAll_eq]
  refine .updateWhere fun k row _ hsame => ⟨fun hrow => ?_, htarget⟩
  exact hsource (beq_iff_eq.mp hsame ▸ hrow)

/-- A call edits the lines of active orders that it finds in its branch, and of a new one. -/
theorem Effect.agree_lines (h : Effect s call t) (hnew : ¬P s.orders.next)
    (hedited : ∀ ctx orderId order, call.ctx? = some ctx → s.findOrder ctx orderId = some order →
      order.status.active = true → ¬P orderId) :
    AgreeOn (fun _ row => P row.orderId) s.orderItems t.orderItems := by
  have hsame (heq : t.orderItems = s.orderItems) :
      AgreeOn (fun _ row => P row.orderId) s.orderItems t.orderItems := heq ▸ .refl _
  have haside (haside : call.reckons = false) := hsame (h.aside haside).1
  cases h with
  | nothing => exact hsame rfl
  | addOrderItem hfind hactive =>
    exact .insert s.orderItems (hedited _ _ _ rfl hfind hactive)
  | updateOrderItem hfind hactive hitem =>
    refine .update fun row hget => ?_
    obtain ⟨hold, horder⟩ := itemOn_iff.mp hitem
    cases hold.symm.trans hget
    have hother := hedited _ _ _ rfl hfind hactive
    exact ⟨horder ▸ hother, horder ▸ hother⟩
  | deleteOrderItem hfind hactive hitem =>
    refine .erase fun row hget hrow => ?_
    obtain ⟨hold, horder⟩ := itemOn_iff.mp hitem
    cases hold.symm.trans hget
    exact hedited _ _ _ rfl hfind hactive (horder ▸ hrow)
  | requestDiscount | approveDiscount | rejectDiscount => exact hsame rfl
  | requestPending => exact hsame flagHeavyDiscount_items
  | splitItems hfind hopen hfits =>
    exact agree_moved hfits (hedited _ _ _ rfl hfind (active_of_open hopen)) hnew
  | moveItems _ hsource hopen htarget hopen' hfits =>
    exact agree_moved hfits (hedited _ _ _ rfl hsource (active_of_open hopen))
      (hedited _ _ _ rfl htarget (active_of_open hopen'))
  | mergeOrders _ hsource hopen htarget hopen' =>
    exact agree_reparented (hedited _ _ _ rfl hsource (active_of_open hopen))
      (hedited _ _ _ rfl htarget (active_of_open hopen'))
  | advance htransition => exact haside (reckons_of_transition htransition)
  | _ => exact haside rfl

end Lines

theorem not_belongs_of_find (hfind : s.findOrder ctx orderId = some order)
    (hne : ctx.branchId ≠ b) :
    ¬Belongs s orderId b := by
  rintro ⟨row, hget, hbranch⟩
  exact other_of_find hfind hne row hget hbranch

theorem not_belongs_next : ¬Belongs s s.orders.next b :=
  fun hplace => absurd hplace.lt_next (Nat.lt_irrefl _)

theorem Effect.agree_items (h : Effect s call t) (hcall : Elsewhere b s call) :
    AgreeOn (fun _ row => Belongs s row.orderId b) s.orderItems t.orderItems :=
  h.agree_lines (P := fun orderId => Belongs s orderId b) not_belongs_next
    fun ctx _ _ hctx hfind _ => not_belongs_of_find hfind (hcall.ctx ctx hctx)

-- ---
-- Discounts, payments, refunds
-- ---

theorem Effect.agree_discounts (h : Effect s call t) (hcall : Elsewhere b s call) :
    AgreeOn (fun _ row => row.branchId = b) s.discounts t.discounts := by
  have hsame (heq : t.discounts = s.discounts) :
      AgreeOn (fun _ row => row.branchId = b) s.discounts t.discounts := heq ▸ .refl _
  have haside (haside : call.reckons = false) := hsame (h.aside haside).2.1
  have hclaim (ctx : BranchContext) (discountId : Id) (decision : Discount → Discount)
      (hne : ctx.branchId ≠ b) (hkept : ∀ row, (decision row).branchId = row.branchId) :
      AgreeOn (fun _ row => row.branchId = b) s.discounts
        (s.discounts.updateWhere (claimMatches ctx discountId) decision) := by
    refine .updateWhere fun k row _ hmatches => ?_
    simp only [claimMatches, Bool.and_eq_true, beq_iff_eq] at hmatches
    have hother : row.branchId ≠ b := hmatches.1.1.2 ▸ hne
    exact ⟨hother, hkept row ▸ hother⟩
  cases h with
  | nothing => exact hsame rfl
  | requestDiscount => exact .insert s.discounts (hcall.ctx _ rfl)
  | requestPending =>
    obtain ⟨_, h⟩ := flagHeavyDiscount_rest _ _
    rw [h]
    exact .insert s.discounts (hcall.ctx _ rfl)
  | approveDiscount | rejectDiscount =>
    dsimp only [recalcOrderDiscount, Store.updateOrder]
    refine hclaim _ _ _ (hcall.ctx _ rfl) ?_
    exact fun _ => rfl
  | addOrderItem | updateOrderItem | deleteOrderItem | splitItems | moveItems | mergeOrders =>
    exact hsame rfl
  | advance htransition => exact haside (reckons_of_transition htransition)
  | _ => exact haside rfl

theorem agree_marked {r : Store} (hr : r.payments = s.payments)
    (hother : ∀ payment, s.payments.get? paymentId = some payment → payment.branchId ≠ b) :
    AgreeOn (fun _ row => row.branchId = b) s.payments
      (checkAndMarkPaymentRefunded r paymentId).payments := by
  rcases checkAndMark_cases r paymentId with h | h <;> rw [h]
  · exact hr ▸ .refl _
  · rw [markRefunded, hr]
    exact .update fun row hget => ⟨hother row hget, hother row hget⟩

theorem Effect.agree_payments (h : Effect s call t) (hs : Placed s) (hcall : Elsewhere b s call) :
    AgreeOn (fun _ row => row.branchId = b) s.payments t.payments := by
  have hsame (heq : t.payments = s.payments) :
      AgreeOn (fun _ row => row.branchId = b) s.payments t.payments := heq ▸ .refl _
  cases h with
  | advance => exact hsame (payments_of_books advanceOrder_books).1
  | close => exact hsame (payments_of_books closedOrder_books).1
  | void => exact hsame (payments_of_books voidedOrder_books).1
  | requestPending => exact hsame flagHeavyDiscount_payments.1
  | closeOrderWithPayment =>
    rw [recordPayments_eq]
    refine .foldl_insert s.payments fun payment hmem _ => ?_
    obtain ⟨p, _, rfl⟩ := List.mem_map.mp hmem
    exact hcall.ctx _ rfl
  | manualPayment =>
    rw [paidStore_payments.1]
    exact .insert s.payments (hcall.ctx _ rfl)
  | webhookPaid hexternal hresolve =>
    have hother := hcall.intent _ _ _ _ rfl hexternal hresolve
    show AgreeOn _ s.payments (paidStore _ _ _ _ _).payments
    rw [paidStore_payments.1]
    exact .insert s.payments hother
  | createRefund _ _ hpayment =>
    unfold refundedStore
    split
    · refine agree_marked rfl fun row hrow => ?_
      obtain ⟨hget, -, hbranch, -⟩ := findPayment_iff.mp hpayment
      cases hget.symm.trans hrow
      exact hbranch ▸ hcall.ctx _ rfl
    · exact .refl _
  | approveRefund hrefund =>
    refine agree_marked rfl fun row hrow => ?_
    obtain ⟨hget, hbranch, -⟩ := findRefund_iff.mp hrefund
    obtain ⟨payment, hpayment, -, hplace⟩ := hs.refunds _ _ hget
    cases hpayment.symm.trans hrow
    exact hplace ▸ hbranch ▸ hcall.ctx _ rfl
  | postCloseVoid =>
    refine .updateWhere fun k row _ hmatches => ?_
    simp only [voidMatches, Bool.and_eq_true, beq_iff_eq] at hmatches
    have hother : row.branchId ≠ b := hmatches.1.2 ▸ hcall.ctx _ rfl
    exact ⟨hother, hother⟩
  | desk hframe => exact hsame (payments_of_books (deskFrame_books hframe)).1
  | drawer hframe =>
    have hpayments := congrArg Store.payments hframe
    exact hsame hpayments
  | _ => exact hsame rfl

theorem Effect.agree_refunds (h : Effect s call t) (hcall : Elsewhere b s call) :
    AgreeOn (fun _ row => row.branchId = b) s.refunds t.refunds := by
  have hsame (heq : t.refunds = s.refunds) :
      AgreeOn (fun _ row => row.branchId = b) s.refunds t.refunds := heq ▸ .refl _
  have hbooks {r : Store} (h : t.books = r.books) (hr : r.refunds = s.refunds) :
      AgreeOn (fun _ row => row.branchId = b) s.refunds t.refunds :=
    hsame ((of_books Store.refunds (fun _ => rfl) h).trans hr)
  cases h with
  | advance => exact hbooks advanceOrder_books rfl
  | close => exact hbooks closedOrder_books rfl
  | void => exact hbooks voidedOrder_books rfl
  | requestPending =>
    obtain ⟨_, h⟩ := flagHeavyDiscount_rest _ _
    rw [h]
    exact .refl _
  | closeOrderWithPayment =>
    rw [recordPayments_eq]
    exact .refl _
  | manualPayment | webhookPaid =>
    obtain ⟨_, h⟩ := paidStore_rest _ _ _ _ _
    rw [h]
    exact .refl _
  | createRefund =>
    rw [refundedStore_refunds]
    exact .insert s.refunds (hcall.ctx _ rfl)
  | approveRefund hrefund =>
    rw [checkAndMark_refunds]
    refine .update fun row hget => ?_
    obtain ⟨hget', hbranch, -⟩ := findRefund_iff.mp hrefund
    cases hget'.symm.trans hget
    have hother := hbranch ▸ hcall.ctx _ rfl
    exact ⟨hother, hother⟩
  | desk hframe => exact hbooks (deskFrame_books hframe) rfl
  | drawer hframe =>
    have hrefunds := congrArg Store.refunds hframe
    exact hsame hrefunds
  | _ => exact hsame rfl

-- ---
-- Intents, the desk, the drawer
-- ---

theorem IntentWrites.agree {call : PaymentsCall} (h : IntentWrites s call intents)
    (hcall : Elsewhere b s (.payments call)) :
    AgreeOn (fun _ row => row.branchId = b) s.paymentIntents intents := by
  cases h with
  | nothing => exact .refl _
  | created intent hbranch => exact .insert _ (hbranch ▸ hcall.ctx _ rfl)
  | cancelled hget hbranch =>
    refine .update fun row hrow => ?_
    cases hget.symm.trans hrow
    have hother := hbranch ▸ hcall.ctx _ rfl
    exact ⟨hother, hother⟩
  | reported data hexternal hresolve =>
    refine .update fun row hrow => ?_
    cases (resolveIntent_get hresolve).symm.trans hrow
    have hother := hcall.intent _ _ _ _ rfl hexternal hresolve
    exact ⟨hother, hother⟩

theorem exec_agree_intents (bcrypt : Bcrypt) (hcall : Elsewhere b s call) :
    AgreeOn (fun _ row => row.branchId = b) s.paymentIntents
      (call.exec bcrypt s).paymentIntents := by
  have haside := (exec_effect bcrypt s call).beside.intents
  cases call with
  | payments call => exact (call.exec_intents s).agree hcall
  | _ =>
    rw [haside (by simp)]
    exact .refl _

theorem agree_guarded {data : Reservation → Reservation}
    (hplace : ∀ row, (data row).branchId = row.branchId) (hne : ctx.branchId ≠ b) :
    AgreeOn (fun _ row => row.branchId = b) s.reservations
      (s.reservations.updateWhere (guardMatches reservationId ctx source) data) := by
  refine .updateWhere fun k row _ hmatches => ?_
  simp only [guardMatches, Bool.and_eq_true, beq_iff_eq] at hmatches
  have hother : row.branchId ≠ b := hmatches.1.1.2 ▸ hne
  exact ⟨hother, hplace row ▸ hother⟩

theorem agree_desk (h : (deskSteps ctx).rel s t) (hne : ctx.branchId ≠ b) :
    AgreeOn (fun _ row => row.branchId = b) s.reservations t.reservations := by
  induction h with
  | refl => exact .refl _
  | tail _ hstep ih =>
    refine ih.trans ?_
    cases hstep with
    | placed row hbranch => exact .insert _ (hbranch ▸ hne)
    | moved => exact agree_guarded (fun _ => rfl) hne
    | assigned tableId hfind =>
      refine .update fun row hget => ?_
      obtain ⟨hrow, hbranch, -⟩ := findReservation_get hfind
      obtain rfl := Option.some.inj (hget.symm.trans hrow)
      have hother : row.branchId ≠ b := hbranch ▸ hne
      exact ⟨hother, hother⟩
    | noted => exact .refl _

theorem agree_seat (hne : ctx.branchId ≠ b) :
    AgreeOn (fun _ row => row.branchId = b) s.reservations
      (final (seat reservationId userId ctx dto s)).reservations := by
  refine seat_atomic.elim (P := fun t =>
    AgreeOn (fun _ row => row.branchId = b) s.reservations t.reservations) (.refl _) fun _ t h => ?_
  obtain ⟨_, _, _, r, _, _, _, _, horder, rfl⟩ := seat_ok h
  rcases createSeatedOrder_ok horder with ⟨rfl, rfl⟩ | ⟨_, rfl, rfl⟩
  · exact agree_guarded (fun _ => rfl) hne
  · exact agree_guarded (s := s) (fun _ => rfl) hne

theorem agree_closed (hne : ctx.branchId ≠ b) :
    AgreeOn (fun _ row => row.branchId = b) s.reservations
      (closedOrder s ctx orderId order).reservations := by
  let released := autoReleaseTableIfIdle (setStatus s orderId .closed) orderId order.tableId
  have hsteps : (deskSteps ctx).rel released (closedOrder s ctx orderId order) :=
    completeForClosedOrder_steps released
  have hrows : released.reservations = s.reservations :=
    (Prod.mk.inj autoReleaseTableIfIdle_desk).1
  exact hrows ▸ agree_desk hsteps hne

theorem exec_agree_desk (bcrypt : Bcrypt) (hcall : Elsewhere b s call) :
    AgreeOn (fun _ row => row.branchId = b) s.reservations (call.exec bcrypt s).reservations := by
  have heffect := exec_effect bcrypt s call
  have haside (hdesk : call.atDesk = false) :
      AgreeOn (fun _ row => row.branchId = b) s.reservations (call.exec bcrypt s).reservations :=
    (Prod.mk.inj (heffect.beside.desk hdesk)).1 ▸ .refl _
  cases call with
  | orders call =>
    cases call with
    | closeOrder ctx orderId request =>
      have hne := hcall.ctx _ rfl
      generalize Call.exec bcrypt s (.orders (.closeOrder ctx orderId request)) = t at heffect ⊢
      cases heffect with
      | nothing => exact .refl _
      | advance htransition _ _ hopen =>
        cases htransition
        exact absurd rfl hopen
      | close => exact agree_closed hne
    | _ => exact haside rfl
  | reservations call =>
    have hsteps := call.exec_steps s
    have hne := hcall.ctx _ rfl
    cases call with
    | seat reservationId userId ctx dto => exact agree_seat hne
    | _ => exact agree_desk (hsteps (by simp)) hne
  | _ => exact haside rfl

theorem DrawerWrites.agree {call : DrawerCall} (h : DrawerWrites s call t)
    (hne : call.ctx.branchId ≠ b) :
    AgreeOn (fun _ row => row.branchId = b) s.shifts t.shifts ∧
      AgreeOn (fun _ row => row.branchId = b) s.tillSessions t.tillSessions ∧
      AgreeOn (fun _ row => row.branchId = b) s.cashMovements t.cashMovements := by
  cases h with
  | nothing => exact ⟨.refl _, .refl _, .refl _⟩
  | openShift shift hbranch => exact ⟨.insert _ (hbranch ▸ hne), .refl _, .refl _⟩
  | closeShift summary hget hbranch =>
    refine ⟨.update fun row hrow => ?_, .refl _, .refl _⟩
    cases hget.symm.trans hrow
    have hother := hbranch ▸ hne
    exact ⟨hother, hother⟩
  | openTill till movement hbranch =>
    exact ⟨.refl _, .insert _ (hbranch.1 ▸ hne), .insert _ (hbranch.2 ▸ hne)⟩
  | safeDrop movement hmovement hget hbranch =>
    refine ⟨.refl _, .update fun row hrow => ?_, .insert _ (hmovement ▸ hne)⟩
    cases hget.symm.trans hrow
    have hother := hbranch ▸ hne
    exact ⟨hother, hother⟩
  | reconcileTill data hget hbranch =>
    refine ⟨.refl _, .update fun row hrow => ?_, .refl _⟩
    cases hget.symm.trans hrow
    have hother := hbranch ▸ hne
    exact ⟨hother, hother⟩

theorem exec_agree_drawer (bcrypt : Bcrypt) (hcall : Elsewhere b s call) :
    AgreeOn (fun _ row => row.branchId = b) s.shifts (call.exec bcrypt s).shifts ∧
      AgreeOn (fun _ row => row.branchId = b) s.tillSessions (call.exec bcrypt s).tillSessions ∧
      AgreeOn (fun _ row => row.branchId = b) s.cashMovements
        (call.exec bcrypt s).cashMovements := by
  have haside := (exec_effect bcrypt s call).beside.drawer
  cases call with
  | drawer call => exact (call.exec_writes s).agree (hcall.ctx _ rfl)
  | _ =>
    have hsame := haside (by simp)
    simp only [Store.drawerTables, Prod.mk.injEq] at hsame
    rw [hsame.1, hsame.2.1, hsame.2.2.1]
    exact ⟨.refl _, .refl _, .refl _⟩

-- ---
-- Every run
-- ---

theorem exec_isolated (bcrypt : Bcrypt) (hs : Placed s) (hcall : Elsewhere b s call) :
    SameBranch b s (call.exec bcrypt s) where
  orders := (exec_effect bcrypt s call).agree_orders hs hcall
  orderItems := (exec_effect bcrypt s call).agree_items hcall
  discounts := (exec_effect bcrypt s call).agree_discounts hcall
  payments := (exec_effect bcrypt s call).agree_payments hs hcall
  paymentIntents := exec_agree_intents bcrypt hcall
  refunds := (exec_effect bcrypt s call).agree_refunds hcall
  reservations := exec_agree_desk bcrypt hcall
  shifts := (exec_agree_drawer bcrypt hcall).1
  tillSessions := (exec_agree_drawer bcrypt hcall).2.1
  cashMovements := (exec_agree_drawer bcrypt hcall).2.2

theorem reach_isolated (hstart : System.Opening start)
    (hbefore : System.Reach bcrypt ok start before s)
    (h : System.Reach bcrypt (Elsewhere b) s events t) : SameBranch b s t := by
  have hplaced : Placed s :=
    hbefore.invariant (opening_placed hstart) (fun _ wait hs => hs.tick wait)
    fun _ call hs _ => (exec_effect bcrypt _ call).placed hs
  suffices hboth : Placed t ∧ SameBranch b s t from hboth.2
  have htick (r : Store) (wait : Nat) (hr : Placed r ∧ SameBranch b s r) :
      Placed (r.tick wait) ∧ SameBranch b s (r.tick wait) :=
    ⟨hr.1.tick wait, hr.2.trans { SameBranch.refl b _ with }⟩
  refine h.invariant (And.intro hplaced (.refl b s)) htick fun r call hr hcall => ?_
  exact ⟨(exec_effect bcrypt r call).placed hr.1, hr.2.trans (exec_isolated bcrypt hr.1 hcall)⟩

/-- An order opened in another branch. -/
def orderElsewhere : Event := ⟨.orders (.createOrder 0 ⟨0, 1⟩ { serviceType := .takeaway } {}), 0⟩

theorem reach_isolated_paid :
    SameBranch 0 (System.after (· == ·) System.cafe System.paidOrder)
      (System.after (· == ·) System.cafe (System.paidOrder ++ [orderElsewhere])) := by
  have helsewhere (s : Store) : Elsewhere 0 s orderElsewhere.call := by
    refine ⟨?_, fun _ _ _ _ hcall => by cases hcall⟩
    rintro ctx hctx
    cases hctx
    decide
  have hrun := System.reach_after (· == ·) System.cafe System.paidOrder
  have hlater : System.Reach (· == ·) (Elsewhere 0)
      (System.after (· == ·) System.cafe System.paidOrder) ([] ++ [orderElsewhere]) _ :=
    .snoc .nil (helsewhere _)
  rw [System.after, System.after, List.foldl_append]
  exact reach_isolated System.cafe_opening hrun hlater

end NimbusPos
