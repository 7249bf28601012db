import NimbusPos.Leaving

/-!
# Merged orders

A merge voids its source and leaves the target's id on it. From any order the ids lead to
one that was not merged: they never lead in a circle, never out of the branch, and no line
is left behind on the way.
-/

namespace NimbusPos

open Lib Lib.Service
open Lib.Table (SameRows)
open OrdersService DiscountsService PosHandoffService PaymentsService RefundsService

variable {s t : Store} {call : Call}

/-- The order was merged into another. -/
def MergedInto (s : Store) (k j : Id) : Prop :=
  ∃ order, s.orders.get? k = some order ∧ order.mergedIntoOrderId = some j

/-- What `mergeOrders` wrote, and who is left to be merged. -/
inductive Merging (s : Store) (call : Call) (order' : Order) (k : Id) : Prop
  | kept (order : Order) (hget : s.orders.get? k = some order)
      (hsame : order'.mergedIntoOrderId = order.mergedIntoOrderId)
  | fresh (hnone : order'.mergedIntoOrderId = none)
  | merged (ctx : BranchContext) (dto : MergeOrdersDto) (source target : Order)
      (hcall : call = .handoff (.mergeOrders ctx dto)) (hk : k = dto.sourceOrderId)
      (hne : dto.sourceOrderId ≠ dto.targetOrderId)
      (hsource : s.findOrder ctx dto.sourceOrderId = some source)
      (hopen : source.status ∈ handoffOpenStatuses)
      (htarget : s.findOrder ctx dto.targetOrderId = some target)
      (hopen' : target.status ∈ handoffOpenStatuses)
      (hinto : order'.mergedIntoOrderId = some dto.targetOrderId)

theorem Merging.same {orders : Table Order} (h : SameRows Order.mergedIntoOrderId s.orders orders)
    (hget' : orders.get? k = some order') : Merging s call order' k := by
  obtain ⟨order, hget, hsame⟩ := h.back hget'
  exact .kept order hget hsame

theorem Merging.inserted {orders : Table Order}
    (h : SameRows Order.mergedIntoOrderId (s.orders.insert new) orders)
    (hnew : new.mergedIntoOrderId = none) (hget' : orders.get? k = some order') :
    Merging s call order' k := by
  obtain ⟨order, hget, hsame⟩ := h.back hget'
  rcases Table.insert_cases hget with ⟨-, rfl⟩ | hget
  · exact .fresh (hsame.trans hnew)
  · exact .kept order hget hsame

theorem updateOrder_merged {data : Order → Order}
    (h : ∀ order, (data order).mergedIntoOrderId = order.mergedIntoOrderId) :
    SameRows Order.mergedIntoOrderId s.orders (s.updateOrder orderId data).orders :=
  .update fun order => h order

theorem setStatus_merged :
    SameRows Order.mergedIntoOrderId s.orders (setStatus s orderId status).orders :=
  updateOrder_merged fun _ => rfl

theorem recompute_merged :
    SameRows Order.mergedIntoOrderId s.orders (recomputeAndSaveOrderTotals s orderId).orders :=
  updateOrder_merged fun _ => rfl

theorem resum_merged (s : Store) (a b : Id) :
    SameRows Order.mergedIntoOrderId s.orders (resum s a b).orders :=
  recompute_merged.trans recompute_merged

theorem splitStore_merged : SameRows Order.mergedIntoOrderId (s.orders.insert child)
    (splitStore s a child sels).orders :=
  resum_merged { s with
    orders := s.orders.insert child
    orderItems := moveSelections (s.itemOn a) s.orders.next s.orderItems sels } a s.orders.next

theorem movedStore_merged :
    SameRows Order.mergedIntoOrderId s.orders (movedStore s a b sels).orders :=
  resum_merged { s with orderItems := moveSelections (s.itemOn a) b s.orderItems sels } a b

theorem paidStore_merged : SameRows Order.mergedIntoOrderId s.orders
    (paidStore s intents payment orderId branchId).orders := by
  rcases paidStore_cases s intents payment orderId branchId with h | ⟨_, h⟩
  · rw [h]
    exact .refl _
  · rw [h]
    exact setStatus_merged

theorem flagHeavyDiscount_merged :
    SameRows Order.mergedIntoOrderId s.orders (flagHeavyDiscount s orderId).orders := by
  rcases flagHeavyDiscount_cases s orderId with h | h
  · rw [h]
    exact .refl _
  · rw [h]
    exact updateOrder_merged fun _ => rfl

theorem refundedStore_merged :
    SameRows Order.mergedIntoOrderId s.orders (refundedStore s ctx orderId dto).orders := by
  unfold refundedStore
  split
  · rw [checkAndMark_orders]
    exact .refl _
  · exact updateOrder_merged fun _ => rfl

/-- Of the two orders of a merge the source gets the target's id. -/
theorem mergedStore_into
    (hget' : (mergedStore s sourceId targetId).orders.get? k = some order') :
    ∃ order, s.orders.get? k = some order ∧
      (order'.mergedIntoOrderId = order.mergedIntoOrderId ∨
        k = sourceId ∧ order'.mergedIntoOrderId = some targetId) := by
  have hold := hget'
  rw [mergedStore_get] at hold
  obtain ⟨order, hget, -⟩ := Option.map_eq_some_iff.mp hold
  refine ⟨order, hget, ?_⟩
  rcases mergedStore_order hget hget' with ⟨hk, _, rfl⟩ | ⟨_, _, rfl⟩ | rfl
  · exact .inr ⟨hk, rfl⟩
  · exact .inl rfl
  · exact .inl rfl

theorem Effect.merging (h : Effect s call t) (hget' : t.orders.get? k = some order') :
    Merging s call order' k := by
  have hsame {r : Store} (h : t.orders = r.orders)
      (hr : SameRows Order.mergedIntoOrderId s.orders r.orders) : Merging s call order' k :=
    .same hr (h ▸ hget')
  cases h with
  | createOrder | seatWithOrder => exact .inserted (.refl _) rfl hget'
  | addOrderItem | updateOrderItem | deleteOrderItem | requestDiscount | approveDiscount
  | transferTable =>
    refine .same (updateOrder_merged ?_) hget'
    exact fun _ => rfl
  | advance => exact hsame (orders_of_books advanceOrder_books) setStatus_merged
  | close => exact hsame (orders_of_books closedOrder_books) setStatus_merged
  | void => exact hsame (orders_of_books voidedOrder_books) setStatus_merged
  | requestPending =>
    refine .same ?_ hget'
    exact flagHeavyDiscount_merged
  | splitItems => exact .inserted splitStore_merged rfl hget'
  | moveItems => exact .same movedStore_merged hget'
  | mergeOrders hne hsource hopen htarget hopen' =>
    obtain ⟨order, hget, hkept | ⟨hk, hinto⟩⟩ := mergedStore_into hget'
    · exact .kept order hget hkept
    · exact .merged _ _ _ _ rfl hk hne hsource hopen htarget hopen' hinto
  | closeOrderWithPayment => exact hsame tenderedStore_orders setStatus_merged
  | manualPayment | webhookPaid => exact .same paidStore_merged hget'
  | createRefund => exact .same refundedStore_merged hget'
  | approveRefund => exact hsame checkAndMark_orders (.refl _)
  | postCloseVoid => exact hsame voidOrderAndPayments_orders setStatus_merged
  | desk hframe => exact hsame (orders_of_books (deskFrame_books hframe)) (.refl _)
  | drawer hframe => exact hsame (ofDrawer hframe).1 (.refl _)
  | _ => exact .same (.refl _) hget'

-- ---
-- Where lines are put
-- ---

/-- A line is where it was, or on an active or a new order. -/
def PutOn (s : Store) (i : Id) (item' : OrderItem) : Prop :=
  (∃ item, s.orderItems.get? i = some item ∧ item'.orderId = item.orderId) ∨
    (∃ order, s.orders.get? item'.orderId = some order ∧ order.status.active = true) ∨
    s.orders.get? item'.orderId = none

theorem putOn_moved (hfits : selectionsFit s sourceId sels)
    (htarget : (∃ order, s.orders.get? targetId = some order ∧ order.status.active = true) ∨
      s.orders.get? targetId = none)
    (hget' : (moveSelections (s.itemOn sourceId) targetId s.orderItems sels).get? i = some item') :
    PutOn s i item' := by
  have hmoved : Moved s.orderItems sourceId targetId sels _ := moved_of_fits hfits
  rcases hmoved.rows i item' hget' with
    ⟨hold, -⟩ | ⟨it, hit, rfl⟩ | ⟨_, it, _, hshed⟩
  · exact .inl ⟨item', hold, rfl⟩
  · simp only [PutOn, fate]
    split
    · exact .inr htarget
    · exact .inl ⟨it, (sourceLine_iff.mp hit).1, rfl⟩
  · obtain ⟨_, _, rfl⟩ := List.mem_map.mp hshed
    exact .inr htarget

theorem active_of_find (hfind : s.findOrder ctx orderId = some order)
    (hactive : order.status.active = true) :
    ∃ order, s.orders.get? orderId = some order ∧ order.status.active = true :=
  ⟨order, (findOrder_get hfind).1, hactive⟩

theorem Effect.putOn (h : Effect s call t) (hget' : t.orderItems.get? i = some item') :
    PutOn s i item' := by
  have hsame (heq : t.orderItems = s.orderItems) : PutOn s i item' :=
    .inl ⟨item', heq ▸ hget', rfl⟩
  have haside (hcall : call.reckons = false) : PutOn s i item' := hsame (h.aside hcall).1
  cases h with
  | nothing => exact hsame rfl
  | addOrderItem hfind hactive =>
    have hget' : (s.orderItems.insert _).get? i = some item' := hget'
    rcases Table.insert_cases hget' with ⟨-, rfl⟩ | hold
    · exact .inr (.inl (active_of_find hfind hactive))
    · exact .inl ⟨item', hold, rfl⟩
  | updateOrderItem =>
    have hget' : (s.orderItems.update _ _).get? i = some item' := hget'
    rcases Table.update_cases hget' with ⟨-, item, hold, rfl⟩ | ⟨-, hold⟩
    · exact .inl ⟨item, hold, rfl⟩
    · exact .inl ⟨item', hold, rfl⟩
  | deleteOrderItem =>
    have hget' : (s.orderItems.erase _).get? i = some item' := hget'
    rw [Table.get?_erase] at hget'
    split at hget'
    · cases hget'
    · exact .inl ⟨item', hget', rfl⟩
  | requestDiscount | approveDiscount | rejectDiscount => exact hsame rfl
  | requestPending => exact hsame flagHeavyDiscount_items
  | splitItems _ _ hfits => exact putOn_moved hfits (.inr Table.get?_next) hget'
  | moveItems _ _ _ htarget hopen' hfits =>
    exact putOn_moved hfits (.inl (active_of_find htarget (active_of_open hopen'))) hget'
  | mergeOrders _ _ _ htarget hopen' =>
    have hget' : (reparentAll _ s.orderItems (s.itemsOf _)).get? i = some item' := hget'
    rw [reparentAll_eq, reparent, Table.get?_updateWhere, Option.map_eq_some_iff] at hget'
    obtain ⟨item, hold, rfl⟩ := hget'
    simp only [PutOn]
    split
    · exact .inr (.inl (active_of_find htarget (active_of_open hopen')))
    · exact .inl ⟨item, hold, rfl⟩
  | advance htransition => exact haside (reckons_of_transition htransition)
  | _ => exact haside rfl

-- ---
-- Every run
-- ---

/-- An order that was merged is voided and empty, and the order it was merged into is of its
branch. -/
structure MergedSound (s : Store) (k : Id) (order : Order) (j : Id) : Prop where
  voided : order.status = .voided
  target : ∃ target, s.orders.get? j = some target ∧ target.branchId = order.branchId ∧
    target.orgId = order.orgId
  emptied : ∀ i item, s.orderItems.get? i = some item → item.orderId ≠ k

structure MergesSound (s : Store) : Prop where
  merged : ∀ k order j, s.orders.get? k = some order → order.mergedIntoOrderId = some j →
    MergedSound s k order j
  /-- Following the ids comes to an end. -/
  ends : ∀ k, Acc (fun j k => MergedInto s k j) k

/-- A voided order is left as it is. -/
theorem Effect.voided_kept (h : Effect s call t) (hget : s.orders.get? k = some order)
    (hvoided : order.status = .voided) : t.orders.get? k = some order := by
  obtain ⟨order', hget', -⟩ := h.orders_forth hget
  cases h.rewrites hget hget' with
  | kept heq => exact heq ▸ hget'
  | edited hactive | left _ hactive => simp [hvoided, OrderStatus.active] at hactive
  | advanced hvalid => simp [hvoided, OrderStatus.validTransitions] at hvalid
  | flagged _ _ _ _ _ hclosed | voided _ _ _ _ hclosed => cases hvoided.symm.trans hclosed

theorem MergedSound.forth (h : Effect s call t) (hs : MergedSound s k order j)
    (hget : s.orders.get? k = some order) : MergedSound t k order j := by
  refine ⟨hs.voided, ?_, ?_⟩
  · obtain ⟨target, htarget, hplace⟩ := hs.target
    obtain ⟨target', htarget', hsame⟩ := h.orders_forth htarget
    simp only [Order.identity, Prod.mk.injEq] at hsame
    exact ⟨target', htarget', hsame.2.1.trans hplace.1, hsame.1.trans hplace.2⟩
  · rintro i item' hitem' rfl
    rcases h.putOn hitem' with ⟨item, hitem, hsame⟩ | ⟨row, hrow, hactive⟩ | hnone
    · exact hs.emptied i item hitem hsame.symm
    · cases hget.symm.trans hrow
      simp [hs.voided, OrderStatus.active] at hactive
    · cases hget.symm.trans hnone

/-- The source of a merge, as it leaves it. -/
theorem mergeOrders_sound (hs : MergesSound s)
    (h : Effect s (.handoff (.mergeOrders ctx dto)) t)
    (hget' : t.orders.get? dto.sourceOrderId = some order')
    (hinto : order'.mergedIntoOrderId = some dto.targetOrderId) :
    MergedSound t dto.sourceOrderId order' dto.targetOrderId := by
  have hforth {order} (hget : s.orders.get? dto.targetOrderId = some order) := h.orders_forth hget
  cases h with
  | nothing => exact hs.merged _ order' _ hget' hinto
  | @mergeOrders _ _ source target hne hsource hopen htarget =>
    obtain ⟨hsource, hbranch, horg⟩ := findOrder_get hsource
    obtain ⟨htarget, hbranch', horg'⟩ := findOrder_get htarget
    obtain ⟨target', htarget', hsame⟩ := hforth htarget
    simp only [Order.identity, Prod.mk.injEq] at hsame
    simp only [mergedStore_get, hsource, Option.map_some, if_true, Option.some.injEq] at hget'
    subst hget'
    refine ⟨rfl, ⟨target', htarget', ?_, ?_⟩, fun i item hitem => ?_⟩
    · exact hsame.2.1.trans (hbranch'.trans hbranch.symm)
    · exact hsame.1.trans (horg'.trans horg.symm)
    · have hitem : (reparentAll _ s.orderItems (s.itemsOf _)).get? i = some item := hitem
      rw [reparentAll_eq, reparent, Table.get?_updateWhere, Option.map_eq_some_iff] at hitem
      obtain ⟨old, -, rfl⟩ := hitem
      split
      · exact hne.symm
      · rename_i hother
        simpa using hother

theorem Effect.merged_sound (h : Effect s call t) (hs : MergesSound s)
    (hget' : t.orders.get? k = some order') (hinto : order'.mergedIntoOrderId = some j) :
    MergedSound t k order' j := by
  cases h.merging hget' with
  | kept order hget hsame =>
    have hold := hs.merged k order j hget (hsame.symm.trans hinto)
    cases (h.voided_kept hget hold.voided).symm.trans hget'
    exact hold.forth h hget
  | fresh hnone => cases hnone.symm.trans hinto
  | merged ctx dto source target hcall hk _ _ _ _ _ hnew =>
    subst hcall hk
    obtain rfl := Option.some.inj (hnew.symm.trans hinto)
    exact mergeOrders_sound hs h hget' hinto

/-- One edge more, to a node that has none. -/
theorem acc_of_leaf {α : Type} {R R' : α → α → Prop} {k : α} (source target : α)
    (hedge : ∀ j k, R' j k → R j k ∨ k = source ∧ j = target) (hleaf : ∀ j, ¬R' j target)
    (hR : Acc R k) : Acc R' k := by
  induction hR with
  | intro k _ ih =>
    refine .intro k fun j hj => ?_
    rcases hedge j k hj with hold | ⟨-, rfl⟩
    · exact ih j hold
    · exact .intro j fun i hi => absurd hi (hleaf i)

/-- An open order was not merged. -/
theorem MergesSound.not_merged (hs : MergesSound s) (hget : s.orders.get? k = some order)
    (hactive : order.status.active = true) : order.mergedIntoOrderId = none := by
  rw [Option.eq_none_iff_forall_ne_some]
  intro j hinto
  simp [(hs.merged k order j hget hinto).voided, OrderStatus.active] at hactive

theorem Effect.merges_end (h : Effect s call t) (hs : MergesSound s) (k : Id) :
    Acc (fun j k => MergedInto t k j) k := by
  have hmerging {i j order'} (hget' : t.orders.get? i = some order')
      (hinto : order'.mergedIntoOrderId = some j) := h.merging hget'
  by_cases hmerge : ∃ ctx dto, call = .handoff (.mergeOrders ctx dto) ∧
      dto.sourceOrderId ≠ dto.targetOrderId ∧ ∃ target,
      s.orders.get? dto.targetOrderId = some target ∧ target.status.active = true
  · obtain ⟨ctx, dto, rfl, hne, target, htarget, hactive⟩ := hmerge
    refine acc_of_leaf dto.sourceOrderId dto.targetOrderId ?_ ?_ (hs.ends k)
    · rintro j i ⟨order', hget', hinto⟩
      cases h.merging hget' with
      | kept order hget hsame => exact .inl ⟨order, hget, hsame.symm.trans hinto⟩
      | fresh hnone => cases hnone.symm.trans hinto
      | merged _ _ _ _ hcall hk _ _ _ _ _ hnew =>
        cases hcall
        exact .inr ⟨hk, Option.some.inj (hinto.symm.trans hnew)⟩
    · rintro j ⟨order', hget', hinto⟩
      cases h.merging hget' with
      | kept order hget hsame =>
        cases htarget.symm.trans hget
        cases (hs.not_merged htarget hactive).symm.trans (hsame.symm.trans hinto)
      | fresh hnone => cases hnone.symm.trans hinto
      | merged _ _ _ _ hcall hk =>
        cases hcall
        exact hne hk.symm
  · refine Subrelation.accessible (r := fun j k => MergedInto s k j) ?_ (hs.ends k)
    rintro j i ⟨order', hget', hinto⟩
    cases h.merging hget' with
    | kept order hget hsame => exact ⟨order, hget, hsame.symm.trans hinto⟩
    | fresh hnone => cases hnone.symm.trans hinto
    | merged ctx dto source target hcall _ hne _ _ htarget hopen' =>
      exact absurd ⟨ctx, dto, hcall, hne, target, (findOrder_get htarget).1, active_of_open hopen'⟩
        hmerge

theorem reach_mergesSound (hstart : System.Opening start)
    (h : System.Reach bcrypt ok start events s) : MergesSound s := by
  refine h.invariant ⟨?_, fun k => .intro k ?_⟩ (fun _ _ hs => ⟨?_, hs.ends⟩) fun s call hs _ =>
    ⟨fun k order j => (exec_effect bcrypt s call).merged_sound hs,
      (exec_effect bcrypt s call).merges_end hs⟩
  · intro k order j hget
    rw [hstart.orders] at hget
    cases hget
  · rintro j ⟨order, hget, -⟩
    rw [hstart.orders] at hget
    cases hget
  · intro k order j hget hinto
    have hold := hs.merged k order j hget hinto
    exact ⟨hold.voided, hold.target, hold.emptied⟩

/-- Where the ids lead. -/
theorem MergesSound.leads (hs : MergesSound s) (hget : s.orders.get? k = some order) :
    ∃ j survivor, Relation.ReflTransGen (MergedInto s) k j ∧ s.orders.get? j = some survivor ∧
      survivor.mergedIntoOrderId = none ∧ survivor.branchId = order.branchId := by
  induction hs.ends k generalizing order with
  | intro k _ ih =>
    cases hinto : order.mergedIntoOrderId with
    | none => exact ⟨k, order, .refl, hget, hinto, rfl⟩
    | some j =>
      have hedge : MergedInto s k j := ⟨order, hget, hinto⟩
      obtain ⟨target, htarget, hbranch, -⟩ := (hs.merged k order j hget hinto).target
      obtain ⟨i, survivor, hchain, hsurvivor, hnone, hplace⟩ := ih j hedge htarget
      exact ⟨i, survivor, .head hedge hchain, hsurvivor, hnone, hplace.trans hbranch⟩

/-- Whatever calls are made: a merged order is voided and has no line, following the ids comes
to an end, and the end is an order of the branch that was not merged. -/
theorem reach_merges (hstart : System.Opening start)
    (h : System.Reach bcrypt ok start events s) :
    (∀ k order j, s.orders.get? k = some order → order.mergedIntoOrderId = some j →
      MergedSound s k order j) ∧
    WellFounded (fun j k => MergedInto s k j) ∧
    ∀ k order, s.orders.get? k = some order → ∃ j survivor,
      Relation.ReflTransGen (MergedInto s) k j ∧ s.orders.get? j = some survivor ∧
        survivor.mergedIntoOrderId = none ∧ survivor.branchId = order.branchId := by
  have hs := reach_mergesSound hstart h
  exact ⟨hs.merged, ⟨hs.ends⟩, fun k order hget => hs.leads hget⟩

/-- Two orders, the first merged into the second. -/
def mergedOnce : List Event :=
  [⟨.orders (.createOrder 0 ⟨0, 0⟩ { serviceType := .takeaway } {}), 0⟩,
   ⟨.orders (.addOrderItem ⟨0, 0⟩ 0 { menuItemId := 0 } {}), 0⟩,
   ⟨.orders (.createOrder 0 ⟨0, 0⟩ { serviceType := .takeaway } {}), 0⟩,
   ⟨.handoff (.mergeOrders ⟨0, 0⟩ { sourceOrderId := 0, targetOrderId := 1 }), 0⟩]

theorem reach_merges_once :
    MergedInto (System.after (· == ·) System.cafe mergedOnce) 0 1 ∧
      WellFounded (fun j k => MergedInto (System.after (· == ·) System.cafe mergedOnce) k j) :=
  ⟨⟨_, rfl, rfl⟩,
    (reach_merges System.cafe_opening (System.reach_after (· == ·) System.cafe mergedOnce)).2.1⟩

end NimbusPos
