import NimbusPos.Leaving

/-!
# Tables and reservations when an order ends

`transitionOrder` and `voidOrder` release the table of the order they end, and
closing completes the reservation seated on it. The other writers of a final
status do neither. Each order has at most one reservation, in its own branch, so
completing the one that is found leaves none seated.
-/

namespace NimbusPos

open Lib Lib.Service
open OrdersService DiscountsService PosHandoffService PaymentsService RefundsService
open ReservationsService (deskFrame seatStore guardMatches seatedReservation completeForClosedOrder)

variable {s t : Store}

-- ---
-- Links between reservations and orders
-- ---

/-- A reservation keeps its place and its link, and is not seated anew. -/
structure LinkKept (row row' : Reservation) : Prop where
  link : row'.seatedOrderId = row.seatedOrderId
  place : row'.branchId = row.branchId ∧ row'.orgId = row.orgId
  seated : row'.status = .seated → row.status = .seated

/-- Where the link of a reservation comes from. -/
inductive LinkSource (s : Store) (call : Call) (t : Store) (k : Id) (row' : Reservation) : Prop
  | absent (hnone : row'.seatedOrderId = none)
  | kept (row : Reservation) (hget : s.reservations.get? k = some row) (hkept : LinkKept row row')
  | opened (userId : Id) (ctx : BranchContext) (dto : ReservationsService.SeatReservationDto)
      (hcall : call = .reservations (.seat k userId ctx dto))
      (hlink : row'.seatedOrderId = some s.orders.next) (order : Order)
      (horder : t.orders.get? s.orders.next = some order) (hnew : order.status = .new)
      (hplace : order.branchId = row'.branchId ∧ order.orgId = row'.orgId)

theorem LinkKept.refl (row : Reservation) : LinkKept row row := ⟨rfl, ⟨rfl, rfl⟩, fun h => h⟩

theorem LinkSource.same (hget' : t.reservations.get? k = some row')
    (h : t.reservations = s.reservations) : LinkSource s call t k row' :=
  .kept row' (h ▸ hget') (.refl row')

theorem LinkSource.desk {r : Store} (hget' : t.reservations.get? k = some row')
    (hframe : deskFrame.rel r t) (h : r.reservations = s.reservations) :
    LinkSource s call t k row' := by
  rcases hframe.2 k row' hget' with hnone | ⟨row, hget, hlink, hbranch, horg, hseated⟩
  · exact .absent hnone
  · exact .kept row (h ▸ hget) ⟨hlink, ⟨hbranch, horg⟩, hseated⟩

theorem autoRelease_reservations :
    (autoReleaseTableIfIdle s orderId tableId).reservations = s.reservations := by
  cases tableId with
  | none => rfl
  | some tableId =>
    simp only [autoReleaseTableIfIdle]
    split <;> rfl

theorem advanceOrder_reservations :
    (advanceOrder s orderId order target).reservations = s.reservations := by
  unfold advanceOrder
  split
  · cases order.tableId <;> rfl
  · rfl

theorem voidedOrder_reservations : (voidedOrder s orderId order).reservations = s.reservations := by
  unfold voidedOrder
  split
  · exact autoRelease_reservations
  · rfl

theorem closedOrder_desk (s : Store) (ctx : BranchContext) (orderId : Id) (order : Order) :
    deskFrame.rel (autoReleaseTableIfIdle (setStatus s orderId .closed) orderId order.tableId)
      (closedOrder s ctx orderId order) :=
  ReservationsService.completeForClosedOrder_keeps _

theorem Effect.links (h : Effect s call t) (hget' : t.reservations.get? k = some row') :
    LinkSource s call t k row' := by
  cases h with
  | advance => exact .same hget' advanceOrder_reservations
  | close => exact .desk hget' (closedOrder_desk _ _ _ _) autoRelease_reservations
  | void => exact .same hget' voidedOrder_reservations
  | requestPending =>
    obtain ⟨_, h⟩ := flagHeavyDiscount_rest _ _
    exact .same hget' (by rw [h])
  | closeOrderWithPayment => exact .same hget' (by rw [recordPayments_eq]; rfl)
  | manualPayment | webhookPaid =>
    obtain ⟨_, h⟩ := paidStore_rest _ _ _ _ _
    exact .same hget' (by rw [h]; rfl)
  | @createRefund ctx orderId _ _ dto =>
    rcases refundedStore_cases s ctx orderId dto with ⟨_, ht⟩ | ⟨_, ht⟩
    · obtain ⟨_, h⟩ := checkAndMark_rest (insertRefund s ctx orderId dto _) dto.paymentId
      exact .same hget' (by rw [ht, h]; rfl)
    · exact .same hget' (by rw [ht]; rfl)
  | approveRefund =>
    obtain ⟨_, h⟩ := checkAndMark_rest _ _
    exact .same hget' (by rw [h]; rfl)
  | seat =>
    obtain ⟨row, hget, rfl⟩ :=
      Option.map_eq_some_iff.mp ((Table.get?_updateWhere _ _ _).symm.trans hget')
    split
    · exact .absent rfl
    · exact .kept row hget (.refl row)
  | seatWithOrder =>
    obtain ⟨row, hget, rfl⟩ :=
      Option.map_eq_some_iff.mp ((Table.get?_updateWhere _ _ _).symm.trans hget')
    split
    · rename_i hguard
      simp only [guardMatches, Bool.and_eq_true, beq_iff_eq] at hguard
      obtain ⟨⟨⟨rfl, hbranch⟩, horg⟩, _⟩ := hguard
      exact .opened _ _ _ rfl rfl _ (Table.get?_insert_self _ _) rfl ⟨hbranch.symm, horg.symm⟩
    · exact .kept row hget (.refl row)
  | desk hframe => exact .desk hget' hframe rfl
  | drawer hframe => exact .same hget' (by have h := congrArg Store.reservations hframe; exact h)
  | _ => exact .same hget' rfl

/-- A linked reservation is in the place of its order, and no order has two. -/
structure LinksSound (s : Store) : Prop where
  placed : ∀ k row orderId, s.reservations.get? k = some row → row.seatedOrderId = some orderId →
    ∃ order, s.orders.get? orderId = some order ∧ order.branchId = row.branchId ∧
      order.orgId = row.orgId
  unique : ∀ j k row row' orderId, s.reservations.get? j = some row →
    s.reservations.get? k = some row' →
    row.seatedOrderId = some orderId → row'.seatedOrderId = some orderId → j = k

theorem Effect.linksSound (h : Effect s call t) (hs : LinksSound s) : LinksSound t := by
  have hold {k row' row orderId} (hget : s.reservations.get? k = some row)
      (hkept : LinkKept row row')
      (hlink : row'.seatedOrderId = some orderId) : row.seatedOrderId = some orderId ∧
      orderId < s.orders.next := by
    have hrow := hkept.link.symm.trans hlink
    obtain ⟨order, horder, _⟩ := hs.placed k row orderId hget hrow
    exact ⟨hrow, Table.lt_next horder⟩
  constructor
  · intro k row' orderId hget' hlink
    cases h.links hget' with
    | absent hnone => cases hnone.symm.trans hlink
    | kept row hget hkept =>
      obtain ⟨order, horder, hbranch, horg⟩ :=
        hs.placed k row orderId hget (hold hget hkept hlink).1
      obtain ⟨order', horder', hsame⟩ := h.orders_forth horder
      simp only [Order.identity, Prod.mk.injEq] at hsame
      exact ⟨order', horder', hsame.2.1.trans (hbranch.trans hkept.place.1.symm),
        hsame.1.trans (horg.trans hkept.place.2.symm)⟩
    | opened userId ctx dto hcall hnext order horder hnew hplace =>
      cases hnext.symm.trans hlink
      exact ⟨order, horder, hplace⟩
  · intro j k row row' orderId hj hk hlink hlink'
    cases h.links hj with
    | absent hnone => cases hnone.symm.trans hlink
    | kept old hget hkept =>
      cases h.links hk with
      | absent hnone => cases hnone.symm.trans hlink'
      | kept old' hget' hkept' =>
        exact hs.unique j k old old' orderId hget hget' (hold hget hkept hlink).1
          (hold hget' hkept' hlink').1
      | opened _ _ _ _ hnext =>
        cases hnext.symm.trans hlink'
        exact absurd (hold hget hkept hlink).2 (Nat.lt_irrefl _)
    | opened _ _ _ hcall hnext =>
      cases hnext.symm.trans hlink
      cases h.links hk with
      | absent hnone => cases hnone.symm.trans hlink'
      | kept old' hget' hkept' => exact absurd (hold hget' hkept' hlink').2 (Nat.lt_irrefl _)
      | opened _ _ _ hcall' =>
        cases hcall.symm.trans hcall'
        rfl

-- ---
-- What ending an order should leave
-- ---

/-- An active order other than `orderId` is on the table. -/
def Shared (s : Store) (tableId orderId : Id) : Prop :=
  ∃ k order, s.orders.get? k = some order ∧ k ≠ orderId ∧ order.tableId = some tableId ∧
    order.status.active = true

/-- The table is occupied only when it is shared. -/
def TableFreed (s : Store) (orderId : Id) (tableId : Option Id) : Prop :=
  ∀ k table, tableId = some k → s.tables.get? k = some table → table.status = .occupied →
    Shared s k orderId

/-- No seated reservation is linked to the order. -/
def Unseated (s : Store) (orderId : Id) : Prop :=
  ∀ k row, s.reservations.get? k = some row → row.seatedOrderId = some orderId →
    row.status ≠ .seated

/-- The table of an order that has just ended, and, if it is closed, the
reservation that was seated on it. -/
structure Cleared (s t : Store) (orderId : Id) (order' : Order) : Prop where
  table : TableFreed t orderId order'.tableId
  reservation : order'.status = .closed → ∀ k row, s.reservations.get? k = some row →
    row.seatedOrderId = some orderId → row.status = .seated →
    ∃ row', t.reservations.get? k = some row' ∧ row'.status = .completed

theorem activeOnTable_pos : 0 < activeOnTable s tableId orderId ↔ Shared s tableId orderId := by
  simp only [activeOnTable, Table.count_pos, Bool.and_eq_true, beq_iff_eq, bne_iff_ne, Shared]
  constructor
  · rintro ⟨k, order, hget, ⟨htable, hne⟩, hactive⟩
    exact ⟨k, order, hget, hne, htable, hactive⟩
  · rintro ⟨k, order, hget, hne, htable, hactive⟩
    exact ⟨k, order, hget, ⟨htable, hne⟩, hactive⟩

/-- Orders other than the one that ends keep their table and their status. -/
def OthersStay (s t : Store) (orderId : Id) : Prop :=
  ∀ k order, s.orders.get? k = some order → k ≠ orderId → ∃ order', t.orders.get? k = some order' ∧
    order'.tableId = order.tableId ∧ order'.status = order.status

theorem Shared.forth (h : Shared s tableId orderId) (hothers : OthersStay s t orderId) :
    Shared t tableId orderId := by
  obtain ⟨k, order, hget, hne, htable, hactive⟩ := h
  obtain ⟨order', hget', htable', hstatus⟩ := hothers k order hget hne
  exact ⟨k, order', hget', hne, htable'.trans htable, hstatus ▸ hactive⟩

theorem TableFreed.forth (h : TableFreed s orderId tableId) (htables : t.tables = s.tables)
    (hothers : OthersStay s t orderId) : TableFreed t orderId tableId :=
  fun k table htable hget hoccupied => (h k table htable (htables ▸ hget) hoccupied).forth hothers

theorem othersStay_of_orders (h : t.orders = s.orders) : OthersStay s t orderId :=
  fun _ order hget _ => ⟨order, h ▸ hget, rfl, rfl⟩

theorem othersStay_setStatus (status : OrderStatus)
    (h : t.orders = (setStatus s orderId status).orders) :
    OthersStay s t orderId := by
  intro k order hget hne
  refine ⟨order, ?_, rfl, rfl⟩
  rw [h, setStatus, updateOrder_get, if_neg hne]
  exact hget

theorem othersStay_merged (s : Store) (sourceId targetId : Id) :
    OthersStay s (mergedStore s sourceId targetId) sourceId := by
  intro k order hget hne
  rw [mergedStore_get, hget, Option.map_some]
  refine ⟨_, rfl, ?_⟩
  simp only [if_neg hne]
  split
  · exact ⟨rfl, rfl⟩
  · exact ⟨rfl, rfl⟩

/-- A release leaves the table shared or not occupied. -/
theorem autoRelease_freed (s : Store) (orderId : Id) (tableId : Option Id) :
    TableFreed (autoReleaseTableIfIdle s orderId tableId) orderId tableId := by
  rintro k table rfl hget hoccupied
  simp only [autoReleaseTableIfIdle] at hget ⊢
  split
  · rename_i hshared
    exact activeOnTable_pos.mp hshared
  · rename_i hidle
    rw [if_neg hidle, Table.get?_updateWhere, Option.map_eq_some_iff] at hget
    obtain ⟨row, _, rfl⟩ := hget
    split at hoccupied
    · cases hoccupied
    · rename_i hfree
      simp [hoccupied] at hfree

-- ---
-- The steps that end an order
-- ---

/-- The call releases the table of the order it ends, and completes the
reservation of an order it closes. -/
def Call.releases (order : Order) : Call → Bool
  | .orders (.closeOrder ..) => true
  | .orders (.voidOrder ..) => order.serviceType == .dineIn
  | _ => false

/-- The calls that close an order once it is paid. -/
def Call.pays : Call → Bool
  | .payments _ => true
  | _ => false

/-- A step that ends an order without releasing its table finds the table shared
or not occupied, and no reservation seated on an order that it closes. -/
def leavesClean (s : Store) (call : Call) : Prop :=
  ∀ k order t, Leaves s call k order t → call.releases order = false →
    TableFreed s k order.tableId ∧ (call.pays = true → Unseated s k)

theorem closedOrder_freed : TableFreed (closedOrder s ctx orderId order) orderId order.tableId := by
  have hframe := (closedOrder_desk s ctx orderId order).1
  have htables := congrArg Store.tables hframe
  have horders := congrArg Store.orders hframe
  exact (autoRelease_freed _ _ _).forth htables (othersStay_of_orders horders)

/-- Closing completes the one reservation linked to the order. -/
theorem closedOrder_completed (hs : LinksSound s) (hfind : s.findOrder ctx orderId = some order)
    (hget : s.reservations.get? k = some row) (hlink : row.seatedOrderId = some orderId)
    (hseated : row.status = .seated) :
    ∃ row', (closedOrder s ctx orderId order).reservations.get? k = some row' ∧
      row'.status = .completed := by
  obtain ⟨horder, hbranch, horg⟩ := findOrder_get hfind
  obtain ⟨placed, hplaced, hbranch', horg'⟩ := hs.placed k row orderId hget hlink
  cases horder.symm.trans hplaced
  let released := autoReleaseTableIfIdle (setStatus s orderId .closed) orderId order.tableId
  have hrows : released.reservations = s.reservations := autoRelease_reservations
  rcases ReservationsService.completeForClosedOrder_reservations released with
    ⟨_, hnone⟩ | ⟨j, found, hfound, hlink', hcompleted⟩
  · exact absurd hseated (hnone k row (hrows ▸ hget) hlink (hbranch'.symm.trans hbranch)
      (horg'.symm.trans horg))
  · obtain rfl := hs.unique k j row found orderId hget (hrows ▸ hfound) hlink hlink'
    have hguard : guardMatches k ctx [.seated] k row = true := by
      simp [guardMatches, hbranch'.symm.trans hbranch, horg'.symm.trans horg, hseated]
    refine ⟨{ row with status := .completed }, ?_, rfl⟩
    rw [closedOrder, hcompleted, hrows, Table.get?_updateWhere, hget, Option.map_some,
      if_pos hguard]

theorem Leaves.freed (h : Leaves s call k order t) (hok : leavesClean s call) :
    TableFreed t k order.tableId := by
  have hfree (hreleases : call.releases order = false) : TableFreed s k order.tableId :=
    (hok k order t h hreleases).1
  cases h with
  | closeOrder => exact closedOrder_freed
  | voidOrder =>
    unfold voidedOrder
    split
    · exact autoRelease_freed _ _ _
    · rename_i hservice
      exact (hfree (by simp [Call.releases, hservice])).forth rfl (othersStay_setStatus _ rfl)
  | @closeOrderWithPayment ctx _ _ dto =>
    have hstore : tenderedStore s ctx k dto = { tenderedStore s ctx k dto with
        tables := s.tables, orders := (setStatus s k .closed).orders } := by
      rw [tenderedStore, recordPayments_eq]
      rfl
    rw [hstore]
    exact (hfree rfl).forth rfl (othersStay_setStatus .closed rfl)
  | manualPayment | webhookPaid =>
    exact (hfree rfl).forth rfl (othersStay_setStatus .closed rfl)
  | mergeOrders => exact (hfree rfl).forth rfl (othersStay_merged _ _ _)

theorem Leaves.completed (h : Leaves s call k order t) (hs : LinksSound s)
    (hok : leavesClean s call)
    (hget' : t.orders.get? k = some order') (hclosed : order'.status = .closed)
    (hget : s.reservations.get? j = some row) (hlink : row.seatedOrderId = some k)
    (hseated : row.status = .seated) :
    ∃ row', t.reservations.get? j = some row' ∧ row'.status = .completed := by
  have hnone (hpays : call.pays = true) (hreleases : call.releases order = false) :
      row.status ≠ .seated := (hok k order t h hreleases).2 hpays j row hget hlink
  cases h with
  | closeOrder hfind => exact closedOrder_completed hs hfind hget hlink hseated
  | voidOrder hfind =>
    rw [of_books Store.orders (fun _ => rfl) voidedOrder_books] at hget'
    have hrow := updateOrder_get.symm.trans hget'
    rw [if_pos rfl, (findOrder_get hfind).1] at hrow
    cases hrow
    cases hclosed
  | closeOrderWithPayment | manualPayment | webhookPaid => exact absurd hseated (hnone rfl rfl)
  | mergeOrders _ hsource =>
    rw [mergedStore_get, (findOrder_get hsource).1, Option.map_some, if_pos rfl] at hget'
    cases hget'
    cases hclosed

-- ---
-- Runs
-- ---

/-- No reservation is seated on a closed order. -/
def NoneSeated (s : Store) : Prop :=
  ∀ k order, s.orders.get? k = some order → order.status = .closed → Unseated s k

theorem Effect.noneSeated (h : Effect s call t) (hs : LinksSound s) (hnone : NoneSeated s)
    (hok : leavesClean s call) : NoneSeated t := by
  intro k order' hget' hclosed j row' hrow' hlink hseated'
  cases h.links hrow' with
  | absent habsent => cases habsent.symm.trans hlink
  | opened _ _ _ _ hnext order horder hnew =>
    cases hnext.symm.trans hlink
    cases horder.symm.trans hget'
    exact absurd (hnew.symm.trans hclosed) (by decide)
  | kept row hrow hkept =>
    have hlink := hkept.link.symm.trans hlink
    have hseated := hkept.seated hseated'
    obtain hnew | ⟨order, hget, hcourse⟩ := h.course_back hget'
    · exact absurd (hnew.symm.trans hclosed) (by decide)
    cases hcourse with
    | active _ hactive => simp [hclosed, OrderStatus.active] at hactive
    | kept _ hstatus => exact hnone k order hget (hstatus ▸ hclosed) j row hrow hlink hseated
    | left hleaves =>
      obtain ⟨done, hdone, hcompleted⟩ := hleaves.completed hs hok hget' hclosed hrow hlink hseated
      cases hrow'.symm.trans hdone
      exact absurd (hseated'.symm.trans hcompleted) (by decide)
    | voided _ hvoided => exact absurd (hvoided.symm.trans hclosed) (by decide)

/-- Every step of the history that ends an order clears it. -/
def AllCleared (bcrypt : Bcrypt) (start : Store) (events : List Event) : Prop :=
  ∀ before e later k order order', events = before ++ e :: later →
    (System.after bcrypt start before).orders.get? k = some order → order.status.active = true →
    (System.after bcrypt start (before ++ [e])).orders.get? k = some order' →
    order'.status.active = false →
    Cleared (System.after bcrypt start before) (System.after bcrypt start (before ++ [e])) k order'

/-- What clearing an order rests on. -/
structure SeatingSound (s : Store) : Prop where
  links : LinksSound s
  cleared : NoneSeated s

theorem opening_seatingSound (h : System.Opening s) : SeatingSound s := by
  refine ⟨⟨?_, ?_⟩, ?_⟩
  · intro k row orderId hget
    rw [h.reservations] at hget
    cases hget
  · intro j k row row' orderId hget
    rw [h.reservations] at hget
    cases hget
  · intro k order hget
    rw [h.orders] at hget
    cases hget

theorem SeatingSound.tick (hs : SeatingSound s) (wait : Nat) : SeatingSound (s.tick wait) :=
  ⟨⟨hs.links.placed, hs.links.unique⟩, hs.cleared⟩

theorem reach_seatingSound (hstart : System.Opening start)
    (h : System.Reach bcrypt leavesClean start events s) : SeatingSound s :=
  h.invariant (opening_seatingSound hstart) (fun _ wait hs => hs.tick wait) fun _ call hs hok =>
    have heffect := exec_effect bcrypt _ call
    ⟨heffect.linksSound hs.links, heffect.noneSeated hs.links hs.cleared hok⟩

/-- A party is seated on the table, served one item at 10.00, and pays. -/
def seatedParty : List Event :=
  [⟨.reservations (.create ⟨0, 0⟩ { tableId := some 0, reservationAt := 0 }), 0⟩,
   ⟨.reservations (.confirm 0 ⟨0, 0⟩), 0⟩,
   ⟨.reservations (.seat 0 0 ⟨0, 0⟩ { createOrder := true }), 0⟩,
   ⟨.orders (.addOrderItem ⟨0, 0⟩ 0 { menuItemId := 0 } {}), 0⟩,
   ⟨.orders (.sendOrder ⟨0, 0⟩ 0 {}), 0⟩,
   ⟨.orders (.markInKitchen ⟨0, 0⟩ 0 {}), 0⟩,
   ⟨.orders (.markReady ⟨0, 0⟩ 0 {}), 0⟩,
   ⟨.orders (.markServed ⟨0, 0⟩ 0 {}), 0⟩]

def paidParty : Event := ⟨.payments (.closeOrderWithPayment ⟨0, 0⟩ 0 System.cashTender), 0⟩

def closedParty : Event := ⟨.orders (.closeOrder ⟨0, 0⟩ 0 {}), 0⟩

end NimbusPos
