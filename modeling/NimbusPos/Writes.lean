import Mathlib.Logic.Relation
import NimbusPos.Sound

/-!
# What a call writes beside the orders

`Effect` says of the reservation desk, of the drawer and of the payment intents only that
no other table is written. These are the rows that are: every write of the desk is one of
four statements, every call of the drawer one of five, and an intent is created, cancelled
or rewritten by the webhook that found it.
-/

namespace NimbusPos

open Lib Lib.Service
open OrdersService PaymentsService ReservationsService

-- ---
-- The reservation desk
-- ---

/-- A statement of a call made in one branch that writes the desk's tables. -/
inductive DeskStep (ctx : BranchContext) (s : Store) : Store → Prop
  | placed (row : Reservation) (hbranch : row.branchId = ctx.branchId) :
      DeskStep ctx s { s with reservations := s.reservations.insert row }
  | moved (reservationId : Id) (source : List ReservationStatus) (target : ReservationStatus)
      (hvalid : ∀ status ∈ source, target ∈ status.validTransitions) :
      DeskStep ctx s { s with
        reservations := s.reservations.updateWhere (guardMatches reservationId ctx source)
          fun row =>
          { row with status := target } }
  | assigned (tableId : Id) (hfind : s.findReservation ctx reservationId = some row)
      (hlive : row.status.validTransitions ≠ []) :
      DeskStep ctx s { s with
        reservations := s.reservations.update reservationId fun row =>
          { row with tableId := some tableId } }
  | noted (event : ReservationEvent) :
      DeskStep ctx s { s with reservationEvents := s.reservationEvents.insert event }

/-- Any number of such statements. -/
def deskSteps (ctx : BranchContext) : Frame Store where
  rel := Relation.ReflTransGen (DeskStep ctx)
  refl _ := .refl
  trans h h' := h.trans h'

theorem recordEvent_steps (ctx : BranchContext) (reservationId : Id) (type : ReservationEventType) :
    Keeps (deskSteps ctx) (recordEvent reservationId type) :=
  .modify fun _ => .single (.noted _)

theorem applyGuardedTransition_steps {source : List ReservationStatus}
    (hvalid : ∀ status ∈ source, target ∈ status.validTransitions) :
    Keeps (deskSteps ctx)
      (applyGuardedTransition reservationId ctx source fun row => { row with status := target }) :=
  .bind Reads.get.keeps fun _ =>
    .bind (.modify fun _ => .single (.moved reservationId source target hvalid))
    fun _ => (Reads.pure _).keeps

theorem create_steps : Keeps (deskSteps ctx) (create ctx dto) :=
  .bind checkTable_reads.keeps fun _ => .bind Reads.get.keeps fun _ =>
    .bind (Reads.ensure _ _).keeps fun _ =>
      .bind (.modify fun _ => .single (.placed _ rfl)) fun _ => recordEvent_steps _ _ _

theorem confirm_steps : Keeps (deskSteps ctx) (confirm reservationId ctx) :=
  .bind findOneOrFail_reads.keeps fun _ => .bind assertTransition_reads.keeps fun _ =>
    .bind (applyGuardedTransition_steps (by decide)) fun _ =>
      .bind (Reads.ensure _ _).keeps fun _ => recordEvent_steps _ _ _

theorem withdraw_steps (htarget : target = .cancelled ∨ target = .noShow) :
    Keeps (deskSteps ctx) (withdraw target event reservationId ctx) := by
  have hvalid : ∀ status ∈ [ReservationStatus.pending, .confirmed],
      target ∈ status.validTransitions := by
    rcases htarget with rfl | rfl <;> decide
  exact .bind findOneOrFail_reads.keeps fun _ => .bind assertTransition_reads.keeps fun _ =>
    .bind (applyGuardedTransition_steps hvalid) fun _ =>
      .bind (Reads.ensure _ _).keeps fun _ => recordEvent_steps _ _ _

theorem complete_steps : Keeps (deskSteps ctx) (complete reservationId ctx) :=
  .bind findOneOrFail_reads.keeps fun _ => .ite (Reads.pure _).keeps
    (.bind assertTransition_reads.keeps fun _ =>
      .bind (applyGuardedTransition_steps (by decide)) fun _ =>
        .ite (recordEvent_steps _ _ _)
          (Reads.bind findOneOrFail_reads fun _ => .ensure _ _).keeps)

theorem completeForClosedOrder_steps :
    Keeps (deskSteps ctx) (completeForClosedOrder orderId ctx) := by
  have hvalid : ∀ status ∈ [ReservationStatus.seated],
      ReservationStatus.completed ∈ status.validTransitions := by decide
  refine .bind Reads.get.keeps fun s => ?_
  split
  · exact (Reads.pure _).keeps
  · exact .bind (applyGuardedTransition_steps hvalid) fun _ =>
      .ite (recordEvent_steps _ _ _) (Reads.pure _).keeps

/-- A table is assigned to a reservation of the branch that is not finished. -/
theorem assignTable_steps : Keeps (deskSteps ctx) (assignTable reservationId ctx dto) := by
  have hatomic : Atomic (assignTable reservationId ctx dto) :=
    findOneOrFail_reads.then fun _ => (Reads.ensure _ _).then fun _ => Reads.get.then fun _ =>
      (Reads.need _ _).then fun _ => checkTableConflict_reads.then fun _ =>
        (Total.bind (.modify _) fun _ => .modify _).atomic
  refine hatomic.keeps fun s u t h => ?_
  simp only [assignTable, bind_ok, findOneOrFail_ok, ensure_ok, get_ok, need_ok, modify_ok,
    recordEvent] at h
  obtain ⟨row, _, ⟨hfind, rfl⟩, _, _, ⟨hlive, rfl⟩, _, _, ⟨rfl, rfl⟩, _, _, ⟨_, rfl⟩, _, r, hread,
    _, _, rfl, rfl⟩ := h
  obtain rfl := checkTableConflict_reads.ok hread
  have hassigned : row.status.validTransitions ≠ [] := by
    revert hlive
    cases row.status <;> decide
  exact (Relation.ReflTransGen.single (.assigned dto.tableId hfind hassigned)).tail (.noted _)

/-- The branch a desk call is made in. -/
def ReservationsCall.ctx : ReservationsCall → BranchContext
  | .create ctx _ | .confirm _ ctx | .seat _ _ ctx _ | .cancel _ ctx | .markNoShow _ ctx
  | .complete _ ctx | .assignTable _ ctx _ => ctx

/-- Every desk call but a seating is made of such statements. -/
theorem ReservationsCall.exec_steps (s : Store) (call : ReservationsCall)
    (hseat : ∀ reservationId userId ctx dto, call ≠ .seat reservationId userId ctx dto) :
    (deskSteps call.ctx).rel s (call.exec s) := by
  cases call with
  | create ctx dto => exact create_steps s
  | confirm reservationId ctx => exact confirm_steps s
  | seat reservationId userId ctx dto => exact absurd rfl (hseat reservationId userId ctx dto)
  | cancel reservationId ctx => exact withdraw_steps (.inl rfl) s
  | markNoShow reservationId ctx => exact withdraw_steps (.inr rfl) s
  | complete reservationId ctx => exact complete_steps s
  | assignTable reservationId ctx dto => exact assignTable_steps s

-- ---
-- The drawer
-- ---

/-- What a call about shifts and tills leaves. -/
inductive DrawerWrites (s : Store) : DrawerCall → Store → Prop
  | nothing : DrawerWrites s call s
  | openShift (shift : Shift) (hbranch : shift.branchId = ctx.branchId) :
      DrawerWrites s (.openShift userId ctx) { s with shifts := s.shifts.insert shift }
  | closeShift (summary : ShiftCloseSummary) (hget : s.shifts.get? shiftId = some shift)
      (hbranch : shift.branchId = ctx.branchId) (hopen : shift.status = .open) :
      DrawerWrites s (.closeShift shiftId ctx) { s with
        shiftCloseSummaries := s.shiftCloseSummaries.insert summary
        shifts := s.shifts.update shiftId fun shift =>
          { shift with status := .closed, closedAt := some s.clock } }
  | openTill (till : TillSession) (movement : CashMovement)
      (hbranch : till.branchId = ctx.branchId ∧ movement.branchId = ctx.branchId) :
      DrawerWrites s (.openTill userId ctx dto) { s with
        tillSessions := s.tillSessions.insert till
        cashMovements := s.cashMovements.insert movement }
  | safeDrop (movement : CashMovement) (hmovement : movement.branchId = ctx.branchId)
      (hget : s.tillSessions.get? tillId = some till) (hbranch : till.branchId = ctx.branchId)
      (hopen : till.status = .open) :
      DrawerWrites s (.safeDrop tillId ctx dto) { s with
        cashMovements := s.cashMovements.insert movement
        tillSessions := s.tillSessions.update tillId fun till =>
          { till with expectedCash := till.expectedCash - dto.amount } }
  | reconcileTill (data : CashControl.Reconciliation)
      (hget : s.tillSessions.get? tillId = some till) (hbranch : till.branchId = ctx.branchId)
      (hopen : till.status = .open) :
      DrawerWrites s (.reconcileTill tillId ctx dto) { s with
        tillSessions := s.tillSessions.update tillId (CashControl.reconciled data) }

theorem findTill_get (h : TillsService.findTill s ctx tillId = some till) :
    s.tillSessions.get? tillId = some till ∧ till.branchId = ctx.branchId := by
  simp only [TillsService.findTill, Option.filter_eq_some_iff, Bool.and_eq_true, beq_iff_eq] at h
  exact ⟨h.1, h.2.1⟩

theorem openShift_writes (s : Store) (userId : Id) (ctx : BranchContext) :
    DrawerWrites s (.openShift userId ctx) (final (ShiftsService.openShift userId ctx s)) := by
  have hatomic : Atomic (ShiftsService.openShift userId ctx) :=
    Reads.get.then fun _ => (Reads.ensure _ _).then fun _ => (Reads.ensure _ _).then fun _ =>
      (Total.modify _).atomic
  refine hatomic.elim .nothing fun u t h => ?_
  simp only [ShiftsService.openShift, bind_ok, get_ok, ensure_ok, modify_ok] at h
  obtain ⟨_, _, ⟨rfl, rfl⟩, _, _, ⟨_, rfl⟩, _, _, ⟨_, rfl⟩, rfl⟩ := h
  exact .openShift _ rfl

theorem closeShift_writes (s : Store) (shiftId : Id) (ctx : BranchContext) :
    DrawerWrites s (.closeShift shiftId ctx) (final (ShiftsService.closeShift shiftId ctx s)) := by
  have hatomic : Atomic (ShiftsService.closeShift shiftId ctx) :=
    Reads.get.then fun _ => (Reads.need _ _).then fun _ => (Reads.ensure _ _).then fun _ =>
      (Reads.ensure _ _).then fun _ => (Total.modify _).atomic
  refine hatomic.elim .nothing fun u t h => ?_
  simp only [ShiftsService.closeShift, bind_ok, get_ok, need_ok, ensure_ok, modify_ok,
    Option.filter_eq_some_iff, Bool.and_eq_true, beq_iff_eq] at h
  obtain ⟨_, _, ⟨rfl, rfl⟩, shift, _, ⟨⟨hget, hbranch, _⟩, rfl⟩, _, _, ⟨hopen, rfl⟩, _, _,
    ⟨_, rfl⟩, rfl⟩ := h
  exact .closeShift _ hget hbranch hopen

theorem openTill_writes (s : Store) (userId : Id) (ctx : BranchContext)
    (dto : TillsService.OpenTillDto) :
    DrawerWrites s (.openTill userId ctx dto) (final (TillsService.openTill userId ctx dto s)) := by
  have hatomic : Atomic (TillsService.openTill userId ctx dto) :=
    Reads.get.then fun _ => (Reads.need _ _).then fun _ => (Reads.ensure _ _).then fun _ =>
      (Total.modify _).atomic
  refine hatomic.elim .nothing fun u t h => ?_
  simp only [TillsService.openTill, bind_ok, get_ok, need_ok, ensure_ok, modify_ok] at h
  obtain ⟨_, _, ⟨rfl, rfl⟩, _, _, ⟨_, rfl⟩, _, _, ⟨_, rfl⟩, rfl⟩ := h
  exact .openTill _ _ ⟨rfl, rfl⟩

theorem reconcileTill_writes (s : Store) (tillId : Id) (ctx : BranchContext)
    (dto : TillsService.ReconcileTillDto) :
    DrawerWrites s (.reconcileTill tillId ctx dto)
      (final (TillsService.reconcileTill tillId ctx dto s)) := by
  have hatomic : Atomic (TillsService.reconcileTill tillId ctx dto) :=
    Reads.get.then fun _ => (Reads.need _ _).then fun _ => (Reads.ensure _ _).then fun _ =>
      (Reads.ensure _ _).then fun _ => (Total.modify _).atomic
  refine hatomic.elim .nothing fun u t h => ?_
  simp only [TillsService.reconcileTill, bind_ok, get_ok, need_ok, ensure_ok, modify_ok,
    beq_iff_eq] at h
  obtain ⟨_, _, ⟨rfl, rfl⟩, till, _, ⟨hfind, rfl⟩, _, _, ⟨hopen, rfl⟩, _, _, ⟨_, rfl⟩, rfl⟩ := h
  exact .reconcileTill ⟨_, _, _, _, _⟩ (findTill_get hfind).1 (findTill_get hfind).2 hopen

theorem DrawerCall.exec_writes (s : Store) (call : DrawerCall) :
    DrawerWrites s call (call.exec s) := by
  cases call with
  | openShift userId ctx => exact openShift_writes s userId ctx
  | closeShift shiftId ctx => exact closeShift_writes s shiftId ctx
  | openTill userId ctx dto => exact openTill_writes s userId ctx dto
  | safeDrop tillId ctx dto =>
    refine TillsService.safeDrop_atomic.elim .nothing fun u t h => ?_
    obtain ⟨till, hfind, hopen, rfl⟩ := TillsService.safeDrop_ok h
    exact .safeDrop _ rfl (findTill_get hfind).1 (findTill_get hfind).2 hopen
  | reconcileTill tillId ctx dto => exact reconcileTill_writes s tillId ctx dto

-- ---
-- Payment intents
-- ---

/-- What a provider reports of an intent. -/
structure Reported where
  status : PaymentIntentStatus
  providerRef : Option String
  providerTransactionId : Option String
  confirmedAmount : Option Cents

def PaymentIntent.reported (data : Reported) (intent : PaymentIntent) : PaymentIntent :=
  { intent with
    status := data.status, providerRef := data.providerRef
    providerTransactionId := data.providerTransactionId, confirmedAmount := data.confirmedAmount }

/-- What a call about payments makes of the intents. -/
inductive IntentWrites (s : Store) : PaymentsCall → Table PaymentIntent → Prop
  | nothing : IntentWrites s call s.paymentIntents
  | created (intent : PaymentIntent) (hbranch : intent.branchId = ctx.branchId) :
      IntentWrites s (.createPaymentIntent ctx dto externalId requestToPay)
        (s.paymentIntents.insert intent)
  | cancelled (hget : s.paymentIntents.get? intentId = some intent)
      (hbranch : intent.branchId = ctx.branchId) :
      IntentWrites s (.cancelPaymentIntent ctx intentId)
        (s.paymentIntents.update intentId fun intent => { intent with status := .cancelled })
  | reported (data : Reported) (hexternal : delivery.externalId = some externalId)
      (hresolve : resolveIntent s delivery externalId = some (intentId, intent)) :
      IntentWrites s (.processWebhook delivery)
        (s.paymentIntents.update intentId (·.reported data))

theorem settle_intents (s : Store) (orderId branchId : Id) :
    (autoSettleIfFullyPaid s orderId branchId).2.paymentIntents = s.paymentIntents := by
  rcases autoSettle_cases s orderId branchId with h | ⟨_, h⟩ <;> rw [h]
  rfl

theorem recordSuccess_intents (s : Store) (d : Delivery) (e : String) (k : Id)
    (intent : PaymentIntent) :
    (recordSuccess s d e k intent).1.paymentIntents = s.paymentIntents := by
  unfold recordSuccess
  split
  · rfl
  · exact settle_intents _ _ _

theorem handleIntent_intents (s : Store) (d : Delivery) (e : String) (k : Id)
    (intent : PaymentIntent) :
    (handleIntent s d e k intent).1.paymentIntents = s.paymentIntents ∨
      ∃ data, (handleIntent s d e k intent).1.paymentIntents =
        s.paymentIntents.update k (·.reported data) := by
  unfold handleIntent
  split
  · exact .inl rfl
  · exact .inl rfl
  · exact .inr ⟨⟨_, _, _, _⟩, recordSuccess_intents _ d e k intent⟩
  · exact .inr ⟨⟨_, _, _, _⟩, rfl⟩

theorem processWebhook_writes (s : Store) (d : Delivery) :
    IntentWrites s (.processWebhook d) (processWebhook s d).paymentIntents := by
  show IntentWrites s (.processWebhook d) (handleCallback (receive s d) d).1.paymentIntents
  unfold handleCallback
  cases hexternal : d.externalId with
  | none => exact .nothing
  | some e =>
    cases hresolve : resolveIntent (receive s d) d e with
    | none =>
      simp only [hresolve]
      exact .nothing
    | some row =>
      simp only [hresolve]
      rcases handleIntent_intents (receive s d) d e row.1 row.2 with h | ⟨data, h⟩
      · rw [h]
        exact .nothing
      · rw [h]
        exact .reported data hexternal hresolve

theorem cancelPaymentIntent_found (h : cancelPaymentIntent ctx intentId s = .ok u t) :
    ∃ intent, s.paymentIntents.get? intentId = some intent ∧ intent.branchId = ctx.branchId := by
  simp only [cancelPaymentIntent, bind_ok, get_ok, need_ok, ensure_ok, modify_ok,
    Option.filter_eq_some_iff, Bool.and_eq_true, beq_iff_eq] at h
  obtain ⟨_, _, ⟨rfl, rfl⟩, intent, _, ⟨⟨hget, hbranch, _⟩, rfl⟩, _⟩ := h
  exact ⟨intent, hget, hbranch⟩

theorem PaymentsCall.exec_intents (s : Store) (call : PaymentsCall) :
    IntentWrites s call (call.exec s).paymentIntents := by
  cases call with
  | closeOrderWithPayment ctx orderId dto =>
    refine closeOrderWithPayment_atomic.elim (P := fun t => IntentWrites s _ t.paymentIntents)
      .nothing
      fun _ t h => ?_
    obtain ⟨_, _, _, _, rfl⟩ := closeOrderWithPayment_ok h
    rw [recordPayments_eq]
    exact .nothing
  | createPaymentIntent ctx dto externalId requestToPay =>
    refine createPaymentIntent_atomic.elim (P := fun t => IntentWrites s _ t.paymentIntents)
      .nothing
      fun _ t h => ?_
    obtain ⟨_, _, rfl | ⟨intent, _, hbranch, _, rfl⟩⟩ := createPaymentIntent_ok h
    · exact .nothing
    · exact .created intent hbranch
  | cancelPaymentIntent ctx intentId =>
    refine cancelPaymentIntent_atomic.elim (P := fun t => IntentWrites s _ t.paymentIntents)
      .nothing
      fun _ t h => ?_
    obtain ⟨intent, hget, hbranch⟩ := cancelPaymentIntent_found h
    rw [cancelPaymentIntent_ok h]
    exact .cancelled hget hbranch
  | createManualReferencePayment ctx dto =>
    refine createManualReferencePayment_atomic.elim
      (P := fun t => IntentWrites s _ t.paymentIntents) .nothing
      fun _ t h => ?_
    obtain ⟨_, _, _, rfl⟩ := createManualReferencePayment_ok h
    rw [settle_intents]
    exact .nothing
  | processWebhook d => exact processWebhook_writes s d

-- ---
-- What other calls leave
-- ---

def Store.drawerTables (s : Store) :
    Table Shift × Table TillSession × Table CashMovement × Table ShiftCloseSummary :=
  (s.shifts, s.tillSessions, s.cashMovements, s.shiftCloseSummaries)

def Store.deskTables (s : Store) : Table Reservation × Table ReservationEvent :=
  (s.reservations, s.reservationEvents)

/-- Closing an order completes its reservation. -/
def Call.atDesk : Call → Bool
  | .reservations _ | .orders (.closeOrder ..) => true
  | _ => false

variable {s t r : Store} {call : Call}

/-- Each of the three services writes its tables alone. -/
structure Beside (s : Store) (call : Call) (t : Store) : Prop where
  drawer : (∀ c, call ≠ .drawer c) → t.drawerTables = s.drawerTables
  intents : (∀ c, call ≠ .payments c) → t.paymentIntents = s.paymentIntents
  desk : call.atDesk = false → t.deskTables = s.deskTables

theorem Beside.of_books (h : t.books = r.books) (hr : r.books = { s.books with orders := r.orders })
    (hdesk : call.atDesk = false → t.deskTables = s.deskTables) : Beside s call t where
  drawer _ := by
    have hdrawer := congrArg Store.drawerTables (h.trans hr)
    exact hdrawer
  intents _ := by
    have hintents := congrArg Store.paymentIntents (h.trans hr)
    exact hintents
  desk := hdesk

theorem autoOccupyTable_desk : (autoOccupyTable s tableId).deskTables = s.deskTables := by
  cases tableId <;> rfl

theorem autoReleaseTableIfIdle_desk :
    (autoReleaseTableIfIdle s orderId tableId).deskTables = s.deskTables := by
  cases tableId with
  | none => rfl
  | some tableId =>
    simp only [autoReleaseTableIfIdle]
    split <;> rfl

theorem advanceOrder_desk : (advanceOrder s orderId order target).deskTables = s.deskTables := by
  unfold advanceOrder
  split
  · exact autoOccupyTable_desk
  · rfl

theorem voidedOrder_desk : (voidedOrder s orderId order).deskTables = s.deskTables := by
  unfold voidedOrder
  split
  · exact autoReleaseTableIfIdle_desk
  · rfl

theorem Effect.beside (h : Effect s call t) : Beside s call t := by
  cases h with
  | advance => exact .of_books advanceOrder_books rfl fun _ => advanceOrder_desk
  | close => exact .of_books closedOrder_books rfl fun hcall => Bool.noConfusion hcall
  | void => exact .of_books voidedOrder_books rfl fun _ => voidedOrder_desk
  | requestPending =>
    obtain ⟨_, h⟩ := flagHeavyDiscount_rest _ _
    rw [h]
    exact ⟨fun _ => rfl, fun _ => rfl, fun _ => rfl⟩
  | closeOrderWithPayment =>
    rw [recordPayments_eq]
    exact ⟨fun _ => rfl, fun _ => rfl, fun _ => rfl⟩
  | manualPayment | webhookPaid =>
    obtain ⟨_, h⟩ := paidStore_rest _ _ _ _ _
    rw [h]
    exact ⟨fun _ => rfl, fun hcall => absurd rfl (hcall _), fun _ => rfl⟩
  | createRefund =>
    unfold RefundsService.refundedStore
    split
    · obtain ⟨_, h⟩ := checkAndMark_rest _ _
      rw [h]
      exact ⟨fun _ => rfl, fun _ => rfl, fun _ => rfl⟩
    · exact ⟨fun _ => rfl, fun _ => rfl, fun _ => rfl⟩
  | approveRefund =>
    obtain ⟨_, h⟩ := checkAndMark_rest _ _
    rw [h]
    exact ⟨fun _ => rfl, fun _ => rfl, fun _ => rfl⟩
  | createIntent | intentsNoted =>
    exact ⟨fun _ => rfl, fun hcall => absurd rfl (hcall _), fun _ => rfl⟩
  | seat | seatWithOrder => exact ⟨fun _ => rfl, fun _ => rfl, fun hcall => Bool.noConfusion hcall⟩
  | desk hframe =>
    exact .of_books (deskFrame_books hframe) rfl fun hcall => Bool.noConfusion hcall
  | drawer hframe =>
    refine ⟨fun hcall => absurd rfl (hcall _), fun _ => ?_, fun _ => ?_⟩
    · have hintents := congrArg Store.paymentIntents hframe
      exact hintents
    · have hdesk := congrArg Store.deskTables hframe
      exact hdesk
  | _ => exact ⟨fun _ => rfl, fun _ => rfl, fun _ => rfl⟩

end NimbusPos
