import NimbusPos.Common
import NimbusPos.Numbering

/-!
# Reservations

The reservation lifecycle: creation with its table conflict check, the guarded
transitions, seating with an optional order, and completion, by hand or when
the linked order closes. Deposits are not modelled.
-/

namespace NimbusPos

open Lib Lib.Service

def ReservationStatus.validTransitions : ReservationStatus → List ReservationStatus
  | .pending => [.confirmed, .cancelled, .noShow]
  | .confirmed => [.seated, .cancelled, .noShow]
  | .seated => [.completed]
  | .completed => []
  | .cancelled => []
  | .noShow => []

namespace ReservationsService

def generateReservationNumber (s : Store) (branchId : Id) : String :=
  let last := s.reservations.findLatest (fun _ row => row.branchId == branchId) (·.createdAt)
  nextNumber reservationLabel (last.map (·.2.reservationNumber))

def generateOrderNumber (s : Store) (branchId : Id) : String :=
  let lastOrder := s.orders.findLatest (fun _ order => order.branchId == branchId) (·.createdAt)
  nextNumber orderLabel (lastOrder.map (·.2.orderNumber))

/-- `durationMinutes || 120`, in milliseconds. -/
def durationMs (durationMinutes : Option Nat) : Nat :=
  match durationMinutes with
  | none | some 0 => 120 * 60 * 1000
  | some minutes => minutes * 60 * 1000

def checkTableConflict (branchId tableId : Id) (reservationAt : Time) (durationMinutes : Option Nat)
    (excludeId : Option Id) : Db Unit := do
  let s ← get
  let finish := reservationAt + durationMs durationMinutes
  let conflicts := s.reservations.findMany fun id row =>
    row.branchId == branchId && row.tableId == some tableId &&
      [.pending, .confirmed, .seated].contains row.status && row.reservationAt < finish &&
      excludeId != some id
  ensure (conflicts.all fun (_, row) =>
      !decide (reservationAt < row.reservationAt + durationMs row.expectedDurationMinutes))
    (conflict "Table has a conflicting reservation in this time window")

def recordEvent (reservationId : Id) (type : ReservationEventType) : Db Unit :=
  modify fun s => { s with reservationEvents := s.reservationEvents.insert { reservationId, type } }

structure CreateReservationDto where
  tableId : Option Id := none
  reservationAt : Time
  expectedDurationMinutes : Option Nat := none
  deriving DecidableEq, Repr

def checkTable (ctx : BranchContext) (dto : CreateReservationDto) : Db Unit :=
  match dto.tableId with
  | none => pure ()
  | some tableId => do
    let s ← get
    let _ ← need (s.findTable ctx tableId) (notFound "Table not found in this branch")
    checkTableConflict ctx.branchId tableId dto.reservationAt dto.expectedDurationMinutes none

def create (ctx : BranchContext) (dto : CreateReservationDto) : Db Unit := do
  checkTable ctx dto
  let s ← get
  let reservationNumber := generateReservationNumber s ctx.branchId
  ensure (s.reservations.count (fun _ other =>
      other.branchId == ctx.branchId && other.reservationNumber == reservationNumber) == 0)
    { kind := .uniqueViolation,
      message := "Unique constraint failed on (branchId, reservationNumber)" }
  modify fun s => { s with
    reservations := s.reservations.insert
      { orgId := ctx.organizationId, branchId := ctx.branchId, reservationNumber
        reservationAt := dto.reservationAt, expectedDurationMinutes := dto.expectedDurationMinutes
        status := .pending, tableId := dto.tableId, createdAt := s.clock } }
  recordEvent s.reservations.next .created

def findOneOrFail (id : Id) (ctx : BranchContext) : Db Reservation := do
  let s ← get
  need (s.findReservation ctx id) (notFound "Reservation not found")

def assertTransition (current target : ReservationStatus) : Db Unit :=
  ensure (current.validTransitions.contains target)
    (conflict ("Cannot transition from " ++ toString current ++ " to " ++ toString target))

/-- The row a guarded transition may rewrite. -/
def guardMatches (id : Id) (ctx : BranchContext) (source : List ReservationStatus) (k : Id)
    (row : Reservation) : Bool :=
  k == id && row.branchId == ctx.branchId && row.orgId == ctx.organizationId &&
    source.contains row.status

/-- Compare-and-set of the status; tells whether this call applied it. -/
def applyGuardedTransition (id : Id) (ctx : BranchContext) (source : List ReservationStatus)
    (data : Reservation → Reservation) : Db Bool := do
  let s ← get
  modify fun s => { s with
    reservations := s.reservations.updateWhere (guardMatches id ctx source) data }
  pure (0 < s.reservations.count (guardMatches id ctx source))

def modifiedConcurrently : HttpError :=
  conflict "Reservation was modified concurrently; refresh and retry"

def confirm (id : Id) (ctx : BranchContext) : Db Unit := do
  let reservation ← findOneOrFail id ctx
  assertTransition reservation.status .confirmed
  let applied ← applyGuardedTransition id ctx [.pending] fun row =>
    { row with status := .confirmed }
  ensure applied modifiedConcurrently
  recordEvent id .confirmed

structure SeatReservationDto where
  tableId : Option Id := none
  createOrder : Bool := false
  deriving DecidableEq, Repr

def seatedOrder (s : Store) (userId : Id) (ctx : BranchContext) (seatTableId : Id) : Order :=
  { orgId := ctx.organizationId, branchId := ctx.branchId, userId, tableId := some seatTableId
    orderNumber := generateOrderNumber s ctx.branchId, serviceType := .dineIn
    createdAt := s.clock, updatedAt := s.clock }

/-- The order opened for a seated party, when the request asks for one. -/
def createSeatedOrder (userId : Id) (ctx : BranchContext) (seatTableId : Id) :
    Bool → Db (Option Id)
  | false => pure none
  | true => do
    let s ← get
    let orderId ← createOrderRow (seatedOrder s userId ctx seatTableId)
    pure (some orderId)

def seatedReservation (seatTableId : Id) (seatedOrderId : Option Id) (row : Reservation) :
    Reservation :=
  { row with status := .seated, tableId := some seatTableId, seatedOrderId }

def seat (id userId : Id) (ctx : BranchContext) (dto : SeatReservationDto) : Db Unit := do
  let reservation ← findOneOrFail id ctx
  assertTransition reservation.status .seated
  let seatTableId ← need (dto.tableId <|> reservation.tableId)
    (badRequest "A table must be assigned before seating")
  let s ← get
  let _ ← need (s.findTable ctx seatTableId) (notFound "Table not found in this branch")
  let seatedOrderId ← createSeatedOrder userId ctx seatTableId dto.createOrder
  let applied ← applyGuardedTransition id ctx [.confirmed]
    (seatedReservation seatTableId seatedOrderId)
  ensure applied modifiedConcurrently
  modify (·.occupyTable seatTableId)
  recordEvent id .seated

/-- Cancelling and marking a no-show differ in the status and the event. -/
def withdraw (target : ReservationStatus) (event : ReservationEventType) (id : Id)
    (ctx : BranchContext) : Db Unit := do
  let reservation ← findOneOrFail id ctx
  assertTransition reservation.status target
  let applied ← applyGuardedTransition id ctx [.pending, .confirmed] fun row =>
    { row with status := target }
  ensure applied modifiedConcurrently
  recordEvent id event

def cancel : Id → BranchContext → Db Unit := withdraw .cancelled .cancelled

def markNoShow : Id → BranchContext → Db Unit := withdraw .noShow .noShow

/-- A completion that lost the race accepts a row that is already completed. -/
def resolveLostRace (id : Id) (ctx : BranchContext) : Db Unit := do
  let fresh ← findOneOrFail id ctx
  ensure (fresh.status == .completed)
    (conflict ("Cannot complete reservation in status " ++ toString fresh.status))

def completeSeated (id : Id) (ctx : BranchContext) (current : ReservationStatus) : Db Unit := do
  assertTransition current .completed
  let applied ← applyGuardedTransition id ctx [.seated] fun row => { row with status := .completed }
  if applied then recordEvent id .completed else resolveLostRace id ctx

def complete (id : Id) (ctx : BranchContext) : Db Unit := do
  let reservation ← findOneOrFail id ctx
  if reservation.status = .completed then pure () else completeSeated id ctx reservation.status

/-- Completion of the reservation explicitly linked to an order that closed. -/
def completeForClosedOrder (orderId : Id) (ctx : BranchContext) : Db Unit := do
  let s ← get
  match s.reservations.findFirst fun _ row =>
      row.seatedOrderId == some orderId && row.branchId == ctx.branchId &&
        row.orgId == ctx.organizationId && row.status == .seated with
  | none => pure ()
  | some (id, _) => do
    let applied ← applyGuardedTransition id ctx [.seated] fun row =>
      { row with status := .completed }
    if applied then recordEvent id .completed else pure ()

structure AssignTableDto where
  tableId : Id
  deriving DecidableEq, Repr

def assignTable (id : Id) (ctx : BranchContext) (dto : AssignTableDto) : Db Unit := do
  let reservation ← findOneOrFail id ctx
  ensure (!List.contains [.cancelled, .noShow, .completed] reservation.status)
    (badRequest "Cannot assign table to a finished reservation")
  let s ← get
  let _ ← need (s.findTable ctx dto.tableId) (notFound "Table not found in this branch")
  checkTableConflict ctx.branchId dto.tableId reservation.reservationAt
    reservation.expectedDurationMinutes (some id)
  modify fun s => { s with
    reservations := s.reservations.update id fun row => { row with tableId := some dto.tableId } }
  recordEvent id .tableAssigned

-- ---
-- What the calls change
-- ---

theorem findOneOrFail_reads : Reads (findOneOrFail reservationId ctx) :=
  .bind .get fun _ => .need _ _

theorem assertTransition_reads : Reads (assertTransition current target) := .ensure _ _

theorem checkTableConflict_reads :
    Reads (checkTableConflict branchId tableId reservationAt duration excludeId) :=
  .bind .get fun _ => .ensure _ _

theorem checkTable_reads : Reads (checkTable ctx dto) := by
  unfold checkTable
  split
  · exact .pure _
  · exact .bind .get fun _ => .bind (.need _ _) fun _ => checkTableConflict_reads

/-- The reservation desk's own tables are rewritten, no order is, and no
reservation is seated, linked to an order or moved to another branch. -/
def deskFrame : Frame Store where
  rel s t :=
    { t with reservations := .empty, reservationEvents := .empty } =
      { s with reservations := .empty, reservationEvents := .empty } ∧
    ∀ k row', t.reservations.get? k = some row' → row'.seatedOrderId = none ∨
      ∃ row, s.reservations.get? k = some row ∧ row'.seatedOrderId = row.seatedOrderId ∧
        row'.branchId = row.branchId ∧ row'.orgId = row.orgId ∧
        (row'.status = .seated → row.status = .seated)
  refl s := ⟨rfl, fun k row h => .inr ⟨row, h, rfl, rfl, rfl, fun h => h⟩⟩
  trans := by
    rintro s t u ⟨hst, hrows⟩ ⟨htu, hrows'⟩
    refine ⟨htu.trans hst, fun k row'' h => ?_⟩
    rcases hrows' k row'' h with hnone | ⟨row', h', hlink', hbranch', horg', hseated'⟩
    · exact .inl hnone
    rcases hrows k row' h' with hnone | ⟨row, h, hlink, hbranch, horg, hseated⟩
    · exact .inl (hlink'.trans hnone)
    · exact .inr ⟨row, h, hlink'.trans hlink, hbranch'.trans hbranch, horg'.trans horg,
        fun h => hseated (hseated' h)⟩

/-- A rewrite of a reservation that keeps its place, its link and does not seat
it. -/
def Unlinked (data : Reservation → Reservation) : Prop :=
  ∀ row, (data row).seatedOrderId = row.seatedOrderId ∧ (data row).branchId = row.branchId ∧
    (data row).orgId = row.orgId ∧ ((data row).status = .seated → row.status = .seated)

theorem deskFrame_updateWhere (hdata : Unlinked data) (s : Store) :
    deskFrame.rel s { s with reservations := s.reservations.updateWhere p data } := by
  refine ⟨rfl, fun k row' h => .inr ?_⟩
  obtain ⟨row, hrow, rfl⟩ := Option.map_eq_some_iff.mp ((Table.get?_updateWhere _ _ _).symm.trans h)
  refine ⟨row, hrow, ?_⟩
  split
  · exact hdata row
  · exact ⟨rfl, rfl, rfl, fun h => h⟩

theorem deskFrame_insert {row : Reservation} (hnone : row.seatedOrderId = none) (s : Store) :
    deskFrame.rel s { s with reservations := s.reservations.insert row } := by
  refine ⟨rfl, fun k row' h => ?_⟩
  simp only [Table.get?_insert] at h
  split at h
  · cases h
    exact .inl hnone
  · exact .inr ⟨row', h, rfl, rfl, rfl, fun h => h⟩

theorem recordEvent_keeps : Keeps deskFrame (recordEvent reservationId type) :=
  .modify fun _ => ⟨rfl, fun _ row h => .inr ⟨row, h, rfl, rfl, rfl, fun h => h⟩⟩

theorem applyGuardedTransition_keeps (hdata : Unlinked data) :
    Keeps deskFrame (applyGuardedTransition reservationId ctx source data) :=
  .bind Reads.get.keeps fun _ => .bind (.modify (deskFrame_updateWhere hdata)) fun _ =>
    (Reads.pure _).keeps

theorem unlinked_status (hstatus : status ≠ .seated) :
    Unlinked fun row => { row with status := status } :=
  fun _ => ⟨rfl, rfl, rfl, fun h => absurd h hstatus⟩

theorem create_keeps : Keeps deskFrame (create ctx dto) :=
  .bind checkTable_reads.keeps fun _ => .bind Reads.get.keeps fun _ =>
    .bind (Reads.ensure _ _).keeps fun _ => .bind (.modify fun s => deskFrame_insert rfl s) fun _ =>
      recordEvent_keeps

theorem confirm_keeps : Keeps deskFrame (confirm reservationId ctx) :=
  .bind findOneOrFail_reads.keeps fun _ => .bind assertTransition_reads.keeps fun _ =>
    .bind (applyGuardedTransition_keeps (unlinked_status (by decide))) fun _ =>
      .bind (Reads.ensure _ _).keeps fun _ => recordEvent_keeps

theorem withdraw_keeps (htarget : target ≠ .seated) :
    Keeps deskFrame (withdraw target event reservationId ctx) :=
  .bind findOneOrFail_reads.keeps fun _ => .bind assertTransition_reads.keeps fun _ =>
    .bind (applyGuardedTransition_keeps (unlinked_status htarget)) fun _ =>
      .bind (Reads.ensure _ _).keeps fun _ => recordEvent_keeps

theorem complete_keeps : Keeps deskFrame (complete reservationId ctx) :=
  .bind findOneOrFail_reads.keeps fun _ => .ite (Reads.pure _).keeps
    (.bind assertTransition_reads.keeps fun _ =>
      .bind (applyGuardedTransition_keeps (unlinked_status (by decide))) fun _ =>
        .ite recordEvent_keeps (Reads.bind findOneOrFail_reads fun _ => .ensure _ _).keeps)

theorem assignTable_keeps : Keeps deskFrame (assignTable reservationId ctx dto) :=
  .bind findOneOrFail_reads.keeps fun _ => .bind (Reads.ensure _ _).keeps fun _ =>
    .bind Reads.get.keeps fun _ => .bind (Reads.need _ _).keeps fun _ =>
      .bind checkTableConflict_reads.keeps fun _ =>
        .bind (.modify (deskFrame_updateWhere fun _ => ⟨rfl, rfl, rfl, fun h => h⟩)) fun _ =>
          recordEvent_keeps

@[simp] theorem findOneOrFail_ok :
    findOneOrFail reservationId ctx s = .ok reservation t ↔
      s.findReservation ctx reservationId = some reservation ∧ s = t := by
  simp [findOneOrFail, and_comm]

@[simp] theorem assertTransition_ok :
    assertTransition current target s = .ok u t ↔ target ∈ current.validTransitions ∧ s = t := by
  simp [assertTransition]

theorem applyGuardedTransition_ok :
    applyGuardedTransition reservationId ctx source data s = .ok applied t ↔
      decide (0 < s.reservations.count (guardMatches reservationId ctx source)) = applied ∧
        { s with
          reservations := s.reservations.updateWhere (guardMatches reservationId ctx source) data
            } = t := by
  simp only [applyGuardedTransition, bind_ok, get_ok, modify_ok, pure_ok]
  constructor
  · rintro ⟨_, _, ⟨rfl, rfl⟩, _, _, rfl, rfl, rfl⟩
    exact ⟨rfl, rfl⟩
  · rintro ⟨rfl, rfl⟩
    exact ⟨_, _, ⟨rfl, rfl⟩, (), _, rfl, rfl, rfl⟩

theorem createSeatedOrder_ok
    (h : createSeatedOrder userId ctx seatTableId asked s = .ok seatedOrderId t) :
    (seatedOrderId = none ∧ t = s) ∨
      (s.numberFree ctx.branchId (generateOrderNumber s ctx.branchId) ∧
        seatedOrderId = some s.orders.next ∧
        t = { s with orders := s.orders.insert (seatedOrder s userId ctx seatTableId) }) := by
  cases asked with
  | false =>
    simp only [createSeatedOrder, pure_ok] at h
    exact .inl ⟨h.1.symm, h.2.symm⟩
  | true =>
    simp only [createSeatedOrder, bind_ok, get_ok, createOrderRow_ok, pure_ok] at h
    obtain ⟨_, _, ⟨rfl, rfl⟩, _, _, ⟨hfree, rfl, rfl⟩, rfl, rfl⟩ := h
    exact .inr ⟨hfree, rfl, rfl⟩

/-- The store a seated reservation leaves. -/
def seatStore (s : Store) (reservationId : Id) (ctx : BranchContext) (seatTableId : Id)
    (seatedOrderId : Option Id) : Store :=
  let rows := s.reservations.updateWhere (guardMatches reservationId ctx [.confirmed])
    (seatedReservation seatTableId seatedOrderId)
  let occupied := { s with reservations := rows }.occupyTable seatTableId
  { occupied with
    reservationEvents := s.reservationEvents.insert { reservationId, type := .seated } }

theorem seat_ok (h : seat reservationId userId ctx dto s = .ok u t) :
    ∃ reservation seatTableId seatedOrderId r,
      s.findReservation ctx reservationId = some reservation ∧ reservation.status = .confirmed ∧
      (dto.tableId <|> reservation.tableId) = some seatTableId ∧
      (s.findTable ctx seatTableId).isSome = true ∧
      createSeatedOrder userId ctx seatTableId dto.createOrder s = .ok seatedOrderId r ∧
      t = seatStore r reservationId ctx seatTableId seatedOrderId := by
  simp only [seat, bind_ok, findOneOrFail_ok, assertTransition_ok, need_ok, get_ok,
    applyGuardedTransition_ok, ensure_ok, modify_ok, recordEvent] at h
  obtain ⟨reservation, _, ⟨hfind, rfl⟩, _, _, ⟨hvalid, rfl⟩, seatTableId, _, ⟨htable, rfl⟩, _, _,
    ⟨rfl, rfl⟩, _, _, ⟨hfound, rfl⟩, seatedOrderId, r, horder, _, _, ⟨_, rfl⟩, _, _, ⟨_, rfl⟩, _, _,
    rfl, rfl⟩ := h
  refine ⟨reservation, seatTableId, seatedOrderId, r, hfind, ?_, htable,
    Option.isSome_of_eq_some hfound, horder, rfl⟩
  cases hs : reservation.status <;> simp_all [ReservationStatus.validTransitions]

theorem createSeatedOrder_atomic : Atomic (createSeatedOrder userId ctx seatTableId asked) := by
  cases asked with
  | false => exact (Total.pure _).atomic
  | true => exact Reads.get.then fun _ => createOrderRow_atomic.bind_total fun _ => .pure _

/-- The guard of a confirmed reservation matches, so a seating that created its
order also applies its transition. -/
theorem seat_atomic : Atomic (seat reservationId userId ctx dto) := by
  intro s e t h
  simp only [seat, bind_error] at h
  rcases h with h | ⟨reservation, _, hfind, h⟩
  · exact findOneOrFail_reads.atomic _ _ _ h
  rw [findOneOrFail_ok] at hfind
  obtain ⟨hfind, rfl⟩ := hfind
  rcases h with h | ⟨_, _, hvalid, h⟩
  · exact assertTransition_reads.atomic _ _ _ h
  rw [assertTransition_ok] at hvalid
  obtain ⟨hvalid, rfl⟩ := hvalid
  rcases h with h | ⟨seatTableId, _, htable, h⟩
  · exact (Reads.need _ _).atomic _ _ _ h
  obtain ⟨_, rfl⟩ := need_ok.mp htable
  rcases h with h | ⟨_, _, hget, h⟩
  · exact Reads.get.atomic _ _ _ h
  obtain ⟨rfl, rfl⟩ := get_ok.mp hget
  rcases h with h | ⟨_, _, hfound, h⟩
  · exact (Reads.need _ _).atomic _ _ _ h
  obtain ⟨_, rfl⟩ := need_ok.mp hfound
  rcases h with h | ⟨seatedOrderId, r, horder, h⟩
  · exact createSeatedOrder_atomic _ _ _ h
  rcases h with h | ⟨_, _, happly, h⟩
  · cases h
  obtain ⟨rfl, rfl⟩ := applyGuardedTransition_ok.mp happly
  rcases h with h | ⟨_, _, _, h | ⟨_, _, _, h⟩⟩
  · exfalso
    have hcount := (ensure_error.mp h).1
    simp only [decide_eq_false_iff_not, Nat.not_lt, Nat.le_zero, Table.count_eq_zero] at hcount
    have hsame : r.reservations = s.reservations := by
      rcases createSeatedOrder_ok horder with ⟨_, rfl⟩ | ⟨_, _, rfl⟩ <;> rfl
    obtain ⟨hrow, hbranch, horg⟩ := findReservation_get hfind
    have hno := hcount reservationId reservation (hsame ▸ hrow)
    have hconfirmed : reservation.status = .confirmed := by
      cases hs : reservation.status <;> simp_all [ReservationStatus.validTransitions]
    simp [guardMatches, hbranch, horg, hconfirmed] at hno
  · cases h
  · cases h

theorem completeForClosedOrder_reservations (s : Store) :
    (final (completeForClosedOrder orderId ctx s)).reservations = s.reservations ∧
        (∀ k row, s.reservations.get? k = some row → row.seatedOrderId = some orderId →
          row.branchId = ctx.branchId → row.orgId = ctx.organizationId → row.status ≠ .seated) ∨
      ∃ k row, s.reservations.get? k = some row ∧ row.seatedOrderId = some orderId ∧
        (final (completeForClosedOrder orderId ctx s)).reservations =
          s.reservations.updateWhere (guardMatches k ctx [.seated]) fun row =>
            { row with status := .completed } := by
  unfold completeForClosedOrder
  rw [final_get]
  cases hfind : s.reservations.findFirst fun _ row =>
      row.seatedOrderId == some orderId && row.branchId == ctx.branchId &&
        row.orgId == ctx.organizationId && row.status == .seated with
  | none =>
    refine .inl ⟨rfl, fun k row hrow hlink hbranch horg hseated => ?_⟩
    have hno := Table.findFirst_none.mp hfind k row hrow
    simp [hlink, hbranch, horg, hseated] at hno
  | some found =>
    obtain ⟨hrow, hp⟩ := Table.findFirst_some hfind
    simp only [Bool.and_eq_true, beq_iff_eq] at hp
    refine .inr ⟨found.1, found.2, hrow, hp.1.1.1, ?_⟩
    unfold applyGuardedTransition
    simp only [bind_assoc, final_get, final_bind_modify, pure_bind]
    split <;> rfl

theorem completeForClosedOrder_keeps : Keeps deskFrame (completeForClosedOrder orderId ctx) := by
  refine .bind Reads.get.keeps fun s => ?_
  split
  · exact (Reads.pure _).keeps
  · exact .bind (applyGuardedTransition_keeps (unlinked_status (by decide))) fun _ =>
      .ite recordEvent_keeps (Reads.pure _).keeps

end ReservationsService
end NimbusPos
