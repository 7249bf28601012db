import NimbusPos.Reservations.Races

/-!
# Seatings that fail

`seat` opens the order of the party, claims the reservation and occupies the table in separate
statements, with no transaction around them. Between its statements other calls may do anything,
and any statement may fail. A call that ends in an error has left the orders, the tables and the
reservations alone exactly when it failed before anything of it was written: once the order is
open, a reservation that was moved by another call leaves the order behind.
-/

namespace NimbusPos.ReservationsService

open Lib Lib.Service

-- ---
-- A call among others
-- ---

def databaseFailed (message : String) : HttpError := { kind := .internalServerError, message }

namespace TransitionThread

def live (t : TransitionThread) : Bool :=
  match t.stage with
  | .done _ => false
  | _ => true

/-- The next statement, which may fail; nothing in the call catches the error. What follows the
last statement, the audit entry and the row that is read back, fails like the statement itself. -/
def attempt (s : Store) (t : TransitionThread) (fate : Fate) : Store × TransitionThread :=
  match fate.error? with
  | none => t.advance s
  | some message =>
    if t.live then (fate.write s (t.advance s).1, t.fail (databaseFailed message)) else (s, t)

end TransitionThread

/-- What other calls do before a statement of this one, and how the statement ends. -/
structure SeatTurn where
  meanwhile : Store → Store := id
  fate : Fate := .applied

/-- The store, the call, and the stores before and after each of its statements. -/
structure Seating where
  store : Store
  thread : TransitionThread
  statements : List (Store × Store) := []

namespace Seating

def step (r : Seating) (turn : SeatTurn) : Seating :=
  let s := turn.meanwhile r.store
  let (t, thread) := r.thread.attempt s turn.fate
  { store := t, thread, statements := r.statements ++ [(s, t)] }

def start (s : Store) (reservationId userId : Id) (ctx : BranchContext)
    (dto : SeatReservationDto) : Seating where
  store := s
  thread := { call := .seat reservationId userId ctx dto }

end Seating

structure Untouched (s t : Store) : Prop where
  orders : t.orders = s.orders
  tables : t.tables = s.tables
  reservations : t.reservations = s.reservations

/-- No statement of the call changed an order, a table or a reservation. -/
def Seating.NoTrace (r : Seating) : Prop := ∀ w ∈ r.statements, Untouched w.1 w.2

-- ---
-- What has been written
-- ---

/-- Whether a seating that has come so far has written something. -/
def TransitionStage.traced : TransitionStage → Option Bool
  | .find | .findTable .. | .readOrderNumber .. | .createOrder .. => some false
  | .apply _ _ (.seat _ seatedOrderId) => some seatedOrderId.isSome
  | .occupy .. | .recordEvent .. => some true
  | .apply .. | .resolve _ | .done _ => none

/-- The statement would change nothing: the order number is taken, or the reservation is not
confirmed any more. -/
def TransitionThread.idle (s : Store) (t : TransitionThread) : Prop :=
  match t.stage with
  | .createOrder _ _ orderNumber => ¬s.numberFree t.call.ctx.branchId orderNumber
  | .apply reservationId _ change => t.matched s reservationId change = none
  | _ => True

/-- Nothing of the call is written when the statement fails. -/
def early (s : Store) (t : TransitionThread) (fate : Fate) : Prop :=
  t.stage.traced = some false ∧ (fate.written = true → t.idle s)

theorem Untouched.refl (s : Store) : Untouched s s := ⟨rfl, rfl, rfl⟩

section

variable {s : Store} {t : TransitionThread} {change : Change}

theorem write_missed (h : t.matched s reservationId change = none) :
    change.write s t.call.ctx reservationId = s := by
  have hcount : s.reservations.count (guardMatches reservationId t.call.ctx change.source) = 0 := by
    have hmatched := count_matched t s reservationId change
    rw [h] at hmatched
    simpa using hmatched
  have hsame : s.reservations.updateWhere (guardMatches reservationId t.call.ctx change.source)
      change.data = s.reservations := by
    rw [Table.updateWhere_congr (q := fun _ _ => false) (Table.count_eq_zero.mp hcount),
      Table.updateWhere_false]
  rw [Change.write, hsame]

/-- A reservation that is seated is not what it was. -/
theorem write_matched
    (h : t.matched s reservationId (.seat seatTableId seatedOrderId) = some was) :
    ((Change.seat seatTableId seatedOrderId).write s t.call.ctx reservationId).reservations ≠
      s.reservations := by
  simp only [TransitionThread.matched, Option.map_eq_some_iff, Option.filter_eq_some_iff] at h
  obtain ⟨row, ⟨hget, hguard⟩, _⟩ := h
  intro hsame
  have hrow := congrArg (·.get? reservationId) hsame
  simp only [Change.write, Table.get?_updateWhere, hget, hguard, Option.map_some, if_true,
    Option.some.injEq, Change.data] at hrow
  have hstatus := congrArg Reservation.status hrow
  simp only [guardMatches, Change.source, Bool.and_eq_true, List.contains_eq_mem,
    List.mem_singleton, decide_eq_true_eq] at hguard
  rw [hguard.2] at hstatus
  cases hstatus

theorem insert_ne (t : Table α) (a : α) : t.insert a ≠ t := by
  intro h
  exact absurd (congrArg Table.next h) (Nat.succ_ne_self t.next)

/-- The statements before the first write, and the two that may be it. -/
theorem idle_iff (h : t.stage.traced = some false) :
    Untouched s (t.advance s).1 ↔ t.idle s := by
  obtain ⟨call, stage, tried, moved⟩ := t
  cases stage with
  | find | findTable reservationId seatTableId | readOrderNumber reservationId seatTableId =>
    exact iff_of_true (.refl s) trivial
  | createOrder reservationId seatTableId orderNumber =>
    simp only [TransitionThread.advance, TransitionThread.idle]
    cases hrow : createOrderRow { seatedOrder s (TransitionThread.seating
        ⟨call, .createOrder reservationId seatTableId orderNumber, tried, moved⟩).1 call.ctx
        seatTableId with orderNumber } s with
    | ok orderId s' =>
      obtain ⟨hfree, _, rfl⟩ := createOrderRow_ok.mp hrow
      exact iff_of_false (fun h => insert_ne _ _ h.orders) (not_not_intro hfree)
    | error error s' =>
      cases createOrderRow_atomic _ _ _ hrow
      refine iff_of_true (.refl s) fun hfree => ?_
      have hok := hrow.symm.trans (createOrderRow_ok.mpr ⟨hfree, rfl, rfl⟩)
      cases hok
  | apply reservationId current change =>
    cases change with
    | seat seatTableId seatedOrderId =>
      simp only [TransitionThread.advance, TransitionThread.idle]
      cases hmatched : TransitionThread.matched s
          ⟨call, .apply reservationId current (.seat seatTableId seatedOrderId), tried, moved⟩
          reservationId (.seat seatTableId seatedOrderId) with
      | some was =>
        exact iff_of_false (fun h => write_matched hmatched h.reservations) (by simp)
      | none =>
        refine iff_of_true ?_ rfl
        rw [write_missed hmatched]
        exact .refl s
    | _ => cases h
  | _ => cases h

/-- A call that goes on is a seating that has written what it had and what it writes now. -/
structure Onward (s : Store) (t : TransitionThread) (p : Store × TransitionThread) : Prop where
  call : p.2.call = t.call
  traced : p.2.live = true →
    ∃ traced, p.2.stage.traced = some traced ∧
      (traced = false ↔ t.stage.traced = some false ∧ Untouched s p.1)
  failed : ∀ error, p.2.stage = .done (.error error) → Untouched s p.1

/-- A step that writes nothing and ends the call. -/
theorem Onward.of_done (hcall : u.call = t.call) (hstage : u.stage = .done result) :
    Onward s t (s, u) := by
  refine ⟨hcall, fun h => ?_, fun _ _ => .refl s⟩
  simp only [TransitionThread.live, hstage] at h
  cases h

theorem Onward.of_fail (t : TransitionThread) (error : HttpError) :
    Onward s t (s, t.fail error) :=
  .of_done rfl rfl

/-- A step that writes nothing, to a stage where nothing is written. -/
theorem Onward.of_goto (ht : t.stage.traced = some false) (hstage : stage.traced = some false) :
    Onward s t (s, t.goto stage) := by
  refine ⟨rfl, fun _ => ⟨false, hstage, iff_of_true rfl ⟨ht, .refl s⟩⟩, fun error h => ?_⟩
  simp only [TransitionThread.goto] at h
  rw [h] at hstage
  cases hstage

theorem Onward.of_traced (hstage : u.stage.traced = some true) (hcall : u.call = t.call)
    (hnot : ¬(t.stage.traced = some false ∧ Untouched s r)) : Onward s t (r, u) := by
  refine ⟨hcall, fun _ => ⟨true, hstage, by simpa using hnot⟩, fun error h => ?_⟩
  simp only at h
  rw [h] at hstage
  cases hstage

theorem onward_checked (ht : t.stage.traced = some false)
    (hstage : stage.traced = some false ∨ ∃ error, stage = .done (.error error)) :
    Onward s t (s, t.checked current target stage) := by
  unfold TransitionThread.checked
  split
  · rcases hstage with hstage | ⟨error, rfl⟩
    · exact .of_goto ht hstage
    · exact .of_fail t error
  · exact .of_fail t _

theorem onward_advance (hcall : t.call = .seat reservationId userId ctx dto)
    (hlive : t.stage.traced = some traced) : Onward s t (t.advance s) := by
  obtain ⟨call, stage, tried, moved⟩ := t
  simp only at hcall hlive
  subst hcall
  cases stage with
  | find =>
    simp only [TransitionThread.advance, TransitionThread.read]
    cases s.findReservation ctx reservationId with
    | none => exact .of_fail _ _
    | some row =>
      simp only [TransitionThread.found]
      cases dto.tableId <|> row.tableId with
      | none => exact onward_checked rfl (.inr ⟨_, rfl⟩)
      | some seatTableId => exact onward_checked rfl (.inl rfl)
  | findTable k seatTableId =>
    simp only [TransitionThread.advance]
    cases s.findTable _ seatTableId with
    | none => exact .of_fail _ _
    | some table =>
      simp only
      split
      · exact .of_goto rfl rfl
      · exact .of_goto rfl rfl
  | readOrderNumber k seatTableId => exact .of_goto rfl rfl
  | createOrder k seatTableId orderNumber =>
    simp only [TransitionThread.advance]
    split
    · rename_i orderId s' hrow
      obtain ⟨_, _, rfl⟩ := createOrderRow_ok.mp hrow
      exact .of_traced rfl rfl fun h => insert_ne _ _ h.2.orders
    · rename_i error s' hrow
      cases createOrderRow_atomic _ _ _ hrow
      exact .of_fail _ _
  | apply k current change =>
    cases change with
    | seat seatTableId seatedOrderId =>
      cases hmatched : TransitionThread.matched s
          ⟨.seat reservationId userId ctx dto, .apply k current (.seat seatTableId seatedOrderId),
            tried, moved⟩ k (.seat seatTableId seatedOrderId) with
      | some was =>
        rw [advance_matched rfl hmatched]
        exact .of_traced rfl rfl fun h => write_matched hmatched h.2.reservations
      | none =>
        rw [advance_missed rfl hmatched, write_missed hmatched]
        exact .of_done rfl rfl
    | _ => cases hlive
  | occupy k seatTableId => exact .of_traced rfl rfl fun h => by cases h.1
  | recordEvent k type =>
    refine ⟨rfl, fun h => ?_, fun error h => ?_⟩
    · cases h
    · cases h
  | _ => cases hlive

end

-- ---
-- The whole call
-- ---

theorem noTrace_append (s' : Store) (thread' : TransitionThread)
    {statements : List (Store × Store)} :
    Seating.NoTrace ⟨t, thread, statements ++ [(s, t)]⟩ ↔
      Seating.NoTrace ⟨s', thread', statements⟩ ∧ Untouched s t := by
  simp only [Seating.NoTrace, List.mem_append, List.mem_singleton]
  constructor
  · intro h
    exact ⟨fun w hw => h w (.inl hw), h (s, t) (.inr rfl)⟩
  · rintro ⟨h, hlast⟩ w (hw | rfl)
    · exact h w hw
    · exact hlast

/-- A call under way is a seating, and its stage tells whether it has left a trace. -/
structure Seating.Tells (call : TransitionCall) (r : Seating) : Prop where
  call : r.thread.call = call
  traced : r.thread.live = true →
    ∃ traced, r.thread.stage.traced = some traced ∧ (r.NoTrace ↔ traced = false)

theorem attempt_failed {t : TransitionThread} (hlive : t.live = true)
    (h : fate.error? = some message) : t.attempt s fate =
      (fate.write s (t.advance s).1, t.fail (databaseFailed message)) := by
  simp only [TransitionThread.attempt, h, hlive, if_true]

theorem attempt_dead {t : TransitionThread} (h : t.live = false) : t.attempt s fate = (s, t) := by
  have hadvance : t.advance s = (s, t) := by
    obtain ⟨call, stage, tried, moved⟩ := t
    cases stage with
    | done result => rfl
    | _ => cases h
  cases herror : fate.error? with
  | none => simp only [TransitionThread.attempt, herror, hadvance]
  | some message => simp [TransitionThread.attempt, herror, h]

theorem Seating.Tells.step {r : Seating} (h : r.Tells (.seat reservationId userId ctx dto))
    (turn : SeatTurn) :
    (r.step turn).Tells (.seat reservationId userId ctx dto) := by
  unfold Seating.step
  cases hlive : r.thread.live with
  | false =>
    simp only [attempt_dead hlive]
    refine ⟨h.call, fun hagain => ?_⟩
    rw [hlive] at hagain
    cases hagain
  | true =>
    obtain ⟨traced, hstage, htrace⟩ := h.traced hlive
    cases herror : turn.fate.error? with
    | some message =>
      simp only [attempt_failed hlive herror]
      refine ⟨h.call, fun hagain => ?_⟩
      cases hagain
    | none =>
      have honward := onward_advance (s := turn.meanwhile r.store) h.call hstage
      simp only [TransitionThread.attempt, herror]
      refine ⟨honward.call.trans h.call, fun hagain => ?_⟩
      obtain ⟨traced', hstage', htrace'⟩ := honward.traced hagain
      refine ⟨traced', hstage', ?_⟩
      rw [noTrace_append r.store r.thread, htrace', hstage]
      exact and_congr_left' (htrace.trans (by simp))

theorem tells_foldl (s : Store) (reservationId userId : Id) (ctx : BranchContext)
    (dto : SeatReservationDto) (turns : List SeatTurn) :
    (turns.foldl Seating.step (.start s reservationId userId ctx dto)).Tells
      (.seat reservationId userId ctx dto) := by
  refine (Run.foldl Seating.step _ turns).invariant ⟨rfl, fun _ => ⟨false, rfl, ?_⟩⟩
    fun r turn h _ => h.step turn
  exact iff_of_true (fun w hw => by cases hw) rfl

/-- A seating that ends in an error has left no trace exactly when it failed before anything of it
was written. -/
theorem failed_seating_iff {before : List SeatTurn} {last : SeatTurn} {r : Seating}
    (hr : before.foldl Seating.step (.start s reservationId userId ctx dto) = r)
    (hlive : r.thread.live = true) (hfailed : (r.step last).thread.stage = .done (.error error)) :
    (r.step last).NoTrace ↔ early (last.meanwhile r.store) r.thread last.fate := by
  have htells := tells_foldl s reservationId userId ctx dto before
  rw [hr] at htells
  obtain ⟨traced, hstage, htrace⟩ := htells.traced hlive
  have honward := onward_advance (s := last.meanwhile r.store) htells.call hstage
  unfold Seating.step at hfailed ⊢
  simp only at hfailed ⊢
  rw [noTrace_append r.store r.thread, htrace, early, hstage]
  simp only [Option.some.injEq]
  refine and_congr_right fun hfalse => ?_
  subst hfalse
  have hidle := idle_iff (s := last.meanwhile r.store) hstage
  cases herror : last.fate.error? with
  | none =>
    have hfate : last.fate = .applied := by
      cases hfate : last.fate with
      | applied => rfl
      | refused message | unanswered message => rw [hfate] at herror; cases herror
    simp only [TransitionThread.attempt, herror] at hfailed ⊢
    have huntouched := honward.failed error hfailed
    exact iff_of_true huntouched fun _ => hidle.mp huntouched
  | some message =>
    simp only [attempt_failed hlive herror, Fate.write_eq]
    cases hwritten : last.fate.written with
    | false => exact iff_of_true (.refl _) (fun h => by cases h)
    | true =>
      simp only [if_true, forall_const]
      exact hidle

/-- A confirmed party at a table of its own. -/
def partyExpected : Store where
  tables := Table.empty.insert { orgId := 0, branchId := 0 }
  reservations := Table.empty.insert
    { orgId := 0, branchId := 0, reservationNumber := "RES-000001", reservationAt := 0
      expectedDurationMinutes := none, status := .confirmed, tableId := some 0, createdAt := 0 }

def cancelsMeanwhile : SeatTurn := { meanwhile := fun s => final (cancel 0 ⟨0, 0⟩ s) }

/-- A seating that opens no order loses its reservation. -/
theorem failed_seating_iff_lost :
    let r := [{}, {}].foldl Seating.step (.start partyExpected 0 0 ⟨0, 0⟩ {})
    (r.step cancelsMeanwhile).NoTrace ↔
      early (cancelsMeanwhile.meanwhile r.store) r.thread .applied := by
  intro r
  have hlost : (r.step cancelsMeanwhile).thread.stage = .done (.error modifiedConcurrently) := rfl
  exact failed_seating_iff rfl rfl hlost

/-- The reservation is cancelled after the order of the party is open. -/
theorem failed_seating_leaves_order :
    ¬∀ (s : Store) (reservationId userId : Id) (ctx : BranchContext) (dto : SeatReservationDto)
      (turns : List SeatTurn) (error : HttpError),
      (turns.foldl Seating.step (.start s reservationId userId ctx dto)).thread.stage =
        .done (.error error) →
      (turns.foldl Seating.step (.start s reservationId userId ctx dto)).NoTrace := by
  intro h
  have htrace := h partyExpected 0 0 ⟨0, 0⟩ { createOrder := true }
    [{}, {}, {}, {}, cancelsMeanwhile] modifiedConcurrently rfl
  have hinsert := (htrace _ (List.mem_of_getElem? (i := 3) rfl)).orders
  exact absurd (congrArg Table.next hinsert) (by decide)

end NimbusPos.ReservationsService
