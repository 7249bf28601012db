import NimbusPos.Lib.Run
import NimbusPos.Reservations.Service

/-!
# Racing transitions

The calls that move a reservation, one database statement a step: each reads the
row, checks the transition, and applies it with a compare-and-set on the status.
The call that applied it writes the event. In every interleaving the row takes
statuses along `validTransitions`, each status is left by one call, and once the
calls have ended the event log has one event for each change.
-/

namespace NimbusPos.ReservationsService

open Lib Lib.Service

inductive TransitionCall
  | confirm (reservationId : Id) (ctx : BranchContext)
  | seat (reservationId userId : Id) (ctx : BranchContext) (dto : SeatReservationDto)
  | cancel (reservationId : Id) (ctx : BranchContext)
  | markNoShow (reservationId : Id) (ctx : BranchContext)
  | complete (reservationId : Id) (ctx : BranchContext)
  | completeForClosedOrder (orderId : Id) (ctx : BranchContext)
  deriving DecidableEq, Repr

namespace TransitionCall

def exec : TransitionCall → Db Unit
  | .confirm reservationId ctx => ReservationsService.confirm reservationId ctx
  | .seat reservationId userId ctx dto => ReservationsService.seat reservationId userId ctx dto
  | .cancel reservationId ctx => ReservationsService.cancel reservationId ctx
  | .markNoShow reservationId ctx => ReservationsService.markNoShow reservationId ctx
  | .complete reservationId ctx => ReservationsService.complete reservationId ctx
  | .completeForClosedOrder orderId ctx => ReservationsService.completeForClosedOrder orderId ctx

def ctx : TransitionCall → BranchContext
  | .confirm _ ctx | .seat _ _ ctx _ | .cancel _ ctx | .markNoShow _ ctx | .complete _ ctx
  | .completeForClosedOrder _ ctx => ctx

/-- A completion that finds the reservation completed succeeds without moving it. -/
def completes : TransitionCall → Bool
  | .complete .. | .completeForClosedOrder .. => true
  | _ => false

end TransitionCall

-- ---
-- Statement by statement
-- ---

/-- The compare-and-set of each call. -/
inductive Change
  | confirm
  | seat (seatTableId : Id) (seatedOrderId : Option Id)
  | cancel
  | markNoShow
  | complete
  deriving DecidableEq, Repr

namespace Change

def source : Change → List ReservationStatus
  | .confirm => [.pending]
  | .seat .. => [.confirmed]
  | .cancel | .markNoShow => [.pending, .confirmed]
  | .complete => [.seated]

def target : Change → ReservationStatus
  | .confirm => .confirmed
  | .seat .. => .seated
  | .cancel => .cancelled
  | .markNoShow => .noShow
  | .complete => .completed

def event : Change → ReservationEventType
  | .confirm => .confirmed
  | .seat .. => .seated
  | .cancel => .cancelled
  | .markNoShow => .noShow
  | .complete => .completed

def data (change : Change) (row : Reservation) : Reservation :=
  match change with
  | .seat seatTableId seatedOrderId => seatedReservation seatTableId seatedOrderId row
  | _ => { row with status := change.target }

/-- The compare-and-set, which writes the rows it matches. -/
def write (change : Change) (s : Store) (ctx : BranchContext) (reservationId : Id) : Store :=
  { s with
    reservations :=
      s.reservations.updateWhere (guardMatches reservationId ctx change.source) change.data }

end Change

inductive TransitionStage
  | find
  | findTable (reservationId seatTableId : Id)
  | readOrderNumber (reservationId seatTableId : Id)
  | createOrder (reservationId seatTableId : Id) (orderNumber : String)
  | apply (reservationId : Id) (current : ReservationStatus) (change : Change)
  | occupy (reservationId seatTableId : Id)
  | recordEvent (reservationId : Id) (type : ReservationEventType)
  | resolve (reservationId : Id)
  | done (result : Except HttpError Unit)

/-- The reservation and the status that the call tried to move it from, and the
status it did move it from, are kept. -/
structure TransitionThread where
  call : TransitionCall
  stage : TransitionStage := .find
  tried : Option (Id × ReservationStatus) := none
  moved : Option (Id × ReservationStatus) := none

namespace TransitionThread

def goto (t : TransitionThread) (stage : TransitionStage) : TransitionThread := { t with stage }

def fail (t : TransitionThread) (error : HttpError) : TransitionThread :=
  t.goto (.done (.error error))

/-- The transition check, which reads nothing. -/
def checked (t : TransitionThread) (current target : ReservationStatus) (stage : TransitionStage) :
    TransitionThread :=
  if target ∈ current.validTransitions then t.goto stage
  else
    t.fail (conflict ("Cannot transition from " ++ toString current ++ " to " ++ toString target))

/-- The row a call read, with the reservation it names. -/
def found (t : TransitionThread) (reservationId : Id) (row : Reservation) : TransitionThread :=
  let current := row.status
  match t.call with
  | .confirm .. => t.checked current .confirmed (.apply reservationId current .confirm)
  | .cancel .. => t.checked current .cancelled (.apply reservationId current .cancel)
  | .markNoShow .. => t.checked current .noShow (.apply reservationId current .markNoShow)
  | .complete .. =>
    if current = .completed then t.goto (.done (.ok ()))
    else t.checked current .completed (.apply reservationId current .complete)
  | .completeForClosedOrder .. => t.goto (.apply reservationId current .complete)
  | .seat _ _ _ dto =>
    match dto.tableId <|> row.tableId with
    | some seatTableId => t.checked current .seated (.findTable reservationId seatTableId)
    | none => t.checked current .seated
      (.done (.error (badRequest "A table must be assigned before seating")))

def read (s : Store) (t : TransitionThread) : TransitionThread :=
  match t.call with
  | .confirm reservationId ctx | .seat reservationId _ ctx _ | .cancel reservationId ctx
  | .markNoShow reservationId ctx | .complete reservationId ctx =>
    match s.findReservation ctx reservationId with
    | some row => t.found reservationId row
    | none => t.fail (notFound "Reservation not found")
  | .completeForClosedOrder orderId ctx =>
    match s.reservations.findFirst fun _ row =>
        row.seatedOrderId == some orderId && row.branchId == ctx.branchId &&
          row.orgId == ctx.organizationId && row.status == .seated with
    | some (reservationId, row) => t.found reservationId row
    | none => t.goto (.done (.ok ()))

/-- Who opens the order of a seated party, and whether the request asks for one. -/
def seating (t : TransitionThread) : Id × Bool :=
  match t.call with
  | .seat _ userId _ dto => (userId, dto.createOrder)
  | _ => (0, false)

/-- The status of the row that the compare-and-set finds. -/
def matched (s : Store) (t : TransitionThread) (reservationId : Id) (change : Change) :
    Option ReservationStatus :=
  ((s.reservations.get? reservationId).filter
    (guardMatches reservationId t.call.ctx change.source reservationId)).map (·.status)

/-- What follows a compare-and-set that applied. -/
def afterApply (t : TransitionThread) (reservationId : Id) (change : Change) : TransitionThread :=
  match change with
  | .seat seatTableId _ => t.goto (.occupy reservationId seatTableId)
  | _ => t.goto (.recordEvent reservationId change.event)

/-- What follows one that found no row to move. -/
def afterMiss (t : TransitionThread) (reservationId : Id) : TransitionThread :=
  match t.call with
  | .complete .. => t.goto (.resolve reservationId)
  | .completeForClosedOrder .. => t.goto (.done (.ok ()))
  | _ => t.fail modifiedConcurrently

/-- The next statement of the call. -/
def advance (s : Store) (t : TransitionThread) : Store × TransitionThread :=
  match t.stage with
  | .find => (s, t.read s)
  | .findTable reservationId seatTableId =>
    (s, match s.findTable t.call.ctx seatTableId with
      | none => t.fail (notFound "Table not found in this branch")
      | some _ =>
        if t.seating.2 then t.goto (.readOrderNumber reservationId seatTableId)
        else t.goto (.apply reservationId .confirmed (.seat seatTableId none)))
  | .readOrderNumber reservationId seatTableId =>
    (s, t.goto (.createOrder reservationId seatTableId (generateOrderNumber s t.call.ctx.branchId)))
  | .createOrder reservationId seatTableId orderNumber =>
    match createOrderRow
        { seatedOrder s t.seating.1 t.call.ctx seatTableId with orderNumber } s with
    | .ok orderId s' =>
      (s', t.goto (.apply reservationId .confirmed (.seat seatTableId (some orderId))))
    | .error error s' => (s', t.fail error)
  | .apply reservationId current change =>
    let tried := some (reservationId, current)
    (change.write s t.call.ctx reservationId, match t.matched s reservationId change with
      | some was => { t with tried, moved := some (reservationId, was) }.afterApply reservationId
        change
      | none => { t with tried }.afterMiss reservationId)
  | .occupy reservationId seatTableId =>
    (s.occupyTable seatTableId, t.goto (.recordEvent reservationId .seated))
  | .recordEvent reservationId type =>
    ({ s with reservationEvents := s.reservationEvents.insert { reservationId, type } },
      t.goto (.done (.ok ())))
  | .resolve reservationId =>
    (s, match s.findReservation t.call.ctx reservationId with
      | none => t.fail (notFound "Reservation not found")
      | some fresh =>
        if fresh.status = .completed then t.goto (.done (.ok ()))
        else t.fail (conflict ("Cannot complete reservation in status " ++ toString fresh.status)))
  | .done _ => (s, t)

end TransitionThread

-- ---
-- A call that runs alone
-- ---

def outcome : EStateM.Result HttpError Store Unit → Except HttpError Unit
  | .ok _ _ => .ok ()
  | .error error _ => .error error

/-- The statements of a call, run alone from `t`, do what `x` does. -/
def Does (x : Db Unit) (s : Store) (t : TransitionThread) : Prop :=
  Completes TransitionThread.advance (·.stage = .done (outcome (x s))) s t (final (x s))

section

variable {s s' : Store} {t t' : TransitionThread} {x : Db Unit}

theorem Does.step (h : t.advance s = (s', t')) (hx : x s = y s') (hdoes : Does y s' t') :
    Does x s t := by
  unfold Does at *
  rw [hx]
  exact .step h hdoes

theorem Does.ended (hx : x s = r) (h : t.stage = .done (outcome r)) (hfinal : final r = s) :
    Does x s t := by
  unfold Does
  rw [hx, hfinal]
  exact .of_ended h

theorem Does.of_run (h : x s = y s) (hdoes : Does y s t) : Does x s t := by
  unfold Does
  rw [h]
  exact hdoes

theorem count_matched (t : TransitionThread) (s : Store) (reservationId : Id) (change : Change) :
    decide (0 < s.reservations.count
        (guardMatches reservationId t.call.ctx change.source)) =
      (t.matched s reservationId change).isSome := by
  rw [Bool.eq_iff_iff, decide_eq_true_iff, Table.count_pos, TransitionThread.matched,
    Option.isSome_map, Option.isSome_iff_exists]
  simp only [Option.filter_eq_some_iff]
  constructor
  · rintro ⟨k, row, hget, hp⟩
    obtain rfl : k = reservationId := by
      simp only [guardMatches, Bool.and_eq_true, beq_iff_eq] at hp
      exact hp.1.1.1
    exact ⟨row, hget, hp⟩
  · rintro ⟨row, hget, hp⟩
    exact ⟨reservationId, row, hget, hp⟩

theorem run_apply (t : TransitionThread) (s : Store) (reservationId : Id) (change : Change) :
    applyGuardedTransition reservationId t.call.ctx change.source change.data s =
      .ok (t.matched s reservationId change).isSome (change.write s t.call.ctx reservationId) := by
  rw [← count_matched]
  rfl

theorem does_recordEvent (h : t.stage = .recordEvent reservationId type) :
    Does (recordEvent reservationId type) s t := by
  obtain ⟨call, _, tried, moved⟩ := t
  cases h
  exact .step (y := pure ()) rfl rfl (.ended rfl rfl rfl)

theorem advance_matched (h : t.stage = .apply reservationId current change)
    (hm : t.matched s reservationId change = some was) :
    t.advance s = (change.write s t.call.ctx reservationId,
      { t with tried := some (reservationId, current), moved := some (reservationId, was)
        }.afterApply reservationId change) := by
  simp only [TransitionThread.advance, h, hm]

theorem advance_missed (h : t.stage = .apply reservationId current change)
    (hm : t.matched s reservationId change = none) :
    t.advance s = (change.write s t.call.ctx reservationId,
      { t with tried := some (reservationId, current) }.afterMiss reservationId) := by
  simp only [TransitionThread.advance, h, hm]

/-- A compare-and-set, with what follows it when it applied and when it did not. -/
theorem does_apply (change : Change) (u : TransitionThread) {next : Bool → Db Unit}
    (happlied : ∀ (v : TransitionThread) s', v.call = u.call →
      Does (next true) s' (v.afterApply reservationId change))
    (hmissed : ∀ (v : TransitionThread) s', v.call = u.call →
      Does (next false) s' (v.afterMiss reservationId)) :
    Does (applyGuardedTransition reservationId u.call.ctx change.source change.data >>= next) s
      (u.goto (.apply reservationId current change)) := by
  have hrun := run_apply u s reservationId change
  cases hm : u.matched s reservationId change with
  | some was =>
    rw [hm] at hrun
    refine .step (y := next true) (advance_matched rfl hm) ?_ (happlied _ _ rfl)
    rw [run_bind, hrun]
    rfl
  | none =>
    rw [hm] at hrun
    refine .step (y := next false) (advance_missed rfl hm) ?_ (hmissed _ _ rfl)
    rw [run_bind, hrun]
    rfl

theorem does_fail (t : TransitionThread) (error : HttpError) :
    Does (throw error) s (t.fail error) :=
  .ended rfl rfl rfl

/-- The calls that report a lost race. -/
theorem does_missed {v : TransitionThread} (hcall : v.call = call)
    (h : call.completes = false) :
    Does (throw modifiedConcurrently) s (v.afterMiss reservationId) := by
  have hmiss : v.afterMiss reservationId = v.fail modifiedConcurrently := by
    unfold TransitionThread.afterMiss
    rw [hcall]
    cases call with
    | complete | completeForClosedOrder => cases h
    | confirm | seat | cancel | markNoShow => rfl
  rw [hmiss]
  exact does_fail v _

theorem does_checked {f : Unit → Db Unit}
    (h : target ∈ current.validTransitions → Does (f ()) s (t.goto stage)) :
    Does (assertTransition current target >>= f) s (t.checked current target stage) := by
  unfold TransitionThread.checked
  by_cases hvalid : target ∈ current.validTransitions
  · have hrun : (assertTransition current target >>= f) s = f () s := by
      rw [run_bind, assertTransition, run_ensure, if_pos (by simpa using hvalid)]
    rw [if_pos hvalid]
    exact .of_run hrun (h hvalid)
  · rw [if_neg hvalid]
    have hrun : (assertTransition current target >>= f) s = .error
        (conflict ("Cannot transition from " ++ toString current ++ " to " ++ toString target))
        s := by
      rw [run_bind, assertTransition, run_ensure, if_neg (by simpa using hvalid)]
    exact .ended hrun rfl rfl

theorem does_find {f : Reservation → Db Unit} (h : t.stage = .find)
    (hread : t.read s = match s.findReservation ctx reservationId with
      | some row => t.found reservationId row
      | none => t.fail (notFound "Reservation not found"))
    (hfound : ∀ row, s.findReservation ctx reservationId = some row →
      Does (f row) s (t.found reservationId row)) :
    Does (findOneOrFail reservationId ctx >>= f) s t := by
  have hadvance : t.advance s = (s, t.read s) := by simp only [TransitionThread.advance, h]
  cases hfind : s.findReservation ctx reservationId with
  | some row =>
    rw [hread, hfind] at hadvance
    refine .step hadvance ?_ (hfound row hfind)
    simp only [findOneOrFail, run_bind, run_get, hfind, run_need_some]
  | none =>
    rw [hread, hfind] at hadvance
    refine .step (y := throw (notFound "Reservation not found")) hadvance ?_ (.ended rfl rfl rfl)
    simp only [findOneOrFail, run_bind, run_get, hfind, run_need_none]
    rfl

theorem does_confirm (reservationId : Id) (ctx : BranchContext) :
    Does (confirm reservationId ctx) s { call := .confirm reservationId ctx } := by
  unfold confirm
  refine does_find rfl rfl fun row _ => does_checked fun _ => ?_
  exact does_apply .confirm { call := .confirm reservationId ctx }
    (fun _ _ _ => does_recordEvent rfl) fun _ _ hcall => does_missed hcall rfl

theorem does_cancel (reservationId : Id) (ctx : BranchContext) :
    Does (cancel reservationId ctx) s { call := .cancel reservationId ctx } := by
  unfold cancel withdraw
  refine does_find rfl rfl fun row _ => does_checked fun _ => ?_
  exact does_apply .cancel { call := .cancel reservationId ctx }
    (fun _ _ _ => does_recordEvent rfl) fun _ _ hcall => does_missed hcall rfl

theorem does_markNoShow (reservationId : Id) (ctx : BranchContext) :
    Does (markNoShow reservationId ctx) s { call := .markNoShow reservationId ctx } := by
  unfold markNoShow withdraw
  refine does_find rfl rfl fun row _ => does_checked fun _ => ?_
  exact does_apply .markNoShow { call := .markNoShow reservationId ctx }
    (fun _ _ _ => does_recordEvent rfl) fun _ _ hcall => does_missed hcall rfl

theorem does_resolve (h : t.stage = .resolve reservationId) :
    Does (resolveLostRace reservationId t.call.ctx) s t := by
  have hadvance : t.advance s = (s, match s.findReservation t.call.ctx reservationId with
      | none => t.fail (notFound "Reservation not found")
      | some fresh =>
        if fresh.status = .completed then t.goto (.done (.ok ()))
        else t.fail (conflict ("Cannot complete reservation in status " ++ toString fresh.status)))
      := by
    simp only [TransitionThread.advance, h]
  cases hfind : s.findReservation t.call.ctx reservationId with
  | none =>
    rw [hfind] at hadvance
    refine .step (y := throw (notFound "Reservation not found")) hadvance ?_ (does_fail t _)
    simp only [resolveLostRace, findOneOrFail, run_bind, run_get, hfind, run_need_none]
    rfl
  | some fresh =>
    rw [hfind] at hadvance
    have hrun : resolveLostRace reservationId t.call.ctx s =
        if fresh.status == .completed then .ok () s
        else .error
          (conflict ("Cannot complete reservation in status " ++ toString fresh.status)) s := by
      simp only [resolveLostRace, findOneOrFail, run_bind, run_get, hfind, run_need_some,
        run_ensure]
    by_cases hcompleted : fresh.status = .completed
    · simp only [hcompleted, if_true] at hadvance
      refine .step (y := pure ()) hadvance ?_ (.ended rfl rfl rfl)
      rw [hrun, hcompleted]
      rfl
    · simp only [hcompleted, if_false] at hadvance
      refine .step (y := throw _) hadvance ?_ (does_fail t _)
      rw [hrun, if_neg (by simpa using hcompleted)]
      rfl

theorem does_complete (reservationId : Id) (ctx : BranchContext) :
    Does (complete reservationId ctx) s { call := .complete reservationId ctx } := by
  unfold complete
  refine does_find rfl rfl fun row _ => ?_
  unfold TransitionThread.found
  by_cases hcompleted : row.status = .completed
  · simp only [hcompleted, if_true]
    exact .ended rfl rfl rfl
  · simp only [hcompleted, if_false]
    refine does_checked fun _ => ?_
    refine does_apply .complete { call := .complete reservationId ctx }
      (fun _ _ _ => does_recordEvent rfl) fun v s' hcall => ?_
    have hmiss : v.afterMiss reservationId = v.goto (.resolve reservationId) := by
      unfold TransitionThread.afterMiss
      rw [hcall]
    have hctx : (v.goto (.resolve reservationId)).call.ctx = ctx := by
      show v.call.ctx = ctx
      rw [hcall]
      rfl
    rw [hmiss, ← hctx]
    exact does_resolve rfl

theorem does_completeForClosedOrder (orderId : Id) (ctx : BranchContext) :
    Does (completeForClosedOrder orderId ctx) s
      { call := .completeForClosedOrder orderId ctx } := by
  let start : TransitionThread := { call := .completeForClosedOrder orderId ctx }
  unfold completeForClosedOrder
  cases hfind : s.reservations.findFirst fun _ row =>
      row.seatedOrderId == some orderId && row.branchId == ctx.branchId &&
        row.orgId == ctx.organizationId && row.status == .seated with
  | none =>
    have hadvance : start.advance s = (s, start.goto (.done (.ok ()))) := by
      simp only [start, TransitionThread.advance, TransitionThread.read, hfind]
    refine .step (y := pure ()) hadvance ?_ (.ended rfl rfl rfl)
    simp only [run_bind, run_get, hfind]
  | some found =>
    obtain ⟨reservationId, row⟩ := found
    have hadvance : start.advance s =
        (s, start.goto (.apply reservationId row.status .complete)) := by
      simp only [start, TransitionThread.advance, TransitionThread.read, hfind,
        TransitionThread.found]
    have hdoes : Does (do
        let applied ← applyGuardedTransition reservationId ctx [.seated] fun row =>
          { row with status := .completed }
        if applied then recordEvent reservationId .completed else pure ()) s
        (start.goto (.apply reservationId row.status .complete)) := by
      refine does_apply .complete start (fun _ _ _ => does_recordEvent rfl)
        fun v s' hcall => ?_
      have hmiss : v.afterMiss reservationId = v.goto (.done (.ok ())) := by
        unfold TransitionThread.afterMiss
        rw [hcall]
      rw [hmiss]
      exact .ended rfl rfl rfl
    refine .step hadvance ?_ hdoes
    simp only [run_bind, run_get, hfind]

/-- The compare-and-set of a seating, and what follows. -/
theorem does_applySeat (u : TransitionThread) (hcall : u.call = .seat reservationId userId ctx dto)
    (seatTableId : Id) (seatedOrderId : Option Id) :
    Does (do
      let applied ← applyGuardedTransition reservationId ctx [.confirmed]
        (seatedReservation seatTableId seatedOrderId)
      ensure applied modifiedConcurrently
      modify (·.occupyTable seatTableId)
      recordEvent reservationId .seated) s
      (u.goto (.apply reservationId .confirmed (.seat seatTableId seatedOrderId))) := by
  have hctx : u.call.ctx = ctx := by
    rw [hcall]
    rfl
  rw [← hctx]
  refine does_apply (.seat seatTableId seatedOrderId) u (fun v s' _ => ?_)
    fun _ _ hv => does_missed (hv.trans hcall) rfl
  have hadvance : (v.goto (.occupy reservationId seatTableId)).advance s' =
      (s'.occupyTable seatTableId, v.goto (.recordEvent reservationId .seated)) := rfl
  exact .step (y := recordEvent reservationId .seated) hadvance rfl (does_recordEvent rfl)

theorem does_seat (reservationId userId : Id) (ctx : BranchContext) (dto : SeatReservationDto) :
    Does (seat reservationId userId ctx dto) s { call := .seat reservationId userId ctx dto } := by
  let start : TransitionThread := { call := .seat reservationId userId ctx dto }
  unfold seat
  refine does_find rfl rfl fun row _ => ?_
  unfold TransitionThread.found
  simp only
  cases htable : dto.tableId <|> row.tableId with
  | none => exact does_checked fun _ => .ended rfl rfl rfl
  | some seatTableId =>
    refine does_checked fun _ => ?_
    have hadvance : (start.goto (.findTable reservationId seatTableId)).advance s =
        (s, match s.findTable ctx seatTableId with
          | none => start.fail (notFound "Table not found in this branch")
          | some _ =>
            if dto.createOrder then start.goto (.readOrderNumber reservationId seatTableId)
            else start.goto (.apply reservationId .confirmed (.seat seatTableId none))) := rfl
    cases hfound : s.findTable ctx seatTableId with
    | none =>
      rw [hfound] at hadvance
      refine .step (y := throw _) hadvance ?_ (does_fail start _)
      simp only [run_bind, run_need_some, run_get, hfound, run_need_none]
      rfl
    | some table =>
      rw [hfound] at hadvance
      cases hasked : dto.createOrder with
      | false =>
        simp only [hasked, Bool.false_eq_true, if_false] at hadvance
        refine .step hadvance ?_ (does_applySeat start rfl seatTableId none)
        simp only [run_bind, run_need_some, run_get, hfound, createSeatedOrder, run_pure]
      | true =>
        simp only [hasked, if_true] at hadvance
        -- the order number is read, and then the order is inserted
        let orderNumber := generateOrderNumber s ctx.branchId
        have hread : (start.goto (.readOrderNumber reservationId seatTableId)).advance s =
            (s, start.goto (.createOrder reservationId seatTableId orderNumber)) := rfl
        have hcreate :
            (start.goto (.createOrder reservationId seatTableId orderNumber)).advance s =
            match createOrderRow (seatedOrder s userId ctx seatTableId) s with
            | .ok orderId s' =>
              (s', start.goto (.apply reservationId .confirmed (.seat seatTableId (some orderId))))
            | .error error s' => (s', start.fail error) := rfl
        refine .step hadvance rfl (.step hread rfl ?_)
        cases horder : createOrderRow (seatedOrder s userId ctx seatTableId) s with
        | ok orderId s' =>
          rw [horder] at hcreate
          refine .step hcreate ?_ (does_applySeat start rfl seatTableId (some orderId))
          simp only [run_bind, run_need_some, run_get, hfound, createSeatedOrder, horder, run_pure]
        | error error s' =>
          rw [horder] at hcreate
          refine .step (y := throw error) hcreate ?_ (does_fail start error)
          simp only [run_bind, run_need_some, run_get, hfound, createSeatedOrder, horder]
          rfl

end

/-- Alone, the statements of a call do what the call does. -/
theorem does_call (s : Store) (call : TransitionCall) : Does call.exec s { call } := by
  cases call with
  | confirm reservationId ctx => exact does_confirm reservationId ctx
  | seat reservationId userId ctx dto => exact does_seat reservationId userId ctx dto
  | cancel reservationId ctx => exact does_cancel reservationId ctx
  | markNoShow reservationId ctx => exact does_markNoShow reservationId ctx
  | complete reservationId ctx => exact does_complete reservationId ctx
  | completeForClosedOrder orderId ctx => exact does_completeForClosedOrder orderId ctx

end NimbusPos.ReservationsService
