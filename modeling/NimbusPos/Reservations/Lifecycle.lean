import Mathlib.Data.List.Chain
import NimbusPos.Reservations.Races

/-!
# The life of a reservation

One reservation is watched while any calls that move reservations race. The
statuses it takes follow `validTransitions`; a status is left by the one call
whose compare-and-set found it; and the events in the log and those still to be
written are together one for each change.
-/

namespace NimbusPos.ReservationsService

open Lib Lib.Service

def statusOf (s : Store) (k : Id) : Option ReservationStatus :=
  (s.reservations.get? k).map (·.status)

/-- The events of one kind in the log of a reservation. -/
def eventsOf (s : Store) (k : Id) (type : ReservationEventType) : Nat :=
  s.reservationEvents.count fun _ event => event.reservationId == k && event.type == type

/-- The event that a change into the status writes. -/
def eventInto : ReservationStatus → ReservationEventType
  | .pending => .created
  | .confirmed => .confirmed
  | .seated => .seated
  | .completed => .completed
  | .cancelled => .cancelled
  | .noShow => .noShow

-- ---
-- Sequences of statuses
-- ---

/-- Each status follows the one before it. -/
def Follows (statuses : List ReservationStatus) : Prop :=
  statuses.IsChain fun a b => b ∈ a.validTransitions

/-- No transition leads back to an earlier rank. -/
def rank : ReservationStatus → Nat
  | .pending => 0
  | .confirmed => 1
  | .seated => 2
  | .completed | .cancelled | .noShow => 3

theorem rank_lt (h : target ∈ status.validTransitions) : rank status < rank target := by
  cases status <;> cases target <;> revert h <;> decide

theorem Follows.nodup (h : Follows statuses) : statuses.Nodup := by
  have hrank : (statuses.map rank).IsChain (· < ·) :=
    (List.isChain_map rank).mpr (h.imp fun _ _ => rank_lt)
  have hpairwise := List.pairwise_map.mp (List.isChain_iff_pairwise.mp hrank)
  exact hpairwise.imp fun hlt heq => absurd (heq ▸ hlt) (Nat.lt_irrefl _)

theorem Follows.snoc (h : Follows (before ++ [current])) (hnext : next ∈ current.validTransitions) :
    Follows (before ++ [current] ++ [next]) := by
  refine List.isChain_append.mpr ⟨h, .singleton _, fun a ha b hb => ?_⟩
  rw [List.getLast?_concat, Option.mem_some_iff] at ha
  cases hb
  exact ha ▸ hnext

-- ---
-- Watching one reservation
-- ---

/-- The store, and the statuses the reservation has left so far, oldest first. -/
structure Watch where
  store : Store
  left : List ReservationStatus := []

namespace Watch

/-- The statuses the reservation has taken. -/
def taken (k : Id) (w : Watch) : List ReservationStatus := w.left ++ (statusOf w.store k).toList

def see (k : Id) (w : Watch) (s : Store) : Watch where
  store := s
  left := if statusOf s k = statusOf w.store k then w.left
    else w.left ++ (statusOf w.store k).toList

def advance (k : Id) (w : Watch) (t : TransitionThread) : Watch × TransitionThread :=
  (w.see k (t.advance w.store).1, (t.advance w.store).2)

end Watch

namespace TransitionThread

/-- The call moved the reservation out of the status. -/
def movedFrom (k : Id) (status : ReservationStatus) (t : TransitionThread) : Nat :=
  if t.moved = some (k, status) then 1 else 0

/-- The call moved the reservation and has still to write the event. -/
def owes (k : Id) (type : ReservationEventType) (t : TransitionThread) : Nat :=
  match t.stage with
  | .occupy reservationId _ => if reservationId = k ∧ .seated = type then 1 else 0
  | .recordEvent reservationId owed => if reservationId = k ∧ owed = type then 1 else 0
  | _ => 0

end TransitionThread

namespace TransitionStage

/-- The reservation, with the status read, that a call is about to move. -/
def aims : TransitionStage → Option (Id × ReservationStatus)
  | .findTable reservationId _ | .readOrderNumber reservationId _
  | .createOrder reservationId _ _ => some (reservationId, .confirmed)
  | .apply reservationId current _ => some (reservationId, current)
  | _ => none

/-- The compare-and-set is still to come. -/
def before : TransitionStage → Bool
  | .find | .findTable .. | .readOrderNumber .. | .createOrder .. | .apply .. => true
  | _ => false

end TransitionStage

-- ---
-- One statement
-- ---

variable {s : Store} {t : TransitionThread}

/-- What a statement leaves of the watched reservation, its log and what is owed
to it. -/
def Settles (k : Id) (status : ReservationStatus) (s : Store) (t : TransitionThread) : Prop :=
  (statusOf (t.advance s).1 k = some status ∧
    (∀ a, (t.advance s).2.movedFrom k a = t.movedFrom k a) ∧
    ∀ type, eventsOf (t.advance s).1 k type + (t.advance s).2.owes k type =
      eventsOf s k type + t.owes k type) ∨
  ∃ target ∈ status.validTransitions, statusOf (t.advance s).1 k = some target ∧
    (∀ a, (t.advance s).2.movedFrom k a = t.movedFrom k a + if a = status then 1 else 0) ∧
    ∀ type, eventsOf (t.advance s).1 k type + (t.advance s).2.owes k type =
      eventsOf s k type + t.owes k type + if eventInto target = type then 1 else 0

theorem source_valid {change : Change} (h : status ∈ change.source) :
    change.target ∈ status.validTransitions := by
  cases change <;> cases status <;>
    simp_all [Change.source, Change.target, ReservationStatus.validTransitions]

theorem target_event (change : Change) : eventInto change.target = change.event := by
  cases change <;> rfl

theorem data_status (change : Change) (row : Reservation) :
    (change.data row).status = change.target := by
  cases change <;> rfl

theorem matched_some (h : t.matched s reservationId change = some status) :
    ∃ row, s.reservations.get? reservationId = some row ∧ row.status = status ∧
      status ∈ change.source := by
  obtain ⟨row, hrow, rfl⟩ := Option.map_eq_some_iff.mp h
  obtain ⟨hget, hguard⟩ := Option.filter_eq_some_iff.mp hrow
  simp only [guardMatches, Bool.and_eq_true, List.contains_iff_mem] at hguard
  exact ⟨row, hget, rfl, hguard.2⟩

/-- The status after a compare-and-set. -/
theorem statusOf_write (t : TransitionThread) (s : Store) (change : Change) (reservationId k : Id) :
    statusOf (change.write s t.call.ctx reservationId) k =
      if k = reservationId ∧ (t.matched s reservationId change).isSome then some change.target
      else statusOf s k := by
  unfold statusOf Change.write TransitionThread.matched
  simp only [Table.get?_updateWhere]
  by_cases hk : k = reservationId
  · subst hk
    cases hget : s.reservations.get? k with
    | none => simp
    | some row =>
      by_cases hguard : guardMatches k t.call.ctx change.source k row = true
      · simp [hguard, Option.filter_some, data_status]
      · simp [hguard, Option.filter_some]
  · have hno (row : Reservation) :
        guardMatches reservationId t.call.ctx change.source k row = false := by
      simp [guardMatches, hk]
    simp [hk, hno]

theorem settles_quiet (hstatus : statusOf s k = some status)
    (hrows : (t.advance s).1.reservations = s.reservations)
    (hevents : (t.advance s).1.reservationEvents = s.reservationEvents)
    (hmoved : (t.advance s).2.moved = t.moved)
    (howes : ∀ type, (t.advance s).2.owes k type = t.owes k type) : Settles k status s t := by
  refine .inl ⟨?_, fun a => ?_, fun type => ?_⟩
  · rw [statusOf, hrows]
    exact hstatus
  · rw [TransitionThread.movedFrom, hmoved]
    rfl
  · rw [howes, eventsOf, hevents]
    rfl

/-- The thread goes on, having moved nothing and owing nothing. -/
structure GoesOn (t u : TransitionThread) : Prop where
  call : u.call = t.call
  moved : u.moved = t.moved
  tried : u.tried = t.tried
  owes : ∀ k type, u.owes k type = 0

theorem goesOn_checked (t : TransitionThread) (current target : ReservationStatus)
    (hstage : GoesOn t (t.goto stage)) : GoesOn t (t.checked current target stage) := by
  unfold TransitionThread.checked
  split
  · exact hstage
  · exact ⟨rfl, rfl, rfl, fun _ _ => rfl⟩

theorem goesOn_found (t : TransitionThread) (reservationId : Id) (row : Reservation) :
    GoesOn t (t.found reservationId row) := by
  unfold TransitionThread.found
  cases t.call with
  | confirm | cancel | markNoShow =>
    exact goesOn_checked t _ _ ⟨rfl, rfl, rfl, fun _ _ => rfl⟩
  | complete =>
    simp only
    split
    · exact ⟨rfl, rfl, rfl, fun _ _ => rfl⟩
    · exact goesOn_checked t _ _ ⟨rfl, rfl, rfl, fun _ _ => rfl⟩
  | completeForClosedOrder => exact ⟨rfl, rfl, rfl, fun _ _ => rfl⟩
  | seat _ _ _ dto =>
    simp only
    split <;> exact goesOn_checked t _ _ ⟨rfl, rfl, rfl, fun _ _ => rfl⟩

theorem goesOn_read (t : TransitionThread) (s : Store) : GoesOn t (t.read s) := by
  unfold TransitionThread.read
  cases t.call with
  | completeForClosedOrder =>
    simp only
    split
    · exact goesOn_found t _ _
    · exact ⟨rfl, rfl, rfl, fun _ _ => rfl⟩
  | confirm | seat | cancel | markNoShow | complete =>
    simp only
    split
    · exact goesOn_found t _ _
    · exact ⟨rfl, rfl, rfl, fun _ _ => rfl⟩

theorem createOrderRow_rows {order : Order} {r : EStateM.Result HttpError Store Id}
    (h : createOrderRow order s = r) :
    (final r).reservations = s.reservations ∧
      (final r).reservationEvents = s.reservationEvents := by
  cases r with
  | ok orderId s' =>
    obtain ⟨_, _, rfl⟩ := createOrderRow_ok.mp h
    exact ⟨rfl, rfl⟩
  | error error s' =>
    cases createOrderRow_atomic _ _ _ h
    exact ⟨rfl, rfl⟩

theorem afterApply_owes (t : TransitionThread) (reservationId : Id) (change : Change) :
    (t.afterApply reservationId change).owes k type =
      if reservationId = k ∧ change.event = type then 1 else 0 := by
  cases change <;> rfl

theorem afterApply_moved (t : TransitionThread) (reservationId : Id) (change : Change) :
    (t.afterApply reservationId change).moved = t.moved := by
  cases change <;> rfl

/-- A compare-and-set that found its row moves it, and the thread owes the event. -/
theorem settles_apply (hstage : t.stage = .apply reservationId current change)
    (hstatus : statusOf s k = some status) (hmoved : t.moved = none) :
    Settles k status s t := by
  have howes (type : ReservationEventType) : t.owes k type = 0 := by
    unfold TransitionThread.owes
    rw [hstage]
  cases hm : t.matched s reservationId change with
  | none =>
    have hadvance := advance_missed hstage hm
    have hstatus' := statusOf_write t s change reservationId k
    rw [hm, Option.isSome_none, if_neg (by simp), hstatus] at hstatus'
    have hrest : ({ t with tried := some (reservationId, current) }.afterMiss
        reservationId).moved = t.moved ∧
        ∀ type, ({ t with tried := some (reservationId, current) }.afterMiss
          reservationId).owes k type = 0 := by
      unfold TransitionThread.afterMiss
      split <;> exact ⟨rfl, fun _ => rfl⟩
    refine .inl ?_
    rw [hadvance]
    refine ⟨hstatus', fun a => ?_, fun type => ?_⟩
    · rw [TransitionThread.movedFrom, hrest.1]
      rfl
    · rw [hrest.2, howes]
      rfl
  | some was =>
    obtain ⟨row, hget, rfl, hsource⟩ := matched_some hm
    have hadvance := advance_matched hstage hm
    have hstatus' := statusOf_write t s change reservationId k
    simp only [hm, Option.isSome_some, and_true] at hstatus'
    by_cases hk : k = reservationId
    · subst hk
      have hwas : row.status = status := by
        rw [statusOf, hget] at hstatus
        exact Option.some.inj hstatus
      rw [if_pos rfl] at hstatus'
      refine .inr ⟨change.target, hwas ▸ source_valid hsource, ?_⟩
      rw [hadvance]
      refine ⟨hstatus', fun a => ?_, fun type => ?_⟩
      · rw [TransitionThread.movedFrom, TransitionThread.movedFrom, afterApply_moved, hmoved, hwas]
        simp [eq_comm]
      · rw [afterApply_owes, howes, target_event]
        simp [eventsOf, Change.write]
    · rw [if_neg hk] at hstatus'
      refine .inl ?_
      rw [hadvance]
      refine ⟨hstatus'.trans hstatus, fun a => ?_, fun type => ?_⟩
      · rw [TransitionThread.movedFrom, TransitionThread.movedFrom, afterApply_moved, hmoved]
        simp [Ne.symm hk]
      · rw [afterApply_owes, howes, if_neg fun h => hk h.1.symm]
        rfl

/-- Every statement leaves the watched reservation where it was, or moves it along
a valid transition for one caller, which then owes the event. -/
theorem settles (hstatus : statusOf s k = some status)
    (hfresh : t.stage.before = true → t.moved = none) : Settles k status s t := by
  obtain ⟨call, stage, tried, moved⟩ := t
  cases stage with
  | find =>
    have hread := goesOn_read { call, stage := .find, tried, moved } s
    exact settles_quiet hstatus rfl rfl hread.moved fun type => hread.owes k type
  | findTable reservationId seatTableId =>
    have hrest : ((TransitionThread.mk call (.findTable reservationId seatTableId) tried
        moved).advance s).2.moved = moved ∧ ∀ type, ((TransitionThread.mk call
          (.findTable reservationId seatTableId) tried moved).advance s).2.owes k type = 0 := by
      simp only [TransitionThread.advance]
      split
      · exact ⟨rfl, fun _ => rfl⟩
      · split <;> exact ⟨rfl, fun _ => rfl⟩
    exact settles_quiet hstatus rfl rfl hrest.1 hrest.2
  | readOrderNumber reservationId seatTableId =>
    exact settles_quiet hstatus rfl rfl rfl fun _ => rfl
  | createOrder reservationId seatTableId orderNumber =>
    let t : TransitionThread :=
      { call, stage := .createOrder reservationId seatTableId orderNumber, tried, moved }
    cases horder : createOrderRow
        { seatedOrder s t.seating.1 t.call.ctx seatTableId with orderNumber } s with
    | ok orderId s' =>
      have hadvance : t.advance s = (s', t.goto
          (.apply reservationId .confirmed (.seat seatTableId (some orderId)))) := by
        simp only [t, TransitionThread.advance] at horder ⊢
        rw [horder]
      obtain ⟨hrows, hevents⟩ := createOrderRow_rows horder
      refine settles_quiet (t := t) hstatus ?_ ?_ ?_ fun type => ?_
      all_goals rw [hadvance]
      · exact hrows
      · exact hevents
      · rfl
      · rfl
    | error error s' =>
      have hadvance : t.advance s = (s', t.fail error) := by
        simp only [t, TransitionThread.advance] at horder ⊢
        rw [horder]
      obtain ⟨hrows, hevents⟩ := createOrderRow_rows horder
      refine settles_quiet (t := t) hstatus ?_ ?_ ?_ fun type => ?_
      all_goals rw [hadvance]
      · exact hrows
      · exact hevents
      · rfl
      · rfl
  | apply reservationId current change => exact settles_apply rfl hstatus (hfresh rfl)
  | occupy reservationId seatTableId =>
    exact settles_quiet hstatus rfl rfl rfl fun _ => rfl
  | recordEvent reservationId owed =>
    refine .inl ⟨hstatus, fun _ => rfl, fun type => ?_⟩
    simp only [TransitionThread.advance, eventsOf, Table.count_insert, TransitionThread.owes,
      TransitionThread.goto, Bool.and_eq_true, beq_iff_eq]
    rfl
  | resolve reservationId =>
    have hrest : ((TransitionThread.mk call (.resolve reservationId) tried moved).advance
        s).2.moved = moved ∧ ∀ type, ((TransitionThread.mk call (.resolve reservationId) tried
          moved).advance s).2.owes k type = 0 := by
      simp only [TransitionThread.advance]
      split
      · exact ⟨rfl, fun _ => rfl⟩
      · split <;> exact ⟨rfl, fun _ => rfl⟩
    exact settles_quiet hstatus rfl rfl hrest.1 hrest.2
  | done result => exact settles_quiet hstatus rfl rfl rfl fun _ => rfl

-- ---
-- What a call has read
-- ---

/-- How the first read of a call ends. -/
inductive ReadEnds (s : Store) (t : TransitionThread) : TransitionThread → Prop
  | refused (error : HttpError) : ReadEnds s t (t.fail error)
  | nothing (hcall : t.call.completes = true) : ReadEnds s t (t.goto (.done (.ok ())))
  | aimed (reservationId : Id) (row : Reservation) (stage : TransitionStage)
      (hfind : s.findReservation t.call.ctx reservationId = some row)
      (haims : stage.aims = some (reservationId, row.status)) (hbefore : stage.before = true)
      (hsource : ∀ k current change, stage = .apply k current change → current ∈ change.source) :
      ReadEnds s t (t.goto stage)

theorem readEnds_checked {row : Reservation}
    (hstage : target ∈ row.status.validTransitions → ReadEnds s t (t.goto stage)) :
    ReadEnds s t (t.checked row.status target stage) := by
  unfold TransitionThread.checked
  split
  · rename_i hvalid
    exact hstage hvalid
  · exact .refused _

theorem valid_source {change : Change} (h : change.target ∈ status.validTransitions) :
    status ∈ change.source := by
  cases change <;> cases status <;>
    simp_all [Change.source, Change.target, ReservationStatus.validTransitions]

theorem readEnds_apply {row : Reservation} (change : Change)
    (hfind : s.findReservation t.call.ctx reservationId = some row)
    (hvalid : change.target ∈ row.status.validTransitions) :
    ReadEnds s t (t.goto (.apply reservationId row.status change)) := by
  refine .aimed reservationId row _ hfind rfl rfl fun k current change' h => ?_
  cases h
  exact valid_source hvalid

theorem readEnds_found (row : Reservation)
    (hfind : s.findReservation t.call.ctx reservationId = some row)
    (hseated : ∀ orderId ctx, t.call = .completeForClosedOrder orderId ctx →
      row.status = .seated) :
    ReadEnds s t (t.found reservationId row) := by
  unfold TransitionThread.found
  cases hcall : t.call with
  | confirm => exact readEnds_checked fun h => readEnds_apply .confirm hfind h
  | cancel => exact readEnds_checked fun h => readEnds_apply .cancel hfind h
  | markNoShow =>
    exact readEnds_checked fun h => readEnds_apply .markNoShow hfind h
  | complete =>
    simp only
    split
    · exact .nothing (by rw [hcall]; rfl)
    · exact readEnds_checked fun h => readEnds_apply .complete hfind h
  | completeForClosedOrder orderId ctx =>
    refine readEnds_apply .complete hfind ?_
    rw [hseated orderId ctx hcall]
    decide
  | seat _ _ _ dto =>
    simp only
    split
    · refine readEnds_checked fun h => .aimed reservationId row _ hfind ?_ rfl ?_
      · have hconfirmed : row.status ∈ Change.source (.seat 0 none) := valid_source h
        rw [List.mem_singleton.mp hconfirmed]
        rfl
      · intro k current change h
        cases h
    · exact readEnds_checked fun _ => .refused _

theorem readEnds_read (s : Store) (t : TransitionThread) : ReadEnds s t (t.read s) := by
  unfold TransitionThread.read
  cases hcall : t.call with
  | completeForClosedOrder orderId ctx =>
    simp only
    split
    · rename_i reservationId row hfirst
      obtain ⟨hget, hp⟩ := Table.findFirst_some hfirst
      simp only [Bool.and_eq_true, beq_iff_eq] at hp
      refine readEnds_found row ?_ fun _ _ _ => hp.2
      simp [hcall, TransitionCall.ctx, Store.findReservation, hget, Option.filter_some, hp]
    · exact .nothing (by rw [hcall]; rfl)
  | confirm reservationId ctx | seat reservationId _ ctx _ | cancel reservationId ctx
  | markNoShow reservationId ctx | complete reservationId ctx =>
    simp only
    split
    · rename_i row hfind
      refine readEnds_found row (by rw [hcall]; exact hfind) fun _ _ h => ?_
      rw [hcall] at h
      cases h
    · exact .refused _

-- ---
-- What a call knows of the watched reservation
-- ---

/-- A call that goes on to its event, or returned, moved the reservation or is a
completion. -/
def rightly (t : TransitionThread) : Prop :=
  match t.stage with
  | .occupy .. | .recordEvent .. => t.moved.isSome = true
  | .resolve _ => t.call.completes = true
  | .done (.ok ()) => t.moved.isSome = true ∨ t.call.completes = true
  | _ => True

/-- `place` is the organisation and the branch of the watched reservation. -/
structure Holds (k : Id) (place : BranchContext) (w : Watch) (t : TransitionThread) : Prop where
  fresh : t.stage.before = true → t.moved = none
  aims : ∀ status, t.stage.aims = some (k, status) → status ∈ w.taken k ∧ t.call.ctx = place
  source : ∀ j current change, t.stage = .apply j current change → current ∈ change.source
  tried : ∀ status, t.tried = some (k, status) → status ∈ w.left
  rightly : rightly t

/-- The watched reservation stands where it stood. -/
def Stands (k : Id) (place : BranchContext) (s : Store) : Prop :=
  ∃ row, s.reservations.get? k = some row ∧ row.orgId = place.organizationId ∧
    row.branchId = place.branchId

variable {w : Watch}

theorem see_left (w : Watch) (h : status ∈ w.left) : status ∈ (w.see k s).left := by
  unfold Watch.see
  simp only
  split
  · exact h
  · exact List.mem_append_left _ h

theorem see_taken (w : Watch) (h : status ∈ w.taken k) : status ∈ (w.see k s).taken k := by
  unfold Watch.taken Watch.see
  simp only
  split
  · rename_i hsame
    rw [hsame]
    exact h
  · exact List.mem_append_left _ h

theorem Holds.others (h : Holds k place w t) (s : Store) : Holds k place (w.see k s) t where
  fresh := h.fresh
  aims status haims := ⟨see_taken w (h.aims status haims).1, (h.aims status haims).2⟩
  source := h.source
  tried status htried := see_left w (h.tried status htried)
  rightly := h.rightly

/-- What a call tried to move the reservation from, the reservation has left. -/
theorem left_of_tried {change : Change} (hstands : Stands k place w.store)
    (htaken : current ∈ w.taken k) (hctx : t.call.ctx = place)
    (hsource : current ∈ change.source) :
    current ∈ (w.see k (change.write w.store t.call.ctx k)).left := by
  obtain ⟨row, hget, horg, hbranch⟩ := hstands
  have hstatus : statusOf w.store k = some row.status := by rw [statusOf, hget]; rfl
  rw [Watch.taken, hstatus, List.mem_append] at htaken
  rcases htaken with hleft | hcurrent
  · exact see_left w hleft
  obtain rfl : current = row.status := List.mem_singleton.mp hcurrent
  have hmatched : t.matched w.store k change = some row.status := by
    unfold TransitionThread.matched
    rw [hget, hctx]
    simp [guardMatches, hbranch, horg, hsource, Option.filter_some]
  have hstatus' := statusOf_write t w.store change k k
  simp only [hmatched, Option.isSome_some, and_self, if_true] at hstatus'
  unfold Watch.see
  simp only
  rw [hstatus', hstatus, if_neg]
  · exact List.mem_append_right _ (.head _)
  · intro heq
    have hlt := rank_lt (source_valid hsource)
    rw [Option.some.inj heq] at hlt
    exact Nat.lt_irrefl _ hlt

theorem advance_rows (t : TransitionThread) (s : Store) :
    (t.advance s).1.reservations = s.reservations ∨ ∃ reservationId current change,
      t.stage = .apply reservationId current change ∧
        (t.advance s).1 = change.write s t.call.ctx reservationId := by
  unfold TransitionThread.advance
  split
  · exact .inl rfl
  · exact .inl rfl
  · exact .inl rfl
  · refine .inl ?_
    split
    · rename_i horder
      exact (createOrderRow_rows horder).1
    · rename_i horder
      exact (createOrderRow_rows horder).1
  · rename_i reservationId current change hstage
    exact .inr ⟨reservationId, current, change, hstage, rfl⟩
  · exact .inl rfl
  · exact .inl rfl
  · exact .inl rfl
  · exact .inl rfl

theorem Stands.advance (h : Stands k place s) (t : TransitionThread) :
    Stands k place (t.advance s).1 := by
  obtain ⟨row, hget, hplace⟩ := h
  rcases advance_rows t s with hrows | ⟨reservationId, current, change, _, hwrite⟩
  · exact ⟨row, hrows ▸ hget, hplace⟩
  · rw [hwrite]
    refine ⟨_, by rw [Change.write, Table.get?_updateWhere, hget]; rfl, ?_⟩
    have hdata : (change.data row).orgId = row.orgId ∧ (change.data row).branchId = row.branchId :=
      by cases change <;> exact ⟨rfl, rfl⟩
    by_cases hguard : guardMatches reservationId t.call.ctx change.source k row = true
    · simp only [hguard, if_true]
      exact ⟨hdata.1.trans hplace.1, hdata.2.trans hplace.2⟩
    · simp only [hguard]
      exact hplace

theorem Holds.goto (h : Holds k place w t) (hfresh : stage.before = true → t.moved = none)
    (haims : ∀ status, stage.aims = some (k, status) → status ∈ w.taken k ∧ t.call.ctx = place)
    (hsource : ∀ j current change, stage = .apply j current change → current ∈ change.source)
    (hrightly : ReservationsService.rightly (t.goto stage)) : Holds k place w (t.goto stage) :=
  ⟨hfresh, haims, hsource, h.tried, hrightly⟩

theorem Holds.ends (h : Holds k place w t) (hbefore : stage.before = false)
    (haims : stage.aims = none) (hrightly : ReservationsService.rightly (t.goto stage)) :
    Holds k place w (t.goto stage) := by
  refine h.goto (fun hb => ?_) (fun status hs => ?_) (fun j current change hs => ?_) hrightly
  · rw [hbefore] at hb
    cases hb
  · rw [haims] at hs
    cases hs
  · rw [hs] at hbefore
    cases hbefore

theorem Holds.read (h : Holds k place w t) (hstage : t.stage = .find)
    (hstands : Stands k place w.store) : Holds k place w (t.read w.store) := by
  have hread := readEnds_read w.store t
  generalize t.read w.store = u at hread
  cases hread with
  | refused error => exact h.ends rfl rfl trivial
  | nothing hcall => exact h.ends rfl rfl (.inr hcall)
  | aimed reservationId row stage hfind haims hbefore hsource =>
    have hfresh : t.moved = none := h.fresh (by rw [hstage]; rfl)
    refine h.goto (fun _ => hfresh) (fun status hs => ?_) hsource ?_
    · obtain ⟨rfl, rfl⟩ := Prod.mk.inj (Option.some.inj (haims.symm.trans hs))
      obtain ⟨hget, hbranch, horg⟩ := findReservation_get hfind
      obtain ⟨row', hget', horg', hbranch'⟩ := hstands
      cases hget.symm.trans hget'
      refine ⟨?_, ?_⟩
      · refine List.mem_append_right _ ?_
        rw [statusOf, hget]
        exact .head _
      · obtain ⟨organizationId, branchId⟩ := place
        simp only at horg' hbranch'
        rw [← horg', ← hbranch', horg, hbranch]
    · cases stage <;> trivial

theorem Holds.tries {current : ReservationStatus} {change : Change} (h : Holds k place w t)
    (hstage : t.stage = .apply reservationId current change)
    (hstands : Stands k place w.store) :
    Holds k place (w.see k (change.write w.store t.call.ctx reservationId))
      { t with tried := some (reservationId, current) } := by
  have hothers := h.others (change.write w.store t.call.ctx reservationId)
  refine ⟨hothers.fresh, hothers.aims, hothers.source, fun status htried => ?_, hothers.rightly⟩
  obtain ⟨rfl, rfl⟩ := Prod.mk.inj (Option.some.inj htried)
  obtain ⟨htaken, hctx⟩ := h.aims current (by rw [hstage]; rfl)
  exact left_of_tried hstands htaken hctx (h.source _ _ _ hstage)

/-- The next stage aims at what the stage before aimed at. -/
theorem Holds.prepares (h : Holds k place w t) (hbefore : t.stage.before = true)
    (hnext : stage.before = true) (haims : stage.aims = t.stage.aims)
    (hsource : ∀ j current change, stage = .apply j current change → current ∈ change.source) :
    Holds k place w (t.goto stage) := by
  refine h.goto (fun _ => h.fresh hbefore) (fun status hs => h.aims status (haims ▸ hs)) hsource ?_
  cases stage <;> trivial

theorem seat_source (h : TransitionStage.apply reservationId .confirmed (.seat a b) =
    .apply j current change) : current ∈ change.source := by
  cases h
  exact .head _

theorem Holds.findTable (h : Holds k place w t)
    (hstage : t.stage = .findTable reservationId seatTableId) (s : Store) :
    Holds k place w (t.advance s).2 := by
  have hbefore : t.stage.before = true := by rw [hstage]; rfl
  cases htable : s.findTable t.call.ctx seatTableId with
  | none =>
    have hadvance : (t.advance s).2 = t.fail (notFound "Table not found in this branch") := by
      simp only [TransitionThread.advance, hstage, htable]
    rw [hadvance]
    exact h.ends rfl rfl trivial
  | some table =>
    have hadvance : (t.advance s).2 =
        if t.seating.2 then t.goto (.readOrderNumber reservationId seatTableId)
        else t.goto (.apply reservationId .confirmed (.seat seatTableId none)) := by
      simp only [TransitionThread.advance, hstage, htable]
    rw [hadvance]
    split
    · refine h.prepares hbefore rfl (by rw [hstage]; rfl) fun j current change hs => ?_
      cases hs
    · exact h.prepares hbefore rfl (by rw [hstage]; rfl) fun j current change hs => seat_source hs

theorem Holds.createOrder (h : Holds k place w t)
    (hstage : t.stage = .createOrder reservationId seatTableId orderNumber) (s : Store) :
    Holds k place w (t.advance s).2 := by
  have hbefore : t.stage.before = true := by rw [hstage]; rfl
  cases hcreate : createOrderRow
      { seatedOrder s t.seating.1 t.call.ctx seatTableId with orderNumber } s with
  | ok orderId s' =>
    have hadvance : (t.advance s).2 =
        t.goto (.apply reservationId .confirmed (.seat seatTableId (some orderId))) := by
      simp only [TransitionThread.advance, hstage, hcreate]
    rw [hadvance]
    exact h.prepares hbefore rfl (by rw [hstage]; rfl) fun j current change hs => seat_source hs
  | error error s' =>
    have hadvance : (t.advance s).2 = t.fail error := by
      simp only [TransitionThread.advance, hstage, hcreate]
    rw [hadvance]
    exact h.ends rfl rfl trivial

theorem rightly_at (h : rightly t) (hstage : t.stage = stage) : rightly (t.goto stage) := by
  obtain ⟨call, stage', tried, moved⟩ := t
  cases hstage
  exact h

theorem Holds.resolve (h : Holds k place w t) (hstage : t.stage = .resolve reservationId)
    (s : Store) : Holds k place w (t.advance s).2 := by
  have hcall : t.call.completes = true := rightly_at h.rightly hstage
  cases hfresh : s.findReservation t.call.ctx reservationId with
  | none =>
    have hadvance : (t.advance s).2 = t.fail (notFound "Reservation not found") := by
      simp only [TransitionThread.advance, hstage, hfresh]
    rw [hadvance]
    exact h.ends rfl rfl trivial
  | some fresh =>
    have hadvance : (t.advance s).2 =
        if fresh.status = .completed then t.goto (.done (.ok ()))
        else t.fail (conflict ("Cannot complete reservation in status " ++ toString fresh.status))
        := by
      simp only [TransitionThread.advance, hstage, hfresh]
    rw [hadvance]
    split
    · exact h.ends rfl rfl (.inr hcall)
    · exact h.ends rfl rfl trivial

/-- A call that moved a row goes on to write the event. -/
theorem Holds.moves (h : Holds k place w t) (reservationId : Id) (change : Change)
    (moved : Id × ReservationStatus) :
    Holds k place w ({ t with moved := some moved }.afterApply reservationId change) := by
  cases change <;> refine ⟨fun hb => ?_, fun _ ha => ?_, fun _ _ _ hs => ?_, h.tried, rfl⟩
  all_goals contradiction

theorem Holds.misses (h : Holds k place w t) (reservationId : Id) :
    Holds k place w (t.afterMiss reservationId) := by
  unfold TransitionThread.afterMiss
  cases hcall : t.call with
  | complete =>
    have hcompletes : t.call.completes = true := by rw [hcall]; rfl
    exact h.ends rfl rfl hcompletes
  | completeForClosedOrder =>
    have hcompletes : t.call.completes = true := by rw [hcall]; rfl
    exact h.ends rfl rfl (Or.inr hcompletes)
  | confirm | seat | cancel | markNoShow => exact h.ends rfl rfl trivial

theorem Holds.apply {change : Change} (h : Holds k place w t)
    (hstage : t.stage = .apply reservationId current change) (hstands : Stands k place w.store) :
    Holds k place (w.see k (t.advance w.store).1) (t.advance w.store).2 := by
  have htries := h.tries hstage hstands
  cases hm : t.matched w.store reservationId change with
  | some was =>
    rw [advance_matched hstage hm]
    exact htries.moves reservationId change (reservationId, was)
  | none =>
    rw [advance_missed hstage hm]
    exact htries.misses reservationId

theorem Holds.advance (h : Holds k place w t) (hstands : Stands k place w.store) :
    Holds k place (w.advance k t).1 (w.advance k t).2 := by
  have hothers := h.others (t.advance w.store).1
  unfold Watch.advance
  cases hstage : t.stage with
  | find =>
    have hadvance : t.advance w.store = (w.store, t.read w.store) := by
      simp only [TransitionThread.advance, hstage]
    rw [hadvance]
    exact (h.read hstage hstands).others w.store
  | findTable reservationId seatTableId => exact hothers.findTable hstage w.store
  | readOrderNumber reservationId seatTableId =>
    have hadvance : (t.advance w.store).2 = t.goto (.createOrder reservationId seatTableId
        (generateOrderNumber w.store t.call.ctx.branchId)) := by
      simp only [TransitionThread.advance, hstage]
    rw [hadvance]
    refine hothers.prepares (by rw [hstage]; rfl) rfl (by rw [hstage]; rfl)
      fun j current change hs => ?_
    cases hs
  | createOrder reservationId seatTableId orderNumber => exact hothers.createOrder hstage w.store
  | apply reservationId current change => exact h.apply hstage hstands
  | occupy reservationId seatTableId =>
    have hadvance : (t.advance w.store).2 = t.goto (.recordEvent reservationId .seated) := by
      simp only [TransitionThread.advance, hstage]
    have hmoved : t.moved.isSome = true := rightly_at h.rightly hstage
    rw [hadvance]
    exact hothers.ends rfl rfl hmoved
  | recordEvent reservationId type =>
    have hadvance : (t.advance w.store).2 = t.goto (.done (.ok ())) := by
      simp only [TransitionThread.advance, hstage]
    have hmoved : t.moved.isSome = true := rightly_at h.rightly hstage
    rw [hadvance]
    exact hothers.ends rfl rfl (Or.inl hmoved)
  | resolve reservationId => exact hothers.resolve hstage w.store
  | done result =>
    have hadvance : (t.advance w.store).2 = t := by
      simp only [TransitionThread.advance, hstage]
    rw [hadvance]
    exact hothers

-- ---
-- Every interleaving
-- ---

/-- A database step of one of the calls. -/
def turn (k : Id) (p : Pool Watch TransitionThread) (i : Nat) : Pool Watch TransitionThread :=
  p.step (Watch.advance k) i

def started (start : Store) (calls : List TransitionCall) : Pool Watch TransitionThread where
  shared := { store := start }
  threads := calls.map fun call => { call }

/-- The events that the changes of status call for. -/
def Watch.changes (k : Id) (w : Watch) : List ReservationEventType :=
  (w.taken k).tail.map eventInto

/-- The watched reservation and its log agree with what the calls have done and
have still to do. -/
structure Kept (k : Id) (place : BranchContext) (row : Reservation) (start : Store)
    (p : Pool Watch TransitionThread) : Prop where
  stands : Stands k place p.shared.store
  first : (p.shared.taken k).head? = some row.status
  follows : Follows (p.shared.taken k)
  movers : ∀ status, p.weight (·.movedFrom k status) = p.shared.left.count status
  events : ∀ type, eventsOf p.shared.store k type + p.weight (·.owes k type) =
    eventsOf start k type + (p.shared.changes k).count type
  holds : ∀ t ∈ p.threads, Holds k place p.shared t

theorem kept_started (calls : List TransitionCall) {start : Store}
    (hrow : start.reservations.get? k = some row) :
    Kept k ⟨row.orgId, row.branchId⟩ row start (started start calls) where
  stands := ⟨row, hrow, rfl, rfl⟩
  first := by simp [started, Watch.taken, statusOf, hrow]
  follows := by
    simp only [started, Watch.taken, statusOf, hrow]
    exact .singleton _
  movers status := by
    refine Pool.weight_eq_zero fun t ht => ?_
    obtain ⟨call, _, rfl⟩ := List.mem_map.mp ht
    rfl
  events type := by
    have hnone : (started start calls).weight (·.owes k type) = 0 := by
      refine Pool.weight_eq_zero fun t ht => ?_
      obtain ⟨call, _, rfl⟩ := List.mem_map.mp ht
      rfl
    rw [hnone]
    simp [started, Watch.changes, Watch.taken, statusOf, hrow]
  holds t ht := by
    obtain ⟨call, _, rfl⟩ := List.mem_map.mp ht
    exact ⟨fun _ => rfl, fun _ ha => by contradiction, fun _ _ _ hs => by contradiction,
      fun _ ht => by contradiction, trivial⟩

/-- A watched reservation that keeps its status. -/
theorem see_same (w : Watch) (h : statusOf s k = statusOf w.store k) :
    (w.see k s).left = w.left ∧ (w.see k s).taken k = w.taken k := by
  simp only [Watch.see, Watch.taken, h, if_true, and_self]

/-- One that changes it. -/
theorem see_changed (w : Watch) (hwas : statusOf w.store k = some status)
    (hnow : statusOf s k = some target) (hne : target ≠ status) :
    (w.see k s).left = w.left ++ [status] ∧
      (w.see k s).taken k = w.left ++ [status] ++ [target] := by
  have hno : ¬some target = some status := fun h => hne (Option.some.inj h)
  simp only [Watch.see, Watch.taken, hwas, hnow, hno, if_false, Option.toList_some, and_self]

theorem Kept.turn (h : Kept k place row start p) (i : Nat) :
    Kept k place row start (turn k p i) := by
  have hholds : ∀ u ∈ (ReservationsService.turn k p i).threads,
      Holds k place (ReservationsService.turn k p i).shared u :=
    Pool.step_assertions h.holds (fun t _ ht => ht.advance h.stands)
      fun t u _ _ hu => hu.others (t.advance p.shared.store).1
  rcases Pool.step_cases (Watch.advance k) p i with
    ⟨-, hsame⟩ | ⟨before, t, after, hp, -, ht, hnext⟩
  · rw [ReservationsService.turn, hsame]
    exact h
  have hshared : (ReservationsService.turn k p i).shared =
      p.shared.see k (t.advance p.shared.store).1 := congrArg Pool.shared hnext
  have hmem : t ∈ p.threads := by simp [hp]
  obtain ⟨current, hget, -⟩ := h.stands
  have hstatus : statusOf p.shared.store k = some current.status := by rw [statusOf, hget]; rfl
  have htaken : p.shared.taken k = p.shared.left ++ [current.status] := by
    rw [Watch.taken, hstatus]
    rfl
  -- what the statement did to the threads and to the log, summed up
  have hmovers (status : ReservationStatus) (c : Nat)
      (hc : (t.advance p.shared.store).2.movedFrom k status = t.movedFrom k status + c) :
      (ReservationsService.turn k p i).weight (·.movedFrom k status) =
        p.weight (·.movedFrom k status) + c := by
    have hadvance : 0 + (Watch.advance k p.shared t).2.movedFrom k status =
        0 + t.movedFrom k status + c := by
      rw [Nat.zero_add, Nat.zero_add]
      exact hc
    have hstep := Pool.weight_step (fun _ => 0) (·.movedFrom k status) ht hadvance
    rw [Nat.zero_add, Nat.zero_add] at hstep
    exact hstep
  have hevents (type : ReservationEventType) (c : Nat)
      (hc : eventsOf (t.advance p.shared.store).1 k type +
          (t.advance p.shared.store).2.owes k type =
        eventsOf p.shared.store k type + t.owes k type + c) :
      eventsOf (ReservationsService.turn k p i).shared.store k type +
          (ReservationsService.turn k p i).weight (·.owes k type) =
        eventsOf p.shared.store k type + p.weight (·.owes k type) + c :=
    Pool.weight_step (fun w => eventsOf w.store k type) (·.owes k type) ht hc
  have hstands : Stands k place (ReservationsService.turn k p i).shared.store := by
    rw [hshared]
    exact h.stands.advance t
  rcases settles hstatus (h.holds t hmem).fresh with
    ⟨hkept, hmoved, howes⟩ | ⟨target, hvalid, hnow, hmoved, howes⟩
  · obtain ⟨hleft, hsame⟩ := see_same p.shared (hkept.trans hstatus.symm)
    refine ⟨hstands, ?_, ?_, fun status => ?_, fun type => ?_, hholds⟩
    · rw [hshared, hsame]
      exact h.first
    · rw [hshared, hsame]
      exact h.follows
    · rw [hmovers status 0 (hmoved status), h.movers status, hshared, hleft, Nat.add_zero]
    · rw [hevents type 0 (howes type), Nat.add_zero, h.events type, hshared, Watch.changes,
        Watch.changes, hsame]
  · have hne : target ≠ current.status := fun heq =>
      Nat.lt_irrefl _ (heq ▸ rank_lt hvalid)
    obtain ⟨hleft, hadded⟩ := see_changed p.shared hstatus hnow hne
    have htail : (p.shared.left ++ [current.status] ++ [target]).tail =
        (p.shared.left ++ [current.status]).tail ++ [target] :=
      List.tail_append_of_ne_nil (by simp)
    refine ⟨hstands, ?_, ?_, fun status => ?_, fun type => ?_, hholds⟩
    · rw [hshared, hadded, ← htaken, List.head?_append, h.first]
      rfl
    · rw [hshared, hadded]
      exact Follows.snoc (htaken ▸ h.follows) hvalid
    · rw [hmovers status _ (hmoved status), h.movers status, hshared, hleft, List.count_append,
        List.count_singleton]
      simp only [eq_comm (a := status), beq_iff_eq]
    · rw [hevents type _ (howes type), h.events type, hshared, Watch.changes, Watch.changes,
        hadded, htaken, htail, List.map_append, List.count_append, List.map_singleton,
        List.count_singleton, Nat.add_assoc]
      simp

/-- What holds of a reservation that was `row` at the start, when calls race. -/
structure Lifecycle (k : Id) (row : Reservation) (start : Store) (p : Pool Watch TransitionThread) :
    Prop where
  /-- The statuses it has left, and the one it has, follow the transitions. -/
  statuses : (p.shared.taken k).head? = some row.status ∧ Follows (p.shared.taken k) ∧
    (p.shared.taken k).Nodup ∧ ∃ status, p.shared.taken k = p.shared.left ++ [status] ∧
      statusOf p.shared.store k = some status
  /-- One call moved it out of each status it has left. -/
  movers : ∀ status, p.weight (·.movedFrom k status) = if status ∈ p.shared.left then 1 else 0
  /-- Of the calls that tried to move it out of a status, one did. -/
  winner : ∀ t ∈ p.threads, ∀ status, t.tried = some (k, status) →
    p.weight (·.movedFrom k status) = 1
  /-- A call that succeeded moved a reservation, or is a completion. -/
  success : ∀ t ∈ p.threads, t.stage = .done (.ok ()) →
    t.moved.isSome = true ∨ t.call.completes = true
  /-- Each change has its event, in the log or still to be written by its call. -/
  events : ∀ type, eventsOf p.shared.store k type + p.weight (·.owes k type) =
    eventsOf start k type + (p.shared.changes k).count type
  /-- Once the calls have ended the log has one event for each change. -/
  log : (∀ t ∈ p.threads, ∃ result, t.stage = .done result) →
    ∀ type, eventsOf p.shared.store k type = eventsOf start k type +
      if type ∈ p.shared.changes k then 1 else 0

theorem eventInto_injective : Function.Injective eventInto := by
  intro a b h
  cases a <;> cases b <;> first | rfl | cases h

theorem Kept.lifecycle (h : Kept k place row start p) : Lifecycle k row start p := by
  obtain ⟨current, hget, -⟩ := h.stands
  have hstatus : statusOf p.shared.store k = some current.status := by rw [statusOf, hget]; rfl
  have htaken : p.shared.taken k = p.shared.left ++ [current.status] := by
    rw [Watch.taken, hstatus]
    rfl
  have hnodup : (p.shared.left ++ [current.status]).Nodup := htaken ▸ h.follows.nodup
  have hleft : p.shared.left.Nodup := (List.nodup_append.mp hnodup).1
  have hmovers (status : ReservationStatus) :
      p.weight (·.movedFrom k status) = if status ∈ p.shared.left then 1 else 0 := by
    rw [h.movers status, hleft.count]
  refine ⟨⟨h.first, h.follows, h.follows.nodup, _, htaken, hstatus⟩, hmovers, ?_, ?_, h.events, ?_⟩
  · intro t ht status htried
    rw [hmovers, if_pos ((h.holds t ht).tried status htried)]
  · intro t ht hdone
    exact rightly_at (h.holds t ht).rightly hdone
  · intro hended type
    have hnone : p.weight (·.owes k type) = 0 := by
      refine Pool.weight_eq_zero fun t ht => ?_
      obtain ⟨result, hdone⟩ := hended t ht
      simp only [TransitionThread.owes, hdone]
    have hchanges : (p.shared.changes k).Nodup :=
      (h.follows.nodup.sublist (List.tail_sublist _)).map eventInto_injective
    have hevents := h.events type
    rw [hnone, Nat.add_zero] at hevents
    rw [hevents, hchanges.count]

/-- Calls race over a reservation: its statuses follow the transitions, one call
moves it out of each, and the log has one event for each change. -/
theorem run_lifecycle (calls : List TransitionCall) (start : Store) (turns : List Nat)
    (hrow : start.reservations.get? k = some row) :
    Lifecycle k row start (turns.foldl (turn k) (started start calls)) := by
  have hkept : Kept k ⟨row.orgId, row.branchId⟩ row start
      (turns.foldl (turn k) (started start calls)) :=
    Run.invariant (.foldl (turn k) (started start calls) turns) (kept_started calls hrow)
      fun _ i h _ => h.turn i
  exact hkept.lifecycle

def seatedRow : Reservation where
  orgId := 0
  branchId := 0
  reservationNumber := "R1"
  reservationAt := 0
  expectedDurationMinutes := none
  status := .seated
  tableId := some 0
  seatedOrderId := some 0
  createdAt := 0

def seatedStore : Store := { reservations := Table.empty.insert seatedRow }

/-- The waiter completes the reservation while the order is closed. -/
def completions : Pool Watch TransitionThread :=
  started seatedStore [.complete 0 ⟨0, 0⟩, .completeForClosedOrder 0 ⟨0, 0⟩]

theorem run_lifecycle_completions :
    Lifecycle 0 seatedRow seatedStore ([0, 1, 1, 0, 0, 1].foldl (turn 0) completions) ∧
      eventsOf ([0, 1, 1, 0, 0, 1].foldl (turn 0) completions).shared.store 0 .completed = 1 :=
  ⟨run_lifecycle _ _ _ rfl, by decide⟩

end NimbusPos.ReservationsService
