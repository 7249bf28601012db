import Mathlib.Order.CompletePartialOrder
import Mathlib.Order.Interval.Set.Disjoint
import NimbusPos.System

/-!
# One party at a table

A reservation holds its table for the half-open time from its start to its end.
`create` and `assignTable` look for an active reservation that overlaps; `seat`
takes the table the request names without looking. As long as no seat moves a
party to a table another active reservation holds at that time, no two active
reservations ever share a table and a time.
-/

namespace NimbusPos.ReservationsService

open Lib Lib.Service

/-- The statuses that `checkTableConflict` counts. -/
def blocking (status : ReservationStatus) : Bool :=
  [.pending, .confirmed, .seated].contains status

/-- The time a reservation holds its table. -/
def window (row : Reservation) : Set Time :=
  Set.Ico row.reservationAt (row.reservationAt + durationMs row.expectedDurationMinutes)

/-- No two active reservations hold one table at one time. -/
def Exclusive (s : Store) : Prop :=
  ∀ j k row other tableId, s.reservations.get? j = some row → s.reservations.get? k = some other →
    j ≠ k → blocking row.status → blocking other.status → row.tableId = some tableId →
    other.tableId = some tableId → Disjoint (window row) (window other)

/-- A reservation's table stands in its branch. -/
def Placed (s : Store) : Prop :=
  ∀ k row tableId, s.reservations.get? k = some row → row.tableId = some tableId →
    ∃ table, s.tables.get? tableId = some table ∧ table.branchId = row.branchId

/-- No other active reservation holds the table at the time of `row`. -/
def Clear (s : Store) (k tableId : Id) (row : Reservation) : Prop :=
  ∀ j other, s.reservations.get? j = some other → j ≠ k → blocking other.status →
    other.tableId = some tableId → Disjoint (window row) (window other)

/-- A party is seated at its own table, or at one that is clear. -/
def seatsClear (s : Store) : ReservationsCall → Prop
  | .seat k _ ctx dto => ∀ row ∈ s.findReservation ctx k, row.status = .confirmed →
    ∀ tableId ∈ dto.tableId, (s.findTable ctx tableId).isSome → row.tableId ≠ some tableId →
      Clear s k tableId row
  | _ => True

theorem disjoint_window {row other : Reservation} :
    Disjoint (window row) (window other) ↔
      row.reservationAt + durationMs row.expectedDurationMinutes ≤ other.reservationAt ∨
        other.reservationAt + durationMs other.expectedDurationMinutes ≤ row.reservationAt := by
  have hpos (minutes : Option Nat) : 0 < durationMs minutes := by
    unfold durationMs
    split
    · decide
    · decide
    · rename_i minutes hminutes
      have : minutes ≠ 0 := fun h => hminutes (by rw [h])
      omega
  have hrow := hpos row.expectedDurationMinutes
  have hother := hpos other.expectedDurationMinutes
  rw [window, window, Set.Ico_disjoint_Ico, min_le_iff, le_max_iff, le_max_iff]
  unfold Time at *
  omega

instance (row other : Reservation) : Decidable (Disjoint (window row) (window other)) :=
  decidable_of_iff _ disjoint_window.symm

instance (s : Store) (k tableId : Id) (row : Reservation) : Decidable (Clear s k tableId row) :=
  decidable_of_iff (∀ r ∈ s.reservations.rows, r.1 ≠ k → blocking r.2.status →
      r.2.tableId = some tableId → Disjoint (window row) (window r.2)) <| by
    simp only [Clear, Table.get?_iff, Prod.forall]

instance : (s : Store) → (call : ReservationsCall) → Decidable (seatsClear s call)
  | s, .seat k _ ctx _ => inferInstanceAs (Decidable (∀ row ∈ s.findReservation ctx k, _ → _))
  | _, .create .. | _, .confirm .. | _, .cancel .. | _, .markNoShow .. | _, .complete ..
  | _, .assignTable .. => .isTrue trivial

instance (s : Store) : Decidable (Exclusive s) :=
  decidable_of_iff (∀ r ∈ s.reservations.rows, ∀ q ∈ s.reservations.rows, r.1 ≠ q.1 →
      blocking r.2.status → blocking q.2.status → ∀ tableId ∈ r.2.tableId,
      q.2.tableId = some tableId → Disjoint (window r.2) (window q.2)) <| by
    simp only [Exclusive, Table.get?_iff, Prod.forall, Option.mem_def]
    constructor
    · intro h j k row other tableId hrow hother hne hactive hactive' htable
      exact h j row hrow k other hother hne hactive hactive' tableId htable
    · intro h j row hrow k other hother hne hactive hactive' tableId htable
      exact h j k row other tableId hrow hother hne hactive hactive' htable

-- ---
-- What a call does to the reservations
-- ---

/-- A reservation keeps its place and its time, and is not made active again. -/
structure Quiet (row row' : Reservation) : Prop where
  table : row'.tableId = row.tableId
  branch : row'.branchId = row.branchId
  window : window row' = window row
  active : blocking row'.status → blocking row.status

theorem Quiet.refl (row : Reservation) : Quiet row row := ⟨rfl, rfl, rfl, id⟩

theorem Quiet.trans (h : Quiet row row') (h' : Quiet row' row'') : Quiet row row'' :=
  ⟨h'.table.trans h.table, h'.branch.trans h.branch, h'.window.trans h.window,
    fun hactive => h.active (h'.active hactive)⟩

/-- Every table is where it was. -/
def tablesStay (s t : Store) : Prop :=
  ∀ k table, s.tables.get? k = some table →
    ∃ table', t.tables.get? k = some table' ∧ table'.branchId = table.branchId

theorem tablesStay.refl (s : Store) : tablesStay s s := fun _ table h => ⟨table, h, rfl⟩

/-- No reservation is placed anew. -/
def quietFrame : Frame Store where
  rel s t := tablesStay s t ∧ ∀ k row', t.reservations.get? k = some row' →
    ∃ row, s.reservations.get? k = some row ∧ Quiet row row'
  refl s := ⟨.refl s, fun _ row h => ⟨row, h, .refl row⟩⟩
  trans := by
    rintro s t u ⟨htables, hrows⟩ ⟨htables', hrows'⟩
    refine ⟨fun k table h => ?_, fun k row'' h => ?_⟩
    · obtain ⟨table', h', hbranch⟩ := htables k table h
      obtain ⟨table'', h'', hbranch'⟩ := htables' k table' h'
      exact ⟨table'', h'', hbranch'.trans hbranch⟩
    · obtain ⟨row', h', hquiet'⟩ := hrows' k row'' h
      obtain ⟨row, h, hquiet⟩ := hrows k row' h'
      exact ⟨row, h, hquiet.trans hquiet'⟩

/-- Reservation `k` may be placed anew, where it is clear; the others stay. -/
structure Places (s : Store) (k : Id) (t : Store) : Prop where
  tables : tablesStay s t
  others : ∀ j row, t.reservations.get? j = some row → j ≠ k → s.reservations.get? j = some row
  placed : ∀ row tableId, t.reservations.get? k = some row → row.tableId = some tableId →
    (∃ table, s.tables.get? tableId = some table ∧ table.branchId = row.branchId) ∧
      Clear s k tableId row

theorem Exclusive.quiet (h : Exclusive s) (hframe : quietFrame.rel s t) : Exclusive t := by
  intro j k row' other' tableId hj hk hne hactive hactive' htable htable'
  obtain ⟨row, hrow, hquiet⟩ := hframe.2 j row' hj
  obtain ⟨other, hother, hquiet'⟩ := hframe.2 k other' hk
  rw [hquiet.window, hquiet'.window]
  exact h j k row other tableId hrow hother hne (hquiet.active hactive) (hquiet'.active hactive')
    (hquiet.table ▸ htable) (hquiet'.table ▸ htable')

theorem Placed.quiet (h : Placed s) (hframe : quietFrame.rel s t) : Placed t := by
  intro k row' tableId hk htable
  obtain ⟨row, hrow, hquiet⟩ := hframe.2 k row' hk
  obtain ⟨table, hget, hbranch⟩ := h k row tableId hrow (hquiet.table ▸ htable)
  obtain ⟨table', hget', hbranch'⟩ := hframe.1 tableId table hget
  exact ⟨table', hget', hbranch'.trans (hbranch.trans hquiet.branch.symm)⟩

theorem Exclusive.place (h : Exclusive s) (hplaces : Places s k t) : Exclusive t := by
  intro i j row other tableId hi hj hne hactive hactive' htable htable'
  by_cases hik : i = k
  · subst hik
    exact (hplaces.placed row tableId hi htable).2 j other
      (hplaces.others j other hj hne.symm) hne.symm hactive' htable'
  by_cases hjk : j = k
  · subst hjk
    exact ((hplaces.placed other tableId hj htable').2 i row
      (hplaces.others i row hi hik) hik hactive htable).symm
  · exact h i j row other tableId (hplaces.others i row hi hik) (hplaces.others j other hj hjk) hne
      hactive hactive' htable htable'

theorem Placed.place (h : Placed s) (hplaces : Places s k t) : Placed t := by
  intro j row tableId hj htable
  have hbefore : ∃ table, s.tables.get? tableId = some table ∧ table.branchId = row.branchId := by
    by_cases hjk : j = k
    · subst hjk
      exact (hplaces.placed row tableId hj htable).1
    · exact h j row tableId (hplaces.others j row hj hjk) htable
  obtain ⟨table, hget, hbranch⟩ := hbefore
  obtain ⟨table', hget', hbranch'⟩ := hplaces.tables tableId table hget
  exact ⟨table', hget', hbranch'.trans hbranch⟩

-- ---
-- Calls that place no reservation
-- ---

theorem quietFrame_updateWhere (h : ∀ k row, p k row = true → Quiet row (data row)) (s : Store) :
    quietFrame.rel s { s with reservations := s.reservations.updateWhere p data } := by
  refine ⟨.refl s, fun k row' hk => ?_⟩
  obtain ⟨row, hrow, rfl⟩ :=
    Option.map_eq_some_iff.mp ((Table.get?_updateWhere _ _ _).symm.trans hk)
  refine ⟨row, hrow, ?_⟩
  split
  · rename_i hp
    exact h k row hp
  · exact .refl row

theorem recordEvent_quiet : Keeps quietFrame (recordEvent reservationId type) :=
  .modify quietFrame.refl

/-- A transition out of an active status. -/
theorem applyGuardedTransition_quiet (hsource : ∀ status ∈ source, blocking status = true) :
    Keeps quietFrame (applyGuardedTransition reservationId ctx source
      fun row => { row with status := target }) := by
  have hquiet (k : Id) (row : Reservation)
      (hp : guardMatches reservationId ctx source k row = true) :
      Quiet row { row with status := target } := by
    simp only [guardMatches, Bool.and_eq_true, List.contains_iff_mem] at hp
    exact ⟨rfl, rfl, rfl, fun _ => hsource _ hp.2⟩
  exact .bind Reads.get.keeps fun _ => .bind (.modify (quietFrame_updateWhere hquiet)) fun _ =>
    (Reads.pure _).keeps

theorem confirm_quiet : Keeps quietFrame (confirm reservationId ctx) :=
  .bind findOneOrFail_reads.keeps fun _ => .bind assertTransition_reads.keeps fun _ =>
    .bind (applyGuardedTransition_quiet (by decide)) fun _ =>
      .bind (Reads.ensure _ _).keeps fun _ => recordEvent_quiet

theorem withdraw_quiet : Keeps quietFrame (withdraw target event reservationId ctx) :=
  .bind findOneOrFail_reads.keeps fun _ => .bind assertTransition_reads.keeps fun _ =>
    .bind (applyGuardedTransition_quiet (by decide)) fun _ =>
      .bind (Reads.ensure _ _).keeps fun _ => recordEvent_quiet

theorem complete_quiet : Keeps quietFrame (complete reservationId ctx) :=
  .bind findOneOrFail_reads.keeps fun _ => .ite (Reads.pure _).keeps
    (.bind assertTransition_reads.keeps fun _ =>
      .bind (applyGuardedTransition_quiet (by decide)) fun _ =>
        .ite recordEvent_quiet (Reads.bind findOneOrFail_reads fun _ => .ensure _ _).keeps)

-- ---
-- Calls that place one
-- ---

theorem checkTableConflict_ok
    (h : checkTableConflict branchId tableId reservationAt duration excludeId s = .ok u t)
    (hget : s.reservations.get? j = some other) (hbranch : other.branchId = branchId)
    (htable : other.tableId = some tableId) (hactive : blocking other.status)
    (hexclude : excludeId ≠ some j) :
    reservationAt + durationMs duration ≤ other.reservationAt ∨
      other.reservationAt + durationMs other.expectedDurationMinutes ≤ reservationAt := by
  simp only [checkTableConflict, bind_ok, get_ok, ensure_ok, List.all_eq_true] at h
  obtain ⟨_, _, ⟨rfl, rfl⟩, hall, rfl⟩ := h
  by_contra hoverlap
  rw [not_or, Nat.not_le, Nat.not_le] at hoverlap
  have hmem : (j, other) ∈ s.reservations.findMany fun id row =>
      row.branchId == branchId && row.tableId == some tableId &&
        [.pending, .confirmed, .seated].contains row.status &&
        row.reservationAt < reservationAt + durationMs duration && excludeId != some id := by
    rw [Table.mem_findMany]
    refine ⟨hget, ?_⟩
    simp only [Bool.and_eq_true, beq_iff_eq, bne_iff_ne, decide_eq_true_eq]
    exact ⟨⟨⟨⟨hbranch, htable⟩, hactive⟩, hoverlap.1⟩, hexclude⟩
  have hlate := hall _ hmem
  simp only [Bool.not_eq_true', decide_eq_false_iff_not] at hlate
  exact hlate hoverlap.2

theorem findTable_place {s : Store} (hfound : s.findTable ctx tableId = some table) :
    s.tables.get? tableId = some table ∧ table.branchId = ctx.branchId := by
  simp only [Store.findTable, Option.filter_eq_some_iff, Bool.and_eq_true, beq_iff_eq] at hfound
  exact ⟨hfound.1, hfound.2.1⟩

/-- What the check promises of a table of the branch. -/
theorem clear_of_check (row : Reservation) (hplaced : Placed s)
    (hfound : s.findTable ctx tableId = some table)
    (h : checkTableConflict ctx.branchId tableId row.reservationAt row.expectedDurationMinutes
      excludeId s = .ok u t)
    (hexclude : ∀ j, j ≠ k → excludeId ≠ some j) :
    Clear s k tableId row := by
  intro j other hget hne hactive htable
  obtain ⟨table', hget', hbranch⟩ := hplaced j other tableId hget htable
  obtain ⟨hget'', hplace⟩ := findTable_place hfound
  cases hget'.symm.trans hget''
  exact disjoint_window.mpr (checkTableConflict_ok h hget (hbranch.symm.trans hplace) htable
    hactive (hexclude j hne))

theorem create_atomic : Atomic (create ctx dto) :=
  checkTable_reads.then fun _ => Reads.get.then fun _ => (Reads.ensure _ _).then fun _ =>
    (Total.bind (.modify _) fun _ => .modify _).atomic

theorem create_places (hplaced : Placed s) (h : create ctx dto s = .ok u t) :
    Places s s.reservations.next t := by
  simp only [create, bind_ok, get_ok, ensure_ok, modify_ok, recordEvent] at h
  obtain ⟨_, _, hcheck, _, _, ⟨rfl, rfl⟩, _, _, ⟨_, rfl⟩, _, _, rfl, rfl⟩ := h
  cases checkTable_reads.ok hcheck
  refine ⟨.refl _, fun j row hj hne => ?_, fun row tableId hk htable => ?_⟩
  · simpa only [Table.get?_insert, if_neg hne] using hj
  · simp only [Table.get?_insert_self, Option.some.injEq] at hk
    subst hk
    simp only at htable
    simp only [checkTable, htable, bind_ok, get_ok, need_ok] at hcheck
    obtain ⟨_, _, ⟨rfl, rfl⟩, table, _, ⟨hfound, rfl⟩, hconflict⟩ := hcheck
    obtain ⟨hget, hbranch⟩ := findTable_place hfound
    exact ⟨⟨table, hget, hbranch⟩, clear_of_check _ hplaced hfound hconflict (by simp)⟩

theorem assignTable_atomic : Atomic (assignTable reservationId ctx dto) :=
  findOneOrFail_reads.then fun _ => (Reads.ensure _ _).then fun _ => Reads.get.then fun _ =>
    (Reads.need _ _).then fun _ => checkTableConflict_reads.then fun _ =>
      (Total.bind (.modify _) fun _ => .modify _).atomic

theorem assignTable_places (hplaced : Placed s)
    (h : assignTable reservationId ctx dto s = .ok u t) :
    Places s reservationId t := by
  simp only [assignTable, bind_ok, findOneOrFail_ok, ensure_ok, get_ok, need_ok, modify_ok,
    recordEvent] at h
  obtain ⟨reservation, _, ⟨hfind, rfl⟩, _, _, ⟨_, rfl⟩, _, _, ⟨rfl, rfl⟩, table, _, ⟨hfound, rfl⟩,
    _, _, hconflict, _, _, rfl, rfl⟩ := h
  cases checkTableConflict_reads.ok hconflict
  obtain ⟨hrow, hbranch, _⟩ := findReservation_get hfind
  obtain ⟨hget, hplace⟩ := findTable_place hfound
  refine ⟨.refl _, fun j row hj hne => ?_, fun row tableId hk htable => ?_⟩
  · simpa only [Table.get?_update_ne _ _ hne] using hj
  · simp only [Table.get?_update_self, hrow, Option.map_some, Option.some.injEq] at hk
    subst hk
    cases htable
    refine ⟨⟨table, hget, hplace.trans hbranch.symm⟩, ?_⟩
    exact clear_of_check { reservation with tableId := some dto.tableId } hplaced hfound
      hconflict fun j hne => by simpa using hne.symm

theorem seat_places (hplaced : Placed s) (hexclusive : Exclusive s)
    (hclear : seatsClear s (.seat reservationId userId ctx dto))
    (h : seat reservationId userId ctx dto s = .ok u t) :
    Places s reservationId t := by
  obtain ⟨reservation, seatTableId, seatedOrderId, r, hfind, hconfirmed, htarget, hfound, horder,
    rfl⟩ := seat_ok h
  obtain ⟨table, htaken⟩ := Option.isSome_iff_exists.mp hfound
  obtain ⟨hrow, hbranch, horg⟩ := findReservation_get hfind
  obtain ⟨hget, hplace⟩ := findTable_place htaken
  have hsame : r.reservations = s.reservations ∧ r.tables = s.tables := by
    rcases createSeatedOrder_ok horder with ⟨_, rfl⟩ | ⟨_, _, rfl⟩ <;> exact ⟨rfl, rfl⟩
  -- its own table is clear already
  have hseat : Clear s reservationId seatTableId reservation := by
    by_cases hown : reservation.tableId = some seatTableId
    · intro j other hj hne hactive htable
      exact hexclusive reservationId j reservation other seatTableId hrow hj hne.symm
        (by rw [hconfirmed]; decide) hactive hown htable
    · cases hdto : dto.tableId with
      | none =>
        rw [hdto] at htarget
        exact absurd htarget hown
      | some tableId =>
        rw [hdto] at htarget
        cases htarget
        exact hclear reservation hfind hconfirmed seatTableId hdto hfound hown
  refine ⟨fun k table hk => ?_, fun j row hj hne => ?_, fun row tableId hk htable => ?_⟩
  · simp only [seatStore, Store.occupyTable, hsame.2, Table.get?_updateWhere, hk, Option.map_some]
    refine ⟨_, rfl, ?_⟩
    split <;> rfl
  · simp only [seatStore, Store.occupyTable, hsame.1, Table.get?_updateWhere] at hj
    obtain ⟨old, hold, rfl⟩ := Option.map_eq_some_iff.mp hj
    have hguard : guardMatches reservationId ctx [.confirmed] j old = false := by
      simp [guardMatches, hne]
    rwa [hguard, if_neg (by decide)]
  · have hguard : guardMatches reservationId ctx [.confirmed] reservationId reservation = true := by
      simp [guardMatches, hbranch, horg, hconfirmed]
    simp only [seatStore, Store.occupyTable, hsame.1, Table.get?_updateWhere, hrow,
      Option.map_some, hguard, if_true, Option.some.injEq] at hk
    subst hk
    cases htable
    exact ⟨⟨table, hget, hplace.trans hbranch.symm⟩, hseat⟩

-- ---
-- Runs
-- ---

/-- One call, and the time that passes before it. -/
structure DeskEvent where
  call : ReservationsCall
  wait : Nat := 0

def deskStep (s : Store) (e : DeskEvent) : Store := e.call.exec (s.tick e.wait)

/-- What every call keeps. -/
structure Orderly (s : Store) : Prop where
  exclusive : Exclusive s
  placed : Placed s

theorem Orderly.quiet (h : Orderly s) (hframe : quietFrame.rel s t) : Orderly t :=
  ⟨h.exclusive.quiet hframe, h.placed.quiet hframe⟩

theorem Orderly.place (h : Orderly s) (hplaces : Places s k t) : Orderly t :=
  ⟨h.exclusive.place hplaces, h.placed.place hplaces⟩

theorem Orderly.tick (h : Orderly s) (wait : Nat) : Orderly (s.tick wait) :=
  ⟨h.exclusive, h.placed⟩

theorem Orderly.exec (h : Orderly s) (hclear : seatsClear s call) : Orderly (call.exec s) := by
  cases call with
  | create ctx dto =>
    exact create_atomic.elim (P := Orderly) h fun _ t hok => h.place (create_places h.placed hok)
  | seat reservationId userId ctx dto =>
    exact seat_atomic.elim (P := Orderly) h fun _ t hok =>
      h.place (seat_places h.placed h.exclusive hclear hok)
  | assignTable reservationId ctx dto =>
    exact assignTable_atomic.elim (P := Orderly) h fun _ t hok =>
      h.place (assignTable_places h.placed hok)
  | confirm reservationId ctx => exact h.quiet (confirm_quiet s)
  | cancel reservationId ctx => exact h.quiet (withdraw_quiet s)
  | markNoShow reservationId ctx => exact h.quiet (withdraw_quiet s)
  | complete reservationId ctx => exact h.quiet (complete_quiet s)

/-- While every party that changes its table at seating finds the new one clear,
no two active reservations share a table and a time. -/
theorem run_exclusive (hexclusive : Exclusive start) (hplaced : Placed start)
    (h : Run deskStep (fun s e => seatsClear (s.tick e.wait) e.call) start events s) :
    Exclusive s := by
  have hstart : Orderly start := ⟨hexclusive, hplaced⟩
  have hs : Orderly s := h.invariant hstart fun _ e hr hclear => (hr.tick e.wait).exec hclear
  exact hs.exclusive

def threeTables : Store where
  tables := ((Table.empty.insert ⟨0, 0, .available, true⟩).insert ⟨0, 0, .available, true⟩).insert
    ⟨0, 0, .available, true⟩

/-- Two parties come at one time, and the second is seated at a table it did not
book. -/
def movedAtSeating (tableId : Id) : List DeskEvent :=
  [⟨.create ⟨0, 0⟩ { tableId := some 0, reservationAt := 0 }, 0⟩,
    ⟨.create ⟨0, 0⟩ { tableId := some 1, reservationAt := 0 }, 0⟩, ⟨.confirm 1 ⟨0, 0⟩, 0⟩,
    ⟨.seat 1 0 ⟨0, 0⟩ { tableId := some tableId }, 0⟩]

/-- The table the second party moves to is clear. -/
theorem run_exclusive_moved : Exclusive ((movedAtSeating 2).foldl deskStep threeTables) :=
  run_exclusive (by decide) (by simp [Placed, threeTables])
    (Run.of_holds (by decide))

/-- The second party is seated at the table of the first. -/
theorem seat_shares_table :
    ¬ ∀ start (events : List DeskEvent), Exclusive start → Placed start →
      Exclusive (events.foldl deskStep start) := by
  intro h
  have hshared := h threeTables (movedAtSeating 0) (by decide) (by simp [Placed, threeTables])
  exact absurd hshared (by decide)

end NimbusPos.ReservationsService
