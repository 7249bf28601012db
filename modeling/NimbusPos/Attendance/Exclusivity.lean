import NimbusPos.Attendance.Leave

/-!
# Leave and swap exclusivity

A review decides a request once, whatever else goes on. That leave does not overlap, and that a
swap is asked for once, rests on a look-up before the insert: it holds over those runs in which
each look-up would still find nothing when its insert comes.
-/

namespace NimbusPos.AttendanceService

open Lib Lib.Program
open Approvals (LeaveRequestStatus)

/-- The closed intervals of two requests have a day in common. -/
def LeaveRequest.overlaps (a b : LeaveRequest) : Prop :=
  a.startsAt ≤ b.endsAt ∧ b.startsAt ≤ a.endsAt

/-- The requester and the date of a pending swap. -/
def ShiftSwapRequest.pendingFor (row : ShiftSwapRequest) : Option (Id × Int) :=
  if row.status = .pending then some (row.requesterEmployeeId, row.shiftDate) else none

namespace LeaveStore

/-- Active requests of one employee have no day in common, and an employee has no two pending
swaps of one date. -/
structure Exclusive (s : LeaveStore) : Prop where
  leave : ∀ j k a b, s.leaveRequests.get? j = some a → s.leaveRequests.get? k = some b → j ≠ k →
    a.employeeId = b.employeeId → a.isActive = true → b.isActive = true → ¬a.overlaps b
  swaps : s.shiftSwapRequests.UniqueOn ShiftSwapRequest.pendingFor

/-- An approved or rejected request has kept its decision. -/
def decided : Service.Frame LeaveStore where
  rel s t := ∀ id row, s.leaveRequests.get? id = some row →
    row.status = .approved ∨ row.status = .rejected →
      (t.leaveRequests.get? id).map (·.status) = some row.status
  refl s id row hget _ := by rw [hget]; rfl
  trans h h' id row hget hdecided := by
    obtain ⟨next, hnext, hsame⟩ := Option.map_eq_some_iff.mp (h id row hget hdecided)
    exact hsame ▸ h' id next hnext (hsame ▸ hdecided)

/-- The look-up of an insert finds nothing. -/
def stillFree (s : LeaveStore) : LeaveStatement → Prop
  | .createLeaveRequest _ _ dto =>
    (s.findOverlap dto.employeeId (dateOf dto.startsAt) (dateOf dto.endsAt)).isNone = true
  | .createShiftSwap _ dto =>
    (s.findPendingSwap dto.requesterEmployeeId (dateOf dto.shiftDate)).isNone = true
  | _ => True

instance (s : LeaveStore) : (k : LeaveStatement) → Decidable (s.stillFree k)
  | .createLeaveRequest .. | .createShiftSwap .. => inferInstanceAs (Decidable (_ = true))
  | .now | .findEmployee _ | .findOverlap .. | .findLeaveRequest .. | .claimLeaveRequest ..
  | .findAssignment .. | .findPendingSwap .. => .isTrue trivial

variable {s t : LeaveStore} {k : LeaveStatement}

-- ---
-- One statement
-- ---

theorem findOverlap_none :
    (s.findOverlap employeeId startsAt endsAt).isNone = true ↔
      ∀ id row, s.leaveRequests.get? id = some row → row.employeeId = employeeId →
        row.isActive = true → ¬(row.startsAt ≤ endsAt ∧ startsAt ≤ row.endsAt) := by
  rw [findOverlap, Option.isNone_iff_eq_none, Option.map_eq_none_iff, Table.findFirst_none]
  simp only [LeaveRequest.occupies, ← Bool.not_eq_true, Bool.and_eq_true, beq_iff_eq,
    decide_eq_true_eq]
  grind

theorem findPendingSwap_none :
    (s.findPendingSwap requesterId shiftDate).isNone = true ↔
      ∀ id row, s.shiftSwapRequests.get? id = some row →
        row.pendingFor ≠ some (requesterId, shiftDate) := by
  rw [findPendingSwap, Option.isNone_iff_eq_none, Option.map_eq_none_iff, Table.findFirst_none]
  refine forall_congr' fun id => forall_congr' fun row => imp_congr_right fun _ => ?_
  rw [ShiftSwapRequest.isPendingFor, ShiftSwapRequest.pendingFor, ← Bool.not_eq_true]
  simp only [Bool.and_eq_true, beq_iff_eq, ne_eq]
  split <;> simp_all

theorem exclusive_leave_iff (h : Exclusive s) (row : LeaveRequest) (hactive : row.isActive = true) :
    Exclusive { s with leaveRequests := s.leaveRequests.insert row } ↔
      (s.findOverlap row.employeeId row.startsAt row.endsAt).isNone = true := by
  rw [findOverlap_none]
  constructor
  · intro hnext id other hget hemployee hother hdays
    exact hnext.leave id s.leaveRequests.next other row (Table.get?_insert_of_some hget)
      (Table.get?_insert_self _ _) (Table.lt_next hget).ne hemployee hother hactive hdays
  · intro hfree
    refine ⟨fun j k a b ha hb hne hemployee haactive hbactive => ?_, h.swaps⟩
    rcases Table.insert_cases ha with ⟨rfl, rfl⟩ | ha <;>
      rcases Table.insert_cases hb with ⟨rfl, rfl⟩ | hb
    · exact absurd rfl hne
    · exact fun hdays => hfree k b hb hemployee.symm hbactive hdays.symm
    · exact hfree j a ha hemployee haactive
    · exact h.leave j k a b ha hb hne hemployee haactive hbactive

theorem exclusive_swap_iff (h : Exclusive s) (row : ShiftSwapRequest)
    (hpending : row.status = .pending) :
    Exclusive { s with shiftSwapRequests := s.shiftSwapRequests.insert row } ↔
      (s.findPendingSwap row.requesterEmployeeId row.shiftDate).isNone = true := by
  have hkey : row.pendingFor = some (row.requesterEmployeeId, row.shiftDate) := by
    rw [ShiftSwapRequest.pendingFor, if_pos hpending]
  rw [findPendingSwap_none, ← h.swaps.insert_key_iff hkey]
  exact ⟨fun hnext => hnext.swaps, fun hswaps => ⟨h.leave, hswaps⟩⟩

/-- A claim decides a pending request, and leaves all others. -/
theorem claimed_cases
    (h : (s.claimed orgId leaveRequestId userId dto reviewedAt).leaveRequests.get? j = some b) :
    ∃ a, s.leaveRequests.get? j = some a ∧ (b = a ∨ a.status = .pending ∧
      b.employeeId = a.employeeId ∧ b.startsAt = a.startsAt ∧ b.endsAt = a.endsAt) := by
  rw [claimed, Approvals.claim, Table.get?_updateWhere, Option.map_eq_some_iff] at h
  obtain ⟨a, ha, rfl⟩ := h
  refine ⟨a, ha, ?_⟩
  split
  · rename_i hclaimed
    simp only [Bool.and_eq_true, beq_iff_eq] at hclaimed
    exact .inr ⟨hclaimed.2.2, rfl, rfl, rfl⟩
  · exact .inl rfl

theorem Exclusive.claimed (h : Exclusive s) (orgId leaveRequestId userId : Id)
    (dto : ReviewLeaveRequestDto) (reviewedAt : Time) :
    Exclusive (s.claimed orgId leaveRequestId userId dto reviewedAt) := by
  have hback {j} {b : LeaveRequest}
      (hget : (s.claimed orgId leaveRequestId userId dto reviewedAt).leaveRequests.get? j = some b)
      (hactive : b.isActive = true) : ∃ a, s.leaveRequests.get? j = some a ∧ a.isActive = true ∧
        b.employeeId = a.employeeId ∧ b.startsAt = a.startsAt ∧ b.endsAt = a.endsAt := by
    obtain ⟨a, ha, rfl | ⟨hpending, hsame⟩⟩ := claimed_cases hget
    · exact ⟨b, ha, hactive, rfl, rfl, rfl⟩
    · exact ⟨a, ha, by rw [LeaveRequest.isActive, hpending]; rfl, hsame⟩
  refine ⟨fun j k a b ha hb hne hemployee haactive hbactive => ?_, h.swaps⟩
  obtain ⟨a', ha', haactive', hae, hastart, haend⟩ := hback ha haactive
  obtain ⟨b', hb', hbactive', hbe, hbstart, hbend⟩ := hback hb hbactive
  rw [LeaveRequest.overlaps, hastart, haend, hbstart, hbend]
  exact h.leave j k a' b' ha' hb' hne (by rw [← hae, hemployee, hbe]) haactive' hbactive'

theorem exec_exclusive_iff (h : Exclusive s) : Exclusive (s.exec k).1 ↔ s.stillFree k := by
  cases k with
  | createLeaveRequest userId ctx dto => exact exclusive_leave_iff h (leaveRow userId ctx dto) rfl
  | createShiftSwap ctx dto => exact exclusive_swap_iff h (swapRow ctx dto) rfl
  | claimLeaveRequest orgId leaveRequestId userId dto reviewedAt =>
    exact iff_of_true (h.claimed orgId leaveRequestId userId dto reviewedAt) trivial
  | _ => exact iff_of_true h trivial

/-- No statement changes a decision. -/
theorem exec_decided (s : LeaveStore) (k : LeaveStatement) : decided.rel s (s.exec k).1 := by
  cases k with
  | createLeaveRequest userId ctx dto =>
    rintro id row hget -
    show ((s.leaveRequests.insert _).get? id).map (·.status) = _
    rw [Table.get?_insert_of_some hget]
    rfl
  | claimLeaveRequest orgId leaveRequestId userId dto reviewedAt =>
    intro id row hget hdecided
    have hpending : row.status ≠ .pending := by
      rcases hdecided with hstatus | hstatus <;> simp [hstatus]
    show ((Approvals.claim s.leaveRequests leaveRequestId _ _).get? id).map (·.status) = _
    rw [Approvals.claim, Table.get?_updateWhere, hget]
    simp [hpending]
  | _ => exact decided.refl s

end LeaveStore

open LeaveStore

-- ---
-- One call after the other
-- ---

inductive LeaveCall
  | createLeaveRequest (userId : Id) (ctx : BranchContext) (dto : CreateLeaveRequestDto)
  | reviewLeaveRequest (userId : Id) (ctx : BranchContext) (id : Id) (dto : ReviewLeaveRequestDto)
  | createShiftSwap (userId : Id) (ctx : BranchContext) (dto : CreateShiftSwapDto)
  deriving DecidableEq, Repr

def LeaveCall.program : LeaveCall → LeaveProgram Id
  | .createLeaveRequest userId ctx dto => AttendanceService.createLeaveRequest userId ctx dto
  | .reviewLeaveRequest userId ctx id dto => AttendanceService.reviewLeaveRequest userId ctx id dto
  | .createShiftSwap userId ctx dto => AttendanceService.createShiftSwap userId ctx dto

variable {s : LeaveStore} {k : LeaveStatement}

/-- A call that no other interrupts inserts right after its look-up. -/
theorem leaveCall_alone (call : LeaveCall) (s : LeaveStore) :
    call.program.Safe (alone LeaveStore.exec Exclusive) 0 (fun _ _ => True) s := by
  cases call with
  | createLeaveRequest userId ctx dto =>
    refine alone_read rfl fun _ => safe_need (fun employee _ => ?_) fun _ => trivial
    refine safe_ensure (fun _ => ?_) fun _ => trivial
    refine safe_ensure (fun _ => ?_) fun _ => trivial
    refine alone_read rfl fun _ => ?_
    split
    · trivial
    · rename_i hfree
      refine alone_last fun h => (exec_exclusive_iff h).mpr ?_
      exact Option.isNone_iff_eq_none.mpr hfree
  | reviewLeaveRequest userId ctx id dto =>
    refine alone_read rfl fun _ => safe_need (fun existing _ => ?_) fun _ => trivial
    refine safe_ensure (fun _ => ?_) fun _ => trivial
    refine safe_ensure (fun _ => ?_) fun _ => trivial
    refine alone_read rfl fun _ => ?_
    refine alone_statement (fun h => (exec_exclusive_iff h).mpr trivial) fun _ => ?_
    exact safe_ensure (fun _ => trivial) fun _ => trivial
  | createShiftSwap userId ctx dto =>
    refine safe_ensure (fun _ => ?_) fun _ => trivial
    refine alone_read rfl fun _ => safe_need (fun requester _ => ?_) fun _ => trivial
    refine safe_ensure (fun _ => ?_) fun _ => trivial
    refine safe_ensure (fun _ => ?_) fun _ => trivial
    refine alone_read rfl fun _ => safe_need (fun target _ => ?_) fun _ => trivial
    refine safe_ensure (fun _ => ?_) fun _ => trivial
    refine alone_read rfl fun _ => safe_ensure (fun _ => ?_) fun _ => trivial
    refine alone_read rfl fun _ => safe_ensure (fun _ => ?_) fun _ => trivial
    refine alone_read rfl fun _ => safe_ensure (fun hfree => ?_) fun _ => trivial
    exact alone_last fun h => (exec_exclusive_iff h).mpr hfree

/-- A call that comes some time after the one before ended. -/
def takeLeaveAlone (s : LeaveStore) (call : Nat × LeaveCall) : LeaveStore :=
  (call.2.program.run LeaveStore.exec (s.wait call.1)).1

theorem LeaveStore.Exclusive.waits (h : Exclusive s) (ms : Nat) : Exclusive (s.wait ms) :=
  ⟨h.leave, h.swaps⟩

theorem takeLeaveAlone_exclusive (h : Exclusive s) (call : Nat × LeaveCall) :
    Exclusive (takeLeaveAlone s call) :=
  (leaveCall_alone call.2 (s.wait call.1)).run_alone (h.waits call.1)

-- ---
-- Every interleaving
-- ---

abbrev LeavePool := Pool LeaveStore (LeaveProgram Id)

abbrev takeLeaveTurn : LeavePool → Turn → LeavePool :=
  Turn.take (fun _ => LeaveStore.exec) LeaveStore.wait

/-- The calls, none of which has started. -/
def requestedLeave (s : LeaveStore) (calls : List LeaveCall) : LeavePool where
  shared := s
  threads := calls.map (·.program)

/-- A decision is kept in every run. Calls that follow one another leave no two active leave
requests of an employee with a day in common, and no two pending swaps of one date; of calls that
overlap this holds all along exactly those runs in which the look-up of each insert, made again as
it is written, still finds nothing. -/
theorem leave_exclusive (s : LeaveStore) (hstart : Exclusive s) :
    (∀ calls : List (Nat × LeaveCall), Exclusive (calls.foldl takeLeaveAlone s)) ∧
    ∀ (calls : List LeaveCall) (turns : List Turn),
      (∀ before between later, turns = before ++ between ++ later →
        decided.rel (before.foldl takeLeaveTurn (requestedLeave s calls)).shared
          (between.foldl takeLeaveTurn
            (before.foldl takeLeaveTurn (requestedLeave s calls))).shared) ∧
      ((∀ before later, turns = before ++ later →
          Exclusive (before.foldl takeLeaveTurn (requestedLeave s calls)).shared) ↔
        Run takeLeaveTurn (fun p t => t.asks stillFree p) (requestedLeave s calls) turns
          (turns.foldl takeLeaveTurn (requestedLeave s calls))) := by
  refine ⟨fun calls => ?_, fun calls turns => ⟨?_, ?_⟩⟩
  · induction calls using List.reverseRecOn with
    | nil => exact hstart
    | append_singleton calls call ih =>
      rw [List.foldl_append]
      exact takeLeaveAlone_exclusive ih call
  · rintro before between later -
    have hwait (u v : LeaveStore) (ms : Nat) (h : decided.rel u v) : decided.rel u (v.wait ms) := h
    exact Turn.foldl_keeps (fun _ u k h => decided.trans h (exec_decided u k)) (hwait _)
      (decided.refl _) between
  · refine Run.all_iff (I := fun p : LeavePool => Exclusive p.shared) hstart fun p t h => ?_
    exact Turn.take_iff h (fun _ _ => exec_exclusive_iff h) h.waits t

/-- Two colleagues of one branch, both on the published roster of one day. -/
def rostered : LeaveStore where
  employees := (Table.empty.insert { orgId := 0, branchId := 0, userId := some 0 }).insert
    { orgId := 0, branchId := 0, userId := some 1 }
  schedules := Table.empty.insert .published
  assignments := (Table.empty.insert
    { orgId := 0, branchId := 0, scheduleId := 0, employeeId := 0, shiftDate := 20000 }).insert
    { orgId := 0, branchId := 0, scheduleId := 0, employeeId := 1, shiftDate := 20000 }

theorem rostered_exclusive : Exclusive rostered where
  leave _ _ _ _ h := by cases h
  swaps _ _ _ _ _ h := by cases h

/-- Leave from one date to another. -/
def asksLeave (first last : Int) : LeaveCall :=
  .createLeaveRequest 0 ⟨0, 0⟩
    { employeeId := 0, startsAt := 86400000 * first, endsAt := 86400000 * last }

def asksSwap : LeaveCall :=
  .createShiftSwap 0 ⟨0, 0⟩
    { requesterEmployeeId := 0, targetEmployeeId := 1, shiftDate := 86400000 * 20000 }

/-- Two weeks are asked for while a swap is, and the first week is rejected before it is asked for
again. -/
theorem leave_exclusive_rostered :
    let calls := [asksLeave 20001 20007, asksLeave 20008 20014, asksSwap,
      .reviewLeaveRequest 2 ⟨0, 0⟩ 0 { status := .rejected }, asksLeave 20001 20007]
    let turns := times 2 0 ++ times 2 1 ++ times 4 2 ++ times 1 0 ++ times 1 1 ++ times 3 3 ++
      times 2 2 ++ times 3 4
    let p := turns.foldl takeLeaveTurn (requestedLeave rostered calls)
    p.shared.leaveRequests.rows.map (·.2.status) = [.rejected, .pending, .pending] ∧
      Exclusive p.shared := by
  intro calls turns p
  have hrun : Run takeLeaveTurn (fun p t => t.asks stillFree p) (requestedLeave rostered calls)
      turns p := Run.of_holds (by decide +kernel)
  exact ⟨by decide +kernel, (((leave_exclusive rostered rostered_exclusive).2 calls turns).2.mpr
    hrun) turns [] (List.append_nil _).symm⟩

/-- Two requests for the same leave, and two for the same swap, of which each looks before the
other inserts. -/
theorem leave_overlaps :
    let after (call : LeaveCall) (n : Nat) :=
      ((times n 0 ++ times (n + 1) 1 ++ times 1 0).foldl takeLeaveTurn
        (requestedLeave rostered [call, call])).shared
    ((after (asksLeave 20001 20007) 2).leaveRequests.rows.map fun row =>
        (row.2.employeeId, row.2.status, row.2.startsAt, row.2.endsAt)) =
      [(0, .pending, 20001, 20007), (0, .pending, 20001, 20007)] ∧
    (after asksSwap 5).shiftSwapRequests.rows.map (·.2.pendingFor) =
      [some (0, 20000), some (0, 20000)] ∧
    ¬(∀ (s : LeaveStore) (calls : List LeaveCall) (turns : List Turn), Exclusive s →
      Exclusive (turns.foldl takeLeaveTurn (requestedLeave s calls)).shared) := by
  intro after
  refine ⟨by decide +kernel, by decide +kernel, fun h => ?_⟩
  let p := (times 5 0 ++ times 6 1 ++ times 1 0).foldl takeLeaveTurn
    (requestedLeave rostered [asksSwap, asksSwap])
  have hexclusive : Exclusive p.shared := h rostered _ _ rostered_exclusive
  have hfirst : (p.shared.shiftSwapRequests.get? 0).bind (·.pendingFor) = some (0, 20000) := by
    decide +kernel
  have hsecond : (p.shared.shiftSwapRequests.get? 1).bind (·.pendingFor) = some (0, 20000) := by
    decide +kernel
  obtain ⟨a, ha, hkey⟩ := Option.bind_eq_some_iff.mp hfirst
  obtain ⟨b, hb, hkey'⟩ := Option.bind_eq_some_iff.mp hsecond
  exact absurd (hexclusive.swaps 0 1 a b _ ha hb hkey hkey') (by decide)

end NimbusPos.AttendanceService
