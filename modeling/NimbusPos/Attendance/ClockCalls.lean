import Mathlib.Data.Set.Lattice
import Mathlib.Order.CompletePartialOrder
import Mathlib.Order.Interval.Set.LinearOrder
import NimbusPos.Attendance.Service
import NimbusPos.Lib.Run

/-!
# Clock calls

The direction of a call is read from the record of the current date. As long as every call that
finds a record of the employee open comes on the date of that record, calls open and close in
turn; after midnight a call opens a second record, or is refused.
-/

namespace NimbusPos.AttendanceService

open Lib Lib.Service

structure ClockCall where
  /-- The time since the call before. -/
  ms : Nat
  userId : Id
  ctx : BranchContext
  dto : ClockAttendanceDto
  deriving DecidableEq, Repr

namespace AttendanceStore

def wait (s : AttendanceStore) (ms : Nat) : AttendanceStore := { s with clock := s.clock + ms }

end AttendanceStore

def takeClock (zone : Zone) (s : AttendanceStore) (call : ClockCall) : AttendanceStore :=
  final (clockInOut zone call.userId call.ctx call.dto (s.wait call.ms))

def AttendanceRecord.isOpen (record : AttendanceRecord) : Bool :=
  record.clockInAt.isSome && record.clockOutAt.isNone

/-- The times from the clock-in to the clock-out; those of an open record have no end. -/
def AttendanceRecord.interval (record : AttendanceRecord) : Set Time :=
  {time | (∃ start ∈ record.clockInAt, start ≤ time) ∧ ∀ finish ∈ record.clockOutAt, time ≤ finish}

-- ---
-- The property
-- ---

/-- The call closed the records of its employee that were open, and opened none. -/
def Closes (s : AttendanceStore) (call : ClockCall) (t : AttendanceStore) : Prop :=
  ∀ recordId record, s.records.get? recordId = some record →
    record.employeeId = call.dto.employeeId → record.isOpen = true →
      (∃ closed, t.records.get? recordId = some closed ∧ closed.clockOutAt.isSome = true) ∧
        t.records.next = s.records.next

def OneOpen (s : AttendanceStore) : Prop :=
  ∀ j k a b, s.records.get? j = some a → s.records.get? k = some b → a.isOpen = true →
    b.isOpen = true → a.employeeId = b.employeeId → j = k

def Apart (s : AttendanceStore) : Prop :=
  ∀ j k a b, s.records.get? j = some a → s.records.get? k = some b → j ≠ k →
    a.employeeId = b.employeeId → Disjoint a.interval b.interval

/-- Each call of an employee that finds a record open closes it, and in every state an employee
has one record open at most and the intervals are disjoint. -/
def Alternates (zone : Zone) (s : AttendanceStore) (calls : List ClockCall) : Prop :=
  (∀ before call later, calls = before ++ call :: later →
      (before.foldl (takeClock zone) s).linked call.userId call.ctx call.dto.employeeId = true →
        Closes (before.foldl (takeClock zone) s) call
          ((before ++ [call]).foldl (takeClock zone) s)) ∧
    ∀ before later, calls = before ++ later →
      OneOpen (before.foldl (takeClock zone) s) ∧ Apart (before.foldl (takeClock zone) s)

/-- A record of the employee that is open on another date than the call's. -/
def openElsewhere (zone : Zone) (s : AttendanceStore) (call : ClockCall) :
    Option (Id × AttendanceRecord) :=
  s.records.findFirst fun _ record => record.employeeId == call.dto.employeeId && record.isOpen &&
    record.attendanceDate != zone.dateOf (s.clock + call.ms)

/-- What the employee has open is of the date of the call. -/
def sameDay (zone : Zone) (s : AttendanceStore) (call : ClockCall) : Prop :=
  s.linked call.userId call.ctx call.dto.employeeId = true →
    (openElsewhere zone s call).isNone = true

instance (zone : Zone) (s : AttendanceStore) (call : ClockCall) :
    Decidable (sameDay zone s call) :=
  inferInstanceAs (Decidable (_ = true → _ = true))

variable {zone : Zone} {s t : AttendanceStore} {call : ClockCall}

theorem sameDay_iff : sameDay zone s call ↔
    (s.linked call.userId call.ctx call.dto.employeeId = true →
      ∀ recordId record, s.records.get? recordId = some record →
        record.employeeId = call.dto.employeeId → record.isOpen = true →
          record.attendanceDate = zone.dateOf (s.clock + call.ms)) := by
  rw [sameDay, Option.isNone_iff_eq_none, openElsewhere, Table.findFirst_none]
  simp only [Bool.and_eq_false_iff, beq_eq_false_iff_ne, bne_eq_false_iff_eq]
  refine imp_congr_right fun _ => forall_congr' fun recordId => forall_congr' fun record =>
    imp_congr_right fun _ => ?_
  constructor
  · rintro ((hother | hclosed) | hdate) hemployee hopen
    · exact absurd hemployee hother
    · cases hclosed.symm.trans hopen
    · exact hdate
  · intro h
    by_cases hemployee : record.employeeId = call.dto.employeeId
    · cases hopen : record.isOpen with
      | false => exact .inl (.inr rfl)
      | true => exact .inr (h hemployee hopen)
    · exact .inl (.inl hemployee)

theorem isOpen_iff {record : AttendanceRecord} : record.isOpen = true ↔
    record.clockInAt.isSome = true ∧ record.clockOutAt = none := by
  rw [AttendanceRecord.isOpen, Bool.and_eq_true, Option.isNone_iff_eq_none]

-- ---
-- One call
-- ---

/-- The unique index of the records. -/
def OnePerDay (s : AttendanceStore) : Prop :=
  s.records.UniqueOn fun record => some (record.employeeId, record.attendanceDate)

/-- The records of a store in which calls have opened and closed in turn. -/
structure Orderly (zone : Zone) (s : AttendanceStore) : Prop where
  onePerDay : OnePerDay s
  oneOpen : OneOpen s
  apart : Apart s
  begun : ∀ recordId record, s.records.get? recordId = some record →
    ∀ start ∈ record.clockInAt, start ≤ s.clock
  /-- A record is closed on its date. -/
  ended : ∀ recordId record, s.records.get? recordId = some record →
    ∀ finish ∈ record.clockOutAt, finish ≤ s.clock ∧ zone.dateOf finish = record.attendanceDate

theorem recordOn_some (h : s.recordOn employeeId date = some (recordId, record)) :
    s.records.get? recordId = some record ∧ record.employeeId = employeeId ∧
      record.attendanceDate = date := by
  obtain ⟨hget, hfound⟩ := Table.findFirst_some h
  simpa only [Bool.and_eq_true, beq_iff_eq, hget, true_and] using hfound

theorem recordOn_none (h : s.recordOn employeeId date = none)
    (hget : s.records.get? recordId = some record) (hemployee : record.employeeId = employeeId) :
    record.attendanceDate ≠ date := by
  have hmiss := Table.findFirst_none.mp h recordId record hget
  simpa only [hemployee, beq_self_eq_true, Bool.true_and, beq_eq_false_iff_ne] using hmiss

theorem OnePerDay.clockedOut (h : OnePerDay s) (recordId : Id) (dto : ClockAttendanceDto) :
    OnePerDay (s.clockedOut recordId dto) :=
  Table.UniqueOn.updateWhere h fun _ _ _ _ hkey => hkey

theorem OnePerDay.clockedIn (h : OnePerDay s)
    (hfound : s.recordOn dto.employeeId (zone.dateOf s.clock) = none) :
    OnePerDay (s.clockedIn zone userId ctx dto) := by
  refine h.insert fun recordId record key hget hnew hold => ?_
  obtain rfl := Option.some.inj hnew
  simp only [Option.some.injEq, Prod.mk.injEq] at hold
  exact recordOn_none hfound hget hold.1 hold.2

theorem OnePerDay.takeClock (h : OnePerDay s) : OnePerDay (takeClock zone s call) := by
  have hwait : OnePerDay (s.wait call.ms) := h
  have hclocks := clockInOut_clocks zone call.userId call.ctx call.dto (s.wait call.ms)
  rw [AttendanceService.takeClock]
  generalize final _ = t at hclocks
  cases hclocks with
  | unlinked | refused => exact hwait
  | clocksOut hlinked hfound hopen => exact hwait.clockedOut _ _
  | clocksIn hlinked hfound => exact hwait.clockedIn hfound

theorem Orderly.wait (h : Orderly zone s) (ms : Nat) : Orderly zone (s.wait ms) where
  onePerDay := h.onePerDay
  oneOpen := h.oneOpen
  apart := h.apart
  begun recordId record hget start hstart :=
    (h.begun recordId record hget start hstart).trans (Nat.le_add_right _ _)
  ended recordId record hget finish hfinish := by
    obtain ⟨hle, hdate⟩ := h.ended recordId record hget finish hfinish
    exact ⟨hle.trans (Nat.le_add_right _ _), hdate⟩

/-- A record, and what a clock-out may have made of it. -/
structure Narrows (a b : AttendanceRecord) : Prop where
  employee : b.employeeId = a.employeeId
  clockIn : b.clockInAt = a.clockInAt
  interval : b.interval ⊆ a.interval
  opened : b.isOpen = true → a.isOpen = true

theorem narrows_clockedOut (hget : s.records.get? recordId = some record)
    (hopen : record.clockOutAt = none)
    (h : (s.clockedOut recordId dto).records.get? k = some b) :
    ∃ a, s.records.get? k = some a ∧ Narrows a b ∧ b.attendanceDate = a.attendanceDate ∧
      ∀ finish ∈ b.clockOutAt, finish ∈ a.clockOutAt ∨ k = recordId ∧ finish = s.clock := by
  rcases Table.update_cases h with ⟨rfl, a, ha, rfl⟩ | ⟨_, ha⟩
  · obtain rfl := Option.some.inj (hget.symm.trans ha)
    refine ⟨record, hget, ⟨rfl, rfl, ?_, ?_⟩, rfl, ?_⟩
    · rintro time ⟨hstart, _⟩
      exact ⟨hstart, by simp [hopen]⟩
    · intro hclosed
      cases (isOpen_iff.mp hclosed).2
    · rintro finish hfinish
      exact .inr ⟨rfl, (Option.some.inj hfinish).symm⟩
  · exact ⟨b, ha, ⟨rfl, rfl, subset_rfl, id⟩, rfl, fun finish hfinish => .inl hfinish⟩

theorem clockedOut_closed (hget : s.records.get? recordId = some record)
    (dto : ClockAttendanceDto) :
    ∃ closed, (s.clockedOut recordId dto).records.get? recordId = some closed ∧
      closed.clockOutAt.isSome = true := by
  have hclosed : (s.clockedOut recordId dto).records.get? recordId = _ :=
    Table.get?_update_self _ _
  rw [hget, Option.map_some] at hclosed
  exact ⟨_, hclosed, rfl⟩

theorem Orderly.clockedOut (h : Orderly zone s)
    (hfound : s.recordOn dto.employeeId (zone.dateOf s.clock) = some (recordId, record))
    (hopen : record.clockOutAt = none) : Orderly zone (s.clockedOut recordId dto) := by
  obtain ⟨hget, _, hdate⟩ := recordOn_some hfound
  refine ⟨h.onePerDay.clockedOut recordId dto, ?_, ?_, ?_, ?_⟩
  · intro j k a b ha hb haopen hbopen hsame
    obtain ⟨a', ha', hanarrow, _⟩ := narrows_clockedOut hget hopen ha
    obtain ⟨b', hb', hbnarrow, _⟩ := narrows_clockedOut hget hopen hb
    refine h.oneOpen j k a' b' ha' hb' (hanarrow.opened haopen) (hbnarrow.opened hbopen) ?_
    rw [← hanarrow.employee, hsame, hbnarrow.employee]
  · intro j k a b ha hb hne hsame
    obtain ⟨a', ha', hanarrow, _⟩ := narrows_clockedOut hget hopen ha
    obtain ⟨b', hb', hbnarrow, _⟩ := narrows_clockedOut hget hopen hb
    refine (h.apart j k a' b' ha' hb' hne ?_).mono hanarrow.interval hbnarrow.interval
    rw [← hanarrow.employee, hsame, hbnarrow.employee]
  · intro k b hb start hstart
    obtain ⟨a, ha, hnarrow, _⟩ := narrows_clockedOut hget hopen hb
    exact h.begun k a ha start (hnarrow.clockIn ▸ hstart)
  · intro k b hb finish hfinish
    obtain ⟨a, ha, _, hsameDate, hends⟩ := narrows_clockedOut hget hopen hb
    rcases hends finish hfinish with hbefore | ⟨rfl, rfl⟩
    · exact hsameDate ▸ h.ended k a ha finish hbefore
    · obtain rfl := Option.some.inj (hget.symm.trans ha)
      exact ⟨Nat.le_refl _, hsameDate ▸ hdate.symm⟩

/-- A record that is opened when the employee has none open begins after all others. -/
theorem Orderly.clockedIn (h : Orderly zone s)
    (hfound : s.recordOn dto.employeeId (zone.dateOf s.clock) = none)
    (hclosed : ∀ recordId record, s.records.get? recordId = some record →
      record.employeeId = dto.employeeId → record.isOpen = false) :
    Orderly zone (s.clockedIn zone userId ctx dto) := by
  have hafter {recordId record} (hget : s.records.get? recordId = some record)
      (hemployee : record.employeeId = dto.employeeId) :
      Disjoint record.interval
        (clockInRow zone userId ctx dto (s.activePolicy ctx) s.clock).interval := by
    refine Set.disjoint_left.mpr ?_
    rintro time ⟨⟨start, hstart, _⟩, hfinish⟩ ⟨⟨began, hbegan, hle⟩, _⟩
    obtain rfl : s.clock = began := Option.some.inj hbegan
    cases hout : record.clockOutAt with
    | none =>
      have hopen : record.isOpen = true := isOpen_iff.mpr ⟨Option.isSome_of_mem hstart, hout⟩
      cases (hclosed recordId record hget hemployee).symm.trans hopen
    | some finish =>
      obtain ⟨hpast, hdate⟩ := h.ended recordId record hget finish hout
      obtain rfl : finish = s.clock := le_antisymm hpast (hle.trans (hfinish finish hout))
      exact recordOn_none hfound hget hemployee hdate.symm
  refine ⟨h.onePerDay.clockedIn hfound, ?_, ?_, ?_, ?_⟩
  · intro j k a b ha hb haopen hbopen hsame
    rcases Table.insert_cases ha with ⟨rfl, rfl⟩ | ha <;>
      rcases Table.insert_cases hb with ⟨rfl, rfl⟩ | hb
    · rfl
    · cases (hclosed k b hb hsame.symm).symm.trans hbopen
    · cases (hclosed j a ha hsame).symm.trans haopen
    · exact h.oneOpen j k a b ha hb haopen hbopen hsame
  · intro j k a b ha hb hne hsame
    rcases Table.insert_cases ha with ⟨rfl, rfl⟩ | ha <;>
      rcases Table.insert_cases hb with ⟨rfl, rfl⟩ | hb
    · exact absurd rfl hne
    · exact (hafter hb hsame.symm).symm
    · exact hafter ha hsame
    · exact h.apart j k a b ha hb hne hsame
  · intro k b hb start hstart
    rcases Table.insert_cases hb with ⟨rfl, rfl⟩ | hb
    · obtain rfl : s.clock = start := Option.some.inj hstart
      exact Nat.le_refl _
    · exact h.begun k b hb start hstart
  · intro k b hb finish hfinish
    rcases Table.insert_cases hb with ⟨rfl, rfl⟩ | hb
    · cases hfinish
    · exact h.ended k b hb finish hfinish

theorem Orderly.takeClock (h : Orderly zone s) (hday : sameDay zone s call) :
    Orderly zone (takeClock zone s call) := by
  have hwait := h.wait call.ms
  have hclocks := clockInOut_clocks zone call.userId call.ctx call.dto (s.wait call.ms)
  have hday' := sameDay_iff.mp hday
  rw [AttendanceService.takeClock]
  generalize final _ = t at hclocks
  cases hclocks with
  | unlinked | refused => exact hwait
  | clocksOut hlinked hfound hopen => exact hwait.clockedOut hfound hopen
  | clocksIn hlinked hfound =>
    refine hwait.clockedIn hfound fun recordId record hget hemployee => ?_
    rw [← Bool.not_eq_true]
    intro hopen
    exact recordOn_none hfound hget hemployee
      (hday' hlinked recordId record hget hemployee hopen)

/-- A call of the employee closes what it finds open exactly if that is of the date of the call. -/
theorem closes_iff (h : OnePerDay s) :
    (s.linked call.userId call.ctx call.dto.employeeId = true →
      Closes s call (takeClock zone s call)) ↔ sameDay zone s call := by
  rw [sameDay_iff]
  refine imp_congr_right fun hlinked => ?_
  have hclocks := clockInOut_clocks zone call.userId call.ctx call.dto (s.wait call.ms)
  rw [← AttendanceService.takeClock] at hclocks
  refine forall_congr' fun recordId => forall_congr' fun record => forall_congr' fun hget =>
    forall_congr' fun hemployee => forall_congr' fun hopen => ?_
  obtain ⟨-, hnone⟩ := isOpen_iff.mp hopen
  -- The record of the employee on the date of the call is the only one.
  have honly {foundId found} (hfound : (s.wait call.ms).recordOn call.dto.employeeId
      (zone.dateOf (s.clock + call.ms)) = some (foundId, found))
      (hdate : record.attendanceDate = zone.dateOf (s.clock + call.ms)) :
      foundId = recordId ∧ found = record := by
    obtain ⟨hother, hsame, hday⟩ := recordOn_some hfound
    have hkey : (record.employeeId, record.attendanceDate) =
        (found.employeeId, found.attendanceDate) := by rw [hemployee, hdate, hsame, hday]
    obtain rfl : foundId = recordId :=
      h foundId recordId found record _ hother hget rfl (congrArg some hkey)
    exact ⟨rfl, Option.some.inj (hother.symm.trans hget)⟩
  generalize takeClock zone s call = t at hclocks
  cases hclocks with
  | unlinked hnot => cases hlinked.symm.trans hnot
  | refused _ hfound hclosed =>
    refine iff_of_false ?_ fun hdate => ?_
    · rintro ⟨⟨closed, hclosed, hsome⟩, _⟩
      obtain rfl := Option.some.inj (hget.symm.trans hclosed)
      rw [hnone] at hsome
      cases hsome
    · obtain ⟨_, rfl⟩ := honly hfound hdate
      rw [hnone] at hclosed
      cases hclosed
  | clocksOut _ hfound _ =>
    constructor
    · rintro ⟨⟨closed, hclosed, hsome⟩, _⟩
      rcases Table.update_cases hclosed with ⟨rfl, a, ha, _⟩ | ⟨_, ha⟩
      · obtain ⟨hother, _, hday⟩ := recordOn_some hfound
        obtain rfl := Option.some.inj (hget.symm.trans hother)
        exact hday
      · obtain rfl := Option.some.inj (hget.symm.trans ha)
        rw [hnone] at hsome
        cases hsome
    · intro hdate
      obtain ⟨rfl, rfl⟩ := honly hfound hdate
      exact ⟨clockedOut_closed (s := s.wait call.ms) hget call.dto, rfl⟩
  | clocksIn _ hfound =>
    refine iff_of_false ?_ fun hdate => recordOn_none hfound hget hemployee hdate
    rintro ⟨_, hnext⟩
    exact absurd hnext (Nat.succ_ne_self _)

-- ---
-- All calls
-- ---

/-- Calls alternate exactly when each finds what its employee has open on its own date. -/
theorem clock_alternates (hstart : Orderly zone s) (calls : List ClockCall) :
    Alternates zone s calls ↔
      Run (takeClock zone) (sameDay zone) s calls (calls.foldl (takeClock zone) s) := by
  have honePerDay (before : List ClockCall) : OnePerDay (before.foldl (takeClock zone) s) := by
    induction before using List.reverseRecOn with
    | nil => exact hstart.onePerDay
    | append_singleton before call ih =>
      rw [List.foldl_append]
      exact ih.takeClock
  constructor
  · rintro ⟨hcloses, _⟩
    refine Run.of_all fun before call later hcalls => ?_
    refine (closes_iff (honePerDay before)).mp fun hlinked => ?_
    have hclosed := hcloses before call later hcalls hlinked
    rwa [List.foldl_append] at hclosed
  · intro hrun
    constructor
    · rintro before call later rfl hlinked
      rw [List.foldl_append]
      exact (closes_iff (honePerDay before)).mpr hrun.split.2 hlinked
    · rintro before later rfl
      have horderly : Orderly zone (before.foldl (takeClock zone) s) :=
        hrun.take.invariant hstart fun _ _ h hday => h.takeClock hday
      exact ⟨horderly.oneOpen, horderly.apart⟩

/-- An employee with a user, and no records. -/
def hired : AttendanceStore where
  employees := Table.empty.insert { orgId := 0, branchId := 0, userId := some 0 }
  policies := Table.empty.insert { orgId := 0, graceMinutes := 15, autoLateAfterMinutes := some 30 }

theorem hired_orderly : Orderly zone hired where
  onePerDay _ _ _ _ _ h := by cases h
  oneOpen _ _ _ _ h := by cases h
  apart _ _ _ _ h := by cases h
  begun _ _ h := by cases h
  ended _ _ h := by cases h

/-- A call so many minutes after the one before. -/
def clocks (minutes : Nat) : ClockCall where
  ms := 60000 * minutes
  userId := 0
  ctx := ⟨0, 0⟩
  dto := { employeeId := 0 }

/-- In at nine and out at five, a third call that is refused, and in again on the next day. -/
theorem clock_alternates_hired :
    let calls := [clocks 540, clocks 480, clocks 10, clocks 950]
    (calls.foldl (takeClock (.offset 0)) hired).records.rows.map
        (fun row => (row.2.clockInAt, row.2.clockOutAt)) =
      [(some 32400000, some 61200000), (some 118800000, none)] ∧
    Alternates (.offset 0) hired calls := by
  intro calls
  have hrun : Run (takeClock (.offset 0)) (sameDay (.offset 0)) hired calls
      (calls.foldl (takeClock (.offset 0)) hired) := Run.of_holds (by decide +kernel)
  exact ⟨by decide +kernel, (clock_alternates hired_orderly calls).mpr hrun⟩

/-- In at six in the evening: the call at two in the night opens a second record, a third call
closes that one, and a fourth is refused while the first record is open. -/
theorem night_shift :
    let calls := [clocks 1080, clocks 480, clocks 60, clocks 60]
    (calls.foldl (takeClock (.offset 0)) hired).records.rows.map
        (fun row => (row.2.clockInAt, row.2.clockOutAt)) =
      [(some 64800000, none), (some 93600000, some 97200000)] ∧
    ¬(∀ (zone : Zone) (s : AttendanceStore) (calls : List ClockCall), Orderly zone s →
      Alternates zone s calls) := by
  intro calls
  refine ⟨by decide +kernel, fun h => ?_⟩
  have hcloses := (h (.offset 0) hired [clocks 1080, clocks 480] hired_orderly).1 [clocks 1080]
    (clocks 480) [] rfl (by decide +kernel)
  have hfirst : (([clocks 1080].foldl (takeClock (.offset 0)) hired).records.get? 0).any
      (fun record => record.employeeId == 0 && record.isOpen) = true := by decide +kernel
  obtain ⟨record, hget, hrecord⟩ := (Option.any_eq_true _ _).mp hfirst
  rw [Bool.and_eq_true, beq_iff_eq] at hrecord
  obtain ⟨_, hnext⟩ := hcloses 0 record hget hrecord.1 hrecord.2
  exact absurd hnext (by decide +kernel)

end NimbusPos.AttendanceService
