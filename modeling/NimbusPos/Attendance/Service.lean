import NimbusPos.Common

/-!
# Clocking in and out

`clockInOut` is a toggle over the record of the current day: the first call of a day opens it, the
second one closes it, and a third one is refused.
-/

namespace NimbusPos.AttendanceService

open Lib Lib.Service

-- ---
-- Rows
-- ---

inductive AttendanceStatus
  | clockedIn
  | clockedOut
  | late
  | absent
  | onLeave
  deriving DecidableEq, Repr

structure Employee where
  orgId : Id
  branchId : Id
  userId : Option Id := none
  deriving DecidableEq, Repr

structure AttendancePolicy where
  orgId : Id
  branchId : Option Id := none
  graceMinutes : Nat := 0
  autoLateAfterMinutes : Option Nat := none
  active : Bool := true
  deriving DecidableEq, Repr

/-- The date is a number of days. -/
structure AttendanceRecord where
  orgId : Id
  branchId : Id
  employeeId : Id
  userId : Option Id := none
  attendanceDate : Int
  clockInAt : Option Time := none
  clockOutAt : Option Time := none
  status : AttendanceStatus
  lateMinutes : Nat := 0
  policyId : Option Id := none
  notes : Option String := none
  deriving DecidableEq, Repr

structure AttendanceStore where
  employees : Table Employee := .empty
  policies : Table AttendancePolicy := .empty
  records : Table AttendanceRecord := .empty
  clock : Time := 0

/-- The time zone of the server: the date of a time, from `setHours(0, 0, 0, 0)`, and the minute
of its day. -/
structure Zone where
  dateOf : Time → Int
  minutesOf : Time → Nat

/-- A server at an offset from UTC, in minutes. -/
def Zone.offset (minutes : Int) : Zone where
  dateOf now := (now / 60000 + minutes) / 1440
  minutesOf now := ((now / 60000 + minutes) % 1440).toNat

structure ClockAttendanceDto where
  employeeId : Id
  notes : Option String := none
  deriving DecidableEq, Repr

-- ---
-- The call
-- ---

namespace AttendanceStore

/-- `findUnique({ where: { employeeId_attendanceDate } })`. -/
def recordOn (s : AttendanceStore) (employeeId : Id) (date : Int) :
    Option (Id × AttendanceRecord) :=
  s.records.findFirst fun _ record =>
    record.employeeId == employeeId && record.attendanceDate == date

/-- In descending order the policies of no branch come first. -/
def activePolicy (s : AttendanceStore) (ctx : BranchContext) : Option (Id × AttendancePolicy) :=
  let applies (policy : AttendancePolicy) := policy.orgId == ctx.organizationId && policy.active &&
    (policy.branchId == some ctx.branchId || policy.branchId.isNone)
  (s.policies.findFirst fun _ policy => applies policy && policy.branchId.isNone).or
    (s.policies.findFirst fun _ policy => applies policy)

end AttendanceStore

def defaultShiftStart : Nat := 8 * 60

/-- By how many minutes a clock-in is late. -/
def lateness (policy : Option AttendancePolicy) (currentMinutes : Nat) : Nat :=
  match policy with
  | none => 0
  | some policy =>
    match policy.autoLateAfterMinutes.filter (· != 0) with
    | none => 0
    | some autoLateAfterMinutes =>
      let thresholdMinutes := autoLateAfterMinutes + policy.graceMinutes
      if currentMinutes > defaultShiftStart + thresholdMinutes then
        currentMinutes - defaultShiftStart - policy.graceMinutes
      else 0

/-- The record that a clock-in opens. -/
def clockInRow (zone : Zone) (userId : Id) (ctx : BranchContext) (dto : ClockAttendanceDto)
    (policy : Option (Id × AttendancePolicy)) (now : Time) : AttendanceRecord :=
  let lateMinutes := lateness (policy.map (·.2)) (zone.minutesOf now)
  { orgId := ctx.organizationId, branchId := ctx.branchId, employeeId := dto.employeeId
    userId := some userId, attendanceDate := zone.dateOf now, clockInAt := some now
    status := if lateMinutes > 0 then .late else .clockedIn
    lateMinutes, policyId := policy.map (·.1), notes := dto.notes }

namespace AttendanceStore

def clockedIn (s : AttendanceStore) (zone : Zone) (userId : Id) (ctx : BranchContext)
    (dto : ClockAttendanceDto) : AttendanceStore :=
  { s with
    records := s.records.insert (clockInRow zone userId ctx dto (s.activePolicy ctx) s.clock) }

def clockedOut (s : AttendanceStore) (recordId : Id) (dto : ClockAttendanceDto) :
    AttendanceStore :=
  { s with
    records := s.records.update recordId fun record =>
      { record with
        clockOutAt := some s.clock, status := .clockedOut, notes := dto.notes.or record.notes } }

end AttendanceStore

def clockInOut (zone : Zone) (userId : Id) (ctx : BranchContext) (dto : ClockAttendanceDto) :
    Service HttpError AttendanceStore Id := do
  let s ← get
  let employee ← need ((s.employees.get? dto.employeeId).filter (·.orgId == ctx.organizationId))
    (notFound ("Employee \"" ++ toString dto.employeeId ++ "\" not found in this organization"))
  ensure (employee.userId == some userId)
    (forbidden "Current user can only clock their own linked employee profile")
  match s.recordOn dto.employeeId (zone.dateOf s.clock) with
  | some (recordId, existing) => do
    ensure existing.clockOutAt.isNone
      (conflict ("Employee \"" ++ toString dto.employeeId ++ "\" already clocked out for today"))
    modify (·.clockedOut recordId dto)
    return recordId
  | none => do
    modify (·.clockedIn zone userId ctx dto)
    return s.records.next

/-- The call is of the employee's own user, in the organisation. -/
def AttendanceStore.linked (s : AttendanceStore) (userId : Id) (ctx : BranchContext)
    (employeeId : Id) : Bool :=
  (s.employees.get? employeeId).any fun employee =>
    employee.orgId == ctx.organizationId && employee.userId == some userId

/-- What a call finds and leaves. -/
inductive Clocks (zone : Zone) (userId : Id) (ctx : BranchContext) (dto : ClockAttendanceDto)
    (s : AttendanceStore) : AttendanceStore → Prop
  | unlinked (h : s.linked userId ctx dto.employeeId = false) : Clocks zone userId ctx dto s s
  | refused (h : s.linked userId ctx dto.employeeId = true)
      (hfound : s.recordOn dto.employeeId (zone.dateOf s.clock) = some (recordId, record))
      (hclosed : record.clockOutAt.isSome = true) : Clocks zone userId ctx dto s s
  | clocksOut (h : s.linked userId ctx dto.employeeId = true)
      (hfound : s.recordOn dto.employeeId (zone.dateOf s.clock) = some (recordId, record))
      (hopen : record.clockOutAt = none) :
      Clocks zone userId ctx dto s (s.clockedOut recordId dto)
  | clocksIn (h : s.linked userId ctx dto.employeeId = true)
      (hfound : s.recordOn dto.employeeId (zone.dateOf s.clock) = none) :
      Clocks zone userId ctx dto s (s.clockedIn zone userId ctx dto)

theorem clockInOut_clocks (zone : Zone) (userId : Id) (ctx : BranchContext)
    (dto : ClockAttendanceDto) (s : AttendanceStore) :
    Clocks zone userId ctx dto s (final (clockInOut zone userId ctx dto s)) := by
  rw [clockInOut, final_get]
  cases hemployee : s.employees.get? dto.employeeId with
  | none => exact .unlinked (by simp [AttendanceStore.linked, hemployee])
  | some employee =>
    cases horg : employee.orgId == ctx.organizationId with
    | false =>
      rw [Option.filter_some, horg]
      exact .unlinked (by simp [AttendanceStore.linked, hemployee, horg])
    | true =>
      rw [Option.filter_some, horg, if_pos rfl, final_need_some, final_ensure]
      split
      · rename_i huser
        have hlinked : s.linked userId ctx dto.employeeId = true := by
          simp only [AttendanceStore.linked, hemployee, Option.any_some, horg, huser, Bool.and_self]
        cases hfound : s.recordOn dto.employeeId (zone.dateOf s.clock) with
        | none => exact .clocksIn hlinked hfound
        | some found =>
          rw [final_ensure]
          split
          · rename_i hopen
            exact .clocksOut hlinked hfound (Option.isNone_iff_eq_none.mp hopen)
          · rename_i hclosed
            refine .refused hlinked hfound ?_
            rwa [Bool.not_eq_true, Option.isNone_eq_false_iff] at hclosed
      · rename_i huser
        rw [Bool.not_eq_true] at huser
        exact .unlinked (by simp [AttendanceStore.linked, hemployee, horg, huser])

end NimbusPos.AttendanceService
