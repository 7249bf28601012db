import NimbusPos.Attendance.Service
import NimbusPos.UnifiedApprovals.Service

/-!
# Leave and shift swaps

An employee asks for leave, or to swap a shift, when no request of the same time is found; a
review claims the row that it decides. Each call is the program of its statements.
-/

namespace NimbusPos.AttendanceService

open Lib Lib.Program
open Approvals (LeaveRequestStatus ShiftSwapStatus)

-- ---
-- Rows
-- ---

inductive LeaveType
  | annual
  | sick
  | unpaid
  | emergency
  | other
  deriving DecidableEq, Repr

/-- The dates are `@db.Date` columns, in days. -/
structure LeaveRequest where
  orgId : Id
  branchId : Option Id := none
  employeeId : Id
  leaveType : LeaveType := .annual
  startsAt : Int
  endsAt : Int
  reason : Option String := none
  status : LeaveRequestStatus := .pending
  requestedById : Id
  reviewedById : Option Id := none
  reviewedAt : Option Time := none
  reviewNotes : Option String := none
  deriving DecidableEq, Repr

structure ShiftSwapRequest where
  orgId : Id
  branchId : Id
  requesterEmployeeId : Id
  targetEmployeeId : Id
  shiftDate : Int
  reason : Option String := none
  status : ShiftSwapStatus := .pending
  deriving DecidableEq, Repr

inductive ScheduleStatus
  | draft
  | published
  | archived
  deriving DecidableEq, Repr

structure ScheduleAssignment where
  orgId : Id
  branchId : Id
  scheduleId : Id
  employeeId : Id
  shiftDate : Int
  deriving DecidableEq, Repr

structure LeaveStore where
  employees : Table Employee := .empty
  schedules : Table ScheduleStatus := .empty
  assignments : Table ScheduleAssignment := .empty
  leaveRequests : Table LeaveRequest := .empty
  shiftSwapRequests : Table ShiftSwapRequest := .empty
  clock : Time := 0

/-- The date that a column keeps of a time, in UTC. -/
def dateOf (time : Int) : Int := time / 86400000

/-- The times are in milliseconds. -/
structure CreateLeaveRequestDto where
  employeeId : Id
  leaveType : LeaveType := .annual
  startsAt : Int
  endsAt : Int
  reason : Option String := none
  deriving DecidableEq, Repr

structure CreateShiftSwapDto where
  requesterEmployeeId : Id
  targetEmployeeId : Id
  shiftDate : Int
  reason : Option String := none
  deriving DecidableEq, Repr

structure ReviewLeaveRequestDto where
  status : LeaveRequestStatus
  reviewNotes : Option String := none
  deriving DecidableEq, Repr

def leaveRow (userId : Id) (ctx : BranchContext) (dto : CreateLeaveRequestDto) : LeaveRequest :=
  { orgId := ctx.organizationId, branchId := ctx.branchId, employeeId := dto.employeeId
    leaveType := dto.leaveType, startsAt := dateOf dto.startsAt, endsAt := dateOf dto.endsAt
    reason := dto.reason, requestedById := userId }

def swapRow (ctx : BranchContext) (dto : CreateShiftSwapDto) : ShiftSwapRequest :=
  { orgId := ctx.organizationId, branchId := ctx.branchId
    requesterEmployeeId := dto.requesterEmployeeId, targetEmployeeId := dto.targetEmployeeId
    shiftDate := dateOf dto.shiftDate, reason := dto.reason }

-- ---
-- Statements
-- ---

inductive LeaveStatement
  | now
  | findEmployee (employeeId : Id)
  | findOverlap (employeeId : Id) (startsAt endsAt : Int)
  | createLeaveRequest (userId : Id) (ctx : BranchContext) (dto : CreateLeaveRequestDto)
  | findLeaveRequest (orgId leaveRequestId : Id)
  | claimLeaveRequest (orgId leaveRequestId userId : Id) (dto : ReviewLeaveRequestDto)
      (reviewedAt : Time)
  | findAssignment (ctx : BranchContext) (employeeId : Id) (shiftDate : Int)
  | findPendingSwap (requesterEmployeeId : Id) (shiftDate : Int)
  | createShiftSwap (ctx : BranchContext) (dto : CreateShiftSwapDto)
  deriving DecidableEq, Repr

abbrev LeaveStatement.Answer : LeaveStatement → Type
  | .now => Time
  | .findEmployee _ => Option Employee
  | .findOverlap .. => Option LeaveRequest
  | .findLeaveRequest .. => Option LeaveRequest
  | .findAssignment .. => Option ScheduleAssignment
  | .findPendingSwap .. => Option ShiftSwapRequest
  | .claimLeaveRequest .. => Nat
  | .createLeaveRequest .. | .createShiftSwap .. => Id

/-- `status: { in: ['PENDING', 'APPROVED'] }`. -/
def LeaveRequest.isActive (row : LeaveRequest) : Bool :=
  row.status == .pending || row.status == .approved

/-- A request of the employee that is active in the period. -/
def LeaveRequest.occupies (row : LeaveRequest) (employeeId : Id) (startsAt endsAt : Int) : Bool :=
  row.employeeId == employeeId && row.isActive && decide (row.startsAt ≤ endsAt) &&
    decide (startsAt ≤ row.endsAt)

def ShiftSwapRequest.isPendingFor (row : ShiftSwapRequest) (requesterEmployeeId : Id)
    (shiftDate : Int) : Bool :=
  row.requesterEmployeeId == requesterEmployeeId && row.shiftDate == shiftDate &&
    row.status == .pending

namespace LeaveStore

def findOverlap (s : LeaveStore) (employeeId : Id) (startsAt endsAt : Int) :
    Option LeaveRequest :=
  (s.leaveRequests.findFirst fun _ row => row.occupies employeeId startsAt endsAt).map (·.2)

def findPendingSwap (s : LeaveStore) (requesterEmployeeId : Id) (shiftDate : Int) :
    Option ShiftSwapRequest :=
  (s.shiftSwapRequests.findFirst fun _ row =>
    row.isPendingFor requesterEmployeeId shiftDate).map (·.2)

/-- An assignment of a published roster. -/
def findAssignment (s : LeaveStore) (ctx : BranchContext) (employeeId : Id) (shiftDate : Int) :
    Option ScheduleAssignment :=
  (s.assignments.findFirst fun _ row => row.orgId == ctx.organizationId &&
    row.branchId == ctx.branchId && row.employeeId == employeeId && row.shiftDate == shiftDate &&
    (s.schedules.get? row.scheduleId).any (· == .published)).map (·.2)

/-- `updateMany` of the row while it is pending. -/
def claimed (s : LeaveStore) (orgId leaveRequestId userId : Id) (dto : ReviewLeaveRequestDto)
    (reviewedAt : Time) : LeaveStore :=
  { s with
    leaveRequests := Approvals.claim s.leaveRequests leaveRequestId
      (fun row => row.orgId == orgId && row.status == .pending) fun row =>
        { row with
          status := dto.status, reviewedById := some userId, reviewedAt := some reviewedAt
          reviewNotes := dto.reviewNotes.or row.reviewNotes } }

def exec (s : LeaveStore) : (k : LeaveStatement) → LeaveStore × Except HttpError k.Answer
  | .now => (s, .ok s.clock)
  | .findEmployee employeeId => (s, .ok (s.employees.get? employeeId))
  | .findOverlap employeeId startsAt endsAt => (s, .ok (s.findOverlap employeeId startsAt endsAt))
  | .createLeaveRequest userId ctx dto =>
    ({ s with leaveRequests := s.leaveRequests.insert (leaveRow userId ctx dto) },
      .ok s.leaveRequests.next)
  | .findLeaveRequest orgId leaveRequestId =>
    (s, .ok ((s.leaveRequests.get? leaveRequestId).filter (·.orgId == orgId)))
  | .claimLeaveRequest orgId leaveRequestId userId dto reviewedAt =>
    (s.claimed orgId leaveRequestId userId dto reviewedAt,
      .ok (Approvals.claimCount s.leaveRequests leaveRequestId fun row =>
        row.orgId == orgId && row.status == .pending))
  | .findAssignment ctx employeeId shiftDate =>
    (s, .ok (s.findAssignment ctx employeeId shiftDate))
  | .findPendingSwap requesterEmployeeId shiftDate =>
    (s, .ok (s.findPendingSwap requesterEmployeeId shiftDate))
  | .createShiftSwap ctx dto =>
    ({ s with shiftSwapRequests := s.shiftSwapRequests.insert (swapRow ctx dto) },
      .ok s.shiftSwapRequests.next)

def wait (s : LeaveStore) (ms : Nat) : LeaveStore := { s with clock := s.clock + ms }

end LeaveStore

-- ---
-- Calls
-- ---

abbrev LeaveProgram (α : Type) := Program LeaveStatement LeaveStatement.Answer HttpError α

def askLeave (k : LeaveStatement) : LeaveProgram k.Answer := statement k

def createLeaveRequest (userId : Id) (ctx : BranchContext) (dto : CreateLeaveRequestDto) :
    LeaveProgram Id := do
  let found ← askLeave (.findEmployee dto.employeeId)
  let employee ← need (found.filter (·.orgId == ctx.organizationId))
    (notFound ("Employee \"" ++ toString dto.employeeId ++ "\" not found in this organization"))
  ensure (employee.userId == some userId)
    (forbidden "Current user can only create leave for their own linked employee profile")
  ensure (decide (dto.startsAt ≤ dto.endsAt))
    (badRequest "endsAt must be on or after startsAt")
  let overlap ← askLeave (.findOverlap dto.employeeId (dateOf dto.startsAt) (dateOf dto.endsAt))
  match overlap with
  | some row => throw (conflict ("Employee already has a " ++ toString row.status ++
      " leave request overlapping this period"))
  | none => askLeave (.createLeaveRequest userId ctx dto)

def reviewLeaveRequest (userId : Id) (ctx : BranchContext) (id : Id)
    (dto : ReviewLeaveRequestDto) : LeaveProgram Id := do
  let found ← askLeave (.findLeaveRequest ctx.organizationId id)
  let existing ← need found (notFound ("Leave request \"" ++ toString id ++ "\" not found"))
  ensure (existing.status == .pending) (badRequest
    ("Leave request is already " ++ toString existing.status ++ " and cannot be reviewed"))
  ensure (dto.status == .approved || dto.status == .rejected)
    (badRequest "Review status must be APPROVED or REJECTED")
  let reviewedAt ← askLeave .now
  let count ← askLeave (.claimLeaveRequest ctx.organizationId id userId dto reviewedAt)
  ensure (count != 0)
    (conflict "Leave request was concurrently modified and is no longer pending")
  return id

def createShiftSwap (userId : Id) (ctx : BranchContext) (dto : CreateShiftSwapDto) :
    LeaveProgram Id := do
  ensure (dto.requesterEmployeeId != dto.targetEmployeeId)
    (badRequest "Requester and target employee must be different")
  let foundRequester ← askLeave (.findEmployee dto.requesterEmployeeId)
  let requester ← need (foundRequester.filter (·.orgId == ctx.organizationId))
    (notFound ("Requester employee \"" ++ toString dto.requesterEmployeeId ++
      "\" not found in this organization"))
  ensure (requester.userId == some userId)
    (forbidden "Current user can only create shift swaps for their own linked employee profile")
  ensure (requester.branchId == ctx.branchId)
    (badRequest "Requester employee is not assigned to this branch")
  let foundTarget ← askLeave (.findEmployee dto.targetEmployeeId)
  let target ← need (foundTarget.filter (·.orgId == ctx.organizationId))
    (notFound ("Target employee \"" ++ toString dto.targetEmployeeId ++
      "\" not found in this organization"))
  ensure (target.branchId == ctx.branchId)
    (badRequest "Target employee is not assigned to this branch")
  let shiftDate := dateOf dto.shiftDate
  let requesterAssignment ← askLeave (.findAssignment ctx dto.requesterEmployeeId shiftDate)
  ensure requesterAssignment.isSome
    (badRequest "Requester does not have a published roster assignment for this shift date")
  let targetAssignment ← askLeave (.findAssignment ctx dto.targetEmployeeId shiftDate)
  ensure targetAssignment.isSome (badRequest
    "Target employee does not have a published roster assignment for this shift date")
  let existingSwap ← askLeave (.findPendingSwap dto.requesterEmployeeId shiftDate)
  ensure existingSwap.isNone
    (conflict "Requester already has a pending shift swap request for this date")
  askLeave (.createShiftSwap ctx dto)

end NimbusPos.AttendanceService
