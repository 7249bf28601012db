import NimbusPos.Accounting.Schema

/-!
# Digest schedules

A digest goes out each day at an hour, or each week at an hour of a day. `nextRunAt` is
computed when a schedule is created and each time it has run. A request is checked for the
bounds of its hour and its day before the service sees it.
-/

namespace NimbusPos.DigestService

open Lib Lib.Service

inductive DigestFrequency
  | daily
  | weekly
  deriving DecidableEq, Repr

inductive DigestScheduleStatus
  | active
  | disabled
  deriving DecidableEq, Repr

structure DigestSchedule where
  orgId : Id
  branchId : Option Id
  code : String
  name : String
  description : Option String
  digestType : String
  frequency : DigestFrequency
  hourLocal : Nat
  dayOfWeek : Option Nat
  timezone : String
  channelCodes : List String
  status : DigestScheduleStatus
  lastRunAt : Option Time := none
  nextRunAt : Time
  deriving DecidableEq, Repr

structure Branch where
  organizationId : Id
  deriving DecidableEq, Repr

structure Store where
  branches : Table Branch := .empty
  digestSchedules : Table DigestSchedule := .empty

structure CreateDigestScheduleDto where
  code : String
  name : String
  description : Option String := none
  digestType : String
  frequency : DigestFrequency
  hourLocal : Option Nat := none
  dayOfWeek : Option Nat := none
  timezone : Option String := none
  channelCodes : List String
  branchId : Option Id := none
  status : Option DigestScheduleStatus := none
  deriving DecidableEq, Repr

/-- A `dayOfWeek` that is there may be null. -/
structure UpdateDigestScheduleDto where
  name : Option String := none
  description : Option String := none
  frequency : Option DigestFrequency := none
  hourLocal : Option Nat := none
  dayOfWeek : Option (Option Nat) := none
  channelCodes : Option (List String) := none
  status : Option DigestScheduleStatus := none
  deriving DecidableEq, Repr

/-- `@Min(0) @Max(23)` -/
def validHour (hourLocal : Option Nat) : Bool := hourLocal.all (· ≤ 23)

/-- `@Min(0) @Max(6)` -/
def validDay (dayOfWeek : Option Nat) : Bool := dayOfWeek.all (· ≤ 6)

def CreateDigestScheduleDto.valid (dto : CreateDigestScheduleDto) : Bool :=
  validHour dto.hourLocal && validDay dto.dayOfWeek

def UpdateDigestScheduleDto.valid (dto : UpdateDigestScheduleDto) : Bool :=
  validHour dto.hourLocal && validDay dto.dayOfWeek.join

-- ---
-- The next run
-- ---

def oneDay : Time := 86400000

/-- Sunday is 0; the epoch was a Thursday. -/
def getUTCDay (time : Time) : Nat := (dayOf time + 4) % 7

/-- The day the next run falls on, if the loop comes to it in so many rounds. -/
def untilDue (target : Nat) (now : Time) : Nat → Time → Option Time
  | 0, _ => none
  | rounds + 1, next =>
    if getUTCDay next ≠ target ∨ next ≤ now then untilDue target now rounds (next + oneDay)
    else some next

def computeNextRunAt (rounds : Nat) (frequency : DigestFrequency) (hourLocal : Nat)
    (dayOfWeek : Option Nat) (now : Time) : Option Time :=
  let next := midnight (dayOf now) + hourLocal * 3600000
  match frequency with
  | .daily => some (if next ≤ now then next + oneDay else next)
  | .weekly => untilDue (dayOfWeek.getD 1) now rounds next

-- ---
-- The calls
-- ---

def Store.ofCode (s : Store) (orgId : Id) (code : String) : Option (Id × DigestSchedule) :=
  s.digestSchedules.findFirst fun _ schedule => schedule.orgId == orgId && schedule.code == code

def Store.findSchedule (s : Store) (orgId id : Id) : Option DigestSchedule :=
  (s.digestSchedules.get? id).filter (·.orgId == orgId)

def Store.hasBranch (s : Store) (orgId branchId : Id) : Bool :=
  (s.branches.get? branchId).any (·.organizationId == orgId)

def CreateDigestScheduleDto.row (dto : CreateDigestScheduleDto) (orgId : Id) (nextRunAt : Time) :
    DigestSchedule where
  orgId := orgId
  branchId := dto.branchId
  code := dto.code
  name := dto.name
  description := dto.description
  digestType := dto.digestType
  frequency := dto.frequency
  hourLocal := dto.hourLocal.getD 7
  dayOfWeek := dto.dayOfWeek
  timezone := dto.timezone.getD "UTC"
  channelCodes := dto.channelCodes
  status := dto.status.getD .active
  nextRunAt := nextRunAt

def UpdateDigestScheduleDto.apply (dto : UpdateDigestScheduleDto) (existing : DigestSchedule) :
    DigestSchedule :=
  { existing with
    name := dto.name.getD existing.name
    description := dto.description <|> existing.description
    frequency := dto.frequency.getD existing.frequency
    hourLocal := dto.hourLocal.getD existing.hourLocal
    dayOfWeek := dto.dayOfWeek.getD existing.dayOfWeek
    channelCodes := dto.channelCodes.getD existing.channelCodes
    status := dto.status.getD existing.status }

def DigestSchedule.ran (schedule : DigestSchedule) (now nextRunAt : Time) : DigestSchedule :=
  { schedule with lastRunAt := some now, nextRunAt }

/-- The schedule a call has written; none when the loop has not ended in `rounds` rounds. -/
abbrev Written := Option (Id × DigestSchedule)

def create (rounds : Nat) (orgId : Id) (dto : CreateDigestScheduleDto) (now : Time) :
    Service HttpError Store Written := do
  let s ← get
  ensure (s.ofCode orgId dto.code).isNone
    (conflict ("Digest schedule \"" ++ dto.code ++ "\" already exists"))
  ensure (dto.branchId.all (s.hasBranch orgId)) (badRequest "branchId not in this organization")
  ensure (!(dto.frequency == .weekly && dto.dayOfWeek.isNone))
    (badRequest "dayOfWeek is required when frequency is WEEKLY")
  match computeNextRunAt rounds dto.frequency (dto.hourLocal.getD 7) dto.dayOfWeek now with
  | none => pure none
  | some nextRunAt =>
    let schedule := dto.row orgId nextRunAt
    modify fun s => { s with digestSchedules := s.digestSchedules.insert schedule }
    pure (some (s.digestSchedules.next, schedule))

/-- A request that passes the checks. -/
theorem create_accepted {rounds : Nat} {orgId : Id} {dto : CreateDigestScheduleDto}
    {now next : Time} {s : Store} (hcode : (s.ofCode orgId dto.code).isNone = true)
    (hbranch : dto.branchId.all (s.hasBranch orgId) = true)
    (hday : (!(dto.frequency == .weekly && dto.dayOfWeek.isNone)) = true)
    (hnext : computeNextRunAt rounds dto.frequency (dto.hourLocal.getD 7) dto.dayOfWeek now =
      some next) :
    create rounds orgId dto now s = .ok (some (s.digestSchedules.next, dto.row orgId next))
      { s with digestSchedules := s.digestSchedules.insert (dto.row orgId next) } := by
  simp only [create, run_bind, run_get, run_ensure, hcode, hbranch, hday, hnext, if_true]
  rfl

def update (orgId id : Id) (dto : UpdateDigestScheduleDto) : Service HttpError Store Written := do
  let s ← get
  let existing ← need (s.findSchedule orgId id) (notFound "Digest schedule not found")
  modify fun s => { s with digestSchedules := s.digestSchedules.update id dto.apply }
  pure (some (id, dto.apply existing))

theorem update_found {orgId id : Id} {dto : UpdateDigestScheduleDto} {existing : DigestSchedule}
    {s : Store} (hfind : s.findSchedule orgId id = some existing) :
    update orgId id dto s = .ok (some (id, dto.apply existing))
      { s with digestSchedules := s.digestSchedules.update id dto.apply } := by
  simp only [update, run_bind, run_get, hfind, run_need_some]
  rfl

/-- The digest goes out to the channels before the schedule is written. -/
def runDigest (rounds : Nat) (orgId id : Id) (now : Time) : Service HttpError Store Written := do
  let s ← get
  let schedule ← need (s.findSchedule orgId id) (notFound "Digest schedule not found")
  ensure (schedule.status == .active) (conflict "Cannot run a non-ACTIVE digest schedule")
  ensure (!schedule.channelCodes.isEmpty) (badRequest "Digest schedule has no channels configured")
  match computeNextRunAt rounds schedule.frequency schedule.hourLocal schedule.dayOfWeek now with
  | none => pure none
  | some nextRunAt =>
    modify fun s => { s with
      digestSchedules := s.digestSchedules.update id (·.ran now nextRunAt) }
    pure (some (id, schedule.ran now nextRunAt))

/-- A call, at an instant. -/
inductive Call
  | create (orgId : Id) (dto : CreateDigestScheduleDto)
  | update (orgId id : Id) (dto : UpdateDigestScheduleDto)
  | runDigest (orgId id : Id)
  deriving DecidableEq, Repr

def Call.valid : Call → Bool
  | .create _ dto => dto.valid
  | .update _ _ dto => dto.valid
  | .runDigest _ _ => true

def Call.exec (rounds : Nat) (now : Time) : Call → Service HttpError Store Written
  | .create orgId dto => DigestService.create rounds orgId dto now
  | .update orgId id dto => DigestService.update orgId id dto
  | .runDigest orgId id => DigestService.runDigest rounds orgId id now

end NimbusPos.DigestService
