import NimbusPos.Common
import NimbusPos.Lib.Program

/-!
# The sync service

Jobs captured offline are queued, replayed through the dispatcher, retried, and
their conflicts resolved. Each call is the program of the statements it sends; a
call of the dispatcher stands among them.
-/

namespace NimbusPos.SyncService

open Lib Lib.Program

inductive SyncJobType
  | orderDraftUpdate
  | orderSubmit
  | paymentCapture
  | refundCreate
  | arReceiptCreate
  | apPaymentCreate
  | reservationHold
  | reservationConfirm
  | eventBookingHold
  | eventBookingConfirm
  | stockAdjustment
  | attendanceEvent
  | shiftAction
  | genericReplay
  deriving DecidableEq, Repr

inductive SyncJobStatus
  | queued
  | inProgress
  | succeeded
  | failed
  | retryable
  | conflict
  | cancelled
  deriving DecidableEq, Repr

inductive SyncConflictStatus
  | open
  | resolved
  | dismissed
  deriving DecidableEq, Repr

def SyncConflictStatus.toString : SyncConflictStatus → String
  | .open => "OPEN"
  | .resolved => "RESOLVED"
  | .dismissed => "DISMISSED"

instance : ToString SyncConflictStatus := ⟨SyncConflictStatus.toString⟩

inductive SyncConflictResolution
  | serverTruthKept
  | clientPayloadApplied
  | manualMerge
  | discarded
  deriving DecidableEq, Repr

inductive RetryDisposition
  | retryable
  | permanentFailure
  | conflict
  | duplicateSuppressed
  deriving DecidableEq, Repr

/-- A branch belongs to its organisation. -/
structure Branch where
  organizationId : Id
  deriving DecidableEq, Repr

/-- Bodies and headers are JSON texts. -/
structure SyncJob where
  orgId : Id
  branchId : Option Id := none
  type : SyncJobType
  status : SyncJobStatus := .queued
  clientMutationId : String
  idempotencyKey : Option String := none
  requestBody : String := "{}"
  requestHeaders : Option String := none
  intentSummary : Option String := none
  attemptCount : Nat := 0
  maxAttempts : Nat := 5
  resultRef : Option String := none
  lastError : Option String := none
  failureReason : Option String := none
  deriving DecidableEq, Repr

structure SyncJobAttempt where
  jobId : Id
  attemptNo : Nat
  disposition : RetryDisposition := .retryable
  error : Option String := none
  deriving DecidableEq, Repr

structure SyncConflict where
  orgId : Id
  jobId : Id
  status : SyncConflictStatus := .open
  resolution : Option SyncConflictResolution := none
  diffSummary : String
  reason : String
  createdAt : Time
  deriving DecidableEq, Repr

structure Store where
  clock : Time := 0
  branches : Table Branch := .empty
  jobs : Table SyncJob := .empty
  attempts : Table SyncJobAttempt := .empty
  conflicts : Table SyncConflict := .empty

structure ReplayOutcome where
  ok : Bool
  disposition : RetryDisposition := .retryable
  resultRef : Option String := none
  error : Option String := none
  failureReason : Option String := none
  diffSummary : Option String := none
  deriving DecidableEq, Repr

structure ReplayJobItemDto where
  clientMutationId : String
  type : SyncJobType
  idempotencyKey : Option String := none
  requestBody : String := "{}"
  requestHeaders : Option String := none
  intentSummary : Option String := none
  branchId : Option Id := none
  deriving DecidableEq, Repr

-- ---
-- Statements
-- ---

/-- `markInProgress` comes with the number its execution is about to record, which
the statement does not write. -/
inductive Statement
  | findJobByKey (orgId : Id) (clientMutationId : String)
  | findBranch (branchId orgId : Id)
  | createJob (row : SyncJob)
  | findJob (jobId : Id)
  | findOpenConflict (jobId : Id)
  | markInProgress (jobId : Id) (attemptNo : Nat)
  | createAttempt (jobId : Id) (attemptNo : Nat)
  | replay (jobId : Id) (job : SyncJob) (actorUserId : Id)
  | finishAttempt (attemptId : Id) (disposition : RetryDisposition) (error : Option String)
  | succeed (jobId : Id) (resultRef : Option String)
  | createConflict (orgId jobId : Id) (diffSummary reason : String)
  | stop (jobId : Id) (status : SyncJobStatus) (lastError failureReason : Option String)
  | requeue (jobId : Id)
  | findConflict (conflictId orgId : Id)
  | resolve (conflictId : Id) (resolution : SyncConflictResolution)
  deriving DecidableEq, Repr

abbrev Statement.Answer : Statement → Type
  | .findJobByKey .. => Option (Id × SyncJob)
  | .findBranch .. => Option Branch
  | .createJob _ => Id × SyncJob
  | .findJob _ => Option SyncJob
  | .findOpenConflict _ => Option Id
  | .createAttempt .. | .createConflict .. => Id
  | .replay .. => Except String ReplayOutcome
  | .findConflict .. => Option SyncConflict
  | _ => Unit

namespace Store

def jobKeyTaken (s : Store) (row : SyncJob) : Bool :=
  s.jobs.count (fun _ job =>
    job.orgId == row.orgId && job.clientMutationId == row.clientMutationId) != 0

def attemptTaken (s : Store) (jobId : Id) (attemptNo : Nat) : Bool :=
  s.attempts.count (fun _ attempt => attempt.jobId == jobId && attempt.attemptNo == attemptNo) != 0

/-- What the `n`-th call of the dispatcher gives, or the message of what it throws. -/
abbrev Dispatcher := Nat → Except String ReplayOutcome

/-- `calls` is how often the dispatcher was called before. -/
def exec (dispatcher : Dispatcher) (calls : Nat) (s : Store) :
    (k : Statement) → Store × Except HttpError k.Answer
  | .findJobByKey orgId clientMutationId =>
    (s, .ok (s.jobs.findFirst fun _ job =>
      job.orgId == orgId && job.clientMutationId == clientMutationId))
  | .findBranch branchId orgId =>
    (s, .ok ((s.branches.get? branchId).filter fun branch => branch.organizationId == orgId))
  | .createJob row =>
    unlessTaken (s.jobKeyTaken row) "(orgId, clientMutationId)" s
      { s with jobs := s.jobs.insert row } (s.jobs.next, row)
  | .findJob jobId => (s, .ok (s.jobs.get? jobId))
  | .findOpenConflict jobId =>
    let last := s.conflicts.findLatest
      (fun _ conflict => conflict.jobId == jobId && conflict.status == .open) (·.createdAt)
    (s, .ok (last.map (·.1)))
  | .markInProgress jobId _ =>
    ({ s with
      jobs := s.jobs.update jobId fun job =>
        { job with status := .inProgress, attemptCount := job.attemptCount + 1 } }, .ok ())
  | .createAttempt jobId attemptNo =>
    unlessTaken (s.attemptTaken jobId attemptNo) "(jobId, attemptNo)" s
      { s with attempts := s.attempts.insert { jobId, attemptNo } } s.attempts.next
  | .replay .. => (s, .ok (dispatcher calls))
  | .finishAttempt attemptId disposition error =>
    ({ s with
      attempts := s.attempts.update attemptId fun attempt =>
        { attempt with disposition, error } }, .ok ())
  | .succeed jobId resultRef =>
    ({ s with
      jobs := s.jobs.update jobId fun job =>
        { job with status := .succeeded, resultRef, lastError := none, failureReason := none } },
      .ok ())
  | .createConflict orgId jobId diffSummary reason =>
    ({ s with
      conflicts := s.conflicts.insert
        { orgId, jobId, diffSummary, reason, createdAt := s.clock } }, .ok s.conflicts.next)
  | .stop jobId status lastError failureReason =>
    ({ s with
      jobs := s.jobs.update jobId fun job => { job with status, lastError, failureReason } },
        .ok ())
  | .requeue jobId =>
    ({ s with jobs := s.jobs.update jobId fun job => { job with status := .queued } }, .ok ())
  | .findConflict conflictId orgId =>
    (s, .ok ((s.conflicts.get? conflictId).filter fun conflict => conflict.orgId == orgId))
  | .resolve conflictId resolution =>
    let status := if resolution = .discarded then .dismissed else .resolved
    ({ s with
      conflicts := s.conflicts.update conflictId fun conflict =>
        { conflict with status, resolution := some resolution } }, .ok ())

end Store

-- ---
-- Calls
-- ---

abbrev SyncProgram := Program Statement Statement.Answer HttpError

abbrev query (k : Statement) : SyncProgram k.Answer := statement k

structure JobResult where
  status : SyncJobStatus
  resultRef : Option String := none
  conflictId : Option Id := none
  error : Option String := none
  deriving DecidableEq, Repr

/-- `branchId` must be one of the organisation. -/
def checkBranch (orgId : Id) (branchId : Option Id) : SyncProgram Unit :=
  match branchId with
  | none => pure ()
  | some branchId => do
    let branch ← query (.findBranch branchId orgId)
    ensure branch.isSome (badRequest "branchId not in this organization")

def upsertJob (orgId : Id) (dto : ReplayJobItemDto) : SyncProgram (Id × SyncJob) := do
  let existing ← query (.findJobByKey orgId dto.clientMutationId)
  match existing with
  | some job => return job
  | none => do
    checkBranch orgId dto.branchId
    query (.createJob
      { orgId, branchId := dto.branchId, type := dto.type
        clientMutationId := dto.clientMutationId, idempotencyKey := dto.idempotencyKey
        requestBody := dto.requestBody, requestHeaders := dto.requestHeaders
        intentSummary := dto.intentSummary })

/-- What an execution does with the dispatcher's outcome. -/
def finish (jobId : Id) (job : SyncJob) (attemptId : Id) (outcome : ReplayOutcome) :
    SyncProgram JobResult :=
  if outcome.ok then do
    query (.finishAttempt attemptId .retryable none)
    query (.succeed jobId outcome.resultRef)
    return { status := .succeeded, resultRef := outcome.resultRef }
  else if outcome.disposition = .conflict then do
    let conflictId ← query (.createConflict job.orgId jobId
      ((outcome.diffSummary <|> outcome.error).getD "Conflict detected during replay")
      ((outcome.failureReason <|> outcome.error).getD "CONFLICT"))
    query (.finishAttempt attemptId .conflict outcome.error)
    query (.stop jobId .conflict (outcome.error.getD "CONFLICT")
      (outcome.failureReason.getD "CONFLICT"))
    return { status := .conflict, conflictId, error := outcome.error }
  else do
    let reachedMax := job.maxAttempts ≤ job.attemptCount + 1
    let newStatus :=
      if outcome.disposition = .permanentFailure ∨ reachedMax then .failed else .retryable
    query (.finishAttempt attemptId outcome.disposition outcome.error)
    query (.stop jobId newStatus outcome.error outcome.failureReason)
    return { status := newStatus, error := outcome.error }

def uncaught (message : String) : ReplayOutcome :=
  { ok := false, error := message, failureReason := "UNCAUGHT" }

def executeJob (actorUserId jobId : Id) : SyncProgram JobResult := do
  let found ← query (.findJob jobId)
  let job ← need found (notFound "Sync job not found")
  match job.status with
  | .succeeded => return { status := job.status, resultRef := job.resultRef }
  | .conflict => do
    let conflictId ← query (.findOpenConflict jobId)
    return { status := job.status, conflictId, error := job.lastError }
  | _ => do
    let attemptNo := job.attemptCount + 1
    query (.markInProgress jobId attemptNo)
    let attemptId ← query (.createAttempt jobId attemptNo)
    let answer ← query (.replay jobId job actorUserId)
    match answer with
    | .ok outcome => finish jobId job attemptId outcome
    | .error message => finish jobId job attemptId (uncaught message)

structure ReplayResult where
  clientMutationId : String
  jobId : Id
  result : JobResult
  deriving DecidableEq, Repr

/-- A queued job is executed now, or its status is reported. -/
def submitJob (userId : Id) (executeNow : Bool) (job : Id × SyncJob) : SyncProgram JobResult :=
  if executeNow then executeJob userId job.1 else pure { status := job.2.status }

/-- The jobs of a batch, one after the other. -/
def replayBatch (userId orgId : Id) (executeNow : Bool) :
    List ReplayJobItemDto → SyncProgram (List ReplayResult)
  | [] => pure []
  | dto :: jobs => do
    let job ← upsertJob orgId dto
    let result ← submitJob userId executeNow job
    let results ← replayBatch userId orgId executeNow jobs
    return { clientMutationId := dto.clientMutationId, jobId := job.1, result } :: results

def retryJob (actorUserId orgId jobId : Id) : SyncProgram JobResult := do
  let found ← query (.findJob jobId)
  let job ← need (found.filter (·.orgId == orgId)) (notFound "Sync job not found")
  ensure (job.status != .succeeded) (conflict "Job already SUCCEEDED — nothing to retry")
  ensure (job.status != .cancelled) (conflict "Job is CANCELLED")
  query (.requeue jobId)
  executeJob actorUserId jobId

def resolveConflict (orgId conflictId : Id) (resolution : SyncConflictResolution) :
    SyncProgram Unit := do
  let found ← query (.findConflict conflictId orgId)
  let row ← need found (notFound "Sync conflict not found")
  ensure (row.status == .open)
    (conflict ("Conflict is already " ++ toString row.status ++ " — cannot re-resolve"))
  query (.resolve conflictId resolution)

inductive SyncCall
  | replayBatch (userId orgId : Id) (executeNow : Bool) (jobs : List ReplayJobItemDto)
  | retryJob (actorUserId orgId jobId : Id)
  | resolveConflict (orgId conflictId : Id) (resolution : SyncConflictResolution)
  deriving DecidableEq, Repr

def SyncCall.program : SyncCall → SyncProgram Unit
  | .replayBatch userId orgId executeNow jobs => do
    let _ ← SyncService.replayBatch userId orgId executeNow jobs
    return ()
  | .retryJob actorUserId orgId jobId => do
    let _ ← SyncService.retryJob actorUserId orgId jobId
    return ()
  | .resolveConflict orgId conflictId resolution =>
    SyncService.resolveConflict orgId conflictId resolution

end NimbusPos.SyncService
