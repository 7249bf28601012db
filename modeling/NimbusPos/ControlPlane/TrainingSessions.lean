import NimbusPos.Common
import NimbusPos.Lib.Program
import NimbusPos.Reliability.Idempotency
import NimbusPos.Text

/-!
# Training sessions

A session of training is time-bounded, and its expiry is written when the session is looked up. A
guarded write whose header names an active session is simulated: its handler does not run.
-/

namespace NimbusPos.TrainingSessionService

open Lib Lib.Program
open IdempotencyService (Backend IdempotencyContext IdempotencyKey KeyIdentity CompleteOptions Hit)

-- ---
-- Rows
-- ---

inductive TrainingSessionStatus
  | active
  | completed
  | expired
  | cancelled
  deriving DecidableEq, Repr

instance : ToString TrainingSessionStatus where
  toString
    | .active => "ACTIVE"
    | .completed => "COMPLETED"
    | .expired => "EXPIRED"
    | .cancelled => "CANCELLED"

inductive TrainingSessionMode
  | sandboxIsolated
  | simulationOnly
  deriving DecidableEq, Repr

structure TrainingSession where
  orgId : Id
  branchId : Option Id := none
  actorUserId : Id
  label : String
  purpose : Option String := none
  mode : TrainingSessionMode := .simulationOnly
  status : TrainingSessionStatus := .active
  startedAt : Time := 0
  expiresAt : Time
  endedAt : Option Time := none
  endedById : Option Id := none
  deriving DecidableEq, Repr

inductive WriteBlockCategory
  | billingWrites
  | inventoryWrites
  | accountingWrites
  | publicBookingWrites
  | adminConfigurationWrites
  | allWrites
  deriving DecidableEq, Repr

/-- A window that is active and blocks writes while it lasts. -/
structure MaintenanceWindow where
  orgId : Option Id
  branchId : Option Id := none
  code : String
  isActive : Bool := true
  blocksWrites : Bool := true
  blockCategories : List WriteBlockCategory
  startsAt : Time
  endsAt : Time
  deriving DecidableEq, Repr

/-- The idempotency keys and the clock, and what the handlers of guarded writes did: the scopes of
those that ran. -/
structure TrainingStore extends Backend String (List String) where
  sessions : Table TrainingSession := .empty
  windows : Table MaintenanceWindow := .empty
  world := []

structure ServiceError where
  status : Option Nat
  code : Option String := none
  message : String
  deriving DecidableEq, Repr

-- ---
-- Statements
-- ---

inductive Statement
  | now
  | countActive (actorUserId : Id)
  | createSession (row : TrainingSession)
  | findSession (orgId id : Id)
  | complete (id endedById : Id) (endedAt : Time)
  | findActive (orgId actorUserId id : Id)
  | expire (id : Id) (endedAt : Time)
  | findWindows (orgId : Id) (branchId : Option Id) (now : Time)
  | findKey (identity : KeyIdentity)
  | createKey (ctx : IdempotencyContext String)
  | completeKey (recordId : Id) (opts : CompleteOptions String)
  /-- The real handler of a guarded write, and how it ends. -/
  | handler (scope : String) (result : Except ServiceError String)
  | log

abbrev Statement.Answer : Statement → Type
  | .now => Time
  | .countActive _ => Nat
  | .createSession _ => Id × TrainingSession
  | .findSession .. | .findActive .. => Option TrainingSession
  | .complete .. | .expire .. => TrainingSession
  | .findWindows .. => List (Id × MaintenanceWindow)
  | .findKey _ => Option (Id × IdempotencyKey String)
  | .createKey _ => Id
  | .completeKey .. => Unit
  | .handler .. => String
  | .log => Unit

namespace TrainingStore

variable (s : TrainingStore)

def sessionOf (orgId id : Id) : Option TrainingSession :=
  (s.sessions.get? id).filter (·.orgId == orgId)

def activeOf (orgId actorUserId id : Id) : Option TrainingSession :=
  (s.sessions.get? id).filter fun session => session.orgId == orgId &&
    session.actorUserId == actorUserId && session.status == .active

def insert (row : TrainingSession) : TrainingStore :=
  { s with sessions := s.sessions.insert { row with startedAt := s.clock } }

def updateSession (id : Id) (data : TrainingSession → TrainingSession) :
    TrainingStore × Except ServiceError TrainingSession :=
  match s.sessions.get? id with
  | some session => ({ s with sessions := s.sessions.update id data }, .ok (data session))
  | none => (s, .error { status := none, message := "Record to update not found" })

/-- The windows of the organisation, or of the branch, that are on, the latest first. -/
def windowsAt (orgId : Id) (branchId : Option Id) (now : Time) : List (Id × MaintenanceWindow) :=
  (s.windows.findMany fun _ window => window.orgId == some orgId && window.isActive &&
    window.blocksWrites && window.startsAt ≤ now && decide (now < window.endsAt) &&
      (window.branchId == none || window.branchId == branchId)).mergeSort
    fun a b => decide (b.2.startsAt ≤ a.2.startsAt)

def exec : (k : Statement) → TrainingStore × Except ServiceError k.Answer
  | .now => (s, .ok s.clock)
  | .countActive actorUserId =>
    (s, .ok (s.sessions.count fun _ session =>
      session.actorUserId == actorUserId && session.status == .active))
  | .createSession row => (s.insert row, .ok (s.sessions.next, { row with startedAt := s.clock }))
  | .findSession orgId id => (s, .ok (s.sessionOf orgId id))
  | .complete id endedById endedAt =>
    s.updateSession id fun session => { session with
      status := .completed, endedAt := some endedAt, endedById := some endedById }
  | .findActive orgId actorUserId id => (s, .ok (s.activeOf orgId actorUserId id))
  | .expire id endedAt =>
    s.updateSession id fun session => { session with status := .expired, endedAt := some endedAt }
  | .findWindows orgId branchId now => (s, .ok (s.windowsAt orgId branchId now))
  | .findKey identity => (s, .ok (IdempotencyService.findUnique s.toBackend identity))
  | .createKey ctx =>
    if (IdempotencyService.findUnique s.toBackend ctx.identity).isSome then
      (s, .error { status := none, message := "Unique constraint failed" })
    else ({ s with toBackend := IdempotencyService.create id s.toBackend ctx }, .ok s.keys.next)
  | .completeKey recordId opts =>
    ({ s with toBackend := IdempotencyService.complete s.toBackend recordId opts }, .ok ())
  | .handler scope result => ({ s with world := s.world ++ [scope] }, result)
  | .log => (s, .ok ())

def wait (ms : Nat) : TrainingStore := { s with clock := s.clock + ms }

end TrainingStore

abbrev TrainingProgram := Program Statement Statement.Answer ServiceError

abbrev query (k : Statement) : TrainingProgram k.Answer := Program.statement k

-- ---
-- Sessions
-- ---

def defaultDurationMinutes : Nat := 60

def maxConcurrentPerActor : Nat := 1

structure StartTrainingSessionDto where
  label : String
  purpose : Option String := none
  mode : Option TrainingSessionMode := none
  branchId : Option Id := none
  durationMinutes : Option Nat := none
  deriving DecidableEq, Repr

def alreadyTraining : ServiceError where
  status := some 403
  message := "Actor already has an active training session. End it before starting a new one."

def sessionRow (actorUserId orgId : Id) (dto : StartTrainingSessionDto) (now : Time) :
    TrainingSession :=
  { orgId, branchId := dto.branchId, actorUserId, label := dto.label, purpose := dto.purpose
    mode := dto.mode.getD .simulationOnly, status := .active
    expiresAt := now + dto.durationMinutes.getD defaultDurationMinutes * 60 * 1000 }

def start (actorUserId orgId : Id) (dto : StartTrainingSessionDto) :
    TrainingProgram (Id × TrainingSession) := do
  let concurrent ← query (.countActive actorUserId)
  ensure (decide (concurrent < maxConcurrentPerActor)) alreadyTraining
  let now ← query .now
  let session ← query (.createSession (sessionRow actorUserId orgId dto now))
  query .log
  return session

def endSession (actorUserId orgId id : Id) : TrainingProgram TrainingSession := do
  let found ← query (.findSession orgId id)
  let session ← need found { status := some 404, message := "Training session not found" }
  ensure (session.status == .active)
    { status := some 400
      message := "Cannot end session with status=" ++ toString session.status ++
        "; only ACTIVE sessions may be ended." }
  let now ← query .now
  let updated ← query (.complete id actorUserId now)
  query .log
  return updated

/-- A session past its `expiresAt` is transitioned to EXPIRED. -/
def findActiveForActor (orgId actorUserId : Id) (sessionId : Option Id) :
    TrainingProgram (Option (Id × TrainingSession)) :=
  match sessionId with
  | none => return none
  | some id => do
    let found ← query (.findActive orgId actorUserId id)
    match found with
    | none => return none
    | some session => do
      let now ← query .now
      if session.expiresAt < now then do
        let endedAt ← query .now
        let _ ← query (.expire id endedAt)
        return none
      else return some (id, session)

-- ---
-- Guarded writes
-- ---

/-- The headers of the request, what the write says of itself, and what its simulator answers. -/
structure GuardOptions where
  idempotencyKey : Option String := none
  trainingSessionId : Option Id := none
  category : Option WriteBlockCategory := none
  scope : String
  routeMethod : String
  routePath : String
  keyRequired : Bool := false
  fingerprintSource : String
  actorUserId : Option Id := none
  orgId : Option Id := none
  branchId : Option Id := none
  trainingSimulator : Option (Except ServiceError String) := none

structure TrainingSimulationMarker where
  trainingSessionId : Id
  category : WriteBlockCategory
  scope : String
  note : String
  simulatedAt : Time
  deriving DecidableEq, Repr

inductive Response
  | handled (body : String)
  | simulated (body : String) (marker : TrainingSimulationMarker)
  | session (row : TrainingSession)
  | active (found : Option (Id × TrainingSession))
  deriving DecidableEq, Repr

def MaintenanceWindow.covers (category : WriteBlockCategory) (window : MaintenanceWindow) : Bool :=
  window.blockCategories.contains .allWrites || window.blockCategories.contains category

def blockedBy (window : MaintenanceWindow) : ServiceError :=
  { status := some 423, code := "MAINTENANCE_WINDOW_BLOCKED"
    message := "Write blocked by active maintenance window '" ++ window.code ++ "'" }

def checkMaintenance (opts : GuardOptions) : TrainingProgram Unit :=
  match opts.category, opts.orgId with
  | some category, some orgId => do
    let now ← query .now
    let wins ← query (.findWindows orgId opts.branchId now)
    match wins.find? (·.2.covers category) with
    | none => return ()
    | some (_, blocking) => throw (blockedBy blocking)
  | _, _ => return ()

/-- The session of the header, where the write has a simulator. -/
def trainingOf (opts : GuardOptions) : TrainingProgram (Option (Id × TrainingSession)) :=
  match opts.trainingSimulator, opts.actorUserId, opts.orgId with
  | some _, some actorUserId, some orgId =>
    findActiveForActor orgId actorUserId opts.trainingSessionId
  | _, _, _ => return none

def simulate (opts : GuardOptions) (sessionId : Id) (simulator : Except ServiceError String) :
    TrainingProgram Response :=
  match simulator with
  | .error e => throw e
  | .ok body => do
    let simulatedAt ← query .now
    return .simulated body
      { trainingSessionId := sessionId, category := opts.category.getD .allWrites
        scope := opts.scope, simulatedAt
        note := "BG3: training-mode simulated response — no real side effects persisted" }

def beginKey (ctx : IdempotencyContext String) : TrainingProgram (Hit String) := do
  let found ← query (.findKey ctx.identity)
  match found with
  | some (recordId, existing) =>
    return IdempotencyService.existingHit ctx.fingerprintSource recordId existing
  | none => do
    let recordId ← query (.createKey ctx)
    return .first recordId

def inConflict (message : String) : ServiceError := { status := some 409, message }

/-- The handler runs, and its row is completed. -/
def runHandler (scope : String) (recordId : Id) (result : Except ServiceError String) :
    TrainingProgram String :=
  tryCatch
    (do
      let body ← query (.handler scope result)
      query (.completeKey recordId { statusCode := 200, body := some (some body) })
      return body)
    fun e => do
      query (.completeKey recordId
        { statusCode := e.status.getD 500, failed := true, failureSummary := some e.message })
      throw e

def wrap (ctx : IdempotencyContext String) (scope : String) (result : Except ServiceError String) :
    TrainingProgram String := do
  let hit ← beginKey ctx
  match hit with
  | .first recordId => runHandler scope recordId result
  | .replay _ _ body => return body.getD "null"
  | .conflict _ conflictReason => throw (inConflict conflictReason)
  | .inFlight _ => throw (inConflict "Idempotent request already in flight")

def containsText (needle : String) (text : List Char) : Bool :=
  text.tails.any (needle.toList.isPrefixOf ·)

/-- `/in.?flight/i` -/
def saysInFlight (text : List Char) : Bool :=
  containsText "inflight" text || text.tails.any fun tail => "in".toList.isPrefixOf tail &&
    "flight".toList.isPrefixOf (tail.drop 3) && !(tail.drop 2).head?.any fun c =>
      c == '\n' || c == '\r' || c.toNat == 0x2028 || c.toNat == 0x2029

/-- A conflict of the idempotency service itself gets a code. -/
def reshape (e : ServiceError) : ServiceError :=
  let text := e.message.toList.map Char.toLower
  if e.status = some 409 ∧ (text = "idempotency conflict".toList ∨
      containsText "idempotency-key reused" text ∨ containsText "different request payload" text ∨
      text = "idempotent request already in flight".toList) then
    { e with code := if saysInFlight text then "IDEMPOTENCY_IN_FLIGHT"
        else "IDEMPOTENCY_KEY_PAYLOAD_MISMATCH" }
  else e

def badKey (message : String) : ServiceError :=
  { status := some 400, code := "IDEMPOTENCY_KEY_INVALID", message }

/-- `text.length`: what is beyond the basic plane takes two units. -/
def lengthOf (text : String) : Nat :=
  (text.toList.map fun c => if c.toNat < 0x10000 then 1 else 2).sum

def keyFits (trimmed : String) : Bool :=
  decide (8 ≤ lengthOf trimmed) && decide (lengthOf trimmed ≤ 128) &&
    !trimmed.toList.any Text.isWhiteSpace

def requireValidKey (key : String) : TrainingProgram String := do
  ensure (key != "") (badKey "Idempotency-Key header is required")
  ensure (keyFits (Text.trim key))
    (badKey "Idempotency-Key must be 8-128 chars and contain no whitespace")
  return Text.trim key

/-- The handler, under the key of the request. -/
def idempotent (opts : GuardOptions) (result : Except ServiceError String) :
    TrainingProgram String :=
  match opts.idempotencyKey.filter (· != "") with
  | none => do
    ensure (!opts.keyRequired)
      (badKey "Idempotency-Key header is required for this write surface")
    query (.handler opts.scope result)
  | some rawKey => do
    let key ← requireValidKey rawKey
    tryCatch
      (wrap
        { key, scope := opts.scope, routeMethod := opts.routeMethod, routePath := opts.routePath
          actorUserId := opts.actorUserId, orgId := opts.orgId
          fingerprintSource := opts.fingerprintSource } opts.scope result)
      fun e => throw (reshape e)

/-- `result` is how the real handler ends if it runs. -/
def guardWrite (opts : GuardOptions) (result : Except ServiceError String) :
    TrainingProgram Response := do
  checkMaintenance opts
  let session ← trainingOf opts
  match session, opts.trainingSimulator with
  | some (sessionId, _), some simulator => simulate opts sessionId simulator
  | _, _ => return .handled (← idempotent opts result)

inductive TrainingCall
  | start (actorUserId orgId : Id) (dto : StartTrainingSessionDto)
  | endSession (actorUserId orgId id : Id)
  | findActiveForActor (orgId actorUserId : Id) (sessionId : Option Id)
  | guardWrite (opts : GuardOptions) (result : Except ServiceError String)

def TrainingCall.program : TrainingCall → TrainingProgram Response
  | .start actorUserId orgId dto => do
    return .session (← TrainingSessionService.start actorUserId orgId dto).2
  | .endSession actorUserId orgId id => do
    return .session (← TrainingSessionService.endSession actorUserId orgId id)
  | .findActiveForActor orgId actorUserId sessionId => do
    return .active (← TrainingSessionService.findActiveForActor orgId actorUserId sessionId)
  | .guardWrite opts result => TrainingSessionService.guardWrite opts result

end NimbusPos.TrainingSessionService
