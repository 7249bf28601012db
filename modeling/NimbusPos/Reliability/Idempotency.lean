import NimbusPos.Lib.Run
import NimbusPos.Lib.Service
import NimbusPos.Schema

/-!
# Idempotency keys

`wrap` claims the row of a key before it runs a handler, records what the handler
returned, and answers a repeated request from the row. The second half gives the
same code as a thread that takes one statement per step, each of which may fail.

The handler works on a state of its own, `σ`. A body is a JSON value of type `β`;
`none` is a body that is `null`, and for a handler's own body also `undefined`.
-/

namespace NimbusPos.IdempotencyService

open Lib

inductive IdempotencyStatus
  | inFlight
  | succeeded
  | failed
  | conflict
  deriving DecidableEq, Repr

/-- The columns of the unique constraint. -/
structure KeyIdentity where
  scope : String
  key : String
  routeMethod : String
  routePath : String
  deriving DecidableEq, Repr

structure IdempotencyKey (β : Type) where
  orgId : Option Id
  actorUserId : Option Id
  identity : KeyIdentity
  requestHash : String
  status : IdempotencyStatus := .inFlight
  statusCode : Option Nat := none
  responseBody : Option β := none
  responseRef : Option String := none
  failureSummary : Option String := none
  expiresAt : Time
  completedAt : Option Time := none
  deriving DecidableEq, Repr

/-- The store of keys, and what the handlers work on. -/
structure Backend (β σ : Type) where
  clock : Time := 0
  keys : Table (IdempotencyKey β) := .empty
  world : σ

-- ---
-- Calls and their outcomes
-- ---

structure IdempotencyContext (φ : Type) where
  key : String
  scope : Option String := none
  routeMethod : String
  routePath : String
  actorUserId : Option Id := none
  orgId : Option Id := none
  fingerprintSource : φ
  ttlSeconds : Option Nat := none
  deriving DecidableEq, Repr

def IdempotencyContext.identity {φ : Type} (ctx : IdempotencyContext φ) : KeyIdentity where
  scope := ctx.scope.getD "default"
  key := ctx.key
  routeMethod := ctx.routeMethod
  routePath := ctx.routePath

inductive Thrown
  | conflictException (message : String)
  | database (message : String)
  | handler (status : Option Nat) (message : String)
  deriving DecidableEq, Repr

def Thrown.status : Thrown → Option Nat
  | .conflictException _ => some 409
  | .database _ => none
  | .handler status _ => status

def Thrown.message : Thrown → String
  | .conflictException message | .database message | .handler _ message => message

structure HandlerResult (β : Type) where
  statusCode : Option Nat := none
  body : Option (Option β)
  responseRef : Option String := none
  deriving DecidableEq, Repr

abbrev Execution (β : Type) := Except Thrown (HandlerResult β)

structure Call (φ β σ : Type) where
  ctx : IdempotencyContext φ
  handler : σ → σ × Execution β

/-- What `begin` reports. -/
inductive Hit (β : Type)
  | first (recordId : Id)
  | replay (recordId : Id) (statusCode : Nat) (body : Option β)
  | conflict (recordId : Id) (conflictReason : String)
  | inFlight (recordId : Id)
  deriving DecidableEq, Repr

inductive Answer (β : Type)
  | returned (body : Option β)
  | threw (error : Thrown)
  deriving DecidableEq, Repr

-- ---
-- The statements
-- ---

variable {φ β σ : Type} (fingerprint : φ → String)

def findUnique (s : Backend β σ) (identity : KeyIdentity) : Option (Id × IdempotencyKey β) :=
  s.keys.findFirst fun _ row => row.identity == identity

/-- The hit on a row that exists. -/
def existingHit (requestHash : String) (recordId : Id) (existing : IdempotencyKey β) : Hit β :=
  if existing.requestHash ≠ requestHash then
    .conflict recordId "Idempotency-Key reused with a different request payload"
  else if existing.status = .inFlight then .inFlight recordId
  else .replay recordId (existing.statusCode.getD 200) existing.responseBody

def create (s : Backend β σ) (ctx : IdempotencyContext φ) : Backend β σ :=
  { s with
    keys := s.keys.insert
      { orgId := ctx.orgId, actorUserId := ctx.actorUserId, identity := ctx.identity
        requestHash := fingerprint ctx.fingerprintSource
        expiresAt := s.clock + ctx.ttlSeconds.getD (24 * 60 * 60) * 1000 } }

structure CompleteOptions (β : Type) where
  statusCode : Nat
  body : Option (Option β) := none
  responseRef : Option String := none
  failureSummary : Option String := none
  failed : Bool := false
  deriving DecidableEq, Repr

def CompleteOptions.rewrite (opts : CompleteOptions β) (now : Time) (row : IdempotencyKey β) :
    IdempotencyKey β :=
  { row with
    status := if opts.failed then .failed else .succeeded
    statusCode := some opts.statusCode
    responseBody := opts.body.getD row.responseBody
    responseRef := opts.responseRef
    failureSummary := opts.failureSummary
    completedAt := some now }

def complete (s : Backend β σ) (recordId : Id) (opts : CompleteOptions β) : Backend β σ :=
  { s with keys := s.keys.update recordId (opts.rewrite s.clock) }

/-- How `wrap` completes the row of a handler that returned. -/
def HandlerResult.options (result : HandlerResult β) : CompleteOptions β where
  statusCode := result.statusCode.getD 200
  body := result.body
  responseRef := result.responseRef

/-- How `wrap` completes the row when anything after the claim threw. -/
def Thrown.options (error : Thrown) : CompleteOptions β where
  statusCode := error.status.getD 500
  failed := true
  failureSummary := some error.message

-- ---
-- One call
-- ---

def begin (s : Backend β σ) (ctx : IdempotencyContext φ) : Backend β σ × Hit β :=
  match findUnique s ctx.identity with
  | some (recordId, existing) =>
    (s, existingHit (fingerprint ctx.fingerprintSource) recordId existing)
  | none => (create fingerprint s ctx, .first s.keys.next)

/-- Run the handler and record how it ended. -/
def runHandler (s : Backend β σ) (recordId : Id) (call : Call φ β σ) : Backend β σ × Answer β :=
  match call.handler s.world with
  | (world, .ok result) =>
    (complete { s with world } recordId result.options, .returned result.body.join)
  | (world, .error error) => (complete { s with world } recordId error.options, .threw error)

def wrap (s : Backend β σ) (call : Call φ β σ) : Backend β σ × Answer β :=
  match begin fingerprint s call.ctx with
  | (s, .first recordId) => runHandler s recordId call
  | (s, .replay _ _ body) => (s, .returned body)
  | (s, .conflict _ conflictReason) => (s, .threw (.conflictException conflictReason))
  | (s, .inFlight _) => (s, .threw (.conflictException "Idempotent request already in flight"))

-- ---
-- One call, statement by statement
-- ---

inductive WrapStage (β : Type)
  | findUnique
  | create
  | handler (recordId : Id)
  | complete (recordId : Id) (result : HandlerResult β)
  | fail (recordId : Id) (error : Thrown)
  | done (answer : Answer β)
  deriving DecidableEq, Repr

/-- What the caller was told, and what its handler did, are kept. -/
structure WrapThread (φ β σ : Type) where
  call : Call φ β σ
  stage : WrapStage β := .findUnique
  hit : Option (Hit β) := none
  execution : Option (Execution β) := none

namespace WrapThread

def goto (t : WrapThread φ β σ) (stage : WrapStage β) : WrapThread φ β σ := { t with stage }

/-- The caller is told what its key stands for. -/
def told (t : WrapThread φ β σ) (hit : Hit β) : WrapThread φ β σ :=
  let stage := match hit with
    | .first recordId => .handler recordId
    | .replay _ _ body => .done (.returned body)
    | .conflict _ conflictReason => .done (.threw (.conflictException conflictReason))
    | .inFlight _ => .done (.threw (.conflictException "Idempotent request already in flight"))
  { t with hit := some hit, stage }

def uniqueViolation : String := "Unique constraint failed"

/-- The next statement of the call, which ends as `fate` says. -/
def advance (fate : Fate) (s : Backend β σ) (t : WrapThread φ β σ) :
    Backend β σ × WrapThread φ β σ :=
  let requestHash := fingerprint t.call.ctx.fingerprintSource
  match t.stage with
  | .findUnique =>
    match fate.error?, IdempotencyService.findUnique s t.call.ctx.identity with
    | some message, _ => (s, t.goto (.done (.threw (.database message))))
    | none, some (recordId, existing) => (s, t.told (existingHit requestHash recordId existing))
    | none, none => (s, t.goto .create)
  | .create =>
    -- the unique constraint refuses a second row of the key
    if (IdempotencyService.findUnique s t.call.ctx.identity).isSome then
      (s, t.goto (.done (.threw (.database uniqueViolation))))
    else
      (fate.write s (IdempotencyService.create fingerprint s t.call.ctx),
        match fate.error? with
        | some message => t.goto (.done (.threw (.database message)))
        | none => t.told (.first s.keys.next))
  | .handler recordId =>
    match t.call.handler s.world with
    | (world, .ok result) =>
      ({ s with world },
        { t with execution := some (.ok result), stage := .complete recordId result })
    | (world, .error error) =>
      ({ s with world }, { t with execution := some (.error error), stage := .fail recordId error })
  | .complete recordId result =>
    (fate.write s (IdempotencyService.complete s recordId result.options),
      t.goto (match fate.error? with
        | some message => .fail recordId (.database message)
        | none => .done (.returned result.body.join)))
  | .fail recordId error =>
    (fate.write s (IdempotencyService.complete s recordId error.options),
      t.goto (.done (.threw (match fate.error? with
        | some message => .database message
        | none => error))))
  | .done _ => (s, t)

end WrapThread

end NimbusPos.IdempotencyService
