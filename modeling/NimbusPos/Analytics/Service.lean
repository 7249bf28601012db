import NimbusPos.Common
import NimbusPos.Lib.Table
import Mathlib.Data.List.Dedup

/-!
# Anomaly detection

A recalculation evaluates the active rules of the branch in turn. Each detector reads what lies
in the window of its rule and creates an event for all that it finds.
-/

namespace NimbusPos.AnalyticsService

open Lib

-- ---
-- Rows
-- ---

inductive AnomalyRuleType
  | voidSpike
  | discountAbuse
  | cashVariance
  | shrinkage
  | lateClose
  | priceOverride
  | refundSpike
  | noShowPattern
  | checkinDeniedPattern
  | custom
  deriving DecidableEq, Repr

inductive AnomalyRuleStatus
  | active
  | inactive
  deriving DecidableEq, Repr

inductive AnomalySeverity
  | low
  | medium
  | high
  | critical
  deriving DecidableEq, Repr

inductive AnomalyEventStatus
  | open
  | acknowledged
  | resolved
  deriving DecidableEq, Repr

inductive RiskEntityType
  | staff
  | branch
  | order
  | shift
  | till
  | inventoryItem
  | event
  | reservation
  deriving DecidableEq, Repr

/-- `thresholdValue` is in hundredths. A rule of no branch is one of all branches. -/
structure AnomalyRule where
  orgId : Id
  branchId : Option Id := none
  code : String
  type : AnomalyRuleType
  status : AnomalyRuleStatus := .active
  severity : AnomalySeverity
  thresholdValue : Option Int := none
  windowMinutes : Option Int := none
  deriving DecidableEq, Repr

structure AnomalyEvent where
  orgId : Id
  branchId : Id
  ruleId : Option Id := none
  type : AnomalyRuleType
  status : AnomalyEventStatus := .open
  severity : AnomalySeverity
  entityType : RiskEntityType
  entityId : Id
  actorUserId : Option Id := none
  relatedShiftId : Option Id := none
  relatedTillSessionId : Option Id := none
  createdAt : Time
  deriving DecidableEq, Repr

/-- What a detector reads of a discount or of a refund. -/
structure Grant where
  branchId : Id
  createdById : Id
  createdAt : Time
  deriving DecidableEq, Repr

structure AnalyticsStore where
  anomalyRules : Table AnomalyRule := .empty
  orders : Table Order := .empty
  discounts : Table Grant := .empty
  refunds : Table Grant := .empty
  tillSessions : Table TillSession := .empty
  shifts : Table Shift := .empty
  anomalyEvents : Table AnomalyEvent := .empty

-- ---
-- Rules
-- ---

/-- `new Date(Date.now() - windowMs)`. -/
def AnomalyRule.since (rule : AnomalyRule) (minutes : Int) (now : Time) : Int :=
  now - rule.windowMinutes.getD minutes * 60 * 1000

/-- `rule.thresholdValue ? Number(rule.thresholdValue) : units`, in hundredths: a decimal is an
object, so that zero is a threshold too. -/
def AnomalyRule.threshold (rule : AnomalyRule) (units : Int) : Int :=
  rule.thresholdValue.getD (units * 100)

def AnalyticsStore.activeRules (s : AnalyticsStore) (ctx : BranchContext) :
    List (Id × AnomalyRule) :=
  s.anomalyRules.findMany fun _ rule =>
    rule.orgId == ctx.organizationId && rule.status == .active &&
      (rule.branchId == some ctx.branchId || rule.branchId.isNone)

-- ---
-- Events
-- ---

/-- The part of an event that depends on what was detected. -/
structure Detection where
  entityType : RiskEntityType
  entityId : Id
  actorUserId : Option Id := none
  relatedShiftId : Option Id := none
  relatedTillSessionId : Option Id := none
  deriving DecidableEq, Repr

def eventRow (ctx : BranchContext) (rule : Id × AnomalyRule) (now : Time) (data : Detection) :
    AnomalyEvent :=
  { orgId := ctx.organizationId, branchId := ctx.branchId, ruleId := some rule.1
    type := rule.2.type, severity := rule.2.severity, entityType := data.entityType
    entityId := data.entityId, actorUserId := data.actorUserId
    relatedShiftId := data.relatedShiftId, relatedTillSessionId := data.relatedTillSessionId
    createdAt := now }

def createAnomalyEvent (s : AnalyticsStore) (ctx : BranchContext) (rule : Id × AnomalyRule)
    (now : Time) (data : Detection) : AnalyticsStore :=
  { s with anomalyEvents := s.anomalyEvents.insert (eventRow ctx rule now data) }

/-- The loop of a detector: an event for each detection, and their number. -/
def createEach (s : AnalyticsStore) (ctx : BranchContext) (rule : Id × AnomalyRule) (now : Time)
    (found : List Detection) : AnalyticsStore × Nat :=
  (found.foldl (fun s data => createAnomalyEvent s ctx rule now data) s, found.length)

-- ---
-- Detectors
-- ---

/-- `groupBy` over the users of the rows, and the groups that reach the threshold. -/
def spikes (userIds : List Id) (threshold : Int) : List Detection :=
  (userIds.dedup.filter fun userId => decide (threshold ≤ userIds.count userId * 100)).map
    fun userId => { entityType := .staff, entityId := userId, actorUserId := some userId }

def Grant.within (branchId : Id) (since : Int) (row : Grant) : Bool :=
  row.branchId == branchId && decide (since ≤ row.createdAt)

def grantSpikes (grants : Table Grant) (rule : AnomalyRule) (units : Int) (ctx : BranchContext)
    (now : Time) : List Detection :=
  let rows := grants.findMany fun _ row => row.within ctx.branchId (rule.since 60 now)
  spikes (rows.map (·.2.createdById)) (rule.threshold units)

def isVoidWithin (branchId : Id) (since : Int) (order : Order) : Bool :=
  order.branchId == branchId && order.status == .voided && decide (since ≤ order.updatedAt)

def voidSpikes (s : AnalyticsStore) (rule : AnomalyRule) (ctx : BranchContext) (now : Time) :
    List Detection :=
  let voids := s.orders.findMany fun _ order => isVoidWithin ctx.branchId (rule.since 60 now) order
  spikes (voids.map (·.2.userId)) (rule.threshold 5)

/-- A session closed since the time, whose variance reaches the threshold. -/
def isCashVariance (branchId : Id) (since threshold : Int) (session : TillSession) : Bool :=
  session.branchId == branchId && session.closedAt.any (fun closedAt => decide (since ≤ closedAt)) &&
    session.variance.any fun variance => decide (threshold ≤ |variance|)

def cashVariances (s : AnalyticsStore) (rule : AnomalyRule) (ctx : BranchContext) (now : Time) :
    List Detection :=
  let sessions := s.tillSessions.findMany fun _ session =>
    isCashVariance ctx.branchId (rule.since 480 now) (rule.threshold 500) session
  sessions.map fun session =>
    { entityType := .till, entityId := session.1, actorUserId := some session.2.operatorUserId
      relatedTillSessionId := some session.1 }

/-- A shift closed since the time, that was open for the hours of the threshold. -/
def isLateClose (branchId : Id) (since threshold : Int) (shift : Shift) : Bool :=
  shift.branchId == branchId && shift.closedAt.any fun closedAt =>
    decide (since ≤ closedAt) &&
      decide (threshold * (1000 * 60 * 60) ≤ ((closedAt : Int) - shift.openedAt) * 100)

def lateCloses (s : AnalyticsStore) (rule : AnomalyRule) (ctx : BranchContext) (now : Time) :
    List Detection :=
  let shifts := s.shifts.findMany fun _ shift =>
    isLateClose ctx.branchId (rule.since 1440 now) (rule.threshold 12) shift
  shifts.map fun shift =>
    { entityType := .shift, entityId := shift.1, actorUserId := some shift.2.openedById
      relatedShiftId := some shift.1 }

variable (s : AnalyticsStore) (rule : Id × AnomalyRule) (ctx : BranchContext) (now : Time)

def detectVoidSpike : AnalyticsStore × Nat :=
  createEach s ctx rule now (voidSpikes s rule.2 ctx now)

def detectDiscountAbuse : AnalyticsStore × Nat :=
  createEach s ctx rule now (grantSpikes s.discounts rule.2 5 ctx now)

def detectCashVariance : AnalyticsStore × Nat :=
  createEach s ctx rule now (cashVariances s rule.2 ctx now)

def detectLateClose : AnalyticsStore × Nat :=
  createEach s ctx rule now (lateCloses s rule.2 ctx now)

def detectRefundSpike : AnalyticsStore × Nat :=
  createEach s ctx rule now (grantSpikes s.refunds rule.2 3 ctx now)

/-- Rules of the other types are skipped. -/
def evaluate : AnalyticsStore × Nat :=
  match rule.2.type with
  | .voidSpike => detectVoidSpike s rule ctx now
  | .discountAbuse => detectDiscountAbuse s rule ctx now
  | .cashVariance => detectCashVariance s rule ctx now
  | .lateClose => detectLateClose s rule ctx now
  | .refundSpike => detectRefundSpike s rule ctx now
  | .shrinkage | .priceOverride | .noShowPattern | .checkinDeniedPattern | .custom => (s, 0)

-- ---
-- Recalculation
-- ---

structure Recalculation where
  rulesEvaluated : Nat
  results : List (String × Nat)
  deriving DecidableEq, Repr

/-- `now` is the time that the detector of each rule reads. -/
def evaluateAll (ctx : BranchContext) (now : Id → Time) (rules : List (Id × AnomalyRule))
    (s : AnalyticsStore) : AnalyticsStore × List (String × Nat) :=
  rules.foldl (fun (s, results) rule =>
    let (s, detected) := evaluate s rule ctx (now rule.1)
    (s, results ++ [(rule.2.code, detected)])) (s, [])

def recalculateAnomalies (s : AnalyticsStore) (ctx : BranchContext) (now : Id → Time) :
    AnalyticsStore × Recalculation :=
  let rules := s.activeRules ctx
  let (s, results) := evaluateAll ctx now rules s
  (s, ⟨rules.length, results⟩)

end NimbusPos.AnalyticsService
