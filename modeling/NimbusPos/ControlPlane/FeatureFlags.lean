import NimbusPos.Common
import NimbusPos.Lib.Renamed

/-!
# Feature flags

The flag service of the control plane, and the endpoints of its controller that write
flags for the organisation of the caller. Audit rows are left out.
-/

namespace NimbusPos.ControlPlane

open Lib Lib.Service

inductive FeatureFlagScope
  | global
  | org
  | branch
  deriving DecidableEq, Repr

namespace FeatureFlagScope

instance : ToString FeatureFlagScope where
  toString
    | .global => "GLOBAL"
    | .org => "ORG"
    | .branch => "BRANCH"

/-- `orderBy: { scope: 'asc' }` goes by the place in the enum. -/
def place : FeatureFlagScope → Nat
  | .global => 0
  | .org => 1
  | .branch => 2

/-- Most-specific scope wins: BRANCH > ORG > GLOBAL. -/
def order : FeatureFlagScope → Nat
  | .branch => 0
  | .org => 1
  | .global => 2

end FeatureFlagScope

inductive FeatureFlagStatus
  | enabled
  | disabled
  | archived
  deriving DecidableEq, Repr

/-- JSON columns are texts. -/
structure FeatureFlag where
  key : String
  name : String
  description : Option String := none
  scope : FeatureFlagScope := .org
  orgId : Option Id
  branchId : Option Id := none
  status : FeatureFlagStatus := .disabled
  rolloutPercent : Nat := 0
  targeting : Option String := none
  metadata : Option String := none
  createdById : Id
  updatedById : Id
  /-- A global flag has no organisation. -/
  unowned : scope = .global → orgId = none
  deriving DecidableEq, Repr

inductive MembershipStatus
  | active
  | inactive
  | revoked
  deriving DecidableEq, Repr

structure Membership where
  userId : Id
  organizationId : Id
  status : MembershipStatus := .active
  deriving DecidableEq, Repr

structure Store where
  memberships : Table Membership := .empty
  featureFlags : Table FeatureFlag := .empty

abbrev Db (α : Type) := Service HttpError Store α

-- ---
-- FeatureFlagService
-- ---

structure CreateFeatureFlagDto where
  key : String
  name : String
  description : Option String := none
  scope : Option FeatureFlagScope := none
  branchId : Option Id := none
  status : Option FeatureFlagStatus := none
  rolloutPercent : Option Nat := none
  targeting : Option String := none
  metadata : Option String := none
  deriving DecidableEq, Repr

structure UpdateFeatureFlagDto where
  name : Option String := none
  description : Option String := none
  status : Option FeatureFlagStatus := none
  rolloutPercent : Option Nat := none
  targeting : Option String := none
  metadata : Option String := none
  deriving DecidableEq, Repr

def targetOrgId (scope : FeatureFlagScope) (orgId : Id) : Option Id :=
  if scope = .global then none else some orgId

def targetBranchId (scope : FeatureFlagScope) (branchId : Option Id) : Option Id :=
  if scope = .branch then branchId else none

theorem targetOrgId_global (h : scope = .global) : targetOrgId scope orgId = none := if_pos h

def FeatureFlag.isAt (flag : FeatureFlag) (scope : FeatureFlagScope) (key : String)
    (orgId branchId : Option Id) : Bool :=
  flag.scope == scope && flag.key == key && flag.orgId == orgId && flag.branchId == branchId

/-- The row that a request creates. -/
def CreateFeatureFlagDto.row (dto : CreateFeatureFlagDto) (actorUserId orgId : Id) :
    FeatureFlag where
  key := dto.key
  name := dto.name
  description := dto.description
  scope := dto.scope.getD .org
  orgId := targetOrgId (dto.scope.getD .org) orgId
  branchId := targetBranchId (dto.scope.getD .org) dto.branchId
  status := dto.status.getD .disabled
  rolloutPercent := dto.rolloutPercent.getD 0
  targeting := dto.targeting
  metadata := dto.metadata
  createdById := actorUserId
  updatedById := actorUserId
  unowned := targetOrgId_global

def create (actorUserId orgId : Id) (dto : CreateFeatureFlagDto) : Db FeatureFlag := do
  let scope := dto.scope.getD .org
  ensure (!(scope == .branch && dto.branchId.isNone))
    (badRequest "branchId is required when scope=BRANCH")
  ensure (!(scope == .global && dto.branchId.isSome))
    (badRequest "branchId must not be set when scope=GLOBAL")
  let s ← get
  let existing := s.featureFlags.findFirst fun _ flag =>
    flag.isAt scope dto.key (targetOrgId scope orgId) (targetBranchId scope dto.branchId)
  ensure existing.isNone (conflict
    ("Feature flag '" ++ dto.key ++ "' already exists at scope=" ++ toString scope))
  modify fun s => { s with featureFlags := s.featureFlags.insert (dto.row actorUserId orgId) }
  pure (dto.row actorUserId orgId)

/-- `where: { key, OR: [{ orgId }, { scope: 'GLOBAL' }] }`. -/
def FeatureFlag.visibleTo (flag : FeatureFlag) (orgId : Id) (key : String) : Bool :=
  flag.key == key && (flag.orgId == some orgId || flag.scope == .global)

/-- The first such flag by scope. -/
def Store.flagByKey (s : Store) (orgId : Id) (key : String) : Option (Id × FeatureFlag) :=
  Table.first (·.scope.place) (s.featureFlags.findMany fun _ flag => flag.visibleTo orgId key)

/-- What an update writes; what the request leaves out stays. -/
def UpdateFeatureFlagDto.rewrite (dto : UpdateFeatureFlagDto) (actorUserId : Id)
    (flag : FeatureFlag) : FeatureFlag :=
  { flag with
    name := dto.name.getD flag.name
    description := dto.description.or flag.description
    status := dto.status.getD flag.status
    rolloutPercent := dto.rolloutPercent.getD flag.rolloutPercent
    targeting := dto.targeting.or flag.targeting
    metadata := dto.metadata.or flag.metadata
    updatedById := actorUserId }

def patchByKey (actorUserId orgId : Id) (key : String) (dto : UpdateFeatureFlagDto) :
    Db FeatureFlag := do
  let s ← get
  let found ← need (s.flagByKey orgId key) (notFound ("Feature flag '" ++ key ++ "' not found"))
  let (flagId, flag) := found
  -- org-scoped users cannot mutate global flags
  ensure (!(flag.scope == .global && flag.orgId.isNone))
    (badRequest "Global flags cannot be patched via org-scoped endpoint")
  modify fun s =>
    { s with featureFlags := s.featureFlags.update flagId (dto.rewrite actorUserId) }
  pure (dto.rewrite actorUserId flag)

/-- A flag that is asked for an organisation and, if one is given, a branch of it. -/
def FeatureFlag.candidate (flag : FeatureFlag) (orgId : Id) (key : String)
    (branchId : Option Id) : Bool :=
  flag.key == key && (flag.scope == .global ||
    flag.scope == .org && flag.orgId == some orgId ||
    branchId.isSome && flag.scope == .branch && flag.orgId == some orgId &&
      flag.branchId == branchId)

def Store.isEnabled (s : Store) (orgId : Id) (key : String) (branchId : Option Id) : Bool :=
  let candidates := s.featureFlags.findMany fun _ flag => flag.candidate orgId key branchId
  match Table.first (·.scope.order) candidates with
  | none => false
  | some (_, winner) => winner.status == .enabled

-- ---
-- ControlPlaneController
-- ---

/-- The organisation of the user's first ACTIVE membership. -/
def Store.orgOf (s : Store) (userId : Id) : Option Id :=
  (s.memberships.findFirst fun _ membership =>
    membership.userId == userId && membership.status == .active).map (·.2.organizationId)

def resolveOrgId (userId : Id) : Db Id := do
  let s ← get
  need (s.orgOf userId) (forbidden "No active membership found")

def createFlag (userId : Id) (dto : CreateFeatureFlagDto) : Db FeatureFlag := do
  let orgId ← resolveOrgId userId
  create userId orgId dto

def patchFlag (userId : Id) (key : String) (dto : UpdateFeatureFlagDto) : Db FeatureFlag := do
  let orgId ← resolveOrgId userId
  patchByKey userId orgId key dto

-- ---
-- What a call leaves
-- ---

/-- The request is for a flag that may exist, and none like it does. -/
def Store.creates (s : Store) (orgId : Id) (dto : CreateFeatureFlagDto) : Bool :=
  let scope := dto.scope.getD .org
  !(scope == .branch && dto.branchId.isNone) && !(scope == .global && dto.branchId.isSome) &&
    (s.featureFlags.findFirst fun _ flag => flag.isAt scope dto.key (targetOrgId scope orgId)
      (targetBranchId scope dto.branchId)).isNone

variable {s : Store} {actorUserId userId orgId : Id} {key : String}

theorem create_final (dto : CreateFeatureFlagDto) :
    final (create actorUserId orgId dto s) = if s.creates orgId dto then
      { s with featureFlags := s.featureFlags.insert (dto.row actorUserId orgId) } else s := by
  simp only [create, final_ensure, final_get, final_bind_modify, Store.creates, Bool.and_eq_true]
  split_ifs <;> simp_all [final, Pure.pure, EStateM.pure]

theorem patchByKey_none (h : s.flagByKey orgId key = none) (dto : UpdateFeatureFlagDto) :
    final (patchByKey actorUserId orgId key dto s) = s := by
  simp only [patchByKey, final_get, h, final_need_none]

theorem patchByKey_some (h : s.flagByKey orgId key = some (flagId, flag))
    (dto : UpdateFeatureFlagDto) :
    final (patchByKey actorUserId orgId key dto s) =
      if flag.scope == .global && flag.orgId.isNone then s else
        { s with
          featureFlags := s.featureFlags.update flagId (dto.rewrite actorUserId) } := by
  simp only [patchByKey, final_get, h, final_need_some, final_ensure, final_bind_modify]
  cases flag.scope == .global && flag.orgId.isNone <;> rfl

theorem createFlag_none (h : s.orgOf userId = none) (dto : CreateFeatureFlagDto) :
    final (createFlag userId dto s) = s := by
  simp only [createFlag, resolveOrgId, run_bind, run_get, h, run_need_none, final]

theorem createFlag_some (h : s.orgOf userId = some orgId) (dto : CreateFeatureFlagDto) :
    final (createFlag userId dto s) = final (create userId orgId dto s) := by
  simp only [createFlag, resolveOrgId, run_bind, run_get, h, run_need_some]

theorem patchFlag_none (h : s.orgOf userId = none) (dto : UpdateFeatureFlagDto) :
    final (patchFlag userId key dto s) = s := by
  simp only [patchFlag, resolveOrgId, run_bind, run_get, h, run_need_none, final]

theorem patchFlag_some (h : s.orgOf userId = some orgId) (dto : UpdateFeatureFlagDto) :
    final (patchFlag userId key dto s) = final (patchByKey userId orgId key dto s) := by
  simp only [patchFlag, resolveOrgId, run_bind, run_get, h, run_need_some]

end NimbusPos.ControlPlane
