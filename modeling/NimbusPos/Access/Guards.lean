import NimbusPos.Common

/-!
# Guards

What lets a request through: the strategy that validates its access token, the guard of
the permissions that its route requires, and the guard of the branch that it names. The
last one keeps what it found for a while and asks once for requests that come together.
-/

namespace NimbusPos.Access

open Lib Lib.Service

inductive RoleLevel
  | L1
  | L2
  | L3
  | L4
  | L5
  deriving DecidableEq, Repr

/-- The place in `roleLevelOrder`. -/
def RoleLevel.index : RoleLevel → Nat
  | .L1 => 0
  | .L2 => 1
  | .L3 => 2
  | .L4 => 3
  | .L5 => 4

structure Role where
  name : String
  level : RoleLevel
  jobRole : Option String := none
  deriving DecidableEq, Repr

/-- A permission of a role, by its action. -/
structure RolePermission where
  roleId : Id
  action : String
  deriving DecidableEq, Repr

structure UserRole where
  userId : Id
  roleId : Id
  orgId : Option Id := none
  branchId : Option Id := none
  deriving DecidableEq, Repr

structure User where
  email : String
  isActive : Bool := true
  deriving DecidableEq, Repr

inductive BranchStatus
  | active
  | inactive
  | closed
  deriving DecidableEq, Repr

structure Branch where
  organizationId : Id
  status : BranchStatus := .active
  deriving DecidableEq, Repr

inductive MembershipStatus
  | active
  | inactive
  | revoked
  deriving DecidableEq, Repr

structure Membership where
  userId : Id
  organizationId : Id
  branchId : Id
  roleId : Id
  status : MembershipStatus := .active
  isDefaultBranch : Bool := false
  deriving DecidableEq, Repr

/-- Who there is, and what was assigned to whom. -/
structure Directory where
  users : Table User := .empty
  roles : Table Role := .empty
  rolePermissions : Table RolePermission := .empty
  userRoles : Table UserRole := .empty
  branches : Table Branch := .empty
  memberships : Table Membership := .empty

structure Session where
  userId : Id
  jti : String
  orgId : Option Id := none
  branchId : Option Id := none
  lastActivityAt : Time := 0
  expiresAt : Time
  revokedAt : Option Time := none
  deriving DecidableEq, Repr

structure Store where
  clock : Time := 0
  directory : Directory := {}
  sessions : Table Session := .empty

abbrev Db (α : Type) := Service HttpError Store α

-- ---
-- Claims
-- ---

structure AuthRoleClaim where
  id : Id
  name : String
  level : RoleLevel
  jobRole : Option String
  deriving DecidableEq, Repr

structure JwtPayload where
  sub : Id
  email : String
  jti : String
  roles : List AuthRoleClaim := []
  permissions : List String := []
  exp : Time
  deriving DecidableEq, Repr

namespace Directory

/-- The roles assigned to a user, wherever. -/
def assignedRoles (d : Directory) (userId : Id) : List (Id × Role) :=
  (d.userRoles.findMany fun _ userRole => userRole.userId == userId).filterMap fun row =>
    (d.roles.get? row.2.roleId).map fun role => (row.2.roleId, role)

def actionsOf (d : Directory) (roleId : Id) : List String :=
  (d.rolePermissions.findMany fun _ rolePermission => rolePermission.roleId == roleId).map
    (·.2.action)

/-- The claims of `extractAuthClaims`. -/
def roleClaims (d : Directory) (userId : Id) : List AuthRoleClaim :=
  (d.assignedRoles userId).map fun row =>
    { id := row.1, name := row.2.name, level := row.2.level, jobRole := row.2.jobRole }

def permissionClaims (d : Directory) (userId : Id) : List String :=
  ((d.assignedRoles userId).flatMap fun row => d.actionsOf row.1).eraseDups

theorem mem_permissionClaims {d : Directory} : action ∈ d.permissionClaims userId ↔
    ∃ row ∈ d.assignedRoles userId, action ∈ d.actionsOf row.1 := by
  rw [permissionClaims, List.mem_eraseDups, List.mem_flatMap]

end Directory

-- ---
-- JwtStrategy
-- ---

structure RequestUser where
  id : Id
  email : String
  roleLevel : RoleLevel
  roles : List AuthRoleClaim
  permissions : List String
  sessionId : Id
  jti : String
  sessionOrgId : Option Id
  sessionBranchId : Option Id
  deriving DecidableEq, Repr

/-- The highest level of the roles. -/
def highestLevel (roles : List AuthRoleClaim) : RoleLevel :=
  roles.foldl (fun highest role => if highest.index < role.level.index then role.level else highest)
    (roles.head?.elim .L1 (·.level))

/-- A token that names roles and permissions is taken at its word. -/
def JwtPayload.selfContained (payload : JwtPayload) : Bool :=
  !payload.roles.isEmpty && !payload.permissions.isEmpty

def authzClaims (payload : JwtPayload) : Db (List AuthRoleClaim × List String) := do
  if payload.selfContained then return (payload.roles, payload.permissions)
  let s ← get
  let authzUser ← need (s.directory.users.get? payload.sub)
    (unauthorized "User not found or inactive")
  ensure authzUser.isActive (unauthorized "User not found or inactive")
  return (s.directory.roleClaims payload.sub, s.directory.permissionClaims payload.sub)

/-- `lastActivityAt` is written when it is more than a minute old; nobody waits for it. -/
def touchSession (sessionId : Id) (session : Session) : Db Unit := do
  let s ← get
  if 60000 < s.clock - session.lastActivityAt then
    modify fun s =>
      { s with
        sessions := s.sessions.update sessionId fun session =>
          { session with lastActivityAt := s.clock } }

def validate (payload : JwtPayload) : Db RequestUser := do
  let s ← get
  let found ← need ((s.sessions.findFirst fun _ session => session.jti == payload.jti).filter
    (·.2.revokedAt.isNone)) (unauthorized "Session revoked or expired")
  let (sessionId, session) := found
  ensure (decide (s.clock ≤ session.expiresAt)) (unauthorized "Session expired")
  let user ← need ((s.directory.users.get? session.userId).filter (·.isActive))
    (unauthorized "User not found or inactive")
  touchSession sessionId session
  let claims ← authzClaims payload
  return {
    id := session.userId, email := user.email, roleLevel := highestLevel claims.1
    roles := claims.1, permissions := claims.2, sessionId, jti := payload.jti
    sessionOrgId := session.orgId, sessionBranchId := session.branchId }

/-- Whose session it is. -/
def Session.owner (session : Session) : Id × String := (session.userId, session.jti)

/-- Who signed in, what was assigned and the time stay as they are. -/
def validating : Frame Store where
  rel s t := t.directory = s.directory ∧ t.clock = s.clock ∧
    Table.SameRows Session.owner s.sessions t.sessions
  refl _ := ⟨rfl, rfl, .refl _⟩
  trans h h' := ⟨h'.1.trans h.1, h'.2.1.trans h.2.1, h.2.2.trans h'.2.2⟩

theorem authzClaims_reads (payload : JwtPayload) : Reads (authzClaims payload) := by
  unfold authzClaims
  cases payload.selfContained
  · exact .bind .get fun _ => .bind (.need _ _) fun _ => .bind (.ensure _ _) fun _ => .pure _
  · exact .pure _

theorem authzClaims_ok {payload : JwtPayload} {claims : List AuthRoleClaim × List String}
    (h : authzClaims payload s = .ok claims t) : claims.2 =
      if payload.selfContained then payload.permissions
      else s.directory.permissionClaims payload.sub := by
  unfold authzClaims at h
  cases hclaims : payload.selfContained with
  | true =>
    rw [hclaims] at h
    cases h
    rfl
  | false =>
    rw [hclaims] at h
    simp only [Bool.false_eq_true, if_false, bind_ok, get_ok, need_ok, ensure_ok, pure_ok] at h
    obtain ⟨_, _, ⟨rfl, rfl⟩, _, _, ⟨-, rfl⟩, _, _, ⟨-, rfl⟩, rfl, -⟩ := h
    rfl

theorem touchSession_keeps (sessionId : Id) (session : Session) :
    Keeps validating (touchSession sessionId session) := by
  refine Reads.get.keeps.bind fun s => .ite (.modify fun s => ⟨rfl, rfl, ?_⟩) (Reads.pure _).keeps
  refine .update ?_
  exact fun _ => rfl

theorem validate_keeps (payload : JwtPayload) : Keeps validating (validate payload) :=
  Reads.get.keeps.bind fun _ => (Reads.need _ _).keeps.bind fun _ =>
    (Reads.ensure _ _).keeps.bind fun _ => (Reads.need _ _).keeps.bind fun _ =>
      (touchSession_keeps _ _).bind fun _ => (authzClaims_reads payload).keeps.bind fun _ =>
        (Reads.pure _).keeps

/-- The user is that of the token's session; the permissions are the token's own, if it
names any, else those of all roles of its subject. -/
theorem validate_ok {payload : JwtPayload} {user : RequestUser} {s t : Store}
    (h : validate payload s = .ok user t) :
    (∃ k session, s.sessions.get? k = some session ∧ session.jti = payload.jti ∧
      user.id = session.userId) ∧ user.permissions =
        if payload.selfContained then payload.permissions
        else s.directory.permissionClaims payload.sub := by
  simp only [validate, bind_ok, get_ok, need_ok, ensure_ok, pure_ok] at h
  obtain ⟨_, _, ⟨rfl, rfl⟩, ⟨k, session⟩, _, ⟨hfound, rfl⟩, _, _, ⟨-, rfl⟩, row, _, ⟨-, rfl⟩, _, r,
    htouch, claims, _, hclaims, rfl, -⟩ := h
  obtain ⟨hfound, -⟩ := Option.filter_eq_some_iff.mp hfound
  obtain ⟨hget, hjti⟩ := Table.findFirst_some hfound
  have hdirectory : r.directory = s.directory := by
    have hkeeps := touchSession_keeps k session s
    rw [htouch] at hkeeps
    exact hkeeps.1
  refine ⟨⟨k, session, hget, beq_iff_eq.mp hjti, rfl⟩, ?_⟩
  rw [← hdirectory]
  exact authzClaims_ok hclaims

-- ---
-- PermissionGuard
-- ---

namespace PermissionGuard

/-- A route that requires nothing has no list. -/
def canActivate (requiredPermissions : List String) (user : Option RequestUser) :
    Except HttpError Unit :=
  if requiredPermissions.isEmpty then .ok ()
  else match user with
    | none => .error (forbidden "No authenticated user")
    | some user =>
      if requiredPermissions.all (user.permissions.contains ·) then .ok ()
      else .error (forbidden "Insufficient permissions")

theorem canActivate_ok {user : RequestUser}
    (h : canActivate requiredPermissions (some user) = .ok ()) :
    ∀ action ∈ requiredPermissions, action ∈ user.permissions := by
  unfold canActivate at h
  intro action haction
  rw [if_neg (by simpa using List.ne_nil_of_mem haction)] at h
  dsimp only at h
  split at h
  · rename_i hall
    exact List.contains_iff_mem.mp (List.all_eq_true.mp hall action haction)
  · cases h

end PermissionGuard

-- ---
-- BranchContextGuard
-- ---

/-- What the guard attaches to a request. -/
structure BranchContextValue where
  branchId : Id
  organizationId : Id
  roleId : Id
  membershipId : Id
  deriving DecidableEq, Repr

namespace BranchContextGuard

def cacheTtlMs : Nat := 30000

structure CachedContext where
  expiresAt : Time
  value : BranchContextValue
  deriving DecidableEq, Repr

/-- Where `resolveBranchContext` is: its next query, or its outcome. -/
inductive Lookup
  | membership
  | branch
  | settled (result : Except HttpError BranchContextValue)
  deriving DecidableEq

/-- The ACTIVE membership with its branch. -/
def findMembership (d : Directory) (userId branchId : Id) : Option (Id × Membership × Branch) := do
  let (membershipId, membership) ← d.memberships.findFirst fun _ membership =>
    membership.userId == userId && membership.branchId == branchId && membership.status == .active
  let branch ← d.branches.get? membership.branchId
  return (membershipId, membership, branch)

def Lookup.next (d : Directory) (userId branchId : Id) : Lookup → Lookup
  | .membership =>
    match (findMembership d userId branchId).filter (·.2.2.status == .active) with
    | some (membershipId, row, resolvedBranch) => .settled (.ok {
        branchId := row.branchId, organizationId := resolvedBranch.organizationId
        roleId := row.roleId, membershipId })
    | none => .branch
  | .branch =>
    match (d.branches.get? branchId).filter (·.status == .active) with
    | some _ => .settled (.error (forbidden "Not a member of this branch"))
    | none => .settled (.error (badRequest "Branch not found or inactive"))
  | .settled result => .settled result

/-- The context is that of an ACTIVE membership of the user in the branch, itself ACTIVE. -/
def Grants (d : Directory) (userId branchId : Id) (value : BranchContextValue) : Prop :=
  ∃ membership branch, d.memberships.get? value.membershipId = some membership ∧
    membership.userId = userId ∧ membership.branchId = branchId ∧ membership.status = .active ∧
    membership.roleId = value.roleId ∧ d.branches.get? branchId = some branch ∧
    branch.status = .active

theorem findMembership_some {d : Directory}
    (h : findMembership d userId branchId = some (membershipId, membership, branch)) :
    d.memberships.get? membershipId = some membership ∧ membership.userId = userId ∧
      membership.branchId = branchId ∧ membership.status = .active ∧
      d.branches.get? branchId = some branch := by
  simp only [findMembership, Option.bind_eq_bind, Option.bind_eq_some_iff, Option.pure_def,
    Option.some.injEq, Prod.mk.injEq] at h
  obtain ⟨⟨k, row⟩, hfound, resolved, hbranch, rfl, rfl, rfl⟩ := h
  obtain ⟨hget, hrow⟩ := Table.findFirst_some hfound
  simp only [Bool.and_eq_true, beq_iff_eq] at hrow
  exact ⟨hget, hrow.1.1, hrow.1.2, hrow.2, hrow.1.2 ▸ hbranch⟩

/-- A lookup that finds something has just found it, or had it. -/
theorem Lookup.next_ok {d : Directory} {lookup : Lookup}
    (h : lookup.next d userId branchId = .settled (.ok value)) :
    lookup = .settled (.ok value) ∨ Grants d userId branchId value := by
  cases lookup with
  | membership =>
    simp only [Lookup.next] at h
    split at h
    · rename_i membershipId row branch hfound
      cases h
      obtain ⟨hfound, hactive⟩ := Option.filter_eq_some_iff.mp hfound
      obtain ⟨hget, huser, hrow, hstatus, hbranch⟩ := findMembership_some hfound
      exact .inr ⟨row, branch, hget, huser, hrow, hstatus, rfl, hbranch, beq_iff_eq.mp hactive⟩
    · cases h
  | branch =>
    simp only [Lookup.next] at h
    split at h <;> cases h
  | settled result => exact .inl h

end BranchContextGuard

-- ---
-- TenancyService
-- ---

structure CreateMembershipDto where
  userId : Id
  roleId : Id
  isDefaultBranch : Bool := false
  deriving DecidableEq, Repr

/-- The other default branches of the user in the organisation are unset. -/
def Directory.unsetDefault (d : Directory) (userId orgId : Id) : Directory :=
  { d with
    memberships := d.memberships.updateWhere (fun _ membership =>
      membership.userId == userId && membership.organizationId == orgId &&
        membership.isDefaultBranch) fun membership => { membership with isDefaultBranch := false } }

def createMembership (orgId branchId : Id) (dto : CreateMembershipDto) :
    Service HttpError Directory Id := do
  let d ← get
  let _ ← need ((d.branches.get? branchId).filter (·.organizationId == orgId))
    (notFound "Branch not found in this organization")
  let _ ← need (d.users.get? dto.userId) (notFound "User not found")
  let _ ← need (d.roles.get? dto.roleId) (notFound "Role not found")
  let existing := d.memberships.findFirst fun _ membership =>
    membership.userId == dto.userId && membership.branchId == branchId
  ensure existing.isNone (conflict "User already has a membership in this branch")
  if dto.isDefaultBranch then
    modify fun d => d.unsetDefault dto.userId orgId
  modify fun d =>
    { d with
      memberships := d.memberships.insert {
        userId := dto.userId, organizationId := orgId, branchId, roleId := dto.roleId
        isDefaultBranch := dto.isDefaultBranch } }
  return d.memberships.next

end NimbusPos.Access
