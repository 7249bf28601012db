import Mathlib.Data.List.MinMax
import NimbusPos.Common
import NimbusPos.Lib.Program

/-!
# Invitations

The invitations of the core team: created, resent and revoked by the onboarding
service, accepted by the auth service. A token is stored by its hash and handed out
once. Each call is the program of its statements; the transaction of an acceptance is
one statement.
-/

namespace NimbusPos.ClientOnboardingService

open Lib Lib.Program

inductive InvitationStatus
  | pending
  | accepted
  | revoked
  | expired
  deriving DecidableEq, Repr

structure Invitation where
  organizationId : Id
  branchId : Id
  roleId : Id
  email : String
  firstName : Option String := none
  lastName : Option String := none
  tokenHash : String
  status : InvitationStatus := .pending
  expiresAt : Time
  resendCount : Nat := 0
  membershipId : Option Id := none
  userId : Option Id := none
  deriving DecidableEq, Repr

structure User where
  email : String
  passwordHash : String
  firstName : String := ""
  lastName : String := ""
  isActive : Bool := true
  mustChangePassword : Bool := false
  deriving DecidableEq, Repr

structure Branch where
  organizationId : Id
  isActive : Bool := true
  createdAt : Time := 0
  deriving DecidableEq, Repr

structure Membership where
  userId : Id
  organizationId : Id
  branchId : Id
  roleId : Id
  deriving DecidableEq, Repr

structure Store where
  clock : Time := 0
  branches : Table Branch := .empty
  /-- The names of the roles. -/
  roles : Table String := .empty
  users : Table User := .empty
  /-- User and role. -/
  userRoles : List (Id × Id) := []
  memberships : Table Membership := .empty
  invitations : Table Invitation := .empty

-- ---
-- Statements
-- ---

/-- A write to an invitation names it by its key; the row that the call had read goes
with it. -/
inductive Statement
  | now
  | findBranch (orgId : Id)
  | findRole (name : String)
  | findUserByEmail (email : String)
  | findUser (userId : Id)
  | createUser (row : User)
  | createUserRole (userId roleId : Id)
  | findMembership (userId branchId : Id)
  | createMembership (row : Membership)
  | expirePending (orgId : Id) (email : String)
  | createInvitation (row : Invitation)
  | findInvitation (invitationId : Id)
  | findByToken (tokenHash : String)
  | resend (invitationId : Id) (inv : Invitation) (tokenHash : String) (expiresAt : Time)
  | revoke (invitationId : Id) (inv : Invitation)
  | expire (invitationId : Id) (inv : Invitation)
  | accept (invitationId : Id) (inv : Invitation) (userId : Id) (passwordHash : String)
      (firstName lastName : Option String)
  deriving DecidableEq, Repr

abbrev Statement.Answer : Statement → Type
  | .now => Time
  | .findBranch _ | .findRole _ | .findMembership .. => Option Id
  | .findUserByEmail _ | .findUser _ => Option Id
  | .createUser _ | .createMembership _ | .createInvitation _ => Id
  | .findInvitation _ => Option Invitation
  | .findByToken _ => Option (Id × Invitation)
  | .resend .. => Nat
  | _ => Unit

namespace Store

def findBranch (s : Store) (orgId : Id) : Option Id :=
  ((s.branches.findMany fun _ branch => branch.organizationId == orgId && branch.isActive).argmin
    (·.2.createdAt)).map (·.1)

def findMembership (s : Store) (userId branchId : Id) : Option Id :=
  (s.memberships.findFirst fun _ membership =>
    membership.userId == userId && membership.branchId == branchId).map (·.1)

def emailTaken (s : Store) (email : String) : Bool :=
  s.users.count (fun _ user => user.email == email) != 0

/-- Another invitation has the token. -/
def tokenTaken (s : Store) (invitationId : Id) (tokenHash : String) : Bool :=
  s.invitations.count (fun k inv => k != invitationId && inv.tokenHash == tokenHash) != 0

def setInvitation (s : Store) (invitationId : Id) (f : Invitation → Invitation) : Store :=
  { s with invitations := s.invitations.update invitationId f }

/-- The answer of an update, which fails if there is no such row. -/
def updated {α : Type} (s : Store) (invitationId : Id) (f : Invitation → α) : Except HttpError α :=
  match s.invitations.get? invitationId with
  | some inv => .ok (f inv)
  | none => .error (notFound "Record to update not found")

/-- The transaction of an acceptance. -/
def accept (s : Store) (invitationId userId : Id) (passwordHash : String)
    (firstName lastName : Option String) : Store :=
  { s with
    users := s.users.update userId fun user =>
      { user with
        passwordHash, mustChangePassword := false, isActive := true
        firstName := firstName.getD user.firstName, lastName := lastName.getD user.lastName }
    invitations := s.invitations.update invitationId fun row => { row with status := .accepted } }

def exec (s : Store) : (k : Statement) → Store × Except HttpError k.Answer
  | .now => (s, .ok s.clock)
  | .findBranch orgId => (s, .ok (s.findBranch orgId))
  | .findRole name => (s, .ok ((s.roles.findFirst fun _ role => role == name).map (·.1)))
  | .findUserByEmail email =>
    (s, .ok ((s.users.findFirst fun _ user => user.email == email).map (·.1)))
  | .findUser userId => (s, .ok ((s.users.get? userId).map fun _ => userId))
  | .createUser row =>
    unlessTaken (s.emailTaken row.email) "(email)" s { s with users := s.users.insert row }
      s.users.next
  | .createUserRole userId roleId =>
    ({ s with userRoles := (userId, roleId) :: s.userRoles }, .ok ())
  | .findMembership userId branchId => (s, .ok (s.findMembership userId branchId))
  | .createMembership row =>
    unlessTaken (s.findMembership row.userId row.branchId).isSome "(userId,branchId)" s
      { s with memberships := s.memberships.insert row } s.memberships.next
  | .expirePending orgId email =>
    ({ s with
      invitations := s.invitations.updateWhere
        (fun _ inv => inv.organizationId == orgId && inv.email == email && inv.status == .pending)
        fun inv => { inv with status := .expired } }, .ok ())
  | .createInvitation row =>
    unlessTaken (s.tokenTaken s.invitations.next row.tokenHash) "(tokenHash)" s
      { s with invitations := s.invitations.insert row } s.invitations.next
  | .findInvitation invitationId => (s, .ok (s.invitations.get? invitationId))
  | .findByToken tokenHash =>
    (s, .ok (s.invitations.findFirst fun _ inv => inv.tokenHash == tokenHash))
  | .resend invitationId _ tokenHash expiresAt =>
    if s.tokenTaken invitationId tokenHash then (s, .error (uniqueFailed "(tokenHash)"))
    else
      (s.setInvitation invitationId fun row =>
        { row with
          tokenHash, status := .pending, expiresAt, resendCount := row.resendCount + 1 },
        s.updated invitationId fun row => row.resendCount + 1)
  | .revoke invitationId _ =>
    (s.setInvitation invitationId fun row => { row with status := .revoked },
      s.updated invitationId fun _ => ())
  | .expire invitationId _ =>
    (s.setInvitation invitationId fun row => { row with status := .expired },
      s.updated invitationId fun _ => ())
  | .accept invitationId _ userId passwordHash firstName lastName =>
    if (s.users.get? userId).isSome && (s.invitations.get? invitationId).isSome then
      (s.accept invitationId userId passwordHash firstName lastName, .ok ())
    else (s, .error (notFound "Record to update not found"))

end Store

-- ---
-- Calls
-- ---

abbrev OnboardingProgram := Program Statement Statement.Answer HttpError

abbrev query (k : Statement) : OnboardingProgram k.Answer := statement k

def forbidden (message : String) : HttpError := { kind := .forbidden, message }

def invitableRoles : List String := ["Manager", "Accountant"]

def invitationTtlMs : Nat := 14 * 24 * 60 * 60 * 1000

structure OnboardingInvitationDto where
  email : String
  roleName : String
  firstName : Option String := none
  lastName : Option String := none
  deriving DecidableEq, Repr

/-- What a call draws for one invitation: the token, and the password of a new user
with its hash. -/
structure Drawn where
  invitationToken : String
  tempPassword : String := ""
  passwordHash : String := ""
  deriving DecidableEq, Repr

structure Invited where
  email : String
  userId : Id
  membershipId : Id
  branchId : Id
  wasNewUser : Bool
  alreadyMember : Bool
  invitationId : Id
  invitationToken : String
  tempPassword : Option String
  expiresAt : Time
  deriving DecidableEq, Repr

inductive Reply
  | invited (invitations : List Invited)
  | resent (invitationId : Id) (invitationToken : String) (expiresAt : Time) (resendCount : Nat)
  | revoked (alreadyRevoked : Bool)
  | accepted (invitationId userId : Id)
  deriving DecidableEq, Repr

section

-- `email.toLowerCase().trim()` and the digest of a token.
variable (normalizeEmail hashToken : String → String)

/-- The user of the e-mail, and whether the call has just created it. -/
def findOrCreateUser (roleId : Id) (inv : OnboardingInvitationDto) (drawn : Drawn) :
    OnboardingProgram (Id × Bool) := do
  let email := normalizeEmail inv.email
  let existing ← query (.findUserByEmail email)
  match existing with
  | some userId => return (userId, false)
  | none => do
    let userId ← query (.createUser
      { email, passwordHash := drawn.passwordHash, firstName := inv.firstName.getD ""
        lastName := inv.lastName.getD "" })
    query (.createUserRole userId roleId)
    return (userId, true)

/-- The membership of the branch, and whether the user had it. -/
def findOrCreateMembership (orgId branchId roleId userId : Id) : OnboardingProgram (Id × Bool) := do
  let existing ← query (.findMembership userId branchId)
  match existing with
  | some membershipId => return (membershipId, true)
  | none => do
    let membershipId ← query
      (.createMembership { userId, organizationId := orgId, branchId, roleId })
    return (membershipId, false)

def inviteOne (orgId branchId : Id) (inv : OnboardingInvitationDto) (drawn : Drawn) :
    OnboardingProgram Invited := do
  let role ← query (.findRole inv.roleName)
  let roleId ← need role (badRequest ("Role \"" ++ inv.roleName ++ "\" not found in system"))
  let email := normalizeEmail inv.email
  let (userId, wasNewUser) ← findOrCreateUser normalizeEmail roleId inv drawn
  let (membershipId, alreadyMember) ← findOrCreateMembership orgId branchId roleId userId
  let now ← query .now
  let expiresAt := now + invitationTtlMs
  query (.expirePending orgId email)
  let invitationId ← query (.createInvitation
    { organizationId := orgId, branchId, roleId, email, firstName := inv.firstName
      lastName := inv.lastName, tokenHash := hashToken drawn.invitationToken, expiresAt
      membershipId := some membershipId, userId := some userId })
  return {
    email, userId, membershipId, branchId, wasNewUser, alreadyMember, invitationId
    invitationToken := drawn.invitationToken
    tempPassword := if wasNewUser then some drawn.tempPassword else none, expiresAt }

def inviteAll (orgId branchId : Id) :
    List (OnboardingInvitationDto × Drawn) → OnboardingProgram (List Invited)
  | [] => return []
  | (inv, drawn) :: rest => do
    let result ← inviteOne normalizeEmail hashToken orgId branchId inv drawn
    let results ← inviteAll orgId branchId rest
    return result :: results

def notInvitable (roleName : String) : HttpError :=
  badRequest ("Role \"" ++ roleName ++ "\" cannot be invited during onboarding. Allowed: " ++
    ", ".intercalate invitableRoles ++ ". Other staff are added later from inside the app.")

/-- The role that must not be invited now, if there is one. -/
def firstNotInvitable (invitations : List (OnboardingInvitationDto × Drawn)) : Option String :=
  (invitations.find? fun inv => !invitableRoles.contains inv.1.roleName).map (·.1.roleName)

def createInvitations (orgId : Id) (invitations : List (OnboardingInvitationDto × Drawn)) :
    OnboardingProgram (List Invited) := do
  ensure (!invitations.isEmpty) (badRequest "At least one invitation is required")
  match firstNotInvitable invitations with
  | some roleName => throw (notInvitable roleName)
  | none => do
    let branch ← query (.findBranch orgId)
    let branchId ← need branch (badRequest
      ("Cannot invite team before the first branch is created. " ++
        "Complete the firstBranchCreated step first."))
    inviteAll normalizeEmail hashToken orgId branchId invitations

def resendInvitation (orgId invitationId : Id) (newToken : String) : OnboardingProgram Reply := do
  let found ← query (.findInvitation invitationId)
  let inv ← need found (notFound "Invitation not found")
  ensure (inv.organizationId == orgId) (forbidden "Invitation belongs to a different organization")
  ensure (inv.status != .accepted) (conflict "Invitation already accepted")
  ensure (inv.status != .revoked) (conflict "Invitation has been revoked")
  let now ← query .now
  let expiresAt := now + invitationTtlMs
  let resendCount ← query (.resend invitationId inv (hashToken newToken) expiresAt)
  return .resent invitationId newToken expiresAt resendCount

def revokeInvitation (orgId invitationId : Id) : OnboardingProgram Reply := do
  let found ← query (.findInvitation invitationId)
  let inv ← need found (notFound "Invitation not found")
  ensure (inv.organizationId == orgId) (forbidden "Invitation belongs to a different organization")
  ensure (inv.status != .accepted) (conflict "Invitation already accepted — cannot revoke")
  if inv.status == .revoked then return .revoked true
  else do
    query (.revoke invitationId inv)
    return .revoked false

structure AcceptInvitationDto where
  invitationToken : String
  /-- The hash of the new password. -/
  passwordHash : String
  firstName : Option String := none
  lastName : Option String := none
  deriving DecidableEq, Repr

/-- The user the invitation is bound to, else the one with its e-mail. -/
def findTarget (invitation : Invitation) : OnboardingProgram (Option Id) :=
  match invitation.userId with
  | some userId => query (.findUser userId)
  | none => query (.findUserByEmail invitation.email)

/-- The update of an acceptance, for an invitation that may still be accepted. -/
def acceptFor (dto : AcceptInvitationDto) (invitationId : Id) (invitation : Invitation) :
    OnboardingProgram Reply := do
  let user ← findTarget invitation
  let userId ← need user (notFound "User attached to invitation no longer exists")
  query (.accept invitationId invitation userId dto.passwordHash dto.firstName dto.lastName)
  return .accepted invitationId userId

def markExpired (invitationId : Id) (invitation : Invitation) : OnboardingProgram Unit :=
  if invitation.status != .expired then query (.expire invitationId invitation) else pure ()

def accept (dto : AcceptInvitationDto) : OnboardingProgram Reply := do
  let found ← query (.findByToken (hashToken dto.invitationToken))
  let (invitationId, invitation) ← need found (notFound "Invitation not found")
  ensure (invitation.status != .accepted) (conflict "Invitation already accepted")
  ensure (invitation.status != .revoked) (conflict "Invitation has been revoked")
  let now ← query .now
  if invitation.expiresAt < now || invitation.status == .expired then do
    markExpired invitationId invitation
    throw (conflict "Invitation has expired")
  else acceptFor dto invitationId invitation

inductive InvitationCall
  | createInvitations (orgId : Id) (invitations : List (OnboardingInvitationDto × Drawn))
  | resendInvitation (orgId invitationId : Id) (newToken : String)
  | revokeInvitation (orgId invitationId : Id)
  | accept (dto : AcceptInvitationDto)
  deriving DecidableEq, Repr

def InvitationCall.program : InvitationCall → OnboardingProgram Reply
  | .createInvitations orgId invitations => do
    let results ← ClientOnboardingService.createInvitations normalizeEmail hashToken orgId
      invitations
    return .invited results
  | .resendInvitation orgId invitationId newToken =>
    ClientOnboardingService.resendInvitation hashToken orgId invitationId newToken
  | .revokeInvitation orgId invitationId =>
    ClientOnboardingService.revokeInvitation orgId invitationId
  | .accept dto => ClientOnboardingService.accept hashToken dto

end

end NimbusPos.ClientOnboardingService
