import Mathlib.Data.List.MinMax
import NimbusPos.Auth.QuickPin
import NimbusPos.ClientOnboarding.Invitations

/-!
# Staff

Users with their memberships of branches, and the employees of an organisation with their
contracts. The transaction that takes on a new member of staff is one statement.
-/

namespace NimbusPos.Staff

open Lib
open ClientOnboardingService (Invitation)
open QuickPinService (JobRole IssuedPin)

-- ---
-- Rows
-- ---

inductive EmployeeStatus
  | active
  | onLeave
  | suspended
  | terminated
  deriving DecidableEq, Repr

inductive EmploymentType
  | permanent
  | temporary
  | casual
  | contractor
  deriving DecidableEq, Repr

inductive ContractStatus
  | draft
  | active
  | ended
  | terminated
  deriving DecidableEq, Repr

inductive SalaryBasis
  | monthly
  | daily
  | hourly
  | shift
  | other
  deriving DecidableEq, Repr

inductive MembershipStatus
  | active
  | inactive
  | suspended
  deriving DecidableEq, Repr

abbrev User := ClientOnboardingService.User

structure Role where
  name : String
  jobRole : Option JobRole := none
  isActive : Bool := true
  deriving DecidableEq, Repr

structure Branch where
  organizationId : Id
  name : String
  code : Option String := none
  isActive : Bool := true
  createdAt : Time := 0
  deriving DecidableEq, Repr

structure Subscription where
  orgId : Id
  cancelled : Bool := false
  maxBranches : Nat
  deriving DecidableEq, Repr

structure UserRole where
  userId : Id
  roleId : Id
  orgId : Option Id := none
  branchId : Option Id := none
  deriving DecidableEq, Repr

structure Membership where
  userId : Id
  organizationId : Id
  branchId : Id
  roleId : Id
  status : MembershipStatus := .active
  isDefaultBranch : Bool := false
  deriving DecidableEq, Repr

structure Employee where
  orgId : Id
  branchId : Id
  userId : Option Id := none
  employeeCode : String
  firstName : String
  lastName : String
  phone : Option String := none
  email : Option String := none
  hireDate : Time
  status : EmployeeStatus := .active
  employmentType : EmploymentType
  positionId : Option Id := none
  compensationProfileId : Option Id := none
  deriving DecidableEq, Repr

structure EmploymentContract where
  orgId : Id
  branchId : Id
  employeeId : Id
  contractNumber : String
  contractStatus : ContractStatus := .draft
  startsAt : Time
  endsAt : Option Time := none
  salaryBasis : SalaryBasis
  salaryAmount : Option Cents := none
  createdById : Id
  deriving DecidableEq, Repr

structure StaffStore where
  clock : Time := 0
  /-- Their names. -/
  organizations : Table String := .empty
  subscriptions : Table Subscription := .empty
  branches : Table Branch := .empty
  roles : Table Role := .empty
  users : Table User := .empty
  userRoles : Table UserRole := .empty
  memberships : Table Membership := .empty
  invitations : Table Invitation := .empty
  employees : Table Employee := .empty
  contracts : Table EmploymentContract := .empty
  /-- The organisation of a position, and that of a compensation profile. -/
  positions : Table Id := .empty
  compensationProfiles : Table Id := .empty

-- ---
-- Statements
-- ---

/-- What the transaction of an onboarding writes: the user unless there is one, the role, the
membership and the employee. -/
structure Onboarding where
  existingUser : Option Id
  user : User
  roleId : Id
  orgId : Id
  branchId : Id
  employee : Employee
  deriving DecidableEq, Repr

structure OnboardedRows where
  userId : Id
  membershipId : Id
  employeeId : Id
  deriving DecidableEq, Repr

/-- With what comes after a clearing of defaults goes the number of rows that it changed, and with
the issue of a PIN what its service answers. -/
inductive Statement
  | now
  | findOrganization (orgId : Id)
  | findSubscription (orgId : Id)
  | countBranches (orgId : Id)
  | findBranchByCode (orgId : Id) (code : String)
  | createBranch (row : Branch)
  | findBranch (branchId : Id)
  | findFirstBranch (orgId : Id)
  | findRole (roleId : Id)
  | findRoleNamed (name : String)
  | findOwnerRole
  | findUser (userId : Id)
  | findUserByEmail (email : String)
  | createUser (row : User)
  | createUserRole (row : UserRole)
  | findMembership (userId branchId : Id)
  | findActiveMembership (userId : Id)
  | findMembershipsOf (userId : Id)
  | clearDefaults (userId orgId : Id)
  | createMembership (row : Membership) (cleared : Nat)
  | expirePending (orgId : Id) (email : String)
  | createInvitation (row : Invitation)
  | countEmployees (orgId : Id)
  | findEmployee (employeeId : Id)
  | findEmployeeByCode (orgId : Id) (employeeCode : String)
  | findEmployeeOf (userId : Id)
  | createEmployee (row : Employee)
  | findPosition (positionId : Id)
  | findCompensationProfile (compensationProfileId : Id)
  | countContracts (orgId : Id)
  | findContract (contractId : Id)
  | findContractByNumber (orgId : Id) (contractNumber : String)
  | createContract (row : EmploymentContract)
  | onboard (data : Onboarding)
  | issueQuickPin (userId branchId : Id) (issued : Option IssuedPin)
  | log (cleared : Nat)
  deriving DecidableEq, Repr

abbrev Statement.Answer : Statement → Type
  | .now => Time
  | .findOrganization _ => Option String
  | .findSubscription _ => Option Subscription
  | .countBranches _ | .countEmployees _ | .countContracts _ | .clearDefaults .. => Nat
  | .findBranch _ => Option Branch
  | .findBranchByCode .. | .findFirstBranch _ | .findOwnerRole | .findUserByEmail _
  | .findMembership .. | .findActiveMembership _ => Option Id
  | .findRole _ => Option Role
  | .findRoleNamed _ => Option (Id × Role)
  | .findUser _ => Option User
  | .findMembershipsOf _ => List Membership
  | .createBranch _ | .createUser _ | .createMembership .. | .createInvitation _
  | .createEmployee _ | .createContract _ => Id
  | .findEmployee _ | .findEmployeeByCode .. | .findEmployeeOf _ => Option Employee
  | .findPosition _ | .findCompensationProfile _ => Option Id
  | .findContract _ | .findContractByNumber .. => Option EmploymentContract
  | .onboard _ => OnboardedRows
  | .issueQuickPin .. => IssuedPin
  | .createUserRole _ | .expirePending .. | .log _ => Unit

def foreignKeyFailed (column : String) : HttpError :=
  { kind := .internalServerError, message := "Foreign key constraint failed on " ++ column }

namespace StaffStore

variable (s : StaffStore)

def codeOf (orgId : Id) (code : String) : Option Id :=
  (s.branches.findFirst fun _ branch =>
    branch.organizationId == orgId && branch.code == some code).map (·.1)

/-- `orderBy: { createdAt: 'asc' }`. -/
def firstBranch (orgId : Id) : Option Id :=
  ((s.branches.findMany fun _ branch => branch.organizationId == orgId && branch.isActive).argmin
    (·.2.createdAt)).map (·.1)

def userOf (email : String) : Option Id :=
  (s.users.findFirst fun _ user => user.email == email).map (·.1)

/-- `findUnique({ where: { userId_branchId } })`. -/
def membershipOf (userId branchId : Id) : Option Id :=
  (s.memberships.findFirst fun _ row => row.userId == userId && row.branchId == branchId).map (·.1)

/-- `findUnique({ where: { orgId_employeeCode } })`. -/
def employeeWith (orgId : Id) (employeeCode : String) : Option Employee :=
  (s.employees.findFirst fun _ row => row.orgId == orgId && row.employeeCode == employeeCode).map
    (·.2)

def employeeOf (userId : Id) : Option Employee :=
  (s.employees.findFirst fun _ row => row.userId == some userId).map (·.2)

/-- `findUnique({ where: { orgId_contractNumber } })`. -/
def contractWith (orgId : Id) (contractNumber : String) : Option EmploymentContract :=
  (s.contracts.findFirst fun _ row =>
    row.orgId == orgId && row.contractNumber == contractNumber).map (·.2)

/-- The default memberships of the user in the organisation. -/
def isDefaultOf (userId orgId : Id) (row : Membership) : Bool :=
  row.userId == userId && row.organizationId == orgId && row.isDefaultBranch

def addMembership (row : Membership) : StaffStore :=
  { s with memberships := s.memberships.insert row }

/-- A user, a branch or a role is missing, or the user has a membership of the branch. -/
def membershipRefused (row : Membership) : Option HttpError :=
  if (s.users.get? row.userId).isNone then some (foreignKeyFailed "user_id")
  else if (s.branches.get? row.branchId).isNone then some (foreignKeyFailed "branch_id")
  else if (s.roles.get? row.roleId).isNone then some (foreignKeyFailed "role_id")
  else if (s.membershipOf row.userId row.branchId).isSome then
    some (uniqueFailed "(user_id,branch_id)")
  else none

/-- The user has an employee, or the code is taken in the organisation. -/
def employeeRefused (row : Employee) : Option HttpError :=
  if row.userId.any fun userId => (s.employeeOf userId).isSome then some (uniqueFailed "(user_id)")
  else if (s.employeeWith row.orgId row.employeeCode).isSome then
    some (uniqueFailed "(org_id,employee_code)")
  else none

def contractRefused (row : EmploymentContract) : Option HttpError :=
  if (s.contractWith row.orgId row.contractNumber).isSome then
    some (uniqueFailed "(org_id,contract_number)")
  else none

end StaffStore

namespace Onboarding

variable (data : Onboarding)

def userId (s : StaffStore) : Id := data.existingUser.getD s.users.next

/-- A new user is at home in the branch. -/
def membership (s : StaffStore) : Membership :=
  { userId := data.userId s, organizationId := data.orgId, branchId := data.branchId
    roleId := data.roleId, status := .active, isDefaultBranch := data.existingUser.isNone }

def employeeRow (s : StaffStore) : Employee := { data.employee with userId := some (data.userId s) }

def userRole (s : StaffStore) : UserRole :=
  { userId := data.userId s, roleId := data.roleId, orgId := some data.orgId
    branchId := some data.branchId }

def withUser (s : StaffStore) : StaffStore :=
  match data.existingUser with
  | some _ => s
  | none => { s with users := s.users.insert data.user }

/-- One of the rows is refused. -/
def refused (s : StaffStore) : Option HttpError :=
  if data.existingUser.isNone && (s.userOf data.user.email).isSome then
    some (uniqueFailed "(email)")
  else ((data.withUser s).membershipRefused (data.membership s)).or
    (s.employeeRefused (data.employeeRow s))

/-- The role is idempotent on the user, the organisation and the branch. -/
def write (s : StaffStore) : StaffStore :=
  { data.withUser s with
    userRoles :=
      if (s.userRoles.findFirst fun _ row => row == data.userRole s).isSome then s.userRoles
      else s.userRoles.insert (data.userRole s)
    memberships := s.memberships.insert (data.membership s)
    employees := s.employees.insert (data.employeeRow s) }

def rows (s : StaffStore) : OnboardedRows :=
  { userId := data.userId s, membershipId := s.memberships.next, employeeId := s.employees.next }

end Onboarding

def noFreePin : HttpError :=
  badRequest "Unable to generate a unique PIN after maximum attempts. Please try again."

/-- What is written unless it is refused. -/
def unlessRefused {α : Type} (refused : Option HttpError) (s t : StaffStore) (a : α) :
    StaffStore × Except HttpError α :=
  match refused with
  | some e => (s, .error e)
  | none => (t, .ok a)

def StaffStore.exec (s : StaffStore) : (k : Statement) → StaffStore × Except HttpError k.Answer
  | .now => (s, .ok s.clock)
  | .findOrganization orgId => (s, .ok (s.organizations.get? orgId))
  | .findSubscription orgId =>
    (s, .ok ((s.subscriptions.findFirst fun _ row => row.orgId == orgId).map (·.2)))
  | .countBranches orgId =>
    (s, .ok (s.branches.count fun _ branch => branch.organizationId == orgId && branch.isActive))
  | .findBranchByCode orgId code => (s, .ok (s.codeOf orgId code))
  | .createBranch row =>
    unlessTaken (row.code.any fun code => (s.codeOf row.organizationId code).isSome)
      "(organization_id,code)" s
      { s with branches := s.branches.insert { row with createdAt := s.clock } } s.branches.next
  | .findBranch branchId => (s, .ok (s.branches.get? branchId))
  | .findFirstBranch orgId => (s, .ok (s.firstBranch orgId))
  | .findRole roleId => (s, .ok (s.roles.get? roleId))
  | .findRoleNamed name => (s, .ok (s.roles.findFirst fun _ role => role.name == name))
  | .findOwnerRole =>
    (s, .ok ((s.roles.findFirst fun _ role => role.jobRole == some .owner).map (·.1)))
  | .findUser userId => (s, .ok (s.users.get? userId))
  | .findUserByEmail email => (s, .ok (s.userOf email))
  | .createUser row =>
    unlessTaken (s.userOf row.email).isSome "(email)" s { s with users := s.users.insert row }
      s.users.next
  | .createUserRole row => ({ s with userRoles := s.userRoles.insert row }, .ok ())
  | .findMembership userId branchId => (s, .ok (s.membershipOf userId branchId))
  | .findActiveMembership userId =>
    (s, .ok ((s.memberships.findFirst fun _ row =>
      row.userId == userId && row.status == .active).map (·.1)))
  | .findMembershipsOf userId =>
    (s, .ok ((s.memberships.findMany fun _ row => row.userId == userId).map (·.2)))
  | .clearDefaults userId orgId =>
    ({ s with
      memberships := s.memberships.updateWhere (fun _ row => isDefaultOf userId orgId row)
        fun row => { row with isDefaultBranch := false } },
      .ok (s.memberships.count fun _ row => isDefaultOf userId orgId row))
  | .createMembership row _ =>
    unlessRefused (s.membershipRefused row) s (s.addMembership row) s.memberships.next
  | .expirePending orgId email =>
    ({ s with
      invitations := s.invitations.updateWhere
        (fun _ inv => inv.organizationId == orgId && inv.email == email && inv.status == .pending)
        fun inv => { inv with status := .expired } }, .ok ())
  | .createInvitation row =>
    unlessTaken (s.invitations.findFirst fun _ inv => inv.tokenHash == row.tokenHash).isSome
      "(token_hash)" s { s with invitations := s.invitations.insert row } s.invitations.next
  | .countEmployees orgId => (s, .ok (s.employees.count fun _ row => row.orgId == orgId))
  | .findEmployee employeeId => (s, .ok (s.employees.get? employeeId))
  | .findEmployeeByCode orgId employeeCode => (s, .ok (s.employeeWith orgId employeeCode))
  | .findEmployeeOf userId => (s, .ok (s.employeeOf userId))
  | .createEmployee row =>
    unlessRefused (s.employeeRefused row) s { s with employees := s.employees.insert row }
      s.employees.next
  | .findPosition positionId => (s, .ok (s.positions.get? positionId))
  | .findCompensationProfile id => (s, .ok (s.compensationProfiles.get? id))
  | .countContracts orgId => (s, .ok (s.contracts.count fun _ row => row.orgId == orgId))
  | .findContract contractId => (s, .ok (s.contracts.get? contractId))
  | .findContractByNumber orgId contractNumber => (s, .ok (s.contractWith orgId contractNumber))
  | .createContract row =>
    unlessRefused (s.contractRefused row) s { s with contracts := s.contracts.insert row }
      s.contracts.next
  | .onboard data => unlessRefused (data.refused s) s (data.write s) (data.rows s)
  | .issueQuickPin _ _ issued =>
    (s, match issued with
      | some pin => .ok pin
      | none => .error noFreePin)
  | .log _ => (s, .ok ())

abbrev StaffProgram := Program Statement Statement.Answer HttpError

abbrev query (k : Statement) : StaffProgram k.Answer := Program.statement k

end NimbusPos.Staff
