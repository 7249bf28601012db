import NimbusPos.Lib.Program
import NimbusPos.Numbering
import NimbusPos.Staff.Schema

/-!
# Taking on staff

Employees and contracts get a code from the request, or else the number of rows plus one. A member
of the frontline staff is taken on in one call, with a user, a membership and an employee.
-/

namespace NimbusPos.Staff

open Lib Lib.Program
open QuickPinService (IssuedPin JobRole resolveQuickPinTier lowTierRoles)

/-- `a || null` of a text. -/
def orNull (text : Option String) : Option String := text.filter (· != "")

-- ---
-- Codes
-- ---

/-- `EMP-${String(n).padStart(5, '0')}`. -/
def employeeCode (n : Nat) : String := String.ofList ("EMP-".toList ++ padDigits 5 n)

/-- `CTR-${String(n).padStart(5, '0')}`. -/
def contractNumber (n : Nat) : String := String.ofList ("CTR-".toList ++ padDigits 5 n)

def generateEmployeeCode (orgId : Id) : StaffProgram String := do
  let count ← query (.countEmployees orgId)
  return employeeCode (count + 1)

def generateContractNumber (orgId : Id) : StaffProgram String := do
  let count ← query (.countContracts orgId)
  return contractNumber (count + 1)

/-- The code of the request, or else a generated one. -/
def resolveCode (supplied : Option String) (generated : StaffProgram String) :
    StaffProgram String :=
  match orNull supplied with
  | some code => return code
  | none => generated

def duplicateEmployee (employeeCode : String) : HttpError :=
  conflict ("Employee code \"" ++ employeeCode ++ "\" already exists in this organization")

def duplicateContract (contractNumber : String) : HttpError :=
  conflict ("Contract number \"" ++ contractNumber ++ "\" already exists in this organization")

-- ---
-- Employees
-- ---

structure CreateEmployeeDto where
  employeeCode : Option String := none
  firstName : String
  lastName : String
  phone : Option String := none
  email : Option String := none
  hireDate : Time
  employmentType : EmploymentType
  status : Option EmployeeStatus := none
  userId : Option Id := none
  positionId : Option Id := none
  compensationProfileId : Option Id := none
  deriving DecidableEq, Repr

def checkUser (userId : Option Id) : StaffProgram Unit :=
  match userId with
  | none => return ()
  | some userId => do
    let user ← query (.findUser userId)
    ensure user.isSome (badRequest ("User \"" ++ toString userId ++ "\" not found"))
    let linkedEmployee ← query (.findEmployeeOf userId)
    match linkedEmployee with
    | none => return ()
    | some linked =>
      throw (conflict ("User \"" ++ toString userId ++ "\" is already linked to employee \"" ++
        linked.employeeCode ++ "\""))

def checkPosition (orgId : Id) (positionId : Option Id) : StaffProgram Unit :=
  match positionId with
  | none => return ()
  | some positionId => do
    let position ← query (.findPosition positionId)
    ensure (position == some orgId)
      (badRequest ("Position \"" ++ toString positionId ++ "\" not found in this organization"))

def checkCompensationProfile (orgId : Id) (profileId : Option Id) : StaffProgram Unit :=
  match profileId with
  | none => return ()
  | some profileId => do
    let profile ← query (.findCompensationProfile profileId)
    ensure (profile == some orgId)
      (badRequest ("Compensation profile \"" ++ toString profileId ++
        "\" not found in this organization"))

def employeeRow (ctx : BranchContext) (employeeCode : String) (dto : CreateEmployeeDto) :
    Employee :=
  { orgId := ctx.organizationId, branchId := ctx.branchId, userId := dto.userId, employeeCode
    firstName := dto.firstName, lastName := dto.lastName, phone := dto.phone, email := dto.email
    hireDate := dto.hireDate, status := dto.status.getD .active
    employmentType := dto.employmentType, positionId := dto.positionId
    compensationProfileId := dto.compensationProfileId }

def createEmployee (ctx : BranchContext) (dto : CreateEmployeeDto) : StaffProgram Id := do
  let orgId := ctx.organizationId
  let employeeCode ← resolveCode dto.employeeCode (generateEmployeeCode orgId)
  let existing ← query (.findEmployeeByCode orgId employeeCode)
  ensure existing.isNone (duplicateEmployee employeeCode)
  checkUser dto.userId
  checkPosition orgId dto.positionId
  checkCompensationProfile orgId dto.compensationProfileId
  let employeeId ← query (.createEmployee (employeeRow ctx employeeCode dto))
  query (.log 0)
  return employeeId

-- ---
-- Contracts
-- ---

structure CreateContractDto where
  employeeId : Id
  contractNumber : Option String := none
  contractStatus : Option ContractStatus := none
  startsAt : Time
  endsAt : Option Time := none
  salaryBasis : SalaryBasis
  salaryAmount : Option Cents := none
  deriving DecidableEq, Repr

def contractRow (userId : Id) (ctx : BranchContext) (contractNumber : String)
    (dto : CreateContractDto) : EmploymentContract :=
  { orgId := ctx.organizationId, branchId := ctx.branchId, employeeId := dto.employeeId
    contractNumber, contractStatus := dto.contractStatus.getD .draft, startsAt := dto.startsAt
    endsAt := dto.endsAt, salaryBasis := dto.salaryBasis, salaryAmount := dto.salaryAmount
    createdById := userId }

def createContract (userId : Id) (ctx : BranchContext) (dto : CreateContractDto) :
    StaffProgram Id := do
  let orgId := ctx.organizationId
  let employee ← query (.findEmployee dto.employeeId)
  ensure (employee.any (·.orgId == orgId))
    (badRequest ("Employee \"" ++ toString dto.employeeId ++ "\" not found in this organization"))
  let contractNumber ← resolveCode dto.contractNumber (generateContractNumber orgId)
  let existing ← query (.findContractByNumber orgId contractNumber)
  ensure existing.isNone (duplicateContract contractNumber)
  let contractId ← query (.createContract (contractRow userId ctx contractNumber dto))
  query (.log 0)
  return contractId

-- ---
-- Frontline staff
-- ---

structure FrontlineEmployeeDto where
  employeeCode : Option String := none
  hireDate : Time
  employmentType : EmploymentType
  positionId : Option Id := none
  contractId : Option Id := none
  compensationProfileId : Option Id := none
  deriving DecidableEq, Repr

structure FrontlineStaffOnboardDto where
  email : Option String := none
  firstName : String
  lastName : String
  phone : String
  roleName : String
  issueQuickPin : Option Bool := none
  enablePasswordLogin : Option Bool := none
  temporaryPassword : Option String := none
  employee : FrontlineEmployeeDto
  deriving DecidableEq, Repr

/-- What a call draws: the made-up part of an e-mail, the hash of the password, and the answer to
the issue of a PIN. The role makes the new user eligible for one, so that only the search for a
free PIN may fail. -/
structure OnboardDrawn where
  randomHex : String := ""
  passwordHash : String := ""
  issued : Option IssuedPin := none
  deriving DecidableEq, Repr

def syntheticEmailDomain : String := "nimbus.pin.local"

/-- The frontline roles, those of the low tier. -/
def isFrontlinePinFirstRole (jobRole : Option JobRole) : Bool :=
  jobRole.any fun jobRole => lowTierRoles.contains jobRole

inductive AuthMode
  | pinOnly
  | pinPlusPassword
  | passwordOnly
  deriving DecidableEq, Repr

structure Onboarded where
  authMode : AuthMode
  userId : Id
  membershipId : Id
  employeeId : Id
  wasNewUser : Bool
  quickPin : Option IssuedPin
  deriving DecidableEq, Repr

namespace FrontlineStaffOnboardDto

variable (dto : FrontlineStaffOnboardDto)

def passwordLogin : Bool := dto.enablePasswordLogin == some true

def wantsQuickPin (jobRole : Option JobRole) : Bool :=
  dto.issueQuickPin.getD (isFrontlinePinFirstRole jobRole)

end FrontlineStaffOnboardDto

def checkLoginModes (dto : FrontlineStaffOnboardDto) (jobRole : Option JobRole) :
    StaffProgram Unit := do
  ensure (!dto.passwordLogin || (orNull dto.email).isSome)
    (badRequest "email is required when enablePasswordLogin=true")
  ensure (!dto.passwordLogin || (orNull dto.temporaryPassword).isSome)
    (badRequest "temporaryPassword is required when enablePasswordLogin=true")
  ensure (dto.passwordLogin || dto.wantsQuickPin jobRole)
    (badRequest "At least one login mode must be enabled (issueQuickPin or enablePasswordLogin)")
  ensure (!dto.wantsQuickPin jobRole || (jobRole.bind resolveQuickPinTier).isSome)
    (badRequest ("Role \"" ++ dto.roleName ++ "\" is not eligible for Quick PIN login"))

/-- The user of the e-mail, who must belong to the organisation alone and not to the branch. -/
def findExistingUser (ctx : BranchContext) (realEmail : Option String) :
    StaffProgram (Option Id) :=
  match orNull realEmail with
  | none => return none
  | some email => do
    let existingUser ← query (.findUserByEmail email)
    match existingUser with
    | none => return none
    | some userId => do
      let memberships ← query (.findMembershipsOf userId)
      ensure (memberships.all (·.organizationId == ctx.organizationId))
        (conflict "A user with this email already belongs to another organization")
      ensure (memberships.all (·.branchId != ctx.branchId))
        (conflict ("User already has a membership in this branch — " ++
          "use HR endpoints to update"))
      return some userId

def checkContract (orgId : Id) (contractId : Option Id) : StaffProgram Unit :=
  match contractId with
  | none => return ()
  | some contractId => do
    let contract ← query (.findContract contractId)
    ensure (contract.any (·.orgId == orgId))
      (badRequest ("Contract \"" ++ toString contractId ++ "\" not found in this organization"))

def issuePin (wanted : Bool) (userId branchId : Id) (drawn : OnboardDrawn) :
    StaffProgram (Option IssuedPin) :=
  if wanted then do
    let pin ← query (.issueQuickPin userId branchId drawn.issued)
    return some pin
  else return none

section

-- `email?.toLowerCase().trim()`.
variable (normalizeEmail : String → String)

def FrontlineStaffOnboardDto.realEmail (dto : FrontlineStaffOnboardDto) : Option String :=
  dto.email.map normalizeEmail

/-- What the transaction is to write. -/
def onboarding (ctx : BranchContext) (dto : FrontlineStaffOnboardDto) (drawn : OnboardDrawn)
    (roleId : Id) (existingUser : Option Id) (employeeCode : String) : Onboarding :=
  { existingUser, roleId, orgId := ctx.organizationId, branchId := ctx.branchId
    user :=
      { email := (dto.realEmail normalizeEmail).getD
          ("pin-" ++ drawn.randomHex ++ "@" ++ syntheticEmailDomain)
        passwordHash := drawn.passwordHash, firstName := dto.firstName, lastName := dto.lastName
        isActive := true, mustChangePassword := dto.passwordLogin }
    employee :=
      { orgId := ctx.organizationId, branchId := ctx.branchId, employeeCode
        firstName := dto.firstName, lastName := dto.lastName, phone := some dto.phone
        email := dto.realEmail normalizeEmail, hireDate := dto.employee.hireDate, status := .active
        employmentType := dto.employee.employmentType, positionId := dto.employee.positionId
        compensationProfileId := dto.employee.compensationProfileId } }

def onboard (ctx : BranchContext) (dto : FrontlineStaffOnboardDto) (drawn : OnboardDrawn) :
    StaffProgram Onboarded := do
  let orgId := ctx.organizationId
  let found ← query (.findRoleNamed dto.roleName)
  let (roleId, role) ← need (found.filter (·.2.isActive))
    (badRequest ("Role \"" ++ dto.roleName ++ "\" not found"))
  checkLoginModes dto role.jobRole
  let branch ← query (.findBranch ctx.branchId)
  ensure (branch.any (·.organizationId == orgId))
    (badRequest "Branch context does not belong to your organization")
  let existingUser ← findExistingUser ctx (dto.realEmail normalizeEmail)
  checkPosition orgId dto.employee.positionId
  checkCompensationProfile orgId dto.employee.compensationProfileId
  checkContract orgId dto.employee.contractId
  let employeeCode ← resolveCode dto.employee.employeeCode (generateEmployeeCode orgId)
  let codeExists ← query (.findEmployeeByCode orgId employeeCode)
  ensure codeExists.isNone (duplicateEmployee employeeCode)
  let rows ← query (.onboard
    (onboarding normalizeEmail ctx dto drawn roleId existingUser employeeCode))
  let quickPin ← issuePin (dto.wantsQuickPin role.jobRole) rows.userId ctx.branchId drawn
  query (.log 0)
  return {
    userId := rows.userId, membershipId := rows.membershipId, employeeId := rows.employeeId
    wasNewUser := existingUser.isNone, quickPin
    authMode := if quickPin.isSome then
      if dto.passwordLogin then .pinPlusPassword else .pinOnly
    else .passwordOnly }

end

end NimbusPos.Staff
