import NimbusPos.Lib.Serial
import NimbusPos.Staff.Service

/-!
# Generated codes

Employees and contracts are numbered by their count plus one, next to codes that requests supply.
A generated code is free as long as no row takes the number that comes after it.
-/

namespace NimbusPos.Staff

open Lib Lib.Program

-- ---
-- The two series
-- ---

def employeeSerial : Serial Employee Id String where
  group := (·.orgId)
  code := (·.employeeCode)
  format := employeeCode
  injective := padDigits_injective

def contractSerial : Serial EmploymentContract Id String where
  group := (·.orgId)
  code := (·.contractNumber)
  format := contractNumber
  injective := padDigits_injective

/-- An error other than that of a code that is in use. -/
structure NotDuplicate (e : HttpError) : Prop where
  employee : ∀ code, e ≠ duplicateEmployee code
  contract : ∀ code, e ≠ duplicateContract code

/-- The next generated codes are free in every organisation, and a call without a code is not
refused for one that is in use. -/
structure Usable (s : StaffStore) : Prop where
  employees : employeeSerial.Free s.employees
  contracts : contractSerial.Free s.contracts
  createEmployee : ∀ ctx dto, orNull dto.employeeCode = none →
    (createEmployee ctx dto).FailsWith StaffStore.exec NotDuplicate s
  onboard : ∀ normalizeEmail ctx dto drawn, orNull dto.employee.employeeCode = none →
    (onboard normalizeEmail ctx dto drawn).FailsWith StaffStore.exec NotDuplicate s
  createContract : ∀ userId ctx dto, orNull dto.contractNumber = none →
    (createContract userId ctx dto).FailsWith StaffStore.exec NotDuplicate s

-- ---
-- Refusals
-- ---

theorem notDuplicate_of_kind {e : HttpError} (h : e.kind ≠ .conflict) : NotDuplicate e := by
  constructor <;> rintro code rfl <;> exact h rfl

theorem badRequest_notDuplicate (message : String) : NotDuplicate (badRequest message) :=
  notDuplicate_of_kind fun h => by simp [badRequest] at h

/-- The texts of both begin with other letters. -/
theorem notDuplicate_of_head {message : String} {c : Char} (h : message.toList.head? = some c)
    (hemployee : c ≠ 'E') (hcontract : c ≠ 'C') : NotDuplicate (conflict message) := by
  constructor <;> intro code heq <;> obtain rfl := congrArg HttpError.message heq
  · have hhead : (duplicateEmployee code).message.toList.head? = some 'E' := by
      simp [duplicateEmployee, conflict]
    exact hemployee (Option.some.inj (h.symm.trans hhead))
  · have hhead : (duplicateContract code).message.toList.head? = some 'C' := by
      simp [duplicateContract, conflict]
    exact hcontract (Option.some.inj (h.symm.trans hhead))

theorem unlessTaken_error {taken : Bool} {s t : StaffStore} {a : α} {e : HttpError}
    (h : (unlessTaken taken columns s t a).2 = .error e) : NotDuplicate e := by
  cases taken with
  | true =>
    cases h
    exact notDuplicate_of_kind fun h => by simp [uniqueFailed] at h
  | false => cases h

theorem unlessRefused_error {refused : Option HttpError} {s t : StaffStore} {a : α} {e : HttpError}
    (h : (unlessRefused refused s t a).2 = .error e) : refused = some e := by
  cases refused with
  | some other =>
    cases h
    rfl
  | none => cases h

theorem membershipRefused_kind {s : StaffStore} {row : Membership} {e : HttpError}
    (h : s.membershipRefused row = some e) : e.kind ≠ .conflict := by
  unfold StaffStore.membershipRefused at h
  grind [foreignKeyFailed, uniqueFailed]

theorem employeeRefused_kind {s : StaffStore} {row : Employee} {e : HttpError}
    (h : s.employeeRefused row = some e) : e.kind ≠ .conflict := by
  unfold StaffStore.employeeRefused at h
  grind [uniqueFailed]

/-- The database refuses a row with an error of its own. -/
theorem exec_error {s : StaffStore} {k : Statement} {e : HttpError}
    (h : (s.exec k).2 = .error e) : NotDuplicate e := by
  cases k with
  | createBranch row | createUser row | createInvitation row => exact unlessTaken_error h
  | createMembership row cleared =>
    exact notDuplicate_of_kind (membershipRefused_kind (unlessRefused_error h))
  | createEmployee row => exact notDuplicate_of_kind (employeeRefused_kind (unlessRefused_error h))
  | createContract row =>
    have hrefused := unlessRefused_error h
    unfold StaffStore.contractRefused at hrefused
    exact notDuplicate_of_kind (by grind [uniqueFailed])
  | onboard data =>
    have hrefused := unlessRefused_error h
    rw [Onboarding.refused] at hrefused
    split at hrefused
    · cases hrefused
      exact notDuplicate_of_kind fun h => by simp [uniqueFailed] at h
    · rcases Option.or_eq_some_iff.mp hrefused with hmembership | ⟨-, hemployee⟩
      · exact notDuplicate_of_kind (membershipRefused_kind hmembership)
      · exact notDuplicate_of_kind (employeeRefused_kind hemployee)
  | issueQuickPin userId branchId issued =>
    cases issued with
    | some pin => cases h
    | none =>
      cases h
      exact badRequest_notDuplicate _
  | _ => cases h

-- ---
-- Checks
-- ---

abbrev Passes (x : StaffProgram α) : Prop := x.Checks StaffStore.exec NotDuplicate

theorem read_passes {k : Statement} (hsame : ∀ s, (StaffStore.exec s k).1 = s) :
    Passes (query k) :=
  checks_statement hsame fun _ _ => exec_error

theorem checkUser_passes (userId : Option Id) : Passes (checkUser userId) := by
  cases userId with
  | none => exact checks_pure ()
  | some userId =>
    refine checks_bind (read_passes fun _ => rfl) fun user => ?_
    refine checks_bind (checks_ensure (badRequest_notDuplicate _)) fun _ => ?_
    refine checks_bind (read_passes fun _ => rfl) fun linkedEmployee => ?_
    cases linkedEmployee with
    | none => exact checks_pure ()
    | some linked =>
      refine checks_throw (notDuplicate_of_head (c := 'U') (by simp) (by decide) (by decide))

theorem checkPosition_passes (orgId : Id) (positionId : Option Id) :
    Passes (checkPosition orgId positionId) := by
  cases positionId with
  | none => exact checks_pure ()
  | some positionId =>
    refine checks_bind (read_passes fun _ => rfl) fun position => ?_
    exact checks_ensure (badRequest_notDuplicate _)

theorem checkCompensationProfile_passes (orgId : Id) (profileId : Option Id) :
    Passes (checkCompensationProfile orgId profileId) := by
  cases profileId with
  | none => exact checks_pure ()
  | some profileId =>
    refine checks_bind (read_passes fun _ => rfl) fun profile => ?_
    exact checks_ensure (badRequest_notDuplicate _)

theorem checkContract_passes (orgId : Id) (contractId : Option Id) :
    Passes (checkContract orgId contractId) := by
  cases contractId with
  | none => exact checks_pure ()
  | some contractId =>
    refine checks_bind (read_passes fun _ => rfl) fun contract => ?_
    exact checks_ensure (badRequest_notDuplicate _)

theorem checkLoginModes_passes (dto : FrontlineStaffOnboardDto)
    (jobRole : Option QuickPinService.JobRole) : Passes (checkLoginModes dto jobRole) := by
  refine checks_bind (checks_ensure (badRequest_notDuplicate _)) fun _ => ?_
  refine checks_bind (checks_ensure (badRequest_notDuplicate _)) fun _ => ?_
  refine checks_bind (checks_ensure (badRequest_notDuplicate _)) fun _ => ?_
  exact checks_ensure (badRequest_notDuplicate _)

theorem findExistingUser_passes (ctx : BranchContext) (realEmail : Option String) :
    Passes (findExistingUser ctx realEmail) := by
  rw [findExistingUser]
  cases orNull realEmail with
  | none => exact checks_pure none
  | some email =>
    refine checks_bind (read_passes fun _ => rfl) fun existingUser => ?_
    cases existingUser with
    | none => exact checks_pure none
    | some userId =>
      refine checks_bind (read_passes fun _ => rfl) fun memberships => ?_
      refine checks_bind (checks_ensure ?_) fun _ => ?_
      · exact notDuplicate_of_head (c := 'A') (by simp) (by decide) (by decide)
      · refine checks_bind (checks_ensure ?_) fun _ => checks_pure _
        exact notDuplicate_of_head (c := 'U') (by simp) (by decide) (by decide)

theorem issuePin_passes (wanted : Bool) (userId branchId : Id) (drawn : OnboardDrawn) :
    Passes (issuePin wanted userId branchId drawn) := by
  cases wanted with
  | true => exact checks_bind (read_passes fun _ => rfl) fun pin => checks_pure _
  | false => exact checks_pure none

-- ---
-- Calls without a code
-- ---

variable {s : StaffStore}

theorem findEmployeeByCode_run (h : employeeSerial.Free s.employees) (orgId : Id) :
    (query (.findEmployeeByCode orgId (employeeSerial.next s.employees orgId))).run StaffStore.exec
      s =
      (s, .ok none) := by
  have hnone : s.employeeWith orgId (employeeSerial.next s.employees orgId) = none := by
    rw [StaffStore.employeeWith, Option.map_eq_none_iff, Table.findFirst_none]
    intro k row hget
    rw [← Bool.not_eq_true, Bool.and_eq_true, beq_iff_eq, beq_iff_eq]
    exact fun hused => h orgId ⟨k, row, hget, hused⟩
  exact congrArg (fun found => (s, Except.ok found)) hnone

theorem findContractByNumber_run (h : contractSerial.Free s.contracts) (orgId : Id) :
    (query (.findContractByNumber orgId (contractSerial.next s.contracts orgId))).run
      StaffStore.exec s =
      (s, .ok none) := by
  have hnone : s.contractWith orgId (contractSerial.next s.contracts orgId) = none := by
    rw [StaffStore.contractWith, Option.map_eq_none_iff, Table.findFirst_none]
    intro k row hget
    rw [← Bool.not_eq_true, Bool.and_eq_true, beq_iff_eq, beq_iff_eq]
    exact fun hused => h orgId ⟨k, row, hget, hused⟩
  exact congrArg (fun found => (s, Except.ok found)) hnone

theorem resolveEmployeeCode_run (orgId : Id) (hcode : orNull supplied = none) :
    (resolveCode supplied (generateEmployeeCode orgId)).run StaffStore.exec s =
      (s, .ok (employeeSerial.next s.employees orgId)) := by
  rw [resolveCode, hcode]
  rfl

theorem resolveContractNumber_run (orgId : Id) (hcode : orNull supplied = none) :
    (resolveCode supplied (generateContractNumber orgId)).run StaffStore.exec s =
      (s, .ok (contractSerial.next s.contracts orgId)) := by
  rw [resolveCode, hcode]
  rfl

theorem createEmployee_notDuplicate (h : employeeSerial.Free s.employees) (ctx : BranchContext)
    (dto : CreateEmployeeDto) (hcode : orNull dto.employeeCode = none) :
    (createEmployee ctx dto).FailsWith StaffStore.exec NotDuplicate s := by
  refine failsWith_ok (resolveEmployeeCode_run ctx.organizationId hcode) ?_
  refine failsWith_ok (findEmployeeByCode_run h _) ?_
  refine failsWith_ok (run_ensure_ok rfl) ?_
  refine failsWith_then (checkUser_passes _) fun _ => ?_
  refine failsWith_then (checkPosition_passes _ _) fun _ => ?_
  refine failsWith_then (checkCompensationProfile_passes _ _) fun _ => ?_
  refine failsWith_statement (fun _ => exec_error) fun _ => ?_
  exact failsWith_statement (fun _ => exec_error) fun _ => failsWith_pure _

theorem createContract_notDuplicate (h : contractSerial.Free s.contracts) (userId : Id)
    (ctx : BranchContext) (dto : CreateContractDto) (hcode : orNull dto.contractNumber = none) :
    (createContract userId ctx dto).FailsWith StaffStore.exec NotDuplicate s := by
  refine failsWith_then (read_passes fun _ => rfl) fun employee => ?_
  refine failsWith_then (checks_ensure (badRequest_notDuplicate _)) fun _ => ?_
  refine failsWith_ok (resolveContractNumber_run ctx.organizationId hcode) ?_
  refine failsWith_ok (findContractByNumber_run h _) ?_
  refine failsWith_ok (run_ensure_ok rfl) ?_
  refine failsWith_statement (fun _ => exec_error) fun _ => ?_
  exact failsWith_statement (fun _ => exec_error) fun _ => failsWith_pure _

theorem onboard_notDuplicate (h : employeeSerial.Free s.employees)
    (normalizeEmail : String → String) (ctx : BranchContext) (dto : FrontlineStaffOnboardDto)
    (drawn : OnboardDrawn) (hcode : orNull dto.employee.employeeCode = none) :
    (onboard normalizeEmail ctx dto drawn).FailsWith StaffStore.exec NotDuplicate s := by
  refine failsWith_then (read_passes fun _ => rfl) fun found => ?_
  refine failsWith_then (checks_need (badRequest_notDuplicate _)) fun role => ?_
  refine failsWith_then (checkLoginModes_passes _ _) fun _ => ?_
  refine failsWith_then (read_passes fun _ => rfl) fun branch => ?_
  refine failsWith_then (checks_ensure (badRequest_notDuplicate _)) fun _ => ?_
  refine failsWith_then (findExistingUser_passes _ _) fun existingUser => ?_
  refine failsWith_then (checkPosition_passes _ _) fun _ => ?_
  refine failsWith_then (checkCompensationProfile_passes _ _) fun _ => ?_
  refine failsWith_then (checkContract_passes _ _) fun _ => ?_
  refine failsWith_ok (resolveEmployeeCode_run ctx.organizationId hcode) ?_
  refine failsWith_ok (findEmployeeByCode_run h _) ?_
  refine failsWith_ok (run_ensure_ok rfl) ?_
  refine failsWith_statement (fun _ => exec_error) fun rows => ?_
  refine failsWith_then (issuePin_passes _ _ _ _) fun quickPin => ?_
  exact failsWith_statement (fun _ => exec_error) fun _ => failsWith_pure _

theorem usable_iff :
    Usable s ↔ employeeSerial.Free s.employees ∧ contractSerial.Free s.contracts := by
  constructor
  · exact fun h => ⟨h.employees, h.contracts⟩
  · rintro ⟨hemployees, hcontracts⟩
    exact ⟨hemployees, hcontracts, createEmployee_notDuplicate hemployees,
      onboard_notDuplicate hemployees, createContract_notDuplicate hcontracts⟩

-- ---
-- Statements
-- ---

/-- The employee that the statement adds, unless it is refused. -/
def addedEmployee (s : StaffStore) : Statement → Option Employee
  | .createEmployee row => if (s.employeeRefused row).isNone then some row else none
  | .onboard data => if (data.refused s).isNone then some (data.employeeRow s) else none
  | _ => none

def addedContract (s : StaffStore) : Statement → Option EmploymentContract
  | .createContract row => if (s.contractRefused row).isNone then some row else none
  | _ => none

theorem write_tables (data : Onboarding) (s : StaffStore) :
    (data.write s).employees = s.employees.insert (data.employeeRow s) ∧
      (data.write s).contracts = s.contracts := by
  rw [Onboarding.write, Onboarding.withUser]
  split <;> exact ⟨rfl, rfl⟩

theorem exec_employees (s : StaffStore) (k : Statement) :
    (s.exec k).1.employees = (addedEmployee s k).elim s.employees s.employees.insert := by
  cases k with
  | createBranch row | createUser row | createInvitation row =>
    simp only [StaffStore.exec, unlessTaken]
    split <;> rfl
  | createMembership row cleared | createContract row =>
    simp only [StaffStore.exec, unlessRefused]
    split <;> rfl
  | createEmployee row =>
    simp only [StaffStore.exec, addedEmployee, unlessRefused]
    cases s.employeeRefused row <;> rfl
  | onboard data =>
    simp only [StaffStore.exec, addedEmployee, unlessRefused]
    cases data.refused s with
    | some e => rfl
    | none => exact (write_tables data s).1
  | _ => rfl

theorem exec_contracts (s : StaffStore) (k : Statement) :
    (s.exec k).1.contracts = (addedContract s k).elim s.contracts s.contracts.insert := by
  cases k with
  | createBranch row | createUser row | createInvitation row =>
    simp only [StaffStore.exec, unlessTaken]
    split <;> rfl
  | createMembership row cleared | createEmployee row =>
    simp only [StaffStore.exec, unlessRefused]
    split <;> rfl
  | createContract row =>
    simp only [StaffStore.exec, addedContract, unlessRefused]
    cases s.contractRefused row <;> rfl
  | onboard data =>
    simp only [StaffStore.exec, addedContract, unlessRefused]
    cases data.refused s with
    | some e => rfl
    | none => exact (write_tables data s).2
  | _ => rfl

/-- What is added does not use the number that comes after it, nor does what is there. -/
def Fits (s : StaffStore) (k : Statement) : Prop :=
  (∀ row ∈ addedEmployee s k, employeeSerial.Fits s.employees row) ∧
    ∀ row ∈ addedContract s k, contractSerial.Fits s.contracts row

instance (s : StaffStore) (k : Statement) : Decidable (Fits s k) :=
  inferInstanceAs (Decidable (_ ∧ _))

theorem exec_usable_iff (h : Usable s) (k : Statement) : Usable (s.exec k).1 ↔ Fits s k := by
  rw [usable_iff, exec_employees, exec_contracts]
  refine and_congr ?_ ?_
  · cases addedEmployee s k with
    | none => simpa using h.employees
    | some row => simpa using Serial.free_insert_iff h.employees row
  · cases addedContract s k with
    | none => simpa using h.contracts
    | some row => simpa using Serial.free_insert_iff h.contracts row

-- ---
-- Histories
-- ---

inductive HrCall
  | createEmployee (ctx : BranchContext) (dto : CreateEmployeeDto)
  | onboard (ctx : BranchContext) (dto : FrontlineStaffOnboardDto) (drawn : OnboardDrawn)
  | createContract (userId : Id) (ctx : BranchContext) (dto : CreateContractDto)
  deriving DecidableEq, Repr

def HrCall.program (normalizeEmail : String → String) : HrCall → StaffProgram Unit
  | .createEmployee ctx dto => do
    let _ ← Staff.createEmployee ctx dto
  | .onboard ctx dto drawn => do
    let _ ← Staff.onboard normalizeEmail ctx dto drawn
  | .createContract userId ctx dto => do
    let _ ← Staff.createContract userId ctx dto

abbrev HrPool := Pool StaffStore (StaffProgram Unit)

def waits (s : StaffStore) (ms : Nat) : StaffStore := { s with clock := s.clock + ms }

abbrev takeHrTurn : HrPool → Turn → HrPool := Turn.take (fun _ => StaffStore.exec) waits

/-- The calls, none of which has started. -/
def launched (normalizeEmail : String → String) (s : StaffStore) (calls : List HrCall) :
    HrPool where
  shared := s
  threads := calls.map (·.program normalizeEmail)

/-- A first employee with the code of the second. -/
def supplies : HrCall :=
  .createEmployee ⟨0, 0⟩
    { employeeCode := some "EMP-00002", firstName := "Amina", lastName := "Okello", hireDate := 0
      employmentType := .permanent }

def suppliesNone : HrCall :=
  .createEmployee ⟨0, 0⟩
    { firstName := "Brian", lastName := "Mugisha", hireDate := 0, employmentType := .permanent }

theorem empty_usable : Usable {} := by
  refine usable_iff.mpr ⟨?_, ?_⟩ <;> rintro _ ⟨_, _, hget, _⟩ <;> cases hget

end NimbusPos.Staff
