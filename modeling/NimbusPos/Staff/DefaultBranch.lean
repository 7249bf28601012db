import NimbusPos.Lib.Failures
import NimbusPos.Staff.Codes
import NimbusPos.Staff.Service

/-!
# Memberships

A membership of a branch comes from an administrator, from the creation of the branch, from an
invitation of the core team, or with a new member of the frontline staff. One membership of an
organisation may be the user's default.
-/

namespace NimbusPos.Staff

open Lib Lib.Program
open ClientOnboardingService (OnboardingInvitationDto Drawn Invited)

-- ---
-- Tenancy
-- ---

structure CreateMembershipDto where
  userId : Id
  roleId : Id
  isDefaultBranch : Option Bool := none
  deriving DecidableEq, Repr

/-- Unset any other default for this user in this organisation. -/
def clearDefaults (orgId : Id) (dto : CreateMembershipDto) : StaffProgram Nat :=
  if dto.isDefaultBranch == some true then query (.clearDefaults dto.userId orgId) else return 0

def membershipRow (orgId branchId : Id) (dto : CreateMembershipDto) : Membership :=
  { userId := dto.userId, organizationId := orgId, branchId, roleId := dto.roleId
    isDefaultBranch := dto.isDefaultBranch.getD false }

def createMembership (orgId branchId : Id) (dto : CreateMembershipDto) : StaffProgram Id := do
  let branch ← query (.findBranch branchId)
  ensure (branch.any (·.organizationId == orgId)) (notFound "Branch not found in this organization")
  let targetUser ← query (.findUser dto.userId)
  ensure targetUser.isSome (notFound "User not found")
  let role ← query (.findRole dto.roleId)
  ensure role.isSome (notFound "Role not found")
  let existing ← query (.findMembership dto.userId branchId)
  ensure existing.isNone (conflict "User already has a membership in this branch")
  let cleared ← clearDefaults orgId dto
  let membershipId ← query (.createMembership (membershipRow orgId branchId dto) cleared)
  query (.log cleared)
  return membershipId

structure CreateBranchDto where
  name : String
  code : Option String := none
  deriving DecidableEq, Repr

def checkPlanLimit (subscription : Subscription) : StaffProgram Unit := do
  ensure (!subscription.cancelled)
    (forbidden "Subscription is cancelled. Cannot create resources.")
  let count ← query (.countBranches subscription.orgId)
  if subscription.maxBranches ≤ count then do
    query (.log 0)
    throw { kind := .conflict, code := "PLAN_LOCATION_LIMIT_REACHED"
            message := "Location limit reached (" ++ toString count ++ "/" ++
              toString subscription.maxBranches ++
              "). Upgrade your plan to add another location." }
  else return ()

/-- Without a subscription nothing is enforced. -/
def enforceLocationCap (orgId : Id) : StaffProgram Unit := do
  let hasSubscription ← query (.findSubscription orgId)
  match hasSubscription with
  | some subscription => checkPlanLimit subscription
  | none => return ()

def checkBranchCode (orgId : Id) (code : Option String) : StaffProgram Unit :=
  match orNull code with
  | some code => do
    let existing ← query (.findBranchByCode orgId code)
    ensure existing.isNone (conflict "Branch code already used in this organization")
  | none => return ()

/-- A membership for the actor, so that they can access the branch at once. -/
def joinBranch (orgId branchId actorUserId : Id) : StaffProgram Unit := do
  let ownerRole ← query .findOwnerRole
  match ownerRole with
  | none => return ()
  | some roleId => do
    let existingMembership ← query (.findActiveMembership actorUserId)
    let _ ← query (.createMembership
      { userId := actorUserId, organizationId := orgId, branchId, roleId, status := .active
        isDefaultBranch := existingMembership.isNone } 0)

def createBranch (orgId actorUserId : Id) (dto : CreateBranchDto) : StaffProgram Id := do
  let org ← query (.findOrganization orgId)
  ensure org.isSome (notFound "Organization not found")
  enforceLocationCap orgId
  checkBranchCode orgId dto.code
  let branchId ← query (.createBranch { organizationId := orgId, name := dto.name, code := dto.code })
  joinBranch orgId branchId actorUserId
  query (.log 0)
  return branchId

-- ---
-- Invitations
-- ---

section

-- `email.toLowerCase().trim()` and the digest of a token.
variable (normalizeEmail hashToken : String → String)

/-- The user of the e-mail, and whether the call has just created it. -/
def findOrCreateUser (roleId : Id) (inv : OnboardingInvitationDto) (drawn : Drawn) :
    StaffProgram (Id × Bool) := do
  let email := normalizeEmail inv.email
  let existing ← query (.findUserByEmail email)
  match existing with
  | some userId => return (userId, false)
  | none => do
    let userId ← query (.createUser
      { email, passwordHash := drawn.passwordHash, firstName := inv.firstName.getD ""
        lastName := inv.lastName.getD "" })
    query (.createUserRole { userId, roleId })
    return (userId, true)

/-- The membership of the branch, and whether the user had it. A new one is always a default. -/
def findOrCreateMembership (orgId branchId roleId userId : Id) : StaffProgram (Id × Bool) := do
  let existing ← query (.findMembership userId branchId)
  match existing with
  | some membershipId => return (membershipId, true)
  | none => do
    let membershipId ← query (.createMembership
      { userId, organizationId := orgId, branchId, roleId, status := .active
        isDefaultBranch := true } 0)
    return (membershipId, false)

def inviteOne (orgId branchId : Id) (inv : OnboardingInvitationDto) (drawn : Drawn) :
    StaffProgram Invited := do
  let found ← query (.findRoleNamed inv.roleName)
  let (roleId, _) ← need found (badRequest ("Role \"" ++ inv.roleName ++ "\" not found in system"))
  let email := normalizeEmail inv.email
  let (userId, wasNewUser) ← findOrCreateUser normalizeEmail roleId inv drawn
  let (membershipId, alreadyMember) ← findOrCreateMembership orgId branchId roleId userId
  let now ← query .now
  let expiresAt := now + ClientOnboardingService.invitationTtlMs
  query (.expirePending orgId email)
  let invitationId ← query (.createInvitation
    { organizationId := orgId, branchId, roleId, email, firstName := inv.firstName
      lastName := inv.lastName, tokenHash := hashToken drawn.invitationToken, expiresAt
      membershipId := some membershipId, userId := some userId })
  query (.log 0)
  return {
    email, userId, membershipId, branchId, wasNewUser, alreadyMember, invitationId
    invitationToken := drawn.invitationToken
    tempPassword := if wasNewUser then some drawn.tempPassword else none, expiresAt }

def inviteAll (orgId branchId : Id) :
    List (OnboardingInvitationDto × Drawn) → StaffProgram (List Invited)
  | [] => return []
  | (inv, drawn) :: rest => do
    let result ← inviteOne normalizeEmail hashToken orgId branchId inv drawn
    let results ← inviteAll orgId branchId rest
    return result :: results

def createInvitations (orgId : Id) (invitations : List (OnboardingInvitationDto × Drawn)) :
    StaffProgram (List Invited) := do
  ensure (!invitations.isEmpty) (badRequest "At least one invitation is required")
  match ClientOnboardingService.firstNotInvitable invitations with
  | some roleName => throw (ClientOnboardingService.notInvitable roleName)
  | none => do
    let branch ← query (.findFirstBranch orgId)
    let branchId ← need branch (badRequest
      ("Cannot invite team before the first branch is created. " ++
        "Complete the firstBranchCreated step first."))
    let results ← inviteAll normalizeEmail hashToken orgId branchId invitations
    query (.log 0)
    return results

-- ---
-- Calls
-- ---

inductive MembershipCall
  | createMembership (orgId branchId : Id) (dto : CreateMembershipDto)
  | createBranch (orgId actorUserId : Id) (dto : CreateBranchDto)
  | createInvitations (orgId : Id) (invitations : List (OnboardingInvitationDto × Drawn))
  | onboard (ctx : BranchContext) (dto : FrontlineStaffOnboardDto) (drawn : OnboardDrawn)
  deriving DecidableEq, Repr

def MembershipCall.program : MembershipCall → StaffProgram Unit
  | .createMembership orgId branchId dto => do
    let _ ← Staff.createMembership orgId branchId dto
  | .createBranch orgId actorUserId dto => do
    let _ ← Staff.createBranch orgId actorUserId dto
  | .createInvitations orgId invitations => do
    let _ ← Staff.createInvitations normalizeEmail hashToken orgId invitations
  | .onboard ctx dto drawn => do
    let _ ← Staff.onboard normalizeEmail ctx dto drawn

end

end NimbusPos.Staff

/-!
# Default branches

A user has at most one default membership in an organisation, and a failed call takes none away.
A new default is written after the others are cleared, by another statement, or with no regard to
the others, and a call that has cleared a default may still fail.
-/

namespace NimbusPos.Staff

open Lib Lib.Program
open ClientOnboardingService (OnboardingInvitationDto Drawn)

variable {s : StaffStore}

-- ---
-- Defaults
-- ---

/-- The user and the organisation that the membership is a default for. -/
def Membership.defaultOf (row : Membership) : Option (Id × Id) :=
  if row.isDefaultBranch then some (row.userId, row.organizationId) else none

/-- Every user has at most one default membership in each organisation. -/
def OneDefault (s : StaffStore) : Prop := s.memberships.UniqueOn Membership.defaultOf

/-- The defaults of a state are still there in another. -/
def DefaultsStay (s t : StaffStore) : Prop :=
  ∀ k row, s.memberships.get? k = some row → row.isDefaultBranch = true →
    t.memberships.get? k = some row

def StaffStore.hasDefault (s : StaffStore) (userId orgId : Id) : Bool :=
  (s.memberships.findFirst fun _ row => StaffStore.isDefaultOf userId orgId row).isSome

theorem isDefaultOf_iff {userId orgId : Id} {row : Membership} :
    StaffStore.isDefaultOf userId orgId row = true ↔ row.defaultOf = some (userId, orgId) := by
  simp only [StaffStore.isDefaultOf, Membership.defaultOf, Bool.and_eq_true, beq_iff_eq]
  split <;> simp_all

theorem hasDefault_iff {userId orgId : Id} : s.hasDefault userId orgId = true ↔
    ∃ k row, s.memberships.get? k = some row ∧ row.defaultOf = some (userId, orgId) := by
  rw [StaffStore.hasDefault, Option.isSome_iff_ne_none, ne_eq, Table.findFirst_none]
  simp only [← isDefaultOf_iff, not_forall, Bool.not_eq_false, exists_prop]

theorem defaultsStay_refl (s : StaffStore) : DefaultsStay s s := fun _ _ hget _ => hget

-- ---
-- Statements
-- ---

/-- The membership that a statement adds. -/
def addedMembership (s : StaffStore) : Statement → Option Membership
  | .createMembership row _ => if s.membershipRefused row = none then some row else none
  | .onboard data => if data.refused s = none then some (data.membership s) else none
  | _ => none

theorem exec_memberships (s : StaffStore) (k : Statement) :
    (∃ row, addedMembership s k = some row ∧
      (s.exec k).1.memberships = s.memberships.insert row) ∨
    addedMembership s k = none ∧
      ((∃ userId orgId, k = .clearDefaults userId orgId) ∨
        (s.exec k).1.memberships = s.memberships) := by
  cases k with
  | createMembership row cleared =>
    simp only [addedMembership, StaffStore.exec, unlessRefused]
    cases hrefused : s.membershipRefused row with
    | none => exact .inl ⟨row, rfl, rfl⟩
    | some e => exact .inr ⟨rfl, .inr rfl⟩
  | onboard data =>
    simp only [addedMembership, StaffStore.exec, unlessRefused]
    cases hrefused : data.refused s with
    | none => exact .inl ⟨_, rfl, rfl⟩
    | some e => exact .inr ⟨rfl, .inr rfl⟩
  | clearDefaults userId orgId => exact .inr ⟨rfl, .inl ⟨userId, orgId, rfl⟩⟩
  | createBranch row | createUser row | createInvitation row =>
    refine .inr ⟨rfl, .inr ?_⟩
    simp only [StaffStore.exec, unlessTaken]
    split <;> rfl
  | createEmployee row | createContract row =>
    refine .inr ⟨rfl, .inr ?_⟩
    simp only [StaffStore.exec, unlessRefused]
    split <;> rfl
  | _ => exact .inr ⟨rfl, .inr rfl⟩

theorem cleared_get? {userId orgId k : Id} {row : Membership}
    (hget : s.memberships.get? k = some row) :
    (s.exec (.clearDefaults userId orgId)).1.memberships.get? k =
      some (if StaffStore.isDefaultOf userId orgId row then { row with isDefaultBranch := false }
        else row) := by
  simp [StaffStore.exec, Table.get?_updateWhere, hget]

/-- A default is added where the user has none in the organisation. -/
def DefaultFits (s : StaffStore) (k : Statement) : Prop :=
  ∀ row ∈ addedMembership s k, row.isDefaultBranch = true →
    s.hasDefault row.userId row.organizationId = false

instance (s : StaffStore) (k : Statement) : Decidable (DefaultFits s k) :=
  inferInstanceAs (Decidable (∀ row ∈ addedMembership s k, _ → _))

theorem exec_oneDefault_iff (h : OneDefault s) (k : Statement) :
    OneDefault (s.exec k).1 ↔ DefaultFits s k := by
  rcases exec_memberships s k with
    ⟨row, hadded, htable⟩ | ⟨hnone, ⟨userId, orgId, rfl⟩ | htable⟩
  · have hkey : row.defaultOf = if row.isDefaultBranch = true then
        some (row.userId, row.organizationId) else none := rfl
    rw [OneDefault, htable, Table.UniqueOn.insert_if_iff h hkey]
    simp only [DefaultFits, hadded, Option.mem_some_iff, forall_eq', Bool.eq_false_iff, ne_eq,
      hasDefault_iff, not_exists, not_and]
  · refine iff_of_true (Table.UniqueOn.updateWhere h ?_) (by simp [DefaultFits, hnone])
    intro k row x _ hkey
    simp [Membership.defaultOf] at hkey
  · rw [OneDefault, htable]
    exact iff_of_true h (by simp [DefaultFits, hnone])

-- ---
-- Clearing
-- ---

/-- What a clearing of defaults takes away, and the statements that carry its number. -/
def defaultLosses : Losses Statement Statement.Answer where
  carries
    | .createMembership _ cleared | .log cleared => cleared
    | _ => 0
  adds
    | .clearDefaults _ _, cleared => cleared
    | _, _ => 0

/-- The statement clears a default. -/
def Clears (s : StaffStore) : Statement → Prop
  | .clearDefaults userId orgId => s.hasDefault userId orgId = true
  | _ => False

theorem clears_cases (h : Clears s k) :
    ∃ userId orgId, k = .clearDefaults userId orgId ∧ s.hasDefault userId orgId = true := by
  cases k with
  | clearDefaults userId orgId => exact ⟨userId, orgId, rfl, h⟩
  | _ => cases h

theorem exec_defaultsStay_iff (s : StaffStore) (k : Statement) :
    DefaultsStay s (s.exec k).1 ↔ ¬Clears s k := by
  constructor
  · intro hstay hclears
    obtain ⟨userId, orgId, rfl, hdefault⟩ := clears_cases hclears
    obtain ⟨j, row, hget, hrow⟩ := hasDefault_iff.mp hdefault
    rw [← isDefaultOf_iff] at hrow
    have hset : row.isDefaultBranch = true := by
      simp only [StaffStore.isDefaultOf, Bool.and_eq_true] at hrow
      exact hrow.2
    have hsame := hstay j row hget hset
    rw [cleared_get? hget, if_pos hrow, Option.some.injEq] at hsame
    rw [← hsame] at hset
    cases hset
  · intro hclears j row hget hset
    rcases exec_memberships s k with
      ⟨added, -, htable⟩ | ⟨-, ⟨userId, orgId, rfl⟩ | htable⟩
    · rw [htable]
      exact Table.get?_insert_of_some hget
    · have hother : ¬StaffStore.isDefaultOf userId orgId row = true := fun hrow =>
        hclears (hasDefault_iff.mpr ⟨j, row, hget, isDefaultOf_iff.mp hrow⟩)
      rw [cleared_get? hget, if_neg hother]
    · rw [htable]
      exact hget

-- ---
-- Statements that fail
-- ---

def thrown (message : String) : HttpError := { kind := .internalServerError, message }

abbrev execMembership : (s : StaffStore) → (k : Statement × Fate) →
    StaffStore × Except HttpError k.1.Answer :=
  execFated thrown StaffStore.exec

/-- A clearing that clears a default is answered if it is written, and what comes after it in its
call succeeds. -/
def ClearingCompletes (s : StaffStore) (k : Statement × Fate) : Prop :=
  match k.1 with
  | .clearDefaults userId orgId =>
    s.hasDefault userId orgId = true → k.2.written = true → k.2 = .applied
  | .createMembership row cleared =>
    cleared ≠ 0 → k.2 = .applied ∧ s.membershipRefused row = none
  | .log cleared => cleared ≠ 0 → k.2 = .applied
  | _ => True

instance (s : StaffStore) (k : Statement × Fate) : Decidable (ClearingCompletes s k) := by
  unfold ClearingCompletes
  split <;> infer_instance

theorem execMembership_defaultsStay_iff (s : StaffStore) (k : Statement × Fate) :
    DefaultsStay s (execMembership s k).1 ↔ (k.2.written = true → ¬Clears s k.1) := by
  rw [execFated_fst, Fate.write_eq]
  cases k.2.written with
  | true => simpa using exec_defaultsStay_iff s k.1
  | false => simpa using defaultsStay_refl s

theorem adds_eq_zero_iff {k : Statement} {a : k.Answer} (h : (s.exec k).2 = .ok a) :
    ¬Clears s k ↔ defaultLosses.adds k a = 0 := by
  cases k with
  | clearDefaults userId orgId =>
    have hcount : s.memberships.count (fun _ row => StaffStore.isDefaultOf userId orgId row) = a :=
      Except.ok.inj h
    simp only [Clears, defaultLosses, ← hcount, hasDefault_iff, ← isDefaultOf_iff,
      Table.count_eq_zero, not_exists, not_and, Bool.not_eq_true]
  | _ => exact iff_of_true id rfl

theorem execMembership_adds (s : StaffStore) (k : Statement × Fate) (a : k.1.Answer)
    (h : (execMembership s k).2 = .ok a) :
    DefaultsStay s (execMembership s k).1 ↔ defaultLosses.fated.adds k a = 0 := by
  obtain ⟨k, fate⟩ := k
  cases fate with
  | applied =>
    rw [execMembership_defaultsStay_iff]
    simpa [Fate.written, Losses.fated] using adds_eq_zero_iff h
  | refused message => cases h
  | unanswered message => cases h

theorem execMembership_oneDefault_iff (h : OneDefault s) (k : Statement × Fate) :
    OneDefault (execMembership s k).1 ↔ (k.2.written = true → DefaultFits s k.1) := by
  rw [execFated_fst, Fate.write_eq]
  cases k.2.written with
  | true => simpa using exec_oneDefault_iff h k.1
  | false => simpa using h

theorem mayFail_iff (s : StaffStore) (k : Statement × Fate) :
    MayFail defaultLosses.fated execMembership DefaultsStay s k ↔ ClearingCompletes s k := by
  obtain ⟨k, fate⟩ := k
  simp only [MayFail, execMembership_defaultsStay_iff, Losses.fated]
  cases k with
  | clearDefaults userId orgId =>
    cases fate <;> simp [ClearingCompletes, execFated, defaultLosses, Clears, Fate.written,
      StaffStore.exec]
  | createMembership row cleared =>
    simp only [ClearingCompletes, defaultLosses, Clears, not_false_eq_true, implies_true, and_true]
    cases fate with
    | applied =>
      simp only [execFated, StaffStore.exec, unlessRefused, true_and]
      cases s.membershipRefused row <;> simp
    | refused message | unanswered message => simp [execFated]
  | log cleared =>
    cases fate <;> simp [ClearingCompletes, execFated, defaultLosses, Clears, StaffStore.exec]
  | _ => simp [ClearingCompletes, defaultLosses, Clears]

-- ---
-- Calls
-- ---

abbrev ClearsNone {α : Type} (x : StaffProgram α) : Prop := x.Plain defaultLosses

theorem generateEmployeeCode_clearsNone (orgId : Id) : ClearsNone (generateEmployeeCode orgId) :=
  plain_bind (plain_statement rfl fun _ => rfl) fun _ => plain_pure _

theorem resolveCode_clearsNone (supplied : Option String) {generate : StaffProgram String}
    (h : ClearsNone generate) : ClearsNone (resolveCode supplied generate) := by
  rw [resolveCode]
  cases orNull supplied with
  | none => exact h
  | some code => exact plain_pure code

theorem checkPlanLimit_clearsNone (subscription : Subscription) :
    ClearsNone (checkPlanLimit subscription) := by
  refine plain_bind (plain_ensure _ _) fun _ => ?_
  refine plain_bind (plain_statement rfl fun _ => rfl) fun count => ?_
  split
  · exact plain_bind (plain_statement rfl fun _ => rfl) fun _ => plain_throw _
  · exact plain_pure ()

theorem enforceLocationCap_clearsNone (orgId : Id) : ClearsNone (enforceLocationCap orgId) := by
  refine plain_bind (plain_statement rfl fun _ => rfl) fun hasSubscription => ?_
  cases hasSubscription with
  | none => exact plain_pure ()
  | some subscription => exact checkPlanLimit_clearsNone subscription

theorem checkBranchCode_clearsNone (orgId : Id) (code : Option String) :
    ClearsNone (checkBranchCode orgId code) := by
  rw [checkBranchCode]
  cases orNull code with
  | none => exact plain_pure ()
  | some code => exact plain_bind (plain_statement rfl fun _ => rfl) fun _ => plain_ensure _ _

theorem joinBranch_clearsNone (orgId branchId actorUserId : Id) :
    ClearsNone (joinBranch orgId branchId actorUserId) := by
  refine plain_bind (plain_statement rfl fun _ => rfl) fun ownerRole => ?_
  cases ownerRole with
  | none => exact plain_pure ()
  | some roleId =>
    refine plain_bind (plain_statement rfl fun _ => rfl) fun existingMembership => ?_
    exact plain_bind (plain_statement rfl fun _ => rfl) fun _ => plain_pure ()

theorem createBranch_clearsNone (orgId actorUserId : Id) (dto : CreateBranchDto) :
    ClearsNone (createBranch orgId actorUserId dto) := by
  refine plain_bind (plain_statement rfl fun _ => rfl) fun org => ?_
  refine plain_bind (plain_ensure _ _) fun _ => ?_
  refine plain_bind (enforceLocationCap_clearsNone orgId) fun _ => ?_
  refine plain_bind (checkBranchCode_clearsNone orgId dto.code) fun _ => ?_
  refine plain_bind (plain_statement rfl fun _ => rfl) fun branchId => ?_
  refine plain_bind (joinBranch_clearsNone orgId branchId actorUserId) fun _ => ?_
  exact plain_bind (plain_statement rfl fun _ => rfl) fun _ => plain_pure branchId

section

variable (normalizeEmail hashToken : String → String)

theorem findOrCreateUser_clearsNone (roleId : Id) (inv : OnboardingInvitationDto) (drawn : Drawn) :
    ClearsNone (findOrCreateUser normalizeEmail roleId inv drawn) := by
  refine plain_bind (plain_statement rfl fun _ => rfl) fun existing => ?_
  cases existing with
  | some userId => exact plain_pure _
  | none =>
    refine plain_bind (plain_statement rfl fun _ => rfl) fun userId => ?_
    exact plain_bind (plain_statement rfl fun _ => rfl) fun _ => plain_pure _

theorem findOrCreateMembership_clearsNone (orgId branchId roleId userId : Id) :
    ClearsNone (findOrCreateMembership orgId branchId roleId userId) := by
  refine plain_bind (plain_statement rfl fun _ => rfl) fun existing => ?_
  cases existing with
  | some membershipId => exact plain_pure _
  | none => exact plain_bind (plain_statement rfl fun _ => rfl) fun _ => plain_pure _

theorem inviteOne_clearsNone (orgId branchId : Id) (inv : OnboardingInvitationDto)
    (drawn : Drawn) : ClearsNone (inviteOne normalizeEmail hashToken orgId branchId inv drawn) := by
  refine plain_bind (plain_statement rfl fun _ => rfl) fun found => ?_
  refine plain_bind (plain_need found _) fun role => ?_
  refine plain_bind (findOrCreateUser_clearsNone normalizeEmail role.1 inv drawn) fun user => ?_
  refine plain_bind (findOrCreateMembership_clearsNone orgId branchId role.1 user.1) fun _ => ?_
  refine plain_bind (plain_statement rfl fun _ => rfl) fun now => ?_
  refine plain_bind (plain_statement rfl fun _ => rfl) fun _ => ?_
  refine plain_bind (plain_statement rfl fun _ => rfl) fun invitationId => ?_
  exact plain_bind (plain_statement rfl fun _ => rfl) fun _ => plain_pure _

theorem inviteAll_clearsNone (orgId branchId : Id)
    (invitations : List (OnboardingInvitationDto × Drawn)) :
    ClearsNone (inviteAll normalizeEmail hashToken orgId branchId invitations) := by
  induction invitations with
  | nil => exact plain_pure []
  | cons first rest ih =>
    refine plain_bind (inviteOne_clearsNone normalizeEmail hashToken orgId branchId _ _) ?_
    exact fun _ => plain_bind ih fun _ => plain_pure _

theorem createInvitations_clearsNone (orgId : Id)
    (invitations : List (OnboardingInvitationDto × Drawn)) :
    ClearsNone (createInvitations normalizeEmail hashToken orgId invitations) := by
  refine plain_bind (plain_ensure _ _) fun _ => ?_
  cases ClientOnboardingService.firstNotInvitable invitations with
  | some roleName => exact plain_throw _
  | none =>
    refine plain_bind (plain_statement rfl fun _ => rfl) fun branch => ?_
    refine plain_bind (plain_need branch _) fun branchId => ?_
    refine plain_bind (inviteAll_clearsNone normalizeEmail hashToken orgId branchId invitations) ?_
    exact fun _ => plain_bind (plain_statement rfl fun _ => rfl) fun _ => plain_pure _

theorem checkPosition_clearsNone (orgId : Id) (positionId : Option Id) :
    ClearsNone (checkPosition orgId positionId) := by
  cases positionId with
  | none => exact plain_pure ()
  | some positionId =>
    exact plain_bind (plain_statement rfl fun _ => rfl) fun _ => plain_ensure _ _

theorem checkCompensationProfile_clearsNone (orgId : Id) (profileId : Option Id) :
    ClearsNone (checkCompensationProfile orgId profileId) := by
  cases profileId with
  | none => exact plain_pure ()
  | some profileId =>
    exact plain_bind (plain_statement rfl fun _ => rfl) fun _ => plain_ensure _ _

theorem checkContract_clearsNone (orgId : Id) (contractId : Option Id) :
    ClearsNone (checkContract orgId contractId) := by
  cases contractId with
  | none => exact plain_pure ()
  | some contractId =>
    exact plain_bind (plain_statement rfl fun _ => rfl) fun _ => plain_ensure _ _

theorem checkLoginModes_clearsNone (dto : FrontlineStaffOnboardDto)
    (jobRole : Option QuickPinService.JobRole) : ClearsNone (checkLoginModes dto jobRole) := by
  refine plain_bind (plain_ensure _ _) fun _ => ?_
  refine plain_bind (plain_ensure _ _) fun _ => ?_
  exact plain_bind (plain_ensure _ _) fun _ => plain_ensure _ _

theorem findExistingUser_clearsNone (ctx : BranchContext) (realEmail : Option String) :
    ClearsNone (findExistingUser ctx realEmail) := by
  rw [findExistingUser]
  cases orNull realEmail with
  | none => exact plain_pure none
  | some email =>
    refine plain_bind (plain_statement rfl fun _ => rfl) fun existingUser => ?_
    cases existingUser with
    | none => exact plain_pure none
    | some userId =>
      refine plain_bind (plain_statement rfl fun _ => rfl) fun memberships => ?_
      refine plain_bind (plain_ensure _ _) fun _ => ?_
      exact plain_bind (plain_ensure _ _) fun _ => plain_pure _

theorem issuePin_clearsNone (wanted : Bool) (userId branchId : Id) (drawn : OnboardDrawn) :
    ClearsNone (issuePin wanted userId branchId drawn) := by
  cases wanted with
  | true => exact plain_bind (plain_statement rfl fun _ => rfl) fun pin => plain_pure _
  | false => exact plain_pure none

theorem onboard_clearsNone (ctx : BranchContext) (dto : FrontlineStaffOnboardDto)
    (drawn : OnboardDrawn) : ClearsNone (onboard normalizeEmail ctx dto drawn) := by
  refine plain_bind (plain_statement rfl fun _ => rfl) fun found => ?_
  refine plain_bind (plain_need _ _) fun role => ?_
  refine plain_bind (checkLoginModes_clearsNone dto role.2.jobRole) fun _ => ?_
  refine plain_bind (plain_statement rfl fun _ => rfl) fun branch => ?_
  refine plain_bind (plain_ensure _ _) fun _ => ?_
  refine plain_bind (findExistingUser_clearsNone ctx _) fun existingUser => ?_
  refine plain_bind (checkPosition_clearsNone _ _) fun _ => ?_
  refine plain_bind (checkCompensationProfile_clearsNone _ _) fun _ => ?_
  refine plain_bind (checkContract_clearsNone _ _) fun _ => ?_
  refine plain_bind (resolveCode_clearsNone _ (generateEmployeeCode_clearsNone _)) fun code => ?_
  refine plain_bind (plain_statement rfl fun _ => rfl) fun codeExists => ?_
  refine plain_bind (plain_ensure _ _) fun _ => ?_
  refine plain_bind (plain_statement rfl fun _ => rfl) fun rows => ?_
  refine plain_bind (issuePin_clearsNone _ _ _ drawn) fun quickPin => ?_
  exact plain_bind (plain_statement rfl fun _ => rfl) fun _ => plain_pure _

/-- What the clearing counts is what the statements after it carry. -/
theorem createMembership_counts (orgId branchId : Id) (dto : CreateMembershipDto) :
    (createMembership orgId branchId dto).Counts defaultLosses (fun _ _ => True) 0 := by
  refine Plain.then (plain_statement rfl fun _ => rfl) fun branch => ?_
  refine Plain.then (plain_ensure _ _) fun _ => ?_
  refine Plain.then (plain_statement rfl fun _ => rfl) fun targetUser => ?_
  refine Plain.then (plain_ensure _ _) fun _ => ?_
  refine Plain.then (plain_statement rfl fun _ => rfl) fun role => ?_
  refine Plain.then (plain_ensure _ _) fun _ => ?_
  refine Plain.then (plain_statement rfl fun _ => rfl) fun existing => ?_
  refine Plain.then (plain_ensure _ _) fun _ => ?_
  have hclears : (clearDefaults orgId dto).Counts defaultLosses (fun cleared m => m = cleared) 0 := by
    unfold clearDefaults
    split
    · refine (counts_statement rfl).mono ?_
      rintro cleared _ rfl
      exact Nat.zero_add cleared
    · rfl
  refine counts_bind (hclears.mono ?_)
  rintro cleared _ rfl
  refine counts_then rfl fun membershipId => ?_
  exact counts_then rfl fun _ => trivial

theorem MembershipCall.program_counts (call : MembershipCall) :
    (call.program normalizeEmail hashToken).Counts defaultLosses (fun _ _ => True) 0 := by
  cases call with
  | createMembership orgId branchId dto =>
    exact counts_bind ((createMembership_counts orgId branchId dto).mono fun _ _ _ => trivial)
  | createBranch orgId actorUserId dto =>
    exact Plain.then (createBranch_clearsNone orgId actorUserId dto) fun _ => trivial
  | createInvitations orgId invitations =>
    exact Plain.then (createInvitations_clearsNone normalizeEmail hashToken orgId invitations)
      fun _ => trivial
  | onboard ctx dto drawn =>
    exact Plain.then (onboard_clearsNone normalizeEmail ctx dto drawn) fun _ => trivial

end

-- ---
-- Histories
-- ---

abbrev MembershipPool := Pool StaffStore
  (Program (Statement × Fate) (fun k => k.1.Answer) HttpError Unit)

abbrev takeMembershipTurn : MembershipPool → Turn → MembershipPool :=
  Turn.take (fun _ => execMembership) waits

/-- The calls, none of which has started, and how their statements will end. -/
def begun (normalizeEmail hashToken : String → String) (s : StaffStore)
    (calls : List (MembershipCall × (Nat → Fate))) : MembershipPool where
  shared := s
  threads := calls.map fun call => (call.1.program normalizeEmail hashToken).fated call.2 0

/-- What the statement writes adds no second default, and where it fails its call has cleared
none. -/
def DefaultSafe (s : StaffStore) (k : Statement × Fate) : Prop :=
  (k.2.written = true → DefaultFits s k.1) ∧ ClearingCompletes s k

instance (s : StaffStore) (k : Statement × Fate) : Decidable (DefaultSafe s k) :=
  inferInstanceAs (Decidable ((_ → _) ∧ _))

theorem asks_defaultSafe (p : MembershipPool) (t : Turn) : t.asks DefaultSafe p ↔
    t.asks (fun s k => k.2.written = true → DefaultFits s k.1) p ∧
      t.asks (MayFail defaultLosses.fated execMembership DefaultsStay) p := by
  have hfails : MayFail defaultLosses.fated execMembership DefaultsStay = ClearingCompletes := by
    funext s k
    exact propext (mayFail_iff s k)
  rw [hfails]
  exact Turn.asks_and p t

/-- One default in every state of a history, and none taken away by a failed call, exactly along
the statements that add no second default and let no clearing call fail. -/
theorem default_branches (normalizeEmail hashToken : String → String) (s : StaffStore)
    (hstart : OneDefault s) (calls : List (MembershipCall × (Nat → Fate))) (turns : List Turn) :
    (∀ before later, turns = before ++ later →
      OneDefault (before.foldl takeMembershipTurn
        (begun normalizeEmail hashToken s calls)).shared ∧
      FailuresKeep execMembership waits DefaultsStay (begun normalizeEmail hashToken s calls)
        before) ↔
    Run takeMembershipTurn (fun p t => t.asks DefaultSafe p)
      (begun normalizeEmail hashToken s calls) turns
      (turns.foldl takeMembershipTurn (begun normalizeEmail hashToken s calls)) := by
  have hcounts : ∀ x ∈ (begun normalizeEmail hashToken s calls).threads,
      x.Counts defaultLosses.fated (fun _ _ => True) 0 := by
    intro x hx
    obtain ⟨call, -, rfl⟩ := List.mem_map.mp hx
    exact (call.1.program_counts normalizeEmail hashToken).fated call.2 0
  refine Run.history_iff ⟨hstart, fun i e _ => broke_nil⟩ fun before t hbefore => ?_
  obtain ⟨hone, hkeep⟩ := hbefore
  rw [failuresKeep_snoc defaultsStay_refl execMembership_adds hcounts hkeep, asks_defaultSafe,
    List.foldl_append, List.foldl_cons, List.foldl_nil]
  refine and_congr_left' ?_
  exact Turn.take_iff hone (fun _ k => execMembership_oneDefault_iff hone k) (fun _ => hone) t

/-- Two branches of an organisation, and a user with a default in the second. -/
def settled : StaffStore where
  branches := (Table.empty.insert { organizationId := 0, name := "Main" }).insert
    { organizationId := 0, name := "Annex" }
  roles := Table.empty.insert { name := "Manager" }
  users := Table.empty.insert
    { email := "amina@nile.test", passwordHash := "", firstName := "Amina", lastName := "Okello" }
  memberships := Table.empty.insert
    { userId := 0, organizationId := 0, branchId := 1, roleId := 0, isDefaultBranch := true }

theorem settled_oneDefault : OneDefault settled := by
  have hempty : (Table.empty : Table Membership).UniqueOn Membership.defaultOf := by
    intro j k a b x hj
    cases hj
  refine hempty.insert fun k b x hget => ?_
  cases hget

/-- The first branch becomes the default of the user. -/
def moves : MembershipCall :=
  .createMembership 0 0 { userId := 0, roleId := 0, isDefaultBranch := some true }

/-- The user is invited to the core team. -/
def invites : MembershipCall :=
  .createInvitations 0
    [({ email := "amina@nile.test", roleName := "Manager" }, { invitationToken := "inv" })]

/-- The default moves to the first branch. -/
theorem default_branches_moved :
    let p := (times 7 0).foldl takeMembershipTurn
      (begun id id settled [(moves, fun _ => .applied)])
    p.shared.memberships.rows.map (fun row => (row.2.branchId, row.2.isDefaultBranch)) =
      [(1, false), (0, true)] ∧ OneDefault p.shared := by
  intro p
  have hrun : Run takeMembershipTurn (fun p t => t.asks DefaultSafe p)
      (begun id id settled [(moves, fun _ => .applied)]) (times 7 0) p :=
    Run.of_holds (by decide +kernel)
  have hall := (default_branches id id settled settled_oneDefault _ _).mpr hrun
  exact ⟨by decide +kernel, (hall (times 7 0) [] (by simp)).1⟩

/-- An invitation to a user with a default in another branch adds a second one, and a membership
that is not written leaves the user without the default that was cleared for it. -/
theorem invited_second_default :
    let invited := (times 10 0).foldl takeMembershipTurn
      (begun id id settled [(invites, fun _ => .applied)])
    let failed := (times 6 0).foldl takeMembershipTurn
      (begun id id settled [(moves, fun n => if n = 5 then .refused "timeout" else .applied)])
    (invited.threads.map (·.result?) = [some (.ok ())] ∧ ¬OneDefault invited.shared) ∧
    (failed.threads.map (·.result?) = [some (.error (thrown "timeout"))] ∧
      ¬DefaultsStay settled failed.shared) ∧
    ¬(∀ (normalizeEmail hashToken : String → String) (s : StaffStore)
      (calls : List (MembershipCall × (Nat → Fate))) (turns : List Turn), OneDefault s →
        OneDefault (turns.foldl takeMembershipTurn
          (begun normalizeEmail hashToken s calls)).shared) := by
  intro invited failed
  have hsecond : ¬OneDefault invited.shared := by
    intro h
    have hsame := h 0 1
      { userId := 0, organizationId := 0, branchId := 1, roleId := 0, isDefaultBranch := true }
      { userId := 0, organizationId := 0, branchId := 0, roleId := 0, isDefaultBranch := true }
      (0, 0) (by decide +kernel) (by decide +kernel) rfl rfl
    cases hsame
  refine ⟨⟨by decide +kernel, hsecond⟩, ⟨by decide +kernel, fun h => ?_⟩, fun h => ?_⟩
  · have hlost : (failed.shared.memberships.get? 0).any (·.isDefaultBranch) = false := by
      decide +kernel
    rw [h 0 _ rfl rfl] at hlost
    cases hlost
  · exact hsecond (h id id settled _ _ settled_oneDefault)

end NimbusPos.Staff
