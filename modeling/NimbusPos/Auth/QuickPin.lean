import NimbusPos.Auth.Sessions

/-!
# Quick PINs

Staff log in at a branch with a short PIN. A user is found by a keyed hash of the branch
and the PIN, and the PIN is then checked against its bcrypt hash. The tier of a PIN, its
length and its two hashes are columns of the user.
-/

namespace NimbusPos.QuickPinService

open Lib Lib.Service
open AuthService (AccessToken)

inductive JobRole
  | owner
  | manager
  | accountant
  | procurement
  | stockManager
  | supervisor
  | cashier
  | chef
  | waiter
  | bartender
  | eventManager
  deriving DecidableEq, Repr

inductive SessionPlatform
  | webBackoffice
  | posDesktop
  | mobileApp
  | kdsScreen
  | devPortal
  | other
  deriving DecidableEq, Repr

inductive QuickPinTier
  | low6
  | high8
  deriving DecidableEq, Repr

-- ---
-- The tier policy
-- ---

def lowTierRoles : List JobRole := [.waiter, .cashier, .bartender, .chef, .stockManager]

def highTierRoles : List JobRole := [.supervisor, .manager]

def excludedFromQuickPin : List JobRole := [.owner, .accountant, .procurement, .eventManager]

def quickPinAllowedPlatforms : List SessionPlatform := [.posDesktop]

def quickPinMaxFailedAttempts : Nat := 5

def quickPinLockoutMinutes : Nat := 5

def resolveQuickPinTier (jobRole : JobRole) : Option QuickPinTier :=
  if lowTierRoles.contains jobRole then some .low6
  else if highTierRoles.contains jobRole then some .high8
  else none

def getPinLengthForTier : QuickPinTier → Nat
  | .low6 => 6
  | .high8 => 8

/-- One role more; a high tier is preferred. -/
def withRole (tier : Option QuickPinTier) (jobRole : JobRole) : Option QuickPinTier :=
  match resolveQuickPinTier jobRole with
  | some t => if tier.isNone || t == .high8 then some t else tier
  | none => tier

def tierOf (jobRoles : List JobRole) : Option QuickPinTier := jobRoles.foldl withRole none

-- ---
-- Rows
-- ---

structure User where
  isActive : Bool := true
  quickPinEnabled : Bool := false
  quickPinHash : Option String := none
  pinLookupHash : Option String := none
  pinLength : Option Nat := none
  pinTier : Option QuickPinTier := none
  failedPinAttempts : Nat := 0
  pinLockedUntil : Option Time := none
  /-- The `jobRole` of each assigned role. -/
  userRoles : List (Option JobRole) := []
  deriving DecidableEq, Repr

/-- `userRoles.map((ur) => ur.role.jobRole).filter(Boolean)`. -/
def User.jobRoles (user : User) : List JobRole := user.userRoles.filterMap id

structure Membership where
  userId : Id
  branchId : Id
  organizationId : Id
  isActive : Bool := true
  isDefaultBranch : Bool := false
  deriving DecidableEq, Repr

structure Branch where
  organizationId : Id
  isActive : Bool := true
  deriving DecidableEq, Repr

structure Session where
  userId : Id
  jti : String
  platform : SessionPlatform
  orgId : Id
  branchId : Id
  deriving DecidableEq, Repr

structure Store where
  clock : Time := 0
  users : Table User := .empty
  memberships : Table Membership := .empty
  branches : Table Branch := .empty
  sessions : Table Session := .empty

namespace Store

def findByLookup (s : Store) (lookupHash : String) : Option (Id × User) :=
  s.users.findFirst fun _ user => user.pinLookupHash == some lookupHash

def findMembership (s : Store) (userId branchId : Id) : Option Membership :=
  (s.memberships.findFirst fun _ membership =>
    membership.userId == userId && membership.branchId == branchId).map (·.2)

def activeMemberships (s : Store) (userId : Id) : List Membership :=
  (s.memberships.findMany fun _ membership =>
    membership.userId == userId && membership.isActive).map (·.2)

def setUser (s : Store) (userId : Id) (f : User → User) : Store :=
  { s with users := s.users.update userId f }

theorem setUser_users (s : Store) (userId : Id) (f : User → User) :
    (s.setUser userId f).users = s.users.update userId f := rfl

end Store

abbrev QuickPinDb (α : Type) := Service HttpError Store α

def invalidCredentials : HttpError := unauthorized "Invalid credentials"

def forbidden (message : String) : HttpError := { kind := .forbidden, message }

-- ---
-- Login
-- ---

structure Tokens where
  accessToken : AccessToken
  refreshToken : String
  sessionId : Id
  orgId : Id
  branchId : Id
  deriving DecidableEq, Repr

/-- The identifiers that a login draws. -/
structure Drawn where
  jti : String := ""
  refreshToken : String := ""
  deriving DecidableEq, Repr

def lockedAt (user : User) (now : Time) : Bool := user.pinLockedUntil.any (now < ·)

/-- A PIN that bcrypt refuses is counted, and the last one allowed locks the user. -/
def countFailure (now : Time) (user row : User) : User :=
  let newAttempts := user.failedPinAttempts + 1
  { row with
    failedPinAttempts := newAttempts
    pinLockedUntil :=
      if quickPinMaxFailedAttempts ≤ newAttempts then
        some (now + quickPinLockoutMinutes * 60 * 1000)
      else row.pinLockedUntil }

section

/-- `derivePinLookupHash`, `bcrypt.compare` and, for the salt it draws, `bcrypt.hash`. -/
structure Crypto where
  lookup : Id → String → String
  compare : String → String → Bool
  hash : String → String → String

variable (crypto : Crypto)

def createSessionAndTokens (userId : Id) (platform : SessionPlatform) (orgId branchId : Id)
    (drawn : Drawn) : QuickPinDb Tokens := do
  let s ← get
  modify fun s => { s with
    sessions := s.sessions.insert { userId, jti := drawn.jti, platform, orgId, branchId } }
  return {
    accessToken := { sub := userId, jti := drawn.jti }, refreshToken := drawn.refreshToken
    sessionId := s.sessions.next, orgId, branchId }

/-- What follows the check of the PIN. -/
def enter (branchId : Id) (pin : String) (platform : SessionPlatform) (drawn : Drawn) (userId : Id)
    (user : User) : QuickPinDb Tokens := do
  ensure (user.pinLength.all fun pinLength => pinLength == 0 || pin.length == pinLength)
    invalidCredentials
  let s ← get
  let denied := forbidden "Not a member of this branch"
  let membership ← need ((s.findMembership userId branchId).filter (·.isActive)) denied
  let membershipBranch := s.branches.get? membership.branchId
  ensure (membershipBranch.all (·.isActive)) denied
  let organizationId := (membershipBranch.map (·.organizationId)).getD membership.organizationId
  ensure (user.jobRoles.any fun jobRole => !excludedFromQuickPin.contains jobRole)
    (forbidden "Role not allowed for quick PIN login")
  let result ← createSessionAndTokens userId platform organizationId branchId drawn
  modify fun s => s.setUser userId fun row =>
    { row with failedPinAttempts := 0, pinLockedUntil := none }
  return result

def quickPinLogin (branchId : Id) (pin : String) (platform : SessionPlatform) (drawn : Drawn) :
    QuickPinDb Tokens := do
  ensure (quickPinAllowedPlatforms.contains platform)
    (forbidden "Quick PIN login is only available on POS_DESKTOP")
  let s ← get
  let (userId, user) ← need (s.findByLookup (crypto.lookup branchId pin)) invalidCredentials
  ensure user.isActive invalidCredentials
  ensure user.quickPinEnabled invalidCredentials
  ensure (!lockedAt user s.clock) invalidCredentials
  let quickPinHash ← need user.quickPinHash invalidCredentials
  if crypto.compare pin quickPinHash then enter branchId pin platform drawn userId user
  else do
    modify fun t => t.setUser userId (countFailure s.clock user)
    throw invalidCredentials

-- ---
-- Issue, reset and settings
-- ---

def padStart (s : String) (length : Nat) : String :=
  String.ofList (List.replicate (length - s.length) '0') ++ s

/-- The PIN for the four bytes drawn. -/
def generateRandomPin (length : Nat) (bytes : UInt32) : String :=
  padStart (toString (bytes.toNat % 10 ^ length)) length

structure UniquePin where
  plainPin : String
  pinHash : String
  lookupHash : String
  deriving DecidableEq, Repr

/-- The first of the remaining attempts whose lookup hash is free. -/
def firstFree (s : Store) (length : Nat) (branchId : Id) (salt : String) (drawn : Nat → UInt32) :
    Nat → Nat → Option UniquePin
  | _, 0 => none
  | attempts, remaining + 1 =>
    let plainPin := generateRandomPin length (drawn attempts)
    let lookupHash := crypto.lookup branchId plainPin
    if (s.findByLookup lookupHash).isNone then
      some { plainPin, pinHash := crypto.hash salt plainPin, lookupHash }
    else firstFree s length branchId salt drawn (attempts + 1) remaining

def maxAttempts : Nat := 20

def generateUniquePin (length : Nat) (branchId : Id) (salt : String) (drawn : Nat → UInt32) :
    QuickPinDb UniquePin := do
  let s ← get
  need (firstFree crypto s length branchId salt drawn 0 maxAttempts)
    (badRequest "Unable to generate a unique PIN after maximum attempts. Please try again.")

structure IssuedPin where
  userId : Id
  pin : String
  pinLength : Nat
  tier : QuickPinTier
  branchId : Id
  deriving DecidableEq, Repr

/-- The branch asked for, else that of the user's default or first active membership. -/
def pinBranch (s : Store) (targetUserId : Id) (defaultBranchId : Option Id) : Option Id :=
  let memberships := s.activeMemberships targetUserId
  defaultBranchId <|>
    ((memberships.find? (·.isDefaultBranch) <|> memberships.head?).map (·.branchId))

def notEligible : HttpError := badRequest "User role is not eligible for quick PIN login"

def noMembership : HttpError := badRequest "User has no active branch membership"

def issueQuickPin (targetUserId : Id) (defaultBranchId : Option Id) (salt : String)
    (drawn : Nat → UInt32) : QuickPinDb IssuedPin := do
  let s ← get
  let user ← need (s.users.get? targetUserId) (notFound "User not found")
  let tier ← need (tierOf user.jobRoles) notEligible
  let pinLength := getPinLengthForTier tier
  let branchId ← need (pinBranch s targetUserId defaultBranchId) noMembership
  let { plainPin, pinHash, lookupHash } ← generateUniquePin crypto pinLength branchId salt drawn
  modify fun s => s.setUser targetUserId fun row =>
    { row with
      quickPinHash := some pinHash, pinLookupHash := some lookupHash, pinLength := some pinLength
      pinTier := some tier, quickPinEnabled := true, failedPinAttempts := 0
      pinLockedUntil := none }
  return { userId := targetUserId, pin := plainPin, pinLength, tier, branchId }

def resetQuickPin (targetUserId : Id) (defaultBranchId : Option Id) (salt : String)
    (drawn : Nat → UInt32) : QuickPinDb IssuedPin := do
  let s ← get
  let user ← need (s.users.get? targetUserId) (notFound "User not found")
  ensure (user.quickPinEnabled || user.quickPinHash.isSome)
    (badRequest "User does not have a quick PIN to reset")
  let tier ← need (user.pinTier <|> tierOf user.jobRoles) notEligible
  let pinLength := getPinLengthForTier tier
  let branchId ← need (pinBranch s targetUserId defaultBranchId) noMembership
  let { plainPin, pinHash, lookupHash } ← generateUniquePin crypto pinLength branchId salt drawn
  modify fun s => s.setUser targetUserId fun row =>
    { row with
      quickPinHash := some pinHash, pinLookupHash := some lookupHash, pinLength := some pinLength
      pinTier := some tier, failedPinAttempts := 0, pinLockedUntil := none }
  return { userId := targetUserId, pin := plainPin, pinLength, tier, branchId }

end

structure UpdateQuickPinSettingsDto where
  quickPinEnabled : Option Bool := none
  pinTier : Option QuickPinTier := none
  deriving DecidableEq, Repr

def updateQuickPinSettings (targetUserId : Id) (data : UpdateQuickPinSettingsDto) :
    QuickPinDb Unit := do
  let s ← get
  let _ ← need (s.users.get? targetUserId) (notFound "User not found")
  modify fun s => s.setUser targetUserId fun row =>
    { row with
      pinTier := data.pinTier <|> row.pinTier
      quickPinEnabled := data.quickPinEnabled.getD row.quickPinEnabled }

-- ---
-- What a login does
-- ---

section

variable (crypto : Crypto) (branchId : Id) (pin : String)

/-- The user that a PIN leads to. -/
def candidate (s : Store) : Option (Id × User) := s.findByLookup (crypto.lookup branchId pin)

/-- The user may try a PIN now. -/
def mayTry (now : Time) (user : User) : Bool :=
  user.isActive && user.quickPinEnabled && !lockedAt user now

def accepts (user : User) : Bool := user.quickPinHash.any (crypto.compare pin)

/-- The checks after the PIN. -/
def admitted (s : Store) (userId : Id) (user : User) : Bool :=
  (user.pinLength.all fun pinLength => pinLength == 0 || pin.length == pinLength) &&
    ((s.findMembership userId branchId).filter (·.isActive)).any (fun membership =>
      (s.branches.get? membership.branchId).all (·.isActive)) &&
    user.jobRoles.any fun jobRole => !excludedFromQuickPin.contains jobRole

def cleared (row : User) : User := { row with failedPinAttempts := 0, pinLockedUntil := none }

/-- A login that accepts the PIN, counts it against the user it leads to, or does
neither. -/
inductive LoginEffect (platform : SessionPlatform) (drawn : Drawn) (s : Store) :
    EStateM.Result HttpError Store Tokens → Prop
  | accepted (hplatform : quickPinAllowedPlatforms.contains platform = true)
      (hfound : candidate crypto branchId pin s = some (userId, user))
      (hmay : mayTry s.clock user = true) (haccepts : accepts crypto pin user = true) :
      LoginEffect platform drawn s (enter branchId pin platform drawn userId user s)
  | counted (hplatform : quickPinAllowedPlatforms.contains platform = true)
      (hfound : candidate crypto branchId pin s = some (userId, user))
      (hmay : mayTry s.clock user = true) (haccepts : accepts crypto pin user = false) :
      LoginEffect platform drawn s
        (.error invalidCredentials (s.setUser userId (countFailure s.clock user)))
  | refused (e : HttpError)
      (hrefused : ∀ userId user, quickPinAllowedPlatforms.contains platform = true →
        candidate crypto branchId pin s = some (userId, user) → mayTry s.clock user = true →
          user.quickPinHash = none) :
      LoginEffect platform drawn s (.error e s)

end

section

variable {crypto : Crypto} {branchId : Id} {pin : String} {platform : SessionPlatform}
  {drawn : Drawn} {userId : Id} {user : User} {s : Store}

theorem enter_ok (h : enter branchId pin platform drawn userId user s = .ok tokens t) :
    admitted branchId pin s userId user = true ∧ tokens.accessToken.sub = userId ∧
      t.users = s.users.update userId cleared ∧ t.clock = s.clock := by
  simp only [enter, bind_ok, ensure_ok, get_ok, need_ok, modify_ok, pure_ok,
    createSessionAndTokens] at h
  obtain ⟨_, _, ⟨hlength, rfl⟩, _, _, ⟨rfl, rfl⟩, membership, _, ⟨hmember, rfl⟩, _, _,
    ⟨hbranch, rfl⟩, _, _, ⟨hrole, rfl⟩, _, _, ⟨_, _, ⟨rfl, rfl⟩, _, _, rfl, rfl, rfl⟩, _, _,
    rfl, rfl, rfl⟩ := h
  refine ⟨?_, rfl, rfl, rfl⟩
  simp only [admitted, hlength, hmember, Option.any_some, hbranch, hrole, Bool.and_self]

theorem enter_returns (h : admitted branchId pin s userId user = true) :
    ∃ tokens t, enter branchId pin platform drawn userId user s = .ok tokens t := by
  simp only [admitted, Bool.and_eq_true] at h
  obtain ⟨⟨hlength, hmember⟩, hrole⟩ := h
  obtain ⟨membership, hmember, hbranch⟩ := Option.any_eq_true _ _ |>.mp hmember
  simp only [enter, bind_ok, ensure_ok, get_ok, need_ok, modify_ok, pure_ok,
    createSessionAndTokens]
  exact ⟨_, _, (), _, ⟨hlength, rfl⟩, _, _, ⟨rfl, rfl⟩, membership, _, ⟨hmember, rfl⟩, (), _,
    ⟨hbranch, rfl⟩, (), _, ⟨hrole, rfl⟩, _, _, ⟨_, _, ⟨rfl, rfl⟩, (), _, rfl, rfl, rfl⟩, (), _,
    rfl, rfl, rfl⟩

theorem createSession_total (orgId : Id) :
    Total (createSessionAndTokens userId platform orgId branchId drawn) := by
  intro s e t h
  cases h

/-- The checks come before the writes. -/
theorem enter_error (h : enter branchId pin platform drawn userId user s = .error e t) : t = s := by
  have hatomic : Atomic (enter branchId pin platform drawn userId user) := by
    refine (Reads.ensure _ _).then fun _ => Reads.get.then fun s => (Reads.need _ _).then fun m =>
      (Reads.ensure _ _).then fun _ => (Reads.ensure _ _).then fun _ => Total.atomic ?_
    exact (createSession_total _).bind fun _ => (Total.modify _).bind fun _ => Total.pure _
  exact hatomic s e t h

theorem login_effect (crypto : Crypto) (branchId : Id) (pin : String) (platform : SessionPlatform)
    (drawn : Drawn) (s : Store) : LoginEffect crypto branchId pin platform drawn s
      (quickPinLogin crypto branchId pin platform drawn s) := by
  unfold quickPinLogin
  cases hplatform : quickPinAllowedPlatforms.contains platform with
  | false =>
    refine .refused _ fun _ _ hallowed => ?_
    rw [hplatform] at hallowed
    cases hallowed
  | true =>
    cases hfound : s.findByLookup (crypto.lookup branchId pin) with
    | none =>
      simp only [run_bind, run_ensure, run_get, if_true, hfound, run_need_none]
      refine .refused _ fun _ _ _ hsome => ?_
      cases hfound.symm.trans hsome
    | some found =>
      obtain ⟨userId, user⟩ := found
      simp only [run_bind, run_ensure, run_get, if_true, hfound, run_need_some]
      cases hmay : mayTry s.clock user with
      | false =>
        have hrefused : LoginEffect crypto branchId pin platform drawn s
            (.error invalidCredentials s) := by
          refine .refused _ fun _ _ _ hsome hother => ?_
          cases hfound.symm.trans hsome
          cases hmay.symm.trans hother
        -- One of the three checks fails.
        simp only [mayTry] at hmay
        cases hactive : user.isActive <;> cases henabled : user.quickPinEnabled <;>
          cases hlocked : lockedAt user s.clock <;> simp_all
      | true =>
        have hchecks := hmay
        simp only [mayTry, Bool.and_eq_true] at hchecks
        obtain ⟨⟨hactive, henabled⟩, hopen⟩ := hchecks
        simp only [hactive, henabled, hopen, if_true]
        cases hhash : user.quickPinHash with
        | none =>
          refine .refused _ fun _ _ _ hsome _ => ?_
          cases hfound.symm.trans hsome
          exact hhash
        | some quickPinHash =>
          simp only [run_need_some]
          cases hcompare : crypto.compare pin quickPinHash with
          | true => exact .accepted hplatform hfound hmay (by simp [accepts, hhash, hcompare])
          | false => exact .counted hplatform hfound hmay (by simp [accepts, hhash, hcompare])

end

end NimbusPos.QuickPinService
