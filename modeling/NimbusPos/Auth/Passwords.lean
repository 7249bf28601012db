import NimbusPos.Common
import NimbusPos.Lib.Program

/-!
# Passwords and the tokens they end

The three ways to change a password, by a reset token, by the old password and by an
invitation, with the calls that issue and accept sessions and refresh tokens. Each call
is the program of its statements; a transaction is one of them.
-/

namespace NimbusPos.Passwords

open Lib Lib.Program

structure User where
  email : String
  passwordHash : String
  firstName : String := ""
  lastName : String := ""
  isActive : Bool := true
  mustChangePassword : Bool := false
  deriving DecidableEq, Repr

inductive PasswordResetPurpose
  | forgotPassword
  | invitationFirstLogin
  | forceResetByAdmin
  deriving DecidableEq, Repr

structure PasswordResetToken where
  userId : Id
  tokenHash : String
  purpose : PasswordResetPurpose := .forgotPassword
  expiresAt : Time
  consumedAt : Option Time := none
  invalidatedAt : Option Time := none
  deriving DecidableEq, Repr

inductive InvitationStatus
  | pending
  | accepted
  | expired
  | revoked
  deriving DecidableEq, Repr

structure Invitation where
  organizationId : Id
  branchId : Id
  email : String
  tokenHash : String
  status : InvitationStatus := .pending
  expiresAt : Time
  userId : Option Id := none
  deriving DecidableEq, Repr

structure Session where
  userId : Id
  jti : String
  expiresAt : Time
  lastActivityAt : Time := 0
  revokedAt : Option Time := none
  deriving DecidableEq, Repr

structure RefreshToken where
  userId : Id
  tokenHash : String
  family : String
  sessionId : Id
  expiresAt : Time
  revokedAt : Option Time := none
  replacedById : Option Id := none
  deriving DecidableEq, Repr

structure Store where
  clock : Time := 0
  users : Table User := .empty
  resetTokens : Table PasswordResetToken := .empty
  invitations : Table Invitation := .empty
  sessions : Table Session := .empty
  refreshTokens : Table RefreshToken := .empty

-- ---
-- Statements
-- ---

/-- `findRefreshToken` and `findSessionByJti` answer with the row and whether its user is
active. The token that a refresh looks a session up for goes with the lookup. -/
inductive Statement
  | now
  | findUserByEmail (email : String)
  | findUser (userId : Id)
  | invalidateForgotten (userId : Id)
  | createResetToken (row : PasswordResetToken)
  | findResetToken (tokenHash : String)
  | resetPassword (userId tokenId : Id) (passwordHash : String)
  | changePassword (userId : Id) (passwordHash : String)
  | findInvitation (tokenHash : String)
  | expireInvitation (invitationId : Id)
  | acceptInvitation (invitationId userId : Id) (passwordHash : String)
      (firstName lastName : Option String)
  | createSession (row : Session)
  | createRefreshToken (row : RefreshToken)
  | findRefreshToken (tokenHash : String)
  | revokeFamily (family : String)
  | revokeRefreshToken (tokenId : Id)
  | findSession (tokenId : Id) (token : RefreshToken)
  | linkRefreshToken (tokenId replacedById : Id)
  | touchSession (sessionId : Id) (now : Time)
  | findSessionByJti (jti : String)
  deriving DecidableEq, Repr

abbrev Statement.Answer : Statement → Type
  | .now => Time
  | .findUserByEmail _ => Option (Id × User)
  | .findUser _ => Option User
  | .findResetToken _ => Option (Id × PasswordResetToken)
  | .findInvitation _ => Option (Id × Invitation)
  | .createSession _ | .createRefreshToken _ => Id
  | .findRefreshToken _ => Option (Id × RefreshToken × Bool)
  | .findSession .. => Option Session
  | .findSessionByJti _ => Option (Id × Session × Bool)
  | _ => Unit

namespace Store

def isActive (s : Store) (userId : Id) : Bool := (s.users.get? userId).any (·.isActive)

def findRefreshToken (s : Store) (tokenHash : String) : Option (Id × RefreshToken × Bool) :=
  (s.refreshTokens.findFirst fun _ token => token.tokenHash == tokenHash).map fun found =>
    (found.1, found.2, s.isActive found.2.userId)

def findSessionByJti (s : Store) (jti : String) : Option (Id × Session × Bool) :=
  (s.sessions.findFirst fun _ session => session.jti == jti).map fun found =>
    (found.1, found.2, s.isActive found.2.userId)

/-- `updateMany({ where: { …, consumedAt: null, invalidatedAt: null } })`. -/
def invalidate (s : Store) (p : PasswordResetToken → Bool) : Table PasswordResetToken :=
  s.resetTokens.updateWhere
    (fun _ row => p row && row.consumedAt.isNone && row.invalidatedAt.isNone) fun row =>
      { row with invalidatedAt := some s.clock }

def revokeTokens (s : Store) (p : RefreshToken → Bool) : Table RefreshToken :=
  s.refreshTokens.updateWhere (fun _ token => p token && token.revokedAt.isNone) fun token =>
    { token with revokedAt := some s.clock }

/-- The transaction of a reset. -/
def resetPassword (s : Store) (userId tokenId : Id) (passwordHash : String) : Store :=
  { s with
    users := s.users.update userId fun user =>
      { user with passwordHash, mustChangePassword := false }
    resetTokens := s.resetTokens.update tokenId fun row => { row with consumedAt := some s.clock }
    sessions := s.sessions.updateWhere
      (fun _ session => session.userId == userId && session.revokedAt.isNone) fun session =>
        { session with revokedAt := some s.clock }
    refreshTokens := s.revokeTokens (·.userId == userId) }

/-- The transaction of an acceptance. -/
def acceptInvitation (s : Store) (invitationId userId : Id) (passwordHash : String)
    (firstName lastName : Option String) : Store :=
  { s with
    users := s.users.update userId fun user =>
      { user with
        passwordHash, mustChangePassword := false, isActive := true
        firstName := firstName.getD user.firstName, lastName := lastName.getD user.lastName }
    invitations := s.invitations.update invitationId fun row => { row with status := .accepted }
    resetTokens := s.invalidate fun row =>
      row.userId == userId && row.purpose == .invitationFirstLogin }

/-- A write to rows that must be there. -/
def written (found : Bool) (s t : Store) : Store × Except HttpError Unit :=
  if found then (t, .ok ()) else (s, .error (notFound "Record to update not found"))

def exec (s : Store) : (k : Statement) → Store × Except HttpError k.Answer
  | .now => (s, .ok s.clock)
  | .findUserByEmail email => (s, .ok (s.users.findFirst fun _ user => user.email == email))
  | .findUser userId => (s, .ok (s.users.get? userId))
  | .invalidateForgotten userId =>
    ({ s with
      resetTokens := s.invalidate fun row =>
        row.userId == userId && row.purpose == .forgotPassword }, .ok ())
  | .createResetToken row =>
    unlessTaken (s.resetTokens.count (fun _ other => other.tokenHash == row.tokenHash) != 0)
      "(tokenHash)" s { s with resetTokens := s.resetTokens.insert row } ()
  | .findResetToken tokenHash =>
    (s, .ok (s.resetTokens.findFirst fun _ row => row.tokenHash == tokenHash))
  | .resetPassword userId tokenId passwordHash =>
    written ((s.users.get? userId).isSome && (s.resetTokens.get? tokenId).isSome) s
      (s.resetPassword userId tokenId passwordHash)
  | .changePassword userId passwordHash =>
    written (s.users.get? userId).isSome s
      { s with
        users := s.users.update userId fun user =>
          { user with passwordHash, mustChangePassword := false } }
  | .findInvitation tokenHash =>
    (s, .ok (s.invitations.findFirst fun _ row => row.tokenHash == tokenHash))
  | .expireInvitation invitationId =>
    written (s.invitations.get? invitationId).isSome s
      { s with
        invitations := s.invitations.update invitationId fun row =>
          { row with status := .expired } }
  | .acceptInvitation invitationId userId passwordHash firstName lastName =>
    written ((s.users.get? userId).isSome && (s.invitations.get? invitationId).isSome) s
      (s.acceptInvitation invitationId userId passwordHash firstName lastName)
  | .createSession row =>
    unlessTaken (s.sessions.count (fun _ other => other.jti == row.jti) != 0) "(jti)" s
      { s with sessions := s.sessions.insert row } s.sessions.next
  | .createRefreshToken row =>
    unlessTaken (s.refreshTokens.count (fun _ other => other.tokenHash == row.tokenHash) != 0)
      "(tokenHash)" s { s with refreshTokens := s.refreshTokens.insert row } s.refreshTokens.next
  | .findRefreshToken tokenHash => (s, .ok (s.findRefreshToken tokenHash))
  | .revokeFamily family =>
    ({ s with refreshTokens := s.revokeTokens (·.family == family) }, .ok ())
  | .revokeRefreshToken tokenId =>
    ({ s with
      refreshTokens := s.refreshTokens.update tokenId fun token =>
        { token with revokedAt := some s.clock } }, .ok ())
  | .findSession _ token => (s, .ok (s.sessions.get? token.sessionId))
  | .linkRefreshToken tokenId replacedById =>
    ({ s with
      refreshTokens := s.refreshTokens.update tokenId fun token =>
        { token with replacedById := some replacedById } }, .ok ())
  | .touchSession sessionId now =>
    ({ s with
      sessions := s.sessions.update sessionId fun session =>
        { session with lastActivityAt := now } }, .ok ())
  | .findSessionByJti jti => (s, .ok (s.findSessionByJti jti))

end Store

-- ---
-- Calls
-- ---

abbrev PasswordProgram := Program Statement Statement.Answer HttpError

abbrev query (k : Statement) : PasswordProgram k.Answer := statement k

/-- What the services are given: `email.toLowerCase().trim()`, the digest of a token,
`bcrypt.compare`, the lifetime of a session, and whether replies show reset tokens. -/
structure Environment where
  normalizeEmail : String → String
  hashToken : String → String
  compare : String → String → Bool
  refreshTtlMs : Nat
  exposeForDev : Bool := false

def resetTtlMinutes : Nat := 60

structure ResetPasswordDto where
  resetToken : String
  /-- The hash of the new password. -/
  passwordHash : String
  deriving DecidableEq, Repr

structure ForcePasswordChangeDto where
  currentPassword : String
  newPassword : String
  passwordHash : String
  deriving DecidableEq, Repr

structure AcceptInvitationDto where
  invitationToken : String
  passwordHash : String
  firstName : Option String := none
  lastName : Option String := none
  deriving DecidableEq, Repr

/-- What a sign-in draws. -/
structure Drawn where
  jti : String
  family : String
  refreshToken : String
  deriving DecidableEq, Repr

inductive Reply
  | requested (shown : Option (String × Time))
  | reset (userId : Id) (email : String)
  | forced (userId : Id)
  | accepted (invitationId userId organizationId branchId : Id)
  | signedIn (userId sessionId : Id) (jti refreshToken : String)
  | refreshed (userId : Id) (jti refreshToken : String)
  | validated (userId sessionId : Id)
  deriving DecidableEq, Repr

section

variable (env : Environment)

def forgotPassword (email plaintext : String) : PasswordProgram Reply := do
  let user ← query (.findUserByEmail (env.normalizeEmail email))
  match user.filter (·.2.isActive) with
  | none => return .requested none
  | some (userId, _) => do
    query (.invalidateForgotten userId)
    let now ← query .now
    let expiresAt := now + resetTtlMinutes * 60 * 1000
    query (.createResetToken { userId, tokenHash := env.hashToken plaintext, expiresAt })
    return .requested (if env.exposeForDev then some (plaintext, expiresAt) else none)

def resetPassword (dto : ResetPasswordDto) : PasswordProgram Reply := do
  let found ← query (.findResetToken (env.hashToken dto.resetToken))
  let (tokenId, record) ← need found (notFound "Reset token not found")
  ensure record.consumedAt.isNone (conflict "Reset token already used")
  ensure record.invalidatedAt.isNone (conflict "Reset token has been invalidated")
  let now ← query .now
  ensure (decide (now ≤ record.expiresAt)) (conflict "Reset token has expired")
  let user ← query (.findUser record.userId)
  let user ← need (user.filter (·.isActive)) (unauthorized "User inactive or missing")
  query (.resetPassword record.userId tokenId dto.passwordHash)
  return .reset record.userId user.email

def forcePasswordChange (userId : Id) (dto : ForcePasswordChangeDto) : PasswordProgram Reply := do
  let user ← query (.findUser userId)
  let user ← need (user.filter (·.isActive)) (unauthorized "User inactive or missing")
  ensure (env.compare dto.currentPassword user.passwordHash)
    (unauthorized "Current password is invalid")
  ensure (dto.currentPassword != dto.newPassword)
    (badRequest "New password must differ from current password")
  query (.changePassword userId dto.passwordHash)
  return .forced userId

/-- The user the invitation is bound to, else the one with its e-mail. -/
def findTarget (invitation : Invitation) : PasswordProgram (Option Id) :=
  match invitation.userId with
  | some userId => do
    let user ← query (.findUser userId)
    return user.map fun _ => userId
  | none => do
    let user ← query (.findUserByEmail invitation.email)
    return user.map (·.1)

/-- `…(text ? { text } : {})`. -/
def given (text : Option String) : Option String := text.filter fun text => !text.isEmpty

/-- The update of an acceptance, for an invitation that may still be accepted. -/
def acceptFor (dto : AcceptInvitationDto) (invitationId : Id) (invitation : Invitation) :
    PasswordProgram Reply := do
  let user ← findTarget invitation
  let userId ← need user (notFound "User attached to invitation no longer exists")
  query (.acceptInvitation invitationId userId dto.passwordHash (given dto.firstName)
    (given dto.lastName))
  return .accepted invitationId userId invitation.organizationId invitation.branchId

def markExpired (invitationId : Id) (invitation : Invitation) : PasswordProgram Unit :=
  if invitation.status != .expired then query (.expireInvitation invitationId) else pure ()

def accept (dto : AcceptInvitationDto) : PasswordProgram Reply := do
  let found ← query (.findInvitation (env.hashToken dto.invitationToken))
  let (invitationId, invitation) ← need found (notFound "Invitation not found")
  ensure (invitation.status != .accepted) (conflict "Invitation already accepted")
  ensure (invitation.status != .revoked) (conflict "Invitation has been revoked")
  let now ← query .now
  if invitation.expiresAt < now || invitation.status == .expired then do
    markExpired invitationId invitation
    throw (conflict "Invitation has expired")
  else acceptFor dto invitationId invitation

def createSessionAndTokens (userId : Id) (drawn : Drawn) : PasswordProgram Reply := do
  let now ← query .now
  let sessionId ← query
    (.createSession { userId, jti := drawn.jti, expiresAt := now + env.refreshTtlMs })
  let now ← query .now
  let _ ← query (.createRefreshToken
    { userId, tokenHash := env.hashToken drawn.refreshToken, family := drawn.family, sessionId
      expiresAt := now + env.refreshTtlMs })
  return .signedIn userId sessionId drawn.jti drawn.refreshToken

def login (email password : String) (drawn : Drawn) : PasswordProgram Reply := do
  let found ← query (.findUserByEmail email)
  let (userId, user) ← need (found.filter (·.2.isActive)) (unauthorized "Invalid credentials")
  ensure (env.compare password user.passwordHash) (unauthorized "Invalid credentials")
  createSessionAndTokens env userId drawn

/-- What follows the checks of the stored token: it is revoked, and its session gives
the successor. -/
def rotate (tokenId : Id) (token : RefreshToken) (drawn : String) : PasswordProgram Reply := do
  query (.revokeRefreshToken tokenId)
  let found ← query (.findSession tokenId token)
  let session ← need (found.filter (·.revokedAt.isNone)) (unauthorized "Session revoked")
  let now ← query .now
  let replacedById ← query (.createRefreshToken
    { userId := token.userId, tokenHash := env.hashToken drawn, family := token.family
      sessionId := token.sessionId, expiresAt := now + env.refreshTtlMs })
  query (.linkRefreshToken tokenId replacedById)
  let now ← query .now
  query (.touchSession token.sessionId now)
  return .refreshed token.userId session.jti drawn

def refresh (refreshToken drawn : String) : PasswordProgram Reply := do
  let found ← query (.findRefreshToken (env.hashToken refreshToken))
  let (tokenId, token, isActive) ← need found (unauthorized "Invalid refresh token")
  match token.revokedAt with
  | some _ => do
    query (.revokeFamily token.family)
    throw (unauthorized "Refresh token already used — all tokens in family revoked")
  | none => do
    let now ← query .now
    ensure (decide (now ≤ token.expiresAt)) (unauthorized "Refresh token expired")
    ensure isActive (unauthorized "User inactive")
    rotate env tokenId token drawn

/-- The activity of a session is noted once a minute. -/
def noteActivity (sessionId : Id) (session : Session) (now : Time) : PasswordProgram Unit :=
  if 60000 < now - session.lastActivityAt then query (.touchSession sessionId now) else pure ()

/-- What `JwtStrategy.validate` makes of the `jti` of an access token. -/
def validate (jti : String) : PasswordProgram Reply := do
  let found ← query (.findSessionByJti jti)
  let (sessionId, session, isActive) ← need (found.filter (·.2.1.revokedAt.isNone))
    (unauthorized "Session revoked or expired")
  let now ← query .now
  ensure (decide (now ≤ session.expiresAt)) (unauthorized "Session expired")
  ensure isActive (unauthorized "User not found or inactive")
  noteActivity sessionId session now
  return .validated session.userId sessionId

/-- `pinLogin` checks a PIN, and signs in as `createSessionAndTokens` does. -/
inductive PasswordCall
  | forgotPassword (email plaintext : String)
  | resetPassword (dto : ResetPasswordDto)
  | forcePasswordChange (userId : Id) (dto : ForcePasswordChangeDto)
  | accept (dto : AcceptInvitationDto)
  | login (email password : String) (drawn : Drawn)
  | pinLogin (userId : Id) (drawn : Drawn)
  | refresh (refreshToken drawn : String)
  | validate (jti : String)
  deriving DecidableEq, Repr

def PasswordCall.program : PasswordCall → PasswordProgram Reply
  | .forgotPassword email plaintext => Passwords.forgotPassword env email plaintext
  | .resetPassword dto => Passwords.resetPassword env dto
  | .forcePasswordChange userId dto => Passwords.forcePasswordChange env userId dto
  | .accept dto => Passwords.accept env dto
  | .login email password drawn => Passwords.login env email password drawn
  | .pinLogin userId drawn => createSessionAndTokens env userId drawn
  | .refresh refreshToken drawn => Passwords.refresh env refreshToken drawn
  | .validate jti => Passwords.validate jti

end

end NimbusPos.Passwords
