import NimbusPos.Common
import NimbusPos.Lib.Program

/-!
# Sessions and refresh tokens

Rotation of refresh tokens and the two logouts of the auth service. A token is stored
by its hash, belongs to a family and to a session, and is replaced by the token that
its refresh inserts. Each call is the program of its statements.
-/

namespace NimbusPos.AuthService

open Lib Lib.Program

structure User where
  isActive : Bool := true
  deriving DecidableEq, Repr

structure Session where
  userId : Id
  jti : String
  lastActivityAt : Time := 0
  revokedAt : Option Time := none
  deriving DecidableEq, Repr

structure RefreshToken where
  userId : Id
  tokenHash : String
  family : String
  sessionId : Id
  expiresAt : Time
  revokedAt : Option Time := none
  replacedById : Option Id := none
  deriving DecidableEq, Repr

structure Store where
  clock : Time := 0
  users : Table User := .empty
  sessions : Table Session := .empty
  refreshTokens : Table RefreshToken := .empty

/-- What is signed into an access token. -/
structure AccessToken where
  sub : Id
  jti : String
  deriving DecidableEq, Repr

structure TokenPair where
  accessToken : AccessToken
  refreshToken : String
  deriving DecidableEq, Repr

-- ---
-- Statements
-- ---

/-- `findToken` answers with the token and whether its user is active. -/
inductive Statement
  | now
  | findToken (tokenHash : String)
  | revokeFamily (family : String)
  | revokeToken (tokenId : Id)
  | findSession (sessionId : Id)
  | createToken (row : RefreshToken)
  | linkToken (tokenId replacedById : Id)
  | touchSession (sessionId : Id)
  | revokeSession (sessionId : Id)
  | revokeTokensOfSession (sessionId : Id)
  | revokeSessionsOf (userId : Id)
  | revokeTokensOf (userId : Id)
  deriving DecidableEq, Repr

abbrev Statement.Answer : Statement → Type
  | .now => Time
  | .findToken _ => Option (Id × RefreshToken × Bool)
  | .findSession _ => Option Session
  | .createToken _ => Id
  | _ => Unit

namespace Store

def tokenTaken (s : Store) (tokenHash : String) : Bool :=
  s.refreshTokens.count (fun _ token => token.tokenHash == tokenHash) != 0

def findToken (s : Store) (tokenHash : String) : Option (Id × RefreshToken × Bool) :=
  (s.refreshTokens.findFirst fun _ token => token.tokenHash == tokenHash).map fun found =>
    (found.1, found.2, (s.users.get? found.2.userId).any (·.isActive))

/-- `updateMany({ where: { …, revokedAt: null }, data: { revokedAt } })`. -/
def revokeTokens (s : Store) (p : RefreshToken → Bool) : Store :=
  { s with
    refreshTokens := s.refreshTokens.updateWhere
      (fun _ token => p token && token.revokedAt.isNone) fun token =>
        { token with revokedAt := some s.clock } }

def revokeSessions (s : Store) (p : Id → Session → Bool) : Store :=
  { s with
    sessions := s.sessions.updateWhere p fun session =>
      { session with revokedAt := some s.clock } }

def exec (s : Store) : (k : Statement) → Store × Except HttpError k.Answer
  | .now => (s, .ok s.clock)
  | .findToken tokenHash => (s, .ok (s.findToken tokenHash))
  | .revokeFamily family => (s.revokeTokens (·.family == family), .ok ())
  | .revokeToken tokenId =>
    ({ s with
      refreshTokens := s.refreshTokens.update tokenId fun token =>
        { token with revokedAt := some s.clock } }, .ok ())
  | .findSession sessionId => (s, .ok (s.sessions.get? sessionId))
  | .createToken row =>
    unlessTaken (s.tokenTaken row.tokenHash) "(tokenHash)" s
      { s with refreshTokens := s.refreshTokens.insert row } s.refreshTokens.next
  | .linkToken tokenId replacedById =>
    ({ s with
      refreshTokens := s.refreshTokens.update tokenId fun token =>
        { token with replacedById := some replacedById } }, .ok ())
  | .touchSession sessionId =>
    ({ s with
      sessions := s.sessions.update sessionId fun session =>
        { session with lastActivityAt := s.clock } }, .ok ())
  | .revokeSession sessionId =>
    if (s.sessions.get? sessionId).isSome then
      (s.revokeSessions fun k _ => k == sessionId, .ok ())
    else (s, .error (notFound "Record to update not found"))
  | .revokeTokensOfSession sessionId => (s.revokeTokens (·.sessionId == sessionId), .ok ())
  | .revokeSessionsOf userId =>
    (s.revokeSessions fun _ session => session.userId == userId && session.revokedAt.isNone, .ok ())
  | .revokeTokensOf userId => (s.revokeTokens (·.userId == userId), .ok ())

end Store

-- ---
-- Calls
-- ---

abbrev AuthProgram := Program Statement Statement.Answer HttpError

abbrev query (k : Statement) : AuthProgram k.Answer := statement k

def reuseDetected : HttpError :=
  unauthorized "Refresh token already used — all tokens in family revoked"

section

variable (hashToken : String → String) (refreshTtlMs : Nat)

/-- What follows the checks of the stored token: it is revoked, and its session gives
the successor. `drawn` is the token that `generateRefreshToken` gives. -/
def rotate (tokenId : Id) (token : RefreshToken) (drawn : String) : AuthProgram TokenPair := do
  query (.revokeToken tokenId)
  let found ← query (.findSession token.sessionId)
  let session ← need (found.filter (·.revokedAt.isNone)) (unauthorized "Session revoked")
  let now ← query .now
  let replacedById ← query (.createToken
    { userId := token.userId, tokenHash := hashToken drawn, family := token.family
      sessionId := token.sessionId, expiresAt := now + refreshTtlMs })
  query (.linkToken tokenId replacedById)
  query (.touchSession token.sessionId)
  return { accessToken := { sub := token.userId, jti := session.jti }, refreshToken := drawn }

def refresh (refreshToken drawn : String) : AuthProgram TokenPair := do
  let found ← query (.findToken (hashToken refreshToken))
  let (tokenId, token, isActive) ← need found (unauthorized "Invalid refresh token")
  match token.revokedAt with
  | some _ => do
    query (.revokeFamily token.family)
    throw reuseDetected
  | none => do
    let now ← query .now
    ensure (decide (now ≤ token.expiresAt)) (unauthorized "Refresh token expired")
    ensure isActive (unauthorized "User inactive")
    rotate hashToken refreshTtlMs tokenId token drawn

end

def logout (sessionId : Id) : AuthProgram Unit := do
  query (.revokeSession sessionId)
  query (.revokeTokensOfSession sessionId)

def logoutAll (userId : Id) : AuthProgram Unit := do
  query (.revokeSessionsOf userId)
  query (.revokeTokensOf userId)

inductive AuthCall
  | refresh (refreshToken drawn : String)
  | logout (sessionId : Id)
  | logoutAll (userId : Id)
  deriving DecidableEq, Repr

/-- A refresh returns its pair. -/
def AuthCall.program (hashToken : String → String) (refreshTtlMs : Nat) :
    AuthCall → AuthProgram (Option TokenPair)
  | .refresh refreshToken drawn => do
    let pair ← AuthService.refresh hashToken refreshTtlMs refreshToken drawn
    return some pair
  | .logout sessionId => do
    AuthService.logout sessionId
    return none
  | .logoutAll userId => do
    AuthService.logoutAll userId
    return none

end NimbusPos.AuthService
