import Mathlib.Logic.Function.Basic
import NimbusPos.Access.Guards
import NimbusPos.Lib.Run

/-!
# What an admitted request was granted

Permissions come from all roles of a user, wherever they were assigned, as they were when
the access token was signed; the branch comes from a membership that was looked up a
while ago. So the role of the membership does not bound what is done in its branch. What
does hold of every admitted request is what the two guards looked at, each in its time.
-/

namespace NimbusPos.Access

open Lib Lib.Service BranchContextGuard

structure Request where
  payload : JwtPayload
  requiredPermissions : List String := []
  requireBranch : Bool := true
  /-- The `X-Branch-Id` header. -/
  branchId : Option Id := none
  deriving DecidableEq, Repr

/-- A request whose token was validated. -/
structure Visit where
  request : Request
  user : RequestUser
  arrivedAt : Time
  deriving DecidableEq, Repr

inductive Answer
  | admitted (visit : Visit) (context : Option BranchContextValue) (time : Time)
  | refused (request : Request) (error : HttpError)
  deriving DecidableEq, Repr

/-- A lookup under way, and the requests that wait for it. -/
structure Pending where
  lookup : Lookup := .membership
  waiting : List Visit

/-- The store, the tokens signed so far, what one process of the server remembers, and
what requests were answered. -/
structure World where
  store : Store := {}
  signed : List JwtPayload := []
  contextCache : Id × Id → Option CachedContext := fun _ => none
  pendingContext : Id × Id → Option Pending := fun _ => none
  answers : List Answer := []

/-- `edit` is whatever else is done to users, roles, assignments, branches and
memberships. The credentials of a `signIn` were checked, and the token of a `refresh`. -/
inductive Event
  | signIn (userId : Id) (jti : String) (orgId branchId : Option Id)
  | refresh (sessionId : Id)
  | revokeSession (sessionId : Id)
  | createMembership (orgId branchId : Id) (dto : CreateMembershipDto)
  | edit (change : Directory → Directory)
  | wait (ms : Nat)
  | request (request : Request)
  | query (userId branchId : Id)
  | resolve (userId branchId : Id)

namespace World

def answer (w : World) (answer : Answer) : World := { w with answers := w.answers ++ [answer] }

section

variable (accessTtlMs refreshTtlMs : Nat)

/-- `signAccessToken`, with the claims of the user's roles. -/
def payload (w : World) (userId : Id) (user : User) (jti : String) : JwtPayload where
  sub := userId
  email := user.email
  jti := jti
  roles := w.store.directory.roleClaims userId
  permissions := w.store.directory.permissionClaims userId
  exp := w.store.clock + accessTtlMs

/-- `createSessionAndTokens`; the `jti` of a session is unique. -/
def signIn (w : World) (userId : Id) (jti : String) (orgId branchId : Option Id) : World :=
  match w.store.directory.users.get? userId with
  | some user =>
    if w.store.sessions.count (fun _ session => session.jti == jti) != 0 then w
    else
      { w with
        store := { w.store with
          sessions := w.store.sessions.insert {
            userId, jti, orgId, branchId, lastActivityAt := w.store.clock
            expiresAt := w.store.clock + refreshTtlMs } }
        signed := w.payload accessTtlMs userId user jti :: w.signed }
  | none => w

/-- A new access token for a session. -/
def refresh (w : World) (sessionId : Id) : World :=
  match w.store.sessions.get? sessionId with
  | some session =>
    match w.store.directory.users.get? session.userId with
    | some user =>
      { w with signed := w.payload accessTtlMs session.userId user session.jti :: w.signed }
    | none => w
  | none => w

end

def revokeSession (w : World) (sessionId : Id) : World :=
  { w with
    store := { w.store with
      sessions := w.store.sessions.update sessionId fun session =>
        { session with revokedAt := some w.store.clock } } }

/-- `JwtAuthGuard`: the signature, the expiry, and the strategy. -/
def authenticate (w : World) (payload : JwtPayload) :
    EStateM.Result HttpError Store RequestUser :=
  if payload ∈ w.signed ∧ w.store.clock < payload.exp then validate payload w.store
  else .error (unauthorized "Unauthorized") w.store

/-- A request waits for the lookup of its user and branch, which starts if there is none. -/
def join (w : World) (key : Id × Id) (visit : Visit) : World :=
  let pending := match w.pendingContext key with
    | some pending => { pending with waiting := pending.waiting ++ [visit] }
    | none => { waiting := [visit] }
  { w with pendingContext := Function.update w.pendingContext key (some pending) }

/-- `BranchContextGuard.canActivate`. -/
def enter (w : World) (visit : Visit) : World :=
  if visit.request.requireBranch then
    match visit.request.branchId with
    | none => w.answer (.refused visit.request (badRequest "X-Branch-Id header is required"))
    | some branchId =>
      match (w.contextCache (visit.user.id, branchId)).filter fun cached =>
          decide (w.store.clock < cached.expiresAt) with
      | some cached => w.answer (.admitted visit (some cached.value) w.store.clock)
      | none => w.join (visit.user.id, branchId) visit
  else w.answer (.admitted visit none w.store.clock)

/-- The guards of a controller, in their order. -/
def request (w : World) (request : Request) : World :=
  match w.authenticate request.payload with
  | .error error store => { w with store }.answer (.refused request error)
  | .ok user store =>
    match PermissionGuard.canActivate request.requiredPermissions (some user) with
    | .error error => { w with store }.answer (.refused request error)
    | .ok () => { w with store }.enter { request, user, arrivedAt := w.store.clock }

def query (w : World) (key : Id × Id) : World :=
  { w with
    pendingContext := Function.update w.pendingContext key <|
      (w.pendingContext key).map fun pending =>
        { pending with lookup := pending.lookup.next w.store.directory key.1 key.2 } }

/-- The lookup is answered: it is no longer pending, and those who wait go on. -/
def resolve (w : World) (key : Id × Id) : World :=
  match w.pendingContext key with
  | some { lookup := .settled (.ok value), waiting } =>
    { w with
      contextCache := Function.update w.contextCache key
        (some { expiresAt := w.store.clock + cacheTtlMs, value })
      pendingContext := Function.update w.pendingContext key none
      answers := w.answers ++ waiting.map fun visit =>
        .admitted visit (some value) w.store.clock }
  | some { lookup := .settled (.error error), waiting } =>
    { w with
      pendingContext := Function.update w.pendingContext key none
      answers := w.answers ++ waiting.map fun visit => .refused visit.request error }
  | _ => w

end World

def next (accessTtlMs refreshTtlMs : Nat) (w : World) : Event → World
  | .signIn userId jti orgId branchId =>
    w.signIn accessTtlMs refreshTtlMs userId jti orgId branchId
  | .refresh sessionId => w.refresh accessTtlMs sessionId
  | .revokeSession sessionId => w.revokeSession sessionId
  | .createMembership orgId branchId dto =>
    { w with
      store := { w.store with
        directory := final (createMembership orgId branchId dto w.store.directory) } }
  | .edit change => { w with store := { w.store with directory := change w.store.directory } }
  | .wait ms => { w with store := { w.store with clock := w.store.clock + ms } }
  | .request request => w.request request
  | .query userId branchId => w.query (userId, branchId)
  | .resolve userId branchId => w.resolve (userId, branchId)

end NimbusPos.Access
