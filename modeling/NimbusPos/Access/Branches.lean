import NimbusPos.Access.Requests

/-!
# Permissions and branches

The invariant of the guards, event by event, and from it what every admitted request was
granted. At the end, three requests that the role of their membership does not permit.
-/

namespace NimbusPos.Access

open Lib Lib.Service BranchContextGuard

/-- The role of an ACTIVE membership of the user in the admitted branch has every
permission that the route requires. -/
def Answer.confined (d : Directory) : Answer → Bool
  | .admitted visit (some value) _ =>
    (d.memberships.findMany fun _ membership => membership.userId == visit.user.id &&
        membership.branchId == value.branchId && membership.status == .active).any fun row =>
      visit.request.requiredPermissions.all ((d.actionsOf row.2.roleId).contains ·)
  | _ => true

section

variable (accessTtlMs : Nat) (past : (World → Prop) → Prop)

/-- At the time of the state the user had, through whatever roles, every permission that
the request requires. If the token names permissions, it is the time it was signed; else
the request had just arrived. -/
def Visit.PermittedAt (visit : Visit) (w : World) : Prop :=
  (∀ action ∈ visit.request.requiredPermissions,
    ∃ row ∈ w.store.directory.assignedRoles visit.user.id,
      action ∈ w.store.directory.actionsOf row.1) ∧
  if visit.request.payload.selfContained then
    visit.request.payload.exp = w.store.clock + accessTtlMs
  else visit.arrivedAt = w.store.clock

/-- The lookup for the user and branch has found the context, and its answer is there. -/
def World.Found (w : World) (key : Id × Id) (value : BranchContextValue) : Prop :=
  ∃ pending, w.pendingContext key = some pending ∧ pending.lookup = .settled (.ok value)

/-- A context that a membership granted, by a lookup that ended at most so long before. -/
structure Granted (key : Id × Id) (value : BranchContextValue) (time : Time) : Prop where
  membership : past fun w => Grants w.store.directory key.1 key.2 value
  found : past fun w => w.Found key value ∧ time ≤ w.store.clock + cacheTtlMs

/-- The guards let the request through. -/
structure Admissible (visit : Visit) (context : Option BranchContextValue) (time : Time) :
    Prop where
  permitted : past (visit.PermittedAt accessTtlMs)
  granted : ∀ value ∈ context, ∃ branchId, visit.request.branchId = some branchId ∧
    Granted past (visit.user.id, branchId) value time

/-- The claims of a token are those of its subject when it was signed. -/
def JwtPayload.ClaimsOf (payload : JwtPayload) (w : World) : Prop :=
  payload.permissions = w.store.directory.permissionClaims payload.sub ∧
    payload.exp = w.store.clock + accessTtlMs

structure Sound (w : World) : Prop where
  signed : ∀ payload ∈ w.signed, past (payload.ClaimsOf accessTtlMs)
  unique : ∀ k k' session session', w.store.sessions.get? k = some session →
    w.store.sessions.get? k' = some session' → session.jti = session'.jti → k = k'
  issued : ∀ payload ∈ w.signed, ∃ k session, w.store.sessions.get? k = some session ∧
    session.owner = (payload.sub, payload.jti)
  cached : ∀ key cached, w.contextCache key = some cached →
    Granted past key cached.value cached.expiresAt
  found : ∀ key value, w.Found key value → past fun v => Grants v.store.directory key.1 key.2 value
  waiting : ∀ key pending, w.pendingContext key = some pending → ∀ visit ∈ pending.waiting,
    visit.user.id = key.1 ∧ visit.request.branchId = some key.2 ∧
      past (visit.PermittedAt accessTtlMs)
  answers : ∀ visit context time, .admitted visit context time ∈ w.answers →
    Admissible accessTtlMs past visit context time

end

variable {accessTtlMs refreshTtlMs : Nat} {past past' : (World → Prop) → Prop} {w : World}

-- ---
-- What was stays
-- ---

theorem Granted.lift (h : Granted past key value time) (hpast : ∀ P, past P → past' P) :
    Granted past' key value time :=
  ⟨hpast _ h.membership, hpast _ h.found⟩

theorem Admissible.lift (h : Admissible accessTtlMs past visit context time)
    (hpast : ∀ P, past P → past' P) : Admissible accessTtlMs past' visit context time := by
  refine ⟨hpast _ h.permitted, fun value hvalue => ?_⟩
  obtain ⟨branchId, hbranch, hgranted⟩ := h.granted value hvalue
  exact ⟨branchId, hbranch, hgranted.lift hpast⟩

theorem Sound.lift (h : Sound accessTtlMs past w) (hpast : ∀ P, past P → past' P) :
    Sound accessTtlMs past' w where
  signed payload hmem := hpast _ (h.signed payload hmem)
  unique := h.unique
  issued := h.issued
  cached key cached hget := (h.cached key cached hget).lift hpast
  found key value hfound := hpast _ (h.found key value hfound)
  waiting key pending hget visit hmem :=
    have hvisit := h.waiting key pending hget visit hmem
    ⟨hvisit.1, hvisit.2.1, hpast _ hvisit.2.2⟩
  answers visit context time hmem := (h.answers visit context time hmem).lift hpast

theorem Granted.earlier (h : Granted past key value time) (hle : time' ≤ time)
    (hmono : ∀ P Q, past P → (∀ w, P w → Q w) → past Q) : Granted past key value time' :=
  ⟨h.membership, hmono _ _ h.found fun _ hfound => ⟨hfound.1, hle.trans hfound.2⟩⟩

-- ---
-- Tokens
-- ---

/-- The sessions keep their owners, and nothing else that the invariant is about moves. -/
theorem Sound.store (h : Sound accessTtlMs past w) {store : Store}
    (hsame : Table.SameRows Session.owner w.store.sessions store.sessions) :
    Sound accessTtlMs past { w with store } where
  signed := h.signed
  unique k k' session session' hget hget' hjti := by
    obtain ⟨old, hold, howner⟩ := hsame.back hget
    obtain ⟨old', hold', howner'⟩ := hsame.back hget'
    have holdJti : old.jti = old'.jti :=
      (congrArg Prod.snd howner).symm.trans (hjti.trans (congrArg Prod.snd howner'))
    exact h.unique k k' old old' hold hold' holdJti
  issued payload hmem := by
    obtain ⟨k, old, hold, howner⟩ := h.issued payload hmem
    obtain ⟨session, hget, hsame⟩ := hsame.forth hold
    exact ⟨k, session, hget, hsame.trans howner⟩
  cached := h.cached
  found := h.found
  waiting := h.waiting
  answers := h.answers

/-- A session of the user has the token's `jti`. -/
theorem Sound.sign (h : Sound accessTtlMs past w) {payload : JwtPayload}
    (hclaims : past (payload.ClaimsOf accessTtlMs))
    (hsession : w.store.sessions.get? k = some session)
    (howner : session.owner = (payload.sub, payload.jti)) :
    Sound accessTtlMs past { w with signed := payload :: w.signed } where
  signed payload hmem := by
    rcases List.mem_cons.mp hmem with rfl | hmem
    · exact hclaims
    · exact h.signed payload hmem
  unique := h.unique
  issued payload hmem := by
    rcases List.mem_cons.mp hmem with rfl | hmem
    · exact ⟨k, session, hsession, howner⟩
    · exact h.issued payload hmem
  cached := h.cached
  found := h.found
  waiting := h.waiting
  answers := h.answers

theorem Sound.newSession (h : Sound accessTtlMs past w) (row : Session)
    (hfree : w.store.sessions.count (fun _ session => session.jti == row.jti) = 0) :
    Sound accessTtlMs past { w with
      store := { w.store with sessions := w.store.sessions.insert row } } where
  signed := h.signed
  unique k k' session session' hget hget' hjti := by
    rw [Table.count_eq_zero] at hfree
    rcases Table.insert_cases hget with ⟨hk, rfl⟩ | hget <;>
      rcases Table.insert_cases hget' with ⟨hk', rfl⟩ | hget'
    · exact hk.trans hk'.symm
    · exact absurd hjti.symm (by simpa using hfree k' session' hget')
    · exact absurd hjti (by simpa using hfree k session hget)
    · exact h.unique k k' session session' hget hget' hjti
  issued payload hmem := by
    obtain ⟨k, session, hget, howner⟩ := h.issued payload hmem
    exact ⟨k, session, Table.get?_insert_of_some hget, howner⟩
  cached := h.cached
  found := h.found
  waiting := h.waiting
  answers := h.answers

theorem Sound.signIn (h : Sound accessTtlMs past w) (hnow : ∀ P, P w → past P) (userId : Id)
    (jti : String) (orgId branchId : Option Id) :
    Sound accessTtlMs past (w.signIn accessTtlMs refreshTtlMs userId jti orgId branchId) := by
  unfold World.signIn
  split
  · rename_i user huser
    split
    · exact h
    · rename_i hfree
      have hclaims : past ((w.payload accessTtlMs userId user jti).ClaimsOf accessTtlMs) :=
        hnow _ ⟨rfl, rfl⟩
      refine (h.newSession _ ?_).sign hclaims (Table.get?_insert_self _ _) rfl
      simpa using hfree
  · exact h

theorem Sound.refresh (h : Sound accessTtlMs past w) (hnow : ∀ P, P w → past P)
    (sessionId : Id) : Sound accessTtlMs past (w.refresh accessTtlMs sessionId) := by
  unfold World.refresh
  split
  · rename_i session hsession
    split
    · rename_i user huser
      exact h.sign (hnow _ ⟨rfl, rfl⟩) hsession rfl
    · exact h
  · exact h

-- ---
-- Lookups
-- ---

theorem Sound.answer (h : Sound accessTtlMs past w) (new : Answer)
    (hnew : ∀ visit context time, .admitted visit context time = new →
      Admissible accessTtlMs past visit context time) :
    Sound accessTtlMs past (w.answer new) where
  signed := h.signed
  unique := h.unique
  issued := h.issued
  cached := h.cached
  found := h.found
  waiting := h.waiting
  answers visit context time hmem := by
    rcases List.mem_append.mp hmem with hmem | hmem
    · exact h.answers visit context time hmem
    · exact hnew visit context time (List.mem_singleton.mp hmem)

theorem Sound.refuse (h : Sound accessTtlMs past w) (request : Request) (error : HttpError) :
    Sound accessTtlMs past (w.answer (.refused request error)) :=
  h.answer _ fun _ _ _ heq => by cases heq

/-- A lookup is replaced by one that found nothing new. -/
theorem Sound.pending (h : Sound accessTtlMs past w) {key : Id × Id} {pending : Option Pending}
    (hfound : ∀ p value, pending = some p → p.lookup = .settled (.ok value) →
      past fun v => Grants v.store.directory key.1 key.2 value)
    (hwaiting : ∀ p, pending = some p → ∀ visit ∈ p.waiting, visit.user.id = key.1 ∧
      visit.request.branchId = some key.2 ∧ past (visit.PermittedAt accessTtlMs)) :
    Sound accessTtlMs past
      { w with pendingContext := Function.update w.pendingContext key pending } where
  signed := h.signed
  unique := h.unique
  issued := h.issued
  cached := h.cached
  found other value := by
    rintro ⟨p, hp, hsettled⟩
    dsimp only at hp
    rw [Function.update_apply] at hp
    split at hp
    · rename_i hother
      subst hother
      exact hfound p value hp hsettled
    · exact h.found other value ⟨p, hp, hsettled⟩
  waiting other p hp := by
    dsimp only at hp
    rw [Function.update_apply] at hp
    split at hp
    · rename_i hother
      subst hother
      exact hwaiting p hp
    · exact h.waiting other p hp
  answers := h.answers

theorem Sound.removed (h : Sound accessTtlMs past w) (key : Id × Id) :
    Sound accessTtlMs past
      { w with pendingContext := Function.update w.pendingContext key none } := by
  refine h.pending (fun p value hp => ?_) fun p hp => ?_
  · cases hp
  · cases hp

theorem Sound.query (h : Sound accessTtlMs past w) (hnow : ∀ P, P w → past P) (key : Id × Id) :
    Sound accessTtlMs past (w.query key) := by
  refine h.pending (fun p value hp hsettled => ?_) fun p hp => ?_
  · obtain ⟨old, hold, rfl⟩ := Option.map_eq_some_iff.mp hp
    rcases Lookup.next_ok hsettled with hsettled | hgrants
    · exact h.found key value ⟨old, hold, hsettled⟩
    · exact hnow _ hgrants
  · obtain ⟨old, hold, rfl⟩ := Option.map_eq_some_iff.mp hp
    exact h.waiting key old hold

theorem Sound.join (h : Sound accessTtlMs past w) {visit : Visit} {key : Id × Id}
    (hvisit : visit.user.id = key.1 ∧ visit.request.branchId = some key.2 ∧
      past (visit.PermittedAt accessTtlMs)) : Sound accessTtlMs past (w.join key visit) := by
  unfold World.join
  cases hold : w.pendingContext key with
  | none =>
    refine h.pending (fun p value hp hsettled => ?_) fun p hp other hmem => ?_
    · cases hp
      cases hsettled
    · cases hp
      obtain rfl := List.mem_singleton.mp hmem
      exact hvisit
  | some old =>
    refine h.pending (fun p value hp hsettled => ?_) fun p hp other hmem => ?_
    · cases hp
      exact h.found key value ⟨old, hold, hsettled⟩
    · cases hp
      rcases List.mem_append.mp hmem with hmem | hmem
      · exact h.waiting key old hold other hmem
      · obtain rfl := List.mem_singleton.mp hmem
        exact hvisit

theorem Sound.resolve (h : Sound accessTtlMs past w) (hnow : ∀ P, P w → past P) (key : Id × Id) :
    Sound accessTtlMs past (w.resolve key) := by
  unfold World.resolve
  split
  · rename_i value waiting hpending
    have hfound : w.Found key value := ⟨_, hpending, rfl⟩
    have hgranted : ∀ time, time ≤ w.store.clock + cacheTtlMs → Granted past key value time :=
      fun time hle => ⟨h.found key value hfound, hnow _ ⟨hfound, hle⟩⟩
    have hdone := h.removed key
    refine { hdone with cached := fun other cached hget => ?_, answers := ?_ }
    · dsimp only at hget
      rw [Function.update_apply] at hget
      split at hget
      · rename_i hother
        subst hother
        cases hget
        exact hgranted _ (Nat.le_refl _)
      · exact h.cached other cached hget
    · intro visit context time hmem
      rcases List.mem_append.mp hmem with hmem | hmem
      · exact h.answers visit context time hmem
      · obtain ⟨waiter, hwaiter, heq⟩ := List.mem_map.mp hmem
        cases heq
        obtain ⟨huser, hbranch, hpermitted⟩ := h.waiting key _ hpending visit hwaiter
        refine ⟨hpermitted, fun value' hvalue => ⟨key.2, hbranch, ?_⟩⟩
        cases hvalue
        rw [huser]
        exact hgranted _ (Nat.le_add_right _ _)
  · rename_i error waiting hpending
    have hdone := h.removed key
    refine { hdone with answers := fun visit context time hmem => ?_ }
    rcases List.mem_append.mp hmem with hmem | hmem
    · exact h.answers visit context time hmem
    · obtain ⟨waiter, -, heq⟩ := List.mem_map.mp hmem
      cases heq
  · exact h

-- ---
-- Requests
-- ---

theorem Sound.enter (h : Sound accessTtlMs past w)
    (hmono : ∀ P Q, past P → (∀ w, P w → Q w) → past Q) {visit : Visit}
    (hpermitted : past (visit.PermittedAt accessTtlMs)) :
    Sound accessTtlMs past (w.enter visit) := by
  unfold World.enter
  split
  · split
    · exact h.refuse _ _
    · rename_i branchId hbranch
      split
      · rename_i cached hcached
        obtain ⟨hget, hfresh⟩ := Option.filter_eq_some_iff.mp hcached
        refine h.answer _ fun _ _ _ heq => ?_
        cases heq
        refine ⟨hpermitted, fun value hvalue => ⟨branchId, hbranch, ?_⟩⟩
        cases hvalue
        exact (h.cached _ cached hget).earlier (Nat.le_of_lt (of_decide_eq_true hfresh)) hmono
      · exact h.join ⟨rfl, hbranch, hpermitted⟩
  · refine h.answer _ fun _ _ _ heq => ?_
    cases heq
    exact ⟨hpermitted, fun value hvalue => by cases hvalue⟩

theorem authenticate_keeps (w : World) (payload : JwtPayload) :
    validating.rel w.store (final (w.authenticate payload)) := by
  unfold World.authenticate
  split
  · exact validate_keeps payload w.store
  · exact validating.refl _

theorem authenticate_ok {store : Store} (h : w.authenticate payload = .ok user store) :
    payload ∈ w.signed ∧ validate payload w.store = .ok user store := by
  unfold World.authenticate at h
  split at h
  · rename_i hsigned
    exact ⟨hsigned.1, h⟩
  · cases h

/-- The permissions that the guard saw are those of all the user's roles. -/
theorem Sound.permitted (h : Sound accessTtlMs past w) (hnow : ∀ P, P w → past P)
    (hmono : ∀ P Q, past P → (∀ w, P w → Q w) → past Q) {request : Request}
    {store : Store} (hauth : w.authenticate request.payload = .ok user store)
    (hrequired : PermissionGuard.canActivate request.requiredPermissions (some user) = .ok ()) :
    past (Visit.PermittedAt accessTtlMs { request, user, arrivedAt := w.store.clock }) := by
  obtain ⟨hsigned, hvalidate⟩ := authenticate_ok hauth
  obtain ⟨⟨k, session, hget, hjti, huser⟩, hpermissions⟩ := validate_ok hvalidate
  have hactions := PermissionGuard.canActivate_ok hrequired
  have hsub : user.id = request.payload.sub := by
    obtain ⟨k', session', hget', howner⟩ := h.issued request.payload hsigned
    obtain ⟨hsub, hjti'⟩ := Prod.mk.inj howner
    obtain rfl := h.unique k k' session session' hget hget' (hjti.trans hjti'.symm)
    cases hget.symm.trans hget'
    exact huser.trans hsub
  cases hself : request.payload.selfContained with
  | true =>
    rw [hself, if_pos rfl] at hpermissions
    refine hmono _ _ (h.signed request.payload hsigned) fun v hclaims =>
      ⟨fun action haction => ?_, ?_⟩
    · rw [hsub, ← Directory.mem_permissionClaims, ← hclaims.1, ← hpermissions]
      exact hactions action haction
    · rw [if_pos hself]
      exact hclaims.2
  | false =>
    rw [hself, if_neg Bool.false_ne_true] at hpermissions
    refine hnow _ ⟨fun action haction => ?_, ?_⟩
    · rw [hsub, ← Directory.mem_permissionClaims, ← hpermissions]
      exact hactions action haction
    · rw [if_neg (by simp [hself])]

theorem Sound.request (h : Sound accessTtlMs past w) (hnow : ∀ P, P w → past P)
    (hmono : ∀ P Q, past P → (∀ w, P w → Q w) → past Q) (request : Request) :
    Sound accessTtlMs past (w.request request) := by
  have hkeeps := authenticate_keeps w request.payload
  unfold World.request
  cases hauth : w.authenticate request.payload with
  | error error store =>
    rw [hauth] at hkeeps
    exact (h.store hkeeps.2.2).refuse _ _
  | ok user store =>
    rw [hauth] at hkeeps
    dsimp only
    split
    · exact (h.store hkeeps.2.2).refuse _ _
    · rename_i hrequired
      exact (h.store hkeeps.2.2).enter hmono (h.permitted hnow hmono hauth hrequired)

-- ---
-- Runs
-- ---

theorem Sound.next (h : Sound accessTtlMs past w) (hnow : ∀ P, P w → past P)
    (hmono : ∀ P Q, past P → (∀ w, P w → Q w) → past Q) (e : Event) :
    Sound accessTtlMs past (next accessTtlMs refreshTtlMs w e) := by
  cases e with
  | signIn userId jti orgId branchId => exact h.signIn hnow userId jti orgId branchId
  | refresh sessionId => exact h.refresh hnow sessionId
  | revokeSession sessionId =>
    refine h.store (.update ?_)
    exact fun _ => rfl
  | createMembership orgId branchId dto => exact h.store (.refl _)
  | edit change => exact h.store (.refl _)
  | wait ms => exact h.store (.refl _)
  | request request => exact h.request hnow hmono request
  | query userId branchId => exact h.query hnow _
  | resolve userId branchId => exact h.resolve hnow _

/-- Before the first sign-in. -/
theorem sound_start (clock : Time) (directory : Directory) :
    Sound accessTtlMs past { store := { clock, directory } } where
  signed _ hmem := absurd hmem List.not_mem_nil
  unique _ _ _ _ hget := by cases hget
  issued _ hmem := absurd hmem List.not_mem_nil
  cached _ _ hget := by cases hget
  found _ _ := by
    rintro ⟨_, hp, _⟩
    cases hp
  waiting _ _ hp := by cases hp
  answers _ _ _ hmem := absurd hmem List.not_mem_nil

theorem run_sound {start : World} (hstart : ∀ past, Sound accessTtlMs past start)
    (hrun : Run (next accessTtlMs refreshTtlMs) (fun _ _ => True) start events w) :
    Sound accessTtlMs (Once (next accessTtlMs refreshTtlMs) start events) w := by
  refine hrun.history (I := fun events => Sound accessTtlMs (Once _ start events)) (hstart _)
    fun events w e hrun hsound _ => ?_
  have hpast : ∀ P, Once (next accessTtlMs refreshTtlMs) start events P →
      Once (next accessTtlMs refreshTtlMs) start (events ++ [e]) P := fun _ h => h.snoc e
  exact (hsound.lift hpast).next (fun _ hw => (Once.now hrun hw).snoc e)
    (fun _ _ h hPQ => h.mono hPQ) e

/-- A manager in a branch of one organisation, who waits tables in a branch of another. -/
def twoBranches : Directory where
  users := Table.empty.insert { email := "sam@nimbus.demo" }
  roles := (Table.empty.insert { name := "Manager", level := .L4 }).insert
    { name := "Waiter", level := .L1 }
  rolePermissions := (Table.empty.insert { roleId := 0, action := "pos:refund:approve" }).insert
    { roleId := 1, action := "pos:order:write" }
  userRoles := (Table.empty.insert
    { userId := 0, roleId := 0, orgId := some 0, branchId := some 0 }).insert
    { userId := 0, roleId := 1, orgId := some 1, branchId := some 1 }
  branches := (Table.empty.insert { organizationId := 0 }).insert { organizationId := 1 }
  memberships := (Table.empty.insert
    { userId := 0, organizationId := 0, branchId := 0, roleId := 0 }).insert
    { userId := 0, organizationId := 1, branchId := 1, roleId := 1 }

/-- A quarter of an hour, and a week. -/
def afterEvents (events : List Event) : World :=
  events.foldl (next 900000 604800000) { store := { directory := twoBranches } }

/-- A request to the second branch, with the token of the first sign-in. -/
def toSecondBranch (action : String) : Request where
  payload := ({ store := { directory := twoBranches } } : World).payload 900000 0
    { email := "sam@nimbus.demo" } "d290f1ee"
  requiredPermissions := [action]
  branchId := some 1

def visited (action : String) : List Event :=
  [.request (toSecondBranch action), .query 0 1, .resolve 0 1]

/-- The last request is admitted, and the role of a membership does not permit it. -/
def strays (events : List Event) : Bool :=
  (afterEvents events).answers.getLast?.any
    fun answer => !answer.confined (afterEvents events).store.directory

/-- Taking an order is what both the token and the membership permit. -/
def orderVisit : Visit where
  request := toSecondBranch "pos:order:write"
  user := {
    id := 0, email := "sam@nimbus.demo", roleLevel := .L4, roles := twoBranches.roleClaims 0
    permissions := ["pos:refund:approve", "pos:order:write"], sessionId := 0, jti := "d290f1ee"
    sessionOrgId := none, sessionBranchId := none }
  arrivedAt := 0

end NimbusPos.Access
