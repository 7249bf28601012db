import NimbusPos.Auth.Passwords

/-!
# What a change of a password ends

A reset ends the sessions of the user, a forced change ends nothing, and an acceptance
ends the tokens of a first login. Each checks its token in one statement and uses it in
another. A token changes one password, and nothing issued before a change is accepted
after it, when the token is still good where it is used and what the change leaves
cannot be accepted any more.
-/

namespace NimbusPos.Passwords

open Lib Lib.Program

-- ---
-- Histories
-- ---

/-- How a password was changed, with the token it took. -/
inductive Path
  | reset (tokenId : Id)
  | forced
  | invitation (invitationId : Id)
  deriving DecidableEq, Repr

inductive Credential
  | resetToken (tokenId : Id)
  | session (sessionId : Id)
  | refreshToken (tokenId : Id)
  deriving DecidableEq, Repr

/-- The keys that the tables gave out next when a password changed. -/
structure Marks where
  resetTokens : Nat
  sessions : Nat
  refreshTokens : Nat
  deriving DecidableEq, Repr

/-- The credential had been issued by then. -/
def Marks.covers (marks : Marks) : Credential → Bool
  | .resetToken tokenId => tokenId < marks.resetTokens
  | .session sessionId => sessionId < marks.sessions
  | .refreshToken tokenId => tokenId < marks.refreshTokens

inductive Entry
  | changed (userId : Id) (path : Path) (marks : Marks)
  | accepted (userId : Id) (credential : Credential)
  deriving DecidableEq, Repr

namespace Entry

/-- The token that a change took. -/
def token? : Entry → Option Path
  | .changed _ .forced _ | .accepted .. => none
  | .changed _ path _ => some path

def change? : Entry → Option (Id × Marks)
  | .changed userId _ marks => some (userId, marks)
  | .accepted .. => none

/-- The user and the credential that was accepted. A change by a reset token accepts it. -/
def credential? : Entry → Option (Id × Credential)
  | .changed userId (.reset tokenId) _ => some (userId, .resetToken tokenId)
  | .changed .. => none
  | .accepted userId credential => some (userId, credential)

/-- What may follow an entry: another token, and for its user credentials issued since. -/
def permits (entry later : Entry) : Prop :=
  (∀ token ∈ entry.token?, token ∉ later.token?) ∧
    ∀ change ∈ entry.change?, ∀ shown ∈ later.credential?, shown.1 = change.1 →
      change.2.covers shown.2 = false

instance (entry later : Entry) : Decidable (entry.permits later) :=
  inferInstanceAs (Decidable (_ ∧ _))

end Entry

/-- A reset token that will pass the checks. -/
def PasswordResetToken.live (row : PasswordResetToken) (now : Time) : Bool :=
  row.consumedAt.isNone && row.invalidatedAt.isNone && decide (now ≤ row.expiresAt)

def RefreshToken.live (token : RefreshToken) (now : Time) : Bool :=
  token.revokedAt.isNone && decide (now ≤ token.expiresAt)

def Session.live (session : Session) (now : Time) : Bool :=
  session.revokedAt.isNone && decide (now ≤ session.expiresAt)

def Store.marks (s : Store) : Marks := ⟨s.resetTokens.next, s.sessions.next, s.refreshTokens.next⟩

/-- The store, the history, oldest entry first, and the calls that are about to insert a
refresh token for a session. -/
structure World where
  store : Store
  history : List Entry := []
  issuing : List (Nat × Id) := []

namespace World

/-- The password that a statement changes, and how. -/
def change (s : Store) : Statement → Option (Id × Path)
  | .resetPassword userId tokenId _ =>
    if (s.users.get? userId).isSome && (s.resetTokens.get? tokenId).isSome then
      some (userId, .reset tokenId)
    else none
  | .changePassword userId _ =>
    if (s.users.get? userId).isSome then some (userId, .forced) else none
  | .acceptInvitation invitationId userId .. =>
    if (s.users.get? userId).isSome && (s.invitations.get? invitationId).isSome then
      some (userId, .invitation invitationId)
    else none
  | _ => none

/-- The credentials that a statement finds good. -/
def shown (s : Store) : Statement → List (Id × Credential)
  | .findResetToken tokenHash =>
    match s.resetTokens.findFirst fun _ row => row.tokenHash == tokenHash with
    | some (tokenId, row) => if row.live s.clock then [(row.userId, .resetToken tokenId)] else []
    | none => []
  | .findSession tokenId token =>
    match s.sessions.get? token.sessionId with
    | some session =>
      if session.revokedAt.isNone then
        [(session.userId, .session token.sessionId), (token.userId, .refreshToken tokenId)]
      else []
    | none => []
  | .findSessionByJti jti =>
    match s.sessions.findFirst fun _ session => session.jti == jti with
    | some (sessionId, session) =>
      if session.live s.clock && s.isActive session.userId then
        [(session.userId, .session sessionId)]
      else []
    | none => []
  | _ => []

def logged (s : Store) (k : Statement) : List Entry :=
  ((change s k).map fun changed => .changed changed.1 changed.2 s.marks).toList ++
    (shown s k).map fun shown => .accepted shown.1 shown.2

def exec (i : Nat) (w : World) (k : Statement) : World × Except HttpError k.Answer :=
  let r := w.store.exec k
  ({ store := r.1
     history := w.history ++ logged w.store k
     issuing := match k with
      | .createSession row =>
        if w.store.sessions.count (fun _ other => other.jti == row.jti) != 0 then w.issuing
        else (i, w.store.sessions.next) :: w.issuing
      | .findRefreshToken tokenHash =>
        match w.store.findRefreshToken tokenHash with
        | some (_, token, isActive) =>
          if token.live w.store.clock && isActive then (i, token.sessionId) :: w.issuing
          else w.issuing
        | none => w.issuing
      | .createRefreshToken row => w.issuing.erase (i, row.sessionId)
      | _ => w.issuing }, r.2)

def wait (w : World) (ms : Nat) : World :=
  { w with store := { w.store with clock := w.store.clock + ms } }

/-- The session is accepted no more: it is revoked, or expired with no refresh token
left and none coming. -/
def closed (w : World) (sessionId : Id) (session : Session) : Bool :=
  session.revokedAt.isSome ||
    (decide (session.expiresAt < w.store.clock) &&
      w.store.refreshTokens.count
        (fun _ token => token.sessionId == sessionId && token.live w.store.clock) == 0 &&
      !w.issuing.any (·.2 == sessionId))

/-- The user has no session left. -/
def signedOut (w : World) (userId : Id) : Prop :=
  w.store.sessions.count
    (fun sessionId session => session.userId == userId && !w.closed sessionId session) = 0

/-- The user has no reset token left, of those of a kind. -/
def unresettable (w : World) (userId : Id) (kind : Id → PasswordResetToken → Bool) : Prop :=
  w.store.resetTokens.count
    (fun tokenId row => row.userId == userId && kind tokenId row && row.live w.store.clock) = 0

instance (w : World) (userId : Id) : Decidable (w.signedOut userId) :=
  inferInstanceAs (Decidable (_ = 0))

instance (w : World) (userId : Id) (kind : Id → PasswordResetToken → Bool) :
    Decidable (w.unresettable userId kind) :=
  inferInstanceAs (Decidable (_ = 0))

/-- The token is still good where it is used, and the change leaves nothing of the user
that can be accepted. -/
def clean (w : World) : Statement → Prop
  | .resetPassword userId tokenId _ =>
    (w.store.resetTokens.get? tokenId).any (·.live w.store.clock) = true ∧
      w.unresettable userId fun other _ => other != tokenId
  | .changePassword userId _ => w.unresettable userId (fun _ _ => true) ∧ w.signedOut userId
  | .acceptInvitation invitationId userId .. =>
    (w.store.invitations.get? invitationId).any (·.status == .pending) = true ∧
      w.unresettable userId (fun _ row => row.purpose != .invitationFirstLogin) ∧
        w.signedOut userId
  | _ => True

instance (w : World) : (k : Statement) → Decidable (w.clean k)
  | .resetPassword .. | .changePassword .. | .acceptInvitation .. =>
    inferInstanceAs (Decidable (_ ∧ _))
  | .now | .findUserByEmail _ | .findUser _ | .invalidateForgotten _ | .createResetToken _
  | .findResetToken _ | .findInvitation _ | .expireInvitation _ | .createSession _
  | .createRefreshToken _ | .findRefreshToken _ | .revokeFamily _ | .revokeRefreshToken _
  | .findSession .. | .linkRefreshToken .. | .touchSession .. | .findSessionByJti _ =>
    .isTrue trivial

end World

-- ---
-- Rows that age
-- ---

/-- What a statement may do to a reset token: use it up. -/
structure PasswordResetToken.Ages (row new : PasswordResetToken) : Prop where
  userId : new.userId = row.userId
  expiresAt : new.expiresAt = row.expiresAt
  consumedAt : new.consumedAt.isNone = true → row.consumedAt.isNone = true
  invalidatedAt : new.invalidatedAt.isNone = true → row.invalidatedAt.isNone = true

structure Invitation.Ages (row new : Invitation) : Prop where
  status : new.status = .pending → row.status = .pending

structure Session.Ages (row new : Session) : Prop where
  userId : new.userId = row.userId
  expiresAt : new.expiresAt = row.expiresAt
  revokedAt : new.revokedAt.isNone = true → row.revokedAt.isNone = true

structure RefreshToken.Ages (row new : RefreshToken) : Prop where
  userId : new.userId = row.userId
  sessionId : new.sessionId = row.sessionId
  expiresAt : new.expiresAt = row.expiresAt
  revokedAt : new.revokedAt.isNone = true → row.revokedAt.isNone = true

theorem PasswordResetToken.Ages.refl (row : PasswordResetToken) : row.Ages row := by
  constructor <;> simp

theorem PasswordResetToken.Ages.trans (a b c : PasswordResetToken) (h : a.Ages b) (h' : b.Ages c) :
    a.Ages c where
  userId := h'.userId.trans h.userId
  expiresAt := h'.expiresAt.trans h.expiresAt
  consumedAt hnone := h.consumedAt (h'.consumedAt hnone)
  invalidatedAt hnone := h.invalidatedAt (h'.invalidatedAt hnone)

/-- A token that is good later was good before. -/
theorem PasswordResetToken.Ages.live {row new : PasswordResetToken} (h : row.Ages new)
    (hnow : now ≤ later) (hlive : new.live later = true) : row.live now = true := by
  simp only [PasswordResetToken.live, Bool.and_eq_true, decide_eq_true_eq, h.expiresAt] at hlive ⊢
  exact ⟨⟨h.consumedAt hlive.1.1, h.invalidatedAt hlive.1.2⟩, hnow.trans hlive.2⟩

theorem Invitation.Ages.refl (row : Invitation) : row.Ages row := ⟨fun h => h⟩

theorem Invitation.Ages.trans (a b c : Invitation) (h : a.Ages b) (h' : b.Ages c) : a.Ages c :=
  ⟨fun hpending => h.status (h'.status hpending)⟩

theorem Session.Ages.refl (row : Session) : row.Ages row := by
  constructor <;> simp

theorem Session.Ages.trans (a b c : Session) (h : a.Ages b) (h' : b.Ages c) : a.Ages c where
  userId := h'.userId.trans h.userId
  expiresAt := h'.expiresAt.trans h.expiresAt
  revokedAt hnone := h.revokedAt (h'.revokedAt hnone)

theorem RefreshToken.Ages.refl (row : RefreshToken) : row.Ages row := by
  constructor <;> simp

theorem RefreshToken.Ages.trans (a b c : RefreshToken) (h : a.Ages b) (h' : b.Ages c) :
    a.Ages c where
  userId := h'.userId.trans h.userId
  sessionId := h'.sessionId.trans h.sessionId
  expiresAt := h'.expiresAt.trans h.expiresAt
  revokedAt hnone := h.revokedAt (h'.revokedAt hnone)

theorem RefreshToken.Ages.live {row new : RefreshToken} (h : row.Ages new) (hnow : now ≤ later)
    (hlive : new.live later = true) : row.live now = true := by
  simp only [RefreshToken.live, Bool.and_eq_true, decide_eq_true_eq, h.expiresAt] at hlive ⊢
  exact ⟨h.revokedAt hlive.1, hnow.trans hlive.2⟩

structure Store.Ages (s t : Store) : Prop where
  clock : s.clock ≤ t.clock
  resetTokens : Table.Grows PasswordResetToken.Ages s.resetTokens t.resetTokens
  invitations : Table.Grows Invitation.Ages s.invitations t.invitations
  sessions : Table.Grows Session.Ages s.sessions t.sessions
  refreshTokens : Table.Grows RefreshToken.Ages s.refreshTokens t.refreshTokens

theorem Store.Ages.refl (s : Store) : s.Ages s where
  clock := Nat.le_refl _
  resetTokens := .refl .refl _
  invitations := .refl .refl _
  sessions := .refl .refl _
  refreshTokens := .refl .refl _

theorem Store.Ages.trans {s t u : Store} (h : s.Ages t) (h' : t.Ages u) : s.Ages u where
  clock := h.clock.trans h'.clock
  resetTokens := h.resetTokens.trans PasswordResetToken.Ages.trans h'.resetTokens
  invitations := h.invitations.trans Invitation.Ages.trans h'.invitations
  sessions := h.sessions.trans Session.Ages.trans h'.sessions
  refreshTokens := h.refreshTokens.trans RefreshToken.Ages.trans h'.refreshTokens

theorem written_cases (found : Bool) (s t : Store) :
    (found = false ∧ (Store.written found s t).1 = s) ∨
      (found = true ∧ (Store.written found s t).1 = t) := by
  cases found with
  | false => exact .inl ⟨rfl, rfl⟩
  | true => exact .inr ⟨rfl, rfl⟩

theorem written_same {s t : Store} (read : Store → β) (h : read t = read s) :
    read (Store.written found s t).1 = read s := by
  cases found with
  | false => rfl
  | true => exact h

theorem unlessTaken_same {s t : Store} (read : Store → β) (h : read t = read s) :
    read (unlessTaken taken columns s t a).1 = read s := by
  cases taken with
  | true => rfl
  | false => exact h

section

variable (s : Store)

theorem resetTokens_age {f : PasswordResetToken → PasswordResetToken}
    (hf : ∀ row : PasswordResetToken, row.Ages (f row)) :
    s.Ages { s with resetTokens := s.resetTokens.updateWhere p f } :=
  { Store.Ages.refl s with resetTokens := .updateWhere PasswordResetToken.Ages.refl hf _ _ }

theorem sessions_age {f : Session → Session} (hf : ∀ row : Session, row.Ages (f row)) :
    s.Ages { s with sessions := s.sessions.updateWhere p f } :=
  { Store.Ages.refl s with sessions := .updateWhere Session.Ages.refl hf _ _ }

theorem refreshTokens_age {f : RefreshToken → RefreshToken}
    (hf : ∀ row : RefreshToken, row.Ages (f row)) :
    s.Ages { s with refreshTokens := s.refreshTokens.updateWhere p f } :=
  { Store.Ages.refl s with refreshTokens := .updateWhere RefreshToken.Ages.refl hf _ _ }

theorem invitations_age {f : Invitation → Invitation} (hf : ∀ row : Invitation, row.Ages (f row)) :
    s.Ages { s with invitations := s.invitations.updateWhere p f } :=
  { Store.Ages.refl s with invitations := .updateWhere Invitation.Ages.refl hf _ _ }

theorem users_age (users : Table User) : s.Ages { s with users } := { Store.Ages.refl s with }

theorem resetPassword_ages (userId tokenId : Id) (passwordHash : String) :
    s.Ages (s.resetPassword userId tokenId passwordHash) := by
  refine ⟨Nat.le_refl _, ?_, .refl .refl _, ?_, ?_⟩
  all_goals simp only [Store.resetPassword, Store.revokeTokens, Table.update]
  · refine Table.Grows.updateWhere PasswordResetToken.Ages.refl ?_ _ _
    exact fun _ => ⟨rfl, rfl, by simp, fun h => h⟩
  · refine Table.Grows.updateWhere Session.Ages.refl ?_ _ _
    exact fun _ => ⟨rfl, rfl, by simp⟩
  · refine Table.Grows.updateWhere RefreshToken.Ages.refl ?_ _ _
    exact fun _ => ⟨rfl, rfl, rfl, by simp⟩

theorem acceptInvitation_ages (invitationId userId : Id) (passwordHash : String)
    (firstName lastName : Option String) :
    s.Ages (s.acceptInvitation invitationId userId passwordHash firstName lastName) := by
  refine ⟨Nat.le_refl _, ?_, ?_, .refl .refl _, .refl .refl _⟩
  all_goals simp only [Store.acceptInvitation, Store.invalidate, Table.update]
  · refine Table.Grows.updateWhere PasswordResetToken.Ages.refl ?_ _ _
    exact fun _ => ⟨rfl, rfl, fun h => h, by simp⟩
  · refine Table.Grows.updateWhere Invitation.Ages.refl ?_ _ _
    exact fun _ => ⟨by simp⟩

/-- No statement makes a token, a session or an invitation good again. -/
theorem exec_ages (k : Statement) : s.Ages (s.exec k).1 := by
  have hsame : s.Ages s := .refl s
  cases k with
  | now | findUserByEmail _ | findUser _ | findResetToken _ | findInvitation _
  | findRefreshToken _ | findSession _ _ | findSessionByJti _ => exact hsame
  | invalidateForgotten userId =>
    refine resetTokens_age s ?_
    exact fun _ => ⟨rfl, rfl, fun h => h, by simp⟩
  | createResetToken row =>
    rcases unlessTaken_cases _ "(tokenHash)" s _ () with ⟨-, hexec⟩ | ⟨-, hexec⟩
    all_goals rw [Store.exec, hexec]
    · exact hsame
    · exact { hsame with resetTokens := .insert .refl _ _ }
  | resetPassword userId tokenId passwordHash =>
    rcases written_cases _ s _ with ⟨-, hexec⟩ | ⟨-, hexec⟩
    all_goals rw [Store.exec, hexec]
    · exact hsame
    · exact resetPassword_ages s userId tokenId passwordHash
  | changePassword userId passwordHash =>
    rcases written_cases _ s _ with ⟨-, hexec⟩ | ⟨-, hexec⟩
    all_goals rw [Store.exec, hexec]
    · exact hsame
    · exact users_age s _
  | expireInvitation invitationId =>
    rcases written_cases _ s _ with ⟨-, hexec⟩ | ⟨-, hexec⟩
    all_goals rw [Store.exec, hexec]
    · exact hsame
    · refine invitations_age s ?_
      exact fun _ => ⟨by simp⟩
  | acceptInvitation invitationId userId passwordHash firstName lastName =>
    rcases written_cases _ s _ with ⟨-, hexec⟩ | ⟨-, hexec⟩
    all_goals rw [Store.exec, hexec]
    · exact hsame
    · exact acceptInvitation_ages s invitationId userId passwordHash firstName lastName
  | createSession row =>
    rcases unlessTaken_cases _ "(jti)" s _ _ with ⟨-, hexec⟩ | ⟨-, hexec⟩
    all_goals rw [Store.exec, hexec]
    · exact hsame
    · exact { hsame with sessions := .insert .refl _ _ }
  | createRefreshToken row =>
    rcases unlessTaken_cases _ "(tokenHash)" s _ _ with ⟨-, hexec⟩ | ⟨-, hexec⟩
    all_goals rw [Store.exec, hexec]
    · exact hsame
    · exact { hsame with refreshTokens := .insert .refl _ _ }
  | revokeFamily family =>
    refine refreshTokens_age s ?_
    exact fun _ => ⟨rfl, rfl, rfl, by simp⟩
  | revokeRefreshToken tokenId =>
    refine refreshTokens_age s ?_
    exact fun _ => ⟨rfl, rfl, rfl, by simp⟩
  | linkRefreshToken tokenId replacedById =>
    refine refreshTokens_age s ?_
    exact fun _ => ⟨rfl, rfl, rfl, fun h => h⟩
  | touchSession sessionId now =>
    refine sessions_age s ?_
    exact fun _ => ⟨rfl, rfl, fun h => h⟩

end

-- ---
-- What holds in every state
-- ---

/-- A refresh token belongs to the user of its session. -/
def Owned (s : Store) : Prop :=
  ∀ tokenId token, s.refreshTokens.get? tokenId = some token →
    ∃ session, s.sessions.get? token.sessionId = some session ∧ session.userId = token.userId

/-- The token that a change took cannot be taken again. -/
def Path.spent (s : Store) : Path → Prop
  | .reset tokenId => ∃ row, s.resetTokens.get? tokenId = some row ∧ row.live s.clock = false
  | .forced => True
  | .invitation invitationId =>
    ∃ row, s.invitations.get? invitationId = some row ∧ row.status ≠ .pending

/-- Nothing that was issued before a change can be accepted. -/
structure Settled (w : World) (userId : Id) (path : Path) (marks : Marks) : Prop where
  spent : path.spent w.store
  issued : marks.resetTokens ≤ w.store.resetTokens.next ∧
    marks.sessions ≤ w.store.sessions.next ∧ marks.refreshTokens ≤ w.store.refreshTokens.next
  resetTokens : ∀ tokenId row, w.store.resetTokens.get? tokenId = some row →
    tokenId < marks.resetTokens → row.userId = userId → row.live w.store.clock = false
  sessions : ∀ sessionId session, w.store.sessions.get? sessionId = some session →
    sessionId < marks.sessions → session.userId = userId → w.closed sessionId session = true
  refreshTokens : ∀ tokenId token, w.store.refreshTokens.get? tokenId = some token →
    tokenId < marks.refreshTokens → token.sessionId < marks.sessions

structure Guarded (w : World) : Prop where
  owned : Owned w.store
  settled : ∀ userId path marks, .changed userId path marks ∈ w.history →
    Settled w userId path marks
  permitted : w.history.Pairwise Entry.permits

variable {w v : World} {i : Nat} {k : Statement}

/-- What a statement needs of the rows that its call has read: the token of a reset is
the user's, and a refresh token is issued where it was announced. -/
def World.backed (i : Nat) (w : World) : Statement → Prop
  | .resetPassword userId tokenId _ =>
    ∃ row, w.store.resetTokens.get? tokenId = some row ∧ row.userId = userId
  | .findSession tokenId token => (i, token.sessionId) ∈ w.issuing ∧
    ∃ row, w.store.refreshTokens.get? tokenId = some row ∧ row.sessionId = token.sessionId ∧
      row.userId = token.userId
  | .createRefreshToken token => (i, token.sessionId) ∈ w.issuing ∧
    ∃ session, w.store.sessions.get? token.sessionId = some session ∧
      session.userId = token.userId
  | _ => True

/-- What call `i` may rely on: rows only age, and what it announced stays announced. -/
def aging (i : Nat) : Service.Frame World where
  rel w v := w.store.Ages v.store ∧ ∀ sessionId, (i, sessionId) ∈ w.issuing →
    (i, sessionId) ∈ v.issuing
  refl _ := ⟨.refl _, fun _ h => h⟩
  trans h h' := ⟨h.1.trans h'.1, fun sessionId hmem => h'.2 sessionId (h.2 sessionId hmem)⟩

theorem closed_iff : w.closed sessionId session = true ↔ session.revokedAt.isNone = false ∨
    session.expiresAt < w.store.clock ∧
      (∀ tokenId token, w.store.refreshTokens.get? tokenId = some token →
        token.sessionId = sessionId → token.live w.store.clock = false) ∧
      ∀ j, (j, sessionId) ∉ w.issuing := by
  have hnone : w.issuing.any (·.2 == sessionId) = false ↔ ∀ j, (j, sessionId) ∉ w.issuing := by
    simp only [List.any_eq_false, beq_iff_eq, Prod.forall]
    exact ⟨fun h j hmem => h j sessionId hmem rfl, fun h j other hmem heq => h j (heq ▸ hmem)⟩
  simp [World.closed, Table.count_eq_zero, and_assoc, hnone]

theorem signedOut_iff : w.signedOut userId ↔ ∀ sessionId session,
    w.store.sessions.get? sessionId = some session → session.userId = userId →
      w.closed sessionId session = true := by
  simp [World.signedOut, Table.count_eq_zero]

theorem unresettable_iff : w.unresettable userId kind ↔ ∀ tokenId row,
    w.store.resetTokens.get? tokenId = some row → row.userId = userId →
      kind tokenId row = true → row.live w.store.clock = false := by
  simp [World.unresettable, Table.count_eq_zero]

-- ---
-- One statement
-- ---

/-- A refresh token comes by its own statement. -/
theorem exec_refreshTokens (s : Store) (k : Statement) :
    (s.exec k).1.refreshTokens.next = s.refreshTokens.next ∨
      ∃ row, k = .createRefreshToken row ∧
        (s.exec k).1.refreshTokens = s.refreshTokens.insert row := by
  cases k with
  | createRefreshToken row =>
    rcases unlessTaken_cases _ "(tokenHash)" s _ _ with ⟨-, hexec⟩ | ⟨-, hexec⟩
    all_goals rw [Store.exec, hexec]
    · exact .inl rfl
    · exact .inr ⟨row, rfl, rfl⟩
  | resetPassword _ _ _ | changePassword _ _ | expireInvitation _ | acceptInvitation _ _ _ _ _ =>
    exact .inl (written_same (·.refreshTokens.next) rfl)
  | createResetToken _ | createSession _ => exact .inl (unlessTaken_same (·.refreshTokens.next) rfl)
  | _ => exact .inl rfl

theorem exec_refreshToken_new {s : Store}
    (hget : (s.exec k).1.refreshTokens.get? tokenId = some token)
    (hnew : s.refreshTokens.next ≤ tokenId) : k = .createRefreshToken token := by
  rcases exec_refreshTokens s k with hnext | ⟨row, rfl, hinsert⟩
  · exact absurd (Table.lt_next hget) (by omega)
  · rw [hinsert, Table.get?_insert] at hget
    split at hget
    · cases hget
      rfl
    · exact absurd (Table.lt_next hget) (by omega)

/-- A refresh token is announced for a new session, or for that of a good token. -/
theorem exec_issuing (hmem : (j, sessionId) ∈ (w.exec i k).1.issuing) :
    (j, sessionId) ∈ w.issuing ∨ sessionId = w.store.sessions.next ∨
      ∃ tokenId token, w.store.refreshTokens.get? tokenId = some token ∧
        token.sessionId = sessionId ∧ token.live w.store.clock = true := by
  cases k with
  | createSession row =>
    simp only [World.exec] at hmem
    split at hmem
    · exact .inl hmem
    · rcases List.mem_cons.mp hmem with heq | hmem
      · cases heq
        exact .inr (.inl rfl)
      · exact .inl hmem
  | findRefreshToken tokenHash =>
    simp only [World.exec] at hmem
    split at hmem
    · rename_i tokenId token isActive hfound
      split at hmem
      · rename_i hlive
        rcases List.mem_cons.mp hmem with heq | hmem
        · cases heq
          simp only [Store.findRefreshToken, Option.map_eq_some_iff, Prod.mk.injEq] at hfound
          obtain ⟨found, hfirst, rfl, rfl, -⟩ := hfound
          exact .inr (.inr ⟨found.1, found.2, (Table.findFirst_some hfirst).1, rfl,
            (Bool.and_eq_true _ _ ▸ hlive).1⟩)
        · exact .inl hmem
      · exact .inl hmem
    · exact .inl hmem
  | createRefreshToken row => exact .inl (List.mem_of_mem_erase hmem)
  | _ => exact .inl hmem

/-- What call `i` does, another may rely on. -/
theorem aging_exec (w : World) (k : Statement) {j : Nat} (hj : j ≠ i) :
    (aging j).rel w (w.exec i k).1 := by
  refine ⟨exec_ages w.store k, fun sessionId hmem => ?_⟩
  cases k with
  | createSession row =>
    simp only [World.exec]
    split
    · exact hmem
    · exact List.mem_cons_of_mem _ hmem
  | findRefreshToken tokenHash =>
    simp only [World.exec]
    split
    · split
      · exact List.mem_cons_of_mem _ hmem
      · exact hmem
    · exact hmem
  | createRefreshToken row =>
    refine (List.mem_erase_of_ne ?_).mpr hmem
    rintro ⟨⟩
    exact hj rfl
  | _ => exact hmem

/-- A closed session stays closed. -/
theorem exec_closed (hbacked : w.backed i k) (hget : w.store.sessions.get? sessionId = some session)
    (hclosed : w.closed sessionId session = true)
    (hget' : (w.exec i k).1.store.sessions.get? sessionId = some new) :
    (w.exec i k).1.closed sessionId new = true := by
  have hages := exec_ages w.store k
  obtain ⟨old, hold, haged⟩ := hages.sessions.back sessionId new hget' (Table.lt_next hget)
  obtain rfl := Option.some.inj (hold.symm.trans hget)
  rw [closed_iff] at hclosed ⊢
  rcases hclosed with hrevoked | ⟨hexpired, htokens, hnone⟩
  · refine .inl (Bool.eq_false_iff.mpr fun hnew => ?_)
    rw [haged.revokedAt hnew] at hrevoked
    cases hrevoked
  · refine .inr ⟨?_, fun tokenId token htoken hsession => ?_, fun j hmem => ?_⟩
    · rw [haged.expiresAt]
      exact Nat.lt_of_lt_of_le hexpired hages.clock
    · rcases Nat.lt_or_ge tokenId w.store.refreshTokens.next with hlt | hnew
      · obtain ⟨before, hbefore, htoken'⟩ := hages.refreshTokens.back tokenId token htoken hlt
        refine Bool.eq_false_iff.mpr fun hlive => ?_
        have hdead := htokens tokenId before hbefore (htoken'.sessionId.symm.trans hsession)
        rw [htoken'.live hages.clock hlive] at hdead
        cases hdead
      · obtain rfl := exec_refreshToken_new htoken hnew
        obtain ⟨hannounced, -⟩ := hbacked
        exact absurd (hsession ▸ hannounced) (hnone i)
    · rcases exec_issuing hmem with hmem | rfl | ⟨tokenId, token, htoken, hsession, hlive⟩
      · exact hnone j hmem
      · exact absurd (Table.lt_next hget) (Nat.lt_irrefl _)
      · rw [htokens tokenId token htoken hsession] at hlive
        cases hlive

theorem Owned.exec (h : Owned w.store) (hbacked : w.backed i k) : Owned (w.exec i k).1.store := by
  have hages := exec_ages w.store k
  have hforth (userId sessionId : Id) (hsession : ∃ session,
      w.store.sessions.get? sessionId = some session ∧ session.userId = userId) :
      ∃ session, (w.store.exec k).1.sessions.get? sessionId = some session ∧
        session.userId = userId := by
    obtain ⟨session, hget, rfl⟩ := hsession
    obtain ⟨new, hnew, haged⟩ := hages.sessions.forth sessionId session hget
    exact ⟨new, hnew, haged.userId⟩
  intro tokenId token htoken
  rcases Nat.lt_or_ge tokenId w.store.refreshTokens.next with hlt | hnew
  · obtain ⟨before, hbefore, haged⟩ := hages.refreshTokens.back tokenId token htoken hlt
    rw [haged.sessionId, haged.userId]
    exact hforth _ _ (h tokenId before hbefore)
  · obtain rfl := exec_refreshToken_new htoken hnew
    exact hforth _ _ hbacked.2

/-- A session that is announced and not revoked was created since. -/
theorem Settled.announced (h : Settled w userId path marks)
    (hget : w.store.sessions.get? sessionId = some session) (huser : session.userId = userId)
    (hrevoked : session.revokedAt.isNone = true) (hmem : (i, sessionId) ∈ w.issuing) :
    ¬sessionId < marks.sessions := by
  intro hlt
  rcases closed_iff.mp (h.sessions sessionId session hget hlt huser) with hclosed | ⟨-, -, hnone⟩
  · rw [hrevoked] at hclosed
    cases hclosed
  · exact hnone i hmem

/-- What is accepted after a change was issued after it. -/
theorem Settled.shown (h : Settled w userId path marks) (howned : Owned w.store)
    (hbacked : w.backed i k) (hmem : (userId, credential) ∈ World.shown w.store k) :
    marks.covers credential = false := by
  cases k with
  | findResetToken tokenHash =>
    simp only [World.shown] at hmem
    split at hmem
    · rename_i tokenId row hfirst
      split at hmem
      · rename_i hlive
        cases List.mem_singleton.mp hmem
        refine decide_eq_false fun hlt => ?_
        rw [h.resetTokens tokenId row (Table.findFirst_some hfirst).1 hlt rfl] at hlive
        cases hlive
      · cases hmem
    · cases hmem
  | findSession tokenId token =>
    simp only [World.shown] at hmem
    split at hmem
    · rename_i session hsession
      split at hmem
      · rename_i hrevoked
        obtain ⟨hannounced, row, hrow, hrowSession, hrowUser⟩ := hbacked
        rcases List.mem_cons.mp hmem with heq | hmem
        · cases heq
          exact decide_eq_false (h.announced hsession rfl hrevoked hannounced)
        · cases List.mem_singleton.mp hmem
          refine decide_eq_false fun hlt => ?_
          obtain ⟨owner, howner, huser⟩ := howned tokenId row hrow
          rw [hrowSession] at howner
          obtain rfl := Option.some.inj (howner.symm.trans hsession)
          refine h.announced hsession (huser.trans hrowUser) hrevoked hannounced ?_
          exact hrowSession ▸ h.refreshTokens tokenId row hrow hlt
      · cases hmem
    · cases hmem
  | findSessionByJti jti =>
    simp only [World.shown] at hmem
    split at hmem
    · rename_i sessionId session hfirst
      split at hmem
      · rename_i hgood
        cases List.mem_singleton.mp hmem
        refine decide_eq_false fun hlt => ?_
        have hget := (Table.findFirst_some hfirst).1
        simp only [Session.live, Bool.and_eq_true, decide_eq_true_eq] at hgood
        rcases closed_iff.mp (h.sessions sessionId session hget hlt rfl) with hclosed |
          ⟨hexpired, -⟩
        · rw [hgood.1.1] at hclosed
          cases hclosed
        · exact absurd hgood.1.2 (Nat.not_le_of_lt hexpired)
      · cases hmem
    · cases hmem
  | _ => cases hmem

theorem mem_token? : token ∈ (Entry.changed userId path marks).token? ↔
    token = path ∧ path ≠ .forced := by
  cases path <;> simp [Entry.token?, eq_comm]

/-- The token that a change takes is still good. -/
theorem change_unspent (hclean : w.clean k) (hchange : World.change w.store k = some (userId, path))
    (hforced : path ≠ .forced) : ¬path.spent w.store := by
  cases k with
  | resetPassword ownerId tokenId passwordHash =>
    simp only [World.change, Option.ite_none_right_eq_some] at hchange
    obtain ⟨-, ⟨⟩⟩ := hchange
    rintro ⟨row, hrow, hdead⟩
    have hlive := hclean.1
    rw [hrow, Option.any_some, hdead] at hlive
    cases hlive
  | changePassword ownerId passwordHash =>
    simp only [World.change, Option.ite_none_right_eq_some] at hchange
    obtain ⟨-, ⟨⟩⟩ := hchange
    exact absurd rfl hforced
  | acceptInvitation invitationId ownerId passwordHash firstName lastName =>
    simp only [World.change, Option.ite_none_right_eq_some] at hchange
    obtain ⟨-, ⟨⟩⟩ := hchange
    rintro ⟨row, hrow, hstatus⟩
    have hpending := hclean.1
    rw [hrow, Option.any_some, beq_iff_eq] at hpending
    exact hstatus hpending
  | _ => cases hchange

/-- The reset token that a change takes was issued since the changes before. -/
theorem Settled.taken (h : Settled w userId path marks) (hbacked : w.backed i k)
    (hclean : w.clean k) (hchange : World.change w.store k = some (userId, .reset tokenId)) :
    ¬tokenId < marks.resetTokens := by
  cases k with
  | resetPassword ownerId takenId passwordHash =>
    simp only [World.change, Option.ite_none_right_eq_some] at hchange
    obtain ⟨-, ⟨⟩⟩ := hchange
    intro hlt
    obtain ⟨row, hrow, huser⟩ := hbacked
    have hlive := hclean.1
    rw [hrow, Option.any_some, h.resetTokens tokenId row hrow hlt huser] at hlive
    cases hlive
  | changePassword ownerId passwordHash =>
    simp only [World.change, Option.ite_none_right_eq_some] at hchange
    obtain ⟨-, ⟨⟩⟩ := hchange
  | acceptInvitation invitationId ownerId passwordHash firstName lastName =>
    simp only [World.change, Option.ite_none_right_eq_some] at hchange
    obtain ⟨-, ⟨⟩⟩ := hchange
  | _ => cases hchange

theorem accepted_permits (userId : Id) (credential : Credential) (later : Entry) :
    (Entry.accepted userId credential).permits later := by
  constructor
  all_goals exact fun _ hmem => by cases hmem

theorem mem_logged : entry ∈ World.logged s k ↔
    (∃ userId path, World.change s k = some (userId, path) ∧
      entry = .changed userId path s.marks) ∨
      ∃ userId credential, (userId, credential) ∈ World.shown s k ∧
        entry = .accepted userId credential := by
  simp [World.logged, eq_comm]

theorem Settled.permits (h : Settled w userId path marks) (howned : Owned w.store)
    (hbacked : w.backed i k) (hclean : w.clean k) (hmem : later ∈ World.logged w.store k) :
    (Entry.changed userId path marks).permits later := by
  rcases mem_logged.mp hmem with ⟨changer, latest, hchange, rfl⟩ | ⟨owner, credential, hshown, rfl⟩
  · refine ⟨fun token htoken hlater => ?_, fun change hold shown hnew huser => ?_⟩
    · obtain ⟨rfl, hforced⟩ := mem_token?.mp htoken
      obtain ⟨rfl, -⟩ := mem_token?.mp hlater
      exact change_unspent hclean hchange hforced h.spent
    · cases hold
      cases latest with
      | reset tokenId =>
        cases hnew
        obtain rfl : changer = userId := huser
        exact decide_eq_false (h.taken hbacked hclean hchange)
      | forced | invitation _ => cases hnew
  · refine ⟨fun token _ hlater => ?_, fun change hold shown hnew huser => ?_⟩
    · cases hlater
    · cases hold
      cases hnew
      obtain rfl : owner = userId := huser
      exact h.shown howned hbacked hshown

theorem logged_pairwise (s : Store) (k : Statement) :
    (World.logged s k).Pairwise Entry.permits := by
  have hshown (shown : List (Id × Credential)) :
      (shown.map fun shown => Entry.accepted shown.1 shown.2).Pairwise Entry.permits := by
    refine List.pairwise_of_forall_mem_list fun entry hmem later _ => ?_
    obtain ⟨⟨userId, credential⟩, -, rfl⟩ := List.mem_map.mp hmem
    exact accepted_permits userId credential later
  unfold World.logged
  cases hchange : World.change s k with
  | none => exact hshown _
  | some changed =>
    cases k with
    | resetPassword _ _ _ | changePassword _ _ | acceptInvitation _ _ _ _ _ =>
      exact List.pairwise_singleton _ _
    | _ => cases hchange

/-- What was settled stays so. -/
theorem Settled.exec (h : Settled w userId path marks) (hbacked : w.backed i k) :
    Settled (w.exec i k).1 userId path marks := by
  have hages := exec_ages w.store k
  have hlt {key next : Nat} {mark : Nat} (hkey : key < mark) (hmark : mark ≤ next) : key < next :=
    Nat.lt_of_lt_of_le hkey hmark
  constructor
  case spent =>
    cases path with
    | reset tokenId =>
      obtain ⟨row, hrow, hdead⟩ := h.spent
      obtain ⟨new, hnew, haged⟩ := hages.resetTokens.forth tokenId row hrow
      refine ⟨new, hnew, Bool.eq_false_iff.mpr fun hlive => ?_⟩
      rw [haged.live hages.clock hlive] at hdead
      cases hdead
    | forced => trivial
    | invitation invitationId =>
      obtain ⟨row, hrow, hstatus⟩ := h.spent
      obtain ⟨new, hnew, haged⟩ := hages.invitations.forth invitationId row hrow
      exact ⟨new, hnew, fun hpending => hstatus (haged.status hpending)⟩
  case issued =>
    obtain ⟨hreset, hsession, hrefresh⟩ := h.issued
    exact ⟨hreset.trans hages.resetTokens.next, hsession.trans hages.sessions.next,
      hrefresh.trans hages.refreshTokens.next⟩
  case resetTokens =>
    intro tokenId row hget hkey huser
    obtain ⟨before, hbefore, haged⟩ :=
      hages.resetTokens.back tokenId row hget (hlt hkey h.issued.1)
    refine Bool.eq_false_iff.mpr fun hlive => ?_
    have hdead := h.resetTokens tokenId before hbefore hkey (haged.userId.symm.trans huser)
    rw [haged.live hages.clock hlive] at hdead
    cases hdead
  case sessions =>
    intro sessionId session hget hkey huser
    obtain ⟨before, hbefore, haged⟩ :=
      hages.sessions.back sessionId session hget (hlt hkey h.issued.2.1)
    exact exec_closed hbacked hbefore
      (h.sessions sessionId before hbefore hkey (haged.userId.symm.trans huser)) hget
  case refreshTokens =>
    intro tokenId token hget hkey
    obtain ⟨before, hbefore, haged⟩ :=
      hages.refreshTokens.back tokenId token hget (hlt hkey h.issued.2.2)
    rw [haged.sessionId]
    exact h.refreshTokens tokenId before hbefore hkey

/-- A change that leaves its user no token and no session is settled. -/
theorem settled_of_ended (howned : Owned (w.exec i k).1.store)
    (hsessions : (w.store.exec k).1.sessions.next = w.store.sessions.next)
    (hspent : path.spent (w.exec i k).1.store)
    (hresets : (w.exec i k).1.unresettable userId fun _ _ => true)
    (hsignedOut : (w.exec i k).1.signedOut userId) :
    Settled (w.exec i k).1 userId path w.store.marks := by
  have hages := exec_ages w.store k
  constructor
  case spent => exact hspent
  case issued => exact ⟨hages.resetTokens.next, hages.sessions.next, hages.refreshTokens.next⟩
  case resetTokens =>
    exact fun tokenId row hget _ huser => unresettable_iff.mp hresets tokenId row hget huser rfl
  case sessions =>
    exact fun sessionId session hget _ huser =>
      signedOut_iff.mp hsignedOut sessionId session hget huser
  case refreshTokens =>
    intro tokenId token hget _
    obtain ⟨session, hsession, -⟩ := howned tokenId token hget
    exact (Table.lt_next hsession).trans_eq hsessions

/-- A user who is signed out before a statement that brings no session is so after it. -/
theorem signedOut_exec (hbacked : w.backed i k) (h : w.signedOut userId)
    (hsessions : (w.store.exec k).1.sessions.next = w.store.sessions.next) :
    (w.exec i k).1.signedOut userId := by
  refine signedOut_iff.mpr fun sessionId session hget huser => ?_
  obtain ⟨before, hbefore, haged⟩ := (exec_ages w.store k).sessions.back sessionId session hget
    (hsessions ▸ Table.lt_next hget)
  exact exec_closed hbacked hbefore
    (signedOut_iff.mp h sessionId before hbefore (haged.userId.symm.trans huser)) hget

/-- A reset token of the user that is good after a statement was good before it. -/
theorem unresettable_exec (h : w.unresettable userId kind)
    (hnext : (w.store.exec k).1.resetTokens.next = w.store.resetTokens.next)
    (hother : ∀ tokenId row new, w.store.resetTokens.get? tokenId = some row →
      (w.store.exec k).1.resetTokens.get? tokenId = some new → row.userId = userId →
        kind tokenId row = false → new.live w.store.clock = false) :
    (w.exec i k).1.unresettable userId fun _ _ => true := by
  have hages := exec_ages w.store k
  refine unresettable_iff.mpr fun tokenId new hnew huser _ => ?_
  obtain ⟨row, hrow, haged⟩ :=
    hages.resetTokens.back tokenId new hnew ((Table.lt_next hnew).trans_eq hnext)
  have howner := haged.userId.symm.trans huser
  refine Bool.eq_false_iff.mpr fun hlive => ?_
  cases hkind : kind tokenId row with
  | true =>
    have hdead := unresettable_iff.mp h tokenId row hrow howner hkind
    rw [haged.live hages.clock hlive] at hdead
    cases hdead
  | false =>
    have hdead := hother tokenId row new hrow hnew howner hkind
    rw [(PasswordResetToken.Ages.refl new).live hages.clock hlive] at hdead
    cases hdead

theorem settled_reset (howned : Owned (w.exec i k).1.store)
    (hk : k = .resetPassword userId tokenId passwordHash) (hclean : w.clean k)
    (hexec : (w.store.exec k).1 = w.store.resetPassword userId tokenId passwordHash) :
    Settled (w.exec i k).1 userId (.reset tokenId) w.store.marks := by
  obtain ⟨hgood, hothers⟩ : w.clean (.resetPassword userId tokenId passwordHash) := hk ▸ hclean
  have htokens : (w.store.exec k).1.resetTokens = w.store.resetTokens.update tokenId fun row =>
      { row with consumedAt := some w.store.clock } := by
    rw [hexec]
    rfl
  have hsessions : (w.store.exec k).1.sessions = w.store.sessions.updateWhere
      (fun _ session => session.userId == userId && session.revokedAt.isNone) fun session =>
        { session with revokedAt := some w.store.clock } := by
    rw [hexec]
    rfl
  refine settled_of_ended howned (by rw [hsessions]; rfl) ?_ ?_ ?_
  · cases hrow : w.store.resetTokens.get? tokenId with
    | none =>
      rw [hrow] at hgood
      cases hgood
    | some row =>
      refine ⟨{ row with consumedAt := some w.store.clock }, ?_, rfl⟩
      show (w.store.exec k).1.resetTokens.get? tokenId = _
      rw [htokens, Table.get?_update_self, hrow]
      rfl
  · refine unresettable_exec hothers (by rw [htokens]; rfl) fun other row new hrow hnew _
      hkind => ?_
    obtain rfl : other = tokenId := by simpa using hkind
    rw [htokens, Table.get?_update_self, hrow] at hnew
    cases hnew
    rfl
  · refine signedOut_iff.mpr fun sessionId session hget huser => closed_iff.mpr (.inl ?_)
    have hget' : (w.store.exec k).1.sessions.get? sessionId = some session := hget
    rw [hsessions, Table.get?_updateWhere, Option.map_eq_some_iff] at hget'
    obtain ⟨before, -, rfl⟩ := hget'
    split
    · rfl
    · rename_i hopen
      simp only [hopen, Bool.false_eq_true, if_false] at huser
      simp only [huser, BEq.rfl, Bool.true_and] at hopen
      exact Bool.eq_false_iff.mpr hopen

theorem settled_forced (howned : Owned (w.exec i k).1.store)
    (hk : k = .changePassword userId passwordHash) (hclean : w.clean k) :
    Settled (w.exec i k).1 userId .forced w.store.marks := by
  obtain ⟨hresets, hsignedOut⟩ : w.clean (.changePassword userId passwordHash) := hk ▸ hclean
  subst hk
  have hsessions : (w.store.exec (.changePassword userId passwordHash)).1.sessions.next =
      w.store.sessions.next :=
    written_same (·.sessions.next) rfl
  refine settled_of_ended howned hsessions trivial ?_ ?_
  · exact unresettable_exec hresets (written_same (·.resetTokens.next) rfl)
      fun _ _ _ _ _ _ hkind => by cases hkind
  · exact signedOut_exec trivial hsignedOut hsessions

theorem settled_invitation (howned : Owned (w.exec i k).1.store)
    (hk : k = .acceptInvitation invitationId userId passwordHash firstName lastName)
    (hclean : w.clean k) (hexec : (w.store.exec k).1 =
      w.store.acceptInvitation invitationId userId passwordHash firstName lastName) :
    Settled (w.exec i k).1 userId (.invitation invitationId) w.store.marks := by
  obtain ⟨hpending, hresets, hsignedOut⟩ : w.clean
    (.acceptInvitation invitationId userId passwordHash firstName lastName) := hk ▸ hclean
  have htokens : (w.store.exec k).1.resetTokens = w.store.invalidate fun row =>
      row.userId == userId && row.purpose == .invitationFirstLogin := by
    rw [hexec]
    rfl
  have hsessions : (w.store.exec k).1.sessions.next = w.store.sessions.next := by
    rw [hexec]
    rfl
  refine settled_of_ended howned hsessions ?_ ?_
    (signedOut_exec (hk ▸ trivial) hsignedOut hsessions)
  · cases hrow : w.store.invitations.get? invitationId with
    | none =>
      rw [hrow] at hpending
      cases hpending
    | some row =>
      refine ⟨{ row with status := .accepted }, ?_, by simp⟩
      show (w.store.exec k).1.invitations.get? invitationId = _
      rw [hexec]
      show (w.store.invitations.update invitationId _).get? invitationId = _
      rw [Table.get?_update_self, hrow]
      rfl
  · refine unresettable_exec hresets (by rw [htokens]; rfl) ?_
    intro tokenId row new hrow hnew huser hkind
    rw [htokens, Store.invalidate, Table.get?_updateWhere, hrow, Option.map_some] at hnew
    have hpurpose : row.purpose = .invitationFirstLogin := by simpa using hkind
    cases hnew
    split
    · simp [PasswordResetToken.live]
    · rename_i hopen
      simp only [huser, hpurpose, BEq.rfl, Bool.true_and] at hopen
      simp [PasswordResetToken.live, Bool.eq_false_iff.mpr hopen]

/-- A change under the condition is settled. -/
theorem settled_of_change (howned : Owned (w.exec i k).1.store) (hclean : w.clean k)
    (hchange : World.change w.store k = some (userId, path)) :
    Settled (w.exec i k).1 userId path w.store.marks := by
  cases k with
  | resetPassword ownerId tokenId passwordHash =>
    simp only [World.change, Option.ite_none_right_eq_some] at hchange
    obtain ⟨hfound, ⟨⟩⟩ := hchange
    refine settled_reset howned rfl hclean ?_
    rw [Store.exec, hfound]
    rfl
  | changePassword ownerId passwordHash =>
    simp only [World.change, Option.ite_none_right_eq_some] at hchange
    obtain ⟨-, ⟨⟩⟩ := hchange
    exact settled_forced howned rfl hclean
  | acceptInvitation invitationId ownerId passwordHash firstName lastName =>
    simp only [World.change, Option.ite_none_right_eq_some] at hchange
    obtain ⟨hfound, ⟨⟩⟩ := hchange
    refine settled_invitation howned rfl hclean ?_
    rw [Store.exec, hfound]
    rfl
  | _ => cases hchange

theorem Guarded.exec (h : Guarded w) (hbacked : w.backed i k) (hclean : w.clean k) :
    Guarded (w.exec i k).1 := by
  have howned := h.owned.exec hbacked
  refine ⟨howned, fun userId path marks hmem => ?_, ?_⟩
  · rcases List.mem_append.mp hmem with hmem | hmem
    · exact (h.settled userId path marks hmem).exec hbacked
    · rcases mem_logged.mp hmem with ⟨changer, latest, hchange, heq⟩ | ⟨_, _, _, heq⟩
      · cases heq
        exact settled_of_change howned hclean hchange
      · cases heq
  · refine List.pairwise_append.mpr ⟨h.permitted, logged_pairwise w.store k, ?_⟩
    intro entry hentry later hlater
    cases entry with
    | changed userId path marks =>
      exact (h.settled userId path marks hentry).permits h.owned hbacked hclean hlater
    | accepted userId credential => exact accepted_permits userId credential later

-- ---
-- Calls
-- ---

def agingDiscipline : Discipline World.exec where
  inv := Guarded
  rely := aging
  needs := World.backed
  allowed := World.clean
  keeps _ w k h hbacked hclean := ⟨h.exec hbacked hclean, fun _ hj => aging_exec w k hj⟩

abbrev SafeCall (i : Nat) (w : World) (x : PasswordProgram α) : Prop :=
  x.Safe agingDiscipline i (fun _ _ => True) w

/-- A statement that needs nothing. -/
theorem plain_always (hplain : ∀ w, World.backed i w k) : Always agingDiscipline i (query k) :=
  always_statement fun w _ => hplain w

section

variable (env : Environment)

theorem forgotPassword_always (email plaintext : String) :
    Always agingDiscipline i (forgotPassword env email plaintext) := by
  refine always_bind (plain_always fun _ => trivial) fun user => ?_
  cases user.filter (·.2.isActive) with
  | none => exact always_pure _
  | some found =>
    refine always_bind (plain_always fun _ => trivial) fun _ => ?_
    refine always_bind (plain_always fun _ => trivial) fun now => ?_
    exact always_bind (plain_always fun _ => trivial) fun _ => always_pure _

theorem forcePasswordChange_always (userId : Id) (dto : ForcePasswordChangeDto) :
    Always agingDiscipline i (forcePasswordChange env userId dto) := by
  refine always_bind (plain_always fun _ => trivial) fun found => always_need fun user _ => ?_
  refine always_ensure fun _ => always_ensure fun _ => ?_
  exact always_bind (plain_always fun _ => trivial) fun _ => always_pure _

theorem findTarget_always (invitation : Invitation) :
    Always agingDiscipline i (findTarget invitation) := by
  unfold findTarget
  cases invitation.userId with
  | some _ | none => exact always_bind (plain_always fun _ => trivial) fun _ => always_pure _

theorem accept_always (dto : AcceptInvitationDto) :
    Always agingDiscipline i (accept env dto) := by
  refine always_bind (plain_always fun _ => trivial) fun found => always_need ?_
  rintro ⟨invitationId, invitation⟩ -
  refine always_ensure fun _ => always_ensure fun _ => ?_
  refine always_bind (plain_always fun _ => trivial) fun now => ?_
  split
  · refine always_bind ?_ fun _ => always_throw _
    unfold markExpired
    split
    · exact plain_always fun _ => trivial
    · exact always_pure _
  · refine always_bind (findTarget_always invitation) fun user => always_need fun userId _ => ?_
    exact always_bind (plain_always fun _ => trivial) fun _ => always_pure _

theorem validate_always (jti : String) : Always agingDiscipline i (validate jti) := by
  refine always_bind (plain_always fun _ => trivial) fun found => always_need ?_
  rintro ⟨sessionId, session, isActive⟩ -
  refine always_bind (plain_always fun _ => trivial) fun now => ?_
  refine always_ensure fun _ => always_ensure fun _ => always_bind ?_ fun _ => always_pure _
  unfold noteActivity
  split
  · exact plain_always fun _ => trivial
  · exact always_pure _

/-- The reset token is the user's. -/
def World.holds (tokenId userId : Id) (w : World) : Prop :=
  ∃ row, w.store.resetTokens.get? tokenId = some row ∧ row.userId = userId

theorem holds_ages (h : w.holds tokenId userId) (hages : w.store.Ages v.store) :
    v.holds tokenId userId := by
  obtain ⟨row, hrow, huser⟩ := h
  obtain ⟨new, hnew, haged⟩ := hages.resetTokens.forth tokenId row hrow
  exact ⟨new, hnew, haged.userId.trans huser⟩

theorem holds_statement {f : k.Answer → PasswordProgram α} (h : w.holds tokenId userId)
    (hbacked : ∀ v : World, v.holds tokenId userId → v.backed i k)
    (hnext : ∀ (v : World) a, v.holds tokenId userId → SafeCall i v (f a)) :
    SafeCall i w (query k >>= f) :=
  safe_known (World.holds tokenId userId) (fun _ _ hv hrely => holds_ages hv hrely.1)
    (fun v hv => holds_ages hv (exec_ages v.store k)) hbacked (fun _ _ => trivial) h hnext

theorem resetPassword_safe (dto : ResetPasswordDto) (w : World) :
    SafeCall i w (resetPassword env dto) := by
  refine safe_statement (fun _ _ _ => trivial) fun v _ _ _ => safe_need ?_ fun _ => trivial
  rintro ⟨tokenId, record⟩ hfound
  have hholds : v.holds tokenId record.userId := ⟨record, (Table.findFirst_some hfound).1, rfl⟩
  refine safe_ensure (fun _ => ?_) fun _ => trivial
  refine safe_ensure (fun _ => ?_) fun _ => trivial
  refine holds_statement (holds_ages hholds (exec_ages v.store _)) (fun _ _ => trivial) ?_
  intro u now hholds
  refine safe_ensure (fun _ => ?_) fun _ => trivial
  refine holds_statement hholds (fun _ _ => trivial) fun t user hholds => ?_
  refine safe_need (fun user _ => ?_) fun _ => trivial
  exact holds_statement hholds (fun _ hholds => hholds) fun _ _ _ => trivial

/-- The call is about to insert a refresh token of the session, which is the user's. -/
def World.announces (i : Nat) (sessionId userId : Id) (w : World) : Prop :=
  (i, sessionId) ∈ w.issuing ∧
    ∃ session, w.store.sessions.get? sessionId = some session ∧ session.userId = userId

theorem announces_rely (h : w.announces i sessionId userId) (hrely : (aging i).rel w v) :
    v.announces i sessionId userId := by
  obtain ⟨hmem, session, hget, huser⟩ := h
  obtain ⟨new, hnew, haged⟩ := hrely.1.sessions.forth sessionId session hget
  exact ⟨hrely.2 sessionId hmem, new, hnew, haged.userId.trans huser⟩

/-- The clock is read before the announced token is inserted. -/
theorem announced_now {f : Time → PasswordProgram α} (h : w.announces i sessionId userId)
    (hnext : ∀ (v : World) now, v.announces i sessionId userId → SafeCall i v (f now)) :
    SafeCall i w (query .now >>= f) :=
  safe_known (World.announces i sessionId userId) (fun _ _ => announces_rely)
    (fun _ hv => ⟨hv.1, hv.2⟩) (fun _ _ => trivial) (fun _ _ => trivial) h hnext

theorem announced_create {f : Id → PasswordProgram α} {row : RefreshToken}
    (h : w.announces i row.sessionId row.userId)
    (hnext : ∀ (v : World) tokenId, SafeCall i v (f tokenId)) :
    SafeCall i w (query (.createRefreshToken row) >>= f) :=
  safe_any (fun _ hwv _ => announces_rely h hwv) (fun _ _ => trivial) hnext

theorem createSession_announces (hfree :
      (w.store.sessions.count (fun _ other => other.jti == row.jti) != 0) = false) :
    (w.exec i (.createSession row)).1.announces i w.store.sessions.next row.userId ∧
      (w.exec i (.createSession row)).2 = .ok w.store.sessions.next := by
  refine ⟨⟨?_, row, ?_, rfl⟩, ?_⟩
  · simp only [World.exec, hfree, Bool.false_eq_true, if_false]
    exact .head _
  · simp only [World.exec, Store.exec, unlessTaken, hfree, Bool.false_eq_true, if_false]
    exact Table.get?_insert_self _ _
  · simp only [World.exec, Store.exec, unlessTaken, hfree, Bool.false_eq_true, if_false]

theorem createSessionAndTokens_safe (userId : Id) (drawn : Drawn) :
    Always agingDiscipline i (createSessionAndTokens env userId drawn) := by
  refine always_bind (plain_always fun _ => trivial) fun now w => ?_
  refine safe_statement (fun _ _ _ => trivial) fun v _ _ _ => ?_
  cases hfree : v.store.sessions.count (fun _ other => other.jti == drawn.jti) != 0 with
  | true =>
    simp only [World.exec, Store.exec, unlessTaken, hfree, if_true]
    trivial
  | false =>
    let row : Session := { userId, jti := drawn.jti, expiresAt := now + env.refreshTtlMs }
    obtain ⟨hannounces, hreply⟩ :
        (v.exec i (.createSession row)).1.announces i v.store.sessions.next userId ∧
          (v.exec i (.createSession row)).2 = .ok v.store.sessions.next :=
      createSession_announces hfree
    rw [hreply]
    exact announced_now hannounces fun u now hannounces =>
      announced_create hannounces fun _ _ => trivial

/-- A refresh has read a token of the session, and will look its session up. -/
def World.refreshing (i : Nat) (tokenId : Id) (token : RefreshToken) (w : World) : Prop :=
  (i, token.sessionId) ∈ w.issuing ∧ ∃ row, w.store.refreshTokens.get? tokenId = some row ∧
    row.sessionId = token.sessionId ∧ row.userId = token.userId

theorem refreshing_rely (h : w.refreshing i tokenId token) (hrely : (aging i).rel w v) :
    v.refreshing i tokenId token := by
  obtain ⟨hmem, row, hget, hsession, huser⟩ := h
  obtain ⟨new, hnew, haged⟩ := hrely.1.refreshTokens.forth tokenId row hget
  exact ⟨hrely.2 _ hmem, new, hnew, haged.sessionId.trans hsession, haged.userId.trans huser⟩

theorem rotate_safe (tokenId : Id) (token : RefreshToken) (drawn : String)
    (h : w.refreshing i tokenId token) : SafeCall i w (rotate env tokenId token drawn) := by
  refine safe_statement (fun _ _ _ => trivial) fun v hwv _ _ => ?_
  have hv : (v.exec i (.revokeRefreshToken tokenId)).1.refreshing i tokenId token := by
    obtain ⟨hmem, hrow⟩ := refreshing_rely h hwv
    exact refreshing_rely ⟨hmem, hrow⟩ ⟨exec_ages v.store _, fun _ hmem => hmem⟩
  refine safe_statement (fun u hvu _ => refreshing_rely hv hvu) fun u hvu hinv _ => ?_
  have hu := refreshing_rely hv hvu
  refine safe_need (fun session hsession => ?_) fun _ => trivial
  have hannounces : (u.exec i (.findSession tokenId token)).1.announces i token.sessionId
      token.userId := by
    obtain ⟨hmem, row, hrow, hrowSession, hrowUser⟩ := hu
    obtain ⟨owner, howner, huser⟩ := hinv.owned tokenId row hrow
    exact ⟨hmem, owner, hrowSession ▸ howner, huser.trans hrowUser⟩
  refine announced_now hannounces fun t now hannounces =>
    announced_create hannounces fun r replacedById => ?_
  refine safe_any (fun _ _ _ => trivial) (fun _ _ => trivial) fun q _ => ?_
  refine safe_any (fun _ _ _ => trivial) (fun _ _ => trivial) fun o now => ?_
  exact safe_any (fun _ _ _ => trivial) (fun _ _ => trivial) fun _ _ => trivial

/-- A good token of an active user is announced when it is read. -/
theorem findRefreshToken_issuing
    (hfound : w.store.findRefreshToken tokenHash = some (tokenId, token, isActive))
    (hgood : (token.live w.store.clock && isActive) = true) :
    (w.exec i (.findRefreshToken tokenHash)).1.refreshing i tokenId token := by
  have hrow : w.store.refreshTokens.get? tokenId = some token := by
    simp only [Store.findRefreshToken, Option.map_eq_some_iff, Prod.mk.injEq] at hfound
    obtain ⟨found, hfirst, rfl, rfl, -⟩ := hfound
    exact (Table.findFirst_some hfirst).1
  refine ⟨?_, token, hrow, rfl, rfl⟩
  simp [World.exec, hfound, hgood]

theorem refresh_safe (refreshToken drawn : String) (w : World) :
    SafeCall i w (refresh env refreshToken drawn) := by
  refine safe_statement (fun _ _ _ => trivial) fun v _ _ _ => safe_need ?_ fun _ => trivial
  rintro ⟨tokenId, token, isActive⟩ hfound
  cases hrevoked : token.revokedAt with
  | some _ =>
    simp only [hrevoked]
    exact safe_any (fun _ _ _ => trivial) (fun _ _ => trivial) fun _ _ => trivial
  | none =>
    simp only [hrevoked]
    refine safe_statement (fun _ _ _ => trivial) fun u hvu _ _ => ?_
    refine safe_ensure (fun hunexpired => ?_) fun _ => trivial
    refine safe_ensure (fun hactive => ?_) fun _ => trivial
    have hgood : (token.live v.store.clock && isActive) = true := by
      have hclock : v.store.clock ≤ u.store.clock := hvu.1.clock
      simp only [RefreshToken.live, hrevoked, hactive, Bool.and_eq_true, decide_eq_true_eq]
      exact ⟨⟨rfl, hclock.trans (of_decide_eq_true hunexpired)⟩, trivial⟩
    refine rotate_safe env tokenId token drawn ?_
    obtain ⟨hmem, hrow⟩ := refreshing_rely (findRefreshToken_issuing hfound hgood) hvu
    exact ⟨hmem, hrow⟩

theorem program_safe (call : PasswordCall) (w : World) : SafeCall i w (call.program env) := by
  cases call with
  | forgotPassword email plaintext => exact forgotPassword_always env email plaintext w
  | resetPassword dto => exact resetPassword_safe env dto w
  | forcePasswordChange userId dto => exact forcePasswordChange_always env userId dto w
  | accept dto => exact accept_always env dto w
  | login email password drawn =>
    refine safe_any (fun _ _ _ => trivial) (fun _ _ => trivial) fun v found => ?_
    refine safe_need ?_ fun _ => trivial
    rintro ⟨userId, user⟩ -
    exact safe_ensure (fun _ => createSessionAndTokens_safe env userId drawn v) fun _ => trivial
  | pinLogin userId drawn => exact createSessionAndTokens_safe env userId drawn w
  | refresh refreshToken drawn => exact refresh_safe env refreshToken drawn w
  | validate jti => exact validate_always jti w

end

-- ---
-- Every interleaving
-- ---

abbrev PasswordPool := Pool World (PasswordProgram Reply)

abbrev take : PasswordPool → Turn → PasswordPool := Turn.take World.exec World.wait

/-- The calls, none of which has started. -/
def requested (env : Environment) (s : Store) (calls : List PasswordCall) : PasswordPool where
  shared := { store := s }
  threads := calls.map (·.program env)

theorem Settled.wait (h : Settled w userId path marks) (ms : Nat) :
    Settled (w.wait ms) userId path marks := by
  have hdead {row : PasswordResetToken} (hrow : row.live w.store.clock = false) :
      row.live (w.store.clock + ms) = false := by
    refine Bool.eq_false_iff.mpr fun hlive => ?_
    rw [(PasswordResetToken.Ages.refl row).live (Nat.le_add_right _ _) hlive] at hrow
    cases hrow
  constructor
  case spent =>
    cases path with
    | reset tokenId =>
      obtain ⟨row, hrow, hspent⟩ := h.spent
      exact ⟨row, hrow, hdead hspent⟩
    | forced => trivial
    | invitation invitationId => exact h.spent
  case issued => exact h.issued
  case resetTokens =>
    exact fun tokenId row hget hlt huser => hdead (h.resetTokens tokenId row hget hlt huser)
  case sessions =>
    intro sessionId session hget hlt huser
    refine closed_iff.mpr
      ((closed_iff.mp (h.sessions sessionId session hget hlt huser)).imp_right ?_)
    rintro ⟨hexpired, htokens, hnone⟩
    refine ⟨Nat.lt_add_right ms hexpired, fun tokenId token htoken hsession => ?_, hnone⟩
    refine Bool.eq_false_iff.mpr fun hlive => ?_
    have hdead := htokens tokenId token htoken hsession
    rw [(RefreshToken.Ages.refl token).live (Nat.le_add_right _ _) hlive] at hdead
    cases hdead
  case refreshTokens => exact h.refreshTokens

theorem guarded_wait (w : World) (ms : Nat) (h : Guarded w) :
    Guarded (w.wait ms) ∧ ∀ i, (aging i).rel w (w.wait ms) := by
  have hages : w.store.Ages (w.wait ms).store :=
    { Store.Ages.refl w.store with clock := Nat.le_add_right _ _ }
  refine ⟨⟨h.owned, fun userId path marks hmem => ?_, h.permitted⟩, fun i => ⟨hages, fun _ h => h⟩⟩
  exact (h.settled userId path marks hmem).wait ms

/-- In any interleaving, a token changes one password, and after a change nothing of its
user that was issued before is accepted. -/
theorem pool_permitted (env : Environment) (s : Store) (howned : Owned s)
    (hrun : Run take (fun p t => t.asks World.clean p) (requested env s calls) turns p) :
    p.shared.history.Pairwise Entry.permits := by
  have hsafe : SafePool agingDiscipline (fun _ _ _ => True) (requested env s calls) := by
    refine ⟨⟨howned, fun _ _ _ hmem => (by cases hmem), .nil⟩, fun i x hx => ?_⟩
    simp only [requested, List.getElem?_map, Option.map_eq_some_iff] at hx
    obtain ⟨call, -, rfl⟩ := hx
    exact program_safe env call _
  exact (hsafe.run (fun _ _ _ _ _ _ => trivial) guarded_wait hrun).inv.permitted

def plain : Environment where
  normalizeEmail := id
  hashToken := id
  compare password hash := password == hash
  refreshTtlMs := 604800000

/-- A user who has been invited. -/
def invited : Store where
  users := Table.empty.insert { email := "ada@nimbus.test", passwordHash := "first" }
  invitations := Table.empty.insert
    { organizationId := 0, branchId := 0, email := "ada@nimbus.test", tokenHash := "inv"
      expiresAt := 1209600000, userId := some 0 }

theorem invited_owned : Owned invited := fun _ _ hget => by cases hget

def signsIn (password n : String) : PasswordCall :=
  .login "ada@nimbus.test" password ⟨"jti" ++ n, "family" ++ n, "refresh" ++ n⟩

def forgets (token : String) : PasswordCall := .forgotPassword "ada@nimbus.test" token

def resets (token password : String) : PasswordCall := .resetPassword ⟨token, password⟩

def forced (old new : String) : PasswordCall := .forcePasswordChange 0 ⟨old, new, new⟩

def joins (password : String) : PasswordCall := .accept ⟨"inv", password, none, none⟩

/-- An invitation, a sign-in and a reset, which ends the session; another sign-in. -/
theorem pool_permitted_reset :
    let calls := [joins "second", signsIn "second" "1", forgets "token", resets "token" "third",
      .validate "jti1", signsIn "third" "2", .validate "jti2", .refresh "refresh2" "refresh3"]
    let turns := times 4 0 ++ times 5 1 ++ times 4 2 ++ times 4 3 ++ times 1 4 ++ times 5 5 ++
      times 2 6 ++ times 9 7
    let p := turns.foldl take (requested plain invited calls)
    p.shared.history.length = 6 ∧ p.shared.history.Pairwise Entry.permits := by
  intro calls turns p
  have hrun : Run take (fun p t => t.asks World.clean p) (requested plain invited calls) turns p :=
    Run.of_holds (by decide +kernel)
  exact ⟨by decide +kernel, pool_permitted plain invited invited_owned hrun⟩

/-- Two resets at once take one token, and so do two acceptances. A forced change leaves
the session, and an acceptance the reset token. -/
def survivors : List (List PasswordCall × List Turn) :=
  [([forgets "token", resets "token" "second", resets "token" "third"],
      times 4 0 ++ times 3 1 ++ times 4 2 ++ times 1 1),
    ([joins "second", joins "third"], times 3 0 ++ times 4 1 ++ times 1 0),
    ([signsIn "first" "1", forced "first" "second", .validate "jti1"],
      times 5 0 ++ times 2 1 ++ times 2 2),
    ([forgets "token", joins "second", resets "token" "third"],
      times 4 0 ++ times 4 1 ++ times 4 2)]

theorem pool_survivors :
    ¬(∀ (env : Environment) (s : Store) (calls : List PasswordCall) (turns : List Turn)
      (p : PasswordPool), Owned s → Run take (fun _ _ => True) (requested env s calls) turns p →
      p.shared.history.Pairwise Entry.permits) ∧
    ∀ run ∈ survivors, ¬(run.2.foldl take (requested plain invited run.1)).shared.history.Pairwise
      Entry.permits := by
  have hruns : ∀ run ∈ survivors,
      ¬(run.2.foldl take (requested plain invited run.1)).shared.history.Pairwise
        Entry.permits := by
    simp only [survivors, List.mem_cons, List.not_mem_nil, or_false]
    rintro run (rfl | rfl | rfl | rfl)
    all_goals decide +kernel
  refine ⟨fun h => ?_, hruns⟩
  exact hruns _ (.head _) (h plain invited _ _ _ invited_owned (Run.foldl _ _ _))

end NimbusPos.Passwords
