import NimbusPos.Auth.Sessions

/-!
# Token families

A family has at most one token that may still be used, and a token that is presented a
second time ends its family. Both hold while nothing comes between the statements of a
rotation: each rotation revokes a token that is still good, and no family is swept
between that and the insert of the successor.
-/

namespace NimbusPos.AuthService

open Lib Lib.Program

variable {hashToken : String → String} {refreshTtlMs : Nat}

def Store.live (s : Store) (sessionId : Id) : Bool :=
  (s.sessions.get? sessionId).any (·.revokedAt.isNone)

/-- The store, and the families whose token has been revoked by a refresh that has not
inserted the successor yet. -/
structure World where
  store : Store
  rotating : List (Nat × String) := []

namespace World

/-- The family of a token whose session will let the rotation go on. -/
def rotates (w : World) (tokenId : Id) : Option String :=
  ((w.store.refreshTokens.get? tokenId).filter fun token => w.store.live token.sessionId).map
    (·.family)

def exec (i : Nat) (w : World) (k : Statement) : World × Except HttpError k.Answer :=
  let r := w.store.exec k
  ({ store := r.1
     rotating := match k with
      | .revokeToken tokenId => ((w.rotates tokenId).map (i, ·)).toList ++ w.rotating
      | .findSession sessionId =>
        if w.store.live sessionId then w.rotating else w.rotating.filter (·.1 != i)
      | .createToken row => w.rotating.erase (i, row.family)
      | _ => w.rotating }, r.2)

def wait (w : World) (ms : Nat) : World :=
  { w with store := { w.store with clock := w.store.clock + ms } }

/-- The tokens of a family that are not revoked. -/
def unrevoked (w : World) (family : String) : Nat :=
  w.store.refreshTokens.count fun _ token => token.family == family && token.revokedAt.isNone

/-- The tokens of a family that are neither revoked nor used. -/
def usable (w : World) (family : String) : Nat :=
  w.store.refreshTokens.count fun _ token =>
    token.family == family && token.revokedAt.isNone && token.replacedById.isNone

/-- The tokens that a family has or is about to get. -/
def strength (w : World) (family : String) : Nat :=
  w.unrevoked family + w.rotating.countP (·.2 == family)

end World

/-- Each hash has one row, and a token is its session's user's. -/
structure Linked (s : Store) : Prop where
  hashes : ∀ j k token other, s.refreshTokens.get? j = some token →
    s.refreshTokens.get? k = some other → token.tokenHash = other.tokenHash → j = k
  users : ∀ k token session, s.refreshTokens.get? k = some token →
    s.sessions.get? token.sessionId = some session → session.userId = token.userId

/-- The columns of a token that no call changes. -/
def RefreshToken.issued (token : RefreshToken) : RefreshToken :=
  { token with revokedAt := none, replacedById := none }

theorem issued_columns {token other : RefreshToken} (h : token.issued = other.issued) :
    token.tokenHash = other.tokenHash ∧ token.family = other.family ∧
      token.sessionId = other.sessionId ∧ token.userId = other.userId := by
  simp only [RefreshToken.issued, RefreshToken.mk.injEq] at h
  exact ⟨h.2.1, h.2.2.1, h.2.2.2.1, h.1⟩

-- ---
-- Rows that stay
-- ---

/-- Tokens stay, with the columns they were issued with, no session comes, and what is
revoked stays so. -/
def kept : Service.Frame Store where
  rel s t :=
    (∀ k token, s.refreshTokens.get? k = some token → ∃ token',
      t.refreshTokens.get? k = some token' ∧ token'.issued = token.issued ∧
        (token.revokedAt.isSome = true → token'.revokedAt.isSome = true)) ∧
    ∀ k session', t.sessions.get? k = some session' → ∃ session,
      s.sessions.get? k = some session ∧ session'.userId = session.userId ∧
        (session.revokedAt.isSome = true → session'.revokedAt.isSome = true)
  refl s := ⟨fun _ token h => ⟨token, h, rfl, fun h => h⟩, fun _ session h =>
    ⟨session, h, rfl, fun h => h⟩⟩
  trans := by
    rintro s t u ⟨htokens, hsessions⟩ ⟨htokens', hsessions'⟩
    refine ⟨fun k token h => ?_, fun k session h => ?_⟩
    · obtain ⟨token', hget', hissued, hrevoked⟩ := htokens k token h
      obtain ⟨token'', hget'', hissued', hrevoked'⟩ := htokens' k token' hget'
      exact ⟨token'', hget'', hissued'.trans hissued, fun h => hrevoked' (hrevoked h)⟩
    · obtain ⟨session', hget', huser, hrevoked⟩ := hsessions' k session h
      obtain ⟨session'', hget'', huser', hrevoked'⟩ := hsessions k session' hget'
      exact ⟨session'', hget'', huser.trans huser', fun h => hrevoked (hrevoked' h)⟩

section

variable {s t : Store}

theorem kept_tokens {f : RefreshToken → RefreshToken}
    (hissued : ∀ token, (f token).issued = token.issued)
    (hrevoked : ∀ token, token.revokedAt.isSome = true → (f token).revokedAt.isSome = true) :
    kept.rel s { s with refreshTokens := s.refreshTokens.updateWhere p f } := by
  refine ⟨fun k token hget => ?_, (kept.refl s).2⟩
  simp only [Table.get?_updateWhere, hget, Option.map_some]
  split
  · exact ⟨f token, rfl, hissued token, hrevoked token⟩
  · exact ⟨token, rfl, rfl, fun h => h⟩

theorem kept_sessions {f : Session → Session}
    (huser : ∀ session, (f session).userId = session.userId)
    (hrevoked : ∀ session, session.revokedAt.isSome = true → (f session).revokedAt.isSome = true) :
    kept.rel s { s with sessions := s.sessions.updateWhere p f } := by
  refine ⟨(kept.refl s).1, fun k session' hget => ?_⟩
  simp only [Table.get?_updateWhere, Option.map_eq_some_iff] at hget
  obtain ⟨session, hsession, rfl⟩ := hget
  refine ⟨session, hsession, ?_⟩
  split
  · exact ⟨huser session, hrevoked session⟩
  · exact ⟨rfl, fun h => h⟩

theorem kept_exec (s : Store) (k : Statement) : kept.rel s (s.exec k).1 := by
  cases k with
  | now | findToken _ | findSession _ => exact kept.refl s
  | revokeFamily _ | revokeToken _ | revokeTokensOfSession _ | revokeTokensOf _ =>
    exact kept_tokens (fun _ => rfl) fun _ _ => rfl
  | linkToken _ _ => exact kept_tokens (fun _ => rfl) fun _ h => h
  | touchSession _ => exact kept_sessions (fun _ => rfl) fun _ h => h
  | revokeSessionsOf _ => exact kept_sessions (fun _ => rfl) fun _ _ => rfl
  | revokeSession sessionId =>
    simp only [Store.exec]
    split
    · exact kept_sessions (fun _ => rfl) fun _ _ => rfl
    · exact kept.refl s
  | createToken row =>
    rcases unlessTaken_cases (s.tokenTaken row.tokenHash) _ s _ _ with ⟨-, hexec⟩ | ⟨-, hexec⟩
    all_goals rw [Store.exec, hexec]
    · exact kept.refl s
    · exact ⟨fun k token hget => ⟨token, Table.get?_insert_of_some hget, rfl, fun h => h⟩,
        (kept.refl s).2⟩

/-- The rows change in other columns than the link reads. -/
theorem Linked.back (h : Linked s)
    (htokens : ∀ k token', t.refreshTokens.get? k = some token' → ∃ token,
      s.refreshTokens.get? k = some token ∧ token'.issued = token.issued)
    (hsessions : ∀ k session', t.sessions.get? k = some session' → ∃ session,
      s.sessions.get? k = some session ∧ session'.userId = session.userId) : Linked t where
  hashes j k token other hj hk heq := by
    obtain ⟨token', hj', hissued⟩ := htokens j token hj
    obtain ⟨other', hk', hissued'⟩ := htokens k other hk
    rw [(issued_columns hissued).1, (issued_columns hissued').1] at heq
    exact h.hashes j k token' other' hj' hk' heq
  users k token session hk hsession := by
    obtain ⟨token', hk', hissued⟩ := htokens k token hk
    obtain ⟨session', hsession', huser⟩ := hsessions _ session hsession
    obtain ⟨_, _, hsessionId, huserId⟩ := issued_columns hissued
    rw [huser, huserId]
    exact h.users k token' session' hk' (hsessionId ▸ hsession')

theorem Linked.tokens (h : Linked s) {f : RefreshToken → RefreshToken}
    (hissued : ∀ token, (f token).issued = token.issued) :
    Linked { s with refreshTokens := s.refreshTokens.updateWhere p f } :=
  h.back (fun _ _ hget => (Table.SameRows.updateWhere hissued).back hget) fun _ session hget =>
    ⟨session, hget, rfl⟩

theorem Linked.kept_sessions (h : Linked s) (hkept : kept.rel s t)
    (htokens : t.refreshTokens = s.refreshTokens) : Linked t := by
  refine h.back (fun k token hget => ⟨token, htokens ▸ hget, rfl⟩) fun k session' hget => ?_
  obtain ⟨session, hsession, huser, _⟩ := hkept.2 k session' hget
  exact ⟨session, hsession, huser⟩

/-- A token that is inserted has the user of its session. -/
def linksUser (s : Store) : Statement → Prop
  | .createToken row => ∀ session, s.sessions.get? row.sessionId = some session →
      session.userId = row.userId
  | _ => True

theorem Linked.insert (h : Linked s) {row : RefreshToken}
    (hfree : s.tokenTaken row.tokenHash = false) (huser : linksUser s (.createToken row)) :
    Linked { s with refreshTokens := s.refreshTokens.insert row } := by
  have hnew : ∀ k token, s.refreshTokens.get? k = some token → token.tokenHash ≠ row.tokenHash := by
    simpa [Store.tokenTaken, Table.count_eq_zero] using hfree
  refine ⟨fun j k token other hj hk heq => ?_, fun k token session hk hsession => ?_⟩
  · simp only [Table.get?_insert] at hj hk
    split at hj <;> split at hk
    · omega
    · cases hj
      exact absurd heq.symm (hnew k other hk)
    · cases hk
      exact absurd heq (hnew j token hj)
    · exact h.hashes j k token other hj hk heq
  · simp only [Table.get?_insert] at hk
    split at hk
    · cases hk
      exact huser session hsession
    · exact h.users k token session hk hsession

theorem linked_exec (s : Store) (k : Statement) (h : Linked s) (huser : linksUser s k) :
    Linked (s.exec k).1 := by
  cases k with
  | now | findToken _ | findSession _ => exact h
  | revokeFamily _ | revokeToken _ | revokeTokensOfSession _ | revokeTokensOf _ | linkToken _ _ =>
    exact h.tokens fun _ => rfl
  | touchSession _ | revokeSessionsOf _ => exact h.kept_sessions (kept_exec s _) rfl
  | revokeSession sessionId =>
    refine h.kept_sessions (kept_exec s _) ?_
    simp only [Store.exec]
    split <;> rfl
  | createToken row =>
    rcases unlessTaken_cases (s.tokenTaken row.tokenHash) _ s _ _ with ⟨-, hexec⟩ | ⟨hfree, hexec⟩
    all_goals rw [Store.exec, hexec]
    · exact h
    · exact h.insert hfree huser

end

-- ---
-- The statements of a rotation
-- ---

def World.needs (i : Nat) (w : World) : Statement → Prop
  | .createToken row => (i, row.family) ∈ w.rotating ∧ linksUser w.store (.createToken row)
  | _ => True

/-- A rotation that will go on revokes a token that is not revoked, and a family is
swept while none of its tokens is being replaced. -/
def undisturbed (w : World) : Statement → Prop
  | .revokeToken tokenId => ∀ token ∈ w.store.refreshTokens.get? tokenId,
      w.store.live token.sessionId = true → token.revokedAt = none
  | .revokeFamily family => ∀ entry ∈ w.rotating, entry.2 ≠ family
  | _ => True

instance (w : World) : (k : Statement) → Decidable (undisturbed w k)
  | .revokeToken tokenId => inferInstanceAs (Decidable
      (∀ token ∈ w.store.refreshTokens.get? tokenId,
        w.store.live token.sessionId = true → token.revokedAt = none))
  | .revokeFamily family => inferInstanceAs (Decidable (∀ entry ∈ w.rotating, entry.2 ≠ family))
  | .now | .findToken _ | .findSession _ | .createToken _ | .linkToken .. | .touchSession _
  | .revokeSession _ | .revokeTokensOfSession _ | .revokeSessionsOf _ | .revokeTokensOf _ =>
    .isTrue trivial

variable {w v : World} {i : Nat}

/-- What only revokes and links lets no family grow. -/
theorem strength_le {f : RefreshToken → RefreshToken}
    (hissued : ∀ token, (f token).issued = token.issued)
    (hrevoked : ∀ token, token.revokedAt.isSome = true → (f token).revokedAt.isSome = true) :
    World.strength { w with
      store := { w.store with refreshTokens := w.store.refreshTokens.updateWhere p f } } family ≤
        w.strength family := by
  refine Nat.add_le_add_right (Table.count_updateWhere_le fun k token hcounts => ?_) _
  rw [(issued_columns (hissued token)).2.1] at hcounts
  simp only [Bool.and_eq_true] at hcounts ⊢
  refine ⟨hcounts.1, ?_⟩
  have hstays := hrevoked token
  revert hstays hcounts
  cases token.revokedAt <;> cases (f token).revokedAt <;> simp

/-- The token that a rotation revokes is counted as the rotation from then on. -/
theorem strength_revokeToken (hgood : undisturbed w (.revokeToken tokenId)) (family : String) :
    (w.exec i (.revokeToken tokenId)).1.strength family ≤ w.strength family := by
  cases hget : w.store.refreshTokens.get? tokenId with
  | none =>
    simp only [World.exec, World.rotates, hget]
    exact strength_le (fun _ => rfl) fun _ _ => rfl
  | some token =>
    cases hlive : w.store.live token.sessionId with
    | false =>
      simp only [World.exec, World.rotates, hget, Option.filter_some, hlive]
      exact strength_le (fun _ => rfl) fun _ _ => rfl
    | true =>
      have hnone : token.revokedAt = none := hgood token hget hlive
      have hcount := Table.count_update_add hget (fun token =>
        { token with revokedAt := some w.store.clock }) fun _ token =>
          token.family == family && token.revokedAt.isNone
      simp only [hnone, Option.isNone_none, Option.isNone_some, Bool.and_true, Bool.and_false,
        Bool.false_eq_true, if_false, Nat.add_zero] at hcount
      simp only [World.strength, World.exec, World.rotates, hget, Option.filter_some, hlive,
        if_true, Option.map_some, Option.toList_some, List.singleton_append, List.countP_cons]
      simp only [World.unrevoked, Store.exec, ← hcount]
      omega

/-- The successor takes the place of its rotation. -/
theorem strength_createToken (hrotates : (i, row.family) ∈ w.rotating) (family : String) :
    (w.exec i (.createToken row)).1.strength family ≤ w.strength family := by
  have hcount : w.rotating.countP (·.2 == family) =
      (w.rotating.erase (i, row.family)).countP (·.2 == family) +
        if row.family == family then 1 else 0 := by
    rw [(List.perm_cons_erase hrotates).countP_eq, List.countP_cons]
  simp only [World.strength, World.exec, hcount]
  rcases unlessTaken_cases (w.store.tokenTaken row.tokenHash) _ w.store _ _ with
    ⟨-, hexec⟩ | ⟨-, hexec⟩
  all_goals rw [Store.exec, hexec]
  · simp only [World.unrevoked]
    omega
  · simp only [World.unrevoked, Table.count_insert]
    by_cases hfamily : row.family = family
    · simp only [hfamily, beq_self_eq_true, Bool.true_and, if_true]
      split <;> omega
    · simp only [beq_eq_false_iff_ne.mpr hfamily, Bool.false_and, Bool.false_eq_true, if_false]
      omega

theorem strength_exec (hneeds : w.needs i k) (hgood : undisturbed w k) (family : String) :
    (w.exec i k).1.strength family ≤ w.strength family := by
  cases k with
  | now | findToken _ | touchSession _ | revokeSessionsOf _ => exact Nat.le_refl _
  | revokeSession sessionId =>
    simp only [World.exec, Store.exec]
    split <;> exact Nat.le_refl _
  | revokeFamily _ | revokeTokensOfSession _ | revokeTokensOf _ =>
    exact strength_le (fun _ => rfl) fun _ _ => rfl
  | linkToken _ _ => exact strength_le (fun _ => rfl) fun _ h => h
  | findSession sessionId =>
    refine Nat.add_le_add_left ?_ _
    simp only [World.exec]
    split
    · exact Nat.le_refl _
    · exact List.filter_sublist.countP_le
  | revokeToken tokenId => exact strength_revokeToken hgood family
  | createToken row => exact strength_createToken hneeds.1 family

/-- The rotations of other calls go on. -/
theorem rotating_exec (h : (j, family) ∈ w.rotating) (hj : j ≠ i) (k : Statement) :
    (j, family) ∈ (w.exec i k).1.rotating := by
  cases k with
  | revokeToken tokenId => exact List.mem_append_right _ h
  | findSession sessionId =>
    simp only [World.exec]
    split
    · exact h
    · exact List.mem_filter.mpr ⟨h, bne_iff_ne.mpr hj⟩
  | createToken row =>
    refine (List.mem_erase_of_ne ?_).mpr h
    rintro ⟨⟩
    exact hj rfl
  | _ => exact h

/-- No family grows, the call's rotations go on, and rows stay. -/
def wanes (i : Nat) : Service.Frame World where
  rel w v := (∀ family, v.strength family ≤ w.strength family) ∧
    (∀ family, (i, family) ∈ w.rotating → (i, family) ∈ v.rotating) ∧ kept.rel w.store v.store
  refl w := ⟨fun _ => Nat.le_refl _, fun _ h => h, kept.refl w.store⟩
  trans h h' := ⟨fun family => Nat.le_trans (h'.1 family) (h.1 family),
    fun family hin => h'.2.1 family (h.2.1 family hin), kept.trans h.2.2 h'.2.2⟩

structure Families (w : World) : Prop where
  single : ∀ family, w.strength family ≤ 1
  linked : Linked w.store

def familyDiscipline : Discipline World.exec where
  inv := Families
  rely := wanes
  needs := World.needs
  allowed := undisturbed
  keeps i w k h hneeds hgood := by
    have hless := strength_exec hneeds hgood
    refine ⟨⟨fun family => Nat.le_trans (hless family) (h.single family), ?_⟩, fun j hj => ?_⟩
    · refine linked_exec w.store k h.linked ?_
      cases k with
      | createToken row => exact hneeds.2
      | _ => trivial
    · exact ⟨hless, fun family hin => rotating_exec hin hj k, kept_exec w.store k⟩

/-- What holds without a condition: rows stay as `kept` says. -/
def rowDiscipline : Discipline World.exec where
  inv w := Linked w.store
  rely _ := ⟨fun w v => kept.rel w.store v.store, fun w => kept.refl w.store, kept.trans⟩
  needs _ w := linksUser w.store
  allowed _ _ := True
  keeps _ w k h huser _ := ⟨linked_exec w.store k h huser, fun _ _ => kept_exec w.store k⟩

-- ---
-- The rows a refresh reads
-- ---

section

variable {s t : Store}

theorem findToken_some (h : s.findToken tokenHash = some (k, token, isActive)) :
    s.refreshTokens.get? k = some token ∧ token.tokenHash = tokenHash := by
  obtain ⟨⟨j, row⟩, hfound, heq⟩ := Option.map_eq_some_iff.mp h
  cases heq
  obtain ⟨hget, hhash⟩ := Table.findFirst_some hfound
  exact ⟨hget, beq_iff_eq.mp hhash⟩

theorem findToken_of_get (h : Linked s) (hget : s.refreshTokens.get? k = some token) :
    ∃ isActive, s.findToken token.tokenHash = some (k, token, isActive) := by
  cases hfind : s.findToken token.tokenHash with
  | none =>
    have hnone := Table.findFirst_none.mp (Option.map_eq_none_iff.mp hfind) k token hget
    rw [beq_self_eq_true] at hnone
    cases hnone
  | some found =>
    obtain ⟨j, other, isActive⟩ := found
    obtain ⟨hother, hhash⟩ := findToken_some hfind
    obtain rfl := h.hashes j k other token hother hget hhash
    obtain rfl := Option.some.inj (hother.symm.trans hget)
    exact ⟨isActive, rfl⟩

/-- The token is stored, as a call has read it. -/
def Stored (s : Store) (tokenId : Id) (token : RefreshToken) : Prop :=
  ∃ row, s.refreshTokens.get? tokenId = some row ∧ row.issued = token.issued

theorem Stored.kept (h : Stored s tokenId token) (hkept : kept.rel s t) :
    Stored t tokenId token := by
  obtain ⟨row, hget, hissued⟩ := h
  obtain ⟨row', hget', hissued', _⟩ := hkept.1 tokenId row hget
  exact ⟨row', hget', hissued'.trans hissued⟩

/-- The successor of a token has the user of its session. -/
theorem links_successor (h : Linked s) (hstored : Stored s tokenId token) (hash : String)
    (expiresAt : Time) :
    linksUser s (.createToken
      { userId := token.userId, tokenHash := hash, family := token.family
        sessionId := token.sessionId, expiresAt := expiresAt }) := by
  intro session hsession
  obtain ⟨row, hget, hissued⟩ := hstored
  obtain ⟨_, _, hsessionId, huserId⟩ := issued_columns hissued
  exact (h.users tokenId row session hget (hsessionId ▸ hsession)).trans huserId

theorem live_back (hkept : kept.rel s t) (hlive : t.live sessionId = true) :
    s.live sessionId = true := by
  simp only [Store.live, Option.any_eq_true] at hlive ⊢
  obtain ⟨session', hget, hnone⟩ := hlive
  obtain ⟨session, hback, _, hrevoked⟩ := hkept.2 sessionId session' hget
  refine ⟨session, hback, ?_⟩
  cases hsession : session.revokedAt with
  | none => rfl
  | some at' =>
    have hsome := hrevoked (by rw [hsession]; rfl)
    rw [Option.isNone_iff_eq_none.mp hnone] at hsome
    cases hsome

end

-- ---
-- Rotations that nothing disturbs
-- ---

theorem rotate_safe (hstored : Stored w.store tokenId token) (drawn : String) :
    (rotate hashToken refreshTtlMs tokenId token drawn).Safe familyDiscipline i
      (fun _ _ => True) w := by
  refine safe_statement (fun _ _ _ => trivial) fun t hwt _ _ => ?_
  -- The rotation is under way if its session lets it go on.
  have hunder : t.store.live token.sessionId = true →
      (i, token.family) ∈ (t.exec i (.revokeToken tokenId)).1.rotating := by
    intro hlive
    obtain ⟨row, hget, hissued⟩ := hstored.kept hwt.2.2
    obtain ⟨_, hfamily, hsession, _⟩ := issued_columns hissued
    simp only [World.exec, World.rotates, hget, Option.filter_some, hsession, hlive, if_true,
      Option.map_some, hfamily]
    exact List.mem_cons_self
  refine safe_statement (fun _ _ _ => trivial) fun u htu _ _ => safe_need (fun session hfound => ?_)
    fun _ => trivial
  have hkept : kept.rel t.store u.store := kept.trans (kept_exec t.store _) htu.2.2
  have hlive : u.store.live token.sessionId = true := by
    obtain ⟨hsome, hnone⟩ := Option.filter_eq_some_iff.mp hfound
    simp only [Store.live, hsome, Option.any_some, hnone]
  have hrotates : (i, token.family) ∈ (u.exec i (.findSession token.sessionId)).1.rotating := by
    simp only [World.exec, hlive, if_true]
    exact htu.2.1 _ (hunder (live_back hkept hlive))
  refine safe_read (fun v => v.store.clock) (fun _ => rfl) (fun _ _ _ => trivial) fun v huv _ => ?_
  refine safe_any (fun x hvx hx => ⟨hvx.2.1 _ (huv.2.1 _ hrotates), ?_⟩) (fun _ _ => trivial)
    fun _ _ => ?_
  · exact links_successor hx.linked
      (((hstored.kept hwt.2.2).kept hkept).kept (kept.trans huv.2.2 hvx.2.2)) _ _
  · exact safe_any (fun _ _ _ => trivial) (fun _ _ => trivial) fun _ _ =>
      safe_any (fun _ _ _ => trivial) (fun _ _ => trivial) fun _ _ => trivial

theorem refresh_safe (refreshToken drawn : String) (w : World) :
    (refresh hashToken refreshTtlMs refreshToken drawn).Safe familyDiscipline i
      (fun _ _ => True) w := by
  refine safe_read (fun v => v.store.findToken (hashToken refreshToken)) (fun _ => rfl)
    (fun _ _ _ => trivial) fun v _ _ => safe_need (fun found hfound => ?_) fun _ => trivial
  obtain ⟨tokenId, token, isActive⟩ := found
  dsimp only
  cases token.revokedAt with
  | some _ => exact safe_any (fun _ _ _ => trivial) (fun _ _ => trivial) fun _ _ => trivial
  | none =>
    refine safe_read (fun u => u.store.clock) (fun _ => rfl) (fun _ _ _ => trivial) fun u hvu _ =>
      safe_ensure (fun _ => safe_ensure (fun _ => ?_) fun _ => trivial) fun _ => trivial
    have hstored : Stored v.store tokenId token := ⟨token, (findToken_some hfound).1, rfl⟩
    exact rotate_safe (hstored.kept hvu.2.2) drawn

theorem revokes_safe (k l : Statement) (hk : ∀ v, World.needs i v k) (hl : ∀ v, World.needs i v l) :
    (query k >>= fun _ => query l).Safe familyDiscipline i (fun _ _ => True) w :=
  safe_any (fun v _ _ => hk v) (fun _ _ => trivial) fun _ _ v _ _ => ⟨hl v, fun _ => trivial⟩

/-- What a call returns does not matter. -/
theorem safe_returns {x : AuthProgram α} {f : α → Option TokenPair}
    (h : x.Safe familyDiscipline i (fun _ _ => True) w) :
    (x >>= fun a => pure (f a)).Safe familyDiscipline i (fun _ _ => True) w := by
  refine safe_bind (h.mono fun result v _ => ?_)
  cases result <;> trivial

theorem program_safe (call : AuthCall) (w : World) :
    (call.program hashToken refreshTtlMs).Safe familyDiscipline i (fun _ _ => True) w := by
  cases call with
  | refresh refreshToken drawn => exact safe_returns (refresh_safe refreshToken drawn w)
  | logout sessionId =>
    exact safe_returns (revokes_safe (.revokeSession sessionId) (.revokeTokensOfSession sessionId)
      (fun _ => trivial) fun _ => trivial)
  | logoutAll userId =>
    exact safe_returns (revokes_safe (.revokeSessionsOf userId) (.revokeTokensOf userId)
      (fun _ => trivial) fun _ => trivial)

/-- A token that is revoked and presented again ends its family. -/
theorem refresh_reused (hget : w.store.refreshTokens.get? k = some token)
    (hrevoked : token.revokedAt.isSome = true) (hhash : token.tokenHash = hashToken refreshToken)
    (drawn : String) :
    (refresh hashToken refreshTtlMs refreshToken drawn).Safe familyDiscipline i
      (fun _ v => v.strength token.family = 0) w := by
  refine safe_read (fun v => v.store.findToken (hashToken refreshToken)) (fun _ => rfl)
    (fun _ _ _ => trivial) fun v hwv hv => ?_
  obtain ⟨token', hget', hissued, hstays⟩ := hwv.2.2.1 k token hget
  obtain ⟨hhash', hfamily, _⟩ := issued_columns hissued
  obtain ⟨isActive, hfind⟩ := findToken_of_get hv.linked hget'
  rw [← hhash, ← hhash', hfind]
  refine safe_need (fun found hfound => ?_) fun hnone => by cases hnone
  cases hfound
  dsimp only
  cases hat : token'.revokedAt with
  | none =>
    rw [hat] at hstays
    cases hstays hrevoked
  | some _ =>
    refine safe_statement (fun _ _ _ => trivial) fun u _ _ hquiet => ?_
    show (u.exec i (.revokeFamily token'.family)).1.strength token.family = 0
    rw [← hfamily]
    refine Nat.add_eq_zero_iff.mpr ⟨Table.count_eq_zero.mpr fun j other hother => ?_, ?_⟩
    · simp only [World.exec, Store.exec, Store.revokeTokens, Table.get?_updateWhere,
        Option.map_eq_some_iff] at hother
      obtain ⟨row, _, rfl⟩ := hother
      split
      · simp
      · simp_all [Option.isSome_iff_ne_none]
    · exact List.countP_eq_zero.mpr fun entry hentry => by
        simpa using hquiet entry hentry

end NimbusPos.AuthService
