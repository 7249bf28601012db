import NimbusPos.Auth.Families

/-!
# Logouts

A refresh that starts after a logout gives no pair, whatever ran beside the two. With
the laws of the families this is what the interleavings of the calls keep.
-/

namespace NimbusPos.AuthService

open Lib Lib.Program

variable {hashToken : String → String} {refreshTtlMs : Nat} {w v : World} {i : Nat}

/-- What a logout leaves: its sessions are revoked. -/
def AuthCall.ended (s : Store) : AuthCall → Prop
  | .refresh .. => True
  | .logout sessionId => s.live sessionId = false
  | .logoutAll userId => ∀ k session, s.sessions.get? k = some session →
      session.userId = userId → session.revokedAt.isSome = true

/-- The token is of a session that the call logs out. -/
def AuthCall.logsOut (token : RefreshToken) : AuthCall → Prop
  | .refresh .. => False
  | .logout sessionId => token.sessionId = sessionId
  | .logoutAll userId => token.userId = userId

section

variable {s t : Store} {call : AuthCall}

theorem AuthCall.ended.kept (h : call.ended s) (hkept : kept.rel s t) : call.ended t := by
  cases call with
  | refresh _ _ => trivial
  | logout sessionId =>
    refine Bool.eq_false_iff.mpr fun hlive => ?_
    have hback := live_back hkept hlive
    rw [h] at hback
    cases hback
  | logoutAll userId =>
    intro k session' hget huser
    obtain ⟨session, hback, hsame, hrevoked⟩ := hkept.2 k session' hget
    exact hrevoked (h k session hback (hsame.symm.trans huser))

/-- A session that lets a rotation go on has not been logged out. -/
theorem not_logsOut (hlinked : Linked s) (hended : call.ended s) (hstored : Stored s tokenId token)
    (hget : s.sessions.get? token.sessionId = some session)
    (hnone : session.revokedAt.isNone = true) :
    ¬call.logsOut token := by
  intro hout
  cases call with
  | refresh _ _ => exact hout
  | logout sessionId =>
    obtain rfl : token.sessionId = sessionId := hout
    have hlive : s.live token.sessionId = true := by
      simp only [Store.live, hget, Option.any_some, hnone]
    rw [hended] at hlive
    cases hlive
  | logoutAll userId =>
    obtain rfl : token.userId = userId := hout
    have huser := links_successor hlinked hstored "" 0 session hget
    have hsome := hended _ session hget huser
    rw [Option.isNone_iff_eq_none.mp hnone] at hsome
    cases hsome

end

/-- If the refresh gave a pair, the token presented is of no session that the call
logged out. -/
def Outlives (hash : String) (call : AuthCall) (result : Except HttpError α) (w : World) : Prop :=
  match result with
  | .ok _ => ∃ tokenId token, Stored w.store tokenId token ∧ token.tokenHash = hash ∧
      ¬call.logsOut token
  | .error _ => True

theorem Outlives.kept {result : Except HttpError α} (h : Outlives tokenHash call result w)
    (hkept : kept.rel w.store v.store) : Outlives tokenHash call result v := by
  cases result with
  | error _ => trivial
  | ok _ =>
    obtain ⟨tokenId, token, hstored, hrest⟩ := h
    exact ⟨tokenId, token, hstored.kept hkept, hrest⟩

variable {post : Except HttpError α → World → Prop}

theorem rows_statement {k : Statement} {f : k.Answer → AuthProgram α}
    (hneeds : ∀ v : World, kept.rel w.store v.store → Linked v.store → linksUser v.store k)
    (herror : ∀ e v, post (.error e) v)
    (hnext : ∀ (v : World) a, kept.rel w.store v.store → (f a).Safe rowDiscipline i post v) :
    (query k >>= f).Safe rowDiscipline i post w := by
  refine safe_statement hneeds fun v hwv _ _ => ?_
  have hkept : kept.rel w.store (v.exec i k).1.store := kept.trans hwv (kept_exec v.store k)
  cases (v.exec i k).2 with
  | ok a => exact hnext _ a hkept
  | error e => exact herror e _

theorem rotate_outlives (hstored : Stored w.store tokenId token) (hended : call.ended w.store)
    (drawn : String) : (rotate hashToken refreshTtlMs tokenId token drawn).Safe rowDiscipline i
      (Outlives token.tokenHash call) w := by
  refine rows_statement (fun _ _ _ => trivial) (fun _ _ => trivial) fun t _ hwt => ?_
  refine safe_statement (fun _ _ _ => trivial) fun u htu hu _ =>
    safe_need (fun session hfound => ?_)
    fun _ => trivial
  obtain ⟨hget, hnone⟩ := Option.filter_eq_some_iff.mp hfound
  have hstoredU : Stored u.store tokenId token := hstored.kept (kept.trans hwt htu)
  have hnot : ¬call.logsOut token :=
    not_logsOut hu (hended.kept (kept.trans hwt htu)) hstoredU hget hnone
  refine rows_statement (fun _ _ _ => trivial) (fun _ _ => trivial) fun v now huv => ?_
  refine rows_statement (fun x hvx hx => ?_) (fun _ _ => trivial) fun x replacedById hvx => ?_
  · exact links_successor hx (hstoredU.kept (kept.trans huv hvx)) _ _
  · refine rows_statement (fun _ _ _ => trivial) (fun _ _ => trivial) fun y _ hxy => ?_
    refine rows_statement (fun _ _ _ => trivial) (fun _ _ => trivial) fun z _ hyz => ?_
    have huz : kept.rel u.store z.store :=
      kept.trans (kept.trans huv hvx) (kept.trans hxy hyz)
    exact ⟨tokenId, token, hstoredU.kept huz, rfl, hnot⟩

theorem refresh_outlives (hended : call.ended w.store) (refreshToken drawn : String) :
    (refresh hashToken refreshTtlMs refreshToken drawn).Safe rowDiscipline i
      (Outlives (hashToken refreshToken) call) w := by
  refine safe_read (fun v => v.store.findToken (hashToken refreshToken)) (fun _ => rfl)
    (fun _ _ _ => trivial) fun v hwv _ => safe_need (fun found hfound => ?_) fun _ => trivial
  obtain ⟨tokenId, token, isActive⟩ := found
  obtain ⟨hget, hhash⟩ := findToken_some hfound
  have hstored : Stored v.store tokenId token := ⟨token, hget, rfl⟩
  rw [← hhash]
  dsimp only
  cases token.revokedAt with
  | some _ => exact rows_statement (fun _ _ _ => trivial) (fun _ _ => trivial) fun _ _ _ => trivial
  | none =>
    refine rows_statement (fun _ _ _ => trivial) (fun _ _ => trivial) fun u now hvu =>
      safe_ensure (fun _ => safe_ensure (fun _ => ?_) fun _ => trivial) fun _ => trivial
    exact rotate_outlives (hstored.kept hvu) (hended.kept (kept.trans hwv hvu)) drawn

/-- A refresh that starts after a logout. -/
theorem program_outlives (hended : call.ended w.store) (refreshToken drawn : String) :
    ((AuthCall.refresh refreshToken drawn).program hashToken refreshTtlMs).Safe rowDiscipline i
      (Outlives (hashToken refreshToken) call) w := by
  refine safe_bind ((refresh_outlives hended refreshToken drawn).mono fun result v h => ?_)
  cases result with
  | ok pair => exact h
  | error _ => trivial

/-- If the call ends well, its sessions are revoked. -/
def EndsWell (call : AuthCall) (result : Except HttpError (Option TokenPair)) (w : World) : Prop :=
  match result with
  | .ok _ => call.ended w.store
  | .error _ => True

theorem EndsWell.kept (h : EndsWell call result w) (hkept : kept.rel w.store v.store) :
    EndsWell call result v := by
  cases result with
  | error _ => trivial
  | ok _ => exact AuthCall.ended.kept h hkept

/-- What the first statement of a logout does is what the logout is for. -/
theorem revokes_ends {k l : Statement} (hk : ∀ v : World, linksUser v.store k)
    (hl : ∀ v : World, linksUser v.store l)
    (hends : ∀ (v : World) a, (v.exec i k).2 = .ok a → call.ended (v.exec i k).1.store) :
    ((query k >>= fun _ => query l) >>= fun _ => pure none).Safe rowDiscipline i
      (EndsWell call) w := by
  refine safe_bind (safe_statement (fun v _ _ => hk v) fun v _ _ _ => ?_)
  cases hreply : (v.exec i k).2 with
  | error e => trivial
  | ok a =>
    have hended := hends v a hreply
    intro u hvu _
    refine ⟨hl u, fun _ => ?_⟩
    cases hlast : (u.exec i l).2 with
    | error e => trivial
    | ok _ => exact hended.kept (kept.trans hvu (kept_exec u.store l))

theorem ended_revokeSession (h : (w.exec i (.revokeSession sessionId)).2 = .ok a) :
    (w.exec i (.revokeSession sessionId)).1.store.live sessionId = false := by
  simp only [World.exec, Store.exec] at h ⊢
  split at h
  · rename_i hsome
    obtain ⟨session, hget⟩ := Option.isSome_iff_exists.mp hsome
    simp [Store.live, Store.revokeSessions, Table.get?_updateWhere, hget]
  · cases h

theorem ended_revokeSessionsOf (w : World) (userId k : Id) (session : Session)
    (hget : (w.store.exec (.revokeSessionsOf userId)).1.sessions.get? k = some session)
    (huser : session.userId = userId) : session.revokedAt.isSome = true := by
  simp only [Store.exec, Store.revokeSessions, Table.get?_updateWhere,
    Option.map_eq_some_iff] at hget
  obtain ⟨row, _, rfl⟩ := hget
  split
  · rfl
  · rename_i hno
    rw [if_neg hno] at huser
    simpa [huser, Option.isSome_iff_ne_none] using hno

theorem program_ends (call : AuthCall) (w : World) :
    (call.program hashToken refreshTtlMs).Safe rowDiscipline i (EndsWell call) w := by
  cases call with
  | refresh refreshToken drawn =>
    have houtlives : ((AuthCall.refresh refreshToken drawn).program hashToken refreshTtlMs).Safe
        rowDiscipline i (Outlives (hashToken refreshToken) (.refresh refreshToken drawn)) w :=
      program_outlives (by trivial) refreshToken drawn
    refine houtlives.mono fun result v _ => ?_
    cases result <;> trivial
  | logout sessionId =>
    exact revokes_ends (k := .revokeSession sessionId) (l := .revokeTokensOfSession sessionId)
      (fun _ => trivial) (fun _ => trivial) fun v _ hreply => ended_revokeSession hreply
  | logoutAll userId =>
    exact revokes_ends (k := .revokeSessionsOf userId) (l := .revokeTokensOf userId)
      (fun _ => trivial) (fun _ => trivial) fun v _ _ => ended_revokeSessionsOf v userId

-- ---
-- Every interleaving
-- ---

abbrev AuthPool := Pool World (AuthProgram (Option TokenPair))

/-- A store in which each family has at most one token that is not revoked. -/
structure Issued (s : Store) : Prop where
  single : ∀ family, World.unrevoked { store := s } family ≤ 1
  linked : Linked s

/-- The calls, none of which has started. -/
def requested (hashToken : String → String) (refreshTtlMs : Nat) (s : Store)
    (calls : List AuthCall) : AuthPool where
  shared := { store := s }
  threads := calls.map (·.program hashToken refreshTtlMs)

abbrev take : AuthPool → Turn → AuthPool := Turn.take World.exec World.wait

/-- What holds at `q`, of calls that have started at `p` and of those that have not. -/
structure FamilyLaws (hashToken : String → String) (refreshTtlMs : Nat) (calls : List AuthCall)
    (p q : AuthPool) : Prop where
  single : ∀ family, q.shared.usable family ≤ 1
  reused : ∀ (j : Nat) refreshToken drawn result k token,
    p.threads[j]? = some ((AuthCall.refresh refreshToken drawn).program hashToken refreshTtlMs) →
    p.shared.store.refreshTokens.get? k = some token → token.tokenHash = hashToken refreshToken →
    token.revokedAt.isSome = true → q.threads[j]? = some (.done result) →
    ∀ l other, q.shared.store.refreshTokens.get? l = some other → other.family = token.family →
      other.revokedAt.isSome = true
  loggedOut : ∀ (i j : Nat) call answer refreshToken drawn pair k token, calls[i]? = some call →
    p.threads[i]? = some (.done (.ok answer)) →
    p.threads[j]? = some ((AuthCall.refresh refreshToken drawn).program hashToken refreshTtlMs) →
    q.threads[j]? = some (.done (.ok pair)) → q.shared.store.refreshTokens.get? k = some token →
    token.tokenHash = hashToken refreshToken → ¬call.logsOut token

variable {p q : AuthPool} {calls : List AuthCall} {s : Store}

theorem usable_le_strength (w : World) (family : String) : w.usable family ≤ w.strength family := by
  refine Nat.le_trans (Table.count_mono fun k token h => ?_) (Nat.le_add_right _ _)
  simp only [Bool.and_eq_true] at h ⊢
  exact h.1

theorem revoked_of_strength (h : w.strength family = 0)
    (hget : w.store.refreshTokens.get? k = some token) (hfamily : token.family = family) :
    token.revokedAt.isSome = true := by
  have hcount := Table.count_eq_zero.mp (Nat.add_eq_zero_iff.mp h).1 k token hget
  simpa [hfamily, Option.isSome_iff_ne_none] using hcount

theorem families_wait (w : World) (ms : Nat) (h : Families w) :
    Families (w.wait ms) ∧ ∀ i, (wanes i).rel w (w.wait ms) :=
  ⟨⟨h.single, h.linked.hashes, h.linked.users⟩,
    fun _ => ⟨fun _ => Nat.le_refl _, fun _ h => h, kept.refl w.store⟩⟩

theorem rows_wait (w : World) (ms : Nat) (h : Linked w.store) :
    Linked (w.wait ms).store ∧ ∀ _ : Nat, kept.rel w.store (w.wait ms).store :=
  ⟨⟨h.hashes, h.users⟩, fun _ => kept.refl w.store⟩

theorem requested_call {i : Nat} {x : AuthProgram (Option TokenPair)}
    (hx : (requested hashToken refreshTtlMs s calls).threads[i]? = some x) :
    ∃ call, calls[i]? = some call ∧ x = call.program hashToken refreshTtlMs := by
  simp only [requested, List.getElem?_map, Option.map_eq_some_iff] at hx
  obtain ⟨call, hcall, rfl⟩ := hx
  exact ⟨call, hcall, rfl⟩

theorem undisturbed_pool (hissued : Issued s)
    (hrun : Run take (fun p t => t.asks undisturbed p) (requested hashToken refreshTtlMs s calls)
      turns p) : SafePool familyDiscipline (fun _ _ _ => True) p := by
  have hstart : SafePool familyDiscipline (fun _ _ _ => True)
      (requested hashToken refreshTtlMs s calls) := by
    refine ⟨⟨hissued.single, hissued.linked⟩, fun i x hx => ?_⟩
    obtain ⟨call, -, rfl⟩ := requested_call hx
    exact program_safe call _
  exact hstart.run (fun _ _ _ _ _ _ => trivial) families_wait hrun

theorem rows_pool (hissued : Issued s)
    (hrun : Run take (fun p t => t.asks rowDiscipline.allowed p)
      (requested hashToken refreshTtlMs s calls) turns p) :
    SafePool rowDiscipline (fun i result w => ∀ call, calls[i]? = some call →
      EndsWell call result w) p := by
  have hstart : SafePool rowDiscipline (fun i result w => ∀ call, calls[i]? = some call →
      EndsWell call result w) (requested hashToken refreshTtlMs s calls) := by
    refine ⟨hissued.linked, fun i x hx => ?_⟩
    obtain ⟨call, hcall, rfl⟩ := requested_call hx
    refine (program_ends call _).mono fun result w hends call' hcall' => ?_
    obtain rfl := Option.some.inj (hcall.symm.trans hcall')
    exact hends
  exact hstart.run (fun _ _ _ _ hends hrely call hcall => (hends call hcall).kept hrely) rows_wait
    hrun

/-- The presented token is revoked before the refresh starts. -/
theorem pool_reused {j : Nat} {result : Except HttpError (Option TokenPair)}
    (h : SafePool familyDiscipline (fun _ _ _ => True) p)
    (hstart : p.threads[j]? =
      some ((AuthCall.refresh refreshToken drawn).program hashToken refreshTtlMs))
    (hget : p.shared.store.refreshTokens.get? k = some token)
    (hhash : token.tokenHash = hashToken refreshToken) (hrevoked : token.revokedAt.isSome = true)
    (hrun : Run take (fun p t => t.asks undisturbed p) p turns q)
    (hdone : q.threads[j]? = some (.done result)) : q.shared.strength token.family = 0 := by
  have hfocus : SafePool familyDiscipline
      (fun i _ w => i = j → w.strength token.family = 0) p := by
    refine h.focus fun x hx => ?_
    obtain rfl := Option.some.inj (hstart.symm.trans hx)
    refine safe_bind ((refresh_reused hget hrevoked hhash drawn).mono fun result v h => ?_)
    cases result <;> exact h
  have hend := hfocus.run (fun i result w v hpost hrely heq => ?_) families_wait hrun
  · exact hend.ended hdone rfl
  · exact Nat.le_zero.mp (hpost heq ▸ hrely.1 token.family)

/-- The logout has ended before the refresh starts. -/
theorem pool_loggedOut {j : Nat} {pair : Option TokenPair}
    (h : SafePool rowDiscipline (fun i result w => ∀ call, calls[i]? = some call →
      EndsWell call result w) p) (hcall : calls[i]? = some call)
    (hout : p.threads[i]? = some (.done (.ok answer)))
    (hstart : p.threads[j]? =
      some ((AuthCall.refresh refreshToken drawn).program hashToken refreshTtlMs))
    (hrun : Run take (fun p t => t.asks rowDiscipline.allowed p) p turns q)
    (hdone : q.threads[j]? = some (.done (.ok pair)))
    (hget : q.shared.store.refreshTokens.get? k = some token)
    (hhash : token.tokenHash = hashToken refreshToken) : ¬call.logsOut token := by
  have hended : call.ended p.shared.store := h.ended hout call hcall
  have hfocus : SafePool rowDiscipline
      (fun i result w => i = j → Outlives (hashToken refreshToken) call result w) p := by
    refine h.focus fun x hx => ?_
    obtain rfl := Option.some.inj (hstart.symm.trans hx)
    exact program_outlives hended refreshToken drawn
  have hend := hfocus.run (fun i result w v hpost hrely heq => (hpost heq).kept hrely) rows_wait
      hrun
  obtain ⟨tokenId, presented, ⟨row, hrow, hissued⟩, hpresented, hnot⟩ := hend.ended hdone rfl
  obtain ⟨hrowHash, _, hsession, huser⟩ := issued_columns hissued
  obtain rfl := hend.inv.hashes tokenId k row token hrow hget
    (hrowHash.trans (hpresented.trans hhash.symm))
  obtain rfl := Option.some.inj (hrow.symm.trans hget)
  intro hout
  cases call with
  | refresh _ _ => exact hout
  | logout sessionId => exact hnot (hsession.symm.trans hout)
  | logoutAll userId => exact hnot (huser.symm.trans hout)

/-- While rotations are undisturbed, families keep their law and what a logout ended
stays so. -/
theorem run_families (hissued : Issued s)
    (hbefore : Run take (fun p t => t.asks undisturbed p) (requested hashToken refreshTtlMs s calls)
      turns p) (hlater : Run take (fun p t => t.asks undisturbed p) p later q) :
    FamilyLaws hashToken refreshTtlMs calls p q := by
  have hpool := undisturbed_pool hissued hbefore
  have hany : ∀ (r : AuthPool) (t : Turn), t.asks undisturbed r →
      t.asks rowDiscipline.allowed r := by
    intro r t _
    cases t with
    | call i =>
      intro x _
      cases x <;> trivial
    | wait _ => trivial
  refine ⟨fun family => ?_, ?_, ?_⟩
  · have hend := hpool.run (fun _ _ _ _ _ _ => trivial) families_wait hlater
    exact Nat.le_trans (usable_le_strength _ family) (hend.inv.single family)
  · intro j refreshToken drawn result k token hstart hget hhash hrevoked hdone l other hother
      hfamily
    exact revoked_of_strength (pool_reused hpool hstart hget hhash hrevoked hlater hdone) hother
      hfamily
  · intro i j call answer refreshToken drawn pair k token hcall hout hstart hdone hget hhash
    exact pool_loggedOut (rows_pool hissued (hbefore.mono hany)) hcall hout hstart
      (hlater.mono hany) hdone hget hhash

-- ---
-- A token presented twice
-- ---

/-- A user who has just logged in. -/
def loggedIn : Store where
  users := .insert .empty {}
  sessions := .insert .empty { userId := 0, jti := "jti" }
  refreshTokens := .insert .empty
    { userId := 0, tokenHash := "t", family := "f", sessionId := 0, expiresAt := 1000 }

theorem issued_loggedIn : Issued loggedIn where
  single family := by
    simp only [World.unrevoked, loggedIn, Table.count_insert]
    split
    · exact Nat.le_refl 1
    · exact Nat.zero_le 1
  linked := by
    refine ⟨fun j k token other hj hk _ => ?_, fun k token session hk hsession => ?_⟩
    · simp only [loggedIn, Table.get?_insert, Table.get?_empty] at hj hk
      split at hj <;> split at hk <;> simp_all
    · simp only [loggedIn, Table.get?_insert, Table.get?_empty] at hk hsession
      split at hk <;> split at hsession <;> simp_all
      rw [← hk, ← hsession]

/-- Two refreshes read the token before either has revoked it. -/
def forked : AuthPool :=
  (times 2 0 ++ times 2 1 ++ times 6 0 ++ times 6 1).foldl take
    (requested id 1000 loggedIn [.refresh "t" "u", .refresh "t" "v"])

/-- The first token is presented again while the second is being rotated. -/
def sweptEarly : AuthPool :=
  (times 8 0 ++ times 3 1 ++ times 2 2 ++ times 5 1).foldl take
    (requested id 1000 loggedIn [.refresh "t" "u", .refresh "u" "v", .refresh "t" "w"])

/-- A family with two usable tokens, and one that outlives the detected reuse. -/
theorem family_forked : Issued loggedIn ∧ forked.shared.usable "f" = 2 ∧
    sweptEarly.threads[2]? = some (.done (.error reuseDetected)) ∧
      sweptEarly.shared.usable "f" = 1 :=
  ⟨issued_loggedIn, by decide, rfl, by decide⟩

/-- A rotation and a logout; then the old token and the new one are presented. -/
def presented : List AuthCall :=
  [.refresh "t" "u", .logout 0, .refresh "t" "v", .refresh "u" "w"]

def afterLogout : AuthPool :=
  (times 8 0 ++ times 2 1).foldl take (requested id 1000 loggedIn presented)

theorem run_families_presented : FamilyLaws id 1000 presented afterLogout
    ((times 2 2 ++ times 2 3).foldl take afterLogout) :=
  run_families issued_loggedIn (.of_holds (by decide)) (.of_holds (by decide))

end NimbusPos.AuthService
