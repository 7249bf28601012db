import NimbusPos.ClientOnboarding.Invitations

/-!
# The life of an invitation

An organisation has at most one live invitation for an e-mail, an invitation that was
accepted or revoked stays so, and a token that was rotated, superseded or revoked is
not accepted any more. The calls check the row they read and then write it by its key:
this holds while no other call has moved the row in between, and while an invitation
that is resent has no newer one beside it.
-/

namespace NimbusPos.ClientOnboardingService

open Lib Lib.Program

variable {normalizeEmail hashToken : String → String}

/-- An acceptance: the invitation, its token, and whether the token had been retired. -/
structure Acceptance where
  invitationId : Id
  tokenHash : String
  retired : Bool
  deriving DecidableEq, Repr

/-- The store, the acceptances, and the tokens that were rotated, superseded, revoked,
used or marked as expired. -/
structure World where
  store : Store
  accepted : List Acceptance := []
  retired : List String := []

/-- Accepted or revoked. -/
def InvitationStatus.settled (status : InvitationStatus) : Bool :=
  status == .accepted || status == .revoked

namespace World

def invitation? (w : World) (invitationId : Id) : Option Invitation :=
  w.store.invitations.get? invitationId

/-- The tokens that a statement retires. -/
def retires (w : World) : Statement → List String
  | .expirePending orgId email =>
    (w.store.invitations.findMany fun _ inv =>
      inv.organizationId == orgId && inv.email == email && inv.status == .pending).map
        (·.2.tokenHash)
  | .resend invitationId .. | .revoke invitationId _ | .expire invitationId _
  | .accept invitationId .. => ((w.invitation? invitationId).map (·.tokenHash)).toList
  | _ => []

def accepts (w : World) : Statement → List Acceptance
  | .accept invitationId inv .. => [⟨invitationId, inv.tokenHash, w.retired.contains inv.tokenHash⟩]
  | _ => []

def exec (_ : Nat) (w : World) (k : Statement) : World × Except HttpError k.Answer :=
  let r := w.store.exec k
  (match r.2 with
    | .ok _ =>
      { store := r.1, accepted := w.accepts k ++ w.accepted, retired := w.retires k ++ w.retired }
    | .error _ => { w with store := r.1 }, r.2)

def wait (w : World) (ms : Nat) : World :=
  { w with store := { w.store with clock := w.store.clock + ms } }

def live (w : World) (inv : Invitation) : Bool :=
  inv.status == .pending && decide (w.store.clock ≤ inv.expiresAt)

/-- The other live invitations for an e-mail. -/
def liveBeside (w : World) (invitationId orgId : Id) (email : String) : Nat :=
  w.store.invitations.count fun k inv =>
    k != invitationId && inv.organizationId == orgId && inv.email == email && w.live inv

/-- No token with that hash was ever handed out. -/
def unused (w : World) (tokenHash : String) : Bool :=
  !w.retired.contains tokenHash &&
    w.store.invitations.count (fun _ inv => inv.tokenHash == tokenHash) == 0

end World

structure Lawful (w : World) : Prop where
  hashes : ∀ j k inv inv', w.invitation? j = some inv → w.invitation? k = some inv' →
    inv.tokenHash = inv'.tokenHash → j = k
  single : ∀ j k inv inv', w.invitation? j = some inv → w.invitation? k = some inv' →
    w.live inv = true → w.live inv' = true → inv.organizationId = inv'.organizationId →
      inv.email = inv'.email → j = k
  unretired : ∀ k inv, w.invitation? k = some inv → inv.status = .pending →
    inv.tokenHash ∉ w.retired
  once : (w.accepted.map (·.invitationId)).Nodup
  stays : ∀ a ∈ w.accepted, ∃ inv, w.invitation? a.invitationId = some inv ∧ inv.status = .accepted
  valid : ∀ a ∈ w.accepted, a.retired = false

-- ---
-- The statements
-- ---

/-- What the checks of a call say of the row it has read. -/
def needs : Statement → Prop
  | .resend _ inv _ _ | .revoke _ inv | .expire _ inv => inv.status.settled = false
  | .accept _ inv .. => inv.status = .pending
  | _ => True

/-- A row has not been accepted or revoked since a call read it, one that is accepted is
as it was read; an invitation that is created or resent has no live one beside it, and
its token is new. -/
def undisturbed (w : World) : Statement → Prop
  | .createInvitation row => w.unused row.tokenHash = true ∧
      w.liveBeside w.store.invitations.next row.organizationId row.email = 0
  | .resend invitationId inv tokenHash _ => w.unused tokenHash = true ∧
      ∀ row ∈ w.invitation? invitationId, (row.status.settled = true → inv.status.settled = true) ∧
        w.liveBeside invitationId row.organizationId row.email = 0
  | .revoke invitationId inv => ∀ row ∈ w.invitation? invitationId,
      row.status = .accepted → inv.status.settled = true
  | .expire invitationId inv => ∀ row ∈ w.invitation? invitationId,
      row.status.settled = true → inv.status.settled = true
  | .accept invitationId inv .. => ∀ row ∈ w.invitation? invitationId,
      row.status = inv.status ∧ row.tokenHash = inv.tokenHash
  | _ => True

instance (w : World) : (k : Statement) → Decidable (undisturbed w k)
  | .createInvitation row => inferInstanceAs (Decidable (w.unused row.tokenHash = true ∧
      w.liveBeside w.store.invitations.next row.organizationId row.email = 0))
  | .resend invitationId inv tokenHash _ => inferInstanceAs (Decidable
      (w.unused tokenHash = true ∧ ∀ row ∈ w.invitation? invitationId,
        (row.status.settled = true → inv.status.settled = true) ∧
          w.liveBeside invitationId row.organizationId row.email = 0))
  | .revoke invitationId inv => inferInstanceAs (Decidable (∀ row ∈ w.invitation? invitationId,
      row.status = .accepted → inv.status.settled = true))
  | .expire invitationId inv => inferInstanceAs (Decidable (∀ row ∈ w.invitation? invitationId,
      row.status.settled = true → inv.status.settled = true))
  | .accept invitationId inv .. => inferInstanceAs (Decidable
      (∀ row ∈ w.invitation? invitationId,
        row.status = inv.status ∧ row.tokenHash = inv.tokenHash))
  | .now | .findBranch _ | .findRole _ | .findUserByEmail _ | .findUser _ | .createUser _
  | .createUserRole .. | .findMembership .. | .createMembership _ | .expirePending ..
  | .findInvitation _ | .findByToken _ => .isTrue trivial

/-- Invitations stay, settled ones with their status, and so do acceptances. -/
def lasting : Service.Frame World where
  rel w v :=
    (∀ k inv, w.invitation? k = some inv → ∃ inv', v.invitation? k = some inv' ∧
      (inv.status.settled = true → inv'.status = inv.status)) ∧
    ∀ a ∈ w.accepted, a ∈ v.accepted
  refl _ := ⟨fun _ inv h => ⟨inv, h, fun _ => rfl⟩, fun _ h => h⟩
  trans := by
    rintro w v u ⟨hrows, hlog⟩ ⟨hrows', hlog'⟩
    refine ⟨fun k inv hget => ?_, fun a ha => hlog' a (hlog a ha)⟩
    obtain ⟨inv', hget', hstatus⟩ := hrows k inv hget
    obtain ⟨inv'', hget'', hstatus'⟩ := hrows' k inv' hget'
    refine ⟨inv'', hget'', fun hsettled => ?_⟩
    exact (hstatus' (by rw [hstatus hsettled]; exact hsettled)).trans (hstatus hsettled)

variable {w v : World} {i : Nat}

theorem settled_iff {status : InvitationStatus} :
    status.settled = true ↔ status = .accepted ∨ status = .revoked := by
  simp [InvitationStatus.settled]

theorem not_settled_iff {status : InvitationStatus} :
    status.settled = false ↔ status ≠ .accepted ∧ status ≠ .revoked := by
  rw [← Bool.not_eq_true, settled_iff, not_or]

theorem live_iff {inv : Invitation} :
    w.live inv = true ↔ inv.status = .pending ∧ w.store.clock ≤ inv.expiresAt := by
  simp [World.live]

theorem unused_iff : w.unused tokenHash = true ↔ tokenHash ∉ w.retired ∧
    ∀ k inv, w.invitation? k = some inv → inv.tokenHash ≠ tokenHash := by
  simp [World.unused, World.invitation?, Table.count_eq_zero]

theorem liveBeside_eq_zero : w.liveBeside invitationId orgId email = 0 ↔
    ∀ k inv, w.invitation? k = some inv → k ≠ invitationId → inv.organizationId = orgId →
      inv.email = email → w.live inv = false := by
  simp only [World.liveBeside, Table.count_eq_zero, World.invitation?]
  refine forall₃_congr fun k inv _ => ?_
  cases hlive : w.live inv <;> simp

-- ---
-- Invitations that stop being pending
-- ---

section

variable {p : Nat → Invitation → Bool} {status : InvitationStatus}

theorem closed_row (hrows : v.store.invitations =
      w.store.invitations.updateWhere p fun inv => { inv with status := status })
    (hget : v.invitation? k = some inv') : ∃ inv, w.invitation? k = some inv ∧
      ((p k inv = true ∧ inv' = { inv with status := status }) ∨
        (p k inv = false ∧ inv' = inv)) := by
  simp only [World.invitation?, hrows, Table.get?_updateWhere, Option.map_eq_some_iff] at hget ⊢
  obtain ⟨inv, hinv, rfl⟩ := hget
  refine ⟨inv, hinv, ?_⟩
  cases hp : p k inv with
  | true => exact .inl ⟨rfl, if_pos rfl⟩
  | false => exact .inr ⟨rfl, if_neg Bool.false_ne_true⟩

theorem closed_get (hrows : v.store.invitations =
      w.store.invitations.updateWhere p fun inv => { inv with status := status })
    (hget : w.invitation? k = some inv) :
    v.invitation? k = some (if p k inv then { inv with status := status } else inv) := by
  rw [World.invitation?, hrows, Table.get?_updateWhere]
  exact congrArg _ hget

/-- What a write closes is out of the way of the live invitations. -/
theorem Lawful.close (h : Lawful w) (hstatus : status ≠ .pending)
    (hrows : v.store.invitations =
      w.store.invitations.updateWhere p fun inv => { inv with status := status })
    (hclock : v.store.clock = w.store.clock) (haccepted : v.accepted = w.accepted)
    (hsettled : ∀ k inv, w.invitation? k = some inv → p k inv = true →
      inv.status.settled = true → inv.status = status)
    (hretired : ∀ tokenHash ∈ v.retired, tokenHash ∈ w.retired ∨
      ∃ k inv, w.invitation? k = some inv ∧ p k inv = true ∧ inv.tokenHash = tokenHash) :
    Lawful v := by
  -- A row that is pending afterwards has not been written.
  have hpending : ∀ k inv, v.invitation? k = some inv → inv.status = .pending →
      w.invitation? k = some inv ∧ p k inv = false := by
    intro k inv' hget hpending
    obtain ⟨inv, hinv, ⟨_, rfl⟩ | ⟨hp, rfl⟩⟩ := closed_row hrows hget
    · exact absurd hpending hstatus
    · exact ⟨hinv, hp⟩
  have hhash : ∀ k inv', v.invitation? k = some inv' → ∃ inv, w.invitation? k = some inv ∧
      inv'.tokenHash = inv.tokenHash := by
    intro k inv' hget
    obtain ⟨inv, hinv, ⟨_, rfl⟩ | ⟨_, rfl⟩⟩ := closed_row hrows hget <;> exact ⟨_, hinv, rfl⟩
  refine ⟨fun j k inv inv' hj hk heq => ?_, fun j k inv inv' hj hk hlive hlive' horg hemail => ?_,
    fun k inv hget hstill hin => ?_, haccepted ▸ h.once, fun a ha => ?_, haccepted ▸ h.valid⟩
  · obtain ⟨_, hj', hsame⟩ := hhash j inv hj
    obtain ⟨_, hk', hsame'⟩ := hhash k inv' hk
    exact h.hashes j k _ _ hj' hk' (hsame.symm.trans (heq.trans hsame'))
  · obtain ⟨hstill, htime⟩ := live_iff.mp hlive
    obtain ⟨hstill', htime'⟩ := live_iff.mp hlive'
    exact h.single j k inv inv' (hpending j inv hj hstill).1 (hpending k inv' hk hstill').1
      (live_iff.mpr ⟨hstill, hclock ▸ htime⟩) (live_iff.mpr ⟨hstill', hclock ▸ htime'⟩) horg hemail
  · obtain ⟨hget', hp⟩ := hpending k inv hget hstill
    rcases hretired _ hin with hold | ⟨j, other, hother, hpj, heq⟩
    · exact h.unretired k inv hget' hstill hold
    · obtain rfl := h.hashes j k other inv hother hget' heq
      obtain rfl := Option.some.inj (hother.symm.trans hget')
      rw [hp] at hpj
      cases hpj
  · obtain ⟨inv, hget, hacc⟩ := h.stays a (haccepted ▸ ha)
    refine ⟨_, closed_get hrows hget, ?_⟩
    split
    · exact (hsettled _ inv hget ‹_› (settled_iff.mpr (.inl hacc))).symm.trans hacc
    · exact hacc

theorem lasting_close (hrows : v.store.invitations =
      w.store.invitations.updateWhere p fun inv => { inv with status := status })
    (hsettled : ∀ k inv, w.invitation? k = some inv → p k inv = true →
      inv.status.settled = true → inv.status = status)
    (haccepted : ∀ a ∈ w.accepted, a ∈ v.accepted) : lasting.rel w v := by
  refine ⟨fun k inv hget => ⟨_, closed_get hrows hget, fun hin => ?_⟩, haccepted⟩
  split
  · exact (hsettled k inv hget ‹_› hin).symm
  · rfl

end

/-- Nothing that the law reads has changed but the time. -/
theorem Lawful.same (h : Lawful w) (hrows : v.store.invitations = w.store.invitations)
    (hclock : w.store.clock ≤ v.store.clock) (haccepted : v.accepted = w.accepted)
    (hretired : v.retired = w.retired) : Lawful v := by
  have hget : ∀ k, v.invitation? k = w.invitation? k := fun k => by
    rw [World.invitation?, World.invitation?, hrows]
  have hlive : ∀ inv, v.live inv = true → w.live inv = true := by
    intro inv hinv
    obtain ⟨hpending, htime⟩ := live_iff.mp hinv
    exact live_iff.mpr ⟨hpending, Nat.le_trans hclock htime⟩
  refine ⟨fun j k inv inv' hj hk => ?_, fun j k inv inv' hj hk hl hl' => ?_, fun k inv hk => ?_,
    haccepted ▸ h.once, ?_, haccepted ▸ h.valid⟩
  · exact h.hashes j k inv inv' (hget j ▸ hj) (hget k ▸ hk)
  · exact h.single j k inv inv' (hget j ▸ hj) (hget k ▸ hk) (hlive inv hl) (hlive inv' hl')
  · exact hretired ▸ h.unretired k inv (hget k ▸ hk)
  · intro a ha
    rw [hget]
    exact h.stays a (haccepted ▸ ha)

/-- A new invitation. -/
theorem Lawful.create (h : Lawful w) {row : Invitation} (hunused : w.unused row.tokenHash = true)
    (hbeside : w.liveBeside w.store.invitations.next row.organizationId row.email = 0)
    (hrows : v.store.invitations = w.store.invitations.insert row)
    (hclock : v.store.clock = w.store.clock) (haccepted : v.accepted = w.accepted)
    (hretired : v.retired = w.retired) : Lawful v := by
  obtain ⟨hfresh, hnew⟩ := unused_iff.mp hunused
  have hnone := liveBeside_eq_zero.mp hbeside
  have hold : ∀ {k inv}, w.invitation? k = some inv → k ≠ w.store.invitations.next :=
    fun hget => Nat.ne_of_lt (Table.lt_next hget)
  have hcases : ∀ k inv, v.invitation? k = some inv →
      (k = w.store.invitations.next ∧ row = inv) ∨ w.invitation? k = some inv := by
    intro k inv hget
    simp only [World.invitation?, hrows, Table.get?_insert] at hget
    split at hget
    · exact .inl ⟨‹_›, Option.some.inj hget⟩
    · exact .inr hget
  have hlive : ∀ inv, v.live inv = w.live inv := fun inv => by rw [World.live, World.live, hclock]
  refine ⟨fun j k inv inv' hj hk heq => ?_, fun j k inv inv' hj hk hl hl' horg hemail => ?_,
    fun k inv hk hpending => ?_, haccepted ▸ h.once, fun a ha => ?_, haccepted ▸ h.valid⟩
  · rcases hcases j inv hj with ⟨rfl, rfl⟩ | hj' <;> rcases hcases k inv' hk with ⟨rfl, rfl⟩ | hk'
    · rfl
    · exact absurd heq.symm (hnew k inv' hk')
    · exact absurd heq (hnew j inv hj')
    · exact h.hashes j k inv inv' hj' hk' heq
  · rw [hlive] at hl hl'
    rcases hcases j inv hj with ⟨rfl, rfl⟩ | hj' <;> rcases hcases k inv' hk with ⟨rfl, rfl⟩ | hk'
    · rfl
    · rw [hnone k inv' hk' (hold hk') horg.symm hemail.symm] at hl'
      cases hl'
    · rw [hnone j inv hj' (hold hj') horg hemail] at hl
      cases hl
    · exact h.single j k inv inv' hj' hk' hl hl' horg hemail
  · rw [hretired]
    rcases hcases k inv hk with ⟨-, rfl⟩ | hk'
    · exact hfresh
    · exact h.unretired k inv hk' hpending
  · obtain ⟨inv, hget, hacc⟩ := h.stays a (haccepted ▸ ha)
    refine ⟨inv, ?_, hacc⟩
    rw [World.invitation?, hrows]
    exact Table.get?_insert_of_some hget

theorem lasting_same (hrows : v.store.invitations = w.store.invitations)
    (haccepted : v.accepted = w.accepted) : lasting.rel w v := by
  refine ⟨fun k inv hget => ⟨inv, ?_, fun _ => rfl⟩, fun a ha => haccepted ▸ ha⟩
  rw [World.invitation?, hrows]
  exact hget

/-- An invitation gets a new token. -/
theorem Lawful.resend (h : Lawful w) (hget : w.invitation? invitationId = some row)
    (hopen : row.status.settled = false) (hunused : w.unused tokenHash = true)
    (hbeside : w.liveBeside invitationId row.organizationId row.email = 0)
    (hrows : v.store.invitations = w.store.invitations.update invitationId fun row =>
      { row with
        tokenHash, status := .pending, expiresAt, resendCount := row.resendCount + 1 })
    (hclock : v.store.clock = w.store.clock) (haccepted : v.accepted = w.accepted)
    (hretired : v.retired = row.tokenHash :: w.retired) : Lawful v ∧ lasting.rel w v := by
  obtain ⟨hfresh, hnew⟩ := unused_iff.mp hunused
  have hnone := liveBeside_eq_zero.mp hbeside
  have hself : v.invitation? invitationId = some { row with
      tokenHash, status := .pending, expiresAt, resendCount := row.resendCount + 1 } := by
    rw [World.invitation?, hrows, Table.get?_update_self]
    exact congrArg _ hget
  have hother : ∀ k, k ≠ invitationId → v.invitation? k = w.invitation? k := by
    intro k hk
    rw [World.invitation?, hrows, Table.get?_update_ne _ _ hk]
    rfl
  have hcases : ∀ k inv, v.invitation? k = some inv →
      (k = invitationId ∧ { row with
        tokenHash, status := .pending, expiresAt, resendCount := row.resendCount + 1 } = inv) ∨
      (k ≠ invitationId ∧ w.invitation? k = some inv) := by
    intro k inv hk
    by_cases heq : k = invitationId
    · subst heq
      exact .inl ⟨rfl, Option.some.inj (hself.symm.trans hk)⟩
    · exact .inr ⟨heq, hother k heq ▸ hk⟩
  have hlive : ∀ inv, v.live inv = w.live inv := fun inv => by rw [World.live, World.live, hclock]
  have hstays : ∀ k inv, w.invitation? k = some inv → inv.status.settled = true →
      v.invitation? k = some inv := by
    intro k inv hk hsettled
    rw [hother k ?_, hk]
    rintro rfl
    obtain rfl := Option.some.inj (hget.symm.trans hk)
    rw [hopen] at hsettled
    cases hsettled
  refine ⟨⟨fun j k inv inv' hj hk heq => ?_, fun j k inv inv' hj hk hl hl' horg hemail => ?_,
    fun k inv hk hpending => ?_, haccepted ▸ h.once, fun a ha => ?_, haccepted ▸ h.valid⟩,
    fun k inv hk => ?_, fun a ha => haccepted ▸ ha⟩
  · rcases hcases j inv hj with ⟨rfl, rfl⟩ | ⟨hj', hjw⟩ <;>
      rcases hcases k inv' hk with ⟨rfl, rfl⟩ | ⟨hk', hkw⟩
    · rfl
    · exact absurd heq.symm (hnew k inv' hkw)
    · exact absurd heq (hnew j inv hjw)
    · exact h.hashes j k inv inv' hjw hkw heq
  · rw [hlive] at hl hl'
    rcases hcases j inv hj with ⟨rfl, rfl⟩ | ⟨hj', hjw⟩ <;>
      rcases hcases k inv' hk with ⟨rfl, rfl⟩ | ⟨hk', hkw⟩
    · rfl
    · rw [hnone k inv' hkw hk' horg.symm hemail.symm] at hl'
      cases hl'
    · rw [hnone j inv hjw hj' horg hemail] at hl
      cases hl
    · exact h.single j k inv inv' hjw hkw hl hl' horg hemail
  · rw [hretired, List.mem_cons, not_or]
    rcases hcases k inv hk with ⟨-, rfl⟩ | ⟨hk', hkw⟩
    · exact ⟨(hnew _ row hget).symm, hfresh⟩
    · exact ⟨fun heq => hk' (h.hashes k _ inv row hkw hget heq), h.unretired k inv hkw hpending⟩
  · obtain ⟨inv, hinv, hacc⟩ := h.stays a (haccepted ▸ ha)
    exact ⟨inv, hstays _ inv hinv (settled_iff.mpr (.inl hacc)), hacc⟩
  · by_cases hk' : k = invitationId
    · subst hk'
      obtain rfl := Option.some.inj (hget.symm.trans hk)
      refine ⟨_, hself, fun hsettled => ?_⟩
      rw [hopen] at hsettled
      cases hsettled
    · exact ⟨inv, hother k hk' ▸ hk, fun _ => rfl⟩

/-- An acceptance is noted. -/
theorem Lawful.log (h : Lawful v) {a : Acceptance}
    (hnew : ∀ b ∈ v.accepted, b.invitationId ≠ a.invitationId)
    (hrow : ∃ inv, v.invitation? a.invitationId = some inv ∧ inv.status = .accepted)
    (hvalid : a.retired = false) : Lawful { v with accepted := a :: v.accepted } := by
  refine ⟨h.hashes, h.single, h.unretired, ?_, ?_, ?_⟩
  · rw [List.map_cons, List.nodup_cons, List.mem_map]
    refine ⟨?_, h.once⟩
    rintro ⟨b, hb, heq⟩
    exact hnew b hb heq
  · exact List.forall_mem_cons.mpr ⟨hrow, h.stays⟩
  · exact List.forall_mem_cons.mpr ⟨hvalid, h.valid⟩

theorem Lawful.closeRow (h : Lawful w) {status : InvitationStatus} (hstatus : status ≠ .pending)
    (hget : w.invitation? invitationId = some row)
    (hsettled : row.status.settled = true → row.status = status)
    (hrows : v.store.invitations =
      w.store.invitations.update invitationId fun row => { row with status := status })
    (hclock : v.store.clock = w.store.clock) (haccepted : v.accepted = w.accepted)
    (hretired : v.retired = row.tokenHash :: w.retired) : Lawful v ∧ lasting.rel w v := by
  have hmatch : ∀ k inv, w.invitation? k = some inv → (k == invitationId) = true →
      inv.status.settled = true → inv.status = status := by
    intro k inv hk heq
    obtain rfl := beq_iff_eq.mp heq
    obtain rfl := Option.some.inj (hget.symm.trans hk)
    exact hsettled
  refine ⟨h.close hstatus hrows hclock haccepted hmatch fun tokenHash hin => ?_,
    lasting_close hrows hmatch fun a ha => haccepted ▸ ha⟩
  rw [hretired, List.mem_cons] at hin
  rcases hin with rfl | hin
  · exact .inr ⟨invitationId, row, hget, beq_self_eq_true _, rfl⟩
  · exact .inl hin

-- ---
-- Every statement
-- ---

/-- A write that finds no invitation. -/
theorem lawful_missing (h : Lawful w) (hget : w.store.invitations.get? invitationId = none)
    (f : Invitation → Invitation) :
    Lawful { w with store := w.store.setInvitation invitationId f } ∧
      lasting.rel w { w with store := w.store.setInvitation invitationId f } :=
  ⟨h.same (Table.update_none hget f) (Nat.le_refl _) rfl rfl,
    lasting_same (Table.update_none hget f) rfl⟩

theorem exec_ok (hexec : w.store.exec k = (s, .ok a)) : (w.exec i k).1 =
    { store := s, accepted := w.accepts k ++ w.accepted, retired := w.retires k ++ w.retired } := by
  simp only [World.exec, hexec]

theorem exec_error (hexec : w.store.exec k = (s, .error e)) :
    (w.exec i k).1 = { w with store := s } := by
  simp only [World.exec, hexec]

/-- A row of another table is written unless its unique columns are taken. -/
theorem lawful_unlessTaken {k : Statement} (h : Lawful w) {taken : Bool} {columns : String}
    {s : Store} {a : k.Answer} (hexec : w.store.exec k = unlessTaken taken columns w.store s a)
    (hrows : s.invitations = w.store.invitations) (hclock : s.clock = w.store.clock)
    (haccepts : w.accepts k = []) (hretires : w.retires k = []) :
    Lawful (w.exec i k).1 ∧ lasting.rel w (w.exec i k).1 := by
  rcases unlessTaken_cases taken columns w.store s a with ⟨-, heq⟩ | ⟨-, heq⟩
  · rw [exec_error (hexec.trans heq)]
    exact ⟨h, lasting.refl w⟩
  · rw [exec_ok (hexec.trans heq), haccepts, hretires]
    exact ⟨h.same hrows (Nat.le_of_eq hclock.symm) rfl rfl, lasting_same hrows rfl⟩

theorem lawful_create (h : Lawful w) (hgood : undisturbed w (.createInvitation row)) :
    Lawful (w.exec i (.createInvitation row)).1 ∧
      lasting.rel w (w.exec i (.createInvitation row)).1 := by
  have hexec : w.store.exec (.createInvitation row) =
      unlessTaken (w.store.tokenTaken w.store.invitations.next row.tokenHash) "(tokenHash)" w.store
        { w.store with invitations := w.store.invitations.insert row }
          w.store.invitations.next := rfl
  rcases unlessTaken_cases (w.store.tokenTaken w.store.invitations.next row.tokenHash) "(tokenHash)"
    w.store _ _ with ⟨-, heq⟩ | ⟨-, heq⟩
  · rw [exec_error (hexec.trans heq)]
    exact ⟨h, lasting.refl w⟩
  · rw [exec_ok (hexec.trans heq)]
    refine ⟨h.create hgood.1 hgood.2 rfl rfl rfl rfl, fun k inv hget => ?_, fun a ha => ha⟩
    exact ⟨inv, Table.get?_insert_of_some hget, fun _ => rfl⟩

theorem lawful_expirePending (h : Lawful w) (orgId : Id) (email : String) :
    Lawful (w.exec i (.expirePending orgId email)).1 ∧
      lasting.rel w (w.exec i (.expirePending orgId email)).1 := by
  have hsettled : ∀ k inv, w.invitation? k = some inv →
      (inv.organizationId == orgId && inv.email == email && inv.status == .pending) = true →
        inv.status.settled = true → inv.status = .expired := by
    intro k inv _ hp hin
    simp only [Bool.and_eq_true, beq_iff_eq] at hp
    rw [hp.2] at hin
    cases hin
  refine ⟨h.close (show InvitationStatus.expired ≠ .pending by decide) rfl rfl rfl hsettled
    fun tokenHash hin => ?_, lasting_close rfl hsettled fun a ha => ha⟩
  rcases List.mem_append.mp hin with hin | hin
  · obtain ⟨⟨k, inv⟩, hmem, rfl⟩ := List.mem_map.mp hin
    obtain ⟨hget, hp⟩ := Table.mem_findMany.mp hmem
    exact .inr ⟨k, inv, hget, hp, rfl⟩
  · exact .inl hin

/-- A write of one invitation, which may be missing. -/
theorem lawful_update {k : Statement} (h : Lawful w) {f : Invitation → Invitation}
    {g : Invitation → k.Answer}
    (hexec : w.store.exec k =
      (w.store.setInvitation invitationId f, w.store.updated invitationId g))
    (haccepts : w.accepts k = [])
    (hrow : ∀ row, w.invitation? invitationId = some row →
      Lawful { w with
        store := w.store.setInvitation invitationId f, retired := w.retires k ++ w.retired } ∧
      lasting.rel w { w with
        store := w.store.setInvitation invitationId f, retired := w.retires k ++ w.retired }) :
    Lawful (w.exec i k).1 ∧ lasting.rel w (w.exec i k).1 := by
  cases hget : w.store.invitations.get? invitationId with
  | none =>
    rw [Store.updated, hget] at hexec
    rw [exec_error hexec]
    exact lawful_missing h hget f
  | some row =>
    rw [Store.updated, hget] at hexec
    rw [exec_ok hexec, haccepts]
    exact hrow row hget

/-- The token of a row that is there is retired. -/
theorem retires_row
    (hretires : w.retires k = ((w.invitation? invitationId).map (·.tokenHash)).toList)
    (hget : w.invitation? invitationId = some row) :
    w.retires k ++ w.retired = row.tokenHash :: w.retired := by
  rw [hretires, hget]
  rfl

theorem not_settled_of_read {status read : InvitationStatus} (hread : read.settled = false)
    (h : status.settled = true → read.settled = true) : status.settled = false := by
  rw [Bool.eq_false_iff]
  intro hin
  rw [h hin] at hread
  cases hread

theorem lawful_accept (h : Lawful w)
    (hneeds : needs (.accept invitationId inv userId pw first last))
    (hgood : undisturbed w (.accept invitationId inv userId pw first last)) :
    Lawful (w.exec i (.accept invitationId inv userId pw first last)).1 ∧
      lasting.rel w (w.exec i (.accept invitationId inv userId pw first last)).1 := by
  cases hfound : (w.store.users.get? userId).isSome &&
    (w.store.invitations.get? invitationId).isSome
  · have hexec : w.store.exec (.accept invitationId inv userId pw first last) =
        (w.store, .error (notFound "Record to update not found")) := if_neg (by simp [hfound])
    rw [exec_error hexec]
    exact ⟨h, lasting.refl w⟩
  · have hexec : w.store.exec (.accept invitationId inv userId pw first last) =
        (w.store.accept invitationId userId pw first last, .ok ()) := if_pos hfound
    rw [exec_ok hexec]
    obtain ⟨row, hget⟩ := Option.isSome_iff_exists.mp (Bool.and_eq_true _ _ ▸ hfound).2
    obtain ⟨hstatus, hhash⟩ := hgood row hget
    have hpending : row.status = .pending := hstatus.trans hneeds
    have hclose : Lawful { w with
          store := w.store.accept invitationId userId pw first last
          retired := row.tokenHash :: w.retired } ∧
        lasting.rel w { w with
          store := w.store.accept invitationId userId pw first last
          retired := row.tokenHash :: w.retired } := by
      refine h.closeRow (show InvitationStatus.accepted ≠ .pending by decide) hget (fun hin => ?_)
        rfl rfl rfl rfl
      rw [hpending] at hin
      cases hin
    rw [retires_row rfl hget]
    have hlog := hclose.1.log (a := ⟨invitationId, inv.tokenHash, w.retired.contains inv.tokenHash⟩)
      (fun b hb heq => ?_) ?_ ?_
    · exact ⟨hlog, hclose.2.1, fun a ha => .tail _ ha⟩
    · obtain ⟨other, hother, hacc⟩ := h.stays b hb
      obtain rfl := Option.some.inj (hget.symm.trans (heq ▸ hother))
      rw [hpending] at hacc
      cases hacc
    · refine ⟨_, Table.get?_update_self _ _ |>.trans (congrArg _ hget), rfl⟩
    · simpa [hhash] using h.unretired invitationId row hget hpending

theorem lawful_exec (h : Lawful w) (hneeds : needs k) (hgood : undisturbed w k) :
    Lawful (w.exec i k).1 ∧ lasting.rel w (w.exec i k).1 := by
  cases k with
  | now | findBranch _ | findRole _ | findUserByEmail _ | findUser _ | findMembership _ _
  | findInvitation _ | findByToken _ => exact ⟨h, lasting.refl w⟩
  | createUserRole _ _ => exact ⟨h.same rfl (Nat.le_refl _) rfl rfl, lasting_same rfl rfl⟩
  | createUser row => exact lawful_unlessTaken h rfl rfl rfl rfl rfl
  | createMembership row => exact lawful_unlessTaken h rfl rfl rfl rfl rfl
  | createInvitation row => exact lawful_create h hgood
  | expirePending orgId email => exact lawful_expirePending h orgId email
  | resend invitationId inv tokenHash expiresAt =>
    cases htaken : w.store.tokenTaken invitationId tokenHash
    · refine lawful_update h (if_neg (by rw [htaken]; exact Bool.false_ne_true)) rfl
        fun row hget => ?_
      obtain ⟨hread, hbeside⟩ := hgood.2 row hget
      exact h.resend hget (not_settled_of_read hneeds hread) hgood.1 hbeside rfl rfl rfl
        (retires_row rfl hget)
    · have hexec : w.store.exec (.resend invitationId inv tokenHash expiresAt) =
          (w.store, .error (uniqueFailed "(tokenHash)")) := if_pos htaken
      rw [exec_error hexec]
      exact ⟨h, lasting.refl w⟩
  | revoke invitationId inv =>
    refine lawful_update h rfl rfl fun row hget => ?_
    refine h.closeRow (show InvitationStatus.revoked ≠ .pending by decide) hget (fun hin => ?_) rfl
      rfl rfl
      (retires_row rfl hget)
    rcases settled_iff.mp hin with hacc | hrev
    · have hread := hgood row hget hacc
      rw [hneeds] at hread
      cases hread
    · exact hrev
  | expire invitationId inv =>
    refine lawful_update h rfl rfl fun row hget => ?_
    refine h.closeRow (show InvitationStatus.expired ≠ .pending by decide) hget (fun hin => ?_) rfl
      rfl rfl
      (retires_row rfl hget)
    rw [not_settled_of_read hneeds (hgood row hget)] at hin
    cases hin
  | accept invitationId inv userId passwordHash firstName lastName =>
    exact lawful_accept h hneeds hgood

def invitationDiscipline : Discipline World.exec where
  inv := Lawful
  rely _ := lasting
  needs _ _ := needs
  allowed := undisturbed
  keeps _ _ _ h hneeds hgood :=
    ⟨(lawful_exec h hneeds hgood).1, fun _ _ => (lawful_exec h hneeds hgood).2⟩

-- ---
-- Every call
-- ---

theorem always_query {k : Statement} (hneeds : needs k) : Always invitationDiscipline i (query k) :=
  always_statement fun _ _ => hneeds

theorem findOrCreateUser_always (roleId : Id) (inv : OnboardingInvitationDto) (drawn : Drawn) :
    Always invitationDiscipline i (findOrCreateUser normalizeEmail roleId inv drawn) := by
  refine always_bind (always_query trivial) fun existing => ?_
  cases existing with
  | some userId => exact always_pure _
  | none =>
    exact always_bind (always_query trivial) fun _ =>
      always_bind (always_query trivial) fun _ => always_pure _

theorem findOrCreateMembership_always (orgId branchId roleId userId : Id) :
    Always invitationDiscipline i (findOrCreateMembership orgId branchId roleId userId) := by
  refine always_bind (always_query trivial) fun existing => ?_
  cases existing with
  | some membershipId => exact always_pure _
  | none => exact always_bind (always_query trivial) fun _ => always_pure _

theorem inviteOne_always (orgId branchId : Id) (inv : OnboardingInvitationDto) (drawn : Drawn) :
    Always invitationDiscipline i
      (inviteOne normalizeEmail hashToken orgId branchId inv drawn) := by
  refine always_bind (always_query trivial) fun role => always_need fun roleId _ => ?_
  refine always_bind (findOrCreateUser_always roleId inv drawn) fun found => ?_
  obtain ⟨userId, wasNewUser⟩ := found
  refine always_bind (findOrCreateMembership_always orgId branchId roleId userId) fun found => ?_
  obtain ⟨membershipId, alreadyMember⟩ := found
  exact always_bind (always_query trivial) fun _ => always_bind (always_query trivial) fun _ =>
    always_bind (always_query trivial) fun _ => always_pure _

theorem inviteAll_always (orgId branchId : Id)
    (invitations : List (OnboardingInvitationDto × Drawn)) :
    Always invitationDiscipline i
      (inviteAll normalizeEmail hashToken orgId branchId invitations) := by
  induction invitations with
  | nil => exact always_pure _
  | cons first rest ih =>
    obtain ⟨inv, drawn⟩ := first
    exact always_bind (inviteOne_always orgId branchId inv drawn) fun _ =>
      always_bind ih fun _ => always_pure _

theorem createInvitations_always (orgId : Id)
    (invitations : List (OnboardingInvitationDto × Drawn)) :
    Always invitationDiscipline i
      (createInvitations normalizeEmail hashToken orgId invitations) := by
  refine always_ensure fun _ => ?_
  cases firstNotInvitable invitations with
  | some roleName => exact always_throw _
  | none =>
    exact always_bind (always_query trivial) fun _ => always_need fun branchId _ =>
      inviteAll_always orgId branchId invitations

theorem resendInvitation_always (orgId invitationId : Id) (newToken : String) :
    Always invitationDiscipline i (resendInvitation hashToken orgId invitationId newToken) := by
  refine always_bind (always_query trivial) fun found => always_need fun inv _ =>
    always_ensure fun _ => always_ensure fun haccepted => always_ensure fun hrevoked => ?_
  refine always_bind (always_query trivial) fun now => always_bind (always_query ?_) fun _ =>
    always_pure _
  exact (not_settled_iff.mpr ⟨bne_iff_ne.mp haccepted, bne_iff_ne.mp hrevoked⟩ :
    inv.status.settled = false)

theorem revokeInvitation_always (orgId invitationId : Id) :
    Always invitationDiscipline i (revokeInvitation orgId invitationId) := by
  refine always_bind (always_query trivial) fun found => always_need fun inv _ =>
    always_ensure fun _ => always_ensure fun haccepted => ?_
  split
  · exact always_pure _
  · rename_i hrevoked
    refine always_bind (always_query ?_) fun _ => always_pure _
    exact (not_settled_iff.mpr ⟨bne_iff_ne.mp haccepted, fun h => hrevoked (beq_iff_eq.mpr h)⟩ :
      inv.status.settled = false)

/-- An acceptance that succeeds is noted, with the token that was presented. -/
def Recorded (tokenHash : String) (result : Except HttpError Reply) (w : World) : Prop :=
  match result with
  | .ok (.accepted invitationId _) =>
    ∃ a ∈ w.accepted, a.invitationId = invitationId ∧ a.tokenHash = tokenHash
  | _ => True

theorem acceptFor_safe (dto : AcceptInvitationDto) (invitationId : Id) {invitation : Invitation}
    (hpending : invitation.status = .pending) :
    (acceptFor dto invitationId invitation).Safe invitationDiscipline i
      (Recorded invitation.tokenHash) w := by
  have hfind : Always invitationDiscipline i (findTarget invitation) := by
    unfold findTarget
    cases invitation.userId with
    | some userId => exact always_query trivial
    | none => exact always_query trivial
  refine safe_bind ((hfind w).mono fun user v _ => ?_)
  cases user with
  | error e => trivial
  | ok user =>
    refine safe_need (fun userId _ => safe_statement (fun _ _ _ => hpending) fun u _ _ _ => ?_)
      fun _ => trivial
    show continued _ _ _ _ (u.store.exec _).2 _
    cases hreply : (u.store.exec (.accept invitationId invitation userId dto.passwordHash
        dto.firstName dto.lastName)).2 with
    | error e => trivial
    | ok a =>
      rw [exec_ok (Prod.ext rfl hreply)]
      exact ⟨_, List.mem_cons_self, rfl, rfl⟩

theorem accept_safe (dto : AcceptInvitationDto) (w : World) :
    (accept hashToken dto).Safe invitationDiscipline i
      (Recorded (hashToken dto.invitationToken)) w := by
  refine safe_read (fun v => v.store.invitations.findFirst fun _ inv =>
      inv.tokenHash == hashToken dto.invitationToken) (fun _ => rfl) (fun _ _ _ => trivial)
    fun v _ _ => safe_need (fun found hfound => ?_) fun _ => trivial
  obtain ⟨invitationId, invitation⟩ := found
  have hhash : invitation.tokenHash = hashToken dto.invitationToken :=
    beq_iff_eq.mp (Table.findFirst_some hfound).2
  refine safe_ensure (fun haccepted => safe_ensure (fun hrevoked => ?_) fun _ => trivial)
    fun _ => trivial
  have hopen : invitation.status.settled = false :=
    not_settled_iff.mpr ⟨bne_iff_ne.mp haccepted, bne_iff_ne.mp hrevoked⟩
  refine safe_read (fun u => u.store.clock) (fun _ => rfl) (fun _ _ _ => trivial) fun u _ _ => ?_
  split
  · unfold markExpired
    split
    · exact safe_any (fun _ _ _ => hopen) (fun _ _ => trivial) fun _ _ => trivial
    · trivial
  · rename_i hlate
    rw [← hhash]
    refine acceptFor_safe dto invitationId ?_
    simp only [Bool.or_eq_true, beq_iff_eq, not_or] at hlate
    obtain ⟨hacc, hrev⟩ := not_settled_iff.mp hopen
    cases hstatus : invitation.status with
    | pending => rfl
    | accepted => exact absurd hstatus hacc
    | revoked => exact absurd hstatus hrev
    | expired => exact absurd hstatus hlate.2

/-- What a call leaves when it ends. -/
def InvitationCall.leaves (hashToken : String → String) (call : InvitationCall)
    (result : Except HttpError Reply) (w : World) : Prop :=
  match call with
  | .accept dto => Recorded (hashToken dto.invitationToken) result w
  | _ => True

theorem program_leaves (call : InvitationCall) (w : World) :
    (call.program normalizeEmail hashToken).Safe invitationDiscipline i
      (call.leaves hashToken) w := by
  cases call with
  | createInvitations orgId invitations =>
    exact always_bind (createInvitations_always orgId invitations) (fun _ => always_pure _) w
  | resendInvitation orgId invitationId newToken =>
    exact resendInvitation_always orgId invitationId newToken w
  | revokeInvitation orgId invitationId => exact revokeInvitation_always orgId invitationId w
  | accept dto => exact accept_safe dto w

theorem leaves_lasting {call : InvitationCall} {result : Except HttpError Reply}
    (h : call.leaves hashToken result w) (hlasting : lasting.rel w v) :
    call.leaves hashToken result v := by
  cases call with
  | createInvitations _ _ | resendInvitation _ _ _ | revokeInvitation _ _ => trivial
  | accept dto =>
    cases result with
    | error e => trivial
    | ok reply =>
      cases reply with
      | invited _ | resent _ _ _ _ | revoked _ => trivial
      | accepted invitationId userId =>
        obtain ⟨a, ha, hrest⟩ := h
        exact ⟨a, hlasting.2 a ha, hrest⟩

-- ---
-- Every interleaving
-- ---

abbrev OnboardingPool := Pool World (OnboardingProgram Reply)

/-- The calls, none of which has started. -/
def requested (normalizeEmail hashToken : String → String) (s : Store)
    (calls : List InvitationCall) : OnboardingPool where
  shared := { store := s }
  threads := calls.map (·.program normalizeEmail hashToken)

abbrev take : OnboardingPool → Turn → OnboardingPool := Turn.take World.exec World.wait

/-- What holds at `q`, and of what there was at `p`. -/
structure InvitationLaws (hashToken : String → String) (calls : List InvitationCall)
    (p q : OnboardingPool) : Prop where
  single : ∀ j k inv inv', q.shared.invitation? j = some inv → q.shared.invitation? k = some inv' →
    q.shared.live inv = true → q.shared.live inv' = true →
      inv.organizationId = inv'.organizationId → inv.email = inv'.email → j = k
  settled : ∀ k inv, p.shared.invitation? k = some inv → inv.status.settled = true →
    ∃ inv', q.shared.invitation? k = some inv' ∧ inv'.status = inv.status
  accepts : ∀ (i : Nat) dto invitationId userId, calls[i]? = some (.accept dto) →
    q.threads[i]? = some (.done (.ok (.accepted invitationId userId))) →
    ∃ a ∈ q.shared.accepted, a.invitationId = invitationId ∧
      a.tokenHash = hashToken dto.invitationToken
  valid : ∀ a ∈ q.shared.accepted, a.retired = false
  once : (q.shared.accepted.map (·.invitationId)).Nodup

theorem lawful_wait (w : World) (ms : Nat) (h : Lawful w) :
    Lawful (w.wait ms) ∧ ∀ _ : Nat, lasting.rel w (w.wait ms) :=
  ⟨h.same rfl (Nat.le_add_right _ _) rfl rfl, fun _ => lasting_same rfl rfl⟩

/-- While no call moves a row that another has read, and what is resent has no newer
invitation beside it, invitations keep their law. -/
theorem run_invitations {calls : List InvitationCall} {s : Store} {p q : OnboardingPool}
    (hstart : Lawful { store := s })
    (hbefore : Run take (fun p t => t.asks undisturbed p)
      (requested normalizeEmail hashToken s calls) turns p)
    (hlater : Run take (fun p t => t.asks undisturbed p) p later q) :
    InvitationLaws hashToken calls p q := by
  have hrequested : SafePool invitationDiscipline (fun i result w => ∀ call,
      calls[i]? = some call → call.leaves hashToken result w)
        (requested normalizeEmail hashToken s calls) := by
    refine ⟨hstart, fun i x hx => ?_⟩
    simp only [requested, List.getElem?_map, Option.map_eq_some_iff] at hx
    obtain ⟨call, hcall, rfl⟩ := hx
    refine (program_leaves call _).mono fun result w hleaves call' hcall' => ?_
    obtain rfl := Option.some.inj (hcall.symm.trans hcall')
    exact hleaves
  have hstable : ∀ (i : Nat) result (w v : World),
      (∀ call, calls[i]? = some call → call.leaves hashToken result w) → lasting.rel w v →
        ∀ call, calls[i]? = some call → call.leaves hashToken result v :=
    fun _ _ _ _ h hlasting call hcall => leaves_lasting (h call hcall) hlasting
  have hp := hrequested.run hstable lawful_wait hbefore
  have hq := hp.run hstable lawful_wait hlater
  have hframe : lasting.rel p.shared q.shared :=
    hp.frame hstable lawful_wait (fun _ _ _ h => h) hlater
  refine ⟨hq.inv.single, fun k inv hget hin => ?_, fun i dto invitationId userId hcall hdone => ?_,
    hq.inv.valid, hq.inv.once⟩
  · obtain ⟨inv', hget', hstatus⟩ := hframe.1 k inv hget
    exact ⟨inv', hget', hstatus hin⟩
  · exact hq.ended hdone _ hcall

-- ---
-- An invitation brought back
-- ---

/-- An organisation with its branch and roles. -/
def onboarding : Store where
  branches := .insert .empty { organizationId := 0 }
  roles := .insert (.insert .empty "Manager") "Accountant"

def invite (invitationToken : String) : InvitationCall :=
  .createInvitations 0 [({ email := "a@b.c", roleName := "Manager" }, { invitationToken })]

/-- An invitation, a newer one, and the first is resent. -/
def revived : OnboardingPool :=
  (times 10 0 ++ times 7 1 ++ times 3 2).foldl take
    (requested id id onboarding [invite "one", invite "two", .resendInvitation 0 0 "three"])

def acceptOne : InvitationCall := .accept { invitationToken := "one", passwordHash := "" }

/-- Two acceptances read the invitation before either is written. -/
def acceptedTwice : OnboardingPool :=
  (times 10 0 ++ times 3 1 ++ times 3 2 ++ times 1 1 ++ times 1 2).foldl take
    (requested id id onboarding [invite "one", acceptOne, acceptOne])

/-- An acceptance that is written after a revocation. -/
def acceptedRevoked : OnboardingPool :=
  (times 10 0 ++ times 3 1 ++ times 2 2 ++ times 1 1).foldl take
    (requested id id onboarding [invite "one", acceptOne, .revokeInvitation 0 0])

/-- Two live invitations, a token used twice, and one used after its revocation. -/
theorem invitation_revived :
    (revived.shared.store.invitations.count fun _ inv =>
      inv.organizationId == 0 && inv.email == "a@b.c" && revived.shared.live inv) = 2 ∧
    acceptedTwice.shared.accepted.map (·.invitationId) = [0, 0] ∧
    acceptedRevoked.shared.accepted = [⟨0, "one", true⟩] := by
  decide

/-- An invitation that is resent and then accepted. -/
def accepted : List InvitationCall :=
  [invite "one", .resendInvitation 0 0 "two",
    .accept { invitationToken := "two", passwordHash := "" }]

def resentOnce : OnboardingPool :=
  (times 10 0 ++ times 3 1).foldl take (requested id id onboarding accepted)

theorem lawful_onboarding : Lawful { store := onboarding } := by
  refine ⟨fun j k inv inv' hj => ?_, fun j k inv inv' hj => ?_, fun k inv hk => ?_, .nil, ?_, ?_⟩
  · cases hj
  · cases hj
  · cases hk
  · exact fun a ha => absurd ha List.not_mem_nil
  · exact fun a ha => absurd ha List.not_mem_nil

theorem run_invitations_accepted :
    InvitationLaws id accepted resentOnce ((times 4 2).foldl take resentOnce) :=
  run_invitations lawful_onboarding (.of_holds (by decide)) (.of_holds (by decide))

end NimbusPos.ClientOnboardingService
