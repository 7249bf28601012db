import Mathlib.Data.Nat.Digits.Defs
import NimbusPos.Auth.QuickPin

/-!
# Whose PIN, and how long

A login is the login of the user whose last issue or reset gave that PIN for that
branch. Its length is the one that the user's roles ask for as long as they still
resolve to the tier of that issue, and a reset does not take another tier from the
settings: the login only looks at the length that was stored with the PIN.
-/

namespace NimbusPos.QuickPinService

open Lib Lib.Service

/-- The highest tier among the roles. -/
def highestTier (jobRoles : List JobRole) : Option QuickPinTier :=
  if jobRoles.any (resolveQuickPinTier · == some .high8) then some .high8
  else if jobRoles.any (resolveQuickPinTier · == some .low6) then some .low6
  else none

/-- A PIN that a user was given, and the tier of the user's roles at that time. -/
structure Issue where
  userId : Id
  branchId : Id
  pin : String
  tier : Option QuickPinTier
  deriving DecidableEq, Repr

/-- The store, and the issues and resets so far, the latest first. -/
structure Registry where
  store : Store
  issued : List Issue := []

namespace Registry

def lastIssue (w : Registry) (userId : Id) : Option Issue := w.issued.find? (·.userId == userId)

def rolesTier (w : Registry) (userId : Id) : Option QuickPinTier :=
  (w.store.users.get? userId).bind fun user => tierOf user.jobRoles

/-- A call that gives the user a PIN. -/
def gives (w : Registry) (r : EStateM.Result HttpError Store IssuedPin) : Registry where
  store := final r
  issued := ((value? r).map fun p =>
    { userId := p.userId, branchId := p.branchId, pin := p.pin, tier := w.rolesTier p.userId :
      Issue }).toList ++ w.issued

end Registry

inductive PinEvent
  | issue (targetUserId : Id) (branchId : Option Id) (salt : String) (drawn : Nat → UInt32)
  | reset (targetUserId : Id) (branchId : Option Id) (salt : String) (drawn : Nat → UInt32)
  | settings (targetUserId : Id) (data : UpdateQuickPinSettingsDto)
  | createUser (userRoles : List (Option JobRole))
  | setRoles (userId : Id) (userRoles : List (Option JobRole))
  | setActive (userId : Id) (isActive : Bool)
  | setMemberships (memberships : Table Membership)
  | setBranches (branches : Table Branch)
  | login (branchId : Id) (pin : String) (platform : SessionPlatform) (drawn : Drawn)
  | wait (ms : Nat)

def Registry.next (crypto : Crypto) (w : Registry) : PinEvent → Registry
  | .issue targetUserId branchId salt drawn =>
    w.gives (issueQuickPin crypto targetUserId branchId salt drawn w.store)
  | .reset targetUserId branchId salt drawn =>
    w.gives (resetQuickPin crypto targetUserId branchId salt drawn w.store)
  | .settings targetUserId data =>
    { w with store := final (updateQuickPinSettings targetUserId data w.store) }
  | .createUser userRoles =>
    { w with store := { w.store with users := w.store.users.insert { userRoles } } }
  | .setRoles userId userRoles =>
    { w with store := w.store.setUser userId fun row => { row with userRoles } }
  | .setActive userId isActive =>
    { w with store := w.store.setUser userId fun row => { row with isActive } }
  | .setMemberships memberships => { w with store := { w.store with memberships } }
  | .setBranches branches => { w with store := { w.store with branches } }
  | .login branchId pin platform drawn =>
    { w with store := final (quickPinLogin crypto branchId pin platform drawn w.store) }
  | .wait ms => { w with store := { w.store with clock := w.store.clock + ms } }

/-- The roles of the user that a login finds still resolve to the tier of the last issue
or reset, and a reset finds no tier but that of the roles. -/
def keepsTier (crypto : Crypto) (w : Registry) : PinEvent → Prop
  | .login branchId pin _ _ => ∀ found ∈ candidate crypto branchId pin w.store,
      ∀ issue ∈ w.lastIssue found.1, issue.tier = tierOf found.2.jobRoles
  | .reset targetUserId _ _ _ => ∀ user ∈ w.store.users.get? targetUserId,
      ∀ tier ∈ user.pinTier, tierOf user.jobRoles = some tier
  | _ => True

instance (crypto : Crypto) (w : Registry) : (e : PinEvent) → Decidable (keepsTier crypto w e)
  | .login branchId pin _ _ => inferInstanceAs (Decidable
      (∀ found ∈ candidate crypto branchId pin w.store,
        ∀ issue ∈ w.lastIssue found.1, issue.tier = tierOf found.2.jobRoles))
  | .reset targetUserId _ _ _ => inferInstanceAs (Decidable
      (∀ user ∈ w.store.users.get? targetUserId,
        ∀ tier ∈ user.pinTier, tierOf user.jobRoles = some tier))
  | .issue .. | .settings .. | .createUser _ | .setRoles .. | .setActive .. | .setMemberships _
  | .setBranches _ | .wait _ => .isTrue trivial

/-- The PIN has the length that the user's roles ask for. -/
def LongEnough (user : User) (pin : String) : Prop :=
  ∃ tier, highestTier user.jobRoles = some tier ∧ pin.length = getPinLengthForTier tier

/-- A login as the user. -/
structure Entitled (w : Registry) (branchId : Id) (pin : String) (userId : Id) (user : User) :
    Prop where
  row : w.store.users.get? userId = some user
  active : user.isActive = true
  enabled : user.quickPinEnabled = true
  member : ∃ membership, w.store.findMembership userId branchId = some membership ∧
    membership.isActive = true
  issued : ∃ issue, w.lastIssue userId = some issue ∧ issue.branchId = branchId ∧ issue.pin = pin

/-- What a login, an issue or a reset gives. -/
def Rightful (crypto : Crypto) (w : Registry) : PinEvent → Prop
  | .login branchId pin platform drawn => ∀ tokens,
      value? (quickPinLogin crypto branchId pin platform drawn w.store) = some tokens →
        ∃ user, Entitled w branchId pin tokens.accessToken.sub user ∧ LongEnough user pin
  | .issue targetUserId branchId salt drawn => ∀ issued,
      value? (issueQuickPin crypto targetUserId branchId salt drawn w.store) = some issued →
        ∃ user, w.store.users.get? targetUserId = some user ∧ LongEnough user issued.pin
  | .reset targetUserId branchId salt drawn => ∀ issued,
      value? (resetQuickPin crypto targetUserId branchId salt drawn w.store) = some issued →
        ∃ user, w.store.users.get? targetUserId = some user ∧ LongEnough user issued.pin
  | _ => True

/-- Each stored lookup hash is of the PIN its user was given last. -/
structure Tracked (crypto : Crypto) (w : Registry) : Prop where
  rows : ∀ userId user lookupHash, w.store.users.get? userId = some user →
    user.pinLookupHash = some lookupHash → ∃ issue, w.lastIssue userId = some issue ∧
      crypto.lookup issue.branchId issue.pin = lookupHash

/-- Each PIN has the length of the tier that its user's roles had. -/
def Measured (w : Registry) : Prop :=
  ∀ issue ∈ w.issued, ∃ tier, issue.tier = some tier ∧
    issue.pin.length = getPinLengthForTier tier

variable {crypto : Crypto} {w : Registry} {s t : Store} {user : User}

-- ---
-- Tiers and PINs
-- ---

theorem foldl_withRole (jobRoles : List JobRole) (tier : Option QuickPinTier) :
    jobRoles.foldl withRole tier =
      if tier == some .high8 || jobRoles.any (resolveQuickPinTier · == some .high8) then some .high8
      else if tier == some .low6 || jobRoles.any (resolveQuickPinTier · == some .low6) then
        some .low6
      else none := by
  induction jobRoles generalizing tier with
  | nil => rcases tier with - | - | - <;> rfl
  | cons jobRole jobRoles ih =>
    rw [List.foldl_cons, ih, List.any_cons, List.any_cons]
    rcases hrole : resolveQuickPinTier jobRole with - | - | - <;> rcases tier with - | - | - <;>
      simp [withRole, hrole]

/-- The loop over the roles finds the highest tier. -/
theorem tierOf_eq (jobRoles : List JobRole) : tierOf jobRoles = highestTier jobRoles :=
  foldl_withRole jobRoles none

theorem length_generateRandomPin (hlength : 0 < length) (bytes : UInt32) :
    (generateRandomPin length bytes).length = length := by
  have hshort : (toString (bytes.toNat % 10 ^ length)).length ≤ length :=
    Nat.repr_length _ _ hlength (Nat.mod_lt _ (Nat.pow_pos (by decide)))
  simp only [generateRandomPin, padStart, String.length_append, String.length_ofList,
    List.length_replicate]
  omega

theorem firstFree_some {pin : UniquePin}
    (h : firstFree crypto s length branchId salt drawn attempts remaining = some pin) :
    (∃ bytes, pin.plainPin = generateRandomPin length bytes) ∧
      pin.lookupHash = crypto.lookup branchId pin.plainPin := by
  induction remaining generalizing attempts with
  | zero => cases h
  | succ remaining ih =>
    simp only [firstFree] at h
    split at h
    · obtain rfl := Option.some.inj h
      exact ⟨⟨_, rfl⟩, rfl⟩
    · exact ih h

/-- What a successful issue or reset has done. -/
structure Assigned (crypto : Crypto) (s : Store) (targetUserId : Id) (tier : QuickPinTier)
    (issued : IssuedPin) (t : Store) : Prop where
  userId : issued.userId = targetUserId
  length : issued.pin.length = getPinLengthForTier tier
  users : ∃ f : User → User, t.users = s.users.update targetUserId f ∧
    ∀ row, (f row).pinLookupHash = some (crypto.lookup issued.branchId issued.pin)

theorem getPinLengthForTier_pos (tier : QuickPinTier) : 0 < getPinLengthForTier tier := by
  cases tier <;> decide

theorem issueQuickPin_ok
    (h : issueQuickPin crypto targetUserId branchId salt drawn s = .ok issued t) :
    ∃ user tier, s.users.get? targetUserId = some user ∧ tierOf user.jobRoles = some tier ∧
      Assigned crypto s targetUserId tier issued t := by
  simp only [issueQuickPin, generateUniquePin, bind_ok, get_ok, need_ok, modify_ok, pure_ok] at h
  obtain ⟨_, _, ⟨rfl, rfl⟩, user, _, ⟨huser, rfl⟩, tier, _, ⟨htier, rfl⟩, branch, _, ⟨hbranch, rfl⟩,
    unique, _, ⟨_, _, ⟨rfl, rfl⟩, hfree, rfl⟩, _, _, rfl, rfl, rfl⟩ := h
  obtain ⟨⟨bytes, hpin⟩, hlookup⟩ := firstFree_some hfree
  refine ⟨user, tier, huser, htier, rfl, ?_, _, Store.setUser_users _ _ _, ?_⟩
  · exact hpin ▸ length_generateRandomPin (getPinLengthForTier_pos tier) bytes
  · exact fun _ => congrArg some hlookup

theorem resetQuickPin_ok
    (h : resetQuickPin crypto targetUserId branchId salt drawn s = .ok issued t) :
    ∃ user tier, s.users.get? targetUserId = some user ∧
      (user.pinTier <|> tierOf user.jobRoles) = some tier ∧
        Assigned crypto s targetUserId tier issued t := by
  simp only [resetQuickPin, generateUniquePin, bind_ok, get_ok, ensure_ok, need_ok, modify_ok,
    pure_ok] at h
  obtain ⟨_, _, ⟨rfl, rfl⟩, user, _, ⟨huser, rfl⟩, _, _, ⟨_, rfl⟩, tier, _, ⟨htier, rfl⟩, branch, _,
    ⟨hbranch, rfl⟩, unique, _, ⟨_, _, ⟨rfl, rfl⟩, hfree, rfl⟩, _, _, rfl, rfl, rfl⟩ := h
  obtain ⟨⟨bytes, hpin⟩, hlookup⟩ := firstFree_some hfree
  refine ⟨user, tier, huser, htier, rfl, ?_, _, Store.setUser_users _ _ _, ?_⟩
  · exact hpin ▸ length_generateRandomPin (getPinLengthForTier_pos tier) bytes
  · exact fun _ => congrArg some hlookup

theorem generateUniquePin_reads (length : Nat) (branchId : Id) (salt : String)
    (drawn : Nat → UInt32) : Reads (generateUniquePin crypto length branchId salt drawn) :=
  Reads.get.bind fun _ => Reads.need _ _

theorem issueQuickPin_atomic (targetUserId : Id) (branchId : Option Id) (salt : String)
    (drawn : Nat → UInt32) : Atomic (issueQuickPin crypto targetUserId branchId salt drawn) :=
  Reads.get.then fun _ => (Reads.need _ _).then fun _ => (Reads.need _ _).then fun _ =>
    (Reads.need _ _).then fun _ => (generateUniquePin_reads _ _ _ _).then fun _ =>
      ((Total.modify _).bind fun _ => Total.pure _).atomic

theorem resetQuickPin_atomic (targetUserId : Id) (branchId : Option Id) (salt : String)
    (drawn : Nat → UInt32) : Atomic (resetQuickPin crypto targetUserId branchId salt drawn) :=
  Reads.get.then fun _ => (Reads.need _ _).then fun _ => (Reads.ensure _ _).then fun _ =>
    (Reads.need _ _).then fun _ => (Reads.need _ _).then fun _ =>
      (generateUniquePin_reads _ _ _ _).then fun _ =>
        ((Total.modify _).bind fun _ => Total.pure _).atomic

-- ---
-- Every event
-- ---

/-- Each row keeps its lookup hash, and a new one has none. -/
def KeepsLookups (s t : Store) : Prop :=
  ∀ userId user', t.users.get? userId = some user' → user'.pinLookupHash = none ∨
    ∃ user, s.users.get? userId = some user ∧ user'.pinLookupHash = user.pinLookupHash

theorem keepsLookups_refl (s : Store) : KeepsLookups s s := fun _ user h => .inr ⟨user, h, rfl⟩

theorem keepsLookups_update {f : User → User} (husers : t.users = s.users.update k f)
    (hf : ∀ row, (f row).pinLookupHash = row.pinLookupHash) : KeepsLookups s t := by
  intro userId user' hget
  rw [husers] at hget
  have hsame : Table.SameRows User.pinLookupHash s.users (s.users.update k f) :=
    Table.SameRows.update hf
  obtain ⟨user, huser, heq⟩ := hsame.back hget
  exact .inr ⟨user, huser, heq⟩

theorem Tracked.keeps (h : Tracked crypto w) (hkeeps : KeepsLookups w.store t) :
    Tracked crypto { w with store := t } := by
  refine ⟨fun userId user lookupHash hget hlookup => ?_⟩
  rcases hkeeps userId user hget with hnone | ⟨old, hold, hsame⟩
  · cases hnone.symm.trans hlookup
  · exact h.rows userId old lookupHash hold (hsame.symm.trans hlookup)

theorem keepsLookups_login (branchId : Id) (pin : String) (platform : SessionPlatform)
    (drawn : Drawn) (s : Store) :
    KeepsLookups s (final (quickPinLogin crypto branchId pin platform drawn s)) := by
  generalize hlogin : quickPinLogin crypto branchId pin platform drawn s = result
  cases hlogin ▸ login_effect crypto branchId pin platform drawn s with
  | refused e _ => exact keepsLookups_refl s
  | counted _ _ _ _ => exact keepsLookups_update (Store.setUser_users _ _ _) fun _ => rfl
  | @accepted k user _ _ _ _ =>
    cases henter : enter branchId pin platform drawn k user s with
    | ok tokens t =>
      obtain ⟨-, -, husers, -⟩ := enter_ok henter
      exact keepsLookups_update husers fun _ => rfl
    | error e t =>
      rw [enter_error henter]
      exact keepsLookups_refl s

theorem keepsLookups_settings (targetUserId : Id) (data : UpdateQuickPinSettingsDto) (s : Store) :
    KeepsLookups s (final (updateQuickPinSettings targetUserId data s)) := by
  unfold updateQuickPinSettings
  rw [final_get]
  cases s.users.get? targetUserId with
  | none => exact keepsLookups_refl s
  | some user => exact keepsLookups_update (Store.setUser_users _ _ _) fun _ => rfl

/-- A PIN that is given is tracked. -/
theorem Tracked.gives (h : Tracked crypto w) {x : QuickPinDb IssuedPin} (hatomic : Atomic x)
    (hassigned : ∀ issued t, x w.store = .ok issued t → ∃ tier,
      Assigned crypto w.store issued.userId tier issued t) :
        Tracked crypto (w.gives (x w.store)) := by
  cases hx : x w.store with
  | error e t =>
    obtain rfl := hatomic w.store e t hx
    exact h
  | ok issued t =>
    obtain ⟨tier, hassigned⟩ := hassigned issued t hx
    obtain ⟨f, husers, hlookup⟩ := hassigned.users
    refine ⟨fun userId user lookupHash hget hstored => ?_⟩
    simp only [Registry.gives, final, husers] at hget
    by_cases huser : userId = issued.userId
    · subst huser
      rw [Table.get?_update_self] at hget
      obtain ⟨row, -, rfl⟩ := Option.map_eq_some_iff.mp hget
      refine ⟨⟨issued.userId, issued.branchId, issued.pin, w.rolesTier issued.userId⟩, ?_, ?_⟩
      · simp only [Registry.lastIssue, Registry.gives, value?, Option.map_some, Option.toList_some,
          List.singleton_append, List.find?_cons, beq_self_eq_true]
      · exact Option.some.inj ((hlookup row).symm.trans hstored)
    · rw [Table.get?_update_ne _ _ huser] at hget
      obtain ⟨issue, hlast, heq⟩ := h.rows userId user lookupHash hget hstored
      refine ⟨issue, ?_, heq⟩
      have hne : (issued.userId == userId) = false := beq_eq_false_iff_ne.mpr (Ne.symm huser)
      simp only [Registry.lastIssue, Registry.gives, value?, Option.map_some, Option.toList_some,
        List.singleton_append, List.find?_cons, hne]
      exact hlast

theorem Tracked.next (h : Tracked crypto w) (e : PinEvent) : Tracked crypto (w.next crypto e) := by
  cases e with
  | issue targetUserId branchId salt drawn =>
    refine h.gives (issueQuickPin_atomic targetUserId branchId salt drawn) fun issued t hok => ?_
    obtain ⟨_, tier, -, -, hassigned⟩ := issueQuickPin_ok hok
    exact ⟨tier, hassigned.userId ▸ hassigned⟩
  | reset targetUserId branchId salt drawn =>
    refine h.gives (resetQuickPin_atomic targetUserId branchId salt drawn) fun issued t hok => ?_
    obtain ⟨_, tier, -, -, hassigned⟩ := resetQuickPin_ok hok
    exact ⟨tier, hassigned.userId ▸ hassigned⟩
  | settings targetUserId data => exact h.keeps (keepsLookups_settings targetUserId data w.store)
  | createUser userRoles =>
    refine h.keeps fun userId user hget => ?_
    rcases Table.insert_cases hget with ⟨-, rfl⟩ | hget
    · exact .inl rfl
    · exact .inr ⟨user, hget, rfl⟩
  | setRoles userId userRoles =>
    exact h.keeps (keepsLookups_update (Store.setUser_users _ _ _) fun _ => rfl)
  | setActive userId isActive =>
    exact h.keeps (keepsLookups_update (Store.setUser_users _ _ _) fun _ => rfl)
  | setMemberships _ | setBranches _ | wait _ => exact h.keeps (keepsLookups_refl w.store)
  | login branchId pin platform drawn =>
    exact h.keeps (keepsLookups_login branchId pin platform drawn w.store)

/-- A PIN that is given has the length of the tier of the roles. -/
theorem Measured.gives (h : Measured w) {x : QuickPinDb IssuedPin}
    (hassigned : ∀ issued t, x w.store = .ok issued t → ∃ user tier,
      w.store.users.get? issued.userId = some user ∧ tierOf user.jobRoles = some tier ∧
        issued.pin.length = getPinLengthForTier tier) : Measured (w.gives (x w.store)) := by
  cases hx : x w.store with
  | error e t => exact h
  | ok issued t =>
    obtain ⟨user, tier, huser, htier, hlength⟩ := hassigned issued t hx
    refine List.forall_mem_cons.mpr ⟨⟨tier, ?_, hlength⟩, h⟩
    simp only [Registry.rolesTier, huser, Option.bind_some, htier]

/-- A reset that finds no other tier takes that of the roles. -/
theorem reset_tier (hok : keepsTier crypto w (.reset targetUserId branchId salt drawn))
    (huser : w.store.users.get? targetUserId = some user)
    (htier : (user.pinTier <|> tierOf user.jobRoles) = some tier) :
    tierOf user.jobRoles = some tier := by
  cases hstored : user.pinTier with
  | none =>
    rw [hstored] at htier
    exact htier
  | some stored =>
    rw [hstored] at htier
    obtain rfl : stored = tier := Option.some.inj htier
    exact hok user huser stored hstored

theorem Measured.next (h : Measured w) (e : PinEvent) (hok : keepsTier crypto w e) :
    Measured (w.next crypto e) := by
  cases e with
  | issue targetUserId branchId salt drawn =>
    refine h.gives fun issued t hissue => ?_
    obtain ⟨user, tier, huser, htier, hassigned⟩ := issueQuickPin_ok hissue
    exact ⟨user, tier, hassigned.userId ▸ huser, htier, hassigned.length⟩
  | reset targetUserId branchId salt drawn =>
    refine h.gives fun issued t hreset => ?_
    obtain ⟨user, tier, huser, htier, hassigned⟩ := resetQuickPin_ok hreset
    exact ⟨user, tier, hassigned.userId ▸ huser, reset_tier hok huser htier, hassigned.length⟩
  | settings _ _ | createUser _ | setRoles _ _ | setActive _ _ | setMemberships _ | setBranches _
  | login _ _ _ _ | wait _ => exact h

-- ---
-- Every run
-- ---

theorem ok_of_value {r : EStateM.Result HttpError Store α} (h : value? r = some a) :
    r = .ok a (final r) := by
  cases r with
  | ok b t =>
    cases h
    rfl
  | error e t => cases h

/-- A login that gives tokens. -/
theorem login_ok (h : quickPinLogin crypto branchId pin platform drawn s = .ok tokens t) :
    ∃ user, candidate crypto branchId pin s = some (tokens.accessToken.sub, user) ∧
      mayTry s.clock user = true ∧ admitted branchId pin s tokens.accessToken.sub user = true := by
  generalize hlogin : quickPinLogin crypto branchId pin platform drawn s = result at h
  cases hlogin ▸ login_effect crypto branchId pin platform drawn s with
  | refused e _ => cases h
  | counted _ _ _ _ => cases h
  | @accepted k user _ hfound hmay _ =>
    obtain ⟨hadmitted, hsub, -, -⟩ := enter_ok h
    exact ⟨user, hsub ▸ hfound, hmay, hsub ▸ hadmitted⟩

/-- Whoever logs in with a PIN was given it. -/
theorem login_entitled (h : Tracked crypto w)
    (hinjective : ∀ branchId pin branchId' pin',
      crypto.lookup branchId pin = crypto.lookup branchId' pin' → branchId = branchId' ∧ pin = pin')
    (hlogin : quickPinLogin crypto branchId pin platform drawn w.store = .ok tokens t) :
    ∃ user, candidate crypto branchId pin w.store = some (tokens.accessToken.sub, user) ∧
      Entitled w branchId pin tokens.accessToken.sub user := by
  obtain ⟨user, hfound, hmay, hadmitted⟩ := login_ok hlogin
  have hfirst : w.store.users.findFirst (fun _ user =>
      user.pinLookupHash == some (crypto.lookup branchId pin)) =
        some (tokens.accessToken.sub, user) := hfound
  obtain ⟨hget, hlookup⟩ := Table.findFirst_some hfirst
  obtain ⟨issue, hlast, heq⟩ := h.rows _ user _ hget (beq_iff_eq.mp hlookup)
  obtain ⟨hbranch, hpin⟩ := hinjective _ _ _ _ heq
  simp only [mayTry, admitted, Bool.and_eq_true] at hmay hadmitted
  obtain ⟨membership, hmember, -⟩ := Option.any_eq_true _ _ |>.mp hadmitted.1.2
  obtain ⟨hmember, hactive⟩ := Option.filter_eq_some_iff.mp hmember
  exact ⟨user, hfound, hget, hmay.1.1, hmay.1.2, ⟨membership, hmember, hactive⟩,
    ⟨issue, hlast, hbranch, hpin⟩⟩

theorem longEnough_of_tier (htier : tierOf user.jobRoles = some tier)
    (hlength : pin.length = getPinLengthForTier tier) : LongEnough user pin :=
  ⟨tier, tierOf_eq user.jobRoles ▸ htier, hlength⟩

/-- A store in which no user was given a PIN. -/
def NoPins (s : Store) : Prop :=
  ∀ userId user, s.users.get? userId = some user → user.pinLookupHash = none

/-- In every history a login is by the PIN its user was given last, and as long as tiers
are kept it has the length that the roles ask for. -/
theorem run_rightful (hinjective : ∀ branchId pin branchId' pin',
      crypto.lookup branchId pin = crypto.lookup branchId' pin' → branchId = branchId' ∧ pin = pin')
    (hfresh : NoPins s)
    (hrun : Run (Registry.next crypto) (keepsTier crypto) { store := s } events w)
    (hok : keepsTier crypto w e) : Rightful crypto w e := by
  have htracked : Tracked crypto { store := s } := by
    refine ⟨fun userId user lookupHash hget hlookup => ?_⟩
    cases (hfresh userId user hget).symm.trans hlookup
  have hmeasured : Measured { store := s } := fun issue hmem => absurd hmem List.not_mem_nil
  obtain ⟨ht, hm⟩ : Tracked crypto w ∧ Measured w :=
    hrun.invariant (I := fun w => Tracked crypto w ∧ Measured w) ⟨htracked, hmeasured⟩
      fun v e h hok => ⟨h.1.next e, h.2.next e hok⟩
  cases e with
  | login branchId pin platform drawn =>
    intro tokens hvalue
    obtain ⟨user, hfound, hentitled⟩ := login_entitled ht hinjective (ok_of_value hvalue)
    obtain ⟨issue, hlast, -, hpin⟩ := hentitled.issued
    obtain ⟨tier, htier, hlength⟩ := hm issue (List.mem_of_find?_eq_some hlast)
    have hnow : tierOf user.jobRoles = some tier := (hok _ hfound issue hlast).symm.trans htier
    exact ⟨user, hentitled, longEnough_of_tier hnow (hpin ▸ hlength)⟩
  | issue targetUserId branchId salt drawn =>
    intro issued hvalue
    obtain ⟨user, tier, huser, htier, hassigned⟩ := issueQuickPin_ok (ok_of_value hvalue)
    exact ⟨user, huser, longEnough_of_tier htier hassigned.length⟩
  | reset targetUserId branchId salt drawn =>
    intro issued hvalue
    obtain ⟨user, tier, huser, htier, hassigned⟩ := resetQuickPin_ok (ok_of_value hvalue)
    exact ⟨user, huser, longEnough_of_tier (reset_tier hok huser htier) hassigned.length⟩
  | settings _ _ | createUser _ | setRoles _ _ | setActive _ _ | setMemberships _ | setBranches _
  | wait _ => trivial

-- ---
-- A change of roles
-- ---

/-- A lookup hash that writes the branch before the PIN. -/
def markedCrypto : Crypto where
  lookup branchId pin := String.ofList (List.replicate branchId '-' ++ ':' :: pin.toList)
  compare := (· == ·)
  hash _ pin := pin

theorem marked_injective {m n : Nat} {cs ds : List Char}
    (h : List.replicate m '-' ++ ':' :: cs = List.replicate n '-' ++ ':' :: ds) :
    m = n ∧ cs = ds := by
  induction m generalizing n with
  | zero =>
    cases n with
    | zero => exact ⟨rfl, List.tail_eq_of_cons_eq h⟩
    | succ n => exact absurd (List.head_eq_of_cons_eq h) (by decide)
  | succ m ih =>
    cases n with
    | zero => exact absurd (List.head_eq_of_cons_eq h) (by decide)
    | succ n =>
      obtain ⟨hmn, hcs⟩ := ih (List.tail_eq_of_cons_eq h)
      exact ⟨congrArg Nat.succ hmn, hcs⟩

theorem markedCrypto_injective (branchId : Id) (pin : String) (branchId' : Id) (pin' : String)
    (h : markedCrypto.lookup branchId pin = markedCrypto.lookup branchId' pin') :
    branchId = branchId' ∧ pin = pin' := by
  obtain ⟨hbranch, hpin⟩ := marked_injective (String.ofList_injective h)
  exact ⟨hbranch, String.toList_injective hpin⟩

/-- A user with the role is a member of the one branch and is given a PIN. -/
def hired (jobRole : JobRole) : List PinEvent :=
  [.createUser [some jobRole],
    .setMemberships (.insert .empty { userId := 0, branchId := 0, organizationId := 0 }),
    .setBranches (.insert .empty { organizationId := 0 }), .issue 0 none "" fun _ => 123456]

def after (events : List PinEvent) : Registry :=
  events.foldl (Registry.next markedCrypto) { store := {} }

def promoted : Registry := after (hired .waiter ++ [.setRoles 0 [some .manager]])

def lowered : Registry := after (hired .manager ++ [.settings 0 { pinTier := some .low6 }])

/-- Six digits are too short for a manager. -/
theorem not_longEnough (hroles : (s.users.get? userId).bind (highestTier ·.jobRoles) = some .high8)
    (huser : s.users.get? userId = some user) (hlength : pin.length = 6) :
    ¬ LongEnough user pin := by
  rintro ⟨tier, htier, hasked⟩
  rw [huser] at hroles
  obtain rfl : tier = .high8 := Option.some.inj (htier.symm.trans hroles)
  rw [hlength] at hasked
  exact absurd hasked (by decide)

/-- A waiter who has become a manager logs in with six digits, and so does a manager whose
settings were changed before a reset. -/
theorem short_pin :
    ¬ Rightful markedCrypto promoted (.login 0 "123456" .posDesktop {}) ∧
      ¬ Rightful markedCrypto lowered (.reset 0 none "" fun _ => 654321) := by
  constructor
  · intro h
    have hreturns : (value? (quickPinLogin markedCrypto 0 "123456" .posDesktop {}
        promoted.store)).map (·.accessToken.sub) = some 0 := by decide +kernel
    obtain ⟨tokens, htokens, hsub⟩ := Option.map_eq_some_iff.mp hreturns
    obtain ⟨user, hentitled, hlong⟩ := h tokens htokens
    have hrow : promoted.store.users.get? 0 = some user := hsub ▸ hentitled.row
    exact not_longEnough (by decide +kernel) hrow (by decide) hlong
  · intro h
    have hreturns : (value? (resetQuickPin markedCrypto 0 none "" (fun _ => 654321)
        lowered.store)).map (·.pin) = some "654321" := by decide +kernel
    obtain ⟨issued, hissued, hpin⟩ := Option.map_eq_some_iff.mp hreturns
    obtain ⟨user, hrow, hlong⟩ := h issued hissued
    exact not_longEnough (by decide +kernel) hrow (hpin ▸ rfl) hlong

theorem run_rightful_hired :
    Rightful markedCrypto (after (hired .waiter)) (.login 0 "123456" .posDesktop {}) :=
  run_rightful markedCrypto_injective (fun _ _ h => by cases h) (.of_holds (by decide +kernel))
    (by decide +kernel)

end NimbusPos.QuickPinService
