import NimbusPos.Auth.QuickPin

/-!
# The limit on wrong PINs

A user is locked for a while after five PINs that bcrypt refuses. A wrong PIN mostly
leads to no user at all and is then counted nowhere: the number of wrong PINs between
two logins is limited only while each of them leads to the same user.
-/

namespace NimbusPos.QuickPinService

open Lib Lib.Service

/-- A login attempt at the branch, or time passing. -/
inductive LoginEvent
  | attempt (pin : String) (platform : SessionPlatform) (drawn : Drawn)
  | wait (ms : Nat)
  deriving DecidableEq, Repr

section

variable (crypto : Crypto) (branchId userId : Id)

/-- The attempt is refused because the user it leads to is locked. -/
def refusedByLock (s : Store) (pin : String) : Bool :=
  (candidate crypto branchId pin s).any fun found =>
    found.2.isActive && found.2.quickPinEnabled && lockedAt found.2 s.clock

def ownPin (s : Store) (pin : String) : Bool :=
  (candidate crypto branchId pin s).any fun found =>
    found.1 == userId && accepts crypto pin found.2

/-- The attempt tries a PIN that is not the user's, and no lock refuses it. -/
def guesses (s : Store) (pin : String) (platform : SessionPlatform) : Bool :=
  quickPinAllowedPlatforms.contains platform && !ownPin crypto branchId userId s pin &&
    !refusedByLock crypto branchId s pin

/-- The attempt is a login, of this user or another. -/
def succeeds (s : Store) (pin : String) (platform : SessionPlatform) : Bool :=
  quickPinAllowedPlatforms.contains platform &&
    (candidate crypto branchId pin s).any fun found =>
      mayTry s.clock found.2 && accepts crypto pin found.2 &&
        admitted branchId pin s found.1 found.2

/-- The attempt is counted against the user, whom no lock has refused before. -/
def countedAgainst (s : Store) (pin : String) : Bool :=
  (candidate crypto branchId pin s).any fun found =>
    found.1 == userId && mayTry s.clock found.2 && found.2.quickPinHash.isSome &&
      !accepts crypto pin found.2 && found.2.pinLockedUntil.isNone

end

/-- The store, and the wrong PINs tried since the last login. -/
structure Watch where
  store : Store
  misses : Nat := 0

def Watch.next (crypto : Crypto) (branchId userId : Id) (w : Watch) : LoginEvent → Watch
  | .wait ms => { w with store := { w.store with clock := w.store.clock + ms } }
  | .attempt pin platform drawn =>
    let r := quickPinLogin crypto branchId pin platform drawn w.store
    { store := final r
      misses :=
        if returned r then 0
        else if guesses crypto branchId userId w.store pin platform then w.misses + 1
        else w.misses }

/-- Each guess is another user's login or is counted against the user. -/
def countsGuesses (crypto : Crypto) (branchId userId : Id) (w : Watch) : LoginEvent → Prop
  | .wait _ => True
  | .attempt pin platform _ => guesses crypto branchId userId w.store pin platform = true →
      (succeeds crypto branchId w.store pin platform ||
        countedAgainst crypto branchId userId w.store pin) = true

instance (crypto : Crypto) (branchId userId : Id) (w : Watch) :
    (e : LoginEvent) → Decidable (countsGuesses crypto branchId userId w e)
  | .wait _ => .isTrue trivial
  | .attempt pin platform _ => inferInstanceAs (Decidable
      (guesses crypto branchId userId w.store pin platform = true →
        (succeeds crypto branchId w.store pin platform ||
          countedAgainst crypto branchId userId w.store pin) = true))

/-- What the user's row says of the PINs tried: a user who is not locked has attempts
left. -/
structure Limited (userId : Id) (w : Watch) : Prop where
  bounded : w.misses ≤ quickPinMaxFailedAttempts
  noted : ∀ user, w.store.users.get? userId = some user → w.misses ≤ user.failedPinAttempts
  left : ∀ user, w.store.users.get? userId = some user → user.pinLockedUntil = none →
    w.misses < quickPinMaxFailedAttempts

variable {crypto : Crypto} {branchId userId : Id} {pin : String} {platform : SessionPlatform}
  {drawn : Drawn} {w : Watch} {s : Store}

theorem candidate_get (h : candidate crypto branchId pin s = some (k, user)) :
    s.users.get? k = some user := by
  unfold candidate Store.findByLookup at h
  exact (Table.findFirst_some h).1

/-- A guess that goes by the condition. -/
theorem guess_cases (hok : countsGuesses crypto branchId userId w (.attempt pin platform drawn))
    (hguess : guesses crypto branchId userId w.store pin platform = true) :
    quickPinAllowedPlatforms.contains platform = true ∧ ∃ k user,
      candidate crypto branchId pin w.store = some (k, user) ∧ mayTry w.store.clock user = true ∧
        ((accepts crypto pin user = true ∧ admitted branchId pin w.store k user = true) ∨
          (k = userId ∧ user.quickPinHash.isSome = true ∧ accepts crypto pin user = false ∧
            user.pinLockedUntil = none)) := by
  have hor := hok hguess
  simp only [guesses, Bool.and_eq_true] at hguess
  refine ⟨hguess.1.1, ?_⟩
  cases hfound : candidate crypto branchId pin w.store with
  | none => simp [succeeds, countedAgainst, hfound] at hor
  | some found =>
    obtain ⟨k, user⟩ := found
    refine ⟨k, user, rfl, ?_⟩
    simp only [succeeds, countedAgainst, hfound, Option.any_some, Bool.or_eq_true,
      Bool.and_eq_true, Bool.not_eq_true', beq_iff_eq, Option.isNone_iff_eq_none] at hor
    rcases hor with ⟨-, ⟨hmay, haccepts⟩, hadmitted⟩ | ⟨⟨⟨⟨hk, hmay⟩, hhash⟩, haccepts⟩, hlock⟩
    · exact ⟨hmay, .inl ⟨haccepts, hadmitted⟩⟩
    · exact ⟨hmay, .inr ⟨hk, hhash, haccepts, hlock⟩⟩

theorem guesses_mismatch (hplatform : quickPinAllowedPlatforms.contains platform = true)
    (hfound : candidate crypto branchId pin s = some (k, user)) (hmay : mayTry s.clock user = true)
    (haccepts : accepts crypto pin user = false) :
    guesses crypto branchId userId s pin platform = true := by
  simp only [mayTry, Bool.and_eq_true, Bool.not_eq_true'] at hmay
  simp only [guesses, ownPin, refusedByLock, hplatform, hfound, hmay, haccepts, Option.any_some,
    Bool.and_false, Bool.not_false, Bool.and_self]

/-- The attempt leaves the row and the count as they were. -/
theorem Limited.unchanged (h : Limited userId w) {e : HttpError}
    (hlogin : quickPinLogin crypto branchId pin platform drawn w.store = .error e w.store)
    (hguess : ¬guesses crypto branchId userId w.store pin platform = true) :
    Limited userId (w.next crypto branchId userId (.attempt pin platform drawn)) := by
  simp only [Watch.next, hlogin, final, returned, value?, Option.isSome_none, hguess,
    Bool.false_eq_true, if_false]
  exact h

/-- The attempt is counted against the user. -/
theorem Limited.counted (h : Limited userId w) {e : HttpError}
    (hlogin : quickPinLogin crypto branchId pin platform drawn w.store =
      .error e (w.store.setUser userId (countFailure w.store.clock user)))
    (hguess : guesses crypto branchId userId w.store pin platform = true)
    (hget : w.store.users.get? userId = some user) (hlock : user.pinLockedUntil = none) :
    Limited userId (w.next crypto branchId userId (.attempt pin platform drawn)) := by
  have hrow : (w.store.setUser userId (countFailure w.store.clock user)).users.get? userId =
      some (countFailure w.store.clock user user) := by
    rw [Store.setUser, Table.get?_update_self, hget]
    rfl
  have hleft := h.left user hget hlock
  have hnoted := h.noted user hget
  simp only [Watch.next, hlogin, final, returned, value?, Option.isSome_none, hguess,
    Bool.false_eq_true, if_false, if_true]
  refine ⟨hleft, fun row hrow' => ?_, fun row hrow' hnone => ?_⟩
  · cases hrow.symm.trans hrow'
    exact Nat.succ_le_succ hnoted
  · cases hrow.symm.trans hrow'
    simp only [countFailure, ite_eq_right_iff, reduceCtorEq, imp_false, Nat.not_le, hlock] at hnone
    exact Nat.lt_of_le_of_lt (Nat.succ_le_succ hnoted) hnone

theorem Limited.attempt (h : Limited userId w)
    (hok : countsGuesses crypto branchId userId w (.attempt pin platform drawn)) :
    Limited userId (w.next crypto branchId userId (.attempt pin platform drawn)) := by
  generalize hlogin : quickPinLogin crypto branchId pin platform drawn w.store = result
  cases hlogin ▸ login_effect crypto branchId pin platform drawn w.store with
  | refused e hrefused =>
    refine h.unchanged hlogin fun hguess => ?_
    obtain ⟨hplatform, k, user, hfound, hmay, hcase⟩ := guess_cases hok hguess
    have hhash := hrefused k user hplatform hfound hmay
    rcases hcase with ⟨haccepts, _⟩ | ⟨_, hsome, _⟩
    · rw [accepts, hhash] at haccepts
      cases haccepts
    · rw [hhash] at hsome
      cases hsome
  | @counted k user hplatform hfound hmay haccepts =>
    have hguess : guesses crypto branchId userId w.store pin platform = true :=
      guesses_mismatch hplatform hfound hmay haccepts
    obtain ⟨-, j, other, hsame, -, hcase⟩ := guess_cases hok hguess
    cases hfound.symm.trans hsame
    rcases hcase with ⟨hyes, _⟩ | ⟨rfl, _, _, hlock⟩
    · rw [haccepts] at hyes
      cases hyes
    · exact h.counted hlogin hguess (candidate_get hfound) hlock
  | @accepted k user hplatform hfound hmay haccepts =>
    cases henter : enter branchId pin platform drawn k user w.store with
    | ok tokens t =>
      rw [henter] at hlogin
      simp only [Watch.next, hlogin, final, returned, value?, Option.isSome_some, if_true]
      exact ⟨Nat.zero_le _, fun _ _ => Nat.zero_le _, fun _ _ _ => Nat.zero_lt_succ 4⟩
    | error e t =>
      rw [henter, enter_error henter] at hlogin
      refine h.unchanged hlogin fun hguess => ?_
      obtain ⟨-, j, other, hsame, -, hcase⟩ := guess_cases hok hguess
      cases hfound.symm.trans hsame
      rcases hcase with ⟨_, hadmitted⟩ | ⟨_, _, hno, _⟩
      · obtain ⟨tokens, t', hreturns⟩ :
            ∃ tokens t', enter branchId pin platform drawn k user w.store = .ok tokens t' :=
          enter_returns hadmitted
        cases henter.symm.trans hreturns
      · rw [haccepts] at hno
        cases hno

theorem Limited.wait (h : Limited userId w) (ms : Nat) :
    Limited userId (w.next crypto branchId userId (.wait ms)) :=
  ⟨h.bounded, h.noted, h.left⟩

/-- While each guess is another user's login or counted against the user, no more wrong
PINs are tried between two logins than the limit allows. -/
theorem run_misses (hrun : Run (Watch.next crypto branchId userId)
      (countsGuesses crypto branchId userId) { store := s } events w) :
    w.misses ≤ quickPinMaxFailedAttempts := by
  have hlimited : Limited userId w := by
    refine hrun.invariant ⟨Nat.zero_le _, fun _ _ => Nat.zero_le _, fun _ _ _ => Nat.zero_lt_succ 4⟩
      fun w e h hok => ?_
    cases e with
    | attempt pin platform drawn => exact h.attempt hok
    | wait ms => exact h.wait ms
  exact hlimited.bounded

-- ---
-- PINs that lead nowhere
-- ---

/-- Hashes that do not hide what they hash. -/
def plainCrypto : Crypto where
  lookup _ pin := pin
  compare := (· == ·)
  hash _ pin := pin

def waiter : User where
  quickPinEnabled := true
  quickPinHash := some "123456"
  pinLookupHash := some "123456"
  pinLength := some 6
  pinTier := some .low6
  userRoles := [some .waiter]

def pos (user : User) : Store where
  users := .insert .empty user
  memberships := .insert .empty { userId := 0, branchId := 0, organizationId := 0 }
  branches := .insert .empty { organizationId := 0 }

def attempt (pin : String) : LoginEvent := .attempt pin .posDesktop {}

/-- Six wrong PINs, and then the right one is accepted. -/
theorem misses_unlimited :
    let guessed := ([attempt "000000", attempt "111111", attempt "222222", attempt "333333",
      attempt "444444", attempt "555555"]).foldl (Watch.next plainCrypto 0 0)
        { store := pos waiter }
    guessed.misses = 6 ∧
      returned (quickPinLogin plainCrypto 0 "123456" .posDesktop {} guessed.store) = true := by
  decide

/-- A row whose two hashes are of different PINs, as in a collision of the lookup hash. -/
def collided : Store := pos { waiter with pinLookupHash := some "000000" }

theorem run_misses_locked :
    ((List.replicate 7 (attempt "000000")).foldl (Watch.next plainCrypto 0 0)
      { store := collided }).misses ≤ quickPinMaxFailedAttempts :=
  run_misses (.of_holds (by decide))

end NimbusPos.QuickPinService
