import NimbusPos.ControlPlane.TrainingSessions

/-!
# One training session at a time

An actor trains in one session that has not expired, and one that has ended stays as it ended. A
start counts the sessions that are still marked active, whether or not they have expired, and what
a call has read may have changed by the time it writes. A guarded write that finds its session runs
its simulator alone.
-/

namespace NimbusPos.TrainingSessionService

open Lib Lib.Program

-- ---
-- The rules
-- ---

/-- The session is active and has not expired. -/
def TrainingSession.running (now : Time) (session : TrainingSession) : Bool :=
  session.status == .active && decide (now ≤ session.expiresAt)

/-- Whose running session it is. -/
def TrainingSession.runningOf (now : Time) (session : TrainingSession) : Option Id :=
  if session.running now then some session.actorUserId else none

/-- "An ACTIVE, non-expired training session for the given actor": there is at most one. -/
def OneRunning (s : TrainingStore) : Prop := s.sessions.UniqueOn (TrainingSession.runningOf s.clock)

def TrainingSession.ended (session : TrainingSession) : Bool :=
  session.status == .completed || session.status == .expired

/-- A session that has ended is in the other state as it ended. -/
def EndedStay (s t : TrainingStore) : Prop :=
  ∀ id session, s.sessions.get? id = some session → session.ended = true →
    ∃ later, t.sessions.get? id = some later ∧ later.status = session.status

theorem endedStay_refl (s : TrainingStore) : EndedStay s s :=
  fun _ session hget _ => ⟨session, hget, rfl⟩

theorem EndedStay.trans (h : EndedStay s t) (h' : EndedStay t u) : EndedStay s u := by
  intro id session hget hended
  obtain ⟨later, hlater, hstatus⟩ := h id session hget hended
  have hended' : later.ended = true := by
    rwa [TrainingSession.ended, hstatus]
  obtain ⟨last, hlast, hsame⟩ := h' id later hlater hended'
  exact ⟨last, hlast, hsame.trans hstatus⟩

-- ---
-- Statements
-- ---

namespace TrainingStore

variable {s : TrainingStore} {id : Id}

def hasTraining (s : TrainingStore) (actorUserId : Id) : Bool :=
  (s.sessions.findFirst fun _ session =>
    session.actorUserId == actorUserId && session.running s.clock).isSome

def hasStatus (s : TrainingStore) (id : Id) (status : TrainingSessionStatus) : Bool :=
  (s.sessions.get? id).any (·.status == status)

/-- A session is started where the actor has no running one, and one that has ended gets no other
status. -/
def fitsWrite (s : TrainingStore) : Statement → Prop
  | .createSession row => row.running s.clock = true → s.hasTraining row.actorUserId = false
  | .complete id _ _ => s.hasStatus id .expired = false
  | .expire id _ => s.hasStatus id .completed = false
  | _ => True

/-- The sessions that are counted against a start include a running one. -/
def fitsCount (s : TrainingStore) : Statement → Prop
  | .countActive actorUserId =>
    (s.sessions.count fun _ session =>
      session.actorUserId == actorUserId && session.status == .active) = 0 ∨
      s.hasTraining actorUserId = true
  | _ => True

def fits (s : TrainingStore) (k : Statement) : Prop := s.fitsWrite k ∧ s.fitsCount k

instance (s : TrainingStore) : (k : Statement) → Decidable (s.fitsWrite k)
  | .createSession _ => inferInstanceAs (Decidable (_ → _))
  | .complete .. | .expire .. => inferInstanceAs (Decidable (_ = false))
  | .now | .countActive _ | .findSession .. | .findActive .. | .findWindows .. | .findKey _
  | .createKey _ | .completeKey .. | .handler .. | .log => .isTrue trivial

instance (s : TrainingStore) : (k : Statement) → Decidable (s.fitsCount k)
  | .countActive _ => inferInstanceAs (Decidable (_ ∨ _))
  | .createSession _ | .complete .. | .expire .. | .now | .findSession .. | .findActive ..
  | .findWindows .. | .findKey _ | .createKey _ | .completeKey .. | .handler .. | .log =>
    .isTrue trivial

instance (s : TrainingStore) (k : Statement) : Decidable (s.fits k) :=
  inferInstanceAs (Decidable (_ ∧ _))

theorem hasTraining_iff {actorUserId : Id} : s.hasTraining actorUserId = true ↔
    ∃ id session, s.sessions.get? id = some session ∧
      session.runningOf s.clock = some actorUserId := by
  rw [hasTraining, Option.isSome_iff_ne_none, ne_eq, Table.findFirst_none]
  simp [TrainingSession.runningOf, and_comm]

theorem hasStatus_iff : s.hasStatus id status = true ↔
    ∃ session, s.sessions.get? id = some session ∧ session.status = status := by
  simp [hasStatus, Option.any_eq_true]

theorem insert_kept (h : OneRunning s) (row : TrainingSession) :
    (OneRunning (s.insert row) ∧ EndedStay s (s.insert row)) ↔
      s.fitsWrite (.createSession row) := by
  have hstay : EndedStay s (s.insert row) :=
    fun id session hget _ => ⟨session, Table.get?_insert_of_some hget, rfl⟩
  have hkey : { row with startedAt := s.clock }.runningOf s.clock =
      if row.running s.clock = true then some row.actorUserId else none := rfl
  rw [and_iff_left hstay]
  refine (Table.UniqueOn.insert_if_iff h hkey).trans ?_
  simp only [fitsWrite, Bool.eq_false_iff, ne_eq, hasTraining_iff, not_exists, not_and]

/-- A session that is ended is no second running one, and stays as it was if it had ended so. -/
theorem updateSession_kept (h : OneRunning s) (id : Id) (status : TrainingSessionStatus)
    {data : TrainingSession → TrainingSession} (hdata : ∀ session, (data session).status = status)
    (hactive : status ≠ .active) :
    (OneRunning (s.updateSession id data).1 ∧ EndedStay s (s.updateSession id data).1) ↔
      ∀ session, s.sessions.get? id = some session → session.ended = true →
        session.status = status := by
  unfold updateSession
  cases hget : s.sessions.get? id with
  | none => exact iff_of_true ⟨h, endedStay_refl s⟩ fun _ hsome => by cases hsome
  | some session =>
    have hidle (row : TrainingSession) : (data row).runningOf s.clock = none := by
      simp [TrainingSession.runningOf, TrainingSession.running, hdata, hactive]
    have hone : OneRunning { s with sessions := s.sessions.update id data } :=
      h.update (fun row x hrow => by rw [hidle] at hrow; cases hrow) id
    simp only [and_iff_right hone, Option.some.injEq, forall_eq']
    constructor
    · intro hstay hended
      obtain ⟨later, hlater, hsame⟩ := hstay id session hget hended
      simp only [Table.get?_update_self, hget, Option.map_some, Option.some.injEq] at hlater
      rw [← hsame, ← hlater, hdata]
    · intro hstatus other row hrow hended
      by_cases hother : other = id
      · subst hother
        cases hget.symm.trans hrow
        exact ⟨data session, by simp [hget], by rw [hdata, hstatus hended]⟩
      · exact ⟨row, by simp [Table.get?_update, hother, hrow], rfl⟩

theorem exec_kept (h : OneRunning s) (k : Statement) :
    (OneRunning (s.exec k).1 ∧ EndedStay s (s.exec k).1) ↔ s.fitsWrite k := by
  have hended (session : TrainingSession) : session.ended = true ↔
      session.status = .completed ∨ session.status = .expired := by
    simp [TrainingSession.ended]
  cases k with
  | createSession row => exact insert_kept h row
  | complete id endedById endedAt =>
    refine (updateSession_kept h id .completed (fun _ => rfl) (by decide)).trans ?_
    simp only [fitsWrite, Bool.eq_false_iff, ne_eq, hasStatus_iff, not_exists, not_and]
    refine forall_congr' fun session => forall_congr' fun _ => ?_
    rw [hended]
    cases session.status <;> simp
  | expire id endedAt =>
    refine (updateSession_kept h id .expired (fun _ => rfl) (by decide)).trans ?_
    simp only [fitsWrite, Bool.eq_false_iff, ne_eq, hasStatus_iff, not_exists, not_and]
    refine forall_congr' fun session => forall_congr' fun _ => ?_
    rw [hended]
    cases session.status <;> simp
  | createKey ctx =>
    simp only [exec]
    split <;> exact iff_of_true ⟨h, endedStay_refl s⟩ trivial
  | _ => exact iff_of_true ⟨h, endedStay_refl s⟩ trivial

/-- Sessions only run out. -/
theorem wait_kept (h : OneRunning s) (ms : Nat) :
    OneRunning (s.wait ms) ∧ EndedStay s (s.wait ms) := by
  have hshort (session : TrainingSession) (actorUserId : Id)
      (hrunning : session.runningOf (s.clock + ms) = some actorUserId) :
      session.runningOf s.clock = some actorUserId := by
    simp only [TrainingSession.runningOf, TrainingSession.running, Option.ite_none_right_eq_some,
      Bool.and_eq_true, decide_eq_true_eq] at hrunning ⊢
    exact ⟨⟨hrunning.1.1, (Nat.le_add_right _ _).trans hrunning.1.2⟩, hrunning.2⟩
  exact ⟨fun j k a b x hj hk ha hb => h j k a b x hj hk (hshort a x ha) (hshort b x hb),
    endedStay_refl s⟩

end TrainingStore

open TrainingStore

-- ---
-- How a start is refused
-- ---

abbrev TrainingPool := Pool TrainingStore (TrainingProgram Response)

abbrev takeTrainingTurn : TrainingPool → Turn → TrainingPool :=
  Turn.take (fun _ => TrainingStore.exec) TrainingStore.wait

/-- The calls, none of which has started. -/
def training (s : TrainingStore) (calls : List TrainingCall) : TrainingPool where
  shared := s
  threads := calls.map (·.program)

def Statement.counts : Statement → Bool
  | .countActive _ => true
  | _ => false

/-- Calls that count no sessions, whatever the others do. -/
def uncounted : Discipline (fun _ => TrainingStore.exec) where
  inv _ := True
  rely _ := .preserves fun _ => True
  needs _ _ k := k.counts = false
  allowed _ _ := True
  keeps _ _ _ _ _ _ := ⟨trivial, fun _ _ _ => trivial⟩

theorem findActiveForActor_uncounted (orgId actorUserId : Id) (sessionId : Option Id) :
    Always uncounted 0 (findActiveForActor orgId actorUserId sessionId) := by
  cases sessionId with
  | none => exact always_pure none
  | some id =>
    refine always_bind (always_statement fun _ _ => rfl) fun found => ?_
    cases found with
    | none => exact always_pure none
    | some session =>
      refine always_bind (always_statement fun _ _ => rfl) fun now => ?_
      split
      · refine always_bind (always_statement fun _ _ => rfl) fun endedAt => ?_
        exact always_bind (always_statement fun _ _ => rfl) fun _ => always_pure none
      · exact always_pure _

theorem endSession_uncounted (actorUserId orgId id : Id) :
    Always uncounted 0 (endSession actorUserId orgId id) := by
  refine always_bind (always_statement fun _ _ => rfl) fun found => ?_
  refine always_bind (always_needs _ _) fun session => ?_
  refine always_bind (always_checks _ _) fun _ => ?_
  refine always_bind (always_statement fun _ _ => rfl) fun now => ?_
  refine always_bind (always_statement fun _ _ => rfl) fun updated => ?_
  exact always_bind (always_statement fun _ _ => rfl) fun _ => always_pure updated

theorem wrap_uncounted (ctx : IdempotencyService.IdempotencyContext String) (scope : String)
    (result : Except ServiceError String) : Always uncounted 0 (wrap ctx scope result) := by
  refine always_bind ?_ fun hit => ?_
  · refine always_bind (always_statement fun _ _ => rfl) fun found => ?_
    cases found with
    | some existing => exact always_pure _
    | none => exact always_bind (always_statement fun _ _ => rfl) fun _ => always_pure _
  · cases hit with
    | first recordId =>
      refine always_handle ?_ fun e => ?_
      · refine always_bind (always_statement fun _ _ => rfl) fun body => ?_
        exact always_bind (always_statement fun _ _ => rfl) fun _ => always_pure body
      · exact always_bind (always_statement fun _ _ => rfl) fun _ => always_throw e
    | replay recordId statusCode body => exact always_pure _
    | conflict recordId conflictReason => exact always_throw _
    | inFlight recordId => exact always_throw _

theorem requireValidKey_uncounted (key : String) :
    Always uncounted 0 (requireValidKey key) := by
  unfold requireValidKey
  -- the lengths are not to be computed
  generalize (key != "") = present, keyFits (Text.trim key) = fits
  exact always_ensure fun _ => always_ensure fun _ => always_pure _

theorem idempotent_uncounted (opts : GuardOptions) (result : Except ServiceError String) :
    Always uncounted 0 (idempotent opts result) := by
  unfold idempotent
  cases opts.idempotencyKey.filter (· != "") with
  | none => exact always_ensure fun _ => always_statement fun _ _ => rfl
  | some rawKey =>
    refine always_bind (requireValidKey_uncounted rawKey) fun key => ?_
    exact always_handle (wrap_uncounted _ _ result) fun e => always_throw _

theorem checkMaintenance_uncounted (opts : GuardOptions) :
    Always uncounted 0 (checkMaintenance opts) := by
  unfold checkMaintenance
  split
  · refine always_bind (always_statement fun _ _ => rfl) fun now => ?_
    refine always_bind (always_statement fun _ _ => rfl) fun wins => ?_
    split
    · exact always_pure ()
    · exact always_throw _
  · exact always_pure ()

theorem guardWrite_uncounted (opts : GuardOptions) (result : Except ServiceError String) :
    Always uncounted 0 (guardWrite opts result) := by
  refine always_bind (checkMaintenance_uncounted opts) fun _ => always_bind ?_ fun session => ?_
  · unfold trainingOf
    split
    · exact findActiveForActor_uncounted _ _ _
    · exact always_pure none
  · have hreal := always_bind (idempotent_uncounted opts result) fun body =>
      always_pure (D := uncounted) (i := 0) (Response.handled body)
    cases session with
    | none => exact hreal
    | some found =>
      cases opts.trainingSimulator with
      | none => exact hreal
      | some simulator =>
        cases simulator with
        | error e => exact always_throw e
        | ok body => exact always_bind (always_statement fun _ _ => rfl) fun _ => always_pure _

/-- A start that has not counted, one that is refused, and a call that counts no more and is not
refused as a start is. -/
def Follows (call : TrainingCall) (x : TrainingProgram Response) : Prop :=
  (∃ actorUserId orgId dto, call = .start actorUserId orgId dto ∧
    (x = call.program ∨ x = .done (.error alreadyTraining))) ∨
  x.Safe uncounted 0 (fun result _ => (∃ actorUserId orgId dto,
    call = .start actorUserId orgId dto) → result ≠ .error alreadyTraining) {}

/-- Where its count finds none, a start goes on and is not refused. -/
theorem start_uncounted (actorUserId orgId : Id) (dto : StartTrainingSessionDto)
    (s : TrainingStore) :
    ∃ next, (TrainingCall.start actorUserId orgId dto).program =
        .send (.countActive actorUserId) next ∧
      (∀ n, 0 < n → next (.ok n) = .done (.error alreadyTraining)) ∧
      (next (.ok 0)).Safe uncounted 0 (fun result _ => result ≠ .error alreadyTraining) s := by
  refine ⟨_, rfl, fun n hn => ?_, ?_⟩
  · cases n with
    | zero => exact absurd hn (Nat.lt_irrefl 0)
    | succ n => rfl
  · refine fun _ _ _ => ⟨rfl, fun _ => ?_⟩
    refine fun _ _ _ => ⟨rfl, fun _ => ?_⟩
    refine fun _ _ _ => ⟨rfl, fun _ => ?_⟩
    rintro ⟨⟩

theorem follows_program (call : TrainingCall) : Follows call call.program := by
  have hother (hcall : ¬∃ actorUserId orgId dto, call = .start actorUserId orgId dto)
      (hsafe : Always uncounted 0 call.program) : Follows call call.program :=
    .inr ((hsafe {}).mono fun _ _ _ hstart => absurd hstart hcall)
  cases call with
  | start actorUserId orgId dto => exact .inl ⟨_, _, _, rfl, .inl rfl⟩
  | endSession actorUserId orgId id =>
    refine hother (by rintro ⟨_, _, _, ⟨⟩⟩) ?_
    exact always_bind (endSession_uncounted actorUserId orgId id) fun _ => always_pure _
  | findActiveForActor orgId actorUserId sessionId =>
    refine hother (by rintro ⟨_, _, _, ⟨⟩⟩) ?_
    exact always_bind (findActiveForActor_uncounted orgId actorUserId sessionId) fun _ =>
      always_pure _
  | guardWrite opts result =>
    exact hother (by rintro ⟨_, _, _, ⟨⟩⟩) (guardWrite_uncounted opts result)

/-- In any state will do. -/
theorem safe_anywhere {call : TrainingCall} {x : TrainingProgram Response} {s : TrainingStore}
    (h : x.Safe uncounted 0 (fun result _ => (∃ actorUserId orgId dto,
      call = .start actorUserId orgId dto) → result ≠ .error alreadyTraining) s)
    (t : TrainingStore) :
    x.Safe uncounted 0 (fun result _ => (∃ actorUserId orgId dto,
      call = .start actorUserId orgId dto) → result ≠ .error alreadyTraining) t :=
  h.rely (fun _ _ _ hpost _ => hpost) fun _ => trivial

theorem Follows.next {call : TrainingCall} {k : Statement}
    {next : Except ServiceError k.Answer → TrainingProgram Response}
    (h : Follows call (.send k next)) (s : TrainingStore) : Follows call (next (s.exec k).2) := by
  rcases h with ⟨actorUserId, orgId, dto, rfl, hx | hx⟩ | hsafe
  · obtain ⟨next', hprogram, hrefused, hrest⟩ := start_uncounted actorUserId orgId dto {}
    cases hx.trans hprogram
    cases hcount : s.sessions.count fun _ session =>
      session.actorUserId == actorUserId && session.status == .active with
    | zero =>
      simp only [exec, hcount]
      exact .inr (hrest.mono fun _ _ hresult _ => hresult)
    | succ n =>
      simp only [exec, hcount]
      exact .inl ⟨_, _, _, rfl, .inr (hrefused _ (Nat.succ_pos n))⟩
  · cases hx
  · exact .inr (safe_anywhere ((safe_anywhere hsafe s s (fun h => h) trivial).2 trivial) {})

theorem follows {s : TrainingStore} {calls : List TrainingCall} {turns : List Turn} {i : Nat}
    {call : TrainingCall} {x : TrainingProgram Response} (hcall : calls[i]? = some call)
    (hx : (turns.foldl takeTrainingTurn (training s calls)).threads[i]? = some x) :
    Follows call x := by
  refine thread_along (J := Follows call) (fun y hy => ?_) (fun s _ _ h => h.next s) turns x hx
  simp only [training, List.getElem?_map, hcall, Option.map_some, Option.some.injEq] at hy
  exact hy ▸ follows_program call

/-- The call is a start that this turn refuses, and then its actor is in training. -/
def RefusesRightly (calls : List TrainingCall) (p : TrainingPool) (t : Turn) : Prop :=
  ∀ i actorUserId orgId dto x, t = .call i → calls[i]? = some (.start actorUserId orgId dto) →
    p.threads[i]? = some x → x.result? = none →
    (takeTrainingTurn p t).threads[i]? = some (.done (.error alreadyTraining)) →
    p.shared.hasTraining actorUserId = true

/-- A start is refused by its count. -/
theorem refusesRightly_iff {calls : List TrainingCall} {p : TrainingPool} (t : Turn)
    (hlength : p.threads.length = calls.length)
    (hfollows : ∀ (i : Nat) call x, calls[i]? = some call → p.threads[i]? = some x →
      Follows call x) :
    RefusesRightly calls p t ↔ t.asks fitsCount p := by
  constructor
  · intro h
    cases t with
    | wait ms => trivial
    | call i =>
      intro x hx
      cases x with
      | done result => trivial
      | send k next =>
        cases k with
        | countActive actorUserId =>
          obtain ⟨call, hcall⟩ : ∃ call, calls[i]? = some call := by
            have hlt := (List.getElem?_eq_some_iff.mp hx).1
            rw [hlength] at hlt
            exact ⟨_, List.getElem?_eq_getElem hlt⟩
          rcases hfollows i call _ hcall hx with ⟨actor, orgId, dto, rfl, hsame | hsame⟩ | hsafe
          · obtain ⟨next', hprogram, hrefused, -⟩ := start_uncounted actor orgId dto {}
            cases hsame.trans hprogram
            refine or_iff_not_imp_left.mpr fun hcount => ?_
            refine h i _ orgId dto _ rfl hcall hx rfl ?_
            refine (turn_self hx).2.trans (congrArg some ?_)
            exact hrefused _ (Nat.pos_of_ne_zero hcount)
          · cases hsame
          · cases (hsafe {} (fun h => h) trivial).1
        | _ => trivial
  · rintro hasks i actorUserId orgId dto x rfl hcall hx hlive hended
    replace hended := (turn_self hx).2.symm.trans hended
    cases x with
    | done result => cases hlive
    | send k next =>
      rcases hfollows i _ _ hcall hx with ⟨actor, orgId', dto', hstart, hsame | hsame⟩ | hsafe
      · obtain ⟨next', hprogram, -, hrest⟩ := start_uncounted actorUserId orgId dto p.shared
        cases hsame.trans hprogram
        refine (hasks _ hx).resolve_left fun hcount => ?_
        simp only [advance, exec, hcount, Option.some.injEq] at hended
        rw [hended] at hrest
        exact hrest rfl
      · cases hsame
      · have hnext := ((safe_anywhere hsafe p.shared) p.shared (fun h => h) trivial).2 trivial
        simp only [advance, Option.some.injEq] at hended
        rw [hended] at hnext
        exact absurd rfl (hnext ⟨_, _, _, rfl⟩)

-- ---
-- What a guarded write finds
-- ---

def Statement.handles : Statement → Bool
  | .handler .. => true
  | _ => false

/-- The look-up does not find the actor's session active, or the clock is past its expiry. -/
def Misses (orgId actorUserId id : Id) (s : TrainingStore) (k : Statement) : Prop :=
  (k = .findActive orgId actorUserId id ∧ s.activeOf orgId actorUserId id = none) ∨
    (k = .now ∧ ∃ session, s.sessions.get? id = some session ∧ session.expiresAt < s.clock)

def SameExpiry (session later : TrainingSession) : Prop := later.expiresAt = session.expiresAt

theorem SameExpiry.refl (session : TrainingSession) : SameExpiry session session := rfl

theorem SameExpiry.trans (a b c : TrainingSession) (h : SameExpiry a b) (h' : SameExpiry b c) :
    SameExpiry a c :=
  Eq.trans h' h

def expiriesStay : Service.Frame TrainingStore where
  rel s t := Table.Grows SameExpiry s.sessions t.sessions
  refl _ := .refl SameExpiry.refl _
  trans h h' := .trans SameExpiry.trans h h'

theorem updateSession_expiries {data : TrainingSession → TrainingSession}
    (hdata : ∀ session, SameExpiry session (data session)) (s : TrainingStore) (id : Id) :
    expiriesStay.rel s (s.updateSession id data).1 := by
  unfold updateSession
  split
  · exact Table.Grows.update SameExpiry.refl hdata _ _
  · exact expiriesStay.refl s

theorem exec_expiries (s : TrainingStore) (k : Statement) : expiriesStay.rel s (s.exec k).1 := by
  cases k with
  | createSession row => exact Table.Grows.insert SameExpiry.refl _ _
  | complete id endedById endedAt =>
    refine updateSession_expiries ?_ s id
    exact fun _ => rfl
  | expire id endedAt =>
    refine updateSession_expiries ?_ s id
    exact fun _ => rfl
  | createKey ctx =>
    simp only [exec]
    split <;> exact expiriesStay.refl s
  | _ => exact expiriesStay.refl s

/-- A call that runs no handler as long as it finds the session. -/
def finding (orgId actorUserId id : Id) : Discipline (fun _ => TrainingStore.exec) where
  inv _ := True
  rely _ := expiriesStay
  needs _ _ k := k.handles = false
  allowed s k := ¬Misses orgId actorUserId id s k
  keeps _ s k _ _ _ := ⟨trivial, fun _ _ => exec_expiries s k⟩

section

variable {orgId actorUserId id : Id} {i : Nat} {s : TrainingStore}

theorem checkMaintenance_finding (opts : GuardOptions) :
    Always (finding orgId actorUserId id) i (checkMaintenance opts) := by
  unfold checkMaintenance
  split
  · refine always_bind (always_statement fun _ _ => rfl) fun now => ?_
    refine always_bind (always_statement fun _ _ => rfl) fun wins => ?_
    split
    · exact always_pure ()
    · exact always_throw _
  · exact always_pure ()

/-- What is found is not given up. -/
theorem findActiveForActor_finding (orgId actorUserId id : Id) (s : TrainingStore) :
    (findActiveForActor orgId actorUserId (some id)).Safe (finding orgId actorUserId id) i
      (fun result _ => ∀ found, result = .ok found → found.isSome = true) s := by
  refine safe_statement (fun _ _ _ => rfl) fun t _ _ hallowed => ?_
  simp only [exec, continued]
  cases hfound : t.activeOf orgId actorUserId id with
  | none => exact absurd (.inl ⟨rfl, hfound⟩) hallowed
  | some session =>
    refine safe_statement (fun _ _ _ => rfl) fun u htu _ hclock => ?_
    simp only [exec, continued]
    have hget := (Option.filter_eq_some_iff.mp hfound).1
    obtain ⟨later, hlater, hsame⟩ := htu.forth id session hget
    rw [if_neg fun hexpired => hclock (.inr ⟨rfl, later, hlater, hsame ▸ hexpired⟩)]
    rintro found ⟨⟩
    rfl

/-- A guarded write with a simulator runs its handler only where it misses the session. -/
theorem guardWrite_finding {opts : GuardOptions} {result : Except ServiceError String}
    (hsimulator : opts.trainingSimulator.isSome = true)
    (hactor : opts.actorUserId = some actorUserId)
    (horg : opts.orgId = some orgId) (hsession : opts.trainingSessionId = some id) :
    (guardWrite opts result).Safe (finding orgId actorUserId id) i (fun _ _ => True) s := by
  obtain ⟨simulator, hsim⟩ := Option.isSome_iff_exists.mp hsimulator
  refine safe_bind ((checkMaintenance_finding opts s).mono fun checked t _ => ?_)
  cases checked with
  | error e => trivial
  | ok _ =>
    have htraining : trainingOf opts = findActiveForActor orgId actorUserId (some id) := by
      simp only [trainingOf, hsim, hactor, horg, hsession]
    simp only [continued, htraining, hsim]
    refine safe_bind ((findActiveForActor_finding orgId actorUserId id t).mono
      fun found u hfound => ?_)
    cases found with
    | error e => trivial
    | ok found =>
      obtain ⟨session, rfl⟩ := Option.isSome_iff_exists.mp (hfound found rfl)
      have hsimulates : Always (finding orgId actorUserId id) i
          (simulate opts session.1 simulator) := by
        cases simulator with
        | error e => exact always_throw e
        | ok body => exact always_bind (always_statement fun _ _ => rfl) fun _ => always_pure _
      exact hsimulates u

end

-- ---
-- Histories
-- ---

/-- An actor has one running session at most, what has ended is as it ended, the last turn refuses a
start for a running session only, and a guarded write with a simulator is about to run its handler
only after it has missed the session of its header. -/
structure Trained (s : TrainingStore) (calls : List TrainingCall) (turns : List Turn) : Prop where
  single : OneRunning (turns.foldl takeTrainingTurn (training s calls)).shared
  ended : ∀ before later, turns = before ++ later →
    EndedStay (before.foldl takeTrainingTurn (training s calls)).shared
      (turns.foldl takeTrainingTurn (training s calls)).shared
  refused : ∀ before t, turns = before ++ [t] →
    RefusesRightly calls (before.foldl takeTrainingTurn (training s calls)) t
  simulated : ∀ (i : Nat) opts result orgId actorUserId id scope ran next,
    calls[i]? = some (.guardWrite opts result) → opts.trainingSimulator.isSome = true →
    opts.orgId = some orgId → opts.actorUserId = some actorUserId →
    opts.trainingSessionId = some id →
    (turns.foldl takeTrainingTurn (training s calls)).threads[i]? =
      some (.send (.handler scope ran) next) →
    ∃ before later k rest, turns = before ++ Turn.call i :: later ∧
      (before.foldl takeTrainingTurn (training s calls)).threads[i]? = some (.send k rest) ∧
      Misses orgId actorUserId id (before.foldl takeTrainingTurn (training s calls)).shared k

theorem handler_misses {s : TrainingStore} {calls : List TrainingCall} {turns : List Turn} {i : Nat}
    {opts : GuardOptions} {result ran : Except ServiceError String} {orgId actorUserId id : Id}
    {scope : String} {next : Except ServiceError String → TrainingProgram Response}
    (hcall : calls[i]? = some (.guardWrite opts result))
    (hsimulator : opts.trainingSimulator.isSome = true) (horg : opts.orgId = some orgId)
    (hactor : opts.actorUserId = some actorUserId) (hsession : opts.trainingSessionId = some id)
    (hx : (turns.foldl takeTrainingTurn (training s calls)).threads[i]? =
      some (.send (.handler scope ran) next)) :
    ∃ before later k rest, turns = before ++ Turn.call i :: later ∧
      (before.foldl takeTrainingTurn (training s calls)).threads[i]? = some (.send k rest) ∧
      Misses orgId actorUserId id (before.foldl takeTrainingTurn (training s calls)).shared k := by
  have hfirst (x) (h : (training s calls).threads[i]? = some x) :
      x.Safe (finding orgId actorUserId id) i (fun _ _ => True) (training s calls).shared := by
    simp only [training, List.getElem?_map, hcall, Option.map_some, Option.some.injEq] at h
    exact h ▸ guardWrite_finding hsimulator hactor horg hsession
  rcases Safe.along (fun _ _ _ _ _ => trivial) (fun _ => trivial) (fun _ => exec_expiries)
    (fun t _ => expiriesStay.refl t) hfirst turns _ hx with hsafe | ⟨before, later, k, rest, h⟩
  · cases (hsafe _ (expiriesStay.refl _) trivial).1
  · exact ⟨before, later, k, rest, h.1, h.2.1, not_not.mp h.2.2⟩

/-- The rules of training hold all along a history exactly if every statement fits: a session is
created where the actor has no running one, an ended one gets no other status, and a start counts
an active session only together with a running one. -/
theorem training_sessions {s : TrainingStore} (hstart : OneRunning s) (calls : List TrainingCall)
    (turns : List Turn) :
    (∀ before later, turns = before ++ later → Trained s calls before) ↔
      Run takeTrainingTurn (fun p t => t.asks TrainingStore.fits p) (training s calls) turns
        (turns.foldl takeTrainingTurn (training s calls)) := by
  have hempty : Trained s calls [] := by
    refine ⟨hstart, fun before later hturns => ?_, fun before t hturns => ?_, ?_⟩
    · obtain ⟨rfl, rfl⟩ := List.append_eq_nil_iff.mp hturns.symm
      exact endedStay_refl s
    · simp at hturns
    · intro i opts result orgId actorUserId id scope ran next
      exact handler_misses
  refine Run.history_iff hempty fun before t hbefore => ?_
  have hlength : (before.foldl takeTrainingTurn (training s calls)).threads.length =
      calls.length := by
    rw [Turn.foldl_length]
    exact List.length_map _
  have hrefuses := refusesRightly_iff t hlength fun i call x hcall hx => follows hcall hx
  have hwrites : (OneRunning (takeTrainingTurn
      (before.foldl takeTrainingTurn (training s calls)) t).shared ∧
      EndedStay (before.foldl takeTrainingTurn (training s calls)).shared (takeTrainingTurn
        (before.foldl takeTrainingTurn (training s calls)) t).shared) ↔
      t.asks fitsWrite (before.foldl takeTrainingTurn (training s calls)) :=
    Turn.take_iff (P := fun u => OneRunning u ∧ EndedStay _ u)
      ⟨hbefore.single, endedStay_refl _⟩ (fun _ k => exec_kept hbefore.single k)
      (fun ms => wait_kept hbefore.single ms) t
  have hfits : t.asks TrainingStore.fits (before.foldl takeTrainingTurn (training s calls)) ↔
      t.asks fitsWrite (before.foldl takeTrainingTurn (training s calls)) ∧
        t.asks fitsCount (before.foldl takeTrainingTurn (training s calls)) := Turn.asks_and _ t
  rw [hfits, ← hwrites, ← hrefuses]
  have hfold : (before ++ [t]).foldl takeTrainingTurn (training s calls) =
      takeTrainingTurn (before.foldl takeTrainingTurn (training s calls)) t := by
    rw [List.foldl_append, List.foldl_cons, List.foldl_nil]
  constructor
  · intro h
    have hone := h.single
    have hstay := h.ended before [t] rfl
    rw [hfold] at hone hstay
    exact ⟨⟨hone, hstay⟩, h.refused before t rfl⟩
  · rintro ⟨⟨hone, hstay⟩, hrefused⟩
    refine ⟨hfold ▸ hone, fun first later hturns => ?_, fun first last hturns => ?_, ?_⟩
    · rw [hfold]
      rcases List.eq_nil_or_concat later with rfl | ⟨later, last, rfl⟩
      · rw [List.append_nil] at hturns
        rw [← hturns, hfold]
        exact endedStay_refl _
      · rw [List.concat_eq_append, ← List.append_assoc] at hturns
        obtain ⟨rfl, -⟩ := List.append_inj' hturns rfl
        exact (hbefore.ended first later rfl).trans hstay
    · obtain ⟨rfl, hlast⟩ := List.append_inj' hturns rfl
      cases hlast
      exact hrefused
    · intro i opts result orgId actorUserId id scope ran next
      exact handler_misses

def starts : TrainingCall := .start 7 0 { label := "Till basics" }

/-- A write of the same actor that names the first session. -/
def sells : TrainingCall :=
  .guardWrite
    { trainingSessionId := some 0, scope := "payments.intents.create", routeMethod := "POST"
      routePath := "/payments/intents", fingerprintSource := "", actorUserId := some 7
      orgId := some 0, trainingSimulator := some (.ok "paid") } (.ok "paid")

/-- The session is started, a write is simulated in it, and it is ended. -/
theorem training_sessions_sale :
    let calls := [starts, sells, .endSession 7 0 0]
    let turns := times 4 0 ++ times 3 1 ++ times 4 2
    let p := turns.foldl takeTrainingTurn (training { sessions := .empty } calls)
    p.shared.world = [] ∧ p.shared.hasStatus 0 .completed = true ∧
      Trained { sessions := .empty } calls turns := by
  intro calls turns p
  have hstart : OneRunning { sessions := .empty } := fun j k a b x hj => by cases hj
  have hrun : Run takeTrainingTurn (fun p t => t.asks TrainingStore.fits p)
      (training { sessions := .empty } calls) turns p := Run.of_holds (by decide +kernel)
  exact ⟨by decide +kernel, by decide +kernel,
    (training_sessions hstart calls turns).mpr hrun turns [] (List.append_nil _).symm⟩

/-- Two starts that overlap leave the actor two sessions, a start is refused for a session that has
expired, and a session that is looked up as it expires becomes EXPIRED after it was COMPLETED. -/
theorem training_broken :
    let twice := (times 2 0 ++ times 2 1 ++ times 2 0 ++ times 2 1).foldl takeTrainingTurn
      (training { sessions := .empty } [starts, starts])
    let expired := (times 4 0 ++ [Turn.wait 3660000]).foldl takeTrainingTurn
      (training { sessions := .empty } [starts, starts])
    let overlap := training { sessions := .empty } [starts, .findActiveForActor 0 7 (some 0),
      .endSession 7 0 0]
    let ended := (times 4 0 ++ [Turn.wait 3660000] ++ times 3 1 ++ times 4 2).foldl takeTrainingTurn
      overlap
    let rewritten := takeTrainingTurn ended (.call 1)
    ¬OneRunning twice.shared ∧ ¬RefusesRightly [starts, starts] expired (.call 1) ∧
      ¬EndedStay ended.shared rewritten.shared ∧
      ¬(∀ (s : TrainingStore) (calls : List TrainingCall) (turns : List Turn), OneRunning s →
        Trained s calls turns) := by
  intro twice expired overlap ended rewritten
  have hempty : OneRunning { sessions := .empty } := fun j k a b x hj => by cases hj
  let session : TrainingSession :=
    { orgId := 0, actorUserId := 7, label := "Till basics", expiresAt := 3600000 }
  have htwice : ¬OneRunning twice.shared := by
    intro h
    have hsame := h 0 1 session session 7 (by decide +kernel) (by decide +kernel)
      (by decide +kernel) (by decide +kernel)
    cases hsame
  refine ⟨htwice, fun h => ?_, fun h => ?_, fun h => htwice (h _ _ _ hempty).single⟩
  · have hrefused : (takeTrainingTurn expired (.call 1)).threads[1]?.bind (·.result?) =
        some (.error alreadyTraining) := by decide +kernel
    obtain ⟨x, hx, hresult⟩ := Option.bind_eq_some_iff.mp hrefused
    obtain rfl := eq_done hresult
    have hlive : expired.threads[1]?.map (·.result?) = some none := by decide +kernel
    obtain ⟨y, hy, hcounts⟩ := Option.map_eq_some_iff.mp hlive
    have htraining := h 1 7 0 { label := "Till basics" } y rfl rfl hy hcounts hx
    have hidle : expired.shared.hasTraining 7 = false := by decide +kernel
    cases hidle.symm.trans htraining
  · have hcompleted : ended.shared.hasStatus 0 .completed = true := by decide +kernel
    obtain ⟨row, hget, hstatus⟩ := TrainingStore.hasStatus_iff.mp hcompleted
    have hended : row.ended = true := by simp [TrainingSession.ended, hstatus]
    obtain ⟨later, hlater, hsame⟩ := h 0 row hget hended
    have hkept := TrainingStore.hasStatus_iff.mpr ⟨later, hlater, hsame.trans hstatus⟩
    have hrewritten : rewritten.shared.hasStatus 0 .completed = false := by decide +kernel
    cases hrewritten.symm.trans hkept

end NimbusPos.TrainingSessionService
