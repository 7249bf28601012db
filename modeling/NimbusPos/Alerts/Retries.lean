import NimbusPos.Common
import NimbusPos.Lib.Program

/-!
# Retries of a delivery

A retry reads the delivery, dispatches it once more if it has attempts left, and then writes
what came of it: the number of attempts is the one that was read, plus one.
-/

namespace NimbusPos.AlertsService

open Lib Lib.Program

inductive AlertDeliveryStatus
  | pending
  | sent
  | failed
  | retryScheduled
  | retryExhausted
  | nonRetryable
  | skipped
  deriving DecidableEq, Repr

structure AlertDelivery where
  orgId : Id
  channelId : Id
  status : AlertDeliveryStatus := .pending
  attemptCount : Nat := 0
  maxAttempts : Nat := 3
  payload : String
  lastError : Option String := none
  failureReason : Option String := none
  sentAt : Option Time := none
  nextRetryAt : Option Time := none
  deriving DecidableEq, Repr

structure Store where
  clock : Time := 0
  deliveries : Table AlertDelivery := .empty

inductive DispatchOutcome
  | ok (sentAt : Time)
  | failed (retryable : Bool) (failureReason error : String)
  deriving DecidableEq, Repr

namespace DispatchOutcome

def isOk : DispatchOutcome → Bool
  | .ok _ => true
  | .failed .. => false

def retryable : DispatchOutcome → Bool
  | .ok _ => false
  | .failed retryable _ _ => retryable

def error? : DispatchOutcome → Option String
  | .ok _ => none
  | .failed _ _ error => some error

def failureReason? : DispatchOutcome → Option String
  | .ok _ => none
  | .failed _ failureReason _ => some failureReason

def sentAt? : DispatchOutcome → Option Time
  | .ok sentAt => some sentAt
  | .failed .. => none

def status (outcome : DispatchOutcome) (newAttempt maxAttempts : Nat) : AlertDeliveryStatus :=
  if outcome.isOk then .sent
  else if outcome.retryable && newAttempt < maxAttempts then .retryScheduled
  else if outcome.retryable then .retryExhausted
  else .failed

end DispatchOutcome

/-- What is written after a dispatch of the delivery as it was read. -/
def recordOutcome (delivery : AlertDelivery) (outcome : DispatchOutcome) (now : Time)
    (row : AlertDelivery) : AlertDelivery :=
  let newAttempt := delivery.attemptCount + 1
  { row with
    attemptCount := newAttempt
    status := outcome.status newAttempt delivery.maxAttempts
    lastError := outcome.error?
    failureReason := outcome.failureReason?
    sentAt := outcome.sentAt? <|> delivery.sentAt
    nextRetryAt :=
      if outcome.retryable && newAttempt < delivery.maxAttempts then
        some (now + 5 * 60 * 1000 * newAttempt)
      else none }

def exhausted (row : AlertDelivery) : AlertDelivery := { row with status := .retryExhausted }

/-- The dispatcher never throws; `outcome` is what it will come to. -/
inductive Statement
  | find (orgId deliveryId : Id)
  | exhaust (deliveryId : Id)
  | dispatch (delivery : AlertDelivery) (outcome : DispatchOutcome)
  | record (deliveryId : Id) (delivery : AlertDelivery) (outcome : DispatchOutcome)
  deriving DecidableEq, Repr

abbrev Statement.Answer : Statement → Type
  | .find .. => Option AlertDelivery
  | .dispatch .. => DispatchOutcome
  | .exhaust _ | .record .. => AlertDelivery

def recordMissing : HttpError :=
  { kind := .internalServerError, message := "Record to update not found." }

/-- `alertDelivery.update`, which answers the row as it is then. -/
def Store.updateDelivery (s : Store) (deliveryId : Id) (data : AlertDelivery → AlertDelivery) :
    Store × Except HttpError AlertDelivery :=
  match s.deliveries.get? deliveryId with
  | none => (s, .error recordMissing)
  | some row => ({ s with deliveries := s.deliveries.update deliveryId data }, .ok (data row))

def exec (s : Store) : (k : Statement) → Store × Except HttpError k.Answer
  | .find orgId deliveryId => (s, .ok ((s.deliveries.get? deliveryId).filter (·.orgId == orgId)))
  | .exhaust deliveryId => s.updateDelivery deliveryId exhausted
  | .dispatch _ outcome => (s, .ok outcome)
  | .record deliveryId delivery outcome =>
    s.updateDelivery deliveryId (recordOutcome delivery outcome s.clock)

abbrev RetryProgram := Program Statement Statement.Answer HttpError

abbrev query (k : Statement) : RetryProgram k.Answer := statement k

def retryDelivery (orgId deliveryId : Id) (outcome : DispatchOutcome) :
    RetryProgram AlertDelivery := do
  let delivery ← need (← query (.find orgId deliveryId)) (notFound "Alert delivery not found")
  ensure (delivery.status != .sent) (conflict "Delivery already SENT")
  if delivery.maxAttempts ≤ delivery.attemptCount then query (.exhaust deliveryId)
  else
    let outcome ← query (.dispatch delivery outcome)
    query (.record deliveryId delivery outcome)

/-- A retry of the delivery, and what its dispatch will come to. -/
structure Retry where
  orgId : Id
  outcome : DispatchOutcome
  deriving DecidableEq, Repr

def Retry.program (deliveryId : Id) (retry : Retry) : RetryProgram AlertDelivery :=
  retryDelivery retry.orgId deliveryId retry.outcome

end NimbusPos.AlertsService

/-!
# A delivery's attempts

The attempts of a delivery are counted on its row, which a retry writes from what it had read
before it dispatched. As long as each dispatch finds the row with the attempts that were read,
and no other is still to be written, the row counts every dispatch, none is made beyond the
limit and none after one was sent.
-/

namespace NimbusPos.AlertsService

open Lib Lib.Service Lib.Program

-- ---
-- What was dispatched
-- ---

/-- The store, and what became of the delivery's dispatches. -/
structure World where
  store : Store
  dispatched : Nat
  /-- The calls whose dispatch is not written yet. -/
  unrecorded : List Nat := []
  /-- The delivery has been sent, whatever its row says now. -/
  sent : Bool := false
  afterSent : Nat := 0

namespace World

/-- A call has taken a statement that leaves the store `s`. -/
def note (w : World) (call : Nat) (s : Store) : Statement → World
  | .find .. | .exhaust _ => { w with store := s }
  | .dispatch .. =>
    { w with
      store := s
      dispatched := w.dispatched + 1
      unrecorded := call :: w.unrecorded
      afterSent := w.afterSent + if w.sent then 1 else 0 }
  | .record _ _ outcome =>
    { w with
      store := s
      unrecorded := w.unrecorded.erase call
      sent := w.sent || outcome.isOk }

def exec (call : Nat) (w : World) (k : Statement) : World × Except HttpError k.Answer :=
  (w.note call (AlertsService.exec w.store k).1 k, (AlertsService.exec w.store k).2)

def wait (w : World) (ms : Nat) : World := { w with store.clock := w.store.clock + ms }

def attempts (w : World) (deliveryId : Id) : Nat :=
  ((w.store.deliveries.get? deliveryId).map (·.attemptCount)).getD 0

end World

structure InBudget (deliveryId : Id) (maxAttempts : Nat) (w : World) : Prop where
  counted : w.attempts deliveryId + w.unrecorded.length = w.dispatched
  within : w.dispatched ≤ maxAttempts
  unsent : w.afterSent = 0

/-- A dispatch finds the row as it was read, and no other dispatch is still to be written. -/
def stillGood (deliveryId : Id) (w : World) : Statement → Prop
  | .dispatch delivery _ =>
    w.unrecorded = [] ∧ (w.store.deliveries.get? deliveryId).any fun row =>
      row.attemptCount == delivery.attemptCount && row.status != .sent
  | _ => True

instance (deliveryId : Id) (w : World) : (k : Statement) → Decidable (stillGood deliveryId w k)
  | .dispatch .. => inferInstanceAs (Decidable (_ ∧ _))
  | .find .. | .exhaust _ | .record .. => .isTrue trivial

-- ---
-- One statement
-- ---

/-- A delivery that was sent says so, until its attempts are used up. -/
structure Sound (deliveryId : Id) (maxAttempts calls : Nat) (w : World) : Prop
    extends InBudget deliveryId maxAttempts w where
  stored : ∃ row, w.store.deliveries.get? deliveryId = some row ∧ row.maxAttempts = maxAttempts ∧
    (w.sent = true → row.status = .sent ∨ maxAttempts ≤ row.attemptCount)
  single : w.unrecorded.length ≤ 1
  settled : w.sent = true → w.unrecorded = []
  ofCalls : ∀ i ∈ w.unrecorded, i < calls

/-- What a call has read and done before a statement. -/
def needs (deliveryId : Id) (maxAttempts calls i : Nat) (w : World) : Statement → Prop
  | .find _ id => id = deliveryId
  | .exhaust id => id = deliveryId ∧ maxAttempts ≤ w.attempts deliveryId
  | .dispatch delivery _ => i < calls ∧ delivery.attemptCount < maxAttempts
  | .record id delivery _ =>
    id = deliveryId ∧ i ∈ w.unrecorded ∧ w.attempts deliveryId = delivery.attemptCount

/-- No other call writes a call's dispatch, or the row while it is to be written; and no call
takes attempts back. -/
def frame (deliveryId : Id) (i : Nat) : Frame World where
  rel w w' := (i ∈ w'.unrecorded ↔ i ∈ w.unrecorded) ∧
    (i ∈ w.unrecorded → w'.attempts deliveryId = w.attempts deliveryId) ∧
    w.attempts deliveryId ≤ w'.attempts deliveryId
  refl _ := ⟨Iff.rfl, fun _ => rfl, Nat.le_refl _⟩
  trans h h' := ⟨h'.1.trans h.1, fun hmem => (h'.2.1 (h.1.mpr hmem)).trans (h.2.1 hmem),
    h.2.2.trans h'.2.2⟩

variable {w w' : World} {deliveryId : Id} {maxAttempts calls i j : Nat} {delivery : AlertDelivery}
  {outcome : DispatchOutcome}

theorem attempts_eq (hget : w.store.deliveries.get? deliveryId = some row) :
    w.attempts deliveryId = row.attemptCount := by
  simp [World.attempts, hget]

/-- The row after one was written over it. -/
theorem updateDelivery_get {s : Store} {data : AlertDelivery → AlertDelivery}
    (hget : s.deliveries.get? deliveryId = some row) :
    (s.updateDelivery deliveryId data).1.deliveries.get? deliveryId = some (data row) := by
  simp [Store.updateDelivery, hget]

theorem frame_of_attempts (hattempts : w'.attempts deliveryId = w.attempts deliveryId)
    (hmem : i ∈ w'.unrecorded ↔ i ∈ w.unrecorded) : (frame deliveryId i).rel w w' :=
  ⟨hmem, fun _ => hattempts, le_of_eq hattempts.symm⟩

theorem Sound.exhaust (h : Sound deliveryId maxAttempts calls w)
    (hused : maxAttempts ≤ w.attempts deliveryId) :
    Sound deliveryId maxAttempts calls (w.exec i (.exhaust deliveryId)).1 ∧
      (w.exec i (.exhaust deliveryId)).1.attempts deliveryId = w.attempts deliveryId := by
  obtain ⟨row, hget, hmax, hsent⟩ := h.stored
  have hget' : (w.exec i (.exhaust deliveryId)).1.store.deliveries.get? deliveryId =
      some (exhausted row) := updateDelivery_get hget
  have hattempts : (w.exec i (.exhaust deliveryId)).1.attempts deliveryId =
      w.attempts deliveryId := (attempts_eq hget').trans (attempts_eq hget).symm
  refine ⟨⟨⟨?_, h.within, h.unsent⟩, ⟨exhausted row, hget', hmax, fun _ => .inr ?_⟩, h.single,
    h.settled, h.ofCalls⟩, hattempts⟩
  · rw [hattempts]
    exact h.counted
  · rwa [attempts_eq hget] at hused

theorem attempts_of_good (outcome : DispatchOutcome) (h : Sound deliveryId maxAttempts calls w)
    (hgood : stillGood deliveryId w (.dispatch delivery outcome)) :
    w.attempts deliveryId = delivery.attemptCount := by
  obtain ⟨row, hget, -⟩ := h.stored
  have hrow := hgood.2
  simp only [hget, Option.any_some, Bool.and_eq_true, beq_iff_eq] at hrow
  exact (attempts_eq hget).trans hrow.1

theorem Sound.dispatch (h : Sound deliveryId maxAttempts calls w) (hcall : i < calls)
    (hleft : delivery.attemptCount < maxAttempts)
    (hgood : stillGood deliveryId w (.dispatch delivery outcome)) :
    Sound deliveryId maxAttempts calls (w.exec i (.dispatch delivery outcome)).1 := by
  obtain ⟨hnone, hrow⟩ := hgood
  obtain ⟨row, hget, hmax, hsent⟩ := h.stored
  simp only [hget, Option.any_some, Bool.and_eq_true, beq_iff_eq, bne_iff_ne] at hrow
  obtain ⟨hread, hunsent⟩ := hrow
  have hcounted := h.counted
  rw [hnone, List.length_nil, Nat.add_zero, attempts_eq hget, hread] at hcounted
  have hnotSent : w.sent = false := by
    by_contra hw
    rcases hsent (eq_true_of_ne_false hw) with hstatus | hused
    · exact hunsent hstatus
    · exact absurd (hread ▸ hleft) (not_lt.mpr hused)
  refine ⟨⟨?_, ?_, ?_⟩, ⟨row, hget, hmax, hsent⟩, ?_, ?_, ?_⟩
  · simp only [World.exec, World.note, hnone, List.length_singleton]
    rw [← hcounted, ← hread]
    exact congrArg (· + 1) (attempts_eq hget)
  · simp only [World.exec, World.note]
    omega
  · simp [World.exec, World.note, hnotSent, h.unsent]
  · simp [World.exec, World.note, hnone]
  · simp [World.exec, World.note, hnotSent]
  · simpa [World.exec, World.note, hnone] using hcall

theorem unrecorded_eq (h : Sound deliveryId maxAttempts calls w) (hmem : i ∈ w.unrecorded) :
    w.unrecorded = [i] := by
  obtain ⟨j, hj⟩ := List.length_eq_one_iff.mp
    (Nat.le_antisymm h.single (List.length_pos_of_mem hmem))
  rw [hj, List.mem_singleton] at hmem
  rw [hj, hmem]

theorem Sound.record (h : Sound deliveryId maxAttempts calls w) (hmem : i ∈ w.unrecorded)
    (hread : w.attempts deliveryId = delivery.attemptCount) (outcome : DispatchOutcome) :
    Sound deliveryId maxAttempts calls (w.exec i (.record deliveryId delivery outcome)).1 ∧
      (w.exec i (.record deliveryId delivery outcome)).1.unrecorded = [] ∧
      (w.exec i (.record deliveryId delivery outcome)).1.attempts deliveryId =
        w.attempts deliveryId + 1 := by
  obtain ⟨row, hget, hmax, -⟩ := h.stored
  have hlist := unrecorded_eq h hmem
  have hget' : (w.exec i (.record deliveryId delivery outcome)).1.store.deliveries.get? deliveryId =
      some (recordOutcome delivery outcome w.store.clock row) := updateDelivery_get hget
  have hattempts : (w.exec i (.record deliveryId delivery outcome)).1.attempts deliveryId =
      w.attempts deliveryId + 1 := by
    rw [hread]
    exact attempts_eq hget'
  have hnone : (w.exec i (.record deliveryId delivery outcome)).1.unrecorded = [] := by
    simp [World.exec, World.note, hlist]
  have hnotSent : w.sent = false := by
    by_contra hw
    cases hlist.symm.trans (h.settled (eq_true_of_ne_false hw))
  have hcounted := h.counted
  rw [hlist, List.length_singleton] at hcounted
  refine ⟨⟨⟨?_, h.within, h.unsent⟩, ⟨_, hget', hmax, fun hsent => .inl ?_⟩, ?_, fun _ =>
    hnone, ?_⟩, hnone, hattempts⟩
  · rw [hattempts, hnone]
    exact hcounted
  · simp only [World.exec, World.note, hnotSent, Bool.false_or] at hsent
    simp [recordOutcome, DispatchOutcome.status, hsent]
  · simp [hnone]
  · simp [hnone]

theorem Sound.exec (h : Sound deliveryId maxAttempts calls w)
    (hneeds : needs deliveryId maxAttempts calls i w k) (hgood : stillGood deliveryId w k) :
    Sound deliveryId maxAttempts calls (w.exec i k).1 ∧
      ∀ j, j ≠ i → (frame deliveryId j).rel w (w.exec i k).1 := by
  cases k with
  | find orgId id => exact ⟨h, fun j _ => (frame deliveryId j).refl w⟩
  | exhaust id =>
    obtain ⟨rfl, hused⟩ := hneeds
    obtain ⟨hsound, hattempts⟩ := h.exhaust (i := i) hused
    exact ⟨hsound, fun j _ => frame_of_attempts hattempts Iff.rfl⟩
  | dispatch delivery outcome =>
    refine ⟨h.dispatch hneeds.1 hneeds.2 hgood, fun j hj => frame_of_attempts rfl ?_⟩
    simp [World.exec, World.note, hj]
  | record id delivery outcome =>
    obtain ⟨rfl, hmem, hread⟩ := hneeds
    obtain ⟨hsound, hnone, hattempts⟩ := h.record hmem hread outcome
    have hlist := unrecorded_eq h hmem
    refine ⟨hsound, fun j hj => ⟨?_, ?_, ?_⟩⟩
    · simp [hnone, hlist, hj]
    · intro hother
      rw [hlist, List.mem_singleton] at hother
      exact absurd hother hj
    · rw [hattempts]
      exact Nat.le_succ _

def retryDiscipline (deliveryId : Id) (maxAttempts calls : Nat) : Discipline World.exec where
  inv := Sound deliveryId maxAttempts calls
  rely := frame deliveryId
  needs i w k := needs deliveryId maxAttempts calls i w k
  allowed := stillGood deliveryId
  keeps _ _ _ h hneeds hgood := h.exec hneeds hgood

-- ---
-- The calls
-- ---

/-- A call that has ended has written its dispatch. -/
def settledBy (i : Nat) (_ : Except HttpError AlertDelivery) (w : World) : Prop :=
  i ∉ w.unrecorded

theorem retry_safe (retry : Retry) (hcall : i < calls) (hmem : i ∉ w.unrecorded) :
    (retry.program deliveryId).Safe (retryDiscipline deliveryId maxAttempts calls) i (settledBy i)
      w := by
  refine safe_read _ (fun _ => rfl) (fun _ _ _ => rfl) fun t ht hinv => ?_
  have hmem : i ∉ t.unrecorded := mt ht.1.mp hmem
  refine safe_need (fun delivery hfound => ?_) fun _ => hmem
  refine safe_ensure (fun _ => ?_) fun _ => hmem
  obtain ⟨row, hget, hmax, -⟩ := hinv.stored
  simp only [hget, Option.filter_some, Option.ite_none_right_eq_some, Option.some.injEq] at hfound
  obtain ⟨-, rfl⟩ := hfound
  have hread := attempts_eq hget
  split
  · rename_i hused
    rw [hmax, ← hread] at hused
    intro u hu _
    exact ⟨⟨rfl, hused.trans hu.2.2⟩, fun _ => mt hu.1.mp hmem⟩
  · rename_i hleft
    rw [hmax, not_le] at hleft
    refine safe_statement (fun _ _ _ => ⟨hcall, hleft⟩) fun u _ hinv hgood => ?_
    have hmine : i ∈ (u.exec i (.dispatch row retry.outcome)).1.unrecorded := .head _
    intro v hv hinv'
    have hmine' : i ∈ v.unrecorded := hv.1.mpr hmine
    have hkept : u.attempts deliveryId = row.attemptCount :=
      attempts_of_good retry.outcome hinv hgood
    have hread' : v.attempts deliveryId = row.attemptCount := (hv.2.1 hmine).trans hkept
    refine ⟨⟨rfl, hmine', hread'⟩, fun _ => ?_⟩
    have hnone := (hinv'.record hmine' hread' retry.outcome).2.1
    exact fun hmem => absurd (hnone ▸ hmem) List.not_mem_nil

-- ---
-- Every interleaving
-- ---

abbrev RetryPool := Pool World (RetryProgram AlertDelivery)

abbrev take : RetryPool → Turn → RetryPool := Turn.take World.exec World.wait

/-- A delivery whose attempts have all been dispatches, and none of the calls has started. -/
def requested (s : Store) (deliveryId : Id) (row : AlertDelivery) (retries : List Retry) :
    RetryPool where
  shared := { store := s, dispatched := row.attemptCount, sent := row.status == .sent }
  threads := retries.map (·.program deliveryId)

theorem requested_sound {s : Store} (hget : s.deliveries.get? deliveryId = some row)
    (hmax : row.attemptCount ≤ row.maxAttempts) (retries : List Retry) :
    Sound deliveryId row.maxAttempts retries.length
      (requested s deliveryId row retries).shared := by
  refine ⟨⟨attempts_eq hget, hmax, rfl⟩, ⟨row, hget, rfl, fun hsent => .inl ?_⟩, Nat.zero_le _,
    fun _ => rfl, fun _ hmem => absurd hmem List.not_mem_nil⟩
  exact beq_iff_eq.mp hsent

/-- Where each dispatch finds the row as it was read, and no other is still to be written, the
row counts the dispatches, of which there are no more than the limit and none after one was
sent; and when all calls have ended every dispatch is written. -/
theorem pool_retries {s : Store} {row : AlertDelivery} {deliveryId : Id}
    (hget : s.deliveries.get? deliveryId = some row) (hmax : row.attemptCount ≤ row.maxAttempts)
    {retries : List Retry} {turns : List Turn} {q : RetryPool}
    (hrun : Run take (fun p t => t.asks (stillGood deliveryId) p)
      (requested s deliveryId row retries) turns q) :
    InBudget deliveryId row.maxAttempts q.shared ∧
      ((∀ x ∈ q.threads, (x.result?).isSome) →
        q.shared.attempts deliveryId = q.shared.dispatched) := by
  have hsafe : SafePool (retryDiscipline deliveryId row.maxAttempts retries.length) settledBy
      (requested s deliveryId row retries) := by
    refine ⟨requested_sound hget hmax retries, fun i x hx => ?_⟩
    simp only [requested, List.getElem?_map, Option.map_eq_some_iff] at hx
    obtain ⟨retry, hretry, rfl⟩ := hx
    exact retry_safe retry (List.getElem?_eq_some_iff.mp hretry).1 List.not_mem_nil
  have hwait (w : World) (ms : Nat) (h : Sound deliveryId row.maxAttempts retries.length w) :
      Sound deliveryId row.maxAttempts retries.length (w.wait ms) ∧
        ∀ i, (frame deliveryId i).rel w (w.wait ms) :=
    ⟨⟨⟨h.counted, h.within, h.unsent⟩, h.stored, h.single, h.settled, h.ofCalls⟩,
      fun i => (frame deliveryId i).refl w⟩
  have hpost (i : Nat) (result : Except HttpError AlertDelivery) (w w' : World)
      (h : settledBy i result w) (hrely : (frame deliveryId i).rel w w') : settledBy i result w' :=
    mt hrely.1.mp h
  have hend := hsafe.run hpost hwait hrun
  refine ⟨hend.inv.toInBudget, fun hreturned => ?_⟩
  have hnone : q.shared.unrecorded = [] := by
    rw [List.eq_nil_iff_forall_not_mem]
    intro i hmem
    have hlength : q.threads.length = retries.length :=
      hrun.invariant (I := fun p => p.threads.length = retries.length) (by simp [requested])
        fun p t h _ => (Turn.take_length p t).trans h
    have hlt : i < q.threads.length := hlength ▸ hend.inv.ofCalls i hmem
    obtain ⟨result, hresult⟩ := Option.isSome_iff_exists.mp (hreturned _ (List.getElem_mem hlt))
    exact hend.ended (List.getElem?_eq_some_iff.mpr ⟨hlt, eq_done hresult⟩) hmem
  have hcounted := hend.inv.counted
  rwa [hnone, List.length_nil, Nat.add_zero] at hcounted

/-- A delivery of organisation 0 that failed once. -/
def failedOnce : AlertDelivery where
  orgId := 0
  channelId := 0
  status := .retryScheduled
  attemptCount := 1
  payload := "Low stock"

def failedStore : Store := { deliveries := Table.empty.insert failedOnce }

def timesOut : DispatchOutcome := .failed true "NETWORK" "connect ETIMEDOUT"

/-- Two retries, one after the other: the second is sent. -/
theorem pool_retries_sent :
    InBudget 0 3 ((times 3 0 ++ times 3 1).foldl take
      (requested failedStore 0 failedOnce [⟨0, timesOut⟩, ⟨0, .ok 5⟩])).shared := by
  have hget : failedStore.deliveries.get? 0 = some failedOnce := rfl
  exact (pool_retries hget (by decide) (Run.of_holds (by decide))).1

/-- Two retries at once both dispatch, and the row counts one. -/
theorem retries_uncounted :
    ¬ ∀ (deliveryId : Id) (s : Store) (row : AlertDelivery) (retries : List Retry)
        (turns : List Turn), s.deliveries.get? deliveryId = some row →
      row.attemptCount ≤ row.maxAttempts →
      (∀ x ∈ (turns.foldl take (requested s deliveryId row retries)).threads,
        (x.result?).isSome) →
      (turns.foldl take (requested s deliveryId row retries)).shared.attempts deliveryId =
        (turns.foldl take (requested s deliveryId row retries)).shared.dispatched := by
  intro h
  have hcounted := h 0 failedStore failedOnce [⟨0, timesOut⟩, ⟨0, timesOut⟩]
    [.call 0, .call 1, .call 0, .call 1, .call 0, .call 1] rfl (by decide) (by decide)
  exact absurd hcounted (by decide)

end NimbusPos.AlertsService
