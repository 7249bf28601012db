import NimbusPos.Payments.Closing

/-!
# Intents under an idempotency key

`createPaymentIntent` looks for an intent with its key and inserts in a later statement, and it
takes the intent that it finds whatever the request says. Calls that carry one key return one
intent, over what they ask for, in every interleaving in which no look-up misses an intent that is
there, in any branch, or about to be, and none finds an intent over something else.
-/

namespace NimbusPos.PaymentsService

open Lib Lib.Service

-- ---
-- A call, statement by statement
-- ---

structure IntentRequested where
  ctx : BranchContext
  dto : CreatePaymentIntentDto
  externalId : String
  requestToPay : RequestToPay := none
  deriving DecidableEq, Repr

/-- The statement a call takes next, and what it returned, if it did not throw. -/
inductive IntentCallStage
  | findOrder
  | findExisting
  | create
  | markFailed (intentId : Id)
  | done (intentId : Option Id)
  deriving DecidableEq, Repr

structure IntentCall where
  request : IntentRequested
  stage : IntentCallStage := .findOrder
  deriving DecidableEq, Repr

/-- The order can be paid. -/
def payableOrder (s : Store) (request : IntentRequested) : Bool :=
  (s.findOrder request.ctx request.dto.orderId).any fun order =>
    order.status != .voided && order.status != .closed && payableStates.contains order.status

/-- No statement runs for a key that is empty. -/
def existingIntent (s : Store) (request : IntentRequested) : Option (Id × PaymentIntent) :=
  s.paymentIntents.findFirst fun _ intent =>
    (truthy request.dto.idempotencyKey).isSome &&
      intent.idempotencyKey == request.dto.idempotencyKey && intent.branchId == request.ctx.branchId

def requestedIntentRow (request : IntentRequested) : PaymentIntent :=
  { orgId := request.ctx.organizationId, branchId := request.ctx.branchId
    orderId := request.dto.orderId, provider := request.dto.provider, amount := request.dto.amount
    status := .requiresAction, externalId := some request.externalId
    idempotencyKey := request.dto.idempotencyKey }

def IntentCall.advance (s : Store) (t : IntentCall) : Store × IntentCall :=
  match t.stage with
  | .findOrder =>
    (s, { t with stage := if payableOrder s t.request then .findExisting else .done none })
  | .findExisting =>
    let stage := match existingIntent s t.request with
      | some (intentId, _) => .done (some intentId)
      | none => .create
    (s, { t with stage })
  | .create =>
    if s.paymentIntents.count (fun _ intent => intent.externalId == some t.request.externalId) == 0
    then
      let intentId := s.paymentIntents.next
      let failed := t.request.dto.provider == .mtn && t.request.requestToPay == some false
      ({ s with paymentIntents := s.paymentIntents.insert (requestedIntentRow t.request) },
        { t with stage := if failed then .markFailed intentId else .done (some intentId) })
    else (s, { t with stage := .done none })
  | .markFailed intentId =>
    ({ s with
        paymentIntents := s.paymentIntents.update intentId fun intent =>
          { intent with status := .failed } },
      { t with stage := .done (some intentId) })
  | .done _ => (s, t)

namespace IntentCall

def ended (t : IntentCall) : Bool :=
  match t.stage with
  | .done _ => true
  | _ => false

/-- The intent that the call returned. -/
def result (t : IntentCall) : Option Id :=
  match t.stage with
  | .done intentId => intentId
  | _ => none

/-- The key, if the call carries one. -/
def key (t : IntentCall) : Option String := t.request.dto.idempotencyKey

end IntentCall

theorem completes_done (s : Store) (request : IntentRequested) (result : Option Id) :
    Completes IntentCall.advance (·.ended = true) s ⟨request, .done result⟩ s :=
  .of_ended rfl

theorem insertIntent_final (s : Store) (request : IntentRequested) :
    final (insertIntent request.ctx request.dto request.externalId request.requestToPay s) =
      if s.paymentIntents.count (fun _ intent => intent.externalId == some request.externalId) == 0
      then { s with
        paymentIntents := s.paymentIntents.insert
          { requestedIntentRow request with
            status := if request.dto.provider == .mtn && request.requestToPay == some false
              then .failed else .requiresAction } }
      else s := by
  rw [insertIntent, final_get, final_ensure]
  rfl

theorem completes_create (s : Store) (request : IntentRequested) :
    Completes IntentCall.advance (·.ended = true) s ⟨request, .create⟩
      (final (insertIntent request.ctx request.dto request.externalId request.requestToPay s)) := by
  rw [insertIntent_final]
  cases hfree : s.paymentIntents.count (fun _ intent =>
      intent.externalId == some request.externalId) == 0 with
  | false =>
    refine .step ?_ (completes_done _ request none)
    simp [IntentCall.advance, hfree]
  | true =>
    cases hfailed : request.dto.provider == .mtn && request.requestToPay == some false with
    | false =>
      refine .step ?_ (completes_done _ request (some s.paymentIntents.next))
      simp [IntentCall.advance, hfree, hfailed, requestedIntentRow]
    | true =>
      have hinsert : IntentCall.advance s ⟨request, .create⟩ =
          ({ s with paymentIntents := s.paymentIntents.insert (requestedIntentRow request) },
            ⟨request, .markFailed s.paymentIntents.next⟩) := by
        simp [IntentCall.advance, hfree, hfailed]
      refine .step hinsert (.step ?_ (completes_done _ request (some s.paymentIntents.next)))
      simp [IntentCall.advance, Table.update_insert]

/-- The statements of a call, run alone, do what `createPaymentIntent` does. -/
theorem completes_createPaymentIntent (s : Store) (request : IntentRequested) :
    Completes IntentCall.advance (·.ended = true) s { request }
      (final (createPaymentIntent request.ctx request.dto request.externalId request.requestToPay
        s)) := by
  have hrefused (hnot : payableOrder s request = false) :
      Completes IntentCall.advance (·.ended = true) s { request } s := by
    refine .step ?_ (completes_done _ request none)
    simp [IntentCall.advance, hnot]
  rw [createPaymentIntent, final_get]
  cases hfind : s.findOrder request.ctx request.dto.orderId with
  | none => exact hrefused (by simp [payableOrder, hfind])
  | some order =>
    rw [final_need_some, final_ensure]
    split
    · rename_i hopen
      rw [final_ensure]
      split
      · rename_i hpayable
        have hread : IntentCall.advance s { request } = (s, ⟨request, .findExisting⟩) := by
          simp only [IntentCall.advance, payableOrder, hfind, Option.any_some, hopen, hpayable,
            Bool.and_true, if_true]
        refine .step hread ?_
        have hexisting : s.paymentIntents.findFirst (fun _ intent =>
            (truthy request.dto.idempotencyKey).isSome &&
              intent.idempotencyKey == request.dto.idempotencyKey &&
              intent.branchId == request.ctx.branchId) = existingIntent s request := rfl
        simp only [hexisting]
        cases hfound : existingIntent s request with
        | some row =>
          refine .step ?_ (completes_done _ request (some row.1))
          simp [IntentCall.advance, hfound, final, pure, EStateM.pure]
        | none =>
          refine .step ?_ (completes_create s request)
          simp [IntentCall.advance, hfound]
      · rename_i hpayable
        rw [Bool.not_eq_true] at hpayable
        exact hrefused (by simp only [payableOrder, hfind, Option.any_some, hpayable,
          Bool.and_false])
    · rename_i hopen
      rw [Bool.not_eq_true] at hopen
      exact hrefused (by simp only [payableOrder, hfind, Option.any_some, hopen, Bool.false_and])

-- ---
-- Every interleaving
-- ---

/-- Calls that have arrived. -/
def calling (s : Store) (requests : List IntentRequested) : Pool Store IntentCall :=
  ⟨s, requests.map fun request => { request }⟩

/-- Intents with the key, in any branch. -/
def underKey (s : Store) (key : String) : Nat :=
  s.paymentIntents.count fun _ intent => intent.idempotencyKey == some key

/-- About to insert an intent with the key. -/
def IntentCall.pending (key : String) (t : IntentCall) : Nat :=
  if t.stage = .create ∧ t.key = some key then 1 else 0

/-- A look-up under a key finds an intent over what the call asks for, or it finds none while no
branch has one and no other call is about to insert one. -/
def looksUpSafely (p : Pool Store IntentCall) (i : Nat) : Prop :=
  ∀ t ∈ p.threads[i]?, t.stage = .findExisting → ∀ key ∈ t.key,
    (∀ row ∈ existingIntent p.shared t.request,
      row.2.orderId = t.request.dto.orderId ∧ row.2.amount = t.request.dto.amount) ∧
    (existingIntent p.shared t.request = none →
      underKey p.shared key = 0 ∧ ∀ u ∈ p.threads, u.pending key = 0)

instance : Decidable (looksUpSafely p i) :=
  inferInstanceAs (Decidable (∀ t ∈ p.threads[i]?, t.stage = .findExisting → ∀ key ∈ t.key, _))

/-- The intent is what the call asked for. -/
def Answers (s : Store) (t : IntentCall) (intentId : Id) : Prop :=
  ∃ intent, s.paymentIntents.get? intentId = some intent ∧ intent.idempotencyKey = t.key ∧
    intent.orderId = t.request.dto.orderId ∧ intent.amount = t.request.dto.amount

/-- Calls with one key return one intent, over what each of them asks for. -/
structure OneIntent (p : Pool Store IntentCall) : Prop where
  one : ∀ key, underKey p.shared key ≤ 1
  same : ∀ t ∈ p.threads, ∀ u ∈ p.threads, ∀ key j k, t.key = some key → u.key = some key →
    t.result = some j → u.result = some k → j = k
  answers : ∀ t ∈ p.threads, ∀ k, t.result = some k → Answers p.shared t k

/-- An intent that a call holds, or has returned. -/
def IntentCall.Holds (s : Store) (t : IntentCall) : Prop :=
  ∀ k, (t.stage = .markFailed k ∨ t.stage = .done (some k)) → Answers s t k

theorem advance_request (s : Store) (t : IntentCall) : (t.advance s).2.request = t.request := by
  obtain ⟨request, stage⟩ := t
  cases stage with
  | create =>
    simp only [IntentCall.advance]
    split <;> rfl
  | _ => rfl

/-- A statement keeps the intents there are, but for their status. -/
theorem Answers.advance (h : Answers s u k) (t : IntentCall) : Answers (t.advance s).1 u k := by
  obtain ⟨intent, hget, hkey, horder, hamount⟩ := h
  obtain ⟨request, stage⟩ := t
  cases stage with
  | create =>
    simp only [IntentCall.advance]
    split
    · exact ⟨intent, Table.get?_insert_of_some hget, hkey, horder, hamount⟩
    · exact ⟨intent, hget, hkey, horder, hamount⟩
  | markFailed j =>
    by_cases hj : k = j
    · refine ⟨{ intent with status := .failed }, ?_, hkey, horder, hamount⟩
      simp [IntentCall.advance, hj, hj ▸ hget]
    · refine ⟨intent, ?_, hkey, horder, hamount⟩
      simp [IntentCall.advance, Table.get?_update, hj, hget]
  | findOrder | findExisting | done => exact ⟨intent, hget, hkey, horder, hamount⟩

theorem Answers.of_request (h : Answers s t k) (hrequest : u.request = t.request) :
    Answers s u k := by
  simpa only [Answers, IntentCall.key, hrequest] using h

theorem existingIntent_some (h : existingIntent s request = some (k, intent)) :
    s.paymentIntents.get? k = some intent ∧
      intent.idempotencyKey = request.dto.idempotencyKey ∧
      request.dto.idempotencyKey.isSome = true := by
  obtain ⟨hget, hp⟩ := Table.findFirst_some h
  simp only [Bool.and_eq_true, beq_iff_eq] at hp
  obtain ⟨⟨htruthy, hkey⟩, _⟩ := hp
  refine ⟨hget, hkey, ?_⟩
  cases hnone : request.dto.idempotencyKey with
  | none =>
    rw [hnone] at htruthy
    cases htruthy
  | some key => rfl

/-- The call that moves holds what it asked for. -/
theorem advance_holds {p : Pool Store IntentCall} (hok : looksUpSafely p i)
    (ht : p.threads[i]? = some t) (h : t.Holds p.shared) :
    (t.advance p.shared).2.Holds (t.advance p.shared).1 := by
  intro k hstage
  refine Answers.of_request (t := t) ?_ (advance_request _ _)
  have hsafe := hok t ht
  obtain ⟨request, stage⟩ := t
  cases stage with
  | findOrder =>
    simp only [IntentCall.advance] at hstage
    split at hstage <;> simp at hstage
  | findExisting =>
    simp only [IntentCall.advance] at hstage
    cases hfound : existingIntent p.shared request with
    | none => simp [hfound] at hstage
    | some row =>
      obtain ⟨hget, hkey, hsome⟩ := existingIntent_some hfound
      obtain ⟨key, hkeyed⟩ := Option.isSome_iff_exists.mp hsome
      obtain ⟨horder, hamount⟩ := (hsafe rfl key hkeyed).1 row hfound
      simp only [hfound, reduceCtorEq, false_or, IntentCallStage.done.injEq,
        Option.some.injEq] at hstage
      exact ⟨row.2, hstage ▸ hget, hkey, horder, hamount⟩
  | create =>
    simp only [IntentCall.advance] at hstage ⊢
    split at hstage
    · rename_i hfree
      have hk : p.shared.paymentIntents.next = k := by
        simp only at hstage
        split at hstage <;> simpa using hstage
      rw [if_pos hfree]
      exact ⟨requestedIntentRow request, hk ▸ Table.get?_insert_self _ _, rfl, rfl, rfl⟩
    · simp at hstage
  | markFailed j =>
    simp only [IntentCall.advance, reduceCtorEq, false_or, IntentCallStage.done.injEq,
      Option.some.injEq] at hstage
    subst hstage
    exact (h j (.inl rfl)).advance _
  | done result =>
    simp only [IntentCall.advance, reduceCtorEq, false_or] at hstage ⊢
    exact h k (.inr hstage)

/-- The next statement misses under the key. -/
def IntentCall.misses (s : Store) (key : String) (t : IntentCall) : Prop :=
  t.stage = .findExisting ∧ t.key = some key ∧ existingIntent s t.request = none

/-- Only a look-up that misses makes an intent more likely. -/
theorem advance_underKey (s : Store) (t : IntentCall) (key : String) (h : ¬t.misses s key) :
    underKey (t.advance s).1 key + (t.advance s).2.pending key ≤
      underKey s key + t.pending key := by
  obtain ⟨request, stage⟩ := t
  cases stage with
  | findOrder =>
    simp only [IntentCall.advance, IntentCall.pending]
    split <;> simp
  | findExisting =>
    have hpending : (IntentCall.advance s ⟨request, .findExisting⟩).2.pending key = 0 := by
      cases hfound : existingIntent s request with
      | none =>
        have hkey : ¬request.dto.idempotencyKey = some key := fun hkey => h ⟨rfl, hkey, hfound⟩
        simp [IntentCall.advance, IntentCall.pending, IntentCall.key, hfound, hkey]
      | some row => simp [IntentCall.advance, IntentCall.pending, hfound]
    rw [hpending]
    exact Nat.le_add_right _ _
  | create =>
    have hpending : (IntentCall.advance s ⟨request, .create⟩).2.pending key = 0 := by
      simp only [IntentCall.advance, IntentCall.pending]
      split
      · split <;> simp
      · simp
    rw [hpending, Nat.add_zero]
    simp only [IntentCall.advance, IntentCall.pending, IntentCall.key, true_and]
    split
    · simp only [underKey, Table.count_insert, requestedIntentRow, beq_iff_eq]
      exact Nat.le_refl _
    · exact Nat.le_add_right _ _
  | markFailed k =>
    simp only [IntentCall.advance, IntentCall.pending, underKey, reduceCtorEq, false_and, if_false,
      Nat.add_zero]
    exact Table.count_updateWhere_le fun _ _ hkey => hkey
  | done result => exact Nat.le_refl _

theorem advance_missed (s : Store) (t : IntentCall) (key : String) (h : t.misses s key) :
    underKey (t.advance s).1 key + (t.advance s).2.pending key =
      underKey s key + t.pending key + 1 := by
  obtain ⟨request, stage⟩ := t
  obtain ⟨hstage, hkey, hnone⟩ := h
  simp only at hstage hnone
  subst hstage
  simp only [IntentCall.key] at hkey
  simp [IntentCall.advance, IntentCall.pending, IntentCall.key, hkey, hnone]

theorem underKey_step {p : Pool Store IntentCall} (key : String) (hok : looksUpSafely p i)
    (h : underKey p.shared key + p.weight (·.pending key) ≤ 1) :
    underKey (p.step IntentCall.advance i).shared key +
      (p.step IntentCall.advance i).weight (·.pending key) ≤ 1 := by
  cases ht : p.threads[i]? with
  | none => simpa [Pool.step, ht] using h
  | some t =>
    by_cases hmisses : t.misses p.shared key
    · rw [Pool.weight_step (underKey · key) (·.pending key) ht (advance_missed _ _ _ hmisses)]
      obtain ⟨hstage, hkey, hnone⟩ := hmisses
      obtain ⟨hfree, hothers⟩ := (hok t ht hstage key hkey).2 hnone
      rw [hfree, Pool.weight_eq_zero hothers]
    · have hle := Pool.weight_step_le (c := 0) (underKey · key) (·.pending key) ht
        (advance_underKey _ _ _ hmisses)
      exact hle.trans h

/-- In every interleaving of calls whose look-ups are safe, the calls with one key return one
intent, over what each of them asks for. -/
theorem run_oneIntent (h0 : ∀ key, underKey s key ≤ 1)
    (h : Run (Pool.step IntentCall.advance) looksUpSafely (calling s requests) turns p) :
    OneIntent p := by
  have hone : ∀ key, underKey p.shared key + p.weight (·.pending key) ≤ 1 := by
    intro key
    refine h.invariant (I := fun p => underKey p.shared key + p.weight (·.pending key) ≤ 1) ?_
      fun p i hp hok => underKey_step key hok hp
    rw [Pool.weight_eq_zero]
    · exact h0 key
    · intro t ht
      obtain ⟨request, _, rfl⟩ := List.mem_map.mp ht
      rfl
  have hholds : ∀ t ∈ p.threads, t.Holds p.shared := by
    refine h.invariant (I := fun p => ∀ t ∈ p.threads, t.Holds p.shared) ?_ fun p i hp hok => ?_
    · intro t ht k hstage
      obtain ⟨request, _, rfl⟩ := List.mem_map.mp ht
      simp at hstage
    · exact Pool.step_assertions hp (fun t ht hheld => advance_holds hok ht hheld)
        fun t u _ _ hu k hstage => (hu k hstage).advance t
  have hanswers : ∀ t ∈ p.threads, ∀ k, t.result = some k → Answers p.shared t k := by
    intro t ht k hresult
    refine hholds t ht k (.inr ?_)
    unfold IntentCall.result at hresult
    split at hresult
    · rename_i hstage
      rw [hstage, hresult]
    · cases hresult
  refine ⟨fun key => Nat.le_of_add_right_le (hone key), ?_, hanswers⟩
  intro t ht u hu key j k htkey hukey hj hk
  obtain ⟨a, ha, hakey, _⟩ := hanswers t ht j hj
  obtain ⟨b, hb, hbkey, _⟩ := hanswers u hu k hk
  refine Table.count_le_one (Nat.le_of_add_right_le (hone key)) ha hb ?_ ?_
  · simp [hakey, htkey]
  · simp [hbkey, hukey]

/-- A served order of 20.00, another of 5.00, and no intents. -/
def twoServed : Store where
  orders := (Table.empty.insert
    { orgId := 0, branchId := 0, tableId := none, userId := 0, orderNumber := "ORD-0001"
      status := .served, serviceType := .takeaway, subtotal := 2000, total := 2000
      createdAt := 0, updatedAt := 0 }).insert
    { orgId := 0, branchId := 0, tableId := none, userId := 0, orderNumber := "ORD-0002"
      status := .served, serviceType := .takeaway, subtotal := 500, total := 500
      createdAt := 0, updatedAt := 0 }

def asks (orderId : Id) (amount : Cents) (h : 1 ≤ amount) (externalId : String) :
    IntentRequested where
  ctx := ⟨0, 0⟩
  dto := { orderId, provider := .mtn, amount, amount_pos := h, idempotencyKey := some "key" }
  externalId := externalId

/-- A call and, after it, its retry. -/
theorem run_oneIntent_retry :
    let requests := [asks 0 2000 (by decide) "first", asks 0 2000 (by decide) "second"]
    let turns := [0, 0, 0, 1, 1]
    let p := turns.foldl (Pool.step IntentCall.advance) (calling twoServed requests)
    (p.threads.map (·.result) = [some 0, some 0]) ∧ OneIntent p := by
  intro requests turns p
  have hrun : Run (Pool.step IntentCall.advance) looksUpSafely (calling twoServed requests) turns
      p := Run.of_holds (by decide)
  refine ⟨by decide, run_oneIntent (fun key => ?_) hrun⟩
  exact Nat.zero_le 1

/-- Two calls that both look before either inserts; and a key that is used again for another
order. -/
theorem calls_without_oneIntent :
    ¬(∀ (s : Store) (requests : List IntentRequested) (turns : List Nat),
      (∀ key, underKey s key = 0) → ∀ key,
        underKey (turns.foldl (Pool.step IntentCall.advance) (calling s requests)).shared key ≤ 1) ∧
    ¬(∀ (s : Store) (requests : List IntentRequested) (turns : List Nat),
      (∀ key, underKey s key = 0) →
        ∀ t ∈ (turns.foldl (Pool.step IntentCall.advance) (calling s requests)).threads,
          ∀ k, t.result = some k → Answers
            (turns.foldl (Pool.step IntentCall.advance) (calling s requests)).shared t k) := by
  constructor
  · intro h
    have hle := h twoServed [asks 0 2000 (by decide) "first", asks 0 2000 (by decide) "second"]
      [0, 0, 1, 1, 0, 1] (fun _ => rfl) "key"
    exact absurd hle (by decide)
  · intro h
    let p := [0, 0, 0, 1, 1].foldl (Pool.step IntentCall.advance)
      (calling twoServed [asks 0 2000 (by decide) "first", asks 1 500 (by decide) "second"])
    have hanswers := h twoServed
      [asks 0 2000 (by decide) "first", asks 1 500 (by decide) "second"] [0, 0, 0, 1, 1]
      (fun _ => rfl) ⟨asks 1 500 (by decide) "second", .done (some 0)⟩ (by decide) 0 rfl
    obtain ⟨intent, hget, _, horder, _⟩ := hanswers
    have hfirst : (p.shared.paymentIntents.get? 0).map (·.orderId) = some 0 := by decide
    rw [show p.shared.paymentIntents.get? 0 = some intent from hget] at hfirst
    rw [Option.map_some, Option.some.injEq] at hfirst
    rw [hfirst] at horder
    cases horder

end NimbusPos.PaymentsService
