import NimbusPos.UnifiedApprovals.Service

/-!
# One decision

Discounts, leave requests and shift swaps are claimed while they are pending. A refund, a
vendor bill and a transfer are read and then written whatever they have become, and are
decided once while each write still finds its row pending.
-/

namespace NimbusPos.Approvals

open Lib Lib.Program

-- ---
-- Decisions and their effects
-- ---

/-- A row of a source, and the status it is decided to. -/
structure Outcome where
  source : ApprovalSourceType
  entityId : Id
  status : ApprovalStatus
  deriving DecidableEq, Repr

inductive SideEffect
  | orderDiscount (discountId : Id)
  | paymentCheck (refundId : Id)
  | paymentMark (refundId : Id)
  deriving DecidableEq, Repr

/-- The decision that an effect follows. -/
def SideEffect.outcome : SideEffect → Outcome
  | .orderDiscount discountId => ⟨.discount, discountId, .discount .approved⟩
  | .paymentCheck refundId | .paymentMark refundId => ⟨.refund, refundId, .refund .completed⟩

/-- The effects that a decision always has. -/
def Outcome.effects : Outcome → List SideEffect
  | ⟨.discount, discountId, .discount .approved⟩ => [.orderDiscount discountId]
  | ⟨.refund, refundId, _⟩ => [.paymentCheck refundId]
  | _ => []

def Statement.effect : Statement → Option SideEffect
  | .updateOrderDiscount discountId _ _ _ => some (.orderDiscount discountId)
  | .findPayment refundId _ => some (.paymentCheck refundId)
  | .markRefunded refundId _ => some (.paymentMark refundId)
  | _ => none

def RoutedDecisionResult.outcome (result : RoutedDecisionResult) : Outcome :=
  ⟨result.source, result.entityId, result.finalStatus⟩

/-- What a call asks for. -/
def ApprovalCall.outcome : ApprovalCall → Outcome
  | .decide source entityId dto _ _ => ⟨source, entityId, match source with
    | .discount => .discount (if dto.decision = .approve then .approved else .rejected)
    | .refund => .refund .completed
    | .leaveRequest => .leaveRequest dto.decision.leaveStatus
    | .shiftSwap => .shiftSwap dto.decision.swapStatus
    | .vendorBill => .vendorBill .approved
    | .interBranchTransfer => .transfer dto.decision.transferStatus⟩
  | .approveDiscount _ _ discountId _ => ⟨.discount, discountId, .discount .approved⟩
  | .rejectDiscount _ _ discountId => ⟨.discount, discountId, .discount .rejected⟩
  | .approveRefund _ _ refundId _ => ⟨.refund, refundId, .refund .completed⟩
  | .reviewLeaveRequest _ _ id status _ => ⟨.leaveRequest, id, .leaveRequest status⟩
  | .approveShiftSwap _ _ id status _ => ⟨.shiftSwap, id, .shiftSwap status⟩
  | .approveVendorBill _ _ billId _ => ⟨.vendorBill, billId, .vendorBill .approved⟩
  | .updateTransferStatus _ _ transferId decision _ _ =>
    ⟨.interBranchTransfer, transferId, .transfer decision.transferStatus⟩

/-- The row that a statement decides. -/
def Store.decides (s : Store) : Statement → Option Outcome
  | .claimApproved ctx discountId _ _ =>
    if claimCount s.pos.discounts discountId (claimable ctx) = 0 then none
    else some ⟨.discount, discountId, .discount .approved⟩
  | .claimRejected ctx discountId =>
    if claimCount s.pos.discounts discountId (claimable ctx) = 0 then none
    else some ⟨.discount, discountId, .discount .rejected⟩
  | .claimLeaveRequest orgId leaveRequestId data =>
    if claimCount s.leaveRequests leaveRequestId (leaveClaimable orgId) = 0 then none
    else some ⟨.leaveRequest, leaveRequestId, .leaveRequest data.status⟩
  | .claimShiftSwap ctx shiftSwapId data =>
    if claimCount s.shiftSwapRequests shiftSwapId (swapClaimable ctx) = 0 then none
    else some ⟨.shiftSwap, shiftSwapId, .shiftSwap data.status⟩
  | .completeRefund refundId =>
    (s.pos.refunds.get? refundId).map fun _ => ⟨.refund, refundId, .refund .completed⟩
  | .approveVendorBill billId =>
    (s.vendorBills.get? billId).map fun _ => ⟨.vendorBill, billId, .vendorBill .approved⟩
  | .updateTransfer transferId _ dto _ _ =>
    (s.transfers.get? transferId).map fun _ =>
      ⟨.interBranchTransfer, transferId, .transfer dto.status⟩
  | _ => none

/-- Decisions and effects, with the number of their call. -/
structure World where
  store : Store
  decisions : List (Outcome × Nat) := []
  effects : List (SideEffect × Nat) := []

namespace World

def exec (i : Nat) (w : World) (k : Statement) : World × Except HttpError k.Answer :=
  let r := w.store.exec k
  ({ store := r.1
     decisions := ((w.store.decides k).map (·, i)).toList ++ w.decisions
     effects := (k.effect.map (·, i)).toList ++ w.effects }, r.2)

def wait (w : World) (ms : Nat) : World :=
  { w with store := { w.store with pos := { w.store.pos with clock := w.store.pos.clock + ms } } }

/-- A refund, a bill or a transfer that is written is still pending. -/
def stillPending (w : World) : Statement → Prop
  | .completeRefund refundId =>
    ∀ status ∈ w.store.status .refund refundId, status = ApprovalSourceType.refund.pending
  | .approveVendorBill billId =>
    ∀ status ∈ w.store.status .vendorBill billId, status = ApprovalSourceType.vendorBill.pending
  | .updateTransfer transferId _ _ _ _ =>
    ∀ status ∈ w.store.status .interBranchTransfer transferId,
      status = ApprovalSourceType.interBranchTransfer.pending
  | _ => True

instance (w : World) : (k : Statement) → Decidable (w.stillPending k)
  | .completeRefund _ | .approveVendorBill _ | .updateTransfer .. =>
    inferInstanceAs (Decidable (∀ status ∈ _, status = _))
  | .now | .loadCurrent .. | .findUser _ | .findDiscount .. | .findOrder _ | .claimApproved ..
  | .claimRejected .. | .approvedAmount .. | .updateOrderDiscount .. | .findRefund ..
  | .findPayment .. | .completedRefunds _ | .markRefunded .. | .findLeaveRequest ..
  | .claimLeaveRequest .. | .findShiftSwap .. | .claimShiftSwap .. | .findVendorBill ..
  | .findTransfer .. => .isTrue trivial

end World

/-- Each decision stands, no row was decided twice, and no effect happened twice or without
its decision. -/
structure Decided (w : World) : Prop where
  stands : ∀ decision ∈ w.decisions,
    w.store.status decision.1.source decision.1.entityId = some decision.1.status
  once : (w.decisions.map fun decision => (decision.1.source, decision.1.entityId)).Nodup
  effectOnce : (w.effects.map (·.1)).Nodup
  follows : ∀ effect ∈ w.effects, (effect.1.outcome, effect.2) ∈ w.decisions

structure Sound (w : World) : Prop extends Decided w where
  settled : ∀ decision ∈ w.decisions, decision.1.status ≠ decision.1.source.pending

variable {s : Store} {w v : World} {k : Statement} {i : Nat} {o : Outcome}

-- ---
-- What a statement decides
-- ---

section

variable {α : Type} {t : Table α} {id j : Id} {p : α → Bool}

/-- A claim of a row leaves the others as they are. -/
theorem claim_kept {source : ApprovalSourceType} {status : ApprovalStatus}
    (h : ∀ o : Outcome, (if claimCount t id p = 0 then none else some ⟨source, id, status⟩) =
      some o → ¬(o.source = source ∧ o.entityId = j)) (f : α → α) :
    (claim t id p f).get? j = t.get? j := by
  rw [claim, Table.get?_updateWhere]
  cases hget : t.get? j with
  | none => rfl
  | some row =>
    have hfree : ¬(j = id ∧ p row = true) := by
      rintro ⟨rfl, hp⟩
      simp [claimCount, hget, hp] at h
    simp only [Option.map_some, Bool.and_eq_true, beq_iff_eq, hfree, if_false]

theorem update_kept {source : ApprovalSourceType} {status : ApprovalStatus}
    (h : ∀ o : Outcome, ((t.get? id).map fun _ => ⟨source, id, status⟩) = some o →
      ¬(o.source = source ∧ o.entityId = j)) (f : α → α) :
    (t.update id f).get? j = t.get? j := by
  rw [Table.get?_update]
  split
  · rename_i hid
    subst hid
    cases hget : t.get? j with
    | none => rfl
    | some row =>
      rw [hget] at h
      exact absurd ⟨rfl, rfl⟩ (h _ rfl)
  · rfl

theorem claim_taken (h : claimCount t id p ≠ 0) :
    ∃ row, t.get? id = some row ∧ p row = true ∧
      ∀ f, (claim t id p f).get? id = some (f row) := by
  cases hget : t.get? id with
  | none => simp [claimCount, hget] at h
  | some row =>
    have hp : p row = true := by simpa [claimCount, hget] using h
    exact ⟨row, rfl, hp, fun f => by simp [claim, Table.get?_updateWhere, hget, hp]⟩

end

/-- A decided row was pending, and has the status of the decision. -/
theorem decides_exec (hpending : w.stillPending k) (h : w.store.decides k = some o) :
    w.store.status o.source o.entityId = some o.source.pending ∧
      (w.store.exec k).1.status o.source o.entityId = some o.status := by
  cases k with
  | claimApproved _ _ _ _ | claimRejected _ _ | claimLeaveRequest _ _ _ | claimShiftSwap _ _ _ =>
    simp only [Store.decides] at h
    split at h <;> cases h
    rename_i hcount
    obtain ⟨row, hget, hclaimable, hnew⟩ := claim_taken hcount
    simp only [Store.claimable, Store.leaveClaimable, Store.swapClaimable, Bool.and_eq_true,
      beq_iff_eq] at hclaimable
    simp [Store.status, Store.exec, Store.claimDiscount, hget, hclaimable, hnew,
      ApprovalSourceType.pending]
  | completeRefund _ | approveVendorBill _ | updateTransfer _ _ _ _ _ =>
    simp only [Store.decides, Option.map_eq_some_iff] at h
    obtain ⟨row, hget, rfl⟩ := h
    refine ⟨?_, by simp [Store.status, Store.exec, RefundsService.completeRefund,
      Store.updatedTransfer, hget]⟩
    have hstatus := hpending
    simp only [World.stillPending, Store.status, hget] at hstatus
    simp only [Store.status, hget, Option.map_some]
    exact congrArg some (hstatus _ rfl)
  | _ => cases h

/-- A row that a statement does not decide keeps its status. -/
theorem status_exec (s : Store) (k : Statement) {source : ApprovalSourceType} {id : Id}
    (h : ∀ o, s.decides k = some o → ¬(o.source = source ∧ o.entityId = id)) :
    (s.exec k).1.status source id = s.status source id := by
  cases k with
  | claimApproved _ _ _ _ | claimRejected _ _ =>
    cases source with
    | discount => exact congrArg (Option.map _) (claim_kept h _)
    | _ => rfl
  | claimLeaveRequest orgId leaveRequestId data =>
    cases source with
    | leaveRequest => exact congrArg (Option.map _) (claim_kept h _)
    | _ => rfl
  | claimShiftSwap ctx shiftSwapId data =>
    cases source with
    | shiftSwap => exact congrArg (Option.map _) (claim_kept h _)
    | _ => rfl
  | completeRefund refundId =>
    cases source with
    | refund => exact congrArg (Option.map _) (update_kept h _)
    | _ => rfl
  | approveVendorBill billId =>
    cases source with
    | vendorBill => exact congrArg (Option.map _) (update_kept h _)
    | _ => rfl
  | updateTransfer transferId userId dto notes now =>
    cases source with
    | interBranchTransfer => exact congrArg (Option.map _) (update_kept h _)
    | _ => rfl
  | _ => cases source <;> rfl

-- ---
-- One statement
-- ---

/-- What a statement needs: it decides, and the decision that an effect follows is the
call's, which has not had the effect. -/
def World.ready (i : Nat) (w : World) (k : Statement) : Prop :=
  (∀ o, w.store.decides k = some o → o.status ≠ o.source.pending) ∧
    ∀ effect, k.effect = some effect →
      (effect.outcome, i) ∈ w.decisions ∧ (effect, i) ∉ w.effects

def World.hasOrder (w : World) (orderId : Id) : Prop :=
  ∃ order, w.store.pos.orders.get? orderId = some order

/-- What call `i` may rely on: decisions stay, its effects are its own, and orders stay. -/
def deciding (i : Nat) : Service.Frame World where
  rel w v := w.decisions ⊆ v.decisions ∧
    (∀ effect, (effect, i) ∈ v.effects ↔ (effect, i) ∈ w.effects) ∧
    ∀ orderId, w.hasOrder orderId → v.hasOrder orderId
  refl _ := ⟨fun _ h => h, fun _ => .rfl, fun _ h => h⟩
  trans h h' := ⟨List.Subset.trans h.1 h'.1, fun effect => (h'.2.1 effect).trans (h.2.1 effect),
    fun orderId horder => h'.2.2 orderId (h.2.2 orderId horder)⟩

theorem hasOrder_exec (w : World) (k : Statement) (orderId : Id) (h : w.hasOrder orderId) :
    (w.exec i k).1.hasOrder orderId := by
  cases k with
  | updateOrderDiscount _ _ _ _ => exact Table.exists_update h
  | _ => exact h

theorem decisions_exec (w : World) (k : Statement) : w.decisions ⊆ (w.exec i k).1.decisions :=
  List.subset_append_right _ _

theorem deciding_exec (w : World) (k : Statement) {j : Nat} (hj : j ≠ i) :
    (deciding j).rel w (w.exec i k).1 := by
  refine ⟨decisions_exec w k, fun effect => ?_, hasOrder_exec w k⟩
  simp only [World.exec, List.mem_append, Option.mem_toList,
    Option.map_eq_some_iff, Prod.mk.injEq, or_iff_right_iff_imp]
  rintro ⟨_, -, -, rfl⟩
  exact absurd rfl hj

theorem decisions_cases (hmem : decision ∈ (w.exec i k).1.decisions) :
    (∃ o, w.store.decides k = some o ∧ (o, i) = decision) ∨ decision ∈ w.decisions := by
  simpa only [World.exec, List.mem_append, Option.mem_toList, Option.map_eq_some_iff] using hmem

/-- One call decided a row. -/
theorem Decided.same (h : Decided w) (hmem : decision ∈ w.decisions)
    (hmem' : decision' ∈ w.decisions) (hsource : decision.1.source = decision'.1.source)
    (hid : decision.1.entityId = decision'.1.entityId) : decision = decision' :=
  List.inj_on_of_nodup_map h.once hmem hmem' (Prod.ext hsource hid)

section

variable (h : Sound w)
include h

/-- A row that is decided was not decided before. -/
theorem Sound.fresh (hpending : w.stillPending k) (hdecides : w.store.decides k = some o) :
    ∀ decision ∈ w.decisions,
      ¬(o.source = decision.1.source ∧ o.entityId = decision.1.entityId) := by
  rintro decision hmem ⟨hsource, hid⟩
  have hstatus := (decides_exec hpending hdecides).1
  rw [hsource, hid, h.stands decision hmem] at hstatus
  exact h.settled decision hmem (Option.some.inj hstatus)

theorem Sound.stands_exec (hpending : w.stillPending k) :
    ∀ decision ∈ (w.exec i k).1.decisions,
      (w.exec i k).1.store.status decision.1.source decision.1.entityId =
        some decision.1.status := by
  intro decision hmem
  rcases decisions_cases hmem with ⟨o, hdecides, rfl⟩ | hmem
  · exact (decides_exec hpending hdecides).2
  · refine (status_exec w.store k fun o hdecides => ?_).trans (h.stands decision hmem)
    exact h.fresh hpending hdecides decision hmem

theorem Sound.once_exec (hpending : w.stillPending k) :
    ((w.exec i k).1.decisions.map fun decision =>
      (decision.1.source, decision.1.entityId)).Nodup := by
  simp only [World.exec]
  cases hdecides : w.store.decides k with
  | none => exact h.once
  | some o =>
    refine List.nodup_cons.mpr ⟨fun hmem => ?_, h.once⟩
    obtain ⟨decision, hmem, heq⟩ := List.mem_map.mp hmem
    obtain ⟨hsource, hid⟩ := Prod.ext_iff.mp heq
    exact h.fresh hpending hdecides decision hmem ⟨hsource.symm, hid.symm⟩

/-- The effect would have been the call's own. -/
theorem Sound.effectOnce_exec (hready : w.ready i k) :
    ((w.exec i k).1.effects.map (·.1)).Nodup := by
  simp only [World.exec]
  cases heffect : k.effect with
  | none => exact h.effectOnce
  | some effect =>
    refine List.nodup_cons.mpr ⟨fun hmem => ?_, h.effectOnce⟩
    obtain ⟨⟨_, j⟩, hother, rfl⟩ := List.mem_map.mp hmem
    obtain ⟨hown, hnew⟩ := hready.2 _ heffect
    cases h.same (h.follows _ hother) hown rfl rfl
    exact hnew hother

theorem Sound.follows_exec (hready : w.ready i k) :
    ∀ effect ∈ (w.exec i k).1.effects, (effect.1.outcome, effect.2) ∈ (w.exec i k).1.decisions := by
  intro effect hmem
  simp only [World.exec, List.mem_append, Option.mem_toList, Option.map_eq_some_iff] at hmem
  rcases hmem with ⟨effect, heffect, rfl⟩ | hmem
  · exact decisions_exec w k (hready.2 effect heffect).1
  · exact decisions_exec w k (h.follows effect hmem)

theorem Sound.exec (hready : w.ready i k) (hpending : w.stillPending k) :
    Sound (w.exec i k).1 where
  stands := h.stands_exec hpending
  once := h.once_exec hpending
  effectOnce := h.effectOnce_exec hready
  follows := h.follows_exec hready
  settled decision hmem := by
    rcases decisions_cases hmem with ⟨o, hdecides, rfl⟩ | hmem
    · exact hready.1 o hdecides
    · exact h.settled decision hmem

end

-- ---
-- Calls
-- ---

def decidingDiscipline : Discipline World.exec where
  inv := Sound
  rely := deciding
  needs := World.ready
  allowed := World.stillPending
  keeps _ w k h hready hpending := ⟨h.exec hready hpending, fun _ hj => deciding_exec w k hj⟩

/-- A call that succeeds made its decision, with all that follows. -/
def succeeded (o : Outcome) (i : Nat) (result : Except HttpError RoutedDecisionResult) (w : World) :
    Prop :=
  ∀ a, result = .ok a → a.outcome = o ∧ (o, i) ∈ w.decisions ∧
    ∀ effect ∈ o.effects, (effect, i) ∈ w.effects

theorem failed (e : HttpError) (w : World) : succeeded o i (.error e) w := by
  rintro a ⟨⟩

def Statement.plain (k : Statement) : Prop :=
  (∀ s : Store, s.decides k = none) ∧ k.effect = none

theorem ready_plain (hk : k.plain) (w : World) : w.ready i k := by
  refine ⟨fun o hdecides => ?_, fun effect heffect => ?_⟩
  · rw [hk.1] at hdecides
    cases hdecides
  · rw [hk.2] at heffect
    cases heffect

/-- The effects that the call has had. -/
def World.acted (i : Nat) (acts : List SideEffect) (w : World) : Prop :=
  ∀ effect, (effect, i) ∈ w.effects ↔ effect ∈ acts

theorem acted_rely (h : w.acted i acts) (hrely : (deciding i).rel w v) : v.acted i acts :=
  fun effect => (hrely.2.1 effect).trans (h effect)

theorem acted_exec (h : w.acted i acts) (k : Statement) :
    (w.exec i k).1.acted i (k.effect.toList ++ acts) := by
  intro effect
  simp only [World.exec, List.mem_append, Option.mem_toList, Option.map_eq_some_iff, Prod.mk.injEq,
    and_true, exists_eq_right, h effect]

theorem deciding_own (w : World) (hk : k.effect = none) : (deciding i).rel w (w.exec i k).1 := by
  refine ⟨decisions_exec w k, fun effect => ?_, hasOrder_exec w k⟩
  simp only [World.exec, hk, Option.map_none, Option.toList_none, List.nil_append]

variable {acts : List SideEffect}

section

variable {α : Type} {post : Except HttpError α → World → Prop}
  (herror : ∀ e t, post (.error e) t)
include herror

/-- A statement that decides nothing and has no effect. -/
theorem plain_statement {f : k.Answer → ApprovalProgram α} (hk : k.plain)
    (hnext : ∀ v a, (deciding i).rel w v → (f a).Safe decidingDiscipline i post v) :
    (query k >>= f).Safe decidingDiscipline i post w :=
  safe_known ((deciding i).rel w) (fun _ _ h hrely => (deciding i).trans h hrely)
    (fun v h => (deciding i).trans h (deciding_own v hk.2)) (fun v _ => ready_plain hk v) herror
    ((deciding i).refl w) hnext

end

/-- The statement that decides, unless it found no row. -/
theorem decide_statement {f : k.Answer → ApprovalProgram RoutedDecisionResult}
    (heffect : k.effect = none) (honly : ∀ s o', Store.decides s k = some o' → o' = o)
    (hsettled : o.status ≠ o.source.pending)
    (hnext : ∀ v a (s : Store), (deciding i).rel w v → (s.exec k).2 = .ok a →
      (s.decides k = some o → (o, i) ∈ v.decisions) →
      (f a).Safe decidingDiscipline i (succeeded o i) v) :
    (query k >>= f).Safe decidingDiscipline i (succeeded o i) w := by
  refine safe_statement (fun v _ _ => ⟨?_, ?_⟩) fun v hrely _ _ => ?_
  · rintro o' hdecides
    rw [honly v.store o' hdecides]
    exact hsettled
  · rintro effect heffect'
    rw [heffect] at heffect'
    cases heffect'
  · have hframe := (deciding i).trans hrely (deciding_own v heffect)
    cases hreply : (v.exec i k).2 with
    | error e => exact failed e _
    | ok a =>
      refine hnext _ a v.store hframe hreply fun hdecides => ?_
      simp [World.exec, hdecides]

/-- An effect of the decision that the call made. -/
theorem effect_statement {post : Except HttpError k.Answer → World → Prop}
    (herror : ∀ e t, post (.error e) t) (hdecides : ∀ s, Store.decides s k = none)
    (heffect : k.effect = some effect) (hmade : (effect.outcome, i) ∈ w.decisions)
    (hacted : w.acted i acts) (hnew : effect ∉ acts)
    (hnext : ∀ v (a : k.Answer), (effect.outcome, i) ∈ v.decisions → v.acted i (effect :: acts) →
      post (.ok a) v) :
    (query k).Safe decidingDiscipline i post w := by
  intro v hrely _
  refine ⟨⟨?_, ?_⟩, fun _ => ?_⟩
  · rintro o hdecides'
    rw [hdecides] at hdecides'
    cases hdecides'
  · rintro effect' heffect'
    obtain rfl := Option.some.inj (heffect.symm.trans heffect')
    exact ⟨hrely.1 hmade, fun hmem => hnew ((acted_rely hacted hrely effect).mp hmem)⟩
  · have hacted' := acted_exec (acted_rely hacted hrely) k
    rw [heffect] at hacted'
    show post (v.exec i k).2 (v.exec i k).1
    cases (v.exec i k).2 with
    | error e => exact herror e _
    | ok a => exact hnext _ a (decisions_exec v k (hrely.1 hmade)) hacted'

-- ---
-- The services
-- ---

variable {bcrypt : String → String → Bool}

theorem verifyPin_safe {f : Bool → ApprovalProgram RoutedDecisionResult} (userId : Id)
    (managerPin : Option String) (hnext : ∀ v verified, (deciding i).rel w v →
      (f verified).Safe decidingDiscipline i (succeeded o i) v) :
    (verifyPin bcrypt userId managerPin >>= f).Safe decidingDiscipline i (succeeded o i) w := by
  cases managerPin with
  | none => exact hnext w false ((deciding i).refl w)
  | some pin =>
    refine safe_bind ?_
    refine plain_statement ?_ ⟨fun _ => rfl, rfl⟩ fun v manager hwv => ?_
    · exact failed
    refine safe_need (fun hash _ => ?_) fun _ => failed _ v
    exact safe_ensure (fun _ => hnext v true hwv) fun _ => failed _ v

/-- The end of a call whose decision was made. -/
theorem ends_succeeded (a : RoutedDecisionResult) (ha : a.outcome = o)
    (hmade : (o, i) ∈ w.decisions)
    (hacted : w.acted i acts) (hall : ∀ effect ∈ o.effects, effect ∈ acts) :
    (pure a : ApprovalProgram RoutedDecisionResult).Safe decidingDiscipline i
      (succeeded o i) w := by
  rintro _ ⟨⟩
  exact ⟨ha, hmade, fun effect hmem => (hacted effect).mpr (hall effect hmem)⟩

theorem recalcOrderDiscount_safe {f : Unit → ApprovalProgram RoutedDecisionResult}
    {discountId orderId : Id}
    (hmade : (⟨.discount, discountId, .discount .approved⟩, i) ∈ w.decisions)
    (hacted : w.acted i []) (horder : w.hasOrder orderId)
    (hnext : ∀ v, (⟨.discount, discountId, .discount .approved⟩, i) ∈ v.decisions →
      v.acted i [.orderDiscount discountId] →
      (f ()).Safe decidingDiscipline i (succeeded o i) v) :
    (recalcOrderDiscount discountId orderId >>= f).Safe decidingDiscipline i (succeeded o i) w := by
  refine safe_bind (safe_read (fun v => v.store.pos.orders.get? orderId) (fun _ => rfl)
    (fun v _ _ => ready_plain ⟨fun _ => rfl, rfl⟩ v) fun v hwv _ => ?_)
  obtain ⟨order, hget⟩ := hwv.2.2 orderId horder
  simp only [hget]
  refine plain_statement ?_ ⟨fun _ => rfl, rfl⟩ fun u discountAmount hvu => ?_
  · exact failed
  have hwu := (deciding i).trans hwv hvu
  refine effect_statement ?_ (fun _ => rfl) rfl (hwu.1 hmade) (acted_rely hacted hwu) ?_ ?_
  · exact failed
  · exact List.not_mem_nil
  · exact fun t _ hmade hacted => hnext t hmade hacted

theorem claim_only {c : Prop} [Decidable c] {o' : Outcome}
    (h : (if c then none else some o) = some o') : o' = o := by
  split at h <;> cases h
  rfl

theorem update_only {α : Type} {row : Option α} {o' : Outcome}
    (h : row.map (fun _ => o) = some o') : o' = o := by
  obtain ⟨_, -, rfl⟩ := Option.map_eq_some_iff.mp h
  rfl

theorem approveDiscount_safe (userId : Id) (ctx : BranchContext) (discountId : Id)
    (managerPin : Option String) (hacted : w.acted i []) :
    (approveDiscount bcrypt userId ctx discountId managerPin).Safe decidingDiscipline i
      (succeeded ⟨.discount, discountId, .discount .approved⟩ i) w := by
  refine plain_statement failed ⟨fun _ => rfl, rfl⟩ fun v found hwv => ?_
  refine safe_need (fun discount _ => ?_) fun _ => failed _ v
  refine safe_ensure (fun _ => ?_) fun _ => failed _ v
  refine safe_read (fun u => u.store.pos.orders.get? discount.orderId) (fun _ => rfl)
    (fun u _ _ => ready_plain ⟨fun _ => rfl, rfl⟩ u) fun u hvu _ => ?_
  refine safe_ensure (fun hopen => ?_) fun _ => failed _ u
  obtain ⟨order, horder, -⟩ := (Option.any_eq_true _ _).mp hopen
  refine verifyPin_safe userId managerPin fun t verified hut => ?_
  refine plain_statement failed ⟨fun _ => rfl, rfl⟩ fun r approvedAt htr => ?_
  have hur := (deciding i).trans hut htr
  have hwr := (deciding i).trans hwv ((deciding i).trans hvu hur)
  refine decide_statement rfl ?_ (by simp [ApprovalSourceType.pending]) ?_
  · exact fun s o' hdecides => claim_only hdecides
  intro q count s hrq hreply hmade
  refine safe_ensure (fun hcount => ?_) fun _ => failed _ q
  cases hreply
  have hwq := (deciding i).trans hwr hrq
  have hmade := hmade (by simpa [Store.decides] using hcount)
  refine recalcOrderDiscount_safe hmade (acted_rely hacted hwq) ?_ fun p hmade hacted => ?_
  · exact hrq.2.2 _ (hur.2.2 _ ⟨order, horder⟩)
  · exact ends_succeeded _ rfl hmade hacted fun effect hmem => hmem

theorem rejectDiscount_safe (userId : Id) (ctx : BranchContext) (discountId : Id)
    (hacted : w.acted i []) :
    (rejectDiscount userId ctx discountId).Safe decidingDiscipline i
      (succeeded ⟨.discount, discountId, .discount .rejected⟩ i) w := by
  refine plain_statement failed ⟨fun _ => rfl, rfl⟩ fun v found hwv => ?_
  refine safe_need (fun discount _ => ?_) fun _ => failed _ v
  refine safe_ensure (fun _ => ?_) fun _ => failed _ v
  refine decide_statement rfl ?_ (by simp [ApprovalSourceType.pending]) ?_
  · exact fun s o' hdecides => claim_only hdecides
  intro u count s hvu hreply hmade
  refine safe_ensure (fun hcount => ?_) fun _ => failed _ u
  cases hreply
  have hwu := (deciding i).trans hwv hvu
  exact ends_succeeded _ rfl (hmade (by simpa [Store.decides] using hcount)) (acted_rely hacted hwu)
    fun effect hmem => hmem

theorem checkAndMarkPaymentRefunded_safe {f : Unit → ApprovalProgram RoutedDecisionResult}
    {refundId : Id} (paymentId : Id)
    (hmade : (⟨.refund, refundId, .refund .completed⟩, i) ∈ w.decisions) (hacted : w.acted i [])
    (hnext : ∀ v acts, (⟨.refund, refundId, .refund .completed⟩, i) ∈ v.decisions →
      v.acted i acts → .paymentCheck refundId ∈ acts →
      (f ()).Safe decidingDiscipline i (succeeded o i) v) :
    (checkAndMarkPaymentRefunded refundId paymentId >>= f).Safe decidingDiscipline i
      (succeeded o i) w := by
  refine safe_bind (safe_bind ?_)
  refine effect_statement ?_ (fun _ => rfl) rfl hmade hacted List.not_mem_nil ?_
  · exact failed
  intro v found hmade hacted
  cases found with
  | none => exact hnext v _ hmade hacted (.head _)
  | some payment =>
    refine plain_statement ?_ ⟨fun _ => rfl, rfl⟩ fun u totalRefunded hvu => ?_
    · exact failed
    have hmade := hvu.1 hmade
    have hacted := acted_rely hacted hvu
    split
    · refine effect_statement ?_ (fun _ => rfl) rfl hmade hacted (by simp) ?_
      · exact failed
      · exact fun t _ hmade hacted => hnext t _ hmade hacted (.tail _ (.head _))
    · exact hnext u _ hmade hacted (.head _)

/-- An update of a row that is there decides it. -/
theorem updated_some {α : Type} {t : Table α} {id : Id} {a : Unit} (h : updated t id = .ok a)
    (o : Outcome) : (t.get? id).map (fun _ => o) = some o := by
  cases hget : t.get? id with
  | none => simp [updated, hget] at h
  | some row => rfl

theorem approveRefund_safe (userId : Id) (ctx : BranchContext) (refundId : Id)
    (managerPin : Option String) (hacted : w.acted i []) :
    (approveRefund bcrypt userId ctx refundId managerPin).Safe decidingDiscipline i
      (succeeded ⟨.refund, refundId, .refund .completed⟩ i) w := by
  refine plain_statement failed ⟨fun _ => rfl, rfl⟩ fun v found hwv => ?_
  refine safe_need (fun refund _ => ?_) fun _ => failed _ v
  refine safe_ensure (fun _ => ?_) fun _ => failed _ v
  refine verifyPin_safe userId managerPin fun u _ hvu => ?_
  refine decide_statement rfl ?_ (by simp [ApprovalSourceType.pending]) ?_
  · exact fun s o' hdecides => update_only hdecides
  intro t _ s hut hreply hmade
  have hwt := (deciding i).trans hwv ((deciding i).trans hvu hut)
  refine checkAndMarkPaymentRefunded_safe refund.paymentId (hmade (updated_some hreply _))
    (acted_rely hacted hwt) fun r acts hmade hacted hcheck => ?_
  refine ends_succeeded _ rfl hmade hacted fun effect hmem => ?_
  obtain rfl := List.mem_singleton.mp hmem
  exact hcheck

theorem reviewLeaveRequest_safe (userId : Id) (ctx : BranchContext) (id : Id)
    (status : LeaveRequestStatus) (reviewNotes : Option String) (hacted : w.acted i []) :
    (reviewLeaveRequest userId ctx id status reviewNotes).Safe decidingDiscipline i
      (succeeded ⟨.leaveRequest, id, .leaveRequest status⟩ i) w := by
  refine plain_statement failed ⟨fun _ => rfl, rfl⟩ fun v found hwv => ?_
  refine safe_need (fun existing _ => ?_) fun _ => failed _ v
  refine safe_ensure (fun _ => ?_) fun _ => failed _ v
  refine safe_ensure (fun hstatus => ?_) fun _ => failed _ v
  refine plain_statement failed ⟨fun _ => rfl, rfl⟩ fun u reviewedAt hvu => ?_
  refine decide_statement rfl ?_ ?_ ?_
  · exact fun s o' hdecides => claim_only hdecides
  · cases status <;> simp [ApprovalSourceType.pending] at hstatus ⊢
  intro t count s hut hreply hmade
  refine safe_ensure (fun hcount => ?_) fun _ => failed _ t
  cases hreply
  have hwt := (deciding i).trans hwv ((deciding i).trans hvu hut)
  exact ends_succeeded _ rfl (hmade (by simpa [Store.decides] using hcount)) (acted_rely hacted hwt)
    fun effect hmem => hmem

theorem approveShiftSwap_safe (userId : Id) (ctx : BranchContext) (id : Id)
    (status : ShiftSwapStatus) (reviewNotes : Option String) (hacted : w.acted i []) :
    (approveShiftSwap userId ctx id status reviewNotes).Safe decidingDiscipline i
      (succeeded ⟨.shiftSwap, id, .shiftSwap status⟩ i) w := by
  refine plain_statement failed ⟨fun _ => rfl, rfl⟩ fun v found hwv => ?_
  refine safe_need (fun existing _ => ?_) fun _ => failed _ v
  refine safe_ensure (fun _ => ?_) fun _ => failed _ v
  refine safe_ensure (fun hstatus => ?_) fun _ => failed _ v
  refine plain_statement failed ⟨fun _ => rfl, rfl⟩ fun u approvedAt hvu => ?_
  refine decide_statement rfl ?_ ?_ ?_
  · exact fun s o' hdecides => claim_only hdecides
  · cases status <;> simp [ApprovalSourceType.pending] at hstatus ⊢
  intro t count s hut hreply hmade
  refine safe_ensure (fun hcount => ?_) fun _ => failed _ t
  cases hreply
  have hwt := (deciding i).trans hwv ((deciding i).trans hvu hut)
  exact ends_succeeded _ rfl (hmade (by simpa [Store.decides] using hcount)) (acted_rely hacted hwt)
    fun effect hmem => hmem

theorem approveVendorBill_safe (orgId : Id) (branchId : Option Id) (billId userId : Id)
    (hacted : w.acted i []) :
    (approveVendorBill orgId branchId billId userId).Safe decidingDiscipline i
      (succeeded ⟨.vendorBill, billId, .vendorBill .approved⟩ i) w := by
  refine safe_need (fun branchId _ => ?_) fun _ => failed _ w
  refine plain_statement failed ⟨fun _ => rfl, rfl⟩ fun v found hwv => ?_
  refine safe_need (fun bill _ => ?_) fun _ => failed _ v
  refine safe_ensure (fun _ => ?_) fun _ => failed _ v
  refine decide_statement rfl ?_ (by simp [ApprovalSourceType.pending]) ?_
  · exact fun s o' hdecides => update_only hdecides
  intro u _ s hvu hreply hmade
  exact ends_succeeded _ rfl (hmade (updated_some hreply _))
    (acted_rely hacted ((deciding i).trans hwv hvu)) fun effect hmem => hmem

theorem updateTransferStatus_safe (userId orgId transferId : Id) (dto : UpdateTransferStatusDto)
    {status : InterBranchTransferStatus} (hstatus : dto.status = status)
    (hrequested : status ≠ .requested) (hacted : w.acted i []) :
    (updateTransferStatus userId orgId transferId dto).Safe decidingDiscipline i
      (succeeded ⟨.interBranchTransfer, transferId, .transfer status⟩ i) w := by
  subst hstatus
  refine plain_statement failed ⟨fun _ => rfl, rfl⟩ fun v found hwv => ?_
  refine safe_need (fun transfer _ => ?_) fun _ => failed _ v
  refine safe_ensure (fun _ => ?_) fun _ => failed _ v
  refine plain_statement failed ⟨fun _ => rfl, rfl⟩ fun u now hvu => ?_
  refine decide_statement rfl ?_ ?_ ?_
  · exact fun s o' hdecides => update_only hdecides
  · exact fun heq => hrequested (ApprovalStatus.transfer.inj heq)
  intro t _ s hut hreply hmade
  have hwt := (deciding i).trans hwv ((deciding i).trans hvu hut)
  exact ends_succeeded _ rfl (hmade (updated_some hreply _)) (acted_rely hacted hwt)
    fun effect hmem => hmem

theorem transferStatus_ne (decision : ApprovalDecision) : decision.transferStatus ≠ .requested := by
  cases decision <;> rintro ⟨⟩

theorem decideAt_safe (source : ApprovalSourceType) (entityId : Id) (dto : DecideApprovalDto)
    (userId : Id) (ctx : BranchContext) (hacted : w.acted i []) :
    (decideAt bcrypt source entityId dto userId ctx).Safe decidingDiscipline i
      (succeeded (ApprovalCall.decide source entityId dto userId ctx).outcome i) w := by
  cases source with
  | discount =>
    cases hdecision : dto.decision with
    | approve =>
      simp only [decideAt, ApprovalCall.outcome, hdecision]
      exact approveDiscount_safe userId ctx entityId dto.managerPin hacted
    | reject =>
      simp only [decideAt, ApprovalCall.outcome, hdecision]
      exact rejectDiscount_safe userId ctx entityId hacted
  | refund => exact approveRefund_safe userId ctx entityId dto.managerPin hacted
  | leaveRequest => exact reviewLeaveRequest_safe userId ctx entityId _ dto.reason hacted
  | shiftSwap => exact approveShiftSwap_safe userId ctx entityId _ dto.reason hacted
  | vendorBill => exact approveVendorBill_safe ctx.organizationId none entityId userId hacted
  | interBranchTransfer =>
    refine updateTransferStatus_safe userId ctx.organizationId entityId _ ?_
      (transferStatus_ne dto.decision) hacted
    rfl

theorem route_safe (source : ApprovalSourceType) (entityId : Id) (dto : DecideApprovalDto)
    (userId : Id) (ctx : BranchContext) (hacted : w.acted i []) :
    (route bcrypt source entityId dto userId ctx).Safe decidingDiscipline i
      (succeeded (ApprovalCall.decide source entityId dto userId ctx).outcome i) w := by
  refine safe_ensure (fun hsupported => ?_) fun _ => failed _ w
  refine plain_statement failed ⟨fun _ => rfl, rfl⟩ fun v current hwv => ?_
  refine safe_need (fun status _ => ?_) fun _ => failed _ v
  refine safe_ensure (fun _ => ?_) fun _ => failed _ v
  exact decideAt_safe source entityId dto userId ctx (acted_rely hacted hwv)

theorem program_safe (call : ApprovalCall) (hacted : w.acted i []) :
    (call.program bcrypt).Safe decidingDiscipline i (succeeded call.outcome i) w := by
  cases call with
  | decide source entityId dto userId ctx => exact route_safe source entityId dto userId ctx hacted
  | approveDiscount userId ctx discountId managerPin =>
    exact approveDiscount_safe userId ctx discountId managerPin hacted
  | rejectDiscount userId ctx discountId => exact rejectDiscount_safe userId ctx discountId hacted
  | approveRefund userId ctx refundId managerPin =>
    exact approveRefund_safe userId ctx refundId managerPin hacted
  | reviewLeaveRequest userId ctx id status reviewNotes =>
    exact reviewLeaveRequest_safe userId ctx id status reviewNotes hacted
  | approveShiftSwap userId ctx id status reviewNotes =>
    exact approveShiftSwap_safe userId ctx id status reviewNotes hacted
  | approveVendorBill orgId branchId billId userId =>
    exact approveVendorBill_safe orgId branchId billId userId hacted
  | updateTransferStatus userId orgId transferId decision rejectionReason notes =>
    refine updateTransferStatus_safe userId orgId transferId _ ?_ (transferStatus_ne decision)
      hacted
    rfl

-- ---
-- Every interleaving
-- ---

abbrev ApprovalPool := Pool World (ApprovalProgram RoutedDecisionResult)

abbrev take : ApprovalPool → Turn → ApprovalPool := Turn.take World.exec World.wait

/-- The calls, none of which has started. -/
def requested (bcrypt : String → String → Bool) (s : Store) (calls : List ApprovalCall) :
    ApprovalPool where
  shared := { store := s }
  threads := calls.map (·.program bcrypt)

/-- The call reported success. -/
def succeeds (p : ApprovalPool) (i : Nat) : Prop :=
  ∃ result, p.threads[i]? = some (.done (.ok result))

/-- Of the calls for a row one succeeds, and the row has the status that call asked for. The
effects of the call happened, none of them twice, and none against the status of its row. -/
structure OneDecision (calls : List ApprovalCall) (p : ApprovalPool) : Prop where
  one : ∀ (i j : Nat) (call call' : ApprovalCall), calls[i]? = some call →
    calls[j]? = some call' → call.outcome.source = call'.outcome.source →
    call.outcome.entityId = call'.outcome.entityId → succeeds p i → succeeds p j → i = j
  final : ∀ (i : Nat) (call : ApprovalCall), calls[i]? = some call → succeeds p i →
    p.shared.store.status call.outcome.source call.outcome.entityId = some call.outcome.status
  happened : ∀ (i : Nat) (call : ApprovalCall), calls[i]? = some call → succeeds p i →
    ∀ effect ∈ call.outcome.effects, (effect, i) ∈ p.shared.effects
  once : (p.shared.effects.map (·.1)).Nodup
  follows : ∀ effect ∈ p.shared.effects,
    p.shared.store.status effect.1.outcome.source effect.1.outcome.entityId =
      some effect.1.outcome.status

theorem succeeded_rely {result : Except HttpError RoutedDecisionResult}
    (h : succeeded o i result w) (hrely : (deciding i).rel w v) : succeeded o i result v := by
  intro a ha
  obtain ⟨houtcome, hmade, heffects⟩ := h a ha
  exact ⟨houtcome, hrely.1 hmade, fun effect hmem => (hrely.2.1 effect).mpr (heffects effect hmem)⟩

theorem sound_wait (w : World) (ms : Nat) (h : Sound w) :
    Sound (w.wait ms) ∧ ∀ i, (deciding i).rel w (w.wait ms) := by
  have hstatus (source : ApprovalSourceType) (id : Id) :
      (w.wait ms).store.status source id = w.store.status source id := by
    cases source <;> rfl
  refine ⟨⟨⟨fun decision hmem => ?_, h.once, h.effectOnce, h.follows⟩, h.settled⟩, fun i =>
    ⟨List.Subset.refl _, fun _ => .rfl, fun _ horder => horder⟩⟩
  exact (hstatus _ _).trans (h.stands decision hmem)

/-- In any interleaving whose writes still find their rows pending, each row is decided
once. -/
theorem pool_decided (hrun : Run take (fun p t => t.asks World.stillPending p)
    (requested bcrypt s calls) turns p) : OneDecision calls p := by
  have hstart : SafePool decidingDiscipline (fun i result w => ∀ call, calls[i]? = some call →
      succeeded call.outcome i result w) (requested bcrypt s calls) := by
    refine ⟨⟨⟨?_, .nil, .nil, ?_⟩, ?_⟩, fun i x hx => ?_⟩
    · exact fun _ hmem => absurd hmem List.not_mem_nil
    · exact fun _ hmem => absurd hmem List.not_mem_nil
    · exact fun _ hmem => absurd hmem List.not_mem_nil
    · simp only [requested, List.getElem?_map, Option.map_eq_some_iff] at hx
      obtain ⟨call, hcall, rfl⟩ := hx
      refine (program_safe call fun _ => by simp [requested]).mono fun result v h call' hcall' => ?_
      obtain rfl := Option.some.inj (hcall.symm.trans hcall')
      exact h
  have hsafe := hstart.run (fun i result _ _ h hrely call hcall =>
    succeeded_rely (h call hcall) hrely) sound_wait hrun
  have hmade (i : Nat) (call : ApprovalCall) (hcall : calls[i]? = some call)
      (hok : succeeds p i) : (call.outcome, i) ∈ p.shared.decisions ∧
        ∀ effect ∈ call.outcome.effects, (effect, i) ∈ p.shared.effects := by
    obtain ⟨result, hdone⟩ := hok
    exact (hsafe.ended hdone call hcall result rfl).2
  refine ⟨fun i j call call' hcall hcall' hsource hid hi hj => ?_, fun i call hcall hi => ?_,
    fun i call hcall hi => (hmade i call hcall hi).2, hsafe.inv.effectOnce, fun effect hmem => ?_⟩
  · have hsame := hsafe.inv.same (hmade i call hcall hi).1 (hmade j call' hcall' hj).1 hsource hid
    exact (Prod.ext_iff.mp hsame).2
  · exact hsafe.inv.stands _ (hmade i call hcall hi).1
  · exact hsafe.inv.stands _ (hsafe.inv.follows effect hmem)

/-- A row of each source, all pending, with the closed order and the payment they are for. -/
def waiting : Store where
  pos :=
    { orders := Table.empty.insert
        { orgId := 0, branchId := 0, tableId := none, userId := 0, orderNumber := "ORD-1"
          status := .closed, serviceType := .takeaway, subtotal := 1000, total := 1000
          createdAt := 0, updatedAt := 0 } |>.insert
        { orgId := 0, branchId := 0, tableId := none, userId := 0, orderNumber := "ORD-2"
          serviceType := .takeaway, subtotal := 500, total := 500, createdAt := 0, updatedAt := 0 }
      discounts := Table.empty.insert
        { orgId := 0, branchId := 0, orderId := 1, type := .fixed, value := 200
          status := .pending, approvedAt := none }
      payments := Table.empty.insert
        { orgId := 0, branchId := 0, orderId := 0, amount := 1000, method := .cash
          status := .completed, createdAt := 0 }
      refunds := Table.empty.insert
        { orgId := 0, branchId := 0, orderId := 0, paymentId := 0, amount := 1000
          status := .pending, createdAt := 0 } }
  leaveRequests := Table.empty.insert { orgId := 0 }
  shiftSwapRequests := Table.empty.insert { orgId := 0, branchId := 0 }
  vendorBills := Table.empty.insert
    { orgId := 0, branchId := some 0, supplierId := 0, status := .draft, totalAmount := 700
      outstandingAmount := 700 }
  transfers := Table.empty.insert { orgId := 0 }

/-- The answer of a call that succeeded. -/
def answered (x : ApprovalProgram RoutedDecisionResult) : Option RoutedDecisionResult :=
  match x with
  | .done (.ok result) => some result
  | _ => none

theorem succeeds_of_answered {p : ApprovalPool} (h : ((p.threads[i]?).bind answered).isSome) :
    succeeds p i := by
  cases hx : p.threads[i]? with
  | none => simp [hx] at h
  | some x =>
    rcases x with (error | result) | _
    · simp [hx, answered] at h
    · exact ⟨result, hx⟩
    · simp [hx, answered] at h

/-- Calls that come together for the discount and for the leave request, and one after the
other for the refund and for the transfer. -/
theorem pool_decided_each :
    let calls := [.approveDiscount 1 ⟨0, 0⟩ 0 none, .rejectDiscount 2 ⟨0, 0⟩ 0,
      .decide .refund 0 { decision := .approve } 1 ⟨0, 0⟩, .approveRefund 2 ⟨0, 0⟩ 0 none,
      .reviewLeaveRequest 1 ⟨0, 0⟩ 0 .approved none,
      .decide .leaveRequest 0 { decision := .reject } 2 ⟨0, 0⟩,
      .updateTransferStatus 1 0 0 .reject none none,
      .decide .interBranchTransfer 0 { decision := .approve } 2 ⟨0, 0⟩]
    let turns := times 2 0 ++ times 2 1 ++ times 9 0 ++ times 9 2 ++ times 9 3 ++ times 2 4 ++
      times 4 5 ++ times 3 4 ++ times 9 6 ++ times 9 7
    let p := turns.foldl take (requested (fun _ _ => true) waiting calls)
    p.shared.decisions.map (·.2) = [6, 5, 2, 1] ∧ OneDecision calls p := by
  intro calls turns p
  have hrun : Run take (fun p t => t.asks World.stillPending p)
      (requested (fun _ _ => true) waiting calls) turns p := Run.of_holds (by decide +kernel)
  exact ⟨by decide +kernel, pool_decided hrun⟩

/-- Two calls that both read their row before either writes. -/
def decidedTwice : List (ApprovalCall × ApprovalCall × Nat) :=
  [(.approveRefund 1 ⟨0, 0⟩ 0 none, .decide .refund 0 { decision := .approve } 2 ⟨0, 0⟩, 2),
    (.approveVendorBill 0 (some 0) 0 1, .approveVendorBill 0 (some 0) 0 2, 1),
    (.updateTransferStatus 1 0 0 .approve none none,
      .decide .interBranchTransfer 0 { decision := .reject } 2 ⟨0, 0⟩, 2)]

theorem pool_decided_twice :
    ¬(∀ (bcrypt : String → String → Bool) (s : Store) (calls : List ApprovalCall)
      (turns : List Turn) (p : ApprovalPool),
      Run take (fun _ _ => True) (requested bcrypt s calls) turns p → OneDecision calls p) ∧
    ∀ run ∈ decidedTwice, ¬OneDecision [run.1, run.2.1]
      ((times 1 0 ++ times run.2.2 1 ++ times 9 0 ++ times 9 1).foldl take
        (requested (fun _ _ => true) waiting [run.1, run.2.1])) := by
  have hruns : ∀ run ∈ decidedTwice, ¬OneDecision [run.1, run.2.1]
      ((times 1 0 ++ times run.2.2 1 ++ times 9 0 ++ times 9 1).foldl take
        (requested (fun _ _ => true) waiting [run.1, run.2.1])) := by
    intro run hrun hone
    have htwo := hone.one 0 1 run.1 run.2.1 rfl rfl
    simp only [decidedTwice, List.mem_cons, List.not_mem_nil, or_false] at hrun
    rcases hrun with rfl | rfl | rfl
    all_goals exact absurd (htwo rfl rfl (succeeds_of_answered (by decide +kernel))
      (succeeds_of_answered (by decide +kernel))) Nat.zero_ne_one
  refine ⟨fun h => ?_, hruns⟩
  exact hruns _ (.head _) (h _ _ _ _ _ (Run.foldl _ _ _))

end NimbusPos.Approvals
