import NimbusPos.AccountsPayable.Service
import NimbusPos.Lib.Run

/-!
# The supplier sub-ledger

A bill stores what its allocations leave open. A payment computes it from the row
it read before its transaction, so the two agree in every interleaving in which
each transaction finds its bills as they were read and pays none of them twice.
Run alone, the statements of a payment do what `createApPayment` does.
-/

namespace NimbusPos.AccountsPayableService

open Lib Lib.Service

-- ---
-- A payment, statement by statement
-- ---

inductive ApStage
  | findSupplier
  | findBills (supplier : Supplier)
  | readNumber (supplier : Supplier) (found : Bills)
  | transaction (supplier : Supplier) (found : Bills) (paymentNumber : String)
  | postJournal (paymentId : Id) (paymentNumber : String)
  | markPosted (paymentId journalId : Id)
  | done
  deriving DecidableEq, Repr

structure ApThread where
  payment : CreateApPayment
  stage : ApStage := .findSupplier
  deriving DecidableEq, Repr

namespace ApThread

def goto (t : ApThread) (stage : ApStage) : ApThread := { t with stage }

/-- The next statement of the payment. -/
def advance (s : Books) (t : ApThread) : Books × ApThread :=
  let p := t.payment
  match t.stage with
  | .findSupplier =>
    match AccountsPayableService.findSupplier s p, requestError p with
    | some supplier, none => (s, t.goto (.findBills supplier))
    | _, _ => (s, t.goto .done)
  | .findBills supplier =>
    let found := AccountsPayableService.findBills s p
    match billsError found p with
    | none => (s, t.goto (.readNumber supplier found))
    | some _ => (s, t.goto .done)
  | .readNumber supplier found =>
    (s, t.goto (.transaction supplier found (nextPaymentNumber s p.ctx.organizationId)))
  | .transaction supplier found paymentNumber =>
    if numberTaken s p.ctx.organizationId paymentNumber then (s, t.goto .done)
    else (recordPayment s p supplier found paymentNumber,
      t.goto (.postJournal s.vendorPayments.next paymentNumber))
  | .postJournal paymentId paymentNumber =>
    match postApPaymentToGL p paymentId paymentNumber s with
    | .ok journalId s => (s, t.goto (.markPosted paymentId journalId))
    | .error _ s => (s, t.goto .done)
  | .markPosted paymentId journalId =>
    (AccountsPayableService.markPosted s paymentId journalId, t.goto .done)
  | .done => (s, t)

end ApThread

theorem completes_settleGL (s : Books) (p : CreateApPayment) (paymentId : Id)
    (paymentNumber : String) :
    Completes ApThread.advance (·.stage = .done) s ⟨p, .postJournal paymentId paymentNumber⟩
      (final (settleGL p paymentId paymentNumber s)) := by
  unfold settleGL
  cases hpost : postApPaymentToGL p paymentId paymentNumber s with
  | ok journalId r =>
    have hstep : ApThread.advance s ⟨p, .postJournal paymentId paymentNumber⟩ =
        (r, ⟨p, .markPosted paymentId journalId⟩) := by
      simp only [ApThread.advance, hpost]
      rfl
    have hfinal : final (attempt (postApPaymentToGL p paymentId paymentNumber >>= fun journalId =>
        modify (markPosted · paymentId journalId)) s) = markPosted r paymentId journalId := by
      simp only [attempt, final, Bind.bind, EStateM.bind, hpost]
      rfl
    exact hfinal ▸ .step hstep (.step rfl (.of_ended rfl))
  | error e r =>
    have hstep : ApThread.advance s ⟨p, .postJournal paymentId paymentNumber⟩ =
        (r, ⟨p, .done⟩) := by
      simp only [ApThread.advance, hpost]
      rfl
    have hfinal : final (attempt (postApPaymentToGL p paymentId paymentNumber >>= fun journalId =>
        modify (markPosted · paymentId journalId)) s) = r := by
      simp only [attempt, final, Bind.bind, EStateM.bind, hpost]
    exact hfinal ▸ .step hstep (.of_ended rfl)

/-- The statements of a payment, run alone, do what `createApPayment` does. -/
theorem completes_createApPayment (s : Books) (p : CreateApPayment) :
    Completes ApThread.advance (·.stage = .done) s { payment := p }
      (final (createApPayment p s)) := by
  unfold createApPayment
  rw [final_get]
  cases hsupplier : findSupplier s p with
  | none =>
    have hstep : ApThread.advance s { payment := p } = (s, ⟨p, .done⟩) := by
      simp only [ApThread.advance, hsupplier]
      rfl
    rw [final_need_none]
    exact .step hstep (.of_ended rfl)
  | some supplier =>
    rw [final_need_some]
    cases hrequest : requestError p with
    | some e =>
      have hstep : ApThread.advance s { payment := p } = (s, ⟨p, .done⟩) := by
        simp only [ApThread.advance, hsupplier, hrequest]
        rfl
      rw [final_reject_some]
      exact .step hstep (.of_ended rfl)
    | none =>
      have hread : ApThread.advance s { payment := p } = (s, ⟨p, .findBills supplier⟩) := by
        simp only [ApThread.advance, hsupplier, hrequest]
        rfl
      rw [final_reject_none]
      refine .step hread ?_
      cases hbills : billsError (findBills s p) p with
      | some e =>
        have hstep : ApThread.advance s ⟨p, .findBills supplier⟩ = (s, ⟨p, .done⟩) := by
          simp only [ApThread.advance, hbills]
          rfl
        rw [final_reject_some]
        exact .step hstep (.of_ended rfl)
      | none =>
        have hfound : ApThread.advance s ⟨p, .findBills supplier⟩ =
            (s, ⟨p, .readNumber supplier (findBills s p)⟩) := by
          simp only [ApThread.advance, hbills]
          rfl
        rw [final_reject_none, final_ensure]
        refine .step hfound (.step rfl ?_)
        by_cases htaken :
          numberTaken s p.ctx.organizationId (nextPaymentNumber s p.ctx.organizationId) = true
        · have hstep : ApThread.advance s
              ⟨p, .transaction supplier (findBills s p)
                (nextPaymentNumber s p.ctx.organizationId)⟩ = (s, ⟨p, .done⟩) := by
            simp only [ApThread.advance, ApThread.goto, htaken, if_true]
          rw [htaken]
          exact .step hstep (.of_ended rfl)
        · rw [Bool.not_eq_true] at htaken
          have hrecord : ApThread.advance s
              ⟨p, .transaction supplier (findBills s p)
                (nextPaymentNumber s p.ctx.organizationId)⟩ =
              (recordPayment s p supplier (findBills s p)
                (nextPaymentNumber s p.ctx.organizationId),
                ⟨p, .postJournal s.vendorPayments.next
                (nextPaymentNumber s p.ctx.organizationId)⟩) := by
            simp only [ApThread.advance, ApThread.goto, htaken, Bool.false_eq_true, if_false]
          rw [htaken, Bool.not_false, if_pos rfl, final_bind_modify, final_bind_pure]
          refine .step hrecord ?_
          exact completes_settleGL _ p s.vendorPayments.next _

-- ---
-- The invariant
-- ---

/-- The amount is within the bill's total and its status says which part is open. -/
structure BillStands (bill : VendorBill) : Prop where
  nonneg : 0 ≤ bill.outstandingAmount
  within : bill.outstandingAmount ≤ bill.totalAmount
  paid : bill.status = .paid ↔ bill.outstandingAmount = 0
  partiallyPaid : bill.status = .partiallyPaid ↔
    0 < bill.outstandingAmount ∧ bill.outstandingAmount < bill.totalAmount

/-- Every bill leaves open what is not allocated to it, and stands right. -/
def BillsAgree (s : Books) : Prop :=
  bills.Balanced BillStands (s.vendorBills, s.vendorPaymentAllocations)

/-- Paying a bill in part or in full. -/
theorem billStands_settle (bill : VendorBill) (m : Cents) (h : BillStands bill) (hpos : 0 < m)
    (hle : m ≤ bills.outstanding bill) :
    BillStands (bills.settle (bills.outstanding bill - m) (bills.outstanding bill - m ≤ 0)
      bill) := by
  obtain ⟨_, hwithin, _, _⟩ := h
  simp only [bills] at hle ⊢
  constructor
  · simp only
    linarith
  · simp only
    linarith
  · by_cases hzero : bill.outstandingAmount - m ≤ 0
    · simp only [hzero, decide_true, if_true, true_iff]
      linarith
    · simp only [hzero, decide_false, Bool.false_eq_true, if_false, reduceCtorEq, false_iff]
      exact fun heq => hzero (le_of_eq heq)
  · by_cases hzero : bill.outstandingAmount - m ≤ 0
    · simp only [hzero, decide_true, if_true, reduceCtorEq, false_iff]
      exact fun hopen => absurd hopen.1 (not_lt_of_ge hzero)
    · simp only [hzero, decide_false, Bool.false_eq_true, if_false, true_iff]
      exact ⟨lt_of_not_ge hzero, by linarith⟩

theorem recordPayment_agrees (h : BillsAgree s)
    (hread : bills.AsRead s.vendorBills found p.dto.allocations)
    (hcovered : ∀ alloc ∈ p.dto.allocations, bills.Covered found p.dto.supplierId alloc) :
    BillsAgree (recordPayment s p supplier found paymentNumber) :=
  DocumentKind.allocateAll_balanced ⟨fun _ => rfl, fun _ => rfl⟩ billStands_settle h hread hcovered

-- ---
-- Interleavings
-- ---

theorem BillsAgree.congr (h : BillsAgree s) (hbills : t.vendorBills = s.vendorBills)
    (hallocations : t.vendorPaymentAllocations = s.vendorPaymentAllocations) : BillsAgree t := by
  rw [BillsAgree, hbills, hallocations]
  exact h

/-- Posting to the ledger touches journals alone. -/
theorem postApPaymentToGL_final (p : CreateApPayment) (paymentId : Id) (paymentNumber : String)
    (s : Books) :
    (final (postApPaymentToGL p paymentId paymentNumber s)).vendorBills = s.vendorBills ∧
      (final (postApPaymentToGL p paymentId paymentNumber s)).vendorPaymentAllocations =
        s.vendorPaymentAllocations := by
  have hatomic : Atomic (postApPaymentToGL p paymentId paymentNumber) :=
    Reads.get.then fun s => (Reads.need _ _).then fun accounts =>
      LedgerService.createJournal_atomic _ _ _ _
  refine hatomic.elim (P := fun t => t.vendorBills = s.vendorBills ∧
    t.vendorPaymentAllocations = s.vendorPaymentAllocations) ⟨rfl, rfl⟩ ?_
  intro journalId t hpost
  simp only [postApPaymentToGL, bind_ok, get_ok, need_ok] at hpost
  obtain ⟨_, _, ⟨rfl, rfl⟩, accounts, _, ⟨_, rfl⟩, hjournal⟩ := hpost
  obtain ⟨_, _, rfl⟩ := LedgerService.createJournal_ok hjournal
  exact ⟨rfl, rfl⟩

namespace ApThread

/-- What the statements before have checked. -/
def Holds (t : ApThread) : Prop :=
  match t.stage with
  | .findBills _ => requestError t.payment = none
  | .readNumber _ found | .transaction _ found _ =>
    ∀ alloc ∈ t.payment.dto.allocations, bills.Covered found t.payment.dto.supplierId alloc
  | _ => True

/-- The transaction about to run finds its bills as they were read, names each once
and pays whole cents. -/
def asRead (s : Books) (t : ApThread) : Prop :=
  match t.stage with
  | .transaction _ found _ => bills.AsRead s.vendorBills found t.payment.dto.allocations
  | _ => True

instance : (t : ApThread) → Decidable (t.asRead s)
  | ⟨p, .transaction _ found _⟩ =>
    inferInstanceAs (Decidable (bills.AsRead s.vendorBills found p.dto.allocations))
  | ⟨_, .findSupplier⟩ | ⟨_, .findBills _⟩ | ⟨_, .readNumber _ _⟩ | ⟨_, .postJournal _ _⟩
  | ⟨_, .markPosted _ _⟩ | ⟨_, .done⟩ => inferInstanceAs (Decidable True)

theorem Holds.advance (h : Holds t) (s : Books) : Holds (t.advance s).2 := by
  obtain ⟨p, stage⟩ := t
  cases stage with
  | findSupplier =>
    simp only [ApThread.advance]
    split
    · assumption
    · trivial
  | findBills supplier =>
    simp only [ApThread.advance]
    split
    · exact DocumentKind.covered_of_errors h ‹_›
    · trivial
  | readNumber supplier found => exact h
  | transaction supplier found paymentNumber =>
    simp only [ApThread.advance]
    split <;> trivial
  | postJournal paymentId paymentNumber =>
    simp only [ApThread.advance]
    split <;> trivial
  | markPosted paymentId journalId | done => trivial

theorem advance_agrees {t : ApThread} (h : BillsAgree s) (hholds : t.Holds) (hread : t.asRead s) :
    BillsAgree (t.advance s).1 := by
  obtain ⟨p, stage⟩ := t
  cases stage with
  | findSupplier | findBills supplier =>
    simp only [advance]
    split <;> exact h
  | transaction supplier found paymentNumber =>
    simp only [advance]
    split
    · exact h
    · exact recordPayment_agrees h hread hholds
  | postJournal paymentId paymentNumber =>
    have hfinal := postApPaymentToGL_final p paymentId paymentNumber s
    simp only [advance]
    cases hpost : postApPaymentToGL p paymentId paymentNumber s with
    | ok journalId r | error e r =>
      rw [hpost] at hfinal
      exact h.congr hfinal.1 hfinal.2
  | markPosted paymentId journalId => exact h.congr rfl rfl
  | readNumber supplier found | done => exact h

end ApThread

def requested (s : Books) (payments : List CreateApPayment) : Pool Books ApThread :=
  ⟨s, payments.map fun payment => { payment }⟩

/-- The thread about to move is not to pay bills that changed since it read them. -/
def paysAsRead (p : Pool Books ApThread) (i : Nat) : Prop := ∀ t ∈ p.threads[i]?, t.asRead p.shared

instance : Decidable (paysAsRead p i) := inferInstanceAs (Decidable (∀ t ∈ p.threads[i]?, _))

/-- An approved bill over 100.00. -/
def owing : Books where
  suppliers := Table.empty.insert { orgId := 0, branchId := none }
  vendorBills := Table.empty.insert
    { orgId := 0, branchId := none, supplierId := 0, status := .approved, totalAmount := 10000
      outstandingAmount := 10000 }

/-- A payment of the amounts to the one bill. -/
def paying (amounts : List Amount) : CreateApPayment where
  ctx := ⟨0, 0⟩
  userId := 0
  dto :=
    { supplierId := 0, amount := amounts.sum
      allocations := amounts.map fun amount => ⟨0, amount⟩ }

def afterTurns (s : Books) (payments : List CreateApPayment) (turns : List Nat) : Books :=
  (turns.foldl (Pool.step ApThread.advance) (requested s payments)).shared

theorem owing_agrees : BillsAgree owing := by
  intro billId bill hbill
  simp only [owing, Table.get?_insert, Table.get?_empty] at hbill
  split at hbill
  · rename_i hnext
    cases hbill
    cases hnext
    refine ⟨by decide, ?_⟩
    constructor <;> decide
  · cases hbill

end NimbusPos.AccountsPayableService
