import NimbusPos.Billing.Calls

/-!
# One payment, one period

A reconciliation looks at the subscription only, so each report of a completed payment
may start a period, and a callback writes its status over any other. A payment starts
one period when it was recorded completed once by then.
-/

namespace NimbusPos.Billing

open Lib Lib.Program

namespace World

/-- A period is started by the only call that recorded its payment, and a callback finds
its payment not completed. -/
def onceRecorded (w : World) : Statement → Prop
  | .activateSubscription _ transactionId _ =>
    (w.confirmations.filter (·.1 == transactionId)).length = 1
  | .redirectTransaction transactionId _ => w.undoes transactionId = false
  | _ => True

instance (w : World) : (k : Statement) → Decidable (w.onceRecorded k)
  | .activateSubscription .. => inferInstanceAs (Decidable (_ = 1))
  | .redirectTransaction .. => inferInstanceAs (Decidable (_ = false))
  | .now | .findOrganization _ | .findPlanByCode _ | .findPlan _ | .updatePlan ..
  | .findSubscription _ | .findSubscriptionWithPlan _ | .findSubscribers _
  | .createSubscription _ | .updateSubscription .. | .countBranches _ | .countBranchesOf _
  | .findBranchByCode .. | .createBranch _ | .createIpnLog _ | .cancelInitiated _
  | .createTransaction _ | .findTransaction _ | .recordStatus .. => .isTrue trivial

/-- The call has started no period. -/
def unstarted (i : Nat) (w : World) : Prop := ∀ period ∈ w.periods, period.call ≠ i

end World

/-- No payment started two periods, and no callback moved a completed one back. -/
structure OnePeriod (w : World) : Prop where
  once : ∀ transactionId, (w.periods.filter (·.transactionId == transactionId)).length ≤ 1
  kept : w.undone = []

structure Recorded (w : World) : Prop extends OnePeriod w where
  confirmed : ∀ period ∈ w.periods, (period.transactionId, period.call) ∈ w.confirmations

variable {w v : World} {i : Nat}

/-- What call `i` may rely on: confirmations stay, and others start its periods for it
never. -/
def recording (i : Nat) : Service.Frame World where
  rel w v := w.confirmations ⊆ v.confirmations ∧
    ∀ period ∈ v.periods, period.call = i → period ∈ w.periods
  refl _ := ⟨fun _ h => h, fun _ h _ => h⟩
  trans h h' := ⟨List.Subset.trans h.1 h'.1, fun period hmem hcall =>
    h.2 period (h'.2 period hmem hcall) hcall⟩

theorem unstarted_rely (h : w.unstarted i) (hrely : (recording i).rel w v) : v.unstarted i :=
  fun period hmem hcall => h period (hrely.2 period hmem hcall) hcall

/-- What an activation needs: the call recorded the payment, and has started nothing. -/
def World.recorded (i : Nat) (w : World) (k : Statement) : Prop :=
  ∀ orgId transactionId now, k = .activateSubscription orgId transactionId now →
    (transactionId, i) ∈ w.confirmations ∧ w.unstarted i

theorem recorded_plain {k : Statement} (hk : k.starts = false) : w.recorded i k := by
  rintro orgId transactionId now rfl
  cases hk

-- ---
-- One statement
-- ---

theorem exec_confirmations (i : Nat) (w : World) (k : Statement) :
    w.confirmations ⊆ (w.exec i k).1.confirmations := by
  cases k with
  | recordStatus transactionId record =>
    intro confirmation hmem
    simp only [World.exec]
    split
    · exact List.mem_cons_of_mem _ hmem
    · exact hmem
  | _ => exact fun _ hmem => hmem

theorem exec_periods_plain (w : World) {k : Statement} (hk : k.starts = false) :
    (w.exec i k).1.periods = w.periods := by
  cases k with
  | activateSubscription orgId transactionId now => cases hk
  | _ => rfl

/-- A new period is the call's own. -/
theorem exec_periods (w : World) (k : Statement) :
    (w.exec i k).1.periods = w.periods ∨ ∃ orgId transactionId now subscribed,
      k = .activateSubscription orgId transactionId now ∧
        (w.exec i k).1.periods = ⟨transactionId, i, subscribed⟩ :: w.periods := by
  cases k with
  | activateSubscription orgId transactionId now =>
    simp only [World.exec]
    cases w.store.findSubscription orgId with
    | none => exact .inl rfl
    | some row => exact .inr ⟨orgId, transactionId, now, row.purchase, rfl, rfl⟩
  | _ => exact .inl rfl

theorem exec_undone (w : World) {k : Statement} (honce : w.onceRecorded k) :
    (w.exec i k).1.undone = w.undone := by
  cases k with
  | redirectTransaction transactionId pesapalTxnId =>
    have hundoes : w.undoes transactionId = false := honce
    simp only [World.exec, hundoes, Bool.false_eq_true, if_false]
  | _ => rfl

theorem recording_exec (w : World) (k : Statement) {j : Nat} (hj : j ≠ i) :
    (recording j).rel w (w.exec i k).1 := by
  refine ⟨exec_confirmations i w k, fun period hmem hcall => ?_⟩
  rcases exec_periods w k with hsame | ⟨_, _, _, _, _, hnew⟩
  · exact hsame ▸ hmem
  · rw [hnew] at hmem
    rcases List.mem_cons.mp hmem with rfl | hmem
    · exact absurd hcall.symm hj
    · exact hmem

/-- The only recording of a payment is the call's that starts its period. -/
theorem Recorded.fresh (h : Recorded w) (hmem : (transactionId, i) ∈ w.confirmations)
    (hunstarted : w.unstarted i)
    (honce : (w.confirmations.filter (·.1 == transactionId)).length = 1) :
    w.periods.filter (·.transactionId == transactionId) = [] := by
  obtain ⟨confirmation, hone⟩ := List.length_eq_one_iff.mp honce
  have honly (call : Nat) (hcall : (transactionId, call) ∈ w.confirmations) :
      (transactionId, call) = confirmation := by
    have hfilter : (transactionId, call) ∈ w.confirmations.filter (·.1 == transactionId) :=
      List.mem_filter.mpr ⟨hcall, beq_self_eq_true _⟩
    rw [hone] at hfilter
    exact List.mem_singleton.mp hfilter
  refine List.filter_eq_nil_iff.mpr fun period hperiod hfor => ?_
  obtain rfl := beq_iff_eq.mp hfor
  have hsame := (honly _ (h.confirmed period hperiod)).trans (honly i hmem).symm
  exact hunstarted period hperiod (Prod.ext_iff.mp hsame).2

theorem Recorded.exec (h : Recorded w) (hneeds : w.recorded i k) (honce : w.onceRecorded k) :
    Recorded (w.exec i k).1 := by
  have hkept : (w.exec i k).1.undone = [] := (exec_undone w honce).trans h.kept
  rcases exec_periods w k with hsame | ⟨orgId, transactionId, now, subscribed, rfl, hnew⟩
  · refine ⟨⟨fun transactionId => ?_, hkept⟩, fun period hmem => ?_⟩
    · rw [hsame]
      exact h.once transactionId
    · exact exec_confirmations i w k (h.confirmed period (hsame ▸ hmem))
  · obtain ⟨hmem, hunstarted⟩ := hneeds orgId transactionId now rfl
    have hfresh := h.fresh hmem hunstarted honce
    refine ⟨⟨fun other => ?_, hkept⟩, fun period hperiod => ?_⟩
    · rw [hnew, List.filter_cons]
      split
      · rename_i hother
        obtain rfl := beq_iff_eq.mp hother
        rw [hfresh]
        exact Nat.le_refl 1
      · exact h.once other
    · rw [hnew] at hperiod
      rcases List.mem_cons.mp hperiod with rfl | hperiod
      · exact hmem
      · exact h.confirmed period hperiod

-- ---
-- Calls
-- ---

def recordingDiscipline : Discipline World.exec where
  inv := Recorded
  rely := recording
  needs := World.recorded
  allowed := World.onceRecorded
  keeps _ w k h hneeds honce := ⟨h.exec hneeds honce, fun _ hj => recording_exec w k hj⟩

/-- A statement of a call that has started no period. -/
theorem unstarted_statement {k : Statement} {f : k.Answer → BillingProgram α}
    (hunstarted : w.unstarted i) (hk : k.starts = false)
    (hnext : ∀ v a, w.confirmations ⊆ v.confirmations → v.unstarted i →
      (f a).Safe recordingDiscipline i (fun _ _ => True) v) :
    (query k >>= f).Safe recordingDiscipline i (fun _ _ => True) w := by
  refine safe_statement (fun v _ _ => recorded_plain hk) fun v hwv _ _ => ?_
  have hunstarted' : (v.exec i k).1.unstarted i := by
    rw [World.unstarted, exec_periods_plain v hk]
    exact unstarted_rely hunstarted hwv
  have hsub := List.Subset.trans hwv.1 (exec_confirmations i v k)
  cases (v.exec i k).2 with
  | ok a => exact hnext _ a hsub hunstarted'
  | error e => trivial

theorem activate_recorded (orgId : Id) (hmem : (transactionId, i) ∈ w.confirmations)
    (hunstarted : w.unstarted i) :
    (BillingPesapalService.activate orgId transactionId).Safe recordingDiscipline i
      (fun _ _ => True) w := by
  refine unstarted_statement hunstarted rfl fun v sub hwv hunstarted => ?_
  split
  · refine unstarted_statement hunstarted rfl fun u now hvu hunstarted => ?_
    intro t hrely _
    refine ⟨?_, fun _ => trivial⟩
    rintro _ _ _ ⟨⟩
    exact ⟨hrely.1 (hvu (hwv hmem)), unstarted_rely hunstarted hrely⟩
  · trivial

theorem reconcile_recorded (orderTrackingId : String)
    (report : Option BillingPesapalService.StatusReport) (hunstarted : w.unstarted i) :
    (BillingPesapalService.reconcileTransactionStatus orderTrackingId report).Safe
      recordingDiscipline i (fun _ _ => True) w := by
  refine unstarted_statement hunstarted rfl fun v found _ hunstarted =>
    safe_need ?_ fun _ => trivial
  rintro ⟨transactionId, txn⟩ -
  refine safe_need (fun report _ => ?_) fun _ => trivial
  refine unstarted_statement hunstarted rfl fun u now _ hunstarted => ?_
  refine safe_statement (fun _ _ _ => recorded_plain rfl) fun t hut _ _ => safe_bind ?_
  have hsettled : (BillingPesapalService.settle report.newStatus txn.orgId transactionId).Safe
      recordingDiscipline i (fun _ _ => True)
      (t.exec i (.recordStatus transactionId
        { status := report.newStatus, paymentMethod := report.paymentMethod
          paymentAccount := report.paymentAccount, now })).1 := by
    unfold BillingPesapalService.settle
    split
    · rename_i hcompleted
      have hunstarted' : t.unstarted i := unstarted_rely hunstarted hut
      refine activate_recorded txn.orgId ?_ hunstarted'
      simp [World.exec, hcompleted]
    · trivial
  exact hsettled.mono fun result _ _ => by cases result <;> trivial

-- ---
-- Every interleaving
-- ---

theorem recorded_wait (w : World) (ms : Nat) (h : Recorded w) :
    Recorded (w.wait ms) ∧ ∀ i, (recording i).rel w (w.wait ms) :=
  ⟨⟨⟨h.once, h.kept⟩, h.confirmed⟩, fun i => (recording i).refl w⟩

end NimbusPos.Billing
