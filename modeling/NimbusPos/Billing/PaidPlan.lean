import NimbusPos.Billing.Calls

/-!
# The plan that was paid for

A transaction keeps an amount and no plan. A subscription that a payment turns active
has the plan of the payment's checkout as long as a checkout is for what is subscribed
to, and nothing else is subscribed to once there was a checkout.
-/

namespace NimbusPos.Billing

open Lib Lib.Program

namespace World

def purchase? (w : World) (transactionId : Id) : Option Purchase :=
  (w.checkouts.get? transactionId).map (·.purchase)

/-- Every checkout of the organisation was for this. -/
def onlyBought (w : World) (orgId : Id) (purchase : Purchase) : Bool :=
  w.store.pesapalTransactions.count (fun k row =>
    row.orgId == orgId && w.purchase? k != some purchase) == 0

/-- The organisation is subscribed to this, if to anything. -/
def onlySubscribed (w : World) (orgId : Id) (purchase : Purchase) : Bool :=
  w.store.subscriptions.count (fun _ row => row.orgId == orgId && row.purchase != purchase) == 0

/-- Every checkout of the organisation was for its plan in this cycle. -/
def onlyCycle (w : World) (orgId : Id) (billingCycle : BillingCycle) : Bool :=
  w.store.subscriptions.count (fun _ row =>
    row.orgId == orgId && !w.onlyBought orgId ⟨row.planId, billingCycle⟩) == 0

/-- A checkout is for what is subscribed to, and what is subscribed to is what was
checked out. -/
def buysSubscribed (w : World) : Statement → Prop
  | .createTransaction checkout => w.onlySubscribed checkout.orgId checkout.purchase = true
  | .createSubscription row => w.onlyBought row.orgId row.purchase = true
  | .updateSubscription orgId (.plan planId billingCycle) =>
    w.onlyBought orgId ⟨planId, billingCycle⟩ = true
  | .updateSubscription orgId (.cycle billingCycle) => w.onlyCycle orgId billingCycle = true
  | _ => True

instance (w : World) : (k : Statement) → Decidable (w.buysSubscribed k)
  | .createTransaction _ => inferInstanceAs (Decidable (_ = true))
  | .createSubscription _ => inferInstanceAs (Decidable (_ = true))
  | .updateSubscription _ (.plan _ _) => inferInstanceAs (Decidable (_ = true))
  | .updateSubscription _ (.cycle _) => inferInstanceAs (Decidable (_ = true))
  | .updateSubscription _ (.status ..) => .isTrue trivial
  | .now | .findOrganization _ | .findPlanByCode _ | .findPlan _ | .updatePlan ..
  | .findSubscription _ | .findSubscriptionWithPlan _ | .findSubscribers _
  | .activateSubscription .. | .countBranches _ | .countBranchesOf _ | .findBranchByCode ..
  | .createBranch _ | .createIpnLog _ | .cancelInitiated _ | .findTransaction _
  | .redirectTransaction .. | .recordStatus .. => .isTrue trivial

end World

/-- What a period was paid with: the subscription turned active was to the plan, and in
the cycle, whose price was the amount of its transaction. -/
structure PaidFor (w : World) (period : Period) (row : PesapalTransaction) (checkout : Checkout) :
    Prop where
  transaction : w.store.pesapalTransactions.get? period.transactionId = some row
  checkedOut : w.checkouts.get? period.transactionId = some checkout
  amount : row.amount = checkout.plan.price checkout.billingCycle
  subscribed : period.subscribed = checkout.purchase

def AllPaidFor (w : World) : Prop :=
  ∀ period ∈ w.periods, ∃ row checkout, PaidFor w period row checkout

/-- Every checkout of a subscriber was for what is subscribed to. -/
structure Matched (w : World) : Prop where
  next : w.checkouts.next = w.store.pesapalTransactions.next
  charged : ∀ k row, w.store.pesapalTransactions.get? k = some row → ∃ checkout,
    w.checkouts.get? k = some checkout ∧ row.amount = checkout.plan.price checkout.billingCycle
  bought : ∀ j subscription, w.store.subscriptions.get? j = some subscription →
    w.onlyBought subscription.orgId subscription.purchase = true
  paid : AllPaidFor w

variable {w v : World}

theorem onlyBought_iff : w.onlyBought orgId purchase = true ↔
    ∀ k row, w.store.pesapalTransactions.get? k = some row → row.orgId = orgId →
      w.purchase? k = some purchase := by
  simp [World.onlyBought, Table.count_eq_zero]

theorem onlySubscribed_iff : w.onlySubscribed orgId purchase = true ↔
    ∀ j row, w.store.subscriptions.get? j = some row → row.orgId = orgId →
      row.purchase = purchase := by
  simp [World.onlySubscribed, Table.count_eq_zero]

theorem onlyCycle_iff : w.onlyCycle orgId billingCycle = true ↔
    ∀ j row, w.store.subscriptions.get? j = some row → row.orgId = orgId →
      w.onlyBought orgId ⟨row.planId, billingCycle⟩ = true := by
  simp [World.onlyCycle, Table.count_eq_zero]

theorem onlyBought_same
    (hrows : SameCharges w.store v.store) (hcheckouts : v.checkouts = w.checkouts)
    (h : w.onlyBought orgId purchase = true) : v.onlyBought orgId purchase = true := by
  refine onlyBought_iff.mpr fun k row' hget horg => ?_
  obtain ⟨row, hrow, hcharge⟩ := hrows.back hget
  rw [World.purchase?, hcheckouts]
  exact onlyBought_iff.mp h k row hrow ((Prod.ext_iff.mp hcharge).1.symm.trans horg)

theorem PaidFor.kept (h : PaidFor w period row checkout)
    (hrows : SameCharges w.store v.store) (hcheckouts : v.checkouts = w.checkouts) :
    ∃ row', PaidFor v period row' checkout := by
  obtain ⟨row', hrow', hcharge⟩ := hrows.forth h.transaction
  exact ⟨row', hrow', hcheckouts ▸ h.checkedOut, (Prod.ext_iff.mp hcharge).2.trans h.amount,
    h.subscribed⟩

-- ---
-- One statement
-- ---

namespace Matched

/-- A statement that leaves what the transactions charge. -/
theorem moves (h : Matched w)
    (hrows : SameCharges w.store v.store) (hcheckouts : v.checkouts = w.checkouts)
    (hbought : ∀ j row, v.store.subscriptions.get? j = some row →
      w.onlyBought row.orgId row.purchase = true)
    (hpaid : ∀ period ∈ v.periods, ∃ row checkout, PaidFor w period row checkout) : Matched v where
  next := by rw [hcheckouts, h.next, hrows.2]
  charged k row' hget := by
    obtain ⟨row, hrow, hcharge⟩ := hrows.back hget
    obtain ⟨checkout, hcheckout, hamount⟩ := h.charged k row hrow
    exact ⟨checkout, hcheckouts ▸ hcheckout, (Prod.ext_iff.mp hcharge).2.trans hamount⟩
  bought j row hget := onlyBought_same hrows hcheckouts (hbought j row hget)
  paid period hmem := by
    obtain ⟨row, checkout, hperiod⟩ := hpaid period hmem
    obtain ⟨row', hkept⟩ := hperiod.kept hrows hcheckouts
    exact ⟨row', checkout, hkept⟩

/-- And the subscriptions. -/
theorem same (h : Matched w)
    (hrows : SameCharges w.store v.store) (hcheckouts : v.checkouts = w.checkouts)
    (hsubscriptions : v.store.subscriptions = w.store.subscriptions)
    (hperiods : v.periods = w.periods) : Matched v :=
  h.moves hrows hcheckouts (fun j row hget => h.bought j row (hsubscriptions ▸ hget))
    fun period hmem => h.paid period (hperiods ▸ hmem)

theorem createSubscription (h : Matched w) (hbuys : w.buysSubscribed (.createSubscription row)) :
    Matched (w.exec i (.createSubscription row)).1 := by
  have hstore : (w.exec i (.createSubscription row)).1.store =
    (w.store.exec (.createSubscription row)).1 := rfl
  rcases exec_createSubscription w.store row with hexec | hexec
  all_goals
    rw [hexec] at hstore
  · exact h.same (hstore ▸ .refl _) rfl (by rw [hstore]) rfl
  · refine h.moves (by rw [hstore]; exact .refl _) rfl (fun j other hget => ?_) h.paid
    rw [hstore, Table.get?_insert] at hget
    split at hget
    · cases hget
      exact hbuys
    · exact h.bought j other hget

/-- What an update of a subscription leaves to be bought. -/
theorem updates {data : Subscription → Subscription} (h : Matched w)
    (hrows : v.store.pesapalTransactions = w.store.pesapalTransactions)
    (hcheckouts : v.checkouts = w.checkouts)
    (hsubscriptions : v.store.subscriptions =
      w.store.subscriptions.updateWhere (fun _ row => row.orgId == orgId) data)
    (horg : ∀ row, (data row).orgId = row.orgId)
    (hbuys : ∀ j row, w.store.subscriptions.get? j = some row → row.orgId = orgId →
      w.onlyBought orgId (data row).purchase = true)
    (hpaid : ∀ period ∈ v.periods, ∃ row checkout, PaidFor w period row checkout) : Matched v := by
  have hcharges : SameCharges w.store v.store := by
    rw [SameCharges, hrows]
    exact .refl _
  refine h.moves hcharges hcheckouts (fun j row' hget => ?_) hpaid
  rw [hsubscriptions, Table.get?_updateWhere, Option.map_eq_some_iff] at hget
  obtain ⟨row, hrow, rfl⟩ := hget
  split
  · rename_i hmatches
    obtain rfl := beq_iff_eq.mp hmatches
    exact horg row ▸ hbuys j row hrow rfl
  · exact h.bought j row hrow

theorem updateSubscription (h : Matched w) (change : SubscriptionChange)
    (hbuys : w.buysSubscribed (.updateSubscription orgId change)) :
    Matched (w.exec i (.updateSubscription orgId change)).1 := by
  refine h.updates rfl rfl rfl (fun row => ?_) (fun j row hget horg => ?_) h.paid
  · cases change <;> rfl
  · cases change with
    | plan planId billingCycle => exact hbuys
    | status target now cancelReason gracePeriodDays => exact horg ▸ h.bought j row hget
    | cycle billingCycle => exact onlyCycle_iff.mp hbuys j row hget horg

/-- The period that is started is of what was bought. -/
theorem activateSubscription (h : Matched w)
    (hrow : w.store.pesapalTransactions.get? transactionId = some row) (horg : row.orgId = orgId) :
    Matched (w.exec i (.activateSubscription orgId transactionId now)).1 := by
  let data (row : Subscription) : Subscription :=
    { row with status := .active, currentPeriodStart := now }
  have hsubscriptions :
      (w.exec i (.activateSubscription orgId transactionId now)).1.store.subscriptions =
    w.store.subscriptions.updateWhere (fun _ row => row.orgId == orgId) data := rfl
  refine h.updates rfl rfl hsubscriptions (fun _ => rfl) (fun j other hget hother =>
    hother ▸ h.bought j other hget) fun period hmem => ?_
  simp only [World.exec] at hmem
  cases hfind : w.store.findSubscription orgId with
  | none => exact h.paid period (by simpa [hfind] using hmem)
  | some subscription =>
    rw [hfind] at hmem
    rcases List.mem_cons.mp hmem with rfl | hmem
    · obtain ⟨⟨j, _⟩, hfound, rfl⟩ := Option.map_eq_some_iff.mp hfind
      obtain ⟨hget, hsub⟩ := Table.findFirst_some hfound
      have hbought := onlyBought_iff.mp (h.bought j _ hget) transactionId row hrow
        (horg.trans (beq_iff_eq.mp hsub).symm)
      obtain ⟨checkout, hcheckout, hamount⟩ := h.charged transactionId row hrow
      rw [World.purchase?, hcheckout] at hbought
      exact ⟨row, checkout, hrow, hcheckout, hamount, (Option.some.inj hbought).symm⟩
    · exact h.paid period hmem

theorem createTransaction (h : Matched w) (hbuys : w.buysSubscribed (.createTransaction checkout)) :
    Matched (w.exec i (.createTransaction checkout)).1 := by
  rcases exec_createTransaction i w checkout with hexec | hexec <;> rw [hexec]
  · exact h
  · refine ⟨by simp [h.next], fun k row hget => ?_, fun j row hget => ?_, fun period hmem => ?_⟩
    · rw [Table.get?_insert] at hget ⊢
      rw [h.next]
      by_cases hk : k = w.store.pesapalTransactions.next
      · rw [if_pos hk] at hget ⊢
        cases hget
        exact ⟨checkout, rfl, rfl⟩
      · rw [if_neg hk] at hget ⊢
        exact h.charged k row hget
    · refine onlyBought_iff.mpr fun k transaction htransaction horg => ?_
      rw [Table.get?_insert] at htransaction
      rw [World.purchase?, Table.get?_insert, h.next]
      by_cases hk : k = w.store.pesapalTransactions.next
      · rw [if_pos hk] at htransaction ⊢
        cases htransaction
        exact congrArg some (onlySubscribed_iff.mp hbuys j row hget horg.symm).symm
      · rw [if_neg hk] at htransaction ⊢
        exact onlyBought_iff.mp (h.bought j row hget) k transaction htransaction horg
    · obtain ⟨row, other, hpaid⟩ := h.paid period hmem
      exact ⟨row, other, Table.get?_insert_of_some hpaid.transaction,
        Table.get?_insert_of_some hpaid.checkedOut, hpaid.amount, hpaid.subscribed⟩

/-- A statement that writes neither a checkout, a subscription nor a period. -/
theorem exec (h : Matched w) (hbuys : w.buysSubscribed k)
    (hpays : ∀ orgId transactionId now, k = .activateSubscription orgId transactionId now →
      ∃ row, w.store.pesapalTransactions.get? transactionId = some row ∧ row.orgId = orgId) :
    Matched (w.exec i k).1 := by
  cases k with
  | createSubscription row => exact h.createSubscription hbuys
  | updateSubscription orgId change => exact h.updateSubscription change hbuys
  | createTransaction checkout => exact h.createTransaction hbuys
  | activateSubscription orgId transactionId now =>
    obtain ⟨row, hrow, horg⟩ := hpays orgId transactionId now rfl
    exact h.activateSubscription hrow horg
  | cancelInitiated orgId => exact h.same (.updateWhere fun _ => rfl) rfl rfl rfl
  | redirectTransaction transactionId pesapalTxnId | recordStatus transactionId record =>
    refine h.same (.update ?_) rfl rfl rfl
    exact fun _ => rfl
  | createBranch row =>
    have hstore : (w.exec i (.createBranch row)).1.store = (w.store.exec (.createBranch row)).1 :=
      rfl
    rcases exec_createBranch w.store row with hexec | hexec
    all_goals
      rw [hexec] at hstore
      exact h.same (by rw [hstore]; exact .refl _) rfl (by rw [hstore]) rfl
  | _ => exact h.same (.refl _) rfl rfl rfl

end Matched

-- ---
-- Calls
-- ---

/-- The transaction stays, and whom it charges. -/
def World.charges (w : World) (orgId transactionId : Id) : Prop :=
  ∃ row, w.store.pesapalTransactions.get? transactionId = some row ∧ row.orgId = orgId

def charging : Service.Frame World where
  rel w v := ∀ orgId transactionId, w.charges orgId transactionId → v.charges orgId transactionId
  refl _ _ _ h := h
  trans h h' orgId transactionId hw := h' orgId transactionId (h orgId transactionId hw)

theorem charging_exec (i : Nat) (w : World) (k : Statement) : charging.rel w (w.exec i k).1 := by
  rintro orgId transactionId ⟨row, hget, horg⟩
  rcases exec_charges w.store k with hsame | ⟨checkout, hinsert⟩
  · obtain ⟨row', hget', hcharge⟩ := hsame.forth hget
    exact ⟨row', hget', (Prod.ext_iff.mp hcharge).1.trans horg⟩
  · refine ⟨row, ?_, horg⟩
    show (w.store.exec k).1.pesapalTransactions.get? transactionId = some row
    rw [hinsert]
    exact Table.get?_insert_of_some hget

def World.pays (w : World) (k : Statement) : Prop :=
  ∀ orgId transactionId now, k = .activateSubscription orgId transactionId now →
    w.charges orgId transactionId

def payingDiscipline : Discipline World.exec where
  inv := Matched
  rely _ := charging
  needs _ := World.pays
  allowed := World.buysSubscribed
  keeps i w k h hpays hbuys := ⟨h.exec hbuys hpays, fun _ _ => charging_exec i w k⟩

theorem pays_plain {k : Statement} (hk : k.starts = false) : w.pays k := by
  rintro orgId transactionId now rfl
  cases hk

/-- A statement of a call that has found its transaction. -/
theorem charging_statement {k : Statement} {f : k.Answer → BillingProgram α}
    (hcharges : w.charges orgId transactionId) (hk : k.starts = false)
    (hnext : ∀ v a, v.charges orgId transactionId →
      (f a).Safe payingDiscipline i (fun _ _ => True) v) :
    (query k >>= f).Safe payingDiscipline i (fun _ _ => True) w := by
  refine safe_statement (fun v _ _ => pays_plain hk) fun v hwv _ _ => ?_
  have hcharges' := charging_exec i v k _ _ (hwv _ _ hcharges)
  cases (v.exec i k).2 with
  | ok a => exact hnext _ a hcharges'
  | error e => trivial

theorem reconcile_charging (orderTrackingId : String)
    (report : Option BillingPesapalService.StatusReport) (w : World) :
    (BillingPesapalService.reconcileTransactionStatus orderTrackingId report).Safe payingDiscipline
      i (fun _ _ => True) w := by
  refine safe_read (fun v => v.store.pesapalTransactions.findFirst fun _ row =>
    row.orderTrackingId == orderTrackingId) (fun _ => rfl) (fun _ _ _ => pays_plain rfl)
    fun v _ _ => safe_need ?_ fun _ => trivial
  rintro ⟨transactionId, txn⟩ hfound
  have hcharges : v.charges txn.orgId transactionId :=
    ⟨txn, (Table.findFirst_some hfound).1, rfl⟩
  refine safe_need (fun report _ => ?_) fun _ => trivial
  refine charging_statement hcharges rfl fun u now hcharges => ?_
  refine charging_statement hcharges rfl fun t _ hcharges => safe_bind ?_
  have hsettled (status : PesapalTxnStatus) :
      (BillingPesapalService.settle status txn.orgId transactionId).Safe payingDiscipline i
        (fun _ _ => True) t := by
    unfold BillingPesapalService.settle
    split
    · refine charging_statement hcharges rfl fun s sub hcharges => ?_
      split
      · refine charging_statement hcharges rfl fun r now hcharges => ?_
        intro q hrq _
        refine ⟨?_, fun _ => trivial⟩
        rintro _ _ _ ⟨⟩
        exact hrq _ _ hcharges
      · trivial
    · trivial
  exact (hsettled _).mono fun result _ _ => by cases result <;> trivial

-- ---
-- Every interleaving
-- ---

/-- No payment was begun yet. -/
def Unpaid (s : Store) : Prop := s.pesapalTransactions = .empty

theorem Unpaid.matched {s : Store} (h : Unpaid s) : Matched { store := s } where
  next := by rw [h]; rfl
  charged k row hget := by
    rw [h] at hget
    cases hget
  bought j subscription _ := by
    refine onlyBought_iff.mpr fun k row hget => ?_
    rw [h] at hget
    cases hget
  paid _ hmem := by cases hmem

theorem matched_wait (w : World) (ms : Nat) (h : Matched w) :
    Matched (w.wait ms) ∧ ∀ _ : Nat, charging.rel w (w.wait ms) :=
  ⟨h.same (.refl _) rfl rfl rfl, fun _ => charging.refl w⟩

/-- In any interleaving, a period is of the plan and the cycle that its transaction paid
for. -/
theorem pool_paid {s : Store} (hstart : Unpaid s)
    (hrun : Run take (fun p t => t.asks World.buysSubscribed p) (requested s calls) turns p) :
    AllPaidFor p.shared := by
  have hsafe : SafePool payingDiscipline (fun _ _ _ => True) (requested s calls) := by
    refine ⟨hstart.matched, fun i x hx => ?_⟩
    obtain ⟨call, -, rfl⟩ := requested_call hx
    exact program_safe (fun _ _ hk _ => pays_plain hk) (fun _ => True) (fun _ _ _ _ => trivial)
      (fun _ _ _ => trivial) (fun orderTrackingId report w _ =>
        reconcile_charging orderTrackingId report w) call trivial
  exact (hsafe.run (fun _ _ _ _ _ _ => trivial) matched_wait hrun).inv.paid

/-- A checkout and its payment, and the same again when the subscription is past due. -/
theorem pool_paid_twice :
    let calls := [checksOut "solo" "MONTHLY" "t1", paidNotice "t1", becomes .pastDue,
      checksOut "solo" "MONTHLY" "t2", paidNotice "t2"]
    let turns := times 6 0 ++ times 7 1 ++ times 3 2 ++ times 4 3 ++ times 7 4
    let p := turns.foldl take (requested catalog calls)
    p.shared.periods.length = 2 ∧ AllPaidFor p.shared := by
  intro calls turns p
  have hrun : Run take (fun p t => t.asks World.buysSubscribed p) (requested catalog calls)
      turns p := Run.of_holds (by decide +kernel)
  have hstart : Unpaid catalog := rfl
  exact ⟨by decide +kernel, pool_paid hstart hrun⟩

theorem AllPaidFor.bought (h : AllPaidFor w) :
    ∀ period ∈ w.periods, w.purchase? period.transactionId = some period.subscribed := by
  intro period hmem
  obtain ⟨row, checkout, hpaid⟩ := h period hmem
  rw [World.purchase?, hpaid.checkedOut, hpaid.subscribed]
  rfl

/-- After a checkout of one plan, a year of another is paid: the subscription turns
active on the first. -/
theorem pool_unpaid : ¬∀ (s : Store) (calls : List BillingCall) (turns : List Turn)
    (p : BillingPool), Unpaid s → Run take (fun _ _ => True) (requested s calls) turns p →
      AllPaidFor p.shared := by
  intro h
  let calls := [checksOut "solo" "MONTHLY" "t1", checksOut "growth" "ANNUAL" "t2", paidNotice "t2"]
  let turns := times 6 0 ++ times 4 1 ++ times 7 2
  have hpaid := h catalog calls turns (turns.foldl take (requested catalog calls)) rfl
    (Run.of_holds (by decide +kernel))
  exact absurd hpaid.bought (by decide +kernel)

end NimbusPos.Billing
