import NimbusPos.Billing.Calls

/-!
# The cap of locations

The cap of a plan is checked by a count before the write, and not at all when a
subscription is made or, for some of its subscribers, when the cap is lowered. An
organisation stays within its cap as long as each of these writes finds what a check
would ask for.
-/

namespace NimbusPos.Billing

open Lib Lib.Program

namespace Store

/-- What `createBranch` asks of an organisation. -/
def mayAddBranch (s : Store) (orgId : Id) : Bool :=
  (s.findSubscription orgId).all fun row =>
    (s.plans.get? row.planId).all fun plan => decide (s.activeBranches orgId < plan.maxBranches)

/-- What `enforcePlanLimitsOnChange` asks. -/
def fitsPlan (s : Store) (orgId planId : Id) : Bool :=
  (s.plans.get? planId).all fun plan => decide (s.activeBranches orgId ≤ plan.maxBranches)

/-- No subscriber of the plan in one of the statuses has more locations than a cap. -/
def noOffenders (s : Store) (planId : Id) (newCap : Nat) (statuses : SubscriptionStatus → Bool) :
    Bool :=
  s.subscriptions.count (fun _ row => row.planId == planId && statuses row.status &&
    decide (newCap < s.activeBranches row.orgId)) == 0

/-- A check passes when its write comes, a first checkout is of a plan that the
locations fit, and a lower cap fits the subscribers that are not looked at. -/
def hasRoom (s : Store) : Statement → Prop
  | .createBranch row => s.mayAddBranch row.organizationId = true
  | .createSubscription row => s.fitsPlan row.orgId row.planId = true
  | .updateSubscription orgId (.plan planId _) => s.fitsPlan orgId planId = true
  | .updatePlan planId dto => ∀ newCap ∈ dto.maxLocations,
    s.noOffenders planId newCap SubscriptionStatus.counted = true ∧
      s.noOffenders planId newCap (fun status => !status.counted) = true
  | _ => True

instance (s : Store) : (k : Statement) → Decidable (s.hasRoom k)
  | .createBranch _ => inferInstanceAs (Decidable (_ = true))
  | .createSubscription _ => inferInstanceAs (Decidable (_ = true))
  | .updateSubscription _ (.plan ..) => inferInstanceAs (Decidable (_ = true))
  | .updatePlan .. => inferInstanceAs (Decidable (∀ _ ∈ _, _ = true ∧ _ = true))
  | .updateSubscription _ (.status ..) | .updateSubscription _ (.cycle _) => .isTrue trivial
  | .now | .findOrganization _ | .findPlanByCode _ | .findPlan _ | .findSubscription _
  | .findSubscriptionWithPlan _ | .findSubscribers _ | .activateSubscription ..
  | .countBranches _ | .countBranchesOf _ | .findBranchByCode .. | .createIpnLog _
  | .cancelInitiated _ | .createTransaction _ | .findTransaction _ | .redirectTransaction ..
  | .recordStatus .. => .isTrue trivial

end Store

/-- Every subscribed organisation is within the cap of its plan. -/
def Capped (s : Store) : Prop :=
  ∀ orgId row plan, s.findSubscription orgId = some row → s.plans.get? row.planId = some plan →
    s.activeBranches orgId ≤ plan.maxBranches

variable {s t : Store}

-- ---
-- One statement
-- ---

theorem fitsPlan_iff : s.fitsPlan orgId planId = true ↔
    ∀ plan, s.plans.get? planId = some plan → s.activeBranches orgId ≤ plan.maxBranches := by
  simp [Store.fitsPlan, Option.all_eq_true]

theorem noOffenders_iff : s.noOffenders planId newCap statuses = true ↔
    ∀ j row, s.subscriptions.get? j = some row → row.planId = planId →
      statuses row.status = true → s.activeBranches row.orgId ≤ newCap := by
  simp [Store.noOffenders, Table.count_eq_zero]

theorem findSubscription_row (h : s.findSubscription orgId = some row) :
    ∃ j, s.subscriptions.get? j = some row ∧ row.orgId = orgId := by
  obtain ⟨⟨j, _⟩, hfound, rfl⟩ := Option.map_eq_some_iff.mp h
  obtain ⟨hget, horg⟩ := Table.findFirst_some hfound
  exact ⟨j, hget, beq_iff_eq.mp horg⟩

theorem findSubscription_insert (s : Store) (row : Subscription) (orgId : Id) :
    ({ s with subscriptions := s.subscriptions.insert row } : Store).findSubscription orgId =
      (s.findSubscription orgId).or (if row.orgId = orgId then some row else none) := by
  simp only [Store.findSubscription, Table.findFirst_insert, beq_iff_eq]
  cases s.subscriptions.findFirst fun _ row => row.orgId == orgId <;> split <;> simp_all

theorem findSubscription_update {data : Subscription → Subscription}
    (horg : ∀ row, (data row).orgId = row.orgId) (s : Store) (orgId other : Id) :
    (s.updateSubscription orgId data).findSubscription other =
      (s.findSubscription other).map fun row => if row.orgId = orgId then data row else row := by
  have hsame (k : Nat) (row : Subscription) :
      ((data row).orgId == other) = (row.orgId == other) := by rw [horg]
  have hfirst := Table.findFirst_updateWhere (f := data) (p := fun _ row => row.orgId == other)
    s.subscriptions (fun _ row => row.orgId == orgId) hsame
  simp only [Store.findSubscription, Store.updateSubscription, hfirst, Option.map_map,
    Function.comp_def, beq_iff_eq]

namespace Capped

theorem congr (h : Capped s) (hsubscriptions : t.subscriptions = s.subscriptions)
    (hplans : t.plans = s.plans) (hbranches : t.branches = s.branches) : Capped t := by
  intro orgId row plan hfind hplan
  rw [Store.activeBranches, hbranches]
  exact h orgId row plan (by rwa [Store.findSubscription, hsubscriptions] at hfind) (hplans ▸ hplan)

theorem createBranch (h : Capped s) (hroom : s.mayAddBranch row.organizationId = true) :
    Capped { s with branches := s.branches.insert row } := by
  intro orgId subscription plan hfind hplan
  have hbefore := h orgId subscription plan hfind hplan
  have hcount : ({ s with branches := s.branches.insert row } : Store).activeBranches orgId =
      s.activeBranches orgId +
        if row.organizationId == orgId && row.status == .active then 1 else 0 :=
    Table.count_insert _ _ _
  rw [hcount]
  split
  · rename_i hadds
    obtain rfl : row.organizationId = orgId := beq_iff_eq.mp (Bool.and_eq_true_iff.mp hadds).1
    have hfind' : s.findSubscription row.organizationId = some subscription := hfind
    have hplan' : s.plans.get? subscription.planId = some plan := hplan
    have hlt : s.activeBranches row.organizationId < plan.maxBranches := by
      simpa [Store.mayAddBranch, hfind', hplan'] using hroom
    exact hlt
  · exact hbefore

theorem createSubscription (h : Capped s) (hroom : s.fitsPlan row.orgId row.planId = true) :
    Capped { s with subscriptions := s.subscriptions.insert row } := by
  intro orgId other plan hfind hplan
  rw [findSubscription_insert, Option.or_eq_some_iff] at hfind
  rcases hfind with hfind | ⟨-, hnew⟩
  · exact h orgId other plan hfind hplan
  · split at hnew
    · rename_i horg
      cases hnew
      exact horg ▸ fitsPlan_iff.mp hroom plan hplan
    · cases hnew

theorem updateSubscription {data : Subscription → Subscription} (h : Capped s)
    (horg : ∀ row, (data row).orgId = row.orgId)
    (hroom : ∀ row, s.findSubscription orgId = some row →
      s.fitsPlan orgId (data row).planId = true) :
    Capped (s.updateSubscription orgId data) := by
  intro other row' plan hfind hplan
  rw [findSubscription_update horg, Option.map_eq_some_iff] at hfind
  obtain ⟨row, hfind, rfl⟩ := hfind
  split at hplan
  · rename_i hown
    obtain ⟨-, -, hother⟩ := findSubscription_row hfind
    obtain rfl : orgId = other := hown.symm.trans hother
    exact fitsPlan_iff.mp (hroom row hfind) plan hplan
  · exact h other row plan hfind hplan

theorem updatePlan (h : Capped s) (hroom : s.hasRoom (.updatePlan planId dto)) :
    Capped { s with plans := s.plans.update planId dto.data } := by
  intro orgId row plan' hfind hplan
  have hfind' : s.findSubscription orgId = some row := hfind
  rcases Table.update_cases hplan with ⟨hupdated, plan, hget, rfl⟩ | ⟨-, hplan⟩
  · show s.activeBranches orgId ≤ dto.maxLocations.getD plan.maxBranches
    cases hcap : dto.maxLocations with
    | none => exact h orgId row plan hfind' hget
    | some newCap =>
      obtain ⟨hcounted, hothers⟩ := hroom newCap hcap
      obtain ⟨j, hrow, rfl⟩ := findSubscription_row hfind'
      cases hstatus : row.status.counted with
      | true => exact noOffenders_iff.mp hcounted j row hrow hupdated hstatus
      | false => exact noOffenders_iff.mp hothers j row hrow hupdated (by simp [hstatus])
  · exact h orgId row plan' hfind' hplan

theorem exec (h : Capped s) (hroom : s.hasRoom k) : Capped (s.exec k).1 := by
  cases k with
  | createBranch row =>
    rcases exec_createBranch s row with hexec | hexec <;> rw [hexec]
    · exact h
    · exact h.createBranch hroom
  | createSubscription row =>
    rcases exec_createSubscription s row with hexec | hexec <;> rw [hexec]
    · exact h
    · exact h.createSubscription hroom
  | updateSubscription orgId change =>
    refine h.updateSubscription (fun row => by cases change <;> rfl) fun row hfind => ?_
    cases change with
    | plan planId billingCycle => exact hroom
    | status _ _ _ _ | cycle _ =>
      exact fitsPlan_iff.mpr fun plan hplan => h orgId row plan hfind hplan
  | activateSubscription orgId transactionId now =>
    refine h.updateSubscription ?_ fun row hfind => ?_
    · exact fun _ => rfl
    · exact fitsPlan_iff.mpr fun plan hplan => h orgId row plan hfind hplan
  | updatePlan planId dto => exact h.updatePlan hroom
  | createTransaction checkout =>
    simp only [Store.exec, unlessTaken]
    split
    · exact h
    · exact h.congr rfl rfl rfl
  | _ => exact h.congr rfl rfl rfl

end Capped

-- ---
-- Every interleaving
-- ---

def cappedDiscipline : Discipline World.exec where
  inv w := Capped w.store
  rely _ := .same fun _ => ()
  needs _ _ _ := True
  allowed w := w.store.hasRoom
  keeps _ _ _ h _ hroom := ⟨h.exec hroom, fun _ _ => rfl⟩

theorem capped_wait (w : World) (ms : Nat) (h : Capped w.store) :
    Capped (w.wait ms).store ∧ ∀ i, (cappedDiscipline.rely i).rel w (w.wait ms) :=
  ⟨h.congr rfl rfl rfl, fun _ => rfl⟩

/-- In any interleaving, every subscribed organisation stays within its cap. -/
theorem pool_capped (hstart : Capped s)
    (hrun : Run take (fun p t => t.asks (fun w => w.store.hasRoom) p) (requested s calls) turns p) :
    Capped p.shared.store := by
  have hsafe : SafePool cappedDiscipline (fun _ _ _ => True) (requested s calls) :=
    ⟨hstart, fun i x _ => always_any (fun _ _ _ => trivial) x _⟩
  exact (hsafe.run (fun _ _ _ _ _ _ => trivial) capped_wait hrun).inv

theorem catalog_capped : Capped catalog := by
  intro orgId row plan hfind _
  cases hfind

/-- A checkout, a change to the larger plan, a second location while the cap of that
plan is lowered to two. -/
theorem pool_capped_grown :
    let calls := [checksOut "solo" "MONTHLY" "t1", .updateSubscription 0 { planCode := "growth" },
      .createBranch 0 { name := "Lake", code := some "L" },
      .updatePlan 1 { maxLocations := some 2 }]
    let turns := times 6 0 ++ times 4 1 ++ times 3 2 ++ times 4 3 ++ times 3 2
    let p := turns.foldl take (requested catalog calls)
    p.shared.store.activeBranches 0 = 2 ∧ Capped p.shared.store := by
  intro calls turns p
  have hrun : Run take (fun p t => t.asks (fun w => w.store.hasRoom) p) (requested catalog calls)
      turns p := Run.of_holds (by decide +kernel)
  exact ⟨by decide +kernel, pool_capped catalog_capped hrun⟩

theorem Capped.within (h : Capped s) (orgId : Id) : (s.findSubscription orgId).all (fun row =>
    (s.plans.get? row.planId).all fun plan => decide (s.activeBranches orgId ≤ plan.maxBranches)) =
    true := by
  cases hfind : s.findSubscription orgId with
  | none => rfl
  | some row => exact fitsPlan_iff.mpr fun plan hplan => h orgId row plan hfind hplan

/-- A second location before the first checkout, which is of the smaller plan. -/
theorem pool_uncapped :
    ¬∀ (s : Store) (calls : List BillingCall) (turns : List Turn) (p : BillingPool), Capped s →
      Run take (fun _ _ => True) (requested s calls) turns p → Capped p.shared.store := by
  intro h
  let calls := [.createBranch 0 { name := "Lake" }, checksOut "solo" "MONTHLY" "t1"]
  let turns := times 3 0 ++ times 6 1
  have hcapped := h catalog calls turns (turns.foldl take (requested catalog calls))
    catalog_capped (Run.of_holds (by decide +kernel))
  exact absurd (hcapped.within 0) (by decide +kernel)

end NimbusPos.Billing
