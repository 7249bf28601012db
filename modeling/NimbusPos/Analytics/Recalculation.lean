import NimbusPos.Analytics.Service

/-!
# Recalculating anomalies

A recalculation adds one event for every incident that it finds, whatever events there are. So
an incident keeps to one event as long as no two recalculations find it.
-/

namespace NimbusPos.AnalyticsService

open Lib

/-- What an event is about: a till session, a shift or the spike of a staff member, under one rule
in one branch. -/
structure Incident where
  ruleId : Id
  branchId : Id
  entityType : RiskEntityType
  entityId : Id
  deriving DecidableEq, Repr

def AnomalyEvent.incident (event : AnomalyEvent) : Option Incident :=
  event.ruleId.map fun ruleId => ⟨ruleId, event.branchId, event.entityType, event.entityId⟩

def AnalyticsStore.eventsOf (s : AnalyticsStore) (i : Incident) : Nat :=
  s.anomalyEvents.count fun _ event => event.incident == some i

/-- Some rows, and as many as the threshold. -/
def Reaches (rows : Nat) (threshold : Int) : Prop := 0 < rows ∧ threshold ≤ rows * 100

/-- An incident of a rule in the window before a time. -/
inductive Finds (s : AnalyticsStore) (branchId : Id) (now : Time) (rule : AnomalyRule) :
    RiskEntityType → Id → Prop
  | voids : rule.type = .voidSpike →
      Reaches (s.orders.count fun _ order =>
        isVoidWithin branchId (rule.since 60 now) order && order.userId == userId)
        (rule.threshold 5) →
      Finds s branchId now rule .staff userId
  | discounts : rule.type = .discountAbuse →
      Reaches (s.discounts.count fun _ row =>
        row.within branchId (rule.since 60 now) && row.createdById == userId)
        (rule.threshold 5) →
      Finds s branchId now rule .staff userId
  | refunds : rule.type = .refundSpike →
      Reaches (s.refunds.count fun _ row =>
        row.within branchId (rule.since 60 now) && row.createdById == userId)
        (rule.threshold 3) →
      Finds s branchId now rule .staff userId
  | variance : rule.type = .cashVariance → s.tillSessions.get? sessionId = some session →
      isCashVariance branchId (rule.since 480 now) (rule.threshold 500) session = true →
      Finds s branchId now rule .till sessionId
  | lateClose : rule.type = .lateClose → s.shifts.get? shiftId = some shift →
      isLateClose branchId (rule.since 1440 now) (rule.threshold 12) shift = true →
      Finds s branchId now rule .shift shiftId

-- ---
-- One rule
-- ---

def Detection.entity (data : Detection) : RiskEntityType × Id := (data.entityType, data.entityId)

/-- What the detector of a rule creates events for. -/
def found (s : AnalyticsStore) (rule : AnomalyRule) (ctx : BranchContext) (now : Time) :
    List Detection :=
  match rule.type with
  | .voidSpike => voidSpikes s rule ctx now
  | .discountAbuse => grantSpikes s.discounts rule 5 ctx now
  | .cashVariance => cashVariances s rule ctx now
  | .lateClose => lateCloses s rule ctx now
  | .refundSpike => grantSpikes s.refunds rule 3 ctx now
  | _ => []

theorem evaluate_eq (s : AnalyticsStore) (rule : Id × AnomalyRule) (ctx : BranchContext)
    (now : Time) : evaluate s rule ctx now = createEach s ctx rule now (found s rule.2 ctx now) := by
  unfold evaluate found
  cases rule.2.type <;> rfl

theorem mem_spikes {userIds : List Id} :
    entity ∈ (spikes userIds threshold).map Detection.entity ↔
      ∃ userId, entity = (.staff, userId) ∧ Reaches (userIds.count userId) threshold := by
  simp only [spikes, Reaches, Detection.entity, List.map_map, List.mem_map, List.mem_filter,
    List.mem_dedup, decide_eq_true_eq, Function.comp_apply, List.count_pos_iff]
  constructor
  · rintro ⟨userId, hmem, rfl⟩
    exact ⟨userId, rfl, hmem⟩
  · rintro ⟨userId, rfl, hmem⟩
    exact ⟨userId, hmem, rfl⟩

theorem spikes_nodup (userIds : List Id) (threshold : Int) :
    ((spikes userIds threshold).map Detection.entity).Nodup := by
  rw [spikes, List.map_map]
  refine List.Nodup.map (fun a b h => ?_) ((List.nodup_dedup userIds).filter _)
  exact (Prod.mk.inj h).2

/-- The rows of one user among those of a query. -/
theorem count_users {t : Table α} (p : Nat → α → Bool) (user : α → Id) (userId : Id) :
    ((t.findMany p).map fun row => user row.2).count userId =
      t.count fun k a => p k a && user a == userId := by
  rw [List.count, List.countP_map, Table.count, Table.findMany, Table.findMany,
    List.countP_eq_length_filter, List.filter_filter]
  simp only [Function.comp_apply, Bool.and_comm]

/-- Sessions and shifts are found at most once, each under its own key. -/
theorem rows_nodup {t : Table α} {p : Nat → α → Bool} {data : Nat × α → Detection}
    (h : ∀ row, (data row).entity = (type, row.1)) :
    (((t.findMany p).map data).map Detection.entity).Nodup := by
  have hkeys := Table.findMany_keys t p
  rw [List.map_map]
  refine List.Nodup.of_map Prod.snd ?_
  simpa [List.map_map, Function.comp_def, h] using hkeys

theorem mem_rows {t : Table α} {p : Nat → α → Bool} {data : Nat × α → Detection}
    (h : ∀ row, (data row).entity = (type, row.1)) :
    entity ∈ ((t.findMany p).map data).map Detection.entity ↔
      ∃ k a, entity = (type, k) ∧ t.get? k = some a ∧ p k a = true := by
  simp only [List.map_map, List.mem_map, Function.comp_apply, h, Prod.exists, Table.mem_findMany]
  constructor
  · rintro ⟨k, a, hrow, rfl⟩
    exact ⟨k, a, rfl, hrow⟩
  · rintro ⟨k, a, rfl, hrow⟩
    exact ⟨k, a, hrow, rfl⟩

variable {s : AnalyticsStore} {rule : AnomalyRule} {ctx : BranchContext} {now : Time}

theorem found_nodup : ((found s rule ctx now).map Detection.entity).Nodup := by
  unfold found
  split
  · exact spikes_nodup _ _
  · exact spikes_nodup _ _
  · exact rows_nodup fun _ => rfl
  · exact rows_nodup fun _ => rfl
  · exact spikes_nodup _ _
  · exact .nil

/-- The detectors find what the rule is about. -/
theorem mem_found :
    (type, entityId) ∈ (found s rule ctx now).map Detection.entity ↔
      Finds s ctx.branchId now rule type entityId := by
  constructor
  · intro h
    unfold found at h
    split at h
    · rename_i htype
      obtain ⟨userId, heq, hreaches⟩ := mem_spikes.mp h
      cases heq
      exact .voids htype (count_users _ Order.userId _ ▸ hreaches)
    · rename_i htype
      obtain ⟨userId, heq, hreaches⟩ := mem_spikes.mp h
      cases heq
      exact .discounts htype (count_users _ Grant.createdById _ ▸ hreaches)
    · rename_i htype
      obtain ⟨sessionId, session, heq, hget, hvariance⟩ := (mem_rows fun _ => rfl).mp h
      cases heq
      exact .variance htype hget hvariance
    · rename_i htype
      obtain ⟨shiftId, shift, heq, hget, hlate⟩ := (mem_rows fun _ => rfl).mp h
      cases heq
      exact .lateClose htype hget hlate
    · rename_i htype
      obtain ⟨userId, heq, hreaches⟩ := mem_spikes.mp h
      cases heq
      exact .refunds htype (count_users _ Grant.createdById _ ▸ hreaches)
    · cases h
  · intro h
    cases h with
    | voids htype hreaches =>
      simp only [found, htype]
      exact mem_spikes.mpr ⟨_, rfl, count_users _ Order.userId _ ▸ hreaches⟩
    | discounts htype hreaches =>
      simp only [found, htype]
      exact mem_spikes.mpr ⟨_, rfl, count_users _ Grant.createdById _ ▸ hreaches⟩
    | refunds htype hreaches =>
      simp only [found, htype]
      exact mem_spikes.mpr ⟨_, rfl, count_users _ Grant.createdById _ ▸ hreaches⟩
    | variance htype hget hvariance =>
      simp only [found, htype]
      exact (mem_rows fun _ => rfl).mpr ⟨_, _, rfl, hget, hvariance⟩
    | lateClose htype hget hlate =>
      simp only [found, htype]
      exact (mem_rows fun _ => rfl).mpr ⟨_, _, rfl, hget, hlate⟩

-- ---
-- One recalculation
-- ---

structure RecalculateCall where
  ctx : BranchContext
  now : Id → Time

def AnalyticsStore.recalculate (s : AnalyticsStore) (call : RecalculateCall) : AnalyticsStore :=
  (recalculateAnomalies s call.ctx call.now).1

/-- A rule that the call evaluates finds the incident. -/
def RecalculateCall.Finds (call : RecalculateCall) (s : AnalyticsStore) (i : Incident) : Prop :=
  i.branchId = call.ctx.branchId ∧ ∃ rule, (i.ruleId, rule) ∈ s.activeRules call.ctx ∧
    AnalyticsService.Finds s i.branchId (call.now i.ruleId) rule i.entityType i.entityId

/-- The events that some rules create. -/
def made (s : AnalyticsStore) (ctx : BranchContext) (now : Id → Time)
    (rules : List (Id × AnomalyRule)) : List AnomalyEvent :=
  rules.flatMap fun rule =>
    (found s rule.2 ctx (now rule.1)).map (eventRow ctx rule (now rule.1))

theorem createEach_events (s : AnalyticsStore) (ctx : BranchContext) (rule : Id × AnomalyRule)
    (now : Time) (data : List Detection) :
    (createEach s ctx rule now data).1 =
      { s with
        anomalyEvents := (data.map (eventRow ctx rule now)).foldl Table.insert s.anomalyEvents } := by
  simp only [createEach]
  induction data generalizing s with
  | nil => rfl
  | cons d data ih =>
    rw [List.foldl_cons, ih]
    rfl

theorem evaluateAll_append (ctx : BranchContext) (now : Id → Time)
    (rules : List (Id × AnomalyRule)) (rule : Id × AnomalyRule) (s : AnalyticsStore) :
    (evaluateAll ctx now (rules ++ [rule]) s).1 =
      (evaluate (evaluateAll ctx now rules s).1 rule ctx (now rule.1)).1 := by
  simp [evaluateAll]

/-- Detectors read no events, so what a rule finds does not depend on the rules before it. -/
theorem evaluateAll_events (s : AnalyticsStore) (ctx : BranchContext) (now : Id → Time)
    (rules : List (Id × AnomalyRule)) :
    (evaluateAll ctx now rules s).1 =
      { s with anomalyEvents := (made s ctx now rules).foldl Table.insert s.anomalyEvents } := by
  induction rules using List.reverseRecOn with
  | nil => rfl
  | append_singleton rules rule ih =>
    have hfound (events : Table AnomalyEvent) :
        found { s with anomalyEvents := events } rule.2 ctx (now rule.1) =
          found s rule.2 ctx (now rule.1) := rfl
    have hmade : made s ctx now (rules ++ [rule]) = made s ctx now rules ++
        (found s rule.2 ctx (now rule.1)).map (eventRow ctx rule (now rule.1)) := by
      simp [made]
    rw [evaluateAll_append, ih, evaluate_eq, createEach_events, hfound, hmade, List.foldl_append]

theorem recalculate_eq (s : AnalyticsStore) (call : RecalculateCall) :
    s.recalculate call =
      { s with
        anomalyEvents :=
          (made s call.ctx call.now (s.activeRules call.ctx)).foldl Table.insert
            s.anomalyEvents } :=
  evaluateAll_events s call.ctx call.now (s.activeRules call.ctx)

variable {now : Id → Time} {rules : List (Id × AnomalyRule)}

theorem incident_eventRow (ctx : BranchContext) (rule : Id × AnomalyRule) (time : Time)
    (data : Detection) :
    (eventRow ctx rule time data).incident =
      some ⟨rule.1, ctx.branchId, data.entity.1, data.entity.2⟩ := rfl

theorem made_nodup (hkeys : (rules.map Prod.fst).Nodup) :
    ((made s ctx now rules).map AnomalyEvent.incident).Nodup := by
  rw [made, List.map_flatMap, List.nodup_flatMap]
  constructor
  · rintro rule -
    rw [List.map_map]
    refine List.Nodup.of_map (fun i => i.map fun i => (i.entityType, i.entityId)) ?_
    have hfound : ((found s rule.2 ctx (now rule.1)).map Detection.entity).Nodup := found_nodup
    have hentities := hfound.map (Option.some_injective _)
    simpa [List.map_map, Function.comp_def, incident_eventRow] using hentities
  · refine (List.pairwise_map.mp hkeys).imp fun {a b} hne => ?_
    refine List.disjoint_left.mpr fun i ha hb => ?_
    simp only [List.mem_map] at ha hb
    obtain ⟨_, ⟨_, -, rfl⟩, rfl⟩ := ha
    obtain ⟨_, ⟨_, -, rfl⟩, heq⟩ := hb
    rw [incident_eventRow, incident_eventRow] at heq
    simp only [Option.some.injEq, Incident.mk.injEq] at heq
    exact hne heq.1.symm

theorem mem_made (i : Incident) :
    some i ∈ (made s ctx now rules).map AnomalyEvent.incident ↔
      i.branchId = ctx.branchId ∧ ∃ rule, (i.ruleId, rule) ∈ rules ∧
        Finds s ctx.branchId (now i.ruleId) rule i.entityType i.entityId := by
  simp only [made, List.map_flatMap, List.mem_flatMap, List.map_map, List.mem_map,
    Function.comp_apply, incident_eventRow, Option.some.injEq]
  constructor
  · rintro ⟨rule, hrule, data, hdata, rfl⟩
    exact ⟨rfl, rule.2, hrule, mem_found.mp (List.mem_map.mpr ⟨data, hdata, rfl⟩)⟩
  · rintro ⟨hbranch, rule, hrule, hfinds⟩
    obtain ⟨data, hdata, hentity⟩ := List.mem_map.mp (mem_found.mpr hfinds)
    refine ⟨_, hrule, data, hdata, ?_⟩
    rw [hentity, ← hbranch]

open Classical in
/-- One recalculation adds one event for each incident that it finds. -/
theorem eventsOf_recalculate (s : AnalyticsStore) (call : RecalculateCall) (i : Incident) :
    (s.recalculate call).eventsOf i = s.eventsOf i + if call.Finds s i then 1 else 0 := by
  have hkeys : ((s.activeRules call.ctx).map Prod.fst).Nodup := Table.findMany_keys _ _
  have hnodup : ((made s call.ctx call.now (s.activeRules call.ctx)).map
      AnomalyEvent.incident).Nodup := made_nodup hkeys
  have hcount := hnodup.count (a := some i)
  rw [List.count, List.countP_map] at hcount
  rw [recalculate_eq, AnalyticsStore.eventsOf, AnalyticsStore.eventsOf, Table.count_foldl_insert]
  congr 1
  refine hcount.trans (if_congr ?_ rfl rfl)
  rw [mem_made, RecalculateCall.Finds]
  refine and_congr_right fun hbranch => ?_
  rw [hbranch]

-- ---
-- Any number of recalculations
-- ---

theorem finds_events (events : Table AnomalyEvent) :
    Finds { s with anomalyEvents := events } branchId time rule type entityId ↔
      Finds s branchId time rule type entityId := by
  have hfound : found { s with anomalyEvents := events } rule ⟨0, branchId⟩ time =
      found s rule ⟨0, branchId⟩ time := rfl
  have hafter : (type, entityId) ∈ (found { s with anomalyEvents := events } rule ⟨0, branchId⟩
      time).map Detection.entity ↔
        Finds { s with anomalyEvents := events } branchId time rule type entityId := mem_found
  rw [hfound] at hafter
  exact hafter.symm.trans mem_found

theorem finds_recalculate (s : AnalyticsStore) (call other : RecalculateCall) (i : Incident) :
    call.Finds (s.recalculate other) i ↔ call.Finds s i := by
  rw [recalculate_eq]
  refine and_congr_right fun _ => exists_congr fun rule => and_congr_right fun _ => ?_
  exact finds_events _

open Classical in
theorem eventsOf_run (s : AnalyticsStore) (calls : List RecalculateCall) (i : Incident) :
    (calls.foldl AnalyticsStore.recalculate s).eventsOf i =
      s.eventsOf i + calls.countP fun call => call.Finds s i := by
  induction calls generalizing s with
  | nil => rfl
  | cons call calls ih =>
    simp only [List.foldl_cons, ih, eventsOf_recalculate, finds_recalculate, List.countP_cons,
      decide_eq_true_eq]
    rw [Nat.add_assoc, Nat.add_comm (ite _ _ _)]

/-- No two elements have the property, where no more than one does. -/
theorem countP_le_one {p : α → Bool} {as : List α} :
    as.countP p ≤ 1 ↔ as.Pairwise fun a b => ¬(p a = true ∧ p b = true) := by
  induction as with
  | nil => simp
  | cons a as ih =>
    rw [List.countP_cons, List.pairwise_cons, ← ih]
    by_cases ha : p a = true
    · have hnone : as.countP p = 0 ↔ ∀ b ∈ as, ¬(p a = true ∧ p b = true) := by
        simp [List.countP_eq_zero, ha]
      rw [if_pos ha, ← hnone]
      omega
    · simp [ha]

/-- The events of earlier spikes. A session or a shift is one incident at all times, so none of
its events is of an earlier one. -/
def AnalyticsStore.past (start : AnalyticsStore) (i : Incident) : Nat :=
  if i.entityType = .staff then start.eventsOf i else 0

/-- No incident has more than one event, after calls from a start. -/
def OneEach (start s : AnalyticsStore) : Prop := ∀ i, s.eventsOf i ≤ start.past i + 1

theorem past_le (start : AnalyticsStore) (i : Incident) : start.past i ≤ start.eventsOf i := by
  rw [AnalyticsStore.past]
  split
  · exact Nat.le_refl _
  · exact Nat.zero_le _

/-- An incident keeps to one event exactly as long as no call finds one that has an event, and no
two calls find the same. -/
theorem one_event_each (start : AnalyticsStore) (calls : List RecalculateCall) :
    OneEach start (calls.foldl AnalyticsStore.recalculate start) ↔
      ∀ i, start.eventsOf i ≤ start.past i + 1 ∧
        (∀ call ∈ calls, call.Finds start i → start.eventsOf i = start.past i) ∧
        calls.Pairwise fun a b => ¬(a.Finds start i ∧ b.Finds start i) := by
  classical
  refine forall_congr' fun i => ?_
  have hpast := past_le start i
  have hnone : calls.countP (fun call => call.Finds start i) = 0 ↔
      ∀ call ∈ calls, ¬call.Finds start i := by simp [List.countP_eq_zero]
  have hone : calls.countP (fun call => call.Finds start i) ≤ 1 ↔
      calls.Pairwise fun a b => ¬(a.Finds start i ∧ b.Finds start i) := by
    simpa using countP_le_one (p := fun call : RecalculateCall => decide (call.Finds start i))
  rw [eventsOf_run, ← hone]
  constructor
  · intro h
    refine ⟨by omega, ?_, by omega⟩
    intro call hcall hfinds
    have hsome : calls.countP (fun call => call.Finds start i) ≠ 0 :=
      fun hzero => hnone.mp hzero call hcall hfinds
    omega
  · rintro ⟨hstart, hfresh, hcalls⟩
    by_cases hsome : ∃ call ∈ calls, call.Finds start i
    · obtain ⟨call, hcall, hfinds⟩ := hsome
      have hno := hfresh call hcall hfinds
      omega
    · have hzero := hnone.mpr fun call hcall hfinds => hsome ⟨call, hcall, hfinds⟩
      omega

-- ---
-- A session that is found again
-- ---

/-- A session closed 600.00 short, and a rule for all branches with nothing set. -/
def shortTill : AnalyticsStore :=
  { anomalyRules := Table.empty.insert
      { orgId := 0, code := "CASH-VAR-01", type := .cashVariance, severity := .high }
    tillSessions := Table.empty.insert
      { orgId := 0, branchId := 0, shiftId := 0, tillCode := "TILL-1", operatorUserId := 0
        openedAt := 0, closedAt := some 3600000, openingFloat := 0, expectedCash := 60000
        countedCash := some 0, variance := some (-60000), varianceStatus := some .short
        status := .closed } }

/-- A second recalculation, ten minutes after the first, creates a second event of the session. -/
theorem found_again :
    ¬OneEach shortTill ([⟨⟨0, 0⟩, fun _ => 3600000⟩, ⟨⟨0, 0⟩, fun _ => 4200000⟩].foldl
      AnalyticsStore.recalculate shortTill) := by
  intro h
  exact absurd (h ⟨0, 0, .till, 0⟩) (by decide +kernel)

end NimbusPos.AnalyticsService
