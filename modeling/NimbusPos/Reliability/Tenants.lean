import Mathlib.Data.List.Basic
import NimbusPos.Lib.Unwinding
import NimbusPos.Reliability.EffectOnce

/-!
# Keys of two tenants

The row of a key stores the organisation of its request, but the key alone says which
row a request finds. So what one organisation's requests leave behind answers another's
as soon as scope, key, method and path are the same. While no request finds a row of
another organisation, the answers to all others are the same whatever one organisation
asked.
-/

namespace NimbusPos.IdempotencyService

open Lib

variable {φ β σ ω : Type}

/-- The requests of each organisation, over one store. -/
structure Requests (φ β σ : Type) where
  shared : Backend β σ
  calls : Option Id → List (WrapThread φ β σ) := fun _ => []

/-- A request of a user of the organisation in its context, the next statement of one,
or time passing. -/
inductive TenantEvent (φ β σ : Type)
  | request (call : Call φ β σ)
  | step (orgId : Option Id) (i : Nat) (fate : Fate)
  | wait (ms : Nat)

def Requests.next (fingerprint : φ → String) (w : Requests φ β σ) :
    TenantEvent φ β σ → Requests φ β σ
  | .request call =>
    { w with
      calls := Function.update w.calls call.ctx.orgId (w.calls call.ctx.orgId ++ [{ call }]) }
  | .step orgId i fate =>
    let p := Pool.step (WrapThread.advance fingerprint fate) ⟨w.shared, w.calls orgId⟩ i
    { shared := p.shared, calls := Function.update w.calls orgId p.threads }
  | .wait ms => { w with shared := { w.shared with clock := w.shared.clock + ms } }

namespace WrapStage

def answer? : WrapStage β → Option (Answer β)
  | .done answer => some answer
  | _ => none

/-- The row that the statement is about. -/
def record? : WrapStage β → Option Id
  | .handler recordId | .complete recordId _ | .fail recordId _ => some recordId
  | _ => none

def looksUp : WrapStage β → Bool
  | .findUnique | .create => true
  | _ => false

/-- The same statement about another row. -/
def about (k : Id) : WrapStage β → WrapStage β
  | .handler _ => .handler k
  | .complete _ result => .complete k result
  | .fail _ error => .fail k error
  | stage => stage

end WrapStage

/-- What the callers of the organisation were answered so far. -/
def Requests.answers (w : Requests φ β σ) (orgId : Option Id) : List (Option (Answer β)) :=
  (w.calls orgId).map (·.stage.answer?)

section

variable (tenant : Id)

/-- The event is of another organisation. -/
def TenantEvent.others : TenantEvent φ β σ → Bool
  | .request call => call.ctx.orgId != some tenant
  | .step orgId _ _ => orgId != some tenant
  | .wait _ => true

/-- A request of another organisation that looks its key up finds no row of the tenant. -/
def findsNoRowOf (w : Requests φ β σ) : TenantEvent φ β σ → Prop
  | .step orgId i _ => orgId ≠ some tenant → ∀ t ∈ (w.calls orgId)[i]?, t.stage.looksUp = true →
      ∀ found ∈ findUnique w.shared t.call.ctx.identity, found.2.orgId ≠ some tenant
  | _ => True

instance (w : Requests φ β σ) : (e : TenantEvent φ β σ) → Decidable (findsNoRowOf tenant w e)
  | .step orgId i _ => inferInstanceAs (Decidable (orgId ≠ some tenant →
      ∀ t ∈ (w.calls orgId)[i]?, t.stage.looksUp = true →
        ∀ found ∈ findUnique w.shared t.call.ctx.identity, found.2.orgId ≠ some tenant))
  | .request _ | .wait _ => .isTrue trivial

/-- `view` is what the others see of the state the handlers work on. A handler of the
tenant leaves it as it is, and one of another organisation works on nothing else. -/
def Separate (view : σ → ω) (call : Call φ β σ) : Prop :=
  if call.ctx.orgId = some tenant then ∀ s, view (call.handler s).1 = view s
  else ∀ s t, view s = view t → (call.handler s).2 = (call.handler t).2 ∧
    view (call.handler s).1 = view (call.handler t).1

def TenantEvent.Separate (view : σ → ω) : TenantEvent φ β σ → Prop
  | .request call => IdempotencyService.Separate tenant view call
  | .step _ _ _ | .wait _ => True

-- ---
-- Rows
-- ---

/-- The row of a key, unless it is the tenant's. -/
def othersRow (s : Backend β σ) (identity : KeyIdentity) : Option (IdempotencyKey β) :=
  ((findUnique s identity).map (·.2)).filter (·.orgId != some tenant)

/-- What the other organisations see of the store. -/
structure Sight (β ω : Type) where
  clock : Time
  world : ω
  rows : KeyIdentity → Option (IdempotencyKey β)

def Backend.sight (view : σ → ω) (s : Backend β σ) : Sight β ω where
  clock := s.clock
  world := view s.world
  rows := othersRow tenant s

end

/-- The row is the one that the request inserted. -/
def Owned (s : Backend β σ) (ctx : IdempotencyContext φ) (recordId : Id) : Prop :=
  ∃ row, findUnique s ctx.identity = some (recordId, row) ∧ row.orgId = ctx.orgId

def WrapThread.Owns (s : Backend β σ) (t : WrapThread φ β σ) : Prop :=
  ∀ recordId ∈ t.stage.record?, Owned s t.call.ctx recordId

/-- The row that a request inserts. -/
def newRow (fingerprint : φ → String) (now : Time) (ctx : IdempotencyContext φ) :
    IdempotencyKey β where
  orgId := ctx.orgId
  actorUserId := ctx.actorUserId
  identity := ctx.identity
  requestHash := fingerprint ctx.fingerprintSource
  expiresAt := now + ctx.ttlSeconds.getD (24 * 60 * 60) * 1000

variable {fingerprint : φ → String} {tenant : Id} {view : σ → ω} {s r : Backend β σ}
  {ctx : IdempotencyContext φ} {t u : WrapThread φ β σ}

theorem findUnique_create (identity : KeyIdentity) :
    findUnique (create fingerprint s ctx) identity = (findUnique s identity).or
      (if ctx.identity == identity then some (s.keys.next, newRow fingerprint s.clock ctx)
        else none) :=
  Table.findFirst_insert _ _ _

theorem findUnique_complete (recordId : Id) (opts : CompleteOptions β) (identity : KeyIdentity) :
    findUnique (complete s recordId opts) identity = (findUnique s identity).map fun found =>
      (found.1, if found.1 = recordId then opts.rewrite s.clock found.2 else found.2) :=
  Table.findFirst_update _ _ fun _ _ => rfl

theorem findUnique_identity (h : findUnique s identity = some (k, row)) :
    s.keys.get? k = some row ∧ row.identity = identity := by
  obtain ⟨hget, hidentity⟩ := Table.findFirst_some h
  exact ⟨hget, beq_iff_eq.mp hidentity⟩

theorem Owned.create (h : Owned s ctx k) (other : IdempotencyContext φ) :
    Owned (create fingerprint s other) ctx k := by
  obtain ⟨row, hfound, horg⟩ := h
  exact ⟨row, by rw [findUnique_create, hfound, Option.some_or], horg⟩

theorem Owned.complete (h : Owned s ctx k) (recordId : Id) (opts : CompleteOptions β) :
    Owned (complete s recordId opts) ctx k := by
  obtain ⟨row, hfound, horg⟩ := h
  refine ⟨_, by rw [findUnique_complete, hfound]; rfl, ?_⟩
  by_cases hk : k = recordId
  · rw [if_pos hk]
    exact horg
  · rw [if_neg hk]
    exact horg

theorem owned_create (hnone : findUnique s ctx.identity = none) :
    Owned (create fingerprint s ctx) ctx s.keys.next :=
  ⟨newRow fingerprint s.clock ctx, by
    rw [findUnique_create, hnone, Option.none_or, if_pos (beq_self_eq_true _)], rfl⟩

theorem othersRow_create (hnone : findUnique s ctx.identity = none) (identity : KeyIdentity) :
    othersRow tenant (create fingerprint s ctx) identity =
      if ctx.identity = identity ∧ ctx.orgId ≠ some tenant then
        some (newRow fingerprint s.clock ctx)
      else othersRow tenant s identity := by
  unfold othersRow
  rw [findUnique_create]
  by_cases hidentity : ctx.identity = identity
  · subst hidentity
    rw [hnone, Option.none_or, if_pos (beq_self_eq_true _)]
    by_cases horg : ctx.orgId = some tenant
    · simp [newRow, horg]
    · simp [newRow, horg]
  · rw [if_neg (mt beq_iff_eq.mp hidentity), Option.or_none, if_neg fun h => hidentity h.1]

/-- Completing the row of a request changes what the others see of that row alone. -/
theorem othersRow_complete (howned : Owned s ctx k) (opts : CompleteOptions β)
    (identity : KeyIdentity) :
    othersRow tenant (complete s k opts) identity =
      if ctx.identity = identity then (othersRow tenant s identity).map (opts.rewrite s.clock)
      else othersRow tenant s identity := by
  obtain ⟨own, hown, -⟩ := howned
  unfold othersRow
  rw [findUnique_complete]
  by_cases hidentity : ctx.identity = identity
  · subst hidentity
    rw [hown, if_pos rfl]
    simp only [Option.map_some, if_true]
    cases horg : own.orgId != some tenant <;> simp [CompleteOptions.rewrite, Option.filter, horg]
  · rw [if_neg hidentity]
    cases hfound : findUnique s identity with
    | none => rfl
    | some found =>
      -- one row has one identity
      have hne : found.1 ≠ k := by
        rintro rfl
        obtain ⟨hget, hkey⟩ := findUnique_identity hfound
        obtain ⟨hget', hkey'⟩ := findUnique_identity hown
        cases hget.symm.trans hget'
        exact hidentity (hkey'.symm.trans hkey)
      simp only [Option.map_some, if_neg hne]

-- ---
-- One statement
-- ---

/-- What the next statement of a request does to the store. -/
inductive StoreStep (fingerprint : φ → String) (s : Backend β σ) (t : WrapThread φ β σ) :
    Backend β σ → Prop
  | reads : StoreStep fingerprint s t s
  | creates (hnone : findUnique s t.call.ctx.identity = none) :
      StoreStep fingerprint s t (create fingerprint s t.call.ctx)
  | handles : StoreStep fingerprint s t { s with world := (t.call.handler s.world).1 }
  | completes (hrecord : t.stage.record? = some k) (opts : CompleteOptions β) :
      StoreStep fingerprint s t (complete s k opts)

theorem StoreStep.write (fate : Fate) (h : StoreStep fingerprint s t r) :
    StoreStep fingerprint s t (fate.write s r) := by
  rcases fate.write_cases s r with hwrite | hwrite
  · rw [hwrite]
    exact h
  · rw [hwrite]
    exact .reads

theorem advance_store (fate : Fate) (s : Backend β σ) (t : WrapThread φ β σ) :
    StoreStep fingerprint s t (t.advance fingerprint fate s).1 := by
  cases hstage : t.stage with
  | findUnique =>
    simp only [WrapThread.advance, hstage]
    split <;> exact .reads
  | create =>
    simp only [WrapThread.advance, hstage]
    split
    · exact .reads
    · rename_i hnone
      exact .write fate (.creates (Option.not_isSome_iff_eq_none.mp hnone))
  | handler recordId =>
    have hhandles : StoreStep fingerprint s t { s with world := (t.call.handler s.world).1 } :=
      .handles
    simp only [WrapThread.advance, hstage]
    split <;> rename_i hrun <;> rw [hrun] at hhandles <;> exact hhandles
  | complete recordId result =>
    simp only [WrapThread.advance, hstage]
    exact .write fate (.completes (by rw [hstage]; rfl) _)
  | fail recordId error =>
    simp only [WrapThread.advance, hstage]
    exact .write fate (.completes (by rw [hstage]; rfl) _)
  | done answer =>
    simp only [WrapThread.advance, hstage]
    exact .reads

/-- A row stays the one that its request inserted. -/
theorem StoreStep.owned (h : StoreStep fingerprint s t r) (howned : Owned s ctx k) :
    Owned r ctx k := by
  cases h with
  | reads => exact howned
  | handles => exact howned
  | creates _ => exact howned.create t.call.ctx
  | completes _ opts => exact howned.complete _ opts

/-- What a tenant's request does the others do not see. -/
theorem StoreStep.sight_hidden (h : StoreStep fingerprint s t r) (howns : t.Owns s)
    (horg : t.call.ctx.orgId = some tenant) (hseparate : Separate tenant view t.call) :
    r.sight tenant view = s.sight tenant view := by
  cases h with
  | reads => rfl
  | handles =>
    rw [Separate, if_pos horg] at hseparate
    simp only [Backend.sight, hseparate]
    rfl
  | creates hnone =>
    have hrows : othersRow tenant (create fingerprint s t.call.ctx) = othersRow tenant s := by
      funext identity
      rw [othersRow_create hnone, if_neg fun hother => hother.2 horg]
    simp only [Backend.sight, hrows]
    rfl
  | @completes k hrecord opts =>
    have howned := howns k hrecord
    have hrows : othersRow tenant (complete s k opts) = othersRow tenant s := by
      funext identity
      rw [othersRow_complete howned]
      split
      · rename_i hidentity
        obtain ⟨row, hfound, hrow⟩ := howned
        have hnone : othersRow tenant s identity = none := by
          rw [othersRow, ← hidentity, hfound]
          simp [hrow, horg]
        rw [hnone]
        rfl
      · rfl
    simp only [Backend.sight, hrows]
    rfl

theorem existingHit_about (t : WrapThread φ β σ) (requestHash : String) (k : Id)
    (row : IdempotencyKey β) :
    (t.told (existingHit requestHash k row)).stage.record? = none := by
  unfold existingHit
  split
  · rfl
  · split <;> rfl

/-- A request completes the row that it inserted. -/
theorem advance_owns (fate : Fate) (howns : t.Owns s) :
    (t.advance fingerprint fate s).2.Owns (t.advance fingerprint fate s).1 := by
  have hcall := WrapThread.advance_call fingerprint fate s t
  intro k hk
  rw [hcall]
  cases hstage : t.stage with
  | findUnique =>
    simp only [WrapThread.advance, hstage] at hk
    split at hk
    · cases hk
    · rw [existingHit_about] at hk
      cases hk
    · cases hk
  | create =>
    simp only [WrapThread.advance, hstage] at hk ⊢
    split at hk
    · cases hk
    · rename_i hnone
      rw [if_neg hnone]
      cases fate with
      | applied =>
        cases hk
        exact owned_create (Option.not_isSome_iff_eq_none.mp hnone)
      | refused _ | unanswered _ => cases hk
  | handler recordId =>
    have howned : Owned s t.call.ctx recordId := howns recordId (by rw [hstage]; rfl)
    simp only [WrapThread.advance, hstage] at hk ⊢
    split at hk <;> cases hk <;> exact howned
  | complete recordId result =>
    have howned : Owned s t.call.ctx recordId := howns recordId (by rw [hstage]; rfl)
    simp only [WrapThread.advance, hstage] at hk ⊢
    cases fate with
    | applied => cases hk
    | refused _ =>
      cases hk
      exact howned
    | unanswered _ =>
      cases hk
      exact howned.complete _ _
  | fail recordId error =>
    simp only [WrapThread.advance, hstage] at hk
    cases fate <;> cases hk
  | done answer =>
    simp only [WrapThread.advance, hstage] at hk
    cases hk

-- ---
-- One statement of two runs
-- ---

/-- The request and its statement, whatever the key of the row. -/
def WrapThread.mark (t : WrapThread φ β σ) : Call φ β σ × WrapStage β := (t.call, t.stage.about 0)

/-- The same request at the same statement; the rows may have other keys. -/
def Twins (t u : WrapThread φ β σ) : Prop := t.mark = u.mark

theorem Twins.call (h : Twins t u) : t.call = u.call := congrArg Prod.fst h

theorem Twins.stage (h : Twins t u) : t.stage.about 0 = u.stage.about 0 := congrArg Prod.snd h

theorem twins (hcall : t.call = u.call) (hstage : t.stage.about 0 = u.stage.about 0) : Twins t u :=
  Prod.ext hcall hstage

theorem about_about (stage : WrapStage β) (j k : Id) : (stage.about j).about k = stage.about k := by
  cases stage <;> rfl

theorem about_record {stage : WrapStage β} (h : stage.record? = some k) :
    stage.about k = stage := by
  cases stage <;> simp_all [WrapStage.record?, WrapStage.about]

theorem about_none {stage : WrapStage β} (h : stage.record? = none) (k : Id) :
    stage.about k = stage := by
  cases stage <;> simp_all [WrapStage.record?, WrapStage.about]

theorem answer?_about (stage : WrapStage β) (k : Id) : (stage.about k).answer? = stage.answer? := by
  cases stage <;> rfl

theorem looksUp_about (stage : WrapStage β) (k : Id) :
    (stage.about k).looksUp = stage.looksUp := by
  cases stage <;> rfl

theorem told_about (t : WrapThread φ β σ) (requestHash : String) (j k : Id)
    (row : IdempotencyKey β) :
    (t.told (existingHit requestHash j row)).stage.about 0 =
      (t.told (existingHit requestHash k row)).stage.about 0 := by
  unfold existingHit
  split
  · rfl
  · split <;> rfl

theorem findUnique_others (hfinds : ∀ found ∈ findUnique s identity, found.2.orgId ≠ some tenant) :
    (findUnique s identity).map (·.2) = othersRow tenant s identity := by
  unfold othersRow
  cases hfound : findUnique s identity with
  | none => rfl
  | some found =>
    have hother : (found.2.orgId != some tenant) = true := bne_iff_ne.mpr (hfinds found hfound)
    simp only [Option.map_some, Option.filter, hother, if_true]

theorem about_eq {stage stage' : WrapStage β} (h : stage.about 0 = stage'.about 0) :
    ∃ k, stage' = stage.about k := by
  have hsame : ∃ k, stage' = stage'.about k := by
    cases hrecord : stage'.record? with
    | none => exact ⟨0, (about_none hrecord 0).symm⟩
    | some k => exact ⟨k, (about_record hrecord).symm⟩
  obtain ⟨k, hk⟩ := hsame
  exact ⟨k, by rw [hk, ← about_about stage' 0 k, ← h, about_about]⟩

section

variable (hsight : s.sight tenant view = r.sight tenant view)
include hsight

theorem sight_write {s' r' : Backend β σ} (h : s'.sight tenant view = r'.sight tenant view)
    (fate : Fate) :
    (fate.write s s').sight tenant view = (fate.write r r').sight tenant view := by
  cases fate with
  | applied | unanswered _ => exact h
  | refused _ => exact hsight

theorem sight_create (hs : findUnique s ctx.identity = none)
    (hr : findUnique r ctx.identity = none) :
    (create fingerprint s ctx).sight tenant view =
      (create fingerprint r ctx).sight tenant view := by
  have hclock : s.clock = r.clock := congrArg Sight.clock hsight
  have hworld : view s.world = view r.world := congrArg Sight.world hsight
  have hrows : othersRow tenant (create fingerprint s ctx) =
      othersRow tenant (create fingerprint r ctx) := by
    funext identity
    have hrow : othersRow tenant s identity = othersRow tenant r identity :=
      congrFun (congrArg Sight.rows hsight) identity
    rw [othersRow_create hs, othersRow_create hr, hclock, hrow]
  simp only [Backend.sight, hrows]
  simp only [create, hclock, hworld]

theorem sight_complete (hs : Owned s ctx j) (hr : Owned r ctx k) (opts : CompleteOptions β) :
    (complete s j opts).sight tenant view = (complete r k opts).sight tenant view := by
  have hclock : s.clock = r.clock := congrArg Sight.clock hsight
  have hworld : view s.world = view r.world := congrArg Sight.world hsight
  have hrows : othersRow tenant (complete s j opts) = othersRow tenant (complete r k opts) := by
    funext identity
    have hrow : othersRow tenant s identity = othersRow tenant r identity :=
      congrFun (congrArg Sight.rows hsight) identity
    rw [othersRow_complete hs, othersRow_complete hr, hclock, hrow]
  simp only [Backend.sight, hrows]
  simp only [complete, hclock, hworld]

theorem sight_world {world world' : σ} (h : view world = view world') :
    ({ s with world } : Backend β σ).sight tenant view =
      ({ r with world := world' } : Backend β σ).sight tenant view := by
  have hclock : s.clock = r.clock := congrArg Sight.clock hsight
  have hrows : othersRow tenant s = othersRow tenant r := congrArg Sight.rows hsight
  show Sight.mk s.clock (view world) (othersRow tenant s) = Sight.mk r.clock (view world')
    (othersRow tenant r)
  rw [hclock, h, hrows]

/-- The statement another organisation's request takes in one run is the one it takes in
the other, when neither finds a row of the tenant. -/
theorem Twins.advance (h : Twins t u) (fate : Fate) (ht : t.Owns s) (hu : u.Owns r)
    (horg : t.call.ctx.orgId ≠ some tenant) (hseparate : Separate tenant view t.call)
    (hs : t.stage.looksUp = true →
      ∀ found ∈ findUnique s t.call.ctx.identity, found.2.orgId ≠ some tenant)
    (hr : u.stage.looksUp = true →
      ∀ found ∈ findUnique r u.call.ctx.identity, found.2.orgId ≠ some tenant) :
    (t.advance fingerprint fate s).1.sight tenant view =
        (u.advance fingerprint fate r).1.sight tenant view ∧
      Twins (t.advance fingerprint fate s).2 (u.advance fingerprint fate r).2 := by
  obtain ⟨call, stage, hit, execution⟩ := t
  obtain ⟨call', stage', hit', execution'⟩ := u
  obtain rfl : call = call' := h.call
  obtain ⟨k, rfl⟩ : ∃ k, stage' = stage.about k := about_eq h.stage
  have hfinds : stage.looksUp = true → (findUnique s call.ctx.identity).map (·.2) =
      (findUnique r call.ctx.identity).map (·.2) := by
    intro hlook
    have hrows : othersRow tenant s = othersRow tenant r := congrArg Sight.rows hsight
    rw [findUnique_others (hs hlook), hrows,
      findUnique_others (hr ((looksUp_about stage k).trans hlook))]
  cases stage with
  | findUnique =>
    have hfinds := hfinds rfl
    simp only [WrapThread.advance, WrapStage.about]
    cases fate.error? with
    | some message => exact ⟨hsight, rfl⟩
    | none =>
      cases hfound : findUnique s call.ctx.identity with
      | none =>
        rw [hfound] at hfinds
        rw [Option.map_eq_none_iff.mp hfinds.symm]
        exact ⟨hsight, rfl⟩
      | some found =>
        rw [hfound] at hfinds
        obtain ⟨found', hfound', hrow⟩ := Option.map_eq_some_iff.mp hfinds.symm
        obtain ⟨j, row⟩ := found
        obtain ⟨j', row'⟩ := found'
        obtain rfl : row' = row := hrow
        rw [hfound']
        exact ⟨hsight, twins rfl (told_about _ _ _ _ _)⟩
  | create =>
    have hfinds := hfinds rfl
    simp only [WrapThread.advance, WrapStage.about]
    cases hfound : findUnique s call.ctx.identity with
    | none =>
      rw [hfound] at hfinds
      have hnone : findUnique r call.ctx.identity = none := Option.map_eq_none_iff.mp hfinds.symm
      rw [hnone]
      refine ⟨sight_write hsight (sight_create hsight hfound hnone) fate, ?_⟩
      cases fate <;> rfl
    | some found =>
      rw [hfound] at hfinds
      obtain ⟨found', hfound', -⟩ := Option.map_eq_some_iff.mp hfinds.symm
      rw [hfound']
      exact ⟨hsight, rfl⟩
  | handler recordId =>
    rw [Separate, if_neg horg] at hseparate
    obtain ⟨hexecution, hview⟩ := hseparate s.world r.world (congrArg Sight.world hsight)
    simp only [WrapThread.advance, WrapStage.about]
    cases hrun : call.handler s.world with
    | mk world result =>
      cases hrun' : call.handler r.world with
      | mk world' result' =>
        rw [hrun, hrun'] at hexecution hview
        obtain rfl : result = result' := hexecution
        cases result <;> exact ⟨sight_world hsight hview, rfl⟩
  | complete recordId result =>
    have howned : Owned s call.ctx recordId := ht recordId rfl
    have howned' : Owned r call.ctx k := hu k rfl
    refine ⟨sight_write hsight (sight_complete hsight howned howned' _) fate, ?_⟩
    cases fate <;> rfl
  | fail recordId error =>
    have howned : Owned s call.ctx recordId := ht recordId rfl
    have howned' : Owned r call.ctx k := hu k rfl
    refine ⟨sight_write hsight (sight_complete hsight howned howned' _) fate, ?_⟩
    cases fate <;> rfl
  | done answer => exact ⟨hsight, rfl⟩

end

-- ---
-- Two runs
-- ---

/-- A request of the organisation that keeps to it. -/
structure Placed (tenant : Id) (view : σ → ω) (orgId : Option Id) (s : Backend β σ)
    (t : WrapThread φ β σ) : Prop where
  orgId : t.call.ctx.orgId = orgId
  separate : Separate tenant view t.call
  owns : t.Owns s

def Requests.Sound (tenant : Id) (view : σ → ω) (w : Requests φ β σ) : Prop :=
  ∀ orgId, ∀ t ∈ w.calls orgId, Placed tenant view orgId w.shared t

/-- The statement of another request leaves a request in its place. -/
theorem Placed.other {orgId : Option Id} (h : Placed tenant view orgId s u) (fate : Fate) :
    Placed tenant view orgId (t.advance fingerprint fate s).1 u :=
  ⟨h.orgId, h.separate, fun k hk => (advance_store fate s t).owned (h.owns k hk)⟩

theorem Placed.advance {orgId : Option Id} (h : Placed tenant view orgId s t) (fate : Fate) :
    Placed tenant view orgId (t.advance fingerprint fate s).1 (t.advance fingerprint fate s).2 := by
  have hcall := WrapThread.advance_call fingerprint fate s t
  exact ⟨hcall ▸ h.orgId, hcall ▸ h.separate, advance_owns fate h.owns⟩

variable {w v : Requests φ β σ}

/-- The call that takes its next statement, if there is one. -/
theorem next_step (fingerprint : φ → String) (w : Requests φ β σ) (orgId : Option Id) (i : Nat)
    (fate : Fate) : w.next fingerprint (.step orgId i fate) =
      match (w.calls orgId)[i]? with
      | none => w
      | some t =>
        { shared := (t.advance fingerprint fate w.shared).1
          calls := Function.update w.calls orgId
            ((w.calls orgId).set i (t.advance fingerprint fate w.shared).2) } := by
  simp only [Requests.next, Pool.step]
  cases (w.calls orgId)[i]? with
  | none => simp only [Function.update_eq_self]
  | some t => rfl

theorem Requests.Sound.next (h : w.Sound tenant view) (e : TenantEvent φ β σ)
    (hseparate : e.Separate tenant view) : (w.next fingerprint e).Sound tenant view := by
  cases e with
  | request call =>
    intro orgId t ht
    by_cases horg : orgId = call.ctx.orgId
    · subst horg
      simp only [Requests.next, Function.update_self, List.mem_append, List.mem_singleton] at ht
      rcases ht with ht | rfl
      · exact h _ t ht
      · exact ⟨rfl, hseparate, fun k hk => by cases hk⟩
    · simp only [Requests.next, Function.update_of_ne horg] at ht
      exact h orgId t ht
  | step orgId i fate =>
    rw [next_step]
    cases hcall : (w.calls orgId)[i]? with
    | none => exact h
    | some mover =>
      have hmover : Placed tenant view orgId w.shared mover :=
        h orgId mover (List.mem_of_getElem? hcall)
      intro other t ht
      by_cases horg : other = orgId
      · subst horg
        simp only [Function.update_self] at ht
        rcases List.mem_or_eq_of_mem_set ht with ht | rfl
        · exact (h other t ht).other fate
        · exact hmover.advance fate
      · simp only [Function.update_of_ne horg] at ht
        exact (h other t ht).other fate
  | wait ms =>
    intro orgId t ht
    obtain ⟨horg, hseparate, howns⟩ := h orgId t ht
    exact ⟨horg, hseparate, howns⟩

/-- Nobody but the tenant can tell the two apart. -/
structure Alike (tenant : Id) (view : σ → ω) (w v : Requests φ β σ) : Prop where
  sound : w.Sound tenant view
  sound' : v.Sound tenant view
  sight : w.shared.sight tenant view = v.shared.sight tenant view
  calls : ∀ orgId, orgId ≠ some tenant →
    (w.calls orgId).map WrapThread.mark = (v.calls orgId).map WrapThread.mark

theorem Alike.symm (h : Alike tenant view w v) : Alike tenant view v w :=
  ⟨h.sound', h.sound, h.sight.symm, fun orgId horg => (h.calls orgId horg).symm⟩

theorem Alike.hidden (h : Alike tenant view w v) (e : TenantEvent φ β σ)
    (hseparate : e.Separate tenant view) (hhidden : e.others tenant = false) :
    Alike tenant view (w.next fingerprint e) v := by
  refine ⟨h.sound.next e hseparate, h.sound', ?_, fun orgId horg => ?_⟩
  · rw [← h.sight]
    cases e with
    | request call => rfl
    | step orgId i fate =>
      rw [next_step]
      cases hcall : (w.calls orgId)[i]? with
      | none => rfl
      | some t =>
        obtain ⟨horg, hkeeps, howns⟩ := h.sound orgId t (List.mem_of_getElem? hcall)
        have htenant : t.call.ctx.orgId = some tenant := horg.trans (bne_eq_false_iff_eq.mp hhidden)
        exact (advance_store fate w.shared t).sight_hidden howns htenant hkeeps
    | wait ms => cases hhidden
  · rw [← h.calls orgId horg]
    cases e with
    | request call =>
      have htenant : call.ctx.orgId = some tenant := bne_eq_false_iff_eq.mp hhidden
      simp only [Requests.next, Function.update_of_ne (htenant ▸ horg)]
    | step other i fate =>
      have htenant : other = some tenant := bne_eq_false_iff_eq.mp hhidden
      simp only [Requests.next, Function.update_of_ne (htenant ▸ horg)]
    | wait ms => rfl

theorem Alike.both (h : Alike tenant view w v) (e : TenantEvent φ β σ)
    (hseparate : e.Separate tenant view) (hvisible : e.others tenant = true)
    (hw : findsNoRowOf tenant w e) (hv : findsNoRowOf tenant v e) :
    Alike tenant view (w.next fingerprint e) (v.next fingerprint e) := by
  have hsound : (w.next fingerprint e).Sound tenant view := h.sound.next e hseparate
  have hsound' : (v.next fingerprint e).Sound tenant view := h.sound'.next e hseparate
  cases e with
  | request call =>
    refine ⟨hsound, hsound', h.sight, fun orgId horg => ?_⟩
    by_cases hcall : orgId = call.ctx.orgId
    · subst hcall
      simp only [Requests.next, Function.update_self, List.map_append, h.calls _ horg]
    · simp only [Requests.next, Function.update_of_ne hcall, h.calls _ horg]
  | step orgId i fate =>
    have horg : orgId ≠ some tenant := bne_iff_ne.mp hvisible
    have hcalls := h.calls orgId horg
    have hmark : (w.calls orgId)[i]?.map WrapThread.mark =
        (v.calls orgId)[i]?.map WrapThread.mark := by
      rw [← List.getElem?_map, ← List.getElem?_map, hcalls]
    rw [next_step] at hsound hsound'
    rw [next_step, next_step]
    cases ht : (w.calls orgId)[i]? with
    | none =>
      rw [ht] at hmark
      rw [Option.map_eq_none_iff.mp hmark.symm]
      exact h
    | some t =>
      rw [ht] at hmark
      obtain ⟨u, hu, htwins⟩ := Option.map_eq_some_iff.mp hmark.symm
      rw [ht] at hsound
      rw [hu] at hsound'
      rw [hu]
      obtain ⟨hplace, hkeeps, howns⟩ := h.sound orgId t (List.mem_of_getElem? ht)
      obtain ⟨-, -, howns'⟩ := h.sound' orgId u (List.mem_of_getElem? hu)
      have hstep : (t.advance fingerprint fate w.shared).1.sight tenant view =
            (u.advance fingerprint fate v.shared).1.sight tenant view ∧
          Twins (t.advance fingerprint fate w.shared).2 (u.advance fingerprint fate v.shared).2 :=
        Twins.advance h.sight htwins.symm fate howns howns' (hplace ▸ horg) hkeeps (hw horg t ht)
          (hv horg u hu)
      refine ⟨hsound, hsound', hstep.1, fun other hother => ?_⟩
      by_cases hsame : other = orgId
      · subst hsame
        simp only [Function.update_self, List.map_set, hcalls]
        exact congrArg _ hstep.2
      · simp only [Function.update_of_ne hsame, h.calls other hother]
  | wait ms =>
    refine ⟨hsound, hsound', ?_, h.calls⟩
    have hclock : w.shared.clock = v.shared.clock := congrArg Sight.clock h.sight
    have hworld : view w.shared.world = view v.shared.world := congrArg Sight.world h.sight
    have hrows : othersRow tenant w.shared = othersRow tenant v.shared :=
      congrArg Sight.rows h.sight
    show Sight.mk (w.shared.clock + ms) (view w.shared.world) (othersRow tenant w.shared) =
      Sight.mk (v.shared.clock + ms) (view v.shared.world) (othersRow tenant v.shared)
    rw [hclock, hworld, hrows]

def tenantUnwinding (fingerprint : φ → String) (tenant : Id) (view : σ → ω) :
    Unwinding (Requests.next fingerprint)
      (fun w (e : TenantEvent φ β σ) => findsNoRowOf tenant w e ∧ e.Separate tenant view)
      (TenantEvent.others tenant) where
  alike := Alike tenant view
  symm := Alike.symm
  hidden h hok hhidden := h.hidden _ hok.2 hhidden
  both h hw hv hvisible := h.both _ hw.2 hvisible hw.1 hv.1

/-- Two histories that differ in the requests of one tenant give all others the same
answers, while no request of another organisation finds a row of the tenant. -/
theorem run_tenants (tenant : Id) (view : σ → ω) {start : Backend β σ}
    {events events' : List (TenantEvent φ β σ)}
    (hseparate : ∀ e ∈ events, e.Separate tenant view)
    (hseparate' : ∀ e ∈ events', e.Separate tenant view)
    (hrun : Run (Requests.next fingerprint) (findsNoRowOf tenant) { shared := start } events w)
    (hrun' : Run (Requests.next fingerprint) (findsNoRowOf tenant) { shared := start } events' v)
    (hsame : events.filter (TenantEvent.others tenant) = events'.filter (TenantEvent.others tenant))
    {orgId : Option Id} (horg : orgId ≠ some tenant) : w.answers orgId = v.answers orgId := by
  have hsound : Requests.Sound tenant view ({ shared := start } : Requests φ β σ) :=
    fun _ t ht => absurd ht List.not_mem_nil
  have halike : Alike tenant view w v :=
    (tenantUnwinding fingerprint tenant view).runs ⟨hsound, hsound, rfl, fun _ _ => rfl⟩
      (hrun.restrict hseparate) (hrun'.restrict hseparate') hsame
  have hanswers : ∀ u : Requests φ β σ, u.answers orgId =
      ((u.calls orgId).map WrapThread.mark).map (·.2.answer?) := by
    intro u
    rw [List.map_map]
    exact List.map_congr_left fun t _ => (answer?_about t.stage 0).symm
  rw [hanswers w, hanswers v, halike.calls orgId horg]

-- ---
-- One key of two tenants
-- ---

/-- A batch of jobs that is replayed under a key, and the jobs of each organisation. -/
def batch (orgId : Id) (key jobs result : String) : Call String String (List (Id × String)) where
  ctx := {
    key, scope := some "sync.replay", routeMethod := "POST", routePath := "/api/sync/replay"
    orgId := some orgId, fingerprintSource := jobs }
  handler stored := (stored ++ [(orgId, jobs)],
    .ok { statusCode := some 200, body := some (some result) })

/-- A batch from the request to its answer. -/
def replayed (orgId : Id) (key jobs result : String) :
    List (TenantEvent String String (List (Id × String))) :=
  .request (batch orgId key jobs result) :: List.replicate 4 (.step (some orgId) 0 .applied)

def afterBatches (events : List (TenantEvent String String (List (Id × String)))) :
    Requests String String (List (Id × String)) :=
  events.foldl (Requests.next id) { shared := { world := [] } }

/-- Organisation 2 gets its own result, or that of organisation 1, or a conflict, by what
organisation 1 sent under the key before. -/
theorem key_shared :
    let asked := replayed 2 "batch-0001" "jobs" "result of 2"
    let first := replayed 1 "batch-0001" "jobs" "result of 1" ++ asked
    let second := replayed 1 "batch-0001" "other jobs" "result of 1" ++ asked
    first.filter (TenantEvent.others 1) = asked.filter (TenantEvent.others 1) ∧
      second.filter (TenantEvent.others 1) = asked.filter (TenantEvent.others 1) ∧
      (afterBatches asked).answers (some 2) = [some (.returned (some "result of 2"))] ∧
      (afterBatches first).answers (some 2) = [some (.returned (some "result of 1"))] ∧
      (afterBatches second).answers (some 2) = [some (.threw (.conflictException
        "Idempotency-Key reused with a different request payload"))] :=
  ⟨rfl, rfl, by decide, by decide, by decide⟩

/-- The jobs of all others. -/
def othersJobs (tenant : Id) (stored : List (Id × String)) : List (Id × String) :=
  stored.filter (·.1 != tenant)

theorem batch_separate (tenant orgId : Id) (key jobs result : String) :
    Separate tenant (othersJobs tenant) (batch orgId key jobs result) := by
  by_cases horg : orgId = tenant <;> simp_all [Separate, batch, othersJobs, List.filter_append]

theorem replayed_separate (tenant orgId : Id) (key jobs result : String) :
    ∀ e ∈ replayed orgId key jobs result, e.Separate tenant (othersJobs tenant) := by
  intro e he
  rcases List.mem_cons.mp he with rfl | he
  · exact batch_separate tenant orgId key jobs result
  · obtain rfl := List.eq_of_mem_replicate he
    trivial

theorem run_tenants_batches :
    (afterBatches (replayed 1 "batch-0001" "jobs" "result of 1" ++
      replayed 2 "batch-0002" "jobs" "result of 2")).answers (some 2) =
        (afterBatches (replayed 2 "batch-0002" "jobs" "result of 2")).answers (some 2) :=
  run_tenants 1 (othersJobs 1)
    (fun e he => (List.mem_append.mp he).elim (replayed_separate 1 1 _ _ _ e)
      (replayed_separate 1 2 _ _ _ e))
    (replayed_separate 1 2 _ _ _) (.of_holds (by decide)) (.of_holds (by decide)) rfl (by decide)

end NimbusPos.IdempotencyService
