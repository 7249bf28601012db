import NimbusPos.ControlPlane.FeatureFlags
import NimbusPos.Lib.Unwinding

/-!
# Flags of two tenants

A flag of an organisation answers for that organisation alone; a global one answers for
all. No organisation patches a global flag, but any may create one. While the members of
an organisation create none, nobody else sees what they did.
-/

namespace NimbusPos.ControlPlane

open Lib Lib.Service

/-- A call through one of the endpoints, or whatever else happens to the memberships. -/
inductive Event
  | createFlag (userId : Id) (dto : CreateFeatureFlagDto)
  | patchFlag (userId : Id) (key : String) (dto : UpdateFeatureFlagDto)
  | memberships (change : Table Membership → Table Membership)

def next (s : Store) : Event → Store
  | .createFlag userId dto => final (ControlPlane.createFlag userId dto s)
  | .patchFlag userId key dto => final (ControlPlane.patchFlag userId key dto s)
  | .memberships change => { s with memberships := change s.memberships }

/-- Who makes the call. -/
def Event.caller? : Event → Option Id
  | .createFlag userId _ | .patchFlag userId _ _ => some userId
  | .memberships _ => none

section

variable (tenant : Id) (members : Id → Bool)

/-- The event is no call of a member. -/
def Event.others (e : Event) : Bool := !e.caller?.any members

/-- The endpoint takes its caller for a member of the tenant. -/
def Event.ofTenant (s : Store) (e : Event) : Prop :=
  e.others members = false → e.caller?.bind s.orgOf = some tenant

/-- No member adds a flag of scope GLOBAL. -/
def Event.leavesGlobal (s : Store) : Event → Prop
  | .createFlag userId dto => members userId = true → dto.scope = some .global →
      s.creates tenant dto = false
  | .patchFlag .. | .memberships _ => True

instance (s : Store) (e : Event) : Decidable (e.ofTenant tenant members s) :=
  inferInstanceAs (Decidable (_ → _))

instance (s : Store) : (e : Event) → Decidable (e.leavesGlobal tenant members s)
  | .createFlag userId dto => inferInstanceAs (Decidable (members userId = true →
      dto.scope = some .global → s.creates tenant dto = false))
  | .patchFlag .. | .memberships _ => .isTrue trivial

/-- The flag is not the tenant's. -/
def FeatureFlag.elsewhere (flag : FeatureFlag) : Bool := flag.orgId != some tenant

/-- Nobody but the tenant can tell the two apart. -/
structure Alike (s t : Store) : Prop where
  memberships : s.memberships = t.memberships
  featureFlags : Table.Renamed (FeatureFlag.elsewhere tenant) s.featureFlags t.featureFlags

end

variable {s t : Store} {tenant orgId : Id} {members : Id → Bool}

-- ---
-- What another organisation looks for is not the tenant's
-- ---

theorem elsewhere_of_global (flag : FeatureFlag) (h : flag.scope = .global) :
    flag.elsewhere tenant = true := by
  rw [FeatureFlag.elsewhere, flag.unowned h]
  rfl

theorem elsewhere_of_org {flag : FeatureFlag} (horg : orgId ≠ tenant)
    (h : flag.orgId = some orgId) : flag.elsewhere tenant = true := by
  rw [FeatureFlag.elsewhere, h, bne_iff_ne]
  exact fun heq => horg (Option.some.inj heq)

theorem visibleTo_elsewhere (horg : orgId ≠ tenant) (key : String) (flag : FeatureFlag)
    (h : flag.visibleTo orgId key = true) : flag.elsewhere tenant = true := by
  simp only [FeatureFlag.visibleTo, Bool.and_eq_true, Bool.or_eq_true, beq_iff_eq] at h
  rcases h.2 with h | h
  · exact elsewhere_of_org horg h
  · exact elsewhere_of_global flag h

theorem candidate_elsewhere (horg : orgId ≠ tenant) (key : String) (branchId : Option Id)
    (flag : FeatureFlag) (h : flag.candidate orgId key branchId = true) :
    flag.elsewhere tenant = true := by
  simp only [FeatureFlag.candidate, Bool.and_eq_true, Bool.or_eq_true, beq_iff_eq] at h
  rcases h.2 with (h | ⟨-, h⟩) | ⟨⟨-, h⟩, -⟩
  · exact elsewhere_of_global flag h
  · exact elsewhere_of_org horg h
  · exact elsewhere_of_org horg h

theorem isAt_elsewhere (dto : CreateFeatureFlagDto)
    (hrow : (dto.row actorUserId orgId).elsewhere tenant = true) (flag : FeatureFlag)
    (h : flag.isAt (dto.scope.getD .org) dto.key (targetOrgId (dto.scope.getD .org) orgId)
      (targetBranchId (dto.scope.getD .org) dto.branchId) = true) :
    flag.elsewhere tenant = true := by
  simp only [FeatureFlag.isAt, Bool.and_eq_true, beq_iff_eq] at h
  rw [FeatureFlag.elsewhere, h.1.2]
  exact hrow

theorem rewrite_elsewhere (dto : UpdateFeatureFlagDto) (flag : FeatureFlag) :
    (dto.rewrite actorUserId flag).elsewhere tenant = flag.elsewhere tenant := rfl

-- ---
-- One call
-- ---

namespace Alike

theorem refl (s : Store) : Alike tenant s s := ⟨rfl, .refl _ _⟩

theorem symm (h : Alike tenant s t) : Alike tenant t s := ⟨h.memberships.symm, h.featureFlags.symm⟩

theorem trans (h : Alike tenant s t) (h' : Alike tenant t u) : Alike tenant s u :=
  ⟨h.memberships.trans h'.memberships, h.featureFlags.trans h'.featureFlags⟩

theorem orgOf (h : Alike tenant s t) (userId : Id) : s.orgOf userId = t.orgOf userId := by
  rw [Store.orgOf, Store.orgOf, h.memberships]

/-- A row of the tenant's own. -/
theorem create_hidden (dto : CreateFeatureFlagDto)
    (hrow : (dto.row actorUserId orgId).elsewhere tenant = false) :
    Alike tenant (final (create actorUserId orgId dto s)) s := by
  rw [create_final]
  split
  · exact ⟨rfl, .insert_hidden _ hrow⟩
  · exact .refl s

theorem create (h : Alike tenant s t) (dto : CreateFeatureFlagDto) :
    Alike tenant (final (create actorUserId orgId dto s))
      (final (ControlPlane.create actorUserId orgId dto t)) := by
  cases hrow : (dto.row actorUserId orgId).elsewhere tenant with
  | false => exact (create_hidden dto hrow).trans (h.trans (create_hidden dto hrow).symm)
  | true =>
    have hcreates : s.creates orgId dto = t.creates orgId dto := by
      simp only [Store.creates, h.featureFlags.findFirst (isAt_elsewhere dto hrow)]
    rw [create_final, create_final, hcreates]
    split
    · exact ⟨h.memberships, h.featureFlags.insert _⟩
    · exact h

/-- A tenant's patch finds a flag of its own, or a global one that it must not write. -/
theorem patch_hidden (dto : UpdateFeatureFlagDto) :
    Alike tenant (final (patchByKey actorUserId tenant key dto s)) s := by
  cases hfound : s.flagByKey tenant key with
  | none =>
    rw [patchByKey_none hfound]
    exact .refl s
  | some found =>
    obtain ⟨flagId, flag⟩ := found
    obtain ⟨hget, hvisible⟩ := Table.mem_findMany.mp (Table.first_mem hfound)
    rw [patchByKey_some hfound]
    simp only [FeatureFlag.visibleTo, Bool.and_eq_true, Bool.or_eq_true, beq_iff_eq] at hvisible
    rcases hvisible.2 with hown | hglobal
    · have hhidden : flag.elsewhere tenant = false := by
        rw [FeatureFlag.elsewhere, hown, bne_self_eq_false]
      split
      · exact .refl s
      · exact ⟨rfl, .update_hidden hget hhidden (rewrite_elsewhere dto)⟩
    · rw [hglobal, flag.unowned hglobal]
      exact .refl s

theorem patch (h : Alike tenant s t) (dto : UpdateFeatureFlagDto) :
    Alike tenant (final (patchByKey actorUserId orgId key dto s))
      (final (patchByKey actorUserId orgId key dto t)) := by
  by_cases horg : orgId = tenant
  · subst horg
    exact (patch_hidden dto).trans (h.trans (patch_hidden dto).symm)
  · rcases h.featureFlags.first (visibleTo_elsewhere horg key) (·.scope.place) with
      ⟨hs, ht⟩ | ⟨flagId, flagId', flag, hs, ht, hupdate⟩
    · rw [patchByKey_none hs, patchByKey_none ht]
      exact h
    · rw [patchByKey_some hs, patchByKey_some ht]
      split
      · exact h
      · exact ⟨h.memberships, hupdate _ (rewrite_elsewhere dto)⟩

/-- A member's call. -/
theorem hidden (h : Alike tenant s t) (htenant : e.ofTenant tenant members s)
    (hglobal : e.leavesGlobal tenant members s) (hhidden : e.others members = false) :
    Alike tenant (next s e) t := by
  have horg := htenant hhidden
  refine .trans ?_ h
  cases e with
  | createFlag userId dto =>
    have hmember : members userId = true := by
      simpa only [Event.others, Event.caller?, Option.any_some, Bool.not_eq_false'] using hhidden
    simp only [next]
    rw [createFlag_some horg]
    by_cases hscope : dto.scope = some .global
    · rw [create_final, hglobal hmember hscope]
      exact .refl s
    · have hrow : (dto.row userId tenant).elsewhere tenant = false := by
        have hne : dto.scope.getD .org ≠ .global := by
          cases hdto : dto.scope with
          | none => exact fun heq => by cases heq
          | some scope =>
            rintro rfl
            exact hscope hdto
        simp only [FeatureFlag.elsewhere, CreateFeatureFlagDto.row, targetOrgId, if_neg hne,
          bne_self_eq_false]
      exact create_hidden dto hrow
  | patchFlag userId key dto =>
    simp only [next]
    rw [patchFlag_some horg]
    exact patch_hidden dto
  | memberships change => cases hhidden

/-- An event of both histories. -/
theorem both (h : Alike tenant s t) (e : Event) : Alike tenant (next s e) (next t e) := by
  cases e with
  | createFlag userId dto =>
    simp only [next]
    cases horg : s.orgOf userId with
    | none =>
      rw [createFlag_none horg, createFlag_none (h.orgOf userId ▸ horg)]
      exact h
    | some orgId =>
      rw [createFlag_some horg, createFlag_some (h.orgOf userId ▸ horg)]
      exact h.create dto
  | patchFlag userId key dto =>
    simp only [next]
    cases horg : s.orgOf userId with
    | none =>
      rw [patchFlag_none horg, patchFlag_none (h.orgOf userId ▸ horg)]
      exact h
    | some orgId =>
      rw [patchFlag_some horg, patchFlag_some (h.orgOf userId ▸ horg)]
      exact h.patch dto
  | memberships change => exact ⟨congrArg change h.memberships, h.featureFlags⟩

theorem isEnabled (h : Alike tenant s t) (horg : orgId ≠ tenant) (key : String)
    (branchId : Option Id) : s.isEnabled orgId key branchId = t.isEnabled orgId key branchId := by
  unfold Store.isEnabled
  have hfirst := h.featureFlags.first (candidate_elsewhere horg key branchId) (·.scope.order)
  rcases hfirst with ⟨hs, ht⟩ | ⟨_, _, flag, hs, ht, -⟩
  · simp only [hs, ht]
  · simp only [hs, ht]

end Alike

-- ---
-- Two histories
-- ---

def tenantUnwinding (tenant : Id) (members : Id → Bool) :
    Unwinding next (fun s e => e.ofTenant tenant members s ∧ e.leavesGlobal tenant members s)
      (Event.others members) where
  alike := Alike tenant
  symm := Alike.symm
  hidden h hok hhidden := h.hidden hok.1 hok.2 hhidden
  both h _ _ _ := h.both _

/-- Histories that differ in the calls of the members of one organisation, none of which
adds a global flag, give every other organisation the same flags. -/
theorem run_isolated (tenant : Id) (members : Id → Bool) (hrun : Run next
      (fun s e => e.ofTenant tenant members s ∧ e.leavesGlobal tenant members s) start events s)
    (hrun' : Run next
      (fun s e => e.ofTenant tenant members s ∧ e.leavesGlobal tenant members s) start events' t)
    (hsame : events.filter (Event.others members) = events'.filter (Event.others members))
    (horg : orgId ≠ tenant) (key : String) (branchId : Option Id) :
    s.isEnabled orgId key branchId = t.isEnabled orgId key branchId :=
  ((tenantUnwinding tenant members).runs (.refl start) hrun hrun' hsame).isEnabled horg key branchId

-- ---
-- A member of organisation 1 and a flag
-- ---

/-- Users 1 and 2, each a member of the organisation of the same number. -/
def twoTenants : Store where
  memberships := (Table.empty.insert { userId := 1, organizationId := 1 }).insert
    { userId := 2, organizationId := 2 }

/-- The flag of a payment provider, on. -/
def providerFlag (scope : FeatureFlagScope) : CreateFeatureFlagDto where
  key := "mtn_payments"
  name := "MTN payments"
  scope := some scope
  status := some .enabled

/-- The member of organisation 1 creates a global flag, and it is on for organisation 2. -/
theorem global_flag_crosses :
    let created := [Event.createFlag 1 (providerFlag .global)]
    created.filter (Event.others (· == 1)) = [] ∧ twoTenants.orgOf 1 = some 1 ∧
      (created.foldl next twoTenants).isEnabled 2 "mtn_payments" none = true ∧
      twoTenants.isEnabled 2 "mtn_payments" none = false := by
  decide

theorem run_isolated_provider :
    ([.createFlag 1 (providerFlag .org), .createFlag 2 (providerFlag .org),
      .patchFlag 1 "mtn_payments" { status := some .disabled }].foldl next
        twoTenants).isEnabled 2 "mtn_payments" none =
      ([Event.createFlag 2 (providerFlag .org)].foldl next twoTenants).isEnabled 2 "mtn_payments"
        none :=
  run_isolated 1 (· == 1) (.of_holds (by decide)) (.of_holds (by decide))
    rfl (by decide) _ _

end NimbusPos.ControlPlane
