import NimbusPos.Reliability.Idempotency

/-!
# The handler runs once

A call runs its handler only after it inserted the row of its key, and the unique
constraint lets one insert through. So in every interleaving of calls with one
key, whatever statements fail, one caller at most is told that it was first and
the handlers' state changes at most once. Alone, the statements do what `wrap` does.
-/

namespace NimbusPos.IdempotencyService

open Lib

variable {φ β σ : Type} (fingerprint : φ → String) {s : Backend β σ} {identity : KeyIdentity}

-- ---
-- A call that runs alone
-- ---

theorem existingHit_ne_first (requestHash : String) (recordId : Id) (existing : IdempotencyKey β)
    (k : Id) :
    existingHit requestHash recordId existing ≠ .first k := by
  unfold existingHit
  split
  · exact nofun
  · split <;> exact nofun

theorem completes_handler (call : Call φ β σ) (recordId : Id) (hit : Option (Hit β)) :
    Completes (WrapThread.advance fingerprint .applied)
      (·.stage = .done (runHandler s recordId call).2) s
      { call, stage := .handler recordId, hit } (runHandler s recordId call).1 := by
  unfold runHandler
  split
  · rename_i world result hrun
    have hhandler : WrapThread.advance fingerprint .applied s
        { call, stage := .handler recordId, hit } =
        ({ s with world },
          { call, hit, execution := some (.ok result), stage := .complete recordId result }) := by
      simp only [WrapThread.advance, hrun]
    exact .step hhandler (.step rfl (.of_ended rfl))
  · rename_i world error hrun
    have hhandler : WrapThread.advance fingerprint .applied s
        { call, stage := .handler recordId, hit } =
        ({ s with world },
          { call, hit, execution := some (.error error), stage := .fail recordId error }) := by
      simp only [WrapThread.advance, hrun]
    exact .step hhandler (.step rfl (.of_ended rfl))

/-- The statements of a call, run alone and none failing, do what `wrap` does. -/
theorem completes_wrap (s : Backend β σ) (call : Call φ β σ) :
    Completes (WrapThread.advance fingerprint .applied)
      (·.stage = .done (wrap fingerprint s call).2) s
      { call } (wrap fingerprint s call).1 := by
  unfold wrap begin
  cases hfound : findUnique s call.ctx.identity with
  | some row =>
    obtain ⟨recordId, existing⟩ := row
    have hread : WrapThread.advance fingerprint .applied s { call } =
        (s, WrapThread.told { call }
          (existingHit (fingerprint call.ctx.fingerprintSource) recordId existing)) := by
      simp only [WrapThread.advance, Fate.error?, hfound]
    refine .step hread ?_
    simp only
    cases hhit : existingHit (fingerprint call.ctx.fingerprintSource) recordId existing with
    | first k => exact absurd hhit (existingHit_ne_first _ _ _ _)
    | replay | conflict | inFlight => exact .of_ended rfl
  | none =>
    have hread : WrapThread.advance fingerprint .applied s { call } =
        (s, { call, stage := .create }) := by
      simp only [WrapThread.advance, Fate.error?, hfound]
      rfl
    have hcreate : WrapThread.advance fingerprint .applied s { call, stage := .create } =
        (create fingerprint s call.ctx,
          { call, stage := .handler s.keys.next, hit := some (.first s.keys.next) }) := by
      simp only [WrapThread.advance, Fate.error?, Fate.write, hfound, Option.isSome_none,
        Bool.false_eq_true, if_false]
      rfl
    refine .step hread (.step hcreate ?_)
    exact completes_handler fingerprint call s.keys.next _

-- ---
-- The row of a key
-- ---

def Claimed (s : Backend β σ) (identity : KeyIdentity) : Prop :=
  ∃ k row, s.keys.get? k = some row ∧ row.identity = identity

theorem findUnique_isSome : (findUnique s identity).isSome = true ↔ Claimed s identity := by
  constructor
  · intro h
    obtain ⟨⟨k, row⟩, hfind⟩ := Option.isSome_iff_exists.mp h
    obtain ⟨hget, hidentity⟩ := Table.findFirst_some hfind
    exact ⟨k, row, hget, by simpa using hidentity⟩
  · rintro ⟨k, row, hget, hidentity⟩
    by_contra hnone
    rw [Option.not_isSome_iff_eq_none] at hnone
    have hother := Table.findFirst_none.mp hnone k row hget
    simp [hidentity] at hother

/-- One while the key may still be claimed. -/
def room (s : Backend β σ) (identity : KeyIdentity) : Nat :=
  if (findUnique s identity).isSome then 0 else 1

theorem room_eq_zero (h : Claimed s identity) : room s identity = 0 :=
  if_pos (findUnique_isSome.mpr h)

theorem room_le_one (s : Backend β σ) (identity : KeyIdentity) : room s identity ≤ 1 := by
  unfold room
  split <;> decide

/-- What is claimed stays claimed. -/
theorem room_le {r : Backend β σ} (h : Claimed s identity → Claimed r identity) :
    room r identity ≤ room s identity := by
  by_cases hclaimed : Claimed s identity
  · rw [room_eq_zero (h hclaimed)]
    exact Nat.zero_le _
  · have hnone : ¬(findUnique s identity).isSome = true :=
      fun hsome => hclaimed (findUnique_isSome.mp hsome)
    rw [room, room, if_neg hnone]
    split <;> decide

theorem claimed_create (ctx : IdempotencyContext φ) :
    Claimed (create fingerprint s ctx) ctx.identity :=
  ⟨s.keys.next, _, Table.get?_insert_self _ _, rfl⟩

theorem claimed_complete {opts : CompleteOptions β} (h : Claimed s identity) :
    Claimed (complete s recordId opts) identity := by
  obtain ⟨k, row, hget, hidentity⟩ := h
  by_cases hk : k = recordId
  · subst hk
    exact ⟨k, opts.rewrite s.clock row, by rw [complete, Table.get?_update_self, hget]; rfl,
      hidentity⟩
  · exact ⟨k, row, by rw [complete, Table.get?_update_ne _ _ hk, hget], hidentity⟩

theorem claimed_write {r : Backend β σ} (fate : Fate) (h : Claimed s identity)
    (hr : Claimed r identity) :
    Claimed (fate.write s r) identity := by
  rcases fate.write_cases s r with hwrite | hwrite
  · rw [hwrite]
    exact hr
  · rw [hwrite]
    exact h

-- ---
-- One statement
-- ---

namespace WrapThread

/-- The caller was told that it is first. -/
def toldFirst (t : WrapThread φ β σ) : Nat :=
  match t.hit with
  | some (.first _) => 1
  | _ => 0

/-- About to run the handler. -/
def pending (t : WrapThread φ β σ) : Nat :=
  match t.stage with
  | .handler _ => 1
  | _ => 0

/-- Runs of the handler so far. -/
def executions (t : WrapThread φ β σ) : Nat := if t.execution.isSome then 1 else 0

/-- What a caller was told, and what its handler did, at each stage. -/
def Holds (t : WrapThread φ β σ) : Prop :=
  match t.stage with
  | .findUnique | .create => t.hit = none ∧ t.execution = none
  | .handler k => t.hit = some (.first k) ∧ t.execution = none
  | .complete k result => t.hit = some (.first k) ∧ t.execution = some (.ok result)
  | .fail k _ => t.hit = some (.first k) ∧ t.execution.isSome
  | .done answer => (t.execution.isSome → ∃ k, t.hit = some (.first k)) ∧
      ∀ k statusCode body, t.hit = some (.replay k statusCode body) → answer = .returned body

theorem holds_told {t : WrapThread φ β σ} (hexecution : t.execution = none) (hit : Hit β) :
    (t.told hit).Holds := by
  cases hit with
  | first k => exact ⟨rfl, hexecution⟩
  | replay k statusCode body =>
    refine ⟨by simp [told, hexecution], ?_⟩
    rintro _ _ _ ⟨⟩
    rfl
  | conflict | inFlight => exact ⟨by simp [told, hexecution], nofun⟩

theorem holds_refused {t : WrapThread φ β σ} (h : t.hit = none ∧ t.execution = none)
    (answer : Answer β) :
    (t.goto (.done answer)).Holds :=
  ⟨by simp [goto, h.2], by simp [goto, h.1]⟩

theorem holds_first {t : WrapThread φ β σ} (h : t.hit = some (.first k)) (answer : Answer β) :
    (t.goto (.done answer)).Holds :=
  ⟨fun _ => ⟨k, h⟩, by simp [goto, h]⟩

theorem Holds.advance {t : WrapThread φ β σ} (h : t.Holds) (fate : Fate) (s : Backend β σ) :
    (t.advance fingerprint fate s).2.Holds := by
  obtain ⟨call, stage, hit, execution⟩ := t
  cases stage with
  | findUnique =>
    simp only [WrapThread.advance]
    split
    · exact holds_refused h _
    · exact holds_told h.2 _
    · exact h
  | create =>
    simp only [WrapThread.advance]
    split
    · exact holds_refused h _
    · cases fate with
      | applied => exact holds_told h.2 (.first s.keys.next)
      | refused message | unanswered message => exact holds_refused h _
  | handler k =>
    simp only [WrapThread.advance]
    split
    · exact ⟨h.1, rfl⟩
    · exact ⟨h.1, rfl⟩
  | complete k result =>
    cases fate with
    | applied => exact holds_first h.1 _
    | refused message | unanswered message => exact ⟨h.1, by simp [WrapThread.advance, goto, h.2]⟩
  | fail k error => exact holds_first h.1 _
  | done answer => exact h

theorem Holds.executions_le {t : WrapThread φ β σ} (h : t.Holds) : t.executions ≤ t.toldFirst := by
  obtain ⟨call, stage, hit, execution⟩ := t
  cases execution with
  | none => exact Nat.zero_le _
  | some execution =>
    have hfirst : ∃ k, hit = some (.first k) := by
      cases stage with
      | findUnique | create | handler k => cases h.2
      | complete k result | fail k error => exact ⟨k, h.1⟩
      | done answer => exact h.1 rfl
    obtain ⟨k, rfl⟩ := hfirst
    exact Nat.le_refl _

/-- A statement claims the key for the caller, or makes no caller first. -/
theorem advance_claims (fate : Fate) (s : Backend β σ) {t : WrapThread φ β σ} (h : t.Holds) :
    (room (t.advance fingerprint fate s).1 t.call.ctx.identity ≤ room s t.call.ctx.identity ∧
      (t.advance fingerprint fate s).2.toldFirst = t.toldFirst ∧
        (t.advance fingerprint fate s).2.pending = 0) ∨
    (room s t.call.ctx.identity = 1 ∧
      room (t.advance fingerprint fate s).1 t.call.ctx.identity = 0 ∧
      t.toldFirst = 0 ∧ t.pending = 0 ∧
      (t.advance fingerprint fate s).2.toldFirst = 1 ∧
        (t.advance fingerprint fate s).2.pending = 1) := by
  have hrecord (recordId : Id) (opts : CompleteOptions β) :
      room (fate.write s (complete s recordId opts)) t.call.ctx.identity ≤
        room s t.call.ctx.identity :=
    room_le fun hs => claimed_write fate hs (claimed_complete hs)
  obtain ⟨call, stage, hit, execution⟩ := t
  cases stage with
  | findUnique =>
    obtain rfl : hit = none := h.1
    refine .inl ?_
    simp only [advance]
    split
    · exact ⟨Nat.le_refl _, rfl, rfl⟩
    · rename_i recordId existing _ _
      cases hhit : existingHit (fingerprint call.ctx.fingerprintSource) recordId existing with
      | first k => exact absurd hhit (existingHit_ne_first _ _ _ _)
      | replay | conflict | inFlight => exact ⟨Nat.le_refl _, rfl, rfl⟩
    · exact ⟨Nat.le_refl _, rfl, rfl⟩
  | create =>
    obtain rfl : hit = none := h.1
    simp only [advance]
    by_cases hclaimed : (findUnique s call.ctx.identity).isSome = true
    · rw [if_pos hclaimed]
      exact .inl ⟨Nat.le_refl _, rfl, rfl⟩
    · rw [if_neg hclaimed]
      have hroom : room s call.ctx.identity = 1 := if_neg hclaimed
      have hcreated : room (create fingerprint s call.ctx) call.ctx.identity = 0 :=
        room_eq_zero (claimed_create fingerprint _)
      cases fate with
      | applied => exact .inr ⟨hroom, hcreated, rfl, rfl, rfl, rfl⟩
      | refused message => exact .inl ⟨Nat.le_refl _, rfl, rfl⟩
      | unanswered message => exact .inl ⟨hcreated ▸ Nat.zero_le _, rfl, rfl⟩
  | handler k =>
    refine .inl ?_
    simp only [advance]
    split <;> exact ⟨Nat.le_refl _, rfl, rfl⟩
  | complete k result => cases fate <;> exact .inl ⟨hrecord k result.options, rfl, rfl⟩
  | fail k error => exact .inl ⟨hrecord k error.options, rfl, rfl⟩
  | done answer => exact .inl ⟨Nat.le_refl _, rfl, rfl⟩

/-- Nothing but the handler touches what it works on. -/
theorem advance_world (fate : Fate) (s : Backend β σ) (t : WrapThread φ β σ) :
    (t.advance fingerprint fate s).1.world = s.world ∨
      t.pending = 1 ∧ (t.advance fingerprint fate s).1.world = (t.call.handler s.world).1 := by
  have hwrite {r : Backend β σ} (hr : r.world = s.world) : (fate.write s r).world = s.world := by
    cases fate <;> first | exact hr | rfl
  obtain ⟨call, stage, hit, execution⟩ := t
  cases stage with
  | findUnique =>
    refine .inl ?_
    simp only [advance]
    split <;> rfl
  | create =>
    refine .inl ?_
    simp only [advance]
    split
    · rfl
    · exact hwrite rfl
  | handler k =>
    refine .inr ⟨rfl, ?_⟩
    simp only [advance]
    split <;> rename_i hrun <;> rw [hrun]
  | complete k result | fail k error => exact .inl (hwrite rfl)
  | done answer => exact .inl rfl

theorem advance_call (fate : Fate) (s : Backend β σ) (t : WrapThread φ β σ) :
    (t.advance fingerprint fate s).2.call = t.call := by
  obtain ⟨call, stage, hit, execution⟩ := t
  cases stage with
  | findUnique =>
    simp only [advance]
    split <;> rfl
  | create =>
    simp only [advance]
    split
    · rfl
    · cases fate <;> rfl
  | handler k =>
    simp only [advance]
    split <;> rfl
  | complete k result | fail k error | done answer => rfl

end WrapThread

-- ---
-- Interleavings
-- ---

/-- The thread that takes its next statement, and how the statement ends. -/
def turn (fingerprint : φ → String) (p : Pool (Backend β σ) (WrapThread φ β σ)) (i : Nat × Fate) :
    Pool (Backend β σ) (WrapThread φ β σ) :=
  p.step (WrapThread.advance fingerprint i.2) i.1

def started (s : Backend β σ) (calls : List (Call φ β σ)) : Pool (Backend β σ) (WrapThread φ β σ) :=
  ⟨s, calls.map fun call => { call }⟩

/-- One claim at most; the handlers' state is as it was until it is made, and then
what one handler left. -/
structure Once (identity : KeyIdentity) (calls : List (Call φ β σ)) (world : σ)
    (p : Pool (Backend β σ) (WrapThread φ β σ)) : Prop where
  known : ∀ t ∈ p.threads, t.call ∈ calls ∧ t.call.ctx.identity = identity
  holds : ∀ t ∈ p.threads, t.Holds
  claims : room p.shared identity + p.weight (·.toldFirst) ≤ 1
  effect : (p.shared.world = world ∧ room p.shared identity + p.weight (·.pending) ≤ 1) ∨
    (room p.shared identity + p.weight (·.pending) = 0 ∧ ∃ call ∈ calls,
      p.shared.world = (call.handler world).1)

theorem Once.start (hsame : ∀ call ∈ calls, call.ctx.identity = identity) :
    Once identity calls s.world (started s calls : Pool (Backend β σ) (WrapThread φ β σ)) := by
  have hweight {w : WrapThread φ β σ → Nat} (hw : ∀ call, w { call } = 0) :
      (started s calls).weight w = 0 := by
    apply Pool.weight_eq_zero
    intro t ht
    obtain ⟨call, _, rfl⟩ := List.mem_map.mp ht
    exact hw call
  refine ⟨?_, ?_, ?_, .inl ⟨rfl, ?_⟩⟩
  · intro t ht
    obtain ⟨call, hcall, rfl⟩ := List.mem_map.mp ht
    exact ⟨hcall, hsame call hcall⟩
  · intro t ht
    obtain ⟨call, _, rfl⟩ := List.mem_map.mp ht
    exact ⟨rfl, rfl⟩
  · rw [hweight fun _ => rfl]
    exact room_le_one _ _
  · rw [hweight fun _ => rfl]
    exact room_le_one _ _

theorem Once.step {p : Pool (Backend β σ) (WrapThread φ β σ)} (h : Once identity calls world p)
    (i : Nat × Fate) :
    Once identity calls world (turn fingerprint p i) := by
  have hknown : ∀ t ∈ (turn fingerprint p i).threads, t.call ∈ calls ∧
      t.call.ctx.identity = identity :=
    Pool.step_assertions
      (A := fun _ (t : WrapThread φ β σ) => t.call ∈ calls ∧ t.call.ctx.identity = identity) h.known
      (fun t _ ht => (WrapThread.advance_call fingerprint i.2 p.shared t).symm ▸ ht)
      fun _ _ _ _ hu => hu
  have hholds : ∀ t ∈ (turn fingerprint p i).threads, t.Holds :=
    Pool.step_assertions (A := fun _ (t : WrapThread φ β σ) => t.Holds) h.holds
      (fun t _ ht => ht.advance fingerprint i.2 p.shared)
      fun _ _ _ _ hu => hu
  cases ht : p.threads[i.1]? with
  | none =>
    have hsame : turn fingerprint p i = p := by simp [turn, Pool.step, ht]
    rw [hsame]
    exact h
  | some t =>
    have hmem := List.mem_of_getElem? ht
    obtain ⟨hcall, rfl⟩ := h.known t hmem
    have hclaims := WrapThread.advance_claims fingerprint i.2 p.shared (h.holds t hmem)
    have hshared : (turn fingerprint p i).shared = (t.advance fingerprint i.2 p.shared).1 := by
      simp [turn, Pool.step, ht]
    refine ⟨hknown, hholds, ?_, ?_⟩
    · refine (Pool.weight_step_le (c := 0) (room · t.call.ctx.identity) (·.toldFirst) ht ?_).trans
        h.claims
      omega
    · have hstep : room (turn fingerprint p i).shared t.call.ctx.identity +
          (turn fingerprint p i).weight (·.pending) + t.pending ≤
            room p.shared t.call.ctx.identity + p.weight (·.pending) := by
        refine Pool.weight_step_le (room · t.call.ctx.identity) (·.pending) ht ?_
        omega
      rcases t.advance_world fingerprint i.2 p.shared with hworld | ⟨hone, hworld⟩
      · rcases h.effect with ⟨hbefore, hroom⟩ | ⟨hnone, call, hran, hbefore⟩
        · exact .inl ⟨by rw [hshared, hworld, hbefore], by omega⟩
        · exact .inr ⟨by omega, call, hran, by rw [hshared, hworld, hbefore]⟩
      · have hpending := p.le_weight (·.pending) hmem
        rcases h.effect with ⟨hbefore, hroom⟩ | ⟨hnone, _⟩
        · exact .inr ⟨by omega, t.call, hcall, by rw [hshared, hworld, hbefore]⟩
        · omega

theorem once_foldl (hsame : ∀ call ∈ calls, call.ctx.identity = identity)
    (turns : List (Nat × Fate)) :
    Once identity calls s.world (turns.foldl (turn fingerprint) (started s calls)) :=
  (Run.foldl _ _ turns).invariant (.start hsame) fun _ i hp _ => hp.step fingerprint i

theorem Once.executions_le {p : Pool (Backend β σ) (WrapThread φ β σ)}
    (h : Once identity calls world p) :
    p.weight (·.executions) ≤ 1 :=
  (Pool.weight_mono fun t ht => (h.holds t ht).executions_le).trans (Nat.le_of_add_left_le h.claims)

/-- In every interleaving of calls with one key, whatever statements fail, the
handlers' state changes by one handler at most, one handler at most runs, and one
caller at most is told that it was first. -/
theorem run_effect_once (hsame : ∀ call ∈ calls, call.ctx.identity = identity)
    (turns : List (Nat × Fate)) :
    let p := turns.foldl (turn fingerprint) (started s calls)
    (p.shared.world = s.world ∨ ∃ call ∈ calls, p.shared.world = (call.handler s.world).1) ∧
      p.weight (·.executions) ≤ 1 ∧ p.weight (·.toldFirst) ≤ 1 := by
  intro p
  have honce : Once identity calls s.world p := once_foldl fingerprint hsame turns
  refine ⟨?_, honce.executions_le, Nat.le_of_add_left_le honce.claims⟩
  rcases honce.effect with ⟨hworld, _⟩ | ⟨_, hran⟩
  · exact .inl hworld
  · exact .inr hran

/-- A handler that counts its runs. -/
def countingCall (execution : Execution String) : Call String String Nat where
  ctx :=
    { key := "key-0001", routeMethod := "POST", routePath := "/charge"
      fingerprintSource := "request" }
  handler runs := (runs + 1, execution)

/-- Two callers look the key up before either claims it. -/
theorem run_effect_once_race :
    let calls := [countingCall (.ok { body := some (some "paid") }),
      countingCall (.ok { body := some (some "paid") })]
    let turns := [0, 1, 0, 1, 0, 0].map fun i => (i, Fate.applied)
    let p := turns.foldl (turn id) (started { world := 0 } calls)
    p.shared.world = 1 ∧ p.weight (·.executions) ≤ 1 ∧ p.weight (·.toldFirst) ≤ 1 := by
  intro calls turns p
  have hsame : ∀ call ∈ calls,
      call.ctx.identity = ⟨"default", "key-0001", "POST", "/charge"⟩ := by decide
  exact ⟨by decide, (run_effect_once id hsame turns).2⟩

end NimbusPos.IdempotencyService
