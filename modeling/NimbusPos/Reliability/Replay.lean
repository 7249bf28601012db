import NimbusPos.Reliability.EffectOnce

/-!
# Replayed outcomes

`begin` answers from a finished row, SUCCEEDED or FAILED, and `wrap` hands the
stored body on as a success. As long as no look-up finds a FAILED row, every
replayed call gets the outcome of the one execution there was. A FAILED row is
replayed as a success with the body `null`.
-/

namespace NimbusPos.IdempotencyService

open Lib

variable {φ β σ : Type} (fingerprint : φ → String) {s : Backend β σ} {identity : KeyIdentity}

/-- The answer is the outcome of the execution: its body, or a failure. -/
def Faithful : Execution β → Answer β → Prop
  | .ok result, .returned body => body = result.body.join
  | .error _, .threw _ => True
  | _, _ => False

instance [DecidableEq β] :
    (execution : Execution β) → (answer : Answer β) → Decidable (Faithful execution answer)
  | .ok result, .returned body => inferInstanceAs (Decidable (body = result.body.join))
  | .error _, .threw _ => .isTrue trivial
  | .ok _, .threw _ | .error _, .returned _ => .isFalse nofun

/-- Some handler of the pool returned this body. -/
def Produced (p : Pool (Backend β σ) (WrapThread φ β σ)) (body : Option β) : Prop :=
  ∃ t ∈ p.threads, ∃ result, t.execution = some (.ok result) ∧ body = result.body.join

-- ---
-- One statement
-- ---

namespace WrapThread

theorem advance_execution {t : WrapThread φ β σ} {execution : Execution β} (h : t.Holds)
    (fate : Fate) (s : Backend β σ) (hexecution : t.execution = some execution) :
    (t.advance fingerprint fate s).2.execution = some execution := by
  obtain ⟨call, stage, hit, _⟩ := t
  cases stage with
  | findUnique | create | handler k => cases h.2.symm.trans hexecution
  | complete k result | fail k error | done answer => exact hexecution

/-- A row is as it was, new, marked FAILED, or completed with what the thread's
handler returned. -/
theorem advance_rows {t : WrapThread φ β σ} (h : t.Holds) (fate : Fate) (s : Backend β σ)
    (hrow : (t.advance fingerprint fate s).1.keys.get? k = some row) :
    s.keys.get? k = some row ∨ (row.status = .inFlight ∧ row.responseBody = none) ∨
      ∃ old, s.keys.get? k = some old ∧ old.identity = row.identity ∧
        ((row.status = .failed ∧ row.responseBody = old.responseBody) ∨
          ∃ result, t.execution = some (.ok result) ∧ row.status = .succeeded ∧
            row.responseBody = result.body.getD old.responseBody) := by
  have hcomplete {opts : CompleteOptions β} {j : Id}
      (hrow : (fate.write s (complete s j opts)).keys.get? k = some row) :
      s.keys.get? k = some row ∨ ∃ old, s.keys.get? k = some old ∧
        row = opts.rewrite s.clock old := by
    rcases fate.write_cases s (complete s j opts) with hwrite | hwrite
    · rw [hwrite, complete, Table.get?_update] at hrow
      split at hrow
      · obtain ⟨old, hold, rfl⟩ := Option.map_eq_some_iff.mp hrow
        exact .inr ⟨old, hold, rfl⟩
      · exact .inl hrow
    · rw [hwrite] at hrow
      exact .inl hrow
  obtain ⟨call, stage, hit, execution⟩ := t
  cases stage with
  | findUnique =>
    simp only [advance] at hrow
    split at hrow <;> exact .inl hrow
  | create =>
    simp only [advance] at hrow
    split at hrow
    · exact .inl hrow
    · rcases fate.write_cases s (create fingerprint s call.ctx) with hwrite | hwrite
      · rw [hwrite, create, Table.get?_insert] at hrow
        split at hrow
        · cases hrow
          exact .inr (.inl ⟨rfl, rfl⟩)
        · exact .inl hrow
      · rw [hwrite] at hrow
        exact .inl hrow
  | handler k =>
    simp only [advance] at hrow
    split at hrow <;> exact .inl hrow
  | complete j result =>
    rcases hcomplete hrow with hsame | ⟨old, hold, rfl⟩
    · exact .inl hsame
    · exact .inr (.inr ⟨old, hold, rfl, .inr ⟨result, h.2, rfl, rfl⟩⟩)
  | fail j error =>
    rcases hcomplete hrow with hsame | ⟨old, hold, rfl⟩
    · exact .inl hsame
    · exact .inr (.inr ⟨old, hold, rfl, .inl ⟨rfl, rfl⟩⟩)
  | done answer => exact .inl hrow

/-- A call is answered by the look-up that found a finished row of its request. -/
theorem advance_replay (t : WrapThread φ β σ) (fate : Fate) (s : Backend β σ)
    (hhit : (t.advance fingerprint fate s).2.hit = some (.replay k statusCode body)) :
    t.hit = some (.replay k statusCode body) ∨
      (t.stage = .findUnique ∧ ∃ existing, findUnique s t.call.ctx.identity = some (k, existing) ∧
        existing.requestHash = fingerprint t.call.ctx.fingerprintSource ∧
          existing.status ≠ .inFlight ∧
        body = existing.responseBody) := by
  obtain ⟨call, stage, hit, execution⟩ := t
  cases stage with
  | findUnique =>
    simp only [advance] at hhit
    split at hhit
    · exact .inl hhit
    · rename_i recordId existing _ hfound
      refine .inr ⟨rfl, existing, ?_⟩
      simp only [told, existingHit, Option.some.injEq] at hhit
      split at hhit
      · cases hhit
      · rename_i hhash
        split at hhit
        · cases hhit
        · rename_i hstatus
          cases hhit
          exact ⟨hfound, Decidable.not_not.mp hhash, hstatus, rfl⟩
    · exact .inl hhit
  | create =>
    simp only [advance] at hhit
    split at hhit
    · exact .inl hhit
    · cases fate with
      | applied => cases hhit
      | refused message | unanswered message => exact .inl hhit
  | handler k =>
    simp only [advance] at hhit
    split at hhit <;> exact .inl hhit
  | complete k result | fail k error | done answer => exact .inl hhit

end WrapThread

-- ---
-- Interleavings
-- ---

/-- A look-up that finds the row of its request finds it not FAILED. -/
def findsNoFailure (p : Pool (Backend β σ) (WrapThread φ β σ)) (i : Nat × Fate) : Prop :=
  ∀ t ∈ p.threads[i.1]?, t.stage = .findUnique →
    ∀ row ∈ findUnique p.shared t.call.ctx.identity,
      row.2.requestHash = fingerprint t.call.ctx.fingerprintSource → row.2.status ≠ .failed

instance [DecidableEq β] {p : Pool (Backend β σ) (WrapThread φ β σ)} :
    Decidable (findsNoFailure fingerprint p i) :=
  inferInstanceAs (Decidable (∀ t ∈ p.threads[i.1]?, _ → ∀ row ∈ findUnique _ _, _ → _ ≠ _))

/-- What the rows hold, and what was replayed, a handler of the pool returned. -/
structure Recorded (identity : KeyIdentity) (p : Pool (Backend β σ) (WrapThread φ β σ)) : Prop where
  known : ∀ t ∈ p.threads, t.call.ctx.identity = identity
  holds : ∀ t ∈ p.threads, t.Holds
  rows : ∀ k row, p.shared.keys.get? k = some row → row.identity = identity →
    row.status ≠ .conflict ∧ (row.status = .succeeded → Produced p row.responseBody) ∧
      (row.responseBody = none ∨ Produced p row.responseBody)
  replays : ∀ t ∈ p.threads, ∀ k statusCode body, t.hit = some (.replay k statusCode body) →
    Produced p body

theorem Produced.step {p : Pool (Backend β σ) (WrapThread φ β σ)} (h : Produced p body)
    (hholds : ∀ t ∈ p.threads, t.Holds)
    (i : Nat × Fate) : Produced (turn fingerprint p i) body := by
  obtain ⟨t, ht, result, hexecution, hbody⟩ := h
  rcases p.step_cases (WrapThread.advance fingerprint i.2) i.1 with ⟨_, hsame⟩ |
    ⟨before, u, after, hp, _, _, hstep⟩
  · exact ⟨t, by rw [turn, hsame]; exact ht, result, hexecution, hbody⟩
  · rw [hp, List.mem_append, List.mem_cons] at ht
    rcases ht with ht | rfl | ht
    · exact ⟨t, by rw [turn, hstep]; simp [ht], result, hexecution, hbody⟩
    · refine ⟨(t.advance fingerprint i.2 p.shared).2, by rw [turn, hstep]; simp, result, ?_, hbody⟩
      exact WrapThread.advance_execution fingerprint (hholds t (by simp [hp])) i.2 p.shared
        hexecution
    · exact ⟨t, by rw [turn, hstep]; simp [ht], result, hexecution, hbody⟩

theorem Recorded.start (hsame : ∀ call ∈ calls, call.ctx.identity = identity)
    (hfresh : findUnique s identity = none) :
    Recorded identity (started s calls : Pool (Backend β σ) (WrapThread φ β σ)) := by
  refine ⟨?_, ?_, ?_, ?_⟩
  · intro t ht
    obtain ⟨call, hcall, rfl⟩ := List.mem_map.mp ht
    exact hsame call hcall
  · intro t ht
    obtain ⟨call, _, rfl⟩ := List.mem_map.mp ht
    exact ⟨rfl, rfl⟩
  · intro k row hrow hidentity
    have hother := Table.findFirst_none.mp hfresh k row hrow
    simp [hidentity] at hother
  · intro t ht
    obtain ⟨call, _, rfl⟩ := List.mem_map.mp ht
    exact nofun

theorem Recorded.step {p : Pool (Backend β σ) (WrapThread φ β σ)} (h : Recorded identity p)
    (hok : findsNoFailure fingerprint p i) : Recorded identity (turn fingerprint p i) := by
  have hknown : ∀ t ∈ (turn fingerprint p i).threads, t.call.ctx.identity = identity :=
    Pool.step_assertions (A := fun _ (t : WrapThread φ β σ) => t.call.ctx.identity = identity)
      h.known
      (fun t _ ht => (WrapThread.advance_call fingerprint i.2 p.shared t).symm ▸ ht)
      fun _ _ _ _ hu => hu
  have hholds : ∀ t ∈ (turn fingerprint p i).threads, t.Holds :=
    Pool.step_assertions (A := fun _ (t : WrapThread φ β σ) => t.Holds) h.holds
      (fun t _ ht => ht.advance fingerprint i.2 p.shared) fun _ _ _ _ hu => hu
  have hkept {body : Option β} (hbody : Produced p body) : Produced (turn fingerprint p i) body :=
    hbody.step fingerprint h.holds i
  rcases p.step_cases (WrapThread.advance fingerprint i.2) i.1 with ⟨_, hsame⟩ |
    ⟨before, t, after, hp, _, ht, hstep⟩
  · rw [turn, hsame]
    exact h
  · have hmem : t ∈ p.threads := by simp [hp]
    refine ⟨hknown, hholds, ?_, ?_⟩
    · intro k row hrow hidentity
      rw [turn, hstep] at hrow
      rcases WrapThread.advance_rows fingerprint (h.holds t hmem) i.2 p.shared hrow with
        hold | ⟨hstatus, hbody⟩ | ⟨old, hold, hsame, hcompleted⟩
      · obtain ⟨hconflict, hsucceeded, hstored⟩ := h.rows k row hold hidentity
        exact ⟨hconflict, fun hstatus => hkept (hsucceeded hstatus), hstored.imp_right hkept⟩
      · exact ⟨by simp [hstatus], by simp [hstatus], .inl hbody⟩
      · obtain ⟨_, _, hstored⟩ := h.rows k old hold (hsame.trans hidentity)
        rcases hcompleted with ⟨hstatus, hbody⟩ | ⟨result, hexecution, hstatus, hbody⟩
        · exact ⟨by simp [hstatus], by simp [hstatus], hbody ▸ hstored.imp_right hkept⟩
        · -- an undefined body leaves the column as it was, which is null or produced
          have hproduced : Produced (turn fingerprint p i) row.responseBody := by
            cases hresult : result.body with
            | some body => exact hkept ⟨t, hmem, result, hexecution, by rw [hbody, hresult]; rfl⟩
            | none =>
              rw [hbody, hresult, Option.getD_none]
              rcases hstored with hnull | hproduced
              · exact hkept ⟨t, hmem, result, hexecution, by rw [hnull, hresult]; rfl⟩
              · exact hkept hproduced
          exact ⟨by simp [hstatus], fun _ => hproduced, .inr hproduced⟩
    · intro u hu k statusCode body hhit
      rw [turn, hstep] at hu
      simp only [List.mem_append, List.mem_cons] at hu
      rcases hu with hu | rfl | hu
      · exact hkept (h.replays u (by simp [hp, hu]) k statusCode body hhit)
      · rcases WrapThread.advance_replay fingerprint t i.2 p.shared hhit with
          hhit | ⟨hstage, existing, hfound, hhash, hinFlight, rfl⟩
        · exact hkept (h.replays t hmem k statusCode body hhit)
        · obtain ⟨hget, hidentity⟩ := Table.findFirst_some hfound
          have hsame : existing.identity = identity :=
            (beq_iff_eq.mp hidentity).trans (h.known t hmem)
          obtain ⟨hconflict, hsucceeded, _⟩ := h.rows k existing hget hsame
          have hfailed := hok t ht hstage (k, existing) hfound hhash
          cases hstatus : existing.status with
          | inFlight => exact absurd hstatus hinFlight
          | failed => exact absurd hstatus hfailed
          | conflict => exact absurd hstatus hconflict
          | succeeded => exact hkept (hsucceeded hstatus)
      · exact hkept (h.replays u (by simp [hp, hu]) k statusCode body hhit)

/-- From a store without the key, in every interleaving in which no look-up finds a
FAILED row, a replayed call is answered with the outcome of the one execution. -/
theorem run_replay (hsame : ∀ call ∈ calls, call.ctx.identity = identity)
    (hfresh : findUnique s identity = none)
    (h : Run (turn fingerprint) (findsNoFailure fingerprint) (started s calls) turns p) :
    p.weight (·.executions) ≤ 1 ∧
      ∀ u ∈ p.threads, ∀ k statusCode body, u.hit = some (.replay k statusCode body) →
        ∃ t ∈ p.threads, ∃ execution, t.execution = some execution ∧
          ∃ answer, u.stage = .done answer ∧ Faithful execution answer := by
  have honce : Once identity calls s.world p := h.eq_foldl ▸ once_foldl fingerprint hsame turns
  refine ⟨honce.executions_le, ?_⟩
  intro u hu k statusCode body hhit
  have hrecorded :=
    h.invariant (Recorded.start hsame hfresh) fun _ _ hp hok => hp.step fingerprint hok
  obtain ⟨t, ht, result, hexecution, hbody⟩ := hrecorded.replays u hu k statusCode body hhit
  refine ⟨t, ht, .ok result, hexecution, .returned body, ?_, hbody⟩
  have hu := hrecorded.holds u hu
  obtain ⟨call, stage, hit, execution⟩ := u
  cases hhit
  cases stage with
  | findUnique | create | handler | complete | fail => cases hu.1
  | done answer => rw [hu.2 k statusCode body rfl]

/-- A repeated request is answered with the body of the first. -/
theorem run_replay_repeated :
    let calls := [countingCall (.ok { body := some (some "paid") }),
      countingCall (.ok { body := some (some "paid") })]
    let turns := [0, 0, 0, 0, 1].map fun i => (i, Fate.applied)
    let p := turns.foldl (turn id) (started { world := 0 } calls)
    (p.threads[1]?.map (·.hit)) = some (some (.replay 0 200 (some "paid"))) ∧
      p.weight (·.executions) ≤ 1 := by
  intro calls turns p
  have hsame : ∀ call ∈ calls,
      call.ctx.identity = ⟨"default", "key-0001", "POST", "/charge"⟩ := by decide
  have hrun : Run (turn id) (findsNoFailure id) (started { world := 0 } calls) turns
      p := Run.of_holds (by decide)
  exact ⟨by decide, (run_replay id hsame rfl hrun).1⟩

-- ---
-- A failure replayed as a success
-- ---

/-- A handler that fails is replayed as a success; so is a handler that succeeded
and whose completion was refused, and then its body is lost. -/
theorem failure_replayed :
    ¬(∀ (s : Backend String Nat) (call : Call String String Nat),
      findUnique s call.ctx.identity = none →
      Faithful (call.handler s.world).2 (wrap id (wrap id s call).1 call).2) ∧
    ¬(∀ (s : Backend String Nat) (call : Call String String Nat) (turns : List (Nat × Fate))
      execution body, findUnique s call.ctx.identity = none →
      let threads := (turns.foldl (turn id) (started s [call, call])).threads
      threads[0]?.bind (·.execution) = some execution →
      threads[1]?.map (·.stage) = some (.done (.returned body)) →
        Faithful execution (.returned body)) := by
  constructor
  · intro h
    have hfaithful := h { world := 0 } (countingCall (.error (.handler (some 402) "card declined")))
        rfl
    exact absurd hfaithful (by decide)
  · intro h
    have hfaithful := h { world := 0 } (countingCall (.ok { body := some (some "paid") }))
      [(0, .applied), (0, .applied), (0, .applied), (0, .refused "timeout"), (0, .applied),
        (1, .applied)]
      (.ok { body := some (some "paid") }) none rfl rfl rfl
    exact absurd hfaithful (by decide)

end NimbusPos.IdempotencyService
