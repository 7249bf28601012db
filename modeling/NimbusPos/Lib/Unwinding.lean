import NimbusPos.Lib.Run

/-!
# What hidden events leave alone

Two states are alike when an observer cannot tell them apart. If hidden events lead to
states that are alike and visible ones keep states alike, then two runs with the same
visible events end alike, whatever the hidden ones did.
-/

namespace NimbusPos.Lib

structure Unwinding {σ κ : Type} (next : σ → κ → σ) (ok : σ → κ → Prop) (visible : κ → Bool) where
  alike : σ → σ → Prop
  symm : alike s t → alike t s
  hidden : alike s t → ok s k → visible k = false → alike (next s k) t
  both : alike s t → ok s k → ok t k → visible k = true → alike (next s k) (next t k)

namespace Unwinding

variable {σ κ : Type} {next : σ → κ → σ} {ok : σ → κ → Prop} {visible : κ → Bool}
  (U : Unwinding next ok visible) {start start' s t : σ}

theorem filter_snoc_hidden (h : visible k = false) (ks : List κ) :
    (ks ++ [k]).filter visible = ks.filter visible := by
  rw [List.filter_append, List.filter_singleton, h, cond_false, List.append_nil]

theorem filter_snoc_visible (h : visible k = true) (ks : List κ) :
    (ks ++ [k]).filter visible = ks.filter visible ++ [k] := by
  rw [List.filter_append, List.filter_singleton, h, cond_true]

/-- The observer's state does not move while the events are hidden. -/
theorem hidden_run (hs : U.alike s start') (hrun : Run next ok start' ks t)
    (hnone : ks.filter visible = []) : U.alike s t := by
  induction hrun with
  | nil => exact hs
  | @snoc ks t k _ hk ih =>
    cases hvisible : visible k with
    | false =>
      rw [filter_snoc_hidden hvisible] at hnone
      exact U.symm (U.hidden (U.symm (ih hnone)) hk hvisible)
    | true =>
      rw [filter_snoc_visible hvisible] at hnone
      exact absurd hnone (by simp)

/-- One visible event more on both sides. -/
theorem visible_run (hs :
    ∀ ks t, Run next ok start' ks t → ks.filter visible = before → U.alike s t)
    (hk : ok s k) (hvisible : visible k = true) (hrun : Run next ok start' ks t)
    (hfilter : ks.filter visible = before ++ [k]) : U.alike (next s k) t := by
  induction hrun with
  | nil => exact absurd hfilter (by simp)
  | @snoc ks t j hrun hj ih =>
    cases hother : visible j with
    | false =>
      rw [filter_snoc_hidden hother] at hfilter
      exact U.symm (U.hidden (U.symm (ih hfilter)) hj hother)
    | true =>
      rw [filter_snoc_visible hother] at hfilter
      obtain ⟨hbefore, hlast⟩ := List.append_inj' hfilter rfl
      cases hlast
      exact U.both (hs ks t hrun hbefore) hk hj hvisible

theorem runs (hstart : U.alike start start') (hrun : Run next ok start ks s)
    (hrun' : Run next ok start' ks' t) (hsame : ks.filter visible = ks'.filter visible) :
    U.alike s t := by
  induction hrun generalizing ks' t with
  | nil => exact U.hidden_run hstart hrun' hsame.symm
  | @snoc ks s k hrun hk ih =>
    cases hvisible : visible k with
    | false =>
      rw [filter_snoc_hidden hvisible] at hsame
      exact U.hidden (ih hrun' hsame) hk hvisible
    | true =>
      rw [filter_snoc_visible hvisible] at hsame
      exact U.visible_run (fun ks t h hfilter => ih h hfilter.symm) hk hvisible hrun' hsame.symm

end Unwinding

end NimbusPos.Lib
