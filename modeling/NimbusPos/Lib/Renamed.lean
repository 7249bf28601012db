import Mathlib.Data.List.Sort
import NimbusPos.Lib.Table

/-!
# Rows under other keys

Two tables show the same rows of a kind, in the same order, and may have given them
other keys. A search that asks about the rows alone finds the same row in both, and
writing to what was found leaves them the same.
-/

namespace NimbusPos.Lib

namespace Table

variable {α : Type u}

/-- The first of the rows in the order of a rank; rows of one rank stay in their order. -/
def first (rank : α → Nat) (rows : List (Nat × α)) : Option (Nat × α) :=
  (rows.insertionSort fun row row' => rank row.2 ≤ rank row'.2).head?

/-- The rows of the kind, keys apart. -/
def Renamed (kind : α → Bool) (t u : Table α) : Prop :=
  (t.findMany fun _ a => kind a).map Prod.snd = (u.findMany fun _ a => kind a).map Prod.snd

variable {kind : α → Bool} {t u v : Table α}

theorem first_mem {rank : α → Nat} {rows : List (Nat × α)} (h : first rank rows = some row) :
    row ∈ rows :=
  (List.mem_insertionSort _).mp (List.mem_of_mem_head? h)

theorem findMany_update (t : Table α) (k : Nat) {f : α → α} {p : Nat → α → Bool}
    (hp : ∀ j a, p j (f a) = p j a) :
    (t.update k f).findMany p =
      (t.findMany p).map fun row => (row.1, if row.1 == k then f row.2 else row.2) := by
  simp only [findMany, update, updateWhere, List.filter_map]
  congr 1
  refine List.filter_congr fun row _ => ?_
  simp only [Function.comp_apply]
  split
  · exact hp row.1 row.2
  · rfl

namespace Renamed

theorem refl (kind : α → Bool) (t : Table α) : Renamed kind t t := rfl

theorem symm (h : Renamed kind t u) : Renamed kind u t := Eq.symm h

theorem trans (h : Renamed kind t u) (h' : Renamed kind u v) : Renamed kind t v := Eq.trans h h'

theorem insert (h : Renamed kind t u) (a : α) : Renamed kind (t.insert a) (u.insert a) := by
  unfold Renamed at h ⊢
  rw [findMany_insert, findMany_insert, List.map_append, List.map_append, h]
  cases kind a <;> rfl

theorem insert_hidden (t : Table α) (ha : kind a = false) : Renamed kind (t.insert a) t := by
  unfold Renamed
  rw [findMany_insert, ha, if_neg Bool.false_ne_true, List.append_nil]

theorem update_hidden {f : α → α} (hget : t.get? k = some a) (ha : kind a = false)
    (hf : ∀ b, kind (f b) = kind b) : Renamed kind (t.update k f) t := by
  unfold Renamed
  rw [findMany_update t k fun _ b => hf b, List.map_map]
  refine List.map_congr_left fun row hrow => ?_
  obtain ⟨hrow, hkind⟩ := mem_findMany.mp hrow
  have hk : row.1 ≠ k := by
    rintro rfl
    cases hget.symm.trans hrow
    exact Bool.false_ne_true (ha.symm.trans hkind)
  simp only [Function.comp_apply, beq_iff_eq, if_neg hk]

/-- The rows side by side: each pair is one row under two keys. -/
theorem pairs (h : Renamed kind t u) : ∃ pairs : List ((Nat × α) × Nat × α),
    (t.findMany fun _ a => kind a) = pairs.map Prod.fst ∧
    (u.findMany fun _ a => kind a) = pairs.map Prod.snd ∧ ∀ pair ∈ pairs, pair.1.2 = pair.2.2 := by
  unfold Renamed at h
  generalize (t.findMany fun _ a => kind a) = rows at h
  generalize (u.findMany fun _ a => kind a) = rows' at h
  induction rows generalizing rows' with
  | nil =>
    rw [List.map_nil, eq_comm, List.map_eq_nil_iff] at h
    exact ⟨[], rfl, h, fun _ hpair => absurd hpair List.not_mem_nil⟩
  | cons row rows ih =>
    rw [List.map_cons, eq_comm, List.map_eq_cons_iff] at h
    obtain ⟨row', rest, rfl, hrow, hrest⟩ := h
    obtain ⟨pairs, rfl, rfl, hpairs⟩ := ih rest hrest.symm
    refine ⟨(row, row') :: pairs, rfl, rfl, fun pair hpair => ?_⟩
    rcases List.mem_cons.mp hpair with rfl | hpair
    · exact hrow.symm
    · exact hpairs pair hpair

variable {p : α → Bool}

theorem mono (h : Renamed kind t u) (hp : ∀ a, p a = true → kind a = true) : Renamed p t u := by
  have hrows : ∀ v : Table α, (v.findMany fun _ a => p a).map Prod.snd =
      ((v.findMany fun _ a => kind a).map Prod.snd).filter p := by
    intro v
    rw [findMany_of_imp fun _ a => hp a, List.filter_map]
    rfl
  unfold Renamed
  rw [hrows t, hrows u, h]

theorem findFirst (h : Renamed kind t u) (hp : ∀ a, p a = true → kind a = true) :
    (t.findFirst fun _ a => p a).isNone = (u.findFirst fun _ a => p a).isNone := by
  have hnone : ∀ v : Table α, (v.findFirst fun _ a => p a) = none ↔
      (v.findMany fun _ a => p a).map Prod.snd = [] := by
    intro v
    rw [List.map_eq_nil_iff, findMany, List.filter_eq_nil_iff, Table.findFirst, List.find?_eq_none]
  rw [Bool.eq_iff_iff, Option.isNone_iff_eq_none, Option.isNone_iff_eq_none, hnone, hnone,
    h.mono hp]

/-- A search among rows of the kind. Either finds nothing, or both find one row, and then
writing to it keeps the tables the same. -/
theorem first (h : Renamed kind t u) (hp : ∀ a, p a = true → kind a = true) (rank : α → Nat) :
    (Table.first rank (t.findMany fun _ a => p a) = none ∧
      Table.first rank (u.findMany fun _ a => p a) = none) ∨
    ∃ k k' a, Table.first rank (t.findMany fun _ a => p a) = some (k, a) ∧
      Table.first rank (u.findMany fun _ a => p a) = some (k', a) ∧
      ∀ f : α → α, (∀ b, kind (f b) = kind b) → Renamed kind (t.update k f) (u.update k' f) := by
  obtain ⟨pairs, ht, hu, hsame⟩ := h.pairs
  have hkeys : (pairs.map fun pair => pair.1.1).Nodup := by
    have := findMany_keys t fun _ a => kind a
    rwa [ht, List.map_map] at this
  have hkeys' : (pairs.map fun pair => pair.2.1).Nodup := by
    have := findMany_keys u fun _ a => kind a
    rwa [hu, List.map_map] at this
  rw [findMany_of_imp fun _ a => hp a, findMany_of_imp (t := u) fun _ a => hp a, ht, hu,
    List.filter_map, List.filter_map]
  have hfilter : pairs.filter ((fun row : Nat × α => p row.2) ∘ Prod.snd) =
      pairs.filter ((fun row : Nat × α => p row.2) ∘ Prod.fst) :=
    List.filter_congr fun pair hpair => congrArg p (hsame pair hpair).symm
  rw [hfilter]
  generalize hfound : pairs.filter ((fun row : Nat × α => p row.2) ∘ Prod.fst) = found
  have hmem : ∀ pair ∈ found, pair ∈ pairs := fun pair hpair =>
    List.mem_of_mem_filter (hfound ▸ hpair)
  -- both searches are one search among the pairs
  have hsort := List.map_insertionSort (fun pair pair' => rank pair.1.2 ≤ rank pair'.1.2)
    (fun row row' : Nat × α => rank row.2 ≤ rank row'.2) Prod.fst found fun _ _ _ _ => Iff.rfl
  have hsort' := List.map_insertionSort (fun pair pair' => rank pair.1.2 ≤ rank pair'.1.2)
    (fun row row' : Nat × α => rank row.2 ≤ rank row'.2) Prod.snd found
    fun pair hpair pair' hpair' => by
      rw [hsame pair (hmem pair hpair), hsame pair' (hmem pair' hpair')]
  unfold Table.first
  rw [← hsort, ← hsort', List.head?_map, List.head?_map]
  cases hhead : (found.insertionSort fun pair pair' => rank pair.1.2 ≤ rank pair'.1.2).head? with
  | none => exact .inl ⟨rfl, rfl⟩
  | some pair =>
    have hpair : pair ∈ pairs :=
      hmem pair ((List.mem_insertionSort _).mp (List.mem_of_mem_head? hhead))
    obtain ⟨⟨k, a⟩, k', a'⟩ := pair
    obtain rfl : a = a' := hsame _ hpair
    refine .inr ⟨k, k', a, rfl, rfl, fun f hf => ?_⟩
    unfold Renamed
    rw [findMany_update t k fun _ b => hf b, findMany_update u k' fun _ b => hf b, ht, hu,
      List.map_map, List.map_map, List.map_map, List.map_map]
    refine List.map_congr_left fun other hother => ?_
    have hone : (other.1.1 == k) = (other.2.1 == k') := by
      rw [Bool.eq_iff_iff, beq_iff_eq, beq_iff_eq]
      constructor
      · intro hk
        obtain rfl := List.inj_on_of_nodup_map hkeys hother hpair hk
        rfl
      · intro hk
        obtain rfl := List.inj_on_of_nodup_map hkeys' hother hpair hk
        rfl
    simp only [Function.comp_apply, hone, hsame other hother]

end Renamed

end Table

end NimbusPos.Lib
