import NimbusPos.Lib.Table

/-!
# Numbering by count

The rows of a group are numbered by their count plus one, next to rows with codes of any kind. The
next number is free as long as no row takes the one after, and no row has it already.
-/

namespace NimbusPos.Lib

/-- Rows with a group and a code, and the codes that numbers are written as. -/
structure Serial (α γ κ : Type) where
  group : α → γ
  code : α → κ
  format : Nat → κ
  injective : ∀ m n, format m = format n → m = n

namespace Serial

variable {α γ κ : Type} (S : Serial α γ κ) (t : Table α)

/-- A row of the group has the code. -/
def Used (g : γ) (x : κ) : Prop := ∃ k a, t.get? k = some a ∧ S.group a = g ∧ S.code a = x

theorem used_insert {S : Serial α γ κ} {t : Table α} {a : α} {g : γ} {x : κ} :
    S.Used (t.insert a) g x ↔ S.Used t g x ∨ S.group a = g ∧ S.code a = x := by
  constructor
  · rintro ⟨k, b, hget, hgroup, hcode⟩
    rcases Table.insert_cases hget with ⟨-, rfl⟩ | hget
    · exact .inr ⟨hgroup, hcode⟩
    · exact .inl ⟨k, b, hget, hgroup, hcode⟩
  · rintro (⟨k, b, hget, hgroup, hcode⟩ | ⟨hgroup, hcode⟩)
    · exact ⟨k, b, Table.get?_insert_of_some hget, hgroup, hcode⟩
    · exact ⟨t.next, a, Table.get?_insert_self t a, hgroup, hcode⟩

variable [DecidableEq γ]

def count (g : γ) : Nat := t.count fun _ a => S.group a == g

/-- The code that is generated for the group. -/
def next (g : γ) : κ := S.format (S.count t g + 1)

/-- No group has the code that is generated for it. -/
def Free : Prop := ∀ g, ¬S.Used t g (S.next t g)

/-- Neither the row nor another one of its group has the code that is generated after it. -/
structure Fits (a : α) : Prop where
  self : S.code a ≠ S.format (S.count t (S.group a) + 2)
  others : ¬S.Used t (S.group a) (S.format (S.count t (S.group a) + 2))

instance [DecidableEq κ] (g : γ) (x : κ) : Decidable (S.Used t g x) :=
  decidable_of_iff ((t.findFirst fun _ a => S.group a == g && S.code a == x).isSome = true) <| by
    rw [Option.isSome_iff_exists]
    constructor
    · rintro ⟨⟨k, a⟩, hfound⟩
      obtain ⟨hget, hused⟩ := Table.findFirst_some hfound
      rw [Bool.and_eq_true, beq_iff_eq, beq_iff_eq] at hused
      exact ⟨k, a, hget, hused⟩
    · rintro ⟨k, a, hget, rfl, rfl⟩
      refine Option.ne_none_iff_exists'.mp fun hnone => ?_
      simpa using Table.findFirst_none.mp hnone k a hget

instance [DecidableEq κ] (a : α) : Decidable (S.Fits t a) :=
  decidable_of_iff
    (S.code a ≠ S.format (S.count t (S.group a) + 2) ∧
      ¬S.Used t (S.group a) (S.format (S.count t (S.group a) + 2)))
    ⟨fun h => ⟨h.1, h.2⟩, fun h => ⟨h.self, h.others⟩⟩

variable {S t}

theorem count_insert (a : α) (g : γ) :
    S.count (t.insert a) g = S.count t g + if S.group a = g then 1 else 0 := by
  simp [count, Table.count_insert]

theorem next_insert (a : α) (g : γ) :
    S.next (t.insert a) g =
      if S.group a = g then S.format (S.count t g + 2) else S.next t g := by
  rw [next, count_insert]
  split <;> rfl

theorem free_insert_iff (h : S.Free t) (a : α) : S.Free (t.insert a) ↔ S.Fits t a := by
  constructor
  · intro hnext
    have hgroup := hnext (S.group a)
    rw [next_insert, if_pos rfl, used_insert, not_or] at hgroup
    exact ⟨fun hcode => hgroup.2 ⟨rfl, hcode⟩, hgroup.1⟩
  · rintro hfits g hused
    rw [next_insert, used_insert] at hused
    split at hused
    · rename_i hgroup
      subst hgroup
      rcases hused with hused | ⟨-, hcode⟩
      · exact hfits.others hused
      · exact hfits.self hcode
    · rename_i hgroup
      rcases hused with hused | ⟨hsame, -⟩
      · exact h g hused
      · exact hgroup hsame

end Serial

end NimbusPos.Lib
