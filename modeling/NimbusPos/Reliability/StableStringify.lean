import NimbusPos.Lib.Json

/-!
# What is hashed of a request

The fingerprint of a request is the hash of a text in which the keys of objects are in order. Two
values have one text exactly if they are equal up to the order of their keys.
-/

namespace NimbusPos.IdempotencyService

open Lib

-- ---
-- The text
-- ---

/-- `.join(',')`. -/
def commaJoin (texts : List JsString) : JsString := [unit ','].intercalate texts

/-- `Object.keys(value).sort()`, each key with what belongs to it. -/
def sortedByKey {α : Type} (members : List (JsString × α)) : List (JsString × α) :=
  members.insertionSort fun a b => a.1 ≤ b.1

def memberText (member : JsString × JsString) : JsString :=
  quoteString member.1 ++ unit ':' :: member.2

def booleanText (b : Bool) : List Char := if b then "true".toList else "false".toList

mutual

def stableStringify : RawJson → JsString
  | .null => units "null".toList
  | .bool b => units (booleanText b)
  | .number x => units x.toText
  | .string s => quoteString s
  | .array items => unit '[' :: (commaJoin (itemTexts items) ++ [unit ']'])
  | .object members =>
    unit '\x7b' :: (commaJoin ((sortedByKey (memberTexts members)).map memberText) ++ [unit '\x7d'])

def itemTexts : List RawJson → List JsString
  | [] => []
  | item :: items => stableStringify item :: itemTexts items

def memberTexts : List (JsString × RawJson) → List (JsString × JsString)
  | [] => []
  | (k, value) :: members => (k, stableStringify value) :: memberTexts members

end

theorem itemTexts_eq (items : List RawJson) : itemTexts items = items.map stableStringify := by
  induction items with
  | nil => rfl
  | cons item items ih => rw [itemTexts, ih, List.map_cons]

def withText (member : JsString × RawJson) : JsString × JsString :=
  (member.1, stableStringify member.2)

theorem memberTexts_eq (members : List (JsString × RawJson)) :
    memberTexts members = members.map withText := by
  induction members with
  | nil => rfl
  | cons member members ih =>
    obtain ⟨k, value⟩ := member
    rw [memberTexts, ih, List.map_cons]
    rfl

/-- Sorting looks at the keys only. -/
theorem sortedByKey_memberTexts (members : List (JsString × RawJson)) :
    sortedByKey (memberTexts members) = (sortedByKey members).map withText := by
  rw [memberTexts_eq]
  exact (List.map_insertionSort _ _ withText members fun _ _ _ _ => Iff.rfl).symm

theorem commaJoin_cons (text : JsString) (texts : List JsString) :
    commaJoin (text :: texts) = text ++ texts.flatMap fun other => unit ',' :: other := by
  induction texts generalizing text with
  | nil => simp [commaJoin]
  | cons other texts ih =>
    rw [commaJoin, List.intercalate_cons_cons, ← commaJoin, ih, List.flatMap_cons]
    simp

-- ---
-- Where a text ends
-- ---

def isDelimiter (u : CodeUnit) : Bool := [unit ',', unit ']', unit '\x7d'].contains u

/-- A text that follows a value is empty or begins with a delimiter. -/
def Delimited (rest : JsString) : Prop := ∀ u, rest.head? = some u → isDelimiter u = true

theorem delimited_cons (h : isDelimiter u = true) (rest : JsString) : Delimited (u :: rest) := by
  rintro _ ⟨⟩
  exact h

/-- Texts of plain characters that are followed by delimiters. -/
theorem plain_append_inj {t t' : List Char} {r r' : JsString} (ht : ∀ c ∈ t, c.toNat < 128)
    (ht' : ∀ c ∈ t', c.toNat < 128) (hplain : ∀ c ∈ t, isDelimiter (unit c) = false)
    (hplain' : ∀ c ∈ t', isDelimiter (unit c) = false) (hr : Delimited r) (hr' : Delimited r')
    (h : units t ++ r = units t' ++ r') : t = t' ∧ r = r' := by
  have hspan {t : List Char} {r : JsString} (hplain : ∀ c ∈ t, isDelimiter (unit c) = false)
      (hr : Delimited r) :
      (units t ++ r).takeWhile (fun u => !isDelimiter u) = units t ∧
        (units t ++ r).dropWhile (fun u => !isDelimiter u) = r := by
    refine span_stop (fun u hu => ?_) fun u hu => by rw [hr u hu]; rfl
    obtain ⟨c, hc, rfl⟩ := List.mem_map.mp hu
    rw [hplain c hc]
    rfl
  obtain ⟨htake, hdrop⟩ := hspan hplain hr
  obtain ⟨htake', hdrop'⟩ := hspan hplain' hr'
  rw [h] at htake hdrop
  refine ⟨?_, hdrop.symm.trans hdrop'⟩
  rw [← chars_units ht, ← chars_units ht', ← htake, htake']

section

variable {α : Type} {f : α → JsString} {R : α → α → Prop} {close : CodeUnit} {xs ys : List α}
  {r r' : JsString}

theorem tails_append_inj (hclose : isDelimiter close = true) (hcomma : close ≠ unit ',')
    (hinj : ∀ x ∈ xs, ∀ y s s', Delimited s → Delimited s' → f x ++ s = f y ++ s' → R x y ∧ s = s')
    (h : (xs.flatMap fun x => unit ',' :: f x) ++ close :: r =
      (ys.flatMap fun y => unit ',' :: f y) ++ close :: r') :
    List.Forall₂ R xs ys ∧ r = r' := by
  have hdelimited (zs : List α) (s : JsString) :
      Delimited ((zs.flatMap fun z => unit ',' :: f z) ++ close :: s) := by
    cases zs with
    | nil => exact delimited_cons hclose s
    | cons z zs => exact delimited_cons (by decide) _
  induction xs generalizing ys with
  | nil =>
    cases ys with
    | nil => exact ⟨.nil, (List.cons.inj h).2⟩
    | cons y ys => exact absurd (List.cons.inj h).1 hcomma
  | cons x xs ih =>
    cases ys with
    | nil => exact absurd (List.cons.inj h).1.symm hcomma
    | cons y ys =>
      simp only [List.flatMap_cons, List.cons_append, List.append_assoc, List.cons.injEq,
        true_and] at h
      obtain ⟨hxy, hrest⟩ := hinj x (.head xs) y _ _ (hdelimited xs r) (hdelimited ys r') h
      obtain ⟨hall, hr⟩ := ih (fun z hz => hinj z (.tail x hz)) hrest
      exact ⟨.cons hxy hall, hr⟩

/-- Texts of items between commas, up to the end of the list. -/
theorem commaJoin_append_inj (hclose : isDelimiter close = true) (hcomma : close ≠ unit ',')
    (hinj : ∀ x ∈ xs, ∀ y s s', Delimited s → Delimited s' → f x ++ s = f y ++ s' → R x y ∧ s = s')
    (hstart : ∀ x, ∃ u, (f x).head? = some u ∧ u ≠ close)
    (h : commaJoin (xs.map f) ++ close :: r = commaJoin (ys.map f) ++ close :: r') :
    List.Forall₂ R xs ys ∧ r = r' := by
  have hnonempty (z : α) (s s' : JsString) : close :: s ≠ f z ++ s' := by
    intro heq
    obtain ⟨u, hu, hne⟩ := hstart z
    obtain ⟨rest, hrest⟩ := List.head?_eq_some_iff.mp hu
    rw [hrest, List.cons_append] at heq
    exact hne (List.cons.inj heq).1.symm
  cases xs with
  | nil =>
    cases ys with
    | nil => exact ⟨.nil, (List.cons.inj h).2⟩
    | cons y ys =>
      rw [List.map_cons, commaJoin_cons, List.append_assoc] at h
      exact absurd h (hnonempty y _ _)
  | cons x xs =>
    cases ys with
    | nil =>
      rw [List.map_cons, commaJoin_cons, List.append_assoc] at h
      exact absurd h.symm (hnonempty x _ _)
    | cons y ys =>
      -- The first item is like one behind a comma.
      refine tails_append_inj hclose hcomma hinj ?_
      simp only [List.map_cons, commaJoin_cons, List.flatMap_map] at h
      simp only [List.flatMap_cons, List.cons_append, h]

end

-- ---
-- How a text begins
-- ---

inductive JsonKind
  | null
  | bool
  | number
  | string
  | array
  | object
  deriving DecidableEq, Repr

def kindOf : RawJson → JsonKind
  | .null => .null
  | .bool _ => .bool
  | .number _ => .number
  | .string _ => .string
  | .array _ => .array
  | .object _ => .object

def kindAt (u : CodeUnit) : JsonKind :=
  if u = unit 'n' then .null
  else if u = unit 't' ∨ u = unit 'f' then .bool
  else if u = unit '"' then .string
  else if u = unit '[' then .array
  else if u = unit '\x7b' then .object
  else .number

theorem number_head (x : JsNumber) : ∃ c, x.toText.head? = some c ∧
    kindAt (unit c) = .number ∧ isDelimiter (unit c) = false := by
  have hdigits : ∀ d, kindAt (unit (digitOf d)) = .number ∧
      isDelimiter (unit (digitOf d)) = false := by decide
  unfold JsNumber.toText
  split
  · exact ⟨'-', rfl, by decide⟩
  · obtain ⟨c, hc, hdigit⟩ := x.magnitude_head
    obtain ⟨d, rfl⟩ := exists_digitOf hdigit
    exact ⟨_, hc, hdigits d⟩

/-- The first unit tells the kind of a value, and is no delimiter. -/
theorem stableStringify_head (v : RawJson) : ∃ u, (stableStringify v).head? = some u ∧
    kindAt u = kindOf v ∧ isDelimiter u = false := by
  cases v with
  | null => exact ⟨unit 'n', rfl, by decide⟩
  | bool b => cases b with
    | true => exact ⟨unit 't', rfl, by decide⟩
    | false => exact ⟨unit 'f', rfl, by decide⟩
  | number x =>
    obtain ⟨c, hc, hkind⟩ := number_head x
    refine ⟨unit c, ?_, hkind⟩
    rw [stableStringify, units, List.head?_map, hc]
    rfl
  | string s => exact ⟨unit '"', rfl, rfl, rfl⟩
  | array items => exact ⟨unit '[', rfl, rfl, rfl⟩
  | object members => exact ⟨unit '\x7b', rfl, rfl, rfl⟩

theorem kindOf_eq {v w : RawJson} {r r' : JsString}
    (h : stableStringify v ++ r = stableStringify w ++ r') : kindOf v = kindOf w := by
  obtain ⟨u, hu, hkind, -⟩ := stableStringify_head v
  obtain ⟨u', hu', hkind', -⟩ := stableStringify_head w
  have hhead : ((stableStringify v ++ r).head?) = (stableStringify w ++ r').head? := by rw [h]
  rw [List.head?_append, List.head?_append, hu, hu'] at hhead
  obtain rfl : u = u' := Option.some.inj hhead
  exact hkind.symm.trans hkind'

-- ---
-- Texts tell values apart
-- ---

theorem booleanText_plain (b : Bool) : ∀ c ∈ booleanText b, c.toNat < 128 ∧
    isDelimiter (unit c) = false := by
  have hall : (booleanText b).all (fun c =>
      decide (c.toNat < 128 ∧ isDelimiter (unit c) = false)) = true := by
    cases b <;> decide
  exact fun c hc => of_decide_eq_true (List.all_eq_true.mp hall c hc)

theorem number_plain (x : JsNumber) : ∀ c ∈ x.toText, c.toNat < 128 ∧
    isDelimiter (unit c) = false := by
  have hdigits : ∀ d, (digitOf d).toNat < 128 ∧ isDelimiter (unit (digitOf d)) = false := by decide
  have hothers : ['-', '+', '.', 'e'].all (fun c =>
      decide (c.toNat < 128 ∧ isDelimiter (unit c) = false)) = true := by
    decide
  intro c hc
  have hchar := x.toText_isNumberChar c hc
  simp only [JsNumber.isNumberChar, Bool.or_eq_true, List.contains_iff_mem] at hchar
  rcases hchar with hdigit | hother
  · obtain ⟨d, rfl⟩ := exists_digitOf hdigit
    exact hdigits d
  · exact of_decide_eq_true (List.all_eq_true.mp hothers c hother)

theorem exists_partner {α : Type} {R : α → α → Prop} {xs ys : List α} (h : List.Forall₂ R xs ys)
    {x : α} (hx : x ∈ xs) : ∃ y, y ∈ ys ∧ R x y := by
  induction h with
  | nil => cases hx
  | cons hxy _ ih =>
    cases hx with
    | head => exact ⟨_, .head _, hxy⟩
    | tail _ hx =>
      obtain ⟨y, hy, hR⟩ := ih hx
      exact ⟨y, .tail _ hy, hR⟩

/-- Objects have the same members when their sorted members are, one by one, the same. -/
theorem same_of_sorted {members others : List (JsString × RawJson)}
    (h : List.Forall₂ (fun m n => m.1 = n.1 ∧ m.2.Same n.2) (sortedByKey members)
      (sortedByKey others)) :
    (RawJson.object members).Same (.object others) := by
  refine ⟨fun k hk => ?_, RawJson.sameMembers_iff.mpr fun member hmember => ?_⟩
  · obtain ⟨other, hother, rfl⟩ := List.mem_map.mp hk
    obtain ⟨member, hmember, hkey, -⟩ :=
      exists_partner h.flip ((List.mem_insertionSort _).mpr hother)
    exact List.mem_map.mpr ⟨member, (List.mem_insertionSort _).mp hmember, hkey⟩
  · obtain ⟨other, hother, hkey, hvalue⟩ :=
      exists_partner h ((List.mem_insertionSort _).mpr hmember)
    exact ⟨other.2, hkey ▸ (List.mem_insertionSort _).mp hother, hvalue⟩

/-- A text is read in one way, whatever follows it. -/
theorem stableStringify_append_inj {v w : RawJson} {r r' : JsString} (hr : Delimited r)
    (hr' : Delimited r') (h : stableStringify v ++ r = stableStringify w ++ r') :
    v.Same w ∧ r = r' := by
  have hkind := kindOf_eq h
  induction v using RawJson.induct generalizing w r r' with
  | null =>
    cases w with
    | null => exact ⟨trivial, List.append_cancel_left h⟩
    | _ => cases hkind
  | bool b =>
    cases w with
    | bool c =>
      obtain ⟨htext, hrest⟩ := plain_append_inj (fun c hc => (booleanText_plain b c hc).1)
        (fun d hd => (booleanText_plain c d hd).1) (fun c hc => (booleanText_plain b c hc).2)
        (fun d hd => (booleanText_plain c d hd).2) hr hr' h
      refine ⟨?_, hrest⟩
      cases b <;> cases c <;> first | rfl | cases htext
    | _ => cases hkind
  | number x =>
    cases w with
    | number y =>
      obtain ⟨htext, hrest⟩ := plain_append_inj (fun c hc => (number_plain x c hc).1)
        (fun c hc => (number_plain y c hc).1) (fun c hc => (number_plain x c hc).2)
        (fun c hc => (number_plain y c hc).2) hr hr' h
      exact ⟨JsNumber.toText_injective htext, hrest⟩
    | _ => cases hkind
  | string s =>
    cases w with
    | string t => exact quoteString_append_inj h
    | _ => cases hkind
  | array items ih =>
    cases w with
    | array others =>
      simp only [stableStringify, itemTexts_eq, List.cons_append, List.append_assoc,
        List.nil_append, List.cons.injEq, true_and] at h
      have hall := commaJoin_append_inj (R := RawJson.Same) (by decide) (by decide) ?_ ?_ h
      · exact ⟨RawJson.sameItems_iff.mpr hall.1, hall.2⟩
      · intro item hitem other s s' hs hs' heq
        exact ih item hitem hs hs' heq (kindOf_eq heq)
      · intro item
        obtain ⟨u, hu, -, hnot⟩ := stableStringify_head item
        refine ⟨u, hu, ?_⟩
        rintro rfl
        cases hnot
    | _ => cases hkind
  | object members ih =>
    cases w with
    | object others =>
      simp only [stableStringify, sortedByKey_memberTexts, List.map_map, List.cons_append,
        List.append_assoc, List.nil_append, List.cons.injEq, true_and] at h
      have hall := commaJoin_append_inj (R := fun m n => m.1 = n.1 ∧ m.2.Same n.2) (by decide)
        (by decide) ?_ ?_ h
      · exact ⟨same_of_sorted hall.1, hall.2⟩
      · intro member hmember other s s' hs hs' heq
        simp only [Function.comp_apply, memberText, withText, List.append_assoc,
          List.cons_append] at heq
        obtain ⟨hkey, hvalues⟩ := quoteString_append_inj heq
        have heq : stableStringify member.2 ++ s = stableStringify other.2 ++ s' :=
          (List.cons.inj hvalues).2
        obtain ⟨hvalue, hrest⟩ := ih member ((List.mem_insertionSort _).mp hmember) hs hs' heq
          (kindOf_eq heq)
        exact ⟨⟨hkey, hvalue⟩, hrest⟩
      · exact fun member => ⟨unit '"', rfl, by decide⟩
    | _ => cases hkind

-- ---
-- Equal values have one text
-- ---

/-- Sorting by keys that differ leaves one order. -/
theorem sortedByKey_eq {α : Type} {xs ys : List (JsString × α)} (hkeys : (xs.map Prod.fst).Nodup)
    (hperm : xs.Perm ys) : sortedByKey xs = sortedByKey ys := by
  have hsorted : (sortedByKey xs).Perm (sortedByKey ys) :=
    (List.perm_insertionSort _ xs).trans (hperm.trans (List.perm_insertionSort _ ys).symm)
  have htotal : Std.Total fun a b : JsString × α => a.1 ≤ b.1 := ⟨fun a b => le_total a.1 b.1⟩
  have htrans : IsTrans (JsString × α) fun a b => a.1 ≤ b.1 :=
    ⟨fun a b c hab hbc => le_trans hab hbc⟩
  refine hsorted.eq_of_pairwise (fun a b ha hb hab hba => ?_) (List.pairwise_insertionSort _ xs)
    (List.pairwise_insertionSort _ ys)
  have hb : b ∈ xs := hperm.mem_iff.mpr ((List.mem_insertionSort _).mp hb)
  exact List.inj_on_of_nodup_map hkeys ((List.mem_insertionSort _).mp ha) hb (le_antisymm hab hba)

/-- Members that are the same, in whatever order, are the same with their texts. -/
theorem withText_perm {members others : List (JsString × RawJson)}
    (hkeys : (members.map Prod.fst).Nodup) (hkeys' : (others.map Prod.fst).Nodup)
    (hback : ∀ k ∈ others.map Prod.fst, k ∈ members.map Prod.fst)
    (htext : ∀ member ∈ members, ∃ other, (member.1, other) ∈ others ∧
      stableStringify member.2 = stableStringify other) :
    (members.map withText).Perm (others.map withText) := by
  have hnodup : ((members.map withText).map Prod.fst).Nodup := by
    rw [List.map_map]
    exact hkeys
  have hnodup' : ((others.map withText).map Prod.fst).Nodup := by
    rw [List.map_map]
    exact hkeys'
  rw [List.perm_ext_iff_of_nodup hnodup.of_map hnodup'.of_map]
  intro pair
  constructor
  · intro hpair
    obtain ⟨member, hmember, rfl⟩ := List.mem_map.mp hpair
    obtain ⟨other, hother, heq⟩ := htext member hmember
    exact List.mem_map.mpr ⟨_, hother, by rw [withText, withText, heq]⟩
  · intro hpair
    obtain ⟨other, hother, rfl⟩ := List.mem_map.mp hpair
    obtain ⟨member, hmember, hkey⟩ :=
      List.mem_map.mp (hback other.1 (List.mem_map_of_mem hother))
    obtain ⟨value, hvalue, heq⟩ := htext member hmember
    obtain rfl : (member.1, value) = other :=
      List.inj_on_of_nodup_map hkeys' hvalue hother hkey
    exact List.mem_map.mpr ⟨member, hmember, by rw [withText, withText, heq]⟩

theorem stableStringify_eq {v w : RawJson} (hv : v.WellFormed) (hw : w.WellFormed)
    (h : v.Same w) : stableStringify v = stableStringify w := by
  induction v using RawJson.induct generalizing w with
  | null =>
    cases w with
    | null => rfl
    | _ => cases h
  | bool b =>
    cases w with
    | bool c => exact congrArg (fun b => stableStringify (.bool b)) h
    | _ => cases h
  | number x =>
    cases w with
    | number y => exact congrArg (fun x => stableStringify (.number x)) h
    | _ => cases h
  | string s =>
    cases w with
    | string t => exact congrArg (fun s => stableStringify (.string s)) h
    | _ => cases h
  | array items ih =>
    cases w with
    | array others =>
      have hitems := RawJson.itemsWellFormed_iff.mp hv
      have hothers := RawJson.itemsWellFormed_iff.mp hw
      have hsame := RawJson.sameItems_iff.mp h
      have htexts : items.map stableStringify = others.map stableStringify := by
        clear hv hw h
        induction hsame with
        | nil => rfl
        | cons hitem _ ihs =>
          rw [List.forall_mem_cons] at ih hitems hothers
          rw [List.map_cons, List.map_cons, ih.1 hitems.1 hothers.1 hitem,
            ihs ih.2 hitems.2 hothers.2]
      simp only [stableStringify, itemTexts_eq, htexts]
    | _ => cases h
  | object members ih =>
    cases w with
    | object others =>
      obtain ⟨hkeys, hmembers⟩ := hv
      obtain ⟨hkeys', hothers⟩ := hw
      obtain ⟨hback, hforth⟩ := h
      rw [RawJson.membersWellFormed_iff] at hmembers hothers
      rw [RawJson.sameMembers_iff] at hforth
      have htext (member : JsString × RawJson) (hmember : member ∈ members) :
          ∃ other, (member.1, other) ∈ others ∧
            stableStringify member.2 = stableStringify other := by
        obtain ⟨other, hother, hsame⟩ := hforth member hmember
        exact ⟨other, hother, ih member hmember (hmembers member hmember) (hothers _ hother) hsame⟩
      have hnodup : ((members.map withText).map Prod.fst).Nodup := by
        rw [List.map_map]
        exact hkeys
      have hperm := withText_perm hkeys hkeys' hback htext
      simp only [stableStringify, memberTexts_eq, sortedByKey_eq hnodup hperm]
    | _ => cases h

/-- The text that is hashed tells values apart up to the order of their keys, and no further. -/
theorem stableStringify_eq_iff (v w : JsonValue) :
    stableStringify v.raw = stableStringify w.raw ↔ v.raw.Same w.raw := by
  refine ⟨fun h => ?_, stableStringify_eq v.wellFormed w.wellFormed⟩
  have hnil : Delimited [] := fun u hu => by cases hu
  exact (stableStringify_append_inj hnil hnil (congrArg (· ++ []) h)).1

/-- The number 1.5. -/
def oneAndAHalf : JsNumber where
  digits := [1, 5]
  point := 1
  leads := by decide
  ends := by decide
  zero := fun h => by cases h

example : stableStringify (.object [(units ['b'], .number oneAndAHalf),
      (units ['a'], .array [.bool true, .string (units ['"'])])]) =
    units "\x7b\"a\":[true,\"\\\"\"],\"b\":1.5\x7d".toList := by
  decide +kernel

end NimbusPos.IdempotencyService
