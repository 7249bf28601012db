import Mathlib.Data.List.TakeWhile
import NimbusPos.Lib.Table

/-!
# Sequence numbers in strings

Orders, reservations and shifts are numbered by reading the sequence out of the newest
row's number with `/ORD-(\d+)/`, adding one and padding to six digits. A split
order's number appends `-S1`, `-S2`, … to its parent's. The accounting documents
read the sequence from behind the last dash instead.
-/

namespace NimbusPos

/-- `parseInt(_, 10)` of a string of digits. -/
def parseDigits (digits : List Char) : Nat :=
  digits.foldl (fun n c => 10 * n + (c.toNat - '0'.toNat)) 0

/-- First match of `/label(\d+)/`, its group parsed. -/
def matchSequence (label : List Char) : List Char → Option Nat
  | [] => none
  | c :: cs =>
    let digits := ((c :: cs).drop label.length).takeWhile Char.isDigit
    if label.isPrefixOf (c :: cs) && !digits.isEmpty then some (parseDigits digits)
    else matchSequence label cs

/-- `String(n).padStart(width, '0')`. -/
def padDigits (width n : Nat) : List Char :=
  let digits := Nat.toDigits 10 n
  List.replicate (width - digits.length) '0' ++ digits

/-- `String(n).padStart(6, '0')`. -/
def padStart6 (n : Nat) : List Char :=
  let digits := Nat.toDigits 10 n
  List.replicate (6 - digits.length) '0' ++ digits

def formatNumber (label : List Char) (sequence : Nat) : List Char := label ++ padStart6 sequence

/-- The number after the newest row's. -/
def nextNumber (label : List Char) (last : Option String) : String :=
  let nextSeq := match last.bind fun number => matchSequence label number.toList with
    | some n => n + 1
    | none => 1
  String.ofList (formatNumber label nextSeq)

def orderLabel : List Char := "ORD-".toList

def reservationLabel : List Char := "RES-".toList

def shiftLabel : List Char := "SHF-".toList

/-- The text behind the last dash. -/
def lastPart (number : List Char) : List Char := (number.reverse.takeWhile (· != '-')).reverse

/-- `parseInt(_, 10)` of a text without a dash. -/
def parseLeadingInt (text : List Char) : Option Nat :=
  let unsigned := match text.dropWhile Char.isWhitespace with
    | '+' :: rest => rest
    | rest => rest
  let digits := unsigned.takeWhile Char.isDigit
  if digits.isEmpty then none else some (parseDigits digits)

/-- The number after the newest row's, read from behind its last dash. -/
def nextDashNumber (label : List Char) (last : Option String) : String :=
  let seq := match last.bind fun number => parseLeadingInt (lastPart number.toList) with
    | some parsed => parsed + 1
    | none => 1
  String.ofList (formatNumber label seq)

/-- The number of a split order whose parent already has `existingChildCount`
children. -/
def childOrderNumber (parentOrderNumber : String) (existingChildCount : Nat) : String :=
  parentOrderNumber ++ "-S" ++ toString (existingChildCount + 1)

-- ---
-- Reading a number back
-- ---

theorem parseDigits_eq (digits : List Char) : parseDigits digits = Nat.ofDigitChars 10 digits 0 :=
  rfl

theorem parseDigits_padDigits (width n : Nat) : parseDigits (padDigits width n) = n := by
  simp only [parseDigits_eq, padDigits, Nat.ofDigitChars_append, Nat.ofDigitChars_replicate_zero,
    Nat.mul_zero, Nat.ofDigitChars_ten_toDigits]

/-- Different numbers are written differently after a label. -/
theorem padDigits_injective {label : List Char} {width : Nat} (m n : Nat)
    (h : String.ofList (label ++ padDigits width m) = String.ofList (label ++ padDigits width n)) :
    m = n := by
  have hdigits := List.append_cancel_left (String.ofList_injective h)
  rw [← parseDigits_padDigits width m, hdigits, parseDigits_padDigits]

theorem parseDigits_padStart6 (n : Nat) : parseDigits (padStart6 n) = n :=
  parseDigits_padDigits 6 n

theorem padStart6_isDigit (h : c ∈ padStart6 n) : c.isDigit = true := by
  rcases List.mem_append.mp h with h | h
  · rw [List.eq_of_mem_replicate h]
    rfl
  · exact Nat.isDigit_of_mem_toDigits (by decide) (by decide) h

theorem padStart6_ne_nil (n : Nat) : padStart6 n ≠ [] := by
  simp [padStart6, Nat.toDigits_ne_nil]

/-- The digits that the pattern would take at the head of a text. -/
def groupAt (label cs : List Char) : List Char := (cs.drop label.length).takeWhile Char.isDigit

theorem matchSequence_cons : matchSequence label (c :: cs) =
    if label.isPrefixOf (c :: cs) && !(groupAt label (c :: cs)).isEmpty then
      some (parseDigits (groupAt label (c :: cs)))
    else matchSequence label cs := rfl

theorem matchSequence_head (hlabel : label.isPrefixOf cs = true) (hgroup : groupAt label cs ≠ []) :
    matchSequence label cs = some (parseDigits (groupAt label cs)) := by
  cases cs with
  | nil => simp [groupAt] at hgroup
  | cons c cs => simp [matchSequence_cons, hlabel, hgroup]

theorem matchSequence_formatNumber (label : List Char) (n : Nat) :
    matchSequence label (formatNumber label n) = some n := by
  have hgroup : groupAt label (formatNumber label n) = padStart6 n := by
    rw [groupAt, formatNumber, List.drop_left]
    exact List.takeWhile_eq_self_iff.mpr fun c hc => padStart6_isDigit hc
  rw [matchSequence_head, hgroup, parseDigits_padStart6]
  · simp [formatNumber]
  · rw [hgroup]
    exact padStart6_ne_nil n

/-- A match lies inside the text. -/
theorem matchSequence_length (h : matchSequence label cs = some n) : label.length < cs.length := by
  induction cs with
  | nil => cases h
  | cons c cs ih =>
    rw [matchSequence_cons] at h
    split at h
    · rename_i hmatch
      simp only [Bool.and_eq_true, Bool.not_eq_true', List.isEmpty_eq_false_iff, groupAt] at hmatch
      by_contra hlen
      rw [List.drop_eq_nil_of_le (Nat.not_lt.mp hlen)] at hmatch
      exact hmatch.2 rfl
    · exact Nat.lt_succ_of_lt (ih h)

theorem takeWhile_append_stop {p : α → Bool} (hrest : ∀ a, rest.head? = some a → p a = false)
    (as : List α) :
    (as ++ rest).takeWhile p = as.takeWhile p := by
  have hstop : rest.takeWhile p = [] := by
    cases rest with
    | nil => rfl
    | cons a rest => simp [hrest a rfl]
  induction as with
  | nil => simpa using hstop
  | cons a as ih => cases ha : p a <;> simp [ha, ih]

/-- Text that does not start with a digit, appended, changes no match. -/
theorem matchSequence_append (hrest : ∀ c, rest.head? = some c → c.isDigit = false)
    (h : matchSequence label cs = some n) : matchSequence label (cs ++ rest) = some n := by
  induction cs with
  | nil => cases h
  | cons c cs ih =>
    have hlen : label.length ≤ (c :: cs).length := Nat.le_of_lt (matchSequence_length h)
    have hgroup : groupAt label (c :: cs ++ rest) = groupAt label (c :: cs) := by
      rw [groupAt, groupAt, List.drop_append_of_le_length hlen]
      exact takeWhile_append_stop hrest _
    have hlabel : label.isPrefixOf (c :: cs ++ rest) = label.isPrefixOf (c :: cs) := by
      rw [Bool.eq_iff_iff, List.isPrefixOf_iff_prefix, List.isPrefixOf_iff_prefix]
      exact ⟨fun hp => List.prefix_of_prefix_length_le hp (List.prefix_append _ _) hlen,
        fun hp => hp.trans (List.prefix_append _ _)⟩
    rw [matchSequence_cons] at h
    rw [List.cons_append, matchSequence_cons, ← List.cons_append, hgroup, hlabel]
    split at h
    · rename_i hmatch
      rw [if_pos hmatch]
      exact h
    · rename_i hmatch
      rw [if_neg hmatch]
      exact ih h

-- ---
-- Sequences of order numbers
-- ---

/-- The sequence that `generateOrderNumber` reads out of a number. -/
def orderSequence (orderNumber : String) : Option Nat := matchSequence orderLabel orderNumber.toList

/-- The sequence it goes on with. -/
def nextSequence (last : Option String) : Nat :=
  match last.bind orderSequence with
  | some n => n + 1
  | none => 1

theorem nextNumber_sequence (last : Option String) :
    orderSequence (nextNumber orderLabel last) = some (nextSequence last) := by
  rw [orderSequence, nextNumber, String.toList_ofList, matchSequence_formatNumber]
  rfl

theorem childOrderNumber_sequence (h : orderSequence parent = some n) (count : Nat) :
    orderSequence (childOrderNumber parent count) = some n := by
  rw [orderSequence, childOrderNumber, String.toList_append, String.toList_append,
    List.append_assoc]
  refine matchSequence_append ?_ h
  intro c hc
  cases hc
  rfl

example : nextNumber orderLabel (some "ORD-000009-S1") = "ORD-000010" := by decide

end NimbusPos
