import Mathlib.Data.List.DropRight
import Mathlib.Data.List.Lex
import Mathlib.Data.List.Sort
import Mathlib.Order.Fin.Basic

/-!
# JSON values

A string is a list of UTF-16 code units, of which a surrogate may stand alone. A number is the
shortest decimal that stands for it. The texts that the language writes for both can be read back.
-/

namespace NimbusPos.Lib

abbrev CodeUnit := Fin 0x10000

abbrev JsString := List CodeUnit

/-- The code unit of a character of the basic plane. -/
def unit (c : Char) : CodeUnit := Fin.ofNat 0x10000 c.toNat

def units (text : List Char) : JsString := text.map unit

/-- Characters that are no surrogates are read back. -/
theorem chars_units {text : List Char} (h : ∀ c ∈ text, c.toNat < 128) :
    (units text).map (fun u => Char.ofNat u.val) = text := by
  rw [units, List.map_map, List.map_congr_left (g := id), List.map_id]
  intro c hc
  have hc : c.toNat % 0x10000 = c.toNat := Nat.mod_eq_of_lt (by have := h c hc; omega)
  simp only [Function.comp_apply, unit, Fin.val_ofNat, hc, Char.ofNat_toNat, id_eq]

-- ---
-- Numbers
-- ---

/-- A finite number, its digits after the decimal point and the place of the point among them:
`0.d₁d₂… * 10 ^ point`. There is one zero, which has no digits. -/
structure JsNumber where
  negative : Bool := false
  digits : List (Fin 10)
  point : Int
  leads : digits.head? ≠ some 0
  ends : digits.getLast? ≠ some 0
  zero : digits = [] → negative = false ∧ point = 0

def digitOf (d : Fin 10) : Char := Nat.digitChar d.val

namespace JsNumber

variable (x : JsNumber)

def digitChars : List Char := x.digits.map digitOf

/-- `e` and the sign and the digits of the exponent. -/
def exponent : List Char :=
  'e' :: (if x.point - 1 < 0 then '-' else '+') :: Nat.toDigits 10 (x.point - 1).natAbs

/-- The text of the magnitude, with an exponent where the point is far from the digits. -/
def magnitude : List Char :=
  let ds := x.digitChars
  if ds = [] then ['0']
  else if -5 ≤ x.point ∧ x.point ≤ 21 then
    if ds.length ≤ x.point then ds ++ List.replicate (x.point - ds.length).toNat '0'
    else if 0 < x.point then ds.take x.point.toNat ++ '.' :: ds.drop x.point.toNat
    else '0' :: '.' :: (List.replicate (-x.point).toNat '0' ++ ds)
  else if ds.length = 1 then ds ++ x.exponent
  else ds.take 1 ++ '.' :: ds.drop 1 ++ x.exponent

def toText : List Char := if x.negative then '-' :: x.magnitude else x.magnitude

end JsNumber

/-- The value of an exponent. -/
def readExponent : List Char → Int
  | 'e' :: '-' :: digits => -(Nat.ofDigitChars 10 digits 0 : Int)
  | 'e' :: _ :: digits => Nat.ofDigitChars 10 digits 0
  | _ => 0

def isZero (c : Char) : Bool := c == '0'

/-- The digits and the place of the point. -/
def readMagnitude (text : List Char) : List Char × Int :=
  let mantissa := text.takeWhile (· != 'e')
  let whole := mantissa.takeWhile (· != '.')
  let all := whole ++ (mantissa.dropWhile (· != '.')).drop 1
  ((all.dropWhile isZero).rdropWhile isZero,
    whole.length + readExponent (text.dropWhile (· != 'e')) - (all.takeWhile isZero).length)

theorem span_stop {α : Type} {p : α → Bool} {front rest : List α}
    (hfront : ∀ c ∈ front, p c = true) (hrest : ∀ c, rest.head? = some c → p c = false) :
    (front ++ rest).takeWhile p = front ∧ (front ++ rest).dropWhile p = rest := by
  rw [List.takeWhile_append_of_pos hfront, List.dropWhile_append_of_pos hfront]
  cases rest with
  | nil => simp
  | cons c rest =>
    have hc : p c = false := hrest c rfl
    simp [hc]

theorem ne_of_isDigit {c d : Char} (hc : c.isDigit = true) (hd : d.isDigit = false) : c ≠ d := by
  rintro rfl
  exact Bool.false_ne_true (hd.symm.trans hc)

/-- What is read of a text that is put together from digits. -/
theorem readMagnitude_digits (dotted : Bool) {whole fraction exponent : List Char}
    (hwhole : ∀ c ∈ whole, c.isDigit = true) (hfraction : ∀ c ∈ fraction, c.isDigit = true)
    (hdotted : dotted = false → fraction = [])
    (hexponent : exponent.head? = none ∨ exponent.head? = some 'e') :
    readMagnitude (whole ++ (if dotted then '.' :: fraction else []) ++ exponent) =
      (((whole ++ fraction).dropWhile isZero).rdropWhile isZero,
        whole.length + readExponent exponent - ((whole ++ fraction).takeWhile isZero).length) := by
  let dot := if dotted then '.' :: fraction else []
  have hdot : dot.drop 1 = fraction ∧ (∀ c, dot.head? = some c → c = '.') ∧
      ∀ c ∈ dot, c = '.' ∨ c ∈ fraction := by
    cases dotted with
    | false => simp [dot, hdotted rfl]
    | true => simp [dot]
  obtain ⟨hdrop, hhead, hmem⟩ := hdot
  have hnoexponent : ∀ c ∈ whole ++ dot, (c != 'e') = true := by
    intro c hc
    rw [bne_iff_ne]
    rcases List.mem_append.mp hc with hc | hc
    · exact ne_of_isDigit (hwhole c hc) (by decide)
    · rcases hmem c hc with rfl | hc
      · decide
      · exact ne_of_isDigit (hfraction c hc) (by decide)
  have hstart : ∀ c, exponent.head? = some c → (c != 'e') = false := by
    intro c hc
    rcases hexponent with hnone | hsome
    · cases hnone.symm.trans hc
    · cases hsome.symm.trans hc
      rfl
  obtain ⟨hmantissa, hrest⟩ := span_stop hnoexponent hstart
  have hnodot : ∀ c ∈ whole, (c != '.') = true := fun c hc =>
    bne_iff_ne.mpr (ne_of_isDigit (hwhole c hc) (by decide))
  obtain ⟨htake, hafter⟩ := span_stop hnodot fun c hc => by rw [hhead c hc]; rfl
  simp only [readMagnitude]
  rw [hmantissa, hrest, htake, hafter, hdrop]

/-- Zeros around digits that neither begin nor end with one. -/
theorem stripped {ds : List Char} (hds : ds ≠ []) (hleads : ds.head? ≠ some '0')
    (hends : ds.getLast? ≠ some '0') (m n : Nat) :
    let all := List.replicate m '0' ++ (ds ++ List.replicate n '0')
    (all.dropWhile isZero).rdropWhile isZero = ds ∧ (all.takeWhile isZero).length = m := by
  have hzeros : ∀ k, ∀ c ∈ List.replicate k '0', isZero c = true := by
    intro k c hc
    rw [List.eq_of_mem_replicate hc]
    rfl
  have hfirst : ∀ c, (ds ++ List.replicate n '0').head? = some c → isZero c = false := by
    intro c hc
    rw [List.head?_append_of_ne_nil _ hds] at hc
    simp only [isZero, beq_eq_false_iff_ne, ne_eq]
    rintro rfl
    exact hleads hc
  obtain ⟨htake, hdrop⟩ := span_stop (hzeros m) hfirst
  intro all
  refine ⟨?_, by rw [htake, List.length_replicate]⟩
  rw [hdrop, List.rdropWhile, List.reverse_append, List.reverse_replicate]
  have hlast : ∀ c, ds.reverse.head? = some c → isZero c = false := by
    intro c hc
    rw [List.head?_reverse] at hc
    simp only [isZero, beq_eq_false_iff_ne, ne_eq]
    rintro rfl
    exact hends hc
  rw [(span_stop (hzeros n) hlast).2, List.reverse_reverse]

theorem digitOf_isDigit (d : Fin 10) : (digitOf d).isDigit = true := by decide +revert

theorem digitOf_injective : Function.Injective digitOf := by
  unfold Function.Injective
  decide

theorem exists_digitOf {c : Char} (h : c.isDigit = true) : ∃ d, c = digitOf d := by
  simp only [Char.isDigit, Bool.and_eq_true, decide_eq_true_eq] at h
  obtain ⟨hlow, hhigh⟩ := h
  have hlow : 48 ≤ c.toNat := hlow
  have hhigh : c.toNat ≤ 57 := hhigh
  refine ⟨⟨c.toNat - 48, by omega⟩, Char.toNat_inj.mp ?_⟩
  simp only [digitOf]
  rw [Nat.toNat_digitChar_of_lt_ten (by omega)]
  omega

theorem replicate_isDigit (n : Nat) : ∀ c ∈ List.replicate n '0', c.isDigit = true := by
  intro c hc
  rw [List.eq_of_mem_replicate hc]
  rfl

namespace JsNumber

theorem digitChars_isDigit (x : JsNumber) : ∀ c ∈ x.digitChars, c.isDigit = true := by
  intro c hc
  obtain ⟨d, -, rfl⟩ := List.mem_map.mp hc
  exact digitOf_isDigit d

theorem digitChars_leads (x : JsNumber) : x.digitChars.head? ≠ some '0' := by
  intro h
  rw [digitChars, List.head?_map, Option.map_eq_some_iff] at h
  obtain ⟨d, hd, hzero⟩ := h
  obtain rfl : d = 0 := digitOf_injective hzero
  exact x.leads hd

theorem digitChars_ends (x : JsNumber) : x.digitChars.getLast? ≠ some '0' := by
  intro h
  rw [digitChars, List.getLast?_map, Option.map_eq_some_iff] at h
  obtain ⟨d, hd, hzero⟩ := h
  obtain rfl : d = 0 := digitOf_injective hzero
  exact x.ends hd

theorem readExponent_exponent (x : JsNumber) : readExponent x.exponent = x.point - 1 := by
  unfold exponent
  split
  · rw [readExponent, Nat.ofDigitChars_ten_toDigits]
    omega
  · have hread (digits : List Char) :
        readExponent ('e' :: '+' :: digits) = Nat.ofDigitChars 10 digits 0 := rfl
    rw [hread, Nat.ofDigitChars_ten_toDigits]
    omega

/-- Digits with zeros around them, and a point among them or none, are read as the digits. -/
theorem readMagnitude_padded (x : JsNumber) (hds : x.digitChars ≠ []) (dotted : Bool)
    (zeros trailing : Nat) (whole fraction : List Char) {exponent : List Char}
    (htext : whole ++ fraction =
      List.replicate zeros '0' ++ (x.digitChars ++ List.replicate trailing '0'))
    (hdotted : dotted = false → fraction = [])
    (hexponent : exponent.head? = none ∨ exponent.head? = some 'e') :
    readMagnitude (whole ++ (if dotted then '.' :: fraction else []) ++ exponent) =
      (x.digitChars, whole.length + readExponent exponent - zeros) := by
  have hall : ∀ c ∈ whole ++ fraction, c.isDigit = true := by
    intro c hc
    rw [htext, List.mem_append, List.mem_append] at hc
    rcases hc with hzero | hdigit | hzero
    · exact replicate_isDigit zeros c hzero
    · exact x.digitChars_isDigit c hdigit
    · exact replicate_isDigit trailing c hzero
  obtain ⟨hstripped, hcount⟩ :=
    stripped hds x.digitChars_leads x.digitChars_ends zeros trailing
  rw [readMagnitude_digits dotted (fun c hc => hall c (List.mem_append_left _ hc))
    (fun c hc => hall c (List.mem_append_right _ hc)) hdotted hexponent, htext, hstripped, hcount]

/-- The digits and the place of the point are read back. -/
theorem readMagnitude_magnitude (x : JsNumber) :
    readMagnitude x.magnitude = (x.digitChars, x.point) := by
  have hexponent := x.readExponent_exponent
  have hnone : ([] : List Char).head? = none ∨ ([] : List Char).head? = some 'e' := .inl rfl
  have hstart : x.exponent.head? = none ∨ x.exponent.head? = some 'e' := .inr rfl
  unfold magnitude
  by_cases hds : x.digitChars = []
  · obtain ⟨-, hpoint⟩ := x.zero (List.map_eq_nil_iff.mp hds)
    simp only [hds, hpoint, if_true]
    decide
  have hlength : 0 < x.digitChars.length := List.length_pos_iff.mpr hds
  have hread := x.readMagnitude_padded hds
  generalize x.digitChars = ds at hds hlength hread
  simp only [if_neg hds]
  split
  · split
    · -- All digits before the point.
      have hwhole := hread false 0 (x.point - ds.length).toNat
        (ds ++ List.replicate (x.point - ds.length).toNat '0') [] (by simp) (fun _ => rfl) hnone
      simp only [Bool.false_eq_true, if_false, List.append_nil] at hwhole
      rw [hwhole]
      simp only [readExponent, List.length_append, List.length_replicate, Prod.mk.injEq, true_and]
      omega
    · split
      · -- The point among the digits.
        have hamong := hread true 0 0 (ds.take x.point.toNat) (ds.drop x.point.toNat) (by simp)
          (by simp) hnone
        simp only [if_true, List.append_nil] at hamong
        rw [hamong]
        simp only [readExponent, List.length_take, Prod.mk.injEq, true_and]
        omega
      · -- Zeros between the point and the digits.
        have hbehind := hread true (1 + (-x.point).toNat) 0 (List.replicate 1 '0')
          (List.replicate (-x.point).toNat '0' ++ ds) (by simp [List.replicate_add]) (by simp) hnone
        simp only [if_true, List.append_nil] at hbehind
        refine hbehind.trans ?_
        simp only [readExponent, List.length_replicate, Prod.mk.injEq, true_and]
        omega
  · split
    · have hone := hread false 0 0 ds [] (by simp) (fun _ => rfl) hstart
      simp only [Bool.false_eq_true, if_false, List.append_nil] at hone
      rw [hone, hexponent]
      simp only [Prod.mk.injEq, true_and]
      omega
    · have hmore := hread true 0 0 (ds.take 1) (ds.drop 1) (by simp [List.take_append_drop, -List.drop_one])
        (by simp) hstart
      simp only [if_true] at hmore
      rw [hmore, hexponent]
      simp only [List.length_take, Prod.mk.injEq, true_and]
      omega

theorem magnitude_head (x : JsNumber) : ∃ c, x.magnitude.head? = some c ∧ c.isDigit = true := by
  have hdigits := x.digitChars_isDigit
  unfold magnitude
  by_cases hds : x.digitChars = []
  · exact ⟨'0', by simp [hds], by decide⟩
  obtain ⟨d, ds, hcons⟩ := List.exists_cons_of_ne_nil hds
  rw [hcons] at hdigits ⊢
  have hd : d.isDigit = true := hdigits d (.head ds)
  simp only [if_neg (List.cons_ne_nil d ds)]
  split
  · split
    · exact ⟨d, rfl, hd⟩
    · split
      · rename_i hpoint
        obtain ⟨n, hn⟩ := Nat.exists_eq_succ_of_ne_zero (n := x.point.toNat) (by omega)
        exact ⟨d, by rw [hn]; rfl, hd⟩
      · exact ⟨'0', rfl, by decide⟩
  · split
    · exact ⟨d, rfl, hd⟩
    · exact ⟨d, rfl, hd⟩

theorem toText_injective : Function.Injective toText := by
  intro x y h
  obtain ⟨c, hc, hcdigit⟩ := x.magnitude_head
  obtain ⟨d, hd, hddigit⟩ := y.magnitude_head
  have hsame : x.negative = y.negative ∧ x.magnitude = y.magnitude := by
    unfold toText at h
    split at h <;> split at h
    · rename_i hx hy
      exact ⟨hx.trans hy.symm, (List.cons.inj h).2⟩
    · rw [← h] at hd
      cases hd
      cases hddigit
    · rw [h] at hc
      cases hc
      cases hcdigit
    · rename_i hx hy
      exact ⟨by rw [Bool.not_eq_true] at hx hy; rw [hx, hy], h⟩
  obtain ⟨hnegative, hmagnitude⟩ := hsame
  have hread := congrArg readMagnitude hmagnitude
  rw [readMagnitude_magnitude, readMagnitude_magnitude, Prod.mk.injEq] at hread
  obtain ⟨hchars, hpoint⟩ := hread
  have hdigits : x.digits = y.digits := digitOf_injective.list_map hchars
  cases x
  cases y
  cases hnegative
  cases hdigits
  cases hpoint
  rfl

/-- What a number is written with. -/
def isNumberChar (c : Char) : Bool := c.isDigit || ['-', '+', '.', 'e'].contains c

theorem toText_isNumberChar (x : JsNumber) : ∀ c ∈ x.toText, isNumberChar c = true := by
  have hdigit {c : Char} (hc : c.isDigit = true) : isNumberChar c = true := by
    simp [isNumberChar, hc]
  have hdigits : ∀ c ∈ x.digitChars, isNumberChar c = true := fun c hc =>
    hdigit (x.digitChars_isDigit c hc)
  have htake (n : Nat) : ∀ c ∈ x.digitChars.take n, isNumberChar c = true := fun c hc =>
    hdigits c (List.mem_of_mem_take hc)
  have hdrop (n : Nat) : ∀ c ∈ x.digitChars.drop n, isNumberChar c = true := fun c hc =>
    hdigits c (List.mem_of_mem_drop hc)
  have hzeros (n : Nat) : ∀ c ∈ List.replicate n '0', isNumberChar c = true := fun c hc =>
    hdigit (replicate_isDigit n c hc)
  have hexponent : ∀ c ∈ x.exponent, isNumberChar c = true := by
    intro c hc
    simp only [exponent, List.mem_cons] at hc
    rcases hc with rfl | rfl | hc
    · decide
    · split <;> decide
    · exact hdigit (Nat.isDigit_of_mem_toDigits (by decide) (by decide) hc)
  have hmagnitude : ∀ c ∈ x.magnitude, isNumberChar c = true := by
    have hpoint : isNumberChar '.' = true := by decide
    have hzero : isNumberChar '0' = true := by decide
    unfold magnitude
    simp only
    split_ifs <;> simp only [List.forall_mem_append, List.forall_mem_cons, hpoint, hzero, true_and]
    · exact fun c hc => by cases hc
    · exact ⟨hdigits, hzeros _⟩
    · exact ⟨htake _, hdrop _⟩
    · exact ⟨hzeros _, hdigits⟩
    · exact ⟨hdigits, hexponent⟩
    · exact ⟨⟨htake _, hdrop _⟩, hexponent⟩
  unfold toText
  split
  · exact List.forall_mem_cons.mpr ⟨by decide, hmagnitude⟩
  · exact hmagnitude

end JsNumber

-- ---
-- Strings
-- ---

def isHigh (u : CodeUnit) : Bool := 0xd800 ≤ u.val && u.val < 0xdc00

def isLow (u : CodeUnit) : Bool := 0xdc00 ≤ u.val && u.val < 0xe000

def hexUnit (n : Nat) : CodeUnit := unit (Nat.digitChar n)

def unicodeEscape (u : CodeUnit) : JsString :=
  [unit '\\', unit 'u', hexUnit (u.val / 4096), hexUnit (u.val / 256 % 16),
    hexUnit (u.val / 16 % 16), hexUnit (u.val % 16)]

/-- What stands behind a backslash for a character. -/
def shortEscapes : List (CodeUnit × CodeUnit) :=
  [(unit '"', unit '"'), (unit '\\', unit '\\'), (8, unit 'b'), (12, unit 'f'), (10, unit 'n'),
    (13, unit 'r'), (9, unit 't')]

def escapeUnit (u : CodeUnit) : JsString :=
  match shortEscapes.lookup u with
  | some short => [unit '\\', short]
  | none => if u.val < 32 || isHigh u || isLow u then unicodeEscape u else [u]

/-- A pair of surrogates stands as it is, and one alone is escaped. -/
def escapeUnits : JsString → JsString
  | [] => []
  | [u] => escapeUnit u
  | u :: v :: rest =>
    if isHigh u && isLow v then u :: v :: escapeUnits rest
    else escapeUnit u ++ escapeUnits (v :: rest)

def quoteString (s : JsString) : JsString := unit '"' :: (escapeUnits s ++ [unit '"'])

def hexValue (u : CodeUnit) : Nat := if u.val < 58 then u.val - 48 else u.val - 87

def fromHex (a b c d : CodeUnit) : CodeUnit :=
  Fin.ofNat _ (4096 * hexValue a + 256 * hexValue b + 16 * hexValue c + hexValue d)

def fromShort (v : CodeUnit) : CodeUnit :=
  ((shortEscapes.find? fun escape => escape.2 == v).map (·.1)).getD v

/-- The string up to its closing quote, and what comes after it. -/
def unquote : JsString → JsString × JsString
  | [] => ([], [])
  | u :: rest =>
    if u = unit '"' then ([], rest)
    else if u = unit '\\' then
      match rest with
      | [] => ([], [])
      | v :: rest =>
        if v = unit 'u' then
          match rest with
          | a :: b :: c :: d :: rest => ((fromHex a b c d :: (unquote rest).1), (unquote rest).2)
          | _ => ([], [])
        else (fromShort v :: (unquote rest).1, (unquote rest).2)
    else (u :: (unquote rest).1, (unquote rest).2)

theorem unquote_quote (rest : JsString) : unquote (unit '"' :: rest) = ([], rest) := by
  rw [unquote.eq_def]
  exact if_pos rfl

theorem unquote_unit (hquote : u ≠ unit '"') (hslash : u ≠ unit '\\') (rest : JsString) :
    unquote (u :: rest) = (u :: (unquote rest).1, (unquote rest).2) := by
  rw [unquote.eq_def]
  simp only [if_neg hquote, if_neg hslash]

theorem unquote_short (hv : v ≠ unit 'u') (rest : JsString) :
    unquote (unit '\\' :: v :: rest) = (fromShort v :: (unquote rest).1, (unquote rest).2) := by
  have hslash : unit '\\' ≠ unit '"' := by decide
  rw [unquote.eq_def]
  simp only [if_neg hslash, if_true, if_neg hv]

theorem hexValue_hexUnit (h : n < 16) : hexValue (hexUnit n) = n := by
  have hall : ∀ d : Fin 16, hexValue (hexUnit d) = d := by decide
  exact hall ⟨n, h⟩

theorem unquote_unicode (u : CodeUnit) (rest : JsString) :
    unquote (unicodeEscape u ++ rest) = (u :: (unquote rest).1, (unquote rest).2) := by
  have hu : u.val < 65536 := u.isLt
  have hvalue : fromHex (hexUnit (u.val / 4096)) (hexUnit (u.val / 256 % 16))
      (hexUnit (u.val / 16 % 16)) (hexUnit (u.val % 16)) = u := by
    simp only [fromHex, hexValue_hexUnit (Nat.mod_lt _ (by decide : 16 > 0)),
      hexValue_hexUnit (by omega : u.val / 4096 < 16)]
    refine Fin.ext ?_
    simp only [Fin.val_ofNat]
    omega
  have hslash : unit '\\' ≠ unit '"' := by decide
  simp only [unicodeEscape, List.cons_append, List.nil_append]
  rw [unquote.eq_def]
  simp only [if_neg hslash, if_true, hvalue]

theorem unquote_escapeUnit (u : CodeUnit) (rest : JsString) :
    unquote (escapeUnit u ++ rest) = (u :: (unquote rest).1, (unquote rest).2) := by
  unfold escapeUnit
  split
  · rename_i short hshort
    have hall : shortEscapes.all (fun escape =>
        decide (escape.2 ≠ unit 'u' ∧ fromShort escape.2 = escape.1)) = true := by
      decide
    have hmem : (u, short) ∈ shortEscapes := by
      obtain ⟨before, after, hsplit, -⟩ := List.lookup_eq_some_iff.mp hshort
      rw [hsplit]
      exact List.mem_append_right before (.head after)
    obtain ⟨hv, hback⟩ := of_decide_eq_true (List.all_eq_true.mp hall (u, short) hmem)
    rw [List.cons_append, List.cons_append, List.nil_append, unquote_short hv, hback]
  · rename_i hnone
    split
    · exact unquote_unicode u rest
    · refine unquote_unit ?_ ?_ rest
      · rintro rfl
        cases hnone
      · rintro rfl
        cases hnone

/-- A string is read back up to its closing quote. -/
theorem unquote_escapeUnits (s rest : JsString) :
    unquote (escapeUnits s ++ unit '"' :: rest) = (s, rest) := by
  fun_induction escapeUnits s with
  | case1 => exact unquote_quote rest
  | case2 u =>
    rw [unquote_escapeUnit, unquote_quote]
  | case3 u v s hpair ih =>
    -- A surrogate is neither a quote nor a backslash.
    have hhigh : 0xd800 ≤ u.val := by simp_all [isHigh]
    have hlow : 0xdc00 ≤ v.val := by simp_all [isLow]
    have hplain {w : CodeUnit} (hw : 0xd800 ≤ w.val) : w ≠ unit '"' ∧ w ≠ unit '\\' := by
      constructor <;> rintro rfl <;> revert hw <;> decide
    rw [List.cons_append, List.cons_append, unquote_unit (hplain hhigh).1 (hplain hhigh).2,
      unquote_unit (hplain (by omega)).1 (hplain (by omega)).2, ih]
  | case4 u v s hpair ih =>
    rw [List.append_assoc, unquote_escapeUnit, ih]

theorem quoteString_append_inj {s t r r' : JsString}
    (h : quoteString s ++ r = quoteString t ++ r') : s = t ∧ r = r' := by
  simp only [quoteString, List.cons_append, List.append_assoc, List.nil_append,
    List.cons.injEq, true_and] at h
  have hread := congrArg unquote h
  rw [unquote_escapeUnits, unquote_escapeUnits] at hread
  exact Prod.mk.inj hread

-- ---
-- Values
-- ---

/-- A value, in whose objects a key may come twice. -/
inductive RawJson
  | null
  | bool (b : Bool)
  | number (x : JsNumber)
  | string (s : JsString)
  | array (items : List RawJson)
  | object (members : List (JsString × RawJson))

namespace RawJson

mutual

/-- No object has a key twice. -/
def WellFormed : RawJson → Prop
  | .array items => ItemsWellFormed items
  | .object members => (members.map Prod.fst).Nodup ∧ MembersWellFormed members
  | _ => True

def ItemsWellFormed : List RawJson → Prop
  | [] => True
  | item :: items => WellFormed item ∧ ItemsWellFormed items

def MembersWellFormed : List (JsString × RawJson) → Prop
  | [] => True
  | (_, value) :: members => WellFormed value ∧ MembersWellFormed members

end

mutual

/-- Equal up to the order of the keys of objects. -/
def Same : RawJson → RawJson → Prop
  | .null, .null => True
  | .bool b, .bool c => b = c
  | .number x, .number y => x = y
  | .string s, .string t => s = t
  | .array items, .array others => SameItems items others
  | .object members, .object others =>
    (∀ k ∈ others.map Prod.fst, k ∈ members.map Prod.fst) ∧ SameMembers members others
  | _, _ => False

def SameItems : List RawJson → List RawJson → Prop
  | [], [] => True
  | item :: items, other :: others => Same item other ∧ SameItems items others
  | _, _ => False

/-- Each member is among the others, with the same value. -/
def SameMembers : List (JsString × RawJson) → List (JsString × RawJson) → Prop
  | [], _ => True
  | (k, value) :: members, others =>
    (∃ other, (k, other) ∈ others ∧ Same value other) ∧ SameMembers members others

end

theorem itemsWellFormed_iff {items : List RawJson} :
    ItemsWellFormed items ↔ ∀ item ∈ items, item.WellFormed := by
  induction items with
  | nil => simp [ItemsWellFormed]
  | cons item items ih => simp [ItemsWellFormed, ih]

theorem membersWellFormed_iff {members : List (JsString × RawJson)} :
    MembersWellFormed members ↔ ∀ member ∈ members, member.2.WellFormed := by
  induction members with
  | nil => simp [MembersWellFormed]
  | cons member members ih => simp [MembersWellFormed, ih]

theorem sameItems_iff {items others : List RawJson} :
    SameItems items others ↔ List.Forall₂ Same items others := by
  induction items generalizing others with
  | nil => cases others <;> simp [SameItems]
  | cons item items ih => cases others <;> simp [SameItems, ih]

theorem sameMembers_iff {members others : List (JsString × RawJson)} :
    SameMembers members others ↔
      ∀ member ∈ members, ∃ other, (member.1, other) ∈ others ∧ member.2.Same other := by
  induction members with
  | nil => simp [SameMembers]
  | cons member members ih => simp [SameMembers, ih]

/-- Induction over the items and the members of a value. -/
@[elab_as_elim]
theorem induct {P : RawJson → Prop} (null : P .null) (bool : ∀ b, P (.bool b))
    (number : ∀ x, P (.number x)) (string : ∀ s, P (.string s))
    (array : ∀ items, (∀ item ∈ items, P item) → P (.array items))
    (object : ∀ members, (∀ member ∈ members, P member.2) → P (.object members)) (v : RawJson) :
    P v := by
  refine @RawJson.rec P (fun items => ∀ item ∈ items, P item)
    (fun members => ∀ member ∈ members, P member.2) (fun member => P member.2)
    null bool number string array object ?_ ?_ ?_ ?_ ?_ v
  · exact fun item hitem => by cases hitem
  · exact fun item items hitem hitems => List.forall_mem_cons.mpr ⟨hitem, hitems⟩
  · exact fun member hmember => by cases hmember
  · exact fun member members hmember hmembers => List.forall_mem_cons.mpr ⟨hmember, hmembers⟩
  · exact fun k value hvalue => hvalue

end RawJson

/-- A JSON value. -/
structure JsonValue where
  raw : RawJson
  wellFormed : raw.WellFormed

end NimbusPos.Lib
