import Mathlib.Data.List.Basic
import Mathlib.Data.List.Induction

/-!
# Comma-separated values

Records of fields as RFC 4180 reads them, with a line feed alone as a line break too. A field is
read as it stands, or between quotes, where a quote is written twice.

`parse_iff`: what a writer puts down as it stands is read back exactly when it holds no comma,
quote or line break, and what it puts between quotes exactly when it holds no quote.
-/

namespace NimbusPos.Lib.Csv

-- ---
-- Reading
-- ---

inductive Mode
  | start
  | text
  | quoted
  | closed
  deriving DecidableEq, Repr

/-- The field that is being read, the fields after it in its record, and the records after that. -/
structure Parsed where
  field : List Char
  fields : List (List Char)
  records : List (List (List Char))
  deriving DecidableEq, Repr

namespace Parsed

def last : Parsed := ⟨[], [], []⟩

def push (c : Char) (p : Parsed) : Parsed := { p with field := c :: p.field }

def nextField (p : Parsed) : Parsed := ⟨[], p.field :: p.fields, p.records⟩

def nextRecord (p : Parsed) : Parsed := ⟨[], [], (p.field :: p.fields) :: p.records⟩

def toRecords (p : Parsed) : List (List String) :=
  ((p.field :: p.fields) :: p.records).map (·.map String.ofList)

end Parsed

/-- The last record may have a line break after it. -/
def parse : Mode → List Char → Option Parsed
  | .quoted, [] => none
  | .quoted, '"' :: '"' :: cs => (parse .quoted cs).map (.push '"')
  | .quoted, '"' :: cs => parse .closed cs
  | .quoted, c :: cs => (parse .quoted cs).map (.push c)
  | _, [] => some .last
  | _, ',' :: cs => (parse .start cs).map .nextField
  | _, ['\n'] | _, ['\r', '\n'] => some .last
  | _, '\n' :: cs | _, '\r' :: '\n' :: cs => (parse .start cs).map .nextRecord
  | .start, '"' :: cs => parse .quoted cs
  | .closed, _ :: _ => none
  | _, '"' :: _ | _, '\r' :: _ => none
  | _, c :: cs => (parse .text cs).map (.push c)

def readRecords (s : String) : Option (List (List String)) :=
  (parse .start s.toList).map (·.toRecords)

example : readRecords "a,\"b, \"\"c\"\"\"\r\n,d\n" = some [["a", "b, \"c\""], ["", "d"]] := by
  decide +kernel

-- ---
-- Writing
-- ---

/-- A value that is written as it stands, or with a quote before and after it. -/
inductive Cell
  | raw (value : String)
  | quoted (value : String)
  deriving DecidableEq, Repr

namespace Cell

def value : Cell → String
  | raw value => value
  | quoted value => value

def text : Cell → String
  | raw value => value
  | quoted value => "\"" ++ value ++ "\""

def special (c : Char) : Bool := c == ',' || c == '"' || c == '\n' || c == '\r'

/-- The value that is read is the one that was written. -/
def Plain : Cell → Prop
  | raw value => ∀ c ∈ value.toList, special c = false
  | quoted value => '"' ∉ value.toList

instance : (cell : Cell) → Decidable cell.Plain
  | raw value => List.decidableBAll (fun c => special c = false) value.toList
  | quoted _ => inferInstanceAs (Decidable (¬_))

end Cell

def line (cells : List Cell) : String := ",".intercalate (cells.map (·.text))

def write (lines : List (List Cell)) : String := "\n".intercalate (lines.map line)

-- ---
-- One field
-- ---

/-- What may come after a field. -/
def Follows (tail : List Char) : Prop :=
  tail = [] ∨ (∃ cs, tail = ',' :: cs) ∨ ∃ cs, tail = '\n' :: cs

theorem Follows.not_quote (h : Follows tail) : tail ≠ '"' :: cs := by
  rcases h with rfl | ⟨_, rfl⟩ | ⟨_, rfl⟩ <;> simp

theorem parse_follows (h : Follows tail) :
    parse .start tail = parse .text tail ∧ parse .closed tail = parse .text tail := by
  rcases h with rfl | ⟨cs, rfl⟩ | ⟨cs, rfl⟩
  · exact ⟨rfl, rfl⟩
  · exact ⟨rfl, rfl⟩
  · cases cs <;> exact ⟨rfl, rfl⟩

theorem special_false {c : Char} :
    Cell.special c = false ↔ c ≠ ',' ∧ c ≠ '"' ∧ c ≠ '\n' ∧ c ≠ '\r' := by
  simp [Cell.special, and_assoc]

section

attribute [local simp] parse

theorem parse_ordinary (h : Cell.special c = false) (cs : List Char) :
    parse .start (c :: cs) = (parse .text cs).map (.push c) ∧
      parse .text (c :: cs) = (parse .text cs).map (.push c) := by
  obtain ⟨hcomma, hquote, hlf, hcr⟩ := special_false.mp h
  constructor <;> simp [hquote, hlf, hcr]

theorem parse_quoted_ordinary (h : c ≠ '"') (cs : List Char) :
    parse .quoted (c :: cs) = (parse .quoted cs).map (.push c) := by
  simp [h]

end

theorem parse_quoted_end (h : Follows tail) :
    parse .quoted ('"' :: tail) = parse .text tail := by
  rcases h with rfl | ⟨cs, rfl⟩ | ⟨cs, rfl⟩
  · rfl
  · rfl
  · cases cs <;> rfl

/-- Separators and line breaks are read alike after a field, in one and before one. -/
theorem parse_break (h : Cell.special c = true) (hne : c ≠ '"') (cs : List Char) :
    parse .start (c :: cs) = parse .text (c :: cs) ∧
      parse .closed (c :: cs) = parse .text (c :: cs) := by
  simp only [Cell.special, Bool.or_eq_true, beq_iff_eq] at h
  rcases h with ((rfl | rfl) | rfl) | rfl
  · exact ⟨rfl, rfl⟩
  · exact absurd rfl hne
  · cases cs <;> exact ⟨rfl, rfl⟩
  · cases cs with
    | nil => exact ⟨rfl, rfl⟩
    | cons d cs =>
      by_cases hd : d = '\n'
      · subst hd
        cases cs <;> exact ⟨rfl, rfl⟩
      · simp [parse, hd]

/-- A field ends before a special character. -/
theorem parse_special {p : Parsed} (h : Cell.special c = true)
    (hp : parse .text (c :: cs) = some p) : p.field = [] := by
  simp only [Cell.special, Bool.or_eq_true, beq_iff_eq] at h
  rcases h with ((rfl | rfl) | rfl) | rfl
  · obtain ⟨q, -, rfl⟩ := Option.map_eq_some_iff.mp hp
    rfl
  · simp [parse] at hp
  · cases cs with
    | nil =>
      cases hp
      rfl
    | cons d cs =>
      obtain ⟨q, -, rfl⟩ := Option.map_eq_some_iff.mp hp
      rfl
  · rcases cs with _ | ⟨d, cs⟩
    · simp [parse] at hp
    · by_cases hd : d = '\n'
      · subst hd
        cases cs with
        | nil =>
          cases hp
          rfl
        | cons e cs =>
          obtain ⟨q, -, rfl⟩ := Option.map_eq_some_iff.mp hp
          rfl
      · simp [parse, hd] at hp

theorem push_iff {o : Option Parsed} :
    o.map (Parsed.push c) = some ⟨c :: s, fields, rows⟩ ↔ o = some ⟨s, fields, rows⟩ := by
  cases o with
  | none => simp
  | some p =>
    cases p
    simp [Parsed.push]

theorem parse_text_iff (s : List Char) :
    parse .text (s ++ tail) = some ⟨s, fields, rows⟩ ↔
      (∀ c ∈ s, Cell.special c = false) ∧ parse .text tail = some ⟨[], fields, rows⟩ := by
  induction s with
  | nil => simp
  | cons c s ih =>
    by_cases hc : Cell.special c = false
    · rw [List.cons_append, (parse_ordinary hc _).2, push_iff, ih]
      simp [hc]
    · refine iff_of_false (fun hp => ?_) fun hall => hc (hall.1 c (.head _))
      cases parse_special (Bool.not_eq_false _ ▸ hc) hp

def escape (s : List Char) : List Char := s.flatMap fun c => if c = '"' then ['"', '"'] else [c]

theorem escape_cons (c : Char) (s : List Char) :
    escape (c :: s) = (if c = '"' then ['"', '"'] else [c]) ++ escape s := List.flatMap_cons

theorem parse_closed {p : Parsed} (h : parse .closed cs = some p) : p.field = [] := by
  cases cs with
  | nil =>
    cases h
    rfl
  | cons c cs =>
    by_cases hc : Cell.special c = true
    · by_cases hquote : c = '"'
      · subst hquote
        simp [parse] at h
      · rw [(parse_break hc hquote cs).2] at h
        exact parse_special hc h
    · obtain ⟨hcomma, hquote, hlf, hcr⟩ := special_false.mp (Bool.not_eq_true _ ▸ hc)
      simp [parse, hlf, hcr] at h

/-- What is read between quotes stands there with its quotes doubled. -/
theorem parse_quoted {p : Parsed} (h : parse .quoted cs = some p) :
    ∃ rest, cs = escape p.field ++ '"' :: rest := by
  induction cs using List.twoStepInduction generalizing p with
  | nil => cases h
  | singleton c =>
    by_cases hc : c = '"'
    · subst hc
      cases h
      exact ⟨[], rfl⟩
    · simp [parse_quoted_ordinary hc, parse] at h
  | cons_cons c d cs ih ih' =>
    by_cases hc : c = '"'
    · subst hc
      by_cases hd : d = '"'
      · subst hd
        obtain ⟨q, hq, rfl⟩ := Option.map_eq_some_iff.mp h
        obtain ⟨rest, rfl⟩ := ih hq
        exact ⟨rest, by simp [Parsed.push, escape_cons]⟩
      · have hclosed : parse .closed (d :: cs) = some p := by simpa [parse, hd] using h
        exact ⟨d :: cs, by simp [parse_closed hclosed, escape]⟩
    · rw [parse_quoted_ordinary hc] at h
      obtain ⟨q, hq, rfl⟩ := Option.map_eq_some_iff.mp h
      obtain ⟨rest, hrest⟩ := ih' d hq
      exact ⟨rest, by simp [Parsed.push, escape_cons, hc, hrest]⟩

/-- Quotes that stand before a doubled text run past it. -/
theorem quotes_run (h : s ++ tail = List.replicate (n + 1) '"' ++ (escape s ++ '"' :: rest)) :
    ∃ cs, tail = '"' :: '"' :: cs := by
  induction s generalizing n with
  | nil =>
    cases n with
    | zero => exact ⟨rest, by simpa [escape] using h⟩
    | succ n =>
      refine ⟨List.replicate n '"' ++ '"' :: rest, ?_⟩
      simpa [escape, List.replicate_succ] using h
  | cons c s ih =>
    rw [List.replicate_succ, List.cons_append, List.cons_append] at h
    obtain ⟨rfl, htail⟩ := List.cons.inj h
    refine ih (n := n + 1) ?_
    rw [htail, escape_cons, if_pos rfl, List.replicate_succ', List.replicate_succ']
    simp

theorem parse_start_iff (h : Follows tail) (s : List Char) :
    parse .start (s ++ tail) = some ⟨s, fields, rows⟩ ↔
      (∀ c ∈ s, Cell.special c = false) ∧ parse .text tail = some ⟨[], fields, rows⟩ := by
  cases s with
  | nil => simp [(parse_follows h).1]
  | cons c s =>
    by_cases hc : c = '"'
    · subst hc
      refine iff_of_false (fun hp => ?_) fun hall => absurd (hall.1 '"' (.head _)) (by decide)
      have hquoted : parse .quoted (s ++ tail) = some ⟨'"' :: s, fields, rows⟩ := by
        simpa [parse] using hp
      obtain ⟨rest, hrest⟩ := parse_quoted hquoted
      have hrun : s ++ tail = List.replicate (1 + 1) '"' ++ (escape s ++ '"' :: rest) := by
        simpa [escape_cons, List.replicate_succ] using hrest
      obtain ⟨cs, hcs⟩ := quotes_run hrun
      exact h.not_quote hcs
    · rw [← parse_text_iff, List.cons_append]
      by_cases hspecial : Cell.special c = true
      · rw [(parse_break hspecial hc _).1]
      · rw [Bool.not_eq_true] at hspecial
        rw [(parse_ordinary hspecial _).1, (parse_ordinary hspecial _).2]

theorem parse_quoted_iff (h : Follows tail) (s : List Char) :
    parse .quoted (s ++ '"' :: tail) = some ⟨s, fields, rows⟩ ↔
      '"' ∉ s ∧ parse .text tail = some ⟨[], fields, rows⟩ := by
  have hread (hs : '"' ∉ s) : parse .quoted (s ++ '"' :: tail) = some ⟨s, fields, rows⟩ ↔
      parse .text tail = some ⟨[], fields, rows⟩ := by
    induction s with
    | nil => rw [List.nil_append, parse_quoted_end h]
    | cons c s ih =>
      obtain ⟨hc, hs⟩ := not_or.mp (List.mem_cons.not.mp hs)
      rw [List.cons_append, parse_quoted_ordinary (Ne.symm hc), push_iff, ih hs]
  have hnone (rest : List Char) (heq : s ++ '"' :: tail = escape s ++ '"' :: rest) : '"' ∉ s := by
    clear hread
    induction s with
    | nil => exact List.not_mem_nil
    | cons c s ih =>
      rw [escape_cons] at heq
      by_cases hc : c = '"'
      · subst hc
        have hrun : s ++ '"' :: tail = List.replicate (0 + 1) '"' ++ (escape s ++ '"' :: rest) := by
          simpa using heq
        obtain ⟨cs, hcs⟩ := quotes_run hrun
        exact absurd (List.cons.inj hcs).2 h.not_quote
      · rw [if_neg hc] at heq
        rw [List.mem_cons, not_or]
        exact ⟨Ne.symm hc, ih (List.cons.inj heq).2⟩
  constructor
  · intro hp
    obtain ⟨rest, hrest⟩ := parse_quoted hp
    exact ⟨hnone rest hrest, (hread (hnone rest hrest)).mp hp⟩
  · rintro ⟨hs, hp⟩
    exact (hread hs).mpr hp

/-- A cell is read back, with what follows it left to read, exactly when it is plain. -/
theorem parse_cell_iff (h : Follows tail) (cell : Cell) :
    parse .start (cell.text.toList ++ tail) = some ⟨cell.value.toList, fields, rows⟩ ↔
      cell.Plain ∧ parse .text tail = some ⟨[], fields, rows⟩ := by
  cases cell with
  | raw value => exact parse_start_iff h value.toList
  | quoted value =>
    have htext : (Cell.quoted value).text.toList ++ tail =
        '"' :: (value.toList ++ '"' :: tail) := by
      simp [Cell.text, String.toList_append]
    have hstart : parse .start ('"' :: (value.toList ++ '"' :: tail)) =
        parse .quoted (value.toList ++ '"' :: tail) := by simp [parse]
    rw [htext, hstart]
    exact parse_quoted_iff h value.toList

-- ---
-- All records
-- ---

/-- What comes after a line. -/
def after (lines : List (List Cell)) : List Char :=
  lines.flatMap fun cells => '\n' :: (line cells).toList

theorem after_follows (lines : List (List Cell)) : Follows (after lines) := by
  cases lines with
  | nil => exact .inl rfl
  | cons cells lines => exact .inr (.inr ⟨_, rfl⟩)

theorem line_singleton (cell : Cell) : (line [cell]).toList = cell.text.toList := by
  simp [line]

theorem line_cons (cell next : Cell) (cells : List Cell) :
    (line (cell :: next :: cells)).toList =
      cell.text.toList ++ ',' :: (line (next :: cells)).toList := by
  simp only [line, List.map_cons, String.toList_intercalate, List.intercalate_cons_cons]
  simp

theorem write_eq (cells : List Cell) (lines : List (List Cell)) :
    (write (cells :: lines)).toList = (line cells).toList ++ after lines := by
  induction lines generalizing cells with
  | nil => simp [write, after]
  | cons next lines ih =>
    have hnext := ih next
    simp only [write, List.map_cons, String.toList_intercalate, List.intercalate_cons_cons] at *
    rw [hnext]
    simp [after]

theorem parse_comma_iff : parse .text (',' :: cs) = some ⟨[], field :: fields, rows⟩ ↔
    parse .start cs = some ⟨field, fields, rows⟩ := by
  have hread : parse .text (',' :: cs) = (parse .start cs).map .nextField := by simp [parse]
  rw [hread]
  cases parse .start cs with
  | none => simp
  | some p =>
    cases p
    simp [Parsed.nextField, and_assoc]

theorem parse_break_iff (h : cs ≠ []) :
    parse .text ('\n' :: cs) = some ⟨[], [], (field :: fields) :: rows⟩ ↔
      parse .start cs = some ⟨field, fields, rows⟩ := by
  have hread : parse .text ('\n' :: cs) = (parse .start cs).map .nextRecord := by
    cases cs with
    | nil => exact absurd rfl h
    | cons c cs => simp [parse]
  rw [hread]
  cases parse .start cs with
  | none => simp
  | some p =>
    cases p
    simp [Parsed.nextRecord, and_assoc]

/-- A line is read back exactly when its cells are plain and what comes after it is read. -/
theorem parse_line_iff (lines : List (List Cell)) (cell : Cell) (cells : List Cell) :
    parse .start ((line (cell :: cells)).toList ++ after lines) =
        some ⟨cell.value.toList, cells.map (·.value.toList), rows⟩ ↔
      (∀ c ∈ cell :: cells, c.Plain) ∧ parse .text (after lines) = some ⟨[], [], rows⟩ := by
  induction cells generalizing cell with
  | nil =>
    rw [line_singleton, List.map_nil, parse_cell_iff (after_follows lines)]
    simp
  | cons next cells ih =>
    rw [line_cons, List.append_assoc, List.cons_append, List.map_cons,
      parse_cell_iff (.inr (.inl ⟨_, rfl⟩)), parse_comma_iff, ih, ← and_assoc]
    simp

/-- The last line holds two cells or more, so that the text does not end after a line break. -/
def Ends (lines : List (List Cell)) : Prop := ∀ cells ∈ lines.getLast?, 2 ≤ cells.length

theorem Ends.tail (h : Ends (cells :: lines)) : Ends lines := by
  intro last hlast
  cases lines with
  | nil => cases hlast
  | cons next lines => exact h last (by rwa [List.getLast?_cons_cons])

theorem Ends.ne_nil (h : Ends (cells :: lines)) : (line cells).toList ++ after lines ≠ [] := by
  cases lines with
  | nil =>
    have htwo := h cells rfl
    rcases cells with _ | ⟨cell, _ | ⟨next, cells⟩⟩
    · cases htwo
    · simp at htwo
    · simp [line_cons]
  | cons next lines => simp [after]

theorem parse_after_iff {lines : List (List Cell)} (hends : Ends lines)
    (hcells : ∀ cells ∈ lines, cells ≠ []) :
    parse .text (after lines) =
        some ⟨[], [], lines.map fun cells => cells.map (·.value.toList)⟩ ↔
      ∀ cells ∈ lines, ∀ c ∈ cells, c.Plain := by
  induction lines with
  | nil => simp [after, parse, Parsed.last]
  | cons cells lines ih =>
    obtain ⟨cell, cells, rfl⟩ := List.exists_cons_of_ne_nil (hcells cells (.head _))
    have hlater := ih hends.tail fun cells hmem => hcells cells (.tail _ hmem)
    have hafter : after ((cell :: cells) :: lines) =
        '\n' :: ((line (cell :: cells)).toList ++ after lines) := rfl
    rw [hafter, List.map_cons, List.map_cons, parse_break_iff hends.ne_nil, parse_line_iff, hlater]
    simp

theorem toRecords_iff {p : Parsed} (lines : List (List Cell)) :
    p.toRecords = lines.map (·.map Cell.value) ↔
      (p.field :: p.fields) :: p.records = lines.map fun cells => cells.map (·.value.toList) := by
  have hvalues : lines.map (·.map Cell.value) =
      (lines.map fun cells => cells.map (·.value.toList)).map (·.map String.ofList) := by
    simp [Function.comp_def]
  have hinjective : Function.Injective fun row : List (List Char) => row.map String.ofList :=
    List.map_injective_iff.mpr fun a b h => by simpa using congrArg String.toList h
  rw [Parsed.toRecords, hvalues]
  exact (List.map_injective_iff.mpr hinjective).eq_iff

/-- What is written is read back exactly when its cells are plain. -/
theorem readRecords_write {lines : List (List Cell)} (hsome : lines ≠ []) (hends : Ends lines)
    (hcells : ∀ cells ∈ lines, cells ≠ []) :
    readRecords (write lines) = some (lines.map (·.map Cell.value)) ↔
      ∀ cells ∈ lines, ∀ c ∈ cells, c.Plain := by
  obtain ⟨cells, lines, rfl⟩ := List.exists_cons_of_ne_nil hsome
  obtain ⟨cell, cells, rfl⟩ := List.exists_cons_of_ne_nil (hcells cells (.head _))
  have hlater := parse_after_iff hends.tail fun cells hmem => hcells cells (.tail _ hmem)
  rw [List.forall_mem_cons, ← hlater, ← parse_line_iff, readRecords, write_eq,
    Option.map_eq_some_iff]
  constructor
  · rintro ⟨p, hp, hrecords⟩
    rw [toRecords_iff, List.map_cons, List.map_cons] at hrecords
    rw [hp]
    cases p
    simp_all
  · intro hp
    refine ⟨_, hp, (toRecords_iff _).mpr ?_⟩
    rfl

end NimbusPos.Lib.Csv
