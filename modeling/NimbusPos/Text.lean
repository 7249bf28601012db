import NimbusPos.Common
import NimbusPos.Lib.Calendar

/-!
# Dates as text

`Date.toISOString` of a time since the epoch, and of one before it.
-/

namespace NimbusPos

def padded (width n : Nat) : String :=
  let digits := toString n
  String.ofList (List.replicate (width - digits.length) '0') ++ digits

/-- Year, month and day of the proleptic Gregorian calendar; its eras of 400 years are
counted from a first of March. -/
def civil (day : Nat) : Nat × Nat × Nat :=
  let z := day + 719468
  let doe := z % 146097
  let yoe := (doe - doe / 1460 + doe / 36524 - doe / 146096) / 365
  let doy := doe - (365 * yoe + yoe / 4 - yoe / 100)
  let mp := (5 * doy + 2) / 153
  let month := if mp < 10 then mp + 3 else mp - 9
  (yoe + z / 146097 * 400 + if month ≤ 2 then 1 else 0, month, doy - (153 * mp + 2) / 5 + 1)

def toISOString (time : Time) : String :=
  let (year, month, day) := civil (time / 86400000)
  let ms := time % 86400000
  (if year ≤ 9999 then padded 4 year else "+" ++ padded 6 year) ++ "-" ++ padded 2 month ++ "-" ++
    padded 2 day ++ "T" ++ padded 2 (ms / 3600000) ++ ":" ++ padded 2 (ms / 60000 % 60) ++ ":" ++
    padded 2 (ms / 1000 % 60) ++ "." ++ padded 3 (ms % 1000) ++ "Z"

example : toISOString 1709164799999 = "2024-02-28T23:59:59.999Z" ∧
    toISOString 1709164800000 = "2024-02-29T00:00:00.000Z" := by decide +kernel

open Lib.Calendar in
/-- The date in `Date.toISOString`, of any day. -/
def isoDate (day : Int) : String :=
  let year := monthOf day / 12
  (if 0 ≤ year ∧ year ≤ 9999 then padded 4 year.toNat
    else (if year < 0 then "-" else "+") ++ padded 6 year.natAbs) ++ "-" ++
    padded 2 (monthOf day % 12 + 1).toNat ++ "-" ++ padded 2 (dateOf day + 1).toNat

/-- `Date.toISOString` of any time in milliseconds. -/
def isoTime (time : Int) : String :=
  let ms := (time % 86400000).toNat
  isoDate (time / 86400000) ++ "T" ++ padded 2 (ms / 3600000) ++ ":" ++
    padded 2 (ms / 60000 % 60) ++ ":" ++ padded 2 (ms / 1000 % 60) ++ "." ++
    padded 3 (ms % 1000) ++ "Z"

example : isoTime 1709164800000 = toISOString 1709164800000 ∧
    isoTime (-1) = "1969-12-31T23:59:59.999Z" := by decide +kernel

end NimbusPos

/-!
# Texts

What both sides of a request do with the texts in it.
-/

namespace NimbusPos.Text

/-- White space and line terminators. -/
def isWhiteSpace (c : Char) : Bool :=
  [0x9, 0xa, 0xb, 0xc, 0xd, 0x20, 0xa0, 0x1680, 0x2028, 0x2029, 0x202f, 0x205f, 0x3000,
    0xfeff].contains c.toNat || (0x2000 ≤ c.toNat && c.toNat ≤ 0x200a)

def trim (text : String) : String :=
  String.ofList (((text.toList.dropWhile isWhiteSpace).reverse.dropWhile isWhiteSpace).reverse)

def digitsValue (digits : List Char) : Nat :=
  digits.foldl (fun n c => 10 * n + (c.toNat - '0'.toNat)) 0

/-- `^\d+(\.\d{1,2})?$`, the value in cents. -/
def plainAmount (text : String) : Option Nat :=
  let whole := text.toList.takeWhile Char.isDigit
  if whole.isEmpty then none
  else match text.toList.dropWhile Char.isDigit with
    | [] => some (digitsValue whole * 100)
    | ['.', d] =>
      if d.isDigit then some (digitsValue whole * 100 + digitsValue [d] * 10) else none
    | ['.', d, e] =>
      if d.isDigit && e.isDigit then some (digitsValue whole * 100 + digitsValue [d, e]) else none
    | _ => none

example : (plainAmount "12.3", plainAmount ".5", plainAmount "7.005", plainAmount " 7") =
    (some 1230, none, none, none) := by decide

end NimbusPos.Text
