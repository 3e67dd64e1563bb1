import SchemaPilot.Library.CalendarDate
import SchemaPilot.Library.FloatLiteral
import SchemaPilot.Library.Normalization
import SchemaPilot.Workers.Profiler
import SchemaPilot.Workers.Silver

/-!
# Parsing amounts and dates

`backend/workers/parsing.py`: `parse_currency` keeps the digits, separators and hyphens of a text and
takes the last separator for the decimal one, and `parse_date` reads a date of ISO 8601 or else three
numbers, the last of which is the year.
-/

namespace SchemaPilot.Workers.Parsing

open Library Library.Json SharedDomain

/-- `[0-9,.\-]`. -/
def isCurrencyChar (c : Char) : Bool := c.isDigit || c == ',' || c == '.' || c == '-'

/-- `text.rfind(c)`. -/
def rfind (c : Char) (chars : List Char) : ℤ := (chars.length : ℤ) - 1 - chars.reverse.idxOf c

/-- `text.replace(",", ".")`. -/
def pointForComma (c : Char) : Char := if c = ',' then '.' else c

/-- The cleaned text with no separator but a point. -/
def decimalText (cleaned : List Char) : List Char :=
  let commaCount := cleaned.count ','
  let dotCount := cleaned.count '.'
  if commaCount ≠ 0 ∧ dotCount ≠ 0 then
    if rfind '.' cleaned < rfind ',' cleaned then (cleaned.filter (· ≠ '.')).map pointForComma
    else cleaned.filter (· ≠ ',')
  else if commaCount ≠ 0 ∧ dotCount = 0 then cleaned.map pointForComma
  else cleaned

/-- `float(text)`. -/
def toFloat (chars : List Char) : Except Exn FloatLiteral :=
  match floatLiteral? (String.ofList chars) with
  | some literal => .ok literal
  | none => .error (.valueError ("could not convert string to float: " ++
      String.ofList (reprString (String.ofList chars))))

/-- `parse_currency`. -/
def parseCurrency (form : NormalForm) (value : String) : Except Exn FloatLiteral :=
  let normalized := Profiler.normalizeText form.normalize value
  let cleaned := normalized.toList.filter isCurrencyChar
  if cleaned = [] then .error (.valueError "currency_empty") else toFloat (decimalText cleaned)

/-- An argument that has to fit an `int` of C. -/
def cInt (value : ℤ) : Except Exn ℤ :=
  if value < -2 ^ 63 ∨ 2 ^ 63 ≤ value then
    .error (.other "Python int too large to convert to C long")
  else if 2 ^ 31 ≤ value then .error (.other "signed integer is greater than maximum")
  else if value < -2 ^ 31 then .error (.other "signed integer is less than minimum")
  else .ok value

/-- `dt.date(year, month, day)`. -/
def date (year month day : ℤ) : Except Exn CalendarDate := do
  let year ← cInt year
  let month ← cInt month
  let day ← cInt day
  if ¬(1 ≤ year ∧ year ≤ 9999) then
    .error (.valueError ("year " ++ toString year ++ " is out of range"))
  else if ¬(1 ≤ month ∧ month ≤ 12) then .error (.valueError "month must be in 1..12")
  else
    match CalendarDate.ofParts? year.toNat month.toNat day.toNat with
    | some date => .ok date
    | none => .error (.valueError "day is out of range for month")

def isDateSeparator (c : Char) : Bool := c == '-' || c == '/'

/-- The parts between separators, empty ones left out. -/
def dateParts (text : String) : List String :=
  ((text.toList.splitOnP isDateSeparator).filter (· ≠ [])).map String.ofList

/-- `parse_date`. -/
def parseDate (form : NormalForm) (value : String) (dayFirst : Option Bool) :
    Except Exn CalendarDate :=
  let normalized := Profiler.normalizeText form.normalize value
  match fromIsoFormat? normalized with
  | some date => .ok date
  | none =>
    let parts := dateParts normalized
    match parts with
    | [first, second, third] =>
      if ¬parts.all isDigitText then .error (.valueError "date_unparseable")
      else do
        let a ← toInt (.str first)
        let b ← toInt (.str second)
        let c ← toInt (.str third)
        if c < 100 then .error (.valueError "date_unparseable")
        else if dayFirst = none ∧ a ≤ 12 ∧ b ≤ 12 then .error (.valueError "date_ambiguous")
        else
          -- a flag that is not set counts as false here
          let (day, month) := if dayFirst = some true then (a, b) else (b, a)
          date c month day
    | _ => .error (.valueError "date_unparseable")

end SchemaPilot.Workers.Parsing
