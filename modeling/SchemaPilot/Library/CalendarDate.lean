import SchemaPilot.Library.Json

/-!
# Calendar dates

`datetime.date`: the days of the Gregorian calendar from the year 1 to the year 9999, and the texts of
ISO 8601 that `date.fromisoformat` reads: a year with a month and a day, or with a week and a day of it.
-/

namespace SchemaPilot.Library

def isLeapYear (year : ℕ) : Bool := year % 4 = 0 && (year % 100 ≠ 0 || year % 400 = 0)

def daysInMonth (year month : ℕ) : ℕ :=
  if month = 2 then if isLeapYear year then 29 else 28
  else if month ∈ [4, 6, 9, 11] then 30
  else 31

structure IsDate (year month day : ℕ) : Prop where
  year_pos : 1 ≤ year
  year_le : year ≤ 9999
  month_pos : 1 ≤ month
  month_le : month ≤ 12
  day_pos : 1 ≤ day
  day_le : day ≤ daysInMonth year month

instance (year month day : ℕ) : Decidable (IsDate year month day) :=
  decidable_of_iff (1 ≤ year ∧ year ≤ 9999 ∧ 1 ≤ month ∧ month ≤ 12 ∧ 1 ≤ day ∧
      day ≤ daysInMonth year month)
    ⟨fun ⟨h₁, h₂, h₃, h₄, h₅, h₆⟩ ↦ ⟨h₁, h₂, h₃, h₄, h₅, h₆⟩,
      fun ⟨h₁, h₂, h₃, h₄, h₅, h₆⟩ ↦ ⟨h₁, h₂, h₃, h₄, h₅, h₆⟩⟩

/-- `datetime.date`. -/
structure CalendarDate where
  year : ℕ
  month : ℕ
  day : ℕ
  isDate : IsDate year month day
deriving DecidableEq

/-- The date of three numbers, if there is one. -/
def CalendarDate.ofParts? (year month day : ℕ) : Option CalendarDate :=
  if h : IsDate year month day then some ⟨year, month, day, h⟩ else none

/-- Every month has 28 days, and none has more than 31. -/
theorem daysInMonth_bounds (year month : ℕ) :
    28 ≤ daysInMonth year month ∧ daysInMonth year month ≤ 31 := by
  rw [daysInMonth]
  split_ifs <;> omega

/-- The weekday of the first of January, Monday being 0. -/
def newYearWeekday (year : ℕ) : ℕ :=
  let before := year - 1
  (before * 365 + before / 4 - before / 100 + before / 400) % 7

/-- A year of 53 weeks starts on a Thursday, or on a Wednesday and has 366 days. -/
def weeksInYear (year : ℕ) : ℕ :=
  if newYearWeekday year = 3 ∨ (newYearWeekday year = 2 ∧ isLeapYear year = true) then 53 else 52

/-- The date some days after the first of a month, the months being the rest of a year. -/
def dateAfter? (year : ℕ) : List ℕ → ℕ → Option CalendarDate
  | [], days => CalendarDate.ofParts? (year + 1) 1 (days + 1)
  | month :: months, days =>
    if days < daysInMonth year month then CalendarDate.ofParts? year month (days + 1)
    else dateAfter? year months (days - daysInMonth year month)

/-- The date of a day of a week: the first week of a year is that of its first Thursday. -/
def ofIsoWeek? (year week day : ℕ) : Option CalendarDate :=
  if 1 ≤ year ∧ 1 ≤ week ∧ week ≤ weeksInYear year ∧ 1 ≤ day ∧ day ≤ 7 then
    let firstMonday : ℤ :=
      if 3 < newYearWeekday year then 7 - newYearWeekday year else -newYearWeekday year
    let days : ℤ := firstMonday + ((week - 1) * 7 + (day - 1) : ℕ)
    if 0 ≤ days then dateAfter? year (List.range' 1 12) days.toNat
    else CalendarDate.ofParts? (year - 1) 12 (32 + days).toNat
  else none

/-- The number of the first `width` characters, which are digits, and what follows. -/
def readDigits (width : ℕ) (chars : List Char) : Option (ℕ × List Char) :=
  let digits := chars.take width
  if digits.length = width ∧ digits.all Char.isDigit then
    some (Json.ofDigits (digits.map fun c ↦ c.toNat - 48), chars.drop width)
  else none

def skipSeparator (separated : Bool) (chars : List Char) : Option (List Char) :=
  if separated then if chars.head? = some '-' then some chars.tail else none else some chars

/-- The date a text of a possible length starts with. -/
def readIsoDate (chars : List Char) : Option CalendarDate := do
  let (year, rest) ← readDigits 4 chars
  let separated := rest.head? = some '-'
  let rest := if separated then rest.tail else rest
  if rest.head? = some 'W' then do
    let (week, rest) ← readDigits 2 rest.tail
    if rest = [] then ofIsoWeek? year week 1
    else do
      let rest ← skipSeparator separated rest
      let (day, _) ← readDigits 1 rest
      ofIsoWeek? year week day
  else do
    let (month, rest) ← readDigits 2 rest
    let rest ← skipSeparator separated rest
    let (day, _) ← readDigits 2 rest
    CalendarDate.ofParts? year month day

/-- `date.fromisoformat`, nothing for a `ValueError`. -/
def fromIsoFormat? (text : String) : Option CalendarDate :=
  if text.utf8ByteSize ∈ [7, 8, 10] then readIsoDate text.toList else none

/-- A text whose first four characters are not all digits is not read. -/
theorem fromIsoFormat?_eq_none {text : String} {c : Char} (hc : c ∈ text.toList.take 4)
    (hdigit : c.isDigit = false) : fromIsoFormat? text = none := by
  have hread : readIsoDate text.toList = none := by
    have hall : ¬((text.toList.take 4).all Char.isDigit = true) := by
      rw [List.all_eq_true]
      intro hall
      rw [hall c hc] at hdigit
      cases hdigit
    rw [readIsoDate, readDigits]
    dsimp only
    rw [if_neg fun h ↦ hall h.2]
    rfl
  rw [fromIsoFormat?, hread, ite_self]

end SchemaPilot.Library
