import SchemaPilot.Library.DecimalText
import SchemaPilot.Workers.Parsing

/-!
# Dates that are read back

A date is written as its day, its month and its year, or with the month first. `parse_date` refuses texts
that are dates in both orders and reads the rest in the order of its flag, but a flag that is not set
counts as false: a day above twelve is found in the second place only (`dateResolved_iff`).
-/

namespace SchemaPilot.Workers.Parsing

open Library Library.Json Library.DecimalText SharedDomain

inductive DateOrder where
  | dayFirst
  | monthFirst
deriving DecidableEq

def DateOrder.other : DateOrder → DateOrder
  | dayFirst => monthFirst
  | monthFirst => dayFirst

/-- A number as it stands in a date, with leading zeros or without. -/
def writtenNumber (width : ℕ) (padded : Bool) (n : ℕ) : List Char :=
  List.replicate (if padded then width - (Nat.toDigits 10 n).length else 0) '0' ++ Nat.toDigits 10 n

/-- A date of the year 100 or later and the way it is written. -/
structure WrittenDate where
  date : CalendarDate
  year_ge : 100 ≤ date.year
  order : DateOrder
  /-- Slashes stand between the numbers, else hyphens. -/
  slashes : Bool
  padFirst : Bool
  padSecond : Bool
  padYear : Bool

namespace WrittenDate

variable (written : WrittenDate)

def first : ℕ :=
  match written.order with
  | .dayFirst => written.date.day
  | .monthFirst => written.date.month

def second : ℕ :=
  match written.order with
  | .dayFirst => written.date.month
  | .monthFirst => written.date.day

def separator : Char := if written.slashes then '/' else '-'

def text : String :=
  String.ofList (writtenNumber 2 written.padFirst written.first ++ written.separator ::
    (writtenNumber 2 written.padSecond written.second ++ written.separator ::
      writtenNumber 4 written.padYear written.date.year))

def reading? (order : DateOrder) : Option CalendarDate :=
  match order with
  | .dayFirst => CalendarDate.ofParts? written.date.year written.second written.first
  | .monthFirst => CalendarDate.ofParts? written.date.year written.first written.second

end WrittenDate

/-- The text of a date is resolved: it is read where the other order is no date, refused where the other
order is another date, and read in the order of the flag where one is set. -/
structure DateResolved (form : NormalForm) (written : WrittenDate) : Prop where
  unique : written.reading? written.order.other = none →
    parseDate form written.text none = .ok written.date
  ambiguous : ∀ other, written.reading? written.order.other = some other → other ≠ written.date →
    ∀ date, parseDate form written.text none ≠ .ok date
  flagged : ∀ order date, parseDate form written.text (some (order = .dayFirst)) = .ok date ↔
    written.reading? order = some date

theorem isDigit_of_mem_writtenNumber {width n : ℕ} {padded : Bool} {c : Char}
    (h : c ∈ writtenNumber width padded n) : c.isDigit = true := by
  rcases List.mem_append.mp h with h | h
  · rw [List.eq_of_mem_replicate h]
    rfl
  · exact isDigit_of_mem_toDigits h

theorem writtenNumber_ne_nil (width : ℕ) (padded : Bool) (n : ℕ) :
    writtenNumber width padded n ≠ [] :=
  List.append_ne_nil_of_right_ne_nil _ Nat.toDigits_ne_nil

theorem length_writtenNumber_le {width n : ℕ} (padded : Bool) (hwidth : 0 < width)
    (h : n < 10 ^ width) : (writtenNumber width padded n).length ≤ width := by
  have hdigits := (Nat.length_toDigits_le_iff (by decide) hwidth).mpr h
  rw [writtenNumber, List.length_append, List.length_replicate]
  split_ifs <;> omega

theorem toInt_writtenNumber {width n : ℕ} (padded : Bool) (hwidth : 0 < width) (hle : width ≤ 4)
    (h : n < 10 ^ width) : isDigitText (String.ofList (writtenNumber width padded n)) = true ∧
      toInt (.str (String.ofList (writtenNumber width padded n))) = .ok (n : ℤ) := by
  have hread : intOfString? (String.ofList (writtenNumber width padded n)) = some (n : ℤ) := by
    refine intOfString?_of_denotes ((denotes_toDigits n).zeros_append _)
      (fun _ ↦ isDigit_of_mem_writtenNumber) (writtenNumber_ne_nil width padded n) ?_
    exact (length_writtenNumber_le padded hwidth h).trans (hle.trans (by decide))
  constructor
  · rw [isDigitText, Bool.and_eq_true, List.all_eq_true, String.toList_ofList]
    refine ⟨by simp [writtenNumber_ne_nil], fun c hc ↦ ?_⟩
    obtain ⟨digit, hdigit, rfl⟩ := exists_digitChar (isDigit_of_mem_writtenNumber hc)
    rw [isDigitChar, digitValue?_digitChar hdigit]
    rfl
  · rw [toInt, hread]

theorem isDate_bounds {year month day : ℕ} (h : IsDate year month day) :
    month ≤ 12 ∧ day ≤ 31 :=
  ⟨h.month_le, h.day_le.trans (daysInMonth_bounds year month).2⟩

theorem ofParts?_eq_some {year month day : ℕ} {date : CalendarDate}
    (h : CalendarDate.ofParts? year month day = some date) : IsDate year month day := by
  rw [CalendarDate.ofParts?] at h
  split_ifs at h with hdate
  exact hdate

theorem date_eq_ok_iff {year month day : ℕ} (hyear : year < 2 ^ 31) (hmonth : month < 2 ^ 31)
    (hday : day < 2 ^ 31) {result : CalendarDate} :
    date year month day = .ok result ↔ CalendarDate.ofParts? year month day = some result := by
  have hfits : ∀ n : ℕ, n < 2 ^ 31 → cInt (n : ℤ) = .ok (n : ℤ) := by
    intro n hn
    rw [cInt, if_neg (by omega), if_neg (by omega), if_neg (by omega)]
  have hnone : ¬IsDate year month day → CalendarDate.ofParts? year month day ≠ some result :=
    fun hnot hsome ↦ hnot (ofParts?_eq_some hsome)
  rw [date, hfits year hyear, hfits month hmonth, hfits day hday, ok_bind, ok_bind, ok_bind]
  by_cases hyears : 1 ≤ (year : ℤ) ∧ (year : ℤ) ≤ 9999
  · rw [if_neg (not_not.mpr hyears)]
    by_cases hmonths : 1 ≤ (month : ℤ) ∧ (month : ℤ) ≤ 12
    · rw [if_neg (not_not.mpr hmonths), Int.toNat_natCast, Int.toNat_natCast, Int.toNat_natCast]
      cases CalendarDate.ofParts? year month day with
      | none => exact iff_of_false nofun nofun
      | some date => exact ⟨fun h ↦ congrArg some (Except.ok.inj h), fun h ↦
          congrArg Except.ok (Option.some_inj.mp h)⟩
    · rw [if_pos hmonths]
      refine iff_of_false nofun (hnone fun hdate ↦ hmonths ?_)
      exact ⟨by exact_mod_cast hdate.month_pos, by exact_mod_cast hdate.month_le⟩
  · rw [if_pos hyears]
    refine iff_of_false nofun (hnone fun hdate ↦ hyears ?_)
    exact ⟨by exact_mod_cast hdate.year_pos, by exact_mod_cast hdate.year_le⟩

section Text

variable (written : WrittenDate)

theorem first_le : written.first ≤ 31 ∧ written.second ≤ 31 := by
  have hbounds := isDate_bounds written.date.isDate
  rw [WrittenDate.first, WrittenDate.second]
  cases written.order with
  | dayFirst => exact ⟨hbounds.2, hbounds.1.trans (by decide)⟩
  | monthFirst => exact ⟨hbounds.1.trans (by decide), hbounds.2⟩

theorem separator_cases : written.separator = '/' ∨ written.separator = '-' := by
  rw [WrittenDate.separator]
  split_ifs
  · exact Or.inl rfl
  · exact Or.inr rfl

theorem mem_text {c : Char} (h : c ∈ written.text.toList) :
    c.isDigit = true ∨ c = written.separator := by
  rw [WrittenDate.text, String.toList_ofList, List.mem_append, List.mem_cons, List.mem_append,
    List.mem_cons] at h
  rcases h with h | h | h | h | h
  · exact Or.inl (isDigit_of_mem_writtenNumber h)
  · exact Or.inr h
  · exact Or.inl (isDigit_of_mem_writtenNumber h)
  · exact Or.inr h
  · exact Or.inl (isDigit_of_mem_writtenNumber h)

/-- The text is ASCII without blanks, so it is normalised already. -/
theorem normalizeText_text (form : NormalForm) :
    Profiler.normalizeText form.normalize written.text = written.text := by
  have hplain : ∀ c ∈ written.text.toList, c.toNat < 128 ∧ Text.isSpace c = false := by
    intro c hc
    rcases mem_text written hc with hdigit | rfl
    · obtain ⟨digit, hlt, rfl⟩ := exists_digitChar hdigit
      have hall : ∀ digit < 10, (Nat.digitChar digit).toNat < 128 ∧
          Text.isSpace (Nat.digitChar digit) = false := by decide
      exact hall digit hlt
    · rcases separator_cases written with hslash | hhyphen
      · rw [hslash]; decide
      · rw [hhyphen]; decide
  rw [Profiler.normalizeText, form.normalize_ascii fun c hc ↦ (hplain c hc).1, Text.strip,
    Text.stripChars_eq_self (fun c hc ↦ (hplain c (List.mem_of_mem_head? hc)).2)
      (fun c hc ↦ (hplain c (List.mem_of_mem_getLast? hc)).2), String.ofList_toList]

/-- The year does not come first, so the text is none of ISO 8601. -/
theorem fromIsoFormat?_text : fromIsoFormat? written.text = none := by
  have hlt : written.first < 10 ^ 2 := Nat.lt_of_le_of_lt (first_le written).1 (by decide)
  have hlength := length_writtenNumber_le written.padFirst Nat.two_pos hlt
  refine fromIsoFormat?_eq_none (c := written.separator) ?_ ?_
  · rw [WrittenDate.text, String.toList_ofList, List.take_append, List.mem_append]
    refine Or.inr ?_
    obtain ⟨more, hmore⟩ := Nat.exists_eq_add_of_le (Nat.sub_pos_of_lt
      (Nat.lt_of_le_of_lt hlength (by decide : 2 < 4)))
    rw [hmore, Nat.add_comm, List.take_succ_cons]
    exact List.mem_cons_self
  · rcases separator_cases written with hslash | hhyphen
    · rw [hslash]; rfl
    · rw [hhyphen]; rfl

theorem dateParts_text : dateParts written.text =
    [String.ofList (writtenNumber 2 written.padFirst written.first),
      String.ofList (writtenNumber 2 written.padSecond written.second),
      String.ofList (writtenNumber 4 written.padYear written.date.year)] := by
  have hnumber : ∀ width padded n, ∀ c ∈ writtenNumber width padded n,
      isDateSeparator c = false := by
    intro width padded n c hc
    obtain ⟨digit, hlt, rfl⟩ := exists_digitChar (isDigit_of_mem_writtenNumber hc)
    have hall : ∀ digit < 10, isDateSeparator (Nat.digitChar digit) = false := by decide
    exact hall digit hlt
  have hseparator : isDateSeparator written.separator = true := by
    rcases separator_cases written with hslash | hhyphen
    · rw [hslash]; rfl
    · rw [hhyphen]; rfl
  rw [dateParts, WrittenDate.text, String.toList_ofList,
    List.splitOnP_append_cons_of_forall_mem (hnumber _ _ _) _ hseparator,
    List.splitOnP_append_cons_of_forall_mem (hnumber _ _ _) _ hseparator,
    List.splitOnP_eq_singleton (hnumber _ _ _)]
  simp [writtenNumber_ne_nil]

/-- What `parse_date` makes of the text: a refusal where no flag is set and both numbers may be months,
else the date of the numbers in the order of the flag. -/
theorem parseDate_text (form : NormalForm) (flag : Option Bool) :
    parseDate form written.text flag =
      if flag = none ∧ written.first ≤ 12 ∧ written.second ≤ 12 then
        .error (.valueError "date_ambiguous")
      else if flag = some true then
        date written.date.year written.second written.first
      else date written.date.year written.first written.second := by
  obtain ⟨hfirst, hsecond⟩ := first_le written
  have hyear := written.date.isDate.year_le
  obtain ⟨hfirstText, hfirstInt⟩ := toInt_writtenNumber written.padFirst (n := written.first)
    Nat.two_pos (by decide) (by omega)
  obtain ⟨hsecondText, hsecondInt⟩ := toInt_writtenNumber written.padSecond (n := written.second)
    Nat.two_pos (by decide) (by omega)
  obtain ⟨hyearText, hyearInt⟩ := toInt_writtenNumber written.padYear (n := written.date.year)
    (by decide : 0 < 4) (le_refl 4) (by omega)
  have hcentury : ¬((written.date.year : ℤ) < 100) := by
    have hge := written.year_ge
    omega
  have hdigits : ¬¬[String.ofList (writtenNumber 2 written.padFirst written.first),
      String.ofList (writtenNumber 2 written.padSecond written.second),
      String.ofList (writtenNumber 4 written.padYear written.date.year)].all isDigitText = true := by
    rw [not_not, List.all_cons, List.all_cons, List.all_cons, hfirstText, hsecondText, hyearText]
    rfl
  rw [parseDate, normalizeText_text, fromIsoFormat?_text, dateParts_text]
  dsimp only
  rw [if_neg hdigits, hfirstInt, hsecondInt, hyearInt, ok_bind, ok_bind, ok_bind, if_neg hcentury]
  simp only [Nat.cast_le_ofNat]
  by_cases hflag : flag = some true
  · rw [if_pos hflag, if_pos hflag]
  · rw [if_neg hflag, if_neg hflag]

end Text

section Dates

variable {written : WrittenDate}

/-- The text is its date in its own order. -/
theorem reading?_order (written : WrittenDate) :
    written.reading? written.order = some written.date := by
  have hself : CalendarDate.ofParts? written.date.year written.date.month written.date.day =
      some written.date := by
    rw [CalendarDate.ofParts?, dif_pos written.date.isDate]
  unfold WrittenDate.reading? WrittenDate.first WrittenDate.second
  cases written.order with
  | dayFirst => exact hself
  | monthFirst => exact hself

/-- The other order is a date exactly when the day may be a month. -/
theorem reading?_other_eq_none_iff :
    written.reading? written.order.other = none ↔ 12 < written.date.day := by
  have hparts : written.reading? written.order.other =
      CalendarDate.ofParts? written.date.year written.date.day written.date.month := by
    unfold WrittenDate.reading? WrittenDate.first WrittenDate.second
    cases written.order with
    | dayFirst => rfl
    | monthFirst => rfl
  have hdate := written.date.isDate
  have hdays := daysInMonth_bounds written.date.year written.date.day
  rw [hparts, CalendarDate.ofParts?, dite_eq_right_iff]
  constructor
  · intro hnone
    by_contra hle
    have hmonth := hdate.month_le
    cases hnone ⟨hdate.year_pos, hdate.year_le, hdate.day_pos, Nat.le_of_not_lt hle,
      hdate.month_pos, by omega⟩
  · intro hlt hother
    exact absurd hother.month_le (Nat.not_le_of_lt hlt)

/-- Both numbers may be months exactly when the day may be. -/
theorem both_le_twelve_iff : written.first ≤ 12 ∧ written.second ≤ 12 ↔ written.date.day ≤ 12 := by
  have hmonth := written.date.isDate.month_le
  rw [WrittenDate.first, WrittenDate.second]
  cases written.order with
  | dayFirst => exact and_iff_left hmonth
  | monthFirst => exact and_iff_right hmonth

/-- Where a flag is set, the date is read in its order. -/
theorem parseDate_flagged (form : NormalForm) (order : DateOrder) (result : CalendarDate) :
    parseDate form written.text (some (order = .dayFirst)) = .ok result ↔
      written.reading? order = some result := by
  obtain ⟨hfirst, hsecond⟩ := first_le written
  have hyear := written.date.isDate.year_le
  rw [parseDate_text, if_neg nofun]
  cases order with
  | dayFirst => exact date_eq_ok_iff (by omega) (by omega) (by omega)
  | monthFirst => exact date_eq_ok_iff (by omega) (by omega) (by omega)

/-- Without a flag, the month is read first, if the day is none. -/
theorem parseDate_unflagged (form : NormalForm) (result : CalendarDate) :
    parseDate form written.text none = .ok result ↔
      12 < written.date.day ∧ written.reading? .monthFirst = some result := by
  rw [parseDate_text, if_neg (by decide : ¬none = some true)]
  by_cases hday : written.date.day ≤ 12
  · rw [if_pos ⟨rfl, both_le_twelve_iff.mpr hday⟩]
    exact iff_of_false nofun fun h ↦ absurd h.1 (Nat.not_lt_of_le hday)
  · obtain ⟨hfirst, hsecond⟩ := first_le written
    have hyear := written.date.isDate.year_le
    rw [if_neg fun h ↦ hday (both_le_twelve_iff.mp h.2), and_iff_right (Nat.lt_of_not_le hday)]
    exact date_eq_ok_iff (by omega) (by omega) (by omega)

/-- A date is resolved exactly when its day may be a month or stands in the second place. -/
theorem dateResolved_iff (form : NormalForm) (written : WrittenDate) :
    DateResolved form written ↔ written.date.day ≤ 12 ∨ written.order = .monthFirst := by
  constructor
  · intro hresolved
    by_contra hnot
    obtain ⟨hday, horder⟩ := not_or.mp hnot
    have hdayFirst : written.order = .dayFirst := by
      cases h : written.order with
      | dayFirst => rfl
      | monthFirst => exact absurd h horder
    have hother := reading?_other_eq_none_iff.mpr (Nat.lt_of_not_le hday)
    have hread := ((parseDate_unflagged form _).mp (hresolved.unique hother)).2
    rw [hdayFirst] at hother
    cases hother.symm.trans hread
  · intro h
    refine ⟨fun hother ↦ ?_, fun other hother _ date hok ↦ ?_, fun order date ↦
      parseDate_flagged form order date⟩
    · have hday := reading?_other_eq_none_iff.mp hother
      have horder := h.resolve_left (Nat.not_le_of_lt hday)
      exact (parseDate_unflagged form _).mpr ⟨hday, horder ▸ reading?_order written⟩
    · have hday := ((parseDate_unflagged form date).mp hok).1
      rw [reading?_other_eq_none_iff.mpr hday] at hother
      cases hother

/-- The last day of a year, the day first. -/
def lastOfYear : WrittenDate :=
  ⟨⟨2026, 12, 31, by decide⟩, by decide, .dayFirst, true, false, false, false⟩

example : lastOfYear.text = "31/12/2026" := by decide +kernel

/-- The last day of a year is not read with the day first. -/
theorem day_first_not_read : ¬DateResolved characterForm lastOfYear := by
  intro hresolved
  have hother : lastOfYear.reading? lastOfYear.order.other = none := by decide
  have hread := ((parseDate_unflagged characterForm _).mp (hresolved.unique hother)).2
  exact absurd hread (by decide)

end Dates

end SchemaPilot.Workers.Parsing
