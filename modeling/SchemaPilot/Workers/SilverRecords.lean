import SchemaPilot.Library.DigitRun
import SchemaPilot.Library.Except
import SchemaPilot.Library.FloatLiteral
import SchemaPilot.Library.JsonStandard
import SchemaPilot.Workers.Silver

/-!
# Normalised records

`_normalize_record` takes a text for an integer when `str.isdigit` accepts it and for a float when
`float` reads it. The first is more than `int` reads (digits that are not decimal, and texts of more than
4300 digits), and the second includes the words for a special float and numbers too large for one. So a
record is normalised to one that has a standard JSON text exactly when it holds no such text
(`normalizesWell_iff`); a record that is normalised stays as it is when it is normalised again.
-/

namespace SchemaPilot.Workers

open Library Library.Json SharedDomain

/-- A record of a source: a dictionary, which has no key twice. -/
structure SourceRecord where
  fields : Fields
  distinct : (fields.map Prod.fst).Nodup

variable {reader : FloatReader}

/-- The platform whose `float` reads the literals of Python. -/
def literalPlatform (sha256Hex : String → String) (rounding : FloatRounding reader) :
    SilverPlatform :=
  ⟨sha256Hex, rounding.parse⟩

/-- Normalisation of a record returns, the result has a standard JSON text from which it is read back,
and normalising the result again changes nothing. -/
def NormalizesWell (platform : SilverPlatform) (reader : FloatReader) (record : Fields) : Prop :=
  ∃ normalized, normalizeRecord platform record = .ok normalized ∧
    RoundTrips reader (.obj normalized) ∧ normalizeRecord platform normalized = .ok normalized

/-- What `str.isdigit` accepts is decimal digits that `int` reads, and what else `float` reads is a
number that a float can hold. -/
def ReadsWell (stripped : String) : Prop :=
  if isDigitText stripped then
    (∀ c ∈ stripped.toList, (digitValue? c).isSome = true) ∧ stripped.toList.length ≤ 4300
  else
    match floatLiteral? (pointsForCommas stripped) with
    | none => True
    | some (.decimal _ digits exponent) => ¬Overflows digits exponent
    | some _ => False

/-- A text that is read well, or another value that itself goes through a standard JSON text. -/
def Normalizable (reader : FloatReader) : Json → Prop
  | .str text => ReadsWell (Text.strip text)
  | value => RoundTrips reader value

theorem isNumberBlank_of_not_isSpace {c : Char} (h : Text.isSpace c = false) :
    isNumberBlank c = false := by
  rw [isNumberBlank, h, Bool.false_and]

/-- Stripped text has no blanks for `int` to pass over. -/
theorem stripNumber_strip (text : String) :
    stripNumber (Text.strip text).toList = (Text.strip text).toList := by
  rw [Text.toList_strip]
  have hdrop : (Text.stripChars text.toList).dropWhile isNumberBlank =
      Text.stripChars text.toList := by
    rw [List.dropWhile_eq_self_iff]
    intro hpos
    rw [isNumberBlank_of_not_isSpace (Text.head_stripChars
      (List.head?_eq_getElem? ▸ List.getElem?_eq_getElem hpos))]
    exact Bool.false_ne_true
  rw [stripNumber, hdrop, List.rdropWhile_eq_self_iff]
  intro hne
  rw [isNumberBlank_of_not_isSpace
    (Text.getLast_stripChars (List.getLast?_eq_some_getLast hne))]
  exact Bool.false_ne_true

theorem isDigitText_iff {text : String} : isDigitText text = true ↔
    text.toList ≠ [] ∧ ∀ c ∈ text.toList, isDigitChar c = true := by
  rw [isDigitText, Bool.and_eq_true, List.all_eq_true, Bool.not_eq_true', List.isEmpty_eq_false_iff]

/-- What `int` reads of a text of digits: decimal ones, up to 4300 of them. -/
theorem intOfString?_digitText {text : String} (h : isDigitText (Text.strip text) = true) :
    (∃ value : ℕ, intOfString? (Text.strip text) = some (value : ℤ) ∧
        value.repr.toList.length ≤ 4300 ∧
        (∀ c ∈ (Text.strip text).toList, (digitValue? c).isSome = true) ∧
        (Text.strip text).toList.length ≤ 4300) ∨
      (intOfString? (Text.strip text) = none ∧
        ¬((∀ c ∈ (Text.strip text).toList, (digitValue? c).isSome = true) ∧
          (Text.strip text).toList.length ≤ 4300)) := by
  rw [isDigitText_iff] at h
  unfold intOfString?
  rw [stripNumber_strip]
  dsimp only
  generalize (Text.strip text).toList = chars at h ⊢
  obtain ⟨hne, hdigits⟩ := h
  have hminus : isDigitChar '-' = false := by decide
  have hplus : isDigitChar '+' = false := by decide
  have hunderscore : isDigitChar '_' = false := by decide
  have hplain : '_' ∉ chars := fun hmem ↦ by
    rw [hdigits _ hmem] at hunderscore
    cases hunderscore
  split
  · rw [hdigits _ List.mem_cons_self] at hminus
    cases hminus
  · rw [hdigits _ List.mem_cons_self] at hplus
    cases hplus
  · by_cases hdecimal : ∀ c ∈ chars, (digitValue? c).isSome = true
    · obtain ⟨digits, hrun⟩ := exists_forall₂ fun c hc ↦
        Option.isSome_iff_exists.mp (hdecimal c hc)
      have hbound := ofDigits_lt (forall_mem_of_forall₂_digitValue? hrun).2
      rw [(digitRun?_eq_some_iff hplain).mpr ⟨hne, hrun⟩, Option.bind_some, ← hrun.length_eq]
      by_cases hlength : chars.length ≤ 4300
      · refine Or.inl ⟨ofDigits digits, ?_, ?_, hdecimal, hlength⟩
        · rw [if_pos hlength]
          rfl
        · rw [← hrun.length_eq] at hbound
          have hpos : 0 < chars.length := List.length_pos_iff.mpr hne
          exact ((Nat.length_repr_le_iff hpos).mpr hbound).trans hlength
      · refine Or.inr ⟨?_, fun hread ↦ hlength hread.2⟩
        rw [if_neg hlength]
        rfl
    · refine Or.inr ⟨?_, fun hread ↦ hdecimal hread.1⟩
      have hnone : digitRun? chars = none := by
        rw [Option.eq_none_iff_forall_ne_some]
        intro digits hrun
        exact hdecimal (forall_mem_of_forall₂_digitValue?
          ((digitRun?_eq_some_iff hplain).mp hrun).2).1
      rw [hnone]
      rfl

variable {sha256Hex : String → String} {rounding : FloatRounding reader}

/-- A number of up to 4300 digits has a standard text. -/
theorem roundTrips_int {value : ℕ} (h : value.repr.toList.length ≤ 4300) :
    RoundTrips reader (.int value) := by
  refine roundTrips_iff.mpr ⟨?_, h⟩
  rw [isStandard]
  exact decide_eq_true h

/-- The value of a literal has a standard text when the literal is a number a float can hold. -/
theorem roundTrips_round {literal : FloatLiteral} :
    RoundTrips reader (rounding.round literal) ↔
      match literal with
      | .decimal _ digits exponent => ¬Overflows digits exponent
      | _ => False := by
  rw [roundTrips_iff]
  cases literal with
  | nan => exact iff_of_false (fun h ↦ Bool.false_ne_true h.1) id
  | infinity negative => exact iff_of_false (fun h ↦ Bool.false_ne_true h.1) id
  | decimal negative digits exponent =>
    rw [FloatRounding.round]
    by_cases h : Overflows digits exponent
    · rw [if_pos h]
      exact iff_of_false (fun hstandard ↦ Bool.false_ne_true hstandard.1) fun hnot ↦ hnot h
    · rw [if_neg h]
      refine iff_of_true ⟨rfl, ?_⟩ h
      exact ⟨rounding.isFloatLiteral_nearest negative digits exponent,
        rounding.read_nearest negative digits exponent⟩

theorem normalizeValue_of_not_digits {text : String} (h : isDigitText (Text.strip text) = false) :
    normalizeValue (literalPlatform sha256Hex rounding) (.str text) =
      .ok (((floatLiteral? (pointsForCommas (Text.strip text))).map rounding.round).getD
        (.str (Text.strip text))) := by
  unfold normalizeValue literalPlatform FloatRounding.parse
  dsimp only
  rw [if_neg (ne_true_of_eq_false h)]

/-- A value is normalised to one that has a standard text exactly when it is read well. -/
theorem normalizeValue_iff {value : Json} :
    (∃ result, normalizeValue (literalPlatform sha256Hex rounding) value = .ok result ∧
      RoundTrips reader result) ↔ Normalizable reader value := by
  have hother : ∀ result : Json, (∃ result', (Except.ok result : Except Exn Json) = .ok result' ∧
      RoundTrips reader result') ↔ RoundTrips reader result := by
    intro result
    constructor
    · rintro ⟨result', hresult, hround⟩
      cases hresult
      exact hround
    · exact fun hround ↦ ⟨result, rfl, hround⟩
  cases value with
  | str text =>
    rw [Normalizable, ReadsWell]
    by_cases hdigits : isDigitText (Text.strip text) = true
    · rw [if_pos hdigits, normalizeValue, if_pos hdigits, toInt]
      rcases intOfString?_digitText hdigits with ⟨value, hvalue, hbound, hread⟩ | ⟨hnone, hread⟩
      · rw [hvalue]
        exact iff_of_true ⟨.int value, rfl, roundTrips_int hbound⟩ hread
      · rw [hnone]
        refine iff_of_false ?_ hread
        rintro ⟨result, hresult, -⟩
        cases hresult
    · rw [if_neg hdigits, normalizeValue_of_not_digits (eq_false_of_ne_true hdigits), hother]
      cases hliteral : floatLiteral? (pointsForCommas (Text.strip text)) with
      | none => exact iff_of_true (roundTrips_iff.mpr ⟨rfl, trivial⟩) trivial
      | some literal =>
        rw [Option.map_some, Option.getD_some, roundTrips_round]
        cases literal <;> rfl
  | _ => exact hother _

/-- A float is no text and stays as it is. -/
theorem normalizeValue_round (literal : FloatLiteral) :
    normalizeValue (literalPlatform sha256Hex rounding) (rounding.round literal) =
      .ok (rounding.round literal) := by
  cases literal with
  | decimal negative digits exponent =>
    rw [FloatRounding.round]
    split_ifs <;> rfl
  | _ => rfl

/-- What a value is normalised to stays as it is. -/
theorem normalizeValue_normalizeValue {value result : Json}
    (h : normalizeValue (literalPlatform sha256Hex rounding) value = .ok result) :
    normalizeValue (literalPlatform sha256Hex rounding) result = .ok result := by
  cases value with
  | str text =>
    by_cases hdigits : isDigitText (Text.strip text) = true
    · rw [normalizeValue, if_pos hdigits] at h
      obtain ⟨number, -, hresult⟩ := (bind_eq_ok_iff _ _ _).mp h
      cases hresult
      rfl
    · have hplain := eq_false_of_ne_true hdigits
      rw [normalizeValue_of_not_digits hplain, Except.ok.injEq] at h
      cases hliteral : floatLiteral? (pointsForCommas (Text.strip text)) with
      | none =>
        rw [hliteral, Option.map_none, Option.getD_none] at h
        rw [← h, normalizeValue_of_not_digits (by rw [Text.strip_strip, hplain]), Text.strip_strip,
          hliteral, Option.map_none, Option.getD_none]
      | some literal =>
        rw [hliteral, Option.map_some, Option.getD_some] at h
        rw [← h]
        exact normalizeValue_round literal
  | _ =>
    cases h
    rfl

theorem normalizeRecord_eq_ok_iff {platform : SilverPlatform} {record normalized : Fields} :
    normalizeRecord platform record = .ok normalized ↔
      List.Forall₂ (fun field result ↦ field.1 = result.1 ∧
        normalizeValue platform field.2 = .ok result.2) record normalized := by
  rw [normalizeRecord, mapM_eq_ok_iff]
  have hfield : ∀ field result : String × Json,
      ((do
        let value ← normalizeValue platform field.2
        return (field.1, value) : Except Exn (String × Json)) = .ok result) ↔
      field.1 = result.1 ∧ normalizeValue platform field.2 = .ok result.2 := by
    intro field result
    rw [bind_eq_ok_iff]
    constructor
    · rintro ⟨value, hvalue, hresult⟩
      cases hresult
      exact ⟨rfl, hvalue⟩
    · rintro ⟨hkey, hvalue⟩
      refine ⟨result.2, hvalue, ?_⟩
      rw [hkey]
      rfl
  simp only [hfield]

/-- Normalisation keeps the keys of a record. -/
theorem keys_normalizeRecord {platform : SilverPlatform} {record normalized : Fields}
    (h : normalizeRecord platform record = .ok normalized) :
    normalized.map Prod.fst = record.map Prod.fst := by
  have hfields := normalizeRecord_eq_ok_iff.mp h
  clear h
  induction hfields with
  | nil => rfl
  | cons hfield _ ih => rw [List.map_cons, List.map_cons, ih, hfield.1]

/-- A dictionary goes through a standard text when each of its values does. -/
theorem roundTrips_obj {fields : Fields} (h : (fields.map Prod.fst).Nodup) :
    RoundTrips reader (.obj fields) ↔ ∀ field ∈ fields, RoundTrips reader field.2 := by
  have hobj : RoundTrips reader (.obj fields) ↔ isStandardFields fields = true ∧
      ((fields.map Prod.fst).Nodup ∧ RegularFields reader fields) := roundTrips_iff
  rw [hobj, isStandardFields_iff, regularFields_iff]
  simp only [roundTrips_iff]
  constructor
  · rintro ⟨hstandard, -, hregular⟩ field hfield
    exact ⟨hstandard field hfield, hregular field hfield⟩
  · intro hall
    exact ⟨fun field hfield ↦ (hall field hfield).1, h, fun field hfield ↦ (hall field hfield).2⟩

/-- A normalised record stays as it is when it is normalised again. -/
theorem normalizeRecord_normalizeRecord {record normalized : Fields}
    (h : normalizeRecord (literalPlatform sha256Hex rounding) record = .ok normalized) :
    normalizeRecord (literalPlatform sha256Hex rounding) normalized = .ok normalized := by
  rw [normalizeRecord_eq_ok_iff] at h ⊢
  induction h with
  | nil => exact List.Forall₂.nil
  | cons hfield _ ih =>
    exact List.Forall₂.cons ⟨rfl, normalizeValue_normalizeValue hfield.2⟩ ih

/-- A record whose values are all read well is normalised to values with a standard text. -/
theorem exists_normalized (sha256Hex : String → String) (rounding : FloatRounding reader)
    {record : Fields} (h : ∀ field ∈ record, Normalizable reader field.2) : ∃ normalized,
      normalizeRecord (literalPlatform sha256Hex rounding) record = .ok normalized ∧
        ∀ field ∈ normalized, RoundTrips reader field.2 := by
  simp only [normalizeRecord_eq_ok_iff]
  induction record with
  | nil => exact ⟨[], List.Forall₂.nil, fun _ hfield ↦ absurd hfield List.not_mem_nil⟩
  | cons field rest ih =>
    rw [List.forall_mem_cons] at h
    obtain ⟨result, hresult, hround⟩ := normalizeValue_iff.mpr h.1
    obtain ⟨others, hothers, hrounds⟩ := ih h.2
    exact ⟨(field.1, result) :: others, List.Forall₂.cons ⟨rfl, hresult⟩ hothers,
      List.forall_mem_cons.mpr ⟨hround, hrounds⟩⟩

/-- Every literal rounded to one float, which its text is read as. -/
def zeroReader : FloatReader where
  read _ := .float ⟨"0.0", isFloatText_zero⟩
  stable _ _ := Or.inr ⟨⟨"0.0", isFloatText_zero⟩, rfl, by decide, rfl⟩

theorem isFloatLiteral_zero (_ : Bool) (_ : ℕ) (_ : ℤ) : isFloatLiteral "0.0".toList = true := by decide

def zeroRounding : FloatRounding zeroReader where
  nearest _ _ _ := ⟨"0.0", isFloatText_zero⟩
  isFloatLiteral_nearest := isFloatLiteral_zero
  read_nearest _ _ _ := rfl

/-- Normalisation of a record is safe and idempotent exactly when each of its texts is read well and each
of its other values has a standard text. -/
theorem normalizesWell_iff (sha256Hex : String → String) (rounding : FloatRounding reader)
    (record : SourceRecord) :
    NormalizesWell (literalPlatform sha256Hex rounding) reader record.fields ↔
      ∀ field ∈ record.fields, Normalizable reader field.2 := by
  constructor
  · rintro ⟨normalized, hnormalized, hround, -⟩
    have hdistinct : (normalized.map Prod.fst).Nodup := by
      rw [keys_normalizeRecord hnormalized]
      exact record.distinct
    rw [roundTrips_obj hdistinct] at hround
    have hfields := normalizeRecord_eq_ok_iff.mp hnormalized
    intro field hfield
    obtain ⟨result, hresult, -, hvalue⟩ := exists_mem_of_forall₂ hfields hfield
    exact normalizeValue_iff.mp ⟨result.2, hvalue, hround result hresult⟩
  · intro h
    obtain ⟨normalized, hnormalized, hrounds⟩ := exists_normalized sha256Hex rounding h
    refine ⟨normalized, hnormalized, (roundTrips_obj ?_).mpr hrounds,
      normalizeRecord_normalizeRecord hnormalized⟩
    rw [keys_normalizeRecord hnormalized]
    exact record.distinct

/-- A text of digits that are not decimal makes `int` raise. -/
theorem superscript_not_normalized : ¬NormalizesWell (literalPlatform id zeroRounding) zeroReader
    [("surface_m", .str "²")] := by
  rintro ⟨normalized, hnormalized, -⟩
  have hnone : (normalizeRecord (literalPlatform id zeroRounding)
      [("surface_m", .str "²")]).toOption = none := by decide +kernel
  rw [hnormalized] at hnone
  cases hnone

end SchemaPilot.Workers
