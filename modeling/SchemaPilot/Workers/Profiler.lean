import Mathlib.Algebra.Field.Rat
import SchemaPilot.Library.Csv
import SchemaPilot.Library.Except
import SchemaPilot.Library.Text
import SchemaPilot.Library.TextCipher

/-!
# Profiling CSV files

`profile_csv_file` opens a file with the first encoding that its header can be read in
(`open_csv_reader_with_fallback`) and samples its rows; `_read_csv_column_samples` samples the rows of
the same file for the PII scan, always as UTF-8. Both run the same loop over a `csv.DictReader`
(`forRows`), which asks for one row more than it samples.

Rates are the exact quotients. `unicodedata.normalize("NFKC", ..)` is a parameter.
-/

namespace SchemaPilot.Workers.Profiler

open Library Library.Csv Library.TextDecoding

/-- A file: its path, and its content in the blocks that reading it returns. -/
structure CsvFile where
  path : String
  blocks : List (List UInt8)

inductive CsvFileError where
  | read (error : ReadError)
  | valueError (message : String)
  deriving DecidableEq

def rowsIn (encoding : Encoding) (file : CsvFile) : Delivery ReadError (List String) :=
  rows (readLines encoding file.blocks)

/-- The reader of a file opened with an encoding, once its field names have been touched. -/
def openedWith (file : CsvFile) (encoding : Encoding) : Except ReadError DictReader :=
  dictReader (rowsIn encoding file)

/-- `encodings`. -/
def encodings : List Encoding := [.utf8, .utf8Sig, .latin1]

/-- What `open_csv_reader_with_fallback` returns. -/
structure OpenedCsv where
  encoding : Encoding
  reader : DictReader
  deriving DecidableEq

/-- The loop of `open_csv_reader_with_fallback`. -/
def tryEncodings (file : CsvFile) : List Encoding → Except CsvFileError OpenedCsv
  | [] => .error (.valueError ("encoding_unreadable:" ++ file.path))
  | encoding :: rest =>
    match openedWith file encoding with
    | .ok reader => .ok ⟨encoding, reader⟩
    | .error .undecodable => tryEncodings file rest
    | .error error => .error (.read error)

def openCsvReaderWithFallback (file : CsvFile) : Except CsvFileError OpenedCsv :=
  tryEncodings file encodings

/-- The bytes that must be read for the first record are refused. -/
def HeaderBreaks (encoding : Encoding) (file : CsvFile) : Prop :=
  (rowsIn encoding file).items = [] ∧ (rowsIn encoding file).failure = some .undecodable

instance (encoding : Encoding) (file : CsvFile) : Decidable (HeaderBreaks encoding file) :=
  inferInstanceAs (Decidable (_ ∧ _))

/-- Touching the field names raises a decoding error where the first record cannot be read. -/
theorem openedWith_eq_undecodable_iff {file : CsvFile} {encoding : Encoding} :
    openedWith file encoding = .error .undecodable ↔ HeaderBreaks encoding file :=
  dictReader_eq_error_iff

/-- The header can always be read as Latin-1. -/
theorem not_headerBreaks_latin1 (file : CsvFile) : ¬HeaderBreaks .latin1 file := by
  intro h
  have hlines := failure_rowsFrom h.2
  rw [readLines_latin1_failure] at hlines
  cases hlines

theorem tryEncodings_of_breaks {file : CsvFile} {before : List Encoding} {encoding : Encoding}
    (hbefore : ∀ other ∈ before, HeaderBreaks other file) (hbreaks : ¬HeaderBreaks encoding file)
    (after : List Encoding) :
    tryEncodings file (before ++ encoding :: after) =
      match openedWith file encoding with
      | .ok reader => .ok ⟨encoding, reader⟩
      | .error error => .error (.read error) := by
  induction before with
  | nil =>
    rw [List.nil_append, tryEncodings]
    rcases hopened : openedWith file encoding with error | reader
    · cases error with
      | malformed message => rfl
      | undecodable => exact absurd (openedWith_eq_undecodable_iff.mp hopened) hbreaks
    · rfl
  | cons other before ih =>
    rw [List.cons_append, tryEncodings,
      openedWith_eq_undecodable_iff.mpr (hbefore other List.mem_cons_self)]
    exact ih fun next hnext ↦ hbefore next (List.mem_cons_of_mem _ hnext)

section Loop

variable {ε α σ : Type}

/-- `for row in reader: if row_count >= sample_limit: break; row_count += 1; ...`, with the rows still to
come and the exception behind them. -/
def forRows (limit : ℤ) (body : σ → α → σ) (failure : Option ε) :
    ℕ → σ → List α → Except ε (ℕ × σ)
  | count, state, [] =>
    match failure with
    | some error => .error error
    | none => .ok (count, state)
  | count, state, row :: rows =>
    if limit ≤ count then .ok (count, state)
    else forRows limit body failure (count + 1) (body state row) rows

/-- The loop folds over the rows within the limit. Where these are all the rows, it meets the exception
behind them. -/
theorem forRows_eq (limit : ℤ) (body : σ → α → σ) (failure : Option ε) (count : ℕ) (state : σ)
    (rows : List α) :
    forRows limit body failure count state rows =
      match failure with
      | some error =>
        if rows.length ≤ (limit - count).toNat then .error error
        else
          .ok (count + (rows.take (limit - count).toNat).length,
            (rows.take (limit - count).toNat).foldl body state)
      | none =>
        .ok (count + (rows.take (limit - count).toNat).length,
          (rows.take (limit - count).toNat).foldl body state) := by
  induction rows generalizing count state with
  | nil => cases failure <;> simp [forRows]
  | cons row rows ih =>
    rw [forRows]
    by_cases hlimit : limit ≤ count
    · rw [if_pos hlimit, show (limit - count).toNat = 0 by omega]
      cases failure <;> simp
    · have hleft : (limit - count).toNat = (limit - (count + 1 : ℕ)).toNat + 1 := by omega
      rw [if_neg hlimit, ih, hleft]
      cases failure with
      | some error =>
        simp only [List.length_cons, Nat.add_le_add_iff_right, List.take_succ_cons, List.foldl_cons]
        split
        · rfl
        · rw [Nat.add_assoc, Nat.add_comm 1]
      | none =>
        simp only [List.take_succ_cons, List.length_cons, List.foldl_cons]
        rw [Nat.add_assoc, Nat.add_comm 1]

/-- Asking for some of the items and one more meets no exception. -/
def Reaches (failure : Option ε) (rows : List α) (limit : ℤ) : Prop :=
  failure = none ∨ limit.toNat < rows.length

theorem forRows_of_reaches {failure : Option ε} {rows : List α} {limit : ℤ}
    (h : Reaches failure rows limit) (body : σ → α → σ) (state : σ) :
    forRows limit body failure 0 state rows =
      .ok ((rows.take limit.toNat).length, (rows.take limit.toNat).foldl body state) := by
  rw [forRows_eq]
  simp only [Nat.cast_zero, sub_zero, zero_add]
  cases failure with
  | none => rfl
  | some error =>
    have hlonger : limit.toNat < rows.length := h.resolve_left (by simp)
    exact if_neg (Nat.not_le.mpr hlonger)

theorem forRows_of_not_reaches {failure : Option ε} {rows : List α} {limit : ℤ}
    (h : ¬Reaches failure rows limit) (body : σ → α → σ) (state : σ) :
    ∃ error, failure = some error ∧ forRows limit body failure 0 state rows = .error error := by
  rw [Reaches, not_or, not_lt] at h
  obtain ⟨error, rfl⟩ := Option.ne_none_iff_exists'.mp h.1
  refine ⟨error, rfl, ?_⟩
  rw [forRows_eq]
  simp only [Nat.cast_zero, sub_zero]
  exact if_pos h.2

theorem reaches_of_forRows {failure : Option ε} {rows : List α} {limit : ℤ} {body : σ → α → σ}
    {state : σ} {result : ℕ × σ} (h : forRows limit body failure 0 state rows = .ok result) :
    Reaches failure rows limit ∧
      result = ((rows.take limit.toNat).length, (rows.take limit.toNat).foldl body state) := by
  by_cases hreaches : Reaches failure rows limit
  · rw [forRows_of_reaches hreaches] at h
    exact ⟨hreaches, (Except.ok.inj h).symm⟩
  · obtain ⟨error, -, herror⟩ := forRows_of_not_reaches hreaches body state
    rw [herror] at h
    cases h

end Loop

/-- `dict[str, ..]`. -/
abbrev Dict (β : Type) : Type := AList fun _ : String ↦ β

/-- `{column: value for column in columns}`. -/
def Dict.ofColumns {β : Type} (columns : List String) (value : String → β) : Dict β :=
  columns.foldl (fun dict column ↦ dict.insert column (value column)) ∅

/-- What the loop of `profile_csv_file` counts. -/
structure Tally where
  nullCounts : Dict ℕ
  uniqueValues : Dict (Finset String)
  parseErrors : ℕ

def Tally.initial (columns : List String) : Tally :=
  { nullCounts := Dict.ofColumns columns fun _ ↦ 0
    uniqueValues := Dict.ofColumns columns fun _ ↦ ∅
    parseErrors := 0 }

/-- `row.get(column) or ""`. -/
def cellText (row : DictRow) (column : String) : String := (row.cells.lookup column).join.getD ""

variable (nfkc : String → String)

/-- `normalize_text`. -/
def normalizeText (value : String) : String := Text.strip (nfkc value)

/-- The body of the loop over the columns of a row. -/
def profileCell (row : DictRow) (tally : Tally) (column : String) : Tally :=
  let value := normalizeText nfkc (cellText row column)
  { tally with
    nullCounts :=
      if value = "" then
        tally.nullCounts.insert column ((tally.nullCounts.lookup column).getD 0 + 1)
      else tally.nullCounts
    uniqueValues :=
      tally.uniqueValues.insert column
        (insert value ((tally.uniqueValues.lookup column).getD ∅)) }

def profileRow (columns : List String) (tally : Tally) (row : DictRow) : Tally :=
  let seen := columns.foldl (profileCell nfkc row) tally
  if row.length ≠ columns.length then { seen with parseErrors := seen.parseErrors + 1 } else seen

structure ProfileEvidence where
  schemaColumns : List String
  rowCountSampled : ℕ
  nullRates : Dict ℚ
  uniqueRatio : Dict ℚ
  parseErrorRate : ℚ

/-- `count / row_count if row_count else 0.0`. -/
def rate (count rowCount : ℕ) : ℚ := if rowCount = 0 then 0 else (count : ℚ) / rowCount

/-- The loop of `profile_csv_file`, and the rates behind it. -/
def profileReader (reader : DictReader) (sampleLimit : ℤ) : Except ReadError ProfileEvidence :=
  let columns := reader.columns
  let delivered := reader.iterate
  (forRows sampleLimit (profileRow nfkc columns) delivered.failure 0 (Tally.initial columns)
    delivered.items).map fun counted ↦
      let rowCount := counted.1
      let tally := counted.2
      { schemaColumns := columns
        rowCountSampled := rowCount
        nullRates := Dict.ofColumns columns fun column ↦
          rate ((tally.nullCounts.lookup column).getD 0) rowCount
        uniqueRatio := Dict.ofColumns columns fun column ↦
          rate ((tally.uniqueValues.lookup column).getD ∅).card rowCount
        parseErrorRate := rate tally.parseErrors rowCount }

def profileCsvFile (file : CsvFile) (sampleLimit : ℤ) : Except CsvFileError ProfileEvidence :=
  match openCsvReaderWithFallback file with
  | .error error => .error error
  | .ok opened => (profileReader nfkc opened.reader sampleLimit).mapError .read

/-- The body of the loop of `_read_csv_column_samples`. -/
def sampleRow (columns : List String) (samples : Dict (List String)) (row : DictRow) :
    Dict (List String) :=
  columns.foldl
    (fun samples column ↦
      let value := Text.strip (cellText row column)
      if value = "" then samples
      else samples.insert column ((samples.lookup column).getD [] ++ [value])) samples

/-- `_read_csv_column_samples`. -/
def readCsvColumnSamples (file : CsvFile) (sampleLimit : ℤ) :
    Except ReadError (Dict (List String)) :=
  match openedWith file .utf8 with
  | .error error => .error error
  | .ok reader =>
    let columns := reader.columns
    let delivered := reader.iterate
    (forRows sampleLimit (sampleRow columns) delivered.failure 0 (Dict.ofColumns columns fun _ ↦ [])
      delivered.items).map Prod.snd

/-- A profile is made of the rows within the limit. -/
theorem profileReader_eq_ok {reader : DictReader} {sampleLimit : ℤ} {evidence : ProfileEvidence}
    (h : profileReader nfkc reader sampleLimit = .ok evidence) :
    Reaches reader.iterate.failure reader.iterate.items sampleLimit ∧
      evidence.schemaColumns = reader.columns ∧
      evidence.rowCountSampled = (reader.iterate.items.take sampleLimit.toNat).length ∧
      evidence.parseErrorRate =
        rate ((reader.iterate.items.take sampleLimit.toNat).foldl (profileRow nfkc reader.columns)
          (Tally.initial reader.columns)).parseErrors evidence.rowCountSampled := by
  obtain ⟨counted, hcounted, hevidence⟩ := map_eq_ok_iff.mp h
  obtain ⟨hreaches, hresult⟩ := reaches_of_forRows hcounted
  rw [hresult] at hevidence
  rw [← hevidence]
  exact ⟨hreaches, rfl, rfl, rfl⟩

/-- Profiling raises what the rows it asks for end with. -/
theorem profileReader_eq_error_iff {reader : DictReader} {sampleLimit : ℤ} {error : ReadError} :
    profileReader nfkc reader sampleLimit = .error error ↔
      reader.rest.failure = some error ∧ reader.records.length ≤ sampleLimit.toNat := by
  have hlength : reader.iterate.items.length = reader.records.length := List.length_map _
  refine Iff.trans map_eq_error_iff ?_
  by_cases hreaches : Reaches reader.iterate.failure reader.iterate.items sampleLimit
  · rw [forRows_of_reaches hreaches]
    refine ⟨fun h ↦ (by cases h), fun ⟨hfailure, hshort⟩ ↦ ?_⟩
    rcases hreaches with hnone | hlonger
    · rw [DictReader.iterate, hfailure] at hnone
      cases hnone
    · omega
  · obtain ⟨other, hother, hloop⟩ := forRows_of_not_reaches hreaches
      (profileRow nfkc reader.columns) (Tally.initial reader.columns)
    rw [Reaches, not_or, not_lt, hlength] at hreaches
    change reader.rest.failure = some other at hother
    rw [hloop, hother, Except.error.injEq, Option.some.injEq]
    exact ⟨fun h ↦ ⟨h, hreaches.2⟩, fun h ↦ h.1⟩

theorem profileReader_of_profileCsvFile {file : CsvFile} {sampleLimit : ℤ} {opened : OpenedCsv}
    {evidence : ProfileEvidence} (hopen : openCsvReaderWithFallback file = .ok opened)
    (h : profileCsvFile nfkc file sampleLimit = .ok evidence) :
    profileReader nfkc opened.reader sampleLimit = .ok evidence := by
  rw [profileCsvFile, hopen] at h
  exact mapError_eq_ok_iff.mp h

theorem parseErrors_profileCells (row : DictRow) (columns : List String) (tally : Tally) :
    (columns.foldl (profileCell nfkc row) tally).parseErrors = tally.parseErrors := by
  induction columns generalizing tally with
  | nil => rfl
  | cons column columns ih =>
    rw [List.foldl_cons, ih]
    rfl

/-- The rows whose dictionary has another size than the header are counted. -/
theorem parseErrors_profileRows (columns : List String) (rows : List DictRow) (tally : Tally) :
    (rows.foldl (profileRow nfkc columns) tally).parseErrors =
      tally.parseErrors + rows.countP fun row ↦ row.length ≠ columns.length := by
  induction rows generalizing tally with
  | nil => rfl
  | cons row rows ih =>
    rw [List.foldl_cons, ih, List.countP_cons, profileRow]
    by_cases hlength : row.length = columns.length
    · simp [hlength, parseErrors_profileCells]
    · simp [hlength, parseErrors_profileCells]
      omega

/-- The records that are sampled: the first ones that are not blank. -/
def sampledRecords (reader : DictReader) (sampleLimit : ℤ) : List (List String) :=
  reader.records.take sampleLimit.toNat

/-- The sampled records with another number of fields than the header. -/
def misshapen (reader : DictReader) (sampleLimit : ℤ) : ℕ :=
  (sampledRecords reader sampleLimit).countP fun record ↦ record.length ≠ reader.columns.length

theorem parseErrorRate_mul {file : CsvFile} {sampleLimit : ℤ} {opened : OpenedCsv}
    {evidence : ProfileEvidence} (hopen : openCsvReaderWithFallback file = .ok opened)
    (h : profileCsvFile nfkc file sampleLimit = .ok evidence) :
    evidence.parseErrorRate * evidence.rowCountSampled =
      ((sampledRecords opened.reader sampleLimit).countP fun record ↦
        opened.reader.columns.dedup.length +
            (if opened.reader.columns.length < record.length then 1 else 0) ≠
          opened.reader.columns.length : ℕ) := by
  obtain ⟨-, -, hcount, hrate⟩ := profileReader_eq_ok nfkc (profileReader_of_profileCsvFile nfkc hopen h)
  have herrors : ((opened.reader.iterate.items.take sampleLimit.toNat).foldl
      (profileRow nfkc opened.reader.columns) (Tally.initial opened.reader.columns)).parseErrors =
      (sampledRecords opened.reader sampleLimit).countP fun record ↦
        opened.reader.columns.dedup.length +
            (if opened.reader.columns.length < record.length then 1 else 0) ≠
          opened.reader.columns.length := by
    rw [parseErrors_profileRows, Tally.initial, Nat.zero_add, DictReader.iterate,
      ← List.map_take, List.countP_map, sampledRecords]
    refine List.countP_congr fun record _ ↦ ?_
    rw [Function.comp_apply, length_dictRow]
  rw [hrate, herrors, rate]
  split
  · next hnone =>
    have hempty : sampledRecords opened.reader sampleLimit = [] := by
      rw [hnone, DictReader.iterate, ← List.map_take, List.length_map] at hcount
      exact List.eq_nil_of_length_eq_zero hcount.symm
    rw [hempty]
    simp
  · next hsome => exact div_mul_cancel₀ _ (Nat.cast_ne_zero.mpr hsome)

/-- The records of some length relative to the header. -/
def ofLength (reader : DictReader) (sampleLimit : ℤ) (ordering : Ordering) : ℕ :=
  (sampledRecords reader sampleLimit).countP fun record ↦
    compare record.length reader.columns.length = ordering

/-- With distinct names no record may be too short; with one name repeated once the records of the
right length must be as many as the ones too long; with more repetitions there must be none of the right
length. -/
def CountsAgree (reader : DictReader) (sampleLimit : ℤ) : Prop :=
  (reader.columns.Nodup ∧ ofLength reader sampleLimit .lt = 0) ∨
    (reader.columns.dedup.length + 1 = reader.columns.length ∧
      ofLength reader sampleLimit .eq = ofLength reader sampleLimit .gt) ∨
    (reader.columns.dedup.length + 1 < reader.columns.length ∧ ofLength reader sampleLimit .eq = 0)

/-- A record is too short, of the right length or too long. -/
theorem misshapen_eq (reader : DictReader) (sampleLimit : ℤ) :
    misshapen reader sampleLimit =
      ofLength reader sampleLimit .lt + ofLength reader sampleLimit .gt := by
  unfold misshapen ofLength
  induction sampledRecords reader sampleLimit with
  | nil => rfl
  | cons record records ih =>
    simp only [List.countP_cons, decide_eq_true_eq, Nat.compare_eq_lt, Nat.compare_eq_gt] at ih ⊢
    rcases lt_trichotomy record.length reader.columns.length with hlt | heq | hgt
    · rw [ih, if_pos hlt.ne, if_pos hlt, if_neg hlt.not_gt]
      omega
    · rw [ih, heq]
      simp
    · rw [ih, if_pos hgt.ne', if_neg hgt.not_gt, if_pos hgt]
      omega

theorem ofLength_total (reader : DictReader) (sampleLimit : ℤ) :
    (sampledRecords reader sampleLimit).length =
      misshapen reader sampleLimit + ofLength reader sampleLimit .eq := by
  rw [misshapen, List.length_eq_countP_add_countP (fun record ↦
    decide (record.length ≠ reader.columns.length)) (l := sampledRecords reader sampleLimit), ofLength]
  congr 1
  refine List.countP_congr fun record _ ↦ ?_
  simp

/-- The records counted as parse errors are the misshapen ones exactly where the counts agree. -/
theorem countP_eq_misshapen_iff (reader : DictReader) (sampleLimit : ℤ) :
    ((sampledRecords reader sampleLimit).countP fun record ↦
        reader.columns.dedup.length + (if reader.columns.length < record.length then 1 else 0) ≠
          reader.columns.length) = misshapen reader sampleLimit ↔
      CountsAgree reader sampleLimit := by
  have hnodup : reader.columns.Nodup ↔ reader.columns.dedup.length = reader.columns.length := by
    rw [← List.dedup_eq_self]
    exact ⟨fun h ↦ by rw [h], fun h ↦ (List.dedup_sublist _).eq_of_length h⟩
  have hle : reader.columns.dedup.length ≤ reader.columns.length :=
    (List.dedup_sublist _).length_le
  have htotal := ofLength_total reader sampleLimit
  have hsplit := misshapen_eq reader sampleLimit
  rw [CountsAgree, hnodup]
  rcases Nat.lt_or_ge (reader.columns.dedup.length + 1) reader.columns.length with hmany | hfew
  · -- every record is counted
    have hall : ((sampledRecords reader sampleLimit).countP fun record ↦
        reader.columns.dedup.length + (if reader.columns.length < record.length then 1 else 0) ≠
          reader.columns.length) = (sampledRecords reader sampleLimit).length := by
      rw [List.countP_eq_length]
      intro record _
      rw [decide_eq_true_eq]
      split <;> omega
    rw [hall]
    omega
  · rcases Nat.lt_or_ge reader.columns.dedup.length reader.columns.length with hone | hnone
    · -- the records that are not too long are counted
      have hcounted : ((sampledRecords reader sampleLimit).countP fun record ↦
          reader.columns.dedup.length + (if reader.columns.length < record.length then 1 else 0) ≠
            reader.columns.length) + ofLength reader sampleLimit .gt =
          (sampledRecords reader sampleLimit).length := by
        rw [List.length_eq_countP_add_countP (fun record ↦
          decide (record.length ≤ reader.columns.length)) (l := sampledRecords reader sampleLimit),
          ofLength]
        congr 1
        · refine List.countP_congr fun record _ ↦ ?_
          rw [decide_eq_true_eq, decide_eq_true_eq]
          split <;> omega
        · refine List.countP_congr fun record _ ↦ ?_
          simp [Nat.compare_eq_gt]
      omega
    · -- the records that are too long are counted
      have hcounted : ((sampledRecords reader sampleLimit).countP fun record ↦
          reader.columns.dedup.length + (if reader.columns.length < record.length then 1 else 0) ≠
            reader.columns.length) = ofLength reader sampleLimit .gt := by
        refine List.countP_congr fun record _ ↦ ?_
        rw [decide_eq_true_eq, decide_eq_true_eq, Nat.compare_eq_gt]
        split <;> omega
      rw [hcounted]
      omega

def longRowFile : CsvFile := ⟨"long.csv", [utf8Bytes "a,b\n1,2,3\n1,2\n"]⟩

def shortRowFile : CsvFile := ⟨"short.csv", [utf8Bytes "a,b\n1\n"]⟩

end SchemaPilot.Workers.Profiler
