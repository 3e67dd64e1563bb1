import SchemaPilot.Workers.Profiler

/-!
# Which encoding a file is read in

`open_csv_reader_with_fallback` settles on the first encoding that the header can be read in, and the
rows behind the header are then read in it as well. What that leaves open: the bytes of a later row may be
refused, and a file with a byte order mark is mostly settled as plain UTF-8, which keeps the mark
(`fallbackSound_iff`). The PII scan has no fallback at all, so it sees what the profile sees where the
first encoding is the one settled on (`scanned_iff`).
-/

namespace SchemaPilot.Workers.Profiler

open Library Library.Csv Library.TextDecoding

theorem records_of_openedWith {file : CsvFile} {encoding : Encoding} {reader : DictReader}
    (h : openedWith file encoding = .ok reader) :
    reader.fieldnames = (rowsIn encoding file).items.head? ∧
      reader.records = (rowsIn encoding file).items.tail.filter (fun row ↦ row ≠ []) ∧
      reader.rest.failure = (rowsIn encoding file).failure := by
  obtain ⟨hnames, hrest⟩ := dictReader_eq_ok h
  exact ⟨hnames, by rw [DictReader.records, hrest], by rw [hrest]⟩

/-- The bytes that are read for the header, for the sampled records or for the one behind them are
refused. -/
def SampleBreaks (encoding : Encoding) (file : CsvFile) (sampleLimit : ℤ) : Prop :=
  ((rowsIn encoding file).items.tail.filter fun row ↦ row ≠ []).length ≤ sampleLimit.toNat ∧
    (rowsIn encoding file).failure = some .undecodable

/-- The header holds no record: a field is larger than `csv` takes. -/
def HeaderMalformed (encoding : Encoding) (file : CsvFile) : Prop :=
  (rowsIn encoding file).items = [] ∧ ∃ message, (rowsIn encoding file).failure = some (.malformed message)

/-- The first encoding that the header can be read in. -/
def SettledOn (encoding : Encoding) (file : CsvFile) : Prop :=
  ∃ before after, encodings = before ++ encoding :: after ∧
    (∀ other ∈ before, HeaderBreaks other file) ∧ ¬HeaderBreaks encoding file

/-- There always is one, as the last encoding refuses nothing. -/
theorem exists_settledOn (file : CsvFile) : ∃ encoding, SettledOn encoding file := by
  by_cases hutf8 : HeaderBreaks .utf8 file
  · by_cases hsig : HeaderBreaks .utf8Sig file
    · exact ⟨.latin1, [.utf8, .utf8Sig], [], rfl, by simp [hutf8, hsig], not_headerBreaks_latin1 file⟩
    · exact ⟨.utf8Sig, [.utf8], [.latin1], rfl, by simp [hutf8], hsig⟩
  · exact ⟨.utf8, [], [.utf8Sig, .latin1], rfl, by simp, hutf8⟩

theorem SettledOn.mem {encoding : Encoding} {file : CsvFile} (h : SettledOn encoding file) :
    encoding ∈ encodings := by
  obtain ⟨before, after, hsplit, -⟩ := h
  rw [hsplit]
  exact List.mem_append_right _ List.mem_cons_self

theorem SettledOn.open_eq {encoding : Encoding} {file : CsvFile} (h : SettledOn encoding file) :
    openCsvReaderWithFallback file =
      match openedWith file encoding with
      | .ok reader => .ok ⟨encoding, reader⟩
      | .error error => .error (.read error) := by
  obtain ⟨before, after, hsplit, hbefore, hencoding⟩ := h
  rw [openCsvReaderWithFallback, hsplit]
  exact tryEncodings_of_breaks hbefore hencoding after

def profileIn (nfkc : String → String) (encoding : Encoding) (file : CsvFile) (sampleLimit : ℤ) :
    Except ReadError ProfileEvidence :=
  (openedWith file encoding).bind fun reader ↦ profileReader nfkc reader sampleLimit

variable (nfkc : String → String)

theorem SettledOn.profile_eq {encoding : Encoding} {file : CsvFile} (h : SettledOn encoding file)
    (sampleLimit : ℤ) :
    profileCsvFile nfkc file sampleLimit =
      (profileIn nfkc encoding file sampleLimit).mapError .read := by
  rw [profileCsvFile, h.open_eq, profileIn]
  cases openedWith file encoding with
  | error error => rfl
  | ok reader => rfl

/-- Profiling in an encoding raises a decoding error exactly where the sample breaks. -/
theorem profileIn_eq_undecodable_iff {encoding : Encoding} {file : CsvFile} {sampleLimit : ℤ} :
    profileIn nfkc encoding file sampleLimit = .error .undecodable ↔
      SampleBreaks encoding file sampleLimit := by
  rw [profileIn, SampleBreaks]
  rcases hopened : openedWith file encoding with error | reader
  · obtain ⟨hitems, hfailure⟩ := dictReader_eq_error_iff.mp hopened
    change Except.error error = .error .undecodable ↔ _
    rw [hitems, hfailure, Except.error.injEq, Option.some.injEq]
    simp
  · obtain ⟨-, hrecords, hfailure⟩ := records_of_openedWith hopened
    change profileReader nfkc reader sampleLimit = .error .undecodable ↔ _
    rw [profileReader_eq_error_iff, ← hrecords, ← hfailure, and_comm]

/-- The scan of a file succeeds, and has samples for exactly the columns of a profile. -/
def Scanned (file : CsvFile) (sampleLimit : ℤ) (evidence : ProfileEvidence) : Prop :=
  ∃ samples, readCsvColumnSamples file sampleLimit = .ok samples ∧
    ∀ column, column ∈ samples ↔ column ∈ evidence.schemaColumns

theorem mem_ofColumns {β : Type} {columns : List String} {value : String → β} {column : String} :
    column ∈ Dict.ofColumns columns value ↔ column ∈ columns := by
  rw [AList.mem_keys, ← List.mem_toFinset, Dict.ofColumns,
    keys_foldl_insert (fun column ↦ column) value, List.map_id']
  simp

/-- A row adds samples only under the columns. -/
theorem mem_sampleRow {columns : List String} {samples : Dict (List String)} (row : DictRow)
    (h : ∀ column, column ∈ samples ↔ column ∈ columns) (column : String) :
    column ∈ sampleRow columns samples row ↔ column ∈ columns := by
  have hfold : ∀ some ⊆ columns, ∀ samples : Dict (List String),
      (∀ column, column ∈ samples ↔ column ∈ columns) →
        ∀ column, column ∈ sampleRow some samples row ↔ column ∈ columns := by
    intro some
    induction some with
    | nil => exact fun _ samples hsamples ↦ hsamples
    | cons first rest ih =>
      intro hsubset samples hsamples
      obtain ⟨next, hcons, hnext⟩ : ∃ next, sampleRow (first :: rest) samples row =
          sampleRow rest next row ∧ ∀ column, column ∈ next ↔ column ∈ columns := by
        refine ⟨if Text.strip (cellText row first) = "" then samples
          else samples.insert first ((samples.lookup first).getD [] ++
            [Text.strip (cellText row first)]), ?_, fun other ↦ ?_⟩
        · unfold sampleRow
          rw [List.foldl_cons]
        · split_ifs
          · exact hsamples other
          · rw [AList.mem_insert, hsamples other]
            exact or_iff_right_of_imp fun heq ↦ heq ▸ hsubset List.mem_cons_self
      rw [hcons]
      exact ih (fun other hother ↦ hsubset (List.mem_cons_of_mem _ hother)) next hnext
  exact hfold columns (List.Subset.refl _) samples h column

theorem mem_sampleRows {columns : List String} (rows : List DictRow) {samples : Dict (List String)}
    (h : ∀ column, column ∈ samples ↔ column ∈ columns) (column : String) :
    column ∈ rows.foldl (sampleRow columns) samples ↔ column ∈ columns := by
  induction rows generalizing samples with
  | nil => exact h column
  | cons row rows ih => exact ih (mem_sampleRow row h)

/-- A profiled file is scanned, over the columns of its profile, exactly where its header can be read as
UTF-8. -/
theorem scanned_iff (file : CsvFile) (sampleLimit : ℤ) (evidence : ProfileEvidence)
    (h : profileCsvFile nfkc file sampleLimit = .ok evidence) :
    Scanned file sampleLimit evidence ↔ ¬HeaderBreaks .utf8 file := by
  constructor
  · rintro ⟨samples, hsamples, -⟩ hbreaks
    rw [readCsvColumnSamples, openedWith_eq_undecodable_iff.mpr hbreaks] at hsamples
    cases hsamples
  · intro hutf8
    have hsettled : SettledOn .utf8 file := ⟨[], _, rfl, by simp, hutf8⟩
    rw [hsettled.profile_eq] at h
    obtain ⟨reader, hreader, hprofile⟩ := bind_eq_ok_iff _ _ _ |>.mp (mapError_eq_ok_iff.mp h)
    obtain ⟨hreaches, hcolumns, -⟩ := profileReader_eq_ok nfkc hprofile
    have hscan : readCsvColumnSamples file sampleLimit =
        .ok ((reader.iterate.items.take sampleLimit.toNat).foldl (sampleRow reader.columns)
          (Dict.ofColumns reader.columns fun _ ↦ [])) := by
      simp only [readCsvColumnSamples, hreader]
      rw [forRows_of_reaches hreaches]
      rfl
    refine ⟨_, hscan, fun column ↦ ?_⟩
    rw [hcolumns]
    exact mem_sampleRows _ (fun _ ↦ mem_ofColumns) column

def latinHeaderFile : CsvFile := ⟨"latin.csv", [[0x6E, 0x61, 0xEF, 0x76, 0x65, 0x0A, 0x31, 0x0A]]⟩

def plainFile : CsvFile := ⟨"plain.csv", [utf8Bytes "id,name\n1,x\n"]⟩

theorem scanned_plain :
    ∃ evidence, profileCsvFile id plainFile 1000 = .ok evidence ∧
      (Scanned plainFile 1000 evidence ↔ ¬HeaderBreaks .utf8 plainFile) := by
  obtain ⟨evidence, hprofile⟩ := exists_eq_ok_of_isOk
    (show (profileCsvFile id plainFile 1000).isOk = true by decide +kernel)
  exact ⟨evidence, hprofile, scanned_iff id plainFile 1000 evidence hprofile⟩

/-- A header in Latin-1 is profiled and not scanned. -/
theorem latin_header_unscanned :
    ∃ evidence, profileCsvFile id latinHeaderFile 1000 = .ok evidence ∧
      ¬Scanned latinHeaderFile 1000 evidence := by
  obtain ⟨evidence, hprofile⟩ := exists_eq_ok_of_isOk
    (show (profileCsvFile id latinHeaderFile 1000).isOk = true by decide +kernel)
  refine ⟨evidence, hprofile, ?_⟩
  rintro ⟨samples, hsamples, -⟩
  have hraises : openedWith latinHeaderFile .utf8 = .error .undecodable := by decide +kernel
  rw [readCsvColumnSamples, hraises] at hsamples
  cases hsamples

/-- The file starts with the UTF-8 byte order mark. -/
def StartsWithMark (file : CsvFile) : Prop := byteOrderMark <+: file.blocks.flatten

theorem mark_of_openedWith {file : CsvFile} {encoding : Encoding} {reader : DictReader}
    (hmark : StartsWithMark file) (hkept : encoding ≠ .utf8Sig)
    (h : openedWith file encoding = .ok reader) :
    ∃ name ∈ reader.columns.head?, markText encoding <+: name.toList := by
  obtain ⟨hnames, -, -⟩ := records_of_openedWith h
  have hmarkText : markText encoding ≠ [] := fun hnil ↦ hkept (markText_eq_nil_iff.mp hnil)
  have hlimit : (markText encoding).length ≤ fieldLimit := by cases encoding <;> decide
  -- a header without a row would need a file without lines
  obtain ⟨row, hrow⟩ : ∃ row, (rowsIn encoding file).items.head? = some row := by
    by_contra hnone
    have hitems : (rowsIn encoding file).items = [] := by
      rw [← List.head?_eq_none_iff, Option.eq_none_iff_forall_ne_some]
      exact fun row hrow ↦ hnone ⟨row, hrow⟩
    have hfailure : (rowsIn encoding file).failure = none := by
      cases hend : (rowsIn encoding file).failure with
      | none => rfl
      | some error =>
        rw [openedWith, dictReader_eq_error_iff.mpr ⟨hitems, hend⟩] at h
        cases h
    have hdecodes : (readLines encoding file.blocks).failure = none := failure_of_rowsFrom hfailure
    rw [rowsIn, rows, hdecodes] at hitems hfailure
    exact rowsFrom_ne_nil (Or.inl (readLines_ne_nil hmark hkept hdecodes)) hfailure hitems
  obtain ⟨line, hline⟩ : ∃ line, (readLines encoding file.blocks).items.head? = some line := by
    cases hlines : (readLines encoding file.blocks).items with
    | cons line lines => exact ⟨line, rfl⟩
    | nil =>
      rw [rowsIn, rows, hlines] at hrow
      cases hfailure : (readLines encoding file.blocks).failure <;> rw [hfailure] at hrow <;>
        cases hrow
  rw [DictReader.columns, hnames, hrow]
  exact head_rows hmarkText (fun _ hc ↦ ne_of_mem_markText hc) hlimit hline
    (mark_prefix_head hmark hline) hrow

theorem SettledOn.mark_shown {encoding : Encoding} {file : CsvFile} (h : SettledOn encoding file)
    (hmark : StartsWithMark file) (hkept : encoding ≠ .utf8Sig)
    (hformed : ¬HeaderMalformed encoding file) :
    ∃ reader, openCsvReaderWithFallback file = .ok ⟨encoding, reader⟩ ∧
      ∃ name ∈ reader.columns.head?, markText encoding <+: name.toList := by
  rcases hopened : openedWith file encoding with error | reader
  · obtain ⟨hitems, hfailure⟩ := dictReader_eq_error_iff.mp hopened
    cases error with
    | malformed message => exact absurd ⟨hitems, message, hfailure⟩ hformed
    | undecodable =>
      obtain ⟨-, -, -, -, hreads⟩ := h
      exact absurd ⟨hitems, hfailure⟩ hreads
  · refine ⟨reader, ?_, mark_of_openedWith hmark hkept hopened⟩
    rw [h.open_eq, hopened]

/-- Profiling never raises a decoding error, is done in one encoding that accepts what is read, and the
first column of a file with the mark does not start with the decoded mark. -/
structure FallbackSound (file : CsvFile) (sampleLimit : ℤ) : Prop where
  decodes : profileCsvFile nfkc file sampleLimit ≠ .error (.read .undecodable)
  one_encoding : ∃ encoding ∈ encodings, ¬SampleBreaks encoding file sampleLimit ∧
    profileCsvFile nfkc file sampleLimit =
      (profileIn nfkc encoding file sampleLimit).mapError .read
  mark_removed : StartsWithMark file → ∀ opened, openCsvReaderWithFallback file = .ok opened →
    ∀ name ∈ opened.reader.columns.head?,
      markText opened.encoding ≠ [] → ¬markText opened.encoding <+: name.toList

/-- The encoding that the header can be read in also fits the sampled rows, and it is the one for the mark
where the file has one and a header. -/
def FallbackFits (file : CsvFile) (sampleLimit : ℤ) : Prop :=
  ∃ encoding, SettledOn encoding file ∧ ¬SampleBreaks encoding file sampleLimit ∧
    (StartsWithMark file → encoding = .utf8Sig ∨ HeaderMalformed encoding file)

/-- The fallback is sound exactly where the encoding of the header fits the file. -/
theorem fallbackSound_iff (file : CsvFile) (sampleLimit : ℤ) :
    FallbackSound nfkc file sampleLimit ↔ FallbackFits file sampleLimit := by
  constructor
  · intro hsound
    obtain ⟨encoding, hsettled⟩ := exists_settledOn file
    refine ⟨encoding, hsettled, fun hbreaks ↦ hsound.decodes ?_, fun hmark ↦ ?_⟩
    · rw [hsettled.profile_eq, profileIn_eq_undecodable_iff nfkc |>.mpr hbreaks]
      rfl
    · by_contra hneither
      rw [not_or] at hneither
      obtain ⟨reader, hopen, name, hname, hshown⟩ :=
        hsettled.mark_shown hmark hneither.1 hneither.2
      exact hsound.mark_removed hmark _ hopen name hname
        (fun hnil ↦ hneither.1 (markText_eq_nil_iff.mp hnil)) hshown
  · rintro ⟨encoding, hsettled, hfits, hmarked⟩
    have hprofile := hsettled.profile_eq nfkc sampleLimit
    refine ⟨fun hraises ↦ hfits ?_, ⟨encoding, hsettled.mem, hfits, hprofile⟩, ?_⟩
    · rw [hprofile, mapError_eq_error_iff] at hraises
      obtain ⟨error, herror, hread⟩ := hraises
      cases hread
      exact profileIn_eq_undecodable_iff nfkc |>.mp herror
    · intro hmark opened hopen name _ hkept
      rw [hsettled.open_eq] at hopen
      rcases hopened : openedWith file encoding with error | reader
      · rw [hopened] at hopen
        cases hopen
      · rw [hopened] at hopen
        cases hopen
        rcases hmarked hmark with rfl | ⟨hitems, message, hfailure⟩
        · exact absurd markText_utf8Sig hkept
        · rw [openedWith, dictReader_eq_error_iff.mpr ⟨hitems, hfailure⟩] at hopened
          cases hopened

def markedFile : CsvFile := ⟨"export.csv", [byteOrderMark ++ utf8Bytes "id,name\n1,x\n"]⟩

/-- A file with the mark is settled as plain UTF-8, and the mark becomes a part of the first name. -/
theorem mark_kept : ¬FallbackSound id markedFile 1000 := by
  intro hsound
  have hopen : openCsvReaderWithFallback markedFile =
      .ok ⟨.utf8, some ["\uFEFFid", "name"], [["1", "x"]], none⟩ := by decide +kernel
  exact hsound.mark_removed (by decide +kernel : byteOrderMark <+: markedFile.blocks.flatten) _ hopen
    "\uFEFFid" rfl (by decide) (by decide +kernel)

end SchemaPilot.Workers.Profiler
