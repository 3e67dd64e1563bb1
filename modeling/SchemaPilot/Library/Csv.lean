import Mathlib.Data.List.AList
import Mathlib.Data.Finset.Card
import SchemaPilot.Library.TextDecoding

/-!
# Delimited text

`csv.reader` with its default dialect over the lines of a file, and `csv.DictReader` over its rows. A row
ends where the automaton is back at the start of a record at the end of a line; a quoted field takes line
ends as characters, so a row may span several lines. The exceptions of the lines end the rows as well.

A `DictReader` keeps the first row as its field names and makes a dictionary of each row that is not
blank: names that repeat share an entry, a short row is filled up with `None`, and the surplus of a long
row stands under the key `None`, which is no field name and is kept apart here (`DictRow.surplus`).
-/

namespace SchemaPilot.Library.Csv

inductive State where
  | startRecord
  | startField
  | inField
  | inQuotedField
  | quoteInQuotedField
  | eatCrnl
  deriving DecidableEq

/-- The automaton with the fields of the record and the characters of the current field. -/
structure Parser where
  state : State
  fields : List String
  field : List Char
  deriving DecidableEq

/-- `parse_reset`. -/
def Parser.reset : Parser := ⟨.startRecord, [], []⟩

/-- `csv.field_size_limit()`. -/
def fieldLimit : ℕ := 131072

def newLineMessage : String :=
  "new-line character seen in unquoted field - do you need to open the file with newline=''?"

/-- `parse_save_field`. -/
def Parser.saveField (parser : Parser) (state : State) : Parser :=
  ⟨state, parser.fields ++ [String.ofList parser.field], []⟩

/-- `parse_add_char`. -/
def Parser.addChar (parser : Parser) (state : State) (c : Char) : Except String Parser :=
  if fieldLimit ≤ parser.field.length then .error "field larger than field limit (131072)"
  else .ok { parser with state, field := parser.field ++ [c] }

/-- Whether a character, or the end of a line (`none`), ends a field that is not quoted. -/
def endsLine : Option Char → Bool
  | none => true
  | some c => c == '\n' || c == '\r'

def afterLine : Option Char → State
  | none => .startRecord
  | some _ => .eatCrnl

def Parser.startField (parser : Parser) (c : Option Char) : Except String Parser :=
  if endsLine c then .ok (parser.saveField (afterLine c))
  else if c = some '"' then .ok { parser with state := .inQuotedField }
  else if c = some ',' then .ok (parser.saveField .startField)
  else c.elim (.ok parser) (parser.addChar .inField)

/-- `parse_process_char`, where `none` stands for the end of a line. -/
def Parser.processChar (parser : Parser) (c : Option Char) : Except String Parser :=
  match parser.state with
  | .startRecord =>
    if c = none then .ok parser
    else if endsLine c then .ok { parser with state := .eatCrnl }
    else parser.startField c
  | .startField => parser.startField c
  | .inField =>
    if endsLine c then .ok (parser.saveField (afterLine c))
    else if c = some ',' then .ok (parser.saveField .startField)
    else c.elim (.ok parser) (parser.addChar .inField)
  | .inQuotedField =>
    if c = some '"' then .ok { parser with state := .quoteInQuotedField }
    else c.elim (.ok parser) (parser.addChar .inQuotedField)
  | .quoteInQuotedField =>
    if c = some '"' then parser.addChar .inQuotedField '"'
    else if c = some ',' then .ok (parser.saveField .startField)
    else if endsLine c then .ok (parser.saveField (afterLine c))
    else c.elim (.ok parser) (parser.addChar .inField)
  | .eatCrnl =>
    if c = none then .ok { parser with state := .startRecord }
    else if endsLine c then .ok parser
    else .error newLineMessage

def Parser.processAll (parser : Parser) : List (Option Char) → Except String Parser
  | [] => .ok parser
  | c :: chars => (parser.processChar c).bind fun next ↦ next.processAll chars

/-- A line, with its end as the last character. -/
def Parser.processLine (parser : Parser) (line : List Char) : Except String Parser :=
  parser.processAll (line.map some ++ [none])

/-- What is left of the lines when the parser has come so far. -/
def rowsFrom (failure : Option ReadError) (parser : Parser) :
    List (List Char) → Delivery ReadError (List String)
  | [] =>
    match failure with
    | some error => ⟨[], some error⟩
    | none =>
      -- a record that is still open at the end of the file is closed there
      if parser.field ≠ [] ∨ parser.state = .inQuotedField then
        ⟨[(parser.saveField .startRecord).fields], none⟩
      else ⟨[], none⟩
  | line :: lines =>
    match parser.processLine line with
    | .error message => ⟨[], some (.malformed message)⟩
    | .ok next =>
      if next.state = .startRecord then
        let rest := rowsFrom failure .reset lines
        ⟨next.fields :: rest.items, rest.failure⟩
      else rowsFrom failure next lines

/-- `csv.reader(handle)`. -/
def rows (lines : Delivery ReadError (List Char)) : Delivery ReadError (List String) :=
  rowsFrom lines.failure .reset lines.items

/-- Undecodable text ends the rows only where it ends the lines. -/
theorem failure_rowsFrom {failure : Option ReadError} {parser : Parser} {lines : List (List Char)}
    (h : (rowsFrom failure parser lines).failure = some .undecodable) : failure = some .undecodable := by
  induction lines generalizing parser with
  | nil =>
    cases failure with
    | none =>
      simp only [rowsFrom] at h
      split at h <;> cases h
    | some error => simpa [rowsFrom] using h
  | cons line lines ih =>
    rw [rowsFrom] at h
    split at h
    · cases h
    · split at h
      · exact ih h
      · exact ih h

/-- The record read so far starts with some characters of an unquoted field. -/
def Parser.StartsWith (front : List Char) (parser : Parser) : Prop :=
  (∃ name ∈ parser.fields.head?, front <+: name.toList) ∨
    parser.fields = [] ∧ parser.state = .inField ∧ front <+: parser.field

theorem Parser.StartsWith.saveField {front : List Char} {parser : Parser}
    (h : parser.StartsWith front) (state : State) :
    ∃ name ∈ (parser.saveField state).fields.head?, front <+: name.toList := by
  rcases h with ⟨name, hname, hfront⟩ | ⟨hfields, -, hfront⟩
  · refine ⟨name, ?_, hfront⟩
    rw [Parser.saveField, List.head?_append, Option.mem_def.mp hname]
    rfl
  · refine ⟨String.ofList parser.field, ?_, by rwa [String.toList_ofList]⟩
    rw [Parser.saveField, hfields]
    rfl

/-- Fields are only added to a record. -/
theorem Parser.fields_processChar {parser next : Parser} {c : Option Char}
    (hnext : parser.processChar c = .ok next) : parser.fields <+: next.fields := by
  have hsave : ∀ state, parser.fields <+: (parser.saveField state).fields := fun _ ↦
    List.prefix_append _ _
  have hadd : ∀ {state d}, parser.addChar state d = .ok next → parser.fields <+: next.fields := by
    intro state d h
    unfold Parser.addChar at h
    split at h
    · cases h
    · cases h
      exact List.prefix_rfl
  have hstart : parser.startField c = .ok next → parser.fields <+: next.fields := by
    intro h
    unfold Parser.startField at h
    split_ifs at h
    · cases h; exact hsave _
    · cases h; exact List.prefix_rfl
    · cases h; exact hsave _
    · cases c with
      | none => cases h; exact List.prefix_rfl
      | some d => exact hadd h
  unfold Parser.processChar at hnext
  split at hnext
  · split_ifs at hnext
    · cases hnext; exact List.prefix_rfl
    · cases hnext; exact List.prefix_rfl
    · exact hstart hnext
  · exact hstart hnext
  · split_ifs at hnext
    · cases hnext; exact hsave _
    · cases hnext; exact hsave _
    · cases c with
      | none => cases hnext; exact List.prefix_rfl
      | some d => exact hadd hnext
  · split_ifs at hnext
    · cases hnext; exact List.prefix_rfl
    · cases c with
      | none => cases hnext; exact List.prefix_rfl
      | some d => exact hadd hnext
  · split_ifs at hnext
    · exact hadd hnext
    · cases hnext; exact hsave _
    · cases hnext; exact hsave _
    · cases c with
      | none => cases hnext; exact List.prefix_rfl
      | some d => exact hadd hnext
  · split_ifs at hnext
    · cases hnext; exact List.prefix_rfl
    · cases hnext; exact List.prefix_rfl

/-- A character changes nothing about how the record starts. -/
theorem Parser.StartsWith.processChar {front : List Char} {parser next : Parser} {c : Option Char}
    (h : parser.StartsWith front) (hnext : parser.processChar c = .ok next) :
    next.StartsWith front := by
  rcases h with ⟨name, hname, hfront⟩ | hfield
  · obtain ⟨more, hmore⟩ := Parser.fields_processChar hnext
    refine Or.inl ⟨name, ?_, hfront⟩
    rw [← hmore, List.head?_append, Option.mem_def.mp hname]
    rfl
  · have hsave : ∀ state, (parser.saveField state).StartsWith front := fun state ↦
      Or.inl (Parser.StartsWith.saveField (Or.inr hfield) state)
    obtain ⟨hfields, hstate, hfront⟩ := hfield
    simp only [Parser.processChar, hstate] at hnext
    split_ifs at hnext
    · cases hnext
      exact hsave _
    · cases hnext
      exact hsave _
    · cases c with
      | none =>
        cases hnext
        exact Or.inr ⟨hfields, hstate, hfront⟩
      | some d =>
        change parser.addChar .inField d = .ok next at hnext
        unfold Parser.addChar at hnext
        split at hnext
        · cases hnext
        · cases hnext
          exact Or.inr ⟨hfields, rfl, hfront.trans (List.prefix_append _ _)⟩

theorem Parser.StartsWith.processAll {front : List Char} {parser next : Parser}
    {chars : List (Option Char)} (h : parser.StartsWith front)
    (hnext : parser.processAll chars = .ok next) : next.StartsWith front := by
  induction chars generalizing parser with
  | nil =>
    cases hnext
    exact h
  | cons c chars ih =>
    rw [Parser.processAll] at hnext
    rcases hstep : parser.processChar c with message | after
    · rw [hstep] at hnext
      cases hnext
    · rw [hstep] at hnext
      exact ih (h.processChar hstep) hnext

theorem exists_head_of_line {front line : List Char} {parser : Parser} {failure : Option ReadError}
    {lines : List (List Char)} {row : List String}
    (hline : ∀ next, parser.processLine line = .ok next → next.StartsWith front)
    (hlines : ∀ next : Parser, next.StartsWith front →
      (rowsFrom failure next lines).items.head? = some row →
        ∃ name ∈ row.head?, front <+: name.toList)
    (hrow : (rowsFrom failure parser (line :: lines)).items.head? = some row) :
    ∃ name ∈ row.head?, front <+: name.toList := by
  rw [rowsFrom] at hrow
  rcases hnext : parser.processLine line with message | next
  · rw [hnext] at hrow
    cases hrow
  · rw [hnext] at hrow
    change (if next.state = .startRecord then _ else _ : Delivery _ _).items.head? = _ at hrow
    split at hrow
    · next hstate =>
      cases hrow
      rcases hline next hnext with hfields | ⟨-, hfield, -⟩
      · exact hfields
      · rw [hstate] at hfield
        cases hfield
    · exact hlines next (hline next hnext) hrow

/-- A record that has started with some characters is a row whose first field does. -/
theorem Parser.StartsWith.rowsFrom {front : List Char} {parser : Parser} {failure : Option ReadError}
    {lines : List (List Char)} {row : List String} (h : parser.StartsWith front)
    (hrow : (rowsFrom failure parser lines).items.head? = some row) :
    ∃ name ∈ row.head?, front <+: name.toList := by
  induction lines generalizing parser with
  | nil =>
    cases failure with
    | some error => cases hrow
    | none =>
      simp only [Csv.rowsFrom] at hrow
      split at hrow
      · cases hrow
        exact h.saveField .startRecord
      · cases hrow
  | cons line lines ih =>
    exact exists_head_of_line (fun next hnext ↦ h.processAll hnext) (fun next hnext hrow ↦ ih hnext hrow)
      hrow

theorem Parser.processAll_append (parser : Parser) (chars more : List (Option Char)) :
    parser.processAll (chars ++ more) =
      (parser.processAll chars).bind fun next ↦ next.processAll more := by
  induction chars generalizing parser with
  | nil => rfl
  | cons c chars ih =>
    rw [List.cons_append, Parser.processAll, Parser.processAll]
    cases parser.processChar c with
    | error message => rfl
    | ok next => exact ih next

/-- Ordinary characters are added to an unquoted field. -/
theorem Parser.processAll_inField {front field : List Char}
    (hfront : ∀ c ∈ front, c ≠ '\n' ∧ c ≠ '\r' ∧ c ≠ '"' ∧ c ≠ ',')
    (hlimit : field.length + front.length ≤ fieldLimit) :
    (Parser.mk .inField [] field).processAll (front.map some) =
      .ok ⟨.inField, [], field ++ front⟩ := by
  induction front generalizing field with
  | nil => simp [Parser.processAll]
  | cons c front ih =>
    obtain ⟨hnewline, hreturn, -, hcomma⟩ := hfront c List.mem_cons_self
    rw [List.length_cons] at hlimit
    have hstep : (Parser.mk .inField [] field).processChar (some c) =
        .ok ⟨.inField, [], field ++ [c]⟩ := by
      simp [Parser.processChar, endsLine, hnewline, hreturn, hcomma, Parser.addChar,
        show ¬fieldLimit ≤ field.length by omega]
    rw [List.map_cons, Parser.processAll, hstep]
    change (Parser.mk .inField [] (field ++ [c])).processAll (front.map some) = _
    rw [ih (fun d hd ↦ hfront d (List.mem_cons_of_mem _ hd)) (by simp; omega), List.append_assoc]
    rfl

/-- The first row of lines that start with ordinary characters starts with them. -/
theorem head_rows {front line : List Char} {lines : Delivery ReadError (List Char)}
    {row : List String} (hne : front ≠ [])
    (hfront : ∀ c ∈ front, c ≠ '\n' ∧ c ≠ '\r' ∧ c ≠ '"' ∧ c ≠ ',')
    (hlimit : front.length ≤ fieldLimit) (hline : lines.items.head? = some line)
    (hstart : front <+: line) (hrow : (rows lines).items.head? = some row) :
    ∃ name ∈ row.head?, front <+: name.toList := by
  obtain ⟨more, rfl⟩ := hstart
  obtain ⟨rest, hitems⟩ : ∃ rest, lines.items = (front ++ more) :: rest := List.head?_eq_some_iff.mp hline
  rw [rows, hitems] at hrow
  refine exists_head_of_line (fun next hnext ↦ ?_) (fun next hnext hrow ↦ hnext.rowsFrom hrow) hrow
  have hopened : Parser.reset.processAll (front.map some) = .ok ⟨.inField, [], front⟩ := by
    obtain ⟨c, tail, rfl⟩ := List.exists_cons_of_ne_nil hne
    obtain ⟨hnewline, hreturn, hquote, hcomma⟩ := hfront c List.mem_cons_self
    have hstep : Parser.reset.processChar (some c) = .ok ⟨.inField, [], [c]⟩ := by
      simp [Parser.processChar, Parser.reset, Parser.startField, endsLine, hnewline, hreturn, hquote,
        hcomma, Parser.addChar, fieldLimit]
    rw [List.map_cons, Parser.processAll, hstep]
    change (Parser.mk .inField [] [c]).processAll (tail.map some) = _
    rw [Parser.processAll_inField (fun d hd ↦ hfront d (List.mem_cons_of_mem _ hd))
      (by simpa [Nat.add_comm] using hlimit)]
    rfl
  rw [Parser.processLine, List.map_append, List.append_assoc, Parser.processAll_append,
    hopened] at hnext
  exact Parser.StartsWith.processAll (Or.inr ⟨rfl, rfl, List.prefix_rfl⟩) hnext

/-- Behind a line a record has ended, or a quoted field goes on. -/
theorem Parser.state_processLine {parser next : Parser} {line : List Char}
    (hnext : parser.processLine line = .ok next) :
    next.state = .startRecord ∨ next.state = .inQuotedField := by
  rw [Parser.processLine, Parser.processAll_append] at hnext
  rcases hline : parser.processAll (line.map some) with message | last
  · rw [hline] at hnext
    cases hnext
  · rw [hline] at hnext
    change (last.processChar none).bind Except.ok = .ok next at hnext
    rcases hstate : last.state
    all_goals
      simp [Parser.processChar, hstate, Parser.startField, endsLine, afterLine, Parser.saveField,
        Except.bind] at hnext
      subst hnext
      simp [hstate]

/-- Lines without a failure have a row, unless they are no table. -/
theorem rowsFrom_ne_nil {parser : Parser} {lines : List (List Char)}
    (h : lines ≠ [] ∨ parser.state = .inQuotedField)
    (hnone : (rowsFrom none parser lines).failure = none) : (rowsFrom none parser lines).items ≠ [] := by
  induction lines generalizing parser with
  | nil =>
    have hquoted : parser.state = .inQuotedField := h.resolve_left (by simp)
    simp [rowsFrom, hquoted]
  | cons line lines ih =>
    rw [rowsFrom] at hnone ⊢
    rcases hnext : parser.processLine line with message | next
    · rw [hnext] at hnone
      cases hnone
    · rw [hnext] at hnone
      by_cases hstate : next.state = .startRecord
      · simp [hstate]
      · simp only [hstate, if_false] at hnone ⊢
        exact ih (Or.inr ((Parser.state_processLine hnext).resolve_left hstate)) hnone

theorem failure_of_rowsFrom {failure : Option ReadError} {parser : Parser}
    {lines : List (List Char)} (h : (rowsFrom failure parser lines).failure = none) :
    failure = none := by
  induction lines generalizing parser with
  | nil =>
    cases failure with
    | none => rfl
    | some error => cases h
  | cons line lines ih =>
    rw [rowsFrom] at h
    split at h
    · cases h
    · split at h
      · exact ih h
      · exact ih h

structure DictRow where
  cells : AList fun _ : String ↦ Option String
  surplus : Option (List String)
  deriving DecidableEq

/-- `len(row)`. -/
def DictRow.length (row : DictRow) : ℕ := row.cells.keys.length + row.surplus.toList.length

/-- `csv.DictReader.__next__` behind the blank rows. -/
def dictRow (fieldnames row : List String) : DictRow :=
  let zipped : AList fun _ : String ↦ Option String :=
    (fieldnames.zip row).foldl (fun cells cell ↦ cells.insert cell.1 (some cell.2)) ∅
  { cells := (fieldnames.drop row.length).foldl (fun cells key ↦ cells.insert key none) zipped
    surplus := if fieldnames.length < row.length then some (row.drop fieldnames.length) else none }

theorem keys_foldl_insert {ι β : Type} (name : ι → String) (value : ι → β) (entries : List ι)
    (cells : AList fun _ : String ↦ β) :
    (entries.foldl (fun cells entry ↦ cells.insert (name entry) (value entry)) cells).keys.toFinset =
      cells.keys.toFinset ∪ (entries.map name).toFinset := by
  induction entries generalizing cells with
  | nil => simp
  | cons entry entries ih =>
    rw [List.foldl_cons, ih]
    ext key
    simp only [Finset.mem_union, List.mem_toFinset, ← AList.mem_keys, AList.mem_insert,
      List.map_cons, List.mem_cons]
    tauto

/-- The keys of a row are the field names. -/
theorem keys_dictRow (fieldnames row : List String) :
    (dictRow fieldnames row).cells.keys.toFinset = fieldnames.toFinset := by
  rw [dictRow, keys_foldl_insert (fun key ↦ key) fun _ ↦ none,
    keys_foldl_insert Prod.fst fun cell : String × String ↦ some cell.2]
  have hzip : (fieldnames.zip row).map Prod.fst = fieldnames.take row.length := by
    rw [List.zip_eq_zip_take_min, List.map_fst_zip (by simp), List.take_eq_take_iff]
    omega
  rw [hzip, List.map_id', AList.keys_empty, List.toFinset_nil, Finset.empty_union,
    ← List.toFinset_append, List.take_append_drop]

/-- A row has an entry for each name that occurs, and one more for its surplus. -/
theorem length_dictRow (fieldnames row : List String) :
    (dictRow fieldnames row).length =
      fieldnames.dedup.length + if fieldnames.length < row.length then 1 else 0 := by
  rw [DictRow.length, ← List.toFinset_card_of_nodup (dictRow fieldnames row).cells.keys_nodup,
    keys_dictRow, List.card_toFinset, dictRow]
  congr 1
  split <;> rfl

/-- A `csv.DictReader` whose field names have been read. -/
structure DictReader where
  fieldnames : Option (List String)
  rest : Delivery ReadError (List String)
  deriving DecidableEq

/-- The first access to `fieldnames`. A file without rows has none. -/
def dictReader (rows : Delivery ReadError (List String)) : Except ReadError DictReader :=
  match rows.items, rows.failure with
  | row :: items, failure => .ok ⟨some row, ⟨items, failure⟩⟩
  | [], some error => .error error
  | [], none => .ok ⟨none, ⟨[], none⟩⟩

/-- The field names raise what ends the rows before the first one. -/
theorem dictReader_eq_error_iff {rows : Delivery ReadError (List String)} {error : ReadError} :
    dictReader rows = .error error ↔ rows.items = [] ∧ rows.failure = some error := by
  rcases rows with ⟨_ | ⟨row, items⟩, _ | other⟩ <;> simp [dictReader]

/-- A reader splits the rows into the header and what follows it. -/
theorem dictReader_eq_ok {rows : Delivery ReadError (List String)} {reader : DictReader}
    (h : dictReader rows = .ok reader) :
    reader.fieldnames = rows.items.head? ∧ reader.rest = ⟨rows.items.tail, rows.failure⟩ := by
  rcases rows with ⟨_ | ⟨row, items⟩, _ | other⟩
  · cases h; exact ⟨rfl, rfl⟩
  · cases h
  · cases h; exact ⟨rfl, rfl⟩
  · cases h; exact ⟨rfl, rfl⟩

namespace DictReader

/-- `reader.fieldnames or []`. -/
def columns (reader : DictReader) : List String := reader.fieldnames.getD []

/-- The rows behind the header that are not blank. -/
def records (reader : DictReader) : List (List String) := reader.rest.items.filter fun row ↦ row ≠ []

/-- What `for row in reader` runs through. -/
def iterate (reader : DictReader) : Delivery ReadError DictRow :=
  ⟨reader.records.map (dictRow reader.columns), reader.rest.failure⟩

end DictReader

end SchemaPilot.Library.Csv
