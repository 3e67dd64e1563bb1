import SchemaPilot.Library.JsonText
import SchemaPilot.Library.Partition
import Mathlib.Logic.Function.Basic

/-!
# Quality contracts

`backend/workers/contracts.py`: rows that miss a required column, have an empty value in a column that
must have one, or repeat a text of a unique column are quarantined with their reasons. The texts of every
row are recorded as it is met, those of a row that is then quarantined included, so a row that only
repeats may repeat rows none of which has passed (`contractsHold_iff`).
-/

namespace SchemaPilot.Workers

open Library Library.Json

structure ContractFailure where
  rowIndex : ℕ
  reasons : List String

structure ContractResult where
  passedRows : List Fields
  quarantinedRows : List Fields
  failures : List ContractFailure

/-- `unique_seen`, a set of texts for each column. -/
abbrev UniqueSeen := String → List String

/-- `str(row.get(column, ""))`. -/
def columnText (row : Fields) (column : String) : String := (getD row column (.str "")).toStr

/-- `row.get(column) in (None, "")`. -/
def isEmptyValue (row : Fields) (column : String) : Bool :=
  match get? row column with
  | none => true
  | some .null => true
  | some (.str text) => text = ""
  | some _ => false

def missingReasons (requiredColumns : List String) (row : Fields) : List String :=
  let missing := requiredColumns.filter fun column ↦ (get? row column).isNone
  if missing = [] then []
  else ["missing_columns:" ++ ",".intercalate (missing.insertionSort (· ≤ ·))]

def notNullReasons (notNullColumns : List String) (row : Fields) : List String :=
  (notNullColumns.filter (isEmptyValue row)).map ("not_null:" ++ ·)

/-- The reasons of a row with texts that have been seen, and the texts seen with it. -/
def uniqueReasons (row : Fields) : List String → UniqueSeen → List String × UniqueSeen
  | [], seen => ([], seen)
  | column :: rest, seen =>
    let value := columnText row column
    let (reasons, after) :=
      uniqueReasons row rest (Function.update seen column (value :: seen column))
    (if value ∈ seen column then ("unique:" ++ column) :: reasons else reasons, after)

section Evaluation

variable (requiredColumns notNullColumns uniqueColumns : List String)

def rowFailures (row : Fields) (seen : UniqueSeen) : List String :=
  missingReasons requiredColumns row ++ notNullReasons notNullColumns row ++
    (uniqueReasons row uniqueColumns seen).1

/-- What one row adds to what has been seen and to the result. -/
def contractStep (state : UniqueSeen × ContractResult) (entry : Fields × ℕ) :
    UniqueSeen × ContractResult :=
  let (row, index) := entry
  let (seen, result) := state
  let reasons := rowFailures requiredColumns notNullColumns uniqueColumns row seen
  ((uniqueReasons row uniqueColumns seen).2,
    if reasons ≠ [] then
      { result with
        failures := result.failures ++ [⟨index, reasons⟩]
        quarantinedRows := result.quarantinedRows ++
          [set row "_quarantine_reasons" (textList reasons)] }
    else { result with passedRows := result.passedRows ++ [row] })

/-- What has been seen after some rows, and the result so far. -/
def contractRun (rows : List Fields) : UniqueSeen × ContractResult :=
  rows.zipIdx.foldl (contractStep requiredColumns notNullColumns uniqueColumns)
    (fun _ ↦ [], ⟨[], [], []⟩)

/-- `evaluate_quality_contracts`. -/
def evaluateQualityContracts (rows : List Fields) : ContractResult :=
  (contractRun requiredColumns notNullColumns uniqueColumns rows).2

section Contract

variable (requiredColumns notNullColumns uniqueColumns : List String)

/-- The row has the required columns and no empty value where it must have one. -/
def WellFormed (row : Fields) : Prop :=
  (∀ column ∈ requiredColumns, (get? row column).isSome = true) ∧
    ∀ column ∈ notNullColumns, isEmptyValue row column = false

def Repeats (earlier : List Fields) (row : Fields) (column : String) : Prop :=
  ∃ other ∈ earlier, columnText other column = columnText row column

/-- The row is well formed and repeats nothing, no unique column being named twice. -/
def Accepted (earlier : List Fields) (row : Fields) : Prop :=
  WellFormed requiredColumns notNullColumns row ∧ uniqueColumns.Nodup ∧
    ∀ column ∈ uniqueColumns, ¬Repeats earlier row column

end Contract

def withoutReasons (row : Fields) : Fields :=
  row.filter fun field ↦ field.1 ≠ "_quarantine_reasons"

theorem withoutReasons_set (row : Fields) (reasons : Json) :
    withoutReasons (set row "_quarantine_reasons" reasons) = withoutReasons row := by
  unfold withoutReasons Json.set
  split_ifs with h
  · clear h
    induction row with
    | nil => rfl
    | cons field rest ih =>
      rw [List.map_cons, List.filter_cons, List.filter_cons, ih]
      by_cases hkey : field.1 = "_quarantine_reasons"
      · simp [hkey]
      · simp [hkey]
  · rw [List.filter_append]
    simp

/-- A row loses nothing with its reasons when it has no such field itself. -/
theorem withoutReasons_eq_self_iff {row : Fields} :
    withoutReasons row = row ↔ get? row "_quarantine_reasons" = none := by
  rw [withoutReasons, List.filter_eq_self, get?, List.lookup_eq_none_iff]
  simp only [decide_eq_true_eq, bne_iff_ne, ne_comm]

section Runs

variable {requiredColumns notNullColumns uniqueColumns : List String}

theorem missingReasons_eq_nil_iff {row : Fields} : missingReasons requiredColumns row = [] ↔
    ∀ column ∈ requiredColumns, (get? row column).isSome = true := by
  rw [missingReasons]
  split_ifs with h
  · rw [List.filter_eq_nil_iff] at h
    refine iff_of_true rfl fun column hcolumn ↦ ?_
    exact Option.ne_none_iff_isSome.mp fun hnone ↦
      h column hcolumn (Option.isNone_iff_eq_none.mpr hnone)
  · refine iff_of_false not_false fun hall ↦ h ?_
    rw [List.filter_eq_nil_iff]
    intro column hcolumn hnone
    have hsome := hall column hcolumn
    rw [Option.isNone_iff_eq_none.mp hnone] at hsome
    cases hsome

theorem notNullReasons_eq_nil_iff {row : Fields} : notNullReasons notNullColumns row = [] ↔
    ∀ column ∈ notNullColumns, isEmptyValue row column = false := by
  rw [notNullReasons, List.map_eq_nil_iff, List.filter_eq_nil_iff]
  simp only [Bool.not_eq_true]

theorem mem_uniqueReasons_seen {row : Fields} {columns : List String} {seen : UniqueSeen}
    {column text : String} : text ∈ (uniqueReasons row columns seen).2 column ↔
      text ∈ seen column ∨ (column ∈ columns ∧ text = columnText row column) := by
  induction columns generalizing seen with
  | nil => simp [uniqueReasons]
  | cons first rest ih =>
    rw [uniqueReasons]
    dsimp only
    rw [ih, List.mem_cons]
    by_cases h : column = first
    · subst h
      rw [Function.update_self, List.mem_cons]
      tauto
    · rw [Function.update_of_ne h]
      tauto

/-- A row has no reason of uniqueness when no column is named twice and none of its texts has been
seen. -/
theorem uniqueReasons_eq_nil_iff {row : Fields} {columns : List String} {seen : UniqueSeen} :
    (uniqueReasons row columns seen).1 = [] ↔
      columns.Nodup ∧ ∀ column ∈ columns, columnText row column ∉ seen column := by
  induction columns generalizing seen with
  | nil => simp [uniqueReasons]
  | cons first rest ih =>
    have hrest : (∀ column ∈ rest, columnText row column ∉
          Function.update seen first (columnText row first :: seen first) column) ↔
        first ∉ rest ∧ ∀ column ∈ rest, columnText row column ∉ seen column := by
      constructor
      · intro h
        have hfirst : first ∉ rest := by
          intro hmem
          have hseen := h first hmem
          rw [Function.update_self] at hseen
          exact hseen List.mem_cons_self
        refine ⟨hfirst, fun column hcolumn ↦ ?_⟩
        have hseen := h column hcolumn
        rwa [Function.update_of_ne (ne_of_mem_of_not_mem hcolumn hfirst)] at hseen
      · rintro ⟨hfirst, h⟩ column hcolumn
        rw [Function.update_of_ne (ne_of_mem_of_not_mem hcolumn hfirst)]
        exact h column hcolumn
    rw [uniqueReasons, List.nodup_cons, List.forall_mem_cons]
    dsimp only
    split_ifs with h
    · exact iff_of_false not_false fun hall ↦ hall.2.1 h
    · rw [ih, hrest]
      tauto

theorem rowFailures_eq_nil_iff {row : Fields} {seen : UniqueSeen} :
    rowFailures requiredColumns notNullColumns uniqueColumns row seen = [] ↔
      WellFormed requiredColumns notNullColumns row ∧ uniqueColumns.Nodup ∧
        ∀ column ∈ uniqueColumns, columnText row column ∉ seen column := by
  rw [rowFailures, List.append_eq_nil_iff, List.append_eq_nil_iff, missingReasons_eq_nil_iff,
    notNullReasons_eq_nil_iff, uniqueReasons_eq_nil_iff, WellFormed]

theorem contractRun_snoc (rows : List Fields) (row : Fields) :
    contractRun requiredColumns notNullColumns uniqueColumns (rows ++ [row]) =
      contractStep requiredColumns notNullColumns uniqueColumns
        (contractRun requiredColumns notNullColumns uniqueColumns rows) (row, rows.length) := by
  rw [contractRun, List.zipIdx_append, List.foldl_append, Nat.zero_add]
  rfl

/-- What has been seen are the texts of all rows so far. -/
theorem mem_seen_contractRun {rows : List Fields} {column text : String}
    (hcolumn : column ∈ uniqueColumns) :
    text ∈ (contractRun requiredColumns notNullColumns uniqueColumns rows).1 column ↔
      ∃ other ∈ rows, columnText other column = text := by
  induction rows using List.reverseRecOn with
  | nil => simp [contractRun]
  | append_singleton rows row ih =>
    rw [contractRun_snoc, contractStep]
    dsimp only
    rw [mem_uniqueReasons_seen, ih]
    simp only [List.mem_append, List.mem_singleton]
    constructor
    · rintro (⟨other, hother, htext⟩ | ⟨-, htext⟩)
      · exact ⟨other, Or.inl hother, htext⟩
      · exact ⟨row, Or.inr rfl, htext.symm⟩
    · rintro ⟨other, hother | rfl, htext⟩
      · exact Or.inl ⟨other, hother, htext⟩
      · exact Or.inr ⟨hcolumn, htext.symm⟩

/-- A row has no reasons exactly when it is accepted. -/
theorem rowFailures_contractRun {rows : List Fields} {row : Fields} :
    rowFailures requiredColumns notNullColumns uniqueColumns row
        (contractRun requiredColumns notNullColumns uniqueColumns rows).1 = [] ↔
      Accepted requiredColumns notNullColumns uniqueColumns rows row := by
  rw [rowFailures_eq_nil_iff, Accepted]
  have hseen : (∀ column ∈ uniqueColumns, columnText row column ∉
      (contractRun requiredColumns notNullColumns uniqueColumns rows).1 column) ↔
      ∀ column ∈ uniqueColumns, ¬Repeats rows row column :=
    forall₂_congr fun column hcolumn ↦ not_congr (mem_seen_contractRun hcolumn)
  rw [hseen]

theorem evaluate_snoc_accepted {rows : List Fields} {row : Fields}
    (h : Accepted requiredColumns notNullColumns uniqueColumns rows row) :
    evaluateQualityContracts requiredColumns notNullColumns uniqueColumns (rows ++ [row]) =
      let result := evaluateQualityContracts requiredColumns notNullColumns uniqueColumns rows
      { result with passedRows := result.passedRows ++ [row] } := by
  rw [evaluateQualityContracts, contractRun_snoc, contractStep]
  dsimp only
  rw [if_neg (not_not.mpr (rowFailures_contractRun.mpr h))]
  rfl

/-- Another row is quarantined with its reasons. -/
theorem evaluate_snoc_rejected {rows : List Fields} {row : Fields}
    (h : ¬Accepted requiredColumns notNullColumns uniqueColumns rows row) :
    evaluateQualityContracts requiredColumns notNullColumns uniqueColumns (rows ++ [row]) =
      let result := evaluateQualityContracts requiredColumns notNullColumns uniqueColumns rows
      let reasons := rowFailures requiredColumns notNullColumns uniqueColumns row
        (contractRun requiredColumns notNullColumns uniqueColumns rows).1
      { result with
        failures := result.failures ++ [⟨rows.length, reasons⟩]
        quarantinedRows := result.quarantinedRows ++
          [set row "_quarantine_reasons" (textList reasons)] } := by
  rw [evaluateQualityContracts, contractRun_snoc, contractStep]
  dsimp only
  rw [if_pos (mt rowFailures_contractRun.mp h)]
  rfl

/-- A row of a list that has got one more row is one of the list, or the last one. -/
theorem exists_split_snoc {α : Type} {P : List α → α → Prop} {items : List α} {last item : α} :
    (∃ earlier later, items ++ [last] = earlier ++ item :: later ∧ P earlier item) ↔
      (∃ earlier later, items = earlier ++ item :: later ∧ P earlier item) ∨
        (item = last ∧ P items last) := by
  constructor
  · rintro ⟨earlier, later, hwhole, h⟩
    rcases List.eq_nil_or_concat' later with rfl | ⟨later, final, rfl⟩
    · obtain ⟨rfl, hlast⟩ := List.append_inj' hwhole rfl
      rw [List.singleton_inj] at hlast
      exact Or.inr ⟨hlast.symm, hlast ▸ h⟩
    · rw [← List.cons_append, ← List.append_assoc] at hwhole
      exact Or.inl ⟨earlier, later, (List.append_inj' hwhole rfl).1, h⟩
  · rintro (⟨earlier, later, rfl, h⟩ | ⟨rfl, h⟩)
    · exact ⟨earlier, later ++ [last], by rw [List.append_assoc, List.cons_append], h⟩
    · exact ⟨items, [], rfl, h⟩

section Results

variable {requiredColumns notNullColumns uniqueColumns : List String}

/-- The rows that do not pass, as they came. -/
theorem exists_rejected (rows : List Fields) : ∃ rejected : List Fields,
    Parts (evaluateQualityContracts requiredColumns notNullColumns uniqueColumns rows).passedRows
      rejected rows ∧
    (evaluateQualityContracts requiredColumns notNullColumns uniqueColumns
      rows).quarantinedRows.map withoutReasons = rejected.map withoutReasons ∧
    ∀ row, row ∈ rejected ↔ ∃ earlier later, rows = earlier ++ row :: later ∧
      ¬Accepted requiredColumns notNullColumns uniqueColumns earlier row := by
  induction rows using List.reverseRecOn with
  | nil =>
    refine ⟨[], Parts.nil, rfl, fun row ↦ iff_of_false List.not_mem_nil ?_⟩
    rintro ⟨earlier, later, hrows, -⟩
    exact absurd hrows.symm (List.append_ne_nil_of_right_ne_nil _ (List.cons_ne_nil _ _))
  | append_singleton rows last ih =>
    obtain ⟨rejected, hparts, hrows, hmem⟩ := ih
    have hsplit := fun row ↦ @exists_split_snoc _
      (fun earlier row ↦ ¬Accepted requiredColumns notNullColumns uniqueColumns earlier row)
      rows last row
    by_cases haccepted : Accepted requiredColumns notNullColumns uniqueColumns rows last
    · refine ⟨rejected, ?_, ?_, fun row ↦ ?_⟩
      · rw [evaluate_snoc_accepted haccepted]
        exact hparts.snoc_left last
      · rw [evaluate_snoc_accepted haccepted]
        exact hrows
      · rw [hsplit, ← hmem]
        exact ⟨Or.inl, fun h ↦ h.resolve_right fun hlast ↦ hlast.2 haccepted⟩
    · refine ⟨rejected ++ [last], ?_, ?_, fun row ↦ ?_⟩
      · rw [evaluate_snoc_rejected haccepted]
        exact hparts.snoc_right last
      · rw [evaluate_snoc_rejected haccepted]
        dsimp only
        rw [List.map_append, List.map_append, hrows, List.map_singleton, List.map_singleton,
          withoutReasons_set]
      · rw [hsplit, ← hmem, List.mem_append, List.mem_singleton, and_iff_left haccepted]

section Property

variable (requiredColumns notNullColumns uniqueColumns : List String)

/-- What an evaluation of contracts promises: the passed rows and the quarantined ones, their reasons
aside, are the rows in order; the passed rows keep the contracts and pass again; and a row that fails
only by uniqueness has a text of a passed row in a unique column. -/
structure ContractsHold (rows : List Fields) (result : ContractResult) : Prop where
  partition : Parts result.passedRows (result.quarantinedRows.map withoutReasons) rows
  wellFormed : ∀ row ∈ result.passedRows, WellFormed requiredColumns notNullColumns row
  distinct : ∀ column ∈ uniqueColumns, (result.passedRows.map (columnText · column)).Nodup
  again : evaluateQualityContracts requiredColumns notNullColumns uniqueColumns result.passedRows =
    ⟨result.passedRows, [], []⟩
  justified : ∀ failure ∈ result.failures, ∀ row, rows[failure.rowIndex]? = some row →
    (∀ reason ∈ failure.reasons, ∃ column ∈ uniqueColumns, reason = "unique:" ++ column) →
      ∃ column ∈ uniqueColumns, ∃ other ∈ result.passedRows,
        columnText other column = columnText row column

/-- No row that is not accepted has a field for reasons itself; and where a well-formed row is not
accepted, no unique column is named twice, and in some unique column the first row with its text is well
formed and repeats nothing in the other columns. -/
structure ContractsFit (rows : List Fields) : Prop where
  noReasons : ∀ earlier row later, rows = earlier ++ row :: later →
    ¬Accepted requiredColumns notNullColumns uniqueColumns earlier row →
      get? row "_quarantine_reasons" = none
  firstFits : ∀ earlier row later, rows = earlier ++ row :: later →
    WellFormed requiredColumns notNullColumns row →
      ¬Accepted requiredColumns notNullColumns uniqueColumns earlier row →
        uniqueColumns.Nodup ∧ ∃ column ∈ uniqueColumns, ∃ before first between,
          earlier = before ++ first :: between ∧
          columnText first column = columnText row column ∧ ¬Repeats before first column ∧
          WellFormed requiredColumns notNullColumns first ∧
          ∀ other ∈ uniqueColumns, other ≠ column → ¬Repeats before first other

end Property

section Holding

variable {requiredColumns notNullColumns uniqueColumns : List String}

/-- The rows that pass. -/
theorem mem_passedRows {rows : List Fields} {row : Fields} :
    row ∈ (evaluateQualityContracts requiredColumns notNullColumns uniqueColumns rows).passedRows ↔
      ∃ earlier later, rows = earlier ++ row :: later ∧
        Accepted requiredColumns notNullColumns uniqueColumns earlier row := by
  induction rows using List.reverseRecOn with
  | nil =>
    refine iff_of_false List.not_mem_nil ?_
    rintro ⟨earlier, later, hrows, -⟩
    exact absurd hrows.symm (List.append_ne_nil_of_right_ne_nil _ (List.cons_ne_nil _ _))
  | append_singleton rows last ih =>
    rw [exists_split_snoc, ← ih]
    by_cases haccepted : Accepted requiredColumns notNullColumns uniqueColumns rows last
    · rw [evaluate_snoc_accepted haccepted, List.mem_append, List.mem_singleton,
        and_iff_left haccepted]
    · rw [evaluate_snoc_rejected haccepted]
      exact ⟨Or.inl, fun h ↦ h.resolve_right fun hlast ↦ haccepted hlast.2⟩

theorem mem_failures {rows : List Fields} {failure : ContractFailure}
    (h : failure ∈
      (evaluateQualityContracts requiredColumns notNullColumns uniqueColumns rows).failures) :
    ∃ earlier row later, rows = earlier ++ row :: later ∧ failure.rowIndex = earlier.length ∧
      ¬Accepted requiredColumns notNullColumns uniqueColumns earlier row ∧
      failure.reasons = rowFailures requiredColumns notNullColumns uniqueColumns row
        (contractRun requiredColumns notNullColumns uniqueColumns earlier).1 := by
  induction rows using List.reverseRecOn with
  | nil => exact absurd h List.not_mem_nil
  | append_singleton rows last ih =>
    have hearlier : failure ∈ (evaluateQualityContracts requiredColumns notNullColumns uniqueColumns
          rows).failures → ∃ earlier row later, rows ++ [last] = earlier ++ row :: later ∧
        failure.rowIndex = earlier.length ∧
        ¬Accepted requiredColumns notNullColumns uniqueColumns earlier row ∧
        failure.reasons = rowFailures requiredColumns notNullColumns uniqueColumns row
          (contractRun requiredColumns notNullColumns uniqueColumns earlier).1 := by
      intro hmem
      obtain ⟨earlier, row, later, rfl, hrest⟩ := ih hmem
      exact ⟨earlier, row, later ++ [last], by rw [List.append_assoc, List.cons_append], hrest⟩
    by_cases haccepted : Accepted requiredColumns notNullColumns uniqueColumns rows last
    · rw [evaluate_snoc_accepted haccepted] at h
      exact hearlier h
    · rw [evaluate_snoc_rejected haccepted] at h
      rcases List.mem_append.mp h with hmem | hmem
      · exact hearlier hmem
      · rw [List.mem_singleton.mp hmem]
        exact ⟨rows, last, [], rfl, rfl, haccepted, rfl⟩

theorem exists_failure {earlier later : List Fields} {row : Fields}
    (h : ¬Accepted requiredColumns notNullColumns uniqueColumns earlier row) :
    ⟨earlier.length, rowFailures requiredColumns notNullColumns uniqueColumns row
        (contractRun requiredColumns notNullColumns uniqueColumns earlier).1⟩ ∈
      (evaluateQualityContracts requiredColumns notNullColumns uniqueColumns
        (earlier ++ row :: later)).failures := by
  induction later using List.reverseRecOn with
  | nil =>
    rw [evaluate_snoc_rejected h]
    exact List.mem_append_right _ (List.mem_singleton_self _)
  | append_singleton later last ih =>
    rw [← List.cons_append, ← List.append_assoc]
    by_cases haccepted :
        Accepted requiredColumns notNullColumns uniqueColumns (earlier ++ row :: later) last
    · rw [evaluate_snoc_accepted haccepted]
      exact ih
    · rw [evaluate_snoc_rejected haccepted]
      exact List.mem_append_left _ ih

theorem nodup_passedRows {rows : List Fields} {column : String} (hcolumn : column ∈ uniqueColumns) :
    ((evaluateQualityContracts requiredColumns notNullColumns uniqueColumns
      rows).passedRows.map (columnText · column)).Nodup := by
  induction rows using List.reverseRecOn with
  | nil => exact List.nodup_nil
  | append_singleton rows last ih =>
    by_cases haccepted : Accepted requiredColumns notNullColumns uniqueColumns rows last
    · rw [evaluate_snoc_accepted haccepted]
      dsimp only
      rw [List.map_append, List.map_singleton, ← List.concat_eq_append]
      refine List.Nodup.concat ?_ ih
      intro hmem
      obtain ⟨other, hother, htext⟩ := List.mem_map.mp hmem
      obtain ⟨earlier, later, hrows, -⟩ := mem_passedRows.mp hother
      refine haccepted.2.2 column hcolumn ⟨other, ?_, htext⟩
      rw [hrows]
      exact List.mem_append_right _ List.mem_cons_self
    · rw [evaluate_snoc_rejected haccepted]
      exact ih

/-- Rows that keep the contracts all pass. -/
theorem evaluate_of_kept {rows : List Fields}
    (hformed : ∀ row ∈ rows, WellFormed requiredColumns notNullColumns row)
    (hcolumns : rows ≠ [] → uniqueColumns.Nodup)
    (hdistinct : ∀ column ∈ uniqueColumns, (rows.map (columnText · column)).Nodup) :
    evaluateQualityContracts requiredColumns notNullColumns uniqueColumns rows =
      ⟨rows, [], []⟩ := by
  induction rows using List.reverseRecOn with
  | nil => rfl
  | append_singleton rows last ih =>
    rw [List.forall_mem_append, List.forall_mem_singleton] at hformed
    have hne : rows ++ [last] ≠ [] := List.append_ne_nil_of_right_ne_nil _ (List.cons_ne_nil _ _)
    have hsplit : ∀ column ∈ uniqueColumns, (rows.map (columnText · column)).Nodup ∧
        columnText last column ∉ rows.map (columnText · column) := by
      intro column hcolumn
      have hnodup := hdistinct column hcolumn
      rw [List.map_append, List.map_singleton, ← List.concat_eq_append, List.nodup_concat] at hnodup
      exact ⟨hnodup.2, hnodup.1⟩
    have haccepted : Accepted requiredColumns notNullColumns uniqueColumns rows last := by
      refine ⟨hformed.2, hcolumns hne, fun column hcolumn ↦ ?_⟩
      rintro ⟨other, hother, htext⟩
      exact (hsplit column hcolumn).2 (List.mem_map.mpr ⟨other, hother, htext⟩)
    rw [evaluate_snoc_accepted haccepted, ih hformed.1 (fun _ ↦ hcolumns hne)
      fun column hcolumn ↦ (hsplit column hcolumn).1]

section Condition

variable {requiredColumns notNullColumns uniqueColumns : List String}

theorem mem_uniqueReasons {row : Fields} {columns : List String} {seen : UniqueSeen}
    {reason : String} (h : reason ∈ (uniqueReasons row columns seen).1) :
    ∃ column ∈ columns, reason = "unique:" ++ column := by
  induction columns generalizing seen with
  | nil => exact absurd h List.not_mem_nil
  | cons first rest ih =>
    rw [uniqueReasons] at h
    dsimp only at h
    split_ifs at h
    · rcases List.mem_cons.mp h with rfl | h
      · exact ⟨first, List.mem_cons_self, rfl⟩
      · obtain ⟨column, hcolumn, hreason⟩ := ih h
        exact ⟨column, List.mem_cons_of_mem _ hcolumn, hreason⟩
    · obtain ⟨column, hcolumn, hreason⟩ := ih h
      exact ⟨column, List.mem_cons_of_mem _ hcolumn, hreason⟩

/-- Texts with different first characters are different. -/
theorem append_ne_append {first second : String} {c d : Char} (hfirst : c ∈ first.toList.head?)
    (hsecond : d ∈ second.toList.head?) (hne : c ≠ d) (text other : String) :
    first ++ text ≠ second ++ other := by
  intro h
  have hheads := congrArg (fun text ↦ text.toList.head?) h
  rw [String.toList_append, String.toList_append, List.head?_append, List.head?_append,
    Option.mem_def.mp hfirst, Option.mem_def.mp hsecond, Option.some_or, Option.some_or,
    Option.some.injEq] at hheads
  exact hne hheads

theorem missing_ne_unique (names column : String) :
    "missing_columns:" ++ names ≠ "unique:" ++ column :=
  append_ne_append (c := 'm') (d := 'u') rfl rfl (by decide) names column

theorem notNull_ne_unique (name column : String) : "not_null:" ++ name ≠ "unique:" ++ column :=
  append_ne_append (c := 'n') (d := 'u') rfl rfl (by decide) name column

theorem only_unique_iff {row : Fields} {seen : UniqueSeen} :
    (∀ reason ∈ rowFailures requiredColumns notNullColumns uniqueColumns row seen,
        ∃ column ∈ uniqueColumns, reason = "unique:" ++ column) ↔
      WellFormed requiredColumns notNullColumns row := by
  rw [rowFailures]
  constructor
  · intro h
    constructor
    · rw [← missingReasons_eq_nil_iff]
      by_contra hmissing
      rw [missingReasons, ite_eq_left_iff, not_forall] at hmissing
      obtain ⟨hnone, -⟩ := hmissing
      obtain ⟨column, -, hreason⟩ := h _ (List.mem_append_left _ (List.mem_append_left _
        (by rw [missingReasons, if_neg hnone]; exact List.mem_cons_self)))
      exact missing_ne_unique _ _ hreason
    · intro name hname
      by_contra hempty
      rw [Bool.not_eq_false] at hempty
      obtain ⟨column, -, hreason⟩ := h ("not_null:" ++ name)
        (List.mem_append_left _ (List.mem_append_right _
          (List.mem_map_of_mem (List.mem_filter.mpr ⟨hname, hempty⟩))))
      exact notNull_ne_unique _ _ hreason
  · rintro ⟨hrequired, hnotNull⟩ reason hreason
    rw [missingReasons_eq_nil_iff.mpr hrequired, notNullReasons_eq_nil_iff.mpr hnotNull,
      List.nil_append, List.nil_append] at hreason
    exact mem_uniqueReasons hreason

theorem split_of_passed {rows earlier later : List Fields} {row other : Fields} {column : String}
    (hrows : rows = earlier ++ row :: later) (hcolumn : column ∈ uniqueColumns)
    (hrow : ¬Accepted requiredColumns notNullColumns uniqueColumns earlier row)
    (hother : other ∈
      (evaluateQualityContracts requiredColumns notNullColumns uniqueColumns rows).passedRows)
    (htext : columnText other column = columnText row column) :
    ∃ before between, earlier = before ++ other :: between ∧
      Accepted requiredColumns notNullColumns uniqueColumns before other := by
  obtain ⟨before, after, hsplit, haccepted⟩ := mem_passedRows.mp hother
  rw [hrows] at hsplit
  rcases List.append_eq_append_iff.mp hsplit with ⟨between, rfl, hbetween⟩ | ⟨between, rfl, hbetween⟩
  · cases between with
    | nil =>
      rw [List.nil_append] at hbetween
      rw [List.append_nil] at haccepted
      exact absurd ((List.cons.inj hbetween).1 ▸ haccepted) hrow
    | cons first between =>
      rw [List.cons_append] at hbetween
      refine absurd ⟨row, ?_, htext.symm⟩ (haccepted.2.2 column hcolumn)
      rw [(List.cons.inj hbetween).1]
      exact List.mem_append_right _ List.mem_cons_self
  · cases between with
    | nil =>
      rw [List.append_nil] at hrow
      exact absurd ((List.cons.inj hbetween).1 ▸ haccepted) hrow
    | cons first between =>
      rw [List.cons_append] at hbetween
      exact ⟨before, between, by rw [(List.cons.inj hbetween).1], haccepted⟩

theorem noReasons_iff_partition {rows : List Fields} :
    Parts (evaluateQualityContracts requiredColumns notNullColumns uniqueColumns rows).passedRows
        ((evaluateQualityContracts requiredColumns notNullColumns uniqueColumns
          rows).quarantinedRows.map withoutReasons) rows ↔
      ∀ earlier row later, rows = earlier ++ row :: later →
        ¬Accepted requiredColumns notNullColumns uniqueColumns earlier row →
          get? row "_quarantine_reasons" = none := by
  obtain ⟨rejected, hparts, hquarantined, hmem⟩ :=
    @exists_rejected requiredColumns notNullColumns uniqueColumns rows
  rw [hquarantined]
  constructor
  · intro h earlier row later hrows hnot
    have hrejected : row ∈ rejected := (hmem row).mpr ⟨earlier, later, hrows, hnot⟩
    obtain ⟨other, -, hother⟩ := List.mem_map.mp ((h.perm_right hparts).mem_iff.mpr hrejected)
    rw [← withoutReasons_eq_self_iff, ← hother, withoutReasons, withoutReasons, List.filter_filter]
    simp only [Bool.and_self]
  · intro h
    have hsame : rejected.map withoutReasons = rejected := by
      conv_rhs => rw [← List.map_id rejected]
      refine List.map_congr_left fun row hrow ↦ ?_
      obtain ⟨earlier, later, hrows, hnot⟩ := (hmem row).mp hrow
      exact withoutReasons_eq_self_iff.mpr (h earlier row later hrows hnot)
    rw [hsame]
    exact hparts

/-- An evaluation keeps what it promises exactly when the rows it quarantines have no field for reasons
themselves, and those it quarantines for uniqueness alone repeat rows that are in order. -/
theorem contractsHold_iff (requiredColumns notNullColumns uniqueColumns : List String)
    (rows : List Fields) :
    ContractsHold requiredColumns notNullColumns uniqueColumns rows
        (evaluateQualityContracts requiredColumns notNullColumns uniqueColumns rows) ↔
      ContractsFit requiredColumns notNullColumns uniqueColumns rows := by
  constructor
  · intro h
    refine ⟨noReasons_iff_partition.mp h.partition, fun earlier row later hrows hformed hnot ↦ ?_⟩
    have hplace : rows[earlier.length]? = some row := by
      rw [hrows, List.getElem?_append_right (Nat.le_refl _), Nat.sub_self, List.getElem?_cons_zero]
    obtain ⟨column, hcolumn, other, hother, htext⟩ := h.justified _
      (hrows ▸ exists_failure hnot) row hplace (only_unique_iff.mpr hformed)
    obtain ⟨before, between, hearlier, haccepted⟩ :=
      split_of_passed hrows hcolumn hnot hother htext
    exact ⟨haccepted.2.1, column, hcolumn, before, other, between, hearlier, htext,
      haccepted.2.2 column hcolumn, haccepted.1,
      fun name hname _ ↦ haccepted.2.2 name hname⟩
  · intro h
    refine ⟨noReasons_iff_partition.mpr h.noReasons, fun row hrow ↦ ?_,
      fun column hcolumn ↦ nodup_passedRows hcolumn, ?_, fun failure hfailure row hplace honly ↦ ?_⟩
    · obtain ⟨_, _, -, haccepted⟩ := mem_passedRows.mp hrow
      exact haccepted.1
    · refine evaluate_of_kept (fun row hrow ↦ ?_) (fun hne ↦ ?_)
        fun column hcolumn ↦ nodup_passedRows hcolumn
      · obtain ⟨_, _, -, haccepted⟩ := mem_passedRows.mp hrow
        exact haccepted.1
      · obtain ⟨row, hrow⟩ := List.exists_mem_of_ne_nil _ hne
        obtain ⟨_, _, -, haccepted⟩ := mem_passedRows.mp hrow
        exact haccepted.2.1
    · obtain ⟨earlier, found, later, hrows, hindex, hnot, hreasons⟩ := mem_failures hfailure
      have hfound : found = row := by
        rw [hindex, hrows, List.getElem?_append_right (Nat.le_refl _), Nat.sub_self,
          List.getElem?_cons_zero] at hplace
        exact Option.some.inj hplace
      subst hfound
      rw [hreasons] at honly
      obtain ⟨hcolumns, column, hcolumn, before, first, between, hearlier, htext, hnew, hformed,
        hothers⟩ := h.firstFits earlier found later hrows (only_unique_iff.mp honly) hnot
      refine ⟨column, hcolumn, first, mem_passedRows.mpr
        ⟨before, between ++ found :: later, ?_, hformed, hcolumns, fun name hname ↦ ?_⟩, htext⟩
      · rw [hrows, hearlier, List.append_assoc, List.cons_append]
      · by_cases hsame : name = column
        · rw [hsame]
          exact hnew
        · exact hothers name hname hsame

/-- A row with a fresh text is quarantined because a row that was quarantined before it had the text. -/
theorem quarantined_text_is_taken : ¬ContractsHold ["id"] ["email"] ["id"]
    [[("id", .str "1"), ("email", .str "")], [("id", .str "1"), ("email", .str "a@example.com")]]
    (evaluateQualityContracts ["id"] ["email"] ["id"]
      [[("id", .str "1"), ("email", .str "")],
        [("id", .str "1"), ("email", .str "a@example.com")]]) := by
  intro h
  obtain ⟨column, hcolumn, other, hother, -⟩ := h.justified ⟨1, ["unique:id"]⟩
    (List.mem_cons_of_mem _ List.mem_cons_self) _ rfl (by decide)
  exact absurd hother List.not_mem_nil

end Condition

end Holding

end Results

end Runs

end Evaluation

end SchemaPilot.Workers
