import SchemaPilot.Gateway.Interface
import SchemaPilot.Library.Except

/-!
# Running a query

`backend/gateway/executor.py`. A query text passes the token deny-list (`validateReadOnlyQuery`),
runs on Trino or on a fresh DuckDB with the views of the workspace's published snapshot, and its
rows are filtered by the ABAC row filter, which is looked up among the output columns by name
(`applyOptionalRowFilter`), and capped.
-/

namespace SchemaPilot.Gateway

open Library Library.Text SharedDomain

/-- `UNSAFE_SQL_KEYWORDS`. -/
def unsafeSqlKeywords : List String :=
  ["insert", "update", "delete", "drop", "alter", "attach", "detach", "copy", "export", "pragma",
    "vacuum", "create", "replace", "truncate", "read_csv", "read_csv_auto", "read_parquet",
    "read_json", "read_json_auto", "glob", "install", "load", "httpfs"]

/-- `_validate_read_only_query`. -/
def validateReadOnlyQuery (query : String) : Except Exn String :=
  let normalized := if strip query = "" then "select 1 as one" else strip query
  let lowered := lower normalized
  if ';' ∈ normalized.toList then .error (.unsafeSql "multiple_sql_statements_denied")
  else if ¬("select".toList <+: lowered.toList ∨ "with ".toList <+: lowered.toList) then
    .error (.unsafeSql "only_select_or_cte_queries_allowed")
  else
    match (words lowered).find? fun token ↦ unsafeSqlKeywords.contains token with
    | some token => .error (.unsafeSql ("unsafe_sql_keyword_denied:" ++ token))
    | none => .ok normalized

/-- An accepted text is passed on stripped, or replaced when it is blank. -/
theorem validateReadOnlyQuery_text {query text : String}
    (h : validateReadOnlyQuery query = .ok text) :
    text = if strip query = "" then "select 1 as one" else strip query := by
  unfold validateReadOnlyQuery at h
  simp only [ite_error_eq_ok_iff] at h
  obtain ⟨-, -, h⟩ := h
  split at h
  · cases h
  · exact (Except.ok.inj h).symm

/-- `_normalized_max_rows`. -/
def normalizedMaxRows (maxRows : ℤ) : ℕ := if maxRows ≤ 0 then 1 else (min maxRows 5000).toNat

/-- `_validate_filter_column`. -/
def validateFilterColumn (column : String) : Except Exn String :=
  if matchesIdentifier (strip column) then .ok (strip column)
  else .error (.valueError ("Invalid ABAC filter column: " ++ column))

/-- The loop of `_apply_optional_row_filter`: rows too short for the filter column are skipped, and
the loop ends once enough rows are kept. -/
def filterRows (filterIdx : ℕ) (filterValue : String) (cappedRows : ℕ)
    (filtered : List (List Sql.Cell)) : List (List Sql.Cell) → List (List Sql.Cell)
  | [] => filtered
  | row :: rest =>
    match row[filterIdx]? with
    | none => filterRows filterIdx filterValue cappedRows filtered rest
    | some cell =>
      let kept := if cell.toStr = filterValue then filtered ++ [row] else filtered
      if cappedRows ≤ kept.length then kept
      else filterRows filterIdx filterValue cappedRows kept rest

/-- `_apply_optional_row_filter`. -/
def applyOptionalRowFilter (columns : List Column) (rows : List (List Sql.Cell))
    (rowFilter : Option (String × String)) (cappedRows : ℕ) :
    Except Exn (List (List Sql.Cell)) :=
  match rowFilter with
  | none => .ok (rows.take cappedRows)
  | some (filterColumn, filterValue) => do
    let normalizedColumn ← validateFilterColumn filterColumn
    match columns.findIdx? fun column ↦ column.name == normalizedColumn with
    | none => .ok []
    | some filterIdx => .ok (filterRows filterIdx filterValue cappedRows [] rows)

/-- `_safe_identifier`. -/
def safeIdentifier (value : String) : String :=
  match value.toList.map fun c ↦ if isWordPart c then c else '_' with
  | [] => "model"
  | c :: rest => if c.isDigit then String.ofList ('_' :: c :: rest) else String.ofList (c :: rest)

/-- The path of the data file of a published snapshot. -/
def metricsPath (storageRoot workspaceId modelName snapshotId : String) : List String :=
  [storageRoot, "gold", workspaceId, modelName, "snapshots", snapshotId, "metrics.json"]

/-- `_prepare_published_gold_views`: the views to create, none when nothing usable is published. -/
def preparePublishedGoldViews (settings : Settings) (workspaceId : String) :
    Handler (Option PublishedViews) :=
  if workspaceId = "" then pure none
  else do
    let pointer ← ask (.latestGoldPointer workspaceId)
    match pointer with
    | none => pure none
    | some pointer =>
      let modelName := strip pointer.modelName
      let snapshotId := strip pointer.snapshotId
      if modelName = "" ∨ snapshotId = "" then pure none
      else do
        let dataPath := metricsPath settings.storageRoot workspaceId modelName snapshotId
        let found ← ask (.pathExists dataPath)
        pure (if found then some ⟨dataPath, safeIdentifier modelName⟩ else none)

/-- `QueryResult`; its `row_count` is the number of its rows. -/
structure QueryResult where
  columns : List Column
  rows : List (List Sql.Cell)
  executionMetadata : Fields

/-- The Trino branch of `execute_sql`. -/
def executeTrino (query : String) (cappedRows : ℕ) (rowFilter : Option (String × String))
    (budgetMs : ℤ) : Handler QueryResult := do
  let (answer, metadata) ← (ask (.runTrino query cappedRows budgetMs)).tryExcept fun
    | .timeout _ => Program.raise (.queryTimeout "query_timeout_exceeded")
    | exception => Program.raise exception
  let late ← ask (.elapsedExceeds budgetMs)
  if late then Program.raise (.queryTimeout "query_timeout_exceeded")
  else do
    let rows ← Program.ofExcept
      (applyOptionalRowFilter answer.columns answer.rows rowFilter cappedRows)
    pure ⟨answer.columns, rows, metadata⟩

/-- The DuckDB branch of `execute_sql`; without a row filter only the capped rows are fetched. -/
def executeDuckdb (settings : Settings) (query : String) (cappedRows : ℕ)
    (rowFilter : Option (String × String)) (budgetMs : ℤ) (workspaceId : String) :
    Handler QueryResult := do
  let views ← preparePublishedGoldViews settings workspaceId
  let answer ← ask (.runDuckdb views query)
  let late ← ask (.elapsedExceeds budgetMs)
  if late then Program.raise (.queryTimeout "query_timeout_exceeded")
  else do
    let rows ← Program.ofExcept
      (applyOptionalRowFilter answer.columns answer.rows rowFilter cappedRows)
    pure ⟨answer.columns, rows, []⟩

/-- `execute_sql`. -/
def executeSql (settings : Settings) (sql : String) (maxRows : ℤ)
    (rowFilter : Option (String × String)) (timeoutMs : ℤ) (workspaceId : String) :
    Handler QueryResult := do
  let query ← Program.ofExcept
    (validateReadOnlyQuery (if sql = "" then "select 1 as one" else sql))
  let cappedRows := normalizedMaxRows maxRows
  let budgetMs := max 1 (min timeoutMs 60000)
  if budgetMs ≤ 1 then Program.raise (.queryTimeout "query_timeout_exceeded")
  else if settings.queryEngine = "trino" then executeTrino query cappedRows rowFilter budgetMs
  else executeDuckdb settings query cappedRows rowFilter budgetMs workspaceId

theorem normalizedMaxRows_pos (maxRows : ℤ) : 0 < normalizedMaxRows maxRows := by
  unfold normalizedMaxRows
  split_ifs <;> omega

def rowReads (filterIdx : ℕ) (filterValue : String) (row : List Sql.Cell) : Bool :=
  match row[filterIdx]? with
  | some cell => cell.toStr == filterValue
  | none => false

/-- As long as there is room, the loop adds the rows that read as the filter value, up to the
cap. -/
theorem filterRows_eq (filterIdx : ℕ) (filterValue : String) (cappedRows : ℕ)
    (rows : List (List Sql.Cell)) : ∀ filtered : List (List Sql.Cell),
    filtered.length < cappedRows →
      filterRows filterIdx filterValue cappedRows filtered rows =
        filtered ++
          (rows.filter (rowReads filterIdx filterValue)).take (cappedRows - filtered.length) := by
  induction rows with
  | nil => simp [filterRows]
  | cons row rest ih =>
    intro filtered hroom
    cases hcell : row[filterIdx]? with
    | none =>
      have hreads : rowReads filterIdx filterValue row = false := by simp [rowReads, hcell]
      rw [filterRows, hcell, ih filtered hroom, List.filter_cons_of_neg (by simp [hreads])]
    | some cell =>
      simp only [filterRows, hcell]
      by_cases hvalue : cell.toStr = filterValue
      · have hreads : rowReads filterIdx filterValue row = true := by
          simp [rowReads, hcell, hvalue]
        rw [if_pos hvalue, List.filter_cons_of_pos hreads]
        obtain ⟨room, hlength⟩ : ∃ room, cappedRows - filtered.length = room + 1 :=
          ⟨cappedRows - filtered.length - 1, by omega⟩
        rw [hlength, List.take_succ_cons]
        by_cases hfull : cappedRows ≤ (filtered ++ [row]).length
        · have hroom' : room = 0 := by
            rw [List.length_append, List.length_singleton] at hfull
            omega
          rw [if_pos hfull, hroom', List.take_zero]
        · have hnext : cappedRows - (filtered ++ [row]).length = room := by
            rw [List.length_append, List.length_singleton]
            omega
          rw [if_neg hfull, ih _ (by omega), hnext, List.append_assoc, List.singleton_append]
      · have hreads : rowReads filterIdx filterValue row = false := by
          simp [rowReads, hcell, hvalue]
        rw [if_neg hvalue, if_neg (by omega), ih filtered hroom,
          List.filter_cons_of_neg (by simp [hreads])]

end SchemaPilot.Gateway
