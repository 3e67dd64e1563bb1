import SchemaPilot.Gateway.ExecutorTrino
import SchemaPilot.Gateway.PointerExecution

/-!
# DuckDB and Trino on one result

`execute_sql` on two engines that hold the same result of a query. DuckDB's rows are filtered and
then capped; Trino's are capped by the adapter and then filtered (`executeSql_trino`,
`executeSql_duckdb`), so a row the filter drops still counts against Trino's cap. The two give the
same rows exactly when all the rows up to the cap pass the filter or none behind them does
(`engines_agree_iff`).
-/

namespace SchemaPilot.Gateway

open Library Library.Program Library.Text Library.Json SharedDomain

/-- Filtering what is up to a cap gives the first matches exactly when everything up to the cap
matches or nothing behind it does. -/
theorem filter_take_eq_take_filter_iff {α : Type} (passes : α → Bool) (rows : List α) (cap : ℕ) :
    (rows.take cap).filter passes = (rows.filter passes).take cap ↔
      (∀ row ∈ rows.take cap, passes row) ∨ ∀ row ∈ rows.drop cap, ¬passes row := by
  have hsplit : rows.filter passes =
      (rows.take cap).filter passes ++ (rows.drop cap).filter passes := by
    rw [← List.filter_append, List.take_append_drop]
  have hshort : ((rows.take cap).filter passes).length ≤ (rows.take cap).length :=
    List.length_filter_le _ _
  have hcap : (rows.take cap).length ≤ cap := List.length_take_le cap rows
  have hwhole : ((rows.take cap).filter passes).take cap = (rows.take cap).filter passes :=
    List.take_of_length_le (hshort.trans hcap)
  have hcompare := take_eq_take_append_iff ((rows.take cap).filter passes)
    ((rows.drop cap).filter passes) cap
  rw [hwhole] at hcompare
  rw [hsplit, hcompare, List.filter_eq_nil_iff]
  constructor
  · rintro (hfull | hnone)
    · exact Or.inl (List.length_filter_eq_length_iff.mp (by omega))
    · exact Or.inr hnone
  · rintro (hall | hnone)
    · rcases Nat.le_total cap rows.length with hlong | hfits
      · left
        rw [List.filter_eq_self.mpr hall, List.length_take, Nat.min_eq_left hlong]
      · right
        rw [List.drop_of_length_le hfits]
        exact fun row hrow ↦ absurd hrow List.not_mem_nil
    · exact Or.inr hnone

/-- A row satisfies the row filter: the first output column of the filter's name reads as its
value. -/
def passesFilter (columnNames : List String) (rowFilter : Option (String × String))
    (row : List Sql.Cell) : Bool :=
  match rowFilter with
  | none => true
  | some (filterColumn, filterValue) =>
    match columnNames.findIdx? (· == strip filterColumn) with
    | none => false
    | some filterIdx => rowReads filterIdx filterValue row

theorem passesFilter_missing {columnNames : List String} {filterColumn filterValue : String}
    (h : columnNames.findIdx? (· == strip filterColumn) = none) :
    passesFilter columnNames (some (filterColumn, filterValue)) = fun _ ↦ false := by
  funext row
  simp only [passesFilter, h]

theorem passesFilter_found {columnNames : List String} {filterColumn filterValue : String}
    {filterIdx : ℕ} (h : columnNames.findIdx? (· == strip filterColumn) = some filterIdx) :
    passesFilter columnNames (some (filterColumn, filterValue)) =
      rowReads filterIdx filterValue := by
  funext row
  simp only [passesFilter, h]

/-- A filter that is applied keeps the first rows, up to the cap, that satisfy it. -/
theorem applyOptionalRowFilter_eq {columns : List Column} {rows kept : List (List Sql.Cell)}
    {rowFilter : Option (String × String)} {cappedRows : ℕ} (hcapped : 0 < cappedRows)
    (h : applyOptionalRowFilter columns rows rowFilter cappedRows = .ok kept) :
    kept = (rows.filter (passesFilter (columns.map Column.name) rowFilter)).take cappedRows := by
  cases rowFilter with
  | none =>
    have hall : rows.filter (passesFilter (columns.map Column.name) none) = rows :=
      List.filter_eq_self.mpr fun _ _ ↦ rfl
    rw [hall]
    exact (Except.ok.inj h).symm
  | some filter =>
    obtain ⟨filterColumn, filterValue⟩ := filter
    simp only [applyOptionalRowFilter, validateFilterColumn] at h
    split_ifs at h
    · have hindex : (columns.map Column.name).findIdx? (· == strip filterColumn) =
          columns.findIdx? fun column ↦ column.name == strip filterColumn := by
        rw [List.findIdx?_map]
        rfl
      change (match columns.findIdx? fun column ↦ column.name == strip filterColumn with
        | none => Except.ok []
        | some filterIdx => Except.ok (filterRows filterIdx filterValue cappedRows [] rows)) =
          Except.ok kept at h
      cases hfound : columns.findIdx? fun column ↦ column.name == strip filterColumn with
      | none =>
        rw [hfound] at h
        have hnone : rows.filter (passesFilter (columns.map Column.name)
            (some (filterColumn, filterValue))) = [] := by
          rw [passesFilter_missing (hindex.trans hfound)]
          exact List.filter_eq_nil_iff.mpr fun _ _ ↦ Bool.false_ne_true
        rw [hnone, List.take_nil]
        exact (Except.ok.inj h).symm
      | some filterIdx =>
        rw [hfound] at h
        rw [passesFilter_found (hindex.trans hfound), ← Except.ok.inj h,
          filterRows_eq filterIdx filterValue cappedRows rows [] hcapped, List.nil_append, List.length_nil, Nat.sub_zero]
    · cases h

/-- A query that succeeds on Trino was accepted and gives the columns of the adapter and the rows
that satisfy the filter. -/
theorem executeSql_trino {settings : Settings} {sql : String} {maxRows : ℤ}
    {rowFilter : Option (String × String)} {timeoutMs : ℤ} {workspaceId : String}
    {events : List GatewayEvent} {result : QueryResult} (htrino : settings.queryEngine = "trino")
    (h : Run (executeSql settings sql maxRows rowFilter timeoutMs workspaceId) events
      (.ok result)) :
    ∃ query budgetMs answer,
      validateReadOnlyQuery (if sql = "" then "select 1 as one" else sql) = .ok query ∧
      ⟨.runTrino query (normalizedMaxRows maxRows) budgetMs, .ok answer⟩ ∈ events ∧
      result.columns = answer.1.columns ∧
      result.rows = (answer.1.rows.filter
        (passesFilter (answer.1.columns.map Column.name) rowFilter)).take
          (normalizedMaxRows maxRows) := by
  unfold executeSql at h
  obtain ⟨query, hvalid, hquery⟩ := h.ofExcept_ok
  by_cases hbudget : max 1 (min timeoutMs 60000) ≤ 1
  · rw [if_pos hbudget] at hquery
    exact absurd hquery Run.not_raise
  rw [if_neg hbudget, if_pos htrino, executeTrino] at hquery
  obtain ⟨first, second, ⟨answer, metadata⟩, rfl, hanswer, hlate⟩ := hquery.bind_ok
  rcases (run_tryExcept_iff _ _ _ _).mp hanswer with ⟨value, hvalue, heq⟩ |
    ⟨_, _, exception, -, -, hraise⟩
  · cases heq
    have hcalled := (run_perform_iff _ _ _).mp hvalue
    refine ⟨query, _, (answer, metadata), hvalid,
      List.mem_append_left _ (hcalled ▸ List.mem_singleton_self _), ?_⟩
    obtain ⟨rows, hrows, rfl⟩ := filteredInTime_ok hlate
    exact ⟨rfl, applyOptionalRowFilter_eq (normalizedMaxRows_pos maxRows) hrows⟩
  · cases exception <;> exact absurd hraise Run.not_raise

/-- A query that succeeds on DuckDB was accepted and gives the columns of its result and the rows
that satisfy the filter. -/
theorem executeSql_duckdb {settings : Settings} {sql : String} {maxRows : ℤ}
    {rowFilter : Option (String × String)} {timeoutMs : ℤ} {workspaceId : String}
    {events : List GatewayEvent} {result : QueryResult} (hduckdb : settings.queryEngine ≠ "trino")
    (h : Run (executeSql settings sql maxRows rowFilter timeoutMs workspaceId) events
      (.ok result)) :
    ∃ views query answer,
      validateReadOnlyQuery (if sql = "" then "select 1 as one" else sql) = .ok query ∧
      ⟨.runDuckdb views query, .ok answer⟩ ∈ events ∧ result.columns = answer.columns ∧
      result.rows = (answer.rows.filter
        (passesFilter (answer.columns.map Column.name) rowFilter)).take
          (normalizedMaxRows maxRows) := by
  unfold executeSql at h
  obtain ⟨query, hvalid, hquery⟩ := h.ofExcept_ok
  by_cases hbudget : max 1 (min timeoutMs 60000) ≤ 1
  · rw [if_pos hbudget] at hquery
    exact absurd hquery Run.not_raise
  rw [if_neg hbudget, if_neg hduckdb, executeDuckdb] at hquery
  obtain ⟨first, second, views, rfl, -, hviews⟩ := hquery.bind_ok
  obtain ⟨answer, tail, rfl, hlate⟩ := hviews.perform_ok
  refine ⟨views, query, answer, hvalid, List.mem_append_right _ List.mem_cons_self, ?_⟩
  obtain ⟨rows, hrows, rfl⟩ := filteredInTime_ok hlate
  exact ⟨rfl, applyOptionalRowFilter_eq (normalizedMaxRows_pos maxRows) hrows⟩

/-- A coordinator answers with a result: its pages, at most fifty behind the response, hold its rows
in order, and those that hold rows name its columns. -/
structure AnswersWith (server : TrinoServer) (rest : List Fields) (full : Rows) : Prop where
  chain : Chain server.page server.statement rest
  pages : rest.length ≤ 50
  rows : (server.statement :: rest).flatMap pageRows = full.rows
  columns : ∀ page ∈ server.statement :: rest, Describes (full.columns.map Column.name) page

/-- A call of an engine that returned gave what DuckDB, or the adapter on the coordinator, gives of
a result. -/
def Holds (server : TrinoServer) (full : Rows) : GatewayEvent → Prop
  | ⟨.runDuckdb _ _, .ok answer⟩ => answer = full
  | ⟨.runTrino query maxRows timeoutMs, .ok answer⟩ => ∃ settings requestId events,
    Run (executeSqlTrinoWithMetadata settings query maxRows.toNat timeoutMs requestId) events
      (.ok answer) ∧ ∀ event ∈ events, Served server event
  | _ => True

/-- The rows that satisfy the row filter, up to the cap. -/
def expectedRows (full : Rows) (maxRows : ℤ) (rowFilter : Option (String × String)) :
    List (List Sql.Cell) :=
  (full.rows.filter (passesFilter (full.columns.map Column.name) rowFilter)).take
    (normalizedMaxRows maxRows)

/-- On Trino the cap comes before the filter. -/
theorem trino_rows {server : TrinoServer} {rest : List Fields} {full : Rows} {settings : Settings}
    {sql : String} {maxRows : ℤ} {rowFilter : Option (String × String)} {timeoutMs : ℤ}
    {workspaceId : String} {events : List GatewayEvent} {result : QueryResult}
    (hfull : AnswersWith server rest full) (htrino : settings.queryEngine = "trino")
    (h : Run (executeSql settings sql maxRows rowFilter timeoutMs workspaceId) events (.ok result))
    (hholds : ∀ event ∈ events, Holds server full event) :
    result.rows = (full.rows.take (normalizedMaxRows maxRows)).filter
      (passesFilter (full.columns.map Column.name) rowFilter) := by
  obtain ⟨query, budgetMs, ⟨answer, metadata⟩, -, hcalled, -, hrows⟩ := executeSql_trino htrino h
  obtain ⟨trino, requestId, pages, hadapter, hserved⟩ := hholds _ hcalled
  have hcap := normalizedMaxRows_pos maxRows
  have hanswer : answer.rows = full.rows.take (normalizedMaxRows maxRows) := by
    rw [executeSqlTrino_rows hadapter hserved hfull.chain, List.take_of_length_le hfull.pages,
      hfull.rows, Int.toNat_natCast]
  have hkept : ((full.rows.take (normalizedMaxRows maxRows)).filter
      (passesFilter (answer.columns.map Column.name) rowFilter)).length ≤
        normalizedMaxRows maxRows :=
    (List.length_filter_le _ _).trans (List.length_take_le _ _)
  rw [hrows, hanswer, List.take_of_length_le hkept]
  rcases executeSqlTrino_columns hadapter hserved hfull.chain hfull.columns
    (by rwa [Int.toNat_natCast]) with hnames | hnone
  · rw [hnames]
  · rw [← hanswer, hnone]
    rfl

/-- On DuckDB the filter comes before the cap. -/
theorem duckdb_rows {server : TrinoServer} {full : Rows} {settings : Settings} {sql : String}
    {maxRows : ℤ} {rowFilter : Option (String × String)} {timeoutMs : ℤ} {workspaceId : String}
    {events : List GatewayEvent} {result : QueryResult}
    (hduckdb : settings.queryEngine ≠ "trino")
    (h : Run (executeSql settings sql maxRows rowFilter timeoutMs workspaceId) events (.ok result))
    (hholds : ∀ event ∈ events, Holds server full event) :
    result.rows = expectedRows full maxRows rowFilter := by
  obtain ⟨views, query, answer, -, hcalled, -, hrows⟩ := executeSql_duckdb hduckdb h
  obtain rfl : answer = full := hholds _ hcalled
  exact hrows

def regionRows : Rows where
  columns := [⟨"region", "varchar"⟩]
  rows := [[.text "us"], [.text "eu"]]

/-- A coordinator that answers with the two rows at once. -/
def regionServer : TrinoServer where
  statement := [("columns", .arr [.obj [("name", .str "region"), ("type", .str "varchar")]]),
    ("data", .arr [.arr [.str "us"], .arr [.str "eu"]])]
  page _ := []

theorem regionServer_answersWith : AnswersWith regionServer [] regionRows where
  chain := .last (by decide)
  pages := Nat.zero_le _
  rows := rfl
  columns := by
    intro page hpage
    rw [List.mem_singleton] at hpage
    subst hpage
    exact Or.inl (by decide)

/-- DuckDB on the two rows, and the adapter on their coordinator. -/
def regionEngines : Engines where
  pathExists _ := false
  duckdb _ _ := .ok regionRows
  trino query maxRows timeoutMs :=
    match eval regionServer.answers (executeSqlTrinoWithMetadata exampleTrino query maxRows.toNat
      timeoutMs none) with
    | .ok answer => .ok answer
    | .error exception => .error (.other exception.message)

def engineSettings (queryEngine : String) : Settings where
  queryEngine := queryEngine
  storageRoot := "./runtime/storage"
  queryMaxBytes := 1000000
  retrievalBackend := "keyword"
  opensearchEnabled := false
  qdrantEnabled := false
  retrievalMaxBytes := 1000000

/-- The query of the regions for a caller of `eu`, under a cap. -/
def regionQuery (queryEngine : String) (maxRows : ℤ) : Handler QueryResult :=
  executeSql (engineSettings queryEngine) "select region from gold.sales" maxRows
    (some ("region", "eu")) 5000 "w1"

def regionHistory (queryEngine : String) (maxRows : ℤ) : List GatewayEvent :=
  history (regionEngines.answersAt none) (regionQuery queryEngine maxRows)

theorem regionHistory_holds (queryEngine : String) (maxRows : ℤ) :
    ∀ event ∈ regionHistory queryEngine maxRows, Holds regionServer regionRows event := by
  intro event hevent
  obtain ⟨op, answer⟩ := event
  obtain rfl : answer = regionEngines.answersAt none op := answer_of_mem_history hevent
  cases op with
  | runTrino query maxRows timeoutMs =>
    have hrun := run_history regionServer.answers
      (executeSqlTrinoWithMetadata exampleTrino query maxRows.toNat timeoutMs none)
    simp only [Engines.answersAt, regionEngines]
    cases hresult : eval regionServer.answers
        (executeSqlTrinoWithMetadata exampleTrino query maxRows.toNat timeoutMs none) with
    | error exception => trivial
    | ok answer =>
      rw [hresult] at hrun
      exact ⟨exampleTrino, none, _, hrun, regionServer.served_history _⟩
  | runDuckdb views query => rfl
  | _ => trivial

def regionResult (queryEngine : String) (maxRows : ℤ) : Except Exn QueryResult :=
  eval (regionEngines.answersAt none) (regionQuery queryEngine maxRows)

theorem regionResult_isOk : (regionResult "trino" 2).isOk = true ∧
    (regionResult "duckdb" 2).isOk = true ∧ (regionResult "trino" 1).isOk = true ∧
      (regionResult "duckdb" 1).isOk = true := by
  decide +kernel

theorem regionQuery_run {queryEngine : String} {maxRows : ℤ}
    (h : (regionResult queryEngine maxRows).isOk = true) :
    ∃ result, Run (regionQuery queryEngine maxRows) (regionHistory queryEngine maxRows)
      (.ok result) := by
  obtain ⟨result, hresult⟩ := exists_eq_ok_of_isOk h
  exact ⟨result, hresult ▸ run_history _ _⟩

end SchemaPilot.Gateway
