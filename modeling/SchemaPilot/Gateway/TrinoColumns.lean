import SchemaPilot.Gateway.ExecutorTrino

/-!
# The columns of a Trino result

`_extract_columns` leaves out what has no name, `_extract_rows` keeps every cell, and the columns are
those of the first page that names any. The filter, the masks and the response take the column of a cell
by its position, so the columns describe the cells exactly where no unnamed column stands among those the
rows reach and the pages agree on them (`columns_describe_iff`).
-/

namespace SchemaPilot.Gateway

open Library Library.Program Library.Text Library.Json SharedDomain

/-- The column an item of `columns` announces, its name blank or not. -/
def announcedColumn (item : Json) : Option Column :=
  item.asObj?.map fun row ↦
    ⟨strip (getD row "name" (.str "")).toStr, (getD row "type" (.str "unknown")).toStr⟩

/-- The items of `columns`, none if it is no list. -/
def columnItems (page : Fields) : List Json := ((getD page "columns" (.arr [])).asArr?).getD []

/-- The column a page announces at a position, where its cells of that position belong. -/
def announced (page : Fields) (position : ℕ) : Option Column :=
  (columnItems page)[position]?.bind announcedColumn

def Named (page : Fields) (position : ℕ) : Prop := ∃ column ∈ announced page position, column.name ≠ ""

/-- The columns of the first page that names any. -/
def headerColumns (pages : List Fields) : List Column :=
  ((pages.map extractColumns).find? (· ≠ [])).getD []

def sourcedRows (maxRows : ℕ) (pages : List Fields) : List (Fields × List Sql.Cell) :=
  (pages.flatMap fun page ↦ (pageRows page).map (page, ·)).take maxRows

/-- Every column describes the cells in its position: it is what the page of the row announces there. -/
def ColumnsDescribe (columns : List Column) (rows : List (Fields × List Sql.Cell)) : Prop :=
  ∀ source ∈ rows, ∀ position < source.2.length, ∀ column ∈ columns[position]?,
    announced source.1 position = some column

/-- In the pages of the rows, the columns the rows reach have names, and are the named columns the header
begins with. -/
def NamedAlike (columns : List Column) (rows : List (Fields × List Sql.Cell)) : Prop :=
  ∀ source ∈ rows,
    (∀ position < min source.2.length columns.length, Named source.1 position) ∧
      (extractColumns source.1).take (min source.2.length columns.length) =
        columns.take (min source.2.length columns.length)

theorem extractColumns_eq (page : Fields) : extractColumns page =
    (columnItems page).filterMap fun item ↦
      (announcedColumn item).filter fun column ↦ column.name ≠ "" := by
  unfold extractColumns columnItems
  cases getD page "columns" (.arr []) with
  | arr items =>
    refine congrArg (fun f ↦ items.filterMap f) (funext fun item ↦ ?_)
    unfold announcedColumn
    cases item.asObj? with
    | none => rfl
    | some row =>
      by_cases hname : strip (getD row "name" (.str "")).toStr = ""
      · simp [Option.filter, hname]
      · simp [Option.filter, hname]
  | _ => rfl

theorem name_ne_of_mem_extractColumns {page : Fields} {column : Column}
    (h : column ∈ extractColumns page) : column.name ≠ "" := by
  rw [extractColumns_eq, List.mem_filterMap] at h
  obtain ⟨item, -, hkept⟩ := h
  exact of_decide_eq_true (Option.filter_eq_some_iff.mp hkept).2

/-- As long as every item is kept, the items kept are the items. -/
theorem getElem?_filterMap_of_forall {α β : Type} {f : α → Option β} {items : List α} :
    ∀ {position : ℕ}, (∀ earlier ≤ position, ∃ value, items[earlier]?.bind f = some value) →
      (items.filterMap f)[position]? = items[position]?.bind f := by
  induction items with
  | nil =>
    intro position _
    rfl
  | cons item rest ih =>
    intro position h
    obtain ⟨value, hvalue⟩ := h 0 (Nat.zero_le _)
    have hkept : f item = some value := hvalue
    rw [List.filterMap_cons_some hkept]
    cases position with
    | zero => exact hkept.symm
    | succ position =>
      rw [List.getElem?_cons_succ, List.getElem?_cons_succ]
      exact ih fun earlier hearlier ↦ h (earlier + 1) (Nat.succ_le_succ hearlier)

theorem getElem?_extractColumns {page : Fields} {position : ℕ}
    (h : ∀ earlier ≤ position, Named page earlier) :
    (extractColumns page)[position]? = announced page position := by
  have hkept : ∀ earlier ≤ position, (columnItems page)[earlier]?.bind (fun item ↦
      (announcedColumn item).filter fun column ↦ column.name ≠ "") = announced page earlier := by
    intro earlier hearlier
    obtain ⟨column, hcolumn, hname⟩ := h earlier hearlier
    obtain ⟨item, hitem, hitemColumn⟩ := Option.bind_eq_some_iff.mp hcolumn
    rw [hcolumn, hitem, Option.bind_some, hitemColumn, Option.filter_some,
      if_pos (decide_eq_true hname)]
  rw [extractColumns_eq, getElem?_filterMap_of_forall, hkept position le_rfl]
  intro earlier hearlier
  obtain ⟨column, hcolumn, -⟩ := h earlier hearlier
  exact ⟨column, (hkept earlier hearlier).trans hcolumn⟩

theorem describe_iff {columns : List Column} {rows : List (Fields × List Sql.Cell)}
    (hnames : ∀ column ∈ columns, column.name ≠ "") :
    ColumnsDescribe columns rows ↔ NamedAlike columns rows := by
  constructor
  · intro h source hsource
    have hsame : ∀ position < min source.2.length columns.length,
        announced source.1 position = columns[position]? := by
      intro position hposition
      have hlt : position < columns.length := hposition.trans_le (Nat.min_le_right _ _)
      have hat := h source hsource position (hposition.trans_le (Nat.min_le_left _ _))
        columns[position] (List.getElem?_eq_getElem hlt)
      rw [hat, List.getElem?_eq_getElem hlt]
    have hnamed : ∀ position < min source.2.length columns.length, Named source.1 position := by
      intro position hposition
      have hlt : position < columns.length := hposition.trans_le (Nat.min_le_right _ _)
      refine ⟨columns[position], ?_, hnames _ (List.getElem_mem hlt)⟩
      rw [hsame position hposition]
      exact List.getElem?_eq_getElem hlt
    refine ⟨hnamed, List.ext_getElem? fun position ↦ ?_⟩
    rw [List.getElem?_take, List.getElem?_take]
    split_ifs with hposition
    · rw [getElem?_extractColumns fun earlier hearlier ↦ hnamed earlier (hearlier.trans_lt hposition),
        hsame position hposition]
    · rfl
  · intro h source hsource position hposition column hcolumn
    obtain ⟨hnamed, halike⟩ := h source hsource
    obtain ⟨hlt, -⟩ := List.getElem?_eq_some_iff.mp hcolumn
    have hreached : position < min source.2.length columns.length := lt_min hposition hlt
    have hat := congrArg (·[position]?) halike
    simp only [List.getElem?_take, if_pos hreached] at hat
    rw [← getElem?_extractColumns fun earlier hearlier ↦ hnamed earlier (hearlier.trans_lt hreached), hat]
    exact hcolumn

theorem headerColumns_cons (page : Fields) (pages : List Fields) :
    headerColumns (page :: pages) =
      if extractColumns page = [] then headerColumns pages else extractColumns page := by
  unfold headerColumns
  rw [List.map_cons, List.find?_cons]
  by_cases hnone : extractColumns page = []
  · rw [if_pos hnone, decide_eq_false (not_not.mpr hnone)]
  · rw [if_neg hnone, decide_eq_true hnone]
    rfl

theorem map_snd_sourcedRows (maxRows : ℕ) (pages : List Fields) :
    (sourcedRows maxRows pages).map Prod.snd = (pages.flatMap pageRows).take maxRows := by
  rw [sourcedRows, List.map_take, List.map_flatMap]
  refine congrArg (List.take maxRows) (congrArg (fun f ↦ pages.flatMap f) (funext fun page ↦ ?_))
  rw [List.map_map]
  exact List.map_id _

/-- The loop adds the rows of the pages that are answered, up to the cap, and takes their columns as long as
it has none. -/
theorem fetchPages_pages {settings : TrinoSettings} {maxRows : ℕ} {timeoutMs : ℤ} {pageBudget : ℕ} :
    ∀ {fetch final : TrinoFetch} {events : List TrinoEvent},
    Run (fetchPages settings maxRows timeoutMs pageBudget fetch) events (.ok final) →
      final.rows.take maxRows =
          (fetch.rows ++ (answeredPages events).flatMap pageRows).take maxRows ∧
        final.columns =
          if fetch.columns = [] then headerColumns (answeredPages events) else fetch.columns := by
  have hstop : ∀ {fetch : TrinoFetch}, fetch.rows.take maxRows =
        (fetch.rows ++ (answeredPages []).flatMap pageRows).take maxRows ∧
      fetch.columns = if fetch.columns = [] then headerColumns (answeredPages []) else fetch.columns := by
    intro fetch
    have hnone : (answeredPages []).flatMap pageRows = [] := rfl
    rw [hnone, List.append_nil]
    refine ⟨rfl, ?_⟩
    split_ifs with hcolumns
    · exact hcolumns
    · rfl
  induction pageBudget with
  | zero =>
    intro fetch final events h
    obtain ⟨rfl, heq⟩ := (run_pure_iff _ _ _).mp h
    cases heq
    exact hstop
  | succ pageBudget ih =>
    intro fetch final events h
    by_cases hgoes : fetch.nextUri ≠ "" ∧ fetch.rows.length < maxRows
    · rcases fetchPages_succ_run h with ⟨hstops | hfull, rfl⟩ |
        ⟨-, hroom, page, bytes, tail, -, -, hpages, hlater⟩
      · exact absurd hstops hgoes.1
      · exact absurd hgoes.2 (by omega)
      · obtain ⟨hrows, hcolumns⟩ := ih hlater
        have hadded : (fetch.addPage maxRows page bytes).rows =
            fetch.rows ++ (pageRows page).take (maxRows - fetch.rows.length) := by
          rw [TrinoFetch.addPage, extractRows_eq page (by omega)]
        have hheader : (fetch.addPage maxRows page bytes).columns =
            if fetch.columns = [] then extractColumns page else fetch.columns := rfl
        rw [hrows, hadded, take_append_room, hpages, List.flatMap_cons]
        refine ⟨rfl, ?_⟩
        rw [hcolumns, hheader, headerColumns_cons]
        split_ifs <;> simp_all
    · rw [fetchPages, if_neg hgoes] at h
      obtain ⟨rfl, heq⟩ := (run_pure_iff _ _ _).mp h
      cases heq
      exact hstop

/-- A query that returns gives the rows of the pages that were answered, up to the cap, with the columns of
the first page that names any. -/
theorem executeSqlTrino_pages {settings : TrinoSettings} {query : String} {maxRows : ℕ} {timeoutMs : ℤ}
    {requestId : Option String} {events : List TrinoEvent} {answer : Rows} {metadata : Fields}
    (h : Run (executeSqlTrinoWithMetadata settings query maxRows timeoutMs requestId) events
      (.ok (answer, metadata))) :
    answer.columns = headerColumns (answeredPages events) ∧
      answer.rows = (sourcedRows maxRows (answeredPages events)).map Prod.snd := by
  obtain ⟨response, bytes, pages, final, -, -, hpages, hloop, rfl⟩ := executeSqlTrino_ok h
  obtain ⟨hrows, hcolumns⟩ := fetchPages_pages hloop
  rw [map_snd_sourcedRows, hpages, headerColumns_cons, List.flatMap_cons]
  refine ⟨hcolumns, hrows.trans ?_⟩
  rcases Nat.eq_zero_or_pos maxRows with rfl | hroom
  · rw [List.take_zero, List.take_zero]
  · have hcut := take_append_room [] (pageRows response) ((answeredPages pages).flatMap pageRows) maxRows
    rw [List.length_nil, Nat.sub_zero, List.nil_append, List.nil_append] at hcut
    rw [← hcut, extractRows_eq response hroom]

theorem name_ne_of_mem_headerColumns {pages : List Fields} {column : Column}
    (h : column ∈ headerColumns pages) : column.name ≠ "" := by
  induction pages with
  | nil => exact absurd h List.not_mem_nil
  | cons page pages ih =>
    rw [headerColumns_cons] at h
    split_ifs at h
    · exact ih h
    · exact name_ne_of_mem_extractColumns h

/-- The columns of a result describe the cells in their positions exactly when every page of its rows names
the columns that its rows reach, and like the page the columns are taken from. -/
theorem columns_describe_iff {settings : TrinoSettings} {query : String} {maxRows : ℕ} {timeoutMs : ℤ}
    {requestId : Option String} {events : List TrinoEvent} {answer : Rows} {metadata : Fields}
    (h : Run (executeSqlTrinoWithMetadata settings query maxRows timeoutMs requestId) events
      (.ok (answer, metadata))) :
    answer.rows = (sourcedRows maxRows (answeredPages events)).map Prod.snd ∧
      (ColumnsDescribe answer.columns (sourcedRows maxRows (answeredPages events)) ↔
        NamedAlike (headerColumns (answeredPages events))
          (sourcedRows maxRows (answeredPages events))) := by
  obtain ⟨hcolumns, hrows⟩ := executeSqlTrino_pages h
  rw [hcolumns]
  exact ⟨hrows, describe_iff fun _ ↦ name_ne_of_mem_headerColumns⟩

/-- A coordinator that answers a statement with one page: the columns by name, and one row. -/
def onePageServer (names : List String) (row : List Json) : TrinoServer where
  statement := [("columns", .arr (names.map fun name ↦ .obj [("name", .str name), ("type", .str "varchar")])),
    ("data", .arr [.arr row])]
  page _ := []

theorem onePageServer_answers (names : List String) (row : List Json) : ∃ answer metadata,
    Run salesQuery (history (onePageServer names row).answers salesQuery) (.ok (answer, metadata)) ∧
      answeredPages (history (onePageServer names row).answers salesQuery) =
        [(onePageServer names row).statement] := by
  obtain ⟨⟨answer, metadata⟩, hresult⟩ :
      ∃ result, eval (onePageServer names row).answers salesQuery = .ok result :=
    (onePageServer names row).returns ⟨0, rfl⟩ fun _ ↦ ⟨0, rfl⟩
  have hrun := run_history (onePageServer names row).answers salesQuery
  rw [hresult] at hrun
  have hpages : answeredPages (history (onePageServer names row).answers salesQuery) =
      [(onePageServer names row).statement] := rfl
  exact ⟨answer, metadata, hrun, hpages⟩

/-- Two named columns describe a row of two cells. -/
theorem named_columns_describe : ∃ answer metadata,
    Run salesQuery (history (onePageServer ["region", "amount"] [.str "eu", .int 3]).answers salesQuery)
        (.ok (answer, metadata)) ∧
      ColumnsDescribe answer.columns
        [((onePageServer ["region", "amount"] [.str "eu", .int 3]).statement, [.text "eu", .int 3])] := by
  obtain ⟨answer, metadata, hrun, hpages⟩ :=
    onePageServer_answers ["region", "amount"] [.str "eu", .int 3]
  refine ⟨answer, metadata, hrun, ?_⟩
  have hdescribe := (columns_describe_iff hrun).2
  rw [hpages] at hdescribe
  refine hdescribe.mpr fun source hsource ↦ ?_
  rw [List.mem_singleton.mp hsource]
  refine ⟨fun position hposition ↦ ?_, rfl⟩
  have hcases : position = 0 ∨ position = 1 := by
    have hwidth : position < 2 := hposition
    omega
  rcases hcases with rfl | rfl
  · exact ⟨_, rfl, by decide⟩
  · exact ⟨_, rfl, by decide⟩

/-- A first column with a blank name is left out, and the second one describes its cells. -/
theorem blank_column_shifts : ¬∀ {settings : TrinoSettings} {query : String} {maxRows : ℕ}
    {timeoutMs : ℤ} {requestId : Option String} {events : List TrinoEvent} {answer : Rows}
    {metadata : Fields},
    Run (executeSqlTrinoWithMetadata settings query maxRows timeoutMs requestId) events
      (.ok (answer, metadata)) →
    ColumnsDescribe answer.columns (sourcedRows maxRows (answeredPages events)) := by
  intro hall
  obtain ⟨answer, metadata, hrun, hpages⟩ := onePageServer_answers [" ", "region"] [.str "hr", .str "eu"]
  have hdescribe := hall hrun
  rw [(executeSqlTrino_pages hrun).1, hpages] at hdescribe
  have hfirst := hdescribe _ (List.mem_singleton_self _) 0 (by decide) ⟨"region", "varchar"⟩ rfl
  exact absurd (congrArg (Option.map Column.name) hfirst) (by decide)

end SchemaPilot.Gateway
