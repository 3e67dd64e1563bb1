import SchemaPilot.Gateway.Interface
import SchemaPilot.Library.Except
import SchemaPilot.Library.Program

/-!
# The Trino adapter

`backend/gateway/executor_trino.py`. A statement is posted and its result fetched page by page along
`nextUri`, until a page names none, enough rows were read, the deadline has passed or the budget of
pages is spent. Only the deadline is reported, so a result is the beginning of what the chain of
pages holds, and the whole of it up to the row cap exactly when the pages behind the budget add
nothing (`trino_rows_complete_iff`). The pauses between retries have no part in any answer and are
left out; a row is a list among the `data` of a page.
-/

namespace SchemaPilot.Gateway

open Library Library.Program Library.Text Library.Json SharedDomain

/-! ### Requests -/

inductive TrinoExn where
  /-- `OSError`, of which `URLError` is one. -/
  | os (message : String)
  /-- `TimeoutError`. -/
  | timeout (message : String)
  /-- `ValueError`. -/
  | value (message : String)
  /-- Any other exception. -/
  | other (message : String)

/-- `str(exc)`. -/
def TrinoExn.message : TrinoExn → String
  | os message => message
  | timeout message => message
  | value message => message
  | other message => message

/-- The exceptions `_request_json_with_retries` catches. -/
def TrinoExn.retried : TrinoExn → Bool
  | other _ => false
  | _ => true

structure TrinoRequest where
  method : String
  url : String
  payload : Option String
  headers : List (String × String)
  timeoutMs : ℤ

inductive TrinoOp where
  /-- `_request_json`. -/
  | requestJson (request : TrinoRequest)
  /-- `perf_counter() > deadline`. -/
  | pastDeadline (timeoutMs : ℤ)
  /-- The milliseconds since the query started. -/
  | elapsedMs

@[reducible] def TrinoOp.Answer : TrinoOp → Type
  | requestJson _ => Fields
  | pastDeadline _ => Bool
  | elapsedMs => Json

abbrev TrinoProgram (α : Type) := Program TrinoOp TrinoOp.Answer TrinoExn α

abbrev askTrino (op : TrinoOp) : TrinoProgram op.Answer := perform op

abbrev TrinoEvent := Event TrinoOp TrinoOp.Answer TrinoExn

structure TrinoSettings where
  url : String
  user : String
  catalog : String
  schema : String
  maxRetries : ℕ

/-- `url.rstrip("/")`. -/
def rstripSlash (url : String) : String := String.ofList (url.toList.rdropWhile (· == '/'))

/-- `_request_json_with_retries`: as many attempts as retries are left and one. -/
def requestJsonWithRetries (request : TrinoRequest) : ℕ → TrinoProgram Fields
  | 0 => (askTrino (.requestJson request)).tryExcept fun exception ↦
    if exception.retried then Program.raise (.value ("trino_request_failed:" ++ exception.message))
    else Program.raise exception
  | retries + 1 => (askTrino (.requestJson request)).tryExcept fun exception ↦
    if exception.retried then requestJsonWithRetries request retries
    else Program.raise exception

/-- `cancel_trino_query`. -/
def cancelTrinoQuery (settings : TrinoSettings) (queryId : String) (timeoutMs : ℤ) :
    TrinoProgram Unit :=
  if strip queryId = "" then pure ()
  else
    let url := rstripSlash settings.url ++ "/v1/query/" ++ strip queryId
    (do
      let _ ← requestJsonWithRetries ⟨"DELETE", url, none, [], timeoutMs⟩ settings.maxRetries
      pure ()).tryExcept fun _ ↦ pure ()

/-! ### Pages -/

def cellOfJson : Json → Sql.Cell
  | .null => .null
  | .bool value => .bool value
  | .int value => .int value
  | .str value => .text value
  | value => .other value.toStr

/-- `_extract_columns`: columns with a blank name are left out. -/
def extractColumns (page : Fields) : List Column :=
  match getD page "columns" (.arr []) with
  | .arr items => items.filterMap fun item ↦ item.asObj?.bind fun row ↦
    if strip (getD row "name" (.str "")).toStr = "" then none
    else some ⟨strip (getD row "name" (.str "")).toStr, (getD row "type" (.str "unknown")).toStr⟩
  | _ => []

/-- The loop of `_extract_rows`. -/
def collectRows (maxRows : ℕ) (rows : List (List Sql.Cell)) : List Json → List (List Sql.Cell)
  | [] => rows
  | item :: rest =>
    match item with
    | .arr row =>
      let rows := rows ++ [row.map cellOfJson]
      if maxRows ≤ rows.length then rows else collectRows maxRows rows rest
    | _ => collectRows maxRows rows rest

/-- `_extract_rows`. -/
def extractRows (page : Fields) (maxRows : ℕ) : List (List Sql.Cell) :=
  match getD page "data" (.arr []) with
  | .arr items => collectRows maxRows [] items
  | _ => []

/-- `_extract_processed_bytes`. -/
def extractProcessedBytes (page : Fields) : Except TrinoExn ℤ :=
  match getD page "stats" (.obj []) with
  | .obj stats =>
    match getD stats "processedBytes" (.int 0) with
    | .bool flag => .ok (if flag then 1 else 0)
    | .int number => .ok number
    | .float number => .ok (truncate number)
    | .special .nan => .error (.value "cannot convert float NaN to integer")
    | .special _ => .error (.other "cannot convert float infinity to integer")
    | .str text => .ok ((intOfString? (strip text)).getD 0)
    | _ => .ok 0
  | _ => .ok 0

/-- `str(page.get("id", "")).strip()`. -/
def queryIdOf (page : Fields) : String := strip (getD page "id" (.str "")).toStr

/-- `str(page.get("nextUri", "")).strip()`. -/
def nextUriOf (page : Fields) : String := strip (getD page "nextUri" (.str "")).toStr

/-! ### The query -/

/-- The variables of the loop over the pages. -/
structure TrinoFetch where
  queryId : String
  bytesScanned : ℤ
  columns : List Column
  rows : List (List Sql.Cell)
  nextUri : String

/-- The loop's variables after a further page. -/
def TrinoFetch.addPage (fetch : TrinoFetch) (maxRows : ℕ) (page : Fields) (bytes : ℤ) :
    TrinoFetch where
  queryId := if fetch.queryId = "" then queryIdOf page else fetch.queryId
  bytesScanned := max fetch.bytesScanned bytes
  columns := if fetch.columns = [] then extractColumns page else fetch.columns
  rows := fetch.rows ++ extractRows page (maxRows - fetch.rows.length)
  nextUri := nextUriOf page

/-- A `ValueError` about a timeout is a timeout of the query. -/
def TrinoExn.isTimeoutValue : TrinoExn → Bool
  | value message => "timeout".toList <:+: (lower message).toList
  | _ => false

def fetchPages (settings : TrinoSettings) (maxRows : ℕ) (timeoutMs : ℤ) :
    ℕ → TrinoFetch → TrinoProgram TrinoFetch
  | 0, fetch => pure fetch
  | pageBudget + 1, fetch =>
    if fetch.nextUri ≠ "" ∧ fetch.rows.length < maxRows then do
      let late ← askTrino (.pastDeadline timeoutMs)
      if late then do
        cancelTrinoQuery settings fetch.queryId timeoutMs
        Program.raise (.timeout "trino_query_timeout")
      else do
        let page ← (requestJsonWithRetries ⟨"GET", fetch.nextUri, none, [], timeoutMs⟩
          settings.maxRetries).tryExcept fun exception ↦
            if exception.isTimeoutValue then do
              cancelTrinoQuery settings fetch.queryId timeoutMs
              Program.raise (.timeout "trino_query_timeout")
            else Program.raise exception
        let bytes ← Program.ofExcept (extractProcessedBytes page)
        fetchPages settings maxRows timeoutMs pageBudget (fetch.addPage maxRows page bytes)
    else pure fetch

def statementRequest (settings : TrinoSettings) (query : String) (timeoutMs : ℤ)
    (requestId : Option String) : TrinoRequest where
  method := "POST"
  url := rstripSlash settings.url ++ "/v1/statement"
  payload := some query
  headers := [("Content-Type", "text/plain; charset=utf-8"), ("X-Trino-User", settings.user),
    ("X-Trino-Catalog", settings.catalog), ("X-Trino-Schema", settings.schema)] ++
    match requestId with
    | some id =>
      if id = "" then [] else [("X-Trino-Client-Info", "schemapilot_request_id=" ++ id)]
    | none => []
  timeoutMs := timeoutMs

/-- `execute_sql_trino_with_metadata`. -/
def executeSqlTrinoWithMetadata (settings : TrinoSettings) (query : String) (maxRows : ℕ)
    (timeoutMs : ℤ) (requestId : Option String) : TrinoProgram (Rows × Fields) := do
  let response ← (requestJsonWithRetries (statementRequest settings query timeoutMs requestId)
    settings.maxRetries).tryExcept fun exception ↦
      if exception.isTimeoutValue then Program.raise (.timeout "trino_query_timeout")
      else Program.raise exception
  let bytes ← Program.ofExcept (extractProcessedBytes response)
  let fetch ← fetchPages settings maxRows timeoutMs 50
    ⟨queryIdOf response, bytes, extractColumns response, extractRows response maxRows,
      nextUriOf response⟩
  let elapsed ← askTrino .elapsedMs
  pure (⟨fetch.columns, fetch.rows.take maxRows⟩,
    [("query_id", .str fetch.queryId), ("bytes_scanned", .int fetch.bytesScanned),
      ("elapsed_ms", elapsed)])

/-! ### The rows of a chain -/

/-- The rows among the items of `data`. -/
def dataRows (items : List Json) : List (List Sql.Cell) :=
  items.filterMap fun item ↦ item.asArr?.map (List.map cellOfJson)

def pageRows (page : Fields) : List (List Sql.Cell) :=
  match getD page "data" (.arr []) with
  | .arr items => dataRows items
  | _ => []

/-- While there is room, the loop adds the rows of the page up to the cap. -/
theorem collectRows_eq {maxRows : ℕ} (items : List Json) : ∀ rows : List (List Sql.Cell),
    rows.length < maxRows → collectRows maxRows rows items =
      (rows ++ dataRows items).take maxRows := by
  induction items with
  | nil =>
    intro rows hroom
    simp [collectRows, dataRows, List.take_of_length_le hroom.le]
  | cons item rest ih =>
    intro rows hroom
    cases item with
    | arr row =>
      have hdata : dataRows (.arr row :: rest) = row.map cellOfJson :: dataRows rest := rfl
      rw [hdata, List.append_cons]
      simp only [collectRows]
      by_cases hfull : maxRows ≤ (rows ++ [row.map cellOfJson]).length
      · have hlength : (rows ++ [row.map cellOfJson]).length = maxRows := by
          rw [List.length_append, List.length_singleton] at hfull ⊢
          omega
        rw [if_pos hfull, List.take_append_of_le_length hfull,
          List.take_of_length_le hlength.le]
      · rw [if_neg hfull]
        exact ih _ (by omega)
    | _ => exact ih rows hroom

theorem extractRows_eq (page : Fields) {maxRows : ℕ} (hroom : 0 < maxRows) :
    extractRows page maxRows = (pageRows page).take maxRows := by
  unfold extractRows pageRows
  split
  · exact collectRows_eq _ [] hroom
  · rw [List.take_nil]

/-- The pages that follow a page along `nextUri`, up to one that names none. -/
inductive Chain (page : String → Fields) : Fields → List Fields → Prop
  | last {current : Fields} (hlast : nextUriOf current = "") : Chain page current []
  | more {current : Fields} {rest : List Fields} (hmore : nextUriOf current ≠ "")
    (hrest : Chain page (page (nextUriOf current)) rest) :
    Chain page current (page (nextUriOf current) :: rest)

/-- A coordinator: its response to the statement, and the page behind each URI. -/
structure TrinoServer where
  statement : Fields
  page : String → Fields

/-- A request that was answered was answered by the coordinator. -/
def Served (server : TrinoServer) : TrinoEvent → Prop
  | ⟨.requestJson request, .ok page⟩ =>
    (request.method = "POST" → page = server.statement) ∧
      (request.method = "GET" → page = server.page request.url)
  | _ => True

def answeredPages (events : List TrinoEvent) : List Fields :=
  events.filterMap fun
    | ⟨.requestJson _, .ok page⟩ => some page
    | _ => none

theorem answeredPages_append (first second : List TrinoEvent) :
    answeredPages (first ++ second) = answeredPages first ++ answeredPages second :=
  List.filterMap_append

/-- A request that returns was answered with the one page it returns. -/
theorem requestJsonWithRetries_ok {request : TrinoRequest} {retries : ℕ} :
    ∀ {events : List TrinoEvent} {page : Fields},
      Run (requestJsonWithRetries request retries) events (.ok page) →
        ⟨.requestJson request, .ok page⟩ ∈ events ∧ answeredPages events = [page] := by
  have hfirst : ∀ {handler : TrinoExn → TrinoProgram Fields} {events : List TrinoEvent}
      {page : Fields},
      Run ((askTrino (.requestJson request)).tryExcept handler) events (.ok page) →
      (⟨.requestJson request, .ok page⟩ ∈ events ∧ answeredPages events = [page]) ∨
        ∃ first second exception, events = first ++ second ∧ answeredPages first = [] ∧
          Run (handler exception) second (.ok page) := by
    intro handler events page h
    rcases (run_tryExcept_iff _ _ _ _).mp h with ⟨value, hrun, heq⟩ |
      ⟨first, second, exception, hevents, hfailed, hhandler⟩
    · cases heq
      rw [(run_perform_iff _ _ _).mp hrun]
      exact Or.inl ⟨List.mem_singleton_self _, rfl⟩
    · refine Or.inr ⟨first, second, exception, hevents, ?_, hhandler⟩
      rw [(run_perform_iff _ _ _).mp hfailed]
      rfl
  induction retries with
  | zero =>
    intro events page h
    rcases hfirst h with hmem | ⟨_, _, exception, -, -, hhandler⟩
    · exact hmem
    · split_ifs at hhandler
      · exact absurd hhandler Run.not_raise
      · exact absurd hhandler Run.not_raise
  | succ retries ih =>
    intro events page h
    rcases hfirst h with hmem | ⟨first, second, exception, rfl, hnone, hhandler⟩
    · exact hmem
    · split_ifs at hhandler
      · obtain ⟨hmem, hpages⟩ := ih hhandler
        exact ⟨List.mem_append_right _ hmem, by rw [answeredPages_append, hnone, hpages]; rfl⟩
      · exact absurd hhandler Run.not_raise

/-- A request whose failures are passed on was answered when it returns. -/
theorem guardedRequest_ok {request : TrinoRequest} {retries : ℕ} {events : List TrinoEvent}
    {page : Fields} {handler : TrinoExn → TrinoProgram Fields}
    (hhandler : ∀ exception events page, ¬Run (handler exception) events (.ok page))
    (h : Run ((requestJsonWithRetries request retries).tryExcept handler) events (.ok page)) :
    ⟨.requestJson request, .ok page⟩ ∈ events ∧ answeredPages events = [page] := by
  rcases (run_tryExcept_iff _ _ _ _).mp h with ⟨value, hrun, heq⟩ |
    ⟨_, _, exception, -, -, hfailed⟩
  · cases heq
    exact requestJsonWithRetries_ok hrun
  · exact absurd hfailed (hhandler _ _ _)

/-- Cutting a page to the room that is left makes no difference up to the cap. -/
theorem take_append_room {α : Type} (first second third : List α) (cap : ℕ) :
    (first ++ second.take (cap - first.length) ++ third).take cap =
      (first ++ (second ++ third)).take cap := by
  rw [List.append_assoc, List.take_append, List.take_append, List.take_append, List.take_append, List.take_take, Nat.min_self, List.length_take]
  rcases Nat.le_total second.length (cap - first.length) with hfits | hcut
  · rw [Nat.min_eq_right hfits]
  · rw [Nat.min_eq_left hcut, Nat.sub_self, Nat.sub_eq_zero_of_le hcut]

/-- One turn of the loop: it ends, or it reads the page behind `nextUri` and goes on. -/
theorem fetchPages_succ_run {settings : TrinoSettings} {maxRows : ℕ} {timeoutMs : ℤ}
    {pageBudget : ℕ} {fetch final : TrinoFetch} {events : List TrinoEvent}
    (h : Run (fetchPages settings maxRows timeoutMs (pageBudget + 1) fetch) events (.ok final)) :
    ((fetch.nextUri = "" ∨ maxRows ≤ fetch.rows.length) ∧ final = fetch) ∨
      fetch.nextUri ≠ "" ∧ fetch.rows.length < maxRows ∧ ∃ page bytes tail,
        ⟨.requestJson ⟨"GET", fetch.nextUri, none, [], timeoutMs⟩, .ok page⟩ ∈ events ∧
        (∀ event ∈ tail, event ∈ events) ∧
        answeredPages events = page :: answeredPages tail ∧
        Run (fetchPages settings maxRows timeoutMs pageBudget (fetch.addPage maxRows page bytes))
          tail (.ok final) := by
  rw [fetchPages] at h
  by_cases hgoes : fetch.nextUri ≠ "" ∧ fetch.rows.length < maxRows
  · refine Or.inr ⟨hgoes.1, hgoes.2, ?_⟩
    rw [if_pos hgoes] at h
    obtain ⟨late, tail, rfl, hlate⟩ := h.perform_ok
    cases late with
    | true =>
      obtain ⟨_, _, _, -, -, hraise⟩ := hlate.bind_ok
      · exact absurd hraise Run.not_raise
    | false =>
      simp only [Bool.false_eq_true, if_false] at hlate
      obtain ⟨first, second, page, rfl, hrequest, hnext⟩ := hlate.bind_ok
      obtain ⟨hanswered, hpage⟩ := guardedRequest_ok (fun exception events page hraised ↦ by
        split_ifs at hraised
        · obtain ⟨_, _, _, -, -, hraise⟩ := hraised.bind_ok
          · exact absurd hraise Run.not_raise
        · exact absurd hraised Run.not_raise) hrequest
      obtain ⟨bytes, -, hlater⟩ := hnext.ofExcept_ok
      refine ⟨page, bytes, second, List.mem_cons_of_mem _ (List.mem_append_left _ hanswered),
        fun event hevent ↦ by simp [hevent], ?_, hlater⟩
      change answeredPages (first ++ second) = _
      rw [answeredPages_append, hpage, List.singleton_append]
  · rw [if_neg hgoes] at h
    obtain ⟨-, heq⟩ := (run_pure_iff _ _ _).mp h
    cases heq
    refine Or.inl ⟨?_, rfl⟩
    rcases not_and_or.mp hgoes with hstops | hfull
    · exact Or.inl (not_not.mp hstops)
    · exact Or.inr (by omega)

/-- The loop reads the rows of as many further pages as its budget allows, up to the cap. -/
theorem fetchPages_rows {server : TrinoServer} {settings : TrinoSettings} {maxRows : ℕ}
    {timeoutMs : ℤ} {pageBudget : ℕ} : ∀ {fetch final : TrinoFetch} {events : List TrinoEvent}
    {current : Fields} {rest : List Fields},
    Run (fetchPages settings maxRows timeoutMs pageBudget fetch) events (.ok final) →
    (∀ event ∈ events, Served server event) → fetch.nextUri = nextUriOf current →
    Chain server.page current rest →
      final.rows.take maxRows =
        (fetch.rows ++ (rest.take pageBudget).flatMap pageRows).take maxRows := by
  induction pageBudget with
  | zero =>
    intro fetch final events current rest h _ _ _
    obtain ⟨-, heq⟩ := (run_pure_iff _ _ _).mp h
    cases heq
    simp
  | succ pageBudget ih =>
    intro fetch final events current rest h hserved huri hchain
    rcases fetchPages_succ_run h with ⟨hstops | hfull, rfl⟩ |
      ⟨hgoes, hroom, page, bytes, tail, hanswered, htail, -, hlater⟩
    · cases hchain with
      | last hlast => simp
      | more hmore hrest => exact absurd (huri ▸ hstops) hmore
    · rw [List.take_append_of_le_length hfull]
    · have hpage : page = server.page fetch.nextUri := (hserved _ hanswered).2 rfl
      cases hchain with
      | last hlast => exact absurd (huri.trans hlast) hgoes
      | @more _ rest hmore hrest =>
        rw [← huri, ← hpage] at hrest ⊢
        rw [ih hlater (fun event hevent ↦ hserved event (htail event hevent)) rfl hrest,
          List.take_succ_cons, List.flatMap_cons]
        have hrows : (fetch.addPage maxRows page bytes).rows =
            fetch.rows ++ (pageRows page).take (maxRows - fetch.rows.length) := by
          rw [TrinoFetch.addPage, extractRows_eq page (by omega)]
        rw [hrows, take_append_room]

/-- The columns are known by name once there are rows. -/
def TrinoFetch.Known (names : List String) (fetch : TrinoFetch) : Prop :=
  fetch.columns.map Column.name = names ∨ fetch.columns = [] ∧ fetch.rows = []

/-- A page has the columns of a result, or it has neither columns nor rows. -/
def Describes (names : List String) (page : Fields) : Prop :=
  (extractColumns page).map Column.name = names ∨ extractColumns page = [] ∧ pageRows page = []

theorem TrinoFetch.Known.addPage {names : List String} {fetch : TrinoFetch} {maxRows : ℕ}
    {page : Fields} (hfetch : fetch.Known names) (hpage : Describes names page)
    (hroom : fetch.rows.length < maxRows) (bytes : ℤ) :
    (fetch.addPage maxRows page bytes).Known names := by
  have hrows : (fetch.addPage maxRows page bytes).rows =
      fetch.rows ++ (pageRows page).take (maxRows - fetch.rows.length) := by
    rw [TrinoFetch.addPage, extractRows_eq page (by omega)]
  by_cases hnone : fetch.columns = []
  · have hcolumns : (fetch.addPage maxRows page bytes).columns = extractColumns page := by
      rw [TrinoFetch.addPage, if_pos hnone]
    rcases hpage with hnames | ⟨hempty, hbare⟩
    · exact Or.inl (hcolumns ▸ hnames)
    · rcases hfetch with hnames | ⟨-, hbefore⟩
      · exact Or.inl (by rw [hcolumns, hempty, ← hnames, hnone])
      · refine Or.inr ⟨hcolumns.trans hempty, ?_⟩
        rw [hrows, hbefore, hbare, List.take_nil, List.append_nil]
  · rcases hfetch with hnames | ⟨hempty, -⟩
    · refine Or.inl ?_
      rw [TrinoFetch.addPage, if_neg hnone]
      exact hnames
    · exact absurd hempty hnone

/-- The loop keeps the columns known by name. -/
theorem fetchPages_columns {server : TrinoServer} {settings : TrinoSettings} {maxRows : ℕ}
    {timeoutMs : ℤ} {names : List String} {pageBudget : ℕ} : ∀ {fetch final : TrinoFetch}
    {events : List TrinoEvent} {current : Fields} {rest : List Fields},
    Run (fetchPages settings maxRows timeoutMs pageBudget fetch) events (.ok final) →
    (∀ event ∈ events, Served server event) → fetch.nextUri = nextUriOf current →
    Chain server.page current rest → (∀ page ∈ rest, Describes names page) →
      fetch.Known names → final.Known names := by
  induction pageBudget with
  | zero =>
    intro fetch final events current rest h _ _ _ _ hknown
    obtain ⟨-, heq⟩ := (run_pure_iff _ _ _).mp h
    cases heq
    exact hknown
  | succ pageBudget ih =>
    intro fetch final events current rest h hserved huri hchain hpages hknown
    rcases fetchPages_succ_run h with ⟨-, rfl⟩ |
      ⟨hgoes, hroom, page, bytes, tail, hanswered, htail, -, hlater⟩
    · exact hknown
    · have hpage : page = server.page fetch.nextUri := (hserved _ hanswered).2 rfl
      cases hchain with
      | last hlast => exact absurd (huri.trans hlast) hgoes
      | @more _ rest hmore hrest =>
        rw [← huri, ← hpage] at hrest hpages
        exact ih hlater (fun event hevent ↦ hserved event (htail event hevent)) rfl hrest
          (fun page hmem ↦ hpages page (List.mem_cons_of_mem _ hmem))
          (hknown.addPage (hpages page List.mem_cons_self) hroom bytes)

/-- The loop's variables when the coordinator answered the statement. -/
def TrinoServer.posted (server : TrinoServer) (maxRows : ℕ) (bytes : ℤ) : TrinoFetch where
  queryId := queryIdOf server.statement
  bytesScanned := bytes
  columns := extractColumns server.statement
  rows := extractRows server.statement maxRows
  nextUri := nextUriOf server.statement

/-- A query that returns was answered with a response, and gives what the loop ended with behind it, the
rows up to the cap. -/
theorem executeSqlTrino_ok {settings : TrinoSettings} {query : String} {maxRows : ℕ} {timeoutMs : ℤ}
    {requestId : Option String} {events : List TrinoEvent} {answer : Rows} {metadata : Fields}
    (h : Run (executeSqlTrinoWithMetadata settings query maxRows timeoutMs requestId) events
      (.ok (answer, metadata))) :
    ∃ response bytes pages final,
      ⟨.requestJson (statementRequest settings query timeoutMs requestId), .ok response⟩ ∈ events ∧
      (∀ event ∈ pages, event ∈ events) ∧
      answeredPages events = response :: answeredPages pages ∧
      Run (fetchPages settings maxRows timeoutMs 50 ⟨queryIdOf response, bytes,
        extractColumns response, extractRows response maxRows, nextUriOf response⟩) pages (.ok final) ∧
      answer = ⟨final.columns, final.rows.take maxRows⟩ := by
  unfold executeSqlTrinoWithMetadata at h
  obtain ⟨first, second, response, rfl, hposted, hresponse⟩ := h.bind_ok
  obtain ⟨hanswered, hpage⟩ := guardedRequest_ok (fun exception events page hraised ↦ by
    split_ifs at hraised
    · exact absurd hraised Run.not_raise
    · exact absurd hraised Run.not_raise) hposted
  obtain ⟨bytes, -, hfetch⟩ := hresponse.ofExcept_ok
  obtain ⟨third, last, final, rfl, hpages, helapsed⟩ := hfetch.bind_ok
  obtain ⟨elapsed, tail, rfl, hpure⟩ := helapsed.perform_ok
  obtain ⟨rfl, heq⟩ := (run_pure_iff _ _ _).mp hpure
  refine ⟨response, bytes, third, final, List.mem_append_left _ hanswered,
    fun event hevent ↦ by simp [hevent], ?_, hpages, (Prod.mk.inj (Except.ok.inj heq)).1⟩
  have hlast : answeredPages [⟨.elapsedMs, .ok elapsed⟩] = [] := rfl
  rw [answeredPages_append, answeredPages_append, hpage, hlast, List.append_nil, List.singleton_append]

/-- A query that returns gives what the loop ended with, the rows up to the cap. -/
theorem executeSqlTrino_run {server : TrinoServer} {settings : TrinoSettings} {query : String}
    {maxRows : ℕ} {timeoutMs : ℤ} {requestId : Option String} {events : List TrinoEvent}
    {answer : Rows} {metadata : Fields}
    (h : Run (executeSqlTrinoWithMetadata settings query maxRows timeoutMs requestId) events
      (.ok (answer, metadata)))
    (hserved : ∀ event ∈ events, Served server event) :
    ∃ bytes pages final, (∀ event ∈ pages, Served server event) ∧
      Run (fetchPages settings maxRows timeoutMs 50 (server.posted maxRows bytes)) pages
        (.ok final) ∧ answer = ⟨final.columns, final.rows.take maxRows⟩ := by
  obtain ⟨response, bytes, pages, final, hanswered, hmem, -, hpages, hanswer⟩ := executeSqlTrino_ok h
  obtain rfl : response = server.statement := (hserved _ hanswered).1 rfl
  exact ⟨bytes, pages, final, fun event hevent ↦ hserved event (hmem event hevent), hpages, hanswer⟩

/-- A query that returns gives the rows of the response and the first fifty further pages, up to the
cap. -/
theorem executeSqlTrino_rows {server : TrinoServer} {settings : TrinoSettings} {query : String}
    {maxRows : ℕ} {timeoutMs : ℤ} {requestId : Option String} {events : List TrinoEvent}
    {answer : Rows} {metadata : Fields} {rest : List Fields}
    (h : Run (executeSqlTrinoWithMetadata settings query maxRows timeoutMs requestId) events
      (.ok (answer, metadata)))
    (hserved : ∀ event ∈ events, Served server event)
    (hchain : Chain server.page server.statement rest) :
    answer.rows = ((server.statement :: rest.take 50).flatMap pageRows).take maxRows := by
  obtain ⟨bytes, pages, final, hpages, hloop, rfl⟩ := executeSqlTrino_run h hserved
  rw [List.flatMap_cons]
  change final.rows.take maxRows = _
  rw [fetchPages_rows hloop hpages rfl hchain]
  rcases Nat.eq_zero_or_pos maxRows with rfl | hroom
  · rw [List.take_zero, List.take_zero]
  · have hcut := take_append_room [] (pageRows server.statement)
      ((rest.take 50).flatMap pageRows) maxRows
    rw [List.length_nil, Nat.sub_zero, List.nil_append, List.nil_append] at hcut
    rw [← hcut, TrinoServer.posted, extractRows_eq server.statement hroom]

theorem executeSqlTrino_columns {server : TrinoServer} {settings : TrinoSettings} {query : String}
    {maxRows : ℕ} {timeoutMs : ℤ} {requestId : Option String} {events : List TrinoEvent}
    {answer : Rows} {metadata : Fields} {rest : List Fields} {names : List String}
    (h : Run (executeSqlTrinoWithMetadata settings query maxRows timeoutMs requestId) events
      (.ok (answer, metadata)))
    (hserved : ∀ event ∈ events, Served server event)
    (hchain : Chain server.page server.statement rest)
    (hpages : ∀ page ∈ server.statement :: rest, Describes names page) (hroom : 0 < maxRows) :
    answer.columns.map Column.name = names ∨ answer.rows = [] := by
  obtain ⟨bytes, pages, final, hserved, hloop, rfl⟩ := executeSqlTrino_run h hserved
  have hposted : (server.posted maxRows bytes).Known names := by
    rcases hpages server.statement List.mem_cons_self with hnames | ⟨hnone, hbare⟩
    · exact Or.inl hnames
    · refine Or.inr ⟨hnone, ?_⟩
      rw [TrinoServer.posted, extractRows_eq server.statement hroom, hbare, List.take_nil]
  rcases fetchPages_columns hloop hserved rfl hchain
    (fun page hpage ↦ hpages page (List.mem_cons_of_mem _ hpage)) hposted with hnames | ⟨-, hnone⟩
  · exact Or.inl hnames
  · refine Or.inr ?_
    rw [hnone, List.take_nil]

/-- What is behind a list does not show up to the cap exactly when the list reaches it or nothing is
behind. -/
theorem take_eq_take_append_iff {α : Type} (first second : List α) (cap : ℕ) :
    first.take cap = (first ++ second).take cap ↔ cap ≤ first.length ∨ second = [] := by
  rw [List.take_append, eq_comm, List.append_right_eq_self, List.take_eq_nil_iff]
  constructor
  · rintro (hnone | hempty)
    · exact Or.inl (by omega)
    · exact Or.inr hempty
  · rintro (hfull | hempty)
    · exact Or.inl (by omega)
    · exact Or.inr hempty

/-- A query that returns gives the first `maxRows` rows of the whole chain exactly when the pages up
to the budget hold as many, or the pages behind it hold none. -/
theorem trino_rows_complete_iff {server : TrinoServer} {settings : TrinoSettings} {query : String}
    {maxRows : ℕ} {timeoutMs : ℤ} {requestId : Option String} {events : List TrinoEvent}
    {answer : Rows} {metadata : Fields} {rest : List Fields}
    (h : Run (executeSqlTrinoWithMetadata settings query maxRows timeoutMs requestId) events
      (.ok (answer, metadata)))
    (hserved : ∀ event ∈ events, Served server event)
    (hchain : Chain server.page server.statement rest) :
    answer.rows = ((server.statement :: rest).flatMap pageRows).take maxRows ↔
      maxRows ≤ ((server.statement :: rest.take 50).flatMap pageRows).length ∨
        ∀ page ∈ rest.drop 50, pageRows page = [] := by
  have hwhole : (server.statement :: rest).flatMap pageRows =
      (server.statement :: rest.take 50).flatMap pageRows ++ (rest.drop 50).flatMap pageRows := by
    rw [← List.flatMap_append, List.cons_append, List.take_append_drop]
  rw [executeSqlTrino_rows h hserved hchain, hwhole, take_eq_take_append_iff,
    List.flatMap_eq_nil_iff]

/-! ### A chain behind the budget -/

/-- The page of a number in a chain of pages of one row each. -/
def numberedPage (pages number : ℕ) : Fields :=
  ("data", .arr [.arr [.int number]]) ::
    if number < pages then [("nextUri", .str (String.ofList (List.replicate (number + 1) 'x')))]
    else []

/-- A coordinator whose response is followed by a number of pages. -/
def numberedServer (pages : ℕ) : TrinoServer where
  statement := numberedPage pages 0
  page uri := numberedPage pages uri.length

def TrinoServer.answers (server : TrinoServer) : (op : TrinoOp) → Except TrinoExn op.Answer
  | .requestJson request =>
    .ok (if request.method = "POST" then server.statement else server.page request.url)
  | .pastDeadline _ => .ok false
  | .elapsedMs => .ok (.int 1)

theorem TrinoServer.served_history {α : Type} (server : TrinoServer) (p : TrinoProgram α) :
    ∀ event ∈ history server.answers p, Served server event := by
  intro event hevent
  obtain ⟨op, answer⟩ := event
  obtain rfl : answer = server.answers op := answer_of_mem_history hevent
  cases op with
  | requestJson request =>
    refine ⟨fun hpost ↦ if_pos hpost, fun hget ↦ if_neg fun hpost ↦ ?_⟩
    exact absurd (hget.symm.trans hpost) (by decide)
  | pastDeadline _ => trivial
  | elapsedMs => trivial

/-- In time and without a failed request a query returns, if the statistics of the pages can be
read. -/
theorem TrinoServer.returns {server : TrinoServer} {settings : TrinoSettings} {query : String}
    {maxRows : ℕ} {timeoutMs : ℤ} {requestId : Option String}
    (hstatement : ∃ bytes, extractProcessedBytes server.statement = .ok bytes)
    (hpages : ∀ uri, ∃ bytes, extractProcessedBytes (server.page uri) = .ok bytes) :
    ∃ result, eval server.answers
      (executeSqlTrinoWithMetadata settings query maxRows timeoutMs requestId) = .ok result := by
  have hrequest : ∀ (request : TrinoRequest) (retries : ℕ),
      eval server.answers (requestJsonWithRetries request retries) =
        .ok (if request.method = "POST" then server.statement else server.page request.url) := by
    intro request retries
    cases retries <;> exact eval_tryExcept_ok rfl _
  have hloop : ∀ (pageBudget : ℕ) (fetch : TrinoFetch), ∃ final,
      eval server.answers (fetchPages settings maxRows timeoutMs pageBudget fetch) = .ok final := by
    intro pageBudget
    induction pageBudget with
    | zero => exact fun fetch ↦ ⟨fetch, rfl⟩
    | succ pageBudget ih =>
      intro fetch
      rw [fetchPages]
      split_ifs
      · obtain ⟨bytes, hbytes⟩ := hpages fetch.nextUri
        obtain ⟨final, hfinal⟩ :=
          ih (fetch.addPage maxRows (server.page fetch.nextUri) bytes)
        refine ⟨final, ?_⟩
        have hlate : server.answers (.pastDeadline timeoutMs) = .ok false := rfl
        have hpage : (if "GET" = "POST" then server.statement else server.page fetch.nextUri) =
            server.page fetch.nextUri := if_neg (by decide)
        rw [eval_bind, eval_perform, hlate]
        simp only [Except.bind, Bool.false_eq_true, if_false]
        rw [eval_bind, eval_tryExcept_ok (hrequest _ _), hpage]
        simp only [Except.bind]
        rw [eval_bind, eval_ofExcept, hbytes]
        exact hfinal
      · exact ⟨fetch, rfl⟩
  obtain ⟨bytes, hbytes⟩ := hstatement
  obtain ⟨final, hfinal⟩ := hloop 50 (server.posted maxRows bytes)
  refine ⟨(⟨final.columns, final.rows.take maxRows⟩, [("query_id", .str final.queryId),
    ("bytes_scanned", .int final.bytesScanned), ("elapsed_ms", .int 1)]), ?_⟩
  unfold executeSqlTrinoWithMetadata
  have hposted : (if (statementRequest settings query timeoutMs requestId).method = "POST" then
      server.statement else server.page (statementRequest settings query timeoutMs requestId).url) =
        server.statement := if_pos rfl
  rw [TrinoServer.posted] at hfinal
  rw [eval_bind, eval_tryExcept_ok (hrequest _ _), hposted]
  simp only [Except.bind]
  rw [eval_bind, eval_ofExcept, hbytes]
  simp only [Except.bind]
  rw [eval_bind, hfinal]
  rfl

theorem isIdentifier_replicate (number : ℕ) :
    isIdentifier (String.ofList (List.replicate (number + 1) 'x')) = true := by
  rw [isIdentifier, String.toList_ofList, isIdentifierChars_iff]
  refine ⟨'x', List.replicate number 'x', rfl, rfl, fun c hc ↦ ?_⟩
  rw [(List.mem_replicate.mp hc).2]
  rfl

theorem nextUriOf_numberedPage {pages number : ℕ} (hmore : number < pages) :
    nextUriOf (numberedPage pages number) =
      String.ofList (List.replicate (number + 1) 'x') := by
  rw [numberedPage, if_pos hmore]
  exact strip_identifier (isIdentifier_replicate number)

theorem extractProcessedBytes_numberedPage (pages number : ℕ) :
    ∃ bytes, extractProcessedBytes (numberedPage pages number) = .ok bytes := by
  rw [numberedPage]
  split_ifs <;> exact ⟨0, rfl⟩

theorem chain_numberedPage (number : ℕ) : ∀ rest : ℕ,
    Chain (numberedServer (number + rest)).page (numberedPage (number + rest) number)
      ((List.range' (number + 1) rest).map (numberedPage (number + rest))) := by
  intro rest
  induction rest generalizing number with
  | zero => exact .last (by rw [numberedPage, if_neg (by omega)]; rfl)
  | succ rest ih =>
    have huri := nextUriOf_numberedPage (show number < number + (rest + 1) by omega)
    have hpage : (numberedServer (number + (rest + 1))).page
        (nextUriOf (numberedPage (number + (rest + 1)) number)) =
          numberedPage (number + (rest + 1)) (number + 1) := by
      rw [huri]
      change numberedPage _ (String.length _) = _
      rw [String.length_ofList, List.length_replicate]
    have hnext := ih (number + 1)
    rw [show number + 1 + rest = number + (rest + 1) by omega] at hnext
    have hmore : nextUriOf (numberedPage (number + (rest + 1)) number) ≠ "" := by
      rw [huri]
      intro hempty
      exact absurd (congrArg String.toList hempty) (by simp)
    rw [List.range'_succ, List.map_cons, ← hpage]
    exact .more hmore (hpage ▸ hnext)

theorem flatMap_numberedPage (pages : ℕ) (numbers : List ℕ) :
    (numbers.map (numberedPage pages)).flatMap pageRows =
      numbers.map fun number : ℕ ↦ [Sql.Cell.int number] := by
  induction numbers with
  | nil => rfl
  | cons number rest ih =>
    rw [List.map_cons, List.flatMap_cons, ih, List.map_cons]
    rfl

def exampleTrino : TrinoSettings where
  url := "http://trino:8080"
  user := "schemapilot"
  catalog := "memory"
  schema := "default"
  maxRetries := 2

def salesQuery : TrinoProgram (Rows × Fields) :=
  executeSqlTrinoWithMetadata exampleTrino "select amount from gold.sales" 100 5000 none

theorem numberedServer_returns (pages : ℕ) : ∃ result,
    eval (numberedServer pages).answers salesQuery = .ok result :=
  (numberedServer pages).returns (extractProcessedBytes_numberedPage pages 0)
    fun uri ↦ extractProcessedBytes_numberedPage pages uri.length

/-- Two pages within the budget are returned completely. -/
theorem two_pages_complete : ∃ answer metadata,
    Run salesQuery (history (numberedServer 1).answers salesQuery) (.ok (answer, metadata)) ∧
      answer.rows = [numberedPage 1 0, numberedPage 1 1].flatMap pageRows := by
  obtain ⟨⟨answer, metadata⟩, hresult⟩ := numberedServer_returns 1
  have hrun := run_history (numberedServer 1).answers salesQuery
  rw [hresult] at hrun
  refine ⟨answer, metadata, hrun, ?_⟩
  rw [(trino_rows_complete_iff hrun ((numberedServer 1).served_history salesQuery)
    (chain_numberedPage 0 1)).mpr (Or.inr (by decide))]
  rfl

/-- Of 52 pages with one row each, under a cap of 100, 51 rows come back as the whole result. -/
theorem budget_cuts_silently : ¬∀ {server : TrinoServer} {settings : TrinoSettings}
    {query : String} {maxRows : ℕ} {timeoutMs : ℤ} {requestId : Option String}
    {events : List TrinoEvent} {answer : Rows} {metadata : Fields} {rest : List Fields},
    Run (executeSqlTrinoWithMetadata settings query maxRows timeoutMs requestId) events
      (.ok (answer, metadata)) →
    (∀ event ∈ events, Served server event) → Chain server.page server.statement rest →
      answer.rows = ((server.statement :: rest).flatMap pageRows).take maxRows := by
  intro hall
  obtain ⟨⟨answer, metadata⟩, hresult⟩ := numberedServer_returns 51
  have hrun := run_history (numberedServer 51).answers salesQuery
  rw [hresult] at hrun
  have hserved := (numberedServer 51).served_history salesQuery
  have hclaimed := hall hrun hserved (chain_numberedPage 0 51)
  rw [executeSqlTrino_rows hrun hserved (chain_numberedPage 0 51)] at hclaimed
  have hstatement : (numberedServer 51).statement = numberedPage 51 0 := rfl
  rw [hstatement, ← List.map_take, ← List.map_cons, ← List.map_cons, flatMap_numberedPage,
    flatMap_numberedPage] at hclaimed
  exact absurd (congrArg List.length hclaimed) (by decide)

end SchemaPilot.Gateway
