import SchemaPilot.Gateway.Histories

/-!
# Executing against a gold pointer

What `execute_sql` gives with a given pointer in force (`executedRows`). The files of a published
snapshot are taken not to change, and the engines to answer a text over given views in one way or to
fail. An execution depends on the pointer only through the model and the snapshot it names
(`executedRows_congr`), and an execution in a run, whose pointer is read when it comes to that, has
given what it gives against any pointer that names the same data (`executeSql_run`).
-/

namespace SchemaPilot.Gateway

open Library Library.Program Library.Text Library.Json SharedDomain

/-- The files and engines a query is executed on. -/
structure Engines where
  pathExists : List String → Bool
  duckdb : Option PublishedViews → String → Except Exn Rows
  trino : String → ℤ → ℤ → Except Exn (Rows × Fields)

/-- What an execution against a pointer is answered, the query being in time. -/
def Engines.answersAt (engines : Engines) (pointer : Option GoldPointer) :
    (op : GatewayOp) → Except Exn op.Answer
  | .latestGoldPointer _ => .ok pointer
  | .pathExists path => .ok (engines.pathExists path)
  | .runDuckdb views query => engines.duckdb views query
  | .runTrino query maxRows timeoutMs => engines.trino query maxRows timeoutMs
  | .elapsedExceeds _ => .ok false
  | _ => .error (.other "not called")

def execution (settings : Settings) (workspaceId : String) (checked : CheckedQuery) :
    Handler QueryResult :=
  executeSql settings checked.executedText checked.maxRows checked.abac.rowFilter checked.timeoutMs
    workspaceId

def maskedRows (platform : Platform) (checked : CheckedQuery) (result : QueryResult) : Rows :=
  ⟨result.columns, result.rows.map (maskRow platform checked.abac.masks result.columns)⟩

/-- What executing a checked query against a pointer gives, masked. -/
def executedRows (platform : Platform) (settings : Settings) (engines : Engines)
    (workspaceId : String) (checked : CheckedQuery) (pointer : Option GoldPointer) :
    Except Exn Rows :=
  (eval (engines.answersAt pointer) (execution settings workspaceId checked)).map
    (maskedRows platform checked)

/-- The model and the snapshot an execution reads under a pointer. -/
def publishedData (pointer : Option GoldPointer) : Option (String × String) :=
  pointer.bind fun pointer ↦
    if strip pointer.modelName = "" ∨ strip pointer.snapshotId = "" then none
    else some (strip pointer.modelName, strip pointer.snapshotId)

def viewsOver (settings : Settings) (engines : Engines) (workspaceId : String)
    (data : Option (String × String)) : Option PublishedViews :=
  if workspaceId = "" then none
  else data.bind fun (modelName, snapshotId) ↦
    let dataPath := metricsPath settings.storageRoot workspaceId modelName snapshotId
    if engines.pathExists dataPath then some ⟨dataPath, safeIdentifier modelName⟩ else none

theorem eval_preparePublishedGoldViews (settings : Settings) (engines : Engines)
    (workspaceId : String) (pointer : Option GoldPointer) :
    eval (engines.answersAt pointer) (preparePublishedGoldViews settings workspaceId) =
      .ok (viewsOver settings engines workspaceId (publishedData pointer)) := by
  unfold preparePublishedGoldViews viewsOver
  by_cases hworkspace : workspaceId = ""
  · rw [if_pos hworkspace, if_pos hworkspace]
    rfl
  rw [if_neg hworkspace, if_neg hworkspace]
  cases pointer with
  | none => rfl
  | some pointer =>
    have hpointer : eval (engines.answersAt (some pointer)) (ask (.latestGoldPointer workspaceId)) =
        .ok (some pointer) := rfl
    rw [eval_bind, hpointer]
    dsimp only [Except.bind]
    by_cases hblank : strip pointer.modelName = "" ∨ strip pointer.snapshotId = ""
    · have hdata : publishedData (some pointer) = none := by
        simp [publishedData, hblank]
      rw [hdata, if_pos hblank]
      rfl
    · have hdata : publishedData (some pointer) =
          some (strip pointer.modelName, strip pointer.snapshotId) := by
        simp only [publishedData, Option.bind_some, if_neg hblank]
      rw [hdata, if_neg hblank]
      rfl

/-- An execution depends on the data a pointer selects only. -/
theorem eval_executeSql_congr {settings : Settings} {engines : Engines} {sql : String} {maxRows : ℤ}
    {rowFilter : Option (String × String)} {timeoutMs : ℤ} {workspaceId : String}
    {pointer pointer' : Option GoldPointer}
    (h : publishedData pointer = publishedData pointer') :
    eval (engines.answersAt pointer)
        (executeSql settings sql maxRows rowFilter timeoutMs workspaceId) =
      eval (engines.answersAt pointer')
        (executeSql settings sql maxRows rowFilter timeoutMs workspaceId) := by
  have hsame : ∀ {α : Type} {p : Handler α}, Only (fun op ↦ op.kind ≠ .pointer) p →
      eval (engines.answersAt pointer) p = eval (engines.answersAt pointer') p := by
    refine fun hp ↦ eval_congr (Only.mono (fun op hop ↦ ?_) hp)
    cases op with
    | latestGoldPointer workspaceId => exact absurd rfl hop
    | _ => rfl
  unfold executeSql
  rw [eval_bind, eval_bind]
  cases hvalid : validateReadOnlyQuery (if sql = "" then "select 1 as one" else sql) with
  | error exception => rfl
  | ok query =>
    show eval _ (if _ then _ else _) = eval _ (if _ then _ else _)
    by_cases hbudget : max 1 (min timeoutMs 60000) ≤ 1
    · rw [if_pos hbudget]
      rfl
    rw [if_neg hbudget]
    by_cases htrino : settings.queryEngine = "trino"
    · rw [if_pos htrino]
      refine hsame (Only.mono (fun op hop hkind ↦ ?_) (calling_executeTrino _ _ _ _))
      rw [hkind] at hop
      exact absurd hop (by decide)
    · rw [if_neg htrino]
      unfold executeDuckdb
      rw [eval_bind, eval_bind, eval_preparePublishedGoldViews, eval_preparePublishedGoldViews, h]
      refine hsame (Only.bind (by simp [GatewayOp.kind]) fun answer ↦
        Only.bind (by simp [GatewayOp.kind]) fun late ↦ ?_)
      exact Only.ite (fun _ ↦ only_raise _ _) fun _ ↦
        Only.bind (only_ofExcept _ _) fun rows ↦ only_ret _ _

theorem executedRows_congr {platform : Platform} {settings : Settings} {engines : Engines}
    {workspaceId : String} {checked : CheckedQuery} {pointer pointer' : Option GoldPointer}
    (h : publishedData pointer = publishedData pointer') :
    executedRows platform settings engines workspaceId checked pointer =
      executedRows platform settings engines workspaceId checked pointer' := by
  rw [executedRows, executedRows, execution, eval_executeSql_congr h]

/-- The files and engines answered a call as they do, or the call failed. -/
def Faithful (engines : Engines) : GatewayEvent → Prop
  | ⟨.pathExists path, .ok found⟩ => engines.pathExists path = found
  | ⟨.runDuckdb views query, .ok rows⟩ => engines.duckdb views query = .ok rows
  | ⟨.runTrino query maxRows timeoutMs, .ok answer⟩ =>
    engines.trino query maxRows timeoutMs = .ok answer
  | _ => True

theorem prepare_run {settings : Settings} {engines : Engines} {workspaceId : String}
    {events : List GatewayEvent} {views : Option PublishedViews} {pointer : Option GoldPointer}
    (h : Run (preparePublishedGoldViews settings workspaceId) events (.ok views))
    (hfaithful : ∀ event ∈ events, Faithful engines event)
    (hpointer : ∀ read, ⟨.latestGoldPointer workspaceId, .ok read⟩ ∈ events →
      publishedData read = publishedData pointer) :
    (.ok views : Except Exn _) =
      .ok (viewsOver settings engines workspaceId (publishedData pointer)) := by
  unfold preparePublishedGoldViews at h
  by_cases hworkspace : workspaceId = ""
  · rw [if_pos hworkspace] at h
    rw [viewsOver, if_pos hworkspace]
    exact ((run_pure_iff _ _ _).mp h).2
  rw [if_neg hworkspace] at h
  obtain ⟨read, rest, rfl, hrest⟩ := h.perform_ok
  rw [← hpointer read List.mem_cons_self, viewsOver, if_neg hworkspace]
  cases read with
  | none => exact ((run_pure_iff _ _ _).mp hrest).2
  | some read =>
    by_cases hblank : strip read.modelName = "" ∨ strip read.snapshotId = ""
    · simp only [if_pos hblank] at hrest
      simp only [publishedData, Option.bind_some, if_pos hblank, Option.bind_none]
      exact ((run_pure_iff _ _ _).mp hrest).2
    · simp only [if_neg hblank] at hrest
      simp only [publishedData, Option.bind_some, if_neg hblank]
      obtain ⟨found, last, rfl, hlast⟩ := hrest.perform_ok
      have hfound := hfaithful _ (List.mem_cons_of_mem _ List.mem_cons_self)
      rw [show engines.pathExists _ = found from hfound]
      exact ((run_pure_iff _ _ _).mp hlast).2

/-- How an execution ends on either engine: the rows that satisfy the filter, where they came in time. -/
def filteredInTime (answer : Rows) (metadata : Fields) (rowFilter : Option (String × String))
    (cappedRows : ℕ) (budgetMs : ℤ) : Handler QueryResult := do
  let late ← ask (.elapsedExceeds budgetMs)
  if late then Program.raise (.queryTimeout "query_timeout_exceeded")
  else do
    let rows ← Program.ofExcept
      (applyOptionalRowFilter answer.columns answer.rows rowFilter cappedRows)
    pure ⟨answer.columns, rows, metadata⟩

section InTime

variable {answer : Rows} {metadata : Fields} {rowFilter : Option (String × String)} {cappedRows : ℕ}
  {budgetMs : ℤ} {events : List GatewayEvent} {result : QueryResult}

theorem filteredInTime_ok
    (h : Run (filteredInTime answer metadata rowFilter cappedRows budgetMs) events (.ok result)) :
    ∃ rows, applyOptionalRowFilter answer.columns answer.rows rowFilter cappedRows = .ok rows ∧
      result = ⟨answer.columns, rows, metadata⟩ := by
  obtain ⟨late, rest, -, hrest⟩ := Run.perform_ok h
  cases late with
  | true => exact absurd hrest Run.not_raise
  | false =>
    obtain ⟨rows, hrows, hpure⟩ := Run.ofExcept_ok hrest
    obtain ⟨-, hresult⟩ := (run_pure_iff _ _ _).mp hpure
    exact ⟨rows, hrows, Except.ok.inj hresult⟩

theorem filtered_run {engines : Engines} {pointer : Option GoldPointer}
    (h : Run (filteredInTime answer metadata rowFilter cappedRows budgetMs) events (.ok result)) :
    eval (engines.answersAt pointer)
      (filteredInTime answer metadata rowFilter cappedRows budgetMs) = .ok result := by
  obtain ⟨rows, hrows, rfl⟩ := filteredInTime_ok h
  rw [filteredInTime, eval_bind]
  show eval _ (Program.ofExcept _ >>= _) = _
  rw [hrows]
  rfl

end InTime

/-- An execution that succeeded has given what it gives against any pointer that selects the data of
the pointer it read. -/
theorem executeSql_run {settings : Settings} {engines : Engines} {sql : String} {maxRows : ℤ}
    {rowFilter : Option (String × String)} {timeoutMs : ℤ} {workspaceId : String}
    {events : List GatewayEvent} {result : QueryResult} {pointer : Option GoldPointer}
    (h : Run (executeSql settings sql maxRows rowFilter timeoutMs workspaceId) events (.ok result))
    (hfaithful : ∀ event ∈ events, Faithful engines event)
    (hpointer : ∀ read, ⟨.latestGoldPointer workspaceId, .ok read⟩ ∈ events →
      publishedData read = publishedData pointer) :
    eval (engines.answersAt pointer)
      (executeSql settings sql maxRows rowFilter timeoutMs workspaceId) = .ok result := by
  unfold executeSql at h ⊢
  obtain ⟨query, hvalid, hquery⟩ := h.ofExcept_ok
  rw [eval_bind, hvalid]
  show eval _ (if _ then _ else _) = _
  by_cases hbudget : max 1 (min timeoutMs 60000) ≤ 1
  · rw [if_pos hbudget] at hquery
    exact absurd hquery Run.not_raise
  rw [if_neg hbudget] at hquery ⊢
  by_cases htrino : settings.queryEngine = "trino"
  · rw [if_pos htrino] at hquery ⊢
    unfold executeTrino at hquery ⊢
    obtain ⟨first, second, ⟨answer, metadata⟩, rfl, hanswer, hlate⟩ := hquery.bind_ok
    rcases (run_tryExcept_iff _ _ _ _).mp hanswer with ⟨value, hvalue, heq⟩ |
      ⟨_, _, exception, -, -, hraise⟩
    · cases heq
      have hfirst := (run_perform_iff _ _ _).mp hvalue
      subst hfirst
      have hengine := hfaithful _ (List.mem_append_left _ (List.mem_singleton_self _))
      have hevaluated : eval (engines.answersAt pointer) (ask (.runTrino query
          (normalizedMaxRows maxRows) (max 1 (min timeoutMs 60000)))) = .ok (answer, metadata) :=
        hengine
      rw [eval_bind, eval_tryExcept_ok hevaluated]
      exact filtered_run hlate
    · cases exception <;> exact absurd hraise Run.not_raise
  · rw [if_neg htrino] at hquery ⊢
    unfold executeDuckdb at hquery ⊢
    obtain ⟨first, second, views, rfl, hviews, hanswer⟩ := hquery.bind_ok
    have hevaluated : eval (engines.answersAt pointer)
        (preparePublishedGoldViews settings workspaceId) = .ok views := by
      rw [eval_preparePublishedGoldViews]
      exact (prepare_run hviews (fun event hevent ↦ hfaithful event (List.mem_append_left _ hevent))
        fun read hread ↦ hpointer read (List.mem_append_left _ hread)).symm
    obtain ⟨answer, rest, rfl, hlate⟩ := hanswer.perform_ok
    have hengine : engines.duckdb views query = .ok answer :=
      hfaithful _ (List.mem_append_right _ List.mem_cons_self)
    rw [eval_bind, hevaluated]
    show eval _ (ask (.runDuckdb views query) >>= _) = _
    rw [eval_bind, eval_perform]
    show (engines.duckdb views query).bind _ = _
    rw [hengine]
    exact filtered_run hlate

end SchemaPilot.Gateway
