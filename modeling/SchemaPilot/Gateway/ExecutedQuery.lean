import SchemaPilot.Gateway.Answers
import SchemaPilot.Gateway.CacheCoherence
import SchemaPilot.Gateway.EngineEquivalence
import SchemaPilot.Gateway.Entitlement

/-!
# A query that was executed

The response of a query whose lookup found nothing comes from one execution of the text it was
checked with, under the row filter, the masks and the limits of the request (`ExecutedQuery`). What
the engine answered is filtered, capped and masked on the way (`ExecutedQuery.answer`).
-/

namespace SchemaPilot.Gateway

open Library Library.Program Library.Text Library.Json SharedDomain

structure ExecutedQuery (platform : Platform) (settings : Settings) (request : Request)
    (actor : Fields) (events : List GatewayEvent) (response : QueryResponse) where
  context : DecisionContext
  checked : CheckedQuery
  checks : List GatewayEvent
  executed : List GatewayEvent
  result : QueryResult
  workspace : context.workspaceId = workspaceIdOf request.payload
  abac : checked.abac = abacOf request.payload actor
  allowed : (abacOf request.payload actor).allow = true
  limits : constraintsOf request.payload = .ok (checked.maxRows, checked.timeoutMs)
  targeted : Run (queryTarget platform context request.payload actor) checks (.ok checked.target)
  checks_subset : checks ⊆ events
  executes : Run (execution settings context.workspaceId checked) executed (.ok result)
  executed_subset : executed ⊆ events
  columns : response.columns = result.columns
  rows : response.rows = result.rows.map
    (maskRow platform (abacOf request.payload actor).masks result.columns)

section

variable {platform : Platform} {settings : Settings} {request : Request} {actor : Fields}
  {events : List GatewayEvent} {response : QueryResponse}

/-- The rows of a query that found none in the cache are those of its execution, masked. -/
theorem queryRows_executed {context : DecisionContext} {checked : CheckedQuery} {rows : Rows}
    {metadata : Fields}
    (h : Run (queryRows platform settings context actor checked none) events (.ok (rows, metadata))) :
    ∃ executed result, executed ⊆ events ∧
      Run (execution settings context.workspaceId checked) executed (.ok result) ∧
      rows = maskedRows platform checked result := by
  obtain ⟨first, second, result, rfl, hrun, hset⟩ := h.bind_ok
  obtain ⟨executed, released, rfl, hexecuted, -⟩ := run_tryFinally_ok hrun
  obtain ⟨_, rest, rfl, hpure⟩ := hset.perform_ok
  obtain ⟨-, hanswer⟩ := (run_pure_iff _ _ _).mp hpure
  cases hanswer
  refine ⟨executed, result, fun event hevent ↦ ?_, executeChecked_ok hexecuted, rfl⟩
  exact List.mem_append_left _ (List.mem_append_left _ hevent)

/-- A query that returned without a hit was executed. -/
theorem query_executed (h : Run (query platform settings request) events (.ok response))
    (hactor : ⟨.authenticatedActor, .ok (some actor)⟩ ∈ events)
    (hmiss : ∀ key rows, ⟨.cacheGet key, .ok (some rows)⟩ ∉ events) :
    Nonempty (ExecutedQuery platform settings request actor events response) := by
  obtain ⟨context, caller, policyPack, before, after, rfl, hworkspace, -, -, hunique, hbody⟩ :=
    guarded_ok h
  obtain rfl : actor = caller := by
    rcases List.mem_append.mp hactor with hmem | hmem
    · exact hunique actor hmem
    · exact absurd (((calling_queryAdmitted _ _ _ _ _ _).after hbody).1 _ hmem)
        (by simp [GatewayOp.kind])
  unfold queryAdmitted at hbody
  obtain ⟨first, rest, checked, rfl, hchecks, hchecked⟩ := hbody.bind_ok
  obtain ⟨cached, found, rfl, hfound⟩ := hchecked.perform_ok
  cases cached with
  | some rows => exact absurd (by simp) (hmiss checked.cacheKey rows)
  | none =>
    obtain ⟨second, last, ⟨rows, metadata⟩, rfl, hrows, hanswer⟩ := hfound.bind_ok
    obtain ⟨checks, pointer, rfl, htarget, habac, hlimits, -⟩ := queryChecks_ok hchecks
    obtain ⟨-, hallow, -⟩ := (queryChecks_run hchecks).mp ⟨checked, rfl⟩
    obtain ⟨executed, result, hsubset, hexecuted, rfl⟩ := queryRows_executed hrows
    obtain ⟨hcolumns, hresponse, -⟩ := queryAnswer_ok hanswer
    refine ⟨⟨context, checked, checks, executed, result, hworkspace, habac, hallow, hlimits, htarget,
      fun event hevent ↦ by simp [hevent], hexecuted, fun event hevent ↦ ?_, hcolumns, ?_⟩⟩
    · simp [hsubset hevent]
    · rw [hresponse, maskedRows, habac]

/-- What the engine answered an executed query. -/
theorem ExecutedQuery.answer
    (query : ExecutedQuery platform settings request actor events response) :
    ∃ text answer, validateReadOnlyQuery query.checked.executedText = .ok text ∧
      ((∃ views, ⟨.runDuckdb views text, .ok answer⟩ ∈ query.executed) ∨
        ∃ budgetMs metadata, ⟨.runTrino text (normalizedMaxRows query.checked.maxRows) budgetMs,
          .ok (answer, metadata)⟩ ∈ query.executed) ∧
      response.columns = answer.columns ∧
      response.rows = ((answer.rows.filter (passesFilter (answer.columns.map Column.name)
        (abacOf request.payload actor).rowFilter)).take
          (normalizedMaxRows query.checked.maxRows)).map
            (maskRow platform (abacOf request.payload actor).masks answer.columns) := by
  have hrun := query.executes
  have hne := query.checked.executedText_ne
  rw [query.columns, query.rows, ← query.abac]
  by_cases htrino : settings.queryEngine = "trino"
  · obtain ⟨text, budgetMs, ⟨answer, metadata⟩, hvalid, hcalled, hcolumns, hrows⟩ :=
      executeSql_trino htrino hrun
    rw [if_neg hne] at hvalid
    rw [hcolumns, hrows]
    exact ⟨text, answer, hvalid, Or.inr ⟨budgetMs, metadata, hcalled⟩, rfl, rfl⟩
  · obtain ⟨views, text, answer, hvalid, hcalled, hcolumns, hrows⟩ :=
      executeSql_duckdb htrino hrun
    rw [if_neg hne] at hvalid
    rw [hcolumns, hrows]
    exact ⟨text, answer, hvalid, Or.inl ⟨views, hcalled⟩, rfl, rfl⟩

/-- The row filter of an executed query is the region of the actor, if it has one. -/
theorem ExecutedQuery.rowFilter
    (query : ExecutedQuery platform settings request actor events response) :
    (abacOf request.payload actor).rowFilter =
      if actorRegion actor = "" then none else some ("region", actorRegion actor) := by
  rcases evaluateAbac_cases actor (resourceAttributesOf request.payload)
    (getD request.payload "abac_mode" (.str "internal")).toStr with ⟨hdenied, -⟩ | ⟨-, hfilter, -⟩
  · have hallowed := query.allowed
    rw [abacOf, hdenied] at hallowed
    cases hallowed
  · exact hfilter

/-- The masks of an executed query are those of an analyst or none. -/
theorem ExecutedQuery.masks
    (query : ExecutedQuery platform settings request actor events response) :
    (abacOf request.payload actor).masks =
      if isAnalyst actor then [("email", "partial_reveal")] else [] := by
  rcases evaluateAbac_cases actor (resourceAttributesOf request.payload)
    (getD request.payload "abac_mode" (.str "internal")).toStr with ⟨hdenied, -⟩ | ⟨-, -, hmasks⟩
  · have hallowed := query.allowed
    rw [abacOf, hdenied] at hallowed
    cases hallowed
  · exact hmasks

/-- The text an AI actor's query is executed with is the block of its semantic query over the
manifest row that was read. -/
theorem ExecutedQuery.bound
    (query : ExecutedQuery platform settings request actor events response)
    (hai : actorTypeOf actor = "ai") :
    ∃ metricId row manifest, requestedMetric (semanticQueryOf request.payload) = .ok metricId ∧
      ⟨.activePolicy (workspaceIdOf request.payload) "semantic_manifest", .ok row⟩ ∈ events ∧
      ManifestOf (workspaceIdOf request.payload) row manifest ∧
      ∃ parts : BoundParts manifest metricId (semanticQueryOf request.payload),
        ∀ text, validateReadOnlyQuery query.checked.executedText = .ok text →
          text = parts.select.render := by
  have htarget := query.targeted
  unfold queryTarget at htarget
  rw [if_pos hai] at htarget
  obtain ⟨binding, htargetEq, ⟨-, metricId, row, hmetric, hrow, hbind⟩, -⟩ :=
    (semanticTarget_run htarget).2 _ rfl
  rw [query.workspace] at hrow hbind
  obtain ⟨manifest, hmanifest, parts, htext, -⟩ := bindState_spec hbind
  refine ⟨metricId, row, manifest, hmetric, query.checks_subset hrow, hmanifest, parts, ?_⟩
  intro text hvalid
  have hstrip := Sql.Select.strip_render parts.select_named parts.items_ne_nil
  have hne : parts.select.render ≠ "" := by
    intro hempty
    obtain ⟨rest, hrest⟩ := Sql.Select.prefix_render parts.select
    rw [hempty] at hrest
    simp at hrest
  have hexecuted : query.checked.executedText = parts.select.render := by
    rw [CheckedQuery.executedText, htargetEq, if_neg (by rw [htext]; exact hne), htext]
  rw [validateReadOnlyQuery_text hvalid, hexecuted, hstrip, if_neg hne]

/-- The column names of a bound query all hold an underscore. -/
theorem BoundParts.underscore_mem {manifest : SemanticManifest} {metricId : Identifier}
    {semanticQuery : Fields} (parts : BoundParts manifest metricId semanticQuery) :
    ∀ name ∈ parts.select.items.map Sql.Item.outputName, '_' ∈ name.toList := by
  intro name hname
  obtain ⟨item, hitem, rfl⟩ := List.mem_map.mp hname
  rcases List.mem_append.mp hitem with hgroup | hmetric
  · obtain ⟨group, -, rfl⟩ := List.mem_map.mp hgroup
    simp [Sql.Item.outputName, GroupItem.outputName]
  · rw [List.mem_singleton.mp hmetric]
    show '_' ∈ "metric_value".toList
    decide

/-- Masks of columns without an underscore leave a row alone whose columns all have one. -/
theorem maskRow_underscore {masks : List (String × String)} {columns : List Column}
    (hmasks : ∀ name, '_' ∈ name.toList → masks.lookup name = none)
    (h : ∀ name ∈ columns.map Column.name, '_' ∈ name.toList) (row : List Sql.Cell) :
    maskRow platform masks columns row = row := by
  have hcolumn (idx : ℕ) : masks.lookup
      (((columns[idx]?).map Column.name).getD ("col_" ++ toString idx)) = none := by
    refine hmasks _ ?_
    cases hfound : columns[idx]? with
    | none => simp
    | some column => exact h _ (List.mem_map_of_mem (List.mem_of_getElem? hfound))
  simp only [maskRow, hcolumn]
  exact List.ext_getElem? fun idx ↦ by simp

/-- The engine's answer to a text, on the DuckDB path or the Trino path. -/
def EngineAnswered (events : List GatewayEvent) (text : String) (limit : ℕ) (answer : Rows) :
    Prop :=
  (∃ views, ⟨.runDuckdb views text, .ok answer⟩ ∈ events) ∨
    ∃ budgetMs metadata, ⟨.runTrino text limit budgetMs, .ok (answer, metadata)⟩ ∈ events

theorem ExecutedQuery.engineAnswered {text : String} {answer : Rows} {limit : ℕ}
    (query : ExecutedQuery platform settings request actor events response)
    (h : EngineAnswered query.executed text limit answer) : EngineAnswered events text limit answer :=
  h.imp (fun ⟨views, hevent⟩ ↦ ⟨views, query.executed_subset hevent⟩)
    fun ⟨budgetMs, metadata, hevent⟩ ↦ ⟨budgetMs, metadata, query.executed_subset hevent⟩

/-- What a query that was executed answers: of what an engine answered to an accepted text the rows of
the actor's region, up to the limit of the request, and masked for an analyst. -/
theorem query_enforced (h : Run (query platform settings request) events (.ok response))
    (hactor : ⟨.authenticatedActor, .ok (some actor)⟩ ∈ events)
    (hmiss : ∀ key rows, ⟨.cacheGet key, .ok (some rows)⟩ ∉ events) :
    (abacOf request.payload actor).allow = true ∧ ∃ maxRows timeoutMs raw text answer,
      constraintsOf request.payload = .ok (maxRows, timeoutMs) ∧
      validateReadOnlyQuery raw = .ok text ∧
      EngineAnswered events text (normalizedMaxRows maxRows) answer ∧
      response.columns = answer.columns ∧
      response.rows = ((answer.rows.filter (passesFilter (answer.columns.map Column.name)
          (if actorRegion actor = "" then none else some ("region", actorRegion actor)))).take
            (normalizedMaxRows maxRows)).map (maskRow platform
              (if isAnalyst actor then [("email", "partial_reveal")] else []) answer.columns) := by
  obtain ⟨query⟩ := query_executed h hactor hmiss
  obtain ⟨text, answer, hvalid, hcalled, hcolumns, hrows⟩ := query.answer
  rw [query.rowFilter, query.masks] at hrows
  exact ⟨query.allowed, _, _, _, text, answer, query.limits, hvalid, query.engineAnswered hcalled,
    hcolumns, hrows⟩

/-- An answer with the columns of a block's meaning over the tables and, in any order, its rows, of
which those behind the limit may be missing. -/
def Rows.Computes (answer : Rows) (functions : Sql.Functions) (catalog : Sql.Catalog)
    (select : Sql.Select) (limit : ℕ) : Prop :=
  answer.columns.map Column.name = (select.eval functions catalog).columns ∧
    ∃ rows, (select.eval functions catalog).rows.Perm rows ∧ answer.rows.take limit = rows.take limit

end

theorem missed_history {answers : (op : GatewayOp) → Except Exn op.Answer} {α : Type} {p : Handler α}
    (h : ∀ key, answers (.cacheGet key) = .ok none) (key : String) (rows : Rows) :
    ⟨.cacheGet key, .ok (some rows)⟩ ∉ history answers p := fun hmem ↦ by
  have hcached := (answer_of_mem_history hmem).trans (h key)
  cases hcached

/-- The steward's query is answered with the rows of the published model. -/
theorem steward_enforced : ∃ text answer response,
    eval (stewardAnswers salesPointer none) stewardQuery = .ok response ∧
      EngineAnswered (history (stewardAnswers salesPointer none) stewardQuery) text 1000 answer ∧
      response.rows = [[.text "sales"]] ∧ response.rows.length ≤ answer.rows.length := by
  obtain ⟨response, hresponse, hsales⟩ : ∃ response,
      eval (stewardAnswers salesPointer none) stewardQuery = .ok response ∧
        response.rows = [[.text "sales"]] := ⟨_, rfl, rfl⟩
  have hrun := run_history (stewardAnswers salesPointer none) stewardQuery
  rw [hresponse] at hrun
  obtain ⟨-, maxRows, _, _, text, answer, hlimits, -, hanswered, -, hrows⟩ :=
    query_enforced hrun (.tail _ (.head _)) (missed_history fun _ ↦ rfl)
  obtain rfl : 1000 = maxRows := congrArg Prod.fst (Except.ok.inj hlimits)
  refine ⟨text, answer, response, hresponse, hanswered, hsales, ?_⟩
  rw [hrows, List.length_map]
  exact (List.length_take_le' _ _).trans (List.length_filter_le _ _)

end SchemaPilot.Gateway
