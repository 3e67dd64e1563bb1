import SchemaPilot.Gateway.AccessDecision
import SchemaPilot.Gateway.Executor
import SchemaPilot.Gateway.QueryCache
import SchemaPilot.Gateway.Retrieval
import SchemaPilot.Gateway.SemanticBinding

/-!
# The query endpoint

The handler of `/api/v1/gateway/query` in `backend/gateway/app.py`, cut where its control flow is:
the checks between a granted slot and the cache lookup (`queryChecks`), the answer from the cache or
the engine with the release of the slot (`queryRows`), and the budget, provenance and audit of the
answer (`queryAnswer`).
-/

namespace SchemaPilot.Gateway

open Library Library.Text Library.Json SharedDomain

/-- What a query runs on: the text, the datasets it is counted against and the binding of a semantic
query. -/
structure QueryTarget where
  queryText : String
  datasetsUsed : List String
  binding : Option SemanticQueryBinding

structure CheckedQuery where
  target : QueryTarget
  abac : AbacDecision
  maxRows : ℤ
  timeoutMs : ℤ
  cacheKey : String

structure QueryResponse where
  columns : List Column
  rows : List (List Sql.Cell)
  provenance : Fields
  auditEventId : String
  requestId : String
  semantic : Option SemanticQueryBinding

/-- `query.text` of a payload. -/
def queryTextOf (payload : Fields) : String :=
  match getD payload "query" (.obj []) with
  | .obj query => (getD query "text" (.str "")).toStr
  | _ => ""

/-- `str(actor_dict.get("actor_type", "human")).lower()`. -/
def actorTypeOf (actor : Fields) : String := lower (getD actor "actor_type" (.str "human")).toStr

def resourceAttributesOf (payload : Fields) : Fields :=
  dictOrEmpty (get? payload "resource_attributes")

def abacOf (payload actor : Fields) : AbacDecision :=
  evaluateAbac actor (resourceAttributesOf payload)
    (getD payload "abac_mode" (.str "internal")).toStr

def semanticQueryOf (payload : Fields) : Fields := dictOrEmpty (get? payload "semantic_query")

def bindingDenialReason (message : String) : String :=
  if "semantic_".toList <+: message.toList then message else "semantic_query_invalid"

/-- `bind_semantic_query` and the denial of a query that does not bind. -/
def boundQuery (platform : Platform) (context : DecisionContext) (payload actor : Fields) :
    Handler SemanticQueryBinding :=
  (bindSemanticQuery platform.sha256Hex context.workspaceId
    (semanticQueryOf payload)).tryExcept fun exception ↦
      if exception.isValueError then
        deny context (actorIdOf actor) (bindingDenialReason exception.message) []
          [("error", .str exception.message)]
      else Program.raise exception

def deniedDatasetIds (actor : Fields) (binding : SemanticQueryBinding) : List String :=
  binding.datasetIds.filter fun datasetId ↦ datasetId ∉ allowedDatasetIdsOf actor

/-- The two checks on the datasets of a binding. -/
def entitledTarget (context : DecisionContext) (actor : Fields) (binding : SemanticQueryBinding) :
    Handler QueryTarget := do
  let crossWorkspace ← crossWorkspaceDatasetIds context.workspaceId binding.datasetIds
  if crossWorkspace ≠ [] then
    deny context (actorIdOf actor) "dataset_workspace_mismatch"
      [("dataset_ids", textList binding.datasetIds),
        ("cross_workspace_dataset_ids", textList crossWorkspace)] []
  else if deniedDatasetIds actor binding ≠ [] then
    deny context (actorIdOf actor) "dataset_not_allowed"
      [("dataset_ids", textList binding.datasetIds),
        ("denied_dataset_ids", textList (deniedDatasetIds actor binding))] []
  else pure ⟨binding.sqlText, binding.datasetIds, some binding⟩

/-- The AI path: the payload must hold a semantic query that binds, over datasets of this workspace
the actor is entitled to. -/
def semanticTarget (platform : Platform) (context : DecisionContext) (payload actor : Fields) :
    Handler QueryTarget :=
  if semanticQueryOf payload = [] then
    deny context (actorIdOf actor) "semantic_query_required" [] []
  else do
    let binding ← boundQuery platform context payload actor
    entitledTarget context actor binding

/-- The path of the other actors: the caller's own text. -/
def callerTarget (payload : Fields) : QueryTarget :=
  ⟨queryTextOf payload,
    match getD (resourceAttributesOf payload) "dataset_id" .null with
      | .null => []
      | datasetRef => [datasetRef.toStr],
    none⟩

def queryTarget (platform : Platform) (context : DecisionContext) (payload actor : Fields) :
    Handler QueryTarget :=
  if actorTypeOf actor = "ai" then semanticTarget platform context payload actor
  else pure (callerTarget payload)

def constraintsOf (payload : Fields) : Except Exn (ℤ × ℤ) :=
  match getD payload "constraints" (.obj []) with
  | .obj constraints => do
    let maxRows ← intOrDefault (getD constraints "max_rows" (.int 1000)) 1000
    let timeoutMs ← intOrDefault (getD constraints "timeout_ms" (.int 5000)) 5000
    .ok (maxRows, timeoutMs)
  | _ => .ok (1000, 5000)

/-- The JSON object a cache key is the text of; of the gold pointer it holds the snapshot and the
build. -/
def cacheKeyFields (settings : Settings) (context : DecisionContext) (actor : Fields)
    (target : QueryTarget) (abac : AbacDecision) (maxRows timeoutMs : ℤ)
    (policyPack : Option PolicyPack) (pointer : Option GoldPointer) : Fields :=
  [("workspace_id", .str context.workspaceId), ("actor_id", .str (actorIdOf actor)),
    ("actor_roles", .arr (listOrEmpty (get? actor "roles"))),
    ("actor_attributes", .obj (attributesOf actor)), ("query_text", .str target.queryText),
    ("datasets_used", textList (target.datasetsUsed.insertionSort (· ≤ ·))),
    ("row_filter", .obj (serializeRowFilter abac.rowFilter)),
    ("masks", .obj (masksFields abac.masks)), ("max_rows", .int maxRows),
    ("timeout_ms", .int timeoutMs), ("query_engine", .str settings.queryEngine),
    ("policy_pack", .obj ((policyPack.map PolicyPack.toFields).getD [])),
    ("snapshot_id", .str ((pointer.map GoldPointer.snapshotId).getD "")),
    ("build_id", .str ((pointer.map GoldPointer.buildId).getD ""))]

/-- `_build_query_cache_key`. -/
def buildQueryCacheKey (settings : Settings) (context : DecisionContext) (actor : Fields)
    (target : QueryTarget) (abac : AbacDecision) (maxRows timeoutMs : ℤ)
    (policyPack : Option PolicyPack) : Handler String := do
  let pointer ← ask (.latestGoldPointer context.workspaceId)
  pure (dumps (.obj
    (cacheKeyFields settings context actor target abac maxRows timeoutMs policyPack pointer)))

/-- The ABAC decision, the limits and the cache key of a query on a target. -/
def limitedQuery (settings : Settings) (context : DecisionContext) (payload actor : Fields)
    (policyPack : Option PolicyPack) (target : QueryTarget) : Handler CheckedQuery :=
  let abac := abacOf payload actor
  if abac.allow = false then
    denyWith context (actorIdOf actor) "Access denied by ABAC" abac.reason []
      (serializeRowFilter abac.rowFilter) (masksFields abac.masks) []
  else do
    let (maxRows, timeoutMs) ← Program.ofExcept (constraintsOf payload)
    let cacheKey ←
      buildQueryCacheKey settings context actor target abac maxRows timeoutMs policyPack
    pure ⟨target, abac, maxRows, timeoutMs, cacheKey⟩

/-- The steps between a granted slot and the cache lookup. -/
def queryChecks (platform : Platform) (settings : Settings) (context : DecisionContext)
    (payload actor : Fields) (policyPack : Option PolicyPack) : Handler CheckedQuery := do
  let target ← queryTarget platform context payload actor
  limitedQuery settings context payload actor policyPack target

/-- The masking loop on one row: the cell under an output column takes the mask of that name. -/
def maskRow (platform : Platform) (masks : List (String × String)) (columns : List Column)
    (row : List Sql.Cell) : List Sql.Cell :=
  row.mapIdx fun idx value ↦
    let columnName := ((columns[idx]?).map Column.name).getD ("col_" ++ toString idx)
    match masks.lookup columnName with
    | some mode => if mode = "" then value else applyMask platform.sha256Hex value mode
    | none => value

/-- `execute_sql` and the denials its exceptions turn into. -/
def executeChecked (settings : Settings) (context : DecisionContext) (actor : Fields)
    (checked : CheckedQuery) : Handler QueryResult :=
  let queryText := checked.target.queryText
  let denial (message reason error : String) : Handler QueryResult :=
    denyWith context (actorIdOf actor) message reason [("query_text", .str queryText)]
      (serializeRowFilter checked.abac.rowFilter) (masksFields checked.abac.masks)
      [("error", .str error)]
  (executeSql settings (if queryText = "" then "select 1 as one" else queryText) checked.maxRows
    checked.abac.rowFilter checked.timeoutMs context.workspaceId).tryExcept fun
    | .unsafeSql error => denial "Access denied by policy" "sql_unsafe" error
    | .queryTimeout error => denial "Access denied by policy" "query_timeout" error
    | exception =>
      if checked.abac.rowFilter.isSome then
        denial "Access denied by ABAC" "abac_filter_not_enforceable" exception.message
      else do
        recordAccessDecision context (actorIdOf actor) "deny" "query_error"
          [("endpoint", .str context.endpoint), ("query_text", .str queryText)]
          (serializeRowFilter checked.abac.rowFilter) (masksFields checked.abac.masks)
        Program.raise exception

/-- The rows of a checked query, as found in the cache or freshly executed, masked and stored, with
the metadata of the execution. The slot is released on every way out. -/
def queryRows (platform : Platform) (settings : Settings) (context : DecisionContext)
    (actor : Fields) (checked : CheckedQuery) (cached : Option Rows) : Handler (Rows × Fields) :=
  match cached with
  | some payload => do
    ask (.release (actorIdOf actor))
    pure (payload, [])
  | none => do
    let result ← (executeChecked settings context actor checked).tryFinally
      (ask (.release (actorIdOf actor)))
    let masked : Rows :=
      ⟨result.columns, result.rows.map (maskRow platform checked.abac.masks result.columns)⟩
    ask (.cacheSet checked.cacheKey masked)
    pure (masked, result.executionMetadata)

/-- The steps after the slot was released: budget, provenance and the record of the allowed
query. -/
def queryAnswer (settings : Settings) (context : DecisionContext) (actor : Fields)
    (policyPack : Option PolicyPack) (checked : CheckedQuery) (rows : Rows) (metadata : Fields) :
    Handler QueryResponse := do
  let actorId := actorIdOf actor
  let filters := serializeRowFilter checked.abac.rowFilter
  let masks := masksFields checked.abac.masks
  let estimated :=
    estimateQueryCostBytes checked.target.queryText rows.rows.length rows.columns.length
  let budget := [("estimated_query_bytes", Json.int estimated),
    ("query_budget_bytes", Json.int settings.queryMaxBytes)]
  if enforceBudget estimated settings.queryMaxBytes = false then
    denyWith context actorId "Access denied by policy" "query_budget_exceeded" budget filters masks
      budget
  else do
    let buildId ← ask .newUlid
    let queryId ← ask .newUlid
    match buildProvenanceV1 context.workspaceId context.policyDecisionId
      checked.target.datasetsUsed buildId queryId "allow" filters masks none none policyPack with
    | .error exception =>
      denyWith context actorId "Access denied by policy" "provenance_unavailable" [] filters masks
        [("error", .str exception.message)]
    | .ok provenance => do
      recordAccessDecision context actorId "allow" "allow"
        [("endpoint", .str context.endpoint), ("query_text", .str checked.target.queryText),
          ("dataset_ids", textList checked.target.datasetsUsed),
          ("semantic_metric_id", ((checked.target.binding.map fun binding ↦
            Json.str binding.metricId).getD .null)),
          ("semantic_group_by",
            textList ((checked.target.binding.map SemanticQueryBinding.groupBy).getD [])),
          ("semantic_manifest_checksum", ((checked.target.binding.map fun binding ↦
            Json.str binding.manifestChecksum).getD .null)),
          ("policy_pack", ((policyPack.map fun pack ↦ Json.obj pack.toFields).getD .null)),
          ("query_engine_metadata", .obj metadata)] filters masks
      let auditEventId ← ask .newUlid
      pure ⟨rows.columns, rows.rows, provenance, auditEventId, context.correlationId,
        checked.target.binding⟩

def queryAdmitted (platform : Platform) (settings : Settings) (context : DecisionContext)
    (payload actor : Fields) (policyPack : Option PolicyPack) : Handler QueryResponse := do
  let checked ← queryChecks platform settings context payload actor policyPack
  let cached ← ask (.cacheGet checked.cacheKey)
  let (rows, metadata) ← queryRows platform settings context actor checked cached
  queryAnswer settings context actor policyPack checked rows metadata

def queryAccess (actor : Fields) : AccessDecision :=
  evaluateAccess actor ((getD (attributesOf actor) "ai_allowlisted" (.bool false)).truthy)

/-- `query`. -/
def query (platform : Platform) (settings : Settings) (request : Request) :
    Handler QueryResponse :=
  guarded "query" queryAccess request fun context actor policyPack ↦
    queryAdmitted platform settings context request.payload actor policyPack

end SchemaPilot.Gateway
