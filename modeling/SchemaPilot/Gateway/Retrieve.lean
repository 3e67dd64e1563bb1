import SchemaPilot.Gateway.Query

/-!
# The retrieve endpoint

The handler of `/api/v1/gateway/retrieve` in `backend/gateway/app.py`, cut like the query endpoint:
the checks between a granted slot and the search (`retrieveChecks`), the search with the release of
the slot (`retrieveResults`), and the filtering, budget, provenance and audit of the answer
(`retrieveAnswer`). The workspaces of the entitled datasets are looked up in sorted order; the source
iterates over a set.
-/

namespace SchemaPilot.Gateway

open Library Library.Text Library.Json SharedDomain

structure RetrieveResponse where
  results : List Fields
  provenance : Fields
  auditEventId : String
  requestId : String

/-- `str(payload.get("query_text", ""))`. -/
def retrieveTextOf (payload : Fields) : String := (getD payload "query_text" (.str "")).toStr

/-- The steps between a granted slot and the search: the entitlements of the actor and the ABAC
decision. -/
def retrieveChecks (context : DecisionContext) (payload actor : Fields) : Handler AbacDecision := do
  let actorId := actorIdOf actor
  let allowedDatasetIds := allowedDatasetIdsOf actor
  if allowedDatasetIds = [] then deny context actorId "missing_dataset_entitlements" [] []
  else do
    let crossWorkspace ← crossWorkspaceDatasetIds context.workspaceId allowedDatasetIds
    if crossWorkspace ≠ [] then
      deny context actorId "dataset_workspace_mismatch"
        [("cross_workspace_dataset_ids", textList crossWorkspace)] []
    else
      let abac := abacOf payload actor
      if abac.allow = false then
        denyWith context actorId "Access denied by ABAC" abac.reason []
          (serializeRowFilter abac.rowFilter) (masksFields abac.masks) []
      else pure abac

def searchBackend (platform : Platform) (settings : Settings) (context : DecisionContext)
    (payload actor : Fields) : Handler (List Fields) :=
  let queryText := retrieveTextOf payload
  let allowedDatasetIds := allowedDatasetIdsOf actor
  let denial (reason : String) (details : Fields) : Handler (List Fields) :=
    deny context (actorIdOf actor) reason
      [("retrieval_backend", .str settings.retrievalBackend)] details
  let unavailable (error : String) : String :=
    if strip error = "" then "retrieval_backend_unavailable" else strip error
  if settings.retrievalBackend = "filesystem" then do
    let corpus ← ask (.retrievalCorpus context.workspaceId)
    pure (retrieveDocuments platform queryText corpus allowedDatasetIds)
  else if settings.retrievalBackend = "opensearch" then
    if settings.opensearchEnabled = false then denial "module_disabled" []
    else (searchOpensearchDocuments queryText context.workspaceId allowedDatasetIds).tryExcept fun
      | .openSearchUnavailable error => denial (unavailable error) []
      | exception => Program.raise exception
  else if settings.retrievalBackend = "qdrant" then
    if settings.qdrantEnabled = false then denial "module_disabled" []
    else
      let search : Handler (List Fields) := do
        let queryVector ← ask (.embed queryText)
        searchQdrantDocuments queryVector context.workspaceId allowedDatasetIds
      search.tryExcept fun
        | .disabledIntegration error => denial "embedding_provider_disabled" [("error", .str error)]
        | .qdrantUnavailable error => denial (unavailable error) []
        | exception => Program.raise exception
  else denial "retrieval_backend_unsupported" []

/-- The search and the release of the slot. -/
def retrieveResults (platform : Platform) (settings : Settings) (context : DecisionContext)
    (payload actor : Fields) : Handler (List Fields) :=
  (searchBackend platform settings context payload actor).tryFinally
    (ask (.release (actorIdOf actor)))

/-- `_load_dataset_sensitivity_summaries`. -/
def loadDatasetSensitivitySummaries (workspaceId : String) (datasetIds : List String) :
    Handler (List (String × Fields)) :=
  if datasetIds = [] then pure []
  else do
    let rows ← ask (.datasetSummaries workspaceId datasetIds)
    pure (rows.filterMap fun row ↦ row.2.asObj?.map (row.1, ·))

/-- The steps after the slot was released. -/
def retrieveAnswer (platform : Platform) (settings : Settings) (context : DecisionContext)
    (payload actor : Fields) (policyPack : Option PolicyPack) (abac : AbacDecision)
    (found : List Fields) : Handler RetrieveResponse := do
  let actorId := actorIdOf actor
  let queryText := retrieveTextOf payload
  let allowedDatasetIds := allowedDatasetIdsOf actor
  let filters := serializeRowFilter abac.rowFilter
  let masks := masksFields abac.masks
  let datasetIdOf (row : Fields) : String := (getD row "dataset_id" (.str "")).toStr
  let summaries ← loadDatasetSensitivitySummaries context.workspaceId
    (sortedTexts (found.map datasetIdOf))
  let results := applyRetrievalMasks platform
    (applyRetrievalRowFilter found abac.rowFilter summaries) abac.masks
  let estimated := estimateRetrievalCostBytes queryText results.length
  let budget := [("estimated_retrieval_bytes", Json.int estimated),
    ("retrieval_budget_bytes", Json.int settings.retrievalMaxBytes)]
  if enforceBudget estimated settings.retrievalMaxBytes = false then
    denyWith context actorId "Access denied by policy" "retrieval_budget_exceeded" budget filters
      masks budget
  else do
    let citations := results.filterMap fun row ↦
      (get? row "citation").bind fun citation ↦
        if citation.truthy then some citation.toStr else none
    let datasetIds := sortedTexts (results.map datasetIdOf)
    let queryId ← ask .newUlid
    let buildId ← ask .newUlid
    match buildProvenanceV1 context.workspaceId context.policyDecisionId datasetIds buildId queryId
      "allow" filters masks (some citations) (some allowedDatasetIds) policyPack with
    | .error exception =>
      deny context actorId "provenance_unavailable" [] [("error", .str exception.message)]
    | .ok provenance => do
      recordAccessDecision context actorId "allow" "allow"
        [("endpoint", .str context.endpoint), ("query_text", .str queryText),
          ("allowed_dataset_ids", textList allowedDatasetIds),
          ("datasets_used", textList datasetIds),
          ("retrieval_backend", .str settings.retrievalBackend),
          ("policy_pack", ((policyPack.map fun pack ↦ Json.obj pack.toFields).getD .null))]
        filters masks
      let auditEventId ← ask .newUlid
      pure ⟨results, provenance, auditEventId, context.correlationId⟩

def retrieveAdmitted (platform : Platform) (settings : Settings) (context : DecisionContext)
    (payload actor : Fields) (policyPack : Option PolicyPack) : Handler RetrieveResponse := do
  let abac ← retrieveChecks context payload actor
  let found ← retrieveResults platform settings context payload actor
  retrieveAnswer platform settings context payload actor policyPack abac found

def retrieveAccess (actor : Fields) : AccessDecision :=
  evaluateAccess actor (lower (getD actor "actor_type" (.str "")).toStr = "ai" ∧
    (getD (attributesOf actor) "ai_allowlisted" (.bool false)).truthy = true)

/-- `retrieve`. -/
def retrieve (platform : Platform) (settings : Settings) (request : Request) :
    Handler RetrieveResponse :=
  guarded "retrieve" retrieveAccess request fun context actor policyPack ↦
    retrieveAdmitted platform settings context request.payload actor policyPack

end SchemaPilot.Gateway
