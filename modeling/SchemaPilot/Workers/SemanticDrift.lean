import SchemaPilot.ControlPlane.SemanticManifest

/-!
# The semantic drift gate of the worker

`backend/workers/semantic_drift.py` compares the columns a manifest refers to with those of the
datasets, and `_create_semantic_drift_review_task_if_needed` of `backend/workers/run_processor.py`
queues a blocking task where one is missing. `str.lower` is left open: columns may be named in any
script.
-/

namespace SchemaPilot.Workers

open Library Library.Text Library.Json SharedDomain ControlPlane

abbrev AvailableColumns := List (String × List String)

/-- `available_columns_by_dataset.get(dataset_id, set())`. -/
def columnsOf (available : AvailableColumns) (datasetId : String) : List String :=
  (available.lookup datasetId).getD []

def mappingRows (manifest : Fields) (key : String) : List Fields :=
  ((asArr? (getD manifest key (.arr []))).getD []).filterMap asObj?

/-- `entity_to_dataset`; an id that comes twice belongs to the later row. -/
def entityToDataset (entities : List Fields) : List (String × String) :=
  (entities.map fun entity ↦ (strippedText entity "entity_id" "",
    strippedText entity "dataset_id" "")).reverse.filter fun pair ↦ pair.1 ≠ "" ∧ pair.2 ≠ ""

/-- `entity_to_dataset.get(entity_id, "")`. -/
def datasetOf (entities : List Fields) (entityId : String) : String :=
  ((entityToDataset entities).lookup entityId).getD ""

def dimensionIssues (entities : List Fields) (available : AvailableColumns) (dimension : Fields) :
    List Fields :=
  let dimensionId := strippedText dimension "dimension_id" ""
  let entityId := strippedText dimension "entity_id" ""
  let datasetId := datasetOf entities entityId
  if dimensionId = "" ∨ datasetId = "" then []
  else if dimensionId ∈ columnsOf available datasetId then []
  else [[("issue_type", .str "missing_dimension_column"), ("entity_id", .str entityId),
    ("dataset_id", .str datasetId), ("column", .str dimensionId)]]

/-- `_expression_tokens`. -/
def expressionTokens (lowerCase : String → String) (expression : String) : List String :=
  (splitBlank (String.ofList (expression.toList.map fun c ↦
    if c = '(' ∨ c = ')' ∨ c = ',' then ' ' else c))).map fun part ↦ lowerCase (strip part)

def metricIssues (lowerCase : String → String) (entities : List Fields)
    (available : AvailableColumns) (metric : Fields) : List Fields :=
  let metricId := strippedText metric "metric_id" ""
  let expression := strippedText metric "expression" ""
  let entityId := strippedText metric "entity_id" ""
  let datasetId := datasetOf entities entityId
  if metricId = "" ∨ expression = "" ∨ datasetId = "" then []
  else
    ((expressionTokens lowerCase expression).filter fun token ↦
      token ∉ ["count", "sum", "avg", "min", "max"] ∧
        token ∉ columnsOf available datasetId).map fun token ↦
      [("issue_type", .str "missing_metric_expression_column"), ("metric_id", .str metricId),
        ("entity_id", .str entityId), ("dataset_id", .str datasetId), ("column", .str token),
        ("expression", .str expression)]

/-- `issues` of `detect_semantic_manifest_drift`. -/
def semanticManifestIssues (lowerCase : String → String) (semanticManifest : Fields)
    (available : AvailableColumns) : List Fields :=
  let entities := mappingRows semanticManifest "entities"
  (mappingRows semanticManifest "dimensions").flatMap (dimensionIssues entities available) ++
    (mappingRows semanticManifest "metrics").flatMap (metricIssues lowerCase entities available)

/-- `detect_semantic_manifest_drift`. -/
def detectSemanticManifestDrift (lowerCase : String → String) (semanticManifest : Fields)
    (available : AvailableColumns) : Fields :=
  let issues := semanticManifestIssues lowerCase semanticManifest available
  [("drift_detected", .bool (!issues.isEmpty)), ("issue_count", .int issues.length),
    ("issues", .arr (issues.map Json.obj))]

/-- `_get_or_create_review_proposal`. -/
def getOrCreateReviewProposal (service : Service)
    (workspaceId proposalType evidenceBundleUri : String) (confidence : Json) :
    Handler ReviewProposal := do
  let existing ← query fun db ↦ db.proposals.find? fun row ↦ row.workspaceId = workspaceId ∧
    row.proposalType = proposalType ∧ row.evidenceBundleUri = evidenceBundleUri
  foundOr (createProposal service workspaceId proposalType evidenceBundleUri confidence) existing

/-- `_create_blocking_review_task_if_missing`. -/
def createBlockingReviewTaskIfMissing (service : Service)
    (workspaceId proposalId priority : String) : Handler Bool := do
  match ← query fun db ↦ db.tasks.find? fun row ↦ row.workspaceId = workspaceId ∧
      row.subjectRef = proposalId ∧ row.priority = priority ∧ row.unresolved with
  | some _ => return false
  | none =>
    let _ ← createReviewTask service workspaceId proposalId priority true
    return true

def driftGateManifest (semanticPolicy : Option GovernancePolicy) : Option Fields :=
  (semanticPolicy.bind fun row ↦ row.definitionRef.bind asObj?).bind fun payload ↦
    (getD payload "semantic_manifest" (.obj [])).asObj?

/-- `{str(column).lower() for column in columns_raw if str(column).strip()}` of the profile a
dataset's summary holds, none where it holds no such list. -/
def profileColumns (lowerCase : String → String) (dataset : CatalogDataset) :
    Option (String × List String) :=
  match asObj? (getD ((asObj? dataset.sensitivitySummary).getD []) "profile" (.obj [])) with
  | none => none
  | some profile =>
    (asArr? (getD profile "schema_columns" (.arr []))).map fun columns ↦
      (dataset.datasetId, ((columns.map Json.toStr).filter fun column ↦ strip column ≠ "").map
        lowerCase)

/-- `available_columns_by_dataset`. -/
def availableColumnsByDataset (lowerCase : String → String) (workspaceId : String)
    (db : Database) : AvailableColumns :=
  (db.datasets.filter fun row ↦ row.workspaceId = workspaceId).filterMap (profileColumns lowerCase)

def semanticDriftPayload (workspaceId : String) (drift : Fields) (available : AvailableColumns) :
    Fields :=
  [("workspace_id", .str workspaceId), ("drift", .obj drift),
    ("available_columns_by_dataset", .obj (sortFields (available.map fun entry ↦
      (entry.1, textList (Text.sortedTexts entry.2)))))]

/-- `_create_semantic_drift_review_task_if_needed`, at the time `now`. -/
def createSemanticDriftReviewTaskIfNeeded (service : Service) (lowerCase : String → String)
    (now : ℤ) (workspaceId : String) : Handler ℕ := do
  let semanticPolicy ← query (activePolicyRow? workspaceId "semantic_manifest")
  match driftGateManifest semanticPolicy with
  | none => return 0
  | some manifest =>
    let available ← query (availableColumnsByDataset lowerCase workspaceId)
    if available = [] then return 0
    else
      let drift := detectSemanticManifestDrift lowerCase manifest available
      if truthy (getD drift "drift_detected" (.bool false)) = false then return 0
      else
        let stored ← onFiles (storeEvidenceBundle service.codec workspaceId
          (semanticDriftPayload workspaceId drift available) service.storagePath "semantic_drift"
          none now)
        let proposal ← getOrCreateReviewProposal service workspaceId "semantic_drift_proposal"
          stored.evidenceBundleUri floatOne
        let created ← createBlockingReviewTaskIfMissing service workspaceId proposal.proposalId
          "quality_critical"
        return if created then 1 else 0

end SchemaPilot.Workers
