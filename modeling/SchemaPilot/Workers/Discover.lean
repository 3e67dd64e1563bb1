import SchemaPilot.Library.EffectLogic
import SchemaPilot.Workers.Connectors
import SchemaPilot.Workers.SemanticDrift

/-!
# Discover runs

`_process_discover_run` of `backend/workers/run_processor.py` with the functions it calls, and
`ingest_file_to_bronze` of `backend/workers/bronze.py`. A run discovers the files of each active source,
saves the source's cursor, and takes up the files one after the other: it catalogues a file, ingests it
into bronze, profiles it when it is a CSV, and queues blocking review tasks for what it finds. An error
of a file is a failure of the run's completeness, except for the two texts with which the worker stops a
run. What stands outside the worker is left open: the plugins, the files of the sources and what their
profiles find in them, the clock, and which stage fails where. The rows of the run's steps, its metrics
and its audit events are left out.
-/

namespace SchemaPilot.Workers

open Library Library.Text Library.Json SharedDomain ControlPlane

/-- `catalog_sources`. -/
structure CatalogSource where
  sourceId : String
  workspaceId : String
  sourceType : String
  scopeJson : Json
  status : String

/-- A row of `catalog_datasets` with all its columns. -/
structure DatasetRow extends CatalogDataset where
  sourceId : String
  logicalName : String
  physicalLocator : String
  schemaVersion : ℤ

structure BronzeManifest where
  workspaceId : String
  sourceId : String
  datasetId : String
  artifactId : String
  contentHash : String
  sourceLocator : String
  runId : String
deriving DecidableEq

/-- What a run works on: the tables and files of the control plane, the catalog, and bronze. -/
structure WorkerWorld where
  base : World
  sources : List CatalogSource
  catalog : List DatasetRow
  bronze : List BronzeManifest

structure ProfileEvidence where
  schemaColumns : List String
  rowCountSampled : ℕ
  nullRates : Fields
  uniqueRatio : Fields
  parseErrorRate : Json

/-- `evidence.to_dict()`. -/
def ProfileEvidence.toDict (evidence : ProfileEvidence) : Fields :=
  [("schema_columns", textList evidence.schemaColumns),
    ("row_count_sampled", .int evidence.rowCountSampled), ("null_rates", .obj evidence.nullRates),
    ("unique_ratio", .obj evidence.uniqueRatio), ("parse_error_rate", evidence.parseErrorRate)]

/-- What `detect_pii_proposals` returns, and whether the confidence reaches the threshold. -/
structure PiiDetection where
  tag : String
  confidence : Json
  confident : Bool
  evidence : Json

def stopTexts : List String := ["worker_step_item_quota_exceeded", "worker_step_timeout_exceeded"]

abbrev StageError := { exception : Exn // exception.message ∉ stopTexts }

/-- The stages of a file that read or write outside the tables. -/
inductive ItemStage where
  | ingest
  | profile
  | storeProfile
  | samples
  | storePii (column : String)
  | storeDrift
  | storeAnomaly
deriving DecidableEq

structure WorkerService extends Service where
  /-- `str.lower`. -/
  lowerCase : String → String
  /-- The text `f"{mtime:020.3f}"` of a time. -/
  mtimeText : Json → String
  /-- `str(uuid.uuid5(uuid.NAMESPACE_URL, name))`. -/
  uuid5 : String → String
  /-- `_relative_locator`, which follows links. -/
  relativeLocator : String → String → String
  /-- `Path(path).as_posix()`. -/
  asPosix : String → String
  detectPiiProposals : String → List String → PiiDetection
  detectProfileAnomalies : Fields → List Json

/-- What a run meets. The files of a source are named by their locators; the faults of its stages by
the position of the file in the run. -/
structure RunEnvironment where
  runId : String
  workspaceId : String
  strictIngest : Bool
  now : ℤ
  /-- `_worker_step_max_items()`. -/
  maxItems : ℤ
  /-- `load_connector_plugin_specs()`. -/
  plugins : Except Exn (List (String × ConnectorPluginSpec))
  discoverFiles : String → List String → List String → Except Exn (List DiscoveredFile)
  /-- The hash of a file's content. -/
  sha256 : String → String → Except StageError String
  profileCsvFile : String → String → Except StageError ProfileEvidence
  readCsvColumnSamples : String → String → Except StageError (List (String × List String))
  /-- The time of a step is over at its n-th check. -/
  timedOut : String → ℕ → Bool
  fault : ItemStage → ℕ → Option StageError
  /-- The tick of the run is committed. -/
  commits : Bool

structure ExpectedItem where
  sourceId : String
  sourceType : String
  path : String
  physicalLocator : String

/-- A failure of the completeness report; a failed discovery names no file. -/
structure CompletenessFailure where
  sourceId : String
  sourceType : String
  item : Option (String × String)
  stage : String
  error : String

/-- What a run has done so far. -/
structure DiscoverProgress where
  datasetIds : List String
  artifactManifests : List BronzeManifest
  evidenceBundles : List (String × StoredEvidenceBundle)
  expectedItems : List ExpectedItem
  failures : List CompletenessFailure
  successfulItemCount : ℕ
  piiBlockingTasksCreated : ℕ
  driftBlockingTasksCreated : ℕ
  anomalyBlockingTasksCreated : ℕ

def DiscoverProgress.start : DiscoverProgress := ⟨[], [], [], [], [], 0, 0, 0, 0⟩

structure DiscoverState where
  world : WorkerWorld
  progress : DiscoverProgress

abbrev DiscoverStep (α : Type) := Effect DiscoverState Exn α

/-- Work on the tables and files of the control plane. -/
def onBase {α : Type} (p : Handler α) : DiscoverStep α :=
  p.within (fun state ↦ state.world.base) fun base state ↦
    { state with world := { state.world with base := base } }

def note (f : DiscoverProgress → DiscoverProgress) : DiscoverStep Unit :=
  Effect.change fun state ↦ { state with progress := f state.progress }

def editCatalog (f : List DatasetRow → List DatasetRow) : DiscoverStep Unit :=
  Effect.change fun state ↦
    { state with world := { state.world with catalog := f state.world.catalog } }

def editBronze (f : List BronzeManifest → List BronzeManifest) : DiscoverStep Unit :=
  Effect.change fun state ↦
    { state with world := { state.world with bronze := f state.world.bronze } }

def stageResult {α : Type} (fault : Option StageError) (result : Except StageError α) :
    Except StageError α :=
  match fault with
  | some exception => .error exception
  | none => result

def stage {α : Type} (fault : Option StageError) (result : Except StageError α) : DiscoverStep α :=
  Effect.ofExcept ((stageResult fault result).mapError Subtype.val)

/-- `_enforce_worker_step_timeout`, at the n-th check of a step. -/
def enforceWorkerStepTimeout (env : RunEnvironment) (stepKey : String) (n : ℕ) : DiscoverStep Unit :=
  Effect.onlyIf (env.timedOut stepKey n) (Effect.raise (.valueError "worker_step_timeout_exceeded"))

/-- `_string_list`. -/
def stringList (value : Json) (default : List String) : List String :=
  match value with
  | .arr items =>
    let parsed := (items.map Json.toStr).filter fun item ↦ strip item ≠ ""
    if parsed = [] then default else parsed
  | _ => default

def jsonDict (value : Json) : Fields := (asObj? value).getD []

/-- The files of a source with the root they are found below. -/
def discoveredFiles (service : WorkerService) (env : RunEnvironment)
    (plugins : List (String × ConnectorPluginSpec)) (source : CatalogSource) (state : Fields) :
    Except Exn (String × List DiscoveredFile) :=
  let scope := jsonDict source.scopeJson
  let rootPath := strippedText scope "root_path" ""
  if source.sourceType = "filesystem" then
    if rootPath = "" then
      .error (.valueError ("Filesystem source " ++ source.sourceId ++ " is missing root_path."))
    else
      (env.discoverFiles rootPath (stringList (getD scope "include_globs" .null) ["**/*.csv"])
        (stringList (getD scope "exclude_globs" .null) [])).map fun files ↦ (rootPath, files)
  else
    match plugins.lookup source.sourceType with
    | none => .error (.valueError
        ("Unsupported source_type for discover run: " ++ source.sourceType))
    | some plugin =>
      (discoverFilesViaPlugin service.toFloat plugin (set scope "cursor_state" (.obj state))).map
        fun files ↦ (if rootPath = "" then "." else rootPath, files)

/-- `_stable_dataset_id`. -/
def stableDatasetId (service : WorkerService) (workspaceId sourceId physicalLocator : String) :
    String :=
  service.uuid5
    ("schemapilot://dataset/" ++ workspaceId ++ "/" ++ sourceId ++ "/" ++ physicalLocator)

def DatasetRow.Locates (row : DatasetRow) (workspaceId sourceId physicalLocator : String) : Prop :=
  row.workspaceId = workspaceId ∧ row.sourceId = sourceId ∧ row.physicalLocator = physicalLocator

instance (row : DatasetRow) (workspaceId sourceId physicalLocator : String) :
    Decidable (row.Locates workspaceId sourceId physicalLocator) :=
  inferInstanceAs (Decidable (_ ∧ _ ∧ _))

def renameDataset (datasetId logicalName : String) (catalog : List DatasetRow) : List DatasetRow :=
  catalog.map fun row ↦ if row.datasetId = datasetId then { row with logicalName } else row

/-- `_upsert_catalog_dataset`. -/
def upsertCatalogDataset (service : WorkerService)
    (workspaceId sourceId physicalLocator logicalName : String) : DiscoverStep DatasetRow := do
  let catalog := (← Effect.read).world.catalog
  match catalog.find? fun row ↦ row.Locates workspaceId sourceId physicalLocator with
  | some existing =>
    editCatalog (renameDataset existing.datasetId logicalName)
    return { existing with logicalName }
  | none =>
    let datasetId := stableDatasetId service workspaceId sourceId physicalLocator
    match catalog.find? fun row ↦ row.datasetId = datasetId with
    | some collision =>
      if collision.Locates workspaceId sourceId physicalLocator then
        editCatalog (renameDataset datasetId logicalName)
        return { collision with logicalName }
      else Effect.raise (.valueError
        ("Deterministic dataset id collision for locator " ++ physicalLocator ++ "."))
    | none =>
      let created : DatasetRow :=
        { datasetId := datasetId
          workspaceId := workspaceId
          sensitivitySummary := .obj [("classification", .str "unknown")]
          sourceId := sourceId
          logicalName := logicalName
          physicalLocator := physicalLocator
          schemaVersion := 1 }
      editCatalog fun rows ↦ rows ++ [created]
      return created

/-- `_find_existing_artifact`. -/
def findExistingArtifact (workspaceId sourceId datasetId contentHash : String)
    (bronze : List BronzeManifest) : Option BronzeManifest :=
  bronze.find? fun manifest ↦ manifest.workspaceId = workspaceId ∧ manifest.sourceId = sourceId ∧
    manifest.datasetId = datasetId ∧ manifest.contentHash = contentHash

/-- `ingest_file_to_bronze`. -/
def ingestFileToBronze (service : WorkerService) (env : RunEnvironment) (index : ℕ)
    (sourceId datasetId physicalLocator sourceFile : String) : DiscoverStep BronzeManifest := do
  let contentHash ← stage (env.fault .ingest index) (env.sha256 sourceId physicalLocator)
  let bronze := (← Effect.read).world.bronze
  match findExistingArtifact env.workspaceId sourceId datasetId contentHash bronze with
  | some existing =>
    let manifest :=
      { existing with sourceLocator := service.asPosix sourceFile, runId := env.runId }
    editBronze fun manifests ↦ manifests.map fun other ↦ if other = existing then manifest else other
    return manifest
  | none =>
    let manifest : BronzeManifest :=
      { workspaceId := env.workspaceId
        sourceId := sourceId
        datasetId := datasetId
        artifactId := ← onBase (newUlid service.toService)
        contentHash := contentHash
        sourceLocator := service.asPosix sourceFile
        runId := env.runId }
    editBronze fun manifests ↦ manifests ++ [manifest]
    return manifest

/-- `store_evidence_bundle`, unless the stage fails. -/
def storeEvidence (service : WorkerService) (env : RunEnvironment) (fault : Option StageError)
    (bundleType : String) (payload : Fields) : DiscoverStep StoredEvidenceBundle := do
  stage fault (.ok ())
  onBase (onFiles (storeEvidenceBundle service.codec env.workspaceId payload service.storagePath
    bundleType none env.now))

/-- What the worker has found, with the evidence it stores and the task it queues. -/
structure Finding where
  bundleType : String
  payload : Fields
  proposalType : String
  confidence : Json
  priority : String

/-- Store the evidence of a finding, and queue a blocking task for it where none is open. -/
def queueFinding (service : WorkerService) (env : RunEnvironment) (fault : Option StageError)
    (finding : Finding) : DiscoverStep ℕ := do
  let stored ← storeEvidence service env fault finding.bundleType finding.payload
  let proposal ← onBase (getOrCreateReviewProposal service.toService env.workspaceId
    finding.proposalType stored.evidenceBundleUri finding.confidence)
  let created ← onBase (createBlockingReviewTaskIfMissing service.toService env.workspaceId
    proposal.proposalId finding.priority)
  return if created then 1 else 0

/-- What every payload of a dataset's finding begins with. -/
def locatedPayload (datasetId sourceId physicalLocator : String) : Fields :=
  [("dataset_id", .str datasetId), ("source_id", .str sourceId),
    ("physical_locator", .str physicalLocator)]

/-- `PII_HIGH_RISK_TAGS`. -/
def piiHighRiskTags : List String := ["email", "phone", "iban"]

/-- The finding of a column that may hold personal data. -/
def piiFinding (service : WorkerService) (datasetId sourceId physicalLocator columnName : String)
    (samples : List String) : Option Finding :=
  let detection := service.detectPiiProposals columnName samples
  if detection.tag ∉ piiHighRiskTags ∨ detection.confident = false then none
  else some {
    bundleType := "pii"
    payload := locatedPayload datasetId sourceId physicalLocator ++
      [("column_name", .str columnName), ("tag", .str detection.tag),
        ("confidence", detection.confidence), ("evidence", detection.evidence)]
    proposalType := "pii_tag_proposal"
    confidence := detection.confidence
    priority := "security_critical" }

def queueFinding? (service : WorkerService) (env : RunEnvironment) (fault : Option StageError) :
    Option Finding → DiscoverStep ℕ
  | none => pure 0
  | some finding => queueFinding service env fault finding

/-- `_create_pii_review_tasks_from_csv`. -/
def createPiiReviewTasksFromCsv (service : WorkerService) (env : RunEnvironment) (index : ℕ)
    (datasetId sourceId physicalLocator : String) : DiscoverStep ℕ := do
  let samplesByColumn ← stage (env.fault .samples index)
    (env.readCsvColumnSamples sourceId physicalLocator)
  Effect.sumEach (fun columnName ↦ queueFinding? service env (env.fault (.storePii columnName) index)
      (piiFinding service datasetId sourceId physicalLocator columnName
        ((samplesByColumn.lookup columnName).getD [])))
    (Text.sortedTexts (samplesByColumn.map Prod.fst))

/-- `detect_schema_drift`. -/
structure SchemaDrift where
  addedColumns : List String
  removedColumns : List String

/-- The columns that are in one of two schema snapshots only. -/
def detectSchemaDrift (previousColumns currentColumns : List String) : SchemaDrift where
  addedColumns := Text.sortedTexts (currentColumns.filter fun column ↦ column ∉ previousColumns)
  removedColumns := Text.sortedTexts (previousColumns.filter fun column ↦ column ∉ currentColumns)

/-- `drift_detected`. -/
def SchemaDrift.detected (drift : SchemaDrift) : Bool :=
  decide (drift.addedColumns ≠ [] ∨ drift.removedColumns ≠ [])

/-- `severity`. -/
def SchemaDrift.severity (drift : SchemaDrift) : String :=
  if drift.removedColumns ≠ [] then "high" else if drift.addedColumns ≠ [] then "medium" else "none"

def SchemaDrift.toFields (drift : SchemaDrift) : Fields :=
  [("drift_detected", .bool drift.detected), ("severity", .str drift.severity),
    ("added_columns", textList drift.addedColumns),
    ("removed_columns", textList drift.removedColumns)]

def driftFinding (datasetId sourceId physicalLocator : String)
    (previousColumns currentColumns : List String) : Finding where
  bundleType := "drift"
  payload := locatedPayload datasetId sourceId physicalLocator ++
    [("previous_columns", textList previousColumns), ("current_columns", textList currentColumns),
      ("drift", .obj (detectSchemaDrift previousColumns currentColumns).toFields)]
  proposalType := "drift_proposal"
  confidence := floatOne
  priority := "quality_critical"

/-- The finding of `_create_drift_review_task_if_needed`. -/
def driftFinding? (datasetId sourceId physicalLocator : String)
    (previousColumns currentColumns : List String) : Option Finding :=
  if previousColumns = [] then none
  else if (detectSchemaDrift previousColumns currentColumns).detected = false then none
  else some (driftFinding datasetId sourceId physicalLocator previousColumns currentColumns)

/-- The finding of `_create_anomaly_review_task_if_needed`. -/
def anomalyFinding? (service : WorkerService) (datasetId sourceId physicalLocator : String)
    (profile : Fields) : Option Finding :=
  let anomalies := service.detectProfileAnomalies profile
  if anomalies = [] then none
  else some {
    bundleType := "anomaly_detection"
    payload := locatedPayload datasetId sourceId physicalLocator ++
      [("profile", .obj profile), ("anomalies", .arr anomalies)]
    proposalType := "anomaly_detection_proposal"
    confidence := floatOne
    priority := "quality_critical" }

/-- `isinstance(column, (str, int, float))`. -/
def isColumnName : Json → Bool
  | .str _ => true
  | .int _ => true
  | .bool _ => true
  | .float _ => true
  | .special _ => true
  | _ => false

/-- The items a value gives one after the other. -/
def iterate : Json → Except Exn (List Json)
  | .arr items => .ok items
  | .obj fields => .ok (fields.map fun field ↦ .str field.1)
  | .str text => .ok (text.toList.map fun c ↦ .str (String.singleton c))
  | _ => .error (.other "object is not iterable")

/-- The columns of the profile a dataset's summary holds. -/
def recordedColumns (summary : Fields) : Except Exn (List String) :=
  match getD summary "profile" (.obj []) with
  | .obj profile =>
    (iterate (getD profile "schema_columns" (.arr []))).map fun columns ↦
      (columns.filter isColumnName).map Json.toStr
  | _ => .ok []

def profiledSummary (summary : Fields) (evidence : ProfileEvidence) (now : ℤ)
    (stored : StoredEvidenceBundle) : Fields :=
  set (set (set summary "profile" (.obj
      [("row_count_sampled", .int evidence.rowCountSampled),
        ("parse_error_rate", evidence.parseErrorRate),
        ("schema_columns", textList evidence.schemaColumns), ("last_profile_epoch", .int now)]))
    "last_evidence_bundle_uri" (.str stored.evidenceBundleUri))
    "last_evidence_content_hash" (.str stored.contentHash)

/-- `dataset.sensitivity_summary_json = summary`. -/
def setSummary (datasetId : String) (summary : Fields) (catalog : List DatasetRow) :
    List DatasetRow :=
  catalog.map fun row ↦
    if row.datasetId = datasetId then { row with sensitivitySummary := .obj summary } else row

/-- The profile of a CSV file and the findings it gives. -/
def profileItem (service : WorkerService) (env : RunEnvironment) (index : ℕ) (dataset : DatasetRow)
    (sourceId physicalLocator : String) : DiscoverStep Unit := do
  let evidence ← stage (env.fault .profile index) (env.profileCsvFile sourceId physicalLocator)
  let previousSummary := jsonDict dataset.sensitivitySummary
  let previousColumns ← Effect.ofExcept (recordedColumns previousSummary)
  let stored ← storeEvidence service env (env.fault .storeProfile index) "profile"
    (locatedPayload dataset.datasetId sourceId physicalLocator ++
      [("profile", .obj evidence.toDict)])
  editCatalog (setSummary dataset.datasetId
    (profiledSummary previousSummary evidence env.now stored))
  note fun progress ↦ { progress with
    evidenceBundles := progress.evidenceBundles ++ [(dataset.datasetId, stored)] }
  let pii ← createPiiReviewTasksFromCsv service env index dataset.datasetId sourceId physicalLocator
  note fun progress ↦ { progress with
    piiBlockingTasksCreated := progress.piiBlockingTasksCreated + pii }
  let drift ← queueFinding? service env (env.fault .storeDrift index)
    (driftFinding? dataset.datasetId sourceId physicalLocator previousColumns
      evidence.schemaColumns)
  note fun progress ↦ { progress with
    driftBlockingTasksCreated := progress.driftBlockingTasksCreated + drift }
  let anomalies ← queueFinding? service env (env.fault .storeAnomaly index)
    (anomalyFinding? service dataset.datasetId sourceId physicalLocator evidence.toDict)
  note fun progress ↦ { progress with
    anomalyBlockingTasksCreated := progress.anomalyBlockingTasksCreated + anomalies }

/-- `discovered.path.lower().endswith(".csv")`. -/
def isCsvPath (path : String) : Bool := decide (".csv".toList <:+ (lower path).toList)

/-- What a run does with a file in its `try`. -/
def ingestItem (service : WorkerService) (env : RunEnvironment) (source : CatalogSource) (index : ℕ)
    (physicalLocator : String) (discovered : DiscoveredFile) : DiscoverStep Unit := do
  let logicalName :=
    if discovered.datasetFamily ≠ "" then discovered.datasetFamily else stem physicalLocator
  let dataset ← upsertCatalogDataset service env.workspaceId source.sourceId physicalLocator
    logicalName
  note fun progress ↦ { progress with datasetIds := progress.datasetIds ++ [dataset.datasetId] }
  let bronzeResult ← ingestFileToBronze service env index source.sourceId dataset.datasetId
    physicalLocator discovered.path
  note fun progress ↦ { progress with
    artifactManifests := progress.artifactManifests ++ [bronzeResult] }
  Effect.onlyIf (isCsvPath discovered.path)
    (profileItem service env index dataset source.sourceId physicalLocator)
  note fun progress ↦ { progress with successfulItemCount := progress.successfulItemCount + 1 }
  let count := (← Effect.read).progress.successfulItemCount
  Effect.onlyIf (env.maxItems < count)
    (Effect.raise (.valueError "worker_step_item_quota_exceeded"))

/-- Note a failure, unless the worker stops the run. -/
def failItem (source : CatalogSource) (path physicalLocator : String) (exception : Exn) :
    DiscoverStep Unit :=
  if exception.message ∈ stopTexts then Effect.raise exception
  else note fun progress ↦ { progress with
    failures := progress.failures ++
      [⟨source.sourceId, source.sourceType, some (path, physicalLocator), "ingest_profile",
        exception.message⟩] }

/-- One pass of the loop over the files of a source. -/
def processItem (service : WorkerService) (env : RunEnvironment) (source : CatalogSource)
    (rootPath : String) (discovered : DiscoveredFile) : DiscoverStep Unit := do
  let index := (← Effect.read).progress.expectedItems.length
  enforceWorkerStepTimeout env "ingest_profile_governance" (index + 1)
  let physicalLocator := service.relativeLocator rootPath discovered.path
  note fun progress ↦ { progress with
    expectedItems := progress.expectedItems ++
      [⟨source.sourceId, source.sourceType, discovered.path, physicalLocator⟩] }
  (ingestItem service env source index physicalLocator discovered).tryExcept
    (failItem source discovered.path physicalLocator)

def savedState (service : WorkerService) (source : CatalogSource) (state : Fields)
    (files : List DiscoveredFile) : Fields :=
  [("cursor", .str (nextCursorFromDiscoveryRows service.mtimeText files (cursorOf state))),
    ("source_type", .str source.sourceType), ("last_discovered_count", .int files.length)]

def processDiscovered (service : WorkerService) (env : RunEnvironment) (source : CatalogSource)
    (state : Fields) : Except Exn (String × List DiscoveredFile) → DiscoverStep Unit
  | .error exception => note fun progress ↦ { progress with
      failures := progress.failures ++
        [⟨source.sourceId, source.sourceType, none, "discovery", exception.message⟩] }
  | .ok (rootPath, files) => do
    Effect.onlyIf (env.maxItems < files.length)
      (Effect.raise (.valueError "worker_step_item_quota_exceeded"))
    onBase (onFiles (saveConnectorState service.storagePath env.workspaceId source.sourceId
      (savedState service source state files) env.now))
    Effect.forEach (processItem service env source rootPath) files

/-- One pass of the loop over the sources. -/
def processSource (service : WorkerService) (env : RunEnvironment)
    (plugins : List (String × ConnectorPluginSpec)) (source : CatalogSource) :
    DiscoverStep Unit := do
  let state ← onBase (onFiles (loadConnectorState service.storagePath env.workspaceId
    source.sourceId))
  processDiscovered service env source state (discoveredFiles service env plugins source state)

inductive RunError where
  | raised (exception : Exn)
  /-- `StrictIngestCompletenessError`. -/
  | strictIngestCompleteness (evidenceBundleUri : String) (failureCount : ℕ)
      (proposalId taskId : String)

/-- A computation of a run, its exceptions being exceptions of the run. -/
def raised {α : Type} (p : DiscoverStep α) : Effect DiscoverState RunError α := fun state ↦
  ((p state).1.mapError RunError.raised, (p state).2)

structure DiscoverOutput where
  sourceIds : List String
  datasetIds : List String
  strictIngest : Bool
  piiBlockingTasksCreated : ℕ
  driftBlockingTasksCreated : ℕ
  semanticDriftBlockingTasksCreated : ℕ
  anomalyBlockingTasksCreated : ℕ
  expectedItemCount : ℕ
  processedItemCount : ℕ
  completenessFailureCount : ℕ
  completenessWarningEvidenceUri : Option String
  artifactManifests : List BronzeManifest
  evidenceBundles : List (String × StoredEvidenceBundle)

/-- The active sources of a workspace, in the order of their keys. -/
def activeSources (workspaceId : String) (sources : List CatalogSource) : List CatalogSource :=
  (sources.filter fun source ↦ source.workspaceId = workspaceId ∧ source.status = "active")
    |>.insertionSort fun first second ↦ first.sourceId ≤ second.sourceId

def ExpectedItem.toFields (item : ExpectedItem) : Fields :=
  [("source_id", .str item.sourceId), ("source_type", .str item.sourceType),
    ("path", .str item.path), ("physical_locator", .str item.physicalLocator)]

def CompletenessFailure.toFields (failure : CompletenessFailure) : Fields :=
  [("source_id", .str failure.sourceId), ("source_type", .str failure.sourceType)] ++
    (match failure.item with
      | some (path, physicalLocator) =>
        [("path", .str path), ("physical_locator", .str physicalLocator)]
      | none => []) ++
    [("stage", .str failure.stage), ("error", .str failure.error)]

/-- `completeness_payload`. -/
def completenessPayload (env : RunEnvironment) (progress : DiscoverProgress) : Fields :=
  [("workspace_id", .str env.workspaceId), ("run_id", .str env.runId),
    ("strict_mode", .bool env.strictIngest),
    ("expected_items", .arr ((progress.expectedItems.insertionSort fun first second ↦
      [first.sourceId, first.physicalLocator] ≤ [second.sourceId, second.physicalLocator]).map
        fun item ↦ .obj item.toFields)),
    ("failure_count", .int progress.failures.length),
    ("success_count", .int progress.successfulItemCount),
    ("failures", .arr ((progress.failures.insertionSort fun first second ↦
      [first.sourceId, first.stage, (first.item.map Prod.snd).getD ""] ≤
        [second.sourceId, second.stage, (second.item.map Prod.snd).getD ""]).map
          fun failure ↦ .obj failure.toFields))]

/-- `_ensure_ingest_completeness_review_task`. -/
def ensureIngestCompletenessReviewTask (service : Service) (workspaceId evidenceBundleUri : String) :
    Handler (String × String) := do
  let proposal ← getOrCreateReviewProposal service workspaceId "ingest_completeness_proposal"
    evidenceBundleUri floatOne
  let existing ← query fun db ↦ db.tasks.find? fun row ↦ row.workspaceId = workspaceId ∧
    row.subjectRef = proposal.proposalId ∧ row.priority = "quality_critical" ∧ row.unresolved
  let task ← foundOr (createReviewTask service workspaceId proposal.proposalId "quality_critical"
    true) existing
  return (proposal.proposalId, task.taskId)

def reportCompleteness (service : WorkerService) (env : RunEnvironment) :
    Effect DiscoverState RunError (Option StoredEvidenceBundle) := do
  let progress := (← Effect.read).progress
  if progress.failures = [] then return none
  else if env.strictIngest then
    let stored ← raised (storeEvidence service env none "ingest_completeness_failure"
      (completenessPayload env progress))
    let failureTask ← raised (onBase (ensureIngestCompletenessReviewTask service.toService
      env.workspaceId stored.evidenceBundleUri))
    Effect.raise (.strictIngestCompleteness stored.evidenceBundleUri progress.failures.length
      failureTask.1 failureTask.2)
  else
    let stored ← raised (storeEvidence service env none "ingest_completeness_warning"
      (completenessPayload env progress))
    return some stored

/-- `_create_semantic_drift_review_task_if_needed` on the tables with the datasets of the catalog. -/
def semanticDriftGate (service : WorkerService) (env : RunEnvironment) : DiscoverStep ℕ :=
  (createSemanticDriftReviewTaskIfNeeded service.toService service.lowerCase env.now
    env.workspaceId).within
    (fun state ↦ { state.world.base with db := { state.world.base.db with
      datasets := state.world.catalog.map DatasetRow.toCatalogDataset } })
    fun base state ↦ { state with world := { state.world with base := base } }

/-- What the steps up to the completeness report do. -/
def ingestSources (service : WorkerService) (env : RunEnvironment) (sources : List CatalogSource) :
    DiscoverStep Unit := do
  enforceWorkerStepTimeout env "ingest_profile_governance" 0
  let plugins ← Effect.ofExcept env.plugins
  Effect.forEach (processSource service env plugins) sources

/-- What the steps after the completeness report return. -/
def finishDiscover (service : WorkerService) (env : RunEnvironment) (sources : List CatalogSource)
    (warning : Option StoredEvidenceBundle) : DiscoverStep DiscoverOutput := do
  enforceWorkerStepTimeout env "semantic_drift_gate" 0
  let semanticDrift ← semanticDriftGate service env
  enforceWorkerStepTimeout env "finalize_output" 0
  let progress := (← Effect.read).progress
  return {
    sourceIds := sources.map CatalogSource.sourceId
    datasetIds := Text.sortedTexts progress.datasetIds
    strictIngest := env.strictIngest
    piiBlockingTasksCreated := progress.piiBlockingTasksCreated
    driftBlockingTasksCreated := progress.driftBlockingTasksCreated
    semanticDriftBlockingTasksCreated := semanticDrift
    anomalyBlockingTasksCreated := progress.anomalyBlockingTasksCreated
    expectedItemCount := progress.expectedItems.length
    processedItemCount := progress.successfulItemCount
    completenessFailureCount := progress.failures.length
    completenessWarningEvidenceUri := warning.map StoredEvidenceBundle.evidenceBundleUri
    artifactManifests := progress.artifactManifests.insertionSort fun first second ↦
      [first.datasetId, first.artifactId] ≤ [second.datasetId, second.artifactId]
    evidenceBundles := progress.evidenceBundles.insertionSort fun first second ↦
      [first.1, first.2.evidenceBundleUri] ≤ [second.1, second.2.evidenceBundleUri] }

/-- `_process_discover_run`. -/
def processDiscoverRun (service : WorkerService) (env : RunEnvironment) :
    Effect DiscoverState RunError DiscoverOutput := do
  raised (enforceWorkerStepTimeout env "discover_inventory" 0)
  let sources := activeSources env.workspaceId (← Effect.read).world.sources
  if sources = [] then
    Effect.raise (.raised (.valueError "Discover run requires at least one active source."))
  else
    raised (ingestSources service env sources)
    let warning ← reportCompleteness service env
    raised (finishDiscover service env sources warning)

/-- The outcome of a run on a world, with the state it leaves. -/
def discoverRun (service : WorkerService) (env : RunEnvironment) (world : WorkerWorld) :
    Except RunError DiscoverOutput × DiscoverState :=
  processDiscoverRun service env ⟨world, .start⟩

/-- The status `_process_queued_run` gives the run. -/
def runStatus : Except RunError DiscoverOutput → String
  | .ok _ => "succeeded"
  | .error _ => "failed"

/-- The world after the tick of a run. A failed run is committed too; a rollback takes back the tables
and leaves the files. -/
def discoverTick (service : WorkerService) (env : RunEnvironment) (world : WorkerWorld) :
    WorkerWorld :=
  let after := (discoverRun service env world).2.world
  if env.commits then after
  else { after with
    base := { after.base with db := world.base.db }
    sources := world.sources
    catalog := world.catalog }

end SchemaPilot.Workers
