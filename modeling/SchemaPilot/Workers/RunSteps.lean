import SchemaPilot.Workers.Discover
import SchemaPilot.Workers.RunQueue
import Mathlib.Algebra.Group.Int.Defs

/-!
# The steps of a run

`_process_queued_run` of `backend/workers/run_processor.py` with the step rows it keeps, the three
processors it dispatches to, and `process_run_by_id` over the tables. A processor starts and finishes
its steps by their keys; what it does between is a stage, which is left open: it may change anything
but the run and its steps, raise what it likes, and spoil the session. A flush that fails spoils the
session too: until the rollback no row of it can be loaded. The input references of a run and the
metrics of its steps are left out, as nothing reads them.
-/

namespace SchemaPilot.Workers

open Library Library.Text Library.Json SharedDomain

inductive StepStatus where
  | queued
  | running
  | succeeded
  | failed
deriving DecidableEq

/-- Deterministic run-step node in a run-type DAG. -/
structure RunStepDefinition where
  stepKey : String
  stepOrder : ℕ
  dependsOn : List String
deriving DecidableEq

/-- `RUN_STEP_DEFINITIONS`. -/
def runStepDefinitions : String → List RunStepDefinition
  | "discover" => [
      ⟨"discover_inventory", 10, []⟩,
      ⟨"ingest_profile_governance", 20, ["discover_inventory"]⟩,
      ⟨"semantic_drift_gate", 30, ["ingest_profile_governance"]⟩,
      ⟨"finalize_output", 40, ["semantic_drift_gate"]⟩]
  | "semantic_bootstrap" => [
      ⟨"collect_catalog", 10, []⟩,
      ⟨"build_manifest_candidate", 20, ["collect_catalog"]⟩,
      ⟨"finalize_output", 30, ["build_manifest_candidate"]⟩]
  | "materialize_refresh" => [
      ⟨"collect_inputs", 10, []⟩,
      ⟨"refresh_materializations", 20, ["collect_inputs"]⟩,
      ⟨"finalize_output", 30, ["refresh_materializations"]⟩]
  | _ => []

/-- A row of `runs_run_steps`; what its definition gives is not written again. -/
structure RunStepRecord extends RunStepDefinition where
  runStepId : String
  runId : String
  workspaceId : String
  runType : String
  status : StepStatus
  startedEpoch : Option ℤ
  finishedEpoch : Option ℤ
  durationMs : Option ℤ
  attemptCount : ℕ
  errorCode : Option String
  evidenceBundleUri : Option String
  detailsJson : Fields

/-- What the processing of a run reads from outside. -/
structure RunSettings where
  /-- The clock at its n-th reading. -/
  now : ℕ → ℤ
  /-- The n-th id the run draws. -/
  newUlid : ℕ → String
  /-- What the n-th flush raises, if it fails. -/
  flushFault : ℕ → Option Exn
  /-- What the session raises where a row cannot be loaded before a rollback. -/
  pendingRollback : Exn
  /-- `_worker_step_timeout_seconds()`. -/
  stepTimeoutSeconds : ℤ
  /-- `SCHEMAPILOT_MATERIALIZED_REFRESH_ENABLED`. -/
  materializedRefresh : Option String
  strictIngest : Bool
  /-- `str.lower`. -/
  lowerCase : String → String
  /-- `exc.__class__.__name__`. -/
  className : Exn → String

structure RunState (σ : Type) where
  run : RunRecord
  steps : List RunStepRecord
  events : List (String × Fields)
  /-- What the stages work on. -/
  rest : σ
  /-- The rows of the session can be loaded. -/
  active : Bool
  clockReadings : ℕ
  idsDrawn : ℕ
  flushes : ℕ
  /-- The step rows after each change. -/
  history : List (List RunStepRecord)

abbrev RunEffect (σ α : Type) := Effect (RunState σ) RunError α

/-- What a stage returns or raises, what it leaves, and whether it leaves the session active. -/
abbrev Stage (σ α : Type) := RunState σ → Except RunError α × σ × Bool

structure ProcessedRun where
  runId : String
  workspaceId : String
  runType : String
  status : String
  outputRefs : Fields

section Processing

variable {σ α : Type}

def runStage (body : Stage σ α) : RunEffect σ α := fun state ↦
  ((body state).1,
    { state with rest := (body state).2.1, active := state.active && (body state).2.2 })

/-- `int(time.time())`. -/
def readEpoch (settings : RunSettings) : RunEffect σ ℤ := fun state ↦
  (.ok ((settings.now state.clockReadings).tdiv (10 ^ 9)),
    { state with clockReadings := state.clockReadings + 1 })

/-- `session.flush()`. -/
def flush (settings : RunSettings) : RunEffect σ Unit := fun state ↦
  match settings.flushFault state.flushes with
  | none => (.ok (), { state with flushes := state.flushes + 1 })
  | some exception =>
    (.error (.raised exception), { state with flushes := state.flushes + 1, active := false })

def loadRun (settings : RunSettings) : RunEffect σ RunRecord := do
  let state ← Effect.read
  if state.active then return state.run
  else Effect.raise (.raised settings.pendingRollback)

def changeSteps (f : List RunStepRecord → List RunStepRecord) : RunEffect σ Unit :=
  Effect.change fun state ↦
    { state with steps := f state.steps, history := state.history ++ [f state.steps] }

def setRun (status : String) (outputRefs : Fields) : RunEffect σ Unit :=
  Effect.change fun state ↦
    { state with run := { state.run with status := status, outputRefsJson := outputRefs } }

/-- `_append_run_audit_event`. -/
def appendRunAuditEvent (settings : RunSettings) (eventType : String) (payload : Fields) :
    RunEffect σ Unit := do
  Effect.change fun state ↦
    { state with idsDrawn := state.idsDrawn + 1, events := state.events ++ [(eventType, payload)] }
  flush settings

def updateStep (stepKey : String) (f : RunStepRecord → RunStepRecord) (rows : List RunStepRecord) :
    List RunStepRecord :=
  rows.map fun row ↦ if row.stepKey = stepKey then f row else row

/-- The order of step rows: by `step_order`, then by `run_step_id`. -/
def RunStepRecord.UpTo (first second : RunStepRecord) : Prop :=
  first.stepOrder < second.stepOrder ∨
    first.stepOrder = second.stepOrder ∧ first.runStepId ≤ second.runStepId

instance : DecidableRel RunStepRecord.UpTo := fun _ _ ↦ inferInstanceAs (Decidable (_ ∨ _))

/-- `step_rows.get(step_key)`. -/
def stepRow? (stepKey : String) (rows : List RunStepRecord) : Option RunStepRecord :=
  rows.find? fun row ↦ row.stepKey = stepKey

def newStepRows (settings : RunSettings) (run : RunRecord) (idsDrawn : ℕ) :
    List RunStepRecord :=
  (runStepDefinitions run.runType).mapIdx fun i definition ↦
    { definition with
      runStepId := settings.newUlid (idsDrawn + i)
      runId := run.runId
      workspaceId := run.workspaceId
      runType := run.runType
      status := .queued
      startedEpoch := none
      finishedEpoch := none
      durationMs := none
      attemptCount := 0
      errorCode := none
      evidenceBundleUri := none
      detailsJson := [] }

/-- `_ensure_run_steps`; the state holds the rows the run has. -/
def ensureRunSteps (settings : RunSettings) : RunEffect σ Unit := do
  let state ← Effect.read
  if state.steps = [] then
    changeSteps fun _ ↦ newStepRows settings state.run state.idsDrawn
    Effect.change fun found ↦ { found with idsDrawn := found.idsDrawn + found.steps.length }
    flush settings
  else
    changeSteps fun rows ↦ rows.insertionSort RunStepRecord.UpTo

/-- `_start_step`. -/
def startStep (settings : RunSettings) (stepKey : String) : RunEffect σ Unit := do
  match stepRow? stepKey (← Effect.read).steps with
  | none => return ()
  | some _ =>
    let started ← readEpoch settings
    changeSteps (updateStep stepKey fun row ↦ { row with
      status := .running
      attemptCount := row.attemptCount + 1
      startedEpoch := some started
      finishedEpoch := none
      durationMs := none
      errorCode := none
      evidenceBundleUri := none
      detailsJson := [] })
    flush settings

def finishStep (settings : RunSettings) (stepKey : String) (status : StepStatus)
    (errorCode : Option String) (details : Fields) (evidenceBundleUri : Option String) :
    RunEffect σ Unit := do
  match stepRow? stepKey (← Effect.read).steps with
  | none => return ()
  | some found =>
    let finished ← readEpoch settings
    -- a start at the epoch itself counts as none
    let started := (found.startedEpoch.filter (· ≠ 0)).getD finished
    changeSteps (updateStep stepKey fun row ↦ { row with
      status := status
      finishedEpoch := some finished
      durationMs := some (max ((finished - started) * 1000) 0)
      errorCode := errorCode
      evidenceBundleUri := evidenceBundleUri
      detailsJson := details })
    flush settings

/-- `_succeed_step`. -/
def succeedStep (settings : RunSettings) (stepKey : String) (details : Fields)
    (evidenceBundleUri : Option String) : RunEffect σ Unit :=
  finishStep settings stepKey .succeeded none details evidenceBundleUri

/-- `_fail_step`. -/
def failStep (settings : RunSettings) (stepKey errorCode : String) (details : Fields)
    (evidenceBundleUri : Option String) : RunEffect σ Unit :=
  finishStep settings stepKey .failed (some errorCode) details evidenceBundleUri

/-- `int(row.started_epoch or int(time.time()))`. -/
def startedOrNow (settings : RunSettings) (row : RunStepRecord) : RunEffect σ ℤ :=
  match row.startedEpoch.filter (· ≠ 0) with
  | some started => pure started
  | none => readEpoch settings

/-- `_enforce_worker_step_timeout`, by the row of the step. -/
def enforceStepTimeout (settings : RunSettings) (stepKey : String) : RunEffect σ Unit := do
  match stepRow? stepKey (← Effect.read).steps with
  | none => return ()
  | some row =>
    let started ← startedOrNow settings row
    let now ← readEpoch settings
    Effect.onlyIf (settings.stepTimeoutSeconds < now - started)
      (Effect.raise (.raised (.valueError "worker_step_timeout_exceeded")))

/-- The step a failure is put down to where none has failed: the running one, else the first. -/
def blamedStep? (rows : List RunStepRecord) : Option RunStepRecord :=
  (rows.find? fun row ↦ row.status = .running).or
    (rows.insertionSort RunStepRecord.UpTo).head?

/-- `_ensure_failed_run_step`. -/
def ensureFailedRunStep (settings : RunSettings) (errorCode : String) (details : Fields)
    (evidenceBundleUri : Option String) : RunEffect σ Unit := do
  let rows := (← Effect.read).steps
  if rows.any fun row ↦ row.status = .failed then return ()
  else
    match blamedStep? rows with
    | none => return ()
    | some row => failStep settings row.stepKey errorCode details evidenceBundleUri

end Processing

/-- `str(x) or None`. -/
def textOrNone (text : String) : Option String := if text = "" then none else some text

/-- `len(items)` as a detail. -/
def countOf {β : Type} (items : List β) : Json := .int items.length

/-- What `build_semantic_manifest_candidate` returns. -/
structure SemanticManifestCandidate where
  semanticManifest : Fields
  manifestChecksum : String
  evidenceBundleUri : String
  confidence : Json
  confidenceFlagCount : ℕ
  proposalId : String
  taskId : String
  entityCount : ℕ
  metricCount : ℕ
  joinCount : ℕ

structure IngestReport where
  datasetIds : List String
  artifactManifests : List Json
  evidenceBundles : List Json
  expectedItemCount : ℕ
  processedItemCount : ℕ
  failureCount : ℕ
  piiBlockingTasksCreated : ℕ
  driftBlockingTasksCreated : ℕ
  anomalyBlockingTasksCreated : ℕ

structure RunStages (σ : Type) where
  /-- The datasets of the workspace. -/
  collectDatasets : Stage σ (List String)
  buildSemanticManifestCandidate : Stage σ SemanticManifestCandidate
  /-- The active sources of the workspace. -/
  activeSources : Stage σ (List String)
  /-- The loop over the sources and their files. -/
  ingest : List String → Stage σ IngestReport
  storeCompletenessFailure : IngestReport → Stage σ String
  /-- The proposal and the task of a failure. -/
  ensureCompletenessTask : String → Stage σ (String × String)
  storeCompletenessWarning : IngestReport → Stage σ String
  semanticDriftGate : Stage σ ℕ
  /-- The path of the snapshot. -/
  writeSnapshot : List String → Stage σ String

section Processors

variable {σ : Type}

/-- `_process_semantic_bootstrap_run`. -/
def processSemanticBootstrapRun (settings : RunSettings) (stages : RunStages σ) :
    RunEffect σ Fields := do
  startStep settings "collect_catalog"
  enforceStepTimeout settings "collect_catalog"
  let datasetIds ← runStage stages.collectDatasets
  flush settings
  succeedStep settings "collect_catalog" [("dataset_count", countOf datasetIds)] none
  startStep settings "build_manifest_candidate"
  enforceStepTimeout settings "build_manifest_candidate"
  let candidate ← runStage stages.buildSemanticManifestCandidate
  succeedStep settings "build_manifest_candidate"
    [("entity_count", .int candidate.entityCount), ("metric_count", .int candidate.metricCount),
      ("join_count", .int candidate.joinCount)]
    (textOrNone candidate.evidenceBundleUri)
  let manifestVersion := (getD candidate.semanticManifest "manifest_version" (.str "")).toStr
  startStep settings "finalize_output"
  enforceStepTimeout settings "finalize_output"
  succeedStep settings "finalize_output"
    [("manifest_version", .str manifestVersion), ("dataset_count", countOf datasetIds)]
    (textOrNone candidate.evidenceBundleUri)
  return [("dataset_ids", textList datasetIds), ("dataset_count", countOf datasetIds),
    ("manifest_version", .str manifestVersion),
    ("manifest_checksum", .str candidate.manifestChecksum),
    ("evidence_bundle_uri", .str candidate.evidenceBundleUri),
    ("confidence", candidate.confidence),
    ("confidence_flag_count", .int candidate.confidenceFlagCount),
    ("proposal_id", .str candidate.proposalId), ("task_id", .str candidate.taskId),
    ("entity_count", .int candidate.entityCount), ("metric_count", .int candidate.metricCount),
    ("join_count", .int candidate.joinCount)]

/-- The evidence of what a run could not ingest; a strict run ends with it. -/
def reportIngest (settings : RunSettings) (stages : RunStages σ) (report : IngestReport) :
    RunEffect σ (Option String) :=
  if report.failureCount = 0 then return none
  else if settings.strictIngest then do
    let evidenceBundleUri ← runStage (stages.storeCompletenessFailure report)
    let failureTask ← runStage (stages.ensureCompletenessTask evidenceBundleUri)
    failStep settings "ingest_profile_governance" "strict_ingest_completeness_failed"
      [("failure_count", .int report.failureCount),
        ("success_count", .int report.processedItemCount)]
      (some evidenceBundleUri)
    Effect.raise (.strictIngestCompleteness evidenceBundleUri report.failureCount failureTask.1
      failureTask.2)
  else do
    let evidenceBundleUri ← runStage (stages.storeCompletenessWarning report)
    return some evidenceBundleUri

def discoverOutput (settings : RunSettings) (sources : List String) (report : IngestReport)
    (semanticDrift : ℕ) (warning : Option String) : Fields :=
  [("source_ids", textList sources), ("dataset_ids", textList report.datasetIds),
    ("dataset_count", countOf report.datasetIds), ("strict_ingest", .bool settings.strictIngest),
    ("pii_blocking_tasks_created", .int report.piiBlockingTasksCreated),
    ("drift_blocking_tasks_created", .int report.driftBlockingTasksCreated),
    ("semantic_drift_blocking_tasks_created", .int semanticDrift),
    ("anomaly_blocking_tasks_created", .int report.anomalyBlockingTasksCreated),
    ("expected_item_count", .int report.expectedItemCount),
    ("processed_item_count", .int report.processedItemCount),
    ("completeness_failure_count", .int report.failureCount),
    ("completeness_warning_evidence_uri", (warning.map Json.str).getD .null),
    ("artifact_manifests", .arr report.artifactManifests),
    ("evidence_bundles", .arr report.evidenceBundles)]

/-- `_process_discover_run` with its steps. -/
def processDiscoverSteps (settings : RunSettings) (stages : RunStages σ) : RunEffect σ Fields := do
  startStep settings "discover_inventory"
  enforceStepTimeout settings "discover_inventory"
  let sources ← runStage stages.activeSources
  Effect.onlyIf (sources = [])
    (Effect.raise (.raised (.valueError "Discover run requires at least one active source.")))
  flush settings
  succeedStep settings "discover_inventory" [("source_count", countOf sources)] none
  startStep settings "ingest_profile_governance"
  enforceStepTimeout settings "ingest_profile_governance"
  let report ← runStage (stages.ingest sources)
  let warning ← reportIngest settings stages report
  succeedStep settings "ingest_profile_governance"
    [("processed_item_count", .int report.processedItemCount),
      ("expected_item_count", .int report.expectedItemCount),
      ("failure_count", .int report.failureCount), ("dataset_count", countOf report.datasetIds)]
    warning
  startStep settings "semantic_drift_gate"
  enforceStepTimeout settings "semantic_drift_gate"
  let semanticDrift ← runStage stages.semanticDriftGate
  succeedStep settings "semantic_drift_gate"
    [("semantic_drift_blocking_tasks_created", .int semanticDrift)] none
  startStep settings "finalize_output"
  enforceStepTimeout settings "finalize_output"
  succeedStep settings "finalize_output"
    [("dataset_count", countOf report.datasetIds),
      ("processed_item_count", .int report.processedItemCount),
      ("completeness_failure_count", .int report.failureCount)]
    warning
  return discoverOutput settings sources report semanticDrift warning

/-- `_materialized_refresh_enabled`. -/
def materializedRefreshEnabled (settings : RunSettings) : Bool :=
  match settings.materializedRefresh with
  | none => false
  | some raw => settings.lowerCase (strip raw) ∈ ["1", "true", "yes", "on"]

/-- `_process_materialized_refresh_run`. -/
def processMaterializedRefreshRun (settings : RunSettings) (stages : RunStages σ) :
    RunEffect σ Fields := do
  Effect.onlyIf (materializedRefreshEnabled settings = false)
    (Effect.raise (.raised (.valueError "materialized_refresh_disabled")))
  startStep settings "collect_inputs"
  enforceStepTimeout settings "collect_inputs"
  let datasetIds ← runStage stages.collectDatasets
  succeedStep settings "collect_inputs" [("dataset_count", countOf datasetIds)] none
  startStep settings "refresh_materializations"
  enforceStepTimeout settings "refresh_materializations"
  let snapshotPath ← runStage (stages.writeSnapshot datasetIds)
  succeedStep settings "refresh_materializations"
    [("snapshot_path", .str snapshotPath), ("dataset_count", countOf datasetIds)] none
  startStep settings "finalize_output"
  enforceStepTimeout settings "finalize_output"
  succeedStep settings "finalize_output" [("dataset_count", countOf datasetIds)] none
  return [("materialized_snapshot_path", .str snapshotPath), ("dataset_ids", textList datasetIds),
    ("dataset_count", countOf datasetIds)]

/-- `_execute_run`. -/
def executeRun (settings : RunSettings) (stages : RunStages σ) : RunEffect σ Fields := do
  let runType := (← Effect.read).run.runType
  if runType = "discover" then processDiscoverSteps settings stages
  else if runType = "semantic_bootstrap" then processSemanticBootstrapRun settings stages
  else if runType = "materialize_refresh" then processMaterializedRefreshRun settings stages
  else Effect.raise (.raised (.valueError
    ("Unsupported run_type for worker processor: " ++ runType)))

/-- `str(exc)`. -/
def RunError.message : RunError → String
  | .raised exception => exception.message
  | .strictIngestCompleteness .. => "strict_ingest_completeness_failed"

def isCodeChar (c : Char) : Bool := c.isLower || c.isDigit || c == '_'

/-- `re.sub(r"[^a-z0-9_]+", "_", …)`, after a character that was kept or one that was not. -/
def replaceRuns : Bool → List Char → List Char
  | _, [] => []
  | inRun, c :: rest =>
    if isCodeChar c then c :: replaceRuns false rest
    else if inRun then replaceRuns true rest
    else '_' :: replaceRuns true rest

def normalizedCode (lowerCase : String → String) (message : String) : List Char :=
  let raw := (lowerCase (strip message)).toList.map fun c ↦ if c = ' ' then '_' else c
  ((replaceRuns false raw).dropWhile (· == '_')).rdropWhile (· == '_')

/-- `_error_code_from_exception`. -/
def errorCodeFromException (settings : RunSettings) : RunError → String
  | .strictIngestCompleteness .. => "strict_ingest_completeness_failed"
  | .raised exception =>
    let normalized := normalizedCode settings.lowerCase exception.message
    if exception.isValueError ∧ normalized ≠ [] then String.ofList (normalized.take 80)
    else settings.lowerCase (settings.className exception)

def RunError.evidenceBundleUri? : RunError → Option String
  | .raised _ => none
  | .strictIngestCompleteness evidenceBundleUri .. => some evidenceBundleUri

/-- `failure_payload`. -/
def failurePayload (run : RunRecord) (exception : RunError) : Fields :=
  [("run_id", .str run.runId), ("run_type", .str run.runType),
    ("error", .str exception.message)] ++
    match exception with
    | .raised _ => []
    | .strictIngestCompleteness evidenceBundleUri failureCount proposalId taskId =>
      [("reason", .str "strict_ingest_completeness_failed"), ("failure_count", .int failureCount),
        ("evidence_bundle_uri", .str evidenceBundleUri), ("proposal_id", .str proposalId),
        ("task_id", .str taskId)]

/-- The end of a run with a status, its output, and the payload of its event. -/
def concludeRun (settings : RunSettings) (status : String) (outputRefs payload : Fields) :
    RunEffect σ ProcessedRun := do
  setRun status outputRefs
  flush settings
  appendRunAuditEvent settings ("run." ++ status) payload
  let run := (← Effect.read).run
  return ⟨run.runId, run.workspaceId, run.runType, run.status, outputRefs⟩

/-- The handler of `_process_queued_run`. -/
def handleFailure (settings : RunSettings) (exception : RunError) : RunEffect σ ProcessedRun := do
  let run ← loadRun settings
  ensureFailedRunStep settings (errorCodeFromException settings exception)
    [("error", .str exception.message), ("run_id", .str run.runId)] exception.evidenceBundleUri?
  concludeRun settings "failed" (failurePayload run exception) (failurePayload run exception)

/-- The guarded part of `_process_queued_run`. -/
def executeAndConclude (settings : RunSettings) (stages : RunStages σ) :
    RunEffect σ ProcessedRun := do
  let outputRefs ← executeRun settings stages
  let run := (← Effect.read).run
  concludeRun settings "succeeded" outputRefs
    [("run_id", .str run.runId), ("run_type", .str run.runType), ("output_refs", .obj outputRefs)]

/-- `_process_queued_run`. -/
def processQueuedRun (settings : RunSettings) (stages : RunStages σ) :
    RunEffect σ ProcessedRun := do
  let run := (← Effect.read).run
  setRun "running" run.outputRefsJson
  ensureRunSteps settings
  flush settings
  appendRunAuditEvent settings "run.started"
    [("run_id", .str run.runId), ("run_type", .str run.runType)]
  (executeAndConclude settings stages).tryExcept (handleFailure settings)

end Processors

structure RunTables where
  runs : List RunRecord
  steps : List RunStepRecord

def RunStepRecord.Of (row : RunStepRecord) (run : RunRecord) : Prop :=
  row.workspaceId = run.workspaceId ∧ row.runId = run.runId

instance (row : RunStepRecord) (run : RunRecord) : Decidable (row.Of run) :=
  inferInstanceAs (Decidable (_ ∧ _))

def RunTables.stepsOf (tables : RunTables) (run : RunRecord) : List RunStepRecord :=
  tables.steps.filter fun row ↦ row.Of run

def RunTables.write (tables : RunTables) (run : RunRecord) (rows : List RunStepRecord) :
    RunTables where
  runs := tables.runs.map fun other ↦ if other.runId = run.runId then run else other
  steps := (tables.steps.filter fun row ↦ ¬row.Of run) ++ rows

/-- The tables as a session sees them and as they are committed, and what the stages work on. -/
structure RunWorld (σ : Type) where
  tables : RunTables
  committed : RunTables
  rest : σ

inductive RunAction (σ : Type) where
  /-- A run is queued, by the worker's own session or by another one. -/
  | queue (runId workspaceId runType : String) (own : Bool)
  | process (runId : String) (settings : RunSettings) (stages : RunStages σ)
  | commit
  | rollback

section World

variable {σ : Type}

def RunWorld.startOf (world : RunWorld σ) (run : RunRecord) : RunState σ where
  run := run
  steps := world.tables.stepsOf run
  events := []
  rest := world.rest
  active := true
  clockReadings := 0
  idsDrawn := 0
  flushes := 0
  history := []

def RunTables.queue (tables : RunTables) (runId workspaceId runType : String) : RunTables :=
  if runId ∈ tables.runs.map RunRecord.runId then tables
  else { tables with runs := tables.runs ++ [⟨runId, workspaceId, runType, "queued", []⟩] }

/-- `process_run_by_id` in a tick: an exception rolls the tick back. -/
def processRunById (settings : RunSettings) (stages : RunStages σ) (runId : String)
    (world : RunWorld σ) : RunWorld σ :=
  match world.tables.runs.find? fun run ↦ run.runId = runId with
  | none => world
  | some run =>
    if run.status = "queued" then
      match processQueuedRun settings stages (world.startOf run) with
      | (.ok _, after) =>
        { world with tables := world.tables.write after.run after.steps, rest := after.rest }
      | (.error _, after) => { world with tables := world.committed, rest := after.rest }
    else world

def runStep (world : RunWorld σ) : RunAction σ → RunWorld σ
  | .queue runId workspaceId runType own =>
    { world with
      tables := world.tables.queue runId workspaceId runType
      committed :=
        if own then world.committed else world.committed.queue runId workspaceId runType }
  | .process runId settings stages => processRunById settings stages runId world
  | .commit => { world with committed := world.tables }
  | .rollback => { world with tables := world.committed }

/-- The world after a trace of actions, from empty tables. -/
def worldAfterRuns (rest : σ) (actions : List (RunAction σ)) : RunWorld σ :=
  actions.foldl runStep ⟨⟨[], []⟩, ⟨[], []⟩, rest⟩

end World

end SchemaPilot.Workers
