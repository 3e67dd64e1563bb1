import SchemaPilot.SharedDomain.GoldPointerFiles

/-!
# Gold snapshots

`backend/workers/gold.py` and `backend/workers/iceberg_ops.py`. A build writes the metrics of a
snapshot, the semantic manifest of the workspace and, if it may publish, the pointer; if it may not, a
placeholder where there is no pointer. The addition of floats is left to the platform.
-/

namespace SchemaPilot.Workers

open Library Library.Json SharedDomain

structure GoldBuildResult where
  snapshotId : String
  dataPath : TreePath
  semanticManifestPath : TreePath
  publishedPointerPath : TreePath
  maintenanceReportPath : Option TreePath
deriving DecidableEq

/-- The arguments of `build_gold_snapshot` but the storage, and the time. -/
structure GoldCall where
  workspaceId : String
  modelName : String
  silverRows : List Fields
  metricField : String
  snapshotId : String
  allowPublish : Bool
  runMaintenanceHooksEnabled : Bool
  now : ℤ

/-- `isinstance(value, (int, float))`. -/
def isNumber : Json → Bool
  | .bool _ => true
  | .int _ => true
  | .float _ => true
  | .special _ => true
  | _ => false

/-- The sum over the rows; `addFloat total value` is `total + float(value)`. -/
def goldTotal (addFloat : Json → Json → Except Exn Json) (metricField : String)
    (silverRows : List Fields) : Except Exn Json :=
  silverRows.foldlM (fun total row ↦
      let value := getD row metricField (.int 0)
      if isNumber value then addFloat total value else .ok total)
    (.float ⟨"0.0", isFloatText_zero⟩)

/-- What `metrics.json` holds. -/
def goldAggregate (metricField : String) (total : Json) : Json :=
  .arr [.obj [("metric", .str ("sum_" ++ metricField)), ("value", total)]]

def goldManifest (call : GoldCall) : Json :=
  .obj [("manifest_version", .str "1.0.0"), ("model_name", .str call.modelName),
    ("snapshot_id", .str call.snapshotId),
    ("metrics", .arr [.obj [("name", .str ("sum_" ++ call.metricField)), ("grain", .str "global")]])]

/-- What the pointer holds, `None` standing for the snapshot of a placeholder. -/
def publishedPointer (call : GoldCall) (snapshotId : Json) : Json :=
  .obj [("snapshot_id", snapshotId), ("model_name", .str call.modelName)]

def simulatedOperation (name : String) : Json :=
  .obj [("name", .str name), ("status", .str "simulated")]

def maintenanceReport (call : GoldCall) : Json :=
  .obj [("workspace_id", .str call.workspaceId), ("snapshot_id", .str call.snapshotId),
    ("operations", .arr
      [simulatedOperation "expire_snapshots", simulatedOperation "rewrite_manifests"]),
    ("status", .str "applied")]

def goldRoot (outputRoot : TreePath) (workspaceId modelName snapshotId : String) : TreePath :=
  joinNames outputRoot ["gold", workspaceId, modelName, "snapshots", snapshotId]

def semanticRoot (outputRoot : TreePath) (workspaceId : String) : TreePath :=
  joinNames outputRoot ["gold", workspaceId, "semantic_manifest", "v1"]

def publishedRoot (outputRoot : TreePath) (workspaceId : String) : TreePath :=
  joinNames outputRoot ["gold", workspaceId, "_published"]

def maintenanceRoot (outputRoot : TreePath) (workspaceId : String) : TreePath :=
  joinNames outputRoot ["gold", workspaceId, "_maintenance"]

def metricsPath (outputRoot : TreePath) (call : GoldCall) : TreePath :=
  goldRoot outputRoot call.workspaceId call.modelName call.snapshotId ++ ["metrics.json"]

def semanticManifestPath (outputRoot : TreePath) (workspaceId : String) : TreePath :=
  semanticRoot outputRoot workspaceId ++ ["manifest.json"]

def publishedPointerPath (outputRoot : TreePath) (workspaceId : String) : TreePath :=
  publishedRoot outputRoot workspaceId ++ ["latest.json"]

def reportPath (outputRoot : TreePath) (call : GoldCall) : TreePath :=
  joinName (maintenanceRoot outputRoot call.workspaceId) (call.snapshotId ++ ".json")

/-- `run_iceberg_maintenance_hooks`. -/
def runIcebergMaintenanceHooks (outputRoot : TreePath) (call : GoldCall) :
    Files (Option TreePath) :=
  if call.runMaintenanceHooksEnabled then do
    Files.makeDirs (maintenanceRoot outputRoot call.workspaceId)
    Files.writeJson (reportPath outputRoot call) (canon (maintenanceReport call)) call.now
    return some (reportPath outputRoot call)
  else return none

/-- Publish the pointer, or put a placeholder where there is none. -/
def writePointer (outputRoot : TreePath) (call : GoldCall) : Files Unit := do
  let path := publishedPointerPath outputRoot call.workspaceId
  Files.makeDirs (publishedRoot outputRoot call.workspaceId)
  if call.allowPublish then
    Files.writeJson path (publishedPointer call (.str call.snapshotId)) call.now
  else
    let found ← Files.pathExists path
    Effect.onlyIf (found = false) (Files.writeJson path (publishedPointer call .null) call.now)

/-- `build_gold_snapshot`. -/
def buildGoldSnapshot (addFloat : Json → Json → Except Exn Json) (outputRoot : TreePath)
    (call : GoldCall) : Files GoldBuildResult := do
  let total ← Effect.ofExcept (goldTotal addFloat call.metricField call.silverRows)
  Files.makeDirs (goldRoot outputRoot call.workspaceId call.modelName call.snapshotId)
  Files.writeJson (metricsPath outputRoot call) (canon (goldAggregate call.metricField total))
    call.now
  Files.makeDirs (semanticRoot outputRoot call.workspaceId)
  Files.writeJson (semanticManifestPath outputRoot call.workspaceId) (canon (goldManifest call))
    call.now
  writePointer outputRoot call
  let report ← runIcebergMaintenanceHooks outputRoot call
  return ⟨call.snapshotId, metricsPath outputRoot call,
    semanticManifestPath outputRoot call.workspaceId,
    publishedPointerPath outputRoot call.workspaceId, report⟩

end SchemaPilot.Workers
