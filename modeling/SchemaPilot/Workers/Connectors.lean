import SchemaPilot.SharedDomain.EvidenceStore

/-!
# Connectors and their state

`backend/workers/connectors/plugin_runner.py`, `_discover_files_via_plugin` of
`backend/workers/run_processor.py` and `backend/shared_domain/connector_state.py`: what a plugin
returns becomes discovered files, and the state file of a source keeps the cursor of its discoveries.
What a plugin returns or raises in its process, the walk of `discover_files` over a directory and the
text of a time are left open.
-/

namespace SchemaPilot.Workers

open Library Library.Text Library.Json SharedDomain

structure DiscoveredFile where
  path : String
  sizeBytes : ℤ
  mtimeEpoch : Json
  contentHashSample : String
  datasetFamily : String

structure ConnectorPluginSpec where
  /-- What the plugin returns for a scope, or raises. -/
  plugin : Fields → Except Exn Json
  entrypoint : Option String

/-- `_normalize_plugin_rows`. -/
def normalizePluginRows : Json → Except Exn (List Fields)
  | .arr rows => .ok (rows.filterMap asObj?)
  | _ => .error (.valueError "plugin_execution_failed:expected_list_output")

/-- `_run_plugin_in_subprocess`: the child normalises the rows it prints, and its errors are its
output. -/
def runPluginInSubprocess (raw : Except Exn Json) : Except Exn (List Fields) :=
  match raw.bind normalizePluginRows with
  | .error exception => .error (.valueError ("plugin_execution_failed:" ++ exception.message))
  | .ok rows => normalizePluginRows (.arr (rows.map Json.obj))

/-- `execute_connector_plugin`. -/
def executeConnectorPlugin (pluginSpec : ConnectorPluginSpec) (scope : Fields) :
    Except Exn (List Fields) :=
  if (pluginSpec.entrypoint.getD "") ≠ "" then runPluginInSubprocess (pluginSpec.plugin scope)
  else (pluginSpec.plugin scope).bind normalizePluginRows

def rowPath (row : Fields) : String := strippedText row "path" ""

/-- `0.0`. -/
def floatZero : Json := .float ⟨"0.0", isFloatText_zero⟩

/-- `int(size_raw) if isinstance(size_raw, (int, float, str)) else 0`. -/
def sizeBytesOf : Json → Except Exn ℤ
  | .null => .ok 0
  | .arr _ => .ok 0
  | .obj _ => .ok 0
  | size => toInt size

/-- `float(mtime_raw) if isinstance(mtime_raw, (int, float, str)) else 0.0`. -/
def mtimeEpochOf (toFloat : Json → Except Exn Json) : Json → Except Exn Json
  | .null => .ok floatZero
  | .arr _ => .ok floatZero
  | .obj _ => .ok floatZero
  | mtime => toFloat mtime

/-- `Path(path).stem`. -/
def stem (path : String) : String :=
  let name := ((path.toList.splitOn '/').filter fun part ↦ part ≠ [] ∧ part ≠ ['.']).getLast?.getD []
  let suffix := name.reverse.takeWhile (· ≠ '.')
  let front := (name.reverse.drop (suffix.length + 1)).reverse
  String.ofList (if front = [] ∨ suffix = [] then name else front)

def discoveredFileOf (toFloat : Json → Except Exn Json) (row : Fields) :
    Except Exn DiscoveredFile := do
  let path := rowPath row
  let sizeBytes ← sizeBytesOf (getD row "size_bytes" (.int 0))
  let mtimeEpoch ← mtimeEpochOf toFloat (getD row "mtime_epoch" floatZero)
  return {
    path := path
    sizeBytes := sizeBytes
    mtimeEpoch := mtimeEpoch
    contentHashSample := (getD row "content_hash_sample" (.str "")).toStr
    datasetFamily := (getD row "dataset_family" (.str (stem path))).toStr }

/-- `_discover_files_via_plugin`. -/
def discoverFilesViaPlugin (toFloat : Json → Except Exn Json) (pluginSpec : ConnectorPluginSpec)
    (scope : Fields) : Except Exn (List DiscoveredFile) := do
  let rows ← executeConnectorPlugin pluginSpec scope
  let discovered ← (rows.filter fun row ↦ rowPath row ≠ "").mapM (discoveredFileOf toFloat)
  return discovered.insertionSort fun first second ↦ first.path ≤ second.path

/-- `_state_path`. -/
def statePath (storageRoot : TreePath) (workspaceId sourceId : String) : TreePath :=
  storageRoot ++ ["connector_state", workspaceId, sourceId, "state.json"]

/-- `load_connector_state`. -/
def loadConnectorState (storageRoot : TreePath) (workspaceId sourceId : String) : Files Fields := do
  let path := statePath storageRoot workspaceId sourceId
  if ← Files.pathExists path then
    match (← Effect.read).content? path with
    | some (.json (.obj parsed)) => return parsed
    | some _ => return []
    | none => Effect.raise (.other "Is a directory")
  else return []

/-- `save_connector_state`, at the time `now`. -/
def saveConnectorState (storageRoot : TreePath) (workspaceId sourceId : String) (state : Fields)
    (now : ℤ) : Files Unit := do
  let payload :=
    if (get? state "updated_epoch").isSome then state else state ++ [("updated_epoch", .int now)]
  let path := statePath storageRoot workspaceId sourceId
  Files.makeDirs path.dropLast
  Files.writeJson path (canon (.obj payload)) now

def orderKey (mtimeText : Json → String) (discovered : DiscoveredFile) : String :=
  mtimeText discovered.mtimeEpoch ++ ":" ++ strip discovered.path

/-- `next_cursor_from_discovery_rows`. -/
def nextCursorFromDiscoveryRows (mtimeText : Json → String) (discovered : List DiscoveredFile)
    (previousCursor : String) : String :=
  let candidates := discovered.map (orderKey mtimeText) ++
    if previousCursor ≠ "" then [previousCursor] else []
  candidates.max?.getD previousCursor

def cursorOf (state : Fields) : String := (getD state "cursor" (.str "")).toStr

end SchemaPilot.Workers
