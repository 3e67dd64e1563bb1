import SchemaPilot.SharedDomain.Purge
import Mathlib.Algebra.Group.Int.Defs

/-!
# Bronze on disk

`backend/workers/bronze.py` on the files of the storage root. A file is a text that `json.dumps`
writes or other bytes. The order in which the system lists directories, hashing, `json.loads` of
other bytes and the identifiers of `new_ulid()` are left open. A source file is read where it lies;
its copy keeps its modification time.
-/

namespace SchemaPilot.Workers.BronzeFiles

open Library Library.Json SharedDomain

structure BronzeIngestResult where
  artifactId : String
  rawPath : String
  manifestPath : String
  contentHash : String
deriving DecidableEq

/-- The storage root and what the system provides. -/
structure BronzeSettings where
  storageRoot : TreePath
  /-- `hashlib.sha256` of the bytes of a file, in hexadecimal digits. -/
  sha256 : FileContent → String
  /-- `json.loads` of bytes that `json.dumps` does not write. -/
  loads : List UInt8 → Except Exn Json
  /-- `path.as_posix()`. -/
  asPosix : TreePath → String
  /-- The order in which the system lists some paths. -/
  listed : FileStore → List TreePath → List TreePath
  listed_perm : ∀ files paths, (listed files paths).Perm paths

/-- The arguments of `ingest_file_to_bronze`, the time, and what `new_ulid()` returns then. -/
structure IngestCall where
  workspaceId : String
  sourceId : String
  datasetId : String
  sourceFile : TreePath
  runId : String
  parser : String
  parserVersion : String
  newUlid : String
  now : ℤ

/-- The year, month and day of a day counted from 1970-01-01, in the Gregorian calendar. Years are
counted from March, in cycles of 400 with 146097 days. -/
def civilDate (day : ℤ) : ℤ × ℕ × ℕ :=
  let shifted := day + 719468
  let dayOfEra := (shifted.fmod 146097).toNat
  let yearOfEra := (dayOfEra - dayOfEra / 1460 + dayOfEra / 36524 - dayOfEra / 146096) / 365
  let dayOfYear := dayOfEra - (365 * yearOfEra + yearOfEra / 4 - yearOfEra / 100)
  let marchMonth := (5 * dayOfYear + 2) / 153
  let month := if marchMonth < 10 then marchMonth + 3 else marchMonth - 9
  (shifted.fdiv 146097 * 400 + yearOfEra + if month ≤ 2 then 1 else 0, month,
    dayOfYear - (153 * marchMonth + 2) / 5 + 1)

def twoDigits (n : ℕ) : String := if n < 10 then "0" ++ toString n else toString n

/-- `strftime("%Y-%m-%d")` of a time in UTC. -/
def utcDate (now : ℤ) : String :=
  let (year, month, day) := civilDate (now.fdiv (86400 * 10 ^ 9))
  toString year ++ "-" ++ twoDigits month ++ "-" ++ twoDigits day

example : utcDate (951782400 * 10 ^ 9) = "2000-02-29" := by decide +kernel

/-- `_sha256`. -/
def sha256Of (settings : BronzeSettings) (path : TreePath) : Files String := do
  match (← Effect.read).content? path with
  | some content => return settings.sha256 content
  | none => Effect.raise (.other "OSError")

/-- The mapping whose `get` is called. -/
def mapping : Json → Except Exn Fields
  | .obj fields => .ok fields
  | _ => .error (.other "AttributeError")

/-- `json.loads` of a file that is taken for a manifest. -/
def manifestBody (settings : BronzeSettings) : Option FileContent → Except Exn Fields
  | some (.json value) => mapping value
  | some (.bytes bytes) => (settings.loads bytes).bind mapping
  | none => .error (.other "OSError")

/-- `dataset_root`. -/
def datasetRoot (settings : BronzeSettings) (workspaceId sourceId datasetId : String) : TreePath :=
  settings.storageRoot ++ ["bronze", workspaceId, sourceId, datasetId]

/-- `dataset_root.rglob("manifest.json")`, nothing for a missing root. -/
def manifestsBelow (settings : BronzeSettings) (files : FileStore) (root : TreePath) :
    List TreePath :=
  if files.pathExists root then
    settings.listed files ((files.below root).filter fun path ↦
      path.getLast? = some "manifest.json")
  else []

/-- The loop of `_find_existing_artifact`. -/
def firstMatch (settings : BronzeSettings) (files : FileStore) (contentHash : String) :
    List TreePath → Except Exn (Option TreePath)
  | [] => .ok none
  | manifest :: rest => do
    let body ← manifestBody settings (files.content? manifest)
    if getD body "content_hash" .null = .str contentHash then .ok (some manifest.dropLast)
    else firstMatch settings files contentHash rest

/-- `_find_existing_artifact`. -/
def findExistingArtifact (settings : BronzeSettings) (files : FileStore)
    (workspaceId sourceId datasetId contentHash : String) : Except Exn (Option TreePath) :=
  firstMatch settings files contentHash
    (manifestsBelow settings files (datasetRoot settings workspaceId sourceId datasetId))

/-- `path.name`. -/
def name (path : TreePath) : String := path.getLast?.getD ""

/-- `shutil.copy2`. -/
def copy2 (source target : TreePath) : Files Unit := do
  let files ← Effect.read
  let destination := if files.isDir target then target ++ [name source] else target
  match files.node? source with
  | some (.file content mtime) =>
    if destination = source then Effect.raise (.other "SameFileError")
    else Files.perform fun files ↦ files.write? destination content mtime
  | _ => Effect.raise (.other "OSError")

def newArtifactRoot (settings : BronzeSettings) (call : IngestCall) : TreePath :=
  datasetRoot settings call.workspaceId call.sourceId call.datasetId ++
    [utcDate call.now, "artifact_" ++ call.newUlid]

/-- Store the raw copy of a new artifact. -/
def storeRaw (settings : BronzeSettings) (call : IngestCall) : Files TreePath := do
  let rawDir := newArtifactRoot settings call ++ ["raw"]
  Files.makeDirs rawDir
  copy2 call.sourceFile (rawDir ++ [name call.sourceFile])
  return newArtifactRoot settings call

/-- `text.replace(needle, "", 1)` of a nonempty needle. -/
def removeFirst (needle : List Char) : List Char → List Char
  | [] => []
  | c :: rest =>
    if needle <+: c :: rest then (c :: rest).drop needle.length else c :: removeFirst needle rest

def artifactIdOf (artifactRoot : TreePath) : String :=
  String.ofList (removeFirst "artifact_".toList (name artifactRoot).toList)

/-- `directory.iterdir()`. -/
def entries (settings : BronzeSettings) (files : FileStore) (directory : TreePath) :
    List TreePath :=
  settings.listed files ((files.below directory).filter fun path ↦
    path.length = directory.length + 1)

/-- `next(directory.iterdir())`, which fails for a missing directory too. -/
def firstEntry (settings : BronzeSettings) (directory : TreePath) : Files TreePath := do
  match entries settings (← Effect.read) directory with
  | entry :: _ => return entry
  | [] => Effect.raise (.other "StopIteration")

def manifestJson (settings : BronzeSettings) (call : IngestCall) (artifactId contentHash : String) :
    Json :=
  .obj
    [("artifact_id", .str artifactId), ("content_hash", .str contentHash),
      ("discovered_schema", .obj []), ("manifest_version", .str "1.0.0"), ("parse_params", .obj []),
      ("parser", .str call.parser), ("parser_version", .str call.parserVersion),
      ("run_id", .str call.runId), ("source_locator", .str (settings.asPosix call.sourceFile))]

/-- `manifest.json` of an artifact. -/
def manifestPath (artifactRoot : TreePath) : TreePath := artifactRoot ++ ["manifest.json"]

/-- `ingest_file_to_bronze` once the directory of the artifact is known. -/
def recordArtifact (settings : BronzeSettings) (call : IngestCall) (contentHash : String)
    (artifactRoot : TreePath) : Files BronzeIngestResult := do
  let artifactId := artifactIdOf artifactRoot
  let targetRaw ← firstEntry settings (artifactRoot ++ ["raw"])
  Files.writeJson (manifestPath artifactRoot) (manifestJson settings call artifactId contentHash)
    call.now
  return ⟨artifactId, settings.asPosix targetRaw, settings.asPosix (manifestPath artifactRoot),
    contentHash⟩

/-- `ingest_file_to_bronze`. -/
def ingestFileToBronze (settings : BronzeSettings) (call : IngestCall) :
    Files BronzeIngestResult := do
  let contentHash ← sha256Of settings call.sourceFile
  let existing ← Effect.ofExcept (findExistingArtifact settings (← Effect.read) call.workspaceId
    call.sourceId call.datasetId contentHash)
  match existing with
  | some artifactRoot => recordArtifact settings call contentHash artifactRoot
  | none => recordArtifact settings call contentHash (← storeRaw settings call)

/-- A change of the files outside bronze, of the directories that lead to it too. -/
structure OutsideChange (settings : BronzeSettings) where
  change : FileStore → FileStore
  keeps : ∀ files path, path <+: settings.storageRoot ++ ["bronze"] ∨
    settings.storageRoot ++ ["bronze"] <+: path → (change files).node? path = files.node? path

/-- Ingests, purges that delete, and whatever happens to the files outside bronze. -/
inductive BronzeOperation (settings : BronzeSettings) where
  | ingest (call : IngestCall)
  | purge (workspaceId : String) (retentionDays now : ℤ)
  | outside (change : OutsideChange settings)

def applyBronze (settings : BronzeSettings) (files : FileStore) :
    BronzeOperation settings → FileStore
  | .ingest call => (ingestFileToBronze settings call files).2
  | .purge workspaceId retentionDays now =>
    (purgeWorkspaceArtifacts workspaceId settings.storageRoot retentionDays false now files).2
  | .outside change => change.change files

end SchemaPilot.Workers.BronzeFiles
