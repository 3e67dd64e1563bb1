import SchemaPilot.SharedDomain.EvidenceStore

/-!
# Silver snapshots

`backend/workers/silver.py`: records are normalised, each gets the stable identifier of its natural
key, and the data and the crosswalk of a snapshot are written. Hashing and the text of a float are left
to the platform.
-/

namespace SchemaPilot.Workers

open Library Library.Json SharedDomain

structure SilverPlatform where
  /-- `hashlib.sha256(text.encode()).hexdigest()`. -/
  sha256Hex : String → String
  /-- `float(text)`, nothing for a `ValueError`. -/
  parseFloat : String → Option Json

structure SilverBuildResult where
  snapshotId : String
  dataPath : TreePath
  crosswalkPath : TreePath
deriving DecidableEq

/-- The digits of Unicode that are no decimal digits, first and last of each run. -/
def otherDigits : List (ℕ × ℕ) :=
  [(0xb2, 0xb3), (0xb9, 0xb9), (0x1369, 0x1371), (0x19da, 0x19da), (0x2070, 0x2070),
    (0x2074, 0x2079), (0x2080, 0x2089), (0x2460, 0x2468), (0x2474, 0x247c), (0x2488, 0x2490),
    (0x24ea, 0x24ea), (0x24f5, 0x24fd), (0x24ff, 0x24ff), (0x2776, 0x277e), (0x2780, 0x2788),
    (0x278a, 0x2792), (0x10a40, 0x10a43), (0x10e60, 0x10e68), (0x11052, 0x1105a),
    (0x1f100, 0x1f10a)]

/-- A character that `str.isdigit` counts. -/
def isDigitChar (c : Char) : Bool :=
  (digitValue? c).isSome || otherDigits.any fun run ↦ run.1 ≤ c.toNat && c.toNat ≤ run.2

/-- `text.isdigit()`. -/
def isDigitText (text : String) : Bool := !text.toList.isEmpty && text.toList.all isDigitChar

/-- `text.replace(",", ".")`. -/
def pointsForCommas (text : String) : String :=
  String.ofList (text.toList.map fun c ↦ if c = ',' then '.' else c)

/-- The value `_normalize_record` puts in the place of one. -/
def normalizeValue (platform : SilverPlatform) : Json → Except Exn Json
  | .str text =>
    let stripped := Text.strip text
    if isDigitText stripped then do
      let value ← toInt (.str stripped)
      return .int value
    else .ok ((platform.parseFloat (pointsForCommas stripped)).getD (.str stripped))
  | value => .ok value

/-- `_normalize_record`. -/
def normalizeRecord (platform : SilverPlatform) (record : Fields) : Except Exn Fields :=
  record.mapM fun field ↦ do
    let value ← normalizeValue platform field.2
    return (field.1, value)

/-- `_stable_id`. -/
def stableId (platform : SilverPlatform) (entityName naturalKey : String) : String :=
  "sid_" ++ String.ofList ((platform.sha256Hex (entityName ++ "::" ++ naturalKey)).toList.take 16)

/-- What a key field contributes, blanks at the ends aside. -/
def keyComponent (record : Fields) (field : String) : String :=
  match get? record field with
  | none => ""
  | some .null => ""
  | some raw => Text.strip raw.toStr

/-- `_build_natural_key`. -/
def buildNaturalKey (record : Fields) (naturalKeyFields : List String) (sourceRecordIndex : ℕ) :
    Except Exn String := do
  let parts ← naturalKeyFields.mapM fun field ↦
    if keyComponent record field = "" then
      .error (.valueError ("Missing natural key component: field=" ++ field ++
        " source_record_index=" ++ toString sourceRecordIndex))
    else .ok (keyComponent record field)
  return "|".intercalate parts

/-- The data row and the crosswalk row of a normalised record. -/
def silverRow (platform : SilverPlatform) (entityName : String) (naturalKeyFields : List String)
    (record : Fields) (index : ℕ) : Except Exn (Json × Json) := do
  let naturalKey ← buildNaturalKey record naturalKeyFields index
  let canonicalId := stableId platform entityName naturalKey
  return (.obj (record.foldl (fun row field ↦ set row field.1 field.2)
      [("canonical_id", .str canonicalId)]),
    .obj [("source_record_index", .int index), ("canonical_id", .str canonicalId),
      ("natural_key", .str naturalKey)])

/-- The data and the crosswalk of a snapshot. -/
def silverTables (platform : SilverPlatform) (entityName : String) (sourceRecords : List Fields)
    (naturalKeyFields : List String) : Except Exn (Json × Json) := do
  if naturalKeyFields.isEmpty then
    .error (.valueError "natural_key_fields must not be empty")
  else
    let normalized ← sourceRecords.mapM (normalizeRecord platform)
    let rows ← normalized.zipIdx.mapM fun entry ↦
      silverRow platform entityName naturalKeyFields entry.1 entry.2
    return (.arr (rows.map Prod.fst), .arr (rows.map Prod.snd))

def silverRoot (outputRoot : TreePath) (workspaceId entityName snapshotId : String) : TreePath :=
  joinNames outputRoot ["silver", workspaceId, entityName, "snapshots", snapshotId]

/-- `build_silver_snapshot`. -/
def buildSilverSnapshot (platform : SilverPlatform) (outputRoot : TreePath)
    (workspaceId entityName : String) (sourceRecords : List Fields) (naturalKeyFields : List String)
    (snapshotId : String) (now : ℤ) : Files SilverBuildResult := do
  let tables ← Effect.ofExcept
    (silverTables platform entityName sourceRecords naturalKeyFields)
  let snapshotRoot := silverRoot outputRoot workspaceId entityName snapshotId
  Files.makeDirs snapshotRoot
  Files.writeJson (snapshotRoot ++ ["data.json"]) (canon tables.1) now
  Files.writeJson (snapshotRoot ++ ["crosswalk.json"]) (canon tables.2) now
  return ⟨snapshotId, snapshotRoot ++ ["data.json"], snapshotRoot ++ ["crosswalk.json"]⟩

end SchemaPilot.Workers
