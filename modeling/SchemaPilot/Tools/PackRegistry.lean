import SchemaPilot.Library.Except
import SchemaPilot.Library.JsonRoundTrip
import SchemaPilot.SharedDomain.StoredFiles

/-!
# The pack registry

`tools/pack_lint.py` reads the registry of packs and the matrix of their schema versions, signs the entries of the
signed sections, and validates what was signed. A file holds UTF-8 text or other bytes; an exception that is not
caught ends the call. The text of a `JSONDecodeError`, SHA-256 and HMAC are left open, and a text `json.loads`
refuses counts as one with a syntax error.
-/

namespace SchemaPilot.Tools

open Library Library.Text Library.Json SharedDomain

/-- The bytes of a file: UTF-8 text, or bytes that are none. -/
inductive FileBytes where
  | text (content : String)
  | binary (content : List UInt8)
deriving DecidableEq

inductive PackNode where
  | file (bytes : FileBytes)
  | directory
deriving DecidableEq

abbrev PackFiles (Place : Type) := Place → Option PackNode

/-- What the tools rest on: the place `root / path` leads to and its `as_posix()`, the text of a
`JSONDecodeError`, `hashlib.sha256(...).hexdigest()`, and `hmac.new(key, ..., hashlib.sha256).hexdigest()`. -/
structure PackTools (Place : Type) where
  locate : String → Place
  asPosix : String → String
  reader : FloatReader
  decodeError : String → String
  sha256Hex : FileBytes → String
  hmacSha256Hex : String → String → String

variable {Place : Type} (tools : PackTools Place)

/-- `read_bytes()`. -/
def readBytes : Option PackNode → Except Exn FileBytes
  | some (.file bytes) => .ok bytes
  | some .directory => .error (.other "IsADirectoryError")
  | none => .error (.other "FileNotFoundError")

/-- `read_text(encoding="utf-8")`. -/
def readText (node : Option PackNode) : Except Exn String := do
  match ← readBytes node with
  | .text content => .ok content
  | .binary _ => .error (.other "UnicodeDecodeError")

/-- `json.loads` of a text, with the text of the `JSONDecodeError`. -/
def decodeJson (text : String) : Except String Json :=
  match loads tools.reader text with
  | some value => .ok value
  | none => .error (tools.decodeError text)

/-- `Path.suffix` of a path with this last name, on characters. -/
def suffixOf (name : List Char) : List Char :=
  let ending := (name.reverse.takeWhile (· ≠ '.')).reverse
  if ending = [] ∨ (name.reverse.dropWhile (· ≠ '.')).length ≤ 1 then [] else '.' :: ending

/-- `target.suffix.lower() == ".json"`. -/
def isJsonPath (path : String) : Bool :=
  match (pathParts path).getLast? with
  | some name => decide (lowerChars (suffixOf name.toList) = ".json".toList)
  | none => false

/-- `repr` of a text. -/
def quoted (text : String) : String := String.ofList (reprString text)

/-- What the loaders of the registry and the matrix share: the object a file holds with its errors, or none with
the reason. -/
def loadObject (files : PackFiles Place) (path what : String) (errorsOf : Fields → List String) :
    Except Exn (Option Fields × List String) :=
  match files (tools.locate path) with
  | none => .ok (none, ["missing " ++ what ++ " file: " ++ tools.asPosix path])
  | some node => do
    match decodeJson tools (← readText (some node)) with
    | .error exc => .ok (none, ["invalid " ++ what ++ " json: " ++ exc])
    | .ok (.obj payload) => .ok (some payload, errorsOf payload)
    | .ok _ => .ok (none, [what ++ " payload must be an object"])

/-- `SIGNED_SECTIONS`. -/
def signedSections : List String := ["policy_packs", "semantic_packs", "template_packs"]

/-- `VERSION_PATTERN.match` of a stripped text. -/
def matchesVersion (text : String) : Bool :=
  match text.toList with
  | 'v' :: digits => digits ≠ [] && digits.all Char.isDigit
  | _ => false

/-- The errors of one of the matrix's `sections`. -/
def matrixSectionErrors (sectionName : String × Json) : List String :=
  match sectionName.2 with
  | .obj payload =>
    let current := strippedText payload "current_schema_version" ""
    let malformed := if matchesVersion current then []
      else ["sections." ++ sectionName.1 ++ ".current_schema_version must match v<integer>"]
    match (get? payload "supported_schema_versions").bind asArr? with
    | some (item :: items) =>
      let supported := (item :: items).map fun version ↦ strip version.toStr
      malformed ++
        (if supported.all matchesVersion then []
          else ["sections." ++ sectionName.1 ++ ".supported_schema_versions contains invalid schema versions"]) ++
        (if current ≠ "" ∧ current ∉ supported then
          ["sections." ++ sectionName.1 ++ ".current_schema_version must appear in supported_schema_versions"]
          else [])
    | _ => malformed ++
      ["sections." ++ sectionName.1 ++ ".supported_schema_versions must be a non-empty list"]
  | _ => ["sections." ++ sectionName.1 ++ " must be an object"]

/-- The errors of one of the matrix's `migrations`. -/
def matrixMigrationErrors (migration : Json × ℕ) : List String :=
  let place := "migrations[" ++ toString migration.2 ++ "]"
  match migration.1 with
  | .obj fields =>
    (if strippedText fields "section" "" = "" then [place ++ ".section is required"] else []) ++
      (if matchesVersion (strippedText fields "from_schema_version" "") then []
        else [place ++ ".from_schema_version must match v<integer>"]) ++
      (if matchesVersion (strippedText fields "to_schema_version" "") then []
        else [place ++ ".to_schema_version must match v<integer>"])
  | _ => [place ++ " must be an object"]

def matrixErrors (payload : Fields) : List String :=
  let version := strippedText payload "matrix_version" ""
  (if version = "v1" then [] else ["matrix_version must be v1, got " ++ quoted version]) ++
    (match (get? payload "sections").bind asObj? with
      | some sections => sections.flatMap matrixSectionErrors
      | none => ["sections must be an object"]) ++
    match (get? payload "migrations").bind asArr? with
    | some migrations => migrations.zipIdx.flatMap matrixMigrationErrors
    | none => ["migrations must be a list"]

/-- `load_compatibility_matrix`. -/
def loadCompatibilityMatrix (files : PackFiles Place) (matrixPath : String) :
    Except Exn (Option Fields × List String) :=
  loadObject tools files matrixPath "compatibility matrix" matrixErrors

/-- `matrix.get("sections", {}).get(section, {})`. -/
def matrixSection (matrix : Fields) (sectionName : String) : Except Exn Json :=
  match getD matrix "sections" (.obj []) with
  | .obj sections => .ok (getD sections sectionName (.obj []))
  | _ => .error (.other "AttributeError")

/-- `_section_current_version`. -/
def sectionCurrentVersion (matrix : Fields) (sectionName : String) : Except Exn String := do
  match ← matrixSection matrix sectionName with
  | .obj payload =>
    let current := strippedText payload "current_schema_version" ""
    .ok (if current = "" then "v1" else current)
  | _ => .ok "v1"

/-- `_version_supported`. -/
def versionSupported (matrix : Fields) (sectionName schemaVersion : String) : Except Exn Bool := do
  match ← matrixSection matrix sectionName with
  | .obj payload =>
    match getD payload "supported_schema_versions" (.arr []) with
    | .arr supported => .ok (schemaVersion ∈ supported.map fun version ↦ strip version.toStr)
    | _ => .ok false
  | _ => .ok false

def leadsTo (sectionName fromVersion toVersion : String) (migration : Json) : Bool :=
  match migration with
  | .obj fields => strippedText fields "section" "" = sectionName &&
      strippedText fields "from_schema_version" "" = fromVersion &&
      strippedText fields "to_schema_version" "" = toVersion
  | _ => false

/-- `_has_migration_path`, and `_has_migration` of `tools/pack_migrate.py`. -/
def hasMigrationPath (matrix : Fields) (sectionName fromVersion toVersion : String) : Bool :=
  match getD matrix "migrations" (.arr []) with
  | .arr migrations => migrations.any (leadsTo sectionName fromVersion toVersion)
  | _ => false

def registryErrors (payload : Fields) : List String :=
  let version := getD payload "registry_version" .null
  if version = .str "v1" then [] else ["registry_version must be v1, got " ++ String.ofList (repr version)]

/-- `_load_registry`. -/
def loadRegistry (files : PackFiles Place) (registryPath : String) :
    Except Exn (Option Fields × List String) :=
  loadObject tools files registryPath "registry" registryErrors

structure EntryFields where
  errors : List String
  packId : String
  version : String
  path : String

def orUnknown (packId : String) : String := if packId = "" then "<unknown>" else packId

/-- `_extract_entry_fields`. -/
def extractEntryFields (entry : Fields) : EntryFields :=
  let packId := strippedText entry "pack_id" ""
  let version := strippedText entry "version" ""
  let path := strippedText entry "path" ""
  { errors := (if packId = "" then ["missing pack_id"] else []) ++
      (if version = "" then ["missing version for " ++ orUnknown packId] else []) ++
      (if path = "" then ["missing path for " ++ orUnknown packId] else [])
    packId
    version
    path }

/-- `_infer_schema_version`, of the entry whose artifact stands at a path. -/
def inferSchemaVersion (files : PackFiles Place) (entry : Fields) (path defaultVersion : String) :
    Except Exn String :=
  let fromEntry := strippedText entry "schema_version" ""
  if fromEntry ≠ "" then .ok fromEntry
  else if isJsonPath path then do
    match decodeJson tools (← readText (files (tools.locate path))) with
    | .ok (.obj payload) =>
      let fromPayload := strippedText payload "schema_version" ""
      .ok (if fromPayload = "" then defaultVersion else fromPayload)
    | _ => .ok defaultVersion
  else .ok defaultVersion

/-- `_artifact_canonical_bytes`. -/
def artifactCanonicalBytes (files : PackFiles Place) (path : String) : Except Exn FileBytes :=
  let node := files (tools.locate path)
  if isJsonPath path then do
    match decodeJson tools (← readText node) with
    | .ok payload => .ok (.text (dumps payload))
    | .error _ => readBytes node
  else readBytes node

/-- `_artifact_checksum`. -/
def artifactChecksum (files : PackFiles Place) (path : String) : Except Exn String :=
  (artifactCanonicalBytes tools files path).map tools.sha256Hex

def signatureInput (sectionName packId version path schemaVersion checksum : String) : Json :=
  .obj [("artifact_checksum", .str checksum), ("pack_id", .str packId), ("path", .str path),
    ("schema_version", .str schemaVersion), ("section", .str sectionName), ("version", .str version)]

/-- `_compute_signature`. -/
def computeSignature (files : PackFiles Place) (sectionName : String) (entry : Fields)
    (signingKey : String) : Except Exn String := do
  let path := strippedText entry "path" ""
  let schemaVersion := strippedText entry "schema_version" ""
  let checksum ← artifactChecksum tools files path
  .ok (tools.hmacSha256Hex signingKey (dumps (signatureInput sectionName (strippedText entry "pack_id" "")
    (strippedText entry "version" "") path (if schemaVersion = "" then "v1" else schemaVersion) checksum)))

/-- `SIGNATURE_ALGORITHM`. -/
def signatureAlgorithm : String := "hmac-sha256"

/-- The body of the loop of `sign_pack_registry`: the errors of an entry, and the entry afterwards. -/
def signEntry (files : PackFiles Place) (matrix : Fields) (signingKey keyId sectionName : String)
    (entry : Json) : Except Exn (List String × Json) :=
  match entry with
  | .obj raw =>
    let fields := extractEntryFields raw
    if fields.errors ≠ [] then .ok (fields.errors.map fun message ↦ sectionName ++ ": " ++ message, entry)
    else if files (tools.locate fields.path) = none then
      .ok ([sectionName ++ ": missing artifact " ++ tools.asPosix fields.path], entry)
    else do
      let current ← sectionCurrentVersion matrix sectionName
      let schemaVersion ← inferSchemaVersion tools files raw fields.path current
      if (← versionSupported matrix sectionName schemaVersion) = false then
        .ok ([sectionName ++ ": schema_version " ++ quoted schemaVersion ++ " is not supported for " ++
          fields.packId], entry)
      else
        let versioned := set raw "schema_version" (.str schemaVersion)
        let value ← computeSignature tools files sectionName versioned signingKey
        .ok ([], .obj (set versioned "signature" (.obj [("algorithm", .str signatureAlgorithm),
          ("key_id", .str keyId), ("value", .str value)])))
  | _ => .ok ([sectionName ++ ": entry must be an object"], entry)

def sectionEntries (payload : Fields) (sectionName : String) : Option (List Json) :=
  asArr? (getD payload sectionName (.arr []))

/-- The loop over the entries of a section: the errors so far, and the registry with the entries as they are
afterwards. -/
def signSection (files : PackFiles Place) (matrix : Fields) (signingKey keyId : String)
    (progress : List String × Fields) (sectionName : String) : Except Exn (List String × Fields) :=
  match sectionEntries progress.2 sectionName with
  | some entries => do
    let results ← entries.mapM (signEntry tools files matrix signingKey keyId sectionName)
    .ok (progress.1 ++ results.flatMap Prod.fst,
      if entries = [] then progress.2 else set progress.2 sectionName (.arr (results.map Prod.snd)))
  | none => .ok (progress.1 ++ [sectionName ++ " must be a list"], progress.2)

/-- `_canonical_json` with `indent=2`. -/
def canonicalJson (payload : Json) : String := dumpsIn indented payload ++ "\n"

/-- `sign_pack_registry`, with the files afterwards. -/
def signPackRegistry [DecidableEq Place] (files : PackFiles Place)
    (registryPath matrixPath signingKey keyId : String) :
    Except Exn (List String × PackFiles Place) := do
  let (payload?, errors) ← loadRegistry tools files registryPath
  let (matrix?, matrixErrors) ← loadCompatibilityMatrix tools files matrixPath
  match payload?, matrix? with
  | some payload, some matrix =>
    let (errors, signed) ← signedSections.foldlM (signSection tools files matrix signingKey keyId)
      (errors ++ matrixErrors, payload)
    if errors ≠ [] then .ok (errors, files)
    else .ok ([], Function.update files (tools.locate registryPath)
      (some (.file (.text (canonicalJson (.obj signed))))))
  | _, _ => .ok (errors ++ matrixErrors, files)

/-- `hmac.compare_digest` of texts. -/
def compareDigest (value expected : String) : Except Exn Bool :=
  if (value ++ expected).toList.all fun c ↦ decide (c.toNat < 128) then .ok (value == expected)
  else .error (.other "TypeError")

/-- The errors of the signature of an entry whose schema version is known. -/
def signatureErrors (files : PackFiles Place) (sectionName : String) (entry : Fields)
    (packId schemaVersion signingKey : String) : Except Exn (List String) :=
  match (get? entry "signature").bind asObj? with
  | none => .ok [sectionName ++ ": missing signature for " ++ orUnknown packId]
  | some signature => do
    let algorithm := strippedText signature "algorithm" ""
    let keyId := strippedText signature "key_id" ""
    let value := strippedText signature "value" ""
    let errors :=
      (if algorithm = signatureAlgorithm then []
        else [sectionName ++ ": unsupported signature algorithm " ++ quoted algorithm ++ " for " ++
          orUnknown packId]) ++
      (if keyId = "" then [sectionName ++ ": missing signature key_id for " ++ orUnknown packId] else []) ++
      (if value = "" then [sectionName ++ ": missing signature value for " ++ orUnknown packId] else [])
    if algorithm = signatureAlgorithm ∧ value ≠ "" then
      let expected ← computeSignature tools files sectionName
        (set entry "schema_version" (.str schemaVersion)) signingKey
      let verified ← compareDigest value expected
      .ok (errors ++ if verified then [] else [sectionName ++ ": signature verification failed for " ++ packId])
    else .ok errors

/-- `_validate_registry_entry`. -/
def validateRegistryEntry (files : PackFiles Place) (matrix : Fields) (sectionName : String)
    (entry : Fields) (signingKey : String) : Except Exn (List String) :=
  let fields := extractEntryFields entry
  let errors := fields.errors.map fun message ↦ sectionName ++ ": " ++ message
  if fields.path = "" then .ok errors
  else if files (tools.locate fields.path) = none then
    .ok (errors ++ [sectionName ++ ": missing artifact " ++ tools.asPosix fields.path])
  else do
    let current ← sectionCurrentVersion matrix sectionName
    let schemaVersion ← inferSchemaVersion tools files entry fields.path current
    let versionErrors :=
      if (← versionSupported matrix sectionName schemaVersion) = false then
        [sectionName ++ ": schema_version " ++ quoted schemaVersion ++ " is not supported for " ++
          orUnknown fields.packId]
      else if schemaVersion ≠ current ∧ hasMigrationPath matrix sectionName schemaVersion current = false then
        [sectionName ++ ": missing migration path " ++ schemaVersion ++ "->" ++ current ++ " for " ++
          orUnknown fields.packId]
      else []
    if sectionName ∈ signedSections then
      let more ← signatureErrors tools files sectionName entry fields.packId schemaVersion signingKey
      .ok (errors ++ versionErrors ++ more)
    else .ok (errors ++ versionErrors)

/-- The body of the inner loop of `validate_pack_registry`. -/
def validateEntryAt (files : PackFiles Place) (matrix : Fields) (sectionName signingKey : String)
    (entry : Json × ℕ) : Except Exn (List String) :=
  match entry.1 with
  | .obj fields => validateRegistryEntry tools files matrix sectionName fields signingKey
  | _ => .ok [sectionName ++ "[" ++ toString entry.2 ++ "] must be an object"]

/-- The body of the outer loop of `validate_pack_registry`. -/
def validateSection (files : PackFiles Place) (matrix : Fields) (signingKey : String)
    (sectionName : String × Json) : Except Exn (List String) :=
  match sectionName.2 with
  | .arr entries =>
    (entries.zipIdx.mapM (validateEntryAt tools files matrix sectionName.1 signingKey)).map List.flatten
  | _ => .ok [sectionName.1 ++ " must be a list"]

/-- `_extract_sections`. -/
def extractSections (payload : Fields) : Fields :=
  payload.filter fun field ↦ "_packs".toList <:+ field.1.toList ∨ "_examples".toList <:+ field.1.toList

/-- `validate_pack_registry`. -/
def validatePackRegistry (files : PackFiles Place) (registryPath matrixPath signingKey : String) :
    Except Exn (List String) := do
  let (payload?, errors) ← loadRegistry tools files registryPath
  let (matrix?, matrixErrors) ← loadCompatibilityMatrix tools files matrixPath
  match payload?, matrix? with
  | some payload, some matrix =>
    let more ← (extractSections payload).mapM (validateSection tools files matrix signingKey)
    .ok (errors ++ matrixErrors ++ more.flatten)
  | _, _ => .ok (errors ++ matrixErrors)

end SchemaPilot.Tools
