import SchemaPilot.SharedDomain.StoredFiles

/-!
# Evidence bundles and contract reports

`store_evidence_bundle` of `backend/shared_domain/evidence_store.py` and
`load_build_contract_report` of `backend/shared_domain/contract_reports.py`. Hashing and the
encryption of a payload, which is off unless the environment turns it on, are left open.
-/

namespace SchemaPilot.SharedDomain

open Library Library.Text Library.Json

/-- What the evidence store computes of a payload. -/
structure EvidenceCodec where
  /-- `hashlib.sha256(text.encode("utf-8")).hexdigest()`. -/
  sha256Hex : String → String
  /-- `encrypt_payload` under the configuration of the environment. -/
  encryptPayload : Fields → Fields

structure StoredEvidenceBundle where
  evidenceId : String
  workspaceId : String
  evidenceBundleUri : String
  contentHash : String
  path : TreePath
deriving DecidableEq

/-- `build_evidence_uri`. -/
def buildEvidenceUri (workspaceId evidenceId : String) : String :=
  "evidence://" ++ workspaceId ++ "/" ++ evidenceId

/-- `bundle_type.strip().lower().replace(" ", "_") or "generic"`. -/
def safeBundleType (bundleType : String) : String :=
  let safe := String.ofList ((lower (strip bundleType)).toList.map fun c ↦
    if c = ' ' then '_' else c)
  if safe = "" then "generic" else safe

/-- The description `store_evidence_bundle` makes of a payload before it writes. -/
def describeBundle (codec : EvidenceCodec) (workspaceId : String) (payload : Fields)
    (storageRoot : TreePath) (bundleType : String) (evidenceId : Option String) :
    StoredEvidenceBundle :=
  let contentHash := codec.sha256Hex (dumps (.obj payload))
  let bundleId := (evidenceId.filter (· ≠ "")).getD
    (safeBundleType bundleType ++ "_" ++ String.ofList (contentHash.toList.take 24))
  { evidenceId := bundleId
    workspaceId := workspaceId
    evidenceBundleUri := buildEvidenceUri workspaceId bundleId
    contentHash := contentHash
    path := storageRoot ++ ["evidence_store", workspaceId, bundleId ++ ".json"] }

def bundleEnvelope (codec : EvidenceCodec) (payload : Fields) (bundleType : String)
    (bundle : StoredEvidenceBundle) : Json :=
  canon (.obj ((codec.encryptPayload payload).foldl (fun envelope field ↦
      set envelope field.1 field.2)
    [("evidence_id", .str bundle.evidenceId), ("workspace_id", .str bundle.workspaceId),
      ("bundle_type", .str (safeBundleType bundleType)),
      ("content_hash", .str bundle.contentHash)]))

/-- Write a bundle unless its file exists with the same text. -/
def writeBundle (path : TreePath) (envelope : Json) (now : ℤ) : Files Unit := do
  if ← Files.pathExists path then
    match (← Effect.read).content? path with
    | some existing =>
      if existing ≠ .json envelope then
        Effect.raise (.valueError
          "Evidence bundle immutability violation: existing bundle content differs.")
      else pure ()
    | none => Effect.raise (.other "Is a directory")
  else Files.writeJson path envelope now

/-- `store_evidence_bundle`. -/
def storeEvidenceBundle (codec : EvidenceCodec) (workspaceId : String) (payload : Fields)
    (storageRoot : TreePath) (bundleType : String) (evidenceId : Option String) (now : ℤ) :
    Files StoredEvidenceBundle := do
  let bundle := describeBundle codec workspaceId payload storageRoot bundleType evidenceId
  Files.makeDirs bundle.path.dropLast
  writeBundle bundle.path (bundleEnvelope codec payload bundleType bundle) now
  return bundle

structure BuildContractReport where
  workspaceId : String
  buildId : String
  contractsPassed : Bool
  failureCount : ℤ
  failures : List Fields
  path : TreePath

/-- `int(value)`. -/
def toInt : Json → Except Exn ℤ
  | .int value => .ok value
  | .bool value => .ok value.toInt
  | .float value => .ok (truncate value)
  | .special .nan => .error (.valueError "cannot convert float NaN to integer")
  | .special _ => .error (.other "cannot convert float infinity to integer")
  | .str text =>
    match intOfString? text with
    | some value => .ok value
    | none => .error (.valueError
        ("invalid literal for int() with base 10: " ++ String.ofList (reprString text)))
  | _ => .error (.other "int() argument must be a string, a bytes-like object or a real number")

/-- The report a JSON file of the contract directory holds. -/
def contractReport (workspaceId buildId : String) (path : TreePath) :
    Json → Except Exn (Option BuildContractReport)
  | .obj raw => do
    let failures := ((asArr? (getD raw "failures" (.arr []))).getD []).filterMap asObj?
    let failureCount ← toInt (getD raw "failure_count" (.int failures.length))
    return some
      { workspaceId := workspaceId
        buildId := buildId
        contractsPassed := truthy (getD raw "contracts_passed" (.bool false))
        failureCount := failureCount
        failures := failures
        path := path }
  | _ => .ok none

def contractReportPath (storageRoot : TreePath) (workspaceId buildId : String) : TreePath :=
  storageRoot ++ ["contracts", workspaceId, buildId ++ ".json"]

/-- `load_build_contract_report`. -/
def loadBuildContractReport (workspaceId buildId : String) (storageRoot : TreePath) :
    Files (Option BuildContractReport) := do
  let path := contractReportPath storageRoot workspaceId buildId
  if ← Files.pathExists path then
    Effect.ofExcept (contractReport workspaceId buildId path (← Files.readJson path))
  else return none

theorem content?_writeBundle {path : TreePath} {envelope : Json} {now : ℤ}
    {files after : FileStore} {done : Unit}
    (h : writeBundle path envelope now files = (.ok done, after)) (other : TreePath) :
    after.content? other =
      if other = path then some (.json envelope) else files.content? other := by
  unfold writeBundle at h
  rw [Effect.bind_apply, Files.pathExists_apply] at h
  dsimp only at h
  split_ifs at h with hpath
  · rw [Effect.bind_apply, Effect.read_apply] at h
    dsimp only at h
    cases hcontent : files.content? path with
    | none =>
      rw [hcontent] at h
      cases h
    | some existing =>
      rw [hcontent] at h
      dsimp only at h
      split_ifs at h with hsame
      · cases h
      · cases h
        by_cases heq : other = path
        · rw [if_pos heq, heq, hcontent, not_not.mp hsame]
        · rw [if_neg heq]
  · exact Files.content?_writeJson h other

theorem storeEvidenceBundle_ok {codec : EvidenceCodec} {workspaceId : String} {payload : Fields}
    {storageRoot : TreePath} {bundleType : String} {evidenceId : Option String} {now : ℤ}
    {files after : FileStore} {bundle : StoredEvidenceBundle}
    (h : storeEvidenceBundle codec workspaceId payload storageRoot bundleType evidenceId now files =
      (.ok bundle, after)) :
    bundle = describeBundle codec workspaceId payload storageRoot bundleType evidenceId ∧
    ∀ path, after.content? path = if path = bundle.path then
      some (.json (bundleEnvelope codec payload bundleType bundle)) else files.content? path := by
  obtain ⟨_, made, hmake, h⟩ := Effect.bind_eq_ok_iff.mp h
  obtain ⟨_, written, hwrite, hdone⟩ := Effect.bind_eq_ok_iff.mp h
  cases hdone
  refine ⟨rfl, fun path ↦ ?_⟩
  rw [content?_writeBundle hwrite, Files.content?_makeDirs hmake]

/-- What storing a bundle leaves alone, also when it fails: what neither its directories nor its file
are part of. -/
theorem keeps_of_storeEvidenceBundle {γ : Type} {part : FileStore → γ} (codec : EvidenceCodec)
    (workspaceId : String) (payload : Fields) (storageRoot : TreePath) (bundleType : String)
    (evidenceId : Option String) (now : ℤ)
    (hdirs : Effect.Keeps part (Files.makeDirs
      (describeBundle codec workspaceId payload storageRoot bundleType evidenceId).path.dropLast))
    (hwrite : ∀ value, Effect.Keeps part (Files.writeJson
      (describeBundle codec workspaceId payload storageRoot bundleType evidenceId).path value now)) :
    Effect.Keeps part
      (storeEvidenceBundle codec workspaceId payload storageRoot bundleType evidenceId now) := by
  refine hdirs.bind fun _ ↦ Effect.Keeps.bind ?_ fun _ ↦ Effect.keeps_pure _
  refine Effect.Keeps.bind (fun _ ↦ rfl) fun found ↦ ?_
  split_ifs
  · refine Effect.keeps_read.bind fun files ↦ ?_
    cases files.content?
        (describeBundle codec workspaceId payload storageRoot bundleType evidenceId).path with
    | none => exact Effect.keeps_raise _
    | some existing =>
      dsimp only
      split_ifs
      · exact Effect.keeps_raise _
      · exact Effect.keeps_pure _
  · exact hwrite _

/-- Storing a bundle leaves the files beside its own alone, also when it fails. -/
theorem keeps_storeEvidenceBundle (codec : EvidenceCodec) (workspaceId : String)
    (payload : Fields) (storageRoot : TreePath) (bundleType : String) (evidenceId : Option String)
    (now : ℤ) {path : TreePath}
    (h : path ≠ (describeBundle codec workspaceId payload storageRoot bundleType evidenceId).path) :
    Effect.Keeps (fun files ↦ files.content? path)
      (storeEvidenceBundle codec workspaceId payload storageRoot bundleType evidenceId now) :=
  keeps_of_storeEvidenceBundle _ _ _ _ _ _ _ (Files.keeps_makeDirs _ _) fun _ ↦
    Files.keeps_writeJson h _ _

/-- Storing a bundle leaves what does not lead to its file alone, also when it fails. -/
theorem keeps_node_storeEvidenceBundle (codec : EvidenceCodec) (workspaceId : String)
    (payload : Fields) (storageRoot : TreePath) (bundleType : String) (evidenceId : Option String)
    (now : ℤ) {path : TreePath} (h : ¬path <+:
      (describeBundle codec workspaceId payload storageRoot bundleType evidenceId).path) :
    Effect.Keeps (fun files ↦ files.node? path)
      (storeEvidenceBundle codec workspaceId payload storageRoot bundleType evidenceId now) := by
  refine keeps_of_storeEvidenceBundle _ _ _ _ _ _ _
    (Files.keeps_node_makeDirs fun hdirs ↦ h (hdirs.trans (List.dropLast_prefix _))) fun _ ↦
      Files.keeps_node_writeJson ?_ _ _
  rintro rfl
  exact h List.prefix_rfl

theorem raises_storeEvidenceBundle (codec : EvidenceCodec) (workspaceId : String)
    (payload : Fields) (storageRoot : TreePath) (bundleType : String) (evidenceId : Option String)
    (now : ℤ) : Effect.Raises Files.IsFileError
      (storeEvidenceBundle codec workspaceId payload storageRoot bundleType evidenceId now) := by
  refine (Files.raises_makeDirs _).bind fun _ ↦ Effect.Raises.bind ?_ fun _ ↦ Effect.raises_pure _
  refine (Files.raises_pathExists _).bind fun found ↦ ?_
  split_ifs
  · refine Effect.raises_read.bind fun files ↦ ?_
    cases files.content?
        (describeBundle codec workspaceId payload storageRoot bundleType evidenceId).path with
    | none => exact Effect.raises_raise (Or.inr ⟨_, rfl⟩)
    | some existing =>
      dsimp only
      split_ifs
      · exact Effect.raises_raise (Or.inl ⟨_, rfl⟩)
      · exact Effect.raises_pure _
  · exact Files.raises_writeJson _ _ _

/-- The contract report stored for a build, `none` where there is none to normalise. -/
def storedContractReport? (files : FileStore) (storageRoot : TreePath)
    (workspaceId buildId : String) : Option BuildContractReport :=
  match files.content? (contractReportPath storageRoot workspaceId buildId) with
  | some (.json raw) =>
    match contractReport workspaceId buildId (contractReportPath storageRoot workspaceId buildId)
        raw with
    | .ok report => report
    | .error _ => none
  | _ => none

theorem keeps_loadBuildContractReport (workspaceId buildId : String) (storageRoot : TreePath) :
    Effect.Keeps id (loadBuildContractReport workspaceId buildId storageRoot) := by
  refine (Files.keeps_pathExists _).bind fun found ↦ ?_
  split_ifs
  · exact (Files.keeps_readJson _).bind fun _ ↦ Effect.keeps_ofExcept _
  · exact Effect.keeps_pure _

theorem loadBuildContractReport_eq_ok {workspaceId buildId : String} {storageRoot : TreePath}
    {files after : FileStore} {report : Option BuildContractReport}
    (h : loadBuildContractReport workspaceId buildId storageRoot files = (.ok report, after)) :
    report = storedContractReport? files storageRoot workspaceId buildId := by
  unfold loadBuildContractReport at h
  rw [Effect.bind_apply, Files.pathExists_apply] at h
  dsimp only at h
  unfold storedContractReport?
  split_ifs at h with hpath
  · obtain ⟨raw, _, hread, hparsed⟩ := Effect.bind_eq_ok_iff.mp h
    rw [Files.readJson_apply, Prod.mk.injEq] at hread
    rw [Files.loads_eq_ok_iff.mp hread.1]
    rw [Effect.ofExcept_apply, Prod.mk.injEq] at hparsed
    dsimp only
    rw [hparsed.1]
  · cases h
    have hnode : files.node? (contractReportPath storageRoot workspaceId buildId) = none := by
      simpa [FileTree.pathExists] using hpath
    simp [FileTree.content?, hnode]

theorem isFileError_of_toInt {value : Json} {exception : Exn}
    (h : toInt value = .error exception) : Files.IsFileError exception := by
  unfold toInt at h
  split at h
  · cases h
  · cases h
  · cases h
  · cases h
    exact Or.inl ⟨_, rfl⟩
  · cases h
    exact Or.inr ⟨_, rfl⟩
  · split at h
    · cases h
    · cases h
      exact Or.inl ⟨_, rfl⟩
  · cases h
    exact Or.inr ⟨_, rfl⟩

theorem raises_loadBuildContractReport (workspaceId buildId : String) (storageRoot : TreePath) :
    Effect.Raises Files.IsFileError
      (loadBuildContractReport workspaceId buildId storageRoot) := by
  refine (Files.raises_pathExists _).bind fun found ↦ ?_
  split_ifs
  · refine (Files.raises_readJson _).bind fun raw ↦ Effect.raises_ofExcept fun exception h ↦ ?_
    unfold contractReport at h
    split at h
    · next fields =>
      dsimp only at h
      cases hcount : toInt (getD fields "failure_count"
          (.int (((asArr? (getD fields "failures" (.arr []))).getD []).filterMap asObj?).length)) with
      | ok count =>
        rw [hcount] at h
        cases h
      | error found =>
        rw [hcount] at h
        cases h
        exact isFileError_of_toInt hcount
    · cases h
  · exact Effect.raises_pure _

end SchemaPilot.SharedDomain
