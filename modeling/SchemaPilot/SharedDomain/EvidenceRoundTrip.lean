import SchemaPilot.SharedDomain.ArtifactCrypto
import SchemaPilot.SharedDomain.EvidenceStore

/-!
# Evidence bundles read back

`load_evidence_bundle` and `parse_evidence_uri` of `backend/shared_domain/evidence_store.py`. A bundle that
was stored is loaded with its payload and its hash under the same environment, and its URI is parsed into
its identifiers unless the workspace has an empty one (`evidence_round_trip`).
-/

namespace SchemaPilot.SharedDomain

open Library Library.Text Library.Json

/-- What `store_evidence_bundle` computes of a payload in an environment. -/
def evidenceCodec (sha256 : Sha256) (environment : Environment) : EvidenceCodec where
  sha256Hex := sha256.hexDigest
  encryptPayload payload := encryptPayload sha256 payload (loadArtifactCryptoConfig environment)

/-- `json.loads` of the text a file holds, `json.dumps(value, indent=2, sort_keys=True)` for its value. -/
def loadsText (reader : FloatReader) : Option FileContent → Except Exn Json
  | some (.json value) =>
    match Json.loads reader (dumpsIn indented value) with
    | some read => .ok read
    | none => .error (.valueError "Expecting value")
  | some (.bytes _) => .error (.valueError "Expecting value")
  | none => .error (.other "No such file or directory")

/-- `load_evidence_bundle`. -/
def loadEvidenceBundle (sha256 : Sha256) (reader : FloatReader) (environment : Environment)
    (workspaceId evidenceId : String) (storageRoot : TreePath) : Files Fields := do
  let bundlePath := storageRoot ++ ["evidence_store", workspaceId, evidenceId ++ ".json"]
  if ← Files.pathExists bundlePath then
    match ← Effect.ofExcept (loadsText reader ((← Effect.read).content? bundlePath)) with
    | .obj raw =>
      let payload ← Effect.ofExcept
        (decryptPayload sha256 reader raw (loadArtifactCryptoConfig environment))
      return set (raw.filter fun field ↦ field.1 ≠ "payload") "payload" (.obj payload)
    | _ => Effect.raise (.valueError "Evidence bundle content is invalid.")
  else
    Effect.raise (.notFound "Evidence bundle not found."
      [("workspace_id", .str workspaceId), ("evidence_id", .str evidenceId)])

/-- `text.strip("/")`. -/
def stripSlashes (chars : List Char) : List Char :=
  (chars.dropWhile (· = '/')).rdropWhile (· = '/')

/-- `parse_evidence_uri`. -/
def parseEvidenceUri (uri : String) : Except Exn (String × String) :=
  if "evidence://".toList <+: uri.toList then
    match (stripSlashes (uri.toList.drop "evidence://".length)).splitOn '/' with
    | [workspaceId, evidenceId] =>
      if workspaceId = [] ∨ evidenceId = [] then
        .error (.valueError "Evidence URI must be evidence://<workspace_id>/<evidence_id>.")
      else .ok (String.ofList workspaceId, String.ofList evidenceId)
    | _ => .error (.valueError "Evidence URI must be evidence://<workspace_id>/<evidence_id>.")
  else .error (.valueError "Evidence URI must start with evidence://.")

theorem stripSlashes_eq_self {chars : List Char} (hfirst : chars.head? ≠ some '/')
    (hlast : chars.getLast? ≠ some '/') : stripSlashes chars = chars := by
  have hdrop : chars.dropWhile (· = '/') = chars := by
    cases chars with
    | nil => rfl
    | cons c rest =>
      rw [List.dropWhile_cons_of_neg]
      rw [decide_eq_true_iff]
      rintro rfl
      exact hfirst rfl
  rw [stripSlashes, hdrop, List.rdropWhile_eq_self_iff]
  intro hne hslash
  exact hlast (by rw [List.getLast?_eq_some_getLast hne, of_decide_eq_true hslash])

/-- A URI is parsed into the identifiers it was built of. -/
theorem parseEvidenceUri_buildEvidenceUri {workspaceId evidenceId : String}
    (hworkspace : '/' ∉ workspaceId.toList) (hevidence : '/' ∉ evidenceId.toList)
    (hworkspaceNe : workspaceId ≠ "") (hevidenceNe : evidenceId ≠ "") :
    parseEvidenceUri (buildEvidenceUri workspaceId evidenceId) = .ok (workspaceId, evidenceId) := by
  have hworkspaceChars : workspaceId.toList ≠ [] := fun h ↦
    hworkspaceNe (String.toList_eq_nil_iff.mp h)
  have hevidenceChars : evidenceId.toList ≠ [] := fun h ↦
    hevidenceNe (String.toList_eq_nil_iff.mp h)
  have huri : (buildEvidenceUri workspaceId evidenceId).toList =
      "evidence://".toList ++ (workspaceId.toList ++ '/' :: evidenceId.toList) := by
    simp [buildEvidenceUri]
  have hstrip : stripSlashes (workspaceId.toList ++ '/' :: evidenceId.toList) =
      workspaceId.toList ++ '/' :: evidenceId.toList := by
    refine stripSlashes_eq_self ?_ ?_
    · rw [List.head?_append_of_ne_nil _ hworkspaceChars]
      exact fun h ↦ hworkspace (List.mem_of_mem_head? h)
    · rw [List.getLast?_append, List.getLast?_cons_of_ne_nil hevidenceChars,
        List.getLast?_eq_some_getLast hevidenceChars, Option.some_or]
      intro h
      exact hevidence (Option.some.inj h ▸ List.getLast_mem hevidenceChars)
  have hsplit : (workspaceId.toList ++ '/' :: evidenceId.toList).splitOn '/' =
      [workspaceId.toList, evidenceId.toList] := by
    rw [List.splitOn, List.splitOnP_append_cons_of_forall_mem _ _ (by decide)]
    · exact congrArg (_ :: ·) (List.splitOn_eq_singleton hevidence)
    · intro c hc
      exact beq_eq_false_iff_ne.mpr fun heq ↦ hworkspace (heq ▸ hc)
  have hdrop : ∀ rest : List Char,
      ("evidence://".toList ++ rest).drop "evidence://".length = rest := fun _ ↦
    List.drop_left' String.length_toList
  rw [parseEvidenceUri, huri, if_pos (List.prefix_append _ _), hdrop, hstrip, hsplit]
  dsimp only
  rw [if_neg (not_or.mpr ⟨hworkspaceChars, hevidenceChars⟩), String.ofList_toList,
    String.ofList_toList]
/-- The identifier of a bundle is not empty. -/
theorem describeBundle_evidenceId_ne (codec : EvidenceCodec) (workspaceId : String) (payload : Fields)
    (storageRoot : TreePath) (bundleType : String) (evidenceId : Option String) :
    (describeBundle codec workspaceId payload storageRoot bundleType evidenceId).evidenceId ≠ "" := by
  change (evidenceId.filter (· ≠ "")).getD _ ≠ ""
  cases hgiven : evidenceId.filter (· ≠ "") with
  | some given => exact of_decide_eq_true (Option.filter_eq_some_iff.mp hgiven).2
  | none =>
    intro hempty
    have hchars := congrArg String.toList hempty
    rw [Option.getD_none, String.toList_append, String.toList_append, List.append_assoc] at hchars
    exact absurd (List.append_eq_nil_iff.mp hchars).2 (by simp)

section Envelope

variable {sha256 : Sha256} {reader : FloatReader}

/-- The fields of an envelope beside those of the encrypted payload. -/
def bundleFields (bundleType : String) (bundle : StoredEvidenceBundle) : Fields :=
  [("evidence_id", .str bundle.evidenceId), ("workspace_id", .str bundle.workspaceId),
    ("bundle_type", .str (safeBundleType bundleType)), ("content_hash", .str bundle.contentHash)]

def envelopeFields (sha256 : Sha256) (payload : Fields) (config : ArtifactCryptoConfig)
    (bundleType : String) (bundle : StoredEvidenceBundle) : Fields :=
  bundleFields bundleType bundle ++ encryptPayload sha256 payload config

theorem nodup_envelopeFields (payload : Fields) (config : ArtifactCryptoConfig)
    (bundleType : String) (bundle : StoredEvidenceBundle) :
    ((envelopeFields sha256 payload config bundleType bundle).map Prod.fst).Nodup := by
  have hplain : ["evidence_id", "workspace_id", "bundle_type", "content_hash", "encrypted",
    "payload"].Nodup := by decide
  have hsealed : ["evidence_id", "workspace_id", "bundle_type", "content_hash", "encrypted", "key_id",
    "ciphertext"].Nodup := by decide
  rw [envelopeFields, encryptPayload, List.map_append]
  split_ifs
  · exact hplain
  · exact hsealed

theorem bundleEnvelope_eq (sha256 : Sha256) (environment : Environment) (payload : Fields)
    (bundleType : String) (bundle : StoredEvidenceBundle) :
    bundleEnvelope (evidenceCodec sha256 environment) payload bundleType bundle =
      canon (.obj (envelopeFields sha256 payload (loadArtifactCryptoConfig environment) bundleType
        bundle)) := by
  have hfields : (encryptPayload sha256 payload (loadArtifactCryptoConfig environment)).foldl
      (fun envelope field ↦ set envelope field.1 field.2) (bundleFields bundleType bundle) =
        bundleFields bundleType bundle ++
          encryptPayload sha256 payload (loadArtifactCryptoConfig environment) :=
    foldl_set_of_nodup (nodup_envelopeFields payload _ bundleType bundle)
  have hcodec : (evidenceCodec sha256 environment).encryptPayload payload =
      encryptPayload sha256 payload (loadArtifactCryptoConfig environment) := by
    rw [evidenceCodec]
  rw [envelopeFields, ← hfields, bundleEnvelope, hcodec, bundleFields]

/-- The envelope of a payload that Python holds is a dictionary that it holds. -/
theorem regular_envelopeFields {payload : Fields} (h : Regular reader (.obj payload))
    (config : ArtifactCryptoConfig) (bundleType : String) (bundle : StoredEvidenceBundle) :
    Regular reader (.obj (envelopeFields sha256 payload config bundleType bundle)) := by
  refine ⟨nodup_envelopeFields payload config bundleType bundle, regularFields_iff.mpr ?_⟩
  rw [envelopeFields, bundleFields, encryptPayload]
  split_ifs
  · simp only [List.cons_append, List.nil_append, List.mem_cons, List.not_mem_nil, or_false,
      forall_eq_or_imp, forall_eq]
    exact ⟨trivial, trivial, trivial, trivial, trivial, h⟩
  · simp only [List.cons_append, List.nil_append, List.mem_cons, List.not_mem_nil, or_false,
      forall_eq_or_imp, forall_eq]
    exact ⟨trivial, trivial, trivial, trivial, trivial, trivial, trivial⟩

theorem get?_envelopeFields {key : String}
    (hkey : key ∉ ["evidence_id", "workspace_id", "bundle_type", "content_hash"]) (payload : Fields)
    (config : ArtifactCryptoConfig) (bundleType : String) (bundle : StoredEvidenceBundle) :
    get? (envelopeFields sha256 payload config bundleType bundle) key =
      get? (encryptPayload sha256 payload config) key := by
  simp only [List.mem_cons, List.not_mem_nil, or_false, not_or] at hkey
  rw [envelopeFields, get?_append, bundleFields]
  simp only [get?_cons, hkey, if_false, get?_nil, Option.none_or]

/-- An envelope that is read back holds the payload and the hash. -/
theorem envelopeOf_envelopeFields (payload : Fields) (config : ArtifactCryptoConfig)
    (bundleType : String) (bundle : StoredEvidenceBundle) {raw : Fields}
    (hraw : raw = sortFields (canonFields
      (envelopeFields sha256 payload config bundleType bundle))) :
    EnvelopeOf sha256 payload config raw ∧
      get? raw "content_hash" = some (.str bundle.contentHash) := by
  have hread : ∀ key, get? raw key = (get? (envelopeFields sha256 payload config bundleType bundle)
      key).map canon := fun key ↦ by rw [hraw, get?_sortFields, get?_canonFields]
  have hheld := envelopeOf_encryptPayload sha256 payload config
  have hpayload : ∀ key, key ∉ ["evidence_id", "workspace_id", "bundle_type", "content_hash"] →
      get? raw key = (get? (encryptPayload sha256 payload config) key).map canon := by
    intro key hkey
    rw [hread, get?_envelopeFields hkey]
  refine ⟨⟨?_, fun hplain ↦ ?_, fun henabled ↦ ?_⟩, ?_⟩
  · rw [hpayload _ (by decide), hheld.encrypted, Option.map_some]
    rfl
  · obtain ⟨held, hget, hcanon⟩ := hheld.plain hplain
    rw [hpayload _ (by decide), hget, Option.map_some]
    exact ⟨sortFields (canonFields held), rfl, (canon_canon (.obj held)).trans hcanon⟩
  · rw [hpayload _ (by decide), hheld.ciphertext henabled, Option.map_some]
    rfl
  · rw [hread, envelopeFields, get?_append, bundleFields]
    simp [get?_cons, canon]

end Envelope

theorem loadEvidenceBundle_of_content {sha256 : Sha256} {reader : FloatReader}
    {environment : Environment} {bundleType : String} {payload : Fields} {storageRoot : TreePath}
    {files : FileStore} {bundle : StoredEvidenceBundle} (hregular : Regular reader (.obj payload))
    (hpath : storageRoot ++ ["evidence_store", bundle.workspaceId, bundle.evidenceId ++ ".json"] =
      bundle.path)
    (hcontent : files.content? bundle.path = some (.json
      (bundleEnvelope (evidenceCodec sha256 environment) payload bundleType bundle))) :
    ∃ loaded : Fields, loadEvidenceBundle sha256 reader environment bundle.workspaceId
        bundle.evidenceId storageRoot files = (.ok loaded, files) ∧
      (∃ fields : Fields, get? loaded "payload" = some (.obj fields) ∧
        canon (.obj fields) = canon (.obj payload)) ∧
      get? loaded "content_hash" = some (.str bundle.contentHash) := by
  have hexists : files.pathExists bundle.path = true := by
    rw [FileTree.pathExists_eq, FileTree.isFile, hcontent]
    exact Bool.or_true _
  obtain ⟨raw, hraw⟩ : ∃ raw : Fields, raw = sortFields (canonFields (envelopeFields sha256 payload
    (loadArtifactCryptoConfig environment) bundleType bundle)) := ⟨_, rfl⟩
  obtain ⟨henvelope, hhash⟩ := envelopeOf_envelopeFields payload _ bundleType bundle hraw
  obtain ⟨decrypted, hdecrypted, hcanon⟩ := henvelope.decryptPayload sha256 hregular
  have hread : loadsText reader (files.content? bundle.path) = .ok (.obj raw) := by
    have henvelopeRegular : Regular reader (.obj (envelopeFields sha256 payload
        (loadArtifactCryptoConfig environment) bundleType bundle)) :=
      regular_envelopeFields hregular _ bundleType bundle
    have hloads := loads_dumpsIn indented (regular_canon henvelopeRegular)
    rw [canon_canon] at hloads
    rw [hcontent, bundleEnvelope_eq, loadsText, hloads, hraw]
    rfl
  refine ⟨set (raw.filter fun field ↦ field.1 ≠ "payload") "payload" (.obj decrypted), ?_,
    ⟨decrypted, get?_set_self _ _ _, hcanon⟩, ?_⟩
  · unfold loadEvidenceBundle
    rw [hpath, Effect.bind_apply, Files.pathExists_apply, hexists]
    dsimp only
    rw [if_pos rfl, Effect.bind_apply, Effect.read_apply]
    dsimp only
    rw [Effect.bind_apply, Effect.ofExcept_apply, hread]
    dsimp only
    rw [Effect.bind_apply, Effect.ofExcept_apply, hdecrypted]
    rfl
  · rw [get?_set_of_ne (by decide), get?_filter_of_ne (by decide), hhash]

theorem loadEvidenceBundle_stored {sha256 : Sha256} {reader : FloatReader}
    {environment : Environment} {workspaceId bundleType : String} {payload : Fields}
    {storageRoot : TreePath} {evidenceId : Option String} {now : ℤ} {files after : FileStore}
    {bundle : StoredEvidenceBundle} (hregular : Regular reader (.obj payload))
    (hstored : storeEvidenceBundle (evidenceCodec sha256 environment) workspaceId payload storageRoot
      bundleType evidenceId now files = (.ok bundle, after)) :
    ∃ loaded : Fields, loadEvidenceBundle sha256 reader environment bundle.workspaceId
        bundle.evidenceId storageRoot after = (.ok loaded, after) ∧
      (∃ fields : Fields, get? loaded "payload" = some (.obj fields) ∧
        canon (.obj fields) = canon (.obj payload)) ∧
      get? loaded "content_hash" = some (.str bundle.contentHash) := by
  obtain ⟨hbundle, hcontents⟩ := storeEvidenceBundle_ok hstored
  have hcontent := hcontents bundle.path
  rw [if_pos rfl] at hcontent
  exact loadEvidenceBundle_of_content hregular (by rw [hbundle]; rfl) hcontent

/-- A bundle that was stored under an identifier of a workspace that is not empty is loaded with its payload
and its hash, and its URI is parsed into its identifiers; and what is encrypted is decrypted again. -/
theorem evidence_round_trip {sha256 : Sha256} {reader : FloatReader} {environment : Environment}
    {workspaceId bundleType : String} {payload : Fields} {storageRoot : TreePath}
    {evidenceId : Option String} {now : ℤ} {files after : FileStore} {bundle : StoredEvidenceBundle}
    (hregular : Regular reader (.obj payload)) (hworkspace : '/' ∉ workspaceId.toList)
    (hnonempty : workspaceId ≠ "")
    (hstored : storeEvidenceBundle (evidenceCodec sha256 environment) workspaceId payload storageRoot
      bundleType evidenceId now files = (.ok bundle, after))
    (hevidence : '/' ∉ bundle.evidenceId.toList) :
    (∃ loaded : Fields, loadEvidenceBundle sha256 reader environment bundle.workspaceId
        bundle.evidenceId storageRoot after = (.ok loaded, after) ∧
      (∃ fields : Fields, get? loaded "payload" = some (.obj fields) ∧
        canon (.obj fields) = canon (.obj payload)) ∧
      get? loaded "content_hash" = some (.str bundle.contentHash)) ∧
    bundle.workspaceId = workspaceId ∧
    parseEvidenceUri bundle.evidenceBundleUri = .ok (workspaceId, bundle.evidenceId) ∧
    ∀ config, ∃ decrypted : Fields,
      decryptPayload sha256 reader (encryptPayload sha256 payload config) config = .ok decrypted ∧
        canon (.obj decrypted) = canon (.obj payload) := by
  obtain ⟨hbundle, -⟩ := storeEvidenceBundle_ok hstored
  have hworkspaceId : bundle.workspaceId = workspaceId := by
    rw [hbundle]
    rfl
  have huri : bundle.evidenceBundleUri = buildEvidenceUri workspaceId bundle.evidenceId := by
    rw [hbundle]
    rfl
  refine ⟨loadEvidenceBundle_stored hregular hstored, hworkspaceId, ?_,
    decryptPayload_encryptPayload sha256 hregular⟩
  rw [huri]
  refine parseEvidenceUri_buildEvidenceUri hworkspace hevidence hnonempty fun hempty ↦ ?_
  rw [hbundle] at hempty
  exact describeBundle_evidenceId_ne _ _ _ _ _ _ hempty

theorem regular_rows : Regular textReader (.obj [("rows", .int 3)]) := by
  refine ⟨List.nodup_singleton _, ?_, trivial⟩
  change (Nat.repr 3).toList.length ≤ 4300
  decide

def encryptedEnvironment : Environment := fun name ↦
  if name = "SCHEMAPILOT_ARTIFACT_ENCRYPTION_ENABLED" then some "true" else none

/-- A bundle of a workspace with a payload of one field, encrypted. -/
def storeExample (workspaceId : String) : Files StoredEvidenceBundle :=
  storeEvidenceBundle (evidenceCodec (fun _ ↦ Vector.replicate 32 7) encryptedEnvironment) workspaceId
    [("rows", .int 3)] ["data"] "profile" (some "e1") 0

theorem storeExample_ok : ∀ workspaceId ∈ ["w1", ""], ∃ bundle after,
    storeExample workspaceId FileTree.empty = (.ok bundle, after) ∧ bundle.evidenceId = "e1" ∧
      bundle.evidenceBundleUri = buildEvidenceUri workspaceId "e1" := by
  have hok : ∀ workspaceId ∈ ["w1", ""],
      (storeExample workspaceId FileTree.empty).1.toOption.isSome = true := by decide +kernel
  intro workspaceId hworkspace
  have hsome := hok workspaceId hworkspace
  cases hrun : storeExample workspaceId FileTree.empty with
  | mk result after =>
    rw [hrun] at hsome
    cases result with
    | error found => cases hsome
    | ok bundle =>
      obtain ⟨hbundle, -⟩ := storeEvidenceBundle_ok hrun
      refine ⟨bundle, after, rfl, ?_, ?_⟩
      · rw [hbundle]
        rfl
      · rw [hbundle]
        rfl

/-- An encrypted bundle of the workspace `w1` is loaded again. -/
theorem evidence_round_trip_encrypted : ∃ bundle after, ∃ loaded : Fields,
    storeExample "w1" FileTree.empty = (.ok bundle, after) ∧
      loadEvidenceBundle (fun _ ↦ Vector.replicate 32 7) textReader encryptedEnvironment "w1" "e1"
        ["data"] after = (.ok loaded, after) := by
  obtain ⟨bundle, after, hstored, hevidence, -⟩ := storeExample_ok "w1" (by decide)
  obtain ⟨⟨loaded, hloaded, -⟩, hworkspace, -⟩ :=
    evidence_round_trip regular_rows (by decide) (by decide) hstored (by rw [hevidence]; decide)
  rw [hworkspace, hevidence] at hloaded
  exact ⟨bundle, after, loaded, hstored, hloaded⟩

/-- The URI of a bundle of a workspace with the empty identifier is not parsed. -/
theorem empty_workspace_unparsed : ¬∀ {sha256 : Sha256} {reader : FloatReader}
    {environment : Environment} {workspaceId bundleType : String} {payload : Fields}
    {storageRoot : TreePath} {evidenceId : Option String} {now : ℤ} {files after : FileStore}
    {bundle : StoredEvidenceBundle}, Regular reader (.obj payload) → '/' ∉ workspaceId.toList →
    storeEvidenceBundle (evidenceCodec sha256 environment) workspaceId payload storageRoot bundleType
      evidenceId now files = (.ok bundle, after) →
    '/' ∉ bundle.evidenceId.toList →
    parseEvidenceUri bundle.evidenceBundleUri = .ok (workspaceId, bundle.evidenceId) := by
  intro hall
  obtain ⟨bundle, after, hstored, hevidence, huri⟩ := storeExample_ok "" (by decide)
  have hparsed := hall regular_rows (by decide) hstored (by rw [hevidence]; decide)
  have hrefused : (parseEvidenceUri (buildEvidenceUri "" "e1")).toOption = none := by decide +kernel
  rw [huri] at hparsed
  rw [hparsed] at hrefused
  cases hrefused

end SchemaPilot.SharedDomain
