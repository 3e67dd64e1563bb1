import SchemaPilot.SharedDomain.EvidenceRoundTrip

/-!
# Evidence stored again

A history of `store_evidence_bundle` calls, each under the encryption settings of its time. A bundle that
was stored stays in its file, whatever is stored later (`content?_filesAfter`). Storing its payload
again succeeds exactly when the settings of the two calls render the same envelope
(`storedAgain_iff`): the comparison that keeps bundles immutable reads the encrypted text.
-/

namespace SchemaPilot.SharedDomain

open Library Library.Text Library.Json

/-- A call of `store_evidence_bundle`, with the environment it finds. -/
structure EvidenceCall where
  environment : Environment
  workspaceId : String
  payload : Fields
  bundleType : String
  evidenceId : Option String
  now : ℤ

namespace EvidenceCall

def config (call : EvidenceCall) : ArtifactCryptoConfig := loadArtifactCryptoConfig call.environment

/-- The call stores the payload of another one under its workspace, type and identifier. -/
structure Repeats (again first : EvidenceCall) : Prop where
  workspaceId : again.workspaceId = first.workspaceId
  bundleType : again.bundleType = first.bundleType
  evidenceId : again.evidenceId = first.evidenceId
  payload : canon (.obj again.payload) = canon (.obj first.payload)

variable (sha256 : Sha256) (storageRoot : TreePath)

def run (call : EvidenceCall) : Files StoredEvidenceBundle :=
  storeEvidenceBundle (evidenceCodec sha256 call.environment) call.workspaceId call.payload
    storageRoot call.bundleType call.evidenceId call.now

def bundle (call : EvidenceCall) : StoredEvidenceBundle :=
  describeBundle (evidenceCodec sha256 call.environment) call.workspaceId call.payload storageRoot
    call.bundleType call.evidenceId

/-- The text the call writes, or compares with. -/
def envelope (call : EvidenceCall) : Json :=
  bundleEnvelope (evidenceCodec sha256 call.environment) call.payload call.bundleType
    (call.bundle sha256 storageRoot)

/-- The files after a history of calls, failed ones included. -/
def filesAfter (calls : List EvidenceCall) (files : FileStore) : FileStore :=
  calls.foldl (fun files call ↦ (call.run sha256 storageRoot files).2) files

variable {sha256 storageRoot}

theorem bundle_of_repeats {again first : EvidenceCall} (h : again.Repeats first) :
    again.bundle sha256 storageRoot = first.bundle sha256 storageRoot := by
  have hdumps : dumps (.obj again.payload) = dumps (.obj first.payload) := by
    rw [dumps, dumps, h.payload]
  unfold bundle describeBundle
  rw [hdumps, h.workspaceId, h.bundleType, h.evidenceId]
  rfl

theorem writeBundle_of_content {path : TreePath} {files : FileStore} {existing : FileContent}
    (hcontent : files.content? path = some existing) (envelope : Json) (now : ℤ) :
    writeBundle path envelope now files =
      if existing ≠ .json envelope then
        (.error (.valueError
          "Evidence bundle immutability violation: existing bundle content differs."), files)
      else (.ok (), files) := by
  have hexists : files.pathExists path = true := by
    rw [FileTree.pathExists_eq, FileTree.isFile, hcontent]
    exact Bool.or_true _
  unfold writeBundle
  rw [Effect.bind_apply, Files.pathExists_apply, hexists]
  dsimp only
  rw [if_pos rfl, Effect.bind_apply, Effect.read_apply]
  dsimp only
  rw [hcontent]
  dsimp only
  split_ifs <;> rfl

theorem run_eq (call : EvidenceCall) :
    call.run sha256 storageRoot = (do
      Files.makeDirs (call.bundle sha256 storageRoot).path.dropLast
      writeBundle (call.bundle sha256 storageRoot).path (call.envelope sha256 storageRoot) call.now
      return call.bundle sha256 storageRoot) := rfl

theorem run_of_refused {call : EvidenceCall} {files : FileStore}
    (hdirs : files.makeDirs? (call.bundle sha256 storageRoot).path.dropLast = none) :
    call.run sha256 storageRoot files = (.error (.other "OSError"), files) := by
  have hmake : Files.makeDirs (call.bundle sha256 storageRoot).path.dropLast files =
      (.error (.other "OSError"), files) := by
    rw [Files.makeDirs, Files.perform, hdirs]
  rw [run_eq, Effect.bind_apply, hmake]

theorem run_of_content {call : EvidenceCall} {files made : FileStore} {existing : FileContent}
    (hcontent : files.content? (call.bundle sha256 storageRoot).path = some existing)
    (hdirs : files.makeDirs? (call.bundle sha256 storageRoot).path.dropLast = some made) :
    call.run sha256 storageRoot files =
      if existing ≠ .json (call.envelope sha256 storageRoot) then
        (.error (.valueError
          "Evidence bundle immutability violation: existing bundle content differs."), made)
      else (.ok (call.bundle sha256 storageRoot), made) := by
  have hmake : Files.makeDirs (call.bundle sha256 storageRoot).path.dropLast files =
      (.ok (), made) := by
    rw [Files.makeDirs, Files.perform, hdirs]
  have hheld : made.content? (call.bundle sha256 storageRoot).path = some existing := by
    rw [FileTree.content?_makeDirs? hdirs, hcontent]
  have hwrite := writeBundle_of_content hheld (call.envelope sha256 storageRoot) call.now
  rw [run_eq, Effect.bind_apply, hmake]
  dsimp only
  rw [Effect.bind_apply, hwrite]
  split_ifs <;> rfl

/-- Storing another bundle, or this one again, changes no file that is there. -/
theorem content?_run (call : EvidenceCall) {path : TreePath} {files : FileStore}
    {existing : FileContent} (hcontent : files.content? path = some existing) :
    (call.run sha256 storageRoot files).2.content? path = some existing := by
  by_cases hpath : path = (call.bundle sha256 storageRoot).path
  · cases hdirs : files.makeDirs? (call.bundle sha256 storageRoot).path.dropLast with
    | none => rw [run_of_refused hdirs, hcontent]
    | some made =>
      rw [run_of_content (hpath ▸ hcontent) hdirs]
      split_ifs
      · rw [FileTree.content?_makeDirs? hdirs, hcontent]
      · rw [FileTree.content?_makeDirs? hdirs, hcontent]
  · have hkeeps := keeps_storeEvidenceBundle (evidenceCodec sha256 call.environment) call.workspaceId
      call.payload storageRoot call.bundleType call.evidenceId call.now hpath files
    exact hkeeps.trans hcontent

theorem length_bundle_path (call : EvidenceCall) :
    (call.bundle sha256 storageRoot).path.length = storageRoot.length + 3 := by
  change (storageRoot ++ [_, _, _]).length = _
  rw [List.length_append]
  rfl

variable (sha256 storageRoot) in
/-- A bundle whose file is there, with no file where its directories are. -/
structure Held (call : EvidenceCall) (files : FileStore) : Prop where
  content : files.content? (call.bundle sha256 storageRoot).path =
    some (.json (call.envelope sha256 storageRoot))
  dirs : ∀ dir, dir <+: (call.bundle sha256 storageRoot).path.dropLast → files.isFile dir = false

theorem held_of_run {call : EvidenceCall} {files after : FileStore} {stored : StoredEvidenceBundle}
    (h : call.run sha256 storageRoot files = (.ok stored, after)) :
    stored = call.bundle sha256 storageRoot ∧ call.Held sha256 storageRoot after := by
  obtain ⟨hbundle, hcontents⟩ := storeEvidenceBundle_ok h
  have hcontents : ∀ path, after.content? path = if path = (call.bundle sha256 storageRoot).path then
      some (.json (call.envelope sha256 storageRoot)) else files.content? path := by
    intro path
    rw [hcontents, hbundle]
    rfl
  refine ⟨hbundle, ⟨by rw [hcontents, if_pos rfl], fun dir hdir ↦ ?_⟩⟩
  rw [run_eq] at h
  obtain ⟨_, made, hmake, -⟩ := Effect.bind_eq_ok_iff.mp h
  have hmade : made.isDir dir = true := by
    rw [FileTree.isDir_makeDirs? (Files.perform_eq_ok hmake), decide_eq_true hdir, Bool.true_or]
  have hne : dir ≠ (call.bundle sha256 storageRoot).path := by
    rintro rfl
    have hlength := hdir.length_le
    rw [List.length_dropLast, length_bundle_path] at hlength
    omega
  rw [FileTree.isFile_eq_false_iff, hcontents, if_neg hne, ← Files.content?_makeDirs hmake]
  exact FileTree.content?_eq_none_of_isDir hmade

/-- A new bundle is stored where no file is in the way of its directories. -/
theorem exists_run {call : EvidenceCall} {files : FileStore}
    (hdirs : ∀ dir, dir <+: (call.bundle sha256 storageRoot).path.dropLast → files.isFile dir = false)
    (hnew : files.node? (call.bundle sha256 storageRoot).path = none) :
    ∃ stored after, call.run sha256 storageRoot files = (.ok stored, after) := by
  obtain ⟨made, hmade⟩ := FileTree.exists_makeDirs? hdirs
  have hmake : Files.makeDirs (call.bundle sha256 storageRoot).path.dropLast files =
      (.ok (), made) := by
    rw [Files.makeDirs, Files.perform, hmade]
  have hnode : made.node? (call.bundle sha256 storageRoot).path = none := by
    rw [FileTree.node?_makeDirs? hmade, hnew]
    intro hbelow
    have hlength := hbelow.length_le
    rw [List.length_dropLast, length_bundle_path] at hlength
    omega
  obtain ⟨after, hafter⟩ := FileTree.exists_write? (FileContent.json (call.envelope sha256 storageRoot))
    call.now (show made.isDir (call.bundle sha256 storageRoot).path.dropLast = true by
      rw [FileTree.isDir_makeDirs? hmade, decide_eq_true List.prefix_rfl, Bool.true_or])
    (show made.isDir (call.bundle sha256 storageRoot).path = false by rw [FileTree.isDir, hnode])
  have hwrite : writeBundle (call.bundle sha256 storageRoot).path (call.envelope sha256 storageRoot)
      call.now made = (.ok (), after) := by
    unfold writeBundle
    rw [Effect.bind_apply, Files.pathExists_apply, FileTree.pathExists, hnode]
    dsimp only
    rw [if_neg (by simp), Files.writeJson, Files.perform, hafter]
  refine ⟨call.bundle sha256 storageRoot, after, ?_⟩
  rw [run_eq, Effect.bind_apply, hmake]
  dsimp only
  rw [Effect.bind_apply, hwrite]
  rfl

/-- A held bundle stays held, whatever is stored, or fails to be. -/
theorem Held.run {call : EvidenceCall} {files : FileStore} (h : call.Held sha256 storageRoot files)
    (other : EvidenceCall) : call.Held sha256 storageRoot (other.run sha256 storageRoot files).2 := by
  refine ⟨content?_run other h.content, fun dir hdir ↦ ?_⟩
  have hne : dir ≠ (other.bundle sha256 storageRoot).path := by
    rintro rfl
    have hlength := hdir.length_le
    rw [List.length_dropLast, length_bundle_path, length_bundle_path] at hlength
    omega
  have hkeeps := keeps_storeEvidenceBundle (evidenceCodec sha256 other.environment)
    other.workspaceId other.payload storageRoot other.bundleType other.evidenceId other.now hne files
  rw [FileTree.isFile_eq_false_iff]
  exact hkeeps.trans (FileTree.isFile_eq_false_iff.mp (h.dirs dir hdir))

theorem Held.filesAfter {call : EvidenceCall} (calls : List EvidenceCall) {files : FileStore}
    (h : call.Held sha256 storageRoot files) :
    call.Held sha256 storageRoot (filesAfter sha256 storageRoot calls files) := by
  induction calls generalizing files with
  | nil => exact h
  | cons other calls ih => exact ih (h.run other)

theorem Held.run_repeated {first again : EvidenceCall} {files : FileStore}
    (h : first.Held sha256 storageRoot files) (hrepeats : again.Repeats first) :
    ∃ after, after.content? (first.bundle sha256 storageRoot).path =
        some (.json (first.envelope sha256 storageRoot)) ∧
      again.run sha256 storageRoot files =
        if first.envelope sha256 storageRoot ≠ again.envelope sha256 storageRoot then
          (.error (.valueError
            "Evidence bundle immutability violation: existing bundle content differs."), after)
        else (.ok (first.bundle sha256 storageRoot), after) := by
  have hbundle : again.bundle sha256 storageRoot = first.bundle sha256 storageRoot :=
    bundle_of_repeats hrepeats
  obtain ⟨made, hmade⟩ := FileTree.exists_makeDirs? h.dirs
  refine ⟨made, by rw [FileTree.content?_makeDirs? hmade, h.content], ?_⟩
  have hcontent : files.content? (again.bundle sha256 storageRoot).path =
      some (.json (first.envelope sha256 storageRoot)) := by rw [hbundle, h.content]
  rw [← hbundle] at hmade
  rw [run_of_content hcontent hmade, hbundle]
  simp only [ne_eq, FileContent.json.injEq]

end EvidenceCall

/-- Two keys agree on the bytes that a payload takes up. -/
def KeysAgree (sha256 : Sha256) (payload : Fields) (first again : String) : Prop :=
  ∀ idx < (utf8Bytes (dumps (.obj payload))).length,
    (deriveKey sha256 first).get ⟨idx % 32, Nat.mod_lt idx (by decide)⟩ =
      (deriveKey sha256 again).get ⟨idx % 32, Nat.mod_lt idx (by decide)⟩

/-- Two settings encrypt a payload alike. -/
def SettingsAgree (sha256 : Sha256) (payload : Fields) (first again : ArtifactCryptoConfig) : Prop :=
  first.enabled = again.enabled ∧ (first.enabled = true → first.keyId = again.keyId ∧
    KeysAgree sha256 payload first.keyMaterial again.keyMaterial)

/-- The envelopes of one bundle are the same exactly where the settings agree. -/
theorem envelope_eq_iff {sha256 : Sha256} {storageRoot : TreePath} {first again : EvidenceCall}
    (hrepeats : again.Repeats first) :
    first.envelope sha256 storageRoot = again.envelope sha256 storageRoot ↔
      SettingsAgree sha256 first.payload first.config again.config := by
  have hbundle : again.bundle sha256 storageRoot = first.bundle sha256 storageRoot :=
    EvidenceCall.bundle_of_repeats hrepeats
  have hdumps : dumps (.obj again.payload) = dumps (.obj first.payload) := by
    rw [dumps, dumps, hrepeats.payload]
  have hseals : sealText (deriveKey sha256 first.config.keyMaterial) (dumps (.obj first.payload)) =
      sealText (deriveKey sha256 again.config.keyMaterial) (dumps (.obj again.payload)) ↔
        KeysAgree sha256 first.payload first.config.keyMaterial again.config.keyMaterial := by
    rw [hdumps, sealText_eq_iff, KeysAgree]
  rw [EvidenceCall.envelope, EvidenceCall.envelope, hbundle, bundleEnvelope_eq, bundleEnvelope_eq,
    hrepeats.bundleType]
  change canon (.obj (envelopeFields sha256 first.payload first.config first.bundleType _)) =
    canon (.obj (envelopeFields sha256 again.payload again.config first.bundleType _)) ↔ _
  generalize first.config = former at hseals ⊢
  generalize again.config = current at hseals ⊢
  constructor
  · intro hsame
    have hfield : ∀ key, key ∉ ["evidence_id", "workspace_id", "bundle_type", "content_hash"] →
        (get? (encryptPayload sha256 first.payload former) key).map canon =
          (get? (encryptPayload sha256 again.payload current) key).map canon := by
      intro key hkey
      rw [← get?_envelopeFields hkey, ← get?_envelopeFields hkey]
      exact get?_of_canon_eq hsame key
    have hformer := envelopeOf_encryptPayload sha256 first.payload former
    have hcurrent := envelopeOf_encryptPayload sha256 again.payload current
    have henabled := hfield "encrypted" (by decide)
    rw [hformer.encrypted, hcurrent.encrypted] at henabled
    have henabled : former.enabled = current.enabled := by simpa [canon] using henabled
    refine ⟨henabled, fun hon ↦ ⟨?_, hseals.mp ?_⟩⟩
    · have hkeyId := hfield "key_id" (by decide)
      have hcurrentOn : current.enabled = true := henabled ▸ hon
      simpa [encryptPayload, hon, hcurrentOn, get?_cons, canon] using hkeyId
    · have hcipher := hfield "ciphertext" (by decide)
      rw [hformer.ciphertext hon, hcurrent.ciphertext (henabled ▸ hon)] at hcipher
      simpa [canon] using hcipher
  · rintro ⟨henabled, hkeys⟩
    rw [canon, canon, canonFields_eq_map, canonFields_eq_map, envelopeFields, envelopeFields,
      List.map_append, List.map_append]
    congr 3
    cases hon : former.enabled with
    | false =>
      have hoff : current.enabled = false := henabled ▸ hon
      simp [encryptPayload, hon, hoff, hrepeats.payload]
    | true =>
      have hcurrentOn : current.enabled = true := henabled ▸ hon
      obtain ⟨hkeyId, hagree⟩ := hkeys hon
      simp [encryptPayload, hon, hcurrentOn, hkeyId, hseals.mpr hagree]

/-- A call succeeds with the URI and the hash of a bundle stored before, which is then loaded with its
payload under the settings it was stored with. -/
def StoredAgain (sha256 : Sha256) (reader : FloatReader) (storageRoot : TreePath)
    (first again : EvidenceCall) (stored : StoredEvidenceBundle) (files : FileStore) : Prop :=
  ∃ bundle after, again.run sha256 storageRoot files = (.ok bundle, after) ∧
    bundle.evidenceBundleUri = stored.evidenceBundleUri ∧ bundle.contentHash = stored.contentHash ∧
    ∃ loaded : Fields, loadEvidenceBundle sha256 reader first.environment stored.workspaceId
        stored.evidenceId storageRoot after = (.ok loaded, after) ∧
      ∃ fields : Fields, get? loaded "payload" = some (.obj fields) ∧
        canon (.obj fields) = canon (.obj first.payload)

/-- After any history, a payload is stored again exactly where the settings agree with those of the call
that stored it. -/
theorem storedAgain_iff {sha256 : Sha256} {reader : FloatReader} {storageRoot : TreePath}
    {first again : EvidenceCall} {stored : StoredEvidenceBundle} {files after : FileStore}
    (hregular : Regular reader (.obj first.payload))
    (hstored : first.run sha256 storageRoot files = (.ok stored, after))
    (between : List EvidenceCall) (hrepeats : again.Repeats first) :
    StoredAgain sha256 reader storageRoot first again stored
        (EvidenceCall.filesAfter sha256 storageRoot between after) ↔
      SettingsAgree sha256 first.payload first.config again.config := by
  obtain ⟨hbundle, hheld⟩ := EvidenceCall.held_of_run hstored
  obtain ⟨final, hcontent, hrun⟩ := (hheld.filesAfter between).run_repeated hrepeats
  have hsettings : first.envelope sha256 storageRoot = again.envelope sha256 storageRoot ↔ _ :=
    envelope_eq_iff hrepeats
  rw [← hsettings, StoredAgain, hrun, hbundle]
  constructor
  · rintro ⟨bundle, last, hagain, -⟩
    by_contra hdiffer
    rw [if_pos hdiffer] at hagain
    cases hagain
  · intro hsame
    rw [if_neg (not_not.mpr hsame)]
    obtain ⟨loaded, hloaded, hpayload, -⟩ := loadEvidenceBundle_of_content hregular rfl hcontent
    exact ⟨_, final, rfl, rfl, rfl, loaded, hloaded, hpayload⟩

/-- A call that stores a payload of one field, with encryption or without. -/
def rowsCall (environment : Environment) : EvidenceCall :=
  { environment, workspaceId := "w1", payload := [("rows", .int 3)], bundleType := "profile",
    evidenceId := none, now := 0 }

theorem rowsCall_stored (sha256 : Sha256) (environment : Environment) :
    ∃ stored after, (rowsCall environment).run sha256 ["data"] FileTree.empty = (.ok stored, after) :=
  EvidenceCall.exists_run (fun dir _ ↦ by cases dir <;> rfl) rfl

theorem rowsCall_repeats (first again : Environment) : (rowsCall again).Repeats (rowsCall first) :=
  ⟨rfl, rfl, rfl, rfl⟩

theorem storedAgain_encrypted : ∃ stored after,
    (rowsCall encryptedEnvironment).run (fun _ ↦ Vector.replicate 32 7) ["data"] FileTree.empty =
        (.ok stored, after) ∧
      (StoredAgain (fun _ ↦ Vector.replicate 32 7) textReader ["data"] (rowsCall encryptedEnvironment)
          (rowsCall encryptedEnvironment) stored
          (EvidenceCall.filesAfter (fun _ ↦ Vector.replicate 32 7) ["data"] [] after) ↔
        SettingsAgree (fun _ ↦ Vector.replicate 32 7) [("rows", .int 3)]
          (rowsCall encryptedEnvironment).config (rowsCall encryptedEnvironment).config) := by
  obtain ⟨stored, after, hstored⟩ := rowsCall_stored (fun _ ↦ Vector.replicate 32 7) encryptedEnvironment
  exact ⟨stored, after, hstored, storedAgain_iff regular_rows hstored [] (rowsCall_repeats _ _)⟩

/-- Once encryption is turned on, what was stored before cannot be stored again, whatever the hash. -/
theorem encryption_turned_on_refused : ¬∃ sha256 : Sha256, ∀ {reader : FloatReader}
    {storageRoot : TreePath} {first again : EvidenceCall} {stored : StoredEvidenceBundle}
    {files after : FileStore}, Regular reader (.obj first.payload) →
    first.run sha256 storageRoot files = (.ok stored, after) →
    ∀ between : List EvidenceCall, again.Repeats first →
      StoredAgain sha256 reader storageRoot first again stored
        (EvidenceCall.filesAfter sha256 storageRoot between after) := by
  rintro ⟨sha256, hall⟩
  obtain ⟨stored, after, hstored⟩ := rowsCall_stored sha256 fun _ ↦ none
  obtain ⟨-, hheld⟩ := EvidenceCall.held_of_run hstored
  have hrepeats : (rowsCall encryptedEnvironment).Repeats (rowsCall fun _ ↦ none) :=
    rowsCall_repeats _ _
  obtain ⟨final, -, hrun⟩ := hheld.run_repeated hrepeats
  obtain ⟨bundle, last, hagain, -⟩ := hall regular_rows hstored [] hrepeats
  have hdiffer : (rowsCall fun _ ↦ none).envelope sha256 ["data"] ≠
      (rowsCall encryptedEnvironment).envelope sha256 ["data"] := by
    rw [Ne, envelope_eq_iff hrepeats]
    rintro ⟨henabled, -⟩
    revert henabled
    decide +kernel
  rw [if_pos hdiffer] at hrun
  change (rowsCall encryptedEnvironment).run sha256 ["data"] after = _ at hagain
  rw [hrun] at hagain
  cases hagain

end SchemaPilot.SharedDomain
