import SchemaPilot.Library.EffectLogic
import SchemaPilot.SharedDomain.EvidenceHistory

/-!
# Rotating the encryption key

`tools/rotate_artifact_key.py`. The tool decrypts one file after another with the old key and writes it
back under the new one. A run that is interrupted leaves the files it has passed under the new key, and
the next run decrypts them with the old key again: it completes without loss exactly when the old key
opens what the new key has sealed (`rotation_resumes_iff`).
-/

namespace SchemaPilot.SharedDomain

open Library Library.Text Library.Json

/-- The envelope of a rotated file: the fields beside those of the encrypted payload, and the payload under
the new key. -/
def resealed (sha256 : Sha256) (target : ArtifactCryptoConfig) (envelope decrypted : Fields) : Fields :=
  (encryptPayload sha256 decrypted target).foldl (fun envelope field ↦ set envelope field.1 field.2)
    (envelope.filter fun field ↦ field.1 ∉ ["payload", "ciphertext", "encrypted", "key_id"])

/-- The body of the loop, with what it adds to the rotated files. -/
def rotateFile (sha256 : Sha256) (reader : FloatReader) (source target : ArtifactCryptoConfig)
    (now : ℤ) (path : TreePath) : Files ℕ := do
  match ← Effect.ofExcept (loadsText reader ((← Effect.read).content? path)) with
  | .obj payload =>
    let decrypted ← Effect.ofExcept (decryptPayload sha256 reader payload source)
    Files.writeJson path (.obj (resealed sha256 target payload decrypted)) now
    return 1
  | _ => return 0

/-- `sorted(root.rglob("*.json"))` without the files of other workspaces. -/
def rotationPaths (storageRoot : TreePath) (workspaceId : Option String) (files : FileStore) :
    List TreePath :=
  (((files.below (storageRoot ++ ["evidence_store"])).filter fun path ↦
      ".json".toList.isSuffixOf ((path.getLast?.getD "").toList)).insertionSort (· ≤ ·)).filter
    fun path ↦ workspaceId.getD "" = "" ∨ path.dropLast.getLast? = workspaceId

structure RotationReport where
  scanned : ℕ
  rotated : ℕ

/-- The keys `rotate` takes from the environment. -/
structure RotationKeys where
  source : ArtifactCryptoConfig
  target : ArtifactCryptoConfig

def rotationKeys (environment : Environment) : Except Exn RotationKeys :=
  let oldKey :=
    (environment "SCHEMAPILOT_ARTIFACT_ENCRYPTION_KEY").getD "schemapilot-artifact-key"
  let oldKeyId := (environment "SCHEMAPILOT_ARTIFACT_ENCRYPTION_KEY_ID").getD "v1"
  let newKey := (environment "SCHEMAPILOT_ARTIFACT_ENCRYPTION_NEW_KEY").getD ""
  let newKeyId := (environment "SCHEMAPILOT_ARTIFACT_ENCRYPTION_NEW_KEY_ID").getD ""
  if newKey = "" ∨ newKeyId = "" then .error (.valueError "missing_new_artifact_encryption_key")
  else .ok ⟨⟨true, oldKeyId, oldKey⟩, ⟨true, newKeyId, newKey⟩⟩

section Runs

variable (sha256 : Sha256) (reader : FloatReader) (environment : Environment)
  (storageRoot : TreePath) (workspaceId : Option String) (now : ℤ)

/-- `rotate`. -/
def rotate : Files RotationReport := do
  let keys ← Effect.ofExcept (rotationKeys environment)
  let paths := rotationPaths storageRoot workspaceId (← Effect.read)
  let rotated ← Effect.sumEach (rotateFile sha256 reader keys.source keys.target now) paths
  return ⟨paths.length, rotated⟩

/-- `rotate`, interrupted before it takes up another file. -/
def rotateInterrupted (passed : ℕ) : Files Unit := do
  let keys ← Effect.ofExcept (rotationKeys environment)
  let paths := rotationPaths storageRoot workspaceId (← Effect.read)
  let _ ← Effect.sumEach (rotateFile sha256 reader keys.source keys.target now) (paths.take passed)

end Runs

section Envelopes

variable {sha256 : Sha256} {reader : FloatReader}

/-- What is decrypted from an envelope that was read is a dictionary that Python holds. -/
theorem regular_decryptPayload {envelope decrypted : Fields} {config : ArtifactCryptoConfig}
    (hregular : Regular reader (.obj envelope))
    (h : decryptPayload sha256 reader envelope config = .ok decrypted) :
    Regular reader (.obj decrypted) := by
  unfold decryptPayload at h
  dsimp only at h
  split_ifs at h
  · cases h
    rw [getD]
    cases hpayload : get? envelope "payload" with
    | none => exact ⟨List.nodup_nil, trivial⟩
    | some value =>
      have hvalue : Regular reader value := by
        obtain ⟨before, after, rfl, -⟩ := List.lookup_eq_some_iff.mp hpayload
        exact regularFields_iff.mp hregular.2 ("payload", value) (by simp)
      rw [Option.getD_some]
      cases value with
      | obj fields => exact hvalue
      | _ => exact ⟨List.nodup_nil, trivial⟩
  · split at h
    · cases h
    · split at h
      · cases h
      · next plaintext _ parsed hloads =>
        cases h
        exact regular_loads hloads
      · cases h

/-- A sealed envelope is decrypted like the fields that were sealed. -/
theorem EnvelopeOf.decryptPayload_eq {payload envelope : Fields} {target : ArtifactCryptoConfig}
    (h : EnvelopeOf sha256 payload target envelope) (hon : target.enabled = true)
    (reader : FloatReader) (config : ArtifactCryptoConfig) :
    SharedDomain.decryptPayload sha256 reader envelope config =
      SharedDomain.decryptPayload sha256 reader (encryptPayload sha256 payload target) config := by
  have hown := envelopeOf_encryptPayload sha256 payload target
  have hencrypted : ∀ {fields : Fields}, EnvelopeOf sha256 payload target fields →
      getD fields "encrypted" (.bool false) = .bool true := by
    intro fields hfields
    rw [getD, hfields.encrypted, hon]
    rfl
  have hciphertext : ∀ {fields : Fields}, EnvelopeOf sha256 payload target fields →
      strippedText fields "ciphertext" "" =
        strip (sealText (deriveKey sha256 target.keyMaterial) (dumps (.obj payload))) := by
    intro fields hfields
    rw [strippedText, getD, hfields.ciphertext hon]
    rfl
  unfold SharedDomain.decryptPayload
  rw [hencrypted h, hencrypted hown, hciphertext h, hciphertext hown]
  rfl

/-- The file of a rotated envelope holds the payload under the new key. -/
theorem envelopeOf_resealed (sha256 : Sha256) {envelope : Fields} (decrypted : Fields)
    {target : ArtifactCryptoConfig} (hregular : Regular reader (.obj envelope)) (hon : target.enabled = true) :
    Regular reader (.obj (resealed sha256 target envelope decrypted)) ∧
      EnvelopeOf sha256 decrypted target
        (sortFields (canonFields (resealed sha256 target envelope decrypted))) := by
  have hkept : Regular reader (.obj (envelope.filter fun field ↦
      field.1 ∉ ["payload", "ciphertext", "encrypted", "key_id"])) := by
    refine ⟨(List.filter_sublist.map Prod.fst).nodup hregular.1, regularFields_iff.mpr fun field hfield ↦ ?_⟩
    exact regularFields_iff.mp hregular.2 field (List.mem_filter.mp hfield).1
  have hsealed : encryptPayload sha256 decrypted target = [("encrypted", .bool true),
      ("key_id", .str target.keyId), ("ciphertext",
        .str (sealText (deriveKey sha256 target.keyMaterial) (dumps (.obj decrypted))))] := by
    rw [encryptPayload, hon]
    rfl
  have hread : ∀ key, get? (sortFields (canonFields (resealed sha256 target envelope decrypted))) key =
      (get? (resealed sha256 target envelope decrypted) key).map canon := fun key ↦ by
    rw [get?_sortFields, get?_canonFields]
  refine ⟨?_, ⟨?_, fun hoff ↦ absurd hon (by rw [hoff]; decide), fun _ ↦ ?_⟩⟩
  · rw [resealed, hsealed]
    exact regular_foldl_set hkept (by simp [Regular])
  · rw [hread, resealed, hsealed, List.foldl_cons, List.foldl_cons, List.foldl_cons, List.foldl_nil,
      get?_set_of_ne (by simp), get?_set_of_ne (by simp), get?_set_self, hon]
    rfl
  · rw [hread, resealed, hsealed, List.foldl_cons, List.foldl_cons, List.foldl_cons, List.foldl_nil,
      get?_set_self]
    rfl

end Envelopes

section Files

variable (sha256 : Sha256) (reader : FloatReader)

def LoadsAs (config : ArtifactCryptoConfig) (files : FileStore) (path : TreePath) (payload : Fields) :
    Prop :=
  ∃ raw decrypted : Fields, loadsText reader (files.content? path) = .ok (.obj raw) ∧
    decryptPayload sha256 reader raw config = .ok decrypted ∧
    canon (.obj decrypted) = canon (.obj payload)

def SealedAs (target : ArtifactCryptoConfig) (files : FileStore) (path : TreePath)
    (payload : Fields) : Prop :=
  ∃ raw held : Fields, loadsText reader (files.content? path) = .ok (.obj raw) ∧
    EnvelopeOf sha256 held target raw ∧ Regular reader (.obj held) ∧
    canon (.obj held) = canon (.obj payload)

/-- One configuration opens what another one has sealed. -/
def Reopens (target source : ArtifactCryptoConfig) (payload : Fields) : Prop :=
  ∃ decrypted : Fields,
    decryptPayload sha256 reader (encryptPayload sha256 payload target) source = .ok decrypted ∧
      canon (.obj decrypted) = canon (.obj payload)

variable {sha256 reader}

theorem encryptPayload_of_canon_eq {payload other : Fields} {config : ArtifactCryptoConfig}
    (hon : config.enabled = true) (h : canon (.obj payload) = canon (.obj other)) :
    encryptPayload sha256 payload config = encryptPayload sha256 other config := by
  have hdumps : dumps (.obj payload) = dumps (.obj other) := by rw [dumps, dumps, h]
  rw [encryptPayload, encryptPayload, hdumps, hon]
  rfl

/-- A sealed file loads under its own key. -/
theorem SealedAs.loadsAs {target : ArtifactCryptoConfig} {files : FileStore} {path : TreePath}
    {payload : Fields} (h : SealedAs sha256 reader target files path payload) :
    LoadsAs sha256 reader target files path payload := by
  obtain ⟨raw, held, hraw, henvelope, hregular, hcanon⟩ := h
  obtain ⟨decrypted, hdecrypted, hsame⟩ := henvelope.decryptPayload sha256 hregular
  exact ⟨raw, decrypted, hraw, hdecrypted, hsame.trans hcanon⟩

/-- A sealed file loads under another key exactly where that key opens what was sealed. -/
theorem SealedAs.loadsAs_iff {source target : ArtifactCryptoConfig} {files : FileStore}
    {path : TreePath} {payload : Fields} (hon : target.enabled = true)
    (h : SealedAs sha256 reader target files path payload) :
    LoadsAs sha256 reader source files path payload ↔ Reopens sha256 reader target source payload := by
  obtain ⟨raw, held, hraw, henvelope, -, hcanon⟩ := h
  have hopen := henvelope.decryptPayload_eq hon reader source
  rw [encryptPayload_of_canon_eq hon hcanon] at hopen
  constructor
  · rintro ⟨raw', decrypted, hraw', hdecrypted, hsame⟩
    rw [hraw, Except.ok.injEq, Json.obj.injEq] at hraw'
    rw [← hraw', hopen] at hdecrypted
    exact ⟨decrypted, hdecrypted, hsame⟩
  · rintro ⟨decrypted, hdecrypted, hsame⟩
    exact ⟨raw, decrypted, hraw, hopen.trans hdecrypted, hsame⟩

theorem canon_eq_of_loadsAs {config : ArtifactCryptoConfig} {files : FileStore} {path : TreePath}
    {payload other : Fields} (h : LoadsAs sha256 reader config files path payload)
    (hother : LoadsAs sha256 reader config files path other) :
    canon (.obj payload) = canon (.obj other) := by
  obtain ⟨raw, decrypted, hraw, hdecrypted, hsame⟩ := h
  obtain ⟨raw', decrypted', hraw', hdecrypted', hsame'⟩ := hother
  rw [hraw, Except.ok.injEq, Json.obj.injEq] at hraw'
  rw [hraw', hdecrypted', Except.ok.injEq] at hdecrypted
  rw [← hsame, ← hsame', hdecrypted]

/-- What was read from a file is a value that Python holds. -/
theorem regular_of_loadsText {content : Option FileContent} {value : Json}
    (h : loadsText reader content = .ok value) : Regular reader value := by
  unfold loadsText at h
  split at h
  · split at h
    · next hloads =>
      cases h
      exact regular_loads hloads
    · cases h
  · cases h
  · cases h

theorem rotateFile_apply (source target : ArtifactCryptoConfig) (now : ℤ) (path : TreePath)
    (files : FileStore) :
    rotateFile sha256 reader source target now path files =
      match loadsText reader (files.content? path) with
      | .error exception => (.error exception, files)
      | .ok (.obj payload) =>
        match decryptPayload sha256 reader payload source with
        | .error exception => (.error exception, files)
        | .ok decrypted =>
          match files.write? path (.json (.obj (resealed sha256 target payload decrypted))) now with
          | some after => (.ok 1, after)
          | none => (.error (.other "OSError"), files)
      | .ok _ => (.ok 0, files) := by
  unfold rotateFile
  rw [Effect.bind_apply, Effect.read_apply]
  dsimp only
  rw [Effect.bind_apply, Effect.ofExcept_apply]
  rcases loadsText reader (files.content? path) with exception | value
  · rfl
  · cases value with
    | obj payload =>
      dsimp only
      rw [Effect.bind_apply, Effect.ofExcept_apply]
      rcases decryptPayload sha256 reader payload source with exception | decrypted
      · rfl
      · dsimp only
        rw [Effect.bind_apply, Files.writeJson, Files.perform]
        cases files.write? path (.json (.obj (resealed sha256 target payload decrypted))) now <;> rfl
    | _ => rfl

theorem isFile_of_loadsText {files : FileStore} {path : TreePath} {value : Json}
    (h : loadsText reader (files.content? path) = .ok value) : files.isFile path = true := by
  rw [FileTree.isFile]
  cases hcontent : files.content? path with
  | none =>
    rw [hcontent] at h
    cases h
  | some content => rfl

/-- Rotating a file changes only what it holds. -/
theorem rotateFile_after {source target : ArtifactCryptoConfig} {now : ℤ} {path : TreePath}
    {files after : FileStore} {result : Except Exn ℕ}
    (h : rotateFile sha256 reader source target now path files = (result, after)) :
    files.SameShape after ∧ ∀ other, other ≠ path → after.content? other = files.content? other := by
  rw [rotateFile_apply] at h
  rcases hraw : loadsText reader (files.content? path) with exception | value
  · rw [hraw] at h
    cases h
    exact ⟨.refl _, fun _ _ ↦ rfl⟩
  · rw [hraw] at h
    cases value with
    | obj payload =>
      dsimp only at h
      split at h
      · cases h
        exact ⟨.refl _, fun _ _ ↦ rfl⟩
      · split at h
        · next written hwrite =>
          cases h
          exact ⟨FileTree.sameShape_write? (isFile_of_loadsText hraw) hwrite, fun other hother ↦ by
            rw [FileTree.content?_write? hwrite, if_neg hother]⟩
        · cases h
          exact ⟨.refl _, fun _ _ ↦ rfl⟩
    | _ =>
      cases h
      exact ⟨.refl _, fun _ _ ↦ rfl⟩

/-- What rotating a file has done when it returns. -/
theorem rotateFile_ok {source target : ArtifactCryptoConfig} {now : ℤ} {path : TreePath}
    {files after : FileStore} {count : ℕ} {raw : Fields} (hon : target.enabled = true)
    (hraw : loadsText reader (files.content? path) = .ok (.obj raw))
    (h : rotateFile sha256 reader source target now path files = (.ok count, after)) :
    ∃ decrypted : Fields, decryptPayload sha256 reader raw source = .ok decrypted ∧
      SealedAs sha256 reader target after path decrypted := by
  rw [rotateFile_apply, hraw] at h
  dsimp only at h
  split at h
  · cases h
  · next decrypted hdecrypted =>
    split at h
    · next written hwrite =>
      cases h
      refine ⟨decrypted, hdecrypted, ?_⟩
      have hregular : Regular reader (.obj raw) := regular_of_loadsText hraw
      obtain ⟨hresealed, henvelope⟩ := envelopeOf_resealed sha256 decrypted hregular hon
      refine ⟨_, decrypted, ?_, henvelope, regular_decryptPayload hregular hdecrypted, rfl⟩
      rw [FileTree.content?_write? hwrite, if_pos rfl, loadsText, loads_dumpsIn indented hresealed]
      rfl
    · cases h

/-- A file that loads under the old key is rotated. -/
theorem rotateFile_of_loadsAs {source target : ArtifactCryptoConfig} (now : ℤ) {path : TreePath}
    {files : FileStore} {payload : Fields} (hon : target.enabled = true) (htree : files.IsTree)
    (h : LoadsAs sha256 reader source files path payload) :
    ∃ after, rotateFile sha256 reader source target now path files = (.ok 1, after) ∧
      SealedAs sha256 reader target after path payload := by
  obtain ⟨raw, decrypted, hraw, hdecrypted, hcanon⟩ := h
  obtain ⟨after, hwrite⟩ := htree.exists_write? (isFile_of_loadsText hraw)
    (.json (.obj (resealed sha256 target raw decrypted))) now
  have hrun : rotateFile sha256 reader source target now path files = (.ok 1, after) := by
    rw [rotateFile_apply, hraw]
    dsimp only
    rw [hdecrypted]
    dsimp only
    rw [hwrite]
  obtain ⟨held, hheld, raw', sealed, hsealed, henvelope, hregular, hsame⟩ := rotateFile_ok hon hraw hrun
  rw [hdecrypted, Except.ok.injEq] at hheld
  refine ⟨after, hrun, raw', sealed, hsealed, henvelope, hregular, ?_⟩
  rw [hsame, ← hheld, hcanon]

/-- The loop changes only what its files hold. -/
theorem rotateFiles_after {source target : ArtifactCryptoConfig} {now : ℤ} {paths : List TreePath} :
    ∀ {files after : FileStore} {result : Except Exn ℕ},
      Effect.sumEach (rotateFile sha256 reader source target now) paths files = (result, after) →
        files.SameShape after ∧
          ∀ other, other ∉ paths → after.content? other = files.content? other := by
  induction paths with
  | nil =>
    intro files after result h
    cases h
    exact ⟨.refl _, fun _ _ ↦ rfl⟩
  | cons path paths ih =>
    intro files after result h
    rw [Effect.sumEach, Effect.bind_apply] at h
    rcases hfirst : rotateFile sha256 reader source target now path files with
      ⟨exception | count, middle⟩
    · rw [hfirst] at h
      cases h
      obtain ⟨hshape, hkept⟩ := rotateFile_after hfirst
      exact ⟨hshape, fun other hother ↦ hkept other fun heq ↦ hother (heq ▸ List.mem_cons_self)⟩
    · rw [hfirst] at h
      obtain ⟨hshape, hkept⟩ := rotateFile_after hfirst
      dsimp only at h
      rw [Effect.bind_apply] at h
      rcases hrest : Effect.sumEach (rotateFile sha256 reader source target now) paths middle with
        ⟨exception | others, last⟩
      all_goals
        rw [hrest] at h
        cases h
        obtain ⟨hshapeRest, hkeptRest⟩ := ih hrest
        refine ⟨hshape.trans hshapeRest, fun other hother ↦ ?_⟩
        rw [List.mem_cons, not_or] at hother
        rw [hkeptRest other hother.2, hkept other hother.1]

/-- Files that load under the old key are all rotated. -/
theorem rotateFiles_of_loadsAs {source target : ArtifactCryptoConfig} (now : ℤ)
    (hon : target.enabled = true) (payloads : TreePath → Fields) {paths : List TreePath}
    (hnodup : paths.Nodup) : ∀ {files : FileStore}, files.IsTree →
      (∀ path ∈ paths, LoadsAs sha256 reader source files path (payloads path)) →
      ∃ count after,
        Effect.sumEach (rotateFile sha256 reader source target now) paths files = (.ok count, after) ∧
          ∀ path ∈ paths, SealedAs sha256 reader target after path (payloads path) := by
  induction paths with
  | nil => exact fun _ _ ↦ ⟨0, _, rfl, fun path hpath ↦ absurd hpath List.not_mem_nil⟩
  | cons path paths ih =>
    intro files htree hloads
    rw [List.nodup_cons] at hnodup
    obtain ⟨middle, hfirst, hsealed⟩ :=
      rotateFile_of_loadsAs now hon htree (hloads path List.mem_cons_self)
    obtain ⟨hshape, hkept⟩ := rotateFile_after hfirst
    obtain ⟨count, after, hrest, hothers⟩ := ih hnodup.2 (hshape.isTree htree) fun other hother ↦ by
      obtain ⟨raw, decrypted, hraw, hdecrypted⟩ := hloads other (List.mem_cons_of_mem _ hother)
      refine ⟨raw, decrypted, ?_, hdecrypted⟩
      rw [hkept other fun heq ↦ hnodup.1 (heq ▸ hother), hraw]
    refine ⟨1 + count, after, ?_, ?_⟩
    · rw [Effect.sumEach, Effect.bind_apply, hfirst]
      dsimp only
      rw [Effect.bind_apply, hrest]
      rfl
    · rintro other (_ | ⟨_, hother⟩)
      · obtain ⟨raw, held, hraw, henvelope⟩ := hsealed
        refine ⟨raw, held, ?_, henvelope⟩
        rw [(rotateFiles_after hrest).2 path hnodup.1, hraw]
      · exact hothers other hother

/-- What the loop has done when it returns. -/
theorem rotateFiles_ok {source target : ArtifactCryptoConfig} {now : ℤ}
    (hon : target.enabled = true) {paths : List TreePath} (hnodup : paths.Nodup) :
    ∀ {files after : FileStore} {count : ℕ},
      Effect.sumEach (rotateFile sha256 reader source target now) paths files = (.ok count, after) →
      ∀ path ∈ paths, ∀ raw, loadsText reader (files.content? path) = .ok (.obj raw) →
        ∃ decrypted : Fields, decryptPayload sha256 reader raw source = .ok decrypted ∧
          SealedAs sha256 reader target after path decrypted := by
  induction paths with
  | nil => exact fun _ path hpath ↦ absurd hpath List.not_mem_nil
  | cons path paths ih =>
    intro files after count h
    rw [List.nodup_cons] at hnodup
    obtain ⟨first, middle, hfirst, h⟩ := Effect.bind_eq_ok_iff.mp h
    obtain ⟨others, last, hrest, hdone⟩ := Effect.bind_eq_ok_iff.mp h
    cases hdone
    obtain ⟨-, hkept⟩ := rotateFile_after hfirst
    rintro other (_ | ⟨_, hother⟩) raw hraw
    · obtain ⟨decrypted, hdecrypted, raw', held, hraw', henvelope⟩ := rotateFile_ok hon hraw hfirst
      refine ⟨decrypted, hdecrypted, raw', held, ?_, henvelope⟩
      rw [(rotateFiles_after hrest).2 path hnodup.1, hraw']
    · rw [← hkept other fun heq ↦ hnodup.1 (heq ▸ hother)] at hraw
      exact ih hnodup.2 hrest other hother raw hraw

end Files

/-- `path` of a bundle. -/
def bundlePath (storageRoot : TreePath) (workspaceId evidenceId : String) : TreePath :=
  storageRoot ++ ["evidence_store", workspaceId, evidenceId ++ ".json"]

def BundleLoads (sha256 : Sha256) (reader : FloatReader) (environment : Environment)
    (storageRoot : TreePath) (files : FileStore) (workspaceId evidenceId : String)
    (payload : Fields) : Prop :=
  ∃ loaded fields : Fields, loadEvidenceBundle sha256 reader environment workspaceId evidenceId
      storageRoot files = (.ok loaded, files) ∧
    get? loaded "payload" = some (.obj fields) ∧ canon (.obj fields) = canon (.obj payload)

section Bundles

variable {sha256 : Sha256} {reader : FloatReader}

/-- Only the key matters for decrypting. -/
theorem decryptPayload_of_keyMaterial_eq {envelope : Fields} {config other : ArtifactCryptoConfig}
    (h : config.keyMaterial = other.keyMaterial) :
    decryptPayload sha256 reader envelope config = decryptPayload sha256 reader envelope other := by
  unfold decryptPayload
  rw [h]

theorem loadEvidenceBundle_apply (environment : Environment) (storageRoot : TreePath)
    (workspaceId evidenceId : String) (files : FileStore) :
    loadEvidenceBundle sha256 reader environment workspaceId evidenceId storageRoot files =
      if files.pathExists (bundlePath storageRoot workspaceId evidenceId) = true then
        match loadsText reader (files.content? (bundlePath storageRoot workspaceId evidenceId)) with
        | .error exception => (.error exception, files)
        | .ok (.obj raw) =>
          match decryptPayload sha256 reader raw (loadArtifactCryptoConfig environment) with
          | .error exception => (.error exception, files)
          | .ok decrypted =>
            (.ok (set (raw.filter fun field ↦ field.1 ≠ "payload") "payload" (.obj decrypted)), files)
        | .ok _ => (.error (.valueError "Evidence bundle content is invalid."), files)
      else
        (.error (.notFound "Evidence bundle not found."
          [("workspace_id", .str workspaceId), ("evidence_id", .str evidenceId)]), files) := by
  unfold loadEvidenceBundle bundlePath
  rw [Effect.bind_apply, Files.pathExists_apply]
  dsimp only
  split
  · rw [Effect.bind_apply, Effect.read_apply]
    dsimp only
    rw [Effect.bind_apply, Effect.ofExcept_apply]
    rcases loadsText reader
      (files.content? (storageRoot ++ ["evidence_store", workspaceId, evidenceId ++ ".json"])) with
      exception | value
    · rfl
    · cases value with
      | obj raw =>
        dsimp only
        rw [Effect.bind_apply, Effect.ofExcept_apply]
        rcases decryptPayload sha256 reader raw (loadArtifactCryptoConfig environment) with
          exception | decrypted
        · rfl
        · rfl
      | _ => rfl
  · rfl

theorem bundleLoads_iff {environment : Environment} {storageRoot : TreePath} {files : FileStore}
    {workspaceId evidenceId : String} {payload : Fields} {config : ArtifactCryptoConfig}
    (hkey : (loadArtifactCryptoConfig environment).keyMaterial = config.keyMaterial) :
    BundleLoads sha256 reader environment storageRoot files workspaceId evidenceId payload ↔
      LoadsAs sha256 reader config files (bundlePath storageRoot workspaceId evidenceId) payload := by
  rw [BundleLoads, LoadsAs]
  simp only [loadEvidenceBundle_apply]
  constructor
  · rintro ⟨loaded, fields, hloaded, hpayload, hcanon⟩
    split at hloaded
    · split at hloaded
      · cases hloaded
      · next raw hraw =>
        split at hloaded
        · cases hloaded
        · next decrypted hdecrypted =>
          cases hloaded
          rw [get?_set_self, Option.some.injEq, Json.obj.injEq] at hpayload
          rw [decryptPayload_of_keyMaterial_eq hkey] at hdecrypted
          exact ⟨raw, decrypted, hraw, hdecrypted, hpayload ▸ hcanon⟩
      · cases hloaded
    · cases hloaded
  · rintro ⟨raw, decrypted, hraw, hdecrypted, hcanon⟩
    have hexists : files.pathExists (bundlePath storageRoot workspaceId evidenceId) = true := by
      rw [FileTree.pathExists_eq, isFile_of_loadsText hraw, Bool.or_true]
    rw [← decryptPayload_of_keyMaterial_eq hkey] at hdecrypted
    rw [if_pos hexists, hraw]
    dsimp only
    rw [hdecrypted]
    exact ⟨_, decrypted, rfl, get?_set_self _ _ _, hcanon⟩

theorem rotationKeys_ok {environment : Environment} {keys : RotationKeys}
    (h : rotationKeys environment = .ok keys) :
    (loadArtifactCryptoConfig environment).keyMaterial = keys.source.keyMaterial ∧
      keys.target.enabled = true ∧
      environment "SCHEMAPILOT_ARTIFACT_ENCRYPTION_NEW_KEY" = some keys.target.keyMaterial := by
  unfold rotationKeys at h
  dsimp only at h
  split_ifs at h with hmissing
  cases h
  refine ⟨rfl, rfl, ?_⟩
  cases hkey : environment "SCHEMAPILOT_ARTIFACT_ENCRYPTION_NEW_KEY" with
  | none =>
    rw [hkey] at hmissing
    exact absurd (Or.inl rfl) hmissing
  | some key => rfl

/-- What is rotated depends on the paths only, and each is rotated once. -/
theorem rotationPaths_eq {files after : FileStore} (h : files.SameShape after) (storageRoot : TreePath)
    (workspaceId : Option String) :
    rotationPaths storageRoot workspaceId after = rotationPaths storageRoot workspaceId files := by
  unfold rotationPaths
  congr 1
  refine List.Perm.eq_of_pairwise' (List.pairwise_insertionSort (fun a b : TreePath ↦ a ≤ b) _)
    (List.pairwise_insertionSort (fun a b : TreePath ↦ a ≤ b) _) ?_
  refine (List.perm_insertionSort _ _).trans (List.Perm.trans ?_ (List.perm_insertionSort _ _).symm)
  exact (h.perm_below _).filter _

theorem nodup_rotationPaths (storageRoot : TreePath) (workspaceId : Option String)
    (files : FileStore) : (rotationPaths storageRoot workspaceId files).Nodup := by
  unfold rotationPaths
  refine List.Nodup.filter _ ((List.perm_insertionSort _ _).nodup_iff.mpr ?_)
  exact List.Nodup.filter _ (files.nodes.keys_nodup.filter _)

theorem rotate_apply {environment : Environment} {keys : RotationKeys}
    (hkeys : rotationKeys environment = .ok keys) (storageRoot : TreePath)
    (workspaceId : Option String) (now : ℤ) (files : FileStore) :
    rotate sha256 reader environment storageRoot workspaceId now files =
      match Effect.sumEach (rotateFile sha256 reader keys.source keys.target now)
          (rotationPaths storageRoot workspaceId files) files with
      | (.ok rotated, after) =>
        (.ok ⟨(rotationPaths storageRoot workspaceId files).length, rotated⟩, after)
      | (.error exception, after) => (.error exception, after) := by
  unfold rotate
  rw [Effect.bind_apply, Effect.ofExcept_apply, hkeys]
  dsimp only
  rw [Effect.bind_apply, Effect.read_apply]
  dsimp only
  rw [Effect.bind_apply]
  rcases Effect.sumEach (rotateFile sha256 reader keys.source keys.target now)
    (rotationPaths storageRoot workspaceId files) files with ⟨_ | _, after⟩ <;> rfl

theorem rotateInterrupted_after {environment : Environment} {keys : RotationKeys}
    (hkeys : rotationKeys environment = .ok keys) (storageRoot : TreePath)
    (workspaceId : Option String) (now : ℤ) (passed : ℕ) (files : FileStore) :
    (rotateInterrupted sha256 reader environment storageRoot workspaceId now passed files).2 =
      (Effect.sumEach (rotateFile sha256 reader keys.source keys.target now)
        ((rotationPaths storageRoot workspaceId files).take passed) files).2 := by
  unfold rotateInterrupted
  rw [Effect.bind_apply, Effect.ofExcept_apply, hkeys]
  dsimp only
  rw [Effect.bind_apply, Effect.read_apply]
  dsimp only
  rw [Effect.bind_apply]
  rcases Effect.sumEach (rotateFile sha256 reader keys.source keys.target now)
    ((rotationPaths storageRoot workspaceId files).take passed) files with ⟨_ | _, after⟩ <;> rfl

/-- Where the interrupted run has stopped: what it passed is sealed under the new key, and the rest is as it
was. -/
theorem exists_halted {environment : Environment} {keys : RotationKeys}
    (hkeys : rotationKeys environment = .ok keys) {storageRoot : TreePath}
    {workspaceId : Option String} (now : ℤ) {files : FileStore} (htree : files.IsTree)
    {payloads : TreePath → Fields}
    (hloads : ∀ path ∈ rotationPaths storageRoot workspaceId files,
      LoadsAs sha256 reader keys.source files path (payloads path)) (passed : ℕ) :
    ∃ halted, (rotateInterrupted sha256 reader environment storageRoot workspaceId now passed files).2 =
        halted ∧ files.SameShape halted ∧
      (∀ path ∈ (rotationPaths storageRoot workspaceId files).take passed,
        SealedAs sha256 reader keys.target halted path (payloads path)) ∧
      ∀ path ∉ (rotationPaths storageRoot workspaceId files).take passed,
        halted.content? path = files.content? path := by
  obtain ⟨-, hon, -⟩ := rotationKeys_ok hkeys
  obtain ⟨count, halted, hrun, hsealed⟩ := rotateFiles_of_loadsAs now hon payloads
    ((nodup_rotationPaths storageRoot workspaceId files).sublist (List.take_sublist passed _)) htree
    fun path hpath ↦ hloads path (List.mem_of_mem_take hpath)
  obtain ⟨hshape, hkept⟩ := rotateFiles_after hrun
  refine ⟨halted, ?_, hshape, hsealed, hkept⟩
  rw [rotateInterrupted_after hkeys, hrun]

/-- A rotation that was interrupted is completed without loss by running it again exactly where the old key
opens what the new one has sealed so far. -/
theorem rotation_resumes_iff {environment renewed : Environment} {keys : RotationKeys}
    {storageRoot : TreePath} {workspaceId : Option String} {now : ℤ} {files : FileStore}
    {payloads : TreePath → Fields} (hkeys : rotationKeys environment = .ok keys)
    (hrenewed : renewed "SCHEMAPILOT_ARTIFACT_ENCRYPTION_KEY" =
      environment "SCHEMAPILOT_ARTIFACT_ENCRYPTION_NEW_KEY")
    (htree : files.IsTree)
    (hstore : ∀ path ∈ rotationPaths storageRoot workspaceId files, ∃ workspace evidenceId,
      path = bundlePath storageRoot workspace evidenceId ∧
        BundleLoads sha256 reader environment storageRoot files workspace evidenceId (payloads path))
    (passed : ℕ) :
    (∃ report after,
      rotate sha256 reader environment storageRoot workspaceId now
          (rotateInterrupted sha256 reader environment storageRoot workspaceId now passed files).2 =
        (.ok report, after) ∧
      ∀ workspace evidenceId,
        bundlePath storageRoot workspace evidenceId ∈ rotationPaths storageRoot workspaceId files →
          BundleLoads sha256 reader renewed storageRoot after workspace evidenceId
            (payloads (bundlePath storageRoot workspace evidenceId))) ↔
      ∀ path ∈ (rotationPaths storageRoot workspaceId files).take passed,
        Reopens sha256 reader keys.target keys.source (payloads path) := by
  obtain ⟨hold, hon, hnew⟩ := rotationKeys_ok hkeys
  have hnewKey : (loadArtifactCryptoConfig renewed).keyMaterial = keys.target.keyMaterial := by
    rw [loadArtifactCryptoConfig, hrenewed, hnew]
    rfl
  have hloads : ∀ path ∈ rotationPaths storageRoot workspaceId files,
      LoadsAs sha256 reader keys.source files path (payloads path) := by
    intro path hpath
    obtain ⟨workspace, evidenceId, heq, hbundle⟩ := hstore path hpath
    rw [heq] at hbundle ⊢
    exact (bundleLoads_iff hold).mp hbundle
  have hnodup := nodup_rotationPaths storageRoot workspaceId files
  obtain ⟨halted, hhalted, hshape, hsealed, hkept⟩ := exists_halted hkeys now htree hloads passed
  rw [hhalted, rotate_apply hkeys, rotationPaths_eq hshape]
  constructor
  · rintro ⟨report, after, hrotate, hbundles⟩ path hpath
    have hmem : path ∈ rotationPaths storageRoot workspaceId files := List.mem_of_mem_take hpath
    obtain ⟨workspace, evidenceId, heq, -⟩ := hstore path hmem
    obtain ⟨raw, held, hraw, hheld⟩ := hsealed path hpath
    rcases hrun : Effect.sumEach (rotateFile sha256 reader keys.source keys.target now)
      (rotationPaths storageRoot workspaceId files) halted with ⟨exception | rotated, last⟩
    · rw [hrun] at hrotate
      cases hrotate
    · rw [hrun] at hrotate
      cases hrotate
      obtain ⟨decrypted, hdecrypted, hresealed⟩ := rotateFiles_ok hon hnodup hrun path hmem raw hraw
      have hfinal : LoadsAs sha256 reader keys.target after path (payloads path) := by
        have hbundle := hbundles workspace evidenceId (heq ▸ hmem)
        rw [← heq] at hbundle
        rw [bundleLoads_iff hnewKey, ← heq] at hbundle
        exact hbundle
      exact ((hsealed path hpath).loadsAs_iff hon).mp
        ⟨raw, decrypted, hraw, hdecrypted, canon_eq_of_loadsAs hresealed.loadsAs hfinal⟩
  · intro hreopens
    have hagain : ∀ path ∈ rotationPaths storageRoot workspaceId files,
        LoadsAs sha256 reader keys.source halted path (payloads path) := by
      intro path hpath
      by_cases hpassed : path ∈ (rotationPaths storageRoot workspaceId files).take passed
      · exact ((hsealed path hpassed).loadsAs_iff hon).mpr (hreopens path hpassed)
      · obtain ⟨raw, decrypted, hraw, hdecrypted⟩ := hloads path hpath
        exact ⟨raw, decrypted, by rw [hkept path hpassed, hraw], hdecrypted⟩
    obtain ⟨count, after, hrun, hall⟩ :=
      rotateFiles_of_loadsAs now hon payloads hnodup (hshape.isTree htree) hagain
    rw [hrun]
    refine ⟨_, after, rfl, fun workspace evidenceId hpath ↦ ?_⟩
    exact (bundleLoads_iff hnewKey).mpr (hall _ hpath).loadsAs

end Bundles

/-- The digests of the two keys and of the payload of the example. -/
def exampleDigests : Sha256 := fun bytes ↦
  if bytes = utf8Bytes "key-old" then
    #v[0x28, 0x44, 0x3a, 0xea, 0xce, 0x88, 0x9b, 0x3e, 0x9b, 0xc4, 0x41, 0x1f, 0x13, 0x4e, 0x86, 0x03,
      0x09, 0xbe, 0xea, 0x04, 0xd7, 0x20, 0x24, 0x17, 0xdb, 0x03, 0x95, 0x3f, 0xff, 0xce, 0xc3, 0xcf]
  else if bytes = utf8Bytes "key-new" then
    #v[0xca, 0x74, 0x74, 0x4a, 0x78, 0x57, 0x1a, 0x72, 0x3f, 0x2d, 0x7b, 0xcd, 0x1b, 0x08, 0x0b, 0xf7,
      0x75, 0xe0, 0x8a, 0x2d, 0xd9, 0xda, 0x28, 0x0f, 0x52, 0xda, 0xcd, 0x04, 0x17, 0x99, 0xa2, 0x57]
  else if bytes = utf8Bytes (dumps (.obj [("rows", .int 3)])) then
    #v[0x2b, 0xaf, 0xd4, 0x62, 0x9c, 0xc0, 0x4e, 0x70, 0x1c, 0x66, 0xd3, 0x85, 0x49, 0x82, 0xe0, 0x73,
      0x92, 0x4f, 0xa7, 0x7d, 0x4f, 0xdc, 0x31, 0xb2, 0x80, 0x31, 0x84, 0xff, 0x5a, 0x42, 0xce, 0xcc]
  else Vector.replicate 32 0

def rotationEnvironment : Environment := fun name ↦
  [("SCHEMAPILOT_ARTIFACT_ENCRYPTION_ENABLED", "true"),
    ("SCHEMAPILOT_ARTIFACT_ENCRYPTION_KEY", "key-old"),
    ("SCHEMAPILOT_ARTIFACT_ENCRYPTION_KEY_ID", "old"),
    ("SCHEMAPILOT_ARTIFACT_ENCRYPTION_NEW_KEY", "key-new"),
    ("SCHEMAPILOT_ARTIFACT_ENCRYPTION_NEW_KEY_ID", "new")].lookup name

def rotationCall : EvidenceCall :=
  { environment := rotationEnvironment, workspaceId := "w1", payload := [("rows", .int 3)],
    bundleType := "rotation", evidenceId := some "e1", now := 0 }

/-- A store of one bundle under the old key. -/
def rotationStore : FileStore := (rotationCall.run exampleDigests ["data"] FileTree.empty).2

theorem rotationPaths_rotationStore :
    rotationPaths ["data"] none rotationStore = [bundlePath ["data"] "w1" "e1"] := by decide +kernel

theorem isTree_rotationStore : rotationStore.IsTree := FileTree.isTree_of_keys (by decide +kernel)

theorem rotationStore_loads : ∀ path ∈ rotationPaths ["data"] none rotationStore,
    ∃ workspace evidenceId, path = bundlePath ["data"] workspace evidenceId ∧
      BundleLoads exampleDigests textReader rotationEnvironment ["data"] rotationStore workspace
        evidenceId [("rows", .int 3)] := by
  have hrun : ∃ stored after, rotationCall.run exampleDigests ["data"] FileTree.empty =
      (.ok stored, after) := EvidenceCall.exists_run (fun dir _ ↦ by cases dir <;> rfl) rfl
  obtain ⟨stored, after, hstored⟩ := hrun
  have hafter : after = rotationStore := by rw [rotationStore, hstored]
  obtain ⟨hbundle, -⟩ := EvidenceCall.held_of_run hstored
  obtain ⟨loaded, hloaded, ⟨fields, hpayload, hcanon⟩, -⟩ :=
    loadEvidenceBundle_stored regular_rows hstored
  intro path hpath
  rw [rotationPaths_rotationStore, List.mem_singleton] at hpath
  refine ⟨"w1", "e1", hpath, loaded, fields, ?_, hpayload, hcanon⟩
  rw [hbundle, hafter] at hloaded
  exact hloaded

theorem rotation_resumes_example :
    (∃ report after,
      rotate exampleDigests textReader rotationEnvironment ["data"] none 0
          (rotateInterrupted exampleDigests textReader rotationEnvironment ["data"] none 0 1
            rotationStore).2 = (.ok report, after) ∧
      ∀ workspace evidenceId,
        bundlePath ["data"] workspace evidenceId ∈ rotationPaths ["data"] none rotationStore →
          BundleLoads exampleDigests textReader
            (fun name ↦ if name = "SCHEMAPILOT_ARTIFACT_ENCRYPTION_KEY" then some "key-new" else none)
            ["data"] after workspace evidenceId [("rows", .int 3)]) ↔
      ∀ path ∈ (rotationPaths ["data"] none rotationStore).take 1,
        Reopens exampleDigests textReader ⟨true, "new", "key-new"⟩ ⟨true, "old", "key-old"⟩
          [("rows", .int 3)] :=
  rotation_resumes_iff rfl rfl isTree_rotationStore rotationStore_loads 1

/-- Once its only file is under the new key, the rotation cannot be run again. -/
theorem interrupted_rotation_stuck :
    rotationStore.IsTree ∧
      (∀ path ∈ rotationPaths ["data"] none rotationStore, ∃ workspace evidenceId,
        path = bundlePath ["data"] workspace evidenceId ∧
          BundleLoads exampleDigests textReader rotationEnvironment ["data"] rotationStore workspace
            evidenceId [("rows", .int 3)]) ∧
      ¬∃ report after,
        rotate exampleDigests textReader rotationEnvironment ["data"] none 0
          (rotateInterrupted exampleDigests textReader rotationEnvironment ["data"] none 0 1
            rotationStore).2 = (.ok report, after) := by
  refine ⟨isTree_rotationStore, rotationStore_loads, ?_⟩
  rintro ⟨report, after, hrotate⟩
  have hraises : (rotate exampleDigests textReader rotationEnvironment ["data"] none 0
      (rotateInterrupted exampleDigests textReader rotationEnvironment ["data"] none 0 1
        rotationStore).2).1.isOk = false := by decide +kernel
  rw [hrotate] at hraises
  cases hraises

end SchemaPilot.SharedDomain
