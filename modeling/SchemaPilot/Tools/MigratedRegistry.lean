import SchemaPilot.Tools.PackMigration
import SchemaPilot.Tools.SigningValidity

/-!
# Migrated registries

What the migration hands to the signer: the matrix says the same although artifacts were upgraded (`SameMatrix`), the
recorded registry is read back, and the signer reports no error exactly where it takes every entry
(`signPackRegistry_errors_iff`).
-/

namespace SchemaPilot.Tools

open Library Library.Text Library.Json SharedDomain

variable {Place : Type} {tools : PackTools Place} {files after written : PackFiles Place}
  {matrix other payload fields : Fields} {sectionName target : String} {entries : List Json} {names : List String}
  {registryPath matrixPath signingKey keyId : String}

theorem holds_of_rewritten {reader : FloatReader} {node node' : Option PackNode}
    (h : Relation.ReflTransGen (Rewritten reader) node node') {text : String}
    (hnode : node = some (.file (.text text))) (hloads : loads reader text = some (.obj payload)) :
    ∃ text' payload', node' = some (.file (.text text')) ∧ loads reader text' = some (.obj payload') ∧
      ∀ key, key ≠ "schema_version" → key ≠ "compatibility" → SameField payload payload' key := by
  induction h with
  | refl => exact ⟨text, payload, hnode, hloads, fun _ _ _ ↦ rfl⟩
  | tail _ hlast ih =>
    obtain ⟨middleText, middle, hmiddle, hmiddleLoads, hsame⟩ := ih
    obtain ⟨lastText, last, name, hlastNode, hlastLoads, rfl⟩ := hlast
    cases hmiddle.symm.trans hlastNode
    cases hmiddleLoads.symm.trans hlastLoads
    refine ⟨_, _, rfl, loads_rewritten hmiddleLoads name, fun key hversion hcompatibility ↦ ?_⟩
    have hback := sameField_readBack (upgradedPayload middle name) key
    rw [SameField, get?_upgradedPayload_of_ne hversion hcompatibility] at hback
    exact hback.trans (hsame key hversion hcompatibility)

theorem Upgrades.holdsObject {place : Place} (h : Upgrades tools.reader files after)
    (hheld : HoldsObject tools files place payload) :
    ∃ other, HoldsObject tools after place other ∧
      ∀ key, key ≠ "schema_version" → key ≠ "compatibility" → SameField payload other key := by
  obtain ⟨text, hfile, hloads⟩ := hheld
  obtain ⟨text', payload', hfile', hloads', hsame⟩ := holds_of_rewritten (h place) hfile hloads
  exact ⟨payload', ⟨text', hfile', hloads'⟩, hsame⟩

theorem eq_none_iff_of_rewritten {reader : FloatReader} {node node' : Option PackNode}
    (h : Relation.ReflTransGen (Rewritten reader) node node') : node' = none ↔ node = none := by
  induction h with
  | refl => rfl
  | tail _ hlast ih =>
    obtain ⟨text, found, name, rfl, -, rfl⟩ := hlast
    rw [← ih]
    exact iff_of_false (Option.some_ne_none _) (Option.some_ne_none _)

theorem regular_recordedJson {entry : Json} (h : Regular tools.reader entry) (target : String) :
    Regular tools.reader (recordedJson target entry) := by
  cases entry with
  | obj fields => exact regular_set h _ trivial
  | _ => exact h

theorem regular_recordedRegistry (h : Regular tools.reader (.obj payload)) (matrix : Fields) (names : List String) :
    Regular tools.reader (.obj (recordedRegistry matrix payload names)) := by
  induction names generalizing payload with
  | nil => exact h
  | cons first rest ih =>
    rw [recordedRegistry, List.foldl_cons, ← recordedRegistry]
    refine ih ?_
    rw [recordSection]
    split
    · rename_i entries target hentries htarget
      split_ifs
      · exact h
      · refine regular_set h _ (regularItems_iff.mpr fun entry hentry ↦ ?_)
        obtain ⟨same, hsame, rfl⟩ := List.mem_map.mp hentry
        exact regular_recordedJson (regular_of_mem_sectionEntries h hentries hsame) target
    · exact h

theorem registryErrors_eq_nil_iff :
    registryErrors payload = [] ↔ getD payload "registry_version" .null = .str "v1" := by
  simp [registryErrors]

/-- The recorded registry keeps its own version. -/
theorem registryErrors_recorded (matrix payload : Fields) :
    registryErrors (readBack (recordedRegistry matrix payload signedSections)) = [] ↔ registryErrors payload = [] := by
  have hversion : getD (readBack (recordedRegistry matrix payload signedSections)) "registry_version" .null =
      canon (getD payload "registry_version" .null) := by
    rw [getD, getD, get?_readBack, get?_recordedRegistry (by decide)]
    cases get? payload "registry_version" <;> rfl
  have hsame : ∀ value, canon value = .str "v1" ↔ value = .str "v1" := by
    intro value
    cases value with
    | arr items =>
      rw [canon]
      exact iff_of_false (by simp) (by simp)
    | obj fields =>
      rw [canon]
      exact iff_of_false (by simp) (by simp)
    | _ => rfl
  rw [registryErrors_eq_nil_iff, registryErrors_eq_nil_iff, hversion, hsame]

section Written

variable [DecidableEq Place]

def withRegistry (tools : PackTools Place) (files : PackFiles Place) (registryPath : String) (recorded : Fields) :
    PackFiles Place :=
  Function.update files (tools.locate registryPath) (some (.file (.text (canonicalJson (.obj recorded)))))

theorem holdsObject_withRegistry (hpayload : HoldsObject tools files (tools.locate registryPath) payload)
    (hmatrix : HoldsObject tools files (tools.locate matrixPath) matrix) (hupgrades : Upgrades tools.reader files after) :
    HoldsObject tools (withRegistry tools after registryPath (recordedRegistry matrix payload signedSections))
        (tools.locate registryPath) (readBack (recordedRegistry matrix payload signedSections)) ∧
      ∃ other, HoldsObject tools
          (withRegistry tools after registryPath (recordedRegistry matrix payload signedSections))
          (tools.locate matrixPath) other ∧ SameMatrix matrix other := by
  obtain ⟨text, -, hloads⟩ := id hpayload
  have hregular := regular_recordedRegistry (regular_loads hloads) matrix signedSections
  -- the registry is written first and the artifacts elsewhere are upgraded then
  obtain ⟨hregistry, middle, hmiddle, hsame⟩ := holdsObject_after_signing hpayload hmatrix hregular
    (fun key hkey ↦ get?_recordedRegistry hkey) rfl
  have hrest : Upgrades tools.reader
      (withRegistry tools files registryPath (recordedRegistry matrix payload signedSections))
      (withRegistry tools after registryPath (recordedRegistry matrix payload signedSections)) := by
    intro place
    by_cases hplace : place = tools.locate registryPath
    · rw [withRegistry, withRegistry, hplace, Function.update_self, Function.update_self]
    · rw [withRegistry, withRegistry, Function.update_of_ne hplace, Function.update_of_ne hplace]
      exact hupgrades place
  obtain ⟨other, hother, hfields⟩ := hrest.holdsObject hmiddle
  refine ⟨⟨_, Function.update_self _ _ _, loads_canonicalJson hregular⟩, other, hother, fun key hkey ↦ ?_⟩
  refine (hfields key ?_ ?_).trans (hsame key hkey)
  · rintro rfl
    revert hkey
    decide
  · rintro rfl
    revert hkey
    decide

/-- A file stands where one stood. -/
theorem withRegistry_eq_none_iff (hpayload : HoldsObject tools files (tools.locate registryPath) payload)
    (hupgrades : Upgrades tools.reader files after) (recorded : Fields) (place : Place) :
    withRegistry tools after registryPath recorded place = none ↔ files place = none := by
  by_cases hplace : place = tools.locate registryPath
  · obtain ⟨text, hfile, -⟩ := hpayload
    rw [withRegistry, hplace, Function.update_self, hfile]
    exact iff_of_false (Option.some_ne_none _) (Option.some_ne_none _)
  · rw [withRegistry, Function.update_of_ne hplace]
    exact eq_none_iff_of_rewritten (hupgrades place)

end Written

def TakesSection (tools : PackTools Place) (files : PackFiles Place) (matrix : Fields) (signingKey keyId : String)
    (payload : Fields) (sectionName : String) : Prop :=
  ∃ entries, sectionEntries payload sectionName = some entries ∧ ∀ entry ∈ entries, ∃ signed,
    signEntry tools files matrix signingKey keyId sectionName entry = .ok ([], signed)

/-- The signer raises nothing at the entries of a section. -/
def PassesSection (tools : PackTools Place) (files : PackFiles Place) (matrix : Fields) (signingKey keyId : String)
    (payload : Fields) (sectionName : String) : Prop :=
  ∀ entries, sectionEntries payload sectionName = some entries → ∀ entry ∈ entries, ∃ result,
    signEntry tools files matrix signingKey keyId sectionName entry = .ok result

theorem takesSection_congr (h : sectionEntries other sectionName = sectionEntries payload sectionName) :
    TakesSection tools files matrix signingKey keyId other sectionName ↔
      TakesSection tools files matrix signingKey keyId payload sectionName := by
  rw [TakesSection, TakesSection, h]

/-- What the signer reports of a section. -/
theorem signSection_errors {progress result : List String × Fields}
    (h : signSection tools files matrix signingKey keyId progress sectionName = .ok result) :
    (∀ key ≠ sectionName, get? result.2 key = get? progress.2 key) ∧
      PassesSection tools files matrix signingKey keyId progress.2 sectionName ∧
      (result.1 = [] ↔ progress.1 = [] ∧ TakesSection tools files matrix signingKey keyId progress.2 sectionName) := by
  rw [signSection] at h
  cases hentries : sectionEntries progress.2 sectionName with
  | none =>
    rw [hentries] at h
    cases h
    refine ⟨fun _ _ ↦ rfl, fun entries hsome ↦ ?_, iff_of_false (by simp) ?_⟩
    · rw [hentries] at hsome
      cases hsome
    · rintro ⟨-, entries, hsome, -⟩
      rw [hentries] at hsome
      cases hsome
  | some entries =>
    simp only [hentries, bind_eq_ok_iff, mapM_eq_ok_iff] at h
    obtain ⟨results, hresults, h⟩ := h
    cases h
    refine ⟨fun key hkey ↦ ?_, fun entries' hsome entry hentry ↦ ?_, ?_⟩
    · dsimp only
      split_ifs
      · rfl
      · exact get?_set_of_ne hkey _ _
    · rw [hentries, Option.some.injEq] at hsome
      subst hsome
      obtain ⟨result, -, hresult⟩ := exists_mem_of_forall₂ hresults hentry
      exact ⟨result, hresult⟩
    · rw [List.append_eq_nil_iff, List.flatMap_eq_nil_iff]
      refine and_congr_right fun _ ↦ ⟨fun hnone ↦ ⟨entries, hentries, fun entry hentry ↦ ?_⟩, ?_⟩
      · obtain ⟨result, hmem, hresult⟩ := exists_mem_of_forall₂ hresults hentry
        exact ⟨result.2, by rw [hresult, ← hnone result hmem]⟩
      · rintro ⟨entries', hsome, htakes⟩ result hmem
        rw [hentries, Option.some.injEq] at hsome
        subst hsome
        obtain ⟨entry, hentry, hresult⟩ := exists_mem_of_forall₂ hresults.flip hmem
        obtain ⟨signed, hsigned⟩ := htakes entry hentry
        cases hresult.symm.trans hsigned
        rfl

/-- The loop of the signer reports no error exactly where it takes every section. -/
theorem foldlM_signSection_errors (hnodup : names.Nodup) {progress result : List String × Fields}
    (h : names.foldlM (signSection tools files matrix signingKey keyId) progress = .ok result) :
    (∀ name ∈ names, PassesSection tools files matrix signingKey keyId progress.2 name) ∧
      (result.1 = [] ↔ progress.1 = [] ∧
        ∀ name ∈ names, TakesSection tools files matrix signingKey keyId progress.2 name) := by
  induction names generalizing progress with
  | nil =>
    cases h
    exact ⟨by simp, by simp⟩
  | cons first rest ih =>
    rw [List.nodup_cons] at hnodup
    rw [List.foldlM_cons, bind_eq_ok_iff] at h
    obtain ⟨middle, hfirst, hrest⟩ := h
    obtain ⟨hkept, hpasses, hnone⟩ := signSection_errors hfirst
    obtain ⟨hpassesRest, hnoneRest⟩ := ih hnodup.2 hrest
    have hsame : ∀ name ∈ rest, sectionEntries middle.2 name = sectionEntries progress.2 name := by
      intro name hname
      refine sectionEntries_congr (hkept name ?_)
      rintro rfl
      exact hnodup.1 hname
    constructor
    · refine List.forall_mem_cons.mpr ⟨hpasses, fun name hname entries hentries ↦ ?_⟩
      exact hpassesRest name hname entries (by rw [hsame name hname, hentries])
    · rw [hnoneRest, hnone, List.forall_mem_cons, and_assoc]
      refine and_congr_right fun _ ↦ and_congr_right fun _ ↦ forall₂_congr fun name hname ↦ ?_
      exact takesSection_congr (hsame name hname)

/-- The signer reports no error exactly where it takes every entry of a registry of its version, under a matrix
without errors. -/
theorem signPackRegistry_errors_iff [DecidableEq Place] {errors : List String}
    (hpayload : HoldsObject tools files (tools.locate registryPath) payload)
    (hmatrix : HoldsObject tools files (tools.locate matrixPath) matrix)
    (h : signPackRegistry tools files registryPath matrixPath signingKey keyId = .ok (errors, after)) :
    (∀ name ∈ signedSections, PassesSection tools files matrix signingKey keyId payload name) ∧
      (errors = [] ↔ registryErrors payload = [] ∧ SoundMatrix matrix ∧
        ∀ name ∈ signedSections, TakesSection tools files matrix signingKey keyId payload name) := by
  rw [signPackRegistry, loadRegistry, loadObject_eq_some_iff.mpr ⟨hpayload, rfl⟩, ok_bind] at h
  dsimp only at h
  rw [loadCompatibilityMatrix, loadObject_eq_some_iff.mpr ⟨hmatrix, rfl⟩, ok_bind] at h
  simp only [bind_eq_ok_iff] at h
  obtain ⟨result, hfold, h⟩ := h
  obtain ⟨hpasses, hnone⟩ := foldlM_signSection_errors (by decide) hfold
  refine ⟨hpasses, ?_⟩
  have herrors : errors = result.1 := by
    split_ifs at h with hany
    · cases h
      rfl
    · cases h
      exact (not_not.mp hany).symm
  rw [herrors, hnone, List.append_eq_nil_iff, matrixErrors_eq_nil_iff, and_assoc]

theorem SoundMatrix.current_supported (h : SoundMatrix matrix) {version current : String}
    (hcurrent : sectionCurrentVersion matrix sectionName = .ok current)
    (hsupported : versionSupported matrix sectionName version = .ok true) :
    versionSupported matrix sectionName current = .ok true := by
  obtain ⟨found, -, hfound, -, -, -, hcases⟩ := h.exists_section (fun _ _ ↦ rfl) sectionName
  rw [sectionCurrentVersion, hfound, ok_bind] at hcurrent
  rw [versionSupported, hfound, ok_bind] at hsupported ⊢
  dsimp only at hcurrent hsupported ⊢
  rcases hcases with rfl | ⟨supported, hsection⟩
  · cases hsupported
  · have hne : strippedText found "current_schema_version" "" ≠ "" := by
      intro hempty
      have hversion := hsection.current
      rw [hempty] at hversion
      cases hversion
    rw [if_neg hne, Except.ok.injEq] at hcurrent
    rw [getD, hsection.supported_eq, Option.getD_some, ← hcurrent]
    exact congrArg _ (decide_eq_true hsection.current_mem)

theorem EntriesPass.forall_mem [DecidableEq Place]
    (h : EntriesPass tools matrix sectionName target files entries after) :
    ∀ entry ∈ entries, ∃ fields version, entry = .obj fields ∧
      versionSupported matrix sectionName version = .ok true := by
  induction h with
  | nil files => simp
  | upToDate hentry _ ih =>
    obtain ⟨found, -, -, hsupported⟩ := hentry
    exact List.forall_mem_cons.mpr ⟨⟨_, _, rfl, hsupported⟩, ih⟩
  | migrates hentry _ ih =>
    obtain ⟨found, -, -, -, hsupported, -⟩ := hentry
    exact List.forall_mem_cons.mpr ⟨⟨_, _, rfl, hsupported⟩, ih⟩

theorem SectionsPass.forall_mem [DecidableEq Place] (hsound : SoundMatrix matrix)
    (h : SectionsPass tools matrix payload files names after) :
    ∀ name ∈ names, ∃ entries target, sectionEntries payload name = some entries ∧
      sectionCurrentVersion matrix name = .ok target ∧
      ∀ entry ∈ entries, ∃ fields, entry = .obj fields ∧ versionSupported matrix name target = .ok true := by
  induction h with
  | nil files => simp
  | cons hentries htarget hpass _ ih =>
    refine List.forall_mem_cons.mpr ⟨⟨_, _, hentries, htarget, fun entry hentry ↦ ?_⟩, ih⟩
    obtain ⟨fields, version, rfl, hsupported⟩ := hpass.forall_mem entry hentry
    exact ⟨fields, rfl, hsound.current_supported htarget hsupported⟩

def recordedFields (target : String) (fields : Fields) : Fields :=
  readBack (set fields "schema_version" (.str target))

theorem canon_recordedJson (target : String) (fields : Fields) :
    canon (recordedJson target (.obj fields)) = .obj (recordedFields target fields) :=
  canon_obj _

theorem extractEntryFields_recordedFields (target : String) (fields : Fields) :
    extractEntryFields (recordedFields target fields) = extractEntryFields (readBack fields) := by
  have htext : ∀ key ≠ "schema_version",
      strippedText (recordedFields target fields) key "" = strippedText (readBack fields) key "" := by
    intro key hkey
    rw [strippedText, strippedText, getD, getD, recordedFields, get?_readBack, get?_readBack, get?_set_of_ne hkey]
  rw [extractEntryFields, extractEntryFields, htext _ (by decide), htext _ (by decide), htext _ (by decide)]

theorem strippedText_recordedFields (target : String) (fields : Fields) :
    strippedText (recordedFields target fields) "schema_version" "" = strip target :=
  strippedText_readBack "" (get?_set_self _ _ _)

/-- A recorded entry keeps its version. -/
theorem inferSchemaVersion_recordedFields (hversion : target ≠ "" ∧ strip target = target) (path default : String) :
    inferSchemaVersion tools files (recordedFields target fields) path default = .ok target := by
  rw [inferSchemaVersion, strippedText_recordedFields, hversion.2]
  exact if_pos hversion.1

/-- Where the signer raises nothing at a recorded entry, it takes the entry exactly where its texts are there and its
artifact stands. -/
theorem signEntry_recordedFields_iff (hversion : target ≠ "" ∧ strip target = target)
    (hsupported : versionSupported matrix sectionName target = .ok true)
    (hpasses : ∃ result, signEntry tools files matrix signingKey keyId sectionName
      (.obj (recordedFields target fields)) = .ok result) :
    (∃ signed, signEntry tools files matrix signingKey keyId sectionName (.obj (recordedFields target fields)) =
        .ok ([], signed)) ↔
      (extractEntryFields (readBack fields)).errors = [] ∧
        files (tools.locate (extractEntryFields (readBack fields)).path) ≠ none := by
  rw [← extractEntryFields_recordedFields target]
  constructor
  · rintro ⟨signed, hsigned⟩
    obtain ⟨raw, reading, hraw, hsignable, -⟩ := signEntry_eq_ok_iff.mp hsigned
    cases hraw
    obtain ⟨hpackId, hversionText, hpath, -, hcontent⟩ := packReading_eq_ok_iff.mp hsignable.reading_eq
    have hpathEq : (extractEntryFields (recordedFields target fields)).path = reading.path := hpath.symm
    refine ⟨extractEntryFields_errors_eq_nil_iff.mpr ?_, hpathEq ▸ ne_none_of_artifactContent hcontent⟩
    rw [← hpackId, ← hversionText, ← hpath]
    exact ⟨hsignable.packId_ne, hsignable.version_ne, hsignable.path_ne⟩
  · rintro ⟨herrors, hartifact⟩
    obtain ⟨result, hresult⟩ := hpasses
    have hok := hresult
    rw [signEntry] at hresult
    dsimp only at hresult
    rw [if_neg (not_not.mpr herrors), if_neg hartifact] at hresult
    simp only [bind_eq_ok_iff] at hresult
    obtain ⟨current, -, schemaVersion, hinfer, supported, hfound, hresult⟩ := hresult
    rw [inferSchemaVersion_recordedFields hversion, Except.ok.injEq] at hinfer
    subst hinfer
    rw [hsupported, Except.ok.injEq] at hfound
    subst hfound
    rw [if_neg (by decide)] at hresult
    simp only [bind_eq_ok_iff] at hresult
    obtain ⟨value, -, hresult⟩ := hresult
    cases hresult
    exact ⟨_, hok⟩

end SchemaPilot.Tools
