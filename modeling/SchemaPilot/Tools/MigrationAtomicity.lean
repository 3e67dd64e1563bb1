import SchemaPilot.Tools.MigratedRegistry

/-!
# Migrations all or nothing

`migrate_registry_packs` writes an artifact as soon as its entry is migrated, so a later entry that fails leaves the
artifacts of the ones before behind, and the registry is written before it is signed. A migration with errors leaves
the files as they were exactly under `WritesAllOrNothing`, while one without errors always leaves every entry at the
current version and nothing to migrate (`allOrNothing_iff`).
-/

namespace SchemaPilot.Tools

open Library Library.Text Library.Json SharedDomain

variable {Place : Type} [DecidableEq Place]

section Claims

variable (tools : PackTools Place) (files : PackFiles Place) (registryPath matrixPath : String)

/-- Every entry of the signed sections is recorded at the current version of its section. -/
def Recorded : Prop :=
  ∃ payload matrix, HoldsObject tools files (tools.locate registryPath) payload ∧
    HoldsObject tools files (tools.locate matrixPath) matrix ∧
    ∀ sectionName ∈ signedSections, ∃ entries current, sectionEntries payload sectionName = some entries ∧
      sectionCurrentVersion matrix sectionName = .ok current ∧
      ∀ entry ∈ entries, ∃ fields, entry = .obj fields ∧ get? fields "schema_version" = some (.str current)

/-- A migration that returns reports nothing as migrated and leaves the artifacts alone. -/
def MigratesNothing (signingKey keyId : String) : Prop :=
  ∀ outcome, migrateRegistryPacks tools true files registryPath matrixPath signingKey keyId = .ok outcome →
    (∀ item ∈ outcome.report, item.status ≠ "migrated") ∧
      ∀ place ≠ tools.locate registryPath, outcome.files place = files place

/-- With an error nothing has changed, and without one the migration is complete. -/
def AllOrNothing (signingKey keyId : String) (outcome : Outcome Place) : Prop :=
  (outcome.errors ≠ [] → outcome.files = files) ∧
    (outcome.errors = [] → Recorded tools outcome.files registryPath matrixPath ∧
      MigratesNothing tools outcome.files registryPath matrixPath signingKey keyId)

/-- Every entry of the signed sections passes when its turn comes, under a matrix without errors. -/
def PassesInTurn (payload matrix : Fields) : Prop :=
  SoundMatrix matrix ∧ ∃ after, SectionsPass tools matrix payload files signedSections after

/-- The signer takes the registry once its entries are recorded: its version is known, and what is read back of an
entry has a pack id, a version, and the path of a file. -/
def Signs (payload : Fields) : Prop :=
  registryErrors payload = [] ∧ ∀ sectionName ∈ signedSections, ∀ entries,
    sectionEntries payload sectionName = some entries → ∀ fields, .obj fields ∈ entries →
      (extractEntryFields (readBack fields)).errors = [] ∧
        files (tools.locate (extractEntryFields (readBack fields)).path) ≠ none

def RegistryStands (payload matrix : Fields) : Prop :=
  files (tools.locate registryPath) =
    some (.file (.text (canonicalJson (.obj (recordedRegistry matrix payload signedSections)))))

/-- No migration changes an artifact where an entry fails; where all pass, the signer takes the registry, or nothing
that is written is new. -/
def WritesAllOrNothing : Prop :=
  ∀ payload matrix, HoldsObject tools files (tools.locate registryPath) payload →
    HoldsObject tools files (tools.locate matrixPath) matrix →
    (¬PassesInTurn tools files payload matrix →
      ∀ place, QuietAt tools files matrix payload signedSections place) ∧
    (PassesInTurn tools files payload matrix → Signs tools files payload ∨
      RegistryStands tools files registryPath payload matrix ∧
        ∀ place ≠ tools.locate registryPath, QuietAt tools files matrix payload signedSections place)

end Claims

variable {tools : PackTools Place} {files after written : PackFiles Place} {payload matrix other : Fields}
  {registryPath matrixPath signingKey keyId sectionName target : String} {outcome : Outcome Place}

theorem migrateRegistryPacks_cases
    (h : migrateRegistryPacks tools true files registryPath matrixPath signingKey keyId = .ok outcome) :
    (outcome.errors ≠ [] ∧ outcome.report = [] ∧ outcome.files = files ∧
      ∀ payload matrix, HoldsObject tools files (tools.locate registryPath) payload →
        ¬HoldsObject tools files (tools.locate matrixPath) matrix) ∨
    ∃ payload matrix recorded loop, HoldsObject tools files (tools.locate registryPath) payload ∧
      HoldsObject tools files (tools.locate matrixPath) matrix ∧
      migrateSections tools true matrix payload files signedSections = .ok (recorded, loop) ∧
      outcome.report = loop.report ∧
      (((matrixErrors matrix ++ loop.errors ≠ []) ∧ outcome.errors ≠ [] ∧ outcome.files = loop.files) ∨
        matrixErrors matrix = [] ∧ loop.errors = [] ∧
          signPackRegistry tools (withRegistry tools loop.files registryPath recorded) registryPath matrixPath
            signingKey keyId = .ok (outcome.errors, outcome.files)) := by
  simp only [migrateRegistryPacks, bind_eq_ok_iff] at h
  obtain ⟨⟨matrix?, errors⟩, hmatrix, h⟩ := h
  dsimp only at h
  cases matrix? with
  | none =>
    cases h
    refine Or.inl ⟨loadObject_none_errors hmatrix, rfl, rfl, fun payload matrix _ hheld ↦ ?_⟩
    rw [loadCompatibilityMatrix, loadObject_eq_some_iff.mpr ⟨hheld, rfl⟩] at hmatrix
    cases hmatrix
  | some matrix =>
    obtain ⟨hmatrixHeld, rfl⟩ := loadObject_eq_some_iff.mp hmatrix
    simp only [bind_eq_ok_iff] at h
    obtain ⟨⟨payload?, moreErrors⟩, hpayload, h⟩ := h
    dsimp only at h
    cases payload? with
    | none =>
      cases h
      refine Or.inl ⟨List.append_ne_nil_of_right_ne_nil _ (loadObject_none_errors hpayload), rfl, rfl,
        fun payload matrix hheld _ ↦ ?_⟩
      rw [loadObject_eq_some_iff.mpr ⟨hheld, rfl⟩] at hpayload
      cases hpayload
    | some payload =>
      obtain ⟨hpayloadHeld, -⟩ := loadObject_eq_some_iff.mp hpayload
      simp only [bind_eq_ok_iff] at h
      obtain ⟨⟨recorded, loop⟩, hloop, h⟩ := h
      dsimp only at h
      refine Or.inr ⟨payload, matrix, recorded, loop, hpayloadHeld, hmatrixHeld, hloop, ?_⟩
      by_cases herrors : matrixErrors matrix ++ loop.errors = []
      · have hwrites : ¬(matrixErrors matrix ++ loop.errors ≠ [] ∨ true = false) := by
          rintro (hany | hwrite)
          · exact hany herrors
          · cases hwrite
        rw [if_neg hwrites] at h
        simp only [bind_eq_ok_iff] at h
        obtain ⟨⟨signErrors, signed⟩, hsigned, h⟩ := h
        cases h
        rw [List.append_eq_nil_iff] at herrors
        exact ⟨rfl, Or.inr ⟨herrors.1, herrors.2, hsigned⟩⟩
      · rw [if_pos (Or.inl herrors)] at h
        cases h
        exact ⟨rfl, Or.inl ⟨herrors, herrors, rfl⟩⟩

/-- A signer that reports an error has written nothing, and otherwise the registry alone. -/
theorem signPackRegistry_files {errors : List String}
    (h : signPackRegistry tools files registryPath matrixPath signingKey keyId = .ok (errors, after)) :
    (errors ≠ [] → after = files) ∧ ∀ place ≠ tools.locate registryPath, after place = files place := by
  simp only [signPackRegistry, bind_eq_ok_iff] at h
  obtain ⟨⟨payload?, payloadErrors⟩, -, ⟨matrix?, moreErrors⟩, -, h⟩ := h
  dsimp only at h
  cases payload? with
  | none =>
    cases h
    exact ⟨fun _ ↦ rfl, fun _ _ ↦ rfl⟩
  | some payload =>
    cases matrix? with
    | none =>
      cases h
      exact ⟨fun _ ↦ rfl, fun _ _ ↦ rfl⟩
    | some matrix =>
      simp only [bind_eq_ok_iff] at h
      obtain ⟨⟨all, signed⟩, -, h⟩ := h
      dsimp only at h
      split_ifs at h
      · cases h
        exact ⟨fun _ ↦ rfl, fun _ _ ↦ rfl⟩
      · cases h
        exact ⟨fun hnone ↦ absurd rfl hnone, fun place hplace ↦ Function.update_of_ne hplace _ _⟩

omit [DecidableEq Place] in
/-- An entry recorded at the current version is not migrated. -/
theorem not_migrates_of_recorded {fields : Fields} {text : String} (hstrip : strip target = target)
    (hversion : get? fields "schema_version" = some (.str target)) :
    ¬Migrates tools files matrix sectionName target fields text := by
  rintro ⟨artifact, -, hsource, rfl, -⟩
  have hown : sourceVersion fields artifact = "v2" := by
    rw [sourceVersion, getD, hversion]
    change (if strip "v2" = "" then "v1" else strip "v2") = "v2"
    rw [hstrip, if_neg (by decide)]
  exact absurd (hown.symm.trans hsource) (by decide)

/-- A loop over entries none of which is migrated leaves the files and reports no migration. -/
theorem migrateEntries_of_not_migrates {entries migrated : List Json}
    (hnone : ∀ files fields text, .obj fields ∈ entries →
      ¬Migrates tools files matrix sectionName target fields text)
    (h : migrateEntries tools true matrix sectionName target files entries = .ok (migrated, outcome)) :
    outcome.files = files ∧ ∀ item ∈ outcome.report, item.status ≠ "migrated" := by
  induction entries generalizing files migrated outcome with
  | nil =>
    cases h
    exact ⟨rfl, fun _ hitem ↦ absurd hitem List.not_mem_nil⟩
  | cons entry rest ih =>
    simp only [migrateEntries, bind_eq_ok_iff] at h
    obtain ⟨⟨changed, first⟩, hfirst, ⟨others, last⟩, hlast, h⟩ := h
    cases h
    obtain ⟨hrest, hreport⟩ := ih (fun files fields text hmem ↦ hnone files fields text (List.mem_cons_of_mem _ hmem)) hlast
    have hentry : first.files = files ∧ ∀ item ∈ first.report, item.status ≠ "migrated" := by
      rcases migrateEntry_cases hfirst with ⟨-, hreportFirst, hfiles, -⟩ | ⟨fields, rfl, hpass⟩ | ⟨fields, text, rfl, hpass⟩
      · exact ⟨hfiles, by rw [hreportFirst]; simp⟩
      · obtain ⟨item, hstatus, hok⟩ := migrateEntry_of_upToDate hpass
        cases hok.symm.trans hfirst
        exact ⟨rfl, by rw [List.forall_mem_singleton, hstatus]; decide⟩
      · exact absurd hpass (hnone _ _ _ List.mem_cons_self)
    exact ⟨hrest.trans hentry.1, List.forall_mem_append.mpr ⟨hentry.2, hreport⟩⟩

theorem migrateSections_of_not_migrates {names : List String} (hnodup : names.Nodup) {recorded : Fields}
    (hnone : ∀ sectionName ∈ names, ∀ entries target, sectionEntries payload sectionName = some entries →
      sectionCurrentVersion matrix sectionName = .ok target → ∀ files fields text, .obj fields ∈ entries →
        ¬Migrates tools files matrix sectionName target fields text)
    (h : migrateSections tools true matrix payload files names = .ok (recorded, outcome)) :
    outcome.files = files ∧ ∀ item ∈ outcome.report, item.status ≠ "migrated" := by
  induction names generalizing payload files recorded outcome with
  | nil =>
    cases h
    exact ⟨rfl, fun _ hitem ↦ absurd hitem List.not_mem_nil⟩
  | cons name rest ih =>
    rw [List.nodup_cons] at hnodup
    simp only [migrateSections, bind_eq_ok_iff] at h
    obtain ⟨⟨middle, first⟩, hfirst, ⟨others, last⟩, hlast, h⟩ := h
    cases h
    obtain ⟨hrest, hreport⟩ := ih hnodup.2 (fun later hlater entries target hentries htarget ↦ by
      refine hnone later (List.mem_cons_of_mem _ hlater) entries target ?_ htarget
      rw [← sectionEntries_congr (get?_migrateSection hfirst ?_), hentries]
      rintro rfl
      exact hnodup.1 hlater) hlast
    have hsection : first.files = files ∧ ∀ item ∈ first.report, item.status ≠ "migrated" := by
      rw [migrateSection] at hfirst
      cases hentries : sectionEntries payload name with
      | none =>
        rw [hentries] at hfirst
        cases hfirst
        exact ⟨rfl, fun _ hitem ↦ absurd hitem List.not_mem_nil⟩
      | some entries =>
        rw [hentries] at hfirst
        simp only [bind_eq_ok_iff] at hfirst
        obtain ⟨target, htarget, ⟨migrated, loop⟩, hmigrated, hfirst⟩ := hfirst
        cases hfirst
        exact migrateEntries_of_not_migrates (hnone name List.mem_cons_self entries target hentries htarget) hmigrated
    exact ⟨hrest.trans hsection.1, List.forall_mem_append.mpr ⟨hsection.2, hreport⟩⟩

/-- A registry at the current versions has nothing to migrate. -/
theorem migratesNothing_of_recorded (h : Recorded tools files registryPath matrixPath) (signingKey keyId : String) :
    MigratesNothing tools files registryPath matrixPath signingKey keyId := by
  obtain ⟨payload, matrix, hpayload, hmatrix, hrecorded⟩ := h
  intro outcome hok
  rcases migrateRegistryPacks_cases hok with
    ⟨-, hreport, hfiles, -⟩ | ⟨payload', matrix', recorded, loop, hpayload', hmatrix', hloop, hreport, hend⟩
  · exact ⟨by rw [hreport]; simp, fun _ _ ↦ by rw [hfiles]⟩
  · obtain rfl := hpayload.unique hpayload'
    obtain rfl := hmatrix.unique hmatrix'
    obtain ⟨hloopFiles, hloopReport⟩ := migrateSections_of_not_migrates (by decide) (by
      intro sectionName hsigned entries target hentries htarget files fields text hmem
      obtain ⟨entries', current, hentries', hcurrent, hall⟩ := hrecorded sectionName hsigned
      rw [hentries, Option.some.injEq] at hentries'
      rw [htarget, Except.ok.injEq] at hcurrent
      subst hentries' hcurrent
      obtain ⟨found, hfound, hversion⟩ := hall _ hmem
      cases hfound
      exact not_migrates_of_recorded (sectionCurrentVersion_spec htarget).2 hversion) hloop
    refine ⟨by rw [hreport]; exact hloopReport, fun place hplace ↦ ?_⟩
    rcases hend with ⟨-, -, hfiles⟩ | ⟨-, -, hsigned⟩
    · rw [hfiles, hloopFiles]
    · rw [(signPackRegistry_files hsigned).2 place hplace, withRegistry, Function.update_of_ne hplace, hloopFiles]

theorem sectionEntries_handedOver (hsigned : sectionName ∈ signedSections) {entries : List Json}
    (hentries : sectionEntries payload sectionName = some entries)
    (htarget : sectionCurrentVersion matrix sectionName = .ok target) :
    sectionEntries (readBack (recordedRegistry matrix payload signedSections)) sectionName =
      some (entries.map fun entry ↦ canon (recordedJson target entry)) := by
  rw [sectionEntries_readBack (sectionEntries_recordedRegistry (by decide) hsigned hentries htarget), List.map_map]
  rfl

/-- The signer takes the registry it is handed exactly under `Signs`. -/
theorem takesSections_iff_signs (hsound : SoundMatrix matrix) (hsame : SameMatrix matrix other)
    (hpass : SectionsPass tools matrix payload files signedSections after)
    (hfiles : ∀ place, written place = none ↔ files place = none)
    (hpasses : ∀ name ∈ signedSections, PassesSection tools written other signingKey keyId
      (readBack (recordedRegistry matrix payload signedSections)) name) :
    (registryErrors (readBack (recordedRegistry matrix payload signedSections)) = [] ∧ SoundMatrix other ∧
        ∀ name ∈ signedSections, TakesSection tools written other signingKey keyId
          (readBack (recordedRegistry matrix payload signedSections)) name) ↔ Signs tools files payload := by
  rw [registryErrors_recorded, and_iff_right (hsound.of_same hsame), Signs]
  refine and_congr_right fun _ ↦ forall₂_congr fun name hname ↦ ?_
  obtain ⟨entries, target, hentries, htarget, hall⟩ := hpass.forall_mem hsound name hname
  have hover := sectionEntries_handedOver hname hentries htarget
  have hentry : ∀ fields, .obj fields ∈ entries →
      ((∃ signed, signEntry tools written other signingKey keyId name (.obj (recordedFields target fields)) =
          .ok ([], signed)) ↔
        (extractEntryFields (readBack fields)).errors = [] ∧
          files (tools.locate (extractEntryFields (readBack fields)).path) ≠ none) := by
    intro fields hmem
    obtain ⟨found, hfound, hsupported⟩ := hall _ hmem
    rw [Ne, ← hfiles]
    refine signEntry_recordedFields_iff (sectionCurrentVersion_spec htarget) ?_
      (hpasses name hname _ hover _ (List.mem_map.mpr ⟨_, hmem, canon_recordedJson target fields⟩))
    rw [hsound.versionSupported_eq hsame, hsupported]
  constructor
  · rintro ⟨given, hgiven, htakes⟩ entries' hentries' fields hmem
    rw [hentries, Option.some.injEq] at hentries'
    subst hentries'
    rw [hover, Option.some.injEq] at hgiven
    subst hgiven
    exact (hentry fields hmem).mp (htakes _ (List.mem_map.mpr ⟨_, hmem, canon_recordedJson target fields⟩))
  · intro hsigns
    refine ⟨_, hover, fun entry hgiven ↦ ?_⟩
    obtain ⟨same, hmem, rfl⟩ := List.mem_map.mp hgiven
    obtain ⟨fields, rfl, -⟩ := hall same hmem
    rw [canon_recordedJson]
    exact (hentry fields hmem).mpr (hsigns entries hentries fields hmem)

/-- A registry that was migrated and signed is recorded at the current versions. -/
theorem recorded_of_signed (hsound : SoundMatrix matrix) (hsame : SameMatrix matrix other)
    (hpass : SectionsPass tools matrix payload files signedSections after)
    (hregistry : HoldsObject tools written (tools.locate registryPath)
      (readBack (recordedRegistry matrix payload signedSections)))
    (hmatrix : HoldsObject tools written (tools.locate matrixPath) other) {signedFiles : PackFiles Place}
    (h : signPackRegistry tools written registryPath matrixPath signingKey keyId = .ok ([], signedFiles)) :
    Recorded tools signedFiles registryPath matrixPath := by
  obtain ⟨payload', matrix', signed, hpayload', -, hmatrix', -, hfold, hafter⟩ := signPackRegistry_spec h
  obtain rfl := hregistry.unique hpayload'
  obtain rfl := hmatrix.unique hmatrix'
  obtain ⟨-, hkept, hsections, hregular⟩ := foldlM_signSection (by decide) hfold
  obtain ⟨text, -, hloads⟩ := id hpayload'
  obtain ⟨hsignedHeld, last, hlast, hsameLast⟩ :=
    holdsObject_after_signing hpayload' hmatrix' (hregular (regular_loads hloads)) hkept hafter
  refine ⟨_, last, hsignedHeld, hlast, fun name hname ↦ ?_⟩
  obtain ⟨entries, target, hentries, htarget, hall⟩ := hpass.forall_mem hsound name hname
  obtain ⟨given, later, hgiven, hlater, hforall⟩ := forall₂_signedAs (hsections name hname)
  rw [sectionEntries_handedOver hname hentries htarget, Option.some.injEq] at hgiven
  subst hgiven
  refine ⟨later, target, hlater, ?_, fun entry hentry ↦ ?_⟩
  · rw [(hsound.of_same hsame).sectionCurrentVersion_eq hsameLast, hsound.sectionCurrentVersion_eq hsame, htarget]
  · obtain ⟨before, hbefore, raw, reading, hraw, hsignable, rfl⟩ := exists_mem_of_forall₂ hforall.flip hentry
    obtain ⟨same, hmem, rfl⟩ := List.mem_map.mp hbefore
    obtain ⟨fields, rfl, -⟩ := hall same hmem
    rw [canon_recordedJson] at hraw
    cases hraw
    obtain ⟨-, -, -, ⟨current, -, hinfer⟩, -⟩ := packReading_eq_ok_iff.mp hsignable.reading_eq
    rw [inferSchemaVersion_recordedFields (sectionCurrentVersion_spec htarget), Except.ok.injEq] at hinfer
    subst hinfer
    refine ⟨_, rfl, get?_readBack_str ?_⟩
    rw [signedFields, get?_set_of_ne (by decide), get?_set_self]

/-- The files of a run whose entries do not all pass are those of before exactly where its migrations are quiet. -/
theorem migrateSections_files_iff {recorded : Fields}
    (h : migrateSections tools true matrix payload files signedSections = .ok (recorded, outcome)) :
    outcome.files = files ↔ ∀ place, QuietAt tools files matrix payload signedSections place := by
  rw [funext_iff]
  exact forall_congr' fun place ↦ migrateSections_unchanged_iff (by decide) h place

/-- The registry is written as it stood, and the artifacts as they stood. -/
theorem withRegistry_eq_iff {recorded : Fields} {loop : Outcome Place}
    (h : migrateSections tools true matrix payload files signedSections = .ok (recorded, loop))
    (hrecorded : recorded = recordedRegistry matrix payload signedSections) :
    withRegistry tools loop.files registryPath recorded = files ↔
      RegistryStands tools files registryPath payload matrix ∧
        ∀ place ≠ tools.locate registryPath, QuietAt tools files matrix payload signedSections place := by
  rw [withRegistry, hrecorded, Function.update_eq_iff, RegistryStands]
  refine and_congr eq_comm (forall₂_congr fun place _ ↦ ?_)
  exact migrateSections_unchanged_iff (by decide) h place

/-- A migration is all or nothing exactly under `WritesAllOrNothing`. -/
theorem allOrNothing_iff
    (h : migrateRegistryPacks tools true files registryPath matrixPath signingKey keyId = .ok outcome) :
    AllOrNothing tools files registryPath matrixPath signingKey keyId outcome ↔
      WritesAllOrNothing tools files registryPath matrixPath := by
  rcases migrateRegistryPacks_cases h with
    ⟨herrors, -, hfiles, hnone⟩ | ⟨payload, matrix, recorded, loop, hpayload, hmatrix, hloop, -, hend⟩
  · exact iff_of_true ⟨fun _ ↦ hfiles, fun hempty ↦ absurd hempty herrors⟩
      fun payload matrix hpayload hmatrix ↦ absurd hmatrix (hnone payload matrix hpayload)
  -- the condition is about the registry and the matrix that were read
  have hread : WritesAllOrNothing tools files registryPath matrixPath ↔
      (¬PassesInTurn tools files payload matrix →
        ∀ place, QuietAt tools files matrix payload signedSections place) ∧
      (PassesInTurn tools files payload matrix → Signs tools files payload ∨
        RegistryStands tools files registryPath payload matrix ∧
          ∀ place ≠ tools.locate registryPath, QuietAt tools files matrix payload signedSections place) := by
    constructor
    · exact fun hwrites ↦ hwrites payload matrix hpayload hmatrix
    · intro hwrites payload' matrix' hpayload' hmatrix'
      obtain rfl := hpayload.unique hpayload'
      obtain rfl := hmatrix.unique hmatrix'
      exact hwrites
  rw [hread]
  have hloopErrors := migrateSections_iff (by decide) hloop
  rcases hend with ⟨hany, herrors, hfiles⟩ | ⟨hsound, hnone, hsigned⟩
  · have hfails : ¬PassesInTurn tools files payload matrix := by
      rintro ⟨hsound, after, hpass⟩
      obtain ⟨report, hok⟩ := hpass.migrateSections_eq (by decide)
      cases hok.symm.trans hloop
      exact hany (by rw [matrixErrors_eq_nil_iff.mpr hsound, List.nil_append])
    rw [AllOrNothing, and_iff_left fun hempty ↦ absurd hempty herrors,
      and_iff_left fun hpass ↦ absurd hpass hfails, hfiles, imp_iff_right herrors, imp_iff_right hfails]
    exact migrateSections_files_iff hloop
  · rw [matrixErrors_eq_nil_iff] at hsound
    obtain ⟨after, hpass, rfl, hafter⟩ := hloopErrors.mp hnone
    have hpassesInTurn : PassesInTurn tools files payload matrix := ⟨hsound, after, hpass⟩
    obtain ⟨hregistry, other, hother, hsame⟩ := holdsObject_withRegistry hpayload hmatrix (upgrades_sections hloop)
    obtain ⟨hpasses, herrors⟩ := signPackRegistry_errors_iff hregistry hother hsigned
    rw [takesSections_iff_signs hsound hsame hpass
      (withRegistry_eq_none_iff hpayload (upgrades_sections hloop) _) hpasses] at herrors
    rw [and_iff_right fun hfails ↦ absurd hpassesInTurn hfails, imp_iff_right hpassesInTurn, ← herrors,
      ← withRegistry_eq_iff hloop rfl]
    by_cases hempty : outcome.errors = []
    · rw [hempty] at hsigned
      have hrecorded := recorded_of_signed hsound hsame hpass hregistry hother hsigned
      exact iff_of_true ⟨fun hany ↦ absurd hempty hany,
        fun _ ↦ ⟨hrecorded, migratesNothing_of_recorded hrecorded signingKey keyId⟩⟩ (Or.inl hempty)
    · rw [AllOrNothing, and_iff_left fun hnone ↦ absurd hnone hempty, imp_iff_right hempty, or_iff_right hempty,
        (signPackRegistry_files hsigned).1 hempty]

/-- A matrix that leads to the second version. -/
def migrationMatrix : Fields :=
  [("matrix_version", .str "v1"), ("migrations", .arr [.obj [("from_schema_version", .str "v1"),
    ("section", .str "policy_packs"), ("to_schema_version", .str "v2")]]), ("sections", .obj [("policy_packs",
    .obj [("current_schema_version", .str "v2"),
      ("supported_schema_versions", .arr [.str "v1", .str "v2"])])])]

def migrationEntry (packId : String) : Fields :=
  [("pack_id", .str packId), ("path", .str ("packs/" ++ packId ++ ".json")), ("version", .str "1.0.0")]

def migrationRegistry (packIds : List String) : Fields :=
  [("policy_packs", .arr (packIds.map fun packId ↦ .obj (migrationEntry packId))), ("registry_version", .str "v1")]

/-- The artifact of `p1` stands, and no other. -/
def migrationFiles (packIds : List String) : PackFiles String := fun place ↦
  if place = "registry.json" then some (.file (.text (canonicalJson (.obj (migrationRegistry packIds)))))
  else if place = "matrix.json" then some (.file (.text (canonicalJson (.obj migrationMatrix))))
  else if place = "packs/p1.json" then some (.file (.text (canonicalJson (.obj []))))
  else none

theorem holdsObject_migrationRegistry (packIds : List String) :
    HoldsObject exampleTools (migrationFiles packIds) "registry.json" (readBack (migrationRegistry packIds)) := by
  have hentries : RegularItems textReader (packIds.map fun packId ↦ .obj (migrationEntry packId)) := by
    refine regularItems_iff.mpr fun entry hentry ↦ ?_
    obtain ⟨packId, -, rfl⟩ := List.mem_map.mp hentry
    simp [Regular, RegularFields, migrationEntry]
  refine ⟨_, rfl, loads_canonicalJson ?_⟩
  have hkeys : ["policy_packs", "registry_version"].Nodup := by decide
  exact ⟨hkeys, hentries, trivial, trivial⟩

theorem holdsObject_migrationMatrix (packIds : List String) :
    HoldsObject exampleTools (migrationFiles packIds) "matrix.json" (readBack migrationMatrix) := by
  refine ⟨_, rfl, loads_canonicalJson ?_⟩
  simp [Regular, RegularFields, RegularItems, migrationMatrix]

theorem entries_migrationRegistry (packIds : List String) :
    sectionEntries (readBack (migrationRegistry packIds)) "policy_packs" =
      some (packIds.map fun packId ↦ .obj (readBack (migrationEntry packId))) := by
  have hentries : sectionEntries (migrationRegistry packIds) "policy_packs" =
      some (packIds.map fun packId ↦ .obj (migrationEntry packId)) := rfl
  rw [sectionEntries_readBack hentries, List.map_map]
  simp only [Function.comp_def, canon_obj]

theorem migrateSection_nil (hentries : sectionEntries payload sectionName = some [])
    (htarget : sectionCurrentVersion matrix sectionName = .ok target) :
    migrateSection tools true matrix payload files sectionName = .ok (payload, ⟨[], [], files⟩) := by
  rw [migrateSection, hentries]
  dsimp only
  rw [htarget, ok_bind]
  rfl

theorem mem_migrationRegistry {packIds : List String} {fields : Fields} (hsigned : sectionName ∈ signedSections)
    {entries : List Json} (hentries : sectionEntries (readBack (migrationRegistry packIds)) sectionName = some entries)
    (hmem : .obj fields ∈ entries) : ∃ packId ∈ packIds, readBack (migrationEntry packId) = fields := by
  have hothers : ∀ name ∈ signedSections, name ≠ "policy_packs" →
      sectionEntries (migrationRegistry packIds) name = some [] := by
    simp only [signedSections, List.forall_mem_cons]
    exact ⟨fun hne ↦ absurd rfl hne, fun _ ↦ rfl, fun _ ↦ rfl, by simp⟩
  by_cases hsection : sectionName = "policy_packs"
  · rw [hsection, entries_migrationRegistry, Option.some.injEq] at hentries
    subst hentries
    obtain ⟨packId, hpackId, heq⟩ := List.mem_map.mp hmem
    exact ⟨packId, hpackId, Json.obj.inj heq⟩
  · rw [sectionEntries_readBack (hothers sectionName hsigned hsection), List.map_nil, Option.some.injEq] at hentries
    rw [← hentries] at hmem
    exact absurd hmem List.not_mem_nil

theorem migrateRegistryPacks_example {packIds : List String} {migrated : List Json} {loop : Outcome String}
    (h : migrateEntries exampleTools true (readBack migrationMatrix) "policy_packs" "v2" (migrationFiles packIds)
      (packIds.map fun packId ↦ .obj (readBack (migrationEntry packId))) = .ok (migrated, loop))
    (herrors : loop.errors ≠ []) :
    ∃ outcome, migrateRegistryPacks exampleTools true (migrationFiles packIds) "registry.json" "matrix.json"
      "secret" "k1" = .ok outcome ∧ outcome.errors ≠ [] ∧ outcome.files = loop.files := by
  obtain ⟨recorded, hfirst⟩ : ∃ recorded, migrateSection exampleTools true (readBack migrationMatrix)
      (readBack (migrationRegistry packIds)) (migrationFiles packIds) "policy_packs" = .ok (recorded, loop) := by
    have htarget : sectionCurrentVersion (readBack migrationMatrix) "policy_packs" = .ok "v2" := rfl
    rw [migrateSection, entries_migrationRegistry]
    dsimp only
    rw [htarget, ok_bind, h, ok_bind]
    exact ⟨_, rfl⟩
  have hother : ∀ name ∈ ["semantic_packs", "template_packs"], migrateSection exampleTools true
      (readBack migrationMatrix) recorded loop.files name = .ok (recorded, ⟨[], [], loop.files⟩) := by
    have hentries : ∀ name ∈ ["semantic_packs", "template_packs"], name ≠ "policy_packs" ∧
        sectionEntries (migrationRegistry packIds) name = some [] ∧
        sectionCurrentVersion (readBack migrationMatrix) name = .ok "v1" := by
      rw [List.forall_mem_cons, List.forall_mem_singleton]
      exact ⟨⟨by decide, rfl, rfl⟩, by decide, rfl, rfl⟩
    intro name hname
    obtain ⟨hne, hnone, htarget⟩ := hentries name hname
    refine migrateSection_nil ?_ htarget
    rw [sectionEntries_congr (get?_migrateSection hfirst hne), sectionEntries_readBack hnone, List.map_nil]
  have hsections : migrateSections exampleTools true (readBack migrationMatrix)
      (readBack (migrationRegistry packIds)) (migrationFiles packIds) signedSections =
        .ok (recorded, ⟨loop.report, loop.errors, loop.files⟩) := by
    rw [signedSections, migrateSections, hfirst, ok_bind]
    dsimp only
    rw [migrateSections, hother _ (by decide), ok_bind]
    dsimp only
    rw [migrateSections, hother _ (by decide), ok_bind]
    dsimp only
    rw [migrateSections, ok_bind, ok_bind, ok_bind]
    dsimp only
    simp only [List.append_nil]
  refine ⟨⟨loop.report, matrixErrors (readBack migrationMatrix) ++ loop.errors, loop.files⟩, ?_,
    List.append_ne_nil_of_right_ne_nil _ herrors, rfl⟩
  rw [migrateRegistryPacks, loadCompatibilityMatrix,
    loadObject_eq_some_iff.mpr ⟨holdsObject_migrationMatrix packIds, rfl⟩, ok_bind]
  dsimp only
  rw [loadObject_eq_some_iff.mpr ⟨holdsObject_migrationRegistry packIds, rfl⟩, ok_bind]
  dsimp only
  rw [hsections, ok_bind]
  dsimp only
  rw [if_pos (Or.inl (List.append_ne_nil_of_right_ne_nil _ herrors))]

theorem migrateEntry_missing (files : PackFiles String) (h : files "packs/p2.json" = none) :
    migrateEntry exampleTools true (readBack migrationMatrix) "policy_packs" "v2" files
        (.obj (readBack (migrationEntry "p2"))) =
      .ok (.obj (readBack (migrationEntry "p2")),
        failing files "policy_packs" "missing artifact packs/p2.json") := by
  have hpath : strippedText (readBack (migrationEntry "p2")) "path" "" = "packs/p2.json" := by decide
  rw [migrateEntry]
  dsimp only
  rw [hpath, if_neg (by decide)]
  exact if_pos h

theorem not_readsArtifact_missing (packIds : List String) :
    ¬ReadsArtifact exampleTools (migrationFiles packIds) (readBack (migrationEntry "p2")) payload := by
  have hplace : artifactPlace exampleTools (readBack (migrationEntry "p2")) = "packs/p2.json" := by decide
  rintro ⟨-, text, hfile, -⟩
  rw [hplace] at hfile
  cases hfile

/-- A migration that fails at its only pack changes nothing. -/
theorem failing_pack_changes_nothing :
    ∃ outcome, migrateRegistryPacks exampleTools true (migrationFiles ["p2"]) "registry.json" "matrix.json"
        "secret" "k1" = .ok outcome ∧ outcome.errors ≠ [] ∧
      AllOrNothing exampleTools (migrationFiles ["p2"]) "registry.json" "matrix.json" "secret" "k1" outcome := by
  have hentries : migrateEntries exampleTools true (readBack migrationMatrix) "policy_packs" "v2"
      (migrationFiles ["p2"]) (["p2"].map fun packId ↦ .obj (readBack (migrationEntry packId))) =
        .ok ([.obj (readBack (migrationEntry "p2"))],
          ⟨[], ["policy_packs: missing artifact packs/p2.json"], migrationFiles ["p2"]⟩) := by
    rw [List.map_singleton, migrateEntries, migrateEntry_missing _ rfl]
    rfl
  obtain ⟨outcome, hok, herrors, -⟩ := migrateRegistryPacks_example hentries (List.cons_ne_nil _ _)
  refine ⟨outcome, hok, herrors, (allOrNothing_iff hok).mpr ?_⟩
  intro payload matrix hpayload _
  obtain rfl := (holdsObject_migrationRegistry ["p2"]).unique hpayload
  constructor
  · rintro - place name hname entries target hgiven - fields text hmem - ⟨found, hreads, -⟩
    obtain ⟨packId, hpackId, rfl⟩ := mem_migrationRegistry hname hgiven hmem
    rw [List.mem_singleton.mp hpackId] at hreads
    exact absurd hreads (not_readsArtifact_missing _)
  · rintro ⟨-, after, hpass⟩
    cases hpass with
    | cons hgiven htarget hpass hrest =>
      rw [entries_migrationRegistry, Option.some.injEq] at hgiven
      subst hgiven
      cases hpass with
      | upToDate hentry _ =>
        obtain ⟨found, hreads, -⟩ := hentry
        exact absurd hreads (not_readsArtifact_missing _)
      | migrates hentry _ =>
        obtain ⟨found, hreads, -⟩ := hentry
        exact absurd hreads (not_readsArtifact_missing _)

/-- A migration that fails at its second pack leaves the first one migrated. -/
theorem first_pack_stays_migrated :
    ∃ outcome, migrateRegistryPacks exampleTools true (migrationFiles ["p1", "p2"]) "registry.json" "matrix.json"
        "secret" "k1" = .ok outcome ∧
      ¬AllOrNothing exampleTools (migrationFiles ["p1", "p2"]) "registry.json" "matrix.json" "secret" "k1"
        outcome := by
  have hheld : HoldsObject exampleTools (migrationFiles ["p1", "p2"]) "packs/p1.json" [] :=
    ⟨_, rfl, loads_canonicalJson ⟨List.nodup_nil, trivial⟩⟩
  have hmigrates : Migrates exampleTools (migrationFiles ["p1", "p2"]) (readBack migrationMatrix) "policy_packs" "v2"
      (readBack (migrationEntry "p1")) (canonicalJson (.obj (upgradedPayload [] "policy_packs"))) :=
    ⟨[], ⟨by decide, hheld⟩, by decide, rfl, rfl, by decide, rfl⟩
  have hplace : artifactPlace exampleTools (readBack (migrationEntry "p1")) = "packs/p1.json" := by decide
  obtain ⟨item, -, hfirst⟩ := migrateEntry_of_migrates hmigrates
  obtain ⟨loop, hentries, herrors, hfiles⟩ : ∃ loop : Outcome String,
      migrateEntries exampleTools true (readBack migrationMatrix) "policy_packs" "v2" (migrationFiles ["p1", "p2"])
        (["p1", "p2"].map fun packId ↦ .obj (readBack (migrationEntry packId))) =
          .ok ([recordedEntry "v2" (readBack (migrationEntry "p1")), .obj (readBack (migrationEntry "p2"))], loop) ∧
      loop.errors ≠ [] ∧ loop.files "packs/p1.json" =
        some (.file (.text (canonicalJson (.obj (upgradedPayload [] "policy_packs"))))) := by
    rw [List.map_cons, migrateEntries, hfirst, ok_bind]
    dsimp only
    rw [List.map_singleton, migrateEntries, hplace,
      migrateEntry_missing _ (Function.update_of_ne (by decide) _ _)]
    refine ⟨_, rfl, List.cons_ne_nil _ _, ?_⟩
    dsimp only [failing]
    rw [Function.update_self]
  obtain ⟨outcome, hok, hany, hsame⟩ := migrateRegistryPacks_example hentries herrors
  refine ⟨outcome, hok, fun hall ↦ ?_⟩
  -- the artifact that was migrated is not what it was
  have hafter := congrFun (hall.1 hany) "packs/p1.json"
  rw [hsame, hfiles] at hafter
  have hupgraded : HoldsObject exampleTools (migrationFiles ["p1", "p2"]) "packs/p1.json"
      (readBack (upgradedPayload [] "policy_packs")) :=
    ⟨_, hafter.symm, loads_canonicalJson (regular_upgradedPayload ⟨List.nodup_nil, trivial⟩)⟩
  exact absurd (hheld.unique hupgraded) (by decide)

end SchemaPilot.Tools
