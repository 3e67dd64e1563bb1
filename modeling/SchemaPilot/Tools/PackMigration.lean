import SchemaPilot.Tools.PackUpgrade

/-!
# Migrated packs

`tools/pack_migrate.py` rewrites the artifacts of the signed sections one after the other, records the new schema
versions in the registry, and signs it. This module has the migration with what one entry does to the files
(`migrateEntry_cases`) and what the loops do: entries that pass in turn leave the registry with the current versions
(`migrateSections_iff`), and an artifact stays as it was exactly where no migration of it writes anything else, since
a text that was migrated is never written back (`migrateSections_unchanged_iff`).
-/

namespace SchemaPilot.Tools

open Library Library.Text Library.Json SharedDomain

/-- The schema version of an entry: its own, or that of its artifact. -/
def sourceVersion (fields payload : Fields) : String :=
  let version := strip (getD fields "schema_version" (getD payload "schema_version" (.str "v1"))).toStr
  if version = "" then "v1" else version

structure ReportItem where
  packId : String
  sectionName : String
  status : String
  fromSchemaVersion : String
  toSchemaVersion : String
deriving DecidableEq

/-- What a part of the migration leaves: its report, its errors, and the files. -/
structure Outcome (Place : Type) where
  report : List ReportItem
  errors : List String
  files : PackFiles Place

variable {Place : Type} [DecidableEq Place] (tools : PackTools Place)

/-- An outcome with an error and nothing else. -/
def failing (files : PackFiles Place) (sectionName message : String) : Outcome Place :=
  ⟨[], [sectionName ++ ": " ++ message], files⟩

/-- The body of the inner loop of `migrate_registry_packs`: the entry afterwards, and the outcome. -/
def migrateEntry (write : Bool) (matrix : Fields) (sectionName target : String) (files : PackFiles Place)
    (entry : Json) : Except Exn (Json × Outcome Place) :=
  match entry with
  | .obj fields =>
    let packId := orUnknown (strippedText fields "pack_id" "")
    let path := strippedText fields "path" ""
    if path = "" then .ok (entry, failing files sectionName ("missing path for " ++ packId))
    else if files (tools.locate path) = none then
      .ok (entry, failing files sectionName ("missing artifact " ++ tools.asPosix path))
    else do
      match decodeJson tools (← readText (files (tools.locate path))) with
      | .error exc =>
        .ok (entry, failing files sectionName ("invalid json payload for " ++ packId ++ ": " ++ exc))
      | .ok (.obj payload) =>
        let source := sourceVersion fields payload
        let report (status : String) : List ReportItem := [⟨packId, sectionName, status, source, target⟩]
        if (← versionSupported matrix sectionName source) = false then
          .ok (entry, failing files sectionName
            ("schema_version " ++ quoted source ++ " is not supported for " ++ packId))
        else if source = target then
          .ok (.obj (set fields "schema_version" (.str source)), ⟨report "up_to_date", [], files⟩)
        else if hasMigrationPath matrix sectionName source target = false then
          .ok (entry, failing files sectionName
            ("no migration path " ++ source ++ "->" ++ target ++ " for " ++ packId))
        else
          match migratePackPayload payload sectionName source target with
          | .error exc => .ok (entry, failing files sectionName exc)
          | .ok migrated =>
            if write then
              .ok (.obj (set fields "schema_version" (.str target)), ⟨report "migrated", [],
                Function.update files (tools.locate path) (some (.file (.text (canonicalJson (.obj migrated)))))⟩)
            else .ok (entry, ⟨report "migration_available", [], files⟩)
      | .ok _ => .ok (entry, failing files sectionName ("payload must be an object for " ++ packId))
  | _ => .ok (entry, failing files sectionName "entry must be an object")

def migrateEntries (write : Bool) (matrix : Fields) (sectionName target : String) :
    PackFiles Place → List Json → Except Exn (List Json × Outcome Place)
  | files, [] => .ok ([], ⟨[], [], files⟩)
  | files, entry :: rest => do
    let (migrated, first) ← migrateEntry tools write matrix sectionName target files entry
    let (others, last) ← migrateEntries write matrix sectionName target first.files rest
    .ok (migrated :: others, ⟨first.report ++ last.report, first.errors ++ last.errors, last.files⟩)

/-- The body of the outer loop: the registry afterwards, and the outcome. -/
def migrateSection (write : Bool) (matrix payload : Fields) (files : PackFiles Place) (sectionName : String) :
    Except Exn (Fields × Outcome Place) :=
  match sectionEntries payload sectionName with
  | none => .ok (payload, ⟨[], [sectionName ++ " must be a list"], files⟩)
  | some entries => do
    let target ← sectionCurrentVersion matrix sectionName
    let (migrated, outcome) ← migrateEntries tools write matrix sectionName target files entries
    .ok (if entries = [] then payload else set payload sectionName (.arr migrated), outcome)

def migrateSections (write : Bool) (matrix : Fields) :
    Fields → PackFiles Place → List String → Except Exn (Fields × Outcome Place)
  | payload, files, [] => .ok (payload, ⟨[], [], files⟩)
  | payload, files, sectionName :: rest => do
    let (middle, first) ← migrateSection tools write matrix payload files sectionName
    let (migrated, last) ← migrateSections write matrix middle first.files rest
    .ok (migrated, ⟨first.report ++ last.report, first.errors ++ last.errors, last.files⟩)

/-- `migrate_registry_packs`, with the files afterwards. -/
def migrateRegistryPacks (write : Bool) (files : PackFiles Place)
    (registryPath matrixPath signingKey keyId : String) : Except Exn (Outcome Place) := do
  let (matrix?, matrixErrors) ← loadCompatibilityMatrix tools files matrixPath
  match matrix? with
  | none => .ok ⟨[], matrixErrors, files⟩
  | some matrix =>
    let (payload?, errors) ← loadObject tools files registryPath "registry" fun _ ↦ []
    match payload? with
    | none => .ok ⟨[], matrixErrors ++ errors, files⟩
    | some payload =>
      let (migrated, outcome) ← migrateSections tools write matrix payload files signedSections
      if matrixErrors ++ outcome.errors ≠ [] ∨ write = false then
        .ok { outcome with errors := matrixErrors ++ outcome.errors }
      else
        let written := Function.update outcome.files (tools.locate registryPath)
          (some (.file (.text (canonicalJson (.obj migrated)))))
        let (signErrors, signed) ← signPackRegistry tools written registryPath matrixPath signingKey keyId
        .ok ⟨outcome.report, signErrors, signed⟩

def artifactPlace (fields : Fields) : Place := tools.locate (strippedText fields "path" "")

def ReadsArtifact (files : PackFiles Place) (fields payload : Fields) : Prop :=
  strippedText fields "path" "" ≠ "" ∧ HoldsObject tools files (artifactPlace tools fields) payload

/-- An entry that is recorded at the current version as it is. -/
def UpToDate (files : PackFiles Place) (matrix : Fields) (sectionName target : String) (fields : Fields) : Prop :=
  ∃ payload, ReadsArtifact tools files fields payload ∧ sourceVersion fields payload = target ∧
    versionSupported matrix sectionName target = .ok true

/-- An entry that is migrated, its artifact becoming a text. -/
def Migrates (files : PackFiles Place) (matrix : Fields) (sectionName target : String) (fields : Fields)
    (text : String) : Prop :=
  ∃ payload, ReadsArtifact tools files fields payload ∧ sourceVersion fields payload = "v1" ∧ target = "v2" ∧
    versionSupported matrix sectionName "v1" = .ok true ∧
    hasMigrationPath matrix sectionName "v1" "v2" = true ∧
    text = canonicalJson (.obj (upgradedPayload payload sectionName))

def recordedEntry (target : String) (fields : Fields) : Json := .obj (set fields "schema_version" (.str target))

section Entries

variable {tools} {files after : PackFiles Place} {matrix fields payload : Fields} {sectionName target text : String}
  {entry migrated : Json} {outcome : Outcome Place}

omit [DecidableEq Place] in
theorem HoldsObject.decode {place : Place} (h : HoldsObject tools files place payload) :
    files place ≠ none ∧ ∃ text, readText (files place) = .ok text ∧ decodeJson tools text = .ok (.obj payload) := by
  obtain ⟨text, hfile, hloads⟩ := h
  refine ⟨by rw [hfile]; simp, text, readText_eq_ok_iff.mpr hfile, ?_⟩
  rw [decodeJson, hloads]

theorem migrateEntry_of_upToDate (h : UpToDate tools files matrix sectionName target fields) :
    ∃ item : ReportItem, item.status = "up_to_date" ∧
      migrateEntry tools true matrix sectionName target files (.obj fields) =
        .ok (recordedEntry target fields, ⟨[item], [], files⟩) := by
  obtain ⟨payload, ⟨hpath, hartifact⟩, rfl, hsupported⟩ := h
  obtain ⟨hfile, text, htext, hdecode⟩ := hartifact.decode
  rw [artifactPlace] at hfile htext
  refine ⟨⟨orUnknown (strippedText fields "pack_id" ""), sectionName, "up_to_date",
    sourceVersion fields payload, sourceVersion fields payload⟩, rfl, ?_⟩
  rw [migrateEntry]
  dsimp only
  rw [if_neg hpath, if_neg hfile, htext, ok_bind, hdecode]
  dsimp only
  rw [hsupported, ok_bind, if_neg (by decide), if_pos rfl, recordedEntry]

theorem migrateEntry_of_migrates (h : Migrates tools files matrix sectionName target fields text) :
    ∃ item : ReportItem, item.status = "migrated" ∧
      migrateEntry tools true matrix sectionName target files (.obj fields) =
        .ok (recordedEntry target fields, ⟨[item], [],
          Function.update files (artifactPlace tools fields) (some (.file (.text text)))⟩) := by
  obtain ⟨payload, ⟨hpath, hartifact⟩, hsource, rfl, hsupported, hmigration, rfl⟩ := h
  obtain ⟨hfile, text, htext, hdecode⟩ := hartifact.decode
  rw [artifactPlace] at hfile htext
  refine ⟨⟨orUnknown (strippedText fields "pack_id" ""), sectionName, "migrated", "v1", "v2"⟩, rfl, ?_⟩
  rw [migrateEntry]
  dsimp only
  rw [if_neg hpath, if_neg hfile, htext, ok_bind, hdecode]
  dsimp only
  rw [hsource, hsupported, ok_bind, if_neg (by decide), if_neg (by decide), hmigration, if_neg (by decide),
    migratePackPayload, if_neg (by decide), if_pos ⟨rfl, rfl⟩]
  dsimp only
  rw [if_pos rfl, recordedEntry, artifactPlace]

/-- What can become of an entry: an error, the record of the current version, or a migration. -/
theorem migrateEntry_cases
    (h : migrateEntry tools true matrix sectionName target files entry = .ok (migrated, outcome)) :
    (outcome.errors ≠ [] ∧ outcome.report = [] ∧ outcome.files = files ∧ migrated = entry) ∨
      (∃ fields, entry = .obj fields ∧ UpToDate tools files matrix sectionName target fields) ∨
      ∃ fields text, entry = .obj fields ∧ Migrates tools files matrix sectionName target fields text := by
  have hfails : ∀ message : String, (Except.ok (entry, failing files sectionName message) : Except Exn _) =
      .ok (migrated, outcome) →
        outcome.errors ≠ [] ∧ outcome.report = [] ∧ outcome.files = files ∧ migrated = entry := by
    intro message hok
    cases hok
    exact ⟨List.cons_ne_nil _ _, rfl, rfl, rfl⟩
  cases entry with
  | obj fields =>
    rw [migrateEntry] at h
    simp only [if_true] at h
    split_ifs at h with hpath hfile
    · exact Or.inl (hfails _ h)
    · exact Or.inl (hfails _ h)
    · obtain ⟨text, htext, h⟩ := (bind_eq_ok_iff _ _ _).mp h
      have hnode := readText_eq_ok_iff.mp htext
      cases hloads : loads tools.reader text with
      | none =>
        rw [decodeJson, hloads] at h
        exact Or.inl (hfails _ h)
      | some value =>
        rw [decodeJson, hloads] at h
        cases value with
        | obj payload =>
          have hreads : ReadsArtifact tools files fields payload := ⟨hpath, text, hnode, hloads⟩
          obtain ⟨supported, hsupported, h⟩ := (bind_eq_ok_iff _ _ _).mp h
          split_ifs at h with hrefused hsame hmissing
          · exact Or.inl (hfails _ h)
          · rw [Bool.not_eq_false] at hrefused
            subst hrefused
            exact Or.inr (Or.inl ⟨fields, rfl, payload, hreads, hsame, hsame ▸ hsupported⟩)
          · exact Or.inl (hfails _ h)
          · rw [Bool.not_eq_false] at hrefused hmissing
            subst hrefused
            rw [migratePackPayload, if_neg hsame] at h
            split_ifs at h with hversions
            · obtain ⟨hsource, rfl⟩ := hversions
              rw [hsource] at hsupported hmissing
              exact Or.inr (Or.inr ⟨fields, _, rfl, payload, hreads, hsource, rfl, hsupported, hmissing, rfl⟩)
            · exact Or.inl (hfails _ h)
        | _ => exact Or.inl (hfails _ h)
  | _ => exact Or.inl (hfails _ h)

/-- What an entry leaves, by what becomes of it. -/
theorem migrateEntry_files
    (h : migrateEntry tools true matrix sectionName target files entry = .ok (migrated, outcome)) (place : Place) :
    outcome.files place = files place ∨ ∃ fields text, entry = .obj fields ∧ artifactPlace tools fields = place ∧
      Migrates tools files matrix sectionName target fields text ∧
      outcome.files place = some (.file (.text text)) := by
  rcases migrateEntry_cases h with ⟨-, -, hfiles, -⟩ | ⟨fields, rfl, hpass⟩ | ⟨fields, text, rfl, hpass⟩
  · exact Or.inl (by rw [hfiles])
  · obtain ⟨item, -, hok⟩ := migrateEntry_of_upToDate hpass
    cases hok.symm.trans h
    exact Or.inl rfl
  · obtain ⟨item, -, hok⟩ := migrateEntry_of_migrates hpass
    cases hok.symm.trans h
    by_cases hplace : place = artifactPlace tools fields
    · exact Or.inr ⟨fields, text, rfl, hplace.symm, hpass, by rw [hplace]; exact Function.update_self _ _ _⟩
    · exact Or.inl (Function.update_of_ne hplace _ _)

omit [DecidableEq Place] in
theorem Migrates.rewritten (h : Migrates tools files matrix sectionName target fields text) :
    Rewritten tools.reader (files (artifactPlace tools fields)) (some (.file (.text text))) := by
  obtain ⟨payload, ⟨-, content, hfile, hloads⟩, -, -, -, -, rfl⟩ := h
  exact ⟨content, payload, sectionName, hfile, hloads, rfl⟩

omit [DecidableEq Place] in
/-- A migration depends on the artifact alone. -/
theorem Migrates.congr {others : PackFiles Place} (h : Migrates tools files matrix sectionName target fields text)
    (hsame : others (artifactPlace tools fields) = files (artifactPlace tools fields)) :
    Migrates tools others matrix sectionName target fields text := by
  obtain ⟨payload, ⟨hpath, content, hfile, hloads⟩, hrest⟩ := h
  exact ⟨payload, ⟨hpath, content, by rw [hsame, hfile], hloads⟩, hrest⟩

end Entries

section Loops

variable {tools} {files after : PackFiles Place} {matrix payload recorded : Fields} {sectionName target : String}
  {entries migrated : List Json} {outcome : Outcome Place}

/-- The files are those of before, some of them rewritten with their payload upgraded. -/
def Upgrades (reader : FloatReader) (files after : PackFiles Place) : Prop :=
  ∀ place, Relation.ReflTransGen (Rewritten reader) (files place) (after place)

theorem upgrades_entry {entry other : Json}
    (h : migrateEntry tools true matrix sectionName target files entry = .ok (other, outcome)) :
    Upgrades tools.reader files outcome.files := by
  intro place
  rcases migrateEntry_files h place with hsame | ⟨fields, text, -, rfl, hmigrates, hfile⟩
  · rw [hsame]
  · rw [hfile]
    exact .single hmigrates.rewritten

theorem upgrades_entries
    (h : migrateEntries tools true matrix sectionName target files entries = .ok (migrated, outcome)) :
    Upgrades tools.reader files outcome.files := by
  induction entries generalizing files migrated outcome with
  | nil =>
    cases h
    exact fun _ ↦ .refl
  | cons entry rest ih =>
    simp only [migrateEntries, bind_eq_ok_iff] at h
    obtain ⟨⟨other, first⟩, hfirst, ⟨others, last⟩, hlast, h⟩ := h
    cases h
    exact fun place ↦ (upgrades_entry hfirst place).trans (ih hlast place)

theorem migrateSection_cases
    (h : migrateSection tools true matrix payload files sectionName = .ok (recorded, outcome)) :
    (sectionEntries payload sectionName = none ∧ recorded = payload ∧ outcome.errors ≠ [] ∧ outcome.files = files) ∨
      ∃ entries target migrated, sectionEntries payload sectionName = some entries ∧
        sectionCurrentVersion matrix sectionName = .ok target ∧
        migrateEntries tools true matrix sectionName target files entries = .ok (migrated, outcome) ∧
        recorded = if entries = [] then payload else set payload sectionName (.arr migrated) := by
  rw [migrateSection] at h
  cases hentries : sectionEntries payload sectionName with
  | none =>
    rw [hentries] at h
    cases h
    exact Or.inl ⟨rfl, rfl, List.cons_ne_nil _ _, rfl⟩
  | some entries =>
    rw [hentries] at h
    simp only [bind_eq_ok_iff] at h
    obtain ⟨target, htarget, ⟨migrated, first⟩, hmigrated, h⟩ := h
    cases h
    exact Or.inr ⟨entries, target, migrated, rfl, htarget, hmigrated, rfl⟩

/-- Migrating a section leaves the other fields of the registry. -/
theorem get?_migrateSection
    (h : migrateSection tools true matrix payload files sectionName = .ok (recorded, outcome)) {key : String}
    (hkey : key ≠ sectionName) : get? recorded key = get? payload key := by
  rcases migrateSection_cases h with ⟨-, rfl, -, -⟩ | ⟨entries, target, migrated, -, -, -, rfl⟩
  · rfl
  · split_ifs
    · rfl
    · exact get?_set_of_ne hkey _ _

theorem upgrades_section
    (h : migrateSection tools true matrix payload files sectionName = .ok (recorded, outcome)) :
    Upgrades tools.reader files outcome.files := by
  rcases migrateSection_cases h with ⟨-, -, -, hfiles⟩ | ⟨entries, target, migrated, -, -, hmigrated, -⟩
  · exact fun _ ↦ hfiles ▸ .refl
  · exact upgrades_entries hmigrated

theorem upgrades_sections {names : List String}
    (h : migrateSections tools true matrix payload files names = .ok (recorded, outcome)) :
    Upgrades tools.reader files outcome.files := by
  induction names generalizing payload files recorded outcome with
  | nil =>
    cases h
    exact fun _ ↦ .refl
  | cons sectionName rest ih =>
    simp only [migrateSections, bind_eq_ok_iff] at h
    obtain ⟨⟨middle, first⟩, hfirst, ⟨others, last⟩, hlast, h⟩ := h
    cases h
    exact fun place ↦ (upgrades_section hfirst place).trans (ih hlast place)

/-- The migrations of entries that are at a place would leave it as it is. -/
def QuietEntries (tools : PackTools Place) (files : PackFiles Place) (matrix : Fields) (sectionName target : String)
    (entries : List Json) (place : Place) : Prop :=
  ∀ fields text, .obj fields ∈ entries → artifactPlace tools fields = place →
    Migrates tools files matrix sectionName target fields text → files place = some (.file (.text text))

/-- The migrations of the sections of a registry that are at a place would leave it as it is. -/
def QuietAt (tools : PackTools Place) (files : PackFiles Place) (matrix payload : Fields) (names : List String)
    (place : Place) : Prop :=
  ∀ sectionName ∈ names, ∀ entries target, sectionEntries payload sectionName = some entries →
    sectionCurrentVersion matrix sectionName = .ok target →
      QuietEntries tools files matrix sectionName target entries place

omit [DecidableEq Place] in
theorem quietEntries_congr {others : PackFiles Place} {place : Place} (h : others place = files place) :
    QuietEntries tools others matrix sectionName target entries place ↔
      QuietEntries tools files matrix sectionName target entries place := by
  constructor
  · rintro hquiet fields text hmem rfl hmigrates
    rw [← h]
    exact hquiet fields text hmem rfl (hmigrates.congr h)
  · rintro hquiet fields text hmem rfl hmigrates
    rw [h]
    exact hquiet fields text hmem rfl (hmigrates.congr h.symm)

omit [DecidableEq Place] in
/-- A place that has changed does not change back. -/
theorem Upgrades.ne {others : PackFiles Place} {reader : FloatReader} (h : Upgrades reader files after)
    (hrest : Upgrades reader after others) {place : Place} (hne : after place ≠ files place) :
    others place ≠ files place := by
  intro hsame
  have hfirst := (eq_or_rank_lt (h place)).resolve_left hne
  rcases eq_or_rank_lt (hrest place) with hlast | hlast
  · exact hne (hlast ▸ hsame)
  · rw [hsame] at hlast
    exact absurd (hfirst.trans hlast) (lt_irrefl _)

/-- An entry leaves a place as it was exactly where its migration writes nothing else. -/
theorem migrateEntry_unchanged_iff {entry other : Json}
    (h : migrateEntry tools true matrix sectionName target files entry = .ok (other, outcome)) (place : Place) :
    outcome.files place = files place ↔
      QuietEntries tools files matrix sectionName target [entry] place := by
  constructor
  · rintro hsame fields text hmem rfl hmigrates
    obtain ⟨item, -, hok⟩ := migrateEntry_of_migrates hmigrates
    rw [← List.mem_singleton.mp hmem] at h
    cases hok.symm.trans h
    dsimp only at hsame
    rw [Function.update_self] at hsame
    exact hsame.symm
  · intro hquiet
    rcases migrateEntry_files h place with hsame | ⟨fields, text, rfl, hplace, hmigrates, hfile⟩
    · exact hsame
    · rw [hfile, hquiet fields text (List.mem_singleton_self _) hplace hmigrates]

theorem migrateEntries_unchanged_iff
    (h : migrateEntries tools true matrix sectionName target files entries = .ok (migrated, outcome))
    (place : Place) :
    outcome.files place = files place ↔ QuietEntries tools files matrix sectionName target entries place := by
  induction entries generalizing files migrated outcome with
  | nil =>
    cases h
    exact iff_of_true rfl fun _ _ hmem ↦ absurd hmem List.not_mem_nil
  | cons entry rest ih =>
    simp only [migrateEntries, bind_eq_ok_iff] at h
    obtain ⟨⟨other, first⟩, hfirst, ⟨others, last⟩, hlast, h⟩ := h
    cases h
    have hcons : QuietEntries tools files matrix sectionName target (entry :: rest) place ↔
        QuietEntries tools files matrix sectionName target [entry] place ∧
          QuietEntries tools files matrix sectionName target rest place := by
      constructor
      · exact fun hquiet ↦ ⟨fun fields text hmem ↦ hquiet fields text
          (List.mem_singleton.mp hmem ▸ List.mem_cons_self),
          fun fields text hmem ↦ hquiet fields text (List.mem_cons_of_mem _ hmem)⟩
      · rintro ⟨hentry, hrest⟩ fields text hmem
        rcases List.mem_cons.mp hmem with hmem | hmem
        · exact hentry fields text (hmem ▸ List.mem_singleton_self _)
        · exact hrest fields text hmem
    rw [hcons, ← migrateEntry_unchanged_iff hfirst place]
    by_cases hsame : first.files place = files place
    · rw [← quietEntries_congr hsame, ← ih hlast, ← hsame]
      exact (and_iff_right rfl).symm
    · exact iff_of_false (Upgrades.ne (upgrades_entry hfirst) (upgrades_entries hlast) hsame)
        fun hboth ↦ hsame hboth.1

theorem migrateSection_unchanged_iff
    (h : migrateSection tools true matrix payload files sectionName = .ok (recorded, outcome)) (place : Place) :
    outcome.files place = files place ↔ QuietAt tools files matrix payload [sectionName] place := by
  rcases migrateSection_cases h with ⟨hentries, -, -, hfiles⟩ | ⟨entries, target, migrated, hentries, htarget, hmigrated, -⟩
  · refine iff_of_true (by rw [hfiles]) fun name hname entries target hsome ↦ ?_
    rw [List.mem_singleton.mp hname, hentries] at hsome
    cases hsome
  · rw [migrateEntries_unchanged_iff hmigrated place]
    constructor
    · intro hquiet name hname entries' target' hentries' htarget'
      rw [List.mem_singleton.mp hname] at hentries' htarget' ⊢
      rw [hentries, Option.some.injEq] at hentries'
      rw [htarget, Except.ok.injEq] at htarget'
      exact hentries' ▸ htarget' ▸ hquiet
    · exact fun hquiet ↦ hquiet sectionName (List.mem_singleton_self _) entries target hentries htarget

/-- An artifact stays as it was exactly where no migration of it writes anything else. -/
theorem migrateSections_unchanged_iff {names : List String} (hnodup : names.Nodup)
    (h : migrateSections tools true matrix payload files names = .ok (recorded, outcome)) (place : Place) :
    outcome.files place = files place ↔ QuietAt tools files matrix payload names place := by
  induction names generalizing payload files recorded outcome with
  | nil =>
    cases h
    exact iff_of_true rfl fun _ hname ↦ absurd hname List.not_mem_nil
  | cons sectionName rest ih =>
    rw [List.nodup_cons] at hnodup
    simp only [migrateSections, bind_eq_ok_iff] at h
    obtain ⟨⟨middle, first⟩, hfirst, ⟨others, last⟩, hlast, h⟩ := h
    cases h
    have hcons : QuietAt tools files matrix payload (sectionName :: rest) place ↔
        QuietAt tools files matrix payload [sectionName] place ∧ QuietAt tools files matrix payload rest place := by
      rw [QuietAt, List.forall_mem_cons, QuietAt, List.forall_mem_singleton, QuietAt]
    rw [hcons, ← migrateSection_unchanged_iff hfirst place]
    by_cases hsame : first.files place = files place
    · have hrest : QuietAt tools first.files matrix middle rest place ↔
          QuietAt tools files matrix payload rest place := by
        refine forall₂_congr fun name hname ↦ ?_
        have hne : name ≠ sectionName := by
          rintro rfl
          exact hnodup.1 hname
        rw [sectionEntries_congr (get?_migrateSection hfirst hne)]
        simp only [quietEntries_congr hsame]
      rw [← hrest, ← ih hnodup.2 hlast, ← hsame]
      exact (and_iff_right rfl).symm
    · exact iff_of_false (Upgrades.ne (upgrades_section hfirst) (upgrades_sections hlast) hsame)
        fun hboth ↦ hsame hboth.1

def recordedJson (target : String) : Json → Json
  | .obj fields => recordedEntry target fields
  | value => value

/-- Entries that pass one after the other, each with the files as the ones before leave them. -/
inductive EntriesPass (tools : PackTools Place) (matrix : Fields) (sectionName target : String) :
    PackFiles Place → List Json → PackFiles Place → Prop
  | nil (files : PackFiles Place) : EntriesPass tools matrix sectionName target files [] files
  | upToDate {files after : PackFiles Place} {fields : Fields} {rest : List Json}
      (hentry : UpToDate tools files matrix sectionName target fields)
      (hrest : EntriesPass tools matrix sectionName target files rest after) :
      EntriesPass tools matrix sectionName target files (.obj fields :: rest) after
  | migrates {files after : PackFiles Place} {fields : Fields} {text : String} {rest : List Json}
      (hentry : Migrates tools files matrix sectionName target fields text)
      (hrest : EntriesPass tools matrix sectionName target
        (Function.update files (artifactPlace tools fields) (some (.file (.text text)))) rest after) :
      EntriesPass tools matrix sectionName target files (.obj fields :: rest) after

theorem EntriesPass.migrateEntries_eq (h : EntriesPass tools matrix sectionName target files entries after) :
    ∃ report, migrateEntries tools true matrix sectionName target files entries =
      .ok (entries.map (recordedJson target), ⟨report, [], after⟩) := by
  induction h with
  | nil files => exact ⟨[], rfl⟩
  | upToDate hentry _ ih =>
    obtain ⟨report, hrest⟩ := ih
    obtain ⟨item, -, hok⟩ := migrateEntry_of_upToDate hentry
    refine ⟨[item] ++ report, ?_⟩
    rw [migrateEntries, hok, ok_bind]
    dsimp only
    rw [hrest]
    rfl
  | migrates hentry _ ih =>
    obtain ⟨report, hrest⟩ := ih
    obtain ⟨item, -, hok⟩ := migrateEntry_of_migrates hentry
    refine ⟨[item] ++ report, ?_⟩
    rw [migrateEntries, hok, ok_bind]
    dsimp only
    rw [hrest]
    rfl

theorem entriesPass_of_ok
    (h : migrateEntries tools true matrix sectionName target files entries = .ok (migrated, outcome))
    (hnone : outcome.errors = []) : EntriesPass tools matrix sectionName target files entries outcome.files := by
  induction entries generalizing files migrated outcome with
  | nil =>
    cases h
    exact .nil files
  | cons entry rest ih =>
    simp only [migrateEntries, bind_eq_ok_iff] at h
    obtain ⟨⟨other, first⟩, hfirst, ⟨others, last⟩, hlast, h⟩ := h
    cases h
    obtain ⟨hnoneFirst, hnoneLast⟩ := List.append_eq_nil_iff.mp hnone
    have hrest := ih hlast hnoneLast
    rcases migrateEntry_cases hfirst with ⟨herror, -⟩ | ⟨fields, rfl, hpass⟩ | ⟨fields, text, rfl, hpass⟩
    · exact absurd hnoneFirst herror
    · obtain ⟨item, -, hok⟩ := migrateEntry_of_upToDate hpass
      cases hok.symm.trans hfirst
      exact .upToDate hpass hrest
    · obtain ⟨item, -, hok⟩ := migrateEntry_of_migrates hpass
      cases hok.symm.trans hfirst
      exact .migrates hpass hrest

inductive SectionsPass (tools : PackTools Place) (matrix payload : Fields) :
    PackFiles Place → List String → PackFiles Place → Prop
  | nil (files : PackFiles Place) : SectionsPass tools matrix payload files [] files
  | cons {files middle after : PackFiles Place} {sectionName target : String} {entries : List Json}
      {rest : List String} (hentries : sectionEntries payload sectionName = some entries)
      (htarget : sectionCurrentVersion matrix sectionName = .ok target)
      (hpass : EntriesPass tools matrix sectionName target files entries middle)
      (hrest : SectionsPass tools matrix payload middle rest after) :
      SectionsPass tools matrix payload files (sectionName :: rest) after

theorem SectionsPass.congr {other : Fields} {names : List String}
    (h : SectionsPass tools matrix payload files names after)
    (hsame : ∀ name ∈ names, sectionEntries other name = sectionEntries payload name) :
    SectionsPass tools matrix other files names after := by
  induction h with
  | nil files => exact .nil files
  | cons hentries htarget hpass _ ih =>
    rw [List.forall_mem_cons] at hsame
    exact .cons (hsame.1.trans hentries) htarget hpass (ih hsame.2)

/-- A registry with the entries of a section recorded at its current version. -/
def recordSection (matrix payload : Fields) (sectionName : String) : Fields :=
  match sectionEntries payload sectionName, sectionCurrentVersion matrix sectionName with
  | some entries, .ok target =>
    if entries = [] then payload else set payload sectionName (.arr (entries.map (recordedJson target)))
  | _, _ => payload

/-- A registry with the entries of some sections recorded. -/
def recordedRegistry (matrix payload : Fields) (names : List String) : Fields :=
  names.foldl (recordSection matrix) payload

omit [DecidableEq Place] in
theorem get?_recordSection {key : String} (h : key ≠ sectionName) :
    get? (recordSection matrix payload sectionName) key = get? payload key := by
  rw [recordSection]
  split
  · split_ifs
    · rfl
    · exact get?_set_of_ne h _ _
  · rfl

theorem get?_recordedRegistry {names : List String} {key : String} (h : key ∉ names) :
    get? (recordedRegistry matrix payload names) key = get? payload key := by
  induction names generalizing payload with
  | nil => rfl
  | cons first rest ih =>
    rw [List.mem_cons, not_or] at h
    rw [recordedRegistry, List.foldl_cons, ← recordedRegistry, ih h.2, get?_recordSection h.1]

theorem sectionEntries_recordedRegistry {names : List String} (hnodup : names.Nodup)
    (hmem : sectionName ∈ names) (hentries : sectionEntries payload sectionName = some entries)
    (htarget : sectionCurrentVersion matrix sectionName = .ok target) :
    sectionEntries (recordedRegistry matrix payload names) sectionName =
      some (entries.map (recordedJson target)) := by
  induction names generalizing payload with
  | nil => exact absurd hmem List.not_mem_nil
  | cons first rest ih =>
    rw [List.nodup_cons] at hnodup
    rw [recordedRegistry, List.foldl_cons, ← recordedRegistry]
    rcases List.mem_cons.mp hmem with rfl | hmemRest
    · rw [sectionEntries_congr (get?_recordedRegistry hnodup.1), recordSection, hentries, htarget]
      dsimp only
      split_ifs with hempty
      · rw [hentries, hempty, List.map_nil]
      · exact sectionEntries_set _ _ _
    · have hne : sectionName ≠ first := by
        rintro rfl
        exact hnodup.1 hmemRest
      exact ih hnodup.2 hmemRest (by rw [sectionEntries_congr (get?_recordSection hne), hentries])

theorem SectionsPass.migrateSections_eq {names : List String} (hnodup : names.Nodup)
    (h : SectionsPass tools matrix payload files names after) :
    ∃ report, migrateSections tools true matrix payload files names =
      .ok (recordedRegistry matrix payload names, ⟨report, [], after⟩) := by
  induction names generalizing payload files with
  | nil =>
    cases h
    exact ⟨[], rfl⟩
  | cons first rest ih =>
    rw [List.nodup_cons] at hnodup
    cases h with
    | @cons _ middle _ _ target entries _ hentries htarget hpass hrest =>
      obtain ⟨report, hok⟩ := hpass.migrateEntries_eq
      have hsection : migrateSection tools true matrix payload files first =
          .ok (recordSection matrix payload first, ⟨report, [], middle⟩) := by
        rw [migrateSection, recordSection, hentries, htarget]
        dsimp only
        rw [ok_bind, hok, ok_bind]
      have hlater : SectionsPass tools matrix (recordSection matrix payload first) middle rest after := by
        refine hrest.congr fun name hname ↦ sectionEntries_congr (get?_recordSection ?_)
        rintro rfl
        exact hnodup.1 hname
      obtain ⟨others, hlast⟩ := ih hnodup.2 hlater
      refine ⟨report ++ others, ?_⟩
      rw [migrateSections, hsection, ok_bind]
      dsimp only
      rw [hlast]
      rfl

theorem sectionsPass_of_ok {names : List String} (hnodup : names.Nodup)
    (h : migrateSections tools true matrix payload files names = .ok (recorded, outcome))
    (hnone : outcome.errors = []) : SectionsPass tools matrix payload files names outcome.files := by
  induction names generalizing payload files recorded outcome with
  | nil =>
    cases h
    exact .nil files
  | cons first rest ih =>
    rw [List.nodup_cons] at hnodup
    simp only [migrateSections, bind_eq_ok_iff] at h
    obtain ⟨⟨middle, outcomeFirst⟩, hfirst, ⟨others, last⟩, hlast, h⟩ := h
    cases h
    obtain ⟨hnoneFirst, hnoneLast⟩ := List.append_eq_nil_iff.mp hnone
    have hrest : SectionsPass tools matrix payload outcomeFirst.files rest last.files := by
      refine (ih hnodup.2 hlast hnoneLast).congr fun name hname ↦
        (sectionEntries_congr (get?_migrateSection hfirst ?_)).symm
      rintro rfl
      exact hnodup.1 hname
    rcases migrateSection_cases hfirst with ⟨-, -, herror, -⟩ | ⟨entries, target, migrated, hentries, htarget, hmigrated, -⟩
    · exact absurd hnoneFirst herror
    · exact .cons hentries htarget (entriesPass_of_ok hmigrated hnoneFirst) hrest

/-- The loop over the sections reports no error exactly where they pass in turn. -/
theorem migrateSections_iff {names : List String} (hnodup : names.Nodup)
    (h : migrateSections tools true matrix payload files names = .ok (recorded, outcome)) :
    outcome.errors = [] ↔ ∃ after, SectionsPass tools matrix payload files names after ∧
      recorded = recordedRegistry matrix payload names ∧ outcome.files = after := by
  constructor
  · intro hnone
    have hpass := sectionsPass_of_ok hnodup h hnone
    obtain ⟨report, hok⟩ := hpass.migrateSections_eq hnodup
    rw [hok, Except.ok.injEq, Prod.mk.injEq] at h
    exact ⟨_, hpass, h.1.symm, rfl⟩
  · rintro ⟨after, hpass, -, -⟩
    obtain ⟨report, hok⟩ := hpass.migrateSections_eq hnodup
    rw [hok, Except.ok.injEq, Prod.mk.injEq] at h
    rw [← h.2]

end Loops

end SchemaPilot.Tools
