import SchemaPilot.Library.Versions
import SchemaPilot.Workers.Bronze

/-!
# What bronze looks like

In a run over bronze every file there is the manifest of an artifact or a raw copy (`Orderly`), and a
manifest records the hash of a raw copy beside it. The lookup of an ingest then finds the directory
of an artifact or nothing (`findExistingArtifact_cases`), and an ingest of a readable file succeeds
and leaves bronze orderly (`ingestFileToBronze_ok`).
-/

namespace SchemaPilot.Workers.BronzeFiles

open Library Library.Effect Library.Json SharedDomain

structure ArtifactPlace where
  workspaceId : String
  sourceId : String
  datasetId : String
  ingested : ℤ
  ulid : String

def ArtifactPlace.root (settings : BronzeSettings) (place : ArtifactPlace) : TreePath :=
  datasetRoot settings place.workspaceId place.sourceId place.datasetId ++
    [utcDate place.ingested, "artifact_" ++ place.ulid]

def IngestCall.place (call : IngestCall) : ArtifactPlace :=
  ⟨call.workspaceId, call.sourceId, call.datasetId, call.now, call.newUlid⟩

def rawPath (artifactRoot : TreePath) (entry : String) : TreePath := artifactRoot ++ ["raw", entry]

def ArtifactPlace.InDataset (place : ArtifactPlace) (call : IngestCall) : Prop :=
  place.workspaceId = call.workspaceId ∧ place.sourceId = call.sourceId ∧
    place.datasetId = call.datasetId

def bronzeRoot (settings : BronzeSettings) : TreePath := settings.storageRoot ++ ["bronze"]

variable {settings : BronzeSettings}

theorem utcDate_ne (now : ℤ) : utcDate now ≠ "manifest.json" := by
  intro h
  have hdash : '-' ∈ (utcDate now).toList := by
    unfold utcDate
    dsimp only
    rw [String.toList_append]
    refine List.mem_append_left _ ?_
    rw [String.toList_append]
    exact List.mem_append_right _ (by decide)
  rw [h] at hdash
  exact absurd hdash (by decide)

theorem artifactName_ne (ulid : String) : "artifact_" ++ ulid ≠ "manifest.json" := by
  intro h
  have hfirst := congrArg (fun text ↦ text.toList.head?) h
  simp at hfirst

theorem ArtifactPlace.root_length (place : ArtifactPlace) :
    (place.root settings).length = settings.storageRoot.length + 6 := by
  simp [ArtifactPlace.root, datasetRoot]

/-- Prefixes of one length agree, and what follows them is a prefix too. -/
theorem prefix_of_prefix_append {a b r t : TreePath} (h : a ++ r <+: b ++ t)
    (hlength : a.length = b.length) : a = b ∧ r <+: t := by
  obtain ⟨u, hu⟩ := h
  rw [List.append_assoc] at hu
  obtain ⟨hab, hrt⟩ := List.append_inj hu hlength
  exact ⟨hab, u, hrt⟩

/-- Artifacts of different directories share no path. -/
theorem ArtifactPlace.root_eq_of_append {place other : ArtifactPlace} {r t : TreePath}
    (h : place.root settings ++ r = other.root settings ++ t) :
    place.root settings = other.root settings ∧ r = t :=
  List.append_inj h (by rw [root_length, root_length])

theorem bronzeRoot_prefix_root (place : ArtifactPlace) (rest : TreePath) :
    bronzeRoot settings <+: place.root settings ++ rest := by
  refine ⟨[place.workspaceId, place.sourceId, place.datasetId, utcDate place.ingested,
    "artifact_" ++ place.ulid] ++ rest, ?_⟩
  simp [bronzeRoot, ArtifactPlace.root, datasetRoot]

def Records (files : FileStore) (artifactRoot : TreePath) (contentHash : String) : Prop :=
  ∃ fields, files.content? (manifestPath artifactRoot) = some (.json (.obj fields)) ∧
    getD fields "content_hash" .null = .str contentHash

/-- The content of a file that no lookup takes for the manifest of a file, though it is named like
one. -/
def Harmless (settings : BronzeSettings) (content : FileContent) : Prop :=
  ∃ fields, manifestBody settings (some content) = .ok fields ∧
    ∀ other, getD fields "content_hash" .null ≠ .str (settings.sha256 other)

/-- A directory of the raw copies of an artifact holds a file with a hash. -/
def HoldsRaw (settings : BronzeSettings) (files : FileStore) (artifactRoot : TreePath)
    (contentHash : String) : Prop :=
  ∃ entry content, files.content? (rawPath artifactRoot entry) = some content ∧
    settings.sha256 content = contentHash

structure Orderly (settings : BronzeSettings) (files : FileStore) : Prop where
  clear : ∀ path, path <+: bronzeRoot settings → files.isFile path = false
  layout : ∀ path content, bronzeRoot settings <+: path → files.content? path = some content →
    ∃ place : ArtifactPlace, (∀ parent, parent <+: place.root settings →
      files.isDir parent = true) ∧ (path = manifestPath (place.root settings) ∨
        ∃ entry, path = rawPath (place.root settings) entry ∧
          (entry = "manifest.json" → Harmless settings content))
  directories : ∀ path, bronzeRoot settings <+: path → files.isDir path = true →
    ∃ place : ArtifactPlace, path <+: place.root settings ++ ["raw"]
  manifests : ∀ place : ArtifactPlace, files.isFile (manifestPath (place.root settings)) = true →
    ∃ contentHash, Records files (place.root settings) contentHash ∧
      HoldsRaw settings files (place.root settings) contentHash

/-- Nothing is in bronze yet, and no file is in its way. -/
structure NoBronze (settings : BronzeSettings) (files : FileStore) : Prop where
  clear : ∀ path, path <+: bronzeRoot settings → files.isFile path = false
  empty : ∀ path, bronzeRoot settings <+: path → path ≠ bronzeRoot settings →
    files.pathExists path = false

theorem NoBronze.orderly {files : FileStore} (h : NoBronze settings files) :
    Orderly settings files := by
  have hnone : ∀ path, bronzeRoot settings <+: path → files.isFile path = true → False := by
    intro path hpath hfile
    by_cases hroot : path = bronzeRoot settings
    · rw [hroot, h.clear _ List.prefix_rfl] at hfile
      cases hfile
    · have hmissing := h.empty path hpath hroot
      rw [FileTree.pathExists, Option.isSome_eq_false_iff, Option.isNone_iff_eq_none] at hmissing
      rw [FileTree.isFile, FileTree.content?, hmissing] at hfile
      cases hfile
  refine ⟨h.clear, fun path content hpath hcontent ↦ ?_, fun path hpath hdir ↦ ?_,
    fun place hfile ↦ ?_⟩
  · refine (hnone path hpath ?_).elim
    rw [FileTree.isFile, hcontent]
    rfl
  · by_cases hroot : path = bronzeRoot settings
    · rw [hroot]
      exact ⟨⟨"", "", "", 0, ""⟩, bronzeRoot_prefix_root _ _⟩
    · have hmissing := h.empty path hpath hroot
      rw [FileTree.pathExists, Option.isSome_eq_false_iff, Option.isNone_iff_eq_none] at hmissing
      rw [FileTree.isDir, hmissing] at hdir
      cases hdir
  · exact (hnone _ (bronzeRoot_prefix_root _ _) hfile).elim

/-- What a lookup may take for a manifest. -/
theorem mem_manifestsBelow {files : FileStore} {root path : TreePath} :
    path ∈ manifestsBelow settings files root ↔ files.pathExists root = true ∧
      files.pathExists path = true ∧ root <+: path ∧ path ≠ root ∧
      path.getLast? = some "manifest.json" := by
  unfold manifestsBelow
  split_ifs with hroot
  · rw [(settings.listed_perm _ _).mem_iff, List.mem_filter, FileTree.mem_below_iff]
    simp [hroot, and_assoc]
  · simp [hroot]

/-- A file that a lookup takes for a manifest, and that records the hash. -/
def Matches (settings : BronzeSettings) (files : FileStore) (contentHash : String)
    (manifest : TreePath) : Prop :=
  ∃ fields, manifestBody settings (files.content? manifest) = .ok fields ∧
    getD fields "content_hash" .null = .str contentHash

/-- A lookup among readable manifests finds one that records the hash, if there is one. -/
theorem firstMatch_cases {files : FileStore} (contentHash : String) {manifests : List TreePath}
    (h : ∀ manifest ∈ manifests, ∃ fields,
      manifestBody settings (files.content? manifest) = .ok fields) :
    (firstMatch settings files contentHash manifests = .ok none ∧
      ∀ manifest ∈ manifests, ¬Matches settings files contentHash manifest) ∨
    ∃ manifest ∈ manifests,
      firstMatch settings files contentHash manifests = .ok (some manifest.dropLast) ∧
      Matches settings files contentHash manifest := by
  induction manifests with
  | nil => exact Or.inl ⟨rfl, fun _ hmem ↦ absurd hmem List.not_mem_nil⟩
  | cons first rest ih =>
    obtain ⟨body, hbody⟩ := h first List.mem_cons_self
    have hstep : firstMatch settings files contentHash (first :: rest) =
        if getD body "content_hash" .null = .str contentHash then .ok (some first.dropLast)
        else firstMatch settings files contentHash rest := by
      rw [firstMatch, hbody]
      rfl
    rw [hstep]
    by_cases hmatch : getD body "content_hash" .null = .str contentHash
    · rw [if_pos hmatch]
      exact Or.inr ⟨first, List.mem_cons_self, rfl, body, hbody, hmatch⟩
    · rw [if_neg hmatch]
      rcases ih fun manifest hmem ↦ h manifest (List.mem_cons_of_mem _ hmem) with
        ⟨hnone, hrest⟩ | ⟨found, hfound, hsome, hmatches⟩
      · refine Or.inl ⟨hnone, fun manifest hmem ↦ ?_⟩
        rcases List.mem_cons.mp hmem with rfl | hmem
        · rintro ⟨fields, hfields, hhash⟩
          rw [hbody] at hfields
          cases hfields
          exact hmatch hhash
        · exact hrest manifest hmem
      · exact Or.inr ⟨found, List.mem_cons_of_mem _ hfound, hsome, hmatches⟩

/-- A manifest of an orderly bronze is read as its fields. -/
theorem matches_manifestPath_iff {files : FileStore} (h : Orderly settings files)
    {place : ArtifactPlace} {contentHash : String}
    (hfile : files.isFile (manifestPath (place.root settings)) = true) :
    Matches settings files contentHash (manifestPath (place.root settings)) ↔
      Records files (place.root settings) contentHash := by
  obtain ⟨recorded, ⟨fields, hfields, -⟩, -⟩ := h.manifests place hfile
  unfold Matches Records
  rw [hfields]
  constructor
  · rintro ⟨_, hbody, hhash⟩
    cases hbody
    exact ⟨fields, rfl, hhash⟩
  · rintro ⟨_, hsame, hhash⟩
    cases hsame
    exact ⟨fields, rfl, hhash⟩

/-- The directories below that of a dataset are named otherwise than manifests. -/
theorem getLast?_ne_of_directory {place : ArtifactPlace} {call : IngestCall} {path : TreePath}
    (hpath : path <+: place.root settings ++ ["raw"])
    (hbelow : datasetRoot settings call.workspaceId call.sourceId call.datasetId <+: path)
    (hne : path ≠ datasetRoot settings call.workspaceId call.sourceId call.datasetId) :
    path.getLast? ≠ some "manifest.json" := by
  obtain ⟨rest, rfl⟩ := hbelow
  rw [ArtifactPlace.root, List.append_assoc] at hpath
  obtain ⟨-, hrest⟩ := prefix_of_prefix_append hpath (by simp [datasetRoot])
  intro hlast
  rcases rest with _ | ⟨first, _ | ⟨second, _ | ⟨third, more⟩⟩⟩
  · exact hne (List.append_nil _)
  · simp only [List.cons_append, List.nil_append, List.cons_prefix_cons] at hrest
    rw [hrest.1, List.getLast?_concat] at hlast
    exact utcDate_ne _ (Option.some.inj hlast)
  · simp only [List.cons_append, List.nil_append, List.cons_prefix_cons] at hrest
    rw [hrest.2.1, ← List.singleton_append, ← List.append_assoc, List.getLast?_concat] at hlast
    exact artifactName_ne _ (Option.some.inj hlast)
  · simp only [List.cons_append, List.nil_append, List.cons_prefix_cons, List.prefix_nil] at hrest
    obtain ⟨-, -, rfl, rfl⟩ := hrest
    rw [List.getLast?_append] at hlast
    simp at hlast

/-- What a lookup in an orderly bronze takes for a manifest is one, or a harmless raw copy. -/
theorem manifest_cases {files : FileStore} (h : Orderly settings files) {call : IngestCall}
    {path : TreePath} (hmem : path ∈ manifestsBelow settings files
      (datasetRoot settings call.workspaceId call.sourceId call.datasetId)) :
    (∃ place : ArtifactPlace, place.InDataset call ∧ path = manifestPath (place.root settings) ∧
      files.isFile path = true) ∨
    ∃ content, files.content? path = some content ∧ Harmless settings content := by
  obtain ⟨-, hexists, hbelow, hne, hlast⟩ := mem_manifestsBelow.mp hmem
  have hbronze : bronzeRoot settings <+: path := by
    refine List.IsPrefix.trans ⟨[call.workspaceId, call.sourceId, call.datasetId], ?_⟩ hbelow
    simp [bronzeRoot, datasetRoot]
  cases hcontent : files.content? path with
  | none =>
    have hdir : files.isDir path = true := by
      unfold FileTree.content? at hcontent
      unfold FileTree.pathExists at hexists
      unfold FileTree.isDir
      cases hnode : files.node? path with
      | none =>
        rw [hnode] at hexists
        cases hexists
      | some node =>
        cases node with
        | directory => rfl
        | file content mtime =>
          rw [hnode] at hcontent
          cases hcontent
    obtain ⟨place, hplace⟩ := h.directories path hbronze hdir
    exact absurd hlast (getLast?_ne_of_directory hplace hbelow hne)
  | some content =>
    obtain ⟨place, -, rfl | ⟨entry, rfl, hharmless⟩⟩ := h.layout path content hbronze hcontent
    · refine Or.inl ⟨place, ?_, rfl, ?_⟩
      · rw [manifestPath, ArtifactPlace.root, List.append_assoc] at hbelow
        rw [← List.append_nil (datasetRoot settings call.workspaceId _ _)] at hbelow
        obtain ⟨hsame, -⟩ := prefix_of_prefix_append hbelow (by simp [datasetRoot])
        simp only [datasetRoot, List.append_cancel_left_eq, List.cons.injEq] at hsame
        exact ⟨hsame.2.1.symm, hsame.2.2.1.symm, hsame.2.2.2.1.symm⟩
      · rw [FileTree.isFile, hcontent]
        rfl
    · refine Or.inr ⟨content, rfl, hharmless ?_⟩
      rw [rawPath, ← List.singleton_append, ← List.append_assoc, List.getLast?_concat] at hlast
      exact Option.some.inj hlast

theorem isFile_of_content? {files : FileStore} {path : TreePath} {content : FileContent}
    (h : files.content? path = some content) : files.isFile path = true := by
  rw [FileTree.isFile, h]
  rfl

theorem pathExists_of_isDir {files : FileStore} {path : TreePath} (h : files.isDir path = true) :
    files.pathExists path = true := by
  unfold FileTree.isDir at h
  unfold FileTree.pathExists
  split at h
  · next hnode => rw [hnode]; rfl
  · cases h

theorem pathExists_of_isFile {files : FileStore} {path : TreePath} (h : files.isFile path = true) :
    files.pathExists path = true := by
  unfold FileTree.isFile FileTree.content? at h
  unfold FileTree.pathExists
  split at h
  · next hnode => rw [hnode]; rfl
  · cases h

/-- What lies in the directory of an artifact is its manifest or a raw copy. -/
theorem Orderly.below {files : FileStore} (h : Orderly settings files) {place : ArtifactPlace}
    {rest : TreePath} {content : FileContent}
    (hcontent : files.content? (place.root settings ++ rest) = some content) :
    (∀ parent, parent <+: place.root settings → files.isDir parent = true) ∧
      (rest = ["manifest.json"] ∨ ∃ entry, rest = ["raw", entry] ∧
        (entry = "manifest.json" → Harmless settings content)) := by
  obtain ⟨found, hparents, hpath | ⟨entry, hpath, hharmless⟩⟩ :=
    h.layout _ _ (bronzeRoot_prefix_root _ _) hcontent
  · obtain ⟨hroot, hrest⟩ := ArtifactPlace.root_eq_of_append hpath
    exact ⟨hroot ▸ hparents, Or.inl hrest⟩
  · obtain ⟨hroot, hrest⟩ := ArtifactPlace.root_eq_of_append hpath
    exact ⟨hroot ▸ hparents, Or.inr ⟨entry, hrest, hharmless⟩⟩

theorem datasetRoot_prefix_root {place : ArtifactPlace} {call : IngestCall}
    (h : place.InDataset call) :
    datasetRoot settings call.workspaceId call.sourceId call.datasetId <+: place.root settings := by
  obtain ⟨hworkspace, hsource, hdataset⟩ := h
  rw [← hworkspace, ← hsource, ← hdataset]
  exact List.prefix_append _ _

/-- A lookup for the hash of a file finds the directory of an artifact whose manifest records it, or
nothing when no manifest of the dataset does. -/
theorem findExistingArtifact_cases {files : FileStore} (h : Orderly settings files)
    (call : IngestCall) (content : FileContent) :
    (findExistingArtifact settings files call.workspaceId call.sourceId call.datasetId
        (settings.sha256 content) = .ok none ∧
      ∀ place : ArtifactPlace, place.InDataset call →
        ¬Records files (place.root settings) (settings.sha256 content)) ∨
    ∃ place : ArtifactPlace, place.InDataset call ∧
      findExistingArtifact settings files call.workspaceId call.sourceId call.datasetId
        (settings.sha256 content) = .ok (some (place.root settings)) ∧
      Records files (place.root settings) (settings.sha256 content) := by
  have hread : ∀ manifest ∈ manifestsBelow settings files
      (datasetRoot settings call.workspaceId call.sourceId call.datasetId), ∃ fields,
        manifestBody settings (files.content? manifest) = .ok fields := by
    intro manifest hmem
    rcases manifest_cases h hmem with ⟨place, -, rfl, hfile⟩ | ⟨found, hfound, fields, hbody, -⟩
    · obtain ⟨_, ⟨fields, hfields, -⟩, -⟩ := h.manifests place hfile
      rw [hfields]
      exact ⟨fields, rfl⟩
    · rw [hfound]
      exact ⟨fields, hbody⟩
  rcases firstMatch_cases (settings.sha256 content) hread with
    ⟨hnone, hmatches⟩ | ⟨manifest, hmem, hsome, hmatch⟩
  · refine Or.inl ⟨hnone, fun place hdataset hrecords ↦ ?_⟩
    obtain ⟨fields, hfields, -⟩ := id hrecords
    have hfile := isFile_of_content? hfields
    obtain ⟨hparents, -⟩ := h.below hfields
    refine hmatches _ (mem_manifestsBelow.mpr ⟨?_, pathExists_of_isFile hfile, ?_, ?_, ?_⟩)
      ((matches_manifestPath_iff h hfile).mpr hrecords)
    · exact pathExists_of_isDir (hparents _ (datasetRoot_prefix_root hdataset))
    · exact (datasetRoot_prefix_root hdataset).trans (List.prefix_append _ _)
    · intro heq
      have hlength := congrArg List.length heq
      simp [manifestPath, ArtifactPlace.root_length, datasetRoot] at hlength
    · rw [manifestPath, List.getLast?_concat]
  · rcases manifest_cases h hmem with ⟨place, hdataset, rfl, hfile⟩ | ⟨found, hfound, hharmless⟩
    · refine Or.inr ⟨place, hdataset, ?_, (matches_manifestPath_iff h hfile).mp hmatch⟩
      rw [findExistingArtifact, hsome, manifestPath, List.dropLast_concat]
    · obtain ⟨fields, hbody, hhash⟩ := hmatch
      obtain ⟨_, hsame, hnever⟩ := hharmless
      rw [hfound, hsame] at hbody
      cases hbody
      exact absurd hhash (hnever content)

theorem manifestPath_ne_rawPath {place other : ArtifactPlace} {entry : String} :
    manifestPath (place.root settings) ≠ rawPath (other.root settings) entry := by
  intro h
  exact absurd (congrArg List.length (ArtifactPlace.root_eq_of_append h).2) (by simp)

theorem root_eq_of_manifestPath {place other : ArtifactPlace}
    (h : manifestPath (place.root settings) = manifestPath (other.root settings)) :
    place.root settings = other.root settings :=
  (ArtifactPlace.root_eq_of_append h).1

theorem not_prefix_bronzeRoot (place : ArtifactPlace) (rest : TreePath) :
    ¬place.root settings ++ rest <+: bronzeRoot settings := by
  intro h
  have hlength := h.length_le
  rw [List.length_append, ArtifactPlace.root_length, bronzeRoot, List.length_append,
    List.length_singleton] at hlength
  omega

/-- Bronze stays orderly when an artifact gets a manifest and, maybe, the raw copy it records. -/
theorem Orderly.record {files after : FileStore} (h : Orderly settings files)
    {place : ArtifactPlace} {entry contentHash : String} {call : IngestCall} {content : FileContent}
    (hmanifest : after.content? (manifestPath (place.root settings)) =
      some (.json (manifestJson settings call (artifactIdOf (place.root settings)) contentHash)))
    (hraw : HoldsRaw settings after (place.root settings) contentHash)
    (hothers : ∀ path, path ≠ manifestPath (place.root settings) →
      after.content? path = files.content? path ∨ path = rawPath (place.root settings) entry ∧
        after.content? path = some content)
    (hharmless : entry = "manifest.json" → Harmless settings content)
    (hkept : ∀ path, files.isDir path = true → after.isDir path = true)
    (hmade : ∀ path, after.isDir path = true →
      files.isDir path = true ∨ path <+: place.root settings ++ ["raw"])
    (hparents : ∀ parent, parent <+: place.root settings → after.isDir parent = true) :
    Orderly settings after := by
  refine ⟨fun path hpath ↦ ?_, fun path found hpath hfound ↦ ?_, fun path hpath hdir ↦ ?_,
    fun other hfile ↦ ?_⟩
  · have hne : path ≠ manifestPath (place.root settings) := by
      rintro rfl
      exact not_prefix_bronzeRoot _ _ hpath
    rcases hothers path hne with hsame | ⟨rfl, -⟩
    · rw [FileTree.isFile, hsame]
      exact h.clear path hpath
    · exact absurd hpath (not_prefix_bronzeRoot _ _)
  · by_cases hne : path = manifestPath (place.root settings)
    · exact ⟨place, hparents, Or.inl hne⟩
    · rcases hothers path hne with hsame | ⟨rfl, hstored⟩
      · rw [hsame] at hfound
        obtain ⟨old, hdirs, hold⟩ := h.layout path found hpath hfound
        exact ⟨old, fun parent hparent ↦ hkept parent (hdirs parent hparent), hold⟩
      · rw [hstored] at hfound
        cases hfound
        exact ⟨place, hparents, Or.inr ⟨entry, rfl, hharmless⟩⟩
  · rcases hmade path hdir with hold | hnew
    · exact h.directories path hpath hold
    · exact ⟨place, hnew⟩
  · by_cases hroot : other.root settings = place.root settings
    · rw [hroot]
      exact ⟨contentHash, ⟨_, hmanifest, rfl⟩, hraw⟩
    · have hmanifestSame : after.content? (manifestPath (other.root settings)) =
          files.content? (manifestPath (other.root settings)) := by
        rcases hothers _ fun heq ↦ hroot (root_eq_of_manifestPath heq) with hsame | ⟨heq, -⟩
        · exact hsame
        · exact absurd heq manifestPath_ne_rawPath
      rw [FileTree.isFile, hmanifestSame] at hfile
      obtain ⟨recorded, ⟨fields, hfields, hhash⟩, name, raw, hcopy, hcopied⟩ :=
        h.manifests other hfile
      refine ⟨recorded, ⟨fields, hmanifestSame.trans hfields, hhash⟩, name, raw, ?_, hcopied⟩
      rcases hothers _ manifestPath_ne_rawPath.symm with hsame | ⟨heq, -⟩
      · exact hsame.trans hcopy
      · exact absurd (ArtifactPlace.root_eq_of_append heq).1 hroot

theorem recordArtifact_ok (settings : BronzeSettings) (call : IngestCall) (contentHash : String)
    {files : FileStore} {entry : String} {artifactRoot : TreePath} (hroot : files.isDir artifactRoot = true)
    (hraw : files.isFile (rawPath artifactRoot entry) = true)
    (hmanifest : files.isDir (manifestPath artifactRoot) = false) :
    ∃ result after, recordArtifact settings call contentHash artifactRoot files =
        (.ok result, after) ∧ result.artifactId = artifactIdOf artifactRoot ∧
      result.manifestPath = settings.asPosix (manifestPath artifactRoot) ∧
      result.contentHash = contentHash ∧
      files.write? (manifestPath artifactRoot) (.json (manifestJson settings call
        (artifactIdOf artifactRoot) contentHash)) call.now = some after := by
  have hentries : rawPath artifactRoot entry ∈ entries settings files (artifactRoot ++ ["raw"]) := by
    unfold entries
    rw [(settings.listed_perm _ _).mem_iff, List.mem_filter, FileTree.mem_below_of_isFile hraw]
    refine ⟨⟨⟨[entry], by simp [rawPath]⟩, ?_⟩, by simp [rawPath]⟩
    intro heq
    have hlength := congrArg List.length heq
    simp [rawPath] at hlength
  obtain ⟨targetRaw, others, hlisted⟩ := List.exists_cons_of_ne_nil (List.ne_nil_of_mem hentries)
  obtain ⟨after, hafter⟩ := FileTree.exists_write? (.json (manifestJson settings call
    (artifactIdOf artifactRoot) contentHash)) call.now
    (by rwa [manifestPath, List.dropLast_concat]) hmanifest
  have hfirst : firstEntry settings (artifactRoot ++ ["raw"]) files = (.ok targetRaw, files) := by
    unfold firstEntry
    rw [bind_apply, read_apply]
    dsimp only
    rw [hlisted]
    rfl
  have hwrite : Files.writeJson (manifestPath artifactRoot) (manifestJson settings call
      (artifactIdOf artifactRoot) contentHash) call.now files = (.ok (), after) := by
    rw [Files.writeJson, Files.perform, hafter]
  refine ⟨⟨artifactIdOf artifactRoot, settings.asPosix targetRaw,
    settings.asPosix (manifestPath artifactRoot), contentHash⟩, after, ?_, rfl, rfl, rfl, hafter⟩
  unfold recordArtifact
  rw [bind_apply, hfirst]
  dsimp only
  rw [bind_apply, hwrite]
  rfl

/-- No directory has the name of a manifest or a raw copy. -/
theorem Orderly.isDir_eq_false {files : FileStore} (h : Orderly settings files)
    {place : ArtifactPlace} {rest : TreePath} (hrest : ¬rest <+: ["raw"]) :
    files.isDir (place.root settings ++ rest) = false := by
  by_contra hdir
  rw [Bool.not_eq_false] at hdir
  obtain ⟨other, hother⟩ := h.directories _ (bronzeRoot_prefix_root _ _) hdir
  exact hrest (prefix_of_prefix_append hother (by rw [ArtifactPlace.root_length,
    ArtifactPlace.root_length])).2

/-- A new artifact gets its raw copy, unless the copied file is that copy itself. -/
theorem storeRaw_ok {files : FileStore} (h : Orderly settings files) {call : IngestCall}
    {content : FileContent} (hsource : files.content? call.sourceFile = some content)
    (hself : call.sourceFile ≠ rawPath (newArtifactRoot settings call) (name call.sourceFile)) :
    ∃ middle mtime after, files.makeDirs? (newArtifactRoot settings call ++ ["raw"]) =
        some middle ∧
      middle.write? (rawPath (newArtifactRoot settings call) (name call.sourceFile)) content mtime =
        some after ∧
      storeRaw settings call files = (.ok (newArtifactRoot settings call), after) := by
  have hroot : newArtifactRoot settings call = call.place.root settings := rfl
  rw [hroot] at hself ⊢
  obtain ⟨middle, hmiddle⟩ : ∃ middle, files.makeDirs? (call.place.root settings ++ ["raw"]) =
      some middle := by
    refine FileTree.exists_makeDirs? fun made hmade ↦ ?_
    rcases List.prefix_or_prefix_of_prefix hmade (bronzeRoot_prefix_root call.place ["raw"]) with
      habove | hbelow
    · exact h.clear made habove
    · rw [FileTree.isFile_eq_false_iff]
      by_contra hfile
      obtain ⟨found, hfound⟩ := Option.ne_none_iff_exists'.mp hfile
      obtain ⟨place, -, rfl | ⟨entry, rfl, -⟩⟩ := h.layout made found hbelow hfound
      · have hraw := (prefix_of_prefix_append hmade (by rw [ArtifactPlace.root_length,
          ArtifactPlace.root_length])).2
        rw [List.cons_prefix_cons] at hraw
        exact absurd hraw.1 (by decide)
      · have hraw := (prefix_of_prefix_append hmade (by rw [ArtifactPlace.root_length,
          ArtifactPlace.root_length])).2.length_le
        simp at hraw
  have htarget : middle.isDir (rawPath (call.place.root settings) (name call.sourceFile)) =
      false := by
    have hlonger : ¬["raw", name call.sourceFile] <+: ["raw"] := fun hshorter ↦
      absurd hshorter.length_le (by simp)
    rw [FileTree.isDir_makeDirs? hmiddle, rawPath, h.isDir_eq_false hlonger, Bool.or_false,
      decide_eq_false_iff_not, List.prefix_append_right_inj]
    exact hlonger
  have hrawDir : middle.isDir (rawPath (call.place.root settings)
      (name call.sourceFile)).dropLast = true := by
    rw [FileTree.isDir_makeDirs? hmiddle, rawPath]
    simp
  have hcontent := FileTree.content?_makeDirs? hmiddle call.sourceFile
  rw [hsource] at hcontent
  obtain ⟨mtime, hnode⟩ : ∃ mtime, middle.node? call.sourceFile = some (.file content mtime) := by
    unfold FileTree.content? at hcontent
    split at hcontent
    · next found mtime hnode =>
      cases hcontent
      exact ⟨mtime, hnode⟩
    · cases hcontent
  obtain ⟨after, hafter⟩ := FileTree.exists_write? content mtime hrawDir htarget
  refine ⟨middle, mtime, after, hmiddle, hafter, ?_⟩
  have hmake : Files.makeDirs (call.place.root settings ++ ["raw"]) files = (.ok (), middle) := by
    rw [Files.makeDirs, Files.perform, hmiddle]
  have hcopy : copy2 call.sourceFile (rawPath (call.place.root settings) (name call.sourceFile))
      middle = (.ok (), after) := by
    unfold copy2
    rw [bind_apply, read_apply]
    dsimp only
    simp only [htarget, hnode, Bool.false_eq_true, if_false, if_neg (Ne.symm hself)]
    unfold Files.perform
    dsimp only
    rw [hafter]
  have htargetPath : call.place.root settings ++ ["raw"] ++ [name call.sourceFile] =
      rawPath (call.place.root settings) (name call.sourceFile) := List.append_assoc _ _ _
  unfold storeRaw
  rw [hroot, bind_apply, hmake]
  dsimp only
  rw [htargetPath, bind_apply, hcopy]
  rfl

/-- What an ingest leaves: the manifest of an artifact of its dataset, which is the one that the
lookup found or a new one with a raw copy of the source, and every other file as it was. -/
structure Ingested (settings : BronzeSettings) (files after : FileStore) (call : IngestCall)
    (content : FileContent) (place : ArtifactPlace) : Prop where
  dataset : place.InDataset call
  manifest : after.content? (manifestPath (place.root settings)) = some (.json (manifestJson settings
    call (artifactIdOf (place.root settings)) (settings.sha256 content)))
  raw : HoldsRaw settings after (place.root settings) (settings.sha256 content)
  source : findExistingArtifact settings files call.workspaceId call.sourceId call.datasetId
        (settings.sha256 content) = .ok (some (place.root settings)) ∧
      Records files (place.root settings) (settings.sha256 content) ∧
      (∀ path, path ≠ manifestPath (place.root settings) →
        after.content? path = files.content? path) ∨
    findExistingArtifact settings files call.workspaceId call.sourceId call.datasetId
        (settings.sha256 content) = .ok none ∧
      place.root settings = newArtifactRoot settings call ∧
      (∀ other : ArtifactPlace, other.InDataset call →
        ¬Records files (other.root settings) (settings.sha256 content)) ∧
      ∀ path, ¬place.root settings <+: path → after.content? path = files.content? path

/-- An ingest of a readable file into an orderly bronze succeeds and leaves bronze orderly. The
source is no raw copy that the ingest would write, and harmless if it is named like a manifest. -/
theorem ingestFileToBronze_ok {files : FileStore} (h : Orderly settings files) {call : IngestCall}
    {content : FileContent} (hsource : files.content? call.sourceFile = some content)
    (hharmless : name call.sourceFile = "manifest.json" → Harmless settings content)
    (hself : findExistingArtifact settings files call.workspaceId call.sourceId call.datasetId
        (settings.sha256 content) = .ok none →
      call.sourceFile ≠ rawPath (newArtifactRoot settings call) (name call.sourceFile)) :
    ∃ place result after, ingestFileToBronze settings call files = (.ok result, after) ∧
      result.artifactId = artifactIdOf (place.root settings) ∧
      result.manifestPath = settings.asPosix (manifestPath (place.root settings)) ∧
      result.contentHash = settings.sha256 content ∧
      Ingested settings files after call content place ∧ Orderly settings after := by
  have hhash : sha256Of settings call.sourceFile files = (.ok (settings.sha256 content), files) := by
    unfold sha256Of
    rw [bind_apply, read_apply]
    dsimp only
    rw [hsource]
    rfl
  have hmanifestDir : ∀ {tree : FileStore} {place : ArtifactPlace}, Orderly settings tree →
      tree.isDir (manifestPath (place.root settings)) = false := fun htree ↦
    htree.isDir_eq_false fun hshorter ↦ absurd (List.cons_prefix_cons.mp hshorter).1 (by decide)
  unfold ingestFileToBronze
  rcases findExistingArtifact_cases h call content with ⟨hnone, hfresh⟩ |
    ⟨place, hdataset, hsome, hrecords⟩
  · obtain ⟨middle, mtime, stored, hmiddle, hstored, hstore⟩ := storeRaw_ok h hsource (hself hnone)
    have hplace : newArtifactRoot settings call = call.place.root settings := rfl
    rw [hplace] at hmiddle hstored hstore
    have hdirs : ∀ path, stored.isDir path =
        (decide (path <+: call.place.root settings ++ ["raw"]) || files.isDir path) := by
      intro path
      rw [FileTree.isDir_write? hstored, FileTree.isDir_makeDirs? hmiddle]
    have hparents : ∀ parent, parent <+: call.place.root settings → stored.isDir parent = true := by
      intro parent hparent
      rw [hdirs, decide_eq_true (hparent.trans (List.prefix_append _ _)), Bool.true_or]
    have hcontents : ∀ path, stored.content? path =
        if path = rawPath (call.place.root settings) (name call.sourceFile) then some content
        else files.content? path := by
      intro path
      rw [FileTree.content?_write? hstored, FileTree.content?_makeDirs? hmiddle]
    have hcopy : stored.content? (rawPath (call.place.root settings) (name call.sourceFile)) =
        some content := by
      rw [hcontents, if_pos rfl]
    have hmanifest : stored.isDir (manifestPath (call.place.root settings)) = false := by
      rw [hdirs, hmanifestDir h, Bool.or_false, decide_eq_false_iff_not, manifestPath,
        List.prefix_append_right_inj, List.cons_prefix_cons]
      exact fun hname ↦ absurd hname.1 (by decide)
    obtain ⟨result, after, hrecord, hid, hpath, hreported, hwrite⟩ :=
      recordArtifact_ok settings call (settings.sha256 content)
        (hparents _ List.prefix_rfl) (isFile_of_content? hcopy) hmanifest
    have hafter := FileTree.content?_write? hwrite
    have hwritten : after.content? (manifestPath (call.place.root settings)) = _ :=
      (hafter _).trans (if_pos rfl)
    have hkeptCopy : after.content? (rawPath (call.place.root settings) (name call.sourceFile)) =
        some content := by
      rw [hafter, if_neg manifestPath_ne_rawPath.symm, hcopy]
    refine ⟨call.place, result, after, ?_, hid, hpath, hreported, ⟨⟨rfl, rfl, rfl⟩, hwritten,
      ⟨_, content, hkeptCopy, rfl⟩, Or.inr ⟨hnone, rfl, hfresh, fun path hpath ↦ ?_⟩⟩, ?_⟩
    · rw [bind_apply, hhash]
      dsimp only
      rw [bind_apply, read_apply]
      dsimp only
      rw [bind_apply, ofExcept_apply, hnone]
      dsimp only
      rw [bind_apply, hstore]
      exact hrecord
    · have hneManifest : path ≠ manifestPath (call.place.root settings) := by
        rintro rfl
        exact hpath (List.prefix_append _ _)
      have hneRaw : path ≠ rawPath (call.place.root settings) (name call.sourceFile) := by
        rintro rfl
        exact hpath (List.prefix_append _ _)
      rw [hafter, if_neg hneManifest, hcontents, if_neg hneRaw]
    · refine h.record hwritten ⟨_, content, hkeptCopy, rfl⟩ (fun path hne ↦ ?_) hharmless
        (fun path hdir ↦ ?_) (fun path hdir ↦ ?_) fun parent hparent ↦ ?_
      · by_cases hraw : path = rawPath (call.place.root settings) (name call.sourceFile)
        · exact Or.inr ⟨hraw, hraw ▸ hkeptCopy⟩
        · rw [hafter, if_neg hne, hcontents, if_neg hraw]
          exact Or.inl rfl
      · rw [FileTree.isDir_write? hwrite, hdirs, hdir, Bool.or_true]
      · rw [FileTree.isDir_write? hwrite, hdirs, Bool.or_eq_true, decide_eq_true_iff] at hdir
        exact hdir.symm
      · rw [FileTree.isDir_write? hwrite]
        exact hparents parent hparent
  · obtain ⟨fields, hfields, hrecorded⟩ := id hrecords
    obtain ⟨hparents, -⟩ := h.below hfields
    obtain ⟨recorded, ⟨fields', hfields', hrecorded'⟩, entry, raw, hraw, hcopied⟩ :=
      h.manifests place (isFile_of_content? hfields)
    rw [hfields] at hfields'
    cases hfields'
    have hsame : recorded = settings.sha256 content := by
      rw [hrecorded] at hrecorded'
      exact (Json.str.inj hrecorded').symm
    obtain ⟨result, after, hrecord, hid, hpath, hreported, hwrite⟩ :=
      recordArtifact_ok settings call (settings.sha256 content)
        (hparents _ List.prefix_rfl) (isFile_of_content? hraw) (hmanifestDir h)
    have hafter := FileTree.content?_write? hwrite
    have hwritten : after.content? (manifestPath (place.root settings)) = _ :=
      (hafter _).trans (if_pos rfl)
    have hothers : ∀ path, path ≠ manifestPath (place.root settings) →
        after.content? path = files.content? path := fun path hne ↦ by rw [hafter, if_neg hne]
    have hholds : HoldsRaw settings after (place.root settings) (settings.sha256 content) :=
      ⟨entry, raw, (hothers _ manifestPath_ne_rawPath.symm).trans hraw, hcopied.trans hsame⟩
    refine ⟨place, result, after, ?_, hid, hpath, hreported,
      ⟨hdataset, hwritten, hholds, Or.inl ⟨hsome, hrecords, hothers⟩⟩, ?_⟩
    · rw [bind_apply, hhash]
      dsimp only
      rw [bind_apply, read_apply]
      dsimp only
      rw [bind_apply, ofExcept_apply, hsome]
      exact hrecord
    · refine h.record hwritten hholds (fun path hne ↦ Or.inl (hothers path hne)) hharmless
        (fun path hdir ↦ ?_) (fun path hdir ↦ ?_) fun parent hparent ↦ ?_
      · rwa [FileTree.isDir_write? hwrite]
      · rw [FileTree.isDir_write? hwrite] at hdir
        exact Or.inl hdir
      · rw [FileTree.isDir_write? hwrite]
        exact hparents parent hparent

end SchemaPilot.Workers.BronzeFiles
