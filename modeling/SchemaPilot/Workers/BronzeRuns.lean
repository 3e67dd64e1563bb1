import SchemaPilot.Workers.BronzeSteps

/-!
# Runs over bronze

What holds over whole runs of ingests and purges. `appendOnly_of_appends` says when ingests leave
the artifacts before them alone and give the same content the same artifact, and
`ingestsSucceed_of_spares` when every ingest succeeds though purges delete files in between.
-/

namespace SchemaPilot.Workers.BronzeFiles

open Library Library.Effect Library.Json Library.Versions SharedDomain

variable {settings : BronzeSettings}

/-! ### Steps -/

/-- What bronze is reads off what lies in it and on the way to it. -/
theorem Orderly.congr {files after : FileStore} (h : Orderly settings files)
    (hsame : ∀ path, path <+: bronzeRoot settings ∨ bronzeRoot settings <+: path →
      after.node? path = files.node? path) : Orderly settings after := by
  have hcontent : ∀ path, path <+: bronzeRoot settings ∨ bronzeRoot settings <+: path →
      after.content? path = files.content? path := fun path hpath ↦ by
    rw [FileTree.content?, hsame path hpath, FileTree.content?]
  have hdir : ∀ path, path <+: bronzeRoot settings ∨ bronzeRoot settings <+: path →
      after.isDir path = files.isDir path := fun path hpath ↦ by
    rw [FileTree.isDir, hsame path hpath, FileTree.isDir]
  have hcomparable : ∀ (place : ArtifactPlace) (parent : TreePath), parent <+: place.root settings →
      parent <+: bronzeRoot settings ∨ bronzeRoot settings <+: parent := fun place parent hparent ↦
    List.prefix_or_prefix_of_prefix hparent
      ((List.append_nil (place.root settings)) ▸ bronzeRoot_prefix_root place [])
  refine ⟨fun path hpath ↦ ?_, fun path content hpath hfound ↦ ?_, fun path hpath hfound ↦ ?_,
    fun place hfile ↦ ?_⟩
  · rw [FileTree.isFile, hcontent path (Or.inl hpath)]
    exact h.clear path hpath
  · rw [hcontent path (Or.inr hpath)] at hfound
    obtain ⟨place, hparents, hlayout⟩ := h.layout path content hpath hfound
    refine ⟨place, fun parent hparent ↦ ?_, hlayout⟩
    rw [hdir parent (hcomparable place parent hparent)]
    exact hparents parent hparent
  · rw [hdir path (Or.inr hpath)] at hfound
    exact h.directories path hpath hfound
  · have hmanifest : after.content? (manifestPath (place.root settings)) =
        files.content? (manifestPath (place.root settings)) :=
      hcontent _ (Or.inr (bronzeRoot_prefix_root _ _))
    rw [FileTree.isFile, hmanifest] at hfile
    obtain ⟨recorded, ⟨fields, hfields, hhash⟩, entry, raw, hraw, hcopied⟩ :=
      h.manifests place hfile
    exact ⟨recorded, ⟨fields, hmanifest.trans hfields, hhash⟩, entry, raw,
      (hcontent _ (Or.inr (bronzeRoot_prefix_root _ _))).trans hraw, hcopied⟩

theorem Orderly.outside {files : FileStore} (h : Orderly settings files)
    (change : OutsideChange settings) : Orderly settings (change.change files) :=
  h.congr fun path hpath ↦ change.keeps files path hpath

/-- A purge that keeps the manifest of an artifact keeps a raw copy with the hash it records. -/
def KeepsRecorded (settings : BronzeSettings) (files : FileStore) (workspaceId : String)
    (retentionDays now : ℤ) : Prop :=
  Purge.refusal? files settings.storageRoot retentionDays = none →
  ∀ (place : ArtifactPlace) (contentHash : String),
    Records files (place.root settings) contentHash →
    manifestPath (place.root settings) ∉
      Purge.toDelete files settings.storageRoot workspaceId retentionDays now →
    ∃ entry content, files.content? (rawPath (place.root settings) entry) = some content ∧
      settings.sha256 content = contentHash ∧ rawPath (place.root settings) entry ∉
        Purge.toDelete files settings.storageRoot workspaceId retentionDays now

theorem Orderly.purge {files : FileStore} (h : Orderly settings files) {workspaceId : String}
    {retentionDays now : ℤ} (hkeeps : KeepsRecorded settings files workspaceId retentionDays now) :
    Orderly settings (purgeWorkspaceArtifacts workspaceId settings.storageRoot retentionDays false
      now files).2 := by
  have hcontent := Purge.content?_purgeWorkspaceArtifacts workspaceId settings.storageRoot
    retentionDays now files
  have hdir := Purge.isDir_purgeWorkspaceArtifacts workspaceId settings.storageRoot retentionDays
    now files
  by_cases hrefusal : Purge.refusal? files settings.storageRoot retentionDays = none
  case neg =>
    have hsame : (purgeWorkspaceArtifacts workspaceId settings.storageRoot retentionDays false now
        files).2 = files := by
      unfold purgeWorkspaceArtifacts
      rw [bind_apply, read_apply]
      dsimp only
      cases hreason : Purge.refusal? files settings.storageRoot retentionDays with
      | none => exact absurd hreason hrefusal
      | some reason => rfl
    rw [hsame]
    exact h
  generalize (purgeWorkspaceArtifacts workspaceId settings.storageRoot retentionDays false now
    files).2 = after at hcontent hdir ⊢
  have hold : ∀ path content, after.content? path = some content →
      files.content? path = some content ∧
        path ∉ Purge.toDelete files settings.storageRoot workspaceId retentionDays now := by
    intro path content hfound
    rw [hcontent] at hfound
    split_ifs at hfound with hdeleted
    · exact ⟨hfound, fun hmem ↦ hdeleted ⟨hrefusal, hmem⟩⟩
  have hstays : ∀ path content, files.content? path = some content →
      path ∉ Purge.toDelete files settings.storageRoot workspaceId retentionDays now →
      after.content? path = some content := by
    intro path content hfound hkept
    rw [hcontent, if_neg fun hdeleted ↦ hkept hdeleted.2, hfound]
  refine ⟨fun path hpath ↦ ?_, fun path content hpath hfound ↦ ?_, fun path hpath hfound ↦ ?_,
    fun place hfile ↦ ?_⟩
  · rw [FileTree.isFile_eq_false_iff]
    by_contra hfile
    obtain ⟨content, hfound⟩ := Option.ne_none_iff_exists'.mp hfile
    have hclear := h.clear path hpath
    rw [isFile_of_content? (hold path content hfound).1] at hclear
    cases hclear
  · obtain ⟨place, hparents, hlayout⟩ := h.layout path content hpath (hold path content hfound).1
    refine ⟨place, fun parent hparent ↦ (hdir parent).2 path ?_ (isFile_of_content? hfound)
      (hparents parent hparent), hlayout⟩
    rcases hlayout with rfl | ⟨entry, rfl, -⟩
    · exact hparent.trans (List.prefix_append _ _)
    · exact hparent.trans (List.prefix_append _ _)
  · exact h.directories path hpath ((hdir path).1 hfound)
  · obtain ⟨content, hfound⟩ := Option.isSome_iff_exists.mp hfile
    obtain ⟨hbefore, hkept⟩ := hold _ _ hfound
    obtain ⟨recorded, ⟨fields, hfields, hhash⟩, -⟩ := h.manifests place (isFile_of_content? hbefore)
    obtain ⟨entry, raw, hraw, hcopied, hrawKept⟩ :=
      hkeeps hrefusal place recorded ⟨fields, hfields, hhash⟩ hkept
    exact ⟨recorded, ⟨fields, hstays _ _ hfields hkept, hhash⟩, entry, raw,
      hstays _ _ hraw hrawKept, hcopied⟩

/-- An ingest whose source cannot be read changes nothing. -/
theorem ingestFileToBronze_unreadable {files : FileStore} {call : IngestCall}
    (h : files.content? call.sourceFile = none) :
    ingestFileToBronze settings call files = (.error (.other "OSError"), files) := by
  unfold ingestFileToBronze sha256Of
  rw [bind_apply, bind_apply, read_apply]
  dsimp only
  rw [h]
  rfl

/-! ### Ingests between purges -/

/-- An ingest leaves the artifact it reports, with a raw copy of the hash it reports. -/
def LeavesArtifact (settings : BronzeSettings) (files : FileStore) (result : BronzeIngestResult) :
    Prop :=
  ∃ artifactRoot, result.artifactId = artifactIdOf artifactRoot ∧
    result.manifestPath = settings.asPosix (manifestPath artifactRoot) ∧
    files.isFile (manifestPath artifactRoot) = true ∧
    HoldsRaw settings files artifactRoot result.contentHash

/-- In a run, every ingest of a readable file succeeds and leaves an artifact with its content. -/
def IngestsSucceed (settings : BronzeSettings) (start : FileStore)
    (operations : List (BronzeOperation settings)) : Prop :=
  ∀ step ∈ trace (applyBronze settings) start operations, ∀ call content,
    step.2 = .ingest call → step.1.content? call.sourceFile = some content →
    ∃ result, (ingestFileToBronze settings call step.1).1 = .ok result ∧
      result.contentHash = settings.sha256 content ∧
      LeavesArtifact settings (applyBronze settings step.1 step.2) result

/-- A source named like a manifest is harmless, an ingest that makes an artifact does not copy a file
onto itself, and a purge keeps what the manifests it keeps record. -/
def SparesBronze (settings : BronzeSettings) (files : FileStore) :
    BronzeOperation settings → Prop
  | .ingest call => ∀ content, files.content? call.sourceFile = some content →
    (name call.sourceFile = "manifest.json" → Harmless settings content) ∧
    (findExistingArtifact settings files call.workspaceId call.sourceId call.datasetId
        (settings.sha256 content) = .ok none →
      call.sourceFile ≠ rawPath (newArtifactRoot settings call) (name call.sourceFile))
  | .purge workspaceId retentionDays now =>
    KeepsRecorded settings files workspaceId retentionDays now
  | .outside _ => True

theorem Orderly.step {files : FileStore} (h : Orderly settings files)
    {operation : BronzeOperation settings} (hspares : SparesBronze settings files operation) :
    Orderly settings (applyBronze settings files operation) := by
  cases operation with
  | ingest call =>
    cases hsource : files.content? call.sourceFile with
    | none =>
      rw [applyBronze, ingestFileToBronze_unreadable hsource]
      exact h
    | some content =>
      obtain ⟨hharmless, hself⟩ := hspares content hsource
      obtain ⟨_, _, after, hrun, -, -, -, -, hafter⟩ :=
        ingestFileToBronze_ok h hsource hharmless hself
      rw [applyBronze, hrun]
      exact hafter
  | purge workspaceId retentionDays now => exact h.purge hspares
  | outside change => exact h.outside change

theorem orderly_run {start : FileStore} {operations : List (BronzeOperation settings)}
    (hstart : Orderly settings start)
    (hspares : ∀ step ∈ trace (applyBronze settings) start operations,
      SparesBronze settings step.1 step.2) :
    ∀ earlier, earlier <+: operations →
      Orderly settings (run (applyBronze settings) start earlier) := by
  refine prefix_induction hstart fun earlier operation hearlier ih ↦ ?_
  rw [run_snoc]
  exact ih.step (hspares _ (mem_trace hearlier))

/-- Ingests succeed over every run whose purges keep the raw copies that the kept manifests
record. -/
theorem ingestsSucceed_of_spares (settings : BronzeSettings) (start : FileStore)
    (operations : List (BronzeOperation settings)) (hstart : NoBronze settings start)
    (hspares : ∀ step ∈ trace (applyBronze settings) start operations,
      SparesBronze settings step.1 step.2) : IngestsSucceed settings start operations := by
  rintro ⟨files, operation⟩ hstep call content rfl hsource
  obtain ⟨earlier, hearlier, rfl⟩ := exists_prefix_of_mem_trace hstep
  have horderly := orderly_run hstart.orderly hspares earlier
    ((List.prefix_append _ _).trans hearlier)
  obtain ⟨hharmless, hself⟩ := hspares _ hstep content hsource
  obtain ⟨place, result, after, hrun, hid, hpath, hhash, hingested, -⟩ :=
    ingestFileToBronze_ok horderly hsource hharmless hself
  refine ⟨result, congrArg Prod.fst hrun, hhash, place.root settings, hid, hpath, ?_, ?_⟩
  · rw [applyBronze, hrun]
    exact isFile_of_content? hingested.manifest
  · rw [applyBronze, hrun, hhash]
    exact hingested.raw

/-! ### Ingests alone -/

/-- The artifacts of a run of ingests stay as they are, and the same content gets the same
artifact. -/
structure AppendOnly (settings : BronzeSettings) (start : FileStore)
    (operations : List (BronzeOperation settings)) : Prop where
  unchanged : ∀ step ∈ trace (applyBronze settings) start operations, ∀ call,
    step.2 = .ingest call → ∀ workspaceId sourceId datasetId ingestDate artifactName path,
      datasetRoot settings workspaceId sourceId datasetId ++ [ingestDate, artifactName] <+: path →
      step.1.isDir (datasetRoot settings workspaceId sourceId datasetId ++
        [ingestDate, artifactName]) = true →
      step.1.isFile path = true →
      (applyBronze settings step.1 step.2).content? path = step.1.content? path
  repeated : ∀ earlier call middle again,
    earlier ++ [.ingest call] ++ middle ++ [.ingest again] <+: operations →
    again.workspaceId = call.workspaceId → again.sourceId = call.sourceId →
    again.datasetId = call.datasetId → ∀ result,
      (ingestFileToBronze settings call (run (applyBronze settings) start earlier)).1 =
        .ok result →
      (run (applyBronze settings) start (earlier ++ [.ingest call] ++ middle)).content?
        again.sourceFile =
          (run (applyBronze settings) start earlier).content? call.sourceFile →
      ∃ later, (ingestFileToBronze settings again
          (run (applyBronze settings) start (earlier ++ [.ingest call] ++ middle))).1 =
            .ok later ∧ later.artifactId = result.artifactId

/-- A source named like a manifest is harmless; an ingest of new content makes a directory that is
not there, and one of known content finds the manifest it writes. -/
def Appends (settings : BronzeSettings) (files : FileStore) : BronzeOperation settings → Prop
  | .ingest call => ∀ content, files.content? call.sourceFile = some content →
    (name call.sourceFile = "manifest.json" → Harmless settings content) ∧
    match findExistingArtifact settings files call.workspaceId call.sourceId call.datasetId
      (settings.sha256 content) with
    | .ok none => files.pathExists (newArtifactRoot settings call) = false
    | .ok (some artifactRoot) => files.content? (manifestPath artifactRoot) =
        some (.json (manifestJson settings call (artifactIdOf artifactRoot)
          (settings.sha256 content)))
    | .error _ => True
  | .purge _ _ _ => False
  | .outside _ => True

theorem Appends.spares {files : FileStore} (h : Orderly settings files)
    {operation : BronzeOperation settings} (happends : Appends settings files operation) :
    SparesBronze settings files operation := by
  cases operation with
  | ingest call =>
    intro content hsource
    obtain ⟨hharmless, hnew⟩ := happends content hsource
    refine ⟨hharmless, fun hnone hself ↦ ?_⟩
    rw [hnone] at hnew
    rw [hself] at hsource
    have hmissing : files.pathExists (call.place.root settings) = false := hnew
    have hroot : files.isDir (call.place.root settings) = true :=
      (h.below hsource).1 _ List.prefix_rfl
    rw [pathExists_of_isDir hroot] at hmissing
    cases hmissing
  | purge _ _ _ => exact happends.elim
  | outside change => trivial

theorem appends_of_new {files : FileStore} {call : IngestCall}
    (hname : name call.sourceFile ≠ "manifest.json")
    (hnone : ∀ content, files.content? call.sourceFile = some content →
      findExistingArtifact settings files call.workspaceId call.sourceId call.datasetId
        (settings.sha256 content) = .ok none)
    (hnew : files.pathExists (newArtifactRoot settings call) = false) :
    Appends settings files (.ingest call) := by
  intro content hsource
  rw [hnone content hsource]
  exact ⟨fun hmanifest ↦ absurd hmanifest hname, hnew⟩

theorem appends_of_known {files : FileStore} {call : IngestCall} (artifactRoot : TreePath)
    (hname : name call.sourceFile ≠ "manifest.json")
    (hknown : ∀ content, files.content? call.sourceFile = some content →
      findExistingArtifact settings files call.workspaceId call.sourceId call.datasetId
          (settings.sha256 content) = .ok (some artifactRoot) ∧
        files.content? (manifestPath artifactRoot) = some (.json (manifestJson settings call
          (artifactIdOf artifactRoot) (settings.sha256 content)))) :
    Appends settings files (.ingest call) := by
  intro content hsource
  rw [(hknown content hsource).1]
  exact ⟨fun hmanifest ↦ absurd hmanifest hname, (hknown content hsource).2⟩

theorem content?_of_appends {files : FileStore} (h : Orderly settings files) {call : IngestCall}
    (happends : Appends settings files (.ingest call))
    {workspaceId sourceId datasetId ingestDate artifactName : String} {path : TreePath}
    (hpath : datasetRoot settings workspaceId sourceId datasetId ++ [ingestDate, artifactName] <+:
      path)
    (hdir : files.isDir (datasetRoot settings workspaceId sourceId datasetId ++
      [ingestDate, artifactName]) = true) :
    (applyBronze settings files (.ingest call)).content? path = files.content? path := by
  cases hsource : files.content? call.sourceFile with
  | none => rw [applyBronze, ingestFileToBronze_unreadable hsource]
  | some content =>
    obtain ⟨hharmless, hself⟩ := happends.spares h content hsource
    obtain ⟨-, hnew⟩ := happends content hsource
    obtain ⟨place, result, after, hrun, -, -, -, hingested, -⟩ :=
      ingestFileToBronze_ok h hsource hharmless hself
    rw [applyBronze, hrun]
    dsimp only
    rcases hingested.source with ⟨hfound, -, hothers⟩ | ⟨hnone, hroot, -, hothers⟩
    · rw [hfound] at hnew
      by_cases hmanifest : path = manifestPath (place.root settings)
      · rw [hmanifest, hingested.manifest, hnew]
      · exact hothers path hmanifest
    · rw [hnone] at hnew
      refine hothers path fun hbelow ↦ ?_
      have hsame : place.root settings =
          datasetRoot settings workspaceId sourceId datasetId ++ [ingestDate, artifactName] := by
        rcases List.prefix_or_prefix_of_prefix hbelow hpath with hle | hle
        · exact hle.eq_of_length (by simp [ArtifactPlace.root, datasetRoot])
        · exact (hle.eq_of_length (by simp [ArtifactPlace.root, datasetRoot])).symm
      rw [← hsame, hroot] at hdir
      rw [pathExists_of_isDir hdir] at hnew
      cases hnew

/-- In a dataset one manifest records a hash. -/
def UniqueRecords (settings : BronzeSettings) (files : FileStore) : Prop :=
  ∀ (place other : ArtifactPlace) (call : IngestCall) (contentHash : String),
    place.InDataset call → other.InDataset call →
    Records files (place.root settings) contentHash →
    Records files (other.root settings) contentHash →
    place.root settings = other.root settings

theorem OutsideChange.content?_manifestPath (change : OutsideChange settings) (files : FileStore)
    (place : ArtifactPlace) : (change.change files).content? (manifestPath (place.root settings)) =
      files.content? (manifestPath (place.root settings)) := by
  have hnode := change.keeps files (manifestPath (place.root settings))
    (Or.inr (bronzeRoot_prefix_root place ["manifest.json"]))
  rw [FileTree.content?, hnode, FileTree.content?]

/-- A manifest on record stays on record. -/
theorem records_of_appends {files : FileStore} (h : Orderly settings files)
    {operation : BronzeOperation settings} (happends : Appends settings files operation)
    {place : ArtifactPlace} {contentHash : String}
    (hrecords : Records files (place.root settings) contentHash) :
    Records (applyBronze settings files operation) (place.root settings) contentHash := by
  obtain ⟨fields, hfields, hhash⟩ := hrecords
  refine ⟨fields, ?_, hhash⟩
  cases operation with
  | ingest call =>
    exact (content?_of_appends h happends (List.prefix_append _ _)
      ((h.below hfields).1 _ List.prefix_rfl)).trans hfields
  | purge _ _ _ => exact happends.elim
  | outside change =>
    exact (change.content?_manifestPath files place).trans hfields

theorem Records.eq_of_manifest {files : FileStore} {artifactRoot : TreePath} {call : IngestCall}
    {artifactId contentHash recorded : String}
    (hmanifest : files.content? (manifestPath artifactRoot) =
      some (.json (manifestJson settings call artifactId contentHash)))
    (h : Records files artifactRoot recorded) : recorded = contentHash := by
  obtain ⟨fields, hfields, hhash⟩ := h
  rw [hmanifest] at hfields
  cases hfields
  exact (Json.str.inj hhash).symm

theorem ArtifactPlace.InDataset.of_root_eq {place other : ArtifactPlace} {call : IngestCall}
    (h : place.root settings = other.root settings) (hdataset : place.InDataset call) :
    other.InDataset call := by
  have hroots := (prefix_of_prefix_append (a := datasetRoot settings place.workspaceId
    place.sourceId place.datasetId) (b := datasetRoot settings other.workspaceId other.sourceId
    other.datasetId) ⟨[], (List.append_nil _).trans h⟩ (by simp [datasetRoot])).1
  simp only [datasetRoot, List.append_cancel_left_eq, List.cons.injEq] at hroots
  obtain ⟨hworkspace, hsource, hplace⟩ := hdataset
  exact ⟨hroots.2.1 ▸ hworkspace, hroots.2.2.1 ▸ hsource, hroots.2.2.2.1 ▸ hplace⟩

/-- What records a hash after an ingest of a file did so before, unless it is the new manifest and
the hash that of the file. -/
theorem records_before {files after : FileStore} {call : IngestCall} {content : FileContent}
    {place other : ArtifactPlace} {contentHash : String}
    (hingested : Ingested settings files after call content place)
    (h : Records after (other.root settings) contentHash) :
    Records files (other.root settings) contentHash ∨
      other.root settings = place.root settings ∧ contentHash = settings.sha256 content := by
  by_cases hroot : other.root settings = place.root settings
  · exact Or.inr ⟨hroot, (hroot ▸ h).eq_of_manifest hingested.manifest⟩
  · obtain ⟨fields, hfields, hhash⟩ := h
    refine Or.inl ⟨fields, ?_, hhash⟩
    rcases hingested.source with ⟨-, -, hothers⟩ | ⟨-, -, -, hothers⟩
    · rw [← hothers _ fun heq ↦ hroot (root_eq_of_manifestPath heq)]
      exact hfields
    · rw [← hothers _ fun hbelow ↦ ?_]
      · exact hfields
      · rw [← List.append_nil (place.root settings)] at hbelow
        exact hroot (prefix_of_prefix_append hbelow (by rw [ArtifactPlace.root_length,
          ArtifactPlace.root_length])).1.symm

theorem UniqueRecords.step {files : FileStore} (hunique : UniqueRecords settings files)
    (h : Orderly settings files) {operation : BronzeOperation settings}
    (happends : Appends settings files operation) :
    UniqueRecords settings (applyBronze settings files operation) := by
  intro place other dataset contentHash hplace hother hrecords hrecords'
  cases operation with
  | ingest call =>
    cases hsource : files.content? call.sourceFile with
    | none =>
      rw [applyBronze, ingestFileToBronze_unreadable hsource] at hrecords hrecords'
      exact hunique place other dataset contentHash hplace hother hrecords hrecords'
    | some content =>
      obtain ⟨hharmless, hself⟩ := happends.spares h content hsource
      obtain ⟨made, result, after, hrun, -, -, -, hingested, -⟩ :=
        ingestFileToBronze_ok h hsource hharmless hself
      rw [applyBronze, hrun] at hrecords hrecords'
      have hknown : ∀ known : ArtifactPlace, known.InDataset dataset →
          Records files (known.root settings) (settings.sha256 content) →
          made.InDataset dataset → known.root settings = made.root settings := by
        intro known hknown hrecorded hmade
        rcases hingested.source with ⟨-, hfound, -⟩ | ⟨-, -, hfresh, -⟩
        · exact hunique known made dataset _ hknown hmade hrecorded hfound
        · refine absurd hrecorded (hfresh known ?_)
          obtain ⟨hworkspace, hsourceId, hdatasetId⟩ := hingested.dataset
          exact ⟨hknown.1.trans (hmade.1.symm.trans hworkspace),
            hknown.2.1.trans (hmade.2.1.symm.trans hsourceId),
            hknown.2.2.trans (hmade.2.2.symm.trans hdatasetId)⟩
      rcases records_before hingested hrecords with hbefore | ⟨hroot, hhash⟩
      · rcases records_before hingested hrecords' with hbefore' | ⟨hroot', hhash'⟩
        · exact hunique place other dataset contentHash hplace hother hbefore hbefore'
        · rw [hroot']
          exact hknown place hplace (hhash' ▸ hbefore) (hother.of_root_eq hroot')
      · rcases records_before hingested hrecords' with hbefore' | ⟨hroot', hhash'⟩
        · rw [hroot]
          exact (hknown other hother (hhash ▸ hbefore') (hplace.of_root_eq hroot)).symm
        · rw [hroot, hroot']
  | purge _ _ _ => exact happends.elim
  | outside change =>
    have hsame : ∀ known : ArtifactPlace, Records (change.change files) (known.root settings)
        contentHash → Records files (known.root settings) contentHash := by
      rintro known ⟨fields, hfields, hhash⟩
      exact ⟨fields, (change.content?_manifestPath files known).symm.trans hfields, hhash⟩
    exact hunique place other dataset contentHash hplace hother (hsame place hrecords)
      (hsame other hrecords')

theorem NoBronze.uniqueRecords {files : FileStore} (h : NoBronze settings files) :
    UniqueRecords settings files := by
  rintro place - - contentHash - - ⟨fields, hfields, -⟩ -
  have hne : manifestPath (place.root settings) ≠ bronzeRoot settings := fun heq ↦
    not_prefix_bronzeRoot place ["manifest.json"] ⟨[], (List.append_nil _).trans heq⟩
  have hmissing := h.empty (manifestPath (place.root settings)) (bronzeRoot_prefix_root _ _) hne
  rw [pathExists_of_isFile (isFile_of_content? hfields)] at hmissing
  cases hmissing

/-- Bronze after each part of a run of ingests. -/
theorem appends_run {start : FileStore} {operations : List (BronzeOperation settings)}
    (hstart : NoBronze settings start)
    (happends : ∀ step ∈ trace (applyBronze settings) start operations,
      Appends settings step.1 step.2) :
    ∀ earlier, earlier <+: operations →
      Orderly settings (run (applyBronze settings) start earlier) ∧
        UniqueRecords settings (run (applyBronze settings) start earlier) := by
  refine prefix_induction ⟨hstart.orderly, hstart.uniqueRecords⟩
    fun earlier operation hearlier ih ↦ ?_
  have hstep := happends _ (mem_trace hearlier)
  rw [run_snoc]
  exact ⟨ih.1.step (hstep.spares ih.1), ih.2.step ih.1 hstep⟩

/-- The manifest of an ingest stays on record in the rest of a run. -/
theorem records_run {start : FileStore} {operations : List (BronzeOperation settings)}
    (hstart : NoBronze settings start)
    (happends : ∀ step ∈ trace (applyBronze settings) start operations,
      Appends settings step.1 step.2) {earlier middle : List (BronzeOperation settings)}
    {place : ArtifactPlace} {contentHash : String} (hoperations : earlier ++ middle <+: operations)
    (hrecords : Records (run (applyBronze settings) start earlier) (place.root settings)
      contentHash) :
    Records (run (applyBronze settings) start (earlier ++ middle)) (place.root settings)
      contentHash := by
  refine prefix_induction (P := fun part ↦
    Records (run (applyBronze settings) start (earlier ++ part)) (place.root settings) contentHash)
    ?_ (fun part operation hpart ih ↦ ?_) middle List.prefix_rfl
  · rwa [List.append_nil]
  · have hstep : earlier ++ part ++ [operation] <+: operations := by
      rw [List.append_assoc]
      exact ((List.prefix_append_right_inj _).mpr hpart).trans hoperations
    rw [← List.append_assoc, run_snoc]
    exact records_of_appends (appends_run hstart happends _
      ((List.prefix_append _ _).trans hstep)).1 (happends _ (mem_trace hstep)) ih

/-- The same content gets the artifact it got before. -/
theorem repeated_of_appends {start : FileStore} {operations : List (BronzeOperation settings)}
    (hstart : NoBronze settings start)
    (happends : ∀ step ∈ trace (applyBronze settings) start operations,
      Appends settings step.1 step.2) {earlier middle : List (BronzeOperation settings)}
    {call again : IngestCall}
    (hoperations : earlier ++ [.ingest call] ++ middle ++ [.ingest again] <+: operations)
    (hdataset : ∀ place : ArtifactPlace, place.InDataset call → place.InDataset again)
    {result : BronzeIngestResult}
    (hresult : (ingestFileToBronze settings call (run (applyBronze settings) start earlier)).1 =
      .ok result)
    (hsame : (run (applyBronze settings) start (earlier ++ [.ingest call] ++ middle)).content?
      again.sourceFile = (run (applyBronze settings) start earlier).content? call.sourceFile) :
    ∃ later, (ingestFileToBronze settings again
        (run (applyBronze settings) start (earlier ++ [.ingest call] ++ middle))).1 = .ok later ∧
      later.artifactId = result.artifactId := by
  have hmiddle : earlier ++ [.ingest call] ++ middle <+: operations :=
    (List.prefix_append _ _).trans hoperations
  have hfirst : earlier ++ [.ingest call] <+: operations :=
    (List.prefix_append _ _).trans hmiddle
  have hbefore := appends_run hstart happends earlier ((List.prefix_append _ _).trans hfirst)
  have hafter := appends_run hstart happends _ hmiddle
  have hcall := happends _ (mem_trace hfirst)
  have hagain := happends _ (mem_trace hoperations)
  cases hsource : (run (applyBronze settings) start earlier).content? call.sourceFile with
  | none =>
    rw [ingestFileToBronze_unreadable hsource] at hresult
    cases hresult
  | some content =>
    obtain ⟨hharmless, hself⟩ := hcall.spares hbefore.1 content hsource
    obtain ⟨place, found, after, hrun, hid, -, -, hingested, -⟩ :=
      ingestFileToBronze_ok hbefore.1 hsource hharmless hself
    rw [hrun] at hresult
    cases hresult
    have hrecorded : Records (run (applyBronze settings) start (earlier ++ [.ingest call]))
        (place.root settings) (settings.sha256 content) := by
      rw [run_snoc, applyBronze, hrun]
      exact ⟨_, hingested.manifest, rfl⟩
    have hstays := records_run hstart happends hmiddle hrecorded
    rw [hsource] at hsame
    obtain ⟨hharmless', hself'⟩ := hagain.spares hafter.1 content hsame
    obtain ⟨other, later, _, hrun', hid', -, -, hingested', -⟩ :=
      ingestFileToBronze_ok hafter.1 hsame hharmless' hself'
    refine ⟨later, congrArg Prod.fst hrun', ?_⟩
    rw [hid, hid']
    rcases hingested'.source with ⟨-, hknown, -⟩ | ⟨-, -, hfresh, -⟩
    · rw [hafter.2 place other again _ (hdataset place hingested.dataset) hingested'.dataset hstays
        hknown]
    · exact absurd hstays (hfresh place (hdataset place hingested.dataset))

/-- Over every run of ingests that make new directories for new content and write known content's
manifests as they are, bronze is append-only. -/
theorem appendOnly_of_appends (settings : BronzeSettings) (start : FileStore)
    (operations : List (BronzeOperation settings)) (hstart : NoBronze settings start)
    (happends : ∀ step ∈ trace (applyBronze settings) start operations,
      Appends settings step.1 step.2) : AppendOnly settings start operations := by
  constructor
  · rintro ⟨files, operation⟩ hstep call rfl _ _ _ _ _ path hpath hdir -
    obtain ⟨earlier, hearlier, rfl⟩ := exists_prefix_of_mem_trace hstep
    exact content?_of_appends (appends_run hstart happends earlier
      ((List.prefix_append _ _).trans hearlier)).1 (happends _ hstep) hpath hdir
  · intro earlier call middle again hoperations hworkspace hsourceId hdatasetId result hresult hsame
    refine repeated_of_appends hstart happends hoperations (fun place hplace ↦ ?_) hresult hsame
    exact ⟨hplace.1.trans hworkspace.symm, hplace.2.1.trans hsourceId.symm,
      hplace.2.2.trans hdatasetId.symm⟩

/-! ### Runs over one file -/

/-- A storage root `/srv` on a system that lists in the order of the tree, with the hash of the file
of the runs below. -/
def localSettings : BronzeSettings where
  storageRoot := ["srv"]
  sha256 _ := "246f53bbf26ec4f082a3bddd50e7628181b7506a025b81fb2a43d6536f76b1b9"
  loads _ := .error (.valueError "Expecting value")
  asPosix path := "/" ++ String.intercalate "/" path
  listed _ paths := paths
  listed_perm _ _ := .refl _

/-- A source file last changed in 1970: `id,amount`, `1,10`. -/
def ordersContent : FileContent :=
  .bytes [105, 100, 44, 97, 109, 111, 117, 110, 116, 10, 49, 44, 49, 48, 10]

def ordersStart : FileStore :=
  (FileTree.empty.bindNode ["src"] .directory).bindNode ["src", "orders.csv"]
    (.file ordersContent 0)

def ordersCall (runId newUlid : String) (now : ℤ) : IngestCall :=
  ⟨"w1", "s1", "d1", ["src", "orders.csv"], runId, "raw_copy", "1.0.0", newUlid, now⟩

def dayTime (days : ℤ) : ℤ := days * 86400 * 10 ^ 9

theorem ordersStart_node? (rest : TreePath) : ordersStart.node? ("srv" :: rest) = none := by
  unfold ordersStart
  rw [FileTree.node?_bindNode _ (by decide), if_neg (by simp), FileTree.node?_bindNode _ (by decide),
    if_neg (by simp)]
  rfl

theorem ordersStart_noBronze : NoBronze localSettings ordersStart := by
  constructor
  · intro path hpath
    rcases path with _ | ⟨first, rest⟩
    · rfl
    · obtain ⟨rfl, -⟩ := List.cons_prefix_cons.mp hpath
      rw [FileTree.isFile_eq_false_iff]
      simp only [FileTree.content?, ordersStart_node?]
  · intro path hpath _
    obtain ⟨rest, rfl⟩ := hpath
    rw [FileTree.pathExists]
    change (ordersStart.node? ("srv" :: ("bronze" :: rest))).isSome = false
    rw [ordersStart_node?]
    rfl

/-- An ingest of the source file by a first and by a second run. -/
def ingestedTwice : List (BronzeOperation localSettings) :=
  [.ingest (ordersCall "run1" "01" 0), .ingest (ordersCall "run2" "02" 0)]

/-- Where the first run puts the file. -/
def ordersRoot : TreePath := ["srv", "bronze", "w1", "s1", "d1", "1970-01-01", "artifact_01"]

/-- A second ingest of a file rewrites the manifest of its artifact. -/
theorem manifest_rewritten :
    ¬∀ (settings : BronzeSettings) (start : FileStore)
      (operations : List (BronzeOperation settings)), NoBronze settings start →
      (∀ operation ∈ operations, ∃ call, operation = .ingest call) →
      AppendOnly settings start operations := by
  intro h
  have hoperations : ∀ operation ∈ ingestedTwice, ∃ call, operation = .ingest call := by
    intro operation hmem
    rcases List.mem_cons.mp hmem with rfl | hmem
    · exact ⟨_, rfl⟩
    · exact ⟨_, List.mem_singleton.mp hmem⟩
  have hkept := (h localSettings ordersStart ingestedTwice ordersStart_noBronze hoperations).unchanged
    _ (mem_trace (show [.ingest (ordersCall "run1" "01" 0)] ++ [_] <+: ingestedTwice from
      List.prefix_rfl)) (ordersCall "run2" "02" 0) rfl "w1" "s1" "d1" "1970-01-01" "artifact_01"
    (manifestPath ordersRoot) ⟨["manifest.json"], rfl⟩ (by decide +kernel) (by decide +kernel)
  revert hkept
  decide +kernel

/-- An ingest of the source file, and the same ingest again by the same run. -/
def ingestedAgain : List (BronzeOperation localSettings) :=
  [.ingest (ordersCall "run1" "01" 0), .ingest (ordersCall "run1" "02" (dayTime 1))]

def ordersIngested : FileStore :=
  applyBronze localSettings ordersStart (.ingest (ordersCall "run1" "01" 0))

theorem ordersIngested_found : (findExistingArtifact localSettings ordersIngested "w1" "s1" "d1"
    (localSettings.sha256 ordersContent)).toOption = some (some ordersRoot) := by
  decide +kernel

theorem ingestedAgain_appendOnly : AppendOnly localSettings ordersStart ingestedAgain := by
  refine appendOnly_of_appends _ _ _ ordersStart_noBronze fun step hstep ↦ ?_
  rcases List.mem_cons.mp hstep with rfl | hstep
  · exact appends_of_new (by decide) (fun _ _ ↦ rfl) (by decide +kernel)
  · obtain rfl := List.mem_singleton.mp hstep
    have hmanifest : ordersIngested.content? (manifestPath ordersRoot) =
        some (.json (manifestJson localSettings (ordersCall "run1" "02" (dayTime 1))
          (artifactIdOf ordersRoot) (localSettings.sha256 ordersContent))) := by
      decide +kernel
    refine appends_of_known ordersRoot (by decide) fun _ _ ↦ ⟨?_, hmanifest⟩
    have hfound := ordersIngested_found
    change (findExistingArtifact localSettings ordersIngested "w1" "s1" "d1"
      (localSettings.sha256 ordersContent)) = _
    cases hlookup : findExistingArtifact localSettings ordersIngested "w1" "s1" "d1"
        (localSettings.sha256 ordersContent) with
    | error exception =>
      rw [hlookup] at hfound
      cases hfound
    | ok found =>
      rw [hlookup] at hfound
      cases hfound
      rfl

/-- An ingest of the source file, a purge, and an ingest of it again. -/
def ingestedAround (firstDay purgeDay : ℤ) : List (BronzeOperation localSettings) :=
  [.ingest (ordersCall "run1" "01" (dayTime firstDay)), .purge "w1" 30 (dayTime purgeDay),
    .ingest (ordersCall "run2" "02" (dayTime 42))]

/-- A purge takes the copy of an old file and leaves its manifest, on which the next ingest of the
file fails. -/
theorem ingest_fails_after_purge :
    ¬∀ (settings : BronzeSettings) (start : FileStore)
      (operations : List (BronzeOperation settings)), NoBronze settings start →
      IngestsSucceed settings start operations := by
  intro h
  have hsource : (run (applyBronze localSettings) ordersStart ((ingestedAround 40 41).take 2)).content?
      ["src", "orders.csv"] = some ordersContent := by
    decide +kernel
  obtain ⟨result, hresult, -⟩ := h localSettings ordersStart (ingestedAround 40 41)
    ordersStart_noBronze _ (mem_trace (show (ingestedAround 40 41).take 2 ++ [_] <+: ingestedAround 40 41 from
      List.prefix_rfl)) (ordersCall "run2" "02" (dayTime 42)) _ rfl hsource
  have hfails : (ingestFileToBronze localSettings (ordersCall "run2" "02" (dayTime 42))
      (run (applyBronze localSettings) ordersStart ((ingestedAround 40 41).take 2))).1.toOption =
        none := by
    decide +kernel
  rw [hresult] at hfails
  cases hfails

theorem spares_orders {files : FileStore} (runId newUlid : String) (now : ℤ) :
    SparesBronze localSettings files (.ingest (ordersCall runId newUlid now)) := by
  have hname : name ["src", "orders.csv"] ≠ "manifest.json" := by decide
  refine fun content _ ↦ ⟨fun hmanifest ↦ absurd hmanifest hname, fun _ hself ↦ ?_⟩
  have hfirst := congrArg List.head? hself
  exact absurd (Option.some.inj hfirst) (by decide)

theorem ingestedAround_succeed :
    IngestsSucceed localSettings ordersStart (ingestedAround 1 29) := by
  refine ingestsSucceed_of_spares _ _ _ ordersStart_noBronze fun step hstep ↦ ?_
  rcases List.mem_cons.mp hstep with rfl | hstep
  · exact spares_orders _ _ _
  rcases List.mem_cons.mp hstep with rfl | hstep
  · intro _ place contentHash hrecords _
    have horderly : Orderly localSettings (applyBronze localSettings ordersStart
        (.ingest (ordersCall "run1" "01" (dayTime 1)))) :=
      ordersStart_noBronze.orderly.step (spares_orders _ _ _)
    obtain ⟨fields, hfields, hhash⟩ := hrecords
    obtain ⟨recorded, ⟨fields', hfields', hhash'⟩, entry, raw, hraw, hcopied⟩ :=
      horderly.manifests place (isFile_of_content? hfields)
    obtain rfl : fields = fields' := by
      have hsame := hfields.symm.trans hfields'
      simpa using hsame
    obtain rfl : contentHash = recorded := Json.str.inj (hhash.symm.trans hhash')
    have hnothing : Purge.toDelete (applyBronze localSettings ordersStart
        (.ingest (ordersCall "run1" "01" (dayTime 1)))) localSettings.storageRoot "w1" 30
          (dayTime 29) = [] := by
      decide +kernel
    refine ⟨entry, raw, hraw, hcopied, ?_⟩
    change _ ∉ Purge.toDelete (applyBronze localSettings ordersStart
      (.ingest (ordersCall "run1" "01" (dayTime 1)))) localSettings.storageRoot "w1" 30 (dayTime 29)
    rw [hnothing]
    exact List.not_mem_nil
  · obtain rfl := List.mem_singleton.mp hstep
    exact spares_orders _ _ _

end SchemaPilot.Workers.BronzeFiles
