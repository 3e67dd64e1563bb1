import SchemaPilot.Library.Versions
import SchemaPilot.Workers.DiscoverSteps

/-!
# What a discover run takes up

The sources and files a run takes up, each with the state it finds (`sourceSteps`, `itemSteps`), and the
worlds after the ticks of several runs (`worldAfter`). A file whose content can be read, and whose
dataset id no other file has, is ingested and catalogued whatever its profile comes to
(`ends_ingestItem`).
-/

namespace SchemaPilot.Workers

open Library Library.Text Library.Json SharedDomain ControlPlane

/-- The sources a run takes up, each with the state it finds. -/
def sourceSteps (service : WorkerService) (env : RunEnvironment) (world : WorkerWorld) :
    List (CatalogSource × DiscoverState) :=
  match env.plugins with
  | .error _ => []
  | .ok plugins =>
    if env.timedOut "discover_inventory" 0 ∨ env.timedOut "ingest_profile_governance" 0 then []
    else Effect.iterations (processSource service env plugins)
      (activeSources env.workspaceId world.sources) ⟨world, .start⟩

/-- What the discovery of a source gives: the connector state it was given, and the files. -/
structure Discovery where
  loaded : Fields
  rootPath : String
  files : List DiscoveredFile

/-- What the discovery of a source gives in a state, `none` where it fails. -/
def discovery (service : WorkerService) (env : RunEnvironment) (source : CatalogSource)
    (state : DiscoverState) : Option Discovery :=
  match env.plugins, (loadConnectorState service.storagePath env.workspaceId source.sourceId
      state.world.base.files).1 with
  | .ok plugins, .ok loaded =>
    match discoveredFiles service env plugins source loaded with
    | .ok (rootPath, files) => some ⟨loaded, rootPath, files⟩
    | .error _ => none
  | _, _ => none

def saveDiscovery (service : WorkerService) (env : RunEnvironment) (source : CatalogSource)
    (found : Discovery) : DiscoverStep Unit :=
  onBase (onFiles (saveConnectorState service.storagePath env.workspaceId source.sourceId
    (savedState service source found.loaded found.files) env.now))

/-- The files of a discovery a run takes up, each with the state it finds. -/
def itemSteps (service : WorkerService) (env : RunEnvironment) (source : CatalogSource)
    (found : Discovery) (state : DiscoverState) : List (DiscoveredFile × DiscoverState) :=
  Effect.iterations (processItem service env source found.rootPath) found.files
    (saveDiscovery service env source found state).2

def worldAfter (service : WorkerService) (start : WorkerWorld) (runs : List RunEnvironment) :
    WorkerWorld :=
  Versions.run (fun world env ↦ discoverTick service env world) start runs

section Runs

variable {service : WorkerService} {env : RunEnvironment} {world : WorkerWorld}

/-- Loading the state of a connector changes no file. -/
theorem keeps_loadConnectorState (storageRoot : TreePath) (workspaceId sourceId : String) :
    Effect.Keeps id (loadConnectorState storageRoot workspaceId sourceId) := by
  refine (Files.keeps_pathExists _).bind fun found ↦ ?_
  split_ifs
  · refine Effect.keeps_read.bind fun files ↦ ?_
    split
    · exact Effect.keeps_pure _
    · exact Effect.keeps_pure _
    · exact Effect.keeps_raise _
  · exact Effect.keeps_pure _

theorem onBase_loadConnectorState (storageRoot : TreePath) (workspaceId sourceId : String)
    (state : DiscoverState) :
    onBase (onFiles (loadConnectorState storageRoot workspaceId sourceId)) state =
      ((loadConnectorState storageRoot workspaceId sourceId state.world.base.files).1, state) := by
  have hfiles := keeps_loadConnectorState storageRoot workspaceId sourceId state.world.base.files
  rw [id_eq, id_eq] at hfiles
  refine Prod.ext rfl ?_
  change { state with world := { state.world with base := { state.world.base with
    files := (loadConnectorState storageRoot workspaceId sourceId state.world.base.files).2 } } } =
      state
  rw [hfiles]

/-- What a discovery that succeeds was made of. -/
theorem mem_discovery {source : CatalogSource} {state : DiscoverState} {found : Discovery}
    {plugins : List (String × ConnectorPluginSpec)} (hplugins : env.plugins = .ok plugins)
    (h : found ∈ discovery service env source state) :
    (loadConnectorState service.storagePath env.workspaceId source.sourceId
        state.world.base.files).1 = .ok found.loaded ∧
      discoveredFiles service env plugins source found.loaded =
        .ok (found.rootPath, found.files) := by
  rw [discovery, hplugins] at h
  cases hloaded : (loadConnectorState service.storagePath env.workspaceId source.sourceId
      state.world.base.files).1 with
  | error exception =>
    rw [hloaded] at h
    cases h
  | ok loaded =>
    rw [hloaded] at h
    dsimp only at h
    cases hfiles : discoveredFiles service env plugins source loaded with
    | error exception =>
      rw [hfiles] at h
      cases h
    | ok files =>
      rw [hfiles] at h
      cases h
      exact ⟨rfl, hfiles⟩

/-- The run of a source whose discovery succeeds. -/
theorem processSource_of_discovery {source : CatalogSource} {state : DiscoverState}
    {found : Discovery} {plugins : List (String × ConnectorPluginSpec)}
    (hplugins : env.plugins = .ok plugins) (h : found ∈ discovery service env source state) :
    processSource service env plugins source state =
      processDiscovered service env source found.loaded (.ok (found.rootPath, found.files))
        state := by
  obtain ⟨hloaded, hfiles⟩ := mem_discovery hplugins h
  rw [processSource, Effect.bind_apply, onBase_loadConnectorState, hloaded]
  dsimp only
  rw [hfiles]

/-- What a source leaves lasts to the end of the run. -/
theorem later_of_mem_sourceSteps {plugins : List (String × ConnectorPluginSpec)}
    (hplugins : env.plugins = .ok plugins) {step : CatalogSource × DiscoverState}
    (hstep : step ∈ sourceSteps service env world) :
    Later env (processSource service env plugins step.1 step.2).2.world
      (discoverRun service env world).2.world := by
  rw [sourceSteps, hplugins] at hstep
  dsimp only at hstep
  split_ifs at hstep with htime
  · exact absurd hstep List.not_mem_nil
  rw [not_or, Bool.not_eq_true, Bool.not_eq_true] at htime
  have hsources : Continues env (processSource service env plugins step.1 step.2).2
      (ingestSources service env (activeSources env.workspaceId world.sources)
        ⟨world, .start⟩).2 := by
    rw [ingestSources, enforceWorkerStepTimeout, htime.2, hplugins]
    exact Effect.Advances.iteration (fun source ↦ continues_processSource env service plugins source)
      step hstep
  have hrest : Continues env
      (ingestSources service env (activeSources env.workspaceId world.sources) ⟨world, .start⟩).2
      (discoverRun service env world).2 := by
    rw [discoverRun, processDiscoverRun, enforceWorkerStepTimeout, htime.1]
    change Continues env _ ((if activeSources env.workspaceId world.sources = [] then _ else _ :
      Effect DiscoverState RunError DiscoverOutput) ⟨world, .start⟩).2
    split_ifs with hnone
    · rw [hnone] at hstep
      exact absurd hstep List.not_mem_nil
    · exact Effect.advances_rest (raised (ingestSources service env _)) (fun _ ↦
        (continues_reportCompleteness env _).bind fun _ ↦
          continues_raised env (continues_finishDiscover env _ _ _)) _
  exact Later.trans hsources hrest

end Runs

/-- What the loops over files and sources count. -/
def counters (state : DiscoverState) : List ExpectedItem × List CompletenessFailure × ℕ :=
  (state.progress.expectedItems, state.progress.failures, state.progress.successfulItemCount)

section Counters

variable (service : WorkerService) (env : RunEnvironment)

theorem counters_onBase {α : Type} (p : Handler α) : Effect.Keeps counters (onBase p) := fun _ ↦ rfl

theorem counters_storeEvidence (fault : Option StageError) (bundleType : String)
    (payload : Fields) : Effect.Keeps counters (storeEvidence service env fault bundleType payload) :=
  (Effect.keeps_ofExcept _).bind fun _ ↦ counters_onBase _

theorem counters_queueFinding? (fault : Option StageError) (finding : Option Finding) :
    Effect.Keeps counters (queueFinding? service env fault finding) := by
  cases finding with
  | none => exact Effect.keeps_pure _
  | some finding =>
    exact (counters_storeEvidence service env _ _ _).bind fun _ ↦ (counters_onBase _).bind fun _ ↦
      (counters_onBase _).bind fun _ ↦ Effect.keeps_pure _

theorem counters_profileItem (index : ℕ) (dataset : DatasetRow) (sourceId physicalLocator : String) :
    Effect.Keeps counters (profileItem service env index dataset sourceId physicalLocator) := by
  have hnote : ∀ {f : DiscoverProgress → DiscoverProgress},
      (∀ state : DiscoverState, counters { state with progress := f state.progress } =
        counters state) → Effect.Keeps counters (note f) := fun h state ↦ h state
  refine (Effect.keeps_ofExcept _).bind fun _ ↦ (Effect.keeps_ofExcept _).bind fun _ ↦
    (counters_storeEvidence service env _ _ _).bind fun _ ↦ Effect.Keeps.bind (fun _ ↦ rfl) fun _ ↦
      (hnote fun _ ↦ rfl).bind fun _ ↦ Effect.Keeps.bind ?_ fun _ ↦ (hnote fun _ ↦ rfl).bind fun _ ↦
        (counters_queueFinding? service env _ _).bind fun _ ↦ (hnote fun _ ↦ rfl).bind fun _ ↦
          (counters_queueFinding? service env _ _).bind fun _ ↦ hnote fun _ ↦ rfl
  exact (Effect.keeps_ofExcept _).bind fun _ ↦
    Effect.Keeps.sumEach (fun _ ↦ counters_queueFinding? service env _ _) _

end Counters

/-- The run has ingested the file of a source, and the catalog has its dataset. -/
def Landed (env : RunEnvironment) (sourceId physicalLocator : String) (world : WorkerWorld) : Prop :=
  ∃ row ∈ world.catalog, row.Locates env.workspaceId sourceId physicalLocator ∧
    ∃ manifest ∈ world.bronze, manifest.workspaceId = env.workspaceId ∧
      manifest.sourceId = sourceId ∧ manifest.datasetId = row.datasetId ∧ manifest.runId = env.runId

/-- A file has a dataset or no other has its id, and its content can be read and copied. -/
def Ingestible (service : WorkerService) (env : RunEnvironment) (sourceId physicalLocator : String)
    (state : DiscoverState) : Prop :=
  ((∃ row ∈ state.world.catalog, row.Locates env.workspaceId sourceId physicalLocator) ∨
    ∀ row ∈ state.world.catalog,
      row.datasetId ≠ stableDatasetId service env.workspaceId sourceId physicalLocator) ∧
  (stageResult (env.fault .ingest state.progress.expectedItems.length)
    (env.sha256 sourceId physicalLocator)).isOk = true

instance (service : WorkerService) (env : RunEnvironment) (sourceId physicalLocator : String)
    (state : DiscoverState) : Decidable (Ingestible service env sourceId physicalLocator state) :=
  inferInstanceAs (Decidable (_ ∧ _))

/-- A file is taken up in time and within the quota, and can be ingested. -/
def IngestsItem (service : WorkerService) (env : RunEnvironment) (source : CatalogSource)
    (rootPath : String) (file : DiscoveredFile) (state : DiscoverState) : Prop :=
  env.timedOut "ingest_profile_governance" (state.progress.expectedItems.length + 1) = false ∧
  Ingestible service env source.sourceId (service.relativeLocator rootPath file.path) state ∧
  (state.progress.successfulItemCount : ℤ) < env.maxItems

instance (service : WorkerService) (env : RunEnvironment) (source : CatalogSource)
    (rootPath : String) (file : DiscoveredFile) (state : DiscoverState) :
    Decidable (IngestsItem service env source rootPath file state) :=
  inferInstanceAs (Decidable (_ ∧ _ ∧ _))

section Ingest

variable {service : WorkerService} {env : RunEnvironment} {sourceId physicalLocator : String}

theorem Landed.later {before after : WorkerWorld} (h : Landed env sourceId physicalLocator before)
    (hlater : Later env before after) : Landed env sourceId physicalLocator after := by
  obtain ⟨row, hrow, hlocates, manifest, hmanifest, hworkspace, hsource, hdataset, hrun⟩ := h
  obtain ⟨kept, hkept, hid, hkeeps⟩ := hlater.rows row hrow
  obtain ⟨last, hlast, hworkspace', hsource', hdataset', hrun'⟩ :=
    hlater.manifests manifest hmanifest
  rw [hlocates.1, hlocates.2.1, hlocates.2.2] at hkeeps
  refine ⟨kept, hkept, hkeeps, last, hlast, hworkspace'.trans hworkspace, hsource'.trans hsource,
    (hdataset'.trans hdataset).trans hid.symm, ?_⟩
  exact hrun'.elim (fun h ↦ h.trans hrun) id

theorem mem_renameDataset {datasetId logicalName : String} {catalog : List DatasetRow}
    {row : DatasetRow} (hrow : row ∈ catalog)
    (hlocates : row.Locates env.workspaceId sourceId physicalLocator) :
    ∃ kept ∈ renameDataset datasetId logicalName catalog, kept.datasetId = row.datasetId ∧
      kept.Locates env.workspaceId sourceId physicalLocator := by
  refine ⟨_, List.mem_map_of_mem hrow, ?_⟩
  split_ifs
  · exact ⟨rfl, hlocates⟩
  · exact ⟨rfl, hlocates⟩

/-- A file is catalogued, unless it has no dataset and another has its id. -/
theorem ends_upsertCatalogDataset (logicalName : String) (state : DiscoverState) :
    Effect.Ends
      (upsertCatalogDataset service env.workspaceId sourceId physicalLocator logicalName) state
      (fun row after ↦ counters after = counters state ∧ ∃ kept ∈ after.world.catalog,
        kept.datasetId = row.datasetId ∧ kept.Locates env.workspaceId sourceId physicalLocator)
      fun _ after ↦ counters after = counters state ∧
        ¬((∃ row ∈ state.world.catalog, row.Locates env.workspaceId sourceId physicalLocator) ∨
          ∀ row ∈ state.world.catalog,
            row.datasetId ≠ stableDatasetId service env.workspaceId sourceId physicalLocator) := by
  refine Effect.ends_read_bind ?_
  dsimp only
  cases hfound : state.world.catalog.find? fun row ↦
      row.Locates env.workspaceId sourceId physicalLocator with
  | some existing =>
    have hlocates := List.find?_some hfound
    rw [decide_eq_true_iff] at hlocates
    have hmem : existing ∈ state.world.catalog := List.mem_of_find?_eq_some hfound
    refine Effect.ends_change_bind (Effect.ends_pure ⟨rfl, ?_⟩)
    obtain ⟨kept, hkept, hid, hlocates'⟩ := mem_renameDataset hmem hlocates
    exact ⟨kept, hkept, hid, hlocates'⟩
  | none =>
    dsimp only
    cases htaken : state.world.catalog.find? fun row ↦
        row.datasetId = stableDatasetId service env.workspaceId sourceId physicalLocator with
    | some collision =>
      have hmem : collision ∈ state.world.catalog := List.mem_of_find?_eq_some htaken
      dsimp only
      split_ifs with hlocates
      · refine Effect.ends_change_bind (Effect.ends_pure ⟨rfl, ?_⟩)
        obtain ⟨kept, hkept, hid, hlocates'⟩ := mem_renameDataset hmem hlocates
        exact ⟨kept, hkept, hid, hlocates'⟩
      · refine Effect.ends_raise ⟨rfl, ?_⟩
        rintro (⟨row, hrow, hlocated⟩ | hfree)
        · exact List.find?_eq_none.mp hfound row hrow (decide_eq_true hlocated)
        · exact hfree collision hmem (of_decide_eq_true (List.find?_some htaken :))
    | none =>
      exact Effect.ends_change_bind (Effect.ends_pure
        ⟨rfl, _, List.mem_append_right _ (List.mem_singleton_self _), rfl, rfl, rfl, rfl⟩)

/-- A stage goes on with what it reads, or raises where it fails. -/
theorem ends_stage {α : Type} {fault : Option StageError} {result : Except StageError α}
    {state : DiscoverState} :
    Effect.Ends (stage fault result) state
      (fun value after ↦ stageResult fault result = .ok value ∧ after = state)
      fun _ after ↦ (stageResult fault result).isOk = false ∧ after = state := by
  refine Effect.ends_ofExcept (fun value h ↦ ⟨mapError_eq_ok_iff.mp h, rfl⟩) fun exception h ↦ ?_
  obtain ⟨found, hfound, -⟩ := mapError_eq_error_iff.mp h
  rw [hfound]
  exact ⟨rfl, rfl⟩

/-- A file is ingested, unless its content cannot be read and copied. -/
theorem ends_ingestFileToBronze (index : ℕ) (datasetId sourceFile : String)
    (state : DiscoverState) :
    Effect.Ends
      (ingestFileToBronze service env index sourceId datasetId physicalLocator sourceFile) state
      (fun _ after ↦ counters after = counters state ∧
        after.world.catalog = state.world.catalog ∧ ∃ manifest ∈ after.world.bronze,
          manifest.workspaceId = env.workspaceId ∧ manifest.sourceId = sourceId ∧
            manifest.datasetId = datasetId ∧ manifest.runId = env.runId)
      fun _ after ↦ (stageResult (env.fault .ingest index)
        (env.sha256 sourceId physicalLocator)).isOk = false ∧ after = state := by
  refine ends_stage.bind ?_
  rintro contentHash _ ⟨-, rfl⟩
  refine Effect.ends_read_bind ?_
  dsimp only
  split
  · next existing hfound =>
    have hsame := List.find?_some hfound
    rw [decide_eq_true_iff] at hsame
    refine Effect.ends_change_bind (Effect.ends_pure ?_)
    refine ⟨rfl, rfl, _, List.mem_map_of_mem (List.mem_of_find?_eq_some hfound), ?_⟩
    rw [if_pos rfl]
    exact ⟨hsame.1, hsame.2.1, hsame.2.2.1, rfl⟩
  · refine Effect.Ends.bind (Effect.ends_of_isOk rfl).never ?_
    rintro artifactId _ rfl
    refine Effect.ends_change_bind (Effect.ends_pure ?_)
    exact ⟨rfl, rfl, _, List.mem_append_right _ (List.mem_singleton_self _), rfl, rfl, rfl, rfl⟩

/-- Noting something goes on with the progress noted. -/
theorem ends_note_bind {β : Type} {f : DiscoverProgress → DiscoverProgress}
    {next : Unit → DiscoverStep β} {state : DiscoverState} {Q : β → DiscoverState → Prop}
    {E : Exn → DiscoverState → Prop}
    (h : Effect.Ends (next ()) { state with progress := f state.progress } Q E) :
    Effect.Ends (note f >>= next) state Q E := Effect.ends_change_bind h

/-- A profile leaves what is ingested and counted, also when it fails. -/
theorem ends_profileItem_of_landed {index : ℕ} {dataset : DatasetRow} {state : DiscoverState}
    (h : Landed env sourceId physicalLocator state.world) (path : String) :
    Effect.Ends (Effect.onlyIf (isCsvPath path)
        (profileItem service env index dataset sourceId physicalLocator)) state
      (fun _ after ↦ Landed env sourceId physicalLocator after.world ∧
        counters after = counters state)
      fun exception after ↦ (Landed env sourceId physicalLocator after.world ∧
        counters after = counters state) ∧ Ongoing exception := by
  refine Effect.ends_onlyIf (fun _ ↦ ?_) fun _ ↦ ⟨h, rfl⟩
  have hlater := (continues_profileItem env service index dataset sourceId physicalLocator).ends state
  have hkept := (counters_profileItem service env index dataset sourceId physicalLocator).ends state
  have hraises := (ongoing_profileItem service env index dataset sourceId physicalLocator).ends state
  exact ((hlater.and hkept).and hraises).mono
    (fun _ _ ⟨⟨hlater, hkept⟩, _⟩ ↦ ⟨h.later hlater, hkept⟩)
    fun _ _ ⟨⟨hlater, hkept⟩, hongoing⟩ ↦ ⟨⟨h.later hlater, hkept⟩, hongoing⟩

/-- A file whose `try` returns is ingested and counted. When it raises, nothing is counted unless the
run is stopped, and a file that can be ingested is there all the same. -/
theorem ends_ingestItem (source : CatalogSource) (index : ℕ) (discovered : DiscoveredFile)
    (state : DiscoverState) :
    Effect.Ends (ingestItem service env source index physicalLocator discovered) state
      (fun _ after ↦ Landed env source.sourceId physicalLocator after.world ∧
        counters after = (state.progress.expectedItems, state.progress.failures,
          state.progress.successfulItemCount + 1))
      fun exception after ↦ (Ongoing exception → counters after = counters state) ∧
        (((∃ row ∈ state.world.catalog,
            row.Locates env.workspaceId source.sourceId physicalLocator) ∨
          ∀ row ∈ state.world.catalog, row.datasetId ≠
            stableDatasetId service env.workspaceId source.sourceId physicalLocator) →
        (stageResult (env.fault .ingest index)
          (env.sha256 source.sourceId physicalLocator)).isOk = true →
        (state.progress.successfulItemCount : ℤ) < env.maxItems →
          Landed env source.sourceId physicalLocator after.world ∧ Ongoing exception) := by
  unfold ingestItem
  dsimp only
  refine Effect.Ends.bind ((ends_upsertCatalogDataset _ _).mono (fun _ _ h ↦ h)
    fun _ _ ⟨hcounted, htaken⟩ ↦ ⟨fun _ ↦ hcounted, fun hcatalog ↦ absurd hcatalog htaken⟩) ?_
  rintro dataset catalogued ⟨hcounted, kept, hkept, hid, hlocates⟩
  refine ends_note_bind (Effect.Ends.bind ((ends_ingestFileToBronze _ _ _ _).mono
    (fun _ _ h ↦ h) ?_) ?_)
  · rintro _ _ ⟨hfails, rfl⟩
    refine ⟨fun _ ↦ hcounted, fun _ hcontent ↦ ?_⟩
    rw [hfails] at hcontent
    cases hcontent
  rintro bronzeResult ingested ⟨hcounted', hsame, manifest, hmanifest, hworkspace, hsource, hdataset,
    hrun⟩
  have hlanded : Landed env source.sourceId physicalLocator ingested.world :=
    ⟨kept, hsame ▸ hkept, hlocates, manifest, hmanifest, hworkspace, hsource,
      hdataset.trans hid.symm, hrun⟩
  have hcount : counters ingested = counters state := hcounted'.trans hcounted
  refine ends_note_bind (Effect.Ends.bind ((ends_profileItem_of_landed
    (by exact hlanded) _).mono (fun _ _ h ↦ h) ?_) ?_)
  · rintro exception _ ⟨⟨hlanded', hcounted''⟩, hongoing⟩
    exact ⟨fun _ ↦ hcounted''.trans hcount, fun _ _ _ ↦ ⟨hlanded', hongoing⟩⟩
  rintro _ profiled ⟨hlanded', hcounted''⟩
  obtain ⟨hexpected, hfailures, hsuccesses⟩ :
      profiled.progress.expectedItems = state.progress.expectedItems ∧
        profiled.progress.failures = state.progress.failures ∧
        profiled.progress.successfulItemCount = state.progress.successfulItemCount := by
    simpa only [counters, Prod.mk.injEq] using hcounted''.trans hcount
  refine ends_note_bind (Effect.ends_read_bind (Effect.ends_onlyIf (fun hover ↦ ?_) fun _ ↦ ?_))
  · -- the quota is exceeded, and the text of the exception stops the run
    refine Effect.ends_raise ⟨fun hongoing ↦ absurd ?_ hongoing, fun _ _ hquota ↦ ?_⟩
    · exact List.mem_cons_self
    · change env.maxItems < ((profiled.progress.successfulItemCount + 1 : ℕ) : ℤ) at hover
      rw [hsuccesses] at hover
      omega
  · refine ⟨hlanded', ?_⟩
    rw [counters, ← hexpected, ← hfailures, ← hsuccesses]

/-- What a run leaves of a file it has taken up: the file is ingested and counted, or it is a failure. -/
structure Processed (service : WorkerService) (env : RunEnvironment) (source : CatalogSource)
    (rootPath : String) (file : DiscoveredFile) (state after : DiscoverState) : Prop where
  expected : after.progress.expectedItems.length = state.progress.expectedItems.length + 1
  outcome : (Landed env source.sourceId (service.relativeLocator rootPath file.path) after.world ∧
      after.progress.failures = state.progress.failures ∧
      after.progress.successfulItemCount = state.progress.successfulItemCount + 1) ∨
    (∃ error, after.progress.failures = state.progress.failures ++
        [⟨source.sourceId, source.sourceType,
          some (file.path, service.relativeLocator rootPath file.path), "ingest_profile", error⟩]) ∧
      after.progress.successfulItemCount = state.progress.successfulItemCount
  landed : IngestsItem service env source rootPath file state →
    Landed env source.sourceId (service.relativeLocator rootPath file.path) after.world

/-- A file that is taken up is ingested or a failure, and a file that can be ingested is, unless the run
is stopped there. -/
theorem ends_processItem {source : CatalogSource} {rootPath : String} {file : DiscoveredFile}
    (state : DiscoverState) :
    Effect.Ends (processItem service env source rootPath file) state
      (fun _ after ↦ Processed service env source rootPath file state after)
      fun _ _ ↦ ¬IngestsItem service env source rootPath file state := by
  unfold processItem
  refine Effect.ends_read_bind ?_
  dsimp only
  refine Effect.Ends.bind (Q := fun _ after ↦ after = state) (Effect.ends_onlyIf (fun hover ↦
    Effect.ends_raise fun h ↦ ?_) fun _ ↦ rfl) ?_
  · rw [h.1] at hover
    cases hover
  rintro _ _ rfl
  refine ends_note_bind (Effect.Ends.tryExcept ((ends_ingestItem _ _ _ _).mono ?_
    fun _ _ hfails ↦ hfails) ?_)
  · rintro _ after ⟨hlanded, hcounted⟩
    rw [counters, Prod.mk.injEq, Prod.mk.injEq] at hcounted
    obtain ⟨hexpected, hfailures, hsuccesses⟩ := hcounted
    refine ⟨?_, Or.inl ⟨hlanded, hfailures, hsuccesses⟩, fun _ ↦ hlanded⟩
    rw [hexpected, List.length_append, List.length_singleton]
  rintro exception after ⟨hcounted, hlanded⟩
  unfold failItem
  split_ifs with hstop
  · exact Effect.ends_raise fun ⟨_, ⟨hcatalog, hcontent⟩, hquota⟩ ↦
      (hlanded hcatalog hcontent hquota).2 hstop
  · have hkept := hcounted hstop
    rw [counters, counters, Prod.mk.injEq, Prod.mk.injEq] at hkept
    obtain ⟨hexpected, hfailures, hsuccesses⟩ := hkept
    refine Effect.ends_change ⟨?_, Or.inr ⟨⟨exception.message, ?_⟩, hsuccesses⟩,
      fun ⟨_, ⟨hcatalog, hcontent⟩, hquota⟩ ↦ (hlanded hcatalog hcontent hquota).1⟩
    · change after.progress.expectedItems.length = _
      rw [hexpected, List.length_append, List.length_singleton]
    · change after.progress.failures ++ _ = _
      rw [hfailures]

end Ingest

/-- The code outside a worker, with plain digests and identifiers. -/
def localWorker : WorkerService where
  storageRoot := "/srv"
  retentionPurgeRoot := none
  auditSinkMode := "inline"
  resolvePath _ := ["srv"]
  codec := ⟨fun text ↦ toString text.length,
    fun payload ↦ [("encrypted", .bool false), ("payload", .obj payload)]⟩
  newUlid n := toString n
  toFloat value := .ok value
  epochJson time := .int time
  lowerCase := lower
  mtimeText mtime := "0000000000000" ++ mtime.toStr ++ "00"
  uuid5 name := name
  relativeLocator _ path := path
  asPosix path := path
  detectPiiProposals _ _ := ⟨"none", floatZero, false, .obj []⟩
  detectProfileAnomalies _ := []

/-- A run without plugins and files, in time and committed. -/
def quietRun (runId : String) : RunEnvironment where
  runId := runId
  workspaceId := "ws"
  strictIngest := true
  now := 7
  maxItems := 10000
  plugins := .ok []
  discoverFiles _ _ _ := .ok []
  sha256 _ _ := .ok "00"
  profileCsvFile _ _ := .ok ⟨[], 0, [], [], floatZero⟩
  readCsvColumnSamples _ _ := .ok []
  timedOut _ _ := false
  fault _ _ := none
  commits := true

/-- A workspace with one source of a plugin. -/
def customWorld : WorkerWorld where
  base := ⟨{ Database.empty with workspaces := ["ws"] }, FileTree.empty, 0⟩
  sources := [⟨"src", "ws", "custom", .obj [], "active"⟩]
  catalog := []
  bronze := []

end SchemaPilot.Workers
