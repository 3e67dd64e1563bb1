import SchemaPilot.ControlPlane.Frames
import SchemaPilot.Workers.Discover

/-!
# What the steps of a discover run do

A run only adds to the review queue, keeps the datasets it finds in the catalog, and keeps what it or
earlier runs have ingested into bronze (`Later`, `later_discoverRun`). The exceptions of a file's stages
never carry the texts that stop a run (`Ongoing`), so a file that fails leaves the run going.
-/

namespace SchemaPilot.Workers

open Library Library.Text Library.Json SharedDomain ControlPlane

/-! ### The review queue grows -/

/-- Proposals and tasks are added at the end, and none goes or changes. -/
structure QueueGrows (before after : Database) : Prop where
  proposals : before.proposals <+: after.proposals
  tasks : before.tasks <+: after.tasks

instance : IsPreorder Database QueueGrows where
  refl _ := ⟨List.prefix_refl _, List.prefix_refl _⟩
  trans _ _ _ first second :=
    ⟨first.proposals.trans second.proposals, first.tasks.trans second.tasks⟩

def GrowsQueue (before after : World) : Prop := QueueGrows before.db after.db

instance : IsPreorder World GrowsQueue where
  refl world := refl_of QueueGrows world.db
  trans _ _ _ := trans_of QueueGrows

theorem advances_query {α : Type} (f : Database → α) : Effect.Advances GrowsQueue (query f) :=
  fun world ↦ refl_of GrowsQueue world

theorem advances_onFiles {α : Type} (p : Files α) : Effect.Advances GrowsQueue (onFiles p) :=
  fun world ↦ refl_of QueueGrows world.db

theorem advances_newUlid (service : Service) : Effect.Advances GrowsQueue (newUlid service) :=
  fun world ↦ refl_of QueueGrows world.db

theorem advances_save {f : Database → Except Exn Database}
    (h : ∀ db after, f db = .ok after → QueueGrows db after) :
    Effect.Advances GrowsQueue (save f) := by
  intro world
  change QueueGrows world.db (save f world).2.db
  cases hsave : f world.db with
  | ok after =>
    rw [show (save f world).2.db = after by simp [save, onTables, Effect.within, hsave]]
    exact h _ _ hsave
  | error exception =>
    rw [show (save f world).2.db = world.db by simp [save, onTables, Effect.within, hsave]]
    exact refl_of QueueGrows _

theorem addProposal_eq_ok {row : ReviewProposal} {db after : Database}
    (h : Database.addProposal row db = .ok after) :
    after = { db with proposals := db.proposals ++ [row] } ∧
      ∀ other ∈ db.proposals, other.proposalId ≠ row.proposalId := by
  obtain ⟨rows, hrows, rfl⟩ := map_eq_ok_iff.mp h
  obtain ⟨rfl, hfresh⟩ := insertRow_eq_ok hrows
  exact ⟨rfl, hfresh⟩

theorem addTask_eq_ok {row : ReviewTask} {db after : Database}
    (h : Database.addTask row db = .ok after) :
    after = { db with tasks := db.tasks ++ [row] } := by
  obtain ⟨rows, hrows, rfl⟩ := map_eq_ok_iff.mp h
  obtain ⟨rfl, -⟩ := insertRow_eq_ok hrows
  rfl

theorem advances_createProposal (service : Service) (workspaceId proposalType uri : String)
    (confidence : Json) : Effect.Advances GrowsQueue
      (createProposal service workspaceId proposalType uri confidence) := by
  refine (advances_newUlid _).bind fun _ ↦ (advances_save fun db after h ↦ ?_).bind fun _ ↦
    Effect.advances_pure _
  rw [(addProposal_eq_ok h).1]
  exact ⟨List.prefix_append _ _, List.prefix_refl _⟩

theorem advances_createReviewTask (service : Service) (workspaceId subjectRef priority : String)
    (blocking : Bool) : Effect.Advances GrowsQueue
      (createReviewTask service workspaceId subjectRef priority blocking) := by
  refine (advances_newUlid _).bind fun _ ↦ (advances_save fun db after h ↦ ?_).bind fun _ ↦
    Effect.advances_pure _
  rw [addTask_eq_ok h]
  exact ⟨List.prefix_refl _, List.prefix_append _ _⟩

theorem advances_foundOr {α : Type} {create : Handler α} (h : Effect.Advances GrowsQueue create)
    (found : Option α) : Effect.Advances GrowsQueue (foundOr create found) := by
  cases found with
  | none => exact h
  | some row => exact Effect.advances_pure row

theorem advances_getOrCreateReviewProposal (service : Service)
    (workspaceId proposalType uri : String) (confidence : Json) : Effect.Advances GrowsQueue
      (getOrCreateReviewProposal service workspaceId proposalType uri confidence) :=
  (advances_query _).bind fun _ ↦ advances_foundOr (advances_createProposal _ _ _ _ _) _

theorem advances_createBlockingReviewTaskIfMissing (service : Service)
    (workspaceId proposalId priority : String) : Effect.Advances GrowsQueue
      (createBlockingReviewTaskIfMissing service workspaceId proposalId priority) := by
  refine (advances_query _).bind fun existing ↦ ?_
  cases existing with
  | none => exact (advances_createReviewTask _ _ _ _ _).bind fun _ ↦ Effect.advances_pure _
  | some task => exact Effect.advances_pure _

theorem advances_createSemanticDriftReviewTaskIfNeeded (service : Service)
    (lowerCase : String → String) (now : ℤ) (workspaceId : String) : Effect.Advances GrowsQueue
      (createSemanticDriftReviewTaskIfNeeded service lowerCase now workspaceId) := by
  refine (advances_query _).bind fun semanticPolicy ↦ ?_
  cases driftGateManifest semanticPolicy with
  | none => exact Effect.advances_pure _
  | some manifest =>
    refine (advances_query _).bind fun available ↦ ?_
    split_ifs
    · exact Effect.advances_pure _
    · dsimp only
      split_ifs
      · exact Effect.advances_pure _
      · exact (advances_onFiles _).bind fun _ ↦
          (advances_getOrCreateReviewProposal _ _ _ _ _).bind fun _ ↦
            (advances_createBlockingReviewTaskIfMissing _ _ _ _).bind fun _ ↦
              Effect.advances_pure _

theorem advances_ensureIngestCompletenessReviewTask (service : Service) (workspaceId uri : String) :
    Effect.Advances GrowsQueue (ensureIngestCompletenessReviewTask service workspaceId uri) :=
  (advances_getOrCreateReviewProposal _ _ _ _ _).bind fun _ ↦ (advances_query _).bind fun _ ↦
    (advances_foundOr (advances_createReviewTask _ _ _ _ _) _).bind fun _ ↦ Effect.advances_pure _

/-! ### What a run leaves of the world -/

/-- The datasets stay, and what is in bronze stays or is ingested again by the run. -/
structure Later (env : RunEnvironment) (before after : WorkerWorld) : Prop where
  queue : QueueGrows before.base.db after.base.db
  sources : after.sources = before.sources
  rows : ∀ row ∈ before.catalog, ∃ kept ∈ after.catalog, kept.datasetId = row.datasetId ∧
    kept.Locates row.workspaceId row.sourceId row.physicalLocator
  manifests : ∀ manifest ∈ before.bronze, ∃ kept ∈ after.bronze,
    kept.workspaceId = manifest.workspaceId ∧ kept.sourceId = manifest.sourceId ∧
      kept.datasetId = manifest.datasetId ∧
        (kept.runId = manifest.runId ∨ kept.runId = env.runId)

/-- The states of a run whose worlds are so. -/
def Continues (env : RunEnvironment) (before after : DiscoverState) : Prop :=
  Later env before.world after.world

section Order

variable {env : RunEnvironment}

theorem Later.refl (world : WorkerWorld) : Later env world world where
  queue := refl_of QueueGrows _
  sources := rfl
  rows := fun row hrow ↦ ⟨row, hrow, rfl, rfl, rfl, rfl⟩
  manifests := fun manifest hmanifest ↦ ⟨manifest, hmanifest, rfl, rfl, rfl, Or.inl rfl⟩

theorem Later.trans {first second third : WorkerWorld} (h : Later env first second)
    (h' : Later env second third) : Later env first third where
  queue := trans_of QueueGrows h.queue h'.queue
  sources := h'.sources.trans h.sources
  rows := by
    intro row hrow
    obtain ⟨kept, hkept, hid, hworkspace, hsource, hlocator⟩ := h.rows row hrow
    obtain ⟨last, hlast, hid', hworkspace', hsource', hlocator'⟩ := h'.rows kept hkept
    exact ⟨last, hlast, hid'.trans hid, hworkspace'.trans hworkspace, hsource'.trans hsource,
      hlocator'.trans hlocator⟩
  manifests := by
    intro manifest hmanifest
    obtain ⟨kept, hkept, hworkspace, hsource, hdataset, hrun⟩ := h.manifests manifest hmanifest
    obtain ⟨last, hlast, hworkspace', hsource', hdataset', hrun'⟩ := h'.manifests kept hkept
    refine ⟨last, hlast, hworkspace'.trans hworkspace, hsource'.trans hsource,
      hdataset'.trans hdataset, ?_⟩
    exact hrun'.elim (fun hsame ↦ hrun.imp hsame.trans hsame.trans) Or.inr

instance : IsPreorder DiscoverState (Continues env) where
  refl state := Later.refl state.world
  trans _ _ _ := Later.trans

end Order

section Continues

variable (env : RunEnvironment)

theorem continues_note (f : DiscoverProgress → DiscoverProgress) :
    Effect.Advances (Continues env) (note f) := fun state ↦ Later.refl state.world

theorem continues_onBase {α : Type} {p : Handler α} (h : Effect.Advances GrowsQueue p) :
    Effect.Advances (Continues env) (onBase p) :=
  h.within fun state _ hgrows ↦ { Later.refl state.world with queue := hgrows }

theorem continues_stage {α : Type} (fault : Option StageError) (result : Except StageError α) :
    Effect.Advances (Continues env) (stage fault result) := Effect.advances_ofExcept _

theorem continues_enforceWorkerStepTimeout (stepKey : String) (n : ℕ) :
    Effect.Advances (Continues env) (enforceWorkerStepTimeout env stepKey n) :=
  (Effect.advances_raise _).onlyIf

/-- Changing rows but not what they are about. -/
theorem continues_editCatalog {f : DatasetRow → DatasetRow}
    (h : ∀ row, (f row).datasetId = row.datasetId ∧
      (f row).Locates row.workspaceId row.sourceId row.physicalLocator) :
    Effect.Advances (Continues env) (editCatalog (List.map f)) :=
  fun state ↦ { Later.refl state.world with
    rows := fun row hrow ↦ ⟨f row, List.mem_map_of_mem hrow, h row⟩ }

theorem continues_renameDataset (datasetId logicalName : String) :
    Effect.Advances (Continues env) (editCatalog (renameDataset datasetId logicalName)) :=
  continues_editCatalog env fun row ↦ by split_ifs <;> exact ⟨rfl, rfl, rfl, rfl⟩

theorem continues_setSummary (datasetId : String) (summary : Fields) :
    Effect.Advances (Continues env) (editCatalog (setSummary datasetId summary)) :=
  continues_editCatalog env fun row ↦ by split_ifs <;> exact ⟨rfl, rfl, rfl, rfl⟩

theorem continues_upsertCatalogDataset (service : WorkerService)
    (workspaceId sourceId physicalLocator logicalName : String) :
    Effect.Advances (Continues env)
      (upsertCatalogDataset service workspaceId sourceId physicalLocator logicalName) := by
  refine Effect.advances_read.bind fun state ↦ ?_
  dsimp only
  split
  · exact (continues_renameDataset env _ _).bind fun _ ↦ Effect.advances_pure _
  · split
    · split_ifs
      · exact (continues_renameDataset env _ _).bind fun _ ↦ Effect.advances_pure _
      · exact Effect.advances_raise _
    · refine Effect.Advances.bind (fun state ↦ ?_) fun _ ↦ Effect.advances_pure _
      exact { Later.refl state.world with
        rows := fun row hrow ↦ ⟨row, List.mem_append_left _ hrow, rfl, rfl, rfl, rfl⟩ }

theorem continues_ingestFileToBronze (service : WorkerService) (index : ℕ)
    (sourceId datasetId physicalLocator sourceFile : String) : Effect.Advances (Continues env)
      (ingestFileToBronze service env index sourceId datasetId physicalLocator sourceFile) := by
  refine (continues_stage env _ _).bind fun contentHash ↦ Effect.advances_read.bind fun state ↦ ?_
  dsimp only
  split
  · next existing hexisting =>
    refine Effect.Advances.bind (fun state ↦ ?_) fun _ ↦ Effect.advances_pure _
    have hrefl : Later env state.world state.world := Later.refl _
    refine { hrefl with manifests := fun manifest hmanifest ↦ ?_ }
    refine ⟨_, List.mem_map_of_mem hmanifest, ?_⟩
    split_ifs with hsame
    · rw [hsame]
      exact ⟨rfl, rfl, rfl, Or.inr rfl⟩
    · exact ⟨rfl, rfl, rfl, Or.inl rfl⟩
  · refine (continues_onBase env (advances_newUlid _)).bind fun artifactId ↦
      Effect.Advances.bind (fun state ↦ ?_) fun _ ↦ Effect.advances_pure _
    have hrefl : Later env state.world state.world := Later.refl _
    exact { hrefl with
      manifests := fun manifest hmanifest ↦
        ⟨manifest, List.mem_append_left _ hmanifest, rfl, rfl, rfl, Or.inl rfl⟩ }

theorem continues_storeEvidence (service : WorkerService) (fault : Option StageError)
    (bundleType : String) (payload : Fields) : Effect.Advances (Continues env)
      (storeEvidence service env fault bundleType payload) :=
  (continues_stage env _ _).bind fun _ ↦ continues_onBase env (advances_onFiles _)

theorem continues_queueFinding? (service : WorkerService) (fault : Option StageError)
    (finding : Option Finding) : Effect.Advances (Continues env)
      (queueFinding? service env fault finding) := by
  cases finding with
  | none => exact Effect.advances_pure _
  | some finding =>
    exact (continues_storeEvidence env _ _ _ _).bind fun _ ↦
      (continues_onBase env (advances_getOrCreateReviewProposal _ _ _ _ _)).bind fun _ ↦
        (continues_onBase env (advances_createBlockingReviewTaskIfMissing _ _ _ _)).bind fun _ ↦
          Effect.advances_pure _

theorem continues_createPiiReviewTasksFromCsv (service : WorkerService) (index : ℕ)
    (datasetId sourceId physicalLocator : String) : Effect.Advances (Continues env)
      (createPiiReviewTasksFromCsv service env index datasetId sourceId physicalLocator) :=
  (continues_stage env _ _).bind fun _ ↦
    Effect.Advances.sumEach (fun _ ↦ continues_queueFinding? env _ _ _) _

theorem continues_profileItem (service : WorkerService) (index : ℕ) (dataset : DatasetRow)
    (sourceId physicalLocator : String) : Effect.Advances (Continues env)
      (profileItem service env index dataset sourceId physicalLocator) :=
  (continues_stage env _ _).bind fun _ ↦ (Effect.advances_ofExcept _).bind fun _ ↦
    (continues_storeEvidence env _ _ _ _).bind fun _ ↦ (continues_setSummary env _ _).bind fun _ ↦
      (continues_note env _).bind fun _ ↦
        (continues_createPiiReviewTasksFromCsv env _ _ _ _ _).bind fun _ ↦
          (continues_note env _).bind fun _ ↦ (continues_queueFinding? env _ _ _).bind fun _ ↦
            (continues_note env _).bind fun _ ↦ (continues_queueFinding? env _ _ _).bind fun _ ↦
              continues_note env _

theorem continues_ingestItem (service : WorkerService) (source : CatalogSource) (index : ℕ)
    (physicalLocator : String) (discovered : DiscoveredFile) : Effect.Advances (Continues env)
      (ingestItem service env source index physicalLocator discovered) :=
  (continues_upsertCatalogDataset env _ _ _ _ _).bind fun _ ↦ (continues_note env _).bind fun _ ↦
    (continues_ingestFileToBronze env _ _ _ _ _ _).bind fun _ ↦
      (continues_note env _).bind fun _ ↦
        (continues_profileItem env _ _ _ _ _).onlyIf.bind fun _ ↦
          (continues_note env _).bind fun _ ↦ Effect.advances_read.bind fun _ ↦
            (Effect.advances_raise _).onlyIf

theorem continues_failItem (source : CatalogSource) (path physicalLocator : String)
    (exception : Exn) : Effect.Advances (Continues env)
      (failItem source path physicalLocator exception) := by
  unfold failItem
  split_ifs
  · exact Effect.advances_raise _
  · exact continues_note env _

theorem continues_processItem (service : WorkerService) (source : CatalogSource)
    (rootPath : String) (discovered : DiscoveredFile) : Effect.Advances (Continues env)
      (processItem service env source rootPath discovered) :=
  Effect.advances_read.bind fun _ ↦ (continues_enforceWorkerStepTimeout env _ _).bind fun _ ↦
    (continues_note env _).bind fun _ ↦
      (continues_ingestItem env _ _ _ _ _).tryExcept fun _ ↦ continues_failItem env _ _ _ _

theorem continues_processDiscovered (service : WorkerService) (source : CatalogSource)
    (state : Fields) (found : Except Exn (String × List DiscoveredFile)) :
    Effect.Advances (Continues env) (processDiscovered service env source state found) := by
  cases found with
  | error exception => exact continues_note env _
  | ok files =>
    exact (Effect.advances_raise _).onlyIf.bind fun _ ↦
      (continues_onBase env (advances_onFiles _)).bind fun _ ↦
        Effect.Advances.forEach (fun _ ↦ continues_processItem env _ _ _ _) _

theorem continues_processSource (service : WorkerService)
    (plugins : List (String × ConnectorPluginSpec)) (source : CatalogSource) :
    Effect.Advances (Continues env) (processSource service env plugins source) :=
  (continues_onBase env (advances_onFiles _)).bind fun _ ↦ continues_processDiscovered env _ _ _ _

theorem continues_ingestSources (service : WorkerService) (sources : List CatalogSource) :
    Effect.Advances (Continues env) (ingestSources service env sources) :=
  (continues_enforceWorkerStepTimeout env _ _).bind fun _ ↦ (Effect.advances_ofExcept _).bind fun _ ↦
    Effect.Advances.forEach (fun _ ↦ continues_processSource env _ _ _) _

theorem continues_raised {α : Type} {p : DiscoverStep α}
    (h : Effect.Advances (Continues env) p) : Effect.Advances (Continues env) (raised p) := h

theorem continues_reportCompleteness (service : WorkerService) :
    Effect.Advances (Continues env) (reportCompleteness service env) := by
  refine Effect.advances_read.bind fun state ↦ ?_
  dsimp only
  split_ifs
  · exact Effect.advances_pure _
  · exact (continues_raised env (continues_storeEvidence env _ _ _ _)).bind fun _ ↦
      (continues_raised env (continues_onBase env
        (advances_ensureIngestCompletenessReviewTask _ _ _))).bind fun _ ↦ Effect.advances_raise _
  · exact (continues_raised env (continues_storeEvidence env _ _ _ _)).bind fun _ ↦
      Effect.advances_pure _

theorem continues_finishDiscover (service : WorkerService) (sources : List CatalogSource)
    (warning : Option StoredEvidenceBundle) : Effect.Advances (Continues env)
      (finishDiscover service env sources warning) := by
  refine (continues_enforceWorkerStepTimeout env _ _).bind fun _ ↦ Effect.Advances.bind ?_ fun _ ↦
    (continues_enforceWorkerStepTimeout env _ _).bind fun _ ↦ Effect.advances_read.bind fun _ ↦
      Effect.advances_pure _
  exact (advances_createSemanticDriftReviewTaskIfNeeded _ _ _ _).within fun state _ hgrows ↦
    { Later.refl state.world with queue := ⟨hgrows.proposals, hgrows.tasks⟩ }

theorem continues_processDiscoverRun (service : WorkerService) :
    Effect.Advances (Continues env) (processDiscoverRun service env) := by
  refine (continues_raised env (continues_enforceWorkerStepTimeout env _ _)).bind fun _ ↦
    Effect.advances_read.bind fun _ ↦ ?_
  dsimp only
  split_ifs
  · exact Effect.advances_raise _
  · exact (continues_raised env (continues_ingestSources env _ _)).bind fun _ ↦
      (continues_reportCompleteness env _).bind fun _ ↦
        continues_raised env (continues_finishDiscover env _ _ _)

end Continues

/-- A run only adds to the queue, and keeps the datasets and what was ingested. -/
theorem later_discoverRun (service : WorkerService) (env : RunEnvironment) (world : WorkerWorld) :
    Later env world (discoverRun service env world).2.world :=
  continues_processDiscoverRun env service ⟨world, .start⟩

/-! ### The exceptions of a file's stages -/

def Ongoing (exception : Exn) : Prop := exception.message ∉ stopTexts

theorem ongoing_perform (op : FileStore → Option FileStore) :
    Effect.Raises Ongoing (Files.perform op) := by
  intro files exception after h
  unfold Files.perform at h
  split at h
  · cases h
  · cases h
    change "OSError" ∉ stopTexts
    decide

theorem ongoing_storeEvidenceBundle (codec : EvidenceCodec) (workspaceId : String)
    (payload : Fields) (storageRoot : TreePath) (bundleType : String) (evidenceId : Option String)
    (now : ℤ) : Effect.Raises Ongoing
      (storeEvidenceBundle codec workspaceId payload storageRoot bundleType evidenceId now) := by
  refine (ongoing_perform _).bind fun _ ↦ Effect.Raises.bind ?_ fun _ ↦ Effect.raises_pure _
  refine (Effect.raises_read.bind fun _ ↦ Effect.raises_pure _).bind fun found ↦ ?_
  split_ifs
  · refine Effect.raises_read.bind fun files ↦ ?_
    split
    · split_ifs
      · refine Effect.raises_raise ?_
        change "Evidence bundle immutability violation: existing bundle content differs." ∉ stopTexts
        decide
      · exact Effect.raises_pure _
    · refine Effect.raises_raise ?_
      change "Is a directory" ∉ stopTexts
      decide
  · exact ongoing_perform _

theorem ongoing_query {α : Type} (f : Database → α) : Effect.Raises Ongoing (query f) :=
  Effect.raises_read.bind fun _ ↦ Effect.raises_pure _

theorem ongoing_newUlid (service : Service) : Effect.Raises Ongoing (newUlid service) :=
  fun _ _ _ h ↦ by cases h

theorem ongoing_insertRow {ρ : Type} {primaryKey : ρ → String} {rows : List ρ} {row : ρ}
    {exception : Exn} (h : insertRow primaryKey rows row = .error exception) : Ongoing exception := by
  unfold insertRow at h
  split_ifs at h
  cases h
  change "IntegrityError" ∉ stopTexts
  decide

theorem ongoing_save {f : Database → Except Exn Database}
    (h : ∀ db exception, f db = .error exception → Ongoing exception) :
    Effect.Raises Ongoing (save f) := by
  unfold save onTables
  refine Effect.Raises.within fun db exception after hrun ↦ ?_
  split at hrun
  · cases hrun
  · next found hsave =>
    cases hrun
    exact h db exception hsave

theorem ongoing_createProposal (service : Service) (workspaceId proposalType uri : String)
    (confidence : Json) : Effect.Raises Ongoing
      (createProposal service workspaceId proposalType uri confidence) := by
  refine (ongoing_newUlid _).bind fun _ ↦ (ongoing_save fun db exception h ↦ ?_).bind fun _ ↦
    Effect.raises_pure _
  exact ongoing_insertRow (map_eq_error_iff.mp h)

theorem ongoing_createReviewTask (service : Service) (workspaceId subjectRef priority : String)
    (blocking : Bool) : Effect.Raises Ongoing
      (createReviewTask service workspaceId subjectRef priority blocking) := by
  refine (ongoing_newUlid _).bind fun _ ↦ (ongoing_save fun db exception h ↦ ?_).bind fun _ ↦
    Effect.raises_pure _
  exact ongoing_insertRow (map_eq_error_iff.mp h)

theorem ongoing_onBase {α : Type} {p : Handler α} (h : Effect.Raises Ongoing p) :
    Effect.Raises Ongoing (onBase p) := h.within

theorem ongoing_stage {α : Type} (fault : Option StageError) (result : Except StageError α) :
    Effect.Raises Ongoing (stage fault result) := by
  refine Effect.raises_ofExcept fun exception h ↦ ?_
  obtain ⟨found, -, rfl⟩ := mapError_eq_error_iff.mp h
  exact found.property

theorem ongoing_storeEvidence (service : WorkerService) (env : RunEnvironment)
    (fault : Option StageError) (bundleType : String) (payload : Fields) :
    Effect.Raises Ongoing (storeEvidence service env fault bundleType payload) :=
  (ongoing_stage _ _).bind fun _ ↦
    ongoing_onBase (Effect.Raises.within (ongoing_storeEvidenceBundle _ _ _ _ _ _ _))

theorem ongoing_getOrCreateReviewProposal (service : Service)
    (workspaceId proposalType uri : String) (confidence : Json) : Effect.Raises Ongoing
      (getOrCreateReviewProposal service workspaceId proposalType uri confidence) := by
  refine (ongoing_query _).bind fun existing ↦ ?_
  cases existing with
  | none => exact ongoing_createProposal _ _ _ _ _
  | some row => exact Effect.raises_pure _

theorem ongoing_createBlockingReviewTaskIfMissing (service : Service)
    (workspaceId proposalId priority : String) : Effect.Raises Ongoing
      (createBlockingReviewTaskIfMissing service workspaceId proposalId priority) := by
  refine (ongoing_query _).bind fun existing ↦ ?_
  cases existing with
  | none => exact (ongoing_createReviewTask _ _ _ _ _).bind fun _ ↦ Effect.raises_pure _
  | some task => exact Effect.raises_pure _

theorem ongoing_queueFinding? (service : WorkerService) (env : RunEnvironment)
    (fault : Option StageError) (finding : Option Finding) :
    Effect.Raises Ongoing (queueFinding? service env fault finding) := by
  cases finding with
  | none => exact Effect.raises_pure _
  | some finding =>
    exact (ongoing_storeEvidence _ _ _ _ _).bind fun _ ↦
      (ongoing_onBase (ongoing_getOrCreateReviewProposal _ _ _ _ _)).bind fun _ ↦
        (ongoing_onBase (ongoing_createBlockingReviewTaskIfMissing _ _ _ _)).bind fun _ ↦
          Effect.raises_pure _

theorem ongoing_createPiiReviewTasksFromCsv (service : WorkerService) (env : RunEnvironment)
    (index : ℕ) (datasetId sourceId physicalLocator : String) : Effect.Raises Ongoing
      (createPiiReviewTasksFromCsv service env index datasetId sourceId physicalLocator) :=
  (ongoing_stage _ _).bind fun _ ↦ Effect.raises_sumEach (fun _ ↦ ongoing_queueFinding? _ _ _ _) _

theorem ongoing_recordedColumns {summary : Fields} {exception : Exn}
    (h : recordedColumns summary = .error exception) : Ongoing exception := by
  unfold recordedColumns at h
  split at h
  · have hiterate := map_eq_error_iff.mp h
    unfold iterate at hiterate
    split at hiterate
    · cases hiterate
    · cases hiterate
    · cases hiterate
    · cases hiterate
      change "object is not iterable" ∉ stopTexts
      decide
  · cases h

theorem ongoing_note (f : DiscoverProgress → DiscoverProgress) :
    Effect.Raises Ongoing (note f) := Effect.raises_change _

theorem ongoing_profileItem (service : WorkerService) (env : RunEnvironment) (index : ℕ)
    (dataset : DatasetRow) (sourceId physicalLocator : String) : Effect.Raises Ongoing
      (profileItem service env index dataset sourceId physicalLocator) :=
  (ongoing_stage _ _).bind fun _ ↦
    (Effect.raises_ofExcept fun _ h ↦ ongoing_recordedColumns h).bind fun _ ↦
      (ongoing_storeEvidence _ _ _ _ _).bind fun _ ↦ (Effect.raises_change _).bind fun _ ↦
        (ongoing_note _).bind fun _ ↦
          (ongoing_createPiiReviewTasksFromCsv _ _ _ _ _ _).bind fun _ ↦
            (ongoing_note _).bind fun _ ↦ (ongoing_queueFinding? _ _ _ _).bind fun _ ↦
              (ongoing_note _).bind fun _ ↦ (ongoing_queueFinding? _ _ _ _).bind fun _ ↦
                ongoing_note _

end SchemaPilot.Workers
