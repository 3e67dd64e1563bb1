import SchemaPilot.Workers.DiscoverTrace

/-!
# The connector cursor

A discover run saves the cursor of a source before it ingests what the source has discovered, and
outside the transaction of the run. When every run that discovers files of a source goes on to ingest
all of them and is committed, the cursor never passes a file that was not ingested
(`cursorBehind_of_ingests`). A run that fails to ingest a file leaves it behind the cursor
(`failed_file_passed`).
-/

namespace SchemaPilot.Workers

open Library Library.Text Library.Json Library.Versions SharedDomain ControlPlane

def savedCursor (service : WorkerService) (workspaceId sourceId : String) (world : WorkerWorld) :
    String :=
  match (loadConnectorState service.storagePath workspaceId sourceId world.base.files).1 with
  | .ok state => cursorOf state
  | .error _ => ""

/-- A run on a world discovers a file of a source, below a root. -/
def Discovers (service : WorkerService) (env : RunEnvironment) (world : WorkerWorld)
    (sourceId rootPath : String) (file : DiscoveredFile) : Prop :=
  ∃ step ∈ sourceSteps service env world, step.1.sourceId = sourceId ∧
    ∃ found ∈ discovery service env step.1 step.2, found.rootPath = rootPath ∧ file ∈ found.files

/-- The cursor of a source is at or beyond a file that some run has discovered only when a committed run
has ingested the file, and the catalog still has its dataset. -/
def CursorBehind (service : WorkerService) (sourceId : String) (start : WorkerWorld)
    (runs : List RunEnvironment) : Prop :=
  ∀ earlier env, earlier ++ [env] <+: runs → ∀ rootPath file,
    Discovers service env (worldAfter service start earlier) sourceId rootPath file →
    orderKey service.mtimeText file ≤
      savedCursor service env.workspaceId sourceId (worldAfter service start runs) →
    ∃ before ingesting, before ++ [ingesting] <+: runs ∧ ingesting.commits = true ∧
      Discovers service ingesting (worldAfter service start before) sourceId rootPath file ∧
      Landed ingesting sourceId (service.relativeLocator rootPath file.path)
        (worldAfter service start (before ++ [ingesting])) ∧
      ∃ row ∈ (worldAfter service start runs).catalog, row.Locates ingesting.workspaceId sourceId
        (service.relativeLocator rootPath file.path)

/-- A run that discovers files of a source is committed, saves the cursor, and ingests them all. -/
def IngestsDiscovered (service : WorkerService) (sourceId : String) (world : WorkerWorld)
    (env : RunEnvironment) : Prop :=
  ∀ step ∈ sourceSteps service env world, step.1.sourceId = sourceId →
    ∀ found ∈ discovery service env step.1 step.2, found.files ≠ [] →
      env.commits = true ∧ (found.files.length : ℤ) ≤ env.maxItems ∧
      (saveDiscovery service env step.1 found step.2).1.isOk = true ∧
      ∀ item ∈ itemSteps service env step.1 found step.2,
        IngestsItem service env step.1 found.rootPath item.1 item.2

instance (service : WorkerService) (sourceId : String) (world : WorkerWorld)
    (env : RunEnvironment) : Decidable (IngestsDiscovered service sourceId world env) :=
  inferInstanceAs (Decidable (∀ step ∈ sourceSteps service env world, _))

section Steps

variable {service : WorkerService} {env : RunEnvironment} {source : CatalogSource}
  {state : DiscoverState}

theorem ends_processSource {plugins : List (String × ConnectorPluginSpec)}
    (hplugins : env.plugins = .ok plugins) {found : Discovery}
    (hfound : found ∈ discovery service env source state)
    (hquota : (found.files.length : ℤ) ≤ env.maxItems)
    (hsaved : (saveDiscovery service env source found state).1.isOk = true)
    (hitems : ∀ item ∈ itemSteps service env source found state,
      IngestsItem service env source found.rootPath item.1 item.2) :
    Effect.Ends (processSource service env plugins source) state
      (fun _ after ↦ ∀ file ∈ found.files, Landed env source.sourceId
        (service.relativeLocator found.rootPath file.path) after.world) fun _ _ ↦ False := by
  have hrun := processSource_of_discovery hplugins hfound
  have hends : Effect.Ends (processDiscovered service env source found.loaded
      (.ok (found.rootPath, found.files))) state
      (fun _ after ↦ ∀ file ∈ found.files, Landed env source.sourceId
        (service.relativeLocator found.rootPath file.path) after.world) fun _ _ ↦ False := by
    refine Effect.Ends.bind (Q := fun _ after ↦ after = state)
      (Effect.ends_onlyIf (fun hover ↦ absurd hover (not_lt.mpr hquota)) fun _ ↦ rfl) ?_
    intro _ after hafter
    rw [hafter]
    refine Effect.Ends.bind (Effect.ends_of_isOk hsaved) ?_
    intro _ saved hsaved
    rw [hsaved]
    refine (Effect.ends_forEach_of_items (R := Continues env) (fun _ _ _ hlater hlanded ↦
      hlanded.later hlater) fun item hitem ↦ ?_).mono (fun _ _ hall ↦ hall.2) fun _ _ hnone ↦ hnone
    refine (((continues_processItem env service source found.rootPath item.1).ends item.2).and
      (ends_processItem item.2)).mono ?_ ?_
    · exact fun _ _ ⟨hlater, hprocessed⟩ ↦ ⟨hlater, hprocessed.landed (hitems item hitem)⟩
    · exact fun _ _ ⟨_, hstopped⟩ ↦ hstopped (hitems item hitem)
  exact ⟨fun h ↦ hends.of_ok (hrun ▸ h), fun h ↦ hends.of_error (hrun ▸ h)⟩

end Steps

/-- A tick keeps the datasets of the catalog. -/
theorem rows_discoverTick {service : WorkerService} {env : RunEnvironment} {world : WorkerWorld}
    {workspaceId sourceId physicalLocator : String}
    (h : ∃ row ∈ world.catalog, row.Locates workspaceId sourceId physicalLocator) :
    ∃ row ∈ (discoverTick service env world).catalog,
      row.Locates workspaceId sourceId physicalLocator := by
  unfold discoverTick
  dsimp only
  split_ifs
  · obtain ⟨row, hrow, hlocates⟩ := h
    obtain ⟨kept, hkept, -, hkeeps⟩ := (later_discoverRun service env world).rows row hrow
    rw [hlocates.1, hlocates.2.1, hlocates.2.2] at hkeeps
    exact ⟨kept, hkept, hkeeps⟩
  · exact h

theorem landed_of_ingestsDiscovered {service : WorkerService} {env : RunEnvironment}
    {world : WorkerWorld} {sourceId rootPath : String} {file : DiscoveredFile}
    (h : IngestsDiscovered service sourceId world env)
    (hdiscovers : Discovers service env world sourceId rootPath file) :
    env.commits = true ∧ Landed env sourceId (service.relativeLocator rootPath file.path)
      (discoverTick service env world) := by
  obtain ⟨step, hstep, rfl, found, hfound, rfl, hfile⟩ := hdiscovers
  obtain ⟨hcommits, hquota, hsaved, hitems⟩ :=
    h step hstep rfl found hfound (List.ne_nil_of_mem hfile)
  refine ⟨hcommits, ?_⟩
  cases hplugins : env.plugins with
  | error exception =>
    rw [sourceSteps, hplugins] at hstep
    exact absurd hstep List.not_mem_nil
  | ok plugins =>
    have hends := ends_processSource hplugins hfound hquota hsaved hitems
    have hlater := later_of_mem_sourceSteps hplugins hstep
    have hlanded : Landed env step.1.sourceId (service.relativeLocator found.rootPath file.path)
        (processSource service env plugins step.1 step.2).2.world := by
      rcases hrun : processSource service env plugins step.1 step.2 with ⟨exception | done, after⟩
      · exact (hends.of_error hrun).elim
      · exact hends.of_ok hrun file hfile
    rw [discoverTick, if_pos hcommits]
    exact hlanded.later hlater

/-- What was catalogued stays catalogued in the runs that follow. -/
theorem rows_worldAfter (service : WorkerService) {start : WorkerWorld}
    {workspaceId sourceId physicalLocator : String} (runs : List RunEnvironment)
    (h : ∃ row ∈ start.catalog, row.Locates workspaceId sourceId physicalLocator) :
    ∃ row ∈ (worldAfter service start runs).catalog,
      row.Locates workspaceId sourceId physicalLocator := by
  induction runs using List.reverseRecOn with
  | nil => exact h
  | append_singleton earlier env ih =>
    rw [worldAfter, run_snoc]
    exact rows_discoverTick ih

/-- When every run that discovers files of a source ingests them all and is committed, the cursor of the
source never passes a file that was not ingested. -/
theorem cursorBehind_of_ingests (service : WorkerService) (sourceId : String) (start : WorkerWorld)
    (runs : List RunEnvironment)
    (h : ∀ entry ∈ trace (fun world env ↦ discoverTick service env world) start runs,
      IngestsDiscovered service sourceId entry.1 entry.2) :
    CursorBehind service sourceId start runs := by
  intro earlier env hpre rootPath file hdiscovers _
  have hstep : IngestsDiscovered service sourceId (worldAfter service start earlier) env :=
    h _ (mem_trace hpre)
  obtain ⟨hcommits, hlanded⟩ := landed_of_ingestsDiscovered hstep hdiscovers
  have hafter : worldAfter service start (earlier ++ [env]) =
      discoverTick service env (worldAfter service start earlier) := run_snoc _ _ _ _
  rw [← hafter] at hlanded
  refine ⟨earlier, env, hpre, hcommits, hdiscovers, hlanded, ?_⟩
  obtain ⟨later, rfl⟩ := hpre
  obtain ⟨row, hrow, hlocates, -⟩ := hlanded
  have hrest := rows_worldAfter service later ⟨row, hrow, hlocates⟩
  rwa [worldAfter, worldAfter, Versions.run, Versions.run, ← List.foldl_append] at hrest

/-- Discovery finds one file, whose content has a hash or cannot be read. -/
def oneFileRun (runId path : String) (mtime : Json) (content : Except StageError String) :
    RunEnvironment :=
  { quietRun runId with
    plugins := .ok [("custom", ⟨fun _ ↦ .ok (.arr [.obj [("path", .str path),
      ("mtime_epoch", mtime)]]), none⟩)]
    sha256 := fun _ _ ↦ content }

def ingestingRun : RunEnvironment :=
  oneFileRun "run-1" "a.csv" (.float ⟨"100.0", by decide⟩) (.ok "hash-a")

theorem ingestingRun_behind : CursorBehind localWorker "src" customWorld [ingestingRun] :=
  cursorBehind_of_ingests localWorker "src" customWorld [ingestingRun] (by decide +kernel)

/-- A run whose file cannot be read. -/
def unreadableRun : RunEnvironment :=
  oneFileRun "run-1" "a.csv" (.float ⟨"100.0", by decide⟩)
    (.error ⟨.other "No such file or directory", by decide⟩)

theorem failed_file_passed : ¬CursorBehind localWorker "src" customWorld [unreadableRun] := by
  intro h
  have hpassed : orderKey localWorker.mtimeText
        ⟨"a.csv", 0, .float ⟨"100.0", by decide⟩, "", "a"⟩ ≤
      savedCursor localWorker "ws" "src" (worldAfter localWorker customWorld [unreadableRun]) := by
    decide +kernel
  obtain ⟨before, ingesting, hpre, -, -, hlanded, -⟩ := h [] unreadableRun (List.prefix_refl _) "."
    ⟨"a.csv", 0, .float ⟨"100.0", by decide⟩, "", "a"⟩
    ⟨_, List.mem_cons_self, rfl, _, rfl, rfl, List.mem_cons_self⟩ hpassed
  have hempty : before = [] := by
    have hlength := hpre.length_le
    rw [List.length_append, List.length_singleton, List.length_singleton] at hlength
    exact List.length_eq_zero_iff.mp (by omega)
  subst hempty
  have hnone : (worldAfter localWorker customWorld [unreadableRun]).bronze.length = 0 := by
    decide +kernel
  obtain rfl : ingesting = unreadableRun := List.singleton_prefix_cons_iff.mp hpre
  obtain ⟨_, -, -, manifest, hmanifest, -⟩ := hlanded
  exact List.not_mem_nil (List.length_eq_zero_iff.mp hnone ▸ hmanifest)

end SchemaPilot.Workers
