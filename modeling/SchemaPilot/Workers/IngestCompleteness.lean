import SchemaPilot.Workers.DiscoverTrace
import Mathlib.Algebra.GroupWithZero.Nat

/-!
# Ingest completeness

What the connectors of a run return, file by file and row by row (`stepRows`), and what becomes of it. A
row that is no object, or has no path, is passed over without a trace, and a run that is stopped before
its completeness report leaves what it has not taken up (`rows_lost`). Every other row is ingested or
listed in the completeness evidence, and a run in strict mode that succeeds has ingested and counted
them all (`ingest_complete`).
-/

namespace SchemaPilot.Workers

open Library Library.Text Library.Json SharedDomain ControlPlane

/-! ### What connectors return -/

/-- A file of a directory, or a row of a plugin. -/
inductive ConnectorRow where
  | file (found : DiscoveredFile)
  | row (raw : Json)

/-- The path a row of a plugin has, `none` where the row is malformed. -/
def rowPath? (raw : Json) : Option String := ((asObj? raw).map rowPath).filter (· ≠ "")

/-- The path of what a connector returns, `none` where a row is malformed. -/
def ConnectorRow.path? : ConnectorRow → Option String
  | .file found => some found.path
  | .row raw => rowPath? raw

/-- What a connector returns for a source with a connector state. -/
def connectorRows (env : RunEnvironment) (plugins : List (String × ConnectorPluginSpec))
    (source : CatalogSource) (state : Fields) : List ConnectorRow :=
  let scope := jsonDict source.scopeJson
  let rootPath := strippedText scope "root_path" ""
  if source.sourceType = "filesystem" then
    if rootPath = "" then []
    else
      match env.discoverFiles rootPath (stringList (getD scope "include_globs" .null) ["**/*.csv"])
        (stringList (getD scope "exclude_globs" .null) []) with
      | .ok files => files.map .file
      | .error _ => []
  else
    match plugins.lookup source.sourceType with
    | none => []
    | some plugin =>
      match plugin.plugin (set scope "cursor_state" (.obj state)) with
      | .ok (.arr rows) => rows.map .row
      | _ => []

/-- What the connector of a source a run takes up returns. -/
def stepRows (service : WorkerService) (env : RunEnvironment) (step : CatalogSource × DiscoverState) :
    List ConnectorRow :=
  match env.plugins, (loadConnectorState service.storagePath env.workspaceId step.1.sourceId
      step.2.world.base.files).1 with
  | .ok plugins, .ok loaded => connectorRows env plugins step.1 loaded
  | _, _ => []

def wellFormedRows (service : WorkerService) (env : RunEnvironment)
    (step : CatalogSource × DiscoverState) : List ConnectorRow :=
  (stepRows service env step).filter fun row ↦ row.path?.isSome

/-- The root below which the files of a source are located. -/
def sourceRoot (source : CatalogSource) : String :=
  let rootPath := strippedText (jsonDict source.scopeJson) "root_path" ""
  if rootPath = "" then "." else rootPath

section Discovery

theorem rows_of_executeConnectorPlugin {pluginSpec : ConnectorPluginSpec} {scope : Fields}
    {rows : List Fields} (h : executeConnectorPlugin pluginSpec scope = .ok rows) :
    ∃ raw, pluginSpec.plugin scope = .ok (.arr raw) ∧ rows = raw.filterMap asObj? := by
  have hnormal : ∀ {rows : List Fields},
      (pluginSpec.plugin scope).bind normalizePluginRows = .ok rows →
        ∃ raw, pluginSpec.plugin scope = .ok (.arr raw) ∧ rows = raw.filterMap asObj? := by
    intro rows hrows
    obtain ⟨output, houtput, hrows⟩ := (bind_eq_ok_iff _ _ _).mp hrows
    cases output with
    | arr raw =>
      cases hrows
      exact ⟨raw, houtput, rfl⟩
    | _ => cases hrows
  unfold executeConnectorPlugin at h
  split_ifs at h
  · unfold runPluginInSubprocess at h
    split at h
    · cases h
    · next printed hprinted =>
      obtain ⟨raw, hraw, rfl⟩ := hnormal hprinted
      cases h
      refine ⟨raw, hraw, ?_⟩
      rw [List.filterMap_map]
      exact List.filterMap_some
  · exact hnormal h

theorem path_discoveredFileOf {toFloat : Json → Except Exn Json} {row : Fields}
    {file : DiscoveredFile} (h : discoveredFileOf toFloat row = .ok file) :
    file.path = rowPath row := by
  obtain ⟨sizeBytes, -, h⟩ := (bind_eq_ok_iff _ _ _).mp h
  obtain ⟨mtimeEpoch, -, h⟩ := (bind_eq_ok_iff _ _ _).mp h
  rw [← Except.ok.inj h]

theorem paths_discoverFilesViaPlugin {toFloat : Json → Except Exn Json}
    {pluginSpec : ConnectorPluginSpec} {scope : Fields} {files : List DiscoveredFile}
    (h : discoverFilesViaPlugin toFloat pluginSpec scope = .ok files) :
    ∃ raw, pluginSpec.plugin scope = .ok (.arr raw) ∧
      (files.map DiscoveredFile.path).Perm (raw.filterMap rowPath?) := by
  obtain ⟨rows, hrows, h⟩ := (bind_eq_ok_iff _ _ _).mp h
  obtain ⟨discovered, hdiscovered, h⟩ := (bind_eq_ok_iff _ _ _).mp h
  cases h
  obtain ⟨raw, hraw, rfl⟩ := rows_of_executeConnectorPlugin hrows
  refine ⟨raw, hraw, ((List.perm_insertionSort _ _).map _).trans ?_⟩
  rw [map_eq_of_mapM_eq_ok (fun _ _ ↦ path_discoveredFileOf) hdiscovered]
  refine List.Perm.of_eq ?_
  rw [← List.filterMap_eq_map, List.filterMap_filter, List.filterMap_filterMap]
  refine List.filterMap_congr fun value _ ↦ ?_
  unfold rowPath?
  cases asObj? value with
  | none => rfl
  | some row =>
    rw [Option.bind_some, Option.map_some, Option.filter_some, Function.comp_apply]

/-- A discovery finds the paths of what the connector returns, apart from malformed rows. -/
theorem paths_discoveredFiles {service : WorkerService} {env : RunEnvironment}
    {plugins : List (String × ConnectorPluginSpec)} {source : CatalogSource} {state : Fields}
    {rootPath : String} {files : List DiscoveredFile}
    (h : discoveredFiles service env plugins source state = .ok (rootPath, files)) :
    rootPath = sourceRoot source ∧ (files.map DiscoveredFile.path).Perm
      ((connectorRows env plugins source state).filterMap ConnectorRow.path?) := by
  unfold discoveredFiles at h
  unfold sourceRoot connectorRows
  dsimp only at h ⊢
  by_cases htype : source.sourceType = "filesystem"
  · rw [if_pos htype] at h ⊢
    split_ifs at h ⊢ with hroot
    obtain ⟨found, hfound, hpair⟩ := map_eq_ok_iff.mp h
    obtain ⟨hpath, rfl⟩ := Prod.mk.inj hpair
    refine ⟨hpath.symm, ?_⟩
    rw [hfound, List.filterMap_map]
    exact List.Perm.of_eq (congrFun List.filterMap_eq_map _).symm
  · rw [if_neg htype] at h ⊢
    cases hplugin : plugins.lookup source.sourceType with
    | none =>
      rw [hplugin] at h
      cases h
    | some plugin =>
      rw [hplugin] at h
      obtain ⟨found, hfound, hpair⟩ := map_eq_ok_iff.mp h
      obtain ⟨hpath, rfl⟩ := Prod.mk.inj hpair
      obtain ⟨raw, hraw, hperm⟩ := paths_discoverFilesViaPlugin hfound
      refine ⟨hpath.symm, ?_⟩
      dsimp only
      rw [hraw]
      dsimp only
      rw [List.filterMap_map]
      exact hperm

end Discovery

/-! ### What becomes of it -/

section Completeness

variable (service : WorkerService) (env : RunEnvironment)

/-- A run has ingested what a connector has returned for a source. -/
def Ingested (source : CatalogSource) (row : ConnectorRow) (world : WorkerWorld) : Prop :=
  ∃ path ∈ row.path?,
    Landed env source.sourceId (service.relativeLocator (sourceRoot source) path) world

/-- A failure is the one of a row, or of the discovery of its source. -/
def CompletenessFailure.Names (failure : CompletenessFailure) (source : CatalogSource)
    (row : ConnectorRow) : Prop :=
  failure.sourceId = source.sourceId ∧ failure.sourceType = source.sourceType ∧
    (failure.item = none ∨ ∃ path ∈ row.path?,
      failure.item = some (path, service.relativeLocator (sourceRoot source) path))

/-- `bundle_type` of the completeness evidence. -/
def completenessBundleType : String :=
  if env.strictIngest then "ingest_completeness_failure" else "ingest_completeness_warning"

def EvidenceStored (state : DiscoverState) : Prop :=
  let payload := completenessPayload env state.progress
  let bundle := describeBundle service.codec env.workspaceId payload service.storagePath
    (completenessBundleType env) none
  state.world.base.files.content? bundle.path =
    some (.json (bundleEnvelope service.codec payload (completenessBundleType env) bundle))

def reportedFailures (payload : Fields) : List Json :=
  (asArr? (getD payload "failures" .null)).getD []

/-- The completeness evidence lists a failure of a row or of its source. -/
def Reported (source : CatalogSource) (row : ConnectorRow) (state : DiscoverState) : Prop :=
  EvidenceStored service env state ∧ ∃ failure : CompletenessFailure,
    .obj failure.toFields ∈ reportedFailures (completenessPayload env state.progress) ∧
      failure.Names service source row

/-- A run in strict mode that succeeds has ingested and counted some of what the connectors return. -/
def StrictlyComplete (world : WorkerWorld)
    (rows : CatalogSource × DiscoverState → List ConnectorRow) : Prop :=
  env.strictIngest = true → ∀ output, (discoverRun service env world).1 = .ok output →
    (∀ step ∈ sourceSteps service env world, ∀ row ∈ rows step,
      Ingested service env step.1 row (discoverRun service env world).2.world) ∧
    output.processedItemCount =
      ((sourceSteps service env world).map fun step ↦ (rows step).length).sum

/-- A run has ingested or reported some of what the connectors return. -/
def AllAccountedFor (world : WorkerWorld)
    (rows : CatalogSource × DiscoverState → List ConnectorRow) : Prop :=
  ∀ step ∈ sourceSteps service env world, ∀ row ∈ rows step,
    Ingested service env step.1 row (discoverRun service env world).2.world ∨
      Reported service env step.1 row (discoverRun service env world).2

def ingestAndReport (sources : List CatalogSource) :
    Effect DiscoverState RunError (Option StoredEvidenceBundle) := do
  raised (ingestSources service env sources)
  reportCompleteness service env

/-- The quota, the time of the step, or an error outside the files of the sources stops a run before its
completeness report is made. -/
def StoppedEarly (world : WorkerWorld) : Prop :=
  ∃ exception, (ingestAndReport service env (activeSources env.workspaceId world.sources)
    ⟨world, .start⟩).1 = .error (.raised exception)

end Completeness

/-! ### The loops -/

def GoesOn (env : RunEnvironment) (before after : DiscoverState) : Prop :=
  Continues env before after ∧ before.progress.failures <+: after.progress.failures

instance (env : RunEnvironment) : IsPreorder DiscoverState (GoesOn env) where
  refl state := ⟨refl_of (Continues env) state, List.prefix_refl _⟩
  trans _ _ _ first second :=
    ⟨trans_of (Continues env) first.1 second.1, first.2.trans second.2⟩

/-- Each file that was taken up is a success or a failure. -/
def Tallied (state : DiscoverState) : Prop :=
  state.progress.successfulItemCount +
    (state.progress.failures.filter fun failure ↦ failure.item.isSome).length =
      state.progress.expectedItems.length

/-- A row is ingested, or a failure names it. -/
def Handled (service : WorkerService) (env : RunEnvironment) (source : CatalogSource)
    (row : ConnectorRow) (state : DiscoverState) : Prop :=
  Ingested service env source row state.world ∨
    ∃ failure ∈ state.progress.failures, failure.Names service source row

/-- The number of files the discovery of a source finds. -/
def discoveredCount (service : WorkerService) (env : RunEnvironment)
    (step : CatalogSource × DiscoverState) : ℕ :=
  ((discovery service env step.1 step.2).map fun found ↦ found.files.length).getD 0

/-- What a run leaves of a source: its rows are handled, and when its discovery fails a failure is
there. -/
structure SourceHandled (service : WorkerService) (env : RunEnvironment)
    (step : CatalogSource × DiscoverState) (state : DiscoverState) : Prop where
  rows : ∀ row ∈ wellFormedRows service env step, Handled service env step.1 row state
  discovered : state.progress.failures = [] →
    discoveredCount service env step = (wellFormedRows service env step).length

section Loops

variable {service : WorkerService} {env : RunEnvironment}

theorem Handled.goesOn {source : CatalogSource} {row : ConnectorRow} {before after : DiscoverState}
    (h : Handled service env source row before) (hgoes : GoesOn env before after) :
    Handled service env source row after := by
  obtain ⟨path, hpath, hlanded⟩ | ⟨failure, hfailure, hnames⟩ := h
  · exact Or.inl ⟨path, hpath, hlanded.later hgoes.1⟩
  · exact Or.inr ⟨failure, hgoes.2.subset hfailure, hnames⟩

theorem SourceHandled.goesOn {step : CatalogSource × DiscoverState} {before after : DiscoverState}
    (h : SourceHandled service env step before) (hgoes : GoesOn env before after) :
    SourceHandled service env step after where
  rows row hrow := (h.rows row hrow).goesOn hgoes
  discovered hnone := h.discovered (List.prefix_nil.mp (hnone ▸ hgoes.2))

/-- A file that is taken up is handled and counted. -/
theorem ends_processItem_handled (source : CatalogSource) (rootPath : String)
    (file : DiscoveredFile) (state : DiscoverState) :
    Effect.Ends (processItem service env source rootPath file) state
      (fun _ after ↦ GoesOn env state after ∧
        Processed service env source rootPath file state after) fun _ _ ↦ True := by
  refine (((continues_processItem env service source rootPath file).ends state).and
    (ends_processItem state)).mono ?_ fun _ _ _ ↦ trivial
  rintro _ after ⟨hlater, hprocessed⟩
  refine ⟨⟨hlater, ?_⟩, hprocessed⟩
  obtain ⟨-, hfailures, -⟩ | ⟨⟨error, hfailures⟩, -⟩ := hprocessed.outcome
  · rw [hfailures]
  · rw [hfailures]
    exact List.prefix_append _ _

theorem Processed.tallied {source : CatalogSource} {rootPath : String} {file : DiscoveredFile}
    {state after : DiscoverState} (h : Processed service env source rootPath file state after)
    (htallied : Tallied state) : Tallied after := by
  unfold Tallied at htallied ⊢
  obtain ⟨-, hfailures, hsuccesses⟩ | ⟨⟨error, hfailures⟩, hsuccesses⟩ := h.outcome
  · rw [hfailures, hsuccesses, h.expected]
    omega
  · rw [hfailures, hsuccesses, h.expected, List.filter_append, List.length_append,
      List.filter_cons_of_pos rfl, List.filter_nil, List.length_singleton]
    omega

theorem keeps_progress_onBase {α : Type} (p : Handler α) :
    Effect.Keeps DiscoverState.progress (onBase p) := fun _ ↦ rfl

/-- Files and rows with one path are handled alike. -/
theorem Handled.congr {source : CatalogSource} {row other : ConnectorRow} {state : DiscoverState}
    (h : Handled service env source row state) (hpath : other.path? = row.path?) :
    Handled service env source other state := by
  unfold Handled Ingested CompletenessFailure.Names at *
  rwa [hpath]

theorem Processed.handled {source : CatalogSource} {file : DiscoveredFile}
    {state after : DiscoverState}
    (h : Processed service env source (sourceRoot source) file state after) :
    Handled service env source (.file file) after := by
  obtain ⟨hlanded, -⟩ | ⟨⟨error, hfailures⟩, -⟩ := h.outcome
  · exact Or.inl ⟨file.path, rfl, hlanded⟩
  · have hmem := hfailures ▸ List.mem_append_right _ (List.mem_singleton_self _)
    exact Or.inr ⟨_, hmem, rfl, rfl, Or.inr ⟨file.path, rfl, rfl⟩⟩

theorem ends_forEach_processItem (source : CatalogSource) (files : List DiscoveredFile)
    (state : DiscoverState) :
    Effect.Ends (Effect.forEach (processItem service env source (sourceRoot source)) files) state
      (fun _ after ↦ GoesOn env state after ∧
        (∀ file ∈ files, Handled service env source (.file file) after) ∧
        after.progress.expectedItems.length =
          state.progress.expectedItems.length + files.length ∧
        (Tallied state → Tallied after)) fun _ _ ↦ True := by
  have hloop : Effect.Ends
      (Effect.forEach (processItem service env source (sourceRoot source)) files) state _
      fun _ _ ↦ True := Effect.ends_forEach
    (I := fun done after ↦ GoesOn env state after ∧
      (∀ entry ∈ done, Handled service env source (.file entry.1) after) ∧
      after.progress.expectedItems.length =
        state.progress.expectedItems.length + done.length ∧ (Tallied state → Tallied after))
    ⟨refl_of (GoesOn env) state, fun _ h ↦ absurd h List.not_mem_nil, rfl, id⟩
    fun done entry _ ⟨hgoes, hdone, hcount, htallied⟩ ↦
      (ends_processItem_handled source (sourceRoot source) entry.1 entry.2).mono ?_
        fun _ _ h ↦ h
  · refine ⟨fun hrun ↦ ?_, fun _ ↦ trivial⟩
    obtain ⟨hgoes, hhandled, hcount, htallied⟩ := hloop.of_ok hrun
    have hitems := Effect.iterations_fst_of_ok hrun
    refine ⟨hgoes, fun file hfile ↦ ?_, ?_, htallied⟩
    · rw [← hitems, List.mem_map] at hfile
      obtain ⟨entry, hentry, rfl⟩ := hfile
      exact hhandled entry hentry
    · rw [hcount, ← List.length_map Prod.fst, hitems]
  · rintro _ after ⟨hstep, hprocessed⟩
    refine ⟨trans_of (GoesOn env) hgoes hstep, fun other hother ↦ ?_, ?_,
      fun hstart ↦ hprocessed.tallied (htallied hstart)⟩
    · obtain hother | hother := List.mem_append.mp hother
      · exact (hdone other hother).goesOn hstep
      · rw [List.mem_singleton.mp hother]
        exact hprocessed.handled
    · rw [hprocessed.expected, hcount, List.length_append, List.length_singleton, Nat.add_assoc]

theorem mem_wellFormedRows {step : CatalogSource × DiscoverState} {row : ConnectorRow}
    (h : row ∈ wellFormedRows service env step) :
    ∃ path, row.path? = some path ∧
      path ∈ (stepRows service env step).filterMap ConnectorRow.path? := by
  obtain ⟨hrow, hpath⟩ := List.mem_filter.mp h
  obtain ⟨path, hpath⟩ := Option.isSome_iff_exists.mp hpath
  exact ⟨path, hpath, List.mem_filterMap.mpr ⟨row, hrow, hpath⟩⟩

theorem length_wellFormedRows (step : CatalogSource × DiscoverState) :
    (wellFormedRows service env step).length =
      ((stepRows service env step).filterMap ConnectorRow.path?).length := by
  rw [wellFormedRows, List.length_filterMap_eq_countP, List.countP_eq_length_filter]

/-- The rows of a source a run takes up are handled and counted. -/
theorem ends_processSource_handled {plugins : List (String × ConnectorPluginSpec)}
    (hplugins : env.plugins = .ok plugins) (source : CatalogSource) (state : DiscoverState) :
    Effect.Ends (processSource service env plugins source) state
      (fun _ after ↦ GoesOn env state after ∧ SourceHandled service env (source, state) after ∧
        after.progress.expectedItems.length =
          state.progress.expectedItems.length + discoveredCount service env (source, state) ∧
        (Tallied state → Tallied after)) fun _ _ ↦ True := by
  unfold processSource
  refine Effect.Ends.bind (Q := fun loaded after ↦ after = state ∧
    (loadConnectorState service.storagePath env.workspaceId source.sourceId
      state.world.base.files).1 = .ok loaded) ⟨fun hrun ↦ ?_, fun _ ↦ trivial⟩ ?_
  · rw [onBase_loadConnectorState] at hrun
    obtain ⟨hloaded, hafter⟩ := Prod.mk.inj hrun
    exact ⟨hafter.symm, hloaded⟩
  rintro loaded _ ⟨rfl, hloaded⟩
  rename_i state
  have hrows : stepRows service env (source, state) =
      connectorRows env plugins source loaded := by
    rw [stepRows, hplugins, hloaded]
  cases hfiles : discoveredFiles service env plugins source loaded with
  | error exception =>
    have hnone : discovery service env source state = none := by
      rw [discovery, hplugins, hloaded]
      dsimp only
      rw [hfiles]
    refine Effect.ends_change ⟨⟨Later.refl _, List.prefix_append _ _⟩, ⟨fun row hrow ↦ ?_,
      fun hnofailure ↦ ?_⟩, ?_, fun htallied ↦ ?_⟩
    · exact Or.inr ⟨_, List.mem_append_right _ (List.mem_singleton_self _), rfl, rfl, Or.inl rfl⟩
    · exact absurd hnofailure (List.append_ne_nil_of_right_ne_nil _ (List.cons_ne_nil _ _))
    · rw [discoveredCount, hnone]
      rfl
    · unfold Tallied at htallied ⊢
      rw [← htallied, List.filter_append, List.filter_cons_of_neg Bool.false_ne_true,
        List.filter_nil, List.append_nil]
  | ok found =>
    obtain ⟨rootPath, files⟩ := found
    obtain ⟨rfl, hpaths⟩ := paths_discoveredFiles hfiles
    have hcount : discoveredCount service env (source, state) = files.length := by
      rw [discoveredCount, discovery, hplugins, hloaded]
      dsimp only
      rw [hfiles]
      rfl
    rw [← hrows] at hpaths
    refine Effect.Ends.bind (Q := fun _ after ↦ after = state)
      (Effect.ends_onlyIf (fun _ ↦ Effect.ends_raise trivial) fun _ ↦ rfl) ?_
    rintro _ _ rfl
    rename_i state
    refine Effect.Ends.bind (Q := fun _ saved ↦ GoesOn env state saved ∧
      saved.progress = state.progress) ⟨fun hrun ↦ ?_, fun _ ↦ trivial⟩ ?_
    · have hlater := (continues_onBase env (advances_onFiles (saveConnectorState
        service.storagePath env.workspaceId source.sourceId
          (savedState service source loaded files) env.now))).of_run hrun
      have hsame := (keeps_progress_onBase _).of_run hrun
      refine ⟨⟨hlater, ?_⟩, hsame⟩
      rw [hsame]
    rintro _ saved ⟨hgoes, hsaved⟩
    refine (ends_forEach_processItem source files saved).mono ?_ fun _ _ h ↦ h
    rintro _ after ⟨hgoes', hhandled, hexpected, htallied⟩
    refine ⟨trans_of (GoesOn env) hgoes hgoes', ⟨fun row hrow ↦ ?_, fun _ ↦ ?_⟩, ?_,
      fun hstart ↦ htallied ?_⟩
    · obtain ⟨path, hpath, hmem⟩ := mem_wellFormedRows hrow
      obtain ⟨file, hfile, rfl⟩ := List.mem_map.mp (hpaths.symm.subset hmem)
      exact (hhandled file hfile).congr hpath
    · rw [length_wellFormedRows, ← hpaths.length_eq, List.length_map, hcount]
    · rw [hexpected, hsaved, hcount]
    · unfold Tallied at hstart ⊢
      rw [hsaved]
      exact hstart

end Loops

/-! ### The run -/

/-- What a run leaves of its sources when they are done. -/
structure SourcesHandled (service : WorkerService) (env : RunEnvironment) (world : WorkerWorld)
    (state : DiscoverState) : Prop where
  rows : ∀ step ∈ sourceSteps service env world, ∀ row ∈ wellFormedRows service env step,
    Handled service env step.1 row state
  counted : state.progress.failures = [] → state.progress.successfulItemCount =
    ((sourceSteps service env world).map fun step ↦ (wellFormedRows service env step).length).sum

/-- Files stay as they are where they hold something. -/
def FilesStay (before after : FileStore) : Prop :=
  ∀ path content, before.content? path = some content → after.content? path = some content

instance : IsPreorder FileStore FilesStay where
  refl _ _ _ h := h
  trans _ _ _ first second path content h := second path content (first path content h)

def KeepsStored (before after : World) : Prop := FilesStay before.files after.files

instance : IsPreorder World KeepsStored where
  refl world := refl_of FilesStay world.files
  trans _ _ _ := trans_of FilesStay

/-- A run keeps what it has noted and the files that hold something. -/
def Concludes (before after : DiscoverState) : Prop :=
  after.progress = before.progress ∧
    FilesStay before.world.base.files after.world.base.files

instance : IsPreorder DiscoverState Concludes where
  refl _ := ⟨rfl, refl_of FilesStay _⟩
  trans _ _ _ first second := ⟨second.1.trans first.1, trans_of FilesStay first.2 second.2⟩

section Run

variable {service : WorkerService} {env : RunEnvironment} {world : WorkerWorld}

/-- The sources of a run that is not stopped are handled. -/
theorem ends_ingestSources (hinventory : env.timedOut "discover_inventory" 0 = false) :
    Effect.Ends (ingestSources service env (activeSources env.workspaceId world.sources))
      ⟨world, .start⟩ (fun _ after ↦ SourcesHandled service env world after)
      fun _ _ ↦ True := by
  unfold ingestSources
  refine Effect.Ends.bind (Q := fun _ after ↦ after = ⟨world, .start⟩ ∧
      env.timedOut "ingest_profile_governance" 0 = false) (Effect.ends_onlyIf
    (fun _ ↦ Effect.ends_raise trivial) fun htime ↦ ⟨rfl, Bool.eq_false_of_not_eq_true htime⟩) ?_
  rintro _ _ ⟨rfl, htime⟩
  cases hplugins : env.plugins with
  | error exception => exact Effect.ends_raise trivial
  | ok plugins =>
    have hsteps : sourceSteps service env world =
        Effect.iterations (processSource service env plugins)
          (activeSources env.workspaceId world.sources) ⟨world, .start⟩ := by
      rw [sourceSteps, hplugins]
      simp [hinventory, htime]
    refine (Effect.ends_forEach (E := fun _ _ ↦ True) (I := fun done after ↦
      GoesOn env ⟨world, .start⟩ after ∧ (∀ step ∈ done, SourceHandled service env step after) ∧
      after.progress.expectedItems.length = (done.map (discoveredCount service env)).sum ∧
      Tallied after)
      ⟨refl_of (GoesOn env) _, fun _ h ↦ absurd h List.not_mem_nil, rfl, rfl⟩
      fun done step _ hdone ↦
        (ends_processSource_handled hplugins step.1 step.2).mono ?_ fun _ _ h ↦ h).mono ?_
          fun _ _ h ↦ h
    · obtain ⟨hgoes, hdone, hcount, htallied⟩ := hdone
      rintro _ after ⟨hstep, hhandled, hexpected, hkeeps⟩
      refine ⟨trans_of (GoesOn env) hgoes hstep, fun other hother ↦ ?_, ?_, hkeeps htallied⟩
      · obtain hother | hother := List.mem_append.mp hother
        · exact (hdone other hother).goesOn hstep
        · rw [List.mem_singleton.mp hother]
          exact hhandled
      · rw [hexpected, hcount, List.map_append, List.sum_append, List.map_singleton,
          List.sum_singleton]
    · rintro _ after ⟨-, hhandled, hcount, htallied⟩
      rw [← hsteps] at hhandled hcount
      refine ⟨fun step hstep ↦ (hhandled step hstep).rows, fun hnone ↦ ?_⟩
      rw [Tallied, hnone, hcount] at htallied
      rw [← List.map_congr_left fun step hstep ↦ (hhandled step hstep).discovered hnone]
      exact htallied

theorem filesStay_writeBundle (path : TreePath) (envelope : Json) (now : ℤ) :
    Effect.Advances FilesStay (writeBundle path envelope now) := by
  intro files other content hcontent
  unfold writeBundle
  rw [Effect.bind_apply, Files.pathExists_apply]
  dsimp only
  split_ifs with hpath
  · rw [Effect.bind_apply, Effect.read_apply]
    dsimp only
    cases files.content? path with
    | none => exact hcontent
    | some existing =>
      dsimp only
      split_ifs
      · exact hcontent
      · exact hcontent
  · refine (Files.keeps_writeJson (fun heq ↦ hpath ?_) envelope now files).trans hcontent
    rw [FileTree.pathExists, ← heq]
    unfold FileTree.content? at hcontent
    cases hnode : files.node? other with
    | none =>
      rw [hnode] at hcontent
      cases hcontent
    | some node => rfl

theorem filesStay_storeEvidenceBundle (codec : EvidenceCodec) (workspaceId : String)
    (payload : Fields) (storageRoot : TreePath) (bundleType : String) (evidenceId : Option String)
    (now : ℤ) : Effect.Advances FilesStay
      (storeEvidenceBundle codec workspaceId payload storageRoot bundleType evidenceId now) :=
  Effect.Advances.bind (fun files path _ hcontent ↦
      (Files.keeps_makeDirs _ path files).trans hcontent) fun _ ↦
    (filesStay_writeBundle _ _ _).bind fun _ ↦ Effect.advances_pure _

/-- Work on the control plane concludes a run when the files stay. -/
theorem concludes_onBase {α : Type} {p : Handler α}
    (h : Effect.Advances KeepsStored p) :
    Effect.Advances Concludes (onBase p) := fun state ↦ ⟨rfl, h state.world.base⟩

theorem keepsStored_of_keeps {α : Type} {p : Handler α} (h : Effect.Keeps World.files p) :
    Effect.Advances KeepsStored p := by
  intro world
  unfold KeepsStored
  rw [h world]
  exact refl_of FilesStay _

theorem keeps_files_getOrCreateReviewProposal (service : Service)
    (workspaceId proposalType uri : String) (confidence : Json) :
    Effect.Keeps World.files
      (getOrCreateReviewProposal service workspaceId proposalType uri confidence) :=
  (keeps_query _).bind fun _ ↦ keeps_foundOr (keeps_files_createProposal _ _ _ _ _) _

theorem keeps_files_createBlockingReviewTaskIfMissing (service : Service)
    (workspaceId proposalId priority : String) : Effect.Keeps World.files
      (createBlockingReviewTaskIfMissing service workspaceId proposalId priority) := by
  refine (keeps_query _).bind fun existing ↦ ?_
  cases existing with
  | none => exact (keeps_files_createReviewTask _ _ _ _ _).bind fun _ ↦ Effect.keeps_pure _
  | some task => exact Effect.keeps_pure _

theorem keeps_files_ensureIngestCompletenessReviewTask (service : Service)
    (workspaceId uri : String) : Effect.Keeps World.files
      (ensureIngestCompletenessReviewTask service workspaceId uri) :=
  (keeps_files_getOrCreateReviewProposal _ _ _ _ _).bind fun _ ↦ (keeps_query _).bind fun _ ↦
    (keeps_foundOr (keeps_files_createReviewTask _ _ _ _ _) _).bind fun _ ↦ Effect.keeps_pure _

theorem keepsStored_createSemanticDriftReviewTaskIfNeeded (service : Service)
    (lowerCase : String → String) (now : ℤ) (workspaceId : String) :
    Effect.Advances KeepsStored
      (createSemanticDriftReviewTaskIfNeeded service lowerCase now workspaceId) := by
  refine (keepsStored_of_keeps (keeps_query _)).bind fun semanticPolicy ↦ ?_
  cases driftGateManifest semanticPolicy with
  | none => exact Effect.advances_pure _
  | some manifest =>
    refine (keepsStored_of_keeps (keeps_query _)).bind fun available ↦ ?_
    split_ifs
    · exact Effect.advances_pure _
    · dsimp only
      split_ifs
      · exact Effect.advances_pure _
      · refine Effect.Advances.bind (fun world ↦ ?_) fun _ ↦
          (keepsStored_of_keeps (keeps_files_getOrCreateReviewProposal _ _ _ _ _)).bind fun _ ↦
            (keepsStored_of_keeps (keeps_files_createBlockingReviewTaskIfMissing _ _ _ _)).bind
              fun _ ↦ Effect.advances_pure _
        exact filesStay_storeEvidenceBundle _ _ _ _ _ _ _ world.files

theorem concludes_finishDiscover (service : WorkerService) (env : RunEnvironment)
    (sources : List CatalogSource) (warning : Option StoredEvidenceBundle) :
    Effect.Advances Concludes (finishDiscover service env sources warning) := by
  refine (Effect.advances_raise _).onlyIf.bind fun _ ↦ Effect.Advances.bind ?_ fun _ ↦
    (Effect.advances_raise _).onlyIf.bind fun _ ↦ Effect.advances_read.bind fun _ ↦
      Effect.advances_pure _
  exact (keepsStored_createSemanticDriftReviewTaskIfNeeded _ _ _ _).within fun _ _ h ↦ ⟨rfl, h⟩

theorem concludes_raised {α : Type} {p : DiscoverStep α} (h : Effect.Advances Concludes p) :
    Effect.Advances Concludes (raised p) := h

theorem EvidenceStored.concludes {before after : DiscoverState}
    (h : EvidenceStored service env before) (hconcludes : Concludes before after) :
    EvidenceStored service env after := by
  unfold EvidenceStored at h ⊢
  rw [hconcludes.1]
  exact hconcludes.2 _ _ h

theorem ends_raised {α : Type} {p : DiscoverStep α} {state : DiscoverState}
    {Q : α → DiscoverState → Prop} {E : Exn → DiscoverState → Prop} (h : Effect.Ends p state Q E) :
    Effect.Ends (raised p) state Q
      fun error after ↦ ∃ exception, error = .raised exception ∧ E exception after := by
  constructor
  · intro value after hrun
    obtain ⟨hvalue, rfl⟩ := Prod.mk.inj hrun
    exact h.of_ok (Prod.ext (mapError_eq_ok_iff.mp hvalue) rfl)
  · intro error after hrun
    obtain ⟨herror, rfl⟩ := Prod.mk.inj hrun
    obtain ⟨exception, hexception, rfl⟩ := mapError_eq_error_iff.mp herror
    exact ⟨exception, rfl, h.of_error (Prod.ext hexception rfl)⟩

/-- The completeness evidence is stored when nothing is noted any more. -/
theorem ends_storeEvidence_completeness {bundleType : String}
    (hbundle : bundleType = completenessBundleType env) (state : DiscoverState) :
    Effect.Ends (storeEvidence service env none bundleType (completenessPayload env state.progress))
      state (fun _ after ↦ after.progress = state.progress ∧ EvidenceStored service env after)
      fun _ _ ↦ True := by
  refine Effect.Ends.bind (Q := fun _ after ↦ after = state)
    (Effect.ends_ofExcept (fun _ _ ↦ rfl) fun _ _ ↦ trivial) ?_
  rintro _ _ rfl
  rename_i state
  refine ⟨fun {stored after} hrun ↦ ?_, fun _ ↦ trivial⟩
  have hprogress := (keeps_progress_onBase _).of_run hrun
  refine ⟨hprogress, ?_⟩
  obtain ⟨hresult, rfl⟩ := Prod.mk.inj hrun
  obtain ⟨hstored, hcontent⟩ := storeEvidenceBundle_ok (Prod.ext hresult rfl)
  unfold EvidenceStored
  dsimp only
  rw [hprogress, ← hbundle, ← hstored]
  exact (hcontent stored.path).trans (if_pos rfl)

/-- What the completeness report leaves: the evidence is stored when there are failures, and a run in
strict mode goes on only without failures. -/
theorem ends_reportCompleteness (state : DiscoverState) :
    Effect.Ends (reportCompleteness service env) state
      (fun _ after ↦ after.progress = state.progress ∧
        (state.progress.failures ≠ [] → EvidenceStored service env after) ∧
        (env.strictIngest = true → state.progress.failures = []))
      fun error after ↦ (∃ exception, error = .raised exception) ∨
        after.progress = state.progress ∧ EvidenceStored service env after := by
  unfold reportCompleteness
  refine Effect.ends_read_bind ?_
  dsimp only
  split_ifs with hnone hstrict
  · exact Effect.ends_pure ⟨rfl, fun hsome ↦ absurd hnone hsome, fun _ ↦ hnone⟩
  · have hbundle : "ingest_completeness_failure" = completenessBundleType env :=
      (if_pos hstrict).symm
    refine Effect.Ends.bind ((ends_raised (ends_storeEvidence_completeness hbundle state)).mono
      (fun _ _ h ↦ h) fun _ _ ⟨exception, herror, _⟩ ↦ Or.inl ⟨exception, herror⟩) ?_
    rintro stored after ⟨hprogress, hevidence⟩
    have hconcludes := concludes_onBase (keepsStored_of_keeps
      (keeps_files_ensureIngestCompletenessReviewTask service.toService env.workspaceId
        stored.evidenceBundleUri))
    refine Effect.Ends.bind ((ends_raised (hconcludes.ends after)).mono (fun _ _ h ↦ h)
      fun _ _ ⟨exception, herror, _⟩ ↦ Or.inl ⟨exception, herror⟩) ?_
    rintro failureTask last hlast
    exact Effect.ends_raise (Or.inr ⟨hlast.1.trans hprogress, hevidence.concludes hlast⟩)
  · have hbundle : "ingest_completeness_warning" = completenessBundleType env :=
      (if_neg hstrict).symm
    refine Effect.Ends.bind ((ends_raised (ends_storeEvidence_completeness hbundle state)).mono
      (fun _ _ h ↦ h) fun _ _ ⟨exception, herror, _⟩ ↦ Or.inl ⟨exception, herror⟩) ?_
    rintro stored after ⟨hprogress, hevidence⟩
    exact Effect.ends_pure ⟨hprogress, fun _ ↦ hevidence, fun h ↦ absurd h hstrict⟩

structure ReportMade (service : WorkerService) (env : RunEnvironment) (world : WorkerWorld)
    (state : DiscoverState) : Prop where
  sources : SourcesHandled service env world state
  evidence : state.progress.failures ≠ [] → EvidenceStored service env state

theorem SourcesHandled.goesOn {before after : DiscoverState}
    (h : SourcesHandled service env world before) (hlater : Continues env before after)
    (hprogress : after.progress = before.progress) : SourcesHandled service env world after where
  rows step hstep row hrow := (h.rows step hstep row hrow).goesOn ⟨hlater, by rw [hprogress]⟩
  counted := by
    rw [hprogress]
    exact h.counted

theorem ReportMade.concludes {before after : DiscoverState}
    (h : ReportMade service env world before) (hlater : Continues env before after)
    (hconcludes : Concludes before after) : ReportMade service env world after where
  sources := h.sources.goesOn hlater hconcludes.1
  evidence hsome := (h.evidence (hconcludes.1 ▸ hsome)).concludes hconcludes

theorem ReportMade.accounted {state : DiscoverState} (h : ReportMade service env world state)
    {step : CatalogSource × DiscoverState} (hstep : step ∈ sourceSteps service env world)
    {row : ConnectorRow} (hrow : row ∈ wellFormedRows service env step) :
    Ingested service env step.1 row state.world ∨ Reported service env step.1 row state := by
  refine (h.sources.rows step hstep row hrow).imp_right fun ⟨failure, hfailure, hnames⟩ ↦ ?_
  refine ⟨h.evidence (List.ne_nil_of_mem hfailure), failure, ?_, hnames⟩
  exact List.mem_map_of_mem ((List.mem_insertionSort _).mpr hfailure)

theorem ends_ingestAndReport (service : WorkerService) (world : WorkerWorld)
    (hinventory : env.timedOut "discover_inventory" 0 = false) :
    Effect.Ends (ingestAndReport service env (activeSources env.workspaceId world.sources))
      ⟨world, .start⟩
      (fun _ after ↦ ReportMade service env world after ∧
        (env.strictIngest = true → after.progress.failures = []))
      fun error after ↦ (∃ exception, error = .raised exception) ∨
        ReportMade service env world after := by
  refine Effect.Ends.bind ((ends_raised (ends_ingestSources hinventory)).mono (fun _ _ h ↦ h)
    fun _ _ ⟨exception, herror, _⟩ ↦ Or.inl ⟨exception, herror⟩) ?_
  intro _ handled hhandled
  refine ((ends_reportCompleteness handled).and
    ((continues_reportCompleteness env service).ends handled)).mono ?_ ?_
  · rintro warning after ⟨⟨hprogress, hevidence, hstrict⟩, hlater⟩
    rw [← hprogress] at hevidence hstrict
    exact ⟨⟨hhandled.goesOn hlater hprogress, hevidence⟩, hstrict⟩
  · rintro error after ⟨hraised | ⟨hprogress, hevidence⟩, hlater⟩
    · exact Or.inl hraised
    · exact Or.inr ⟨hhandled.goesOn hlater hprogress, fun _ ↦ hevidence⟩

theorem discoverRun_inventoried (service : WorkerService)
    (hinventory : env.timedOut "discover_inventory" 0 = false) :
    discoverRun service env world =
      (if activeSources env.workspaceId world.sources = [] then
          Effect.raise (.raised (.valueError "Discover run requires at least one active source."))
        else
          raised (ingestSources service env (activeSources env.workspaceId world.sources)) >>=
            fun _ ↦ reportCompleteness service env >>= fun warning ↦
              raised (finishDiscover service env (activeSources env.workspaceId world.sources)
                warning))
        ⟨world, .start⟩ := by
  rw [discoverRun, processDiscoverRun, enforceWorkerStepTimeout, hinventory]
  rfl

theorem discoverRun_eq (service : WorkerService)
    (hinventory : env.timedOut "discover_inventory" 0 = false)
    (hsources : activeSources env.workspaceId world.sources ≠ []) :
    discoverRun service env world =
      (ingestAndReport service env (activeSources env.workspaceId world.sources) >>= fun warning ↦
        raised (finishDiscover service env (activeSources env.workspaceId world.sources) warning))
          ⟨world, .start⟩ := by
  rw [ingestAndReport, Effect.bind_assoc, discoverRun_inventoried service hinventory,
    if_neg hsources]

/-- A run that takes up a source has sources, and the time for them. -/
theorem started_of_mem_sourceSteps {step : CatalogSource × DiscoverState}
    (h : step ∈ sourceSteps service env world) :
    env.timedOut "discover_inventory" 0 = false ∧
      activeSources env.workspaceId world.sources ≠ [] := by
  unfold sourceSteps at h
  split at h
  · exact absurd h List.not_mem_nil
  · split_ifs at h with htime
    · exact absurd h List.not_mem_nil
    · rw [not_or, Bool.not_eq_true] at htime
      exact ⟨htime.1, List.ne_nil_of_mem (Effect.mem_of_mem_iterations h)⟩

/-- So has a run that succeeds. -/
theorem started_of_ok {output : DiscoverOutput}
    (h : (discoverRun service env world).1 = .ok output) :
    env.timedOut "discover_inventory" 0 = false ∧
      activeSources env.workspaceId world.sources ≠ [] := by
  cases htime : env.timedOut "discover_inventory" 0 with
  | true =>
    obtain ⟨_, started, hinventory, -⟩ := Effect.bind_eq_ok_iff.mp (Prod.ext h rfl)
    rw [enforceWorkerStepTimeout, htime] at hinventory
    cases hinventory
  | false =>
    refine ⟨rfl, fun hnone ↦ ?_⟩
    rw [discoverRun_inventoried service htime, if_pos hnone] at h
    cases h

/-- The output counts the files that were ingested. -/
theorem ends_finishDiscover (sources : List CatalogSource) (warning : Option StoredEvidenceBundle)
    (state : DiscoverState) :
    Effect.Ends (finishDiscover service env sources warning) state
      (fun output after ↦ output.processedItemCount = after.progress.successfulItemCount)
      fun _ _ ↦ True := by
  refine Effect.Ends.bind (Q := fun _ _ ↦ True) ⟨fun _ ↦ trivial, fun _ ↦ trivial⟩ fun _ _ _ ↦
    Effect.Ends.bind (Q := fun _ _ ↦ True) ⟨fun _ ↦ trivial, fun _ ↦ trivial⟩ fun _ _ _ ↦
      Effect.Ends.bind (Q := fun _ _ ↦ True) ⟨fun _ ↦ trivial, fun _ ↦ trivial⟩ fun _ _ _ ↦
        Effect.ends_read_bind (Effect.ends_pure rfl)

end Run

/-- A run in strict mode that succeeds has ingested and counted every file and every well-formed row the
connectors returned; in any mode each is ingested or listed in the completeness evidence, unless the
run is stopped before its report. -/
theorem ingest_complete (service : WorkerService) (env : RunEnvironment) (world : WorkerWorld) :
    StrictlyComplete service env world (wellFormedRows service env) ∧
      (¬StoppedEarly service env world →
        AllAccountedFor service env world (wellFormedRows service env)) := by
  constructor
  · intro hstrict output houtput
    obtain ⟨hinventory, hsources⟩ := started_of_ok houtput
    have hrun := discoverRun_eq service hinventory hsources
    rcases hafter : discoverRun service env world with ⟨outcome, after⟩
    rw [hafter] at houtput
    obtain rfl : outcome = .ok output := houtput
    obtain ⟨warning, reported, hreport, hfinish⟩ := Effect.bind_eq_ok_iff.mp (hrun ▸ hafter)
    obtain ⟨hmade, hnone⟩ := (ends_ingestAndReport service world hinventory).of_ok hreport
    have hlater := (continues_raised env (continues_finishDiscover env service _ warning)).of_run
      hfinish
    have hconcludes := (concludes_raised (concludes_finishDiscover service env _ warning)).of_run
      hfinish
    have hlast := hmade.concludes hlater hconcludes
    have hfailures : after.progress.failures = [] := hconcludes.1 ▸ hnone hstrict
    refine ⟨fun step hstep row hrow ↦ ?_, ?_⟩
    · refine (hlast.sources.rows step hstep row hrow).resolve_right ?_
      rintro ⟨failure, hfailure, -⟩
      exact absurd (hfailures ▸ hfailure) List.not_mem_nil
    · rw [(ends_raised (ends_finishDiscover _ warning reported)).of_ok hfinish]
      exact hlast.sources.counted hfailures
  · intro hgoes step hstep row hrow
    obtain ⟨hinventory, hsources⟩ := started_of_mem_sourceSteps hstep
    have hends := ends_ingestAndReport service world hinventory
    rw [discoverRun_eq service hinventory hsources, Effect.bind_apply]
    rcases hreport : ingestAndReport service env (activeSources env.workspaceId world.sources)
      ⟨world, .start⟩ with ⟨error | warning, reported⟩
    · obtain ⟨exception, rfl⟩ | hmade := hends.of_error hreport
      · exact absurd ⟨exception, congrArg Prod.fst hreport⟩ hgoes
      · exact hmade.accounted hstep hrow
    · have hlater := continues_raised env (continues_finishDiscover env service
        (activeSources env.workspaceId world.sources) warning) reported
      have hconcludes := concludes_raised (concludes_finishDiscover service env
        (activeSources env.workspaceId world.sources) warning) reported
      exact ((hends.of_ok hreport).1.concludes hlater hconcludes).accounted hstep hrow

/-! ### Runs of a plugin source -/

/-- A run whose plugin returns some values. -/
def pluginRun (rows : List Json) : RunEnvironment :=
  { quietRun "run-1" with plugins := .ok [("custom", ⟨fun _ ↦ .ok (.arr rows), none⟩)] }

theorem pluginRun_complete :
    StrictlyComplete localWorker (pluginRun [.obj [("path", .str "a.txt")]]) customWorld
        (wellFormedRows localWorker (pluginRun [.obj [("path", .str "a.txt")]])) ∧
      AllAccountedFor localWorker (pluginRun [.obj [("path", .str "a.txt")]]) customWorld
        (wellFormedRows localWorker (pluginRun [.obj [("path", .str "a.txt")]])) := by
  obtain ⟨hstrict, hall⟩ :=
    ingest_complete localWorker (pluginRun [.obj [("path", .str "a.txt")]]) customWorld
  refine ⟨hstrict, hall ?_⟩
  rintro ⟨exception, hstopped⟩
  have hok : (ingestAndReport localWorker (pluginRun [.obj [("path", .str "a.txt")]])
      (activeSources "ws" customWorld.sources) ⟨customWorld, .start⟩).1.isOk = true := by
    decide +kernel
  exact Bool.false_ne_true ((congrArg Except.isOk hstopped).symm.trans hok)

/-- A plugin run that finds more files than a step may take up. -/
def overfullRun : RunEnvironment :=
  { pluginRun [.obj [("path", .str "a.txt")]] with maxItems := 0 }

theorem rows_lost :
    ¬StrictlyComplete localWorker (pluginRun [.str "a.txt"]) customWorld
        (stepRows localWorker (pluginRun [.str "a.txt"])) ∧
      ¬AllAccountedFor localWorker overfullRun customWorld (stepRows localWorker overfullRun) := by
  constructor
  · intro h
    have hok : (discoverRun localWorker (pluginRun [.str "a.txt"]) customWorld).1.isOk = true := by
      decide +kernel
    obtain ⟨output, houtput⟩ := exists_eq_ok_of_isOk hok
    obtain ⟨path, hpath, -⟩ := (h rfl output houtput).1 _ List.mem_cons_self
      (.row (.str "a.txt")) List.mem_cons_self
    cases hpath
  · intro h
    obtain ⟨path, -, row, -, -, manifest, hmanifest, -⟩ | ⟨-, failure, hfailure, -⟩ :=
      h _ List.mem_cons_self (.row (.obj [("path", .str "a.txt")])) List.mem_cons_self
    · have hnone : (discoverRun localWorker overfullRun customWorld).2.world.bronze.length = 0 := by
        decide +kernel
      exact List.not_mem_nil (List.length_eq_zero_iff.mp hnone ▸ hmanifest)
    · have hnone : (reportedFailures (completenessPayload overfullRun
          (discoverRun localWorker overfullRun customWorld).2.progress)).length = 0 := by
        decide +kernel
      exact List.not_mem_nil (List.length_eq_zero_iff.mp hnone ▸ hfailure)

end SchemaPilot.Workers
