import SchemaPilot.ControlPlane.Frames
import SchemaPilot.Library.Table
import Mathlib.Data.String.Basic

/-!
# Catalog snapshots

`backend/control_plane/catalog_snapshot.py`: the export of a workspace's sources and datasets without
credentials, and the import of a snapshot. `catalog_round_trip` shows that an imported export is
exported again as it was, but for the flags of the credentials that were left out.
-/

namespace SchemaPilot.ControlPlane.CatalogSnapshot

open Library Library.Json SharedDomain

/-- `workspaces`. -/
structure Workspace where
  workspaceId : String
  name : String
  profile : String
  securityBaseline : String

/-- `catalog_sources`. -/
structure CatalogSource where
  sourceId : String
  workspaceId : String
  sourceType : String
  scope : Fields
  credentialsRef : Option String
  status : String
  displayName : String

/-- `catalog_datasets`. -/
structure CatalogDataset where
  datasetId : String
  workspaceId : String
  sourceId : String
  logicalName : String
  physicalLocator : String
  schemaVersion : ℤ
  sensitivitySummary : Fields

/-- The tables of the catalog, and how many identifiers `uuid.uuid4` has given out. -/
structure CatalogState where
  workspaces : Table Workspace Workspace.workspaceId
  sources : Table CatalogSource CatalogSource.sourceId
  datasets : Table CatalogDataset CatalogDataset.datasetId
  issued : ℕ

abbrev CatalogHandler (α : Type) := Effect CatalogState Exn α

/-- `CATALOG_SNAPSHOT_VERSION`. -/
def catalogSnapshotVersion : String := "v1"

def workspaceSources (workspaceId : String) (state : CatalogState) : List CatalogSource :=
  state.sources.orderedRows fun row ↦ row.workspaceId = workspaceId

def workspaceDatasets (workspaceId : String) (state : CatalogState) : List CatalogDataset :=
  state.datasets.orderedRows fun row ↦ row.workspaceId = workspaceId

def Workspace.snapshot (workspace : Workspace) : Fields :=
  [("workspace_id", .str workspace.workspaceId), ("name", .str workspace.name),
    ("profile", .str workspace.profile), ("security_baseline", .str workspace.securityBaseline)]

/-- A source in a snapshot; `bool(row.credentials_ref)` is false for an empty reference. -/
def CatalogSource.snapshot (row : CatalogSource) : Fields :=
  [("source_id", .str row.sourceId), ("source_type", .str row.sourceType), ("scope", .obj row.scope),
    ("display_name", .str row.displayName), ("status", .str row.status),
    ("credentials_redacted", .bool (row.credentialsRef.any (· ≠ "")))]

def CatalogDataset.snapshot (row : CatalogDataset) : Fields :=
  [("dataset_id", .str row.datasetId), ("source_id", .str row.sourceId),
    ("logical_name", .str row.logicalName), ("physical_locator", .str row.physicalLocator),
    ("schema_version", .int row.schemaVersion),
    ("sensitivity_summary", .obj row.sensitivitySummary)]

def snapshotOf (workspace : Workspace) (sources : List CatalogSource)
    (datasets : List CatalogDataset) : Fields :=
  [("snapshot_version", .str catalogSnapshotVersion), ("workspace", .obj workspace.snapshot),
    ("sources", .arr (sources.map fun row ↦ .obj row.snapshot)),
    ("datasets", .arr (datasets.map fun row ↦ .obj row.snapshot))]

/-- `export_catalog_snapshot`. -/
def exportCatalogSnapshot (workspaceId : String) : CatalogHandler Fields := do
  let state ← Effect.read
  match state.workspaces.get? workspaceId with
  | none => Effect.raise (.valueError "workspace_not_found")
  | some workspace =>
    return snapshotOf workspace (workspaceSources workspaceId state)
      (workspaceDatasets workspaceId state)

/-- `uuid.uuid4()`. -/
def uuid4 (newUuid : ℕ → String) : CatalogHandler String := fun state ↦
  (.ok (newUuid state.issued), { state with issued := state.issued + 1 })

/-- `session.add(source)`, flushed before the next read. -/
def addSource (row : CatalogSource) : CatalogHandler Unit := fun state ↦
  match state.sources.insert? row with
  | some sources => (.ok (), { state with sources := sources })
  | none => (.error (.other "IntegrityError"), state)

/-- `session.add(dataset)`, flushed before the next read. -/
def addDataset (row : CatalogDataset) : CatalogHandler Unit := fun state ↦
  match state.datasets.insert? row with
  | some datasets => (.ok (), { state with datasets := datasets })
  | none => (.error (.other "IntegrityError"), state)

/-- How many rows an import has added, and the keys its sources got. -/
structure ImportProgress where
  importedSources : ℕ
  importedDatasets : ℕ
  sourceIdMap : List (String × String)

/-- `str(item.get(key, default))`. -/
def itemText (item : Fields) (key default : String) : String :=
  (getD item key (.str default)).toStr

/-- `item.get(key, {})` when that is a dictionary, else an empty one. -/
def itemDict (item : Fields) (key : String) : Fields := (asObj? (getD item key .null)).getD []

/-- The key a row gets: its own, or a new one where a row of another workspace has it. The row is
imported when this is no row of the workspace. -/
def importKey (newUuid : ℕ → String) (workspaceId original : String) (owner : Option String) :
    CatalogHandler (String × Bool) :=
  match owner with
  | none => pure (original, true)
  | some other =>
    if other = workspaceId then pure (original, false)
    else do return (← uuid4 newUuid, true)

/-- One item of `snapshot["sources"]`. -/
def importSource (newUuid : ℕ → String) (workspaceId : String) (progress : ImportProgress)
    (item : Fields) : CatalogHandler ImportProgress := do
  let sourceIdOriginal := strippedText item "source_id" ""
  if sourceIdOriginal = "" then return progress
  else
    let found := (← Effect.read).sources.get? sourceIdOriginal
    let (sourceId, isNew) ← importKey newUuid workspaceId sourceIdOriginal
      (found.map CatalogSource.workspaceId)
    let sourceIdMap := (sourceIdOriginal, sourceId) :: progress.sourceIdMap
    if isNew then
      addSource
        { sourceId := sourceId
          workspaceId := workspaceId
          sourceType := itemText item "source_type" "filesystem"
          scope := itemDict item "scope"
          credentialsRef := none
          status := itemText item "status" "active"
          displayName := itemText item "display_name" sourceId }
      return { progress with
        importedSources := progress.importedSources + 1
        sourceIdMap := sourceIdMap }
    else return { progress with sourceIdMap := sourceIdMap }

/-- One item of `snapshot["datasets"]`. -/
def importDataset (newUuid : ℕ → String) (workspaceId : String) (progress : ImportProgress)
    (item : Fields) : CatalogHandler ImportProgress := do
  let datasetIdOriginal := strippedText item "dataset_id" ""
  let sourceIdOriginal := strippedText item "source_id" ""
  if datasetIdOriginal = "" ∨ sourceIdOriginal = "" then return progress
  else
    let sourceId := (progress.sourceIdMap.lookup sourceIdOriginal).getD sourceIdOriginal
    let found := (← Effect.read).datasets.get? datasetIdOriginal
    let (datasetId, isNew) ← importKey newUuid workspaceId datasetIdOriginal
      (found.map CatalogDataset.workspaceId)
    if isNew then
      let schemaVersion ← Effect.ofExcept (toInt (getD item "schema_version" (.int 1)))
      addDataset
        { datasetId := datasetId
          workspaceId := workspaceId
          sourceId := sourceId
          logicalName := itemText item "logical_name" datasetId
          physicalLocator := itemText item "physical_locator" datasetId
          schemaVersion := schemaVersion
          sensitivitySummary := itemDict item "sensitivity_summary" }
      return { progress with importedDatasets := progress.importedDatasets + 1 }
    else return progress

def itemsOf (snapshot : Fields) (key : String) : List Fields :=
  ((asArr? (getD snapshot key (.arr []))).getD []).filterMap asObj?

/-- `import_catalog_snapshot`. -/
def importCatalogSnapshot (newUuid : ℕ → String) (workspaceId : String) (snapshot : Fields) :
    CatalogHandler Fields := do
  match (← Effect.read).workspaces.get? workspaceId with
  | none => Effect.raise (.valueError "workspace_not_found")
  | some _ =>
    let sourceWorkspaceId := match getD snapshot "workspace" (.obj []) with
      | .obj workspaceSnapshot => itemText workspaceSnapshot "workspace_id" workspaceId
      | _ => ""
    if sourceWorkspaceId ≠ "" ∧ sourceWorkspaceId ≠ workspaceId then
      Effect.raise (.valueError "workspace_mismatch")
    else
      let progress ← (itemsOf snapshot "sources").foldlM (importSource newUuid workspaceId)
        ⟨0, 0, []⟩
      let progress ← (itemsOf snapshot "datasets").foldlM (importDataset newUuid workspaceId)
        progress
      return [("imported_sources", .int progress.importedSources),
        ("imported_datasets", .int progress.importedDatasets)]

/-- An identifier that `strip` keeps and that is not empty. -/
def CleanId (id : String) : Prop := id ≠ "" ∧ Text.strip id = id

def CatalogSource.imported (row : CatalogSource) : CatalogSource := { row with credentialsRef := none }

section RoundTrip

variable {newUuid : ℕ → String} {workspaceId : String} {state : CatalogState}
  {progress : ImportProgress}

theorem importKey_absent (original : String) :
    importKey newUuid workspaceId original none state = (.ok (original, true), state) := rfl

/-- A source whose key is new is imported under it. -/
theorem importSource_snapshot (newUuid : ℕ → String) (progress : ImportProgress)
    {row : CatalogSource} (hid : CleanId row.sourceId)
    (hworkspace : row.workspaceId = workspaceId) (hnew : state.sources.get? row.sourceId = none) :
    ∃ sources, sources.rows = state.sources.rows ++ [row.imported] ∧
      importSource newUuid workspaceId progress row.snapshot state =
        (.ok { progress with
          importedSources := progress.importedSources + 1
          sourceIdMap := (row.sourceId, row.sourceId) :: progress.sourceIdMap },
          { state with sources := sources }) := by
  obtain ⟨sources, hinsert, hrows⟩ : ∃ sources, state.sources.insert? row.imported = some sources ∧
      sources.rows = state.sources.rows ++ [row.imported] := Table.insert?_of_absent hnew
  refine ⟨sources, hrows, ?_⟩
  have hadd : addSource row.imported state = (.ok (), { state with sources := sources }) := by
    rw [addSource, hinsert]
  have hkey : strippedText row.snapshot "source_id" "" = row.sourceId := hid.2
  subst hworkspace
  unfold importSource
  dsimp only
  rw [hkey, if_neg hid.1, Effect.bind_apply, Effect.read_apply]
  dsimp only
  rw [hnew, Option.map_none, Effect.bind_apply, importKey_absent]
  exact Effect.bind_eq_ok_iff.mpr ⟨(), _, hadd, rfl⟩

/-- The keys of imported sources are the ones they had. -/
def SameIds (sourceIdMap : List (String × String)) : Prop :=
  ∀ entry ∈ sourceIdMap, entry.2 = entry.1

theorem SameIds.lookup {sourceIdMap : List (String × String)} (h : SameIds sourceIdMap)
    (id : String) : (sourceIdMap.lookup id).getD id = id := by
  cases hfound : sourceIdMap.lookup id with
  | none => rfl
  | some sourceId =>
    have hmem : (id, sourceId) ∈ sourceIdMap := by
      obtain ⟨before, after, rfl, -⟩ := List.lookup_eq_some_iff.mp hfound
      exact List.mem_append_right _ List.mem_cons_self
    exact h _ hmem

/-- A dataset whose key is new is imported under it, with the source it had. -/
theorem importDataset_snapshot (newUuid : ℕ → String) {row : CatalogDataset} (hid : CleanId row.datasetId)
    (hsource : CleanId row.sourceId) (hworkspace : row.workspaceId = workspaceId)
    (hsame : SameIds progress.sourceIdMap) (hnew : state.datasets.get? row.datasetId = none) :
    ∃ datasets, datasets.rows = state.datasets.rows ++ [row] ∧
      importDataset newUuid workspaceId progress row.snapshot state =
        (.ok { progress with importedDatasets := progress.importedDatasets + 1 },
          { state with datasets := datasets }) := by
  obtain ⟨datasets, hinsert, hrows⟩ : ∃ datasets, state.datasets.insert? row = some datasets ∧
      datasets.rows = state.datasets.rows ++ [row] := Table.insert?_of_absent hnew
  refine ⟨datasets, hrows, ?_⟩
  have hadd : addDataset row state = (.ok (), { state with datasets := datasets }) := by
    rw [addDataset, hinsert]
  have hkey : strippedText row.snapshot "dataset_id" "" = row.datasetId := hid.2
  have href : strippedText row.snapshot "source_id" "" = row.sourceId := hsource.2
  subst hworkspace
  unfold importDataset
  dsimp only
  rw [hkey, href, if_neg (not_or.mpr ⟨hid.1, hsource.1⟩), hsame.lookup, Effect.bind_apply,
    Effect.read_apply]
  dsimp only
  rw [hnew, Option.map_none, Effect.bind_apply, importKey_absent]
  exact Effect.bind_eq_ok_iff.mpr ⟨_, _, rfl, Effect.bind_eq_ok_iff.mpr ⟨(), _, hadd, rfl⟩⟩

/-- A loop that inserts one row for each item inserts rows with new keys in order. -/
theorem foldlM_inserts {ρ : Type} {key : ρ → String} (table : CatalogState → Table ρ key)
    (put : Table ρ key → CatalogState → CatalogState) (imported : ρ → ρ) {snapshot : ρ → Fields}
    {step : ImportProgress → Fields → CatalogHandler ImportProgress} {Importable : ρ → Prop}
    (hput : ∀ rows state, table (put rows state) = rows)
    (htwice : ∀ rows later state, put later (put rows state) = put later state)
    (hsame : ∀ state, put (table state) state = state)
    (hkey : ∀ row, key (imported row) = key row)
    (hstep : ∀ (progress : ImportProgress) row state, Importable row →
      SameIds progress.sourceIdMap → (table state).get? (key row) = none →
      ∃ rows after, rows.rows = (table state).rows ++ [imported row] ∧
        SameIds after.sourceIdMap ∧ step progress (snapshot row) state = (.ok after, put rows state))
    (rows : List ρ) (hkeys : (rows.map key).Nodup) (hrows : ∀ row ∈ rows, Importable row)
    (state : CatalogState) (hnew : ∀ row ∈ rows, (table state).get? (key row) = none)
    (progress : ImportProgress) (hids : SameIds progress.sourceIdMap) :
    ∃ inserted after, inserted.rows = (table state).rows ++ rows.map imported ∧
      SameIds after.sourceIdMap ∧
      (rows.map snapshot).foldlM step progress state = (.ok after, put inserted state) := by
  induction rows generalizing progress state with
  | nil =>
    refine ⟨table state, progress, (List.append_nil _).symm, hids, ?_⟩
    rw [hsame]
    rfl
  | cons row rest ih =>
    obtain ⟨inserted, middle, happended, hmiddle, hrun⟩ := hstep progress row state
      (hrows row List.mem_cons_self) hids (hnew row List.mem_cons_self)
    obtain ⟨hfirst, hrest⟩ := List.nodup_cons.mp hkeys
    have hstill : ∀ other ∈ rest, (table (put inserted state)).get? (key other) = none := by
      intro other hother
      rw [hput, Table.get?_of_append happended]
      · exact hnew other (List.mem_cons_of_mem _ hother)
      · rw [hkey]
        exact fun heq ↦ hfirst (List.mem_map.mpr ⟨other, hother, heq.symm⟩)
    obtain ⟨last, after, hlast, hafter, hfold⟩ := ih hrest
      (fun other hother ↦ hrows other (List.mem_cons_of_mem _ hother)) _ hstill middle hmiddle
    refine ⟨last, after, ?_, hafter, ?_⟩
    · rw [hlast, hput, happended, List.append_assoc]
      rfl
    · rw [List.map_cons, List.foldlM_cons, ← htwice inserted last state]
      exact Effect.bind_eq_ok_iff.mpr ⟨_, _, hrun, hfold⟩

/-- A source that an import takes over as it is. -/
def ImportableSource (workspaceId : String) (row : CatalogSource) : Prop :=
  CleanId row.sourceId ∧ row.workspaceId = workspaceId

/-- A dataset that an import takes over as it is. -/
def ImportableDataset (workspaceId : String) (row : CatalogDataset) : Prop :=
  CleanId row.datasetId ∧ CleanId row.sourceId ∧ row.workspaceId = workspaceId

/-- Sources whose keys are new are imported in order. -/
theorem importSources_snapshots (newUuid : ℕ → String) (rows : List CatalogSource)
    (hkeys : (rows.map CatalogSource.sourceId).Nodup)
    (hrows : ∀ row ∈ rows, ImportableSource workspaceId row) (state : CatalogState)
    (hnew : ∀ row ∈ rows, state.sources.get? row.sourceId = none) (progress : ImportProgress)
    (hids : SameIds progress.sourceIdMap) :
    ∃ sources after, sources.rows = state.sources.rows ++ rows.map CatalogSource.imported ∧
      SameIds after.sourceIdMap ∧
      (rows.map CatalogSource.snapshot).foldlM (importSource newUuid workspaceId) progress state =
        (.ok after, { state with sources := sources }) := by
  refine foldlM_inserts CatalogState.sources
    (fun sources state ↦ { state with sources := sources }) CatalogSource.imported (fun _ _ ↦ rfl)
    (fun _ _ _ ↦ rfl) (fun _ ↦ rfl) (fun _ ↦ rfl) ?_ rows hkeys hrows state hnew progress hids
  rintro progress row state ⟨hclean, hworkspace⟩ hids hnew
  obtain ⟨sources, happended, hrun⟩ := importSource_snapshot newUuid progress hclean hworkspace hnew
  refine ⟨sources, _, happended, ?_, hrun⟩
  exact List.forall_mem_cons.mpr ⟨rfl, hids⟩

/-- Datasets whose keys are new are imported in order. -/
theorem importDatasets_snapshots (newUuid : ℕ → String) (rows : List CatalogDataset)
    (hkeys : (rows.map CatalogDataset.datasetId).Nodup)
    (hrows : ∀ row ∈ rows, ImportableDataset workspaceId row) (state : CatalogState)
    (hnew : ∀ row ∈ rows, state.datasets.get? row.datasetId = none) (progress : ImportProgress)
    (hids : SameIds progress.sourceIdMap) :
    ∃ datasets after, datasets.rows = state.datasets.rows ++ rows.map id ∧
      SameIds after.sourceIdMap ∧
      (rows.map CatalogDataset.snapshot).foldlM (importDataset newUuid workspaceId) progress state =
        (.ok after, { state with datasets := datasets }) := by
  refine foldlM_inserts CatalogState.datasets
    (fun datasets state ↦ { state with datasets := datasets }) id (fun _ _ ↦ rfl)
    (fun _ _ _ ↦ rfl) (fun _ ↦ rfl) (fun _ ↦ rfl) ?_ rows hkeys hrows state hnew progress hids
  rintro progress row state ⟨hclean, href, hworkspace⟩ hids hnew
  obtain ⟨datasets, happended, hrun⟩ := importDataset_snapshot newUuid hclean href hworkspace hids
    hnew
  refine ⟨datasets, _, happended, ?_, hrun⟩
  exact hids

end RoundTrip

/-- The identifiers of a workspace's sources and datasets are clean. -/
def CleanCatalog (workspaceId : String) (state : CatalogState) : Prop :=
  (∀ row ∈ workspaceSources workspaceId state, CleanId row.sourceId) ∧
    ∀ row ∈ workspaceDatasets workspaceId state, CleanId row.datasetId ∧ CleanId row.sourceId

/-- The target has the workspace and none of its sources and datasets: no row of the workspace, and
no row under a key of one of them. -/
structure WithoutCatalog (workspaceId : String) (source target : CatalogState) : Prop where
  workspace : target.workspaces.get? workspaceId = source.workspaces.get? workspaceId
  noSource : ∀ row ∈ target.sources.rows, row.workspaceId ≠ workspaceId
  noDataset : ∀ row ∈ target.datasets.rows, row.workspaceId ≠ workspaceId
  newSources : ∀ row ∈ workspaceSources workspaceId source, target.sources.get? row.sourceId = none
  newDatasets : ∀ row ∈ workspaceDatasets workspaceId source,
    target.datasets.get? row.datasetId = none

/-- A snapshot without the flags of redacted credentials. -/
def withoutRedaction (snapshot : Fields) : Fields :=
  snapshot.map fun (name, value) ↦
    if name = "sources" then
      (name, .arr (((asArr? value).getD []).map fun item ↦
        .obj (((asObj? item).getD []).filter fun field ↦ field.1 ≠ "credentials_redacted")))
    else (name, value)

section Export

variable {workspaceId : String} {state : CatalogState} {workspace : Workspace}
  {sources : List CatalogSource} {datasets : List CatalogDataset}

theorem exportCatalogSnapshot_apply
    (hworkspace : state.workspaces.get? workspaceId = some workspace) :
    exportCatalogSnapshot workspaceId state =
      (.ok (snapshotOf workspace (workspaceSources workspaceId state)
        (workspaceDatasets workspaceId state)), state) := by
  unfold exportCatalogSnapshot
  rw [Effect.bind_apply, Effect.read_apply]
  dsimp only
  rw [hworkspace]
  rfl

theorem filterMap_asObj? (items : List Fields) : (items.map Json.obj).filterMap asObj? = items := by
  rw [List.filterMap_map]
  exact List.filterMap_some

theorem itemsOf_sources : itemsOf (snapshotOf workspace sources datasets) "sources" =
    sources.map CatalogSource.snapshot := by
  change ((sources.map fun row ↦ Json.obj row.snapshot).filterMap asObj?) = _
  rw [← filterMap_asObj? (sources.map CatalogSource.snapshot), List.map_map]
  rfl

theorem itemsOf_datasets : itemsOf (snapshotOf workspace sources datasets) "datasets" =
    datasets.map CatalogDataset.snapshot := by
  change ((datasets.map fun row ↦ Json.obj row.snapshot).filterMap asObj?) = _
  rw [← filterMap_asObj? (datasets.map CatalogDataset.snapshot), List.map_map]
  rfl

/-- The fields of a source that a snapshot without flags keeps. -/
theorem filter_imported (row : CatalogSource) :
    row.imported.snapshot.filter (fun field ↦ field.1 ≠ "credentials_redacted") =
      row.snapshot.filter fun field ↦ field.1 ≠ "credentials_redacted" := by
  simp [CatalogSource.snapshot, CatalogSource.imported]

theorem withoutRedaction_snapshotOf :
    withoutRedaction (snapshotOf workspace sources datasets) =
      [("snapshot_version", .str catalogSnapshotVersion), ("workspace", .obj workspace.snapshot),
        ("sources", .arr (sources.map fun row ↦
          .obj (row.snapshot.filter fun field ↦ field.1 ≠ "credentials_redacted"))),
        ("datasets", .arr (datasets.map fun row ↦ .obj row.snapshot))] := by
  simp [withoutRedaction, snapshotOf, asArr?, asObj?]

/-- Without the flags, a snapshot does not tell sources from imported ones. -/
theorem withoutRedaction_imported :
    withoutRedaction (snapshotOf workspace (sources.map CatalogSource.imported) datasets) =
      withoutRedaction (snapshotOf workspace sources datasets) := by
  rw [withoutRedaction_snapshotOf, withoutRedaction_snapshotOf, List.map_map]
  have hsame : ((fun row : CatalogSource ↦
      Json.obj (row.snapshot.filter fun field ↦ field.1 ≠ "credentials_redacted")) ∘
        CatalogSource.imported) = fun row ↦
      Json.obj (row.snapshot.filter fun field ↦ field.1 ≠ "credentials_redacted") := by
    ext row
    exact congrArg Json.obj (filter_imported row)
  rw [hsame]

end Export

/-- An imported export is exported again as it was, but for the flags of redacted credentials. -/
theorem catalog_round_trip (newUuid : ℕ → String) (workspaceId : String)
    (source target : CatalogState) (workspace : Workspace)
    (hworkspace : source.workspaces.get? workspaceId = some workspace)
    (hclean : CleanCatalog workspaceId source)
    (htarget : WithoutCatalog workspaceId source target) :
    ∃ snapshot counts after again,
      exportCatalogSnapshot workspaceId source = (.ok snapshot, source) ∧
      importCatalogSnapshot newUuid workspaceId snapshot target = (.ok counts, after) ∧
      exportCatalogSnapshot workspaceId after = (.ok again, after) ∧
      withoutRedaction again = withoutRedaction snapshot := by
  have hkind : ∀ row ∈ workspaceSources workspaceId source, row.workspaceId = workspaceId :=
    fun row hrow ↦ by simpa using ((Table.mem_orderedRows _).mp hrow).2
  have hdatasetKind : ∀ row ∈ workspaceDatasets workspaceId source, row.workspaceId = workspaceId :=
    fun row hrow ↦ by simpa using ((Table.mem_orderedRows _).mp hrow).2
  have htargetWorkspace := htarget.workspace.trans hworkspace
  have hid : workspace.workspaceId = workspaceId := Table.key_of_get? hworkspace
  obtain ⟨sources, middle, hsources, hids, hsourceLoop⟩ := importSources_snapshots newUuid
    (workspaceSources workspaceId source) (Table.nodup_keys_orderedRows _ _)
    (fun row hrow ↦ ⟨hclean.1 row hrow, hkind row hrow⟩) target htarget.newSources ⟨0, 0, []⟩
    (fun _ hentry ↦ absurd hentry List.not_mem_nil)
  obtain ⟨datasets, last, hdatasets, -, hdatasetLoop⟩ := importDatasets_snapshots newUuid
    (workspaceDatasets workspaceId source) (Table.nodup_keys_orderedRows _ _)
    (fun row hrow ↦ ⟨(hclean.2 row hrow).1, (hclean.2 row hrow).2, hdatasetKind row hrow⟩)
    { target with sources := sources } htarget.newDatasets middle hids
  rw [List.map_id] at hdatasets
  let after : CatalogState := { target with sources := sources, datasets := datasets }
  have hafterSources : workspaceSources workspaceId after =
      (workspaceSources workspaceId source).map CatalogSource.imported := by
    refine Table.orderedRows_of_append _ hsources (fun row hrow ↦ ?_) (fun row hrow ↦ ?_) ?_
    · simpa using htarget.noSource row hrow
    · obtain ⟨original, horiginal, rfl⟩ := List.mem_map.mp hrow
      exact decide_eq_true (hkind original horiginal)
    · exact List.pairwise_map.mpr (Table.pairwise_orderedRows _ _)
  have hafterDatasets : workspaceDatasets workspaceId after =
      workspaceDatasets workspaceId source := by
    refine Table.orderedRows_of_append _ hdatasets (fun row hrow ↦ ?_) (fun row hrow ↦ ?_) ?_
    · simpa using htarget.noDataset row hrow
    · simpa using hdatasetKind row hrow
    · exact Table.pairwise_orderedRows _ _
  refine ⟨_, [("imported_sources", .int last.importedSources),
    ("imported_datasets", .int last.importedDatasets)], after, _,
    exportCatalogSnapshot_apply hworkspace, ?_, exportCatalogSnapshot_apply htargetWorkspace, ?_⟩
  · unfold importCatalogSnapshot
    rw [Effect.bind_apply, Effect.read_apply]
    dsimp only
    rw [htargetWorkspace]
    dsimp only
    rw [if_neg, itemsOf_sources, itemsOf_datasets]
    · exact Effect.bind_eq_ok_iff.mpr ⟨_, _, hsourceLoop,
        Effect.bind_eq_ok_iff.mpr ⟨_, _, hdatasetLoop, rfl⟩⟩
    · rintro ⟨-, hmismatch⟩
      exact hmismatch hid
  · rw [hafterSources, hafterDatasets]
    exact withoutRedaction_imported

def ordersWorkspace : Workspace := ⟨"w1", "Orders", "starter", "standard"⟩

/-- A catalog with one source, whose credentials are stored, and one dataset. -/
def ordersCatalog : CatalogState where
  workspaces := ⟨[ordersWorkspace], List.nodup_singleton _⟩
  sources := ⟨[⟨"s1", "w1", "filesystem", [("root_path", .str "/srv")], some "secret://s1", "active",
    "Files"⟩], List.nodup_singleton _⟩
  datasets := ⟨[⟨"d1", "w1", "s1", "orders", "/srv/orders.csv", 2, []⟩], List.nodup_singleton _⟩
  issued := 0

def emptyCatalog : CatalogState where
  workspaces := ⟨[ordersWorkspace], List.nodup_singleton _⟩
  sources := Table.empty
  datasets := Table.empty
  issued := 0

theorem orders_round_trip :
    ∃ snapshot counts after again,
      exportCatalogSnapshot "w1" ordersCatalog = (.ok snapshot, ordersCatalog) ∧
      importCatalogSnapshot (fun n ↦ toString n) "w1" snapshot emptyCatalog = (.ok counts, after) ∧
      exportCatalogSnapshot "w1" after = (.ok again, after) ∧
      withoutRedaction again = withoutRedaction snapshot := by
  have hclean : CleanCatalog "w1" ordersCatalog := by
    constructor
    · intro row hrow
      rw [List.mem_singleton.mp hrow]
      exact ⟨by decide, by decide⟩
    · intro row hrow
      rw [List.mem_singleton.mp hrow]
      exact ⟨⟨by decide, by decide⟩, by decide, by decide⟩
  have htarget : WithoutCatalog "w1" ordersCatalog emptyCatalog :=
    ⟨rfl, fun _ hrow ↦ absurd hrow List.not_mem_nil, fun _ hrow ↦ absurd hrow List.not_mem_nil,
      fun _ _ ↦ rfl, fun _ _ ↦ rfl⟩
  exact catalog_round_trip _ "w1" ordersCatalog emptyCatalog ordersWorkspace rfl hclean htarget

end SchemaPilot.ControlPlane.CatalogSnapshot
