import SchemaPilot.ControlPlane.Deletion
import SchemaPilot.ControlPlane.Frames
import SchemaPilot.Gateway.PointerExecution
import SchemaPilot.Library.Versions

/-!
# Retention purges and what is published

A purge looks through all of a workspace's gold directory, in which `latest.json` and the data of
the published snapshot lie, and deletes what is old. `purgesKeepPublished_iff` says which runs of
publications, rollbacks and purges keep what is published: those whose purges find neither file
expired.
-/

namespace SchemaPilot.ControlPlane

open Library Library.Effect Library.Versions SharedDomain

/-- Publications, rollbacks and purges, and changes of the policy that purges follow. -/
inductive RetentionOperation where
  | publish (workspaceId buildId snapshotId modelName : String)
  | rollback (workspaceId : String) (buildId : Option String)
  | purge (workspaceId actorId : String) (dryRun : Bool)
  | configure (workspaceId actorId : String) (retentionDays : ℤ)
      (enabled purgeEnabled legalHoldActive : Bool)

structure RetentionCall where
  operation : RetentionOperation
  now : ℤ

/-- The request of a purge, of which the purge reads the time. -/
def purgeContext (now : ℤ) : RequestContext := ⟨none, "", now, fun _ ↦ none⟩

def forEffect {α : Type} (p : Handler α) : Handler Unit := do
  let _ ← p
  return ()

def RetentionCall.perform (service : Service) (call : RetentionCall) : Handler Unit :=
  match call.operation with
  | .publish workspaceId buildId snapshotId modelName =>
    forEffect (onFiles (GoldFiles.publishGoldPointer service.storagePath workspaceId buildId
      snapshotId modelName call.now))
  | .rollback workspaceId buildId =>
    forEffect (onFiles (GoldFiles.rollbackGoldPointer service.storagePath workspaceId buildId
      call.now))
  | .purge workspaceId actorId dryRun =>
    forEffect (executeRetentionPurge service (purgeContext call.now) workspaceId actorId dryRun)
  | .configure workspaceId actorId retentionDays enabled purgeEnabled legalHoldActive =>
    forEffect (configureRetentionPolicy service workspaceId actorId retentionDays enabled
      purgeEnabled legalHoldActive)

def applyRetention (service : Service) (world : World) (call : RetentionCall) : World :=
  (inSession (call.perform service) world).2

/-- The pointer that `load_latest_gold_pointer` finds; of `{}` every field reads as empty. -/
def loadedPointer (service : Service) (workspaceId : String) (files : FileStore) :
    Except Exn (Option GoldPointer) :=
  (GoldFiles.loadLatestGoldPointer service.storagePath workspaceId files).1.map
    (Option.map fun entry ↦ entry.getD ⟨"", "", "", ""⟩)

/-- The place of a path whose first name is a configured root. -/
def resolvedPath (service : Service) : List String → TreePath
  | [] => []
  | root :: names => service.resolvePath root ++ names

/-- The `metrics.json` of the snapshot that `latest.json` names. -/
def publishedMetrics? (service : Service) (workspaceId : String) (files : FileStore) :
    Option TreePath :=
  match loadedPointer service workspaceId files with
  | .ok pointer => (Gateway.publishedData pointer).map fun (modelName, snapshotId) ↦
      resolvedPath service
        (Gateway.metricsPath service.storageRoot workspaceId modelName snapshotId)
  | .error _ => none

/-- A DuckDB that reads the files of its views, and a Trino that does not read them. -/
structure FileEngines where
  duckdb : Option (Gateway.PublishedViews × Option FileContent) → String → Except Exn Gateway.Rows
  trino : String → ℤ → ℤ → Except Exn (Gateway.Rows × Fields)

/-- What the calls of a query are answered over some files. -/
def FileEngines.answers (engines : FileEngines) (service : Service) (files : FileStore) :
    (op : Gateway.GatewayOp) → Except Exn op.Answer
  | .latestGoldPointer workspaceId => loadedPointer service workspaceId files
  | .pathExists path => .ok (files.pathExists (resolvedPath service path))
  | .runDuckdb views query =>
    engines.duckdb
      (views.map fun views ↦ (views, files.content? (resolvedPath service views.dataPath))) query
  | .runTrino query maxRows timeoutMs => engines.trino query maxRows timeoutMs
  | .elapsedExceeds _ => .ok false
  | _ => .error (.other "not called")

/-- The result of a query of a workspace over some files. -/
def queryResult (engines : FileEngines) (service : Service) (queryEngine : Gateway.Settings)
    (workspaceId sql : String) (maxRows : ℤ) (rowFilter : Option (String × String))
    (timeoutMs : ℤ) (files : FileStore) : Except Exn Gateway.QueryResult :=
  Program.eval (engines.answers service files)
    (Gateway.executeSql { queryEngine with storageRoot := service.storageRoot } sql maxRows
      rowFilter timeoutMs workspaceId)

/-- The pointer of a workspace and the data it names, if they are there before, are there after, and
queries give the same, as long as no directories have taken the places of these files. -/
structure PublicationKept (service : Service) (workspaceId : String) (before after : FileStore) :
    Prop where
  latest : before.isFile (GoldFiles.latestPath service.storagePath workspaceId) = true →
    after.isFile (GoldFiles.latestPath service.storagePath workspaceId) = true
  metrics : ∀ path ∈ publishedMetrics? service workspaceId before,
    before.isFile path = true → after.isFile path = true
  queries : before.isDir (GoldFiles.latestPath service.storagePath workspaceId) = false →
    (∀ path ∈ publishedMetrics? service workspaceId before, before.isDir path = false) →
    ∀ engines settings sql maxRows rowFilter timeoutMs,
      queryResult engines service settings workspaceId sql maxRows rowFilter timeoutMs after =
        queryResult engines service settings workspaceId sql maxRows rowFilter timeoutMs before

def PurgesKeepPublished (service : Service) (start : World) (calls : List RetentionCall) : Prop :=
  ∀ step ∈ trace (applyRetention service) start calls, ∀ workspaceId actorId dryRun,
    step.2.operation = .purge workspaceId actorId dryRun → ∀ published,
      PublicationKept service published step.1.files (applyRetention service step.1 step.2).files

/-- A file a purge of a workspace takes for expired: one below a directory of the workspace in the
purge root that was modified no later than the retention time before now. -/
def PurgeExpires (service : Service) (world : World) (workspaceId : String) (now : ℤ)
    (path : TreePath) : Prop :=
  ∃ policy root, purgePermission (retentionPolicyRow? workspaceId world.db)
      service.retentionPurgeRoot = .ok (policy, root) ∧
    Purge.refusal? world.files (service.resolvePath root) policy.retentionDays = none ∧
    world.files.isFile path = true ∧
    (∃ directory ∈ Purge.candidateRoots (service.resolvePath root) workspaceId,
      world.files.pathExists directory = true ∧ directory <+: path ∧ path ≠ directory) ∧
    Purge.isExpired world.files (Purge.cutoffEpoch policy.retentionDays now) path = true

/-- The call is no permitted purge that deletes and for which the pointer of a workspace, or the
data it names, is expired. -/
def SparesPublished (service : Service) (world : World) (call : RetentionCall) : Prop :=
  ∀ workspaceId actorId, call.operation = .purge workspaceId actorId false → ∀ published,
    ¬PurgeExpires service world workspaceId call.now
      (GoldFiles.latestPath service.storagePath published) ∧
    ∀ path ∈ publishedMetrics? service published world.files,
      ¬PurgeExpires service world workspaceId call.now path

theorem files_inSession {α : Type} (handler : Handler α) (world : World) :
    (inSession handler world).2.files = (handler world).2.files := by
  unfold inSession
  rcases handler world with ⟨_ | _, after⟩ <;> rfl

theorem files_forEffect {α : Type} (p : Handler α) (world : World) :
    (forEffect p world).2.files = (p world).2.files :=
  part_bind World.files p (fun _ ↦ keeps_pure _) world

/-- A permitted purge leaves of a path that does not lead to its evidence what the purge of the
files does, whatever comes of it. -/
theorem node?_of_permitted {service : Service} {workspaceId actorId root : String} {dryRun : Bool}
    {now : ℤ} {world : World} {path : TreePath} {policy : RetentionPolicy}
    (hpermission : purgePermission (retentionPolicyRow? workspaceId world.db)
      service.retentionPurgeRoot = .ok (policy, root))
    (hevidence : ∀ name, ¬path <+:
      service.storagePath ++ ["evidence_store", workspaceId, name]) :
    (executeRetentionPurge service (purgeContext now) workspaceId actorId dryRun
        world).2.files.node? path =
      (purgeWorkspaceArtifacts workspaceId (service.resolvePath root) policy.retentionDays dryRun
        now world.files).2.node? path := by
  unfold executeRetentionPurge
  rw [bind_apply, query_apply]
  dsimp only
  rw [bind_apply, ofExcept_apply, hpermission]
  dsimp only [deniedFor]
  refine (part_bind (fun world : World ↦ world.files.node? path) _ (fun execution ↦ ?_)
    world).trans ((part_tryExcept (fun world : World ↦ world.files.node? path) _
      (fun exception ↦ ?_) world).trans rfl)
  · refine (keeps_files_onFiles (keeps_node_storeEvidenceBundle _ _ _ _ _ _ _
      (hevidence _))).bind fun stored ↦ ?_
    have hnew : Keeps (fun world : World ↦ world.files.node? path) (newUlid service) :=
      fun _ ↦ rfl
    exact hnew.bind fun _ ↦ ((keeps_files_save _).comp fun files ↦ files.node? path).bind
      fun _ ↦ keeps_pure _
  · split_ifs
    · exact keeps_raise _
    · exact keeps_raise _

/-- What a purge leaves of a path that names no directory and does not lead to its evidence. -/
theorem node?_executeRetentionPurge {service : Service} {workspaceId actorId : String}
    {dryRun : Bool} {now : ℤ} {world : World} {path : TreePath}
    (hdir : world.files.isDir path = false)
    (hevidence : ∀ name, ¬path <+:
      service.storagePath ++ ["evidence_store", workspaceId, name])
    [Decidable (dryRun = false ∧ PurgeExpires service world workspaceId now path)] :
    (executeRetentionPurge service (purgeContext now) workspaceId actorId dryRun
        world).2.files.node? path =
      if dryRun = false ∧ PurgeExpires service world workspaceId now path then none
      else world.files.node? path := by
  cases hpermission : purgePermission (retentionPolicyRow? workspaceId world.db)
      service.retentionPurgeRoot with
  | error reason =>
    rw [if_neg]
    · unfold executeRetentionPurge
      rw [bind_apply, query_apply]
      dsimp only
      rw [bind_apply, ofExcept_apply, hpermission]
      rfl
    · rintro ⟨-, policy, root, hgranted, -⟩
      rw [hpermission] at hgranted
      cases hgranted
  | ok granted =>
    obtain ⟨policy, root⟩ := granted
    rw [node?_of_permitted hpermission hevidence, Purge.node?_purgeWorkspaceArtifacts hdir]
    refine if_congr ?_ rfl rfl
    constructor
    · rintro ⟨hrefusal, hwet, hmem⟩
      obtain ⟨hfile, hroot, hexpired⟩ := Purge.mem_toDelete_iff.mp hmem
      exact ⟨hwet, policy, root, hpermission, hrefusal, hfile, hroot, hexpired⟩
    · rintro ⟨hwet, otherPolicy, otherRoot, hgranted, hrefusal, hfile, hroot, hexpired⟩
      obtain ⟨rfl, rfl⟩ := Prod.mk.inj (Except.ok.inj (hpermission.symm.trans hgranted))
      exact ⟨hrefusal, hwet, Purge.mem_toDelete_iff.mpr ⟨hfile, hroot, hexpired⟩⟩

theorem loadedPointer_congr {service : Service} {workspaceId : String} {files after : FileStore}
    (h : after.node? (GoldFiles.latestPath service.storagePath workspaceId) =
      files.node? (GoldFiles.latestPath service.storagePath workspaceId)) :
    loadedPointer service workspaceId after = loadedPointer service workspaceId files := by
  have hexists : after.pathExists (GoldFiles.latestPath service.storagePath workspaceId) =
      files.pathExists (GoldFiles.latestPath service.storagePath workspaceId) := by
    rw [FileTree.pathExists, h, FileTree.pathExists]
  have hcontent : after.content? (GoldFiles.latestPath service.storagePath workspaceId) =
      files.content? (GoldFiles.latestPath service.storagePath workspaceId) := by
    rw [FileTree.content?, h, FileTree.content?]
  unfold loadedPointer GoldFiles.loadLatestGoldPointer
  rw [bind_apply, bind_apply, Files.pathExists_apply, Files.pathExists_apply, hexists]
  dsimp only
  split_ifs
  · rw [bind_apply, bind_apply, Files.readJson_apply, Files.readJson_apply, hcontent]
    cases Files.loads (files.content? (GoldFiles.latestPath service.storagePath workspaceId)) <;> rfl
  · rfl

/-- The views a query of a workspace runs over. -/
def viewsAt (service : Service) (workspaceId : String) (files : FileStore)
    (pointer : Option GoldPointer) : Option Gateway.PublishedViews :=
  (Gateway.publishedData pointer).bind fun (modelName, snapshotId) ↦
    let dataPath := Gateway.metricsPath service.storageRoot workspaceId modelName snapshotId
    if files.pathExists (resolvedPath service dataPath) then
      some ⟨dataPath, Gateway.safeIdentifier modelName⟩
    else none

theorem eval_preparePublishedGoldViews (engines : FileEngines) (service : Service)
    {settings : Gateway.Settings} (hroot : settings.storageRoot = service.storageRoot)
    (workspaceId : String) (files : FileStore) :
    Program.eval (engines.answers service files)
        (Gateway.preparePublishedGoldViews settings workspaceId) =
      if workspaceId = "" then .ok none
      else (loadedPointer service workspaceId files).map (viewsAt service workspaceId files) := by
  unfold Gateway.preparePublishedGoldViews
  by_cases hworkspace : workspaceId = ""
  · rw [if_pos hworkspace, if_pos hworkspace]
    rfl
  rw [if_neg hworkspace, if_neg hworkspace, Program.eval_bind]
  show (loadedPointer service workspaceId files).bind _ = _
  cases loadedPointer service workspaceId files with
  | error exception => rfl
  | ok pointer =>
    cases pointer with
    | none => rfl
    | some pointer =>
      show Program.eval _ (if _ then _ else _) = _
      by_cases hblank : Text.strip pointer.modelName = "" ∨ Text.strip pointer.snapshotId = ""
      · have hdata : Gateway.publishedData (some pointer) = none := by
          simp [Gateway.publishedData, hblank]
        rw [if_pos hblank]
        simp only [Except.map, viewsAt, hdata, Option.bind_none]
        rfl
      · have hdata : Gateway.publishedData (some pointer) =
            some (Text.strip pointer.modelName, Text.strip pointer.snapshotId) := by
          simp only [Gateway.publishedData, Option.bind_some, if_neg hblank]
        rw [if_neg hblank]
        simp only [Except.map, viewsAt, hdata, Option.bind_some, ← hroot]
        rfl

/-- The data a query runs over lies in the file that `latest.json` names. -/
theorem mem_publishedMetrics?_of_viewsAt {service : Service} {workspaceId : String}
    {files : FileStore} {pointer : Option GoldPointer} {views : Gateway.PublishedViews}
    (hpointer : loadedPointer service workspaceId files = .ok pointer)
    (h : viewsAt service workspaceId files pointer = some views) :
    resolvedPath service views.dataPath ∈ publishedMetrics? service workspaceId files := by
  obtain ⟨data, hdata, hviews⟩ := Option.bind_eq_some_iff.mp h
  unfold publishedMetrics?
  rw [hpointer]
  dsimp only at hviews ⊢
  rw [hdata]
  split_ifs at hviews
  cases hviews
  rfl

theorem viewsAt_congr {service : Service} {workspaceId : String} {files after : FileStore}
    {pointer : Option GoldPointer} (hpointer : loadedPointer service workspaceId files = .ok pointer)
    (hmetrics : ∀ path ∈ publishedMetrics? service workspaceId files,
      after.node? path = files.node? path) :
    viewsAt service workspaceId after pointer = viewsAt service workspaceId files pointer := by
  unfold publishedMetrics? at hmetrics
  simp only [hpointer] at hmetrics
  unfold viewsAt
  cases hdata : Gateway.publishedData pointer with
  | none => rfl
  | some data =>
    rw [hdata] at hmetrics
    have hnode := hmetrics _ rfl
    simp only [Option.bind_some, FileTree.pathExists, hnode]
    rfl

/-- What DuckDB answers over some views is read off the file of the views. -/
theorem eval_duckdb_congr {engines : FileEngines} {service : Service} {files after : FileStore}
    {views : Option Gateway.PublishedViews} {query : String} {budgetMs : ℤ}
    {next : Gateway.Rows → Bool → Gateway.Handler Gateway.QueryResult}
    (hviews : ∀ found ∈ views, after.node? (resolvedPath service found.dataPath) =
      files.node? (resolvedPath service found.dataPath))
    (hnext : ∀ answer late, Program.Only (fun _ ↦ False) (next answer late)) :
    Program.eval (engines.answers service after) (Gateway.ask (.runDuckdb views query) >>=
        fun answer ↦ Gateway.ask (.elapsedExceeds budgetMs) >>= next answer) =
      Program.eval (engines.answers service files) (Gateway.ask (.runDuckdb views query) >>=
        fun answer ↦ Gateway.ask (.elapsedExceeds budgetMs) >>= next answer) := by
  refine Program.eval_congr (Program.Only.bind ((Program.only_perform _ _).mpr ?_) fun answer ↦
    Program.Only.bind ((Program.only_perform _ _).mpr rfl) fun late ↦
      (hnext answer late).mono fun _ h ↦ h.elim)
  cases views with
  | none => rfl
  | some found =>
    show engines.duckdb (some (found, after.content? _)) query =
      engines.duckdb (some (found, files.content? _)) query
    rw [FileTree.content?, hviews found rfl, FileTree.content?]

/-- Queries of a workspace read the pointer and the data it names. -/
theorem queryResult_congr {service : Service} {workspaceId : String} {files after : FileStore}
    (hlatest : after.node? (GoldFiles.latestPath service.storagePath workspaceId) =
      files.node? (GoldFiles.latestPath service.storagePath workspaceId))
    (hmetrics : ∀ path ∈ publishedMetrics? service workspaceId files,
      after.node? path = files.node? path)
    (engines : FileEngines) (settings : Gateway.Settings) (sql : String) (maxRows : ℤ)
    (rowFilter : Option (String × String)) (timeoutMs : ℤ) :
    queryResult engines service settings workspaceId sql maxRows rowFilter timeoutMs after =
      queryResult engines service settings workspaceId sql maxRows rowFilter timeoutMs files := by
  unfold queryResult Gateway.executeSql
  rw [Program.eval_bind, Program.eval_bind, Program.eval_ofExcept, Program.eval_ofExcept]
  cases Gateway.validateReadOnlyQuery (if sql = "" then "select 1 as one" else sql) with
  | error exception => rfl
  | ok query =>
    show Program.eval _ (if _ then _ else _) = Program.eval _ (if _ then _ else _)
    by_cases hbudget : max 1 (min timeoutMs 60000) ≤ 1
    · rw [if_pos hbudget]
      rfl
    rw [if_neg hbudget]
    by_cases htrino : settings.queryEngine = "trino"
    · rw [if_pos htrino]
      refine Program.eval_congr (Program.Only.bind (Program.Only.tryExcept
        ((Program.only_perform _ _).mpr rfl) fun exception ↦ ?_) fun _ ↦
          Program.Only.bind ((Program.only_perform _ _).mpr rfl) fun _ ↦
            Program.Only.ite (fun _ ↦ Program.only_raise _ _) fun _ ↦
              Program.Only.bind (Program.only_ofExcept _ _) fun _ ↦ Program.only_ret _ _)
      split <;> exact Program.only_raise _ _
    · rw [if_neg htrino]
      unfold Gateway.executeDuckdb
      rw [Program.eval_bind, Program.eval_bind, eval_preparePublishedGoldViews _ _ rfl,
        eval_preparePublishedGoldViews _ _ rfl, loadedPointer_congr hlatest]
      have hrows : ∀ (answer : Gateway.Rows) (late : Bool), Program.Only (fun _ ↦ False)
          (if late then Program.raise (.queryTimeout "query_timeout_exceeded")
          else do
            let rows ← Program.ofExcept (Gateway.applyOptionalRowFilter answer.columns answer.rows
              rowFilter (Gateway.normalizedMaxRows maxRows))
            pure (⟨answer.columns, rows, []⟩ : Gateway.QueryResult) :
            Gateway.Handler Gateway.QueryResult) := fun answer late ↦
        Program.Only.ite (fun _ ↦ Program.only_raise _ _) fun _ ↦
          Program.Only.bind (Program.only_ofExcept _ _) fun _ ↦ Program.only_ret _ _
      by_cases hworkspace : workspaceId = ""
      · rw [if_pos hworkspace, if_pos hworkspace]
        exact eval_duckdb_congr (fun _ h ↦ nomatch h) hrows
      rw [if_neg hworkspace, if_neg hworkspace]
      cases hpointer : loadedPointer service workspaceId files with
      | error exception => rfl
      | ok pointer =>
        rw [Except.map, Except.map, viewsAt_congr hpointer hmetrics]
        exact eval_duckdb_congr (fun views hviews ↦
          hmetrics _ (mem_publishedMetrics?_of_viewsAt hpointer hviews)) hrows

/-- Files of the gold layer are no evidence. -/
theorem not_prefix_evidence (storagePath rest : TreePath) (workspaceId name : String) :
    ¬storagePath ++ "gold" :: rest <+: storagePath ++ ["evidence_store", workspaceId, name] := by
  rw [List.prefix_append_right_inj, List.cons_prefix_cons]
  rintro ⟨hname, -⟩
  exact absurd hname (by decide)

/-- The data a pointer names lies in the gold layer. -/
theorem publishedMetrics?_gold {service : Service} {workspaceId : String} {files : FileStore}
    {path : TreePath} (h : path ∈ publishedMetrics? service workspaceId files) :
    ∃ rest, path = service.storagePath ++ "gold" :: rest := by
  unfold publishedMetrics? at h
  split at h
  · obtain ⟨data, -, rfl⟩ := Option.map_eq_some_iff.mp h
    exact ⟨_, rfl⟩
  · cases h

open scoped Classical in
/-- What a purge in its session leaves of a file of the gold layer. -/
theorem node?_applyRetention {service : Service} {world : World} {path : TreePath}
    (hdir : world.files.isDir path = false)
    (hgold : ∃ rest, path = service.storagePath ++ "gold" :: rest) (workspaceId actorId : String)
    (dryRun : Bool) (now : ℤ) :
    (applyRetention service world ⟨.purge workspaceId actorId dryRun, now⟩).files.node? path =
      if dryRun = false ∧ PurgeExpires service world workspaceId now path then none
      else world.files.node? path := by
  obtain ⟨rest, rfl⟩ := hgold
  rw [applyRetention, RetentionCall.perform, files_inSession, files_forEffect]
  exact node?_executeRetentionPurge hdir fun _ ↦ not_prefix_evidence _ _ _ _

/-- A purge keeps what is published exactly when it finds none of it expired. -/
theorem publicationKept_purge_iff {service : Service} {world : World} {call : RetentionCall}
    {workspaceId actorId : String} {dryRun : Bool}
    (hcall : call.operation = .purge workspaceId actorId dryRun) :
    (∀ published, PublicationKept service published world.files
        (applyRetention service world call).files) ↔ SparesPublished service world call := by
  classical
  obtain ⟨operation, now⟩ := call
  cases hcall
  constructor
  · rintro hkept _ _ hwet published
    cases hwet
    have hgone : ∀ path, (∃ rest, path = service.storagePath ++ "gold" :: rest) →
        (world.files.isFile path = true → (applyRetention service world
          ⟨.purge workspaceId actorId false, now⟩).files.isFile path = true) →
        ¬PurgeExpires service world workspaceId now path := by
      intro path hgold hstays hexpired
      obtain ⟨_, _, -, -, hfile, -⟩ := id hexpired
      have hnode := node?_applyRetention (FileTree.isDir_of_isFile hfile) hgold workspaceId actorId
        false now
      rw [if_pos ⟨rfl, hexpired⟩] at hnode
      have hthere := hstays hfile
      rw [FileTree.isFile, FileTree.content?, hnode] at hthere
      cases hthere
    exact ⟨hgone _ ⟨_, List.append_assoc _ _ _⟩ (hkept published).latest, fun path hpath ↦
      hgone path (publishedMetrics?_gold hpath) ((hkept published).metrics path hpath)⟩
  · intro hspares published
    have hsame : ∀ path, (∃ rest, path = service.storagePath ++ "gold" :: rest) →
        world.files.isDir path = false →
        (dryRun = false → ¬PurgeExpires service world workspaceId now path) →
        (applyRetention service world ⟨.purge workspaceId actorId dryRun, now⟩).files.node? path =
          world.files.node? path := by
      intro path hgold hdir hspared
      rw [node?_applyRetention hdir hgold, if_neg]
      rintro ⟨hwet, hexpired⟩
      exact hspared hwet hexpired
    have hlatest : dryRun = false → ¬PurgeExpires service world workspaceId now
        (GoldFiles.latestPath service.storagePath published) := by
      rintro rfl
      exact (hspares workspaceId actorId rfl published).1
    have hmetrics : ∀ path ∈ publishedMetrics? service published world.files,
        dryRun = false → ¬PurgeExpires service world workspaceId now path := by
      rintro path hpath rfl
      exact (hspares workspaceId actorId rfl published).2 path hpath
    have hfile : ∀ path, (world.files.isDir path = false →
        (applyRetention service world ⟨.purge workspaceId actorId dryRun, now⟩).files.node? path =
          world.files.node? path) → world.files.isFile path = true →
        (applyRetention service world
          ⟨.purge workspaceId actorId dryRun, now⟩).files.isFile path = true := by
      intro path hnode hthere
      rw [FileTree.isFile, FileTree.content?, hnode (FileTree.isDir_of_isFile hthere)]
      exact hthere
    refine ⟨hfile _ fun hdir ↦ hsame _ ⟨_, List.append_assoc _ _ _⟩ hdir hlatest,
      fun path hpath ↦ hfile path fun hdir ↦
        hsame path (publishedMetrics?_gold hpath) hdir (hmetrics path hpath),
      fun hlatestDir hmetricsDir ↦ queryResult_congr
        (hsame _ ⟨_, List.append_assoc _ _ _⟩ hlatestDir hlatest) fun path hpath ↦
          hsame path (publishedMetrics?_gold hpath) (hmetricsDir path hpath) (hmetrics path hpath)⟩

/-- Over every run, the purges keep what is published exactly when none of them finds the pointer of
a workspace, or the data it names, expired. -/
theorem purgesKeepPublished_iff (service : Service) (start : World) (calls : List RetentionCall) :
    PurgesKeepPublished service start calls ↔
      ∀ step ∈ trace (applyRetention service) start calls,
        SparesPublished service step.1 step.2 := by
  constructor
  · intro h step hstep workspaceId actorId hpurge
    exact (publicationKept_purge_iff hpurge).mp (h step hstep workspaceId actorId false hpurge)
      workspaceId actorId hpurge
  · intro h step hstep workspaceId actorId dryRun hpurge
    exact (publicationKept_purge_iff hpurge).mpr (h step hstep)

/-- A service whose purges look through its storage root. -/
def purgingService : Service where
  storageRoot := "/srv"
  retentionPurgeRoot := some "/srv"
  auditSinkMode := "inline"
  resolvePath _ := ["srv"]
  codec := ⟨fun _ ↦ "00", fun payload ↦ [("encrypted", .bool false), ("payload", .obj payload)]⟩
  newUlid n := toString n
  toFloat value := .ok value
  epochJson time := .int time

def purgingStart : World := ⟨{ Database.empty with workspaces := ["w1"] }, FileTree.empty, 0⟩

/-- A retention of thirty days, and a publication. -/
def publishedOnce : List RetentionCall :=
  [⟨.configure "w1" "admin" 30 true true false, 0⟩, ⟨.publish "w1" "b1" "s1" "orders", 0⟩]

def lastPurge : RetentionCall := ⟨.purge "w1" "admin" false, 31 * 86400 * 10 ^ 9⟩

/-- The pointer of a publication thirty-one days old is purged. -/
theorem published_pointer_purged :
    ¬∀ (service : Service) (start : World) (calls : List RetentionCall),
      PurgesKeepPublished service start calls := by
  intro h
  have hthere : (Versions.run (applyRetention purgingService) purgingStart
      publishedOnce).files.isFile
      (GoldFiles.latestPath purgingService.storagePath "w1") = true := by
    decide +kernel
  have hgone : (applyRetention purgingService
      (Versions.run (applyRetention purgingService) purgingStart publishedOnce) lastPurge).files.isFile
        (GoldFiles.latestPath purgingService.storagePath "w1") = false := by
    decide +kernel
  have hkept := h purgingService purgingStart (publishedOnce ++ [lastPurge])
    _ (mem_trace List.prefix_rfl) "w1" "admin" false rfl "w1"
  rw [hkept.latest hthere] at hgone
  cases hgone

end SchemaPilot.ControlPlane
