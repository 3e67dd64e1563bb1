import SchemaPilot.ControlPlane.Frames

/-!
# What a denied audit write leaves behind

A request whose audit event cannot be written is denied and its tables are rolled back
(`serve_error_db`), but the files it wrote before stay written. `publish_denied`, `rollback_denied`
and `purge_denied` say what is left in every file, and `audit_denial_iff` when that is what the file
held before.
-/

namespace SchemaPilot.ControlPlane

open Library Library.Json Library.Effect SharedDomain

/-- A session that ends with an exception puts the tables back. -/
theorem serve_error_db {service : Service} {context : RequestContext} {request : ApiRequest}
    {world after : World} {exception : Exn}
    (h : serve service context request world = (.error exception, after)) :
    after.db = world.db := by
  unfold serve inSession at h
  split at h
  · cases h
  · cases h
    rfl

/-- The files are those the handler left. -/
theorem serve_files (service : Service) (context : RequestContext) (request : ApiRequest)
    (world : World) : (serve service context request world).2.files =
      (handle service context request world).2.files := by
  unfold serve inSession
  split <;> simp_all

/-- A denied request is one whose handler ended with the denial. -/
theorem handle_of_serve_error {service : Service} {context : RequestContext} {request : ApiRequest}
    {world after : World} {exception : Exn}
    (h : serve service context request world = (.error exception, after)) :
    ∃ final, handle service context request world = (.error exception, final) ∧
      after.files = final.files := by
  unfold serve inSession at h
  split at h
  · cases h
  · next found final hrun =>
    cases h
    exact ⟨final, hrun, rfl⟩

/-- Reading files changes nothing. -/
theorem onFiles_read {α : Type} {p : Files α} (hp : Keeps id p) {world after : World} {value : α}
    (h : onFiles p world = (.ok value, after)) :
    after = world ∧ p world.files = (.ok value, world.files) := by
  have hafter : after = { world with files := (p world.files).2 } := congrArg Prod.snd h.symm
  have hfiles : (p world.files).2 = world.files := hp world.files
  rw [hfiles] at hafter
  obtain ⟨hrun, -⟩ := onFiles_eq_ok h
  exact ⟨hafter, by rw [hafter] at hrun; exact hrun⟩

theorem requireActor_eq_ok {context : RequestContext} {roles : List String} {world after : World}
    {actor : Fields} (h : requireActor context roles world = (.ok actor, after)) :
    context.actor = some actor ∧ after = world := by
  have hkeeps : Keeps id (requireActor context roles) := keeps_requireActor context roles
  refine ⟨?_, hkeeps.of_run h⟩
  unfold requireActor at h
  cases hactor : context.actor with
  | none =>
    rw [hactor] at h
    cases h
  | some found =>
    rw [hactor] at h
    dsimp only at h
    split_ifs at h
    · cases h
    · cases h
      rfl

/-- The audit write and the answer after it leave the files alone. -/
theorem files_of_audit_denied {service : Service} {context : RequestContext}
    {workspaceId : Option String} {actorId eventType : String} {eventJson : Fields}
    {response : ApiResponse} {world after : World} {exception : Exn}
    (h : (appendAuditEvent service context workspaceId actorId eventType eventJson >>= fun _ ↦
      pure response) world = (.error exception, after)) : after.files = world.files :=
  ((keeps_files_appendAuditEvent service context workspaceId actorId eventType eventJson).bind
    fun _ ↦ keeps_pure response).of_run h

def publishGate (service : Service) (workspaceId buildId : String) (world : World) : PublishGate :=
  evaluateGoldPublishGate
    (contractOutcome (storedContractReport? world.files service.storagePath workspaceId buildId)).1
    (unresolvedBlockingTaskCount workspaceId world.db)

def requestedPointer (workspaceId buildId : String) (payload : Fields) : GoldPointer :=
  ⟨workspaceId, buildId, (getD payload "snapshot_id" (.str buildId)).toStr,
    (getD payload "model_name" (.str "default_model")).toStr⟩

/-- The evidence payload of the contract failures a publish request meets. -/
def failurePayload (service : Service) (workspaceId buildId : String) (world : World) : Fields :=
  contractFailurePayload workspaceId buildId
    (contractOutcome (storedContractReport? world.files service.storagePath workspaceId buildId)).2

/-- The bundle of the contract failures a publish request meets. -/
def failureBundle (service : Service) (workspaceId buildId : String) (world : World) :
    StoredEvidenceBundle :=
  describeBundle service.codec workspaceId (failurePayload service workspaceId buildId world)
    service.storagePath "contract_failure" none

/-- Recording a contract failure leaves its bundle and no other file. -/
theorem ensureContractFailureReviewTask_ok {service : Service} {context : RequestContext}
    {workspaceId buildId : String} {failures : List Fields} {world after : World} {task : Fields}
    (h : ensureContractFailureReviewTask service context workspaceId buildId failures world =
      (.ok task, after)) :
    let payload := contractFailurePayload workspaceId buildId failures
    let bundle := describeBundle service.codec workspaceId payload service.storagePath
      "contract_failure" none
    ∀ path, after.files.content? path = if path = bundle.path then
      some (.json (bundleEnvelope service.codec payload "contract_failure" bundle))
      else world.files.content? path := by
  obtain ⟨stored, middle, hstored, h⟩ := bind_eq_ok_iff.mp h
  obtain ⟨rfl, hcontent⟩ := storeEvidenceBundle_ok (onFiles_eq_ok hstored).1
  have hfiles : after.files = middle.files :=
    ((keeps_query _).bind fun _ ↦
      (keeps_foundOr (keeps_files_createProposal _ _ _ _ _) _).bind fun _ ↦
        (keeps_query _).bind fun _ ↦
          (keeps_foundOr (keeps_files_createReviewTask _ _ _ _ _) _).bind fun _ ↦
            keeps_pure _).of_run h
  rw [hfiles]
  exact hcontent

theorem deniesOtherwise_ensureContractFailureReviewTask (service : Service)
    (context : RequestContext) (workspaceId buildId : String) (failures : List Fields) :
    DeniesOtherwise
      (ensureContractFailureReviewTask service context workspaceId buildId failures) :=
  (deniesOtherwise_onFiles (raises_storeEvidenceBundle _ _ _ _ _ _ _)).bind fun _ ↦
    (deniesOtherwise_query _).bind fun _ ↦
      (deniesOtherwise_foundOr (deniesOtherwise_createProposal _ _ _ _ _) _).bind fun _ ↦
        (deniesOtherwise_query _).bind fun _ ↦
          (deniesOtherwise_foundOr (deniesOtherwise_createReviewTask _ _ _ _ _) _).bind fun _ ↦
            raises_pure _

theorem deniesOtherwise_applyPublishGate (service : Service) (context : RequestContext)
    (workspaceId buildId : String) (payload : Fields) (gate : PublishGate)
    (failures : List Fields) : DeniesOtherwise
      (applyPublishGate service context workspaceId buildId payload gate failures) := by
  unfold applyPublishGate
  by_cases hallowed : gate.allowed = true
  · rw [if_pos hallowed]
    exact (deniesOtherwise_onFiles (GoldFiles.raises_publishGoldPointer _ _ _ _ _ _)).bind
      fun _ ↦ raises_pure _
  · rw [if_neg hallowed]
    refine (deniesOtherwise_onFiles (GoldFiles.raises_loadLatestGoldPointer _ _)).bind
      fun latest ↦ ?_
    by_cases hfailure : gate.reason = "contract_failure"
    · rw [if_pos hfailure]
      exact (deniesOtherwise_ensureContractFailureReviewTask _ _ _ _ _).bind fun _ ↦ raises_pure _
    · rw [if_neg hfailure]
      exact raises_pure _

/-- A publish request that reached its audit write had applied the gate to the world it met. -/
theorem publish_denied {service : Service} {context : RequestContext}
    {workspaceId buildId : String} {payload : Fields} {world after : World} {eventType : String}
    (h : apiPublishBuild service context workspaceId buildId payload world =
      (.error (auditUnavailable eventType), after)) :
    ∃ applied middle, applyPublishGate service context workspaceId buildId payload
        (publishGate service workspaceId buildId world)
        (contractOutcome
          (storedContractReport? world.files service.storagePath workspaceId buildId)).2 world =
      (.ok applied, middle) ∧ after.files = middle.files := by
  obtain ⟨actor, _, hactor, hread⟩ := denied_after (deniesOtherwise_requireActor _ _) h
  obtain ⟨-, rfl⟩ := requireActor_eq_ok hactor
  obtain ⟨report, _, hreport, hcount⟩ :=
    denied_after (deniesOtherwise_onFiles (raises_loadBuildContractReport _ _ _)) hread
  obtain ⟨rfl, hstored⟩ := onFiles_read (keeps_loadBuildContractReport _ _ _) hreport
  obtain rfl := loadBuildContractReport_eq_ok hstored
  obtain ⟨unresolved, _, hquery, hbefore⟩ := denied_after (deniesOtherwise_query _) hcount
  rw [query_apply] at hquery
  cases hquery
  obtain ⟨latest, _, hlatest, hgate⟩ :=
    denied_after (deniesOtherwise_onFiles (GoldFiles.raises_loadLatestGoldPointer _ _)) hbefore
  obtain ⟨rfl, -⟩ := onFiles_read (GoldFiles.keeps_loadLatestGoldPointer _ _) hlatest
  obtain ⟨applied, middle, happlied, haudit⟩ :=
    denied_after (deniesOtherwise_applyPublishGate _ _ _ _ _ _ _) hgate
  exact ⟨applied, middle, happlied, files_of_audit_denied haudit⟩

/-- A rollback request that reached its audit write had rolled the pointer back. -/
theorem rollback_denied {service : Service} {context : RequestContext}
    {workspaceId buildId : String} {world after : World} {eventType : String}
    (h : apiRollbackBuild service context workspaceId buildId world =
      (.error (auditUnavailable eventType), after)) :
    ∃ entries, GoldFiles.rollbackGoldPointer service.storagePath workspaceId (some buildId)
      context.now world.files = (.ok entries, after.files) := by
  obtain ⟨actor, _, hactor, hroll⟩ := denied_after (deniesOtherwise_requireActor _ _) h
  obtain ⟨-, rfl⟩ := requireActor_eq_ok hactor
  have hraises : DeniesOtherwise (((do
      return .ok (← onFiles (GoldFiles.rollbackGoldPointer service.storagePath workspaceId
        (some buildId) context.now))) :
      Handler (Except String (GoldFiles.Entry × GoldFiles.Entry))).tryExcept fun exception ↦
        if exception.isValueError then return .error exception.message
        else Effect.raise exception) := by
    refine Raises.tryExcept ((GoldFiles.raises_rollbackGoldPointer _ _ _ _).within.bind fun _ ↦
      raises_pure _) fun exception hfile ↦ ?_
    split_ifs
    · exact raises_pure _
    · exact raises_raise (not_isAuditDenial_of_isFileError hfile)
  obtain ⟨outcome, rolled, houtcome, haudit⟩ := denied_after hraises hroll
  cases outcome with
  | error reason => cases haudit
  | ok entries =>
    obtain ⟨current, target⟩ := entries
    rw [files_of_audit_denied haudit]
    rcases tryExcept_eq_ok houtcome with hreturned | ⟨exception, middle, -, hhandled⟩
    · obtain ⟨found, _, hrun, hpure⟩ := bind_eq_ok_iff.mp hreturned
      cases hpure
      exact ⟨(current, target), (onFiles_eq_ok hrun).1⟩
    · split_ifs at hhandled <;> cases hhandled

/-- `bool(payload.get("dry_run", True))`. -/
def purgeIsDry (payload : Fields) : Bool := truthy (getD payload "dry_run" (.bool true))

def worldPurgePayload (service : Service) (context : RequestContext) (workspaceId : String)
    (dryRun : Bool) (policy : RetentionPolicy) (root : String) (files : FileStore) : Fields :=
  purgePayload service workspaceId (actorId (context.actor.getD [])) policy
    (Purge.execution files (service.resolvePath root) workspaceId policy.retentionDays dryRun
      context.now)

/-- The evidence bundle of a purge on the files of a world. -/
def purgeBundle (service : Service) (context : RequestContext) (workspaceId : String)
    (dryRun : Bool) (policy : RetentionPolicy) (root : String) (files : FileStore) :
    StoredEvidenceBundle :=
  describeBundle service.codec workspaceId
    (worldPurgePayload service context workspaceId dryRun policy root files) service.storagePath
    "retention_purge" none

/-- The files a permitted purge deletes or would delete. -/
def purgedFiles (service : Service) (context : RequestContext) (workspaceId : String)
    (policy : RetentionPolicy) (root : String) (files : FileStore) : List TreePath :=
  Purge.toDelete files (service.resolvePath root) workspaceId policy.retentionDays context.now

theorem deniesOtherwise_executeRetentionPurge (service : Service) (context : RequestContext)
    (workspaceId actorId : String) (dryRun : Bool) :
    DeniesOtherwise (executeRetentionPurge service context workspaceId actorId dryRun) := by
  refine (deniesOtherwise_query _).bind fun row ↦ Raises.bind (raises_ofExcept ?_) fun permission ↦
    Raises.bind (Raises.tryExcept (Purge.raises_purgeWorkspaceArtifacts _ _ _ _ _).within ?_)
      fun execution ↦ (deniesOtherwise_onFiles (raises_storeEvidenceBundle _ _ _ _ _ _ _)).bind
        fun _ ↦ (deniesOtherwise_newUlid service).bind fun _ ↦ deniesOtherwise_save.bind
          fun _ ↦ raises_pure _
  · intro exception h
    cases hpermission : purgePermission row service.retentionPurgeRoot with
    | ok permission =>
      rw [hpermission] at h
      cases h
    | error reason =>
      rw [hpermission] at h
      cases h
      exact not_isAuditDenial_of_reason _
  · intro exception hfile
    split_ifs
    · exact raises_raise (not_isAuditDenial_of_reason _)
    · exact raises_raise (not_isAuditDenial_of_isFileError hfile)

/-- A purge that was carried out has deleted what it collected, unless it was a dry run, and stored
its evidence. -/
theorem executeRetentionPurge_ok {service : Service} {context : RequestContext}
    {workspaceId actorId : String} {dryRun : Bool} {world after : World} {result : Fields}
    (h : executeRetentionPurge service context workspaceId actorId dryRun world =
      (.ok result, after)) :
    ∃ policy root, purgePermission (retentionPolicyRow? workspaceId world.db)
        service.retentionPurgeRoot = .ok (policy, root) ∧
      let payload := purgePayload service workspaceId actorId policy
        (Purge.execution world.files (service.resolvePath root) workspaceId policy.retentionDays
          dryRun context.now)
      let bundle := describeBundle service.codec workspaceId payload service.storagePath
        "retention_purge" none
      ∀ path, after.files.content? path = if path = bundle.path then
        some (.json (bundleEnvelope service.codec payload "retention_purge" bundle))
        else if dryRun = false ∧
          path ∈ purgedFiles service context workspaceId policy root world.files then none
        else world.files.content? path := by
  obtain ⟨row, _, hquery, hchecks⟩ := bind_eq_ok_iff.mp h
  rw [query_apply] at hquery
  cases hquery
  obtain ⟨permission, _, hpermitted, hpurge⟩ := bind_eq_ok_iff.mp hchecks
  cases hpermission : purgePermission (retentionPolicyRow? workspaceId world.db)
      service.retentionPurgeRoot with
  | error reason =>
    rw [hpermission] at hpermitted
    cases hpermitted
  | ok granted =>
    obtain ⟨policy, root⟩ := granted
    rw [hpermission] at hpermitted
    cases hpermitted
    refine ⟨policy, root, rfl, ?_⟩
    obtain ⟨execution, purged, hexecution, hstore⟩ := bind_eq_ok_iff.mp hpurge
    have hran : onFiles (purgeWorkspaceArtifacts workspaceId (service.resolvePath root)
        policy.retentionDays dryRun context.now) world = (.ok execution, purged) := by
      rcases tryExcept_eq_ok hexecution with hran | ⟨exception, middle, -, hhandled⟩
      · exact hran
      · split_ifs at hhandled <;> cases hhandled
    obtain ⟨-, rfl, hpurged⟩ := Purge.purgeWorkspaceArtifacts_ok (onFiles_eq_ok hran).1
    obtain ⟨stored, recorded, hstored, hsaved⟩ := bind_eq_ok_iff.mp hstore
    obtain ⟨rfl, hbundle⟩ := storeEvidenceBundle_ok (onFiles_eq_ok hstored).1
    have hfiles : after.files = recorded.files :=
      ((keeps_files_newUlid service).bind fun _ ↦ (keeps_files_save _).bind fun _ ↦
        keeps_pure _).of_run hsaved
    intro payload bundle path
    rw [hfiles, hbundle, hpurged]
    rfl

/-- A purge request that reached its audit write had purged and stored its evidence. -/
theorem purge_denied {service : Service} {context : RequestContext} {workspaceId : String}
    {payload : Fields} {world after : World} {eventType : String}
    (h : apiExecuteRetentionPurge service context workspaceId payload world =
      (.error (auditUnavailable eventType), after)) :
    ∃ policy root, purgePermission (retentionPolicyRow? workspaceId world.db)
        service.retentionPurgeRoot = .ok (policy, root) ∧
      let evidence := worldPurgePayload service context workspaceId (purgeIsDry payload) policy
        root world.files
      let bundle := purgeBundle service context workspaceId (purgeIsDry payload) policy root
        world.files
      ∀ path, after.files.content? path = if path = bundle.path then
        some (.json (bundleEnvelope service.codec evidence "retention_purge" bundle))
        else if purgeIsDry payload = false ∧
          path ∈ purgedFiles service context workspaceId policy root world.files then none
        else world.files.content? path := by
  obtain ⟨actor, _, hrequired, hpurge⟩ := denied_after (deniesOtherwise_requireActor _ _) h
  obtain ⟨hactor, rfl⟩ := requireActor_eq_ok hrequired
  obtain ⟨result, middle, hresult, haudit⟩ :=
    denied_after (deniesOtherwise_executeRetentionPurge _ _ _ _ _) hpurge
  obtain ⟨policy, root, hpermission, hfiles⟩ := executeRetentionPurge_ok hresult
  refine ⟨policy, root, hpermission, fun path ↦ ?_⟩
  rw [files_of_audit_denied haudit, hfiles, purgeBundle, worldPurgePayload, hactor]
  rfl

def Service.evidenceRoot (service : Service) : TreePath :=
  service.storagePath ++ ["evidence_store"]

/-- A file that is no evidence bundle: a pointer, a history or a stored artifact. -/
def Service.IsArtifact (service : Service) (path : TreePath) : Prop :=
  ¬service.evidenceRoot <+: path

/-- The pointer asked for is the latest one and the history ends with its build. -/
def PublicationSettled (service : Service) (workspaceId buildId : String) (payload : Fields)
    (files : FileStore) : Prop :=
  files.content? (GoldFiles.latestPath service.storagePath workspaceId) =
      some (.json (GoldFiles.pointerJson
        (some (requestedPointer workspaceId buildId payload)))) ∧
    GoldFiles.lastBuildId (GoldFiles.recordedHistory files service.storagePath workspaceId) =
      some buildId

/-- The entry to restore, if any, is the latest one and the last of the history. -/
def RollbackSettled (service : Service) (workspaceId buildId : String) (files : FileStore) :
    Prop :=
  ∀ current target,
    (GoldFiles.recordedHistory files service.storagePath workspaceId).getLast? = some current →
    GoldFiles.rollbackEntry (GoldFiles.recordedHistory files service.storagePath workspaceId)
      current (some buildId) = .ok target →
    files.content? (GoldFiles.latestPath service.storagePath workspaceId) =
      some (.json (GoldFiles.pointerJson target)) ∧ current = target

/-- The request has no artifact to write or delete: its gate is closed or its pointer is in place,
or its purge is refused, dry or finds no expired artifact. -/
def ArtifactsSettled (service : Service) (context : RequestContext) (world : World) :
    ApiRequest → Prop
  | .publishBuild workspaceId buildId payload =>
    (publishGate service workspaceId buildId world).allowed = true →
      PublicationSettled service workspaceId buildId payload world.files
  | .rollbackBuild workspaceId buildId =>
    RollbackSettled service workspaceId buildId world.files
  | .executeRetentionPurge workspaceId payload => ∀ policy root,
    purgePermission (retentionPolicyRow? workspaceId world.db) service.retentionPurgeRoot =
      .ok (policy, root) →
    purgeIsDry payload = true ∨
      ∀ path ∈ purgedFiles service context workspaceId policy root world.files,
        ¬service.IsArtifact path
  | _ => True

/-- The evidence of the request is in place: that of a contract failure, or that of a permitted
purge, which then deletes no other bundle. -/
def EvidenceSettled (service : Service) (context : RequestContext) (world : World) :
    ApiRequest → Prop
  | .publishBuild workspaceId buildId _ =>
    (publishGate service workspaceId buildId world).reason = "contract_failure" →
      world.files.content? (failureBundle service workspaceId buildId world).path =
        some (.json (bundleEnvelope service.codec
          (failurePayload service workspaceId buildId world) "contract_failure"
          (failureBundle service workspaceId buildId world)))
  | .executeRetentionPurge workspaceId payload => ∀ policy root,
    purgePermission (retentionPolicyRow? workspaceId world.db) service.retentionPurgeRoot =
      .ok (policy, root) →
    let evidence := worldPurgePayload service context workspaceId (purgeIsDry payload) policy root
      world.files
    let bundle := purgeBundle service context workspaceId (purgeIsDry payload) policy root
      world.files
    world.files.content? bundle.path =
        some (.json (bundleEnvelope service.codec evidence "retention_purge" bundle)) ∧
      (purgeIsDry payload = true ∨
        ∀ path ∈ purgedFiles service context workspaceId policy root world.files,
          ¬service.IsArtifact path → path = bundle.path)
  | _ => True

theorem not_isArtifact_bundle (service : Service) (codec : EvidenceCodec) (workspaceId : String)
    (payload : Fields) (bundleType : String) (evidenceId : Option String) :
    ¬service.IsArtifact
      (describeBundle codec workspaceId payload service.storagePath bundleType evidenceId).path := by
  refine not_not.mpr ?_
  unfold Service.evidenceRoot describeBundle
  exact (List.prefix_append_right_inj _).mpr (by simp)

theorem isArtifact_of_gold (service : Service) (names : List String) :
    service.IsArtifact (service.storagePath ++ "gold" :: names) := by
  unfold Service.IsArtifact Service.evidenceRoot
  rw [List.prefix_append_right_inj]
  simp

theorem isArtifact_latestPath (service : Service) (workspaceId : String) :
    service.IsArtifact (GoldFiles.latestPath service.storagePath workspaceId) := by
  simpa [GoldFiles.latestPath, GoldFiles.pointerDir] using
    isArtifact_of_gold service [workspaceId, "_published", "latest.json"]

theorem isArtifact_historyPath (service : Service) (workspaceId : String) :
    service.IsArtifact (GoldFiles.historyPath service.storagePath workspaceId) := by
  simpa [GoldFiles.historyPath, GoldFiles.pointerDir] using
    isArtifact_of_gold service [workspaceId, "_published", "history.json"]

theorem reason_of_gate_allowed {contractsPassed : Bool} {unresolved : ℕ}
    (h : (evaluateGoldPublishGate contractsPassed unresolved).allowed = true) :
    contractsPassed = true ∧ unresolved = 0 ∧
      (evaluateGoldPublishGate contractsPassed unresolved).reason = "all_gates_passed" := by
  unfold evaluateGoldPublishGate at h ⊢
  split_ifs at h ⊢ with hpassed hunresolved
  simp only [Bool.not_eq_true', Bool.not_eq_false] at hpassed
  exact ⟨hpassed, Nat.eq_zero_of_not_pos hunresolved, rfl⟩

/-- What a publish request leaves in the files when its audit write is denied. -/
theorem publish_files_iff {service : Service} {context : RequestContext}
    {workspaceId buildId : String} {payload : Fields} {world after : World} {eventType : String}
    (h : apiPublishBuild service context workspaceId buildId payload world =
      (.error (auditUnavailable eventType), after)) :
    ((∀ path, service.IsArtifact path →
      after.files.content? path = world.files.content? path) ↔
      ArtifactsSettled service context world (.publishBuild workspaceId buildId payload)) ∧
    ((∀ path, after.files.content? path = world.files.content? path) ↔
      ArtifactsSettled service context world (.publishBuild workspaceId buildId payload) ∧
      EvidenceSettled service context world (.publishBuild workspaceId buildId payload)) := by
  obtain ⟨applied, middle, happlied, hafter⟩ := publish_denied h
  rw [hafter]
  unfold ArtifactsSettled EvidenceSettled
  dsimp only
  unfold applyPublishGate at happlied
  by_cases hallowed : (publishGate service workspaceId buildId world).allowed = true
  · rw [if_pos hallowed] at happlied
    obtain ⟨pointer, _, hpublished, hdone⟩ := bind_eq_ok_iff.mp happlied
    cases hdone
    obtain ⟨rfl, hcontents⟩ := GoldFiles.publishGoldPointer_ok (onFiles_eq_ok hpublished).1
    have hreason : (publishGate service workspaceId buildId world).reason ≠ "contract_failure" := by
      rw [publishGate, (reason_of_gate_allowed hallowed).2.2]
      decide
    have hkept (P : TreePath → Prop)
        (hlatest : P (GoldFiles.latestPath service.storagePath workspaceId))
        (hhistory : P (GoldFiles.historyPath service.storagePath workspaceId)) :
        (∀ path, P path → middle.files.content? path = world.files.content? path) ↔
          PublicationSettled service workspaceId buildId payload world.files := by
      rw [GoldFiles.contents_kept_iff (GoldFiles.latestPath_ne_historyPath _ _) hlatest hhistory
        (GoldFiles.content?_historyPath_ne _ _ _ _) hcontents, not_not]
      rfl
    constructor
    · rw [hkept _ (isArtifact_latestPath _ _) (isArtifact_historyPath _ _)]
      exact (imp_iff_right hallowed).symm
    · rw [imp_iff_right hallowed, and_iff_left (fun h ↦ absurd h hreason),
        ← hkept (fun _ ↦ True) trivial trivial]
      exact forall_congr' fun path ↦ (imp_iff_right trivial).symm
  · rw [if_neg hallowed] at happlied
    obtain ⟨latest, read, hlatest, hfailure⟩ := bind_eq_ok_iff.mp happlied
    obtain ⟨hread, -⟩ := onFiles_read (GoldFiles.keeps_loadLatestGoldPointer _ _) hlatest
    rw [hread] at hfailure
    rw [iff_true_right (fun h ↦ absurd h hallowed), and_iff_right (fun h ↦ absurd h hallowed)]
    by_cases hreason : (publishGate service workspaceId buildId world).reason = "contract_failure"
    · rw [if_pos hreason] at hfailure
      obtain ⟨task, _, hrecorded, hdone⟩ := bind_eq_ok_iff.mp hfailure
      cases hdone
      have hcontents := ensureContractFailureReviewTask_ok hrecorded
      constructor
      · intro path hpath
        rw [hcontents, if_neg]
        rintro rfl
        exact not_isArtifact_bundle _ _ _ _ _ _ hpath
      · rw [imp_iff_right hreason]
        constructor
        · intro hsame
          rw [← hsame, hcontents]
          exact if_pos rfl
        · intro hstored path
          rw [hcontents]
          split_ifs with hpath
          · rw [hpath]
            exact hstored.symm
          · rfl
    · rw [if_neg hreason] at hfailure
      cases hfailure
      exact ⟨fun _ _ ↦ rfl, iff_of_true (fun _ ↦ rfl) fun h ↦ absurd h hreason⟩

/-- What a rollback request leaves in the files when its audit write is denied. -/
theorem rollback_files_iff {service : Service} {context : RequestContext}
    {workspaceId buildId : String} {world after : World} {eventType : String}
    (h : apiRollbackBuild service context workspaceId buildId world =
      (.error (auditUnavailable eventType), after)) {P : TreePath → Prop}
    (hlatest : P (GoldFiles.latestPath service.storagePath workspaceId))
    (hhistory : P (GoldFiles.historyPath service.storagePath workspaceId)) :
    (∀ path, P path → after.files.content? path = world.files.content? path) ↔
      RollbackSettled service workspaceId buildId world.files := by
  obtain ⟨⟨current, target⟩, hrun⟩ := rollback_denied h
  obtain ⟨hcurrent, htarget, hcontents⟩ := GoldFiles.rollbackGoldPointer_ok hrun
  rw [GoldFiles.contents_kept_iff (GoldFiles.latestPath_ne_historyPath _ _) hlatest hhistory
    (GoldFiles.content?_historyPath_ne _ _ _ _) hcontents, not_not]
  constructor
  · intro hsettled current' target' hcurrent' htarget'
    rw [hcurrent] at hcurrent'
    cases hcurrent'
    rw [htarget] at htarget'
    cases htarget'
    exact hsettled
  · intro hsettled
    exact hsettled current target hcurrent htarget

/-- What a purge request leaves in the files when its audit write is denied. -/
theorem purge_files_iff {service : Service} {context : RequestContext} {workspaceId : String}
    {payload : Fields} {world after : World} {eventType : String}
    (h : apiExecuteRetentionPurge service context workspaceId payload world =
      (.error (auditUnavailable eventType), after)) :
    ((∀ path, service.IsArtifact path →
      after.files.content? path = world.files.content? path) ↔
      ArtifactsSettled service context world (.executeRetentionPurge workspaceId payload)) ∧
    ((∀ path, after.files.content? path = world.files.content? path) ↔
      ArtifactsSettled service context world (.executeRetentionPurge workspaceId payload) ∧
      EvidenceSettled service context world (.executeRetentionPurge workspaceId payload)) := by
  obtain ⟨policy, root, hpermission, hcontents⟩ := purge_denied h
  have hbundle : ¬service.IsArtifact (purgeBundle service context workspaceId (purgeIsDry payload)
      policy root world.files).path := not_isArtifact_bundle _ _ _ _ _ _
  have hpresent {path : TreePath}
      (hpath : path ∈ purgedFiles service context workspaceId policy root world.files) :
      world.files.content? path ≠ none := by
    have := Purge.isFile_of_mem_toDelete hpath
    exact Option.isSome_iff_ne_none.mp this
  unfold ArtifactsSettled EvidenceSettled
  dsimp only
  rw [hpermission]
  have hgranted {Q : RetentionPolicy → String → Prop} :
      (∀ policy' root', (.ok (policy, root) : Except String (RetentionPolicy × String)) =
        .ok (policy', root') → Q policy' root') ↔ Q policy root := by
    constructor
    · intro hall
      exact hall policy root rfl
    · rintro hQ _ _ heq
      cases heq
      exact hQ
  rw [hgranted, hgranted]
  have hdeleted {path : TreePath} (hwet : purgeIsDry payload = false)
      (hpath : path ∈ purgedFiles service context workspaceId policy root world.files)
      (hne : path ≠ (purgeBundle service context workspaceId (purgeIsDry payload) policy root
        world.files).path) : after.files.content? path ≠ world.files.content? path := by
    rw [hcontents, if_neg hne, if_pos ⟨hwet, hpath⟩]
    exact (hpresent hpath).symm
  constructor
  · constructor
    · intro hsame
      by_cases hdry : purgeIsDry payload = true
      · exact Or.inl hdry
      · refine Or.inr fun path hpath hartifact ↦ ?_
        refine hdeleted (Bool.eq_false_iff.mpr hdry) hpath ?_ (hsame path hartifact)
        rintro rfl
        exact hbundle hartifact
    · intro hsettled path hartifact
      rw [hcontents, if_neg, if_neg]
      · rintro ⟨hwet, hpath⟩
        rcases hsettled with hdry | hnone
        · rw [hdry] at hwet
          cases hwet
        · exact hnone path hpath hartifact
      · rintro rfl
        exact hbundle hartifact
  · constructor
    · intro hsame
      have honly : purgeIsDry payload = true ∨
          ∀ path ∈ purgedFiles service context workspaceId policy root world.files,
            path = (purgeBundle service context workspaceId (purgeIsDry payload) policy root
              world.files).path := by
        by_cases hdry : purgeIsDry payload = true
        · exact Or.inl hdry
        · refine Or.inr fun path hpath ↦ ?_
          by_contra hne
          exact hdeleted (Bool.eq_false_iff.mpr hdry) hpath hne (hsame path)
      refine ⟨honly.imp_right fun hall path hpath ↦ ?_, ?_,
        honly.imp_right fun hall path hpath _ ↦ hall path hpath⟩
      · rw [hall path hpath]
        exact hbundle
      · rw [← hsame, hcontents]
        exact if_pos rfl
    · rintro ⟨hartifacts, hstored, hbundles⟩ path
      rw [hcontents]
      split_ifs with hpath hpurged
      · rw [hpath]
        exact hstored.symm
      · rcases hartifacts with hdry | hnone
        · rw [hdry] at hpurged
          cases hpurged.1
        · rcases hbundles with hdry | hown
          · rw [hdry] at hpurged
            cases hpurged.1
          · exact absurd (hown path hpurged.2 (hnone path hpurged.2)) hpath
      · rfl

theorem keeps_files_apiCreateProposal (service : Service) (context : RequestContext)
    (workspaceId : String) (payload : Fields) :
    Keeps World.files (apiCreateProposal service context workspaceId payload) :=
  (keeps_requireActor _ _).bind fun _ ↦ (keeps_ofExcept _).bind fun _ ↦
    (keeps_files_createProposal _ _ _ _ _).bind fun _ ↦
      (keeps_files_createReviewTask _ _ _ _ _).bind fun _ ↦
        (keeps_files_appendAuditEvent _ _ _ _ _ _).bind fun _ ↦ keeps_pure _

theorem keeps_files_apiDecideReviewTask (service : Service) (context : RequestContext)
    (workspaceId taskId : String) (payload : Fields) :
    Keeps World.files (apiDecideReviewTask service context workspaceId taskId payload) := by
  refine (keeps_requireActor _ _).bind fun actor ↦
    (keeps_files_decideReviewTask _ _ _ _ _ _).bind fun decision ↦ ?_
  cases decision with
  | none => exact keeps_pure _
  | some approval =>
    exact (keeps_files_appendAuditEvent _ _ _ _ _ _).bind fun _ ↦ keeps_pure _

/-- A request denied because its audit event could not be written leaves the tables as they were. It
leaves every artifact as it was exactly when it had none to write or delete, and every file exactly
when its evidence was in place as well. -/
theorem audit_denial_iff {service : Service} {context : RequestContext} {request : ApiRequest}
    {world after : World} {eventType : String}
    (h : serve service context request world = (.error (auditUnavailable eventType), after)) :
    after.db = world.db ∧
    ((∀ path, service.IsArtifact path →
      after.files.content? path = world.files.content? path) ↔
      ArtifactsSettled service context world request) ∧
    ((∀ path, after.files.content? path = world.files.content? path) ↔
      ArtifactsSettled service context world request ∧
      EvidenceSettled service context world request) := by
  obtain ⟨final, hrun, hfiles⟩ := handle_of_serve_error h
  refine ⟨serve_error_db h, ?_⟩
  rw [hfiles]
  cases request with
  | createProposal workspaceId payload =>
    rw [(keeps_files_apiCreateProposal _ _ _ _).of_run hrun]
    exact ⟨iff_of_true (fun _ _ ↦ rfl) trivial, iff_of_true (fun _ ↦ rfl) ⟨trivial, trivial⟩⟩
  | decideReviewTask workspaceId taskId payload =>
    rw [(keeps_files_apiDecideReviewTask _ _ _ _ _).of_run hrun]
    exact ⟨iff_of_true (fun _ _ ↦ rfl) trivial, iff_of_true (fun _ ↦ rfl) ⟨trivial, trivial⟩⟩
  | publishBuild workspaceId buildId payload => exact publish_files_iff hrun
  | rollbackBuild workspaceId buildId =>
    refine ⟨rollback_files_iff hrun (isArtifact_latestPath _ _) (isArtifact_historyPath _ _), ?_⟩
    have hall := rollback_files_iff hrun (P := fun _ ↦ True) trivial trivial
    exact (forall_congr' fun path ↦ (imp_iff_right trivial).symm).trans
      (hall.trans (and_iff_left trivial).symm)
  | executeRetentionPurge workspaceId payload => exact purge_files_iff hrun

/-- A service whose storage root is `/srv`. -/
def localService : Service where
  storageRoot := "/srv"
  retentionPurgeRoot := none
  auditSinkMode := "inline"
  resolvePath _ := ["srv"]
  codec := ⟨fun _ ↦ "00", fun payload ↦ [("encrypted", .bool false), ("payload", .obj payload)]⟩
  newUlid n := toString n
  toFloat value := .ok value
  epochJson time := .int time

/-- A platform administrator's request while the audit sink is down. -/
def sinklessContext : RequestContext where
  actor := some [("actor_id", .str "admin"), ("roles", textList ["platform_admin"])]
  requestId := "r1"
  now := 7
  auditFault _ := some (.auditSink "audit_sink_unavailable")

/-- A workspace whose build `b1` passed its contracts. -/
def passedWorld : World where
  db := Database.empty
  files := ((((FileTree.empty.bindNode ["srv"] .directory).bindNode ["srv", "contracts"]
    .directory).bindNode ["srv", "contracts", "w1"] .directory).bindNode
    ["srv", "contracts", "w1", "b1.json"]
    (.file (.json (.obj [("contracts_passed", .bool true), ("failures", .arr [])])) 1))
  issued := 0

def deniedWorld : World :=
  (serve localService sinklessContext (.publishBuild "w1" "b1" []) passedWorld).2

theorem serve_denied_publication :
    serve localService sinklessContext (.publishBuild "w1" "b1" []) passedWorld =
      (.error (auditUnavailable "build.published"), deniedWorld) := Prod.ext (by rfl) rfl

theorem deniedWorld_latest :
    deniedWorld.files.content? (GoldFiles.latestPath localService.storagePath "w1") ≠
      passedWorld.files.content? (GoldFiles.latestPath localService.storagePath "w1") := by
  decide +kernel

/-- The pointer of a denied publication is the latest one. -/
theorem denied_publication_published :
    ¬∀ (service : Service) (context : RequestContext) (request : ApiRequest) (world after : World)
      (eventType : String),
      serve service context request world = (.error (auditUnavailable eventType), after) →
      ∀ path, service.IsArtifact path →
        after.files.content? path = world.files.content? path := by
  intro h
  exact deniedWorld_latest (h _ _ _ _ _ _ serve_denied_publication _
    (isArtifact_latestPath localService "w1"))

theorem denied_publication_unsettled :
    ¬ArtifactsSettled localService sinklessContext passedWorld (.publishBuild "w1" "b1" []) := by
  intro hsettled
  exact deniedWorld_latest ((audit_denial_iff serve_denied_publication).2.1.mpr hsettled _
    (isArtifact_latestPath localService "w1"))

end SchemaPilot.ControlPlane
