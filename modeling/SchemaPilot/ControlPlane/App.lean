import SchemaPilot.ControlPlane.Review
import SchemaPilot.SharedDomain.GoldPointerFiles
import SchemaPilot.SharedDomain.Purge
import Mathlib.Data.List.MinMax

/-!
# Publication, rollback, review and purge requests

The handlers of `backend/control_plane/app.py` for proposals, review decisions, the gold pointer and
the retention purge, with `execute_retention_purge` of `backend/control_plane/retention.py`. `serve`
runs one request in its session.
-/

namespace SchemaPilot.ControlPlane

open Library Library.Json SharedDomain

/-- What a handler answers: a body, or `not_found_response`. -/
inductive ApiResponse where
  | body (fields : Fields)
  | notFound (message : String) (details : Fields)

/-- The float `0.5`. -/
def oneHalf : Json := .float ⟨"0.5", by decide⟩

/-- The float `1.0`. -/
def floatOne : Json := .float ⟨"1.0", by decide⟩

/-- `float(confidence_raw) if isinstance(confidence_raw, (int, float, str)) else 0.5`. -/
def proposalConfidence (service : Service) : Json → Except Exn Json
  | .null => .ok oneHalf
  | .arr _ => .ok oneHalf
  | .obj _ => .ok oneHalf
  | raw => service.toFloat raw

/-- `api_create_proposal`. -/
def apiCreateProposal (service : Service) (context : RequestContext) (workspaceId : String)
    (payload : Fields) : Handler ApiResponse := do
  let actor ← requireActor context stewardOrAdminRoles
  let confidence ← Effect.ofExcept
    (proposalConfidence service (getD payload "confidence" oneHalf))
  let proposal ← createProposal service workspaceId
    (getD payload "proposal_type" (.str "schema_proposal")).toStr
    (getD payload "evidence_bundle_uri" (.str "evidence://stub")).toStr confidence
  let task ← createReviewTask service workspaceId proposal.proposalId
    (getD payload "priority" (.str "quality_critical")).toStr
    (truthy (getD payload "blocking" (.bool false)))
  let result : Fields := [("proposal", .obj proposal.toFields), ("task", .obj task.toFields)]
  let _ ← appendAuditEvent service context (some workspaceId) (actorId actor) "proposal.created"
    result
  return .body result

/-- `api_decide_review_task`. -/
def apiDecideReviewTask (service : Service) (context : RequestContext)
    (workspaceId taskId : String) (payload : Fields) : Handler ApiResponse := do
  let actor ← requireActor context stewardOrAdminRoles
  match ← decideReviewTask service workspaceId taskId (actorId actor)
      (getD payload "decision" (.str "defer")).toStr
      (getD payload "decision_reason" (.str "")).toStr with
  | none =>
    return .notFound "Review task not found."
      [("workspace_id", .str workspaceId), ("task_id", .str taskId)]
  | some decision =>
    let _ ← appendAuditEvent service context (some workspaceId) (actorId actor) "review.decision"
      decision.toFields
    return .body decision.toFields

def contractFailurePayload (workspaceId buildId : String) (failures : List Fields) : Fields :=
  [("workspace_id", .str workspaceId), ("build_id", .str buildId),
    ("failures", .arr (failures.map Json.obj))]

def contractFailureProposal? (workspaceId evidenceBundleUri : String) (db : Database) :
    Option ReviewProposal :=
  db.proposals.find? fun row ↦ row.workspaceId = workspaceId ∧
    row.proposalType = "contract_failure_proposal" ∧ row.evidenceBundleUri = evidenceBundleUri

def contractFailureTask? (workspaceId proposalId : String) (db : Database) : Option ReviewTask :=
  db.tasks.find? fun row ↦ row.workspaceId = workspaceId ∧ row.subjectRef = proposalId ∧
    row.priority = "quality_critical" ∧ row.unresolved

/-- The row that was found, else a new one. -/
def foundOr {α : Type} (create : Handler α) : Option α → Handler α
  | some row => pure row
  | none => create

/-- `ensure_contract_failure_review_task`. -/
def ensureContractFailureReviewTask (service : Service) (context : RequestContext)
    (workspaceId buildId : String) (failures : List Fields) : Handler Fields := do
  let stored ← onFiles (storeEvidenceBundle service.codec workspaceId
    (contractFailurePayload workspaceId buildId failures) service.storagePath "contract_failure"
    none context.now)
  let found ← query (contractFailureProposal? workspaceId stored.evidenceBundleUri)
  let proposal ← foundOr (createProposal service workspaceId "contract_failure_proposal"
    stored.evidenceBundleUri floatOne) found
  let existing ← query (contractFailureTask? workspaceId proposal.proposalId)
  let task ← foundOr (createReviewTask service workspaceId proposal.proposalId "quality_critical"
    true) existing
  return [("proposal_id", .str proposal.proposalId), ("task_id", .str task.taskId)]

/-- `contracts_passed` and `contract_failures`. -/
def contractOutcome : Option BuildContractReport → Bool × List Fields
  | some report => (report.contractsPassed, report.failures)
  | none => (false, [[("reason", .str "contract_report_missing")]])

def pointerField (pointer : Option GoldFiles.Entry) : Json :=
  (pointer.map GoldFiles.pointerJson).getD .null

/-- What `api_publish_build` does under an answer of the gate: the new pointer, if any, and the
task of a contract failure. -/
def applyPublishGate (service : Service) (context : RequestContext) (workspaceId buildId : String)
    (payload : Fields) (gate : PublishGate) (failures : List Fields) :
    Handler (Option GoldFiles.Entry × Option Fields) := do
  if gate.allowed then
    let pointer ← onFiles (GoldFiles.publishGoldPointer service.storagePath workspaceId buildId
      (getD payload "snapshot_id" (.str buildId)).toStr
      (getD payload "model_name" (.str "default_model")).toStr context.now)
    return (some (some pointer), none)
  else
    let latest ← onFiles (GoldFiles.loadLatestGoldPointer service.storagePath workspaceId)
    if gate.reason = "contract_failure" then
      let task ← ensureContractFailureReviewTask service context workspaceId buildId failures
      return (latest, some task)
    else return (latest, none)

/-- `api_publish_build`. -/
def apiPublishBuild (service : Service) (context : RequestContext) (workspaceId buildId : String)
    (payload : Fields) : Handler ApiResponse := do
  let actor ← requireActor context stewardOrAdminRoles
  let report ← onFiles (loadBuildContractReport workspaceId buildId service.storagePath)
  let outcome := contractOutcome report
  let unresolved ← query (unresolvedBlockingTaskCount workspaceId)
  let gate := evaluateGoldPublishGate outcome.1 unresolved
  let before ← onFiles (GoldFiles.loadLatestGoldPointer service.storagePath workspaceId)
  let applied ← applyPublishGate service context workspaceId buildId payload gate outcome.2
  let result : Fields :=
    [("workspace_id", .str workspaceId), ("build_id", .str buildId),
      ("status", .str (if gate.allowed then "published" else "blocked")),
      ("gate_reason", .str gate.reason), ("contracts_report_present", .bool report.isSome),
      ("contracts_passed", .bool outcome.1), ("latest_pointer_before", pointerField before),
      ("latest_pointer_after", pointerField applied.1)] ++
    (applied.2.map fun task ↦ ("contract_failure_task", Json.obj task)).toList
  let _ ← appendAuditEvent service context (some workspaceId) (actorId actor) "build.published"
    result
  return .body result

/-- `api_rollback_build`. -/
def apiRollbackBuild (service : Service) (context : RequestContext) (workspaceId buildId : String) :
    Handler ApiResponse := do
  let actor ← requireActor context platformAdminRoles
  let rolledBack ← ((do
      return .ok (← onFiles (GoldFiles.rollbackGoldPointer service.storagePath workspaceId
        (some buildId) context.now))) :
      Handler (Except String (GoldFiles.Entry × GoldFiles.Entry))).tryExcept fun exception ↦
    if exception.isValueError then return .error exception.message else Effect.raise exception
  match rolledBack with
  | .error reason =>
    return .notFound "Rollback target not found."
      [("workspace_id", .str workspaceId), ("build_id", .str buildId), ("reason", .str reason)]
  | .ok (current, target) =>
    let result : Fields :=
      [("workspace_id", .str workspaceId), ("build_id", .str buildId),
        ("status", .str "rolled_back"),
        ("rollback", .obj [("current", GoldFiles.pointerJson current),
          ("rolled_back_to", GoldFiles.pointerJson target)])]
    let _ ← appendAuditEvent service context (some workspaceId) (actorId actor) "build.rollback"
      result
    return .body result

/-- `_get_retention_policy_row`. -/
def retentionPolicyRow? (workspaceId : String) (db : Database) : Option RetentionPolicy :=
  (db.retentionPolicies.filter fun row ↦ row.workspaceId = workspaceId).argmax
    RetentionPolicy.retentionPolicyId

/-- The checks of `execute_retention_purge`: the policy and the root to purge, or the reason of the
denial. -/
def purgePermission (policy : Option RetentionPolicy) (purgeRoot : Option String) :
    Except String (RetentionPolicy × String) :=
  match policy with
  | none => .error "retention_disabled"
  | some policy =>
    if !policy.enabled then .error "retention_disabled"
    else if !policy.purgeEnabled then .error "purge_not_enabled"
    else if policy.legalHoldActive then .error "legal_hold_active"
    else
      match purgeRoot with
      | none => .error "missing_purge_path_config"
      | some root =>
        if Text.strip root = "" then .error "missing_purge_path_config" else .ok (policy, root)

def purgePayload (service : Service) (workspaceId actorId : String) (policy : RetentionPolicy)
    (execution : PurgeExecution) : Fields :=
  [("workspace_id", .str workspaceId), ("actor_id", .str actorId),
    ("retention_policy_id", .str policy.retentionPolicyId),
    ("retention_days", .int policy.retentionDays), ("dry_run", .bool execution.dryRun),
    ("scanned_count", .int execution.scannedCount), ("deleted_count", .int execution.deletedCount),
    ("deleted_paths", textList execution.deletedPaths),
    ("cutoff_epoch", service.epochJson execution.cutoffEpoch)]

/-- A denial with the reason a pure check gives. -/
def deniedFor {α : Type} : Except String α → Except Exn α
  | .ok value => .ok value
  | .error reason => .error (accessDenied [("reason", .str reason)])

/-- `execute_retention_purge`. -/
def executeRetentionPurge (service : Service) (context : RequestContext)
    (workspaceId actorId : String) (dryRun : Bool) : Handler Fields := do
  let row ← query (retentionPolicyRow? workspaceId)
  let permission ← Effect.ofExcept (deniedFor (purgePermission row service.retentionPurgeRoot))
  let execution ← (onFiles (purgeWorkspaceArtifacts workspaceId
      (service.resolvePath permission.2) permission.1.retentionDays dryRun context.now)).tryExcept
    fun exception ↦
      if exception.isValueError then
        Effect.raise (accessDenied [("reason", .str exception.message)])
      else Effect.raise exception
  let stored ← onFiles (storeEvidenceBundle service.codec workspaceId
    (purgePayload service workspaceId actorId permission.1 execution) service.storagePath
    "retention_purge" none context.now)
  let run : PurgeRun :=
    { purgeRunId := ← newUlid service
      workspaceId := workspaceId
      retentionPolicyId := permission.1.retentionPolicyId
      dryRun := dryRun
      status := "succeeded"
      deletedCount := execution.deletedCount
      deletedPaths := execution.deletedPaths
      evidenceBundleUri := stored.evidenceBundleUri }
  save (Database.addPurgeRun run)
  return [("purge_run_id", .str run.purgeRunId), ("workspace_id", .str workspaceId),
    ("status", .str run.status), ("dry_run", .bool dryRun),
    ("deleted_count", .int execution.deletedCount),
    ("deleted_paths", textList execution.deletedPaths),
    ("evidence_bundle_uri", .str stored.evidenceBundleUri),
    ("retention_policy_id", .str permission.1.retentionPolicyId)]

/-- `api_execute_retention_purge`. -/
def apiExecuteRetentionPurge (service : Service) (context : RequestContext) (workspaceId : String)
    (payload : Fields) : Handler ApiResponse := do
  let actor ← requireActor context platformAdminRoles
  let result ← executeRetentionPurge service context workspaceId (actorId actor)
    (truthy (getD payload "dry_run" (.bool true)))
  let _ ← appendAuditEvent service context (some workspaceId) (actorId actor)
    "retention.purge_executed" result
  return .body result

/-- The requests of this part of the API. -/
inductive ApiRequest where
  | createProposal (workspaceId : String) (payload : Fields)
  | decideReviewTask (workspaceId taskId : String) (payload : Fields)
  | publishBuild (workspaceId buildId : String) (payload : Fields)
  | rollbackBuild (workspaceId buildId : String)
  | executeRetentionPurge (workspaceId : String) (payload : Fields)

def handle (service : Service) (context : RequestContext) : ApiRequest → Handler ApiResponse
  | .createProposal workspaceId payload => apiCreateProposal service context workspaceId payload
  | .decideReviewTask workspaceId taskId payload =>
    apiDecideReviewTask service context workspaceId taskId payload
  | .publishBuild workspaceId buildId payload =>
    apiPublishBuild service context workspaceId buildId payload
  | .rollbackBuild workspaceId buildId => apiRollbackBuild service context workspaceId buildId
  | .executeRetentionPurge workspaceId payload =>
    apiExecuteRetentionPurge service context workspaceId payload

def serve (service : Service) (context : RequestContext) (request : ApiRequest) :
    Handler ApiResponse := inSession (handle service context request)

end SchemaPilot.ControlPlane
