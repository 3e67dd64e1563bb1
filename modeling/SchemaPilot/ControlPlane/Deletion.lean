import SchemaPilot.ControlPlane.SemanticManifest
import Mathlib.Algebra.Group.Int.Defs

/-!
# Deletion requests

`backend/control_plane/deletion.py` with `configure_retention_policy` of
`backend/control_plane/retention.py`, which sets the legal hold. A call is one request of the API:
its session commits when the operation and what the request does after it return, and otherwise
rolls the tables back.
-/

namespace SchemaPilot.ControlPlane

open Library Library.Json SharedDomain

/-- `governance_deletion_requests`. -/
structure GovernanceDeletionRequest where
  deletionRequestId : String
  workspaceId : String
  requesterActorId : String
  status : String
  subjectSelector : Fields
  affectedSnapshots : List String
  affectedIndexes : List String
  legalHoldActive : Bool
  approvalReason : Option String
  evidenceBundleUri : Option String

/-- `governance_deletion_approvals`. -/
structure GovernanceDeletionApproval where
  deletionApprovalId : String
  deletionRequestId : String
  workspaceId : String
  approverActorId : String
  decision : String
  decisionReason : String
deriving DecidableEq

/-- The world of the control plane with the tables of the deletion workflow. -/
structure DeletionWorld where
  base : World
  requests : List GovernanceDeletionRequest
  approvals : List GovernanceDeletionApproval

/-- A computation on the deletion tables and the world beside them. -/
abbrev DeletionHandler (α : Type) := Effect DeletionWorld Exn α

/-- Work on the world beside the deletion tables. -/
def onBase {α : Type} (p : Handler α) : DeletionHandler α :=
  p.within DeletionWorld.base fun base world ↦ { world with base := base }

/-- The settings of the deletion workflow and the code outside it. -/
structure DeletionSettings where
  service : Service
  /-- `(Path(root) / names[0] / names[1] / …).as_posix()`. -/
  posixPath : String → List String → String
  /-- `hmac.new(signing_key, text, hashlib.sha256).hexdigest()` under the configured key. -/
  signature : String → String

structure DeletionRequest where
  workspaceId : String
  subjectSelector : Fields
  legalHoldActive : Bool
  approved : Bool
  affectedSnapshots : List String
  affectedIndexes : List String
  backupReference : Option String

/-- `sorted(texts)`. -/
def sortedTexts (texts : List String) : List String := texts.insertionSort (· ≤ ·)

/-- The `impact_preview` of a workflow request. -/
def DeletionRequest.impactPreview (request : DeletionRequest) : Fields :=
  [("subject_selector", .obj request.subjectSelector),
    ("affected_snapshots", textList (sortedTexts request.affectedSnapshots)),
    ("affected_indexes", textList (sortedTexts request.affectedIndexes))]

def workflowBlocked (request : DeletionRequest) (reason : String) : Fields :=
  [("status", .str "blocked"), ("reason", .str reason), ("evidence_report_path", .null),
    ("impact_preview", .obj request.impactPreview)]

/-- The evidence report of an executed workflow. -/
def deletionEvidence (request : DeletionRequest) (deletionId : String) : Fields :=
  [("deletion_id", .str deletionId), ("workspace_id", .str request.workspaceId),
    ("subject_selector", .obj request.subjectSelector),
    ("impact_preview", .obj request.impactPreview),
    ("approval", .obj [("approved", .bool true), ("mode", .str "explicit_workflow")]),
    ("execution", .obj
      [("status", .str "executed_stub"),
        ("snapshots_updated", textList (sortedTexts request.affectedSnapshots)),
        ("indexes_updated", textList (sortedTexts request.affectedIndexes)),
        ("records_deleted_estimate",
          .int (request.affectedSnapshots.length + request.affectedIndexes.length)),
        ("backup_reference", (request.backupReference.map Json.str).getD .null)])]

/-- `execute_deletion_workflow`. -/
def executeDeletionWorkflow (settings : DeletionSettings) (request : DeletionRequest)
    (outputRoot : String) (now : ℤ) : Handler Fields := do
  if request.legalHoldActive then return workflowBlocked request "legal_hold_active"
  else if !request.approved then return workflowBlocked request "missing_approval"
  else
    let deletionId ← newUlid settings.service
    let reportPath :=
      settings.posixPath outputRoot ["deletions", request.workspaceId, deletionId ++ ".json"]
    let path := settings.service.resolvePath reportPath
    onFiles (Files.makeDirs path.dropLast)
    onFiles (Files.writeJson path (canon (.obj (deletionEvidence request deletionId))) now)
    return [("status", .str "executed"), ("reason", .str "approved"),
      ("evidence_report_path", .str reportPath)]

/-- `_build_deletion_attestation`. -/
def buildDeletionAttestation (settings : DeletionSettings) (workspaceId deletionRequestId : String)
    (reportPayload workflowResult : Fields) (now : ℤ) : Fields :=
  let executionPayload := (asObj? (getD reportPayload "execution" (.obj []))).getD []
  let payload : Fields :=
    [("workspace_id", .str workspaceId), ("deletion_request_id", .str deletionRequestId),
      ("status", .str (getD workflowResult "status" (.str "")).toStr),
      ("reason", .str (getD workflowResult "reason" (.str "")).toStr),
      ("execution_epoch", .int (now.tdiv (10 ^ 9))),
      ("report_summary", .obj
        [("snapshots_updated", getD executionPayload "snapshots_updated" (.arr [])),
          ("indexes_updated", getD executionPayload "indexes_updated" (.arr []))])]
  payload ++ [("signature", .str (settings.signature (dumps (.obj payload)))),
    ("algorithm", .str "HMAC-SHA256"), ("key_id", .str "deletion-attestation-v1")]

/-- `_legal_hold_active`. -/
def legalHoldActive (workspaceId : String) (db : Database) : Bool :=
  (retentionPolicyRow? workspaceId db).any RetentionPolicy.legalHoldActive

/-- `_serialize_deletion_request`. -/
def GovernanceDeletionRequest.toFields (row : GovernanceDeletionRequest) : Fields :=
  [("deletion_request_id", .str row.deletionRequestId), ("workspace_id", .str row.workspaceId),
    ("requester_actor_id", .str row.requesterActorId), ("status", .str row.status),
    ("subject_selector", .obj row.subjectSelector),
    ("affected_snapshots", textList row.affectedSnapshots),
    ("affected_indexes", textList row.affectedIndexes),
    ("legal_hold_active", .bool row.legalHoldActive),
    ("approval_reason", (row.approvalReason.map Json.str).getD .null),
    ("evidence_bundle_uri", (row.evidenceBundleUri.map Json.str).getD .null)]

/-- `session.get(GovernanceDeletionRequest, deletion_request_id)`. -/
def request? (world : DeletionWorld) (deletionRequestId : String) :
    Option GovernanceDeletionRequest :=
  world.requests.find? fun row ↦ row.deletionRequestId = deletionRequestId

/-- The row of a request, unless it is missing or of another workspace. -/
def requestOf? (workspaceId deletionRequestId : String) (world : DeletionWorld) :
    Option GovernanceDeletionRequest :=
  (request? world deletionRequestId).filter fun row ↦ row.workspaceId = workspaceId

/-- The tables with other columns for one request. -/
def DeletionWorld.assign (deletionRequestId : String)
    (update : GovernanceDeletionRequest → GovernanceDeletionRequest) (world : DeletionWorld) :
    DeletionWorld :=
  { world with requests := world.requests.map fun row ↦
      if row.deletionRequestId = deletionRequestId then update row else row }

def setRequest (deletionRequestId : String)
    (update : GovernanceDeletionRequest → GovernanceDeletionRequest) : DeletionHandler Unit :=
  Effect.change (DeletionWorld.assign deletionRequestId update)

/-- `session.add(row)` and `session.flush()` for a new request. -/
def addRequest (row : GovernanceDeletionRequest) : DeletionHandler Unit := do
  let rows ← Effect.ofExcept (insertRow GovernanceDeletionRequest.deletionRequestId
    (← Effect.read).requests row)
  Effect.change fun world ↦ { world with requests := rows }

/-- `session.add(approval)` and `session.flush()`. -/
def addDeletionApproval (row : GovernanceDeletionApproval) : DeletionHandler Unit := do
  let rows ← Effect.ofExcept (insertRow GovernanceDeletionApproval.deletionApprovalId
    (← Effect.read).approvals row)
  Effect.change fun world ↦ { world with approvals := rows }

/-- `submit_deletion_request`. -/
def submitDeletionRequest (settings : DeletionSettings)
    (workspaceId requesterActorId : String) (subjectSelector : Fields)
    (affectedSnapshots affectedIndexes : List String) : DeletionHandler Fields := do
  let hold ← onBase (query (legalHoldActive workspaceId))
  let row : GovernanceDeletionRequest :=
    { deletionRequestId := ← onBase (newUlid settings.service)
      workspaceId := workspaceId
      requesterActorId := requesterActorId
      status := "requested"
      subjectSelector := subjectSelector
      affectedSnapshots := sortedTexts affectedSnapshots
      affectedIndexes := sortedTexts affectedIndexes
      legalHoldActive := hold
      approvalReason := none
      evidenceBundleUri := none }
  addRequest row
  return row.toFields

/-- The columns `approve_deletion_request` assigns. -/
def decidedRequest (hold : Bool) (normalized reason : String) (row : GovernanceDeletionRequest) :
    GovernanceDeletionRequest :=
  if normalized = "approve" ∧ hold = true then
    { row with
      legalHoldActive := true
      status := "blocked"
      approvalReason := some "legal_hold_active" }
  else if normalized = "approve" then
    { row with status := "approved", approvalReason := some reason }
  else if normalized = "reject" then
    { row with status := "rejected", approvalReason := some reason }
  else { row with status := "deferred", approvalReason := some reason }

/-- `approve_deletion_request`. -/
def approveDeletionRequest (settings : DeletionSettings)
    (workspaceId deletionRequestId approverActorId decision reason : String) :
    DeletionHandler (Option Fields) := do
  match requestOf? workspaceId deletionRequestId (← Effect.read) with
  | none => return none
  | some row =>
    let normalized := normalizedDecision decision
    if normalized = "approve" ∧ row.requesterActorId = approverActorId then
      Effect.raise (accessDenied [("reason", .str "requester_cannot_self_approve"),
        ("deletion_request_id", .str deletionRequestId)])
    else
      let hold ← onBase (query (legalHoldActive workspaceId))
      setRequest deletionRequestId (decidedRequest hold normalized reason)
      let approval : GovernanceDeletionApproval :=
        { deletionApprovalId := ← onBase (newUlid settings.service)
          deletionRequestId := row.deletionRequestId
          workspaceId := row.workspaceId
          approverActorId := approverActorId
          decision := normalized
          decisionReason := reason }
      addDeletionApproval approval
      return some ((decidedRequest hold normalized reason row).toFields ++ [("approval", .obj
        [("deletion_approval_id", .str approval.deletionApprovalId),
          ("decision", .str approval.decision),
          ("decision_reason", .str approval.decisionReason),
          ("approver_actor_id", .str approval.approverActorId)])])

def executionBlocked (row : GovernanceDeletionRequest) (reason : String) : Fields :=
  [("deletion_request_id", .str row.deletionRequestId), ("workspace_id", .str row.workspaceId),
    ("status", .str "blocked"), ("reason", .str reason)]

/-- What `execute_deletion_request` stores after the workflow: the URI of the evidence, the path
of the report and the attestation. -/
def storeDeletionEvidence (settings : DeletionSettings) (workspaceId deletionRequestId : String)
    (workflowResult : Fields) (now : ℤ) : Handler (String × String × Fields) := do
  let reportPath := (getD workflowResult "evidence_report_path" (.str "")).toStr
  let reportPayload ←
    if reportPath = "" then pure []
    else do
      let report ← onFiles (Files.readJson (settings.service.resolvePath reportPath))
      pure ((asObj? report).getD [])
  let stored ← onFiles (storeEvidenceBundle settings.service.codec workspaceId
    [("deletion_request_id", .str deletionRequestId), ("workflow_result", .obj workflowResult),
      ("report", .obj reportPayload)]
    settings.service.storagePath "deletion_execution" none now)
  let attestation := buildDeletionAttestation settings workspaceId deletionRequestId reportPayload
    workflowResult now
  let _ ← onFiles (storeEvidenceBundle settings.service.codec workspaceId attestation
    settings.service.storagePath "deletion_attestation" none now)
  return (stored.evidenceBundleUri, reportPath, attestation)

def workflowRequest (workspaceId : String) (row : GovernanceDeletionRequest)
    (backupReference : Option String) : DeletionRequest :=
  { workspaceId := workspaceId
    subjectSelector := row.subjectSelector
    legalHoldActive := false
    approved := true
    affectedSnapshots := row.affectedSnapshots
    affectedIndexes := row.affectedIndexes
    backupReference := backupReference }

/-- `execute_deletion_request` once the request is known to be approved and under no hold. -/
def executeApproved (settings : DeletionSettings) (workspaceId : String)
    (row : GovernanceDeletionRequest) (outputRoot : String) (backupReference : Option String)
    (now : ℤ) : DeletionHandler Fields := do
  let workflowResult ← onBase (executeDeletionWorkflow settings
    (workflowRequest workspaceId row backupReference) outputRoot now)
  if getD workflowResult "status" .null ≠ .str "executed" then
    let reason := (getD workflowResult "reason" (.str "execution_blocked")).toStr
    setRequest row.deletionRequestId fun row ↦
      { row with status := "blocked", approvalReason := some reason }
    return executionBlocked row reason
  else
    let (evidenceBundleUri, reportPath, attestation) ← onBase (storeDeletionEvidence settings
      workspaceId row.deletionRequestId workflowResult now)
    setRequest row.deletionRequestId fun row ↦
      { row with status := "executed", evidenceBundleUri := some evidenceBundleUri }
    return [("deletion_request_id", .str row.deletionRequestId),
      ("workspace_id", .str row.workspaceId), ("status", .str "executed"),
      ("reason", .str "approved"), ("evidence_report_path", .str reportPath),
      ("evidence_bundle_uri", .str evidenceBundleUri), ("attestation", .obj attestation)]

/-- `execute_deletion_request`. -/
def executeDeletionRequest (settings : DeletionSettings)
    (workspaceId deletionRequestId outputRoot : String) (backupReference : Option String)
    (now : ℤ) : DeletionHandler (Option Fields) := do
  match requestOf? workspaceId deletionRequestId (← Effect.read) with
  | none => return none
  | some row =>
    let hold ← onBase (query (legalHoldActive workspaceId))
    setRequest deletionRequestId fun row ↦ { row with legalHoldActive := hold }
    if hold then
      setRequest deletionRequestId fun row ↦
        { row with status := "blocked", approvalReason := some "legal_hold_active" }
      return some (executionBlocked row "legal_hold_active")
    else if row.status ≠ "approved" then
      Effect.raise (accessDenied [("reason", .str "deletion_not_approved"),
        ("deletion_request_id", .str deletionRequestId), ("status", .str row.status)])
    else
      return some (← executeApproved settings workspaceId row outputRoot backupReference now)

/-- `_serialize_retention_policy`. -/
def RetentionPolicy.toFields (policy : RetentionPolicy) : Fields :=
  [("retention_policy_id", .str policy.retentionPolicyId),
    ("workspace_id", .str policy.workspaceId), ("retention_days", .int policy.retentionDays),
    ("enabled", .bool policy.enabled), ("purge_enabled", .bool policy.purgeEnabled),
    ("legal_hold_active", .bool policy.legalHoldActive), ("created_by", .str policy.createdBy),
    ("status", .str policy.status)]

def Database.addRetentionPolicy (row : RetentionPolicy) (db : Database) : Except Exn Database :=
  (insertRow RetentionPolicy.retentionPolicyId db.retentionPolicies row).map fun rows ↦
    { db with retentionPolicies := rows }

def Database.setRetentionPolicy (policy : RetentionPolicy) (db : Database) : Database :=
  { db with retentionPolicies := db.retentionPolicies.map fun row ↦
      if row.retentionPolicyId = policy.retentionPolicyId then policy else row }

/-- `configure_retention_policy`. -/
def configureRetentionPolicy (service : Service) (workspaceId actorId : String)
    (retentionDays : ℤ) (enabled purgeEnabled legalHoldActive : Bool) : Handler Fields := do
  if (← query Database.workspaces).contains workspaceId = false then
    Effect.raise (.notFound "Workspace not found." [("workspace_id", .str workspaceId)])
  else if enabled = true ∧ retentionDays ≤ 0 then
    Effect.raise (accessDenied [("reason", .str "invalid_retention_days"),
      ("retention_days", .int retentionDays)])
  else
    match ← query (retentionPolicyRow? workspaceId) with
    | none =>
      let policy : RetentionPolicy :=
        { retentionPolicyId := ← newUlid service
          workspaceId := workspaceId
          retentionDays := retentionDays
          enabled := enabled
          purgeEnabled := purgeEnabled
          legalHoldActive := legalHoldActive
          createdBy := actorId
          status := "active" }
      save (Database.addRetentionPolicy policy)
      return policy.toFields
    | some found =>
      let policy : RetentionPolicy :=
        { found with
          retentionDays := retentionDays
          enabled := enabled
          purgeEnabled := purgeEnabled
          legalHoldActive := legalHoldActive
          createdBy := actorId
          status := "active" }
      onTables (Effect.change (Database.setRetentionPolicy policy))
      return policy.toFields

/-- The operations of the deletion workflow and of its legal hold. -/
inductive DeletionOperation where
  | submit (workspaceId requesterActorId : String) (subjectSelector : Fields)
      (affectedSnapshots affectedIndexes : List String)
  | decide (workspaceId deletionRequestId approverActorId decision reason : String)
  | execute (workspaceId deletionRequestId outputRoot : String) (backupReference : Option String)
  | configure (workspaceId actorId : String) (retentionDays : ℤ)
      (enabled purgeEnabled legalHoldActive : Bool)

/-- One call: the operation, the time, and what the rest of its request raises. -/
structure DeletionCall where
  operation : DeletionOperation
  now : ℤ
  requestFault : Option Exn

/-- The operation of a call, with the row or mapping it answers. -/
def DeletionOperation.perform (settings : DeletionSettings) (now : ℤ) :
    DeletionOperation → DeletionHandler (Option Fields)
  | .submit workspaceId requesterActorId subjectSelector affectedSnapshots affectedIndexes =>
    some <$> submitDeletionRequest settings workspaceId requesterActorId subjectSelector
      affectedSnapshots affectedIndexes
  | .decide workspaceId deletionRequestId approverActorId decision reason =>
    approveDeletionRequest settings workspaceId deletionRequestId approverActorId decision reason
  | .execute workspaceId deletionRequestId outputRoot backupReference =>
    executeDeletionRequest settings workspaceId deletionRequestId outputRoot backupReference now
  | .configure workspaceId actorId retentionDays enabled purgeEnabled legalHoldActive =>
    some <$> onBase (configureRetentionPolicy settings.service workspaceId actorId retentionDays
      enabled purgeEnabled legalHoldActive)

/-- The state after a call in its session: an exception puts the tables back. -/
def applyCall (settings : DeletionSettings) (world : DeletionWorld) (call : DeletionCall) :
    DeletionWorld :=
  match call.operation.perform settings call.now world, call.requestFault with
  | (.ok _, after), none => after
  | (_, after), _ =>
    { after with
      base := { after.base with db := world.base.db }
      requests := world.requests
      approvals := world.approvals }

end SchemaPilot.ControlPlane
