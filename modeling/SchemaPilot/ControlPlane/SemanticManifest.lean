import SchemaPilot.ControlPlane.App
import SchemaPilot.SharedDomain.Semantic

/-!
# The lifecycle of a semantic manifest

`backend/control_plane/semantic_manifest_service.py`: a change is requested, decided in the review
queue, made effective and rolled back. A staged request and the effective state are two kinds of
policy row, whose definitions are written with `json.dumps(definition, sort_keys=True)`.
-/

namespace SchemaPilot.ControlPlane

open Library Library.Json SharedDomain

/-- `ACTIVE_POLICY_TYPE`. -/
def activePolicyType : String := "semantic_manifest"

/-- `CHANGE_REQUEST_POLICY_TYPE`. -/
def changeRequestPolicyType : String := "semantic_manifest_change_request"

/-- What `json.dumps(definition, sort_keys=True)` reads as. -/
def storedDefinition (definition : Fields) : Option Json := some (canon (.obj definition))

def activePolicyRow? (workspaceId policyType : String) (db : Database) : Option GovernancePolicy :=
  db.policies.find? fun row ↦
    row.workspaceId = workspaceId ∧ row.policyType = policyType ∧ row.status = "active"

/-- `_get_active_semantic_manifest_row`. -/
def activeSemanticManifestRow? (workspaceId : String) (db : Database) : Option GovernancePolicy :=
  activePolicyRow? workspaceId activePolicyType db

/-- `_get_change_request_row`. -/
def changeRequestRow? (workspaceId changeRequestId : String) (db : Database) :
    Option GovernancePolicy :=
  (db.policies.find? fun row ↦ row.policyId = changeRequestId).filter fun row ↦
    row.workspaceId = workspaceId ∧ row.policyType = changeRequestPolicyType

/-- `_load_definition`. -/
def loadDefinition (definitionRef : Option Json) : Fields :=
  (definitionRef.bind asObj?).getD []

/-- `_load_definition(row.definition_ref) if row is not None else {}`. -/
def loadRow (row : Option GovernancePolicy) : Fields :=
  (row.map fun row ↦ loadDefinition row.definitionRef).getD []

/-- The definition and status of the policy of a primary key are replaced. -/
def GovernancePolicy.rewritten (policyId : String) (definition : Fields) (status : String)
    (row : GovernancePolicy) : GovernancePolicy :=
  if row.policyId = policyId then
    { row with definitionRef := storedDefinition definition, status := status }
  else row

def Database.setPolicy (policyId : String) (definition : Fields) (status : String)
    (db : Database) : Database :=
  { db with policies := db.policies.map (GovernancePolicy.rewritten policyId definition status) }

/-- `_coerce_int`. -/
def coerceInt (value : Option Json) (default : ℤ) : Except Exn ℤ :=
  match value with
  | some (.str text) => .ok ((intOfString? (Text.strip text)).getD default)
  | some .null => .ok default
  | some (.arr _) => .ok default
  | some (.obj _) => .ok default
  | some number => toInt number
  | none => .ok default

/-- `_validated_manifest`. -/
def validatedManifest (manifest : Fields) (expectedWorkspaceId : String) :
    Except Exn SemanticManifest :=
  match validateSemanticManifest manifest (some expectedWorkspaceId) with
  | .ok normalized => .ok normalized
  | .error message => .error (accessDenied
      [("reason", .str "invalid_semantic_manifest"), ("error", .str message)])

/-- `semantic_manifest_checksum`. -/
def Service.manifestChecksum (service : Service) (manifest : SemanticManifest) : String :=
  semanticManifestChecksum service.codec.sha256Hex manifest

/-- What `get_effective_semantic_manifest` returns. -/
structure EffectiveSemanticManifest where
  workspaceId : String
  manifest : SemanticManifest
  manifestChecksum : String
  version : ℤ
  previousManifestChecksum : String

def EffectiveSemanticManifest.toFields (effective : EffectiveSemanticManifest) : Fields :=
  [("workspace_id", .str effective.workspaceId), ("manifest", .obj effective.manifest.toFields),
    ("manifest_checksum", .str effective.manifestChecksum), ("version", .int effective.version),
    ("previous_manifest_checksum", .str effective.previousManifestChecksum)]

/-- The effective state a policy row holds. -/
def effectiveState (service : Service) (workspaceId : String) (state : Fields) :
    Except Exn (Option EffectiveSemanticManifest) :=
  match (get? state "manifest").bind asObj? with
  | none => .ok none
  | some manifestRaw => do
    let manifest ← validatedManifest manifestRaw workspaceId
    let checksum := strippedText state "manifest_checksum" ""
    let version ← coerceInt (get? state "version") 1
    .ok (some
      { workspaceId := workspaceId
        manifest := manifest
        manifestChecksum := if checksum = "" then service.manifestChecksum manifest else checksum
        version := version
        previousManifestChecksum := (getD state "previous_manifest_checksum" (.str "")).toStr })

/-- `get_effective_semantic_manifest` on the active row. -/
def effectiveSemanticManifest (service : Service) (workspaceId : String)
    (activeRow : Option GovernancePolicy) : Except Exn (Option EffectiveSemanticManifest) :=
  match activeRow with
  | none => .ok none
  | some row => effectiveState service workspaceId (loadDefinition row.definitionRef)

/-- `get_effective_semantic_manifest`. -/
def getEffectiveSemanticManifest (service : Service) (workspaceId : String) :
    Handler (Option EffectiveSemanticManifest) := do
  let activeRow ← query (activeSemanticManifestRow? workspaceId)
  Effect.ofExcept (effectiveSemanticManifest service workspaceId activeRow)

/-- `_require_workspace`. -/
def requireWorkspace (workspaceId : String) : Handler Unit := do
  let workspaces ← query Database.workspaces
  Effect.onlyIf (workspaceId ∉ workspaces)
    (Effect.raise (.notFound "Workspace not found." [("workspace_id", .str workspaceId)]))

def manifestChangePayload (service : Service) (workspaceId : String) (manifest : SemanticManifest)
    (current : Option EffectiveSemanticManifest) : Fields :=
  [("workspace_id", .str workspaceId), ("requested_manifest", .obj manifest.toFields),
    ("requested_manifest_checksum", .str (service.manifestChecksum manifest)),
    ("current_manifest", (current.map fun effective ↦ .obj effective.toFields).getD .null)]

def changeRequestDefinition (service : Service) (workspaceId requesterActorId changeRequestId
    proposalId reviewTaskId : String) (manifest : SemanticManifest) : Fields :=
  [("change_request_id", .str changeRequestId), ("workspace_id", .str workspaceId),
    ("manifest_checksum", .str (service.manifestChecksum manifest)),
    ("requester_actor_id", .str requesterActorId), ("proposal_id", .str proposalId),
    ("review_task_id", .str reviewTaskId), ("semantic_manifest", .obj manifest.toFields),
    ("status", .str "staged")]

/-- The denial of a change to the manifest that is active already. -/
def refuseActive (service : Service) (manifest : SemanticManifest)
    (current : Option EffectiveSemanticManifest) : Handler Unit :=
  Effect.onlyIf
    (∃ effective ∈ current, effective.manifestChecksum = service.manifestChecksum manifest)
    (Effect.raise (accessDenied [("reason", .str "semantic_manifest_already_active")]))

/-- `request_semantic_manifest_change`, at the time `now`. -/
def requestSemanticManifestChange (service : Service) (now : ℤ)
    (workspaceId requesterActorId : String) (semanticManifest : Fields) : Handler Fields := do
  requireWorkspace workspaceId
  let manifest ← Effect.ofExcept (validatedManifest semanticManifest workspaceId)
  let current ← getEffectiveSemanticManifest service workspaceId
  refuseActive service manifest current
  let stored ← onFiles (storeEvidenceBundle service.codec workspaceId
    (manifestChangePayload service workspaceId manifest current) service.storagePath
    "semantic_manifest_change" none now)
  let proposal ← createProposal service workspaceId "semantic_manifest_change_proposal"
    stored.evidenceBundleUri floatOne
  let reviewTask ← createReviewTask service workspaceId proposal.proposalId "quality_critical" true
  let changeRequestId ← newUlid service
  let changeRequest := changeRequestDefinition service workspaceId requesterActorId changeRequestId
    proposal.proposalId reviewTask.taskId manifest
  save (Database.addPolicy
    { policyId := changeRequestId
      workspaceId := workspaceId
      policyType := changeRequestPolicyType
      definitionRef := storedDefinition changeRequest
      status := "staged" })
  return changeRequest

def normalizedDecision (decision : String) : String :=
  let word := Text.lower (Text.strip decision)
  if word ∈ ["approve", "reject", "defer"] then word else "defer"

def decidedDefinition (staged : Fields) (status approverActorId reason : String) : Fields :=
  set (set (set staged "status" (.str status)) "approved_by" (.str approverActorId))
    "decision_reason" (.str reason)

/-- The state an effective change writes over the state before it. -/
def nextState (service : Service) (workspaceId : String) (manifest : SemanticManifest)
    (version : ℤ) (activeState : Fields) : Fields :=
  [("workspace_id", .str workspaceId), ("manifest", .obj manifest.toFields),
    ("manifest_checksum", .str (service.manifestChecksum manifest)), ("version", .int version),
    ("previous_manifest", getD activeState "manifest" .null),
    ("previous_manifest_checksum", getD activeState "manifest_checksum" .null)]

/-- The state becomes the active row's, a row being added where there is none. -/
def writeActiveState (service : Service) (workspaceId : String) (state : Fields) :
    Option GovernancePolicy → Handler Unit
  | none => do
    let policyId ← newUlid service
    save (Database.addPolicy
      { policyId := policyId
        workspaceId := workspaceId
        policyType := activePolicyType
        definitionRef := storedDefinition state
        status := "active" })
  | some row => onTables (Effect.change (Database.setPolicy row.policyId state "active"))

def requestedManifest (workspaceId : String) (staged : Fields) : Except Exn SemanticManifest :=
  match getD staged "semantic_manifest" (.obj []) with
  | .obj requested => validatedManifest requested workspaceId
  | _ => .error (accessDenied [("reason", .str "invalid_semantic_manifest_request")])

/-- `decide_semantic_manifest_change` from an approval on. -/
def applySemanticManifestChange (service : Service) (workspaceId changeRequestId approverActorId
    reason : String) (staged : Fields) : Handler Fields := do
  let manifest ← Effect.ofExcept (requestedManifest workspaceId staged)
  let activeRow ← query (activeSemanticManifestRow? workspaceId)
  let version ← Effect.ofExcept (coerceInt (get? (loadRow activeRow) "version") 0)
  let state := nextState service workspaceId manifest (version + 1) (loadRow activeRow)
  writeActiveState service workspaceId state activeRow
  onTables (Effect.change (Database.setPolicy changeRequestId
    (decidedDefinition staged "applied" approverActorId reason) "applied"))
  return [("change_request_id", .str changeRequestId), ("status", .str "applied"),
    ("effective_semantic_manifest", .obj state)]

/-- The status of a change request that is not approved. -/
def declinedStatus (word : String) : String := if word = "reject" then "rejected" else "deferred"

/-- `decide_semantic_manifest_change`. -/
def decideSemanticManifestChange (service : Service) (workspaceId changeRequestId approverActorId
    decision reason : String) : Handler (Option Fields) := do
  match ← query (changeRequestRow? workspaceId changeRequestId) with
  | none => return none
  | some stagedRow =>
    let staged := loadDefinition stagedRow.definitionRef
    let reviewTaskId := (getD staged "review_task_id" (.str "")).toStr
    let word := normalizedDecision decision
    Effect.onlyIf (reviewTaskId ≠ "") (do
      let _ ← decideReviewTask service workspaceId reviewTaskId approverActorId word reason)
    if word ≠ "approve" then
      let declined := decidedDefinition staged (declinedStatus word) approverActorId reason
      onTables (Effect.change
        (Database.setPolicy stagedRow.policyId declined (declinedStatus word)))
      return some declined
    else
      return some (← applySemanticManifestChange service workspaceId changeRequestId
        approverActorId reason staged)

/-- `rollback_semantic_manifest`. -/
def rollbackSemanticManifest (service : Service) (workspaceId : String) : Handler Fields := do
  match ← query (activeSemanticManifestRow? workspaceId) with
  | none =>
    Effect.raise (accessDenied [("reason", .str "semantic_manifest_not_configured")])
  | some activeRow =>
    let active := loadDefinition activeRow.definitionRef
    match (get? active "previous_manifest").bind asObj? with
    | none =>
      Effect.raise (accessDenied [("reason", .str "semantic_manifest_rollback_unavailable")])
    | some previousManifest =>
      let manifest ← Effect.ofExcept (validatedManifest previousManifest workspaceId)
      let version ← Effect.ofExcept (coerceInt (get? active "version") 0)
      let state := nextState service workspaceId manifest (version + 1) active
      onTables (Effect.change (Database.setPolicy activeRow.policyId state activeRow.status))
      return [("status", .str "rolled_back"), ("effective_semantic_manifest", .obj state)]

end SchemaPilot.ControlPlane
