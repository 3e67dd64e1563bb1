import SchemaPilot.ControlPlane.SemanticManifest

/-!
# The lifecycle of a policy pack

`backend/control_plane/policy_pack_service.py` with the invariant checks of
`backend/shared_domain/policy_pack_tests.py`: a change to one of the bundled packs is requested,
decided in the review queue, made effective at once or by way of a canary, and rolled back. Requests,
the canary and the effective state are three kinds of policy row. The bundled packs are a parameter,
what `load_policy_packs` returns.
-/

namespace SchemaPilot.ControlPlane

open Library Library.Json SharedDomain

/-- `_load_policy_pack`. -/
def loadPolicyPack (packs : List Fields) (packId : String) : Except Exn Fields :=
  match packs.find? fun pack ↦ (getD pack "id" (.str "")).toStr = packId with
  | some pack => .ok pack
  | none => .error (.notFound "Policy pack not found." [("pack_id", .str packId)])

/-- `_pack_checksum`. -/
def Service.packChecksum (service : Service) (pack : Fields) : String :=
  service.codec.sha256Hex (dumps (.obj pack))

def templateRoleFailures (actorType : String) : Json → List String
  | .arr (role :: roles) =>
    if actorType = "ai" ∧ "ai_agent" ∉ (role :: roles).map toStr then ["template_ai_role_missing"]
    else []
  | _ => ["template_roles_missing"]

/-- `evaluate_policy_pack_invariants`. -/
def evaluatePolicyPackInvariants (pack : Fields) : List String :=
  let idFailures := if strippedText pack "id" "" = "" then ["pack_id_missing"] else []
  match getD pack "template_actor" (.obj []) with
  | .obj templateActor =>
    let actorType := Text.lower (strippedText templateActor "actor_type" "")
    idFailures ++
      (if actorType ∉ ["human", "ai"] then ["template_actor_type_invalid"] else []) ++
      templateRoleFailures actorType (getD templateActor "roles" (.arr [])) ++
      (match getD templateActor "attributes" (.obj []) with
        | .obj _ => []
        | _ => ["template_attributes_invalid"])
  | _ => idFailures ++ ["template_actor_missing"]

def packPolicyType : String := "policy_pack"

def packRequestPolicyType : String := "policy_pack_change_request"

def packCanaryPolicyType : String := "policy_pack_canary"

/-- `_get_active_policy_pack_row`. -/
def activePolicyPackRow? (workspaceId : String) (db : Database) : Option GovernancePolicy :=
  activePolicyRow? workspaceId packPolicyType db

def activeCanaryRow? (workspaceId : String) (db : Database) : Option GovernancePolicy :=
  activePolicyRow? workspaceId packCanaryPolicyType db

/-- `_get_change_request_row`. -/
def packRequestRow? (workspaceId changeRequestId : String) (db : Database) :
    Option GovernancePolicy :=
  (db.policies.find? fun row ↦ row.policyId = changeRequestId).filter fun row ↦
    row.workspaceId = workspaceId ∧ row.policyType = packRequestPolicyType

/-- `str(definition.get(key, ""))`. -/
def fieldText (definition : Fields) (key : String) : String := (getD definition key (.str "")).toStr

/-- What `get_effective_policy_pack` returns, and the state a change writes. -/
structure EffectivePolicyPack where
  workspaceId : String
  packId : String
  packChecksum : String
  version : ℤ
  previousPackId : String
  previousPackChecksum : String
deriving DecidableEq

def EffectivePolicyPack.toFields (effective : EffectivePolicyPack) : Fields :=
  [("workspace_id", .str effective.workspaceId), ("pack_id", .str effective.packId),
    ("pack_checksum", .str effective.packChecksum), ("version", .int effective.version),
    ("previous_pack_id", .str effective.previousPackId),
    ("previous_pack_checksum", .str effective.previousPackChecksum)]

/-- `get_effective_policy_pack` on the active row. -/
def effectivePolicyPack (workspaceId : String) :
    Option GovernancePolicy → Except Exn (Option EffectivePolicyPack)
  | none => .ok none
  | some row => do
    let definition := loadDefinition row.definitionRef
    let version ← coerceInt (get? definition "version") 0
    .ok (some
      { workspaceId := workspaceId
        packId := fieldText definition "pack_id"
        packChecksum := fieldText definition "pack_checksum"
        version := version
        previousPackId := fieldText definition "previous_pack_id"
        previousPackChecksum := fieldText definition "previous_pack_checksum" })

/-- `get_effective_policy_pack`. -/
def getEffectivePolicyPack (workspaceId : String) : Handler (Option EffectivePolicyPack) := do
  let activeRow ← query (activePolicyPackRow? workspaceId)
  Effect.ofExcept (effectivePolicyPack workspaceId activeRow)

/-- The state becomes the active row's, a row being added where there is none. -/
def writeEffectivePack (service : Service) (state : EffectivePolicyPack) :
    Option GovernancePolicy → Handler Unit
  | none => do
    let policyId ← newUlid service
    save (Database.addPolicy
      { policyId := policyId
        workspaceId := state.workspaceId
        policyType := packPolicyType
        definitionRef := storedDefinition state.toFields
        status := "active" })
  | some row => onTables (Effect.change (Database.setPolicy row.policyId state.toFields "active"))

def packChangePayload (service : Service) (workspaceId requestedPackId : String) (pack : Fields)
    (current : Option EffectivePolicyPack) : Fields :=
  [("workspace_id", .str workspaceId), ("requested_pack_id", .str requestedPackId),
    ("requested_pack_checksum", .str (service.packChecksum pack)),
    ("current_pack", (current.map fun effective ↦ .obj effective.toFields).getD .null)]

def packRequestDefinition (service : Service) (workspaceId requesterActorId requestedPackId
    changeRequestId proposalId reviewTaskId : String) (pack : Fields) : Fields :=
  [("change_request_id", .str changeRequestId), ("workspace_id", .str workspaceId),
    ("requested_pack_id", .str requestedPackId),
    ("requested_pack_checksum", .str (service.packChecksum pack)),
    ("requester_actor_id", .str requesterActorId), ("proposal_id", .str proposalId),
    ("review_task_id", .str reviewTaskId), ("status", .str "staged")]

/-- The denial of a change to the pack that is active already. -/
def refuseActivePack (requestedPackId : String) (current : Option EffectivePolicyPack) :
    Handler Unit :=
  Effect.onlyIf (∃ effective ∈ current, effective.packId = requestedPackId)
    (Effect.raise (accessDenied [("reason", .str "policy_pack_already_active"),
      ("pack_id", .str requestedPackId)]))

/-- `request_policy_pack_change`, at the time `now`. -/
def requestPolicyPackChange (service : Service) (packs : List Fields) (now : ℤ)
    (workspaceId requesterActorId requestedPackId : String) : Handler Fields := do
  requireWorkspace workspaceId
  let requestedPack ← Effect.ofExcept (loadPolicyPack packs requestedPackId)
  let current ← getEffectivePolicyPack workspaceId
  refuseActivePack requestedPackId current
  let stored ← onFiles (storeEvidenceBundle service.codec workspaceId
    (packChangePayload service workspaceId requestedPackId requestedPack current)
    service.storagePath "policy_pack_change" none now)
  let proposal ← createProposal service workspaceId "policy_pack_change_proposal"
    stored.evidenceBundleUri floatOne
  let reviewTask ← createReviewTask service workspaceId proposal.proposalId "security_critical" true
  let changeRequestId ← newUlid service
  let changeRequest := packRequestDefinition service workspaceId requesterActorId requestedPackId
    changeRequestId proposal.proposalId reviewTask.taskId requestedPack
  save (Database.addPolicy
    { policyId := changeRequestId
      workspaceId := workspaceId
      policyType := packRequestPolicyType
      definitionRef := storedDefinition changeRequest
      status := "staged" })
  return changeRequest

def canaryDefinition (workspaceId packId packChecksum requestedBy approvedBy
    changeRequestId : String) : Fields :=
  [("workspace_id", .str workspaceId), ("pack_id", .str packId),
    ("pack_checksum", .str packChecksum), ("requested_by", .str requestedBy),
    ("approved_by", .str approvedBy), ("change_request_id", .str changeRequestId),
    ("status", .str "canary_active")]

/-- `_upsert_policy_pack_canary` on the active canary row. -/
def writeCanary (service : Service) (workspaceId : String) (definition : Fields) :
    Option GovernancePolicy → Handler Unit
  | none => do
    let policyId ← newUlid service
    save (Database.addPolicy
      { policyId := policyId
        workspaceId := workspaceId
        policyType := packCanaryPolicyType
        definitionRef := storedDefinition definition
        status := "active" })
  | some row => onTables (Effect.change (Database.setPolicy row.policyId definition "active"))

def startPackCanary (service : Service) (workspaceId changeRequestId approverActorId reason : String)
    (staged : Fields) : Handler Fields := do
  let definition := canaryDefinition workspaceId (strippedText staged "requested_pack_id" "")
    (fieldText staged "requested_pack_checksum") (fieldText staged "requester_actor_id")
    approverActorId changeRequestId
  let existing ← query (activeCanaryRow? workspaceId)
  writeCanary service workspaceId definition existing
  onTables (Effect.change (Database.setPolicy changeRequestId
    (decidedDefinition staged "canary_active" approverActorId reason) "canary_active"))
  return [("change_request_id", .str changeRequestId), ("status", .str "canary_active"),
    ("canary", .obj definition)]

/-- The approval of a change at once, over the active row. -/
def applyPackChange (service : Service) (workspaceId changeRequestId approverActorId reason : String)
    (staged : Fields) (activeRow : Option GovernancePolicy) : Handler Fields := do
  let active := loadRow activeRow
  let version ← Effect.ofExcept (toInt (getD active "version" (.int 0)))
  let state : EffectivePolicyPack :=
    { workspaceId := workspaceId
      packId := strippedText staged "requested_pack_id" ""
      packChecksum := fieldText staged "requested_pack_checksum"
      version := version + 1
      previousPackId := fieldText active "pack_id"
      previousPackChecksum := fieldText active "pack_checksum" }
  writeEffectivePack service state activeRow
  onTables (Effect.change (Database.setPolicy changeRequestId
    (decidedDefinition staged "applied" approverActorId reason) "applied"))
  return [("change_request_id", .str changeRequestId), ("status", .str "applied"),
    ("effective_policy_pack", .obj state.toFields)]

/-- The denial of a pack that fails its invariants. -/
def refuseFailures (requestedPackId : String) (failures : List String) : Handler Unit :=
  Effect.onlyIf (failures ≠ [])
    (Effect.raise (accessDenied [("reason", .str "policy_pack_test_failed"),
      ("pack_id", .str requestedPackId), ("failures", textList failures)]))

/-- `decide_policy_pack_change` from an approval on. -/
def approvePackChange (service : Service) (packs : List Fields)
    (workspaceId changeRequestId approverActorId reason : String) (canaryEnabled : Bool)
    (staged : Fields) : Handler Fields := do
  let activeRow ← query (activePolicyPackRow? workspaceId)
  let requestedPackId := strippedText staged "requested_pack_id" ""
  let requestedPack ← Effect.ofExcept (loadPolicyPack packs requestedPackId)
  refuseFailures requestedPackId (evaluatePolicyPackInvariants requestedPack)
  if canaryEnabled then
    startPackCanary service workspaceId changeRequestId approverActorId reason staged
  else applyPackChange service workspaceId changeRequestId approverActorId reason staged activeRow

/-- `decide_policy_pack_change`. -/
def decidePolicyPackChange (service : Service) (packs : List Fields)
    (workspaceId changeRequestId approverActorId decision reason : String) (canaryEnabled : Bool) :
    Handler (Option Fields) := do
  match ← query (packRequestRow? workspaceId changeRequestId) with
  | none => return none
  | some stagedRow =>
    let staged := loadDefinition stagedRow.definitionRef
    let reviewTaskId := fieldText staged "review_task_id"
    let word := normalizedDecision decision
    Effect.onlyIf (reviewTaskId ≠ "") (do
      let _ ← decideReviewTask service workspaceId reviewTaskId approverActorId word reason)
    if word ≠ "approve" then
      let declined := decidedDefinition staged (declinedStatus word) approverActorId reason
      onTables (Effect.change
        (Database.setPolicy stagedRow.policyId declined (declinedStatus word)))
      return some declined
    else
      return some (← approvePackChange service packs workspaceId changeRequestId approverActorId
        reason canaryEnabled staged)

/-- `rollback_policy_pack`. -/
def rollbackPolicyPack (workspaceId : String) : Handler Fields := do
  match ← query (activePolicyPackRow? workspaceId) with
  | none => Effect.raise (accessDenied [("reason", .str "policy_pack_not_configured")])
  | some activeRow =>
    let active := loadDefinition activeRow.definitionRef
    let previousPackId := strippedText active "previous_pack_id" ""
    let previousChecksum := strippedText active "previous_pack_checksum" ""
    Effect.onlyIf (previousPackId = "" ∨ previousChecksum = "")
      (Effect.raise (accessDenied [("reason", .str "policy_pack_rollback_unavailable")]))
    let version ← Effect.ofExcept (toInt (getD active "version" (.int 0)))
    let state : EffectivePolicyPack :=
      { workspaceId := workspaceId
        packId := previousPackId
        packChecksum := previousChecksum
        version := version + 1
        previousPackId := fieldText active "pack_id"
        previousPackChecksum := fieldText active "pack_checksum" }
    onTables (Effect.change
      (Database.setPolicy activeRow.policyId state.toFields activeRow.status))
    return [("status", .str "rolled_back"), ("effective_policy_pack", .obj state.toFields)]

def promotedState (workspaceId : String) (canary : Fields) (active : Option EffectivePolicyPack) :
    EffectivePolicyPack where
  workspaceId := workspaceId
  packId := fieldText canary "pack_id"
  packChecksum := fieldText canary "pack_checksum"
  version := (active.map EffectivePolicyPack.version).getD 0 + 1
  previousPackId := (active.map EffectivePolicyPack.packId).getD ""
  previousPackChecksum := (active.map EffectivePolicyPack.packChecksum).getD ""

/-- The canary row takes the promotion. -/
def markPromoted (actorId : String) : Option GovernancePolicy → Handler Unit
  | none => pure ()
  | some row => onTables (Effect.change (Database.setPolicy row.policyId
      (set (set (loadDefinition row.definitionRef) "status" (.str "promoted")) "promoted_by"
        (.str actorId)) "promoted"))

/-- `promote_policy_pack_canary`. -/
def promotePolicyPackCanary (service : Service) (workspaceId actorId : String) :
    Handler Fields := do
  match ← query (activeCanaryRow? workspaceId) with
  | none => Effect.raise (accessDenied [("reason", .str "policy_pack_canary_not_found")])
  | some canaryRow =>
    let canary := loadDefinition canaryRow.definitionRef
    let active ← getEffectivePolicyPack workspaceId
    let state := promotedState workspaceId canary active
    let activeRow ← query (activePolicyPackRow? workspaceId)
    writeEffectivePack service state activeRow
    let row ← query (activeCanaryRow? workspaceId)
    markPromoted actorId row
    return [("status", .str "promoted"), ("effective_policy_pack", .obj state.toFields),
      ("canary_change_request_id", .str (fieldText canary "change_request_id"))]

end SchemaPilot.ControlPlane
