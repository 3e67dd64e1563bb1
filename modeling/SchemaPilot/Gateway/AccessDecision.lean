import SchemaPilot.Gateway.Interface
import SchemaPilot.SharedDomain.Provenance

/-!
# Recording and denying

What the two data endpoints of `backend/gateway/app.py` share: a request, the access decision row
written for it (`recordAccessDecision`), the denial that records itself before it raises (`deny`),
the policy pack in force, the checks on dataset ids, and the steps up to the rate limiter
(`guarded`).
-/

namespace SchemaPilot.Gateway

open Library Library.Text Library.Json SharedDomain

/-- A request to an endpoint: the JSON body and the id of the request. -/
structure Request where
  payload : Fields
  requestId : String

/-- What all the access decision rows of one request agree on. -/
structure DecisionContext where
  workspaceId : String
  requestContext : Fields
  policyDecisionId : String
  endpoint : String
  correlationId : String

/-- `_request_context`. -/
def requestContextOf (payload : Fields) : Fields :=
  payload.filter fun field ↦ field.1 ≠ "actor" ∧ field.1 ≠ "corpus"

/-- `str(payload.get("workspace_id", "unknown"))`. -/
def workspaceIdOf (payload : Fields) : String :=
  (getD payload "workspace_id" (.str "unknown")).toStr

/-- `str(actor_dict.get("actor_id", "unknown"))`. -/
def actorIdOf (actor : Fields) : String := (getD actor "actor_id" (.str "unknown")).toStr

def attributesOf (actor : Fields) : Fields := dictOrEmpty (get? actor "attributes")

/-- `{str(item) for item in allowed_raw}`, in some order. -/
def allowedDatasetIdsOf (actor : Fields) : List String :=
  sortedTexts ((listOrEmpty (get? (attributesOf actor) "allowed_dataset_ids")).map toStr)

/-- `_serialize_row_filter`. -/
def serializeRowFilter : Option (String × String) → Fields
  | none => []
  | some (column, value) =>
    [("row_filter", .obj [("column", .str column), ("value", .str value)])]

def masksFields (masks : List (String × String)) : Fields :=
  masks.map fun mask ↦ (mask.1, .str mask.2)

/-- `int(value)` of a number or a text, the default for a value of another type. -/
def intOrDefault (value : Json) (default : ℤ) : Except Exn ℤ :=
  match value with
  | .bool flag => .ok (if flag then 1 else 0)
  | .int number => .ok number
  | .float number => .ok (truncate number)
  | .special .nan => .error (.valueError "cannot convert float NaN to integer")
  | .special _ => .error (.other "cannot convert float infinity to integer")
  | .str text =>
    match intOfString? text with
    | some number => .ok number
    | none => .error (.valueError "invalid literal for int() with base 10")
  | _ => .ok default

/-- `_record_access_decision`: the row and its audit event are committed together, and a failure of
either is a denial of its own. -/
def recordAccessDecision (context : DecisionContext) (actorId result reason : String)
    (resources appliedFilters appliedMasks : Fields) : Handler Unit := do
  let eventType := "gateway." ++ context.endpoint
  let auditEventId ← ask .newUlid
  (ask (.commitAccessDecision
    { auditEventId := auditEventId
      workspaceId := context.workspaceId
      actorId := actorId
      result := result
      reason := reason
      requestContext := context.requestContext
      resources := resources
      appliedFilters := appliedFilters
      appliedMasks := appliedMasks
      policyDecisionId := context.policyDecisionId
      eventType := eventType
      correlationId := context.correlationId })).tryExcept fun
    | .auditSink _ => Program.raise (.policyDenied "Access denied by policy"
        [("reason", .str "audit_sink_unavailable"), ("operation", .str eventType)])
    | _ => Program.raise (.policyDenied "Access denied by policy"
        [("reason", .str "audit_unavailable"), ("operation", .str eventType)])

/-- A denial: the decision is recorded, then `PolicyDeniedError` is raised with `details` added to
the reason and the decision's id. -/
def denyWith {α : Type} (context : DecisionContext) (actorId message reason : String)
    (resources appliedFilters appliedMasks details : Fields) : Handler α := do
  recordAccessDecision context actorId "deny" reason
    (("endpoint", .str context.endpoint) :: resources) appliedFilters appliedMasks
  Program.raise (.policyDenied message
    ([("reason", .str reason), ("policy_decision_id", .str context.policyDecisionId)] ++ details))

/-- A denial of the access policy, no filter or mask having been applied. -/
def deny {α : Type} (context : DecisionContext) (actorId reason : String)
    (resources details : Fields) : Handler α :=
  denyWith context actorId "Access denied by policy" reason resources [] [] details

/-- `_load_effective_policy_pack`. -/
def loadEffectivePolicyPack (workspaceId : String) : Handler (Option PolicyPack) := do
  let row ← ask (.activePolicy workspaceId "policy_pack")
  match row.bind fun definition ↦ definition.bind asObj? with
  | none => pure none
  | some payload =>
    let packId := strippedText payload "pack_id" ""
    let version ← Program.ofExcept (intOrDefault (getD payload "version" (.int 0)) 0)
    pure (if packId = "" then none else some ⟨packId, version⟩)

/-- `_dataset_belongs_to_other_workspace`. -/
def datasetBelongsToOtherWorkspace (workspaceId datasetId : String) : Handler Bool := do
  let row ← ask (.datasetWorkspace datasetId)
  pure (match row with
    | none => false
    | some owner => owner != workspaceId)

/-- The datasets catalogued under another workspace. -/
def crossWorkspaceDatasetIds (workspaceId : String) : List String → Handler (List String)
  | [] => pure []
  | datasetId :: rest => do
    let other ← datasetBelongsToOtherWorkspace workspaceId datasetId
    let others ← crossWorkspaceDatasetIds workspaceId rest
    pure (if other then datasetId :: others else others)

/-- What both data endpoints do up to the rate limiter: load the policy pack, authenticate, evaluate
the access policy and take a slot. `body` is what the endpoint does with a slot. -/
def guarded {α : Type} (endpoint : String) (access : Fields → AccessDecision) (request : Request)
    (body : DecisionContext → Fields → Option PolicyPack → Handler α) : Handler α := do
  let workspaceId := workspaceIdOf request.payload
  let policyPack ← loadEffectivePolicyPack workspaceId
  let authenticated ← ask .authenticatedActor
  let policyDecisionId ← ask .newUlid
  let context : DecisionContext :=
    ⟨workspaceId, requestContextOf request.payload, policyDecisionId, endpoint, request.requestId⟩
  match authenticated with
  | none => deny context "unknown" "missing_or_invalid_auth_token" [] []
  | some actor =>
    if (access actor).result ≠ "allow" then
      deny context (actorIdOf actor) (access actor).reason [] []
    else do
      let decision ← ask (.tryAcquire (actorIdOf actor))
      if decision.allowed = false then deny context (actorIdOf actor) decision.reason [] []
      else body context actor policyPack

end SchemaPilot.Gateway
