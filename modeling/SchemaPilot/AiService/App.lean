import SchemaPilot.AiService.SqlAgent
import SchemaPilot.Library.Program
import SchemaPilot.SharedDomain.Auth

/-!
# The AI service

The `POST` endpoints of `backend/ai_service/app.py` as programs over what leaves the service: a request
to the gateway or the control plane (`request_json` of `backend/ai_service/clients.py`) and a completion
of the language model. A request carries the path under the configured base URL of its service. The
response of an endpoint is the body of a response with status 200.
-/

namespace SchemaPilot.AiService

open Library Library.Program Library.Text Library.Json SharedDomain

inductive Upstream where
  | gateway
  | controlPlane
deriving DecidableEq

/-- The arguments of `request_json`. -/
structure ServiceCall where
  service : Upstream
  method : String
  path : String
  payload : Option Fields
  bearerToken : String

/-- The headers `request_json` sets. -/
def ServiceCall.headers (call : ServiceCall) : Headers :=
  ("accept", "application/json") ::
    ((if call.payload.isSome then [("content-type", "application/json")] else []) ++
      if call.bearerToken = "" then [] else [("authorization", "Bearer " ++ call.bearerToken)])

inductive ServiceOp where
  /-- `request_json`; what it answers is the text of a `ServiceClientError` or the response. -/
  | requestJson (call : ServiceCall)
  /-- `llm_provider.complete`. -/
  | complete (systemPrompt userPrompt : String)

@[reducible] def ServiceOp.Answer : ServiceOp → Type
  | requestJson _ => Except String Fields
  | complete _ _ => String

abbrev Handler (α : Type) := Program ServiceOp ServiceOp.Answer Exn α

abbrev ask (op : ServiceOp) : Handler op.Answer := perform op

/-- The service: its settings, `str.lower` over all of Unicode and the database of the planner. -/
structure Service where
  auth : AuthSettings
  aiServiceEnabled : Bool
  lowerCase : String → String
  db : ControlPlane.Database

/-- A request to an endpoint: its headers, its JSON body and its id. -/
structure AiRequest where
  headers : Headers
  payload : Fields
  requestId : String

/-- `PolicyDeniedError("Access denied by policy", details={"reason": reason, …})`. -/
def denied (reason : String) (details : Fields) : Exn :=
  .policyDenied "Access denied by policy" (("reason", .str reason) :: details)

/-- `require_ai_enabled`. -/
def requireAiEnabled (service : Service) (headers : Headers) : Except Exn Fields := do
  match ← authenticatedActorFromRequest service.auth headers with
  | none => .error (denied "missing_or_invalid_auth_token" [])
  | some actor =>
    if service.aiServiceEnabled then .ok actor else .error (denied "module_disabled" [])

/-- A call of `request_json` whose `ServiceClientError` becomes a denial. -/
def upstream (call : ServiceCall) (reason : String) : Handler Fields := do
  let reply : Except String Fields ← ask (.requestJson call)
  match reply with
  | .ok response => pure response
  | .error message => raise (denied reason [("error", .str message)])

/-- The items of `group_by` of a payload. -/
def groupByOf (payload : Fields) : List String :=
  ((asArr? (getD payload "group_by" (.arr []))).getD []).map toStr

/-- The `ValueError` of the planner becomes a denial. -/
def planOr (reasonOf : String → String) : Except String SqlAgentPlan → Except Exn SqlAgentPlan
  | .ok plan => .ok plan
  | .error message => .error (denied (reasonOf message) [])

def queryCall (workspaceId : String) (payload : Fields) (plan : SqlAgentPlan) : ServiceCall :=
  { service := .gateway
    method := "POST"
    path := "/api/v1/gateway/query"
    payload := some [("workspace_id", .str workspaceId),
      ("query", .obj [("language", .str "sql"), ("text", .str "select 1 as one")]),
      ("semantic_query", .obj plan.semanticQuery), ("resource_attributes", .obj [])]
    bearerToken := (getD payload "gateway_token" (.str "local-ai-reader-token")).toStr }

def rowCountOf (response : Fields) : ℕ :=
  (((asArr? (getD ((asObj? (getD response "result" (.obj []))).getD []) "rows" (.arr []))).getD
    []).length)

def planFields (plan : SqlAgentPlan) : Json :=
  .obj [("semantic_query", .obj plan.semanticQuery), ("confidence", plan.confidence),
    ("warnings", textList plan.warnings)]

/-- The question of a payload, its workspace and the plan for it. -/
def askSqlPlan (service : Service) (payload : Fields) :
    Except Exn (String × String × SqlAgentPlan) :=
  let question := strippedText payload "question" ""
  let workspaceId := strippedText payload "workspace_id" ""
  let metricId := match get? payload "metric_id" with
    | some (.str metricId) => some (strip metricId)
    | _ => none
  if question = "" ∨ workspaceId = "" then .error (denied "missing_question_or_workspace" [])
  else do
    let plan ← planOr (fun message ↦
        if strip message = "" then "sql_agent_plan_invalid" else strip message)
      (generateSqlAgentPlan service.lowerCase workspaceId question metricId
        (some (groupByOf payload)) service.db)
    .ok (question, workspaceId, plan)

/-- `ask_sql`. -/
def askSql (service : Service) (request : AiRequest) : Handler Fields := do
  let actor ← ofExcept (requireAiEnabled service request.headers)
  let (question, workspaceId, plan) ← ofExcept (askSqlPlan service request.payload)
  let response ← upstream (queryCall workspaceId request.payload plan) "gateway_unavailable"
  pure [("workspace_id", .str workspaceId), ("question", .str question), ("plan", planFields plan),
    ("answer", .obj [("row_count", .int (rowCountOf response)),
      ("summary", .str ("Returned " ++ toString (rowCountOf response) ++ " rows."))]),
    ("provenance", getD response "provenance" (.obj [])), ("request_id", .str request.requestId),
    ("actor_id", .str (getD actor "actor_id" (.str "unknown")).toStr)]

/-- The workspace and the metric of a payload, and the plan for it. -/
def metricAnswerPlan (service : Service) (payload : Fields) :
    Except Exn (String × String × SqlAgentPlan) :=
  let workspaceId := strippedText payload "workspace_id" ""
  let metricId := strippedText payload "metric_id" ""
  let asked := strippedText payload "question" ""
  let question := if asked = "" then "metric " ++ metricId else asked
  if workspaceId = "" ∨ metricId = "" then .error (denied "missing_workspace_or_metric" [])
  else do
    let plan ← planOr (fun message ↦ if message = "" then "metric_plan_invalid" else message)
      (generateSqlAgentPlan service.lowerCase workspaceId question (some metricId)
        (some (groupByOf payload)) service.db)
    .ok (workspaceId, metricId, plan)

/-- `metric_answer`. -/
def metricAnswer (service : Service) (request : AiRequest) : Handler Fields := do
  let _ ← ofExcept (requireAiEnabled service request.headers)
  let (workspaceId, metricId, plan) ← ofExcept (metricAnswerPlan service request.payload)
  let response ← upstream (queryCall workspaceId request.payload plan) "gateway_unavailable"
  pure [("workspace_id", .str workspaceId), ("metric_id", .str metricId), ("plan", planFields plan),
    ("answer", .obj [("row_count", .int (rowCountOf response)),
      ("summary", .str ("Metric " ++ metricId ++ " returned " ++ toString (rowCountOf response) ++
        " rows."))]),
    ("provenance", getD response "provenance" (.obj []))]

/-- The `workspace_id` of a payload, which must not be blank. -/
def requiredWorkspace (payload : Fields) : Except Exn String :=
  let workspaceId := strippedText payload "workspace_id" ""
  if workspaceId = "" then .error (denied "missing_workspace" []) else .ok workspaceId

/-- The listing of the datasets of a workspace, whose id stands in the path as it is. -/
def datasetsCall (workspaceId : String) (payload : Fields) : ServiceCall :=
  { service := .controlPlane
    method := "GET"
    path := "/api/v1/workspaces/" ++ workspaceId ++ "/datasets"
    payload := none
    bearerToken := (getD payload "control_plane_token" (.str "local-data-steward-token")).toStr }

/-- The datasets whose logical name holds the concept. -/
def conceptMatches (service : Service) (concept : String) (response : Fields) : List Fields :=
  (((asArr? (getD response "datasets" (.arr []))).getD []).filterMap asObj?).filter fun item ↦
    concept = "" ∨
      isPartOf concept (service.lowerCase (getD item "logical_name" (.str "")).toStr) = true

/-- `catalog_assistant`. -/
def catalogAssistant (service : Service) (request : AiRequest) : Handler Fields := do
  let _ ← ofExcept (requireAiEnabled service request.headers)
  let concept := service.lowerCase (strippedText request.payload "concept" "")
  let workspaceId ← ofExcept (requiredWorkspace request.payload)
  let response ← upstream (datasetsCall workspaceId request.payload) "control_plane_unavailable"
  let found := conceptMatches service concept response
  pure [("workspace_id", .str workspaceId), ("concept", .str concept),
    ("matches", .arr (found.map .obj)), ("count", .int found.length)]

def simulationCall (workspaceId : String) (payload : Fields) : ServiceCall :=
  { service := .gateway
    method := "POST"
    path := "/api/v1/gateway/policy/simulate"
    payload := some [("workspace_id", .str workspaceId), ("actor", getD payload "actor" (.obj [])),
      ("resource_attributes", getD payload "resource_attributes" (.obj [])),
      ("action", .str (getD payload "action" (.str "query")).toStr)]
    bearerToken := (getD payload "gateway_token" (.str "local-data-steward-token")).toStr }

/-- `policy_assistant`. -/
def policyAssistant (service : Service) (request : AiRequest) : Handler Fields := do
  let _ ← ofExcept (requireAiEnabled service request.headers)
  let workspaceId ← ofExcept (requiredWorkspace request.payload)
  let simulation ← upstream (simulationCall workspaceId request.payload) "gateway_unavailable"
  pure [("workspace_id", .str workspaceId), ("simulation", .obj simulation)]

def docQaQuestion (payload : Fields) : Except Exn (String × String) :=
  let workspaceId := strippedText payload "workspace_id" ""
  let question := strippedText payload "question" ""
  if workspaceId = "" ∨ question = "" then .error (denied "missing_question_or_workspace" [])
  else .ok (workspaceId, question)

def retrieveCall (workspaceId question : String) (payload : Fields) : ServiceCall :=
  { service := .gateway
    method := "POST"
    path := "/api/v1/gateway/retrieve"
    payload := some [("workspace_id", .str workspaceId), ("query_text", .str question)]
    bearerToken := (getD payload "gateway_token" (.str "local-ai-reader-token")).toStr }

/-- `llm_provider.complete` on a question and the number of its snippets. -/
def docQaCompletion (question : String) (snippetCount : ℕ) : Handler String :=
  (ask (.complete "Grounded Doc QA"
    (question ++ "\nSnippets:" ++ toString snippetCount))).tryExcept fun
    | .disabledIntegration message =>
      raise (denied "ai_provider_disabled" [("error", .str message)])
    | exception => raise exception

/-- `doc_qa`. -/
def docQa (service : Service) (request : AiRequest) : Handler Fields := do
  let _ ← ofExcept (requireAiEnabled service request.headers)
  let (workspaceId, question) ← ofExcept (docQaQuestion request.payload)
  let retrieval ← upstream (retrieveCall workspaceId question request.payload) "gateway_unavailable"
  let snippetCount := ((asArr? (getD retrieval "results" (.arr []))).getD []).length
  let completion ← docQaCompletion question snippetCount
  let provenance := (asObj? (getD retrieval "provenance" (.obj []))).getD []
  pure [("workspace_id", .str workspaceId), ("question", .str question),
    ("answer", .str completion),
    ("citations", .arr ((asArr? (getD provenance "citations" (.arr []))).getD [])),
    ("result_count", .int snippetCount)]

/-- A helper: the caller is let in, then the body answers. -/
def helper (service : Service) (request : AiRequest) (body : Fields → Fields) :
    Handler Fields := do
  let _ ← ofExcept (requireAiEnabled service request.headers)
  pure (body request.payload)

/-- `query_debug`. -/
def queryDebug (service : Service) (request : AiRequest) : Handler Fields :=
  helper service request fun payload ↦
    let errorPayload := (asObj? (getD payload "gateway_error" (.obj []))).getD []
    let code := (getD errorPayload "code" (.str "unknown")).toStr
    let reason := match (get? errorPayload "details").bind asObj? with
      | some details => (getD details "reason" (.str "unknown")).toStr
      | none => "unknown"
    [("diagnosis", .str ("Gateway denied request with code=" ++ code ++ ", reason=" ++ reason ++
        ".")),
      ("next_steps", textList ["Verify actor auth token and roles.",
        "Verify semantic manifest is active for AI SQL flows.",
        "Check dataset entitlements and workspace isolation."])]

/-- `release_gate_assistant`. -/
def releaseGateAssistant (service : Service) (request : AiRequest) : Handler Fields :=
  helper service request fun payload ↦
    let gateOutput := strippedText payload "gate_output" ""
    [("summary", .str (if isPartOf "PASS" gateOutput then "Release gate passed."
        else "Release gate failed.")),
      ("actions", textList ["Run check_tooling_baseline and inspect first failing command.",
        "Regenerate MANIFEST.sha256 after edits.",
        "Re-run targeted tests before full baseline."])]

/-- A helper that reports a status and a kind, and echoes its input. -/
def echoHelper (status kindField kind : String) (service : Service) (request : AiRequest) :
    Handler Fields :=
  helper service request fun payload ↦
    [("status", .str status), (kindField, .str kind), ("input", .obj payload)]

/-- `join_suggestion`. -/
def joinSuggestion := echoHelper "proposal_created" "proposal_type" "relationship_proposal"

/-- `contract_proposer`. -/
def contractProposer := echoHelper "proposal_created" "proposal_type" "quality_contract_proposal"

/-- `drift_explainer`. -/
def driftExplainer := echoHelper "task_created" "task_type" "drift_investigation"

/-- `pii_explainer`. -/
def piiExplainer := echoHelper "task_created" "task_type" "pii_review"

/-- `er_suggestions`. -/
def erSuggestions := echoHelper "proposal_created" "proposal_type" "er_merge_proposal"

/-- `semantic_generator`. -/
def semanticGenerator := echoHelper "proposal_created" "proposal_type" "semantic_manifest_proposal"

/-- `quality_triage`. -/
def qualityTriage := echoHelper "task_created" "task_type" "quality_triage"

/-- `eval_generator`. -/
def evalGenerator (service : Service) (request : AiRequest) : Handler Fields :=
  helper service request fun payload ↦
    [("status", .str "generated"),
      ("question_count", .int ((asArr? (getD payload "questions" (.arr []))).getD []).length),
      ("input", .obj payload)]

/-- The `POST` endpoints. -/
inductive AiEndpoint where
  | askSql | metricAnswer | catalogAssistant | policyAssistant | docQa | queryDebug
  | releaseGateAssistant | joinSuggestion | contractProposer | driftExplainer | piiExplainer
  | erSuggestions | semanticGenerator | qualityTriage | evalGenerator

def serve (service : Service) (request : AiRequest) : AiEndpoint → Handler Fields
  | .askSql => askSql service request
  | .metricAnswer => metricAnswer service request
  | .catalogAssistant => catalogAssistant service request
  | .policyAssistant => policyAssistant service request
  | .docQa => docQa service request
  | .queryDebug => queryDebug service request
  | .releaseGateAssistant => releaseGateAssistant service request
  | .joinSuggestion => joinSuggestion service request
  | .contractProposer => contractProposer service request
  | .driftExplainer => driftExplainer service request
  | .piiExplainer => piiExplainer service request
  | .erSuggestions => erSuggestions service request
  | .semanticGenerator => semanticGenerator service request
  | .qualityTriage => qualityTriage service request
  | .evalGenerator => evalGenerator service request

end SchemaPilot.AiService
