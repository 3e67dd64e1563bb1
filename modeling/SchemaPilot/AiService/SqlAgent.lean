import SchemaPilot.ControlPlane.SemanticManifest

/-!
# The SQL agent's planner

`backend/ai_service/sql_agent.py` chooses a metric and grouping columns of the active manifest for a
question. `str.lower` is left open: a question may be asked in any script.
-/

namespace SchemaPilot.AiService

open Library Library.Text Library.Json SharedDomain ControlPlane

/-- `SqlAgentPlan`. -/
structure SqlAgentPlan where
  workspaceId : String
  semanticQuery : Fields
  confidence : Json
  warnings : List String

/-- `_load_effective_semantic_manifest` on the active policy. -/
def loadEffectiveSemanticManifest (row : Option GovernancePolicy) : Option Fields :=
  (row.bind fun row ↦ row.definitionRef.bind asObj?).bind fun payload ↦
    (getD payload "semantic_manifest" (.obj [])).asObj?

def manifestRows (manifest : Option Fields) (key : String) : List Fields :=
  match manifest with
  | none => []
  | some manifest => ((asArr? (getD manifest key (.arr []))).getD []).filterMap asObj?

/-- The ids of `_manifest_metrics`. -/
def manifestMetrics (manifest : Option Fields) : List String :=
  ((manifestRows manifest "metrics").map fun item ↦ strippedText item "metric_id" "").filter (· ≠ "")

/-- `_guess_metric_id`. -/
def guessMetricId (lowerCase : String → String) (question : String) (metrics : List String) :
    String :=
  let lowered := lowerCase question
  let named := (sortedTexts metrics).find? fun metricId ↦ isPartOf (lowerCase metricId) lowered
  let counted := (sortedTexts metrics).find? fun metricId ↦
    isPartOf "count" lowered && isPartOf "count" (lowerCase metricId)
  (named.or (counted.or (sortedTexts metrics).head?)).getD ""

/-- `_guess_group_by`. -/
def guessGroupBy (lowerCase : String → String) (question : String) (manifest : Option Fields) :
    List String :=
  sortedTexts (((manifestRows manifest "dimensions").map fun item ↦
    strippedText item "dimension_id" "").filter fun dimensionId ↦
      dimensionId ≠ "" ∧ isPartOf (lowerCase dimensionId) (lowerCase question) ∧
        isIdentifier dimensionId)

/-- `validate_sql_agent_plan`. -/
def validateSqlAgentPlan (plan : SqlAgentPlan) : Except String Unit :=
  if isIdentifier (strippedText plan.semanticQuery "metric_id" "") = false then
    .error "semantic_metric_invalid"
  else
    match asArr? (getD plan.semanticQuery "group_by" (.arr [])) with
    | none => .error "semantic_group_by_invalid"
    | some items =>
      if items.all fun item ↦ isIdentifier (strip item.toStr) then .ok ()
      else .error "semantic_group_by_invalid"

/-- `metric_id.strip() if metric_id else _guess_metric_id(question, metrics)`. -/
def selectedMetric (lowerCase : String → String) (question : String) (metrics : List String)
    (metricId : Option String) : String :=
  match metricId.filter (· ≠ "") with
  | some metricId => strip metricId
  | none => guessMetricId lowerCase question metrics

/-- `generate_sql_agent_plan` from the manifest on. -/
def planFromManifest (lowerCase : String → String) (workspaceId question : String)
    (metricId : Option String) (groupBy : Option (List String)) (manifest : Option Fields) :
    Except String SqlAgentPlan :=
  let metrics := manifestMetrics manifest
  let selected := selectedMetric lowerCase question metrics metricId
  if metrics = [] then .error "semantic_manifest_missing"
  else if selected = "" ∨ selected ∉ metrics then .error "semantic_metric_not_found"
  else do
    let requestedGroupBy := (groupBy.filter (· ≠ [])).getD
      (guessGroupBy lowerCase question manifest)
    let plan : SqlAgentPlan :=
      { workspaceId := workspaceId
        semanticQuery := [("metric_id", .str selected), ("group_by", textList requestedGroupBy),
          ("filters", .obj [])]
        confidence := if metricId = none then .float ⟨"0.7", by decide⟩ else .float ⟨"0.8", by decide⟩
        warnings := if metricId = none then ["metric_inferred"] else [] }
    validateSqlAgentPlan plan
    .ok plan

/-- `generate_sql_agent_plan`. -/
def generateSqlAgentPlan (lowerCase : String → String) (workspaceId question : String)
    (metricId : Option String) (groupBy : Option (List String)) (db : Database) :
    Except String SqlAgentPlan :=
  planFromManifest lowerCase workspaceId question metricId groupBy
    (loadEffectiveSemanticManifest (activePolicyRow? workspaceId "semantic_manifest" db))

end SchemaPilot.AiService
