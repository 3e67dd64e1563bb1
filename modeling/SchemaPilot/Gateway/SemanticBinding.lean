import SchemaPilot.Gateway.Interface
import SchemaPilot.SharedDomain.Semantic

/-!
# Binding a semantic query

`backend/gateway/semantic_binding.py` turns a metric and a list of grouping columns into SQL over the
active manifest of the workspace. What passes the identifier pattern comes out as an `Identifier`,
as in the manifest; a grouping column is a pair of them (`GroupItem`).

The text is written as the source writes it (`sqlText`).
-/

namespace SchemaPilot.Gateway

open Library Library.Text Library.Json SharedDomain

structure GroupItem where
  entityId : Identifier
  column : Identifier
deriving DecidableEq

/-- A grouping column as it stands in the list `_parse_group_by` returns. -/
def GroupItem.key (item : GroupItem) : String := item.entityId.text ++ "." ++ item.column.text

/-- `SemanticQueryBinding`. -/
structure SemanticQueryBinding where
  sqlText : String
  datasetIds : List String
  metricId : String
  groupBy : List String
  manifestChecksum : String

/-- A stripped text that `_is_safe_identifier` accepts. -/
def safeIdentifier? (text : String) : Option Identifier :=
  if h : matchesIdentifier (strip text) = true then
    some ⟨strip text, (matchesIdentifier_strip text).symm.trans h⟩
  else none

/-- `item.split(".", 1)`, the default entity standing in for a missing one. -/
def splitGroupItem (defaultEntityId : Identifier) (item : String) : String × String :=
  if '.' ∈ item.toList then
    (String.ofList (item.toList.takeWhile (· ≠ '.')),
      String.ofList ((item.toList.dropWhile (· ≠ '.')).drop 1))
  else (defaultEntityId.text, item)

/-- The body of the loop of `_parse_group_by`, `none` for a blank item. -/
def parseGroupItem (defaultEntityId : Identifier) (entities : List SemanticEntity)
    (itemRaw : Json) : Except String (Option GroupItem) :=
  let item := strip itemRaw.toStr
  if item = "" then .ok none
  else
    let parts := splitGroupItem defaultEntityId item
    match safeIdentifier? parts.1, safeIdentifier? parts.2 with
    | some entityId, some column =>
      match entities.find? fun entity ↦ entity.entityId = entityId with
      | none => .error "semantic_group_by_entity_not_found"
      | some entity =>
        if column ∈ entity.primaryKey :: entity.attributes then .ok (some ⟨entityId, column⟩)
        else .error "semantic_group_by_column_not_found"
    | _, _ => .error "semantic_group_by_invalid"

/-- The loop of `_parse_group_by`; a repeated column is entered once. -/
def parseGroupItems (defaultEntityId : Identifier) (entities : List SemanticEntity)
    (normalized : List GroupItem) : List Json → Except String (List GroupItem)
  | [] => .ok normalized
  | itemRaw :: rest => do
    match ← parseGroupItem defaultEntityId entities itemRaw with
    | none => parseGroupItems defaultEntityId entities normalized rest
    | some item =>
      parseGroupItems defaultEntityId entities
        (if item ∈ normalized then normalized else normalized ++ [item]) rest

/-- `_parse_group_by`. -/
def parseGroupBy (semanticQuery : Fields) (defaultEntityId : Identifier)
    (entities : List SemanticEntity) : Except String (List GroupItem) :=
  match getD semanticQuery "group_by" (.arr []) with
  | .arr items => parseGroupItems defaultEntityId entities [] items
  | _ => .error "semantic_group_by_invalid"

/-- `involved_entities`: the entity of the metric, then those of the grouping columns as they
come. -/
def involvedEntities (metricEntityId : Identifier) (groupBy : List GroupItem) : List Identifier :=
  groupBy.foldl
    (fun involved item ↦
      if item.entityId ∈ involved then involved else involved ++ [item.entityId])
    [metricEntityId]

/-- The alias of an entity's table: `t` and its index among the involved entities. -/
def tableAlias (involved : List Identifier) (entityId : Identifier) : String :=
  "t" ++ toString (involved.idxOf entityId)

/-- `_find_join_between`. -/
def findJoinBetween (joins : List SemanticJoin) (left right : Identifier) : Option SemanticJoin :=
  joins.find? fun join ↦
    (join.leftEntityId = left ∧ join.rightEntityId = right) ∨
      (join.leftEntityId = right ∧ join.rightEntityId = left)

def joinWords : JoinType → String
  | .inner => "inner join"
  | .left => "left join"
  | .right => "right join"
  | .full => "full outer join"

/-- `_build_join_clause`. -/
def buildJoinClause (involved : List Identifier) (joins : List SemanticJoin)
    (baseEntityId targetEntityId : Identifier) : Except String String :=
  match findJoinBetween joins baseEntityId targetEntityId with
  | none => .error "semantic_join_path_missing"
  | some join => .ok (joinWords join.joinType ++ " gold." ++ targetEntityId.text ++ " as " ++
      tableAlias involved targetEntityId ++ " on " ++ tableAlias involved join.leftEntityId ++ "." ++
      join.leftKey.text ++ " = " ++ tableAlias involved join.rightEntityId ++ "." ++
      join.rightKey.text)

/-- `_build_metric_expression`. -/
def buildMetricExpression (metric : SemanticMetric) (label : String) : String :=
  metric.aggregation.word ++ "(" ++ label ++ "." ++ metric.field.text ++ ")"

/-- `sql_text` of `bind_semantic_query`, the join clauses given. -/
def sqlText (metric : SemanticMetric) (groupBy : List GroupItem) (joinClauses : List String) :
    String :=
  let involved := involvedEntities metric.entityId groupBy
  let selectParts := (groupBy.map fun item ↦
    tableAlias involved item.entityId ++ "." ++ item.column.text ++ " as " ++ item.entityId.text ++
      "__" ++ item.column.text) ++
    [buildMetricExpression metric (tableAlias involved metric.entityId) ++ " as metric_value"]
  let groupByExpressions := groupBy.map fun item ↦
    tableAlias involved item.entityId ++ "." ++ item.column.text
  "select " ++ String.intercalate ", " selectParts ++ " " ++
    ("from gold." ++ metric.entityId.text ++ " as " ++ tableAlias involved metric.entityId) ++
    (if joinClauses = [] then "" else " " ++ String.intercalate " " joinClauses) ++
    (if groupByExpressions = [] then ""
      else " group by " ++ String.intercalate ", " groupByExpressions)

/-- The join clauses of a binding, one for each involved entity but the metric's. -/
def joinClausesOf (manifest : SemanticManifest) (metric : SemanticMetric)
    (groupBy : List GroupItem) : Except String (List String) :=
  let involved := involvedEntities metric.entityId groupBy
  (involved.filter (· ≠ metric.entityId)).mapM
    (buildJoinClause involved manifest.joins metric.entityId)

def datasetIdsOf (manifest : SemanticManifest) (involved : List Identifier) : List String :=
  sortedTexts ((involved.filterMap fun entityId ↦
    (manifest.entities.find? fun entity ↦ entity.entityId = entityId).map
      SemanticEntity.datasetId).filter fun datasetId ↦ strip datasetId ≠ "")

/-- `bind_semantic_query` from the validated manifest on; `stateChecksum` is the checksum of the
active state. -/
def bindManifest (sha256Hex : String → String) (manifest : SemanticManifest)
    (stateChecksum : String) (metricId : Identifier) (semanticQuery : Fields) :
    Except String SemanticQueryBinding :=
  match manifest.metrics.find? fun metric ↦ metric.metricId = metricId with
  | none => .error "semantic_metric_not_found"
  | some metric =>
    if metric.entityId ∉ manifest.entityIds then .error "semantic_metric_entity_missing"
    else do
      let groupBy ← parseGroupBy semanticQuery metric.entityId manifest.entities
      let joinClauses ← joinClausesOf manifest metric groupBy
      let datasetIds := datasetIdsOf manifest (involvedEntities metric.entityId groupBy)
      if datasetIds = [] then .error "semantic_dataset_binding_missing"
      else .ok <|
        { sqlText := sqlText metric groupBy joinClauses
          datasetIds := datasetIds
          metricId := metricId.text
          groupBy := groupBy.map GroupItem.key
          manifestChecksum :=
            if stateChecksum = "" then semanticManifestChecksum sha256Hex manifest
            else stateChecksum }

def requestedMetric (semanticQuery : Fields) : Except String Identifier :=
  let metricId := (getD semanticQuery "metric_id" (.str "")).toStr
  if strip metricId = "" then .error "semantic_metric_required"
  else
    match safeIdentifier? metricId with
    | none => .error "semantic_metric_invalid"
    | some metricId => .ok metricId

/-- `bind_semantic_query` from the active policy row on. -/
def bindState (sha256Hex : String → String) (workspaceId : String) (metricId : Identifier)
    (semanticQuery : Fields) (row : Option (Option Json)) : Except String SemanticQueryBinding :=
  match row.bind fun definition ↦ definition.bind asObj? with
  | none => .error "semantic_manifest_not_configured"
  | some state =>
    match (get? state "manifest").bind asObj? with
    | none => .error "semantic_manifest_not_configured"
    | some manifestRaw =>
      match validateSemanticManifest manifestRaw (some workspaceId) with
      | .error _ => .error "semantic_manifest_invalid"
      | .ok manifest => bindManifest sha256Hex manifest (strippedText state "manifest_checksum" "")
          metricId semanticQuery

/-- `bind_semantic_query`. -/
def bindSemanticQuery (sha256Hex : String → String) (workspaceId : String)
    (semanticQuery : Fields) : Handler SemanticQueryBinding := do
  let metricId ← Program.ofExcept (raiseValueError (requestedMetric semanticQuery))
  let row ← ask (.activePolicy workspaceId "semantic_manifest")
  Program.ofExcept (raiseValueError (bindState sha256Hex workspaceId metricId semanticQuery row))

end SchemaPilot.Gateway
