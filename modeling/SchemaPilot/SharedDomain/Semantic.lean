import SchemaPilot.Library.Except
import SchemaPilot.Library.JsonText

/-!
# Semantic manifests

`validate_semantic_manifest` of `backend/shared_domain/semantic.py` turns a JSON payload into a
normalised manifest or raises a `ValueError`, whose text is the error here. The fields it checks
against the identifier pattern come out as `Identifier`s, and the two enumerated fields as
`Aggregation` and `JoinType`, so a normalised manifest cannot hold anything else in them.
`SemanticManifest.WellFormed` collects what the checks across rows establish
(`validateSemanticManifest_wellFormed`): ids are pairwise distinct and every reference to an entity
resolves.
-/

namespace SchemaPilot.SharedDomain

open Library Library.Text Library.Json

/-- `AGGREGATIONS`. -/
inductive Aggregation where
  | sum
  | count
  | avg
  | min
  | max
deriving DecidableEq

/-- `JOIN_TYPES`. -/
inductive JoinType where
  | inner
  | left
  | right
  | full
deriving DecidableEq

def Aggregation.word : Aggregation → String
  | sum => "sum"
  | count => "count"
  | avg => "avg"
  | min => "min"
  | max => "max"

def JoinType.word : JoinType → String
  | inner => "inner"
  | left => "left"
  | right => "right"
  | full => "full"

/-- The aggregation a lower-case word names. -/
def Aggregation.ofWord? (word : String) : Option Aggregation :=
  [sum, count, avg, min, max].find? fun aggregation ↦ aggregation.word == word

/-- The join type a lower-case word names. -/
def JoinType.ofWord? (word : String) : Option JoinType :=
  [inner, left, right, full].find? fun joinType ↦ joinType.word == word

structure SemanticEntity where
  entityId : Identifier
  datasetId : String
  primaryKey : Identifier
  attributes : List Identifier
deriving DecidableEq

structure SemanticMetric where
  metricId : Identifier
  entityId : Identifier
  aggregation : Aggregation
  field : Identifier
  expression : String
deriving DecidableEq

structure SemanticJoin where
  joinId : Identifier
  leftEntityId : Identifier
  rightEntityId : Identifier
  leftKey : Identifier
  rightKey : Identifier
  joinType : JoinType
deriving DecidableEq

/-- A normalised manifest; its `manifest_version` is always `SEMANTIC_MANIFEST_VERSION`. -/
structure SemanticManifest where
  workspaceId : String
  entities : List SemanticEntity
  metrics : List SemanticMetric
  joins : List SemanticJoin
deriving DecidableEq

/-- `SEMANTIC_MANIFEST_VERSION`. -/
def semanticManifestVersion : String := "1"

/-! ### Normalisation -/

/-- `str(value or "").strip()`, a missing field being `None`. -/
def idText (value : Option Json) : String :=
  match value with
  | some json => if json.truthy then strip json.toStr else ""
  | none => ""

@[simp] theorem strip_idText (value : Option Json) : strip (idText value) = idText value := by
  rcases value with _ | json
  · rfl
  · rw [idText]
    split_ifs
    · exact strip_strip _
    · rfl

/-- What the pattern accepts of a stripped id is an identifier. -/
theorem isIdentifier_idText {value : Option Json} (h : matchesIdentifier (idText value) = true) :
    isIdentifier (idText value) = true := by
  rw [← strip_idText, matchesIdentifier_strip, strip_idText] at h
  exact h

/-- `_normalized_id`. -/
def normalizedId (value : Option Json) (field : String) : Except String Identifier :=
  if idText value = "" then .error ("missing_" ++ field)
  else if h : matchesIdentifier (idText value) = true then
    .ok ⟨idText value, isIdentifier_idText h⟩
  else .error ("invalid_" ++ field)

/-- `sorted` of the set of some identifiers. -/
def sortedIdentifiers (ids : List Identifier) : List Identifier :=
  ids.dedup.insertionSort fun a b ↦ a.text ≤ b.text

/-- The items of `row.get(key, [])`, which must be a list. -/
def listField (row : Fields) (key error : String) : Except String (List Json) :=
  match getD row key (.arr []) with
  | .arr items => .ok items
  | _ => .error error

def mappingRow (row : Json) (error : String) : Except String Fields :=
  match row with
  | .obj fields => .ok fields
  | _ => .error error

/-- The body of the loop of `_normalize_entities`, the ids seen before given. -/
def normalizeEntity (seenIds : List Identifier) (row : Json) : Except String SemanticEntity := do
  let fields ← mappingRow row "invalid_entity_row"
  let entityId ← normalizedId (get? fields "entity_id") "entity_id"
  if entityId ∈ seenIds then .error "duplicate_entity_id"
  else if strippedText fields "dataset_id" "" = "" then .error "missing_entity_dataset_id"
  else do
    let primaryKey ← normalizedId (get? fields "primary_key") "primary_key"
    let items ← listField fields "attributes" "invalid_entity_attributes"
    let attributes ← items.mapM fun item ↦ normalizedId (some item) "attribute"
    .ok ⟨entityId, strippedText fields "dataset_id" "", primaryKey, sortedIdentifiers attributes⟩

/-- The body of the loop of `_normalize_metrics`. -/
def normalizeMetric (entityIds seenIds : List Identifier) (row : Json) :
    Except String SemanticMetric := do
  let fields ← mappingRow row "invalid_metric_row"
  let metricId ← normalizedId (get? fields "metric_id") "metric_id"
  if metricId ∈ seenIds then .error "duplicate_metric_id"
  else do
    let entityId ← normalizedId (get? fields "entity_id") "metric_entity_id"
    if entityId ∉ entityIds then .error "metric_entity_not_found"
    else
      match Aggregation.ofWord? (lower (strippedText fields "aggregation" "")) with
      | none => .error "invalid_metric_aggregation"
      | some aggregation => do
        let field ← normalizedId (get? fields "field") "metric_field"
        let expression := strippedText fields "expression" ""
        .ok ⟨metricId, entityId, aggregation, field,
          if expression = "" then aggregation.word ++ "(" ++ field.text ++ ")" else expression⟩

/-- The body of the loop of `_normalize_joins`; a row without an id is named by its position. -/
def normalizeJoin (entityIds seenIds : List Identifier) (index : ℕ) (row : Json) :
    Except String SemanticJoin := do
  let fields ← mappingRow row "invalid_join_row"
  let given := strippedText fields "join_id" ""
  let joinId ← normalizedId
    (some (.str (if given = "" then "join_" ++ toString (index + 1) else given))) "join_id"
  if joinId ∈ seenIds then .error "duplicate_join_id"
  else do
    let leftEntityId ← normalizedId (get? fields "left_entity_id") "left_entity_id"
    let rightEntityId ← normalizedId (get? fields "right_entity_id") "right_entity_id"
    if leftEntityId ∉ entityIds ∨ rightEntityId ∉ entityIds then .error "join_entity_not_found"
    else do
      let leftKey ← normalizedId (get? fields "left_key") "left_key"
      let rightKey ← normalizedId (get? fields "right_key") "right_key"
      match JoinType.ofWord? (lower (strippedText fields "join_type" "inner")) with
      | none => .error "invalid_join_type"
      | some joinType => .ok ⟨joinId, leftEntityId, rightEntityId, leftKey, rightKey, joinType⟩

/-- The loop the three normalisers share: rows are normalised in order, each knowing its index and
the ids of the rows before it. -/
def normalizeRows {Row : Type} (normalize : List Identifier → ℕ → Json → Except String Row)
    (idOf : Row → Identifier) : List Identifier → ℕ → List Json → Except String (List Row)
  | _, _, [] => .ok []
  | seenIds, index, row :: rest => do
    let normalized ← normalize seenIds index row
    let others ← normalizeRows normalize idOf (idOf normalized :: seenIds) (index + 1) rest
    .ok (normalized :: others)

/-- `_normalize_entities`. -/
def normalizeEntities (rows : List Json) : Except String (List SemanticEntity) := do
  let normalized ← normalizeRows (fun seenIds _ ↦ normalizeEntity seenIds)
    SemanticEntity.entityId [] 0 rows
  .ok (normalized.insertionSort fun a b ↦ a.entityId.text ≤ b.entityId.text)

/-- `_normalize_metrics`. -/
def normalizeMetrics (entityIds : List Identifier) (rows : List Json) :
    Except String (List SemanticMetric) := do
  let normalized ← normalizeRows (fun seenIds _ ↦ normalizeMetric entityIds seenIds)
    SemanticMetric.metricId [] 0 rows
  .ok (normalized.insertionSort fun a b ↦ a.metricId.text ≤ b.metricId.text)

/-- `_normalize_joins`. -/
def normalizeJoins (entityIds : List Identifier) (rows : List Json) :
    Except String (List SemanticJoin) := do
  let normalized ← normalizeRows (normalizeJoin entityIds) SemanticJoin.joinId [] 0 rows
  .ok (normalized.insertionSort fun a b ↦ a.joinId.text ≤ b.joinId.text)

/-- `validate_semantic_manifest`. -/
def validateSemanticManifest (manifest : Fields) (expectedWorkspaceId : Option String) :
    Except String SemanticManifest :=
  let workspaceId := strippedText manifest "workspace_id" ""
  if strippedText manifest "manifest_version" "" ≠ semanticManifestVersion then
    .error "invalid_manifest_version"
  else if workspaceId = "" then .error "missing_workspace_id"
  else if ∃ expected ∈ expectedWorkspaceId, workspaceId ≠ expected then .error "workspace_mismatch"
  else do
    let entityRows ← listField manifest "entities" "invalid_entities"
    let metricRows ← listField manifest "metrics" "invalid_metrics"
    let joinRows ← listField manifest "joins" "invalid_joins"
    let entities ← normalizeEntities entityRows
    let entityIds := entities.map SemanticEntity.entityId
    let metrics ← normalizeMetrics entityIds metricRows
    let joins ← normalizeJoins entityIds joinRows
    .ok ⟨workspaceId, entities, metrics, joins⟩

/-! ### The manifest as a mapping -/

def SemanticEntity.toJson (entity : SemanticEntity) : Json :=
  .obj [("entity_id", .str entity.entityId.text), ("dataset_id", .str entity.datasetId),
    ("primary_key", .str entity.primaryKey.text),
    ("attributes", .arr (entity.attributes.map fun column ↦ .str column.text))]

def SemanticMetric.toJson (metric : SemanticMetric) : Json :=
  .obj [("metric_id", .str metric.metricId.text), ("entity_id", .str metric.entityId.text),
    ("aggregation", .str metric.aggregation.word), ("field", .str metric.field.text),
    ("expression", .str metric.expression)]

def SemanticJoin.toJson (join : SemanticJoin) : Json :=
  .obj [("join_id", .str join.joinId.text), ("left_entity_id", .str join.leftEntityId.text),
    ("right_entity_id", .str join.rightEntityId.text), ("left_key", .str join.leftKey.text),
    ("right_key", .str join.rightKey.text), ("join_type", .str join.joinType.word)]

/-- The mapping `validate_semantic_manifest` returns. -/
def SemanticManifest.toFields (manifest : SemanticManifest) : Fields :=
  [("manifest_version", .str semanticManifestVersion),
    ("workspace_id", .str manifest.workspaceId),
    ("entities", .arr (manifest.entities.map SemanticEntity.toJson)),
    ("metrics", .arr (manifest.metrics.map SemanticMetric.toJson)),
    ("joins", .arr (manifest.joins.map SemanticJoin.toJson))]

/-- `semantic_manifest_checksum`, `hashlib.sha256(...).hexdigest()` of a text being given. -/
def semanticManifestChecksum (sha256Hex : String → String) (manifest : SemanticManifest) : String :=
  sha256Hex (dumps (.obj manifest.toFields))

/-! ### What a normalised manifest guarantees -/

def SemanticManifest.entityIds (manifest : SemanticManifest) : List Identifier :=
  manifest.entities.map SemanticEntity.entityId

/-- The checks of the validation that relate rows to each other, and the one on dataset ids. -/
structure SemanticManifest.WellFormed (manifest : SemanticManifest) : Prop where
  entityIds_nodup : manifest.entityIds.Nodup
  metricIds_nodup : (manifest.metrics.map SemanticMetric.metricId).Nodup
  joinIds_nodup : (manifest.joins.map SemanticJoin.joinId).Nodup
  datasetId_ne : ∀ entity ∈ manifest.entities,
    entity.datasetId ≠ "" ∧ strip entity.datasetId = entity.datasetId
  metric_entity : ∀ metric ∈ manifest.metrics, metric.entityId ∈ manifest.entityIds
  join_entities : ∀ join ∈ manifest.joins,
    join.leftEntityId ∈ manifest.entityIds ∧ join.rightEntityId ∈ manifest.entityIds

/-- The loop of a normaliser whose body rejects repeated ids and establishes `P` yields rows with
distinct, unseen ids that satisfy `P`. -/
theorem normalizeRows_spec {Row : Type}
    {normalize : List Identifier → ℕ → Json → Except String Row} {idOf : Row → Identifier}
    {P : Row → Prop}
    (hbody : ∀ seenIds index row normalized, normalize seenIds index row = .ok normalized →
      idOf normalized ∉ seenIds ∧ P normalized) (rows : List Json) :
    ∀ seenIds index result, normalizeRows normalize idOf seenIds index rows = .ok result →
      (result.map idOf).Nodup ∧ ∀ row ∈ result, idOf row ∉ seenIds ∧ P row := by
  induction rows with
  | nil =>
    intro seenIds index result h
    cases h
    simp
  | cons row rest ih =>
    intro seenIds index result h
    simp only [normalizeRows, bind_eq_ok_iff, Except.ok.injEq] at h
    obtain ⟨normalized, hnormalized, others, hothers, rfl⟩ := h
    obtain ⟨hnew, hP⟩ := hbody _ _ _ _ hnormalized
    obtain ⟨hnodup, hrest⟩ := ih _ _ _ hothers
    constructor
    · rw [List.map_cons, List.nodup_cons]
      refine ⟨fun hmem ↦ ?_, hnodup⟩
      obtain ⟨other, hother, heq⟩ := List.mem_map.mp hmem
      exact (hrest other hother).1 (by simp [heq])
    · intro other hother
      rcases List.mem_cons.mp hother with rfl | hother
      · exact ⟨hnew, hP⟩
      · obtain ⟨hunseen, hPother⟩ := hrest other hother
        exact ⟨fun hseen ↦ hunseen (List.mem_cons_of_mem _ hseen), hPother⟩

theorem normalizeEntity_spec {seenIds : List Identifier} {row : Json} {entity : SemanticEntity}
    (h : normalizeEntity seenIds row = .ok entity) :
    entity.entityId ∉ seenIds ∧ entity.datasetId ≠ "" ∧
      strip entity.datasetId = entity.datasetId := by
  simp only [normalizeEntity, bind_eq_ok_iff, ite_error_eq_ok_iff, Except.ok.injEq] at h
  obtain ⟨fields, -, entityId, -, hunseen, hdataset, primaryKey, -, items, -, attributes, -, rfl⟩ :=
    h
  exact ⟨hunseen, hdataset, strip_strip _⟩

theorem normalizeMetric_spec {entityIds seenIds : List Identifier} {row : Json}
    {metric : SemanticMetric} (h : normalizeMetric entityIds seenIds row = .ok metric) :
    metric.metricId ∉ seenIds ∧ metric.entityId ∈ entityIds := by
  simp only [normalizeMetric, bind_eq_ok_iff, ite_error_eq_ok_iff] at h
  obtain ⟨fields, -, metricId, -, hunseen, entityId, -, hentity, h⟩ := h
  cases haggregation : Aggregation.ofWord? (lower (strippedText fields "aggregation" "")) with
  | none => simp [haggregation] at h
  | some aggregation =>
    simp only [haggregation, bind_eq_ok_iff, Except.ok.injEq] at h
    obtain ⟨field, -, rfl⟩ := h
    exact ⟨hunseen, not_not.mp hentity⟩

theorem normalizeJoin_spec {entityIds seenIds : List Identifier} {index : ℕ} {row : Json}
    {join : SemanticJoin} (h : normalizeJoin entityIds seenIds index row = .ok join) :
    join.joinId ∉ seenIds ∧ join.leftEntityId ∈ entityIds ∧ join.rightEntityId ∈ entityIds := by
  simp only [normalizeJoin, bind_eq_ok_iff, ite_error_eq_ok_iff] at h
  obtain ⟨fields, -, joinId, -, hunseen, leftEntityId, -, rightEntityId, -, hentities, leftKey, -,
    rightKey, -, h⟩ := h
  rw [not_or, not_not, not_not] at hentities
  cases hjoinType : JoinType.ofWord? (lower (strippedText fields "join_type" "inner")) with
  | none => simp [hjoinType] at h
  | some joinType =>
    simp only [hjoinType, Except.ok.injEq] at h
    subst h
    exact ⟨hunseen, hentities⟩

theorem normalizeEntities_spec {rows : List Json} {entities : List SemanticEntity}
    (h : normalizeEntities rows = .ok entities) :
    (entities.map SemanticEntity.entityId).Nodup ∧ ∀ entity ∈ entities,
      entity.datasetId ≠ "" ∧ strip entity.datasetId = entity.datasetId := by
  simp only [normalizeEntities, bind_eq_ok_iff, Except.ok.injEq] at h
  obtain ⟨normalized, hrows, rfl⟩ := h
  obtain ⟨hnodup, hrest⟩ := normalizeRows_spec
    (fun _ _ _ _ hrow ↦ normalizeEntity_spec hrow) rows _ _ _ hrows
  refine ⟨((List.perm_insertionSort _ normalized).map _).nodup_iff.mpr hnodup, ?_⟩
  intro entity hentity
  exact (hrest entity ((List.mem_insertionSort _).mp hentity)).2

theorem normalizeMetrics_spec {entityIds : List Identifier} {rows : List Json}
    {metrics : List SemanticMetric} (h : normalizeMetrics entityIds rows = .ok metrics) :
    (metrics.map SemanticMetric.metricId).Nodup ∧ ∀ metric ∈ metrics,
      metric.entityId ∈ entityIds := by
  simp only [normalizeMetrics, bind_eq_ok_iff, Except.ok.injEq] at h
  obtain ⟨normalized, hrows, rfl⟩ := h
  obtain ⟨hnodup, hrest⟩ := normalizeRows_spec
    (fun _ _ _ _ hrow ↦ normalizeMetric_spec hrow) rows _ _ _ hrows
  refine ⟨((List.perm_insertionSort _ normalized).map _).nodup_iff.mpr hnodup, ?_⟩
  intro metric hmetric
  exact (hrest metric ((List.mem_insertionSort _).mp hmetric)).2

theorem normalizeJoins_spec {entityIds : List Identifier} {rows : List Json}
    {joins : List SemanticJoin} (h : normalizeJoins entityIds rows = .ok joins) :
    (joins.map SemanticJoin.joinId).Nodup ∧ ∀ join ∈ joins,
      join.leftEntityId ∈ entityIds ∧ join.rightEntityId ∈ entityIds := by
  simp only [normalizeJoins, bind_eq_ok_iff, Except.ok.injEq] at h
  obtain ⟨normalized, hrows, rfl⟩ := h
  obtain ⟨hnodup, hrest⟩ := normalizeRows_spec
    (fun _ _ _ _ hrow ↦ normalizeJoin_spec hrow) rows _ _ _ hrows
  refine ⟨((List.perm_insertionSort _ normalized).map _).nodup_iff.mpr hnodup, ?_⟩
  intro join hjoin
  exact (hrest join ((List.mem_insertionSort _).mp hjoin)).2

/-- Every manifest the validation accepts is well formed and belongs to the expected workspace. -/
theorem validateSemanticManifest_wellFormed {payload : Fields} {expected : Option String}
    {manifest : SemanticManifest} (h : validateSemanticManifest payload expected = .ok manifest) :
    manifest.WellFormed ∧ ∀ workspaceId ∈ expected, manifest.workspaceId = workspaceId := by
  simp only [validateSemanticManifest, bind_eq_ok_iff, ite_error_eq_ok_iff, Except.ok.injEq] at h
  obtain ⟨-, -, hworkspace, entityRows, -, metricRows, -, joinRows, -, entities, hentities, metrics,
    hmetrics, joins, hjoins, rfl⟩ := h
  obtain ⟨hentityIds, hdatasets⟩ := normalizeEntities_spec hentities
  obtain ⟨hmetricIds, hmetricEntities⟩ := normalizeMetrics_spec hmetrics
  obtain ⟨hjoinIds, hjoinEntities⟩ := normalizeJoins_spec hjoins
  refine ⟨⟨hentityIds, hmetricIds, hjoinIds, hdatasets, hmetricEntities, hjoinEntities⟩, ?_⟩
  intro workspaceId hexpected
  by_contra hne
  exact hworkspace ⟨workspaceId, hexpected, hne⟩

end SchemaPilot.SharedDomain
