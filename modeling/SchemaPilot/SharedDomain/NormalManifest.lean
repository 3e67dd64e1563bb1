import SchemaPilot.SharedDomain.Semantic

/-!
# Normalised manifests

What `validate_semantic_manifest` returns is sorted, stripped and complete, and the validation of it
returns it again, also after it was written with `json.dumps(manifest, sort_keys=True)` and read back
(`validateSemanticManifest_readBack`).
-/

namespace SchemaPilot.SharedDomain

open Library Library.Text Library.Json

/-- What a mapping written with `sort_keys=True` reads as. -/
def readBack (fields : Fields) : Fields := sortFields (canonFields fields)

theorem canon_obj (fields : Fields) : canon (.obj fields) = .obj (readBack fields) := by
  rw [canon, readBack]

theorem get?_readBack (fields : Fields) (key : String) :
    get? (readBack fields) key = (get? fields key).map canon := by
  rw [readBack, get?_sortFields, get?_canonFields]

theorem get?_readBack_str {fields : Fields} {key text : String}
    (h : get? fields key = some (.str text)) : get? (readBack fields) key = some (.str text) := by
  rw [get?_readBack, h]
  rfl

theorem strippedText_readBack {fields : Fields} {key text : String} (default : String)
    (h : get? fields key = some (.str text)) :
    strippedText (readBack fields) key default = strip text := by
  rw [strippedText, getD, get?_readBack_str h]
  rfl

theorem listField_readBack {fields : Fields} {key : String} {items : List Json} (error : String)
    (h : get? fields key = some (.arr items)) :
    listField (readBack fields) key error = .ok (items.map canon) := by
  rw [listField, getD, get?_readBack, h, Option.map_some, Option.getD_some, canon,
    canonItems_eq_map]

/-- The id a text gives. -/
theorem idText_str (text : String) : idText (some (.str text)) = strip text := by
  rw [idText]
  split_ifs with htruthy
  · rfl
  · rw [truthy, bne_iff_ne, not_not] at htruthy
    rw [htruthy]
    decide

theorem identifier_ne_empty (id : Identifier) : id.text ≠ "" := by
  intro hempty
  have hvalid := id.valid
  rw [hempty] at hvalid
  exact absurd hvalid (by decide)

theorem idText_text (id : Identifier) : idText (some (.str id.text)) = id.text := by
  rw [idText_str, strip_identifier id.valid]

theorem normalizedId_text (id : Identifier) (field : String) :
    normalizedId (some (.str id.text)) field = .ok id := by
  have hmatches : matchesIdentifier (idText (some (.str id.text))) = true := by
    rw [idText_text]
    exact matchesIdentifier_of_isIdentifier id.valid
  rw [normalizedId, if_neg (by rw [idText_text]; exact identifier_ne_empty id), dif_pos hmatches]
  simp only [idText_text]

section Sorted

variable {Row : Type} (idOf : Row → Identifier)

/-- Rows in the order of the texts of their ids. -/
def SortedById (rows : List Row) : Prop :=
  rows.Pairwise fun first second ↦ (idOf first).text ≤ (idOf second).text

theorem sortedById_insertionSort (rows : List Row) :
    SortedById idOf
      (rows.insertionSort fun first second ↦ (idOf first).text ≤ (idOf second).text) := by
  have htotal : Std.Total fun first second : Row ↦ (idOf first).text ≤ (idOf second).text :=
    ⟨fun first second ↦ le_total (idOf first).text (idOf second).text⟩
  have htrans : IsTrans Row fun first second ↦ (idOf first).text ≤ (idOf second).text :=
    ⟨fun _ _ _ ↦ le_trans⟩
  exact List.pairwise_insertionSort _ rows

variable {idOf}

theorem SortedById.insertionSort_eq {rows : List Row} (h : SortedById idOf rows) :
    (rows.insertionSort fun first second ↦ (idOf first).text ≤ (idOf second).text) = rows :=
  List.Pairwise.insertionSort_eq h

end Sorted

theorem sortedIdentifiers_idem (ids : List Identifier) :
    sortedIdentifiers (sortedIdentifiers ids) = sortedIdentifiers ids := by
  have hnodup : (sortedIdentifiers ids).Nodup :=
    (List.perm_insertionSort _ ids.dedup).nodup_iff.mpr (List.nodup_dedup ids)
  have hsorted : SortedById id (sortedIdentifiers ids) := sortedById_insertionSort id ids.dedup
  conv_lhs => rw [sortedIdentifiers, List.dedup_eq_self.mpr hnodup]
  exact hsorted.insertionSort_eq

/-- What the validation returns: the checks across rows hold, rows and columns are sorted, and texts
are stripped. -/
structure SemanticManifest.Normalised (manifest : SemanticManifest) : Prop extends
    manifest.WellFormed where
  workspaceId_ne : manifest.workspaceId ≠ ""
  workspaceId_strip : strip manifest.workspaceId = manifest.workspaceId
  entities_sorted : SortedById SemanticEntity.entityId manifest.entities
  metrics_sorted : SortedById SemanticMetric.metricId manifest.metrics
  joins_sorted : SortedById SemanticJoin.joinId manifest.joins
  attributes : ∀ entity ∈ manifest.entities,
    sortedIdentifiers entity.attributes = entity.attributes
  expression : ∀ metric ∈ manifest.metrics,
    metric.expression ≠ "" ∧ strip metric.expression = metric.expression

/-- The default expression of a metric has no blanks around it. -/
theorem strip_defaultExpression (aggregation : Aggregation) (field : Identifier) :
    strip (aggregation.word ++ "(" ++ field.text ++ ")") =
      aggregation.word ++ "(" ++ field.text ++ ")" := by
  have hchars : (aggregation.word ++ "(" ++ field.text ++ ")").toList =
      aggregation.word.toList ++ '(' :: (field.text.toList ++ [')']) := by
    simp
  rw [strip, stripChars_eq_self]
  · exact String.ofList_toList
  · intro c hc
    rw [hchars] at hc
    cases aggregation <;> cases hc <;> decide
  · intro c hc
    rw [hchars, ← List.cons_append, ← List.append_assoc, List.getLast?_concat] at hc
    cases hc
    decide

theorem normalizeEntity_attributes {seenIds : List Identifier} {row : Json} {entity : SemanticEntity}
    (h : normalizeEntity seenIds row = .ok entity) :
    sortedIdentifiers entity.attributes = entity.attributes := by
  simp only [normalizeEntity, bind_eq_ok_iff, ite_error_eq_ok_iff, Except.ok.injEq] at h
  obtain ⟨fields, -, entityId, -, -, -, primaryKey, -, items, -, attributes, -, rfl⟩ := h
  exact sortedIdentifiers_idem attributes

theorem normalizeMetric_expression {entityIds seenIds : List Identifier} {row : Json}
    {metric : SemanticMetric} (h : normalizeMetric entityIds seenIds row = .ok metric) :
    metric.expression ≠ "" ∧ strip metric.expression = metric.expression := by
  simp only [normalizeMetric, bind_eq_ok_iff, ite_error_eq_ok_iff] at h
  obtain ⟨fields, -, metricId, -, -, entityId, -, -, h⟩ := h
  cases haggregation : Aggregation.ofWord? (lower (strippedText fields "aggregation" "")) with
  | none => simp [haggregation] at h
  | some aggregation =>
    simp only [haggregation, bind_eq_ok_iff, Except.ok.injEq] at h
    obtain ⟨field, -, rfl⟩ := h
    dsimp only
    split_ifs with hexpression
    · refine ⟨fun hempty ↦ ?_, strip_defaultExpression aggregation field⟩
      have hlength := congrArg String.length hempty
      rw [String.length_append, String.length_append, String.length_append] at hlength
      exact absurd hlength (by change _ + 1 ≠ 0; omega)
    · exact ⟨hexpression, strip_strip _⟩

/-- The validation returns normalised manifests only. -/
theorem validateSemanticManifest_normalised {payload : Fields} {expected : Option String}
    {manifest : SemanticManifest} (h : validateSemanticManifest payload expected = .ok manifest) :
    manifest.Normalised := by
  have hwellFormed := (validateSemanticManifest_wellFormed h).1
  simp only [validateSemanticManifest, bind_eq_ok_iff, ite_error_eq_ok_iff, Except.ok.injEq] at h
  obtain ⟨-, hworkspace, -, entityRows, -, metricRows, -, joinRows, -, entities, hentities, metrics,
    hmetrics, joins, hjoins, rfl⟩ := h
  simp only [normalizeEntities, bind_eq_ok_iff, Except.ok.injEq] at hentities
  simp only [normalizeMetrics, bind_eq_ok_iff, Except.ok.injEq] at hmetrics
  simp only [normalizeJoins, bind_eq_ok_iff, Except.ok.injEq] at hjoins
  obtain ⟨entityRows, hentityRows, rfl⟩ := hentities
  obtain ⟨metricRows, hmetricRows, rfl⟩ := hmetrics
  obtain ⟨joinRows, hjoinRows, rfl⟩ := hjoins
  obtain ⟨-, hattributes⟩ := normalizeRows_spec (fun _ _ _ _ hrow ↦
    ⟨(normalizeEntity_spec hrow).1, normalizeEntity_attributes hrow⟩) _ _ _ _ hentityRows
  obtain ⟨-, hexpressions⟩ := normalizeRows_spec (fun _ _ _ _ hrow ↦
    ⟨(normalizeMetric_spec hrow).1, normalizeMetric_expression hrow⟩) _ _ _ _ hmetricRows
  exact {
    toWellFormed := hwellFormed
    workspaceId_ne := hworkspace
    workspaceId_strip := strip_strip _
    entities_sorted := sortedById_insertionSort _ _
    metrics_sorted := sortedById_insertionSort _ _
    joins_sorted := sortedById_insertionSort _ _
    attributes := fun entity hentity ↦
      (hattributes entity ((List.mem_insertionSort _).mp hentity)).2
    expression := fun metric hmetric ↦
      (hexpressions metric ((List.mem_insertionSort _).mp hmetric)).2 }

theorem normalizedId_readBack {fields : Fields} {key : String} {id : Identifier} (field : String)
    (h : get? fields key = some (.str id.text)) :
    normalizedId (get? (readBack fields) key) field = .ok id := by
  rw [get?_readBack_str h, normalizedId_text]

theorem attributes_readBack (columns : List Identifier) :
    ((columns.map fun column ↦ Json.str column.text).map canon).mapM
      (fun item ↦ normalizedId (some item) "attribute") = .ok columns := by
  induction columns with
  | nil => rfl
  | cons column rest ih =>
    have hcolumn : canon (.str column.text) = .str column.text := rfl
    rw [List.map_cons, List.map_cons, List.mapM_cons, ih, hcolumn, normalizedId_text]
    rfl

theorem normalizeEntity_readBack {seenIds : List Identifier} {entity : SemanticEntity}
    (hunseen : entity.entityId ∉ seenIds) (hdataset : entity.datasetId ≠ "")
    (hstrip : strip entity.datasetId = entity.datasetId)
    (hattributes : sortedIdentifiers entity.attributes = entity.attributes) :
    normalizeEntity seenIds (canon entity.toJson) = .ok entity := by
  rw [SemanticEntity.toJson, canon_obj, normalizeEntity, mappingRow, ok_bind,
    normalizedId_readBack "entity_id" rfl, ok_bind, if_neg hunseen,
    strippedText_readBack "" rfl, hstrip, if_neg hdataset,
    normalizedId_readBack "primary_key" rfl, ok_bind,
    listField_readBack "invalid_entity_attributes" rfl, ok_bind, attributes_readBack,
    ok_bind, hattributes]

theorem aggregation_ofWord (aggregation : Aggregation) :
    Aggregation.ofWord? (lower (strip aggregation.word)) = some aggregation := by
  cases aggregation <;> decide

theorem joinType_ofWord (joinType : JoinType) :
    JoinType.ofWord? (lower (strip joinType.word)) = some joinType := by
  cases joinType <;> decide

theorem normalizeMetric_readBack {entityIds seenIds : List Identifier} {metric : SemanticMetric}
    (hunseen : metric.metricId ∉ seenIds) (hentity : metric.entityId ∈ entityIds)
    (hexpression : metric.expression ≠ "") (hstrip : strip metric.expression = metric.expression) :
    normalizeMetric entityIds seenIds (canon metric.toJson) = .ok metric := by
  rw [SemanticMetric.toJson, canon_obj, normalizeMetric, mappingRow, ok_bind,
    normalizedId_readBack "metric_id" rfl, ok_bind, if_neg hunseen,
    normalizedId_readBack "metric_entity_id" rfl, ok_bind, if_neg (not_not.mpr hentity),
    strippedText_readBack "" rfl, aggregation_ofWord]
  dsimp only
  rw [normalizedId_readBack "metric_field" rfl, ok_bind, strippedText_readBack "" rfl, hstrip,
    if_neg hexpression]

theorem normalizeJoin_readBack {entityIds seenIds : List Identifier} {index : ℕ}
    {join : SemanticJoin} (hunseen : join.joinId ∉ seenIds)
    (hentities : join.leftEntityId ∈ entityIds ∧ join.rightEntityId ∈ entityIds) :
    normalizeJoin entityIds seenIds index (canon join.toJson) = .ok join := by
  rw [SemanticJoin.toJson, canon_obj, normalizeJoin, mappingRow, ok_bind,
    strippedText_readBack "" rfl, strip_identifier join.joinId.valid]
  dsimp only
  rw [if_neg (identifier_ne_empty join.joinId), normalizedId_text, ok_bind, if_neg hunseen,
    normalizedId_readBack "left_entity_id" rfl, ok_bind,
    normalizedId_readBack "right_entity_id" rfl, ok_bind,
    if_neg (by rw [not_or, not_not, not_not]; exact hentities),
    normalizedId_readBack "left_key" rfl, ok_bind, normalizedId_readBack "right_key" rfl,
    ok_bind, strippedText_readBack "inner" rfl, joinType_ofWord]

/-- The loop of a normaliser returns the rows whose body returns them. -/
theorem normalizeRows_readBack {Row : Type}
    {normalize : List Identifier → ℕ → Json → Except String Row} {idOf : Row → Identifier}
    {toJson : Row → Json} (rows : List Row) :
    ∀ seenIds index, (rows.map idOf).Nodup → (∀ row ∈ rows, idOf row ∉ seenIds) →
      (∀ row ∈ rows, ∀ seenIds index, idOf row ∉ seenIds →
        normalize seenIds index (canon (toJson row)) = .ok row) →
      normalizeRows normalize idOf seenIds index ((rows.map toJson).map canon) = .ok rows := by
  induction rows with
  | nil => exact fun _ _ _ _ _ ↦ rfl
  | cons row rest ih =>
    intro seenIds index hnodup hunseen hbody
    rw [List.map_cons, List.nodup_cons] at hnodup
    rw [List.forall_mem_cons] at hunseen hbody
    have hrest : ∀ other ∈ rest, idOf other ∉ idOf row :: seenIds := by
      intro other hother hseen
      rcases List.mem_cons.mp hseen with hsame | hbefore
      · exact hnodup.1 (hsame ▸ List.mem_map_of_mem hother)
      · exact hunseen.2 other hother hbefore
    rw [List.map_cons, List.map_cons, normalizeRows, hbody.1 _ _ hunseen.1, ok_bind,
      ih _ _ hnodup.2 hrest hbody.2, ok_bind]

theorem validateSemanticManifest_readBack {manifest : SemanticManifest} {expected : Option String}
    (h : manifest.Normalised) (hexpected : ∀ workspaceId ∈ expected, manifest.workspaceId = workspaceId) :
    validateSemanticManifest (readBack manifest.toFields) expected = .ok manifest := by
  have hworkspace : strippedText (readBack manifest.toFields) "workspace_id" "" =
      manifest.workspaceId := (strippedText_readBack "" rfl).trans h.workspaceId_strip
  have hversion : strippedText (readBack manifest.toFields) "manifest_version" "" =
      semanticManifestVersion := (strippedText_readBack "" rfl).trans (by decide)
  have hentities : normalizeEntities ((manifest.entities.map SemanticEntity.toJson).map canon) =
      .ok manifest.entities := by
    rw [normalizeEntities, normalizeRows_readBack _ _ _ h.entityIds_nodup (by simp)
      fun entity hentity seenIds _ hunseen ↦ normalizeEntity_readBack hunseen
        (h.datasetId_ne entity hentity).1 (h.datasetId_ne entity hentity).2
        (h.attributes entity hentity), ok_bind, h.entities_sorted.insertionSort_eq]
  have hmetrics : normalizeMetrics manifest.entityIds
      ((manifest.metrics.map SemanticMetric.toJson).map canon) = .ok manifest.metrics := by
    rw [normalizeMetrics, normalizeRows_readBack _ _ _ h.metricIds_nodup (by simp)
      fun metric hmetric seenIds _ hunseen ↦ normalizeMetric_readBack hunseen
        (h.metric_entity metric hmetric) (h.expression metric hmetric).1
        (h.expression metric hmetric).2, ok_bind, h.metrics_sorted.insertionSort_eq]
  have hjoins : normalizeJoins manifest.entityIds
      ((manifest.joins.map SemanticJoin.toJson).map canon) = .ok manifest.joins := by
    rw [normalizeJoins, normalizeRows_readBack _ _ _ h.joinIds_nodup (by simp)
      fun join hjoin seenIds _ hunseen ↦ normalizeJoin_readBack hunseen
        (h.join_entities join hjoin), ok_bind, h.joins_sorted.insertionSort_eq]
  have hmatches : ¬∃ expectedId ∈ expected, manifest.workspaceId ≠ expectedId := by
    rintro ⟨expectedId, hmem, hne⟩
    exact hne (hexpected expectedId hmem)
  simp only [validateSemanticManifest]
  rw [hversion, if_neg (not_not.mpr rfl), hworkspace, if_neg h.workspaceId_ne, if_neg hmatches,
    listField_readBack "invalid_entities" rfl, ok_bind,
    listField_readBack "invalid_metrics" rfl, ok_bind,
    listField_readBack "invalid_joins" rfl, ok_bind, hentities, ok_bind]
  change (normalizeMetrics manifest.entityIds _ >>= _) = _
  rw [hmetrics, ok_bind]
  change (normalizeJoins manifest.entityIds _ >>= _) = _
  rw [hjoins, ok_bind]

end SchemaPilot.SharedDomain
