import SchemaPilot.SharedDomain.ManifestNormalForm
import SchemaPilot.Workers.SemanticDrift

/-!
# What the drift detection sees

`detect_semantic_manifest_drift` looks for columns in the expressions of metrics alone, as words. Of a validated
manifest it sees the fields of metrics with the default expression; a missing key, attribute or join column is
noticed only where some expression has an unknown word as well, and an expression written out is reported for
its operators and numbers, too (`reportsDrift_exact_iff`).
-/

namespace SchemaPilot.Workers

open Library Library.Text Library.Json SharedDomain

def RefersTo (manifest : SemanticManifest) (entityId column : Identifier) : Prop :=
  (∃ entity ∈ manifest.entities, entity.entityId = entityId ∧
      (column = entity.primaryKey ∨ column ∈ entity.attributes)) ∨
    (∃ metric ∈ manifest.metrics, metric.entityId = entityId ∧ column = metric.field) ∨
    ∃ join ∈ manifest.joins, (join.leftEntityId = entityId ∧ column = join.leftKey) ∨
      (join.rightEntityId = entityId ∧ column = join.rightKey)

/-- Some column the manifest refers to is not among those of the dataset. -/
def MissesColumn (manifest : SemanticManifest) (available : AvailableColumns) : Prop :=
  ∃ entity ∈ manifest.entities, ∃ column, RefersTo manifest entity.entityId column ∧
    lower column.text ∉ columnsOf available entity.datasetId

def ReportsDrift (lowerCase : String → String) (manifest : SemanticManifest)
    (available : AvailableColumns) : Prop :=
  get? (detectSemanticManifestDrift lowerCase manifest.toFields available) "drift_detected" =
    some (.bool true)

def aggregationWords : List String := ["count", "sum", "avg", "min", "max"]

/-- An expression has a word that is neither an aggregation nor a column. -/
def HasUnknownWord (lowerCase : String → String) (columns : List String) (expression : String) : Prop :=
  ∃ token ∈ expressionTokens lowerCase expression, token ∉ aggregationWords ∧ token ∉ columns

def defaultExpression (metric : SemanticMetric) : String :=
  metric.aggregation.word ++ "(" ++ metric.field.text ++ ")"

/-- A metric is of an entity and has its default expression, and its field is neither named like an aggregation
nor among the columns. -/
def MissesField (manifest : SemanticManifest) (available : AvailableColumns) : Prop :=
  ∃ metric ∈ manifest.metrics, ∃ entity ∈ manifest.entities, entity.entityId = metric.entityId ∧
    metric.expression = defaultExpression metric ∧ lower metric.field.text ∉ aggregationWords ∧
      lower metric.field.text ∉ columnsOf available entity.datasetId

/-- A metric is of an entity and has an expression of its own, with an unknown word. -/
def HasUnknownExpression (lowerCase : String → String) (manifest : SemanticManifest)
    (available : AvailableColumns) : Prop :=
  ∃ metric ∈ manifest.metrics, ∃ entity ∈ manifest.entities, entity.entityId = metric.entityId ∧
    metric.expression ≠ defaultExpression metric ∧
      HasUnknownWord lowerCase (columnsOf available entity.datasetId) metric.expression

section Detection

variable {lowerCase : String → String} (hlower : ∀ id : Identifier, lowerCase id.text = lower id.text)
include hlower

theorem expressionTokens_default (metric : SemanticMetric) :
    expressionTokens lowerCase (defaultExpression metric) =
      [metric.aggregation.word, lower metric.field.text] := by
  let spaced (c : Char) : Char := if c = '(' ∨ c = ')' ∨ c = ',' then ' ' else c
  have hword : isIdentifier metric.aggregation.word = true := by
    cases metric.aggregation <;> decide
  have hparts : ∀ id : Identifier, id.text.toList.map spaced = id.text.toList ∧
      (∀ c ∈ id.text.toList, isSpace c = false) ∧ id.text.toList ≠ [] := by
    intro id
    have hpart : ∀ c ∈ id.text.toList, isWordPart c = true := fun c hc ↦ isWordPart_of_mem id.valid hc
    refine ⟨(List.map_congr_left fun c hc ↦ ?_).trans (List.map_id _), fun c hc ↦ isSpace_eq_false_of_isWordPart (hpart c hc),
      isIdentifierChars_ne_nil id.valid⟩
    refine if_neg ?_
    rintro (rfl | rfl | rfl) <;> exact absurd (hpart _ hc) (by decide)
  obtain ⟨hwordMap, hwordBlank, hwordNe⟩ := hparts ⟨metric.aggregation.word, hword⟩
  obtain ⟨hfieldMap, hfieldBlank, hfieldNe⟩ := hparts metric.field
  have hchars : (defaultExpression metric).toList.map spaced =
      metric.aggregation.word.toList ++ ' ' :: (metric.field.text.toList ++ ' ' :: []) := by
    rw [defaultExpression, String.toList_append, String.toList_append, String.toList_append,
      List.map_append, List.map_append, List.map_append, hwordMap, hfieldMap, List.append_assoc,
      List.append_assoc]
    rfl
  have hlowerWord : lowerCase metric.aggregation.word = metric.aggregation.word := by
    have hlowered : lower metric.aggregation.word = metric.aggregation.word := by
      cases metric.aggregation <;> decide
    exact (hlower ⟨metric.aggregation.word, hword⟩).trans hlowered
  change ((splitBlank (String.ofList ((defaultExpression metric).toList.map spaced))).map
    fun part ↦ lowerCase (strip part)) = _
  rw [hchars, splitBlank, String.toList_ofList,
    List.splitOnP_append_cons_of_forall_mem hwordBlank _ (by decide),
    List.splitOnP_append_cons_of_forall_mem hfieldBlank _ (by decide), List.splitOnP_nil,
    List.filter_cons_of_pos (by simpa using hwordNe), List.filter_cons_of_pos (by simpa using hfieldNe)]
  simp only [ne_eq, not_true_eq_false, decide_false, List.filter_cons_of_neg, Bool.false_eq_true,
    not_false_eq_true, List.filter_nil, List.map_cons, String.ofList_toList, List.map_nil]
  rw [strip_identifier hword, strip_identifier metric.field.valid, hlowerWord, hlower]

theorem hasUnknownWord_default_iff {columns : List String} (metric : SemanticMetric) :
    HasUnknownWord lowerCase columns (defaultExpression metric) ↔
      lower metric.field.text ∉ aggregationWords ∧ lower metric.field.text ∉ columns := by
  have hword : metric.aggregation.word ∈ aggregationWords := by
    cases metric.aggregation <;> decide
  rw [HasUnknownWord, expressionTokens_default hlower]
  simp only [List.mem_cons, List.not_mem_nil, or_false, exists_eq_or_imp, exists_eq_left]
  exact or_iff_right fun h ↦ h.1 hword

end Detection

section Validated

variable {manifest : SemanticManifest} {available : AvailableColumns}

/-- Pairs with distinct keys are found by their keys. -/
theorem lookup_of_mem {pairs : List (String × String)} (hnodup : (pairs.map Prod.fst).Nodup)
    {key value : String} (h : (key, value) ∈ pairs) : pairs.lookup key = some value := by
  induction pairs with
  | nil => exact absurd h List.not_mem_nil
  | cons pair rest ih =>
    rw [List.map_cons, List.nodup_cons] at hnodup
    rcases List.mem_cons.mp h with rfl | h
    · exact List.lookup_cons_self
    · have hne : key ≠ pair.1 := by
        rintro rfl
        exact hnodup.1 (List.mem_map.mpr ⟨_, h, rfl⟩)
      rw [List.lookup_cons, beq_eq_false_iff_ne.mpr hne]
      exact ih hnodup.2 h

def entityRow (entity : SemanticEntity) : Fields :=
  [("entity_id", .str entity.entityId.text), ("dataset_id", .str entity.datasetId),
    ("primary_key", .str entity.primaryKey.text),
    ("attributes", .arr (entity.attributes.map fun column ↦ .str column.text))]

def metricRow (metric : SemanticMetric) : Fields :=
  [("metric_id", .str metric.metricId.text), ("entity_id", .str metric.entityId.text),
    ("aggregation", .str metric.aggregation.word), ("field", .str metric.field.text),
    ("expression", .str metric.expression)]

theorem mappingRows_toFields (manifest : SemanticManifest) :
    mappingRows manifest.toFields "dimensions" = [] ∧
      mappingRows manifest.toFields "entities" = manifest.entities.map entityRow ∧
      mappingRows manifest.toFields "metrics" = manifest.metrics.map metricRow := by
  have hrows : ∀ {Row : Type} (toFields : Row → Fields) (rows : List Row),
      (rows.map fun row ↦ Json.obj (toFields row)).filterMap asObj? = rows.map toFields := by
    intro Row toFields rows
    rw [List.filterMap_map]
    exact congrFun (List.filterMap_eq_map (f := toFields)) rows
  exact ⟨rfl, hrows entityRow manifest.entities, hrows metricRow manifest.metrics⟩

/-- The detection finds the dataset of an entity. -/
theorem datasetOf_entity (h : manifest.Normalised) {entity : SemanticEntity}
    (hentity : entity ∈ manifest.entities) :
    datasetOf (manifest.entities.map entityRow) entity.entityId.text = entity.datasetId := by
  have hpairs : entityToDataset (manifest.entities.map entityRow) =
      (manifest.entities.map fun entity ↦ (entity.entityId.text, entity.datasetId)).reverse := by
    rw [entityToDataset, List.map_map, List.filter_eq_self.mpr]
    · refine congrArg List.reverse (List.map_congr_left fun other hother ↦ ?_)
      exact Prod.ext (strip_identifier other.entityId.valid) (h.datasetId_ne other hother).2
    · intro pair hpair
      obtain ⟨other, hother, rfl⟩ := List.mem_map.mp (List.mem_reverse.mp hpair)
      refine decide_eq_true ⟨fun hempty ↦ ?_, fun hempty ↦ ?_⟩
      · exact identifier_ne_empty other.entityId
          ((strip_identifier other.entityId.valid).symm.trans hempty)
      · exact (h.datasetId_ne other hother).1 ((h.datasetId_ne other hother).2.symm.trans hempty)
  have hnodup : ((manifest.entities.map fun entity ↦
      (entity.entityId.text, entity.datasetId)).reverse.map Prod.fst).Nodup := by
    rw [List.map_reverse, List.nodup_reverse, List.map_map]
    have hids := h.entityIds_nodup.map identifier_text_injective
    rwa [SemanticManifest.entityIds, List.map_map] at hids
  rw [datasetOf, hpairs, lookup_of_mem hnodup
    (List.mem_reverse.mpr (List.mem_map_of_mem (f := fun entity : SemanticEntity ↦
      (entity.entityId.text, entity.datasetId)) hentity))]
  rfl

theorem metricIssues_ne_nil_iff (lowerCase : String → String) (h : manifest.Normalised)
    {metric : SemanticMetric} (hmetric : metric ∈ manifest.metrics) {entity : SemanticEntity}
    (hentity : entity ∈ manifest.entities) (hid : entity.entityId = metric.entityId) :
    metricIssues lowerCase (manifest.entities.map entityRow) available (metricRow metric) ≠ [] ↔
      HasUnknownWord lowerCase (columnsOf available entity.datasetId) metric.expression := by
  have hmetricId : strippedText (metricRow metric) "metric_id" "" = metric.metricId.text :=
    strip_identifier metric.metricId.valid
  have hexpression : strippedText (metricRow metric) "expression" "" = metric.expression :=
    (h.expression metric hmetric).2
  have hentityId : strippedText (metricRow metric) "entity_id" "" = metric.entityId.text :=
    strip_identifier metric.entityId.valid
  have hdataset : datasetOf (manifest.entities.map entityRow) metric.entityId.text =
      entity.datasetId := hid ▸ datasetOf_entity h hentity
  have hkept : ¬(metric.metricId.text = "" ∨ metric.expression = "" ∨ entity.datasetId = "") := by
    rintro (hempty | hempty | hempty)
    · exact identifier_ne_empty _ hempty
    · exact (h.expression metric hmetric).1 hempty
    · exact (h.datasetId_ne entity hentity).1 hempty
  rw [metricIssues, hmetricId, hexpression, hentityId, hdataset, if_neg hkept, Ne, List.map_eq_nil_iff,
    List.filter_eq_nil_iff, HasUnknownWord]
  simp only [decide_eq_true_iff, not_forall, not_not, exists_prop, aggregationWords]

theorem reportsDrift_iff (lowerCase : String → String) (h : manifest.Normalised) :
    ReportsDrift lowerCase manifest available ↔
      ∃ metric ∈ manifest.metrics, ∃ entity ∈ manifest.entities, entity.entityId = metric.entityId ∧
        HasUnknownWord lowerCase (columnsOf available entity.datasetId) metric.expression := by
  obtain ⟨hdimensions, hentities, hmetrics⟩ := mappingRows_toFields manifest
  have hissues : ReportsDrift lowerCase manifest available ↔
      semanticManifestIssues lowerCase manifest.toFields available ≠ [] := by
    rw [ReportsDrift, detectSemanticManifestDrift]
    simp [get?]
  rw [hissues, semanticManifestIssues, hdimensions, hentities, hmetrics, List.flatMap_nil,
    List.nil_append, Ne, List.flatMap_eq_nil_iff]
  constructor
  · intro hsome
    push Not at hsome
    obtain ⟨row, hrow, hne⟩ := hsome
    obtain ⟨metric, hmetric, rfl⟩ := List.mem_map.mp hrow
    obtain ⟨entity, hentity, hid⟩ := List.mem_map.mp (h.metric_entity metric hmetric)
    exact ⟨metric, hmetric, entity, hentity, hid,
      (metricIssues_ne_nil_iff lowerCase h hmetric hentity hid).mp hne⟩
  · rintro ⟨metric, hmetric, entity, hentity, hid, hunknown⟩ hnone
    exact (metricIssues_ne_nil_iff lowerCase h hmetric hentity hid).mpr hunknown
      (hnone _ (List.mem_map_of_mem hmetric))

/-- The detection is exact when each miss comes with an unknown word in some expression, and each unknown word
in an expression written out with a miss. -/
theorem reportsDrift_exact_iff {payload : Fields} {expected : Option String}
    (h : validateSemanticManifest payload expected = .ok manifest) {lowerCase : String → String}
    (hlower : ∀ id : Identifier, lowerCase id.text = lower id.text) (available : AvailableColumns) :
    (ReportsDrift lowerCase manifest available ↔ MissesColumn manifest available) ↔
      ((MissesColumn manifest available →
          MissesField manifest available ∨ HasUnknownExpression lowerCase manifest available) ∧
        (HasUnknownExpression lowerCase manifest available → MissesColumn manifest available)) := by
  have hreports : ReportsDrift lowerCase manifest available ↔
      MissesField manifest available ∨ HasUnknownExpression lowerCase manifest available := by
    rw [reportsDrift_iff lowerCase (validateSemanticManifest_normalised h), MissesField,
      HasUnknownExpression]
    constructor
    · rintro ⟨metric, hmetric, entity, hentity, hid, hunknown⟩
      by_cases hdefault : metric.expression = defaultExpression metric
      · rw [hdefault, hasUnknownWord_default_iff hlower] at hunknown
        exact Or.inl ⟨metric, hmetric, entity, hentity, hid, hdefault, hunknown⟩
      · exact Or.inr ⟨metric, hmetric, entity, hentity, hid, hdefault, hunknown⟩
    · rintro (⟨metric, hmetric, entity, hentity, hid, hdefault, hmissing⟩ |
        ⟨metric, hmetric, entity, hentity, hid, -, hunknown⟩)
      · refine ⟨metric, hmetric, entity, hentity, hid, ?_⟩
        rwa [hdefault, hasUnknownWord_default_iff hlower]
      · exact ⟨metric, hmetric, entity, hentity, hid, hunknown⟩
  have hfield : MissesField manifest available → MissesColumn manifest available := by
    rintro ⟨metric, hmetric, entity, hentity, hid, -, -, hmissing⟩
    exact ⟨entity, hentity, metric.field, Or.inr (Or.inl ⟨metric, hmetric, hid.symm, rfl⟩), hmissing⟩
  rw [hreports]
  exact ⟨fun hexact ↦ ⟨hexact.mpr, fun hunknown ↦ hexact.mp (Or.inr hunknown)⟩,
    fun hexact ↦ ⟨fun hseen ↦ hseen.elim hfield hexact.2, hexact.1⟩⟩

end Validated

def keyedManifest : SemanticManifest where
  workspaceId := "w1"
  entities := [⟨⟨"orders", by decide⟩, "d1", ⟨"order_id", by decide⟩, []⟩]
  metrics := []
  joins := []

theorem validateSemanticManifest_keyedManifest :
    validateSemanticManifest keyedManifest.toFields none = .ok keyedManifest := by
  decide +kernel

/-- A lost primary key is not reported. -/
theorem lost_primary_key_not_reported :
    validateSemanticManifest keyedManifest.toFields none = .ok keyedManifest ∧
      ¬(ReportsDrift lower keyedManifest [("d1", ["total"])] ↔
        MissesColumn keyedManifest [("d1", ["total"])]) := by
  refine ⟨validateSemanticManifest_keyedManifest, fun h ↦ ?_⟩
  have hmisses : MissesColumn keyedManifest [("d1", ["total"])] :=
    ⟨_, List.mem_cons_self, ⟨"order_id", by decide⟩,
      Or.inl ⟨_, List.mem_cons_self, rfl, Or.inl rfl⟩, by decide⟩
  have hsilent : ¬ReportsDrift lower keyedManifest [("d1", ["total"])] := by
    rw [ReportsDrift]
    decide +kernel
  exact hsilent (h.mpr hmisses)

/-- With the key among the columns nothing is missed and nothing is reported. -/
theorem kept_primary_key_exact :
    ReportsDrift lower keyedManifest [("d1", ["order_id"])] ↔
      MissesColumn keyedManifest [("d1", ["order_id"])] := by
  refine (reportsDrift_exact_iff validateSemanticManifest_keyedManifest (fun _ ↦ rfl)
    [("d1", ["order_id"])]).mpr ⟨?_, ?_⟩
  · rintro ⟨entity, hentity, column, hcolumn, hmissing⟩
    obtain rfl := List.mem_singleton.mp hentity
    refine absurd ?_ hmissing
    rcases hcolumn with ⟨other, hother, -, hcolumn⟩ | ⟨metric, hmetric, -⟩ | ⟨join, hjoin, -⟩
    · obtain rfl := List.mem_singleton.mp hother
      obtain rfl := hcolumn.resolve_right List.not_mem_nil
      decide
    · exact absurd hmetric List.not_mem_nil
    · exact absurd hjoin List.not_mem_nil
  · rintro ⟨metric, hmetric, -⟩
    exact absurd hmetric List.not_mem_nil

end SchemaPilot.Workers
