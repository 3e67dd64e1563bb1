import SchemaPilot.Library.ItemByItem
import SchemaPilot.Library.StableSort
import SchemaPilot.SharedDomain.NormalManifest
import Mathlib.Data.List.Perm.Basic

/-!
# The normal form of a semantic manifest

What `validate_semantic_manifest` returns does not depend on the order of rows and attributes, on repeated
attributes and on blanks around ids (`validateSemanticManifest_rearranged`): rows are told apart by their ids, so
there is one order to sort them in, and every text is stripped before it is read.
-/

namespace SchemaPilot.SharedDomain

open Library Library.Text Library.Json

/-- A value, or a text with blanks added around it. -/
inductive Padded : Json → Json → Prop where
  | same (value : Json) : Padded value value
  | text (content : String) (before after : List Char) (hbefore : ∀ c ∈ before, isSpace c = true)
      (hafter : ∀ c ∈ after, isSpace c = true) :
      Padded (.str content) (.str (String.ofList (before ++ (content.toList ++ after))))

theorem Padded.strip_toStr {value other : Json} (h : Padded value other) :
    strip other.toStr = strip value.toStr := by
  cases h with
  | same => rfl
  | text content before after hbefore hafter =>
    rw [toStr_str, toStr_str, strip, String.toList_ofList, stripChars_padded hbefore hafter, strip]

theorem Padded.idText_eq {value other : Json} (h : Padded value other) :
    idText (some other) = idText (some value) := by
  cases h with
  | same => rfl
  | text content before after hbefore hafter =>
    rw [idText_str, idText_str]
    exact (Padded.text content before after hbefore hafter).strip_toStr

theorem Padded.normalizedId_eq {value other : Json} (h : Padded value other) (field : String) :
    normalizedId (some other) field = normalizedId (some value) field := by
  rw [normalizedId, normalizedId]
  simp only [h.idText_eq]

/-- A field with blanks added around its value. -/
def PaddedField (row other : Fields) (key : String) : Prop :=
  (get? row key = none ∧ get? other key = none) ∨
    ∃ value padded, get? row key = some value ∧ get? other key = some padded ∧ Padded value padded

section Fields

variable {row other : Fields} {key : String}

theorem PaddedField.of_eq (h : get? other key = get? row key) : PaddedField row other key := by
  cases hvalue : get? row key with
  | none => exact Or.inl ⟨hvalue, h.trans hvalue⟩
  | some value => exact Or.inr ⟨value, value, hvalue, h.trans hvalue, .same value⟩

theorem PaddedField.normalizedId_eq (h : PaddedField row other key) (field : String) :
    normalizedId (get? other key) field = normalizedId (get? row key) field := by
  rcases h with ⟨hrow, hother⟩ | ⟨value, padded, hrow, hother, hpadded⟩
  · rw [hrow, hother]
  · rw [hrow, hother, hpadded.normalizedId_eq]

theorem PaddedField.strippedText_eq (h : PaddedField row other key) (default : String) :
    strippedText other key default = strippedText row key default := by
  rw [strippedText, strippedText, getD, getD]
  rcases h with ⟨hrow, hother⟩ | ⟨value, padded, hrow, hother, hpadded⟩
  · rw [hrow, hother]
  · rw [hrow, hother, Option.getD_some, Option.getD_some, hpadded.strip_toStr]

end Fields

/-- The attributes of an entity in another order, repeated, and with blanks around them. -/
def RearrangedAttributes (items others : List Json) : Prop :=
  (∀ item ∈ items, ∃ padded ∈ others, Padded item padded) ∧
    ∀ padded ∈ others, ∃ item ∈ items, Padded item padded

/-- A list field that is the same, or whose items stand in a relation. -/
def RelatedLists (rel : List Json → List Json → Prop) (row other : Fields) (key : String) : Prop :=
  get? other key = get? row key ∨
    ∃ items others, get? row key = some (.arr items) ∧ get? other key = some (.arr others) ∧
      rel items others

/-- An entity row with blanks around its ids and its attributes rearranged. -/
def EntityVariant (row other : Fields) : Prop :=
  (∀ key ∈ ["entity_id", "dataset_id", "primary_key"], PaddedField row other key) ∧
    RelatedLists RearrangedAttributes row other "attributes"

/-- A metric row with blanks around its texts. -/
def MetricVariant (row other : Fields) : Prop :=
  ∀ key ∈ ["metric_id", "entity_id", "aggregation", "field", "expression"],
    PaddedField row other key

/-- A join row with blanks around its texts. -/
def JoinVariant (row other : Fields) : Prop :=
  ∀ key ∈ ["join_id", "left_entity_id", "right_entity_id", "left_key", "right_key", "join_type"],
    PaddedField row other key

def RowVariant (variant : Fields → Fields → Prop) (row other : Json) : Prop :=
  ∃ fields others, row = .obj fields ∧ other = .obj others ∧ variant fields others

def RearrangedRows (variant : Fields → Fields → Prop) (rows others : List Json) : Prop :=
  ∃ variants, List.Forall₂ (RowVariant variant) rows variants ∧ variants.Perm others

def HasJoinId (row : Json) : Prop :=
  ∃ fields, row = .obj fields ∧ strippedText fields "join_id" "" ≠ ""

/-- Variants of some joins in their order, or in any order where each of them says its id. -/
def RearrangedJoins (rows others : List Json) : Prop :=
  List.Forall₂ (RowVariant JoinVariant) rows others ∨
    ((∀ row ∈ rows, HasJoinId row) ∧ RearrangedRows JoinVariant rows others)

/-- A manifest with its entities, metrics, joins with ids, and attributes in another order, with attributes
repeated, and with blanks around its ids. -/
structure Rearranged (payload other : Fields) : Prop where
  version : PaddedField payload other "manifest_version"
  workspaceId : PaddedField payload other "workspace_id"
  entities : RelatedLists (RearrangedRows EntityVariant) payload other "entities"
  metrics : RelatedLists (RearrangedRows MetricVariant) payload other "metrics"
  joins : RelatedLists RearrangedJoins payload other "joins"

/-- What is normalised of a list is normalised of a related one. -/
theorem exists_listField_of_related {rel : List Json → List Json → Prop} {row other : Fields}
    {key error : String} (hrel : RelatedLists rel row other key) {items : List Json}
    (h : listField row key error = .ok items) {P : List Json → Prop} (hitems : P items)
    (hrelated : ∀ others, rel items others → P others) :
    ∃ others, listField other key error = .ok others ∧ P others := by
  rcases hrel with heq | ⟨given, others, hgiven, hothers, hrel⟩
  · rw [listField, getD, ← heq] at h
    exact ⟨items, h, hitems⟩
  · rw [listField, getD, hgiven] at h
    cases h
    exact ⟨others, by rw [listField, getD, hothers]; rfl, hrelated others hrel⟩

theorem identifier_text_injective : Function.Injective Identifier.text := by
  rintro ⟨first, _⟩ ⟨second, _⟩ (rfl : first = second)
  rfl

/-- The sorted set of identifiers depends on which identifiers there are. -/
theorem sortedIdentifiers_eq {ids others : List Identifier} (h : ∀ id, id ∈ ids ↔ id ∈ others) :
    sortedIdentifiers ids = sortedIdentifiers others := by
  have hperm : ids.dedup.Perm others.dedup :=
    (List.perm_ext_iff_of_nodup (List.nodup_dedup ids) (List.nodup_dedup others)).mpr fun id ↦ by
      rw [List.mem_dedup, List.mem_dedup, h]
  exact sortedBy_eq_of_perm Identifier.text hperm
    ((List.nodup_dedup ids).map identifier_text_injective)

/-- Rearranged attributes give the same set. -/
theorem attributes_rearranged {items others : List Json} (h : RearrangedAttributes items others)
    {ids : List Identifier}
    (hids : items.mapM (fun item ↦ normalizedId (some item) "attribute") = .ok ids) :
    ∃ otherIds, others.mapM (fun item ↦ normalizedId (some item) "attribute") = .ok otherIds ∧
      sortedIdentifiers otherIds = sortedIdentifiers ids := by
  rw [mapM_eq_ok_iff] at hids
  have hall : ∀ padded ∈ others, ∃ id, normalizedId (some padded) "attribute" = .ok id := by
    intro padded hmem
    obtain ⟨item, hitem, hpadded⟩ := h.2 padded hmem
    obtain ⟨id, -, hid⟩ := exists_mem_of_forall₂ hids hitem
    exact ⟨id, (hpadded.normalizedId_eq _).trans hid⟩
  obtain ⟨otherIds, hotherIds⟩ := exists_forall₂ hall
  refine ⟨otherIds, mapM_eq_ok_iff.mpr hotherIds, sortedIdentifiers_eq fun id ↦ ⟨fun hid ↦ ?_, fun hid ↦ ?_⟩⟩
  · obtain ⟨padded, hmem, hvalue⟩ := exists_mem_of_forall₂ hotherIds.flip hid
    obtain ⟨item, hitem, hpadded⟩ := h.2 padded hmem
    obtain ⟨same, hsame, hitemValue⟩ := exists_mem_of_forall₂ hids hitem
    rw [hpadded.normalizedId_eq, hitemValue] at hvalue
    cases hvalue
    exact hsame
  · obtain ⟨item, hitem, hvalue⟩ := exists_mem_of_forall₂ hids.flip hid
    obtain ⟨padded, hmem, hpadded⟩ := h.1 item hitem
    obtain ⟨same, hsame, hpaddedValue⟩ := exists_mem_of_forall₂ hotherIds hmem
    rw [hpadded.normalizedId_eq, hvalue] at hpaddedValue
    cases hpaddedValue
    exact hsame

theorem normalizeEntity_variant {seenIds otherSeen : List Identifier} {row other : Json}
    {entity : SemanticEntity} (h : RowVariant EntityVariant row other)
    (hrow : normalizeEntity seenIds row = .ok entity) (hunseen : entity.entityId ∉ otherSeen) :
    normalizeEntity otherSeen other = .ok entity := by
  obtain ⟨fields, others, rfl, rfl, hpadded, hlist⟩ := h
  simp only [List.forall_mem_cons] at hpadded
  obtain ⟨hid, hdataset, hkey, -⟩ := hpadded
  simp only [normalizeEntity, mappingRow, bind_eq_ok_iff, ite_error_eq_ok_iff, Except.ok.injEq,
    exists_eq_left'] at hrow
  obtain ⟨entityId, hentityId, -, hdatasetId, primaryKey, hprimaryKey, items, hitems, attributes,
    hattributes, rfl⟩ := hrow
  obtain ⟨otherItems, hotherItems, otherIds, hotherIds, hsame⟩ := exists_listField_of_related hlist
    hitems ⟨attributes, hattributes, rfl⟩ fun _ hrel ↦ attributes_rearranged hrel hattributes
  rw [normalizeEntity, mappingRow, ok_bind, hid.normalizedId_eq, hentityId, ok_bind, if_neg hunseen,
    hdataset.strippedText_eq, if_neg hdatasetId, hkey.normalizedId_eq, hprimaryKey, ok_bind,
    hotherItems, ok_bind, hotherIds, ok_bind, hsame]

theorem normalizeMetric_variant {entityIds seenIds otherSeen : List Identifier} {row other : Json}
    {metric : SemanticMetric} (h : RowVariant MetricVariant row other)
    (hrow : normalizeMetric entityIds seenIds row = .ok metric)
    (hunseen : metric.metricId ∉ otherSeen) :
    normalizeMetric entityIds otherSeen other = .ok metric := by
  obtain ⟨fields, others, rfl, rfl, hpadded⟩ := h
  rw [MetricVariant] at hpadded
  simp only [List.forall_mem_cons] at hpadded
  obtain ⟨hid, hentity, haggregation, hfield, hexpression, -⟩ := hpadded
  simp only [normalizeMetric, mappingRow, bind_eq_ok_iff, ite_error_eq_ok_iff, Except.ok.injEq,
    exists_eq_left'] at hrow
  obtain ⟨metricId, hmetricId, -, entityId, hentityId, hknown, hrow⟩ := hrow
  cases hword : Aggregation.ofWord? (lower (strippedText fields "aggregation" "")) with
  | none =>
    rw [hword] at hrow
    cases hrow
  | some word =>
    simp only [hword, bind_eq_ok_iff, Except.ok.injEq] at hrow
    obtain ⟨field, hfieldId, rfl⟩ := hrow
    rw [normalizeMetric, mappingRow, ok_bind, hid.normalizedId_eq, hmetricId, ok_bind,
      if_neg hunseen, hentity.normalizedId_eq, hentityId, ok_bind, if_neg hknown,
      haggregation.strippedText_eq, hword]
    dsimp only
    rw [hfield.normalizedId_eq, hfieldId, ok_bind, hexpression.strippedText_eq]

theorem normalizeJoin_variant {entityIds seenIds otherSeen : List Identifier} {index position : ℕ}
    {row other : Json} {join : SemanticJoin} (h : RowVariant JoinVariant row other)
    (hposition : position = index ∨ HasJoinId row)
    (hrow : normalizeJoin entityIds seenIds index row = .ok join) (hunseen : join.joinId ∉ otherSeen) :
    normalizeJoin entityIds otherSeen position other = .ok join := by
  obtain ⟨fields, others, rfl, rfl, hpadded⟩ := h
  rw [JoinVariant] at hpadded
  simp only [List.forall_mem_cons] at hpadded
  obtain ⟨hid, hleft, hright, hleftKey, hrightKey, htype, -⟩ := hpadded
  have hgiven : (if strippedText fields "join_id" "" = "" then "join_" ++ toString (position + 1)
      else strippedText fields "join_id" "") =
        if strippedText fields "join_id" "" = "" then "join_" ++ toString (index + 1)
        else strippedText fields "join_id" "" := by
    rcases hposition with rfl | ⟨same, hsame, hne⟩
    · rfl
    · cases hsame
      rw [if_neg hne, if_neg hne]
  simp only [normalizeJoin, mappingRow, bind_eq_ok_iff, ite_error_eq_ok_iff, Except.ok.injEq,
    exists_eq_left'] at hrow
  obtain ⟨joinId, hjoinId, -, leftEntityId, hleftId, rightEntityId, hrightId, hknown, leftKey,
    hleftKeyId, rightKey, hrightKeyId, hrow⟩ := hrow
  cases hword : JoinType.ofWord? (lower (strippedText fields "join_type" "inner")) with
  | none =>
    rw [hword] at hrow
    cases hrow
  | some word =>
    rw [hword] at hrow
    cases hrow
    rw [normalizeJoin, mappingRow, ok_bind]
    dsimp only
    rw [hid.strippedText_eq, hgiven, hjoinId, ok_bind, if_neg hunseen, hleft.normalizedId_eq, hleftId,
      ok_bind, hright.normalizedId_eq, hrightId, ok_bind, if_neg hknown, hleftKey.normalizedId_eq,
      hleftKeyId, ok_bind, hrightKey.normalizedId_eq, hrightKeyId, ok_bind, htype.strippedText_eq,
      hword]

section Rows

variable {Row : Type} {normalize : List Identifier → ℕ → Json → Except String Row}
  {idOf : Row → Identifier}

/-- The loop of a normaliser normalises each row at its place. -/
theorem forall₂_of_normalizeRows {rows : List Json} : ∀ {seenIds index result},
    normalizeRows normalize idOf seenIds index rows = .ok result →
      List.Forall₂ (fun row normalized ↦ ∃ seen, normalize seen row.2 row.1 = .ok normalized)
        (rows.zipIdx index) result := by
  induction rows with
  | nil =>
    intro seenIds index result h
    cases h
    exact List.Forall₂.nil
  | cons row rest ih =>
    intro seenIds index result h
    simp only [normalizeRows, bind_eq_ok_iff, Except.ok.injEq] at h
    obtain ⟨normalized, hnormalized, others, hothers, rfl⟩ := h
    rw [List.zipIdx_cons]
    exact List.Forall₂.cons ⟨seenIds, hnormalized⟩ (ih hothers)

/-- The loop returns rows with distinct ids that are normalised wherever their ids are unseen. -/
theorem normalizeRows_of_forall₂ {rows : List Json} : ∀ {seenIds index result},
    List.Forall₂ (fun row normalized ↦ ∀ seen, idOf normalized ∉ seen →
      normalize seen row.2 row.1 = .ok normalized) (rows.zipIdx index) result →
    (result.map idOf).Nodup → (∀ row ∈ result, idOf row ∉ seenIds) →
      normalizeRows normalize idOf seenIds index rows = .ok result := by
  induction rows with
  | nil =>
    intro seenIds index result h _ _
    cases h
    rfl
  | cons row rest ih =>
    intro seenIds index result h hnodup hunseen
    rw [List.zipIdx_cons, List.forall₂_cons_left_iff] at h
    obtain ⟨normalized, others, hnormalized, hothers, rfl⟩ := h
    rw [List.map_cons, List.nodup_cons] at hnodup
    rw [List.forall_mem_cons] at hunseen
    have hrest : ∀ other ∈ others, idOf other ∉ idOf normalized :: seenIds := by
      intro other hother hseen
      rcases List.mem_cons.mp hseen with hsame | hbefore
      · exact hnodup.1 (hsame ▸ List.mem_map_of_mem hother)
      · exact hunseen.2 other hother hbefore
    rw [normalizeRows, hnormalized _ hunseen.1, ok_bind, ih hothers hnodup.2 hrest, ok_bind]

/-- Variants of rows in any order are normalised to the same rows in some order, where a row does not need its
place. -/
theorem normalizeRows_rearranged {variant : Fields → Fields → Prop} {rows others : List Json}
    {result : List Row} (hrel : RearrangedRows variant rows others)
    (hvariant : ∀ row ∈ rows, ∀ other normalized, RowVariant variant row other →
      (∃ seen index, normalize seen index row = .ok normalized) →
        ∀ seen index, idOf normalized ∉ seen → normalize seen index other = .ok normalized)
    (hnodup : (result.map idOf).Nodup) (h : normalizeRows normalize idOf [] 0 rows = .ok result) :
    ∃ otherResult, normalizeRows normalize idOf [] 0 others = .ok otherResult ∧
      otherResult.Perm result := by
  obtain ⟨variants, hvariants, hperm⟩ := hrel
  have hrows : List.Forall₂ (fun row normalized ↦
      ∃ seen index, normalize seen index row = .ok normalized) rows result := by
    have hmap := List.zipIdx_map_fst 0 rows
    rw [← hmap, List.forall₂_map_left_iff]
    exact (forall₂_of_normalizeRows h).imp fun row _ ⟨seen, hrow⟩ ↦ ⟨seen, row.2, hrow⟩
  have hsame := forall₂_of_common hvariants hrows fun row hrow other normalized hother hnormalized ↦
    hvariant row hrow other normalized hother hnormalized
  obtain ⟨otherResult, hothers, hresult⟩ := List.perm_comp_forall₂ hperm.symm hsame
  refine ⟨otherResult, normalizeRows_of_forall₂ ?_ ((hresult.map idOf).nodup_iff.mpr hnodup) (by simp),
    hresult⟩
  rw [← List.zipIdx_map_fst 0 others, List.forall₂_map_left_iff] at hothers
  exact hothers.imp fun row _ hrow seen ↦ hrow seen row.2

end Rows

/-- A normaliser gives one order of rows with distinct ids. -/
theorem sorted_eq_of_perm {Row : Type} {idOf : Row → Identifier} {rows others : List Row}
    (hperm : others.Perm rows) (hnodup : (rows.map idOf).Nodup) :
    (others.insertionSort fun first second ↦ (idOf first).text ≤ (idOf second).text) =
      rows.insertionSort fun first second ↦ (idOf first).text ≤ (idOf second).text := by
  have htext : (rows.map fun row ↦ (idOf row).text).Nodup := by
    have hmap := hnodup.map identifier_text_injective
    rwa [List.map_map] at hmap
  exact (sortedBy_eq_of_perm (fun row ↦ (idOf row).text) hperm.symm htext).symm

theorem normalizeEntities_rearranged {rows others : List Json} {entities : List SemanticEntity}
    (hrel : RearrangedRows EntityVariant rows others) (h : normalizeEntities rows = .ok entities) :
    normalizeEntities others = .ok entities := by
  simp only [normalizeEntities, bind_eq_ok_iff, Except.ok.injEq] at h
  obtain ⟨normalized, hrows, rfl⟩ := h
  have hnodup := (normalizeRows_spec (fun _ _ _ _ hrow ↦ normalizeEntity_spec hrow) _ _ _ _ hrows).1
  obtain ⟨otherRows, hotherRows, hperm⟩ := normalizeRows_rearranged hrel
    (fun row _ other entity hother hread _ _ ↦ by
      obtain ⟨_, _, hrow⟩ := hread
      exact normalizeEntity_variant hother hrow) hnodup hrows
  rw [normalizeEntities, hotherRows, ok_bind, sorted_eq_of_perm hperm hnodup]

theorem normalizeMetrics_rearranged {entityIds : List Identifier} {rows others : List Json}
    {metrics : List SemanticMetric} (hrel : RearrangedRows MetricVariant rows others)
    (h : normalizeMetrics entityIds rows = .ok metrics) :
    normalizeMetrics entityIds others = .ok metrics := by
  simp only [normalizeMetrics, bind_eq_ok_iff, Except.ok.injEq] at h
  obtain ⟨normalized, hrows, rfl⟩ := h
  have hnodup := (normalizeRows_spec (fun _ _ _ _ hrow ↦ normalizeMetric_spec hrow) _ _ _ _ hrows).1
  obtain ⟨otherRows, hotherRows, hperm⟩ := normalizeRows_rearranged hrel
    (fun row _ other metric hother hread _ _ ↦ by
      obtain ⟨_, _, hrow⟩ := hread
      exact normalizeMetric_variant hother hrow) hnodup hrows
  rw [normalizeMetrics, hotherRows, ok_bind, sorted_eq_of_perm hperm hnodup]

theorem normalizeJoins_rearranged {entityIds : List Identifier} {rows others : List Json}
    {joins : List SemanticJoin} (hrel : RearrangedJoins rows others)
    (h : normalizeJoins entityIds rows = .ok joins) : normalizeJoins entityIds others = .ok joins := by
  simp only [normalizeJoins, bind_eq_ok_iff, Except.ok.injEq] at h
  obtain ⟨normalized, hrows, rfl⟩ := h
  have hnodup := (normalizeRows_spec (fun _ _ _ _ hrow ↦ normalizeJoin_spec hrow) _ _ _ _ hrows).1
  rcases hrel with hvariants | ⟨hids, hrel⟩
  · have hsame : List.Forall₂ (fun row join ↦ ∀ seen, join.joinId ∉ seen →
        normalizeJoin entityIds seen row.2 row.1 = .ok join) (others.zipIdx 0) normalized :=
      forall₂_of_common (zipIdx_forall₂ hvariants 0) (forall₂_of_normalizeRows hrows)
        fun _ _ _ _ hvariant hread _ ↦ by
          obtain ⟨_, hrow⟩ := hread
          exact normalizeJoin_variant hvariant.2 (Or.inl hvariant.1) hrow
    rw [normalizeJoins, normalizeRows_of_forall₂ hsame hnodup (by simp), ok_bind]
  · obtain ⟨otherRows, hotherRows, hperm⟩ := normalizeRows_rearranged hrel
      (fun row hmem other join hother hread _ _ ↦ by
        obtain ⟨_, _, hrow⟩ := hread
        exact normalizeJoin_variant hother (Or.inr (hids row hmem)) hrow) hnodup hrows
    rw [normalizeJoins, hotherRows, ok_bind, sorted_eq_of_perm hperm hnodup]

/-- What is accepted is accepted with the same normal form after a rearrangement. -/
theorem validateSemanticManifest_of_rearranged {payload other : Fields} {expected : Option String}
    {manifest : SemanticManifest} (hrel : Rearranged payload other)
    (h : validateSemanticManifest payload expected = .ok manifest) :
    validateSemanticManifest other expected = .ok manifest := by
  simp only [validateSemanticManifest, bind_eq_ok_iff, ite_error_eq_ok_iff, Except.ok.injEq] at h
  obtain ⟨hversion, hworkspace, hexpected, entityRows, hentityRows, metricRows, hmetricRows, joinRows,
    hjoinRows, entities, hentities, metrics, hmetrics, joins, hjoins, rfl⟩ := h
  obtain ⟨otherEntities, hotherEntities, hsameEntities⟩ := exists_listField_of_related
    hrel.entities hentityRows hentities fun _ hothers ↦ normalizeEntities_rearranged hothers hentities
  obtain ⟨otherMetrics, hotherMetrics, hsameMetrics⟩ := exists_listField_of_related
    hrel.metrics hmetricRows hmetrics fun _ hothers ↦ normalizeMetrics_rearranged hothers hmetrics
  obtain ⟨otherJoins, hotherJoins, hsameJoins⟩ := exists_listField_of_related
    hrel.joins hjoinRows hjoins fun _ hothers ↦ normalizeJoins_rearranged hothers hjoins
  simp only [validateSemanticManifest]
  rw [hrel.version.strippedText_eq, if_neg hversion, hrel.workspaceId.strippedText_eq,
    if_neg hworkspace, if_neg hexpected, hotherEntities, ok_bind, hotherMetrics, ok_bind, hotherJoins,
    ok_bind, hsameEntities, ok_bind, hsameMetrics, ok_bind, hsameJoins, ok_bind]

theorem paddedField_readBack {fields : Fields} {key content : String}
    (h : get? fields key = some (.str content)) : PaddedField (readBack fields) fields key :=
  .of_eq (h.trans (get?_readBack_str h).symm)

theorem relatedLists_readBack {rel : List Json → List Json → Prop} {fields : Fields} {key : String}
    {items : List Json} (h : get? fields key = some (.arr items)) (hrel : rel (items.map canon) items) :
    RelatedLists rel (readBack fields) fields key := by
  refine Or.inr ⟨items.map canon, items, ?_, h, hrel⟩
  rw [get?_readBack, h, Option.map_some, canon, canonItems_eq_map]

theorem forall₂_readBack {Row : Type} {toFields : Row → Fields} {variant : Fields → Fields → Prop}
    (h : ∀ row, variant (readBack (toFields row)) (toFields row)) (rows : List Row) :
    List.Forall₂ (RowVariant variant) ((rows.map fun row ↦ Json.obj (toFields row)).map canon)
      (rows.map fun row ↦ Json.obj (toFields row)) := by
  rw [List.map_map, List.forall₂_map_left_iff, List.forall₂_map_right_iff, List.forall₂_same]
  exact fun row _ ↦ ⟨_, _, canon_obj _, rfl, h row⟩

theorem rearrangedAttributes_readBack (columns : List Identifier) :
    RearrangedAttributes ((columns.map fun column ↦ Json.str column.text).map canon)
      (columns.map fun column ↦ Json.str column.text) := by
  have hsame : (columns.map fun column ↦ Json.str column.text).map canon =
      columns.map fun column ↦ Json.str column.text := List.map_map
  rw [hsame]
  exact ⟨fun item hitem ↦ ⟨item, hitem, .same item⟩, fun item hitem ↦ ⟨item, hitem, .same item⟩⟩

/-- What was written and read back is rearranged to what was written. -/
theorem rearranged_toFields (manifest : SemanticManifest) :
    Rearranged (readBack manifest.toFields) manifest.toFields where
  version := paddedField_readBack rfl
  workspaceId := paddedField_readBack rfl
  entities := relatedLists_readBack rfl ⟨_, forall₂_readBack (fun entity ↦
    ⟨by
      simp only [List.forall_mem_cons]
      exact ⟨paddedField_readBack rfl, paddedField_readBack rfl, paddedField_readBack rfl, by simp⟩,
    relatedLists_readBack rfl (rearrangedAttributes_readBack entity.attributes)⟩) _, List.Perm.refl _⟩
  metrics := relatedLists_readBack rfl ⟨_, forall₂_readBack (fun metric ↦ by
    rw [MetricVariant]
    simp only [List.forall_mem_cons]
    exact ⟨paddedField_readBack rfl, paddedField_readBack rfl, paddedField_readBack rfl,
      paddedField_readBack rfl, paddedField_readBack rfl, by simp⟩) _, List.Perm.refl _⟩
  joins := relatedLists_readBack rfl (Or.inl (forall₂_readBack (fun join ↦ by
    rw [JoinVariant]
    simp only [List.forall_mem_cons]
    exact ⟨paddedField_readBack rfl, paddedField_readBack rfl, paddedField_readBack rfl,
      paddedField_readBack rfl, paddedField_readBack rfl, paddedField_readBack rfl, by simp⟩) _))

/-- What the validation returns is validated as itself. -/
theorem validateSemanticManifest_toFields {payload : Fields} {expected : Option String}
    {manifest : SemanticManifest} (h : validateSemanticManifest payload expected = .ok manifest) :
    validateSemanticManifest manifest.toFields expected = .ok manifest :=
  validateSemanticManifest_of_rearranged (rearranged_toFields manifest)
    (validateSemanticManifest_readBack (validateSemanticManifest_normalised h)
      (validateSemanticManifest_wellFormed h).2)

/-- The validation returns a normal form: it is validated as itself, and so is every rearrangement of the manifest,
with the same checksum. -/
theorem validateSemanticManifest_normalForm {payload : Fields} {expected : Option String}
    {manifest : SemanticManifest} (h : validateSemanticManifest payload expected = .ok manifest) :
    validateSemanticManifest manifest.toFields expected = .ok manifest ∧
      ∀ other, Rearranged payload other →
        validateSemanticManifest other expected = .ok manifest ∧
          ∀ sha256Hex, (validateSemanticManifest other expected).map
            (semanticManifestChecksum sha256Hex) = .ok (semanticManifestChecksum sha256Hex manifest) := by
  refine ⟨validateSemanticManifest_toFields h, fun other hother ↦ ?_⟩
  have hsame := validateSemanticManifest_of_rearranged hother h
  exact ⟨hsame, fun sha256Hex ↦ by rw [hsame]; rfl⟩

/-- An entity row of a dataset keyed by a column `id`. -/
def keyedEntity (entityId datasetId : String) (attributes : List String) : Json :=
  .obj [("entity_id", .str entityId), ("dataset_id", .str datasetId), ("primary_key", .str "id"),
    ("attributes", textList attributes)]

def entitiesManifest (entities : List Json) : Fields :=
  [("manifest_version", .str "1"), ("workspace_id", .str "w1"), ("entities", .arr entities)]

theorem rearrangedAttributes_of_subset {attributes others : List String} (h : attributes ⊆ others)
    (hback : others ⊆ attributes) :
    RearrangedAttributes (attributes.map Json.str) (others.map Json.str) := by
  have hsame : ∀ {first second : List String}, first ⊆ second → ∀ item ∈ first.map Json.str,
      ∃ other ∈ second.map Json.str, other = item := by
    intro first second hsubset item hitem
    obtain ⟨text, htext, rfl⟩ := List.mem_map.mp hitem
    exact ⟨_, List.mem_map_of_mem (hsubset htext), rfl⟩
  refine ⟨fun item hitem ↦ ?_, fun item hitem ↦ ?_⟩
  · obtain ⟨other, hother, rfl⟩ := hsame h item hitem
    exact ⟨other, hother, .same other⟩
  · obtain ⟨other, hother, rfl⟩ := hsame hback item hitem
    exact ⟨other, hother, .same other⟩

/-- The fields of a keyed entity with blanks around its ids, and its attributes rearranged. -/
theorem rowVariant_keyedEntity {entityId otherId datasetId otherDataset : String}
    {attributes others : List String} (hid : Padded (.str entityId) (.str otherId))
    (hdataset : Padded (.str datasetId) (.str otherDataset))
    (hattributes : RearrangedAttributes (attributes.map Json.str) (others.map Json.str)) :
    RowVariant EntityVariant (keyedEntity entityId datasetId attributes)
      (keyedEntity otherId otherDataset others) := by
  refine ⟨_, _, rfl, rfl, ?_, Or.inr ⟨_, _, rfl, rfl, hattributes⟩⟩
  simp only [List.forall_mem_cons]
  exact ⟨Or.inr ⟨_, _, rfl, rfl, hid⟩, Or.inr ⟨_, _, rfl, rfl, hdataset⟩, .of_eq rfl, by simp⟩

/-- The other way round, with an attribute repeated and blanks around ids. -/
theorem two_entities_normalForm :
    validateSemanticManifest (entitiesManifest [keyedEntity "orders " "d2" ["total", "at", "total"],
        keyedEntity "items" " d1" []]) none =
      validateSemanticManifest (entitiesManifest [keyedEntity "items" "d1" [],
        keyedEntity "orders" "d2" ["at", "total"]]) none := by
  have hvalid : (validateSemanticManifest (entitiesManifest [keyedEntity "items" "d1" [],
      keyedEntity "orders" "d2" ["at", "total"]]) none).isOk = true := by decide +kernel
  have hitems : RowVariant EntityVariant (keyedEntity "items" "d1" []) (keyedEntity "items" " d1" []) :=
    rowVariant_keyedEntity (.same _) (Padded.text "d1" [' '] [] (by decide) (by simp))
      (rearrangedAttributes_of_subset (by simp) (by simp))
  have horders : RowVariant EntityVariant (keyedEntity "orders" "d2" ["at", "total"])
      (keyedEntity "orders " "d2" ["total", "at", "total"]) :=
    rowVariant_keyedEntity (Padded.text "orders" [] [' '] (by simp) (by decide)) (.same _)
      (rearrangedAttributes_of_subset (by simp) (by simp))
  have hrearranged : Rearranged
      (entitiesManifest [keyedEntity "items" "d1" [], keyedEntity "orders" "d2" ["at", "total"]])
      (entitiesManifest [keyedEntity "orders " "d2" ["total", "at", "total"],
        keyedEntity "items" " d1" []]) := {
    version := .of_eq rfl
    workspaceId := .of_eq rfl
    entities := Or.inr ⟨_, _, rfl, rfl, _, .cons hitems (.cons horders .nil), List.Perm.swap _ _ _⟩
    metrics := Or.inl rfl
    joins := Or.inl rfl }
  cases hmanifest : validateSemanticManifest (entitiesManifest [keyedEntity "items" "d1" [],
      keyedEntity "orders" "d2" ["at", "total"]]) none with
  | error error =>
    rw [hmanifest] at hvalid
    cases hvalid
  | ok manifest => exact ((validateSemanticManifest_normalForm hmanifest).2 _ hrearranged).1

end SchemaPilot.SharedDomain
