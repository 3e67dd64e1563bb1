import SchemaPilot.Gateway.SemanticBinding
import SchemaPilot.Library.SqlText

/-!
# The SELECT block of a bound query

The text a binding writes is that of one SELECT block (`boundSelect`, `sqlText_eq_render`), over
which the results on bound queries speak of tables, aliases and columns. What a binding that
succeeded has found in the manifest is collected once (`bindManifest_spec`): the metric, the
grouping columns with their entities, and a join for every further entity.
-/

namespace SchemaPilot.Gateway

open Library Library.Text Library.Json SharedDomain

def boundTable (involved : List Identifier) (entityId : Identifier) : Sql.TableRef :=
  ⟨"gold", entityId.text, some (tableAlias involved entityId)⟩

def boundColumn (involved : List Identifier) (entityId column : Identifier) : Sql.ColumnRef :=
  ⟨some (tableAlias involved entityId), column.text⟩

/-- The column name of a grouping column in the result. -/
def GroupItem.outputName (item : GroupItem) : String :=
  item.entityId.text ++ "__" ++ item.column.text

def joinKind : JoinType → Sql.JoinKind
  | .inner => .inner
  | .left => .left
  | .right => .right
  | .full => .full

def boundJoin (involved : List Identifier) (targetEntityId : Identifier) (join : SemanticJoin) :
    Sql.Join :=
  ⟨joinKind join.joinType, boundTable involved targetEntityId,
    boundColumn involved join.leftEntityId join.leftKey,
    boundColumn involved join.rightEntityId join.rightKey⟩

/-- The output columns: the grouping columns and the metric. -/
def boundItems (metric : SemanticMetric) (groupBy : List GroupItem) : List Sql.Item :=
  let involved := involvedEntities metric.entityId groupBy
  (groupBy.map fun item ↦
    ⟨.scalar (.column (boundColumn involved item.entityId item.column)), some item.outputName⟩) ++
  [⟨.aggregate metric.aggregation.word (.column (boundColumn involved metric.entityId metric.field)),
    some "metric_value"⟩]

/-- The SELECT block of a metric and grouping columns. -/
def boundSelect (manifest : SemanticManifest) (metric : SemanticMetric)
    (groupBy : List GroupItem) : Sql.Select :=
  let involved := involvedEntities metric.entityId groupBy
  { items := boundItems metric groupBy
    source := boundTable involved metric.entityId
    joins := (involved.filter (· ≠ metric.entityId)).filterMap fun target ↦
      (findJoinBetween manifest.joins metric.entityId target).map (boundJoin involved target)
    condition := none
    groupBy := groupBy.map fun item ↦ boundColumn involved item.entityId item.column }

theorem joinWords_eq (joinType : JoinType) : joinWords joinType = (joinKind joinType).words := by
  cases joinType <;> rfl

theorem buildJoinClause_eq_ok_iff {involved : List Identifier} {joins : List SemanticJoin}
    {baseEntityId targetEntityId : Identifier} {clause : String} :
    buildJoinClause involved joins baseEntityId targetEntityId = .ok clause ↔
      ∃ join, findJoinBetween joins baseEntityId targetEntityId = some join ∧
        clause = (boundJoin involved targetEntityId join).render := by
  unfold buildJoinClause
  cases findJoinBetween joins baseEntityId targetEntityId with
  | none => simp
  | some join =>
    have htext : joinWords join.joinType ++ " gold." ++ targetEntityId.text ++ " as " ++
        tableAlias involved targetEntityId ++ " on " ++ tableAlias involved join.leftEntityId ++
        "." ++ join.leftKey.text ++ " = " ++ tableAlias involved join.rightEntityId ++ "." ++
        join.rightKey.text = (boundJoin involved targetEntityId join).render := by
      rw [joinWords_eq, ← String.toList_inj]
      simp [boundJoin, boundTable, boundColumn, Sql.Join.render, Sql.TableRef.render,
        Sql.ColumnRef.render, Sql.renderAlias]
    simp only [Except.ok.injEq, Option.some.injEq, exists_eq_left', htext]
    exact eq_comm

/-- The join clauses of a binding are the texts of the joins of its block, one for each entity to
bring in. -/
theorem mapM_buildJoinClause {involved targets : List Identifier} {joins : List SemanticJoin}
    {baseEntityId : Identifier} : ∀ {clauses : List String},
    targets.mapM (buildJoinClause involved joins baseEntityId) = .ok clauses →
      (∀ target ∈ targets, ∃ join, findJoinBetween joins baseEntityId target = some join) ∧
      clauses = (targets.filterMap fun target ↦
        (findJoinBetween joins baseEntityId target).map (boundJoin involved target)).map
          Sql.Join.render := by
  induction targets with
  | nil =>
    intro clauses h
    cases h
    simp
  | cons target rest ih =>
    intro clauses h
    rw [List.mapM_cons] at h
    obtain ⟨clause, hclause, h⟩ := (bind_eq_ok_iff _ _ _).mp h
    obtain ⟨others, hothers, h⟩ := (bind_eq_ok_iff _ _ _).mp h
    cases h
    obtain ⟨join, hjoin, rfl⟩ := buildJoinClause_eq_ok_iff.mp hclause
    obtain ⟨hfound, htexts⟩ := ih hothers
    refine ⟨List.forall_mem_cons.mpr ⟨⟨join, hjoin⟩, hfound⟩, ?_⟩
    simp [hjoin, htexts]

/-- Texts led by a blank each are the texts with blanks between them, led by a blank. -/
theorem join_map_blank (texts : List String) :
    String.join (texts.map (" " ++ ·)) =
      if texts = [] then "" else " " ++ String.intercalate " " texts := by
  induction texts with
  | nil => rfl
  | cons text rest ih =>
    rw [List.map_cons, String.join_cons, ih, if_neg (List.cons_ne_nil _ _)]
    by_cases hrest : rest = []
    · simp [hrest]
    · rw [if_neg hrest, String.intercalate_cons_of_ne_nil hrest]
      simp [String.append_assoc]

/-- The text of a binding is that of its block. -/
theorem sqlText_eq_render {manifest : SemanticManifest} {metric : SemanticMetric}
    {groupBy : List GroupItem} {joinClauses : List String}
    (h : joinClausesOf manifest metric groupBy = .ok joinClauses) :
    sqlText metric groupBy joinClauses = (boundSelect manifest metric groupBy).render := by
  obtain ⟨-, hclauses⟩ := mapM_buildJoinClause h
  have hjoins : String.join ((boundSelect manifest metric groupBy).joins.map fun join ↦
      " " ++ join.render) =
      if joinClauses = [] then "" else " " ++ String.intercalate " " joinClauses := by
    rw [hclauses, ← join_map_blank, List.map_map]
    rfl
  have hitems : (boundSelect manifest metric groupBy).items.map Sql.Item.render =
      (groupBy.map fun item ↦
        tableAlias (involvedEntities metric.entityId groupBy) item.entityId ++ "." ++
          item.column.text ++ " as " ++ item.entityId.text ++ "__" ++ item.column.text) ++
      [buildMetricExpression metric
        (tableAlias (involvedEntities metric.entityId groupBy) metric.entityId) ++
          " as metric_value"] := by
    simp [boundSelect, boundItems, Sql.Item.render, Sql.ItemExpr.render, Sql.Scalar.render,
      Sql.ColumnRef.render, Sql.renderAlias, boundColumn, GroupItem.outputName,
      buildMetricExpression, String.append_assoc, Function.comp_def]
  have hgroups : (boundSelect manifest metric groupBy).groupBy.map Sql.ColumnRef.render =
      groupBy.map fun item ↦
        tableAlias (involvedEntities metric.entityId groupBy) item.entityId ++ "." ++
          item.column.text := by
    simp [boundSelect, Sql.ColumnRef.render, boundColumn, Function.comp_def]
  have hgrouped : (boundSelect manifest metric groupBy).groupBy = [] ↔ groupBy = [] := by
    simp [boundSelect]
  unfold sqlText Sql.Select.render
  rw [hitems, hjoins, hgroups, ← String.toList_inj]
  simp only [hgrouped, List.map_eq_nil_iff]
  simp [boundSelect, boundTable, Sql.TableRef.render, Sql.renderAlias]

/-- The grouping column is the primary key or an attribute of its entity. -/
def GroupItem.In (entities : List SemanticEntity) (item : GroupItem) : Prop :=
  ∃ entity ∈ entities, entity.entityId = item.entityId ∧
    item.column ∈ entity.primaryKey :: entity.attributes

theorem parseGroupItem_spec {defaultEntityId : Identifier} {entities : List SemanticEntity}
    {itemRaw : Json} {item : GroupItem}
    (h : parseGroupItem defaultEntityId entities itemRaw = .ok (some item)) :
    item.In entities := by
  unfold parseGroupItem at h
  by_cases hblank : strip itemRaw.toStr = ""
  · simp [hblank] at h
  simp only [hblank, if_false] at h
  split at h
  · rename_i entityId column _ _
    split at h
    · cases h
    · rename_i entity hentity
      have hfound : entity.entityId = entityId := by simpa using List.find?_some hentity
      split_ifs at h with hcolumn
      cases h
      exact ⟨entity, List.mem_of_find?_eq_some hentity, hfound, hcolumn⟩
  · cases h

/-- The grouping columns of a query are distinct and belong to their entities. -/
theorem parseGroupItems_spec {defaultEntityId : Identifier} {entities : List SemanticEntity}
    (rows : List Json) : ∀ {normalized groupBy : List GroupItem}, normalized.Nodup →
      (∀ item ∈ normalized, item.In entities) →
      parseGroupItems defaultEntityId entities normalized rows = .ok groupBy →
      groupBy.Nodup ∧ ∀ item ∈ groupBy, item.In entities := by
  induction rows with
  | nil =>
    intro normalized groupBy hnodup hin h
    cases h
    exact ⟨hnodup, hin⟩
  | cons itemRaw rest ih =>
    intro normalized groupBy hnodup hin h
    rw [parseGroupItems] at h
    obtain ⟨parsed, hparsed, h⟩ := (bind_eq_ok_iff _ _ _).mp h
    cases parsed with
    | none => exact ih hnodup hin h
    | some item =>
      by_cases hseen : item ∈ normalized
      · simp only [hseen, if_true] at h
        exact ih hnodup hin h
      · simp only [hseen, if_false] at h
        refine ih ?_ ?_ h
        · simpa [List.nodup_append] using ⟨hnodup, fun other hother heq ↦ hseen (heq ▸ hother)⟩
        · intro other hother
          rcases List.mem_append.mp hother with hother | hother
          · exact hin other hother
          · rw [List.mem_singleton] at hother
            subst hother
            exact parseGroupItem_spec hparsed

theorem parseGroupBy_spec {semanticQuery : Fields} {defaultEntityId : Identifier}
    {entities : List SemanticEntity} {groupBy : List GroupItem}
    (h : parseGroupBy semanticQuery defaultEntityId entities = .ok groupBy) :
    groupBy.Nodup ∧ ∀ item ∈ groupBy, item.In entities := by
  unfold parseGroupBy at h
  split at h
  · exact parseGroupItems_spec _ List.nodup_nil (fun _ hitem ↦ absurd hitem List.not_mem_nil) h
  · cases h

/-- The involved entities are the metric's entity followed by the other entities of the grouping
columns, each once. -/
theorem involvedEntities_spec (metricEntityId : Identifier) (groupBy : List GroupItem) :
    (involvedEntities metricEntityId groupBy).Nodup ∧
      (∃ others, involvedEntities metricEntityId groupBy = metricEntityId :: others) ∧
      ∀ entityId, entityId ∈ involvedEntities metricEntityId groupBy ↔
        entityId = metricEntityId ∨ ∃ item ∈ groupBy, item.entityId = entityId := by
  have hfold : ∀ (items : List GroupItem) (involved : List Identifier), involved.Nodup →
      let result := items.foldl (fun involved item ↦
        if item.entityId ∈ involved then involved else involved ++ [item.entityId]) involved
      result.Nodup ∧ (∃ others, result = involved ++ others) ∧ ∀ entityId, entityId ∈ result ↔
        entityId ∈ involved ∨ ∃ item ∈ items, item.entityId = entityId := by
    intro items
    induction items with
    | nil => exact fun involved hnodup ↦ ⟨hnodup, ⟨[], by simp⟩, by simp⟩
    | cons item rest ih =>
      intro involved hnodup
      by_cases hseen : item.entityId ∈ involved
      · obtain ⟨hrest, hothers, hmem⟩ := ih involved hnodup
        simp only [List.foldl_cons, hseen, if_true]
        refine ⟨hrest, hothers, fun entityId ↦ ?_⟩
        rw [hmem, List.exists_mem_cons_iff]
        constructor
        · rintro (h | h)
          · exact Or.inl h
          · exact Or.inr (Or.inr h)
        · rintro (h | h | h)
          · exact Or.inl h
          · exact Or.inl (h ▸ hseen)
          · exact Or.inr h
      · have hnodup' : (involved ++ [item.entityId]).Nodup := by
          simpa [List.nodup_append] using
            ⟨hnodup, fun other hother heq ↦ hseen (heq ▸ hother)⟩
        obtain ⟨hrest, ⟨others, hothers⟩, hmem⟩ := ih _ hnodup'
        simp only [List.foldl_cons, hseen, if_false]
        refine ⟨hrest, ⟨item.entityId :: others, by rw [hothers]; simp⟩, fun entityId ↦ ?_⟩
        rw [hmem, List.exists_mem_cons_iff, List.mem_append, List.mem_singleton, or_assoc,
          @eq_comm _ entityId]
  obtain ⟨hnodup, ⟨others, hothers⟩, hmem⟩ := hfold groupBy [metricEntityId] (by simp)
  exact ⟨hnodup, ⟨others, hothers⟩, fun entityId ↦ by
    rw [involvedEntities, hmem, List.mem_singleton]⟩

/-- The first involved entity is the metric's, the others are those to bring in. -/
theorem involvedEntities_eq (metricEntityId : Identifier) (groupBy : List GroupItem) :
    involvedEntities metricEntityId groupBy = metricEntityId ::
      (involvedEntities metricEntityId groupBy).filter (· ≠ metricEntityId) := by
  obtain ⟨hnodup, ⟨others, hothers⟩, -⟩ := involvedEntities_spec metricEntityId groupBy
  rw [hothers] at hnodup ⊢
  have hnew : metricEntityId ∉ others := (List.nodup_cons.mp hnodup).1
  have hfilter : others.filter (· ≠ metricEntityId) = others :=
    List.filter_eq_self.mpr fun other hother ↦ by
      simpa using fun heq : other = metricEntityId ↦ hnew (heq ▸ hother)
  rw [List.filter_cons_of_neg (by simp), hfilter]

/-- Involved entities have different aliases. -/
theorem tableAlias_inj {involved : List Identifier} {first second : Identifier}
    (hfirst : first ∈ involved) (h : tableAlias involved first = tableAlias involved second) :
    first = second := by
  have hindex : involved.idxOf first = involved.idxOf second := by
    rw [tableAlias, tableAlias, String.append_right_inj] at h
    exact natRepr_injective h
  exact (List.idxOf_inj hfirst).mp hindex

theorem findJoinBetween_spec {joins : List SemanticJoin} {left right : Identifier}
    {join : SemanticJoin} (h : findJoinBetween joins left right = some join) :
    join ∈ joins ∧ ((join.leftEntityId = left ∧ join.rightEntityId = right) ∨
      (join.leftEntityId = right ∧ join.rightEntityId = left)) :=
  ⟨List.mem_of_find?_eq_some h, by simpa using List.find?_some h⟩

/-- What a binding that succeeded has found: the metric, the grouping columns, and a join between
the metric's entity and every other entity involved. -/
structure BoundParts (manifest : SemanticManifest) (metricId : Identifier)
    (semanticQuery : Fields) where
  metric : SemanticMetric
  groupBy : List GroupItem
  found : manifest.metrics.find? (fun metric ↦ metric.metricId = metricId) = some metric
  metric_entity : metric.entityId ∈ manifest.entityIds
  parsed : parseGroupBy semanticQuery metric.entityId manifest.entities = .ok groupBy
  joined : ∀ target ∈ (involvedEntities metric.entityId groupBy).filter (· ≠ metric.entityId),
    ∃ join, findJoinBetween manifest.joins metric.entityId target = some join

namespace BoundParts

variable {manifest : SemanticManifest} {metricId : Identifier} {semanticQuery : Fields}
  (parts : BoundParts manifest metricId semanticQuery)

def involved : List Identifier := involvedEntities parts.metric.entityId parts.groupBy

/-- The SELECT block. -/
def select : Sql.Select := boundSelect manifest parts.metric parts.groupBy

/-- The joins of the other involved entities with the metric's. -/
def joins : List SemanticJoin :=
  (parts.involved.filter (· ≠ parts.metric.entityId)).filterMap
    (findJoinBetween manifest.joins parts.metric.entityId)

theorem metric_mem : parts.metric ∈ manifest.metrics := List.mem_of_find?_eq_some parts.found

theorem involved_nodup : parts.involved.Nodup := (involvedEntities_spec _ _).1

theorem metric_involved : parts.metric.entityId ∈ parts.involved :=
  ((involvedEntities_spec _ _).2.2 _).mpr (Or.inl rfl)

theorem item_involved {item : GroupItem} (h : item ∈ parts.groupBy) :
    item.entityId ∈ parts.involved :=
  ((involvedEntities_spec _ _).2.2 _).mpr (Or.inr ⟨item, h, rfl⟩)

theorem item_in {item : GroupItem} (h : item ∈ parts.groupBy) : item.In manifest.entities :=
  (parseGroupBy_spec parts.parsed).2 item h

theorem mem_entityIds {entityId : Identifier} (h : entityId ∈ parts.involved) :
    entityId ∈ manifest.entityIds := by
  rcases ((involvedEntities_spec _ _).2.2 _).mp h with rfl | ⟨item, hitem, rfl⟩
  · exact parts.metric_entity
  · obtain ⟨entity, hentity, heq, -⟩ := parts.item_in hitem
    rw [← heq]
    exact List.mem_map_of_mem hentity

/-- The tables of the block are those of the involved entities. -/
theorem tables_eq : parts.select.tables = parts.involved.map (boundTable parts.involved) := by
  have hjoined : ∀ targets : List Identifier,
      (∀ target ∈ targets,
        ∃ join, findJoinBetween manifest.joins parts.metric.entityId target = some join) →
      (targets.filterMap fun target ↦
        (findJoinBetween manifest.joins parts.metric.entityId target).map
          (boundJoin parts.involved target)).map Sql.Join.table =
        targets.map (boundTable parts.involved) := by
    intro targets
    induction targets with
    | nil => exact fun _ ↦ rfl
    | cons target rest ih =>
      intro hfound
      obtain ⟨⟨join, hjoin⟩, hrest⟩ := List.forall_mem_cons.mp hfound
      simp only [List.filterMap_cons, hjoin, Option.map_some, List.map_cons, ih hrest]
      rfl
  have htargets := hjoined _ parts.joined
  rw [involved] at htargets
  rw [Sql.Select.tables, select, boundSelect, htargets, involved]
  exact (congrArg (List.map (boundTable (involvedEntities parts.metric.entityId parts.groupBy)))
    (involvedEntities_eq parts.metric.entityId parts.groupBy)).symm

/-- The joins of the block are those of the manifest, each with the entity it brings in. -/
theorem mem_joins {join : Sql.Join} (h : join ∈ parts.select.joins) :
    ∃ target ∈ parts.involved, ∃ source ∈ parts.joins, source ∈ manifest.joins ∧
      source.leftEntityId ∈ parts.involved ∧ source.rightEntityId ∈ parts.involved ∧
      join = boundJoin parts.involved target source := by
  obtain ⟨target, htarget, hjoin⟩ := List.mem_filterMap.mp h
  obtain ⟨source, hsource, rfl⟩ := Option.map_eq_some_iff.mp hjoin
  obtain ⟨hmem, hends⟩ := findJoinBetween_spec hsource
  have hinvolved : target ∈ parts.involved := List.mem_of_mem_filter htarget
  refine ⟨target, hinvolved, source, List.mem_filterMap.mpr ⟨target, htarget, hsource⟩, hmem, ?_⟩
  rcases hends with ⟨hleft, hright⟩ | ⟨hleft, hright⟩
  · rw [hleft, hright]
    exact ⟨parts.metric_involved, hinvolved, rfl⟩
  · rw [hleft, hright]
    exact ⟨hinvolved, parts.metric_involved, rfl⟩

/-- Every join of the manifest that is used is one of the block. -/
theorem boundJoin_mem {source : SemanticJoin} (h : source ∈ parts.joins) :
    ∃ target, boundJoin parts.involved target source ∈ parts.select.joins := by
  obtain ⟨target, htarget, hsource⟩ := List.mem_filterMap.mp h
  exact ⟨target, List.mem_filterMap.mpr ⟨target, htarget, by rw [hsource]; rfl⟩⟩

theorem isIdentifier_tableAlias (involved : List Identifier) (entityId : Identifier) :
    isIdentifier (tableAlias involved entityId) = true := by
  rw [isIdentifier, isIdentifierChars_iff, tableAlias]
  refine ⟨'t', (toString (involved.idxOf entityId)).toList, by simp, by decide, ?_⟩
  intro c hc
  have hdigit : c.isDigit = true := natRepr_digit hc
  simp [isWordPart, Char.isAlphanum, hdigit]

theorem isIdentifier_outputName (item : GroupItem) : isIdentifier item.outputName = true := by
  obtain ⟨c, rest, hentity, hstart, hrest⟩ := (isIdentifierChars_iff _).mp item.entityId.valid
  rw [isIdentifier, isIdentifierChars_iff, GroupItem.outputName]
  refine ⟨c, rest ++ ("__".toList ++ item.column.text.toList), by simp [hentity], hstart, ?_⟩
  intro d hd
  rcases List.mem_append.mp hd with hd | hd
  · exact hrest d hd
  rcases List.mem_append.mp hd with hd | hd
  · exact List.all_eq_true.mp (by decide : "__".toList.all isWordPart = true) d hd
  · exact isWordPart_of_mem item.column.valid hd

theorem named_boundColumn (involved : List Identifier) (entityId column : Identifier) :
    (boundColumn involved entityId column).Named := by
  refine ⟨fun table htable ↦ ?_, column.valid⟩
  cases htable
  exact isIdentifier_tableAlias _ _

theorem named_boundTable (involved : List Identifier) (entityId : Identifier) :
    (boundTable involved entityId).Named := by
  refine ⟨by show isIdentifier "gold" = true; decide, entityId.valid, fun label hlabel ↦ ?_⟩
  cases hlabel
  exact isIdentifier_tableAlias _ _

/-- All names in the block are identifiers. -/
theorem select_named : parts.select.Named where
  items := by
    intro item hitem
    rcases List.mem_append.mp hitem with hitem | hitem
    · obtain ⟨group, hgroup, rfl⟩ := List.mem_map.mp hitem
      refine ⟨named_boundColumn _ _ _, fun label hlabel ↦ ?_⟩
      cases hlabel
      exact isIdentifier_outputName group
    · rw [List.mem_singleton] at hitem
      subst hitem
      have haggregation : isIdentifier parts.metric.aggregation.word = true := by
        cases parts.metric.aggregation <;> decide
      refine ⟨⟨haggregation, named_boundColumn _ _ _⟩, fun label hlabel ↦ ?_⟩
      cases hlabel
      show isIdentifier "metric_value" = true
      decide
  source := named_boundTable _ _
  joins := by
    intro join hjoin
    obtain ⟨target, -, source, -, -, -, -, rfl⟩ := parts.mem_joins hjoin
    exact ⟨named_boundTable _ _, named_boundColumn _ _ _, named_boundColumn _ _ _⟩
  condition := rfl
  groupBy := by
    intro ref href
    obtain ⟨item, -, rfl⟩ := List.mem_map.mp href
    exact named_boundColumn _ _ _

theorem items_ne_nil : parts.select.items ≠ [] := by
  show boundItems parts.metric parts.groupBy ≠ []
  simp [boundItems]

end BoundParts

/-- A binding that succeeded is the text and the datasets of what it has found. -/
theorem bindManifest_spec {sha256Hex : String → String} {manifest : SemanticManifest}
    {stateChecksum : String} {metricId : Identifier} {semanticQuery : Fields}
    {binding : SemanticQueryBinding}
    (h : bindManifest sha256Hex manifest stateChecksum metricId semanticQuery = .ok binding) :
    ∃ parts : BoundParts manifest metricId semanticQuery,
      binding.sqlText = parts.select.render ∧
      binding.datasetIds = datasetIdsOf manifest parts.involved := by
  unfold bindManifest at h
  split at h
  · cases h
  · rename_i metric hmetric
    simp only [ite_error_eq_ok_iff, bind_eq_ok_iff, Except.ok.injEq, not_not] at h
    obtain ⟨hentity, groupBy, hgroupBy, joinClauses, hclauses, -, rfl⟩ := h
    exact ⟨⟨metric, groupBy, hmetric, hentity, hgroupBy, (mapM_buildJoinClause hclauses).1⟩,
      sqlText_eq_render hclauses, rfl⟩

/-- The manifest that a policy row holds and the validation accepts for the workspace. -/
def ManifestOf (workspaceId : String) (row : Option (Option Json))
    (manifest : SemanticManifest) : Prop :=
  ∃ state manifestRaw, row = some (some (.obj state)) ∧
    get? state "manifest" = some (.obj manifestRaw) ∧
    validateSemanticManifest manifestRaw (some workspaceId) = .ok manifest

theorem bindState_spec {sha256Hex : String → String} {workspaceId : String}
    {metricId : Identifier} {semanticQuery : Fields} {row : Option (Option Json)}
    {binding : SemanticQueryBinding}
    (h : bindState sha256Hex workspaceId metricId semanticQuery row = .ok binding) :
    ∃ manifest, ManifestOf workspaceId row manifest ∧
      ∃ parts : BoundParts manifest metricId semanticQuery,
        binding.sqlText = parts.select.render ∧
        binding.datasetIds = datasetIdsOf manifest parts.involved := by
  unfold bindState at h
  split at h
  · cases h
  rename_i state hstate
  split at h
  · cases h
  rename_i manifestRaw hraw
  split at h
  · cases h
  rename_i manifest hmanifest
  obtain ⟨definition, hdefinition, hobject⟩ := Option.bind_eq_some_iff.mp hstate
  obtain ⟨value, hvalue, hobj⟩ := Option.bind_eq_some_iff.mp hobject
  obtain ⟨field, hfield, hfieldObj⟩ := Option.bind_eq_some_iff.mp hraw
  rw [asObj?_eq_some_iff] at hobj hfieldObj
  subst hobj hfieldObj hvalue hdefinition
  exact ⟨manifest, ⟨state, manifestRaw, rfl, hfield, hmanifest⟩, bindManifest_spec h⟩

end SchemaPilot.Gateway
