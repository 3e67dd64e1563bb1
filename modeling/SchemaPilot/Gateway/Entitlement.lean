import SchemaPilot.Gateway.ExecutableBinding
import SchemaPilot.Gateway.Histories

/-!
# What an AI actor's query reads

The text an AI actor's query is executed with is the one the binder wrote. Its tables are those of
manifest entities, each introduced once, its columns are those the manifest gives them (`Covered`),
and the datasets of these entities are the ones the entitlement checks and the response are about
(`ai_execution_covered`).
-/

namespace SchemaPilot.Gateway

open Library Library.Program Library.Text Library.Json SharedDomain

/-- The column of an entity a block may refer to: the field of the metric, a key of a join or one of
the entity's own columns. -/
def EntityColumn (manifest : SemanticManifest) (metric : SemanticMetric) (entity : SemanticEntity)
    (column : String) : Prop :=
  (entity.entityId = metric.entityId ∧ column = metric.field.text) ∨
    (∃ join ∈ manifest.joins,
      (join.leftEntityId = entity.entityId ∧ column = join.leftKey.text) ∨
        (join.rightEntityId = entity.entityId ∧ column = join.rightKey.text)) ∨
    ∃ own ∈ entity.primaryKey :: entity.attributes, column = own.text

def TableOf (entity : SemanticEntity) (table : Sql.TableRef) : Prop :=
  table.qualified = "gold." ++ entity.entityId.text

/-- A block reads entities of the manifest only, under one alias each, and only the columns they
have; the datasets are those of the entities it reads. -/
structure Covered (manifest : SemanticManifest) (metric : SemanticMetric) (select : Sql.Select)
    (datasetIds : List String) : Prop where
  aliases_nodup : (select.tables.map Sql.TableRef.name).Nodup
  tables : ∀ table ∈ select.tables, ∃ entity ∈ manifest.entities, TableOf entity table
  columns : ∀ ref ∈ select.refs, ∃ table ∈ select.tables, ∃ entity ∈ manifest.entities,
    ref.table = some table.name ∧ TableOf entity table ∧
      EntityColumn manifest metric entity ref.column
  datasets : ∀ datasetId, datasetId ∈ datasetIds ↔ ∃ entity ∈ manifest.entities,
    (∃ table ∈ select.tables, TableOf entity table) ∧ entity.datasetId = datasetId

namespace BoundParts

variable {manifest : SemanticManifest} {metricId : Identifier} {semanticQuery : Fields}
  (parts : BoundParts manifest metricId semanticQuery)

/-- The tables of a block have different aliases. -/
theorem aliases_nodup : (parts.select.tables.map Sql.TableRef.name).Nodup := by
  rw [parts.tables_eq, List.map_map]
  refine List.Nodup.map_on ?_ parts.involved_nodup
  intro first hfirst second _ heq
  exact tableAlias_inj hfirst heq

theorem table_mem {entityId : Identifier} (h : entityId ∈ parts.involved) :
    boundTable parts.involved entityId ∈ parts.select.tables := by
  rw [parts.tables_eq]
  exact List.mem_map_of_mem h

/-- A column of an involved entity resolves to the table of its alias. -/
theorem column_resolves {entity : SemanticEntity} {column : Identifier}
    (hentity : entity ∈ manifest.entities) (hinvolved : entity.entityId ∈ parts.involved)
    (hcolumn : EntityColumn manifest parts.metric entity column.text) :
    ∃ table ∈ parts.select.tables, ∃ entity' ∈ manifest.entities,
      (boundColumn parts.involved entity.entityId column).table = some table.name ∧
      TableOf entity' table ∧ EntityColumn manifest parts.metric entity'
        (boundColumn parts.involved entity.entityId column).column :=
  ⟨_, parts.table_mem hinvolved, entity, hentity, rfl, rfl, hcolumn⟩

/-- Every involved entity is a row of the manifest. -/
theorem exists_entity {entityId : Identifier} (h : entityId ∈ parts.involved) :
    ∃ entity ∈ manifest.entities, entity.entityId = entityId :=
  List.mem_map.mp (parts.mem_entityIds h)

/-- The table of an entity is among those of a block exactly when the entity is involved. -/
theorem involved_iff_table {entity : SemanticEntity} :
    entity.entityId ∈ parts.involved ↔ ∃ table ∈ parts.select.tables, TableOf entity table := by
  constructor
  · intro h
    exact ⟨_, parts.table_mem h, rfl⟩
  · rintro ⟨table, htable, hof⟩
    rw [parts.tables_eq] at htable
    obtain ⟨entityId, hinvolved, rfl⟩ := List.mem_map.mp htable
    have htext : "gold." ++ entityId.text = "gold." ++ entity.entityId.text := hof
    have hsame : entityId = entity.entityId := by
      obtain ⟨text, valid⟩ := entityId
      cases heq : entity.entityId with
      | mk text' valid' =>
        rw [heq] at htext
        have htexts : text = text' := (String.append_right_inj _).mp htext
        subst htexts
        rfl
    rw [← hsame]
    exact hinvolved

/-- The dataset ids of a block are those of the entities it reads. -/
theorem mem_datasetIdsOf (hmanifest : manifest.WellFormed) (datasetId : String) :
    datasetId ∈ datasetIdsOf manifest parts.involved ↔
      ∃ entity ∈ manifest.entities, entity.entityId ∈ parts.involved ∧
        entity.datasetId = datasetId := by
  have hfind : ∀ entity ∈ manifest.entities,
      manifest.entities.find? (fun other ↦ other.entityId = entity.entityId) = some entity := by
    intro entity hentity
    cases hfound : manifest.entities.find? (fun other ↦ other.entityId = entity.entityId) with
    | none =>
      have hnone := List.find?_eq_none.mp hfound entity hentity
      simp at hnone
    | some other =>
      have hsame : other.entityId = entity.entityId := by simpa using List.find?_some hfound
      rw [List.inj_on_of_nodup_map hmanifest.entityIds_nodup
        (List.mem_of_find?_eq_some hfound) hentity hsame]
  rw [datasetIdsOf, mem_sortedTexts, List.mem_filter, List.mem_filterMap]
  constructor
  · rintro ⟨⟨entityId, hinvolved, hdataset⟩, -⟩
    obtain ⟨entity, hentity, rfl⟩ := parts.exists_entity hinvolved
    rw [hfind entity hentity] at hdataset
    exact ⟨entity, hentity, hinvolved, Option.some.inj hdataset⟩
  · rintro ⟨entity, hentity, hinvolved, rfl⟩
    refine ⟨⟨entity.entityId, hinvolved, by rw [hfind entity hentity]; rfl⟩, ?_⟩
    obtain ⟨hne, hstrip⟩ := hmanifest.datasetId_ne entity hentity
    simpa [hstrip] using hne

theorem covered (hmanifest : manifest.WellFormed) :
    Covered manifest parts.metric parts.select (datasetIdsOf manifest parts.involved) where
  aliases_nodup := parts.aliases_nodup
  tables := by
    intro table htable
    rw [parts.tables_eq] at htable
    obtain ⟨entityId, hinvolved, rfl⟩ := List.mem_map.mp htable
    obtain ⟨entity, hentity, rfl⟩ := parts.exists_entity hinvolved
    exact ⟨entity, hentity, rfl⟩
  columns := by
    have hgroup : ∀ item ∈ parts.groupBy, ∃ table ∈ parts.select.tables,
        ∃ entity ∈ manifest.entities,
          (boundColumn parts.involved item.entityId item.column).table = some table.name ∧
          TableOf entity table ∧ EntityColumn manifest parts.metric entity
            (boundColumn parts.involved item.entityId item.column).column := by
      intro item hitem
      obtain ⟨entity, hentity, hid, hcolumn⟩ := parts.item_in hitem
      have hinvolved := parts.item_involved hitem
      rw [← hid] at hinvolved ⊢
      exact parts.column_resolves hentity hinvolved (Or.inr (Or.inr ⟨_, hcolumn, rfl⟩))
    intro ref href
    simp only [Sql.Select.refs, List.mem_append] at href
    rcases href with ((href | href) | href) | href
    · obtain ⟨item, hitem, href⟩ := List.mem_flatMap.mp href
      rcases List.mem_append.mp hitem with hitem | hitem
      · obtain ⟨group, hgroupItem, rfl⟩ := List.mem_map.mp hitem
        rw [List.mem_singleton.mp href]
        exact hgroup group hgroupItem
      · rw [List.mem_singleton.mp hitem] at href
        rw [List.mem_singleton.mp href]
        have hinvolved := parts.metric_involved
        obtain ⟨entity, hentity, hid⟩ := parts.exists_entity hinvolved
        have hcolumn : EntityColumn manifest parts.metric entity parts.metric.field.text :=
          Or.inl ⟨hid, rfl⟩
        rw [← hid] at hinvolved
        have hresolves := parts.column_resolves hentity hinvolved hcolumn
        rw [hid] at hresolves
        exact hresolves
    · obtain ⟨join, hjoin, href⟩ := List.mem_flatMap.mp href
      obtain ⟨target, -, source, -, hsource, hleft, hright, rfl⟩ := parts.mem_joins hjoin
      simp only [boundJoin, List.mem_cons, List.not_mem_nil, or_false] at href
      rcases href with rfl | rfl
      · obtain ⟨entity, hentity, hid⟩ := parts.exists_entity hleft
        rw [← hid] at hleft ⊢
        exact parts.column_resolves hentity hleft
          (Or.inr (Or.inl ⟨source, hsource, Or.inl ⟨hid.symm, rfl⟩⟩))
      · obtain ⟨entity, hentity, hid⟩ := parts.exists_entity hright
        rw [← hid] at hright ⊢
        exact parts.column_resolves hentity hright
          (Or.inr (Or.inl ⟨source, hsource, Or.inr ⟨hid.symm, rfl⟩⟩))
    · exact absurd href List.not_mem_nil
    · obtain ⟨item, hitem, rfl⟩ := List.mem_map.mp href
      exact hgroup item hitem
  datasets := by
    intro datasetId
    rw [parts.mem_datasetIdsOf hmanifest]
    simp only [parts.involved_iff_table]

end BoundParts

/-- The datasets a response lists for a binding are those of the binding. -/
theorem nonEmptyTexts_datasetIds (manifest : SemanticManifest) (involved : List Identifier) :
    ∃ listed, nonEmptyTexts (datasetIdsOf manifest involved) = textList listed ∧
      ∀ datasetId, datasetId ∈ listed ↔ datasetId ∈ datasetIdsOf manifest involved := by
  refine ⟨_, rfl, fun datasetId ↦ ?_⟩
  rw [mem_sortedTexts, List.mem_filter]
  refine ⟨fun h ↦ h.1, fun h ↦ ⟨h, ?_⟩⟩
  rw [datasetIdsOf, mem_sortedTexts, List.mem_filter] at h
  have hblank : strip datasetId ≠ "" := by simpa using h.2
  have hne : datasetId ≠ "" := by
    rintro rfl
    exact hblank (by decide)
  simpa using hne

/-- The query of an AI actor hands an engine a text only past its cache lookup, and once there the
text is that of the binding of its semantic query over the manifest row that was read: a block the
manifest covers, over datasets of the workspace the actor is entitled to, which are the datasets of
the response. -/
theorem ai_execution_covered {platform : Platform} {settings : Settings} {request : Request}
    {events : List GatewayEvent} {q : Handler QueryResponse}
    (h : After (query platform settings request) events q) {actor : Fields}
    (hactor : ⟨.authenticatedActor, .ok (some actor)⟩ ∈ events) (hai : actorTypeOf actor = "ai") :
    (∀ event ∈ events, event.op.executed? ≠ none →
      ∃ key, ⟨.cacheGet key, .ok none⟩ ∈ events) ∧
    ∀ key answer, ⟨.cacheGet key, answer⟩ ∈ events →
      ∃ metricId row manifest metric select binding,
        requestedMetric (semanticQueryOf request.payload) = .ok metricId ∧
        ⟨.activePolicy (workspaceIdOf request.payload) "semantic_manifest", .ok row⟩ ∈ events ∧
        ManifestOf (workspaceIdOf request.payload) row manifest ∧
        metric ∈ manifest.metrics ∧ metric.metricId = metricId ∧
        bindState platform.sha256Hex (workspaceIdOf request.payload) metricId
          (semanticQueryOf request.payload) row = .ok binding ∧
        (∀ event ∈ events, ∀ text, event.op.executed? = some text → text = binding.sqlText) ∧
        binding.sqlText = select.render ∧
        Covered manifest metric select binding.datasetIds ∧
        (∀ datasetId ∈ binding.datasetIds, datasetId ∈ allowedDatasetIdsOf actor ∧
          OwnDataset (workspaceIdOf request.payload) events datasetId) ∧
        ∀ response, q = done (.ok response) → response.semantic = some binding ∧
          ∃ listed, get? response.provenance "datasets_used" = some (textList listed) ∧
            ∀ datasetId, datasetId ∈ listed ↔ datasetId ∈ binding.datasetIds := by
  rcases guarded_after h with hnone | ⟨context, actor', policyPack, reason, before, after,
    hworkspace, rfl, hway, hbody⟩
  · exact ⟨fun event hevent hsome ↦ absurd (hnone event hevent).executed_none hsome,
      fun key answer hmem ↦ absurd (hnone _ hmem) (not_ungranted_cacheGet key answer)⟩
  have hkinds := ((calling_queryAdmitted _ _ _ _ _ _).after hbody).1
  have hsame : actor = actor' := hway.actor_unique
    (fun event hevent hkind ↦ by simpa [hkind] using hkinds event hevent) hactor
  subst hsame
  rcases queryAdmitted_after hbody with hchecks | ⟨checked, first, looked, second, rfl, hrun, hrest⟩
  · have hfree : ∀ event ∈ before ++ (⟨.tryAcquire (actorIdOf actor), .ok ⟨true, reason⟩⟩ :
        GatewayEvent) :: after, event.op.executed? = none ∧
          ∀ key answer, event ≠ ⟨.cacheGet key, answer⟩ := by
      intro event hevent
      rcases List.mem_append.mp hevent with hevent | hevent
      · refine ⟨(hway.ungranted event hevent).executed_none, ?_⟩
        rintro key answer rfl
        exact not_ungranted_cacheGet key answer (hway.ungranted _ hevent)
      · rcases List.mem_cons.mp hevent with rfl | hevent
        · exact ⟨rfl, fun key answer heq ↦ by cases heq⟩
        · refine ⟨executed?_eq_none fun hkind ↦ ?_, ?_⟩
          · simpa [hkind] using hchecks event hevent
          · rintro key answer rfl
            simpa [GatewayOp.kind] using hchecks _ hevent
    exact ⟨fun event hevent hsome ↦ absurd (hfree event hevent).1 hsome,
      fun key answer hmem ↦ absurd rfl ((hfree _ hmem).2 key answer)⟩
  obtain ⟨first', pointer, rfl, htarget, -⟩ := queryChecks_ok hrun
  unfold queryTarget at htarget
  rw [if_pos hai] at htarget
  obtain ⟨binding, htargetEq, ⟨hquery, metricId, row, hmetric, hrow, hbind⟩, hdatasets⟩ :=
    (semanticTarget_run htarget).2 _ rfl
  rw [hworkspace] at hrow hbind hdatasets
  obtain ⟨manifest, hmanifest, parts, htext, hids⟩ := bindState_spec hbind
  have hwellFormed : manifest.WellFormed := by
    obtain ⟨_, _, _, _, hvalid⟩ := hmanifest
    exact (validateSemanticManifest_wellFormed hvalid).1
  have hnamed := parts.select_named
  have hne : binding.sqlText ≠ "" := by
    rw [htext]
    intro hempty
    obtain ⟨rest, hrest⟩ := Sql.Select.prefix_render parts.select
    rw [hempty] at hrest
    simp at hrest
  have hexecutedText : checked.executedText = binding.sqlText := by
    rw [CheckedQuery.executedText, htargetEq, if_neg hne]
  have hchecksNone := (calling_queryChecks _ _ _ _ _ _).executed_none (by decide) hrun
  have hmem : ∀ event ∈ first', event ∈ before ++
      (⟨.tryAcquire (actorIdOf actor), .ok ⟨true, reason⟩⟩ : GatewayEvent) ::
        (first' ++ [⟨.latestGoldPointer context.workspaceId, .ok pointer⟩] ++
          ⟨.cacheGet checked.cacheKey, looked⟩ :: second) := by
    intro event hevent
    simp [hevent]
  have hexecuted : ∀ event ∈ before ++
      (⟨.tryAcquire (actorIdOf actor), .ok ⟨true, reason⟩⟩ : GatewayEvent) ::
        (first' ++ [⟨.latestGoldPointer context.workspaceId, .ok pointer⟩] ++
          ⟨.cacheGet checked.cacheKey, looked⟩ :: second),
      ∀ text, event.op.executed? = some text → looked = .ok none ∧ text = binding.sqlText := by
    intro event hevent text hsome
    rcases List.mem_append.mp hevent with hevent | hevent
    · rw [(hway.ungranted event hevent).executed_none] at hsome
      cases hsome
    rcases List.mem_cons.mp hevent with rfl | hevent
    · cases hsome
    rcases List.mem_append.mp hevent with hevent | hevent
    · rw [hchecksNone event hevent] at hsome
      cases hsome
    rcases List.mem_cons.mp hevent with rfl | hlast
    · cases hsome
    rcases hrest with ⟨exception, -, rfl, -⟩ | ⟨cached, rfl, hsecond⟩
    · exact absurd hlast List.not_mem_nil
    · obtain ⟨rfl, hvalid⟩ := queryBody_executed hsecond event hlast text hsome
      refine ⟨rfl, ?_⟩
      have hstrip : strip checked.executedText = binding.sqlText := by
        rw [hexecutedText, htext]
        exact Sql.Select.strip_render hnamed parts.items_ne_nil
      rw [validateReadOnlyQuery_text hvalid, hstrip, if_neg hne]
  constructor
  · intro event hevent hsome
    obtain ⟨text, htext'⟩ := Option.ne_none_iff_exists'.mp hsome
    obtain ⟨rfl, -⟩ := hexecuted event hevent text htext'
    exact ⟨checked.cacheKey, by simp⟩
  intro key answer _
  refine ⟨metricId, row, manifest, parts.metric, parts.select, binding, hmetric, hmem _ hrow,
    hmanifest, parts.metric_mem, by simpa using List.find?_some parts.found, hbind,
    fun event hevent text hsome ↦ (hexecuted event hevent text hsome).2, htext, ?_,
    fun datasetId hdataset ↦ ⟨(hdatasets datasetId hdataset).1,
      (hdatasets datasetId hdataset).2.mono fun event hevent _ ↦ hmem event hevent⟩, ?_⟩
  · rw [hids]
    exact parts.covered hwellFormed
  · rintro response rfl
    rcases hrest with ⟨_, -, -, hfalse⟩ | ⟨cached, -, hsecond⟩
    · cases hfalse
    obtain ⟨_, _, ⟨rows, metadata⟩, -, -, hanswer⟩ := Run.bind_ok hsecond
    obtain ⟨-, -, hsemantic, hlisted⟩ := queryAnswer_ok hanswer
    obtain ⟨listed, heq, hsame⟩ := nonEmptyTexts_datasetIds manifest parts.involved
    rw [htargetEq, hids, heq] at hlisted
    refine ⟨by rw [hsemantic, htargetEq], listed, hlisted, fun datasetId ↦ ?_⟩
    rw [hids]
    exact hsame datasetId

/-- An AI actor entitled to the dataset of the orders. -/
def ordersBot : Fields :=
  [("actor_id", .str "bot"), ("actor_type", .str "AI"),
    ("attributes", .obj [("ai_allowlisted", .bool true),
      ("allowed_dataset_ids", .arr [.str "d1"])])]

/-- The query of the bot for the metric of the orders, on an empty cache. -/
def ordersBotEvents : List GatewayEvent :=
  history (answersTo ordersBot (ordersRow "amount") none) (query ⟨id, id⟩ duckdbSettings
    ⟨[("workspace_id", .str "ws"), ("semantic_query", .obj ordersQuery)], "r1"⟩)

/-- The bot's query is executed, and what is executed is covered by the manifest. -/
theorem orders_bot_covered :
    (∃ event ∈ ordersBotEvents, event.op.executed? = some (ordersText "amount")) ∧
    ∃ manifest metric select datasetIds, ordersText "amount" = Sql.Select.render select ∧
      Covered manifest metric select datasetIds ∧
      ∀ datasetId ∈ datasetIds, datasetId ∈ allowedDatasetIdsOf ordersBot := by
  have hexecuted : (ordersBotEvents.map fun event ↦ event.op.executed?).contains
      (some (ordersText "amount")) = true := by decide +kernel
  obtain ⟨event, hevent, htext⟩ := List.mem_map.mp (List.contains_iff_mem.mp hexecuted)
  have hactor : (⟨.authenticatedActor, .ok (some ordersBot)⟩ : GatewayEvent) ∈ ordersBotEvents :=
    .tail _ (.head _)
  obtain ⟨hlooked, hcovered⟩ := ai_execution_covered (run_history _ _) hactor (by decide)
  obtain ⟨key, hkey⟩ := hlooked event hevent (by rw [htext]; simp)
  obtain ⟨_, _, manifest, metric, select, binding, -, -, -, -, -, -, hall, hrender, hcover,
    hentitled, -⟩ := hcovered key _ hkey
  refine ⟨⟨event, hevent, htext⟩, manifest, metric, select, binding.datasetIds, ?_, hcover,
    fun datasetId hdataset ↦ (hentitled datasetId hdataset).1⟩
  rw [hall event hevent _ htext, hrender]

end SchemaPilot.Gateway
