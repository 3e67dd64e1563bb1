import SchemaPilot.Gateway.BoundSelect
import SchemaPilot.Gateway.Checks

/-!
# Bindings and the deny-list

Two lexical rules meet in a bound query: the identifier pattern of manifests and the token deny-list
of the executor. Of the words in the text of a binding only the identifiers taken from the manifest
can be on the deny-list (`BoundParts.word_cases`): its keywords, aliases and output names never are. So the
gateway executes its own text exactly when no identifier it uses is, letter case aside, an unsafe
keyword (`binding_executable_iff`).
-/

namespace SchemaPilot.Gateway

open Library Library.Program Library.Text Library.Json SharedDomain

/-- A text without blanks to strip that begins with `select` and has no semicolon is accepted
exactly when none of its lower-case words is unsafe. -/
theorem validateReadOnlyQuery_iff {query : String} (hstrip : strip query = query)
    (hselect : "select".toList <+: (lower query).toList) (hsemicolon : ';' ∉ query.toList) :
    (∃ text, validateReadOnlyQuery query = .ok text) ↔
      ∀ word ∈ words (lower query), word ∉ unsafeSqlKeywords := by
  have hne : query ≠ "" := by
    rintro rfl
    exact absurd hselect (by decide)
  unfold validateReadOnlyQuery
  simp only [hstrip, hne, if_false, hsemicolon, hselect, true_or, not_true_eq_false]
  cases hfind : (words (lower query)).find? fun token ↦ unsafeSqlKeywords.contains token with
  | none =>
    simp only [List.find?_eq_none, List.contains_iff_mem] at hfind
    exact ⟨fun _ ↦ hfind, fun _ ↦ ⟨query, rfl⟩⟩
  | some token =>
    have hunsafe : token ∈ unsafeSqlKeywords := by simpa using List.find?_some hfind
    constructor
    · rintro ⟨text, hfalse⟩
      cases hfalse
    · intro hall
      exact absurd hunsafe (hall token (List.mem_of_find?_eq_some hfind))

def boundKeywords : List String :=
  ["select", "as", "metric_value", "from", "gold", "on", "group", "by", "inner", "left", "right",
    "full", "outer", "join", "sum", "count", "avg", "min", "max"]

theorem wordList_subset (kind : Sql.JoinKind) : kind.wordList ⊆ boundKeywords := by
  cases kind <;> decide

/-- An alias is on no deny-list: its last character is a digit. -/
theorem tableAlias_not_unsafe (involved : List Identifier) (entityId : Identifier) :
    lower (tableAlias involved entityId) ∉ unsafeSqlKeywords := by
  have hnone : unsafeSqlKeywords.all (fun word ↦
      match word.toList.getLast? with
      | some c => !c.isDigit
      | none => true) = true := by
    decide
  intro hunsafe
  have hword := List.all_eq_true.mp hnone _ hunsafe
  obtain ⟨digits, hdigits⟩ : ∃ digits : ℕ, tableAlias involved entityId = "t" ++ digits.repr :=
    ⟨_, rfl⟩
  have hne : digits.repr.toList ≠ [] := by
    rw [Nat.toList_repr]
    exact Nat.toDigits_ne_nil
  have hascii : ∀ c ∈ digits.repr.toList, lowerChar c = [c] := by
    intro c hc
    have hdigit : c.isDigit = true := natRepr_digit hc
    simp only [Char.isDigit, Bool.and_eq_true, decide_eq_true_eq, ge_iff_le,
      UInt32.le_iff_toNat_le, Char.toNat_val] at hdigit
    have hbounds : 48 ≤ c.toNat ∧ c.toNat ≤ 57 := hdigit
    rw [lowerChar_of_ascii (by omega), lowerAscii_of_not_isUpper (by omega)]
  have hlower : lowerChars digits.repr.toList = digits.repr.toList := by
    rw [lowerChars, List.flatMap_congr hascii, List.flatMap_singleton']
  have hlast : (lower (tableAlias involved entityId)).toList.getLast? =
      some (digits.repr.toList.getLast hne) := by
    rw [hdigits, lower_append, String.toList_append, toList_lower, toList_lower, hlower,
      List.getLast?_append, List.getLast?_eq_some_getLast hne]
    rfl
  rw [hlast] at hword
  have hletter : (!(digits.repr.toList.getLast hne).isDigit) = true := hword
  rw [natRepr_digit (List.getLast_mem hne)] at hletter
  exact absurd hletter (by decide)

def hasDoubleUnderscore : List Char → Bool
  | '_' :: '_' :: _ => true
  | _ :: rest => hasDoubleUnderscore rest
  | [] => false

theorem hasDoubleUnderscore_append (first second : List Char) :
    hasDoubleUnderscore (first ++ '_' :: '_' :: second) = true := by
  induction first with
  | nil => rfl
  | cons c rest ih =>
    rw [List.cons_append]
    unfold hasDoubleUnderscore
    split
    · rfl
    · rename_i heq
      cases heq
      exact ih
    · rename_i heq
      cases heq

/-- An output name is on no deny-list: it has two underscores in a row. -/
theorem outputName_not_unsafe (item : GroupItem) :
    lower item.outputName ∉ unsafeSqlKeywords := by
  have hnone : unsafeSqlKeywords.all (fun word ↦ !hasDoubleUnderscore word.toList) = true := by
    decide
  intro hunsafe
  have hdouble : hasDoubleUnderscore (lower item.outputName).toList = true := by
    have htext : (lower item.outputName).toList = (lower item.entityId.text).toList ++
        '_' :: '_' :: (lower item.column.text).toList := by
      have hgap : (lower "__").toList = ['_', '_'] := by decide
      rw [GroupItem.outputName, lower_append, lower_append, String.toList_append,
        String.toList_append, hgap, List.append_assoc]
      rfl
    rw [htext]
    exact hasDoubleUnderscore_append _ _
  have hword := List.all_eq_true.mp hnone _ hunsafe
  rw [hdouble] at hword
  exact absurd hword (by decide)

namespace BoundParts

variable {manifest : SemanticManifest} {metricId : Identifier} {semanticQuery : Fields}
  (parts : BoundParts manifest metricId semanticQuery)

/-- The identifiers of the manifest that a binding writes into its text. -/
def identifiers : List Identifier :=
  parts.involved ++ parts.groupBy.map GroupItem.column ++ [parts.metric.field] ++
    parts.joins.flatMap fun join ↦ [join.leftKey, join.rightKey]

theorem word_cases {word : String} (h : word ∈ parts.select.words) :
    word ∈ boundKeywords ∨ (∃ id ∈ parts.identifiers, word = id.text) ∨
      (∃ entityId, word = tableAlias parts.involved entityId) ∨
      ∃ item ∈ parts.groupBy, word = item.outputName := by
  have hinvolved : ∀ {entityId : Identifier}, entityId ∈ parts.involved →
      entityId ∈ parts.identifiers := fun hid ↦ by
    simp only [identifiers, List.mem_append]
    exact Or.inl (Or.inl (Or.inl hid))
  have hcolumn : ∀ {item : GroupItem}, item ∈ parts.groupBy →
      item.column ∈ parts.identifiers := fun hitem ↦ by
    simp only [identifiers, List.mem_append]
    exact Or.inl (Or.inl (Or.inr (List.mem_map_of_mem hitem)))
  have hfield : parts.metric.field ∈ parts.identifiers := by
    simp [identifiers]
  have hkeys : ∀ {source : SemanticJoin}, source ∈ parts.joins →
      source.leftKey ∈ parts.identifiers ∧ source.rightKey ∈ parts.identifiers := fun hsource ↦ by
    simp only [identifiers, List.mem_append, List.mem_flatMap]
    exact ⟨Or.inr ⟨_, hsource, by simp⟩, Or.inr ⟨_, hsource, by simp⟩⟩
  have hname : ∀ {entityId column : Identifier}, column ∈ parts.identifiers →
      word ∈ (boundColumn parts.involved entityId column).words →
      (∃ id ∈ parts.identifiers, word = id.text) ∨
        ∃ entityId, word = tableAlias parts.involved entityId := by
    intro entityId column hid hword
    simp only [boundColumn, Sql.ColumnRef.words, Option.toList_some, List.mem_append,
      List.mem_singleton] at hword
    rcases hword with rfl | rfl
    · exact Or.inr ⟨entityId, rfl⟩
    · exact Or.inl ⟨column, hid, rfl⟩
  have htable : ∀ {entityId : Identifier}, entityId ∈ parts.involved →
      word ∈ (boundTable parts.involved entityId).words →
      word ∈ boundKeywords ∨ (∃ id ∈ parts.identifiers, word = id.text) ∨
        ∃ entityId, word = tableAlias parts.involved entityId := by
    intro entityId hid hword
    simp only [boundTable, Sql.TableRef.words, Sql.aliasWords, List.mem_cons, List.not_mem_nil,
      or_false] at hword
    rcases hword with rfl | rfl | rfl | rfl
    · exact Or.inl (by decide)
    · exact Or.inr (Or.inl ⟨entityId, hinvolved hid, rfl⟩)
    · exact Or.inl (by decide)
    · exact Or.inr (Or.inr ⟨entityId, rfl⟩)
  have hplain : ∀ {entityId column : Identifier}, column ∈ parts.identifiers →
      word ∈ (boundColumn parts.involved entityId column).words →
      word ∈ boundKeywords ∨ (∃ id ∈ parts.identifiers, word = id.text) ∨
        (∃ entityId, word = tableAlias parts.involved entityId) ∨
        ∃ item ∈ parts.groupBy, word = item.outputName := fun hid hword ↦
    Or.inr ((hname hid hword).imp_right Or.inl)
  simp only [Sql.Select.words, List.cons_append, List.mem_cons, List.mem_append,
    List.mem_flatMap] at h
  rcases h with rfl | ⟨item, hitem, hword⟩ | rfl | (hword | ⟨join, hjoin, hword⟩) | hword
  · exact Or.inl (by decide)
  · rcases List.mem_append.mp hitem with hitem | hitem
    · obtain ⟨group, hgroup, rfl⟩ := List.mem_map.mp hitem
      rcases List.mem_append.mp hword with hword | hword
      · exact hplain (hcolumn hgroup) hword
      · simp only [Sql.aliasWords, List.mem_cons, List.not_mem_nil, or_false] at hword
        rcases hword with rfl | rfl
        · exact Or.inl (by decide)
        · exact Or.inr (Or.inr (Or.inr ⟨group, hgroup, rfl⟩))
    · rw [List.mem_singleton] at hitem
      subst hitem
      rcases List.mem_append.mp hword with hword | hword
      · rcases List.mem_cons.mp hword with rfl | hword
        · refine Or.inl ?_
          cases parts.metric.aggregation <;> decide
        · exact hplain hfield hword
      · simp only [Sql.aliasWords, List.mem_cons, List.not_mem_nil, or_false] at hword
        rcases hword with rfl | rfl
        · exact Or.inl (by decide)
        · exact Or.inl (by decide)
  · exact Or.inl (by decide)
  · rcases htable parts.metric_involved hword with hkeyword | hid | halias
    · exact Or.inl hkeyword
    · exact Or.inr (Or.inl hid)
    · exact Or.inr (Or.inr (Or.inl halias))
  · obtain ⟨target, htarget, source, hsource, -, -, -, rfl⟩ := parts.mem_joins hjoin
    simp only [boundJoin, Sql.Join.words, List.mem_append, List.mem_cons] at hword
    rcases hword with (hword | hword) | rfl | hword | hword
    · exact Or.inl (wordList_subset _ hword)
    · rcases htable htarget hword with hkeyword | hid | halias
      · exact Or.inl hkeyword
      · exact Or.inr (Or.inl hid)
      · exact Or.inr (Or.inr (Or.inl halias))
    · exact Or.inl (by decide)
    · exact hplain (hkeys hsource).1 hword
    · exact hplain (hkeys hsource).2 hword
  · by_cases hnone : parts.select.groupBy = []
    · rw [if_pos hnone] at hword
      exact absurd hword List.not_mem_nil
    · rw [if_neg hnone] at hword
      simp only [List.mem_cons, List.mem_flatMap] at hword
      rcases hword with rfl | rfl | ⟨ref, href, hword⟩
      · exact Or.inl (by decide)
      · exact Or.inl (by decide)
      · obtain ⟨item, hitem, rfl⟩ := List.mem_map.mp href
        exact hplain (hcolumn hitem) hword

/-- Every identifier a binding uses is a word of its text. -/
theorem identifier_mem_words {id : Identifier} (h : id ∈ parts.identifiers) :
    id.text ∈ parts.select.words := by
  have hitem : ∀ {item : Sql.Item} {word : String}, item ∈ parts.select.items →
      word ∈ item.words → word ∈ parts.select.words := by
    intro item word hmem hword
    simp only [Sql.Select.words, List.cons_append, List.mem_cons, List.mem_append, List.mem_flatMap]
    exact Or.inr (Or.inl ⟨item, hmem, hword⟩)
  have htable : ∀ {ref : Sql.TableRef} {word : String}, ref ∈ parts.select.tables →
      word ∈ ref.words → word ∈ parts.select.words := by
    intro ref word hmem hword
    simp only [Sql.Select.words, List.cons_append, List.mem_cons, List.mem_append, List.mem_flatMap]
    rcases List.mem_cons.mp hmem with rfl | hmem
    · exact Or.inr (Or.inr (Or.inr (Or.inl (Or.inl hword))))
    · obtain ⟨join, hjoin, rfl⟩ := List.mem_map.mp hmem
      refine Or.inr (Or.inr (Or.inr (Or.inl (Or.inr ⟨join, hjoin, ?_⟩))))
      simp [Sql.Join.words, hword]
  have hjoin : ∀ {join : Sql.Join} {word : String}, join ∈ parts.select.joins →
      word ∈ join.words → word ∈ parts.select.words := by
    intro join word hmem hword
    simp only [Sql.Select.words, List.cons_append, List.mem_cons, List.mem_append, List.mem_flatMap]
    exact Or.inr (Or.inr (Or.inr (Or.inl (Or.inr ⟨join, hmem, hword⟩))))
  simp only [identifiers, List.mem_append, List.mem_flatMap, List.mem_singleton] at h
  rcases h with ((hid | hid) | rfl) | ⟨source, hsource, hid⟩
  · have hmem : boundTable parts.involved id ∈ parts.select.tables := by
      rw [parts.tables_eq]
      exact List.mem_map_of_mem hid
    exact htable hmem (by simp [boundTable, Sql.TableRef.words])
  · obtain ⟨item, hmem, rfl⟩ := List.mem_map.mp hid
    refine hitem (List.mem_append_left _ (List.mem_map_of_mem hmem)) ?_
    simp [Sql.Item.words, Sql.ItemExpr.words, Sql.Scalar.words, Sql.ColumnRef.words, boundColumn]
  · refine hitem (List.mem_append_right _ (List.mem_singleton_self _)) ?_
    simp [Sql.Item.words, Sql.ItemExpr.words, Sql.Scalar.words, Sql.ColumnRef.words, boundColumn]
  · obtain ⟨target, hmem⟩ := parts.boundJoin_mem hsource
    refine hjoin hmem ?_
    simp only [List.mem_cons, List.not_mem_nil, or_false] at hid
    rcases hid with rfl | rfl
    · simp [Sql.Join.words, boundJoin, Sql.ColumnRef.words, boundColumn]
    · simp [Sql.Join.words, boundJoin, Sql.ColumnRef.words, boundColumn]

/-- The deny-list accepts the text of a block exactly when no identifier in it is an unsafe
keyword. -/
theorem validate_iff : (∃ text, validateReadOnlyQuery parts.select.render = .ok text) ↔
    ∀ id ∈ parts.identifiers, lower id.text ∉ unsafeSqlKeywords := by
  have hnamed := parts.select_named
  have htight := Sql.Select.tight_render hnamed parts.items_ne_nil
  have hsemicolon : ';' ∉ parts.select.render.toList := fun hmem ↦
    absurd (List.all_eq_true.mp htight.1 _ hmem) (by decide)
  have hselect : "select".toList <+: (lower parts.select.render).toList := by
    obtain ⟨rest, hrest⟩ := Sql.Select.prefix_render parts.select
    rw [toList_lower, ← hrest, lowerChars_append]
    exact ⟨' ' :: lowerChars rest, rfl⟩
  rw [validateReadOnlyQuery_iff (Sql.Select.strip_render hnamed parts.items_ne_nil) hselect
    hsemicolon, Sql.Select.words_render hnamed]
  constructor
  · intro hall id hid
    exact hall _ (List.mem_map_of_mem (parts.identifier_mem_words hid))
  · intro hall word hword
    obtain ⟨name, hname, rfl⟩ := List.mem_map.mp hword
    rcases parts.word_cases hname with hkeyword | ⟨id, hid, rfl⟩ | ⟨entityId, rfl⟩ |
      ⟨item, -, rfl⟩
    · have hsafe : boundKeywords.all (fun word ↦ !unsafeSqlKeywords.contains (lower word)) =
          true := by decide
      simpa using List.all_eq_true.mp hsafe name hkeyword
    · exact hall id hid
    · exact tableAlias_not_unsafe _ _
    · exact outputName_not_unsafe item

end BoundParts

/-- A binding of a semantic query is one over the manifest in the row it read, and the gateway
executes its text exactly when none of the identifiers it writes is, in lower case, an unsafe
keyword. -/
theorem binding_executable_iff {sha256Hex : String → String} {workspaceId : String}
    {semanticQuery : Fields} {events : List GatewayEvent} {binding : SemanticQueryBinding}
    (h : Run (bindSemanticQuery sha256Hex workspaceId semanticQuery) events (.ok binding)) :
    ∃ metricId row manifest, requestedMetric semanticQuery = .ok metricId ∧
      events = [⟨.activePolicy workspaceId "semantic_manifest", .ok row⟩] ∧
      ManifestOf workspaceId row manifest ∧
      ∃ parts : BoundParts manifest metricId semanticQuery,
        ((∃ text, validateReadOnlyQuery binding.sqlText = .ok text) ↔
          ∀ id ∈ parts.identifiers, lower id.text ∉ unsafeSqlKeywords) := by
  obtain ⟨metricId, row, hmetric, hevents, hbinding⟩ := bindSemanticQuery_ok h
  obtain ⟨manifest, hmanifest, parts, htext, -⟩ := bindState_spec hbinding
  refine ⟨metricId, row, manifest, hmetric, hevents, hmanifest, parts, ?_⟩
  rw [htext]
  exact parts.validate_iff

/-- The policy row of a manifest with one entity and one metric, on a given column. -/
def ordersRow (field : String) : Option (Option Json) :=
  some (some (.obj [("manifest", .obj
    [("manifest_version", .str "1"), ("workspace_id", .str "ws"),
      ("entities", .arr [.obj [("entity_id", .str "orders"), ("dataset_id", .str "d1"),
        ("primary_key", .str "id"), ("attributes", .arr [.str "region"])]]),
      ("metrics", .arr [.obj [("metric_id", .str "m1"), ("entity_id", .str "orders"),
        ("aggregation", .str "sum"), ("field", .str field)]]),
      ("joins", .arr [])])]))

def ordersQuery : Fields := [("metric_id", .str "m1")]

def ordersText (field : String) : String :=
  "select sum(t0." ++ field ++ ") as metric_value from gold.orders as t0"

theorem run_bindSemanticQuery {sha256Hex : String → String} {workspaceId : String}
    {semanticQuery : Fields} {metricId : Identifier} {row : Option (Option Json)}
    {binding : SemanticQueryBinding} (hmetric : requestedMetric semanticQuery = .ok metricId)
    (hbinding : bindState sha256Hex workspaceId metricId semanticQuery row = .ok binding) :
    Run (bindSemanticQuery sha256Hex workspaceId semanticQuery)
      [⟨.activePolicy workspaceId "semantic_manifest", .ok row⟩] (.ok binding) := by
  unfold bindSemanticQuery
  rw [hmetric]
  refine (run_perform_bind_iff _ _ _ _).mpr (Or.inr ⟨row, [], rfl, ?_⟩)
  rw [hbinding]
  exact (run_done_iff _ _ _).mpr ⟨rfl, rfl⟩

/-- A metric on the column `amount` is bound, and whether it is executed is a matter of its
identifiers. -/
theorem orders_amount_executable : ∃ binding,
    Run (bindSemanticQuery id "ws" ordersQuery)
      [⟨.activePolicy "ws" "semantic_manifest", .ok (ordersRow "amount")⟩] (.ok binding) ∧
    ∃ metricId row manifest, requestedMetric ordersQuery = .ok metricId ∧
      [(⟨.activePolicy "ws" "semantic_manifest", .ok (ordersRow "amount")⟩ : GatewayEvent)] =
        [⟨.activePolicy "ws" "semantic_manifest", .ok row⟩] ∧
      ManifestOf "ws" row manifest ∧
      ∃ parts : BoundParts manifest metricId ordersQuery,
        ((∃ text, validateReadOnlyQuery binding.sqlText = .ok text) ↔
          ∀ id ∈ parts.identifiers, lower id.text ∉ unsafeSqlKeywords) := by
  have hbound : ∃ binding, bindState id "ws" ⟨"m1", by decide⟩ ordersQuery (ordersRow "amount") =
      .ok binding := ⟨_, rfl⟩
  obtain ⟨binding, hbinding⟩ := hbound
  have hrun := run_bindSemanticQuery (by decide) hbinding
  exact ⟨binding, hrun, binding_executable_iff hrun⟩

/-- A metric on the column `load` is bound, and the gateway refuses the text it has written. -/
theorem orders_load_refused : ∃ binding,
    Run (bindSemanticQuery id "ws" ordersQuery)
      [⟨.activePolicy "ws" "semantic_manifest", .ok (ordersRow "load")⟩] (.ok binding) ∧
    binding.sqlText = ordersText "load" ∧
    validateReadOnlyQuery binding.sqlText =
      .error (.unsafeSql "unsafe_sql_keyword_denied:load") := by
  have hbound : ∃ binding, bindState id "ws" ⟨"m1", by decide⟩ ordersQuery (ordersRow "load") =
      .ok binding ∧ binding.sqlText = ordersText "load" := ⟨_, rfl, rfl⟩
  obtain ⟨binding, hbinding, htext⟩ := hbound
  refine ⟨binding, run_bindSemanticQuery (by decide) hbinding, htext, ?_⟩
  rw [htext]
  rfl

end SchemaPilot.Gateway
