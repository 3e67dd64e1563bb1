import SchemaPilot.Library.DecimalText
import SchemaPilot.Library.NameSupply
import SchemaPilot.SharedDomain.ManifestNormalForm
import SchemaPilot.Workers.Discover

/-!
# Semantic bootstrap

`build_semantic_manifest_candidate` of `backend/workers/semantic_builder.py` proposes a manifest from the columns
the profiler saw. Names of datasets are turned into identifiers and numbered apart; names of columns are taken as
they are, so a manifest comes out exactly where the columns it mentions are identifiers already
(`yieldsValidManifest_iff`). Storing the candidate and opening its review task is left out.
-/

namespace SchemaPilot.Workers.SemanticBuilder

open Library Library.Text Library.Json SharedDomain

/-- `_string_list`, of `None` where the field is missing. -/
def stringList (value : Option Json) : List String :=
  match value with
  | some (.arr items) => sortedTexts ((items.map fun item ↦ strip item.toStr).filter (· ≠ ""))
  | _ => []

/-- `re.sub(r"[^A-Za-z0-9_]", "_", value.strip().lower())`, on characters. -/
def identifierChars (value : String) : List Char :=
  (lower (strip value)).toList.map fun c ↦ if isWordPart c then c else '_'

/-- `_safe_identifier`. -/
def safeIdentifier (value : String) : String :=
  match identifierChars value with
  | [] => "entity"
  | c :: rest => if c.isDigit then "e_" ++ String.ofList (c :: rest) else String.ofList (c :: rest)

/-- The names `_unique_entity_id` tries, in order. -/
def numberedId (base : String) : ℕ → String
  | 0 => base
  | n + 1 => base ++ "_" ++ toString (n + 2)

/-- `_unique_entity_id`. -/
def uniqueEntityId (base : String) (existing : List String) : String :=
  firstUnused (numberedId base) existing existing.length 0

/-- `_pick_primary_key`. -/
def pickPrimaryKey (columns : List String) : String :=
  match columns with
  | [] => "id"
  | first :: _ =>
    -- of the columns of one lower case the dictionary holds the last
    match columns.reverse.find? fun column ↦ lower column = "id" with
    | some column => column
    | none => (columns.find? fun column ↦ "_id".toList <:+ (lower column).toList).getD first

/-- A row of `entities`. -/
structure CandidateEntity where
  entityId : String
  datasetId : String
  primaryKey : String
  attributes : List String
deriving DecidableEq

/-- A row of `joins`. -/
structure CandidateJoin where
  joinId : String
  leftEntityId : String
  rightEntityId : String
  leftKey : String
  rightKey : String
  joinType : String
deriving DecidableEq

def CandidateEntity.toFields (entity : CandidateEntity) : Fields :=
  [("entity_id", .str entity.entityId), ("dataset_id", .str entity.datasetId),
    ("primary_key", .str entity.primaryKey), ("attributes", textList entity.attributes)]

def CandidateEntity.metricFields (entity : CandidateEntity) : Fields :=
  [("metric_id", .str (entity.entityId ++ "_count")), ("entity_id", .str entity.entityId),
    ("aggregation", .str "count"), ("field", .str entity.primaryKey),
    ("expression", .str ("count(" ++ entity.primaryKey ++ ")"))]

def CandidateJoin.toFields (join : CandidateJoin) : Fields :=
  [("join_id", .str join.joinId), ("left_entity_id", .str join.leftEntityId),
    ("right_entity_id", .str join.rightEntityId), ("left_key", .str join.leftKey),
    ("right_key", .str join.rightKey), ("join_type", .str join.joinType)]

/-- `MAX_ATTRIBUTES_PER_ENTITY`. -/
def maxAttributesPerEntity : ℕ := 40

def schemaColumns (dataset : DatasetRow) : List String :=
  let profile := getD (jsonDict dataset.sensitivitySummary) "profile" (.obj [])
  stringList (get? ((asObj? profile).getD []) "schema_columns")

/-- The attributes the builder keeps of some columns. -/
def keptAttributes (columns : List String) : List String :=
  (sortedTexts (columns.filter (· ≠ pickPrimaryKey columns))).take maxAttributesPerEntity

/-- The entity of a dataset, the ids given out so far known. -/
def candidateEntity (existing : List String) (dataset : DatasetRow) : CandidateEntity where
  entityId := uniqueEntityId
    (safeIdentifier (if dataset.logicalName = "" then dataset.datasetId else dataset.logicalName)) existing
  datasetId := dataset.datasetId
  primaryKey := pickPrimaryKey (schemaColumns dataset)
  attributes := keptAttributes (schemaColumns dataset)

def candidateEntities (existing : List String) : List DatasetRow → List CandidateEntity
  | [] => []
  | dataset :: rest =>
    let entity := candidateEntity existing dataset
    entity :: candidateEntities (entity.entityId :: existing) rest

/-- The join of an entity on the key of another, where it has a column of that name. -/
def inferJoin? (left right : CandidateEntity) : Option CandidateJoin :=
  if left.entityId = right.entityId then none
  else if left.primaryKey ∈ right.attributes then
    some ⟨right.entityId ++ "_to_" ++ left.entityId, right.entityId, left.entityId, left.primaryKey,
      left.primaryKey, "left"⟩
  else none

def unseenJoins (seenIds : List String) : List CandidateJoin → List CandidateJoin
  | [] => []
  | join :: rest =>
    if join.joinId ∈ seenIds then unseenJoins seenIds rest
    else join :: unseenJoins (join.joinId :: seenIds) rest

/-- `_infer_joins`. -/
def inferJoins (entities : List CandidateEntity) : List CandidateJoin :=
  sortedBy CandidateJoin.joinId
    (unseenJoins [] (entities.flatMap fun left ↦ entities.filterMap (inferJoin? left)))

/-- What is stored of a candidate: the manifest, the ids and keys of the datasets' entities, and the datasets whose
profile leaves doubts. -/
structure ManifestCandidate where
  manifest : SemanticManifest
  datasetEntityMap : List (String × String × String)
  confidenceFlags : List (String × String)

def confidenceFlag? (dataset : DatasetRow) : Option (String × String) :=
  let columns := schemaColumns dataset
  if columns = [] then some (dataset.datasetId, "missing_profile_columns")
  else if pickPrimaryKey columns = "id" ∧ "id" ∉ columns then
    some (dataset.datasetId, "fallback_primary_key")
  else none

def candidatePayload (workspaceId : String) (entities : List CandidateEntity) : Fields :=
  [("manifest_version", .str "1"), ("workspace_id", .str workspaceId),
    ("entities", .arr (entities.map fun entity ↦ .obj entity.toFields)),
    ("metrics", .arr (entities.map fun entity ↦ .obj entity.metricFields)),
    ("joins", .arr ((inferJoins entities).map fun join ↦ .obj join.toFields))]

/-- `build_semantic_manifest_candidate`, the datasets of the workspace in the order of the query given. -/
def buildSemanticManifestCandidate (workspaceId : String) (datasets : List DatasetRow) :
    Except String ManifestCandidate :=
  if datasets = [] then .error "semantic_bootstrap_requires_catalog_datasets"
  else do
    let entities := candidateEntities [] datasets
    let manifest ← validateSemanticManifest (candidatePayload workspaceId entities) (some workspaceId)
    .ok { manifest
          datasetEntityMap := entities.map fun entity ↦
            (entity.datasetId, entity.entityId, entity.primaryKey)
          confidenceFlags := datasets.filterMap confidenceFlag? }

theorem isWordPart_of_mem_identifierChars {value : String} {c : Char} (h : c ∈ identifierChars value) :
    isWordPart c = true := by
  obtain ⟨d, -, rfl⟩ := List.mem_map.mp h
  split_ifs with hword
  · exact hword
  · decide

theorem isIdentifier_safeIdentifier (value : String) : isIdentifier (safeIdentifier value) = true := by
  have hword := @isWordPart_of_mem_identifierChars value
  rw [safeIdentifier]
  cases hchars : identifierChars value with
  | nil => decide
  | cons c rest =>
    rw [hchars] at hword
    dsimp only
    split_ifs with hdigit
    · exact isIdentifier_append (by decide) fun d hd ↦ hword (by rwa [String.toList_ofList] at hd)
    · have hstart : isWordStart c = true := by
        have hc := hword List.mem_cons_self
        rw [isWordPart, Char.isAlphanum, Bool.or_eq_true, Bool.or_eq_true] at hc
        rw [isWordStart, Bool.or_eq_true]
        rcases hc with (halpha | hdecimal) | hunderscore
        · exact Or.inl halpha
        · exact absurd hdecimal hdigit
        · exact Or.inr hunderscore
      rw [isIdentifier, String.toList_ofList, isIdentifierChars_iff]
      exact ⟨c, rest, rfl, hstart, fun d hd ↦ hword (List.mem_cons_of_mem _ hd)⟩

theorem isWordPart_of_mem_numeral {n : ℕ} {c : Char} (h : c ∈ (toString n).toList) :
    isWordPart c = true := by
  have hdigits : (toString n).toList = Nat.toDigits 10 n := Nat.toList_repr
  rw [hdigits] at h
  rw [isWordPart, Char.isAlphanum, DecimalText.isDigit_of_mem_toDigits h, Bool.or_true, Bool.true_or]

theorem isIdentifier_numberedId {base : String} (h : isIdentifier base = true) (n : ℕ) :
    isIdentifier (numberedId base n) = true := by
  cases n with
  | zero => exact h
  | succ n =>
    rw [numberedId, String.append_assoc]
    refine isIdentifier_append h fun c hc ↦ ?_
    rw [String.toList_append, List.mem_append] at hc
    rcases hc with hc | hc
    · rw [List.mem_singleton.mp hc]
      decide
    · exact isWordPart_of_mem_numeral hc

theorem numeral_injective : Function.Injective (toString : ℕ → String) := by
  intro first second h
  have hdigits : Nat.toDigits 10 first = Nat.toDigits 10 second := by
    rw [← Nat.toList_repr, ← Nat.toList_repr]
    exact congrArg String.toList h
  rw [← Nat.ofDigitChars_ten_toDigits (n := first), hdigits, Nat.ofDigitChars_ten_toDigits]

theorem numberedId_injective (base : String) : Function.Injective (numberedId base) := by
  have hlonger : ∀ n, numberedId base (n + 1) ≠ base := by
    intro n h
    have hlength := congrArg String.length h
    rw [numberedId, String.length_append, String.length_append] at hlength
    change base.length + 1 + _ = _ at hlength
    omega
  intro first second h
  cases first with
  | zero =>
    cases second with
    | zero => rfl
    | succ second => exact absurd h.symm (hlonger second)
  | succ first =>
    cases second with
    | zero => exact absurd h (hlonger first)
    | succ second =>
      have hnumeral : toString (first + 2) = toString (second + 2) := by
        have hchars := congrArg String.toList h
        simp only [numberedId, String.toList_append] at hchars
        exact String.ext_iff.mpr (List.append_cancel_left hchars)
      rw [Nat.add_right_cancel (numeral_injective hnumeral)]

theorem uniqueEntityId_not_mem (base : String) (existing : List String) :
    uniqueEntityId base existing ∉ existing :=
  firstUnused_not_mem (numberedId_injective base) 0

theorem isIdentifier_uniqueEntityId {base : String} (h : isIdentifier base = true)
    (existing : List String) : isIdentifier (uniqueEntityId base existing) = true := by
  obtain ⟨n, hn⟩ := exists_firstUnused (numberedId base) existing existing.length 0
  rw [uniqueEntityId, hn]
  exact isIdentifier_numberedId h n

@[simp] theorem strip_of_mem_stringList {value : Option Json} {column : String}
    (h : column ∈ stringList value) : strip column = column := by
  unfold stringList at h
  split at h
  · rw [mem_sortedTexts, List.mem_filter, List.mem_map] at h
    obtain ⟨⟨item, -, rfl⟩, -⟩ := h
    exact strip_strip _
  · exact absurd h List.not_mem_nil

/-- The primary key is one of the columns, or the word put in for a missing one. -/
theorem pickPrimaryKey_mem (columns : List String) :
    pickPrimaryKey columns ∈ columns ∨ (columns = [] ∧ pickPrimaryKey columns = "id") := by
  unfold pickPrimaryKey
  split
  · exact Or.inr ⟨rfl, rfl⟩
  · rename_i first rest
    left
    split
    · rename_i column hfound
      exact List.mem_reverse.mp (List.mem_of_find?_eq_some hfound)
    · cases hfound : (first :: rest).find? fun column ↦ "_id".toList <:+ (lower column).toList with
      | none => exact List.mem_cons_self
      | some column => exact List.mem_of_find?_eq_some hfound

/-- The columns of a dataset that its entity mentions: the primary key and the attributes that are kept. -/
def mentionedColumns (dataset : DatasetRow) : List String :=
  pickPrimaryKey (schemaColumns dataset) :: keptAttributes (schemaColumns dataset)

theorem strip_of_mem_mentionedColumns {dataset : DatasetRow} {column : String}
    (h : column ∈ mentionedColumns dataset) : strip column = column := by
  rcases List.mem_cons.mp h with rfl | hkept
  · rcases pickPrimaryKey_mem (schemaColumns dataset) with hmem | ⟨-, hid⟩
    · exact strip_of_mem_stringList hmem
    · rw [hid]
      decide
  · have hmem := mem_sortedTexts.mp (List.mem_of_mem_take hkept)
    exact strip_of_mem_stringList (List.mem_of_mem_filter hmem)

/-- The ids of the entities are new and distinct. -/
theorem candidateEntities_ids (existing : List String) (datasets : List DatasetRow) :
    ((candidateEntities existing datasets).map CandidateEntity.entityId).Nodup ∧
      ∀ entity ∈ candidateEntities existing datasets, entity.entityId ∉ existing := by
  induction datasets generalizing existing with
  | nil => simp [candidateEntities]
  | cons dataset rest ih =>
    obtain ⟨hnodup, hnew⟩ := ih ((candidateEntity existing dataset).entityId :: existing)
    rw [candidateEntities, List.map_cons, List.nodup_cons, List.forall_mem_cons]
    refine ⟨⟨fun hmem ↦ ?_, hnodup⟩, uniqueEntityId_not_mem _ existing, fun entity hentity hold ↦ ?_⟩
    · obtain ⟨entity, hentity, hsame⟩ := List.mem_map.mp hmem
      exact hnew entity hentity (hsame ▸ List.mem_cons_self)
    · exact hnew entity hentity (List.mem_cons_of_mem _ hold)

/-- Each entity describes its dataset under some identifier. -/
theorem candidateEntities_forall₂ (existing : List String) (datasets : List DatasetRow) :
    List.Forall₂ (fun dataset entity ↦ isIdentifier entity.entityId = true ∧
        entity.datasetId = dataset.datasetId ∧
        entity.primaryKey :: entity.attributes = mentionedColumns dataset)
      datasets (candidateEntities existing datasets) := by
  induction datasets generalizing existing with
  | nil => exact .nil
  | cons dataset rest ih =>
    exact .cons ⟨isIdentifier_uniqueEntityId (isIdentifier_safeIdentifier _) existing, rfl, rfl⟩ (ih _)

theorem unseenJoins_spec (seenIds : List String) (joins : List CandidateJoin) :
    ((unseenJoins seenIds joins).map CandidateJoin.joinId).Nodup ∧
      ∀ join ∈ unseenJoins seenIds joins, join.joinId ∉ seenIds ∧ join ∈ joins := by
  induction joins generalizing seenIds with
  | nil => simp [unseenJoins]
  | cons first rest ih =>
    rw [unseenJoins]
    split_ifs with hseen
    · obtain ⟨hnodup, hrest⟩ := ih seenIds
      exact ⟨hnodup, fun join hjoin ↦ ⟨(hrest join hjoin).1, List.mem_cons_of_mem _ (hrest join hjoin).2⟩⟩
    · obtain ⟨hnodup, hrest⟩ := ih (first.joinId :: seenIds)
      rw [List.map_cons, List.nodup_cons, List.forall_mem_cons]
      refine ⟨⟨fun hmem ↦ ?_, hnodup⟩, ⟨hseen, List.mem_cons_self⟩, fun join hjoin ↦ ?_⟩
      · obtain ⟨join, hjoin, hsame⟩ := List.mem_map.mp hmem
        exact (hrest join hjoin).1 (hsame ▸ List.mem_cons_self)
      · exact ⟨fun hold ↦ (hrest join hjoin).1 (List.mem_cons_of_mem _ hold),
          List.mem_cons_of_mem _ (hrest join hjoin).2⟩

theorem inferJoins_ids (entities : List CandidateEntity) :
    ((inferJoins entities).map CandidateJoin.joinId).Nodup :=
  ((perm_sortedBy _ _).map _).nodup_iff.mpr (unseenJoins_spec [] _).1

theorem exists_of_mem_inferJoins {entities : List CandidateEntity} {join : CandidateJoin}
    (h : join ∈ inferJoins entities) :
    ∃ left ∈ entities, ∃ right ∈ entities, inferJoin? left right = some join := by
  have hmem := ((unseenJoins_spec [] _).2 join ((mem_sortedBy _).mp h)).2
  obtain ⟨left, hleft, hjoin⟩ := List.mem_flatMap.mp hmem
  obtain ⟨right, hright, hjoin⟩ := List.mem_filterMap.mp hjoin
  exact ⟨left, hleft, right, hright, hjoin⟩

/-- The loop of a normaliser over candidates that are normalised one by one under distinct ids. -/
theorem exists_normalizeRows {Candidate Row : Type}
    (normalize : List Identifier → ℕ → Json → Except String Row) (idOf : Row → Identifier)
    (toFields : Candidate → Fields) {key : Candidate → String} {candidates : List Candidate}
    (hnodup : (candidates.map key).Nodup)
    (h : ∀ candidate ∈ candidates, ∃ row, (idOf row).text = key candidate ∧ ∀ seenIds index,
      idOf row ∉ seenIds → normalize seenIds index (.obj (toFields candidate)) = .ok row) :
    ∃ rows, normalizeRows normalize idOf [] 0
        (candidates.map fun candidate ↦ .obj (toFields candidate)) = .ok rows ∧
      rows.map (fun row ↦ (idOf row).text) = candidates.map key := by
  obtain ⟨rows, hrows⟩ := exists_forall₂ h
  have hkeys : rows.map (fun row ↦ (idOf row).text) = candidates.map key := by
    rw [← List.forall₂_eq_eq_eq, List.forall₂_map_left_iff, List.forall₂_map_right_iff]
    exact (hrows.imp fun _ _ hrow ↦ hrow.1).flip
  refine ⟨rows, normalizeRows_of_forall₂ ?_ ?_ (by simp), hkeys⟩
  · rw [← List.zipIdx_map_fst 0 candidates, List.forall₂_map_left_iff] at hrows
    rw [List.zipIdx_map, List.forall₂_map_left_iff]
    exact hrows.imp fun _ _ hrow seenIds ↦ hrow.2 seenIds _
  · rw [← hkeys] at hnodup
    exact List.Nodup.of_map Identifier.text (by rwa [List.map_map])

/-- The rows of a normaliser that accepts some candidates come from them. -/
theorem normalised_of_normalizeRows {Candidate Row : Type}
    {normalize : List Identifier → ℕ → Json → Except String Row} {idOf : Row → Identifier}
    {toFields : Candidate → Fields} {candidates : List Candidate} {rows : List Row}
    (h : normalizeRows normalize idOf [] 0 (candidates.map fun candidate ↦ .obj (toFields candidate)) = .ok rows) :
    ∀ candidate ∈ candidates, ∃ row seenIds index,
      normalize seenIds index (.obj (toFields candidate)) = .ok row := by
  have hrows := forall₂_of_normalizeRows h
  intro candidate hcandidate
  have hmem : Json.obj (toFields candidate) ∈
      ((candidates.map fun candidate ↦ Json.obj (toFields candidate)).zipIdx 0).map Prod.fst := by
    rw [List.zipIdx_map_fst]
    exact List.mem_map_of_mem hcandidate
  obtain ⟨⟨row, index⟩, hrow, rfl⟩ := List.mem_map.mp hmem
  obtain ⟨normalized, -, seenIds, hnormalized⟩ := exists_mem_of_forall₂ hrows hrow
  exact ⟨normalized, seenIds, index, hnormalized⟩

theorem normalizedId_str {text : String} (h : isIdentifier text = true) (field : String) :
    normalizedId (some (.str text)) field = .ok ⟨text, h⟩ :=
  normalizedId_text ⟨text, h⟩ field

theorem isIdentifier_of_normalizedId {text field : String} {id : Identifier}
    (h : normalizedId (some (.str text)) field = .ok id) : isIdentifier (strip text) = true := by
  rw [normalizedId] at h
  split_ifs at h with hempty hmatches
  rw [← idText_str]
  exact isIdentifier_idText hmatches

/-- An entity is normalised where what it mentions are identifiers. -/
theorem exists_normalizeEntity {entity : CandidateEntity} (hid : isIdentifier entity.entityId = true)
    (hdataset : strip entity.datasetId ≠ "")
    (hcolumns : ∀ column ∈ entity.primaryKey :: entity.attributes, isIdentifier column = true) :
    ∃ row : SemanticEntity, row.entityId.text = entity.entityId ∧ ∀ seenIds, row.entityId ∉ seenIds →
      normalizeEntity seenIds (.obj entity.toFields) = .ok row := by
  rw [List.forall_mem_cons] at hcolumns
  have hids : ∀ column ∈ entity.attributes.map Json.str, ∃ id,
      normalizedId (some column) "attribute" = .ok id := by
    intro column hcolumn
    obtain ⟨text, htext, rfl⟩ := List.mem_map.mp hcolumn
    exact ⟨_, normalizedId_str (hcolumns.2 text htext) _⟩
  obtain ⟨attributes, hattributes⟩ := exists_forall₂ hids
  refine ⟨⟨⟨entity.entityId, hid⟩, strip entity.datasetId, ⟨entity.primaryKey, hcolumns.1⟩,
    sortedIdentifiers attributes⟩, rfl, fun seenIds hunseen ↦ ?_⟩
  have hdatasetId : strippedText entity.toFields "dataset_id" "" = strip entity.datasetId := rfl
  have hitems : listField entity.toFields "attributes" "invalid_entity_attributes" =
      .ok (entity.attributes.map Json.str) := rfl
  have hentityId : get? entity.toFields "entity_id" = some (.str entity.entityId) := rfl
  have hprimaryKey : get? entity.toFields "primary_key" = some (.str entity.primaryKey) := rfl
  rw [normalizeEntity, mappingRow, ok_bind, hentityId, normalizedId_str hid, ok_bind, if_neg hunseen,
    hdatasetId, if_neg hdataset, hprimaryKey, normalizedId_str hcolumns.1, ok_bind, hitems, ok_bind,
    mapM_eq_ok_iff.mpr hattributes, ok_bind]

theorem columns_of_normalizeEntity {entity : CandidateEntity} {seenIds : List Identifier}
    {row : SemanticEntity} (h : normalizeEntity seenIds (.obj entity.toFields) = .ok row) :
    strip entity.datasetId ≠ "" ∧
      ∀ column ∈ entity.primaryKey :: entity.attributes, isIdentifier (strip column) = true := by
  simp only [normalizeEntity, mappingRow, bind_eq_ok_iff, ite_error_eq_ok_iff, Except.ok.injEq,
    exists_eq_left'] at h
  obtain ⟨entityId, -, -, hdataset, primaryKey, hprimaryKey, items, hitems, attributes, hattributes, -⟩ := h
  refine ⟨hdataset, List.forall_mem_cons.mpr ⟨isIdentifier_of_normalizedId hprimaryKey, ?_⟩⟩
  intro column hcolumn
  have hlist : items = entity.attributes.map Json.str := by
    cases hitems
    rfl
  rw [hlist, mapM_eq_ok_iff] at hattributes
  obtain ⟨id, -, hid⟩ := exists_mem_of_forall₂ hattributes (List.mem_map_of_mem hcolumn)
  exact isIdentifier_of_normalizedId hid

theorem mem_of_text_mem {ids : List Identifier} {text : String} (hid : isIdentifier text = true)
    (h : text ∈ ids.map Identifier.text) : (⟨text, hid⟩ : Identifier) ∈ ids := by
  obtain ⟨id, hmem, rfl⟩ := List.mem_map.mp h
  exact hmem

theorem exists_normalizeMetric {entity : CandidateEntity} {entityIds : List Identifier}
    (hid : isIdentifier entity.entityId = true) (hkey : isIdentifier entity.primaryKey = true)
    (hknown : entity.entityId ∈ entityIds.map Identifier.text) :
    ∃ row : SemanticMetric, row.metricId.text = entity.entityId ++ "_count" ∧ ∀ seenIds,
      row.metricId ∉ seenIds → normalizeMetric entityIds seenIds (.obj entity.metricFields) = .ok row := by
  have hmetricId : isIdentifier (entity.entityId ++ "_count") = true :=
    isIdentifier_append hid (by decide)
  have hmetricField : get? entity.metricFields "metric_id" = some (.str (entity.entityId ++ "_count")) := rfl
  have hentityField : get? entity.metricFields "entity_id" = some (.str entity.entityId) := rfl
  have hfield : get? entity.metricFields "field" = some (.str entity.primaryKey) := rfl
  have haggregation : strippedText entity.metricFields "aggregation" "" = "count" := by
    change strip "count" = "count"
    decide
  have hword : Aggregation.ofWord? (lower "count") = some .count := by decide
  refine ⟨⟨⟨_, hmetricId⟩, ⟨_, hid⟩, .count, ⟨_, hkey⟩,
    if strippedText entity.metricFields "expression" "" = "" then "count" ++ "(" ++ entity.primaryKey ++ ")"
    else strippedText entity.metricFields "expression" ""⟩, rfl, fun seenIds hunseen ↦ ?_⟩
  rw [normalizeMetric, mappingRow, ok_bind, hmetricField, normalizedId_str hmetricId, ok_bind,
    if_neg hunseen, hentityField, normalizedId_str hid, ok_bind,
    if_neg (not_not.mpr (mem_of_text_mem hid hknown)), haggregation, hword]
  dsimp only
  rw [hfield, normalizedId_str hkey, ok_bind]
  rfl

/-- A join between entities is normalised where they are. -/
theorem exists_normalizeJoin {left right : CandidateEntity} {join : CandidateJoin}
    {entityIds : List Identifier} (hjoin : inferJoin? left right = some join)
    (hleft : isIdentifier left.entityId = true) (hright : isIdentifier right.entityId = true)
    (hkey : isIdentifier left.primaryKey = true)
    (hleftKnown : left.entityId ∈ entityIds.map Identifier.text)
    (hrightKnown : right.entityId ∈ entityIds.map Identifier.text) :
    ∃ row : SemanticJoin, row.joinId.text = join.joinId ∧ ∀ seenIds index, row.joinId ∉ seenIds →
      normalizeJoin entityIds seenIds index (.obj join.toFields) = .ok row := by
  rw [inferJoin?] at hjoin
  split_ifs at hjoin
  cases hjoin
  have hjoinId : isIdentifier (right.entityId ++ "_to_" ++ left.entityId) = true := by
    refine isIdentifier_append (isIdentifier_append hright (by decide)) fun c hc ↦ ?_
    exact isWordPart_of_mem hleft hc
  have hne : right.entityId ++ "_to_" ++ left.entityId ≠ "" := fun h ↦ by
    rw [h] at hjoinId
    exact absurd hjoinId (by decide)
  refine ⟨⟨⟨_, hjoinId⟩, ⟨_, hright⟩, ⟨_, hleft⟩, ⟨_, hkey⟩, ⟨_, hkey⟩, .left⟩, rfl,
    fun seenIds index hunseen ↦ ?_⟩
  generalize hfields : CandidateJoin.toFields _ = fields
  have hgiven : strippedText fields "join_id" "" = right.entityId ++ "_to_" ++ left.entityId := by
    rw [← hfields]
    exact strip_identifier hjoinId
  have hleftField : get? fields "left_entity_id" = some (.str right.entityId) := by rw [← hfields]; rfl
  have hrightField : get? fields "right_entity_id" = some (.str left.entityId) := by rw [← hfields]; rfl
  have hleftKey : get? fields "left_key" = some (.str left.primaryKey) := by rw [← hfields]; rfl
  have hrightKey : get? fields "right_key" = some (.str left.primaryKey) := by rw [← hfields]; rfl
  have hjoinType : JoinType.ofWord? (lower (strippedText fields "join_type" "inner")) = some .left := by
    rw [← hfields]
    change JoinType.ofWord? (lower (strip "left")) = some .left
    decide
  rw [normalizeJoin, mappingRow, ok_bind]
  dsimp only
  rw [hgiven, if_neg hne, normalizedId_str hjoinId, ok_bind, if_neg hunseen, hleftField,
    normalizedId_str hright, ok_bind, hrightField, normalizedId_str hleft, ok_bind,
    if_neg (not_or.mpr ⟨not_not.mpr (mem_of_text_mem hright hrightKnown),
      not_not.mpr (mem_of_text_mem hleft hleftKnown)⟩), hleftKey, normalizedId_str hkey, ok_bind, hrightKey,
    normalizedId_str hkey, ok_bind, hjoinType]

/-- A catalog a manifest can be built from: the ids are not blank, and the columns its entities mention are
identifiers. -/
structure Bootstrappable (workspaceId : String) (datasets : List DatasetRow) : Prop where
  workspaceId : workspaceId ≠ "" ∧ strip workspaceId = workspaceId
  datasetIds : ∀ dataset ∈ datasets, strip dataset.datasetId ≠ ""
  columns : ∀ dataset ∈ datasets, ∀ column ∈ mentionedColumns dataset, isIdentifier column = true

/-- The builder returns a manifest that is valid, with pairwise distinct ids. -/
def YieldsValidManifest (workspaceId : String) (datasets : List DatasetRow) : Prop :=
  ∃ candidate, buildSemanticManifestCandidate workspaceId datasets = .ok candidate ∧
    validateSemanticManifest candidate.manifest.toFields (some workspaceId) = .ok candidate.manifest ∧
    candidate.manifest.entityIds.Nodup ∧
    (candidate.manifest.metrics.map SemanticMetric.metricId).Nodup ∧
    (candidate.manifest.joins.map SemanticJoin.joinId).Nodup

/-- The entities of such a catalog are normalised, under the ids given out. -/
theorem exists_normalizeEntities {workspaceId : String} {datasets : List DatasetRow}
    (h : Bootstrappable workspaceId datasets) :
    ∃ entities, normalizeEntities
        ((candidateEntities [] datasets).map fun entity ↦ .obj entity.toFields) = .ok entities ∧
      ∀ entity ∈ candidateEntities [] datasets,
        entity.entityId ∈ (entities.map SemanticEntity.entityId).map Identifier.text := by
  have hrows := (candidateEntities_forall₂ [] datasets).flip
  obtain ⟨rows, hnormalized, hids⟩ := exists_normalizeRows (fun seenIds _ ↦ normalizeEntity seenIds)
    SemanticEntity.entityId CandidateEntity.toFields (candidateEntities_ids [] datasets).1 fun entity hentity ↦ by
      obtain ⟨dataset, hdataset, hid, hdatasetId, hcolumns⟩ := exists_mem_of_forall₂ hrows hentity
      obtain ⟨row, hrow, hnormalized⟩ := exists_normalizeEntity hid
        (hdatasetId ▸ h.datasetIds dataset hdataset) (hcolumns ▸ h.columns dataset hdataset)
      exact ⟨row, hrow, fun seenIds _ ↦ hnormalized seenIds⟩
  refine ⟨_, by rw [normalizeEntities, hnormalized, ok_bind], fun entity hentity ↦ ?_⟩
  have hmem : entity.entityId ∈ rows.map fun row ↦ row.entityId.text := by
    rw [hids]
    exact List.mem_map_of_mem hentity
  obtain ⟨row, hrow, hid⟩ := List.mem_map.mp hmem
  rw [List.map_map]
  exact List.mem_map.mpr ⟨row, (List.mem_insertionSort _).mpr hrow, hid⟩

/-- The candidates of such a catalog are valid. -/
theorem exists_validated {workspaceId : String} {datasets : List DatasetRow}
    (h : Bootstrappable workspaceId datasets) :
    ∃ manifest, validateSemanticManifest (candidatePayload workspaceId (candidateEntities [] datasets))
      (some workspaceId) = .ok manifest := by
  obtain ⟨entities, hentities, hknown⟩ := exists_normalizeEntities h
  obtain ⟨hids, -⟩ := candidateEntities_ids [] datasets
  have hvalid : ∀ entity ∈ candidateEntities [] datasets, isIdentifier entity.entityId = true ∧
      isIdentifier entity.primaryKey = true := by
    intro entity hentity
    obtain ⟨dataset, hdataset, hid, -, hcolumns⟩ :=
      exists_mem_of_forall₂ (candidateEntities_forall₂ [] datasets).flip hentity
    exact ⟨hid, h.columns dataset hdataset _ (hcolumns ▸ List.mem_cons_self)⟩
  have hmetricIds : ((candidateEntities [] datasets).map fun entity ↦ entity.entityId ++ "_count").Nodup := by
    have hinjective : Function.Injective fun id : String ↦ id ++ "_count" := by
      intro first second hsame
      have hchars := congrArg String.toList hsame
      simp only [String.toList_append] at hchars
      exact String.ext_iff.mpr (List.append_cancel_right hchars)
    have hmap := hids.map hinjective
    rwa [List.map_map] at hmap
  obtain ⟨metrics, hmetrics, -⟩ := exists_normalizeRows
    (fun seenIds _ ↦ normalizeMetric (entities.map SemanticEntity.entityId) seenIds)
    SemanticMetric.metricId CandidateEntity.metricFields hmetricIds fun entity hentity ↦ by
      obtain ⟨row, hrow, hnormalized⟩ := exists_normalizeMetric (hvalid entity hentity).1
        (hvalid entity hentity).2 (hknown entity hentity)
      exact ⟨row, hrow, fun seenIds _ ↦ hnormalized seenIds⟩
  obtain ⟨joins, hjoins, -⟩ := exists_normalizeRows
    (normalizeJoin (entities.map SemanticEntity.entityId)) SemanticJoin.joinId CandidateJoin.toFields
    (inferJoins_ids (candidateEntities [] datasets)) fun join hjoin ↦ by
      obtain ⟨left, hleft, right, hright, hjoin⟩ := exists_of_mem_inferJoins hjoin
      exact exists_normalizeJoin hjoin (hvalid left hleft).1 (hvalid right hright).1 (hvalid left hleft).2
        (hknown left hleft) (hknown right hright)
  have hversion : strippedText (candidatePayload workspaceId (candidateEntities [] datasets))
      "manifest_version" "" = semanticManifestVersion := by
    change strip "1" = "1"
    decide
  have hworkspace : strippedText (candidatePayload workspaceId (candidateEntities [] datasets))
      "workspace_id" "" = workspaceId := h.workspaceId.2
  have hexpected : ¬∃ expected ∈ some workspaceId, workspaceId ≠ expected := by simp
  have hlist : ∀ (key : String) {error : String} {items : List Json},
      get? (candidatePayload workspaceId (candidateEntities [] datasets)) key = some (.arr items) →
        listField (candidatePayload workspaceId (candidateEntities [] datasets)) key error = .ok items := by
    intro key error items hitems
    rw [listField, getD, hitems]
    rfl
  have haccepted : (validateSemanticManifest (candidatePayload workspaceId (candidateEntities [] datasets))
      (some workspaceId)).isOk = true := by
    simp only [validateSemanticManifest]
    rw [hversion, if_neg (not_not.mpr rfl), hworkspace, if_neg h.workspaceId.1, if_neg hexpected,
      hlist "entities" rfl, ok_bind, hlist "metrics" rfl, ok_bind, hlist "joins" rfl, ok_bind, hentities,
      ok_bind, normalizeMetrics, hmetrics, ok_bind, ok_bind, normalizeJoins, hjoins, ok_bind, ok_bind]
    rfl
  cases hmanifest : validateSemanticManifest (candidatePayload workspaceId (candidateEntities [] datasets))
      (some workspaceId) with
  | error error =>
    rw [hmanifest] at haccepted
    cases haccepted
  | ok manifest => exact ⟨manifest, rfl⟩

/-- A candidate is valid only where the catalog is one a manifest can be built from. -/
theorem bootstrappable_of_validated {workspaceId : String} {datasets : List DatasetRow}
    {manifest : SemanticManifest} (h : validateSemanticManifest
      (candidatePayload workspaceId (candidateEntities [] datasets)) (some workspaceId) = .ok manifest) :
    Bootstrappable workspaceId datasets := by
  simp only [validateSemanticManifest, bind_eq_ok_iff, ite_error_eq_ok_iff, Except.ok.injEq] at h
  obtain ⟨-, hworkspace, hexpected, entityRows, hentityRows, -, -, -, -, entities, hentities, -⟩ := h
  have hstrip : strippedText (candidatePayload workspaceId (candidateEntities [] datasets))
      "workspace_id" "" = strip workspaceId := rfl
  have hsame : strip workspaceId = workspaceId := by
    by_contra hne
    exact hexpected ⟨workspaceId, rfl, hne⟩
  have hlist : entityRows = (candidateEntities [] datasets).map fun entity ↦ .obj entity.toFields := by
    cases hentityRows
    rfl
  simp only [normalizeEntities, bind_eq_ok_iff, hlist] at hentities
  obtain ⟨rows, hrows, -⟩ := hentities
  have hnormalised := normalised_of_normalizeRows hrows
  have hdatasets : ∀ dataset ∈ datasets, strip dataset.datasetId ≠ "" ∧
      ∀ column ∈ mentionedColumns dataset, isIdentifier column = true := by
    intro dataset hdataset
    obtain ⟨entity, hentity, -, hid, hcolumns⟩ :=
      exists_mem_of_forall₂ (candidateEntities_forall₂ [] datasets) hdataset
    obtain ⟨row, seenIds, index, hrow⟩ := hnormalised entity hentity
    obtain ⟨hdatasetId, hidentifiers⟩ := columns_of_normalizeEntity hrow
    rw [hid] at hdatasetId
    rw [hcolumns] at hidentifiers
    refine ⟨hdatasetId, fun column hcolumn ↦ ?_⟩
    rw [← strip_of_mem_mentionedColumns hcolumn]
    exact hidentifiers column hcolumn
  exact {
    workspaceId := ⟨fun hempty ↦ hworkspace (by rw [hstrip, hsame, hempty]), hsame⟩
    datasetIds := fun dataset hdataset ↦ (hdatasets dataset hdataset).1
    columns := fun dataset hdataset ↦ (hdatasets dataset hdataset).2 }

/-- A manifest comes out of such a catalog only. -/
theorem bootstrappable_of_yields {workspaceId : String} {datasets : List DatasetRow}
    (h : YieldsValidManifest workspaceId datasets) : Bootstrappable workspaceId datasets := by
  obtain ⟨candidate, hcandidate, -⟩ := h
  simp only [buildSemanticManifestCandidate, ite_error_eq_ok_iff, bind_eq_ok_iff] at hcandidate
  obtain ⟨-, manifest, hmanifest, -⟩ := hcandidate
  exact bootstrappable_of_validated hmanifest

/-- A manifest comes out of a catalog with datasets exactly where the columns its entities mention are identifiers:
names of datasets are sanitised and numbered apart, names of columns are not. -/
theorem yieldsValidManifest_iff (workspaceId : String) {datasets : List DatasetRow} (hdatasets : datasets ≠ []) :
    YieldsValidManifest workspaceId datasets ↔ Bootstrappable workspaceId datasets := by
  refine ⟨bootstrappable_of_yields, fun h ↦ ?_⟩
  obtain ⟨manifest, hmanifest⟩ := exists_validated h
  have hwellFormed := (validateSemanticManifest_wellFormed hmanifest).1
  rw [YieldsValidManifest]
  simp only [buildSemanticManifestCandidate, if_neg hdatasets, hmanifest, ok_bind, Except.ok.injEq,
    exists_eq_left']
  exact ⟨validateSemanticManifest_toFields hmanifest, hwellFormed.entityIds_nodup,
    hwellFormed.metricIds_nodup, hwellFormed.joinIds_nodup⟩

def profiledDataset (datasetId logicalName : String) (columns : List String) : DatasetRow where
  datasetId := datasetId
  workspaceId := "w1"
  sensitivitySummary := .obj [("profile", .obj [("schema_columns", textList columns)])]
  sourceId := "s1"
  logicalName := logicalName
  physicalLocator := "orders.csv"
  schemaVersion := 1

/-- Two files of one name with plain headers. -/
theorem plain_headers_yield_manifest :
    YieldsValidManifest "w1" [profiledDataset "d1" "2024 orders" ["order_id", "total"],
      profiledDataset "d2" "2024 Orders" ["order_id"]] := by
  refine (yieldsValidManifest_iff "w1" (List.cons_ne_nil _ _)).mpr ⟨by decide, by decide, ?_⟩
  simp only [List.forall_mem_cons]
  decide

/-- A header with a blank fails the run. -/
theorem header_with_blank_fails :
    ¬YieldsValidManifest "w1" [profiledDataset "d1" "orders" ["Order ID", "total"]] := by
  intro h
  have hcolumn := (bootstrappable_of_yields h).columns _ List.mem_cons_self "Order ID" (by decide)
  exact absurd hcolumn (by decide)

end SchemaPilot.Workers.SemanticBuilder
