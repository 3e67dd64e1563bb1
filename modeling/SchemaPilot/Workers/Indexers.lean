import SchemaPilot.Library.Effect
import SchemaPilot.Library.Except
import SchemaPilot.SharedDomain.Errors
import Mathlib.Data.List.Perm.Basic
import Mathlib.Logic.Function.Iterate

/-!
# Search indexes

`backend/workers/indexers/opensearch_indexer.py` and `qdrant_indexer.py`, and servers that replace an
entry with the same identifier and create a fresh one when none is given. The Qdrant indexer names its
points by the artifacts, so a second run replaces them (`entries_runQdrant`); the OpenSearch indexer
names nothing, so every run adds all documents once more. `reindexed_iff` says when a number of runs
leaves one entry per document all the same.
-/

namespace SchemaPilot.Workers.Indexers

open Library Library.Json Library.Effect SharedDomain

/-! ### Payloads -/

/-- The sort key of a row, `str(row.get("artifact_id", ""))`. -/
def artifactKey (row : Fields) : String := (getD row "artifact_id" (.str "")).toStr

/-- The rows of a corpus in the order both indexers take them up. -/
def sortedCorpus (corpus : List Fields) : List Fields :=
  corpus.insertionSort fun first second ↦ artifactKey first ≤ artifactKey second

/-- Neither identifier of the row is blank. -/
def IsIndexable (item : Fields) : Prop :=
  strippedText item "artifact_id" "" ≠ "" ∧ strippedText item "dataset_id" "" ≠ ""

instance (item : Fields) : Decidable (IsIndexable item) := inferInstanceAs (Decidable (_ ∧ _))

/-- The document both indexers make of a row. -/
def documentOf (workspaceId : String) (item : Fields) : Fields :=
  let artifactId := strippedText item "artifact_id" ""
  [("workspace_id", .str workspaceId), ("artifact_id", .str artifactId),
    ("dataset_id", .str (strippedText item "dataset_id" "")),
    ("text", .str (getD item "text" (.str "")).toStr),
    ("citation", .str (getD item "citation" (.str ("artifact:" ++ artifactId))).toStr)]

def bulkAction (indexName : String) : Json :=
  .obj [("index", .obj [("_index", .str indexName)])]

def bulkLines (workspaceId indexName : String) (item : Fields) : List Json :=
  if IsIndexable item then [bulkAction indexName, .obj (documentOf workspaceId item)] else []

/-- The lines of `build_bulk_payload`. -/
def buildBulkPayload (workspaceId : String) (corpus : List Fields) (indexName : String) :
    List Json :=
  (sortedCorpus corpus).flatMap (bulkLines workspaceId indexName)

def pointOf (embed : String → Except Exn Json) (workspaceId : String) (item : Fields) :
    Except Exn Json := do
  let vector ← embed (getD item "text" (.str "")).toStr
  return .obj [("id", .str (strippedText item "artifact_id" "")), ("vector", vector),
    ("payload", .obj (documentOf workspaceId item))]

/-- `build_points_payload`. -/
def buildPointsPayload (embed : String → Except Exn Json) (workspaceId : String)
    (corpus : List Fields) : Except Exn (List Json) :=
  ((sortedCorpus corpus).filter fun item ↦ IsIndexable item).mapM (pointOf embed workspaceId)

/-! ### Indexers -/

variable {σ : Type}

/-- `base_url.rstrip("/")`. -/
def trimmedUrl (baseUrl : String) : String := String.ofList (baseUrl.toList.rdropWhile (· == '/'))

/-- `_bulk_url`. -/
def bulkUrl (baseUrl : String) : String := trimmedUrl baseUrl ++ "/_bulk"

/-- `_points_url`. -/
def pointsUrl (baseUrl collectionName : String) : String :=
  trimmedUrl baseUrl ++ "/collections/" ++ Text.strip collectionName ++ "/points?wait=true"

def indexerAnswer (workspaceId nameField name : String) (indexedCount : ℕ) (status : String) :
    Fields :=
  [("workspace_id", .str workspaceId), (nameField, .str name), ("indexed_count", .int indexedCount),
    ("status", .str status)]

/-- `index_documents_opensearch`. -/
def indexDocumentsOpensearch (requestFn : String → List Json → ℤ → Effect σ Exn Fields)
    (workspaceId : String) (corpus : List Fields) (opensearchUrl indexName : String)
    (timeoutMs : ℤ) : Effect σ Exn Fields :=
  if corpus.isEmpty then
    pure (indexerAnswer workspaceId "index_name" indexName 0 "skipped_empty")
  else do
    let response ← requestFn (bulkUrl opensearchUrl)
      (buildBulkPayload workspaceId corpus indexName) timeoutMs
    onlyIf ((getD response "errors" (.bool false)).truthy = true)
      (raise (.other "opensearch_bulk_errors"))
    return indexerAnswer workspaceId "index_name" indexName corpus.length "indexed"

/-- A disabled provider is reported as the indexer's own error. -/
def embeddingError : Exn → Exn
  | .disabledIntegration _ => .other "embedding_provider_disabled"
  | exception => exception

/-- `index_documents_qdrant`. -/
def indexDocumentsQdrant (requestFn : String → Fields → ℤ → Effect σ Exn Fields)
    (embed : String → Except Exn Json) (workspaceId : String) (corpus : List Fields)
    (qdrantUrl collectionName : String) (timeoutMs : ℤ) : Effect σ Exn Fields :=
  if corpus.isEmpty then
    pure (indexerAnswer workspaceId "collection_name" collectionName 0 "skipped_empty")
  else do
    let points ← ofExcept ((buildPointsPayload embed workspaceId corpus).mapError embeddingError)
    let response ← requestFn (pointsUrl qdrantUrl collectionName) [("points", .arr points)] timeoutMs
    onlyIf (Text.lower (getD response "status" (.str "ok")).toStr ∉ ["ok", "accepted"])
      (raise (.other "qdrant_upsert_failed"))
    return indexerAnswer workspaceId "collection_name" collectionName points.length "indexed"

/-! ### Servers -/

/-- The identifier of an entry: the one it was sent with, or a fresh one. -/
inductive EntryId where
  | given (id : String)
  | generated (serial : ℕ)
deriving DecidableEq

structure IndexEntry where
  id : EntryId
  source : Fields

/-- An index, and how many fresh identifiers it has issued. -/
structure SearchIndex where
  entries : List IndexEntry
  issued : ℕ

namespace SearchIndex

def empty : SearchIndex := ⟨[], 0⟩

def sources (index : SearchIndex) : List Fields := index.entries.map IndexEntry.source

/-- Replace the entry with the identifier, or create one. -/
def put (index : SearchIndex) (source : Fields) : Option String → SearchIndex
  | none => ⟨index.entries ++ [⟨.generated index.issued, source⟩], index.issued + 1⟩
  | some id =>
    if index.entries.any fun entry ↦ entry.id = .given id then
      { index with entries := index.entries.map fun entry ↦
          if entry.id = .given id then ⟨entry.id, source⟩ else entry }
    else { index with entries := index.entries ++ [⟨.given id, source⟩] }

end SearchIndex

def textField? (fields : Fields) (key : String) : Option String :=
  match get? fields key with
  | some (.str text) => some text
  | _ => none

/-- The entry a pair of lines asks for. -/
def applyAction (indexName : String) (action source : Json) (index : SearchIndex) : SearchIndex :=
  match (asObj? action).bind fun fields ↦ (get? fields "index").bind asObj?, asObj? source with
  | some target, some document =>
    if textField? target "_index" = some indexName then index.put document (textField? target "_id")
    else index
  | _, _ => index

def applyBulk (indexName : String) : List Json → SearchIndex → SearchIndex
  | action :: source :: rest, index =>
    applyBulk indexName rest (applyAction indexName action source index)
  | _, index => index

def readPoint? (point : Json) : Option (String × Fields) := do
  let fields ← asObj? point
  let id ← textField? fields "id"
  let payload ← (get? fields "payload").bind asObj?
  return (id, payload)

def applyPoint (index : SearchIndex) (point : Json) : SearchIndex :=
  match readPoint? point with
  | some (id, payload) => index.put payload (some id)
  | none => index

/-- An OpenSearch server, as far as the index of a name goes. -/
def serveBulk (indexName : String) (_url : String) (payload : List Json) (_timeoutMs : ℤ) :
    Effect SearchIndex Exn Fields := do
  change (applyBulk indexName payload)
  return [("errors", .bool false)]

/-- A Qdrant server, as far as one collection goes. -/
def servePoints (_url : String) (payload : Fields) (_timeoutMs : ℤ) :
    Effect SearchIndex Exn Fields := do
  change fun index ↦ (((get? payload "points").bind asArr?).getD []).foldl applyPoint index
  return [("status", .str "ok")]

/-- The index after a number of runs of the OpenSearch indexer over a corpus. -/
def runOpensearch (workspaceId url indexName : String) (timeoutMs : ℤ) (corpus : List Fields)
    (runs : ℕ) : SearchIndex :=
  (fun index ↦ (indexDocumentsOpensearch (serveBulk indexName) workspaceId corpus url indexName
    timeoutMs index).2)^[runs] .empty

/-- The collection after a number of runs of the Qdrant indexer over a corpus. -/
def runQdrant (embed : String → Except Exn Json) (workspaceId url collectionName : String)
    (timeoutMs : ℤ) (corpus : List Fields) (runs : ℕ) : SearchIndex :=
  (fun index ↦ (indexDocumentsQdrant servePoints embed workspaceId corpus url collectionName
    timeoutMs index).2)^[runs] .empty

/-! ### OpenSearch -/

section Runs

variable {workspaceId url name : String} {timeoutMs : ℤ} {corpus : List Fields}

def documentsOf (workspaceId : String) (corpus : List Fields) : List Fields :=
  ((sortedCorpus corpus).filter fun item ↦ IsIndexable item).map (documentOf workspaceId)

/-- Without an identifier every document becomes another entry. -/
theorem sources_applyBulk (workspaceId name : String) (items : List Fields) :
    ∀ index : SearchIndex,
      (applyBulk name (items.flatMap (bulkLines workspaceId name)) index).sources =
        index.sources ++ (items.filter fun item ↦ IsIndexable item).map (documentOf workspaceId) := by
  induction items with
  | nil => exact fun index ↦ (List.append_nil _).symm
  | cons item rest ih =>
    intro index
    rw [List.flatMap_cons, bulkLines]
    by_cases hindexable : IsIndexable item
    · have haction : applyAction name (bulkAction name) (.obj (documentOf workspaceId item)) index =
          index.put (documentOf workspaceId item) none := by
        simp [applyAction, bulkAction, asObj?, get?, textField?, List.lookup_cons]
      rw [if_pos hindexable, List.filter_cons, if_pos (decide_eq_true hindexable)]
      change (applyBulk name (rest.flatMap (bulkLines workspaceId name))
        (applyAction name (bulkAction name) _ index)).sources = _
      rw [haction, ih, List.map_cons]
      simp [SearchIndex.put, SearchIndex.sources]
    · rw [if_neg hindexable, List.nil_append, ih, List.filter_cons,
        if_neg fun h ↦ hindexable (of_decide_eq_true h)]

/-- A run over a corpus with rows sends them all. -/
theorem sources_indexDocumentsOpensearch (hcorpus : corpus ≠ []) (index : SearchIndex) :
    (indexDocumentsOpensearch (serveBulk name) workspaceId corpus url name timeoutMs
      index).2.sources = index.sources ++ documentsOf workspaceId corpus := by
  rw [indexDocumentsOpensearch, if_neg (by simpa using hcorpus)]
  exact sources_applyBulk workspaceId name (sortedCorpus corpus) index

theorem sources_runOpensearch (hcorpus : corpus ≠ []) (runs : ℕ) :
    (runOpensearch workspaceId url name timeoutMs corpus runs).sources =
      (List.replicate runs (documentsOf workspaceId corpus)).flatten := by
  induction runs with
  | zero => rfl
  | succ runs ih =>
    rw [runOpensearch, Function.iterate_succ_apply', sources_indexDocumentsOpensearch hcorpus,
      List.replicate_succ', List.flatten_append]
    change (runOpensearch workspaceId url name timeoutMs corpus runs).sources ++ _ = _
    rw [ih]
    simp

/-! ### Qdrant -/

variable {embed : String → Except Exn Json}

def entryOf (workspaceId : String) (item : Fields) : IndexEntry :=
  ⟨.given (strippedText item "artifact_id" ""), documentOf workspaceId item⟩

/-- Put the document of a row under its own identifier. -/
def putItem (workspaceId : String) (index : SearchIndex) (item : Fields) : SearchIndex :=
  index.put (documentOf workspaceId item) (some (strippedText item "artifact_id" ""))

theorem readPoint?_of_pointOf {item : Fields} {point : Json}
    (h : pointOf embed workspaceId item = .ok point) :
    readPoint? point = some (strippedText item "artifact_id" "", documentOf workspaceId item) := by
  obtain ⟨vector, -, hpoint⟩ := (bind_eq_ok_iff _ _ _).mp h
  cases hpoint
  simp [readPoint?, asObj?, textField?, get?, List.lookup_cons]

/-- The server takes up the rows one after the other. -/
theorem foldl_applyPoint {items : List Fields} : ∀ {points : List Json},
    items.mapM (pointOf embed workspaceId) = .ok points → ∀ index : SearchIndex,
      points.foldl applyPoint index = items.foldl (putItem workspaceId) index := by
  induction items with
  | nil =>
    intro points h index
    cases h
    rfl
  | cons item rest ih =>
    intro points h index
    rw [List.mapM_cons] at h
    obtain ⟨point, hpoint, hrest⟩ := (bind_eq_ok_iff _ _ _).mp h
    obtain ⟨others, hothers, hdone⟩ := (bind_eq_ok_iff _ _ _).mp hrest
    cases hdone
    have hput : applyPoint index point = putItem workspaceId index item := by
      rw [applyPoint, readPoint?_of_pointOf hpoint]
      rfl
    rw [List.foldl_cons, List.foldl_cons, hput, ih hothers]

/-- The points can be built exactly when every text can be embedded. -/
theorem isOk_mapM_pointOf (items : List Fields) :
    (items.mapM (pointOf embed workspaceId)).isOk = true ↔
      ∀ item ∈ items, (embed (getD item "text" (.str "")).toStr).isOk = true := by
  induction items with
  | nil => exact ⟨fun _ _ hitem ↦ absurd hitem List.not_mem_nil, fun _ ↦ rfl⟩
  | cons item rest ih =>
    rw [List.mapM_cons, List.forall_mem_cons, ← ih, pointOf]
    rcases embed (getD item "text" (.str "")).toStr with exception | vector
    · exact ⟨fun h ↦ (by cases h), fun h ↦ (by cases h.1)⟩
    · rcases rest.mapM (pointOf embed workspaceId) with exception | points
      · exact ⟨fun h ↦ (by cases h), fun h ↦ (by cases h.2)⟩
      · exact ⟨fun _ ↦ ⟨rfl, rfl⟩, fun _ ↦ rfl⟩

theorem mem_sortedCorpus {item : Fields} : item ∈ sortedCorpus corpus ↔ item ∈ corpus :=
  (List.perm_insertionSort _ corpus).mem_iff

/-- A run whose texts can be embedded puts every document; any other run puts none. -/
theorem indexDocumentsQdrant_index (index : SearchIndex) :
    (indexDocumentsQdrant servePoints embed workspaceId corpus url name timeoutMs index).2 =
      if ∀ item ∈ corpus, IsIndexable item →
          (embed (getD item "text" (.str "")).toStr).isOk = true then
        ((sortedCorpus corpus).filter fun item ↦ IsIndexable item).foldl (putItem workspaceId) index
      else index := by
  have hembeds : ((buildPointsPayload embed workspaceId corpus).isOk = true) ↔ ∀ item ∈ corpus,
      IsIndexable item → (embed (getD item "text" (.str "")).toStr).isOk = true := by
    rw [buildPointsPayload, isOk_mapM_pointOf]
    simp only [List.mem_filter, mem_sortedCorpus, decide_eq_true_iff, and_imp]
  rw [indexDocumentsQdrant]
  by_cases hempty : corpus = []
  · subst hempty
    simp [sortedCorpus]
  · rw [if_neg (by simpa using hempty), bind_apply]
    simp only [← hembeds]
    cases hpoints : buildPointsPayload embed workspaceId corpus with
    | error exception => rfl
    | ok points => exact foldl_applyPoint hpoints index

/-- Every entry of a collection is named by the artifact of its payload, no two alike. -/
structure Named (index : SearchIndex) : Prop where
  nodup : (index.entries.map IndexEntry.id).Nodup
  named : ∀ entry ∈ index.entries,
    (textField? entry.source "artifact_id").map EntryId.given = some entry.id

theorem artifact_documentOf (workspaceId : String) (item : Fields) :
    textField? (documentOf workspaceId item) "artifact_id" =
      some (strippedText item "artifact_id" "") := by
  simp [documentOf, textField?, get?, List.lookup_cons]

/-- A row either replaces the entry of its name or comes last under a new one. -/
theorem putItem_cases (workspaceId : String) (index : SearchIndex) (item : Fields) :
    (putItem workspaceId index item).entries =
        index.entries.map (fun entry ↦ if entry.id = (entryOf workspaceId item).id then
          entryOf workspaceId item else entry) ∧
      (entryOf workspaceId item).id ∈ index.entries.map IndexEntry.id ∨
    (putItem workspaceId index item).entries = index.entries ++ [entryOf workspaceId item] ∧
      (entryOf workspaceId item).id ∉ index.entries.map IndexEntry.id := by
  have hany : (index.entries.any fun entry ↦
      entry.id = .given (strippedText item "artifact_id" "")) = true ↔
        (entryOf workspaceId item).id ∈ index.entries.map IndexEntry.id := by
    simp [entryOf, List.any_eq_true, List.mem_map]
  by_cases hpresent : (entryOf workspaceId item).id ∈ index.entries.map IndexEntry.id
  · refine Or.inl ⟨?_, hpresent⟩
    rw [putItem, SearchIndex.put, if_pos (hany.mpr hpresent)]
    refine List.map_congr_left fun entry _ ↦ ?_
    by_cases hid : entry.id = .given (strippedText item "artifact_id" "")
    · have hown : entry.id = (entryOf workspaceId item).id := hid
      rw [if_pos hid, if_pos hown, hid]
      rfl
    · have hown : entry.id ≠ (entryOf workspaceId item).id := hid
      rw [if_neg hid, if_neg hown]
  · refine Or.inr ⟨?_, hpresent⟩
    rw [putItem, SearchIndex.put, if_neg fun h ↦ hpresent (hany.mp h)]
    rfl

theorem Named.putItem {index : SearchIndex} (h : Named index) (workspaceId : String)
    (item : Fields) : Named (putItem workspaceId index item) := by
  have hown : (textField? (entryOf workspaceId item).source "artifact_id").map EntryId.given =
      some (entryOf workspaceId item).id := by
    rw [entryOf, artifact_documentOf]
    rfl
  rcases putItem_cases workspaceId index item with ⟨hentries, -⟩ | ⟨hentries, hnew⟩
  · constructor
    · have hids : (Indexers.putItem workspaceId index item).entries.map IndexEntry.id =
          index.entries.map IndexEntry.id := by
        rw [hentries, List.map_map]
        refine List.map_congr_left fun entry _ ↦ ?_
        by_cases hid : entry.id = (entryOf workspaceId item).id
        · rw [Function.comp, if_pos hid, hid]
        · rw [Function.comp, if_neg hid]
      exact hids ▸ h.nodup
    · intro entry hentry
      rw [hentries] at hentry
      obtain ⟨old, hold, rfl⟩ := List.mem_map.mp hentry
      by_cases hid : old.id = (entryOf workspaceId item).id
      · rw [if_pos hid]
        exact hown
      · rw [if_neg hid]
        exact h.named old hold
  · constructor
    · rw [hentries, List.map_append, List.nodup_append]
      refine ⟨h.nodup, List.nodup_singleton _, fun id hid last hlast hsame ↦ ?_⟩
      rw [List.map_singleton, List.mem_singleton] at hlast
      exact hnew (hlast ▸ hsame ▸ hid)
    · intro entry hentry
      rw [hentries] at hentry
      rcases List.mem_append.mp hentry with hold | hlast
      · exact h.named entry hold
      · rw [List.mem_singleton.mp hlast]
        exact hown

theorem Named.foldl {items : List Fields} : ∀ {index : SearchIndex}, Named index →
    Named (items.foldl (Indexers.putItem workspaceId) index) := by
  induction items with
  | nil => exact fun h ↦ h
  | cons item rest ih => exact fun h ↦ ih (h.putItem workspaceId item)

/-- A collection never holds two points of one artifact. -/
theorem named_runQdrant (runs : ℕ) :
    Named (runQdrant embed workspaceId url name timeoutMs corpus runs) := by
  induction runs with
  | zero => exact ⟨List.nodup_nil, fun _ hentry ↦ absurd hentry List.not_mem_nil⟩
  | succ runs ih =>
    rw [runQdrant, Function.iterate_succ_apply', indexDocumentsQdrant_index]
    split_ifs
    · exact ih.foldl
    · exact ih

theorem Named.nodup_artifacts {index : SearchIndex} (h : Named index) :
    (index.sources.map fun source ↦ textField? source "artifact_id").Nodup := by
  refine List.Nodup.of_map (Option.map EntryId.given) ?_
  have hids : (index.sources.map fun source ↦ textField? source "artifact_id").map
      (Option.map EntryId.given) = (index.entries.map IndexEntry.id).map some := by
    rw [SearchIndex.sources, List.map_map, List.map_map, List.map_map]
    exact List.map_congr_left h.named
  rw [hids]
  exact h.nodup.map (Option.some_injective _)

/-- Rows under new names come last, in order. -/
theorem foldl_putItem_of_new {items : List Fields} : ∀ {index : SearchIndex},
    (items.map fun item ↦ (entryOf workspaceId item).id).Nodup →
    (∀ item ∈ items, (entryOf workspaceId item).id ∉ index.entries.map IndexEntry.id) →
      (items.foldl (putItem workspaceId) index).entries =
        index.entries ++ items.map (entryOf workspaceId) := by
  induction items with
  | nil => exact fun _ _ ↦ (List.append_nil _).symm
  | cons item rest ih =>
    intro index hnodup hnew
    obtain ⟨hfirst, hrest⟩ := List.nodup_cons.mp hnodup
    have hentries : (putItem workspaceId index item).entries =
        index.entries ++ [entryOf workspaceId item] :=
      ((putItem_cases workspaceId index item).resolve_left fun h ↦
        hnew item List.mem_cons_self h.2).1
    rw [List.foldl_cons, ih hrest, hentries, List.append_assoc]
    · rfl
    · intro other hother
      rw [hentries, List.map_append, List.mem_append, not_or]
      refine ⟨hnew other (List.mem_cons_of_mem _ hother), fun hlast ↦ hfirst ?_⟩
      have hsame : (entryOf workspaceId other).id = (entryOf workspaceId item).id :=
        List.mem_singleton.mp hlast
      exact List.mem_map.mpr ⟨other, hother, hsame⟩

/-- A row whose document is there already changes nothing. -/
theorem putItem_of_mem {index : SearchIndex} (hnodup : (index.entries.map IndexEntry.id).Nodup)
    {item : Fields} (h : entryOf workspaceId item ∈ index.entries) :
    (putItem workspaceId index item).entries = index.entries := by
  have hid : (entryOf workspaceId item).id ∈ index.entries.map IndexEntry.id :=
    List.mem_map_of_mem h
  rw [((putItem_cases workspaceId index item).resolve_right fun hnew ↦ hnew.2 hid).1]
  refine (List.map_congr_left fun entry hentry ↦ ?_).trans (List.map_id _)
  by_cases hsame : entry.id = (entryOf workspaceId item).id
  · rw [if_pos hsame]
    exact (List.inj_on_of_nodup_map hnodup hentry h hsame).symm
  · rw [if_neg hsame]
    rfl

theorem foldl_putItem_of_mem {items : List Fields} : ∀ {index : SearchIndex},
    (index.entries.map IndexEntry.id).Nodup →
    (∀ item ∈ items, entryOf workspaceId item ∈ index.entries) →
      (items.foldl (putItem workspaceId) index).entries = index.entries := by
  induction items with
  | nil => exact fun _ _ ↦ rfl
  | cons item rest ih =>
    intro index hnodup hpresent
    have hfirst := putItem_of_mem hnodup (hpresent item List.mem_cons_self)
    rw [List.foldl_cons, ih, hfirst]
    · exact hfirst ▸ hnodup
    · exact fun other hother ↦ hfirst ▸ hpresent other (List.mem_cons_of_mem _ hother)

/-- Both identifiers of each row are there, and its text can be embedded. -/
def AllIndexable (embed : String → Except Exn Json) (corpus : List Fields) : Prop :=
  ∀ item ∈ corpus, IsIndexable item ∧ (embed (getD item "text" (.str "")).toStr).isOk = true

/-- No two rows are about one artifact, blanks at the ends aside. -/
def DistinctArtifacts (corpus : List Fields) : Prop :=
  (corpus.map fun item ↦ strippedText item "artifact_id" "").Nodup

theorem filter_of_allIndexable (h : AllIndexable embed corpus) :
    ((sortedCorpus corpus).filter fun item ↦ IsIndexable item) = sortedCorpus corpus :=
  List.filter_eq_self.mpr fun item hitem ↦
    decide_eq_true (h item (mem_sortedCorpus.mp hitem)).1

/-- Any number of runs over distinct artifacts leaves one point for each. -/
theorem entries_runQdrant (hindexable : AllIndexable embed corpus)
    (hdistinct : DistinctArtifacts corpus) (runs : ℕ) :
    (runQdrant embed workspaceId url name timeoutMs corpus (runs + 1)).entries =
      (sortedCorpus corpus).map (entryOf workspaceId) := by
  have hembeds : ∀ item ∈ corpus, IsIndexable item →
      (embed (getD item "text" (.str "")).toStr).isOk = true :=
    fun item hitem _ ↦ (hindexable item hitem).2
  have hnodup : ((sortedCorpus corpus).map fun item ↦ (entryOf workspaceId item).id).Nodup := by
    have hids : ((corpus.map fun item ↦ strippedText item "artifact_id" "").map
        EntryId.given).Nodup := hdistinct.map fun _ _ heq ↦ EntryId.given.inj heq
    rw [List.map_map] at hids
    exact ((List.perm_insertionSort _ corpus).map _).nodup_iff.mpr hids
  induction runs with
  | zero =>
    rw [runQdrant, Function.iterate_one, indexDocumentsQdrant_index, if_pos hembeds,
      filter_of_allIndexable hindexable, foldl_putItem_of_new hnodup]
    · rfl
    · exact fun _ _ hmem ↦ absurd hmem List.not_mem_nil
  | succ runs ih =>
    rw [runQdrant, Function.iterate_succ_apply', indexDocumentsQdrant_index, if_pos hembeds,
      filter_of_allIndexable hindexable]
    change (List.foldl (putItem workspaceId)
      (runQdrant embed workspaceId url name timeoutMs corpus (runs + 1)) _).entries = _
    rw [foldl_putItem_of_mem, ih]
    · rw [ih, List.map_map]
      exact hnodup
    · rw [ih]
      exact fun item hitem ↦ List.mem_map_of_mem hitem

/-! ### Repeated runs -/

/-- After a number of runs the OpenSearch index has one entry for each document, the same as after
one run and the same as the Qdrant collection. -/
structure Reindexed (embed : String → Except Exn Json) (workspaceId : String)
    (opensearchUrl indexName qdrantUrl collectionName : String) (timeoutMs : ℤ)
    (corpus : List Fields) (runs : ℕ) : Prop where
  one_each : (runOpensearch workspaceId opensearchUrl indexName timeoutMs corpus runs).sources.Perm
    (corpus.map (documentOf workspaceId))
  as_one_run :
    (runOpensearch workspaceId opensearchUrl indexName timeoutMs corpus runs).sources.Perm
      (runOpensearch workspaceId opensearchUrl indexName timeoutMs corpus 1).sources
  as_qdrant :
    (runOpensearch workspaceId opensearchUrl indexName timeoutMs corpus runs).sources.Perm
      (runQdrant embed workspaceId qdrantUrl collectionName timeoutMs corpus runs).sources

theorem documentsOf_perm (h : AllIndexable embed corpus) (workspaceId : String) :
    (documentsOf workspaceId corpus).Perm (corpus.map (documentOf workspaceId)) := by
  rw [documentsOf, filter_of_allIndexable h]
  exact (List.perm_insertionSort _ corpus).map _

theorem runOpensearch_nil (runs : ℕ) :
    runOpensearch workspaceId url name timeoutMs [] runs = .empty :=
  Function.iterate_fixed rfl runs

theorem runQdrant_nil (runs : ℕ) :
    runQdrant embed workspaceId url name timeoutMs [] runs = .empty :=
  Function.iterate_fixed rfl runs

/-- An entry for each document means that each was indexed, once. -/
theorem once_of_one_each (hcorpus : corpus ≠ []) {runs : ℕ}
    (h : (runOpensearch workspaceId url name timeoutMs corpus runs).sources.Perm
      (corpus.map (documentOf workspaceId))) :
    runs = 1 ∧ ∀ item ∈ corpus, IsIndexable item := by
  rw [sources_runOpensearch hcorpus] at h
  have hindexable : ∀ item ∈ corpus, IsIndexable item := by
    intro item hitem
    have hsent : documentOf workspaceId item ∈
        (List.replicate runs (documentsOf workspaceId corpus)).flatten :=
      h.mem_iff.mpr (List.mem_map_of_mem hitem)
    obtain ⟨documents, hdocuments, hmem⟩ := List.mem_flatten.mp hsent
    rw [(List.mem_replicate.mp hdocuments).2] at hmem
    obtain ⟨sent, hsent, hsame⟩ := List.mem_map.mp hmem
    have hother : IsIndexable sent := of_decide_eq_true (List.mem_filter.mp hsent).2
    simp only [documentOf, List.cons.injEq, Prod.mk.injEq, str.injEq, true_and] at hsame
    obtain ⟨hartifact, hdataset, -⟩ := hsame
    exact ⟨hartifact ▸ hother.1, hdataset ▸ hother.2⟩
  refine ⟨?_, hindexable⟩
  have hall : ((sortedCorpus corpus).filter fun item ↦ IsIndexable item) = sortedCorpus corpus :=
    List.filter_eq_self.mpr fun item hitem ↦
      decide_eq_true (hindexable item (mem_sortedCorpus.mp hitem))
  have hlength := h.length_eq
  rw [List.length_flatten, List.map_replicate, List.sum_replicate_nat, documentsOf, hall,
    List.length_map, List.length_map, sortedCorpus, List.length_insertionSort] at hlength
  exact Nat.eq_of_mul_eq_mul_right (List.length_pos_of_ne_nil hcorpus)
    (hlength.trans (Nat.one_mul _).symm)

/-- A number of runs leaves what the claim of idempotence says exactly when there is nothing to index
or a single run indexes every row, under names that stay distinct when trimmed. -/
theorem reindexed_iff (embed : String → Except Exn Json) (workspaceId : String)
    (opensearchUrl indexName qdrantUrl collectionName : String) (timeoutMs : ℤ)
    (corpus : List Fields) (runs : ℕ) :
    Reindexed embed workspaceId opensearchUrl indexName qdrantUrl collectionName timeoutMs corpus
        runs ↔
      corpus = [] ∨ runs = 1 ∧ AllIndexable embed corpus ∧ DistinctArtifacts corpus := by
  by_cases hcorpus : corpus = []
  · subst hcorpus
    refine iff_of_true ⟨?_, ?_, ?_⟩ (Or.inl rfl)
    · rw [runOpensearch_nil]
      exact List.Perm.refl _
    · rw [runOpensearch_nil, runOpensearch_nil]
    · rw [runOpensearch_nil, runQdrant_nil]
  rw [or_iff_right hcorpus]
  constructor
  · intro h
    obtain ⟨rfl, hindexable⟩ := once_of_one_each hcorpus h.one_each
    have hsame := h.as_qdrant.symm.trans h.one_each
    have hembeds : ∀ item ∈ corpus, IsIndexable item →
        (embed (getD item "text" (.str "")).toStr).isOk = true := by
      by_contra hfails
      have hempty : runQdrant embed workspaceId qdrantUrl collectionName timeoutMs corpus 1 =
          .empty := by
        rw [runQdrant, Function.iterate_one, indexDocumentsQdrant_index, if_neg hfails]
      rw [hempty] at hsame
      exact hcorpus (List.map_eq_nil_iff.mp hsame.nil_eq.symm)
    refine ⟨rfl, fun item hitem ↦ ⟨hindexable item hitem, ?_⟩, ?_⟩
    · exact hembeds item hitem (hindexable item hitem)
    · have hnodup := ((hsame.map fun source ↦ textField? source "artifact_id").nodup_iff).mp
        (named_runQdrant 1).nodup_artifacts
      rw [List.map_map] at hnodup
      have hartifacts : (corpus.map fun item ↦ some (strippedText item "artifact_id" "")).Nodup :=
        (List.map_congr_left fun item _ ↦ artifact_documentOf workspaceId item) ▸ hnodup
      refine List.Nodup.of_map some ?_
      rw [List.map_map]
      exact hartifacts
  · rintro ⟨rfl, hindexable, hdistinct⟩
    have hdocuments := documentsOf_perm hindexable workspaceId
    have hopensearch : (runOpensearch workspaceId opensearchUrl indexName timeoutMs corpus
        1).sources = documentsOf workspaceId corpus := by
      rw [sources_runOpensearch hcorpus]
      simp
    have hqdrant : (runQdrant embed workspaceId qdrantUrl collectionName timeoutMs corpus
        1).sources = documentsOf workspaceId corpus := by
      rw [SearchIndex.sources, entries_runQdrant hindexable hdistinct 0, List.map_map, documentsOf,
        filter_of_allIndexable hindexable]
      rfl
    refine ⟨?_, List.Perm.refl _, ?_⟩
    · rw [hopensearch]
      exact hdocuments
    · rw [hopensearch, hqdrant]

end Runs

def invoiceCorpus : List Fields :=
  [[("artifact_id", .str "a1"), ("dataset_id", .str "d1"), ("text", .str "invoice"),
    ("citation", .str "artifact:a1")]]

def unitEmbedding (_text : String) : Except Exn Json := .ok (.arr [.int 1])

/-- Two runs leave two entries. -/
theorem invoiceCorpus_twice : ¬Reindexed unitEmbedding "w1" "http://opensearch:9200" "docs"
    "http://qdrant:6333" "docs" 3000 invoiceCorpus 2 := by
  intro h
  have htwo := h.one_each.length_eq
  revert htwo
  decide +kernel

end SchemaPilot.Workers.Indexers
