import SchemaPilot.Gateway.Answers

/-!
# What a retrieval returns

A row of any backend carries a dataset the actor is entitled to and a text as its citation, whatever
the backend answered (`searchBackend_found`). The row filter keeps rows whose dataset's summary in
the workspace has the value, the masks touch the snippet alone, and the provenance is computed from
the rows that are returned, so a response holds entitled rows that satisfy the row filter and names
their datasets and citations (`retrieval_safe`).
-/

namespace SchemaPilot.Gateway

open Library Library.Program Library.Text Library.Json SharedDomain

/-! ### Rows of the backends -/

/-- `str(row.get("dataset_id", ""))`. -/
def datasetIdOf (row : Fields) : String := (getD row "dataset_id" (.str "")).toStr

/-- `str(row.get("citation", ""))`. -/
def citationOf (row : Fields) : String := (getD row "citation" (.str "")).toStr

/-- A row carries one of the datasets, and a text as its citation. -/
structure EntitledRow (allowedDatasetIds : List String) (row : Fields) : Prop where
  dataset : datasetIdOf row ∈ allowedDatasetIds
  citation : get? row "citation" = some (.str (citationOf row))

theorem EntitledRow.of_get? {allowedDatasetIds : List String} {row row' : Fields}
    (h : EntitledRow allowedDatasetIds row)
    (hdataset : get? row' "dataset_id" = get? row "dataset_id")
    (hcitation : get? row' "citation" = get? row "citation") :
    EntitledRow allowedDatasetIds row' where
  dataset := by
    rw [datasetIdOf, getD, hdataset]
    exact h.dataset
  citation := by
    rw [citationOf, getD, hcitation]
    exact h.citation

def SourceOf : GatewayEvent → Fields → Prop
  | ⟨.retrievalCorpus _, .ok corpus⟩, source => source ∈ corpus
  | ⟨.searchOpensearch _, .ok response⟩, source =>
    ∃ hit ∈ dictRows (get? (dictOrEmpty (get? response "hits")) "hits"),
      (getD hit "_source" (.obj [])).asObj? = some source
  | ⟨.searchQdrant _, .ok response⟩, source =>
    ∃ point ∈ dictRows (get? response "result"),
      (getD point "payload" (.obj [])).asObj? = some source
  | _, _ => False

def textOf (source : Fields) : String := (getD source "text" (.str "")).toStr

/-- A corpus that was read is the loader's over some documents. -/
def LoadsCorpus : GatewayEvent → Prop
  | ⟨.retrievalCorpus _, .ok corpus⟩ => ∃ documents, corpus = loadRetrievalCorpus documents
  | _ => True

/-- A row shows a document that was answered, under one of the datasets. -/
structure FoundRow (allowedDatasetIds : List String) (event : GatewayEvent) (row : Fields) :
    Prop where
  dataset : datasetIdOf row ∈ allowedDatasetIds
  snippet : ∃ source, SourceOf event source ∧
    get? row "snippet" = some (.str (snippetOf (textOf source)))
  citation : LoadsCorpus event → get? row "citation" = some (.str (citationOf row))

theorem backendRow_found {allowedDatasetIds : List String} {source row : Fields}
    {event : GatewayEvent} (hsource : SourceOf event source)
    (h : backendRow allowedDatasetIds source = some row) :
    FoundRow allowedDatasetIds event row := by
  simp only [backendRow] at h
  split_ifs at h with hleft
  rw [not_or, not_not] at hleft
  rw [← Option.some.inj h]
  exact ⟨hleft.1, ⟨source, hsource, rfl⟩, fun _ ↦ rfl⟩

theorem corpusItem_citation {evidence extracted item : Fields}
    (h : corpusItem evidence extracted = some item) :
    ∃ citation, get? item "citation" = some (.str citation) := by
  simp only [corpusItem] at h
  split_ifs at h
  rw [← Option.some.inj h]
  exact ⟨_, rfl⟩

theorem retrieveDocuments_found {platform : Platform} {queryText workspaceId : String}
    {corpus : List Fields} {allowedDatasetIds : List String} {row : Fields}
    (h : row ∈ retrieveDocuments platform queryText corpus allowedDatasetIds) :
    FoundRow allowedDatasetIds ⟨.retrievalCorpus workspaceId, .ok corpus⟩ row := by
  obtain ⟨item, hitem, hrow⟩ := List.mem_filterMap.mp h
  simp only at hrow
  split_ifs at hrow with hleft hmatches
  rw [← Option.some.inj hrow]
  refine ⟨hleft, ⟨item, hitem, rfl⟩, ?_⟩
  rintro ⟨documents, rfl⟩
  obtain ⟨document, -, hdocument⟩ := List.mem_filterMap.mp hitem
  obtain ⟨citation, hcitation⟩ := corpusItem_citation hdocument
  have hkept : getD item "citation" .null = .str citation := by
    rw [getD, hcitation]
    rfl
  rw [hkept]
  rfl

theorem searchOpensearchDocuments_found {queryText workspaceId : String}
    {allowedDatasetIds : List String} {events : List GatewayEvent} {found : List Fields}
    (h : Run (searchOpensearchDocuments queryText workspaceId allowedDatasetIds) events
      (.ok found)) : ∀ row ∈ found, ∃ event ∈ events, FoundRow allowedDatasetIds event row := by
  intro row hrow
  unfold searchOpensearchDocuments at h
  split_ifs at h
  · obtain ⟨-, heq⟩ := (run_pure_iff _ _ _).mp h
    rw [Except.ok.inj heq] at hrow
    exact absurd hrow List.not_mem_nil
  obtain ⟨response, rest, rfl, hpure⟩ := h.perform_ok
  obtain ⟨-, heq⟩ := (run_pure_iff _ _ _).mp hpure
  rw [Except.ok.inj heq] at hrow
  obtain ⟨hit, hmem, hhit⟩ := List.mem_filterMap.mp hrow
  obtain ⟨source, hsource, hkept⟩ := Option.bind_eq_some_iff.mp hhit
  exact ⟨_, List.mem_cons_self, backendRow_found ⟨hit, hmem, hsource⟩ hkept⟩

theorem searchQdrantDocuments_found {queryVector : List Json} {workspaceId : String}
    {allowedDatasetIds : List String} {events : List GatewayEvent} {found : List Fields}
    (h : Run (searchQdrantDocuments queryVector workspaceId allowedDatasetIds) events
      (.ok found)) : ∀ row ∈ found, ∃ event ∈ events, FoundRow allowedDatasetIds event row := by
  intro row hrow
  unfold searchQdrantDocuments at h
  split_ifs at h
  · obtain ⟨-, heq⟩ := (run_pure_iff _ _ _).mp h
    rw [Except.ok.inj heq] at hrow
    exact absurd hrow List.not_mem_nil
  obtain ⟨response, rest, rfl, hpure⟩ := h.perform_ok
  obtain ⟨-, heq⟩ := (run_pure_iff _ _ _).mp hpure
  rw [Except.ok.inj heq] at hrow
  obtain ⟨point, hmem, hpoint⟩ := List.mem_filterMap.mp hrow
  obtain ⟨source, hsource, hkept⟩ := Option.bind_eq_some_iff.mp hpoint
  exact ⟨_, List.mem_cons_self, backendRow_found ⟨point, hmem, hsource⟩ hkept⟩

/-- A search whose failures end in denials returns what it found. -/
theorem run_search_ok {search : Handler (List Fields)} {handler : Exn → Handler (List Fields)}
    {events : List GatewayEvent} {found : List Fields}
    (hhandler : ∀ exception events, ¬Run (handler exception) events (.ok found))
    (h : Run (search.tryExcept handler) events (.ok found)) :
    Run search events (.ok found) := by
  rcases (run_tryExcept_iff _ _ _ _).mp h with ⟨value, hrun, heq⟩ |
    ⟨_, _, exception, -, -, hfailed⟩
  · cases heq
    exact hrun
  · exact absurd hfailed (hhandler _ _)

/-- Whatever the configured backend answers, the rows that are found show documents it answered,
under datasets of the actor's entitlements. -/
theorem searchBackend_found {platform : Platform} {settings : Settings}
    {context : DecisionContext} {payload actor : Fields} {events : List GatewayEvent}
    {found : List Fields}
    (h : Run (searchBackend platform settings context payload actor) events (.ok found)) :
    ∀ row ∈ found, ∃ event ∈ events, FoundRow (allowedDatasetIdsOf actor) event row := by
  have hdeny : ∀ {reason : String} {resources details : Fields} {events : List GatewayEvent},
      ¬Run (deny context (actorIdOf actor) reason resources details) events (.ok found) := by
    intro reason resources details events hrun
    obtain ⟨_, hfalse⟩ := deny_run hrun
    cases hfalse
  simp only [searchBackend] at h
  split_ifs at h
  · obtain ⟨corpus, rest, rfl, hpure⟩ := h.perform_ok
    obtain ⟨-, heq⟩ := (run_pure_iff _ _ _).mp hpure
    rw [Except.ok.inj heq]
    exact fun row hrow ↦ ⟨_, List.mem_cons_self, retrieveDocuments_found hrow⟩
  · exact absurd h hdeny
  · refine searchOpensearchDocuments_found (run_search_ok (fun exception events hrun ↦ ?_) h)
    cases exception with
    | openSearchUnavailable error => exact hdeny hrun
    | _ => exact absurd hrun Run.not_raise
  · exact absurd h hdeny
  · have hsearch := run_search_ok (fun exception events hrun ↦ by
      cases exception with
      | disabledIntegration error => exact hdeny hrun
      | qdrantUnavailable error => exact hdeny hrun
      | _ => exact absurd hrun Run.not_raise) h
    obtain ⟨queryVector, rest, rfl, hfound⟩ := hsearch.perform_ok
    intro row hrow
    obtain ⟨event, hevent, hfoundRow⟩ := searchQdrantDocuments_found hfound row hrow
    exact ⟨event, List.mem_cons_of_mem _ hevent, hfoundRow⟩
  · exact absurd h hdeny

/-! ### Filter, masks and provenance -/

/-- The database answered summaries of a catalogue of datasets, each with its workspace and its
summary. -/
def Catalogued (catalogue : String → Option (String × Json)) : GatewayEvent → Prop
  | ⟨.datasetSummaries workspaceId _, .ok rows⟩ =>
    ∀ row ∈ rows, catalogue row.1 = some (workspaceId, row.2)
  | _ => True

/-- The summary of the row's dataset, catalogued under the workspace, has the value of the row
filter. -/
def SatisfiesRowFilter (catalogue : String → Option (String × Json)) (workspaceId : String)
    (rowFilter : Option (String × String)) (row : Fields) : Prop :=
  ∀ filter, rowFilter = some filter → ∃ summary candidate,
    catalogue (datasetIdOf row) = some (workspaceId, .obj summary) ∧
      get? summary filter.1 = some candidate ∧ candidate.toStr = filter.2

theorem SatisfiesRowFilter.of_get? {catalogue : String → Option (String × Json)}
    {workspaceId : String} {rowFilter : Option (String × String)} {row row' : Fields}
    (h : SatisfiesRowFilter catalogue workspaceId rowFilter row)
    (hdataset : get? row' "dataset_id" = get? row "dataset_id") :
    SatisfiesRowFilter catalogue workspaceId rowFilter row' := by
  have hsame : datasetIdOf row' = datasetIdOf row := by rw [datasetIdOf, getD, hdataset]; rfl
  rwa [SatisfiesRowFilter, hsame]

theorem loadDatasetSensitivitySummaries_catalogued
    {catalogue : String → Option (String × Json)} {workspaceId : String} {datasetIds : List String}
    {events : List GatewayEvent} {summaries : List (String × Fields)}
    (h : Run (loadDatasetSensitivitySummaries workspaceId datasetIds) events (.ok summaries))
    (hcatalogued : ∀ event ∈ events, Catalogued catalogue event) :
    ∀ summary ∈ summaries, catalogue summary.1 = some (workspaceId, .obj summary.2) := by
  intro summary hsummary
  unfold loadDatasetSensitivitySummaries at h
  split_ifs at h
  · obtain ⟨-, heq⟩ := (run_pure_iff _ _ _).mp h
    rw [Except.ok.inj heq] at hsummary
    exact absurd hsummary List.not_mem_nil
  obtain ⟨rows, rest, rfl, hpure⟩ := h.perform_ok
  obtain ⟨-, heq⟩ := (run_pure_iff _ _ _).mp hpure
  rw [Except.ok.inj heq] at hsummary
  obtain ⟨row, hrow, hpair⟩ := List.mem_filterMap.mp hsummary
  obtain ⟨fields, hfields, rfl⟩ := Option.map_eq_some_iff.mp hpair
  rw [hcatalogued _ List.mem_cons_self row hrow, asObj?_eq_some_iff.mp hfields]

theorem applyRetrievalRowFilter_satisfies {catalogue : String → Option (String × Json)}
    {workspaceId : String} {found : List Fields} {rowFilter : Option (String × String)}
    {summaries : List (String × Fields)} {row : Fields}
    (hsummaries : ∀ summary ∈ summaries,
      catalogue summary.1 = some (workspaceId, .obj summary.2))
    (h : row ∈ applyRetrievalRowFilter found rowFilter summaries) :
    row ∈ found ∧ SatisfiesRowFilter catalogue workspaceId rowFilter row := by
  cases rowFilter with
  | none => exact ⟨h, fun _ hfilter ↦ by cases hfilter⟩
  | some filter =>
    obtain ⟨hfound, hkept⟩ := List.mem_filter.mp h
    refine ⟨hfound, fun filter' hfilter ↦ ?_⟩
    rw [← Option.some.inj hfilter]
    dsimp only at hkept
    rw [← datasetIdOf] at hkept
    cases hlookup : summaries.lookup (datasetIdOf row) with
    | none =>
      rw [hlookup] at hkept
      cases hkept
    | some summary =>
      rw [hlookup, Option.getD_some, getD] at hkept
      obtain ⟨_, _, hsplit, -⟩ := List.lookup_eq_some_iff.mp hlookup
      have hmem : (datasetIdOf row, summary) ∈ summaries := by simp [hsplit]
      cases hcandidate : get? summary filter.1 with
      | none =>
        rw [hcandidate] at hkept
        cases hkept
      | some candidate =>
        refine ⟨summary, candidate, hsummaries _ hmem, hcandidate, ?_⟩
        rw [hcandidate, Option.getD_some] at hkept
        cases candidate with
        | null => cases hkept
        | _ => exact eq_of_beq hkept

/-- The masks change the snippet of a row and nothing else. -/
theorem applyRetrievalMasks_row {platform : Platform} {results : List Fields}
    {masks : List (String × String)} {row : Fields}
    (h : row ∈ applyRetrievalMasks platform results masks) :
    ∃ given ∈ results, ∀ key ≠ "snippet", get? row key = get? given key := by
  unfold applyRetrievalMasks at h
  split_ifs at h
  · exact ⟨row, h, fun _ _ ↦ rfl⟩
  · obtain ⟨given, hgiven, rfl⟩ := List.mem_map.mp h
    exact ⟨given, hgiven, fun key hkey ↦ get?_set_of_ne hkey _ _⟩

/-- The texts of a field of a provenance are, up to the empty one, those of some rows. -/
def Names (provenance : Fields) (key : String) (results : List Fields) (textOf : Fields → String) :
    Prop :=
  ∃ texts, get? provenance key = some (textList texts) ∧
    ∀ text, text ∈ texts ↔ text ≠ "" ∧ ∃ row ∈ results, textOf row = text

theorem names_of_nonEmptyTexts {provenance : Fields} {key : String} {given : List String}
    {results : List Fields} {textOf : Fields → String}
    (h : get? provenance key = some (nonEmptyTexts given))
    (hgiven : ∀ text ≠ "", text ∈ given ↔ ∃ row ∈ results, textOf row = text) :
    Names provenance key results textOf := by
  refine ⟨_, h, fun text ↦ ?_⟩
  rw [mem_sortedTexts, List.mem_filter, decide_eq_true_iff]
  constructor
  · rintro ⟨hmem, hne⟩
    exact ⟨hne, (hgiven text hne).mp hmem⟩
  · rintro ⟨hne, hrow⟩
    exact ⟨(hgiven text hne).mpr hrow, hne⟩

theorem retrieveAnswer_ok {platform : Platform} {settings : Settings} {context : DecisionContext}
    {payload actor : Fields} {policyPack : Option PolicyPack} {abac : AbacDecision}
    {found : List Fields} {events : List GatewayEvent} {response : RetrieveResponse}
    (h : Run (retrieveAnswer platform settings context payload actor policyPack abac found) events
      (.ok response)) :
    ∃ first second summaries citations, events = first ++ second ∧
      Run (loadDatasetSensitivitySummaries context.workspaceId
        (sortedTexts (found.map datasetIdOf))) first (.ok summaries) ∧
      response.results = applyRetrievalMasks platform
        (applyRetrievalRowFilter found abac.rowFilter summaries) abac.masks ∧
      citations = (response.results.filterMap fun row ↦ (get? row "citation").bind fun citation ↦
        if citation.truthy then some citation.toStr else none) ∧
      get? response.provenance "datasets_used" =
        some (nonEmptyTexts (sortedTexts (response.results.map datasetIdOf))) ∧
      get? response.provenance "citations" = some (nonEmptyTexts citations) := by
  unfold retrieveAnswer at h
  obtain ⟨first, second, summaries, rfl, hsummaries, hfiltered⟩ := h.bind_ok
  simp only at hfiltered
  split_ifs at hfiltered
  · obtain ⟨_, hfalse⟩ := denyWith_run hfiltered
    cases hfalse
  obtain ⟨queryId, rest, rfl, hquery⟩ := hfiltered.perform_ok
  obtain ⟨buildId, rest, rfl, hbuild⟩ := hquery.perform_ok
  split at hbuild
  · obtain ⟨_, hfalse⟩ := deny_run hbuild
    cases hfalse
  · next provenance hprovenance =>
    obtain ⟨hid, -, hsnapshots, hdatasets, hcitations⟩ := buildProvenanceV1_ok hprovenance
    obtain ⟨responseId, rfl, -⟩ := recorded_answer hbuild hid hsnapshots
    exact ⟨first, _, summaries, _, rfl, hsummaries, rfl, rfl, hdatasets, hcitations⟩

theorem retrieveChecks_ok {context : DecisionContext} {payload actor : Fields}
    {events : List GatewayEvent} {abac : AbacDecision}
    (h : Run (retrieveChecks context payload actor) events (.ok abac)) :
    abac = abacOf payload actor := by
  unfold retrieveChecks at h
  by_cases hentitled : allowedDatasetIdsOf actor = []
  · simp only [hentitled, if_true] at h
    obtain ⟨_, hfalse⟩ := deny_run h
    cases hfalse
  simp only [hentitled, if_false] at h
  obtain ⟨first, second, crossWorkspace, rfl, -, hchecked⟩ := h.bind_ok
  split_ifs at hchecked
  · obtain ⟨_, hfalse⟩ := deny_run hchecked
    cases hfalse
  · obtain ⟨_, hfalse⟩ := denyWith_run hchecked
    cases hfalse
  · exact Except.ok.inj ((run_pure_iff _ _ _).mp hchecked).2

/-- Every row of a response carries a dataset of the actor's entitlements and satisfies the actor's
row filter on the dataset's summary in the workspace, and the provenance names the datasets and the
citations of the rows and no others. -/
theorem retrieval_safe {platform : Platform} {settings : Settings} {request : Request}
    {events : List GatewayEvent} {response : RetrieveResponse}
    {catalogue : String → Option (String × Json)}
    (h : Run (retrieve platform settings request) events (.ok response))
    {actor : Fields} (hactor : ⟨.authenticatedActor, .ok (some actor)⟩ ∈ events)
    (hcorpus : ∀ event ∈ events, LoadsCorpus event)
    (hcatalogued : ∀ event ∈ events, Catalogued catalogue event) :
    (∀ row ∈ response.results, datasetIdOf row ∈ allowedDatasetIdsOf actor ∧
        SatisfiesRowFilter catalogue (workspaceIdOf request.payload)
          (abacOf request.payload actor).rowFilter row) ∧
      Names response.provenance "datasets_used" response.results datasetIdOf ∧
      Names response.provenance "citations" response.results citationOf := by
  obtain ⟨context, actor', policyPack, abac, found, before, checks, search, after, rfl, hworkspace,
    hunique, hchecks, hsearch, hanswer⟩ := retrieve_ok h
  obtain rfl : actor = actor' := hunique actor hactor
  obtain ⟨searched, released, rfl, hbackend, -⟩ := run_tryFinally_ok hsearch
  obtain ⟨first, second, summaries, citations, rfl, hsummaries, hresults, hcited, hdatasets,
    hcitations⟩ := retrieveAnswer_ok hanswer
  have hfound : ∀ row ∈ found, EntitledRow (allowedDatasetIdsOf actor) row := by
    intro row hrow
    obtain ⟨event, hevent, hfoundRow⟩ := searchBackend_found hbackend row hrow
    exact ⟨hfoundRow.dataset, hfoundRow.citation (hcorpus event (by simp [hevent]))⟩
  have hsummary : ∀ summary ∈ summaries,
      catalogue summary.1 = some (context.workspaceId, .obj summary.2) :=
    loadDatasetSensitivitySummaries_catalogued hsummaries fun event hevent ↦
      hcatalogued event (by simp [hevent])
  have hrows : ∀ row ∈ response.results, EntitledRow (allowedDatasetIdsOf actor) row ∧
      SatisfiesRowFilter catalogue context.workspaceId abac.rowFilter row := by
    intro row hrow
    rw [hresults] at hrow
    obtain ⟨given, hgiven, hsame⟩ := applyRetrievalMasks_row hrow
    obtain ⟨hmem, hsatisfies⟩ := applyRetrievalRowFilter_satisfies hsummary hgiven
    have hdataset := hsame "dataset_id" (by decide)
    exact ⟨(hfound given hmem).of_get? hdataset (hsame "citation" (by decide)),
      hsatisfies.of_get? hdataset⟩
  rw [hworkspace, retrieveChecks_ok hchecks] at hrows
  refine ⟨fun row hrow ↦ ⟨(hrows row hrow).1.dataset, (hrows row hrow).2⟩,
    names_of_nonEmptyTexts hdatasets fun text _ ↦ ?_,
    names_of_nonEmptyTexts hcitations fun text hne ↦ ?_⟩
  · rw [mem_sortedTexts, List.mem_map]
  · rw [hcited, List.mem_filterMap]
    refine exists_congr fun row ↦ and_congr_right fun hrow ↦ ?_
    rw [(hrows row hrow).1.citation, Option.bind_some]
    constructor
    · intro hkept
      split_ifs at hkept
      exact Option.some.inj hkept
    · rintro rfl
      exact if_pos (bne_iff_ne.mpr hne)

/-! ### A backend that answers too much -/

/-- An analyst of the region `eu` with two entitlements. -/
def entitledAnalyst : Fields :=
  [("actor_id", .str "a1"), ("actor_type", .str "human"), ("roles", .arr [.str "analyst"]),
    ("attributes", .obj [("region", .str "eu"),
      ("allowed_dataset_ids", .arr [.str "d1", .str "d2"])])]

/-- A hit of OpenSearch on a document of a dataset. -/
def hitOf (datasetId : String) : Json :=
  .obj [("_source", .obj [("artifact_id", .str ("a-" ++ datasetId)), ("dataset_id", .str datasetId),
    ("text", .str "quarterly leads")])]

def leadsCatalogue (datasetId : String) : Option (String × Json) :=
  if datasetId = "d1" then some ("ws", .obj [("region", .str "eu")]) else none

/-- The answers to the analyst: OpenSearch returns documents of three datasets. -/
def leadsAnswers : (op : GatewayOp) → Except Exn op.Answer
  | .datasetSummaries workspaceId _ =>
    .ok (if workspaceId = "ws" then [("d1", .obj [("region", .str "eu")])] else [])
  | .searchOpensearch _ =>
    .ok [("hits", .obj [("hits", .arr [hitOf "d1", hitOf "d2", hitOf "d3"])])]
  | op => answersTo entitledAnalyst none none op

/-- The analyst's retrieval on OpenSearch. -/
def leadsRetrieval : Handler RetrieveResponse :=
  retrieve ⟨id, id⟩
    ⟨"duckdb", "storage", 1000000, "opensearch", true, false, 1000000⟩
    ⟨[("workspace_id", .str "ws"), ("query_text", .str "leads")], "r1"⟩

theorem leadsRetrieval_returns : ∃ response, eval leadsAnswers leadsRetrieval = .ok response ∧
    response.results.map datasetIdOf = ["d1"] := by
  have hreturns : ((eval leadsAnswers leadsRetrieval).toOption.map fun response ↦
      response.results.map datasetIdOf) = some ["d1"] := by
    decide +kernel
  cases hresult : eval leadsAnswers leadsRetrieval with
  | error exception =>
    rw [hresult] at hreturns
    cases hreturns
  | ok response =>
    rw [hresult] at hreturns
    exact ⟨response, rfl, Option.some.inj hreturns⟩

theorem leadsAnswers_catalogued :
    ∀ event ∈ history leadsAnswers leadsRetrieval, Catalogued leadsCatalogue event := by
  intro event hevent
  obtain ⟨op, answer⟩ := event
  obtain rfl : answer = leadsAnswers op := answer_of_mem_history hevent
  cases op with
  | datasetSummaries workspaceId datasetIds =>
    intro row hrow
    split_ifs at hrow with hworkspace
    · rw [List.mem_singleton.mp hrow, hworkspace]
      rfl
    · exact absurd hrow List.not_mem_nil
  | _ => trivial

theorem leadsAnswers_loadsCorpus :
    ∀ event ∈ history leadsAnswers leadsRetrieval, LoadsCorpus event := by
  intro event hevent
  obtain ⟨op, answer⟩ := event
  obtain rfl : answer = leadsAnswers op := answer_of_mem_history hevent
  cases op with
  | retrievalCorpus workspaceId => exact ⟨[], rfl⟩
  | _ => trivial

/-- Of documents of three datasets, one of them not among the entitlements and one without a
summary, the analyst is returned the remaining one, and the provenance names its citation. -/
theorem leads_retrieved_safely : ∃ response,
    Run leadsRetrieval (history leadsAnswers leadsRetrieval) (.ok response) ∧
      response.results.map datasetIdOf = ["d1"] ∧
      (∀ row ∈ response.results, datasetIdOf row ∈ allowedDatasetIdsOf entitledAnalyst) ∧
      Names response.provenance "datasets_used" response.results datasetIdOf ∧
      Names response.provenance "citations" response.results citationOf := by
  obtain ⟨response, hresult, hdatasets⟩ := leadsRetrieval_returns
  have hrun := run_history leadsAnswers leadsRetrieval
  rw [hresult] at hrun
  have hactor : (⟨.authenticatedActor, .ok (some entitledAnalyst)⟩ : GatewayEvent) ∈
      history leadsAnswers leadsRetrieval := .tail _ (.head _)
  obtain ⟨hrows, hnamed, hcited⟩ :=
    retrieval_safe hrun hactor leadsAnswers_loadsCorpus leadsAnswers_catalogued
  exact ⟨response, hrun, hdatasets, fun row hrow ↦ (hrows row hrow).1, hnamed, hcited⟩

end SchemaPilot.Gateway
