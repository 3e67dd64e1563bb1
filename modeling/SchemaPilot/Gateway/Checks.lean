import SchemaPilot.Gateway.Footprint

/-!
# The checks behind a granted slot

What a request must satisfy to get from its granted slot to the cache lookup or the search. The
conditions speak of the payload, the actor and what the databases answered (`answers`, the calls of
the request with their answers): `SemanticCleared` for the AI path, `QueryCleared` and
`RetrieveCleared` for the endpoints. The checks of an endpoint return exactly when its condition
holds (`queryChecks_run`, `retrieveChecks_run`).
-/

namespace SchemaPilot.Gateway

open Library Library.Program SharedDomain

abbrev GatewayEvent := Event GatewayOp GatewayOp.Answer Exn

/-- A dataset is catalogued nowhere or under the workspace. -/
def OwnDataset (workspaceId : String) (answers : List GatewayEvent) (datasetId : String) : Prop :=
  ⟨.datasetWorkspace datasetId, .ok none⟩ ∈ answers ∨
    ⟨.datasetWorkspace datasetId, .ok (some workspaceId)⟩ ∈ answers

/-- The payload holds a semantic query, and it binds over the manifest row that was answered. -/
def SemanticBinds (platform : Platform) (workspaceId : String) (payload : Fields)
    (answers : List GatewayEvent) (binding : SemanticQueryBinding) : Prop :=
  semanticQueryOf payload ≠ [] ∧ ∃ metricId row,
    requestedMetric (semanticQueryOf payload) = .ok metricId ∧
    ⟨.activePolicy workspaceId "semantic_manifest", .ok row⟩ ∈ answers ∧
    bindState platform.sha256Hex workspaceId metricId (semanticQueryOf payload) row = .ok binding

/-- The semantic query binds over datasets of the workspace the actor is entitled to. -/
def SemanticCleared (platform : Platform) (workspaceId : String) (payload actor : Fields)
    (answers : List GatewayEvent) : Prop :=
  ∃ binding, SemanticBinds platform workspaceId payload answers binding ∧
    ∀ datasetId ∈ binding.datasetIds,
      datasetId ∈ allowedDatasetIdsOf actor ∧ OwnDataset workspaceId answers datasetId

/-- A query request gets to its cache lookup: the semantic query of an AI actor is cleared, ABAC
allows the request, its limits are numbers and the gold pointer could be read. -/
def QueryCleared (platform : Platform) (workspaceId : String) (payload actor : Fields)
    (answers : List GatewayEvent) : Prop :=
  (actorTypeOf actor = "ai" → SemanticCleared platform workspaceId payload actor answers) ∧
    (abacOf payload actor).allow = true ∧
    (∃ limits, constraintsOf payload = .ok limits) ∧
    ∃ pointer, ⟨.latestGoldPointer workspaceId, .ok pointer⟩ ∈ answers

/-- A retrieve request gets to its search: the actor is entitled to some datasets, all of them of
this workspace, and ABAC allows the request. -/
def RetrieveCleared (workspaceId : String) (payload actor : Fields)
    (answers : List GatewayEvent) : Prop :=
  allowedDatasetIdsOf actor ≠ [] ∧
    (∀ datasetId ∈ allowedDatasetIdsOf actor, OwnDataset workspaceId answers datasetId) ∧
    (abacOf payload actor).allow = true

/-- The conditions rest on the answers of these operations. -/
def GatewayOp.decides : GatewayOp → Bool
  | datasetWorkspace _ => true
  | activePolicy _ policyType => policyType == "semantic_manifest"
  | latestGoldPointer _ => true
  | _ => false

/-- The conditions grow with the answers they rest on. -/
theorem OwnDataset.mono {workspaceId datasetId : String} {answers more : List GatewayEvent}
    (h : OwnDataset workspaceId answers datasetId)
    (hmore : ∀ event ∈ answers, event.op.decides = true → event ∈ more) :
    OwnDataset workspaceId more datasetId :=
  h.imp (fun hnone ↦ hmore _ hnone rfl) fun howner ↦ hmore _ howner rfl

theorem SemanticBinds.mono {platform : Platform} {workspaceId : String} {payload : Fields}
    {answers more : List GatewayEvent} {binding : SemanticQueryBinding}
    (h : SemanticBinds platform workspaceId payload answers binding)
    (hmore : ∀ event ∈ answers, event.op.decides = true → event ∈ more) :
    SemanticBinds platform workspaceId payload more binding := by
  obtain ⟨hquery, metricId, row, hmetric, hrow, hbind⟩ := h
  exact ⟨hquery, metricId, row, hmetric, hmore _ hrow rfl, hbind⟩

theorem SemanticCleared.mono {platform : Platform} {workspaceId : String}
    {payload actor : Fields} {answers more : List GatewayEvent}
    (h : SemanticCleared platform workspaceId payload actor answers)
    (hmore : ∀ event ∈ answers, event.op.decides = true → event ∈ more) :
    SemanticCleared platform workspaceId payload actor more := by
  obtain ⟨binding, hbinds, hdatasets⟩ := h
  exact ⟨binding, hbinds.mono hmore, fun d hd ↦ ⟨(hdatasets d hd).1, (hdatasets d hd).2.mono hmore⟩⟩

theorem QueryCleared.mono {platform : Platform} {workspaceId : String} {payload actor : Fields}
    {answers more : List GatewayEvent}
    (h : QueryCleared platform workspaceId payload actor answers)
    (hmore : ∀ event ∈ answers, event.op.decides = true → event ∈ more) :
    QueryCleared platform workspaceId payload actor more := by
  obtain ⟨hsemantic, hallow, hlimits, pointer, hpointer⟩ := h
  exact ⟨fun hai ↦ (hsemantic hai).mono hmore, hallow, hlimits, pointer, hmore _ hpointer rfl⟩

theorem RetrieveCleared.mono {workspaceId : String} {payload actor : Fields}
    {answers more : List GatewayEvent} (h : RetrieveCleared workspaceId payload actor answers)
    (hmore : ∀ event ∈ answers, event.op.decides = true → event ∈ more) :
    RetrieveCleared workspaceId payload actor more :=
  ⟨h.1, fun d hd ↦ (h.2.1 d hd).mono hmore, h.2.2⟩

/-- Who owns a dataset is settled by the lookups: later calls of other kinds do not bear on it. -/
theorem ownDataset_append_iff (workspaceId : String) (first : List GatewayEvent)
    {second : List GatewayEvent}
    (h : ∀ event ∈ second, event.op.kind ∈ [OpKind.identifier, .audit]) (datasetId : String) :
    OwnDataset workspaceId (first ++ second) datasetId ↔
      OwnDataset workspaceId first datasetId := by
  have hfree : ∀ answer, (⟨.datasetWorkspace datasetId, answer⟩ : GatewayEvent) ∉ second := by
    intro answer hanswer
    have hkind := h _ hanswer
    simp [GatewayOp.kind] at hkind
  simp [OwnDataset, hfree]

/-- The lookup of distinct datasets returns none of another workspace exactly when every answer says
so. -/
theorem crossWorkspaceDatasetIds_run {workspaceId : String} {datasetIds : List String}
    (hnodup : datasetIds.Nodup) : ∀ {events : List GatewayEvent}
    {result : Except Exn (List String)},
    Run (crossWorkspaceDatasetIds workspaceId datasetIds) events result →
      (result = .ok [] ↔ ∀ datasetId ∈ datasetIds, OwnDataset workspaceId events datasetId) := by
  induction datasetIds with
  | nil =>
    intro events result h
    obtain ⟨rfl, rfl⟩ := (run_pure_iff _ _ _).mp h
    simp
  | cons datasetId rest ih =>
    obtain ⟨hnew, hrest⟩ := List.nodup_cons.mp hnodup
    intro events result h
    rw [crossWorkspaceDatasetIds, run_bind_iff] at h
    have hfirst : ∀ {first : List GatewayEvent} {answer : Except Exn Bool},
        Run (datasetBelongsToOtherWorkspace workspaceId datasetId) first answer →
        (∃ exception, first = [⟨.datasetWorkspace datasetId, .error exception⟩] ∧
          answer = .error exception) ∨
        ∃ owner, first = [⟨.datasetWorkspace datasetId, .ok owner⟩] ∧
          answer = .ok (owner.any (· != workspaceId)) := by
      intro first answer hrun
      rcases (run_perform_bind_iff _ _ _ _).mp hrun with ⟨exception, rfl, rfl⟩ |
        ⟨owner, tail, rfl, htail⟩
      · exact Or.inl ⟨exception, rfl, rfl⟩
      · obtain ⟨rfl, rfl⟩ := (run_pure_iff _ _ _).mp htail
        exact Or.inr ⟨owner, rfl, by cases owner <;> rfl⟩
    rcases h with ⟨exception, hrun, rfl⟩ | ⟨first, second, other, rfl, hrun, hnext⟩
    · rcases hfirst hrun with ⟨_, rfl, -⟩ | ⟨_, -, hfalse⟩
      · refine ⟨fun heq ↦ (by cases heq), fun hall ↦ ?_⟩
        have hown := hall datasetId List.mem_cons_self
        simp [OwnDataset] at hown
      · cases hfalse
    rcases hfirst hrun with ⟨_, -, hfalse⟩ | ⟨owner, rfl, hother⟩
    · cases hfalse
    have hbelow : ∀ {second' : List GatewayEvent} {answer : Except Exn (List String)},
        Run (crossWorkspaceDatasetIds workspaceId rest) second' answer →
        ((∀ d ∈ datasetId :: rest, OwnDataset workspaceId
            (⟨.datasetWorkspace datasetId, .ok owner⟩ :: second') d) ↔
          other = false ∧ answer = .ok []) := by
      intro second' answer hrun'
      have honly := ((only_crossWorkspaceDatasetIds workspaceId rest).after hrun').1
      have hunseen : ∀ a, (⟨.datasetWorkspace datasetId, a⟩ : GatewayEvent) ∉ second' := by
        intro a ha
        obtain ⟨d, hd, heq⟩ := honly _ ha
        cases heq
        exact hnew hd
      rw [List.forall_mem_cons, ih hrest hrun']
      refine and_congr ?_ (forall_congr' fun d ↦ forall_congr' fun hd ↦ ?_)
      · simp only [OwnDataset, List.mem_cons, hunseen, or_false]
        cases hother
        cases owner with
        | none => simp
        | some owner =>
          simp only [Event.mk.injEq, heq_eq_eq, true_and, Except.ok.injEq, reduceCtorEq,
            Option.some.injEq, false_or, Option.any_some, bne_eq_false_iff_eq]
          exact eq_comm
      · have hne : d ≠ datasetId := fun heq ↦ hnew (heq ▸ hd)
        simp [OwnDataset, hne]
    rcases (run_bind_iff _ _ _ _).mp hnext with ⟨exception, hrun', rfl⟩ |
      ⟨second', third, others, rfl, hrun', hpure⟩
    · rw [List.singleton_append, hbelow hrun']
      simp
    · obtain ⟨rfl, rfl⟩ := (run_pure_iff _ _ _).mp hpure
      rw [List.append_nil, List.singleton_append, hbelow hrun']
      cases other <;> simp

/-- A denial raises. -/
theorem denyWith_run {α : Type} {context : DecisionContext} {actorId message reason : String}
    {resources filters masks details : Fields} {events : List GatewayEvent}
    {result : Except Exn α}
    (h : Run (denyWith context actorId message reason resources filters masks details :
      Handler α) events result) :
    ∃ exception, result = .error exception := by
  unfold denyWith at h
  rcases (run_bind_iff _ _ _ _).mp h with ⟨exception, -, rfl⟩ | ⟨first, second, _, rfl, -, hraise⟩
  · exact ⟨exception, rfl⟩
  · exact ⟨_, ((run_raise_iff _ _ _).mp hraise).2⟩

theorem deny_run {α : Type} {context : DecisionContext} {actorId reason : String}
    {resources details : Fields} {events : List GatewayEvent} {result : Except Exn α}
    (h : Run (deny context actorId reason resources details : Handler α) events result) :
    ∃ exception, result = .error exception := denyWith_run h

/-- A binding reads the manifest row once, after the metric was found well formed. -/
theorem bindSemanticQuery_run {sha256Hex : String → String} {workspaceId : String}
    {semanticQuery : Fields} {events : List GatewayEvent}
    {result : Except Exn SemanticQueryBinding}
    (h : Run (bindSemanticQuery sha256Hex workspaceId semanticQuery) events result) :
    (∃ message, requestedMetric semanticQuery = .error message ∧
      events = [] ∧ result = .error (.valueError message)) ∨
    ∃ metricId, requestedMetric semanticQuery = .ok metricId ∧
      ((∃ exception, events = [⟨.activePolicy workspaceId "semantic_manifest", .error exception⟩] ∧
        result = .error exception) ∨
      ∃ row, events = [⟨.activePolicy workspaceId "semantic_manifest", .ok row⟩] ∧
        result = raiseValueError (bindState sha256Hex workspaceId metricId semanticQuery row)) := by
  unfold bindSemanticQuery at h
  rcases (run_ofExcept_bind_iff _ _ _ _).mp h with ⟨exception, hmetric, rfl, rfl⟩ |
    ⟨metricId, hmetric, hrow⟩
  · cases hrequested : requestedMetric semanticQuery with
    | ok metricId =>
      rw [hrequested] at hmetric
      cases hmetric
    | error message =>
      rw [hrequested] at hmetric
      cases hmetric
      exact Or.inl ⟨message, rfl, rfl, rfl⟩
  · have hrequested : requestedMetric semanticQuery = .ok metricId := by
      cases hr : requestedMetric semanticQuery with
      | ok other =>
        rw [hr] at hmetric
        cases hmetric
        rfl
      | error message =>
        rw [hr] at hmetric
        cases hmetric
    refine Or.inr ⟨metricId, hrequested, ?_⟩
    rcases (run_perform_bind_iff _ _ _ _).mp hrow with ⟨exception, rfl, rfl⟩ |
      ⟨row, rest, rfl, hrest⟩
    · exact Or.inl ⟨exception, rfl, rfl⟩
    · obtain ⟨rfl, rfl⟩ := (run_done_iff _ _ _).mp hrest
      exact Or.inr ⟨row, rfl, rfl⟩

theorem raiseValueError_eq_ok_iff {α : Type} {value : Except String α} {a : α} :
    raiseValueError value = .ok a ↔ value = .ok a := by
  cases value with
  | ok b => simp [raiseValueError]
  | error message => simp [raiseValueError]

/-- A binding that succeeded is the one of the manifest row it read. -/
theorem bindSemanticQuery_ok {sha256Hex : String → String} {workspaceId : String}
    {semanticQuery : Fields} {events : List GatewayEvent} {binding : SemanticQueryBinding}
    (h : Run (bindSemanticQuery sha256Hex workspaceId semanticQuery) events (.ok binding)) :
    ∃ metricId row, requestedMetric semanticQuery = .ok metricId ∧
      events = [⟨.activePolicy workspaceId "semantic_manifest", .ok row⟩] ∧
      bindState sha256Hex workspaceId metricId semanticQuery row = .ok binding := by
  rcases bindSemanticQuery_run h with ⟨_, -, -, hfalse⟩ | ⟨metricId, hmetric,
    ⟨_, -, hfalse⟩ | ⟨row, hevents, hbinding⟩⟩
  · cases hfalse
  · cases hfalse
  · exact ⟨metricId, row, hmetric, hevents, raiseValueError_eq_ok_iff.mp hbinding.symm⟩

/-- A binding that failed did not read a manifest row over which the query binds. -/
theorem bindSemanticQuery_error {platform : Platform} {workspaceId : String} {payload : Fields}
    {events : List GatewayEvent} {exception : Exn}
    (h : Run (bindSemanticQuery platform.sha256Hex workspaceId (semanticQueryOf payload)) events
      (.error exception)) (binding : SemanticQueryBinding) :
    ¬SemanticBinds platform workspaceId payload events binding := by
  rintro ⟨-, metricId', row', hmetric', hrow', hbind'⟩
  rcases bindSemanticQuery_run h with ⟨message, hmetric, rfl, -⟩ | ⟨metricId, hmetric,
    ⟨other, rfl, -⟩ | ⟨row, rfl, hbinding⟩⟩
  · exact absurd hrow' List.not_mem_nil
  · rw [List.mem_singleton] at hrow'
    cases hrow'
  · rw [List.mem_singleton] at hrow'
    cases hrow'
    rw [hmetric] at hmetric'
    cases hmetric'
    rw [hbind'] at hbinding
    cases hbinding

theorem nodup_datasetIds {sha256Hex : String → String} {workspaceId : String}
    {metricId : Text.Identifier} {semanticQuery : Fields} {row : Option (Option Json)}
    {binding : SemanticQueryBinding}
    (h : bindState sha256Hex workspaceId metricId semanticQuery row = .ok binding) :
    binding.datasetIds.Nodup := by
  obtain ⟨manifest, checksum, hbind⟩ : ∃ manifest checksum,
      bindManifest sha256Hex manifest checksum metricId semanticQuery = .ok binding := by
    unfold bindState at h
    split at h
    · cases h
    · split at h
      · cases h
      · split at h
        · cases h
        · exact ⟨_, _, h⟩
  unfold bindManifest at hbind
  split at hbind
  · cases hbind
  · simp only [ite_error_eq_ok_iff, bind_eq_ok_iff, Except.ok.injEq] at hbind
    obtain ⟨-, groupBy, -, joinClauses, -, -, rfl⟩ := hbind
    exact Text.nodup_sortedTexts _

/-- The part of the AI path that reads the manifest returns the binding of the row it read. -/
theorem boundQuery_ok {platform : Platform} {context : DecisionContext} {payload actor : Fields}
    {events : List GatewayEvent} {binding : SemanticQueryBinding}
    (h : Run (boundQuery platform context payload actor) events (.ok binding)) :
    ∃ metricId row, requestedMetric (semanticQueryOf payload) = .ok metricId ∧
      events = [⟨.activePolicy context.workspaceId "semantic_manifest", .ok row⟩] ∧
      bindState platform.sha256Hex context.workspaceId metricId (semanticQueryOf payload) row =
        .ok binding := by
  unfold boundQuery at h
  rcases (run_tryExcept_iff _ _ _ _).mp h with ⟨value, hrun, hvalue⟩ |
    ⟨_, _, exception, -, -, hhandler⟩
  · cases hvalue
    exact bindSemanticQuery_ok hrun
  · split_ifs at hhandler
    · obtain ⟨_, hfalse⟩ := deny_run hhandler
      cases hfalse
    · exact absurd hhandler Run.not_raise

/-- The part of the AI path that reads the manifest fails only when the query does not bind over the
row it read. -/
theorem boundQuery_error {platform : Platform} {context : DecisionContext} {payload actor : Fields}
    {events : List GatewayEvent} {exception : Exn}
    (h : Run (boundQuery platform context payload actor) events (.error exception))
    (binding : SemanticQueryBinding) :
    ¬SemanticBinds platform context.workspaceId payload events binding := by
  rintro ⟨hquery, metricId, row, hmetric, hrow, hbinding⟩
  unfold boundQuery at h
  rcases (run_tryExcept_iff _ _ _ _).mp h with ⟨_, -, hfalse⟩ |
    ⟨first, second, error, rfl, hrun, hhandler⟩
  · cases hfalse
  refine bindSemanticQuery_error hrun binding ⟨hquery, metricId, row, hmetric, ?_, hbinding⟩
  rcases List.mem_append.mp hrow with hrow | hrow
  · exact hrow
  split_ifs at hhandler
  · have hkind := ((calling_deny _ _ _ _ _).after hhandler).1 _ hrow
    simp [GatewayOp.kind] at hkind
  · obtain ⟨rfl, -⟩ := (run_raise_iff _ _ _).mp hhandler
    exact absurd hrow List.not_mem_nil

/-- The AI path once the query is bound: it returns exactly when the actor is entitled to the
datasets of the binding and they are the workspace's own. -/
theorem entitledTarget_run {context : DecisionContext} {actor : Fields}
    {binding : SemanticQueryBinding} (hnodup : binding.datasetIds.Nodup)
    {events : List GatewayEvent} {result : Except Exn QueryTarget}
    (h : Run (entitledTarget context actor binding) events result) :
    (∀ event ∈ events, event.op.kind ∈ [OpKind.identifier, .audit, .catalogue]) ∧
    ((∀ datasetId ∈ binding.datasetIds, datasetId ∈ allowedDatasetIdsOf actor ∧
        OwnDataset context.workspaceId events datasetId) →
      result = .ok ⟨binding.sqlText, binding.datasetIds, some binding⟩) ∧
    ∀ target, result = .ok target →
      target = ⟨binding.sqlText, binding.datasetIds, some binding⟩ ∧
      ∀ datasetId ∈ binding.datasetIds, datasetId ∈ allowedDatasetIdsOf actor ∧
        OwnDataset context.workspaceId events datasetId := by
  have hkinds := ((calling_entitledTarget _ _ _).after h).1
  refine ⟨hkinds, ?_⟩
  unfold entitledTarget at h
  rcases (run_bind_iff _ _ _ _).mp h with ⟨exception, hcross, rfl⟩ |
    ⟨first, second, cross, rfl, hcross, hrest⟩
  · refine ⟨fun hall ↦ ?_, fun target hfalse ↦ by cases hfalse⟩
    have hnone := (crossWorkspaceDatasetIds_run hnodup hcross).mpr fun d hd ↦ (hall d hd).2
    cases hnone
  have hown : cross = [] ↔ ∀ d ∈ binding.datasetIds, OwnDataset context.workspaceId first d := by
    rw [← crossWorkspaceDatasetIds_run hnodup hcross, Except.ok.injEq]
  have hdenied : deniedDatasetIds actor binding = [] ↔
      ∀ d ∈ binding.datasetIds, d ∈ allowedDatasetIdsOf actor := by
    simp [deniedDatasetIds]
  have hdeny : ∀ {reason : String} {resources details : Fields},
      Run (deny context (actorIdOf actor) reason resources details : Handler QueryTarget) second
        result → (∀ event ∈ second, event.op.kind ∈ [OpKind.identifier, .audit]) ∧
        ∃ exception, result = .error exception :=
    fun hrun ↦ ⟨((calling_deny _ _ _ _ _).after hrun).1, deny_run hrun⟩
  -- only the lookups before the verdict name datasets, so the verdict rests on their answers
  have hsecond : ∀ event ∈ second, event.op.kind ∈ [OpKind.identifier, .audit] := by
    split_ifs at hrest
    · exact (hdeny hrest).1
    · exact (hdeny hrest).1
    · obtain ⟨rfl, -⟩ := (run_pure_iff _ _ _).mp hrest
      exact fun _ hevent ↦ absurd hevent List.not_mem_nil
  have howned := ownDataset_append_iff context.workspaceId first hsecond
  constructor
  · intro hall
    rw [hown.mpr fun d hd ↦ (howned d).mp (hall d hd).2,
      hdenied.mpr fun d hd ↦ (hall d hd).1] at hrest
    exact ((run_pure_iff _ _ _).mp hrest).2
  · rintro target rfl
    split_ifs at hrest with hcrossed hforeign
    · obtain ⟨_, hfalse⟩ := (hdeny hrest).2
      cases hfalse
    · obtain ⟨_, hfalse⟩ := (hdeny hrest).2
      cases hfalse
    · obtain ⟨rfl, htarget⟩ := (run_pure_iff _ _ _).mp hrest
      cases htarget
      rw [ne_eq, not_not] at hcrossed hforeign
      exact ⟨rfl, fun d hd ↦ ⟨hdenied.mp hforeign d hd, (howned d).mpr (hown.mp hcrossed d hd)⟩⟩

/-- The AI path returns exactly when its condition holds, and then with the text and the datasets of
the binding. -/
theorem semanticTarget_run {platform : Platform} {context : DecisionContext}
    {payload actor : Fields} {events : List GatewayEvent} {result : Except Exn QueryTarget}
    (h : Run (semanticTarget platform context payload actor) events result) :
    ((∃ target, result = .ok target) ↔
      SemanticCleared platform context.workspaceId payload actor events) ∧
    ∀ target, result = .ok target → ∃ binding,
      target = ⟨binding.sqlText, binding.datasetIds, some binding⟩ ∧
      SemanticBinds platform context.workspaceId payload events binding ∧
      ∀ datasetId ∈ binding.datasetIds, datasetId ∈ allowedDatasetIdsOf actor ∧
        OwnDataset context.workspaceId events datasetId := by
  have hok : ∀ target, result = .ok target → ∃ binding,
      target = ⟨binding.sqlText, binding.datasetIds, some binding⟩ ∧
      SemanticBinds platform context.workspaceId payload events binding ∧
      ∀ datasetId ∈ binding.datasetIds, datasetId ∈ allowedDatasetIdsOf actor ∧
        OwnDataset context.workspaceId events datasetId := by
    rintro target rfl
    unfold semanticTarget at h
    by_cases hquery : semanticQueryOf payload = []
    · simp only [hquery, if_true] at h
      obtain ⟨_, hfalse⟩ := deny_run h
      cases hfalse
    simp only [hquery, if_false] at h
    obtain ⟨first, second, binding, rfl, hbind, hrest⟩ := h.bind_ok
    obtain ⟨metricId, row, hmetric, rfl, hbinding⟩ := boundQuery_ok hbind
    obtain ⟨-, -, htarget⟩ := entitledTarget_run (nodup_datasetIds hbinding) hrest
    obtain ⟨heq, hdatasets⟩ := htarget target rfl
    exact ⟨binding, heq, ⟨hquery, metricId, row, hmetric, by simp, hbinding⟩,
      fun d hd ↦ ⟨(hdatasets d hd).1, (hdatasets d hd).2.mono fun _ hevent _ ↦
        List.mem_append_right _ hevent⟩⟩
  refine ⟨⟨?_, ?_⟩, hok⟩
  · rintro ⟨target, htarget⟩
    obtain ⟨binding, -, hbinds, hdatasets⟩ := hok target htarget
    exact ⟨binding, hbinds, hdatasets⟩
  · rintro ⟨binding, hbinds, hdatasets⟩
    have hquery : semanticQueryOf payload ≠ [] := hbinds.1
    unfold semanticTarget at h
    simp only [hquery, if_false] at h
    rcases (run_bind_iff _ _ _ _).mp h with ⟨_, hbind, -⟩ |
      ⟨first, second, bound, rfl, hbind, hrest⟩
    · exact absurd hbinds (boundQuery_error hbind binding)
    obtain ⟨metricId, row, hmetric, rfl, hbound⟩ := boundQuery_ok hbind
    obtain ⟨hkinds, htarget, -⟩ := entitledTarget_run (nodup_datasetIds hbound) hrest
    have hsame : binding = bound := by
      obtain ⟨-, metricId', row', hmetric', hrow', hbinding'⟩ := hbinds
      rcases List.mem_append.mp hrow' with hrow' | hrow'
      · rw [List.mem_singleton] at hrow'
        cases hrow'
        rw [hmetric] at hmetric'
        cases hmetric'
        rw [hbound] at hbinding'
        exact (Except.ok.inj hbinding').symm
      · have hkind := hkinds _ hrow'
        simp [GatewayOp.kind] at hkind
    subst hsame
    refine ⟨_, htarget fun d hd ↦ ⟨(hdatasets d hd).1, ?_⟩⟩
    have hown := (hdatasets d hd).2
    simpa [OwnDataset] using hown

theorem queryTarget_run {platform : Platform} {context : DecisionContext}
    {payload actor : Fields} {events : List GatewayEvent} {result : Except Exn QueryTarget}
    (h : Run (queryTarget platform context payload actor) events result) :
    (∃ target, result = .ok target) ↔ (actorTypeOf actor = "ai" →
      SemanticCleared platform context.workspaceId payload actor events) := by
  unfold queryTarget at h
  by_cases hai : actorTypeOf actor = "ai"
  · rw [if_pos hai] at h
    rw [(semanticTarget_run h).1]
    exact ⟨fun hcleared _ ↦ hcleared, fun hcleared ↦ hcleared hai⟩
  · rw [if_neg hai] at h
    obtain ⟨rfl, rfl⟩ := (run_pure_iff _ _ _).mp h
    exact ⟨fun _ hfalse ↦ absurd hfalse hai, fun _ ↦ ⟨_, rfl⟩⟩

/-- What a checked query consists of, and when the steps after its target succeed. -/
theorem limitedQuery_run {settings : Settings} {context : DecisionContext}
    {payload actor : Fields} {policyPack : Option PolicyPack} {target : QueryTarget}
    {events : List GatewayEvent} {result : Except Exn CheckedQuery}
    (h : Run (limitedQuery settings context payload actor policyPack target) events result) :
    (((abacOf payload actor).allow = true ∧ (∃ limits, constraintsOf payload = .ok limits) ∧
        ∃ pointer, ⟨.latestGoldPointer context.workspaceId, .ok pointer⟩ ∈ events) →
      ∃ checked, result = .ok checked) ∧
    ∀ checked, result = .ok checked → (abacOf payload actor).allow = true ∧
      checked.target = target ∧ checked.abac = abacOf payload actor ∧
      constraintsOf payload = .ok (checked.maxRows, checked.timeoutMs) ∧
      ∃ pointer, events = [⟨.latestGoldPointer context.workspaceId, .ok pointer⟩] ∧
        checked.cacheKey = Json.dumps (.obj (cacheKeyFields settings context actor target
          checked.abac checked.maxRows checked.timeoutMs policyPack pointer)) := by
  unfold limitedQuery at h
  by_cases hallow : (abacOf payload actor).allow = false
  · simp only [hallow, if_true] at h
    obtain ⟨exception, rfl⟩ := denyWith_run h
    exact ⟨fun hall ↦ absurd hall.1 (by rw [hallow]; decide), fun _ hfalse ↦ by cases hfalse⟩
  simp only [hallow] at h
  rw [Bool.not_eq_false] at hallow
  rcases (run_ofExcept_bind_iff _ _ _ _).mp h with ⟨exception, hlimits, rfl, rfl⟩ |
    ⟨⟨maxRows, timeoutMs⟩, hlimits, hkey⟩
  · refine ⟨fun hall ↦ ?_, fun _ hfalse ↦ by cases hfalse⟩
    obtain ⟨limits, hok⟩ := hall.2.1
    rw [hlimits] at hok
    cases hok
  rcases (run_bind_iff _ _ _ _).mp hkey with ⟨exception, hpointer, rfl⟩ |
    ⟨first, second, cacheKey, rfl, hpointer, hpure⟩
  · rcases (run_perform_bind_iff _ _ _ _).mp hpointer with ⟨_, rfl, -⟩ | ⟨_, _, -, hfalse⟩
    · exact ⟨fun hall ↦ by simp at hall, fun _ hfalse ↦ by cases hfalse⟩
    · exact absurd ((run_pure_iff _ _ _).mp hfalse).2 (by simp)
  · obtain ⟨rfl, rfl⟩ := (run_pure_iff _ _ _).mp hpure
    refine ⟨fun _ ↦ ⟨_, rfl⟩, ?_⟩
    rintro checked hchecked
    cases hchecked
    obtain ⟨pointer, rest, rfl, hrest⟩ := hpointer.perform_ok
    · obtain ⟨rfl, htext⟩ := (run_pure_iff _ _ _).mp hrest
      refine ⟨hallow, ?_⟩
      dsimp only
      exact ⟨rfl, rfl, hlimits, pointer, rfl, Except.ok.inj htext⟩

/-- The checks of a query return exactly when it is cleared. -/
theorem queryChecks_run {platform : Platform} {settings : Settings} {context : DecisionContext}
    {payload actor : Fields} {policyPack : Option PolicyPack} {events : List GatewayEvent}
    {result : Except Exn CheckedQuery}
    (h : Run (queryChecks platform settings context payload actor policyPack) events result) :
    (∃ checked, result = .ok checked) ↔
      QueryCleared platform context.workspaceId payload actor events := by
  unfold queryChecks at h
  rcases (run_bind_iff _ _ _ _).mp h with ⟨exception, htarget, rfl⟩ |
    ⟨first, second, target, rfl, htarget, hlimited⟩
  · refine ⟨fun ⟨_, hfalse⟩ ↦ (by cases hfalse), fun hcleared ↦ ?_⟩
    obtain ⟨_, hfalse⟩ := (queryTarget_run htarget).mpr hcleared.1
    cases hfalse
  have hsemantic := (queryTarget_run htarget).mp ⟨target, rfl⟩
  have hfirst := ((calling_queryTarget _ _ _ _).after htarget).1
  constructor
  · rintro ⟨checked, rfl⟩
    obtain ⟨hallow, -, -, hlimits, pointer, rfl, -⟩ := (limitedQuery_run hlimited).2 checked rfl
    have hmore : ∀ event ∈ first, event.op.decides = true →
        event ∈ first ++ [⟨.latestGoldPointer context.workspaceId, .ok pointer⟩] :=
      fun _ hevent _ ↦ List.mem_append_left _ hevent
    exact ⟨fun hai ↦ (hsemantic hai).mono hmore, hallow, ⟨_, hlimits⟩, pointer, by simp⟩
  · rintro ⟨-, hallow, hlimits, pointer, hpointer⟩
    refine (limitedQuery_run hlimited).1 ⟨hallow, hlimits, pointer, ?_⟩
    rcases List.mem_append.mp hpointer with hpointer | hpointer
    · have hkind := hfirst _ hpointer
      simp [GatewayOp.kind] at hkind
    · exact hpointer

/-- What checks that succeeded have returned: the target, the ABAC decision and the limits of the
payload, and the key of the pointer that was read last. -/
theorem queryChecks_ok {platform : Platform} {settings : Settings} {context : DecisionContext}
    {payload actor : Fields} {policyPack : Option PolicyPack} {events : List GatewayEvent}
    {checked : CheckedQuery}
    (h : Run (queryChecks platform settings context payload actor policyPack) events
      (.ok checked)) :
    ∃ first pointer, events = first ++ [⟨.latestGoldPointer context.workspaceId, .ok pointer⟩] ∧
      Run (queryTarget platform context payload actor) first (.ok checked.target) ∧
      checked.abac = abacOf payload actor ∧
      constraintsOf payload = .ok (checked.maxRows, checked.timeoutMs) ∧
      checked.cacheKey = Json.dumps (.obj (cacheKeyFields settings context actor checked.target
        checked.abac checked.maxRows checked.timeoutMs policyPack pointer)) := by
  unfold queryChecks at h
  obtain ⟨first, second, target, rfl, htarget, hlimited⟩ := h.bind_ok
  obtain ⟨-, rfl, habac, hlimits, pointer, rfl, hkey⟩ := (limitedQuery_run hlimited).2 checked rfl
  exact ⟨first, pointer, rfl, htarget, habac, hlimits, hkey⟩

/-- The checks of a retrieval return exactly when it is cleared. -/
theorem retrieveChecks_run {context : DecisionContext} {payload actor : Fields}
    {events : List GatewayEvent} {result : Except Exn AbacDecision}
    (h : Run (retrieveChecks context payload actor) events result) :
    (∃ abac, result = .ok abac) ↔
      RetrieveCleared context.workspaceId payload actor events := by
  unfold retrieveChecks at h
  by_cases hentitled : allowedDatasetIdsOf actor = []
  · simp only [hentitled, if_true] at h
    obtain ⟨exception, rfl⟩ := deny_run h
    exact ⟨fun ⟨_, hfalse⟩ ↦ (by cases hfalse), fun hcleared ↦ absurd hentitled hcleared.1⟩
  simp only [hentitled, if_false] at h
  have hnodup : (allowedDatasetIdsOf actor).Nodup := Text.nodup_sortedTexts _
  rcases (run_bind_iff _ _ _ _).mp h with ⟨exception, hcross, rfl⟩ |
    ⟨first, second, cross, rfl, hcross, hrest⟩
  · refine ⟨fun ⟨_, hfalse⟩ ↦ (by cases hfalse), fun hcleared ↦ ?_⟩
    have hnone := (crossWorkspaceDatasetIds_run hnodup hcross).mpr hcleared.2.1
    cases hnone
  have hown : cross = [] ↔
      ∀ d ∈ allowedDatasetIdsOf actor, OwnDataset context.workspaceId first d := by
    rw [← crossWorkspaceDatasetIds_run hnodup hcross, Except.ok.injEq]
  have hsecond : ∀ event ∈ second, event.op.kind ∈ [OpKind.identifier, .audit] := by
    split_ifs at hrest
    · exact ((calling_deny _ _ _ _ _).after hrest).1
    · exact ((calling_denyWith _ _ _ _ _ _ _ _).after hrest).1
    · obtain ⟨rfl, -⟩ := (run_pure_iff _ _ _).mp hrest
      exact fun _ hevent ↦ absurd hevent List.not_mem_nil
  have howned := ownDataset_append_iff context.workspaceId first hsecond
  simp only [RetrieveCleared, howned, ← hown]
  split_ifs at hrest with hcrossed hdenied
  · obtain ⟨exception, rfl⟩ := deny_run hrest
    exact ⟨fun ⟨_, hfalse⟩ ↦ (by cases hfalse), fun hcleared ↦ absurd hcleared.2.1 hcrossed⟩
  · obtain ⟨exception, rfl⟩ := denyWith_run hrest
    refine ⟨fun ⟨_, hfalse⟩ ↦ (by cases hfalse), fun hcleared ↦ ?_⟩
    rw [hcleared.2.2] at hdenied
    exact absurd hdenied (by decide)
  · obtain ⟨rfl, rfl⟩ := (run_pure_iff _ _ _).mp hrest
    rw [ne_eq, not_not] at hcrossed
    rw [Bool.not_eq_false] at hdenied
    exact ⟨fun _ ↦ ⟨hentitled, hcrossed, hdenied⟩, fun _ ↦ ⟨_, rfl⟩⟩

end SchemaPilot.Gateway
