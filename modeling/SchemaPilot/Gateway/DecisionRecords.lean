import SchemaPilot.Gateway.Answers
import SchemaPilot.Gateway.Recording

/-!
# One access decision a request

The parts of the two endpoints, by the rules for recorded outcomes. A finished request has committed
one access decision under its decision id, or was denied because it could not be, unless it ended in
a call whose exceptions no one records or in limits that are no numbers (`Lost`); there are no other
exceptions (`decision_recorded_iff`).
-/

namespace SchemaPilot.Gateway

open Library Library.Program SharedDomain

/-- The first id a request draws is the one of its decision. -/
def drawnDecisionId (events : List GatewayEvent) : Option String :=
  events.findSome? fun
    | ⟨.newUlid, .ok id⟩ => some id
    | _ => none

/-- Exactly one access decision was committed, under the decision id of the request, and it allows
the request when a response is given; or it could not be committed and the caller got a denial. -/
def Accounted {α : Type} (events : List GatewayEvent) (result : Except Exn α) : Prop :=
  (∃ record, attempts events = [(record, .ok ())] ∧
    drawnDecisionId events = some record.policyDecisionId ∧
    ∀ response, result = .ok response → record.result = "allow") ∨
  ∃ record failure message details, attempts events = [(record, .error failure)] ∧
    result = .error (.policyDenied message details)

/-- A query that was granted a slot and cleared for ABAC has limits that are no numbers. -/
def Unlimited (platform : Platform) (request : Request) (events : List GatewayEvent) : Prop :=
  ∃ actor reason, ⟨.authenticatedActor, .ok (some actor)⟩ ∈ events ∧
    ⟨.tryAcquire (actorIdOf actor), .ok ⟨true, reason⟩⟩ ∈ events ∧
    (actorTypeOf actor = "ai" → SemanticCleared platform (workspaceIdOf request.payload)
      request.payload actor events) ∧
    (abacOf request.payload actor).allow = true ∧
    ∃ exception, constraintsOf request.payload = .error exception

/-- A request ends where nothing is recorded: in a call whose exceptions escape, or for a query in
limits that are no numbers. -/
def Lost (platform : Platform) (events : List GatewayEvent) : GatewayRequest → Prop
  | .query request =>
    (∃ event, lastCall events = some event ∧ Escapes event) ∨ Unlimited platform request events
  | .retrieve _ => ∃ event, lastCall events = some event ∧ Escapes event

/-- The one attempt of a part that returns allowed the request. -/
def Allowed (decisionId : String) (recorded : List (AccessRecord × Except Exn Unit)) : Prop :=
  ∃ record, recorded = [(record, .ok ())] ∧ record.policyDecisionId = decisionId ∧
    record.result = "allow"

section Parts

variable {history : List GatewayEvent} {context : DecisionContext} {decisionId : String}
  {stray : Prop}

/-- The record of an allowed request, and the id of its response. -/
theorem tracks_allowed {α : Type} (hinprocess : InProcess history) (actorId reason : String)
    (resources filters masks : Fields) (value : String → α) :
    Tracks history context.policyDecisionId (Allowed context.policyDecisionId) stray (do
      recordAccessDecision context actorId "allow" reason resources filters masks
      let auditEventId ← ask .newUlid
      pure (value auditEventId)) := by
  intro events outcome hsubset h
  rcases (run_bind_iff _ _ _ _).mp h with ⟨raised, hrun, rfl⟩ |
    ⟨first, second, _, rfl, hrun, hresponse⟩
  · obtain ⟨auditEventId, answer, record, rfl, -, -, -,
      ⟨-, hfalse⟩ | ⟨failure, message, details, rfl, houtcome⟩⟩ :=
      recordAccessDecision_run (hinprocess.of_subset hsubset) hrun
    · cases hfalse
    · cases houtcome
      exact .denied message details record failure rfl rfl
  obtain ⟨hfirst, hsecond⟩ := List.append_subset.mp hsubset
  obtain ⟨auditEventId, answer, record, rfl, -, hid, hresult,
    ⟨rfl, -⟩ | ⟨failure, message, details, -, hfalse⟩⟩ :=
    recordAccessDecision_run (hinprocess.of_subset hfirst) hrun
  · rcases (run_perform_bind_iff _ _ _ _).mp hresponse with ⟨exception, rfl, -⟩ |
      ⟨responseId, rest, rfl, hpure⟩
    · obtain ⟨id, hfalse⟩ := hinprocess _ (hsecond (List.mem_singleton_self _))
        (by simp [GatewayOp.kind])
      cases hfalse
    · obtain ⟨rfl, rfl⟩ := (run_pure_iff _ _ _).mp hpure
      exact .returned _ ⟨record, rfl, hid, hresult⟩
  · cases hfalse

/-- The policy pack is not loaded where its row cannot be read or its version is no number. -/
theorem tracks_loadEffectivePolicyPack (workspaceId : String) :
    Tracks history decisionId Unsettled stray (loadEffectivePolicyPack workspaceId) := by
  intro events result _ h
  have hnone := (calling_loadEffectivePolicyPack workspaceId).attempts_eq_nil (by decide) h
  unfold loadEffectivePolicyPack at h
  rcases (run_perform_bind_iff _ _ _ _).mp h with ⟨exception, rfl, rfl⟩ | ⟨row, rest, rfl, hrow⟩
  · exact .escaped exception _ hnone (lastCall_snoc [] (by simp [GatewayOp.kind])) (Or.inl rfl)
  cases hpayload : row.bind fun definition ↦ definition.bind Json.asObj? with
  | none =>
    simp only [hpayload] at hrow
    obtain ⟨rfl, rfl⟩ := (run_pure_iff _ _ _).mp hrow
    exact .returned _ hnone
  | some payload =>
    simp only [hpayload] at hrow
    rcases (run_ofExcept_bind_iff _ _ _ _).mp hrow with ⟨exception, hversion, rfl, rfl⟩ |
      ⟨version, -, hpure⟩
    · refine .escaped exception _ hnone (lastCall_snoc [] (by simp [GatewayOp.kind]))
        ⟨rfl, payload, hpayload, fun version hok ↦ ?_⟩
      rw [hversion] at hok
      cases hok
    · obtain ⟨rfl, rfl⟩ := (run_pure_iff _ _ _).mp hpure
      exact .returned _ hnone

theorem tracks_crossWorkspaceDatasetIds (workspaceId : String) (datasetIds : List String) :
    Tracks history decisionId Unsettled stray
      (crossWorkspaceDatasetIds workspaceId datasetIds) := by
  induction datasetIds with
  | nil => exact tracks_pure _
  | cons datasetId rest ih =>
    rw [crossWorkspaceDatasetIds]
    refine Tracks.bind ?_ fun other ↦ ih.bind fun others ↦ tracks_pure _
    unfold datasetBelongsToOtherWorkspace
    exact (tracks_escaping (.datasetWorkspace datasetId) (by simp [GatewayOp.kind])
      (by simp [GatewayOp.kind]) fun _ ↦ trivial).bind fun row ↦ tracks_pure _

theorem tracks_boundQuery (hinprocess : InProcess history) (platform : Platform)
    (payload actor : Fields) :
    Tracks history context.policyDecisionId Unsettled stray
      (boundQuery platform context payload actor) := by
  unfold boundQuery
  have hcalling : Calling [.policy] (bindSemanticQuery platform.sha256Hex context.workspaceId
      (semanticQueryOf payload)) := by
    refine Only.mono (fun op hop ↦ ?_) (only_bindSemanticQuery _ _ _)
    simp [hop, GatewayOp.kind]
  refine Tracks.tryExcept hcalling (by decide) fun events exception hrun ↦ ?_
  by_cases hvalue : exception.isValueError = true
  · rw [if_pos hvalue]
    exact Or.inl (tracks_deny hinprocess _ _ _ _)
  -- only the read of the manifest row raises anything else
  rw [if_neg hvalue]
  rw [Bool.not_eq_true] at hvalue
  refine Or.inr ⟨exception, ⟨.activePolicy context.workspaceId "semantic_manifest",
    .error exception⟩, rfl, ?_, Or.inr hvalue⟩
  rcases bindSemanticQuery_run hrun with ⟨message, -, -, heq⟩ | ⟨metricId, -,
    ⟨raised, rfl, heq⟩ | ⟨row, -, heq⟩⟩
  · cases heq
    cases hvalue
  · cases heq
    exact lastCall_snoc [] (by simp [GatewayOp.kind])
  · cases hbound : bindState platform.sha256Hex context.workspaceId metricId
      (semanticQueryOf payload) row with
    | ok binding =>
      rw [hbound] at heq
      cases heq
    | error message =>
      rw [hbound] at heq
      cases heq
      cases hvalue

theorem tracks_queryTarget (hinprocess : InProcess history) (platform : Platform)
    (payload actor : Fields) :
    Tracks history context.policyDecisionId Unsettled stray
      (queryTarget platform context payload actor) := by
  unfold queryTarget semanticTarget entitledTarget
  refine Tracks.ite (fun _ ↦ ?_) fun _ ↦ tracks_pure _
  refine Tracks.ite (fun _ ↦ tracks_deny hinprocess _ _ _ _) fun _ ↦ ?_
  refine (tracks_boundQuery hinprocess platform payload actor).bind fun binding ↦ ?_
  refine (tracks_crossWorkspaceDatasetIds _ _).bind fun crossWorkspace ↦ ?_
  exact Tracks.ite (fun _ ↦ tracks_deny hinprocess _ _ _ _) fun _ ↦
    Tracks.ite (fun _ ↦ tracks_deny hinprocess _ _ _ _) fun _ ↦ tracks_pure _

theorem tracks_limitedQuery (hinprocess : InProcess history) (settings : Settings)
    (payload actor : Fields) (policyPack : Option PolicyPack) (target : QueryTarget)
    (hstray : (abacOf payload actor).allow = true →
      ∀ exception, constraintsOf payload = .error exception → stray) :
    Tracks history context.policyDecisionId Unsettled stray
      (limitedQuery settings context payload actor policyPack target) := by
  unfold limitedQuery buildQueryCacheKey
  refine Tracks.ite (fun _ ↦ tracks_denyWith hinprocess _ _ _ _ _ _ _) fun hallow ↦ ?_
  rw [Bool.not_eq_false] at hallow
  refine (tracks_ofExcept _ (hstray hallow)).bind fun limits ↦ ?_
  refine Tracks.bind ?_ fun key ↦ tracks_pure _
  exact (tracks_escaping (.latestGoldPointer context.workspaceId) (by simp [GatewayOp.kind])
    (by simp [GatewayOp.kind]) fun _ ↦ trivial).bind fun pointer ↦ tracks_pure _

theorem tracks_executeChecked (hinprocess : InProcess history) (settings : Settings)
    (actor : Fields) (checked : CheckedQuery) :
    Tracks history context.policyDecisionId Unsettled stray
      (executeChecked settings context actor checked) := by
  unfold executeChecked
  refine Tracks.tryExcept (calling_executeSql _ _ _ _ _ _) (by decide) fun _ exception _ ↦ ?_
  cases exception with
  | unsafeSql error => exact Or.inl (tracks_denyWith hinprocess _ _ _ _ _ _ _)
  | queryTimeout error => exact Or.inl (tracks_denyWith hinprocess _ _ _ _ _ _ _)
  | _ =>
    exact Or.inl (Tracks.ite (fun _ ↦ tracks_denyWith hinprocess _ _ _ _ _ _ _)
      fun _ ↦ tracks_record_raise hinprocess _ _ _ _ _ _ _)

theorem tracks_queryRows (hinprocess : InProcess history) (platform : Platform)
    (settings : Settings) (actor : Fields) (checked : CheckedQuery) (cached : Option Rows) :
    Tracks history context.policyDecisionId Unsettled stray
      (queryRows platform settings context actor checked cached) := by
  unfold queryRows
  cases cached with
  | some payload =>
    exact (tracks_inProcess hinprocess (by simp [GatewayOp.kind])).bind fun _ ↦ tracks_pure _
  | none =>
    refine (Tracks.tryFinally hinprocess
      (tracks_executeChecked hinprocess settings actor checked)).bind fun result ↦ ?_
    exact (tracks_inProcess hinprocess (by simp [GatewayOp.kind])).bind fun _ ↦ tracks_pure _

theorem tracks_queryAnswer (hinprocess : InProcess history) (settings : Settings)
    (actor : Fields) (policyPack : Option PolicyPack) (checked : CheckedQuery) (rows : Rows)
    (metadata : Fields) :
    Tracks history context.policyDecisionId (Allowed context.policyDecisionId) stray
      (queryAnswer settings context actor policyPack checked rows metadata) := by
  unfold queryAnswer
  refine Tracks.ite (fun _ ↦ tracks_denyWith hinprocess _ _ _ _ _ _ _) fun _ ↦ ?_
  refine (tracks_inProcess hinprocess (by simp [GatewayOp.kind])).bind fun buildId ↦ ?_
  refine (tracks_inProcess hinprocess (by simp [GatewayOp.kind])).bind fun queryId ↦ ?_
  split
  · exact tracks_denyWith hinprocess _ _ _ _ _ _ _
  · exact tracks_allowed hinprocess _ _ _ _ _ _

theorem tracks_queryAdmitted (hinprocess : InProcess history) (platform : Platform)
    (settings : Settings) (payload actor : Fields) (policyPack : Option PolicyPack)
    (hstray : (actorTypeOf actor = "ai" →
        SemanticCleared platform context.workspaceId payload actor history) →
      (abacOf payload actor).allow = true →
      ∀ exception, constraintsOf payload = .error exception → stray) :
    Tracks history context.policyDecisionId (Allowed context.policyDecisionId) stray
      (queryAdmitted platform settings context payload actor policyPack) := by
  unfold queryAdmitted queryChecks
  refine Tracks.bind ?_ fun checked ↦
    (tracks_inProcess hinprocess (by simp [GatewayOp.kind])).bind fun cached ↦
      (tracks_queryRows hinprocess platform settings actor checked cached).bind fun answer ↦
        tracks_queryAnswer hinprocess settings actor policyPack checked answer.1 answer.2
  refine (tracks_queryTarget hinprocess platform payload actor).bind_run
    fun target first hsubset hrun ↦ ?_
  exact tracks_limitedQuery hinprocess settings payload actor policyPack target
    (hstray fun hai ↦ ((queryTarget_run hrun).mp ⟨target, rfl⟩ hai).mono
      fun _ hevent _ ↦ hsubset hevent)

theorem tracks_retrieveChecks (hinprocess : InProcess history) (payload actor : Fields) :
    Tracks history context.policyDecisionId Unsettled stray
      (retrieveChecks context payload actor) := by
  unfold retrieveChecks
  refine Tracks.ite (fun _ ↦ tracks_deny hinprocess _ _ _ _) fun _ ↦ ?_
  refine (tracks_crossWorkspaceDatasetIds _ _).bind fun crossWorkspace ↦ ?_
  exact Tracks.ite (fun _ ↦ tracks_deny hinprocess _ _ _ _) fun _ ↦
    Tracks.ite (fun _ ↦ tracks_denyWith hinprocess _ _ _ _ _ _ _) fun _ ↦ tracks_pure _

theorem searchOpensearchDocuments_error {queryText workspaceId : String}
    {allowedDatasetIds : List String} {events : List GatewayEvent} {exception : Exn}
    (h : Run (searchOpensearchDocuments queryText workspaceId allowedDatasetIds) events
      (.error exception)) :
    ∃ payload, lastCall events = some ⟨.searchOpensearch payload, .error exception⟩ := by
  unfold searchOpensearchDocuments at h
  split_ifs at h
  · exact absurd ((run_pure_iff _ _ _).mp h).2 (by simp)
  rcases (run_perform_bind_iff _ _ _ _).mp h with ⟨_, rfl, heq⟩ | ⟨_, _, -, hpure⟩
  · cases heq
    exact ⟨_, lastCall_snoc [] (by simp [GatewayOp.kind])⟩
  · exact absurd ((run_pure_iff _ _ _).mp hpure).2 (by simp)

theorem searchQdrantDocuments_error {queryText workspaceId : String}
    {allowedDatasetIds : List String} {events : List GatewayEvent} {exception : Exn}
    (h : Run (do
      let queryVector ← ask (.embed queryText)
      searchQdrantDocuments queryVector workspaceId allowedDatasetIds) events
      (.error exception)) :
    lastCall events = some ⟨.embed queryText, .error exception⟩ ∨
      ∃ payload, lastCall events = some ⟨.searchQdrant payload, .error exception⟩ := by
  rcases (run_perform_bind_iff _ _ _ _).mp h with ⟨_, rfl, heq⟩ | ⟨queryVector, rest, rfl, hsearch⟩
  · cases heq
    exact Or.inl (lastCall_snoc [] (by simp [GatewayOp.kind]))
  unfold searchQdrantDocuments at hsearch
  split_ifs at hsearch
  · exact absurd ((run_pure_iff _ _ _).mp hsearch).2 (by simp)
  rcases (run_perform_bind_iff _ _ _ _).mp hsearch with ⟨_, rfl, heq⟩ | ⟨_, _, -, hpure⟩
  · cases heq
    exact Or.inr ⟨_, lastCall_snoc [_] (by simp [GatewayOp.kind])⟩
  · exact absurd ((run_pure_iff _ _ _).mp hpure).2 (by simp)

theorem tracks_searchBackend (hinprocess : InProcess history) (platform : Platform)
    (settings : Settings) (payload actor : Fields) :
    Tracks history context.policyDecisionId Unsettled stray
      (searchBackend platform settings context payload actor) := by
  have hdeny : ∀ (reason : String) (resources details : Fields),
      Tracks history context.policyDecisionId Unsettled stray
        (deny context (actorIdOf actor) reason resources details : Handler (List Fields)) :=
    fun _ _ _ ↦ tracks_deny hinprocess _ _ _ _
  unfold searchBackend
  refine Tracks.ite (fun _ ↦ ?_) fun _ ↦ Tracks.ite (fun _ ↦ Tracks.ite (fun _ ↦ hdeny _ _ _)
    fun _ ↦ ?_) fun _ ↦ Tracks.ite (fun _ ↦ Tracks.ite (fun _ ↦ hdeny _ _ _) fun _ ↦ ?_)
      fun _ ↦ hdeny _ _ _
  · exact (tracks_escaping (.retrievalCorpus context.workspaceId) (by simp [GatewayOp.kind])
      (by simp [GatewayOp.kind]) fun _ ↦ trivial).bind fun corpus ↦ tracks_pure _
  · refine Tracks.tryExcept (calling_searchOpensearchDocuments _ _ _) (by decide)
      fun events exception hrun ↦ ?_
    obtain ⟨payload, hlast⟩ := searchOpensearchDocuments_error hrun
    cases exception with
    | openSearchUnavailable error => exact Or.inl (hdeny _ _ _)
    | _ => exact Or.inr ⟨_, _, rfl, hlast, fun message ↦ by simp⟩
  · have hcalling : Calling [.retrieval] (do
        let queryVector ← ask (.embed (retrieveTextOf payload))
        searchQdrantDocuments queryVector context.workspaceId (allowedDatasetIdsOf actor)) :=
      Only.bind (by simp [GatewayOp.kind]) fun queryVector ↦
        calling_searchQdrantDocuments _ _ _
    refine Tracks.tryExcept hcalling (by decide) fun events exception hrun ↦ ?_
    cases exception with
    | disabledIntegration error => exact Or.inl (hdeny _ _ _)
    | qdrantUnavailable error => exact Or.inl (hdeny _ _ _)
    | _ =>
      rcases searchQdrantDocuments_error hrun with hlast | ⟨payload, hlast⟩
      · exact Or.inr ⟨_, _, rfl, hlast, fun message ↦ by simp⟩
      · exact Or.inr ⟨_, _, rfl, hlast, fun message ↦ by simp⟩

theorem tracks_retrieveAnswer (hinprocess : InProcess history) (platform : Platform)
    (settings : Settings) (payload actor : Fields) (policyPack : Option PolicyPack)
    (abac : AbacDecision) (found : List Fields) :
    Tracks history context.policyDecisionId (Allowed context.policyDecisionId) stray
      (retrieveAnswer platform settings context payload actor policyPack abac found) := by
  unfold retrieveAnswer loadDatasetSensitivitySummaries
  refine Tracks.bind ?_ fun summaries ↦ ?_
  · exact Tracks.ite (fun _ ↦ tracks_pure _) fun _ ↦
      (tracks_escaping (.datasetSummaries _ _) (by simp [GatewayOp.kind])
        (by simp [GatewayOp.kind]) fun _ ↦ trivial).bind fun rows ↦ tracks_pure _
  refine Tracks.ite (fun _ ↦ tracks_denyWith hinprocess _ _ _ _ _ _ _) fun _ ↦ ?_
  refine (tracks_inProcess hinprocess (by simp [GatewayOp.kind])).bind fun queryId ↦ ?_
  refine (tracks_inProcess hinprocess (by simp [GatewayOp.kind])).bind fun buildId ↦ ?_
  split
  · exact tracks_deny hinprocess _ _ _ _
  · exact tracks_allowed hinprocess _ _ _ _ _ _

theorem tracks_retrieveAdmitted (hinprocess : InProcess history) (platform : Platform)
    (settings : Settings) (payload actor : Fields) (policyPack : Option PolicyPack) :
    Tracks history context.policyDecisionId (Allowed context.policyDecisionId) stray
      (retrieveAdmitted platform settings context payload actor policyPack) := by
  unfold retrieveAdmitted retrieveResults
  exact (tracks_retrieveChecks hinprocess payload actor).bind fun abac ↦
    (Tracks.tryFinally hinprocess
      (tracks_searchBackend hinprocess platform settings payload actor)).bind fun found ↦
        tracks_retrieveAnswer hinprocess platform settings payload actor policyPack abac found

end Parts

theorem drawnDecisionId_append_cons {first : List GatewayEvent}
    (hfirst : ∀ event ∈ first, event.op.kind ≠ .identifier) (decisionId : String)
    (rest : List GatewayEvent) :
    drawnDecisionId (first ++ ⟨.newUlid, .ok decisionId⟩ :: rest) = some decisionId := by
  have hnone : drawnDecisionId first = none := by
    refine List.findSome?_eq_none_iff.mpr fun event hevent ↦ ?_
    obtain ⟨op, answer⟩ := event
    cases op with
    | newUlid => exact absurd rfl (hfirst _ hevent)
    | _ => rfl
  rw [drawnDecisionId] at hnone ⊢
  rw [List.findSome?_append, hnone]
  rfl

theorem guarded_outcome {α : Type} {endpoint : String} {access : Fields → AccessDecision}
    {request : Request} {body : DecisionContext → Fields → Option PolicyPack → Handler α}
    {stray : Prop} {events : List GatewayEvent} {result : Except Exn α}
    (hinprocess : InProcess events)
    (hbody : ∀ context actor policyPack reason,
      context.workspaceId = workspaceIdOf request.payload →
      ⟨.authenticatedActor, .ok (some actor)⟩ ∈ events →
      ⟨.tryAcquire (actorIdOf actor), .ok ⟨true, reason⟩⟩ ∈ events →
      Tracks events context.policyDecisionId (Allowed context.policyDecisionId) stray
        (body context actor policyPack))
    (h : Run (guarded endpoint access request body) events result) :
    ∃ decisionId, (attempts events ≠ [] → drawnDecisionId events = some decisionId) ∧
      Outcome decisionId (Allowed decisionId) stray events result := by
  unfold guarded at h
  rcases (run_bind_iff _ _ _ _).mp h with ⟨exception, hload, rfl⟩ |
    ⟨first, rest, policyPack, rfl, hload, hloaded⟩
  · have hnone := (calling_loadEffectivePolicyPack _).attempts_eq_nil (by decide) hload
    exact ⟨"", fun hattempts ↦ absurd hnone hattempts,
      (tracks_loadEffectivePolicyPack _ _ _ (List.Subset.refl _) hload).raised⟩
  have hkinds := ((calling_loadEffectivePolicyPack _).after hload).1
  have hnone := (calling_loadEffectivePolicyPack _).attempts_eq_nil (by decide) hload
  rcases (run_perform_bind_iff _ _ _ _).mp hloaded with ⟨exception, rfl, rfl⟩ |
    ⟨authenticated, rest, rfl, hauthenticated⟩
  · have hattempts : attempts (first ++ [⟨.authenticatedActor, .error exception⟩]) = [] := by
      rw [attempts_append, hnone]
      rfl
    exact ⟨"", fun hne ↦ absurd hattempts hne, .escaped exception _ hattempts
      (lastCall_snoc first (by simp [GatewayOp.kind])) trivial⟩
  rcases (run_perform_bind_iff _ _ _ _).mp hauthenticated with ⟨exception, rfl, -⟩ |
    ⟨decisionId, rest, rfl, hdecided⟩
  · obtain ⟨_, hfalse⟩ := hinprocess ⟨.newUlid, .error exception⟩ (by simp)
      (by simp [GatewayOp.kind])
    cases hfalse
  refine ⟨decisionId, fun _ ↦ ?_, ?_⟩
  · have hbefore : ∀ event ∈ first ++ [(⟨.authenticatedActor, .ok authenticated⟩ : GatewayEvent)],
        event.op.kind ≠ .identifier := by
      intro event hevent hkind
      rcases List.mem_append.mp hevent with hmem | hmem
      · have hpolicy := hkinds event hmem
        rw [hkind] at hpolicy
        exact absurd hpolicy (by decide)
      · rw [List.mem_singleton.mp hmem] at hkind
        cases hkind
    have hdrawn := drawnDecisionId_append_cons hbefore decisionId rest
    rwa [List.append_assoc] at hdrawn
  have hrest : Outcome decisionId (Allowed decisionId) stray rest result := by
    have hsubset : rest ⊆ first ++ ⟨.authenticatedActor, .ok authenticated⟩ ::
        ⟨.newUlid, .ok decisionId⟩ :: rest := fun event hevent ↦ by simp [hevent]
    cases authenticated with
    | none => exact tracks_deny hinprocess _ _ _ _ _ _ hsubset hdecided
    | some actor =>
      refine Tracks.ite (fun _ ↦ tracks_deny hinprocess _ _ _ _) (fun _ ↦ ?_) _ _ hsubset hdecided
      refine (tracks_inProcess hinprocess (by simp [GatewayOp.kind])).bind_run
        fun decision acquired hacquired hrun ↦ ?_
      refine Tracks.ite (fun _ ↦ tracks_deny hinprocess _ _ _ _) fun hallowed ↦ ?_
      have hevents : acquired = [⟨.tryAcquire (actorIdOf actor), .ok decision⟩] :=
        (run_perform_iff _ _ _).mp hrun
      subst hevents
      obtain ⟨allowed, reason⟩ := decision
      have hgranted : allowed = true := by simpa using hallowed
      subst hgranted
      exact hbody _ actor policyPack reason rfl (by simp) (hacquired (List.mem_singleton_self _))
  have hprefix : attempts (first ++ [⟨.authenticatedActor, .ok authenticated⟩,
      ⟨.newUlid, .ok decisionId⟩]) = [] := by
    rw [attempts_append, hnone]
    rfl
  have hwhole := hrest.prepend hprefix
  rwa [List.append_assoc] at hwhole

/-- The condition on the limits, seen from the body of a query. -/
theorem query_outcome {platform : Platform} {settings : Settings} {request : Request}
    {events : List GatewayEvent} {result : Except Exn QueryResponse}
    (hinprocess : InProcess events) (h : Run (query platform settings request) events result) :
    ∃ decisionId, (attempts events ≠ [] → drawnDecisionId events = some decisionId) ∧
      Outcome decisionId (Allowed decisionId) (Unlimited platform request events) events
        result := by
  refine guarded_outcome hinprocess (fun context actor policyPack reason hworkspace hactor hgranted ↦
    tracks_queryAdmitted hinprocess platform settings request.payload actor policyPack ?_) h
  intro hcleared hallow exception hlimits
  rw [hworkspace] at hcleared
  exact ⟨actor, reason, hactor, hgranted, hcleared, hallow, exception, hlimits⟩

theorem retrieve_outcome {platform : Platform} {settings : Settings} {request : Request}
    {events : List GatewayEvent} {result : Except Exn RetrieveResponse}
    (hinprocess : InProcess events) (h : Run (retrieve platform settings request) events result) :
    ∃ decisionId, (attempts events ≠ [] → drawnDecisionId events = some decisionId) ∧
      Outcome decisionId (Allowed decisionId) False events result :=
  guarded_outcome hinprocess (fun _ actor policyPack _ _ _ _ ↦
    tracks_retrieveAdmitted hinprocess platform settings request.payload actor policyPack) h

/-- The checks of a query with limits that are no numbers, when it is cleared for ABAC, raise without
a record. -/
theorem queryChecks_unlimited {platform : Platform} {settings : Settings}
    {context : DecisionContext} {payload actor : Fields} {policyPack : Option PolicyPack}
    {events : List GatewayEvent} {result : Except Exn CheckedQuery} {exception : Exn}
    (hinprocess : InProcess events)
    (hcleared : actorTypeOf actor = "ai" →
      SemanticCleared platform context.workspaceId payload actor events)
    (hallow : (abacOf payload actor).allow = true)
    (hlimits : constraintsOf payload = .error exception)
    (h : Run (queryChecks platform settings context payload actor policyPack) events result) :
    result = .error exception ∧ attempts events = [] := by
  unfold queryChecks at h
  rcases (run_bind_iff _ _ _ _).mp h with ⟨raised, htarget, rfl⟩ |
    ⟨first, second, target, rfl, htarget, hlimited⟩
  · obtain ⟨_, hfalse⟩ := (queryTarget_run htarget).mpr hcleared
    cases hfalse
  have htracks : Tracks first context.policyDecisionId Unsettled False
      (queryTarget platform context payload actor) :=
    tracks_queryTarget (hinprocess.of_subset (List.subset_append_left _ _)) platform payload actor
  have hnone := (htracks _ _ (List.Subset.refl _) htarget).attempts_of_returned
  unfold limitedQuery at hlimited
  simp only [hallow] at hlimited
  rcases (run_ofExcept_bind_iff _ _ _ _).mp hlimited with ⟨raised, hraised, rfl, rfl⟩ |
    ⟨limits, hfalse, -⟩
  · rw [hlimits] at hraised
    cases hraised
    exact ⟨rfl, by rw [List.append_nil]; exact hnone⟩
  · rw [hlimits] at hfalse
    cases hfalse

/-- A query whose limits are no numbers records nothing. -/
theorem Unlimited.attempts_eq_nil {platform : Platform} {settings : Settings} {request : Request}
    {events : List GatewayEvent} {result : Except Exn QueryResponse}
    (hunlimited : Unlimited platform request events) (hinprocess : InProcess events)
    (h : Run (query platform settings request) events result) : attempts events = [] := by
  obtain ⟨actor, reason, hactor, hgranted, hcleared, hallow, exception, hlimits⟩ := hunlimited
  rcases guarded_after h with hungranted | ⟨context, other, policyPack, reason', before, after,
    hworkspace, rfl, hway, hbody⟩
  · rcases hungranted _ hgranted with hkind | ⟨caller, answer, heq, hdenied⟩
    · simp [GatewayOp.kind] at hkind
    · cases heq
      exact absurd (hdenied _ rfl) (by simp)
  have hkinds := ((calling_queryAdmitted _ _ _ _ _ _).after hbody).1
  have hsame : actor = other := hway.actor_unique (fun event hevent hkind ↦ by
    have hbodyKind := hkinds event hevent
    rw [hkind] at hbodyKind
    exact absurd hbodyKind (by decide)) hactor
  subst hsame
  have hdown : ∀ event ∈
      before ++ (⟨.tryAcquire (actorIdOf actor), .ok ⟨true, reason'⟩⟩ : GatewayEvent) :: after,
      event.op.decides = true → event ∈ after := by
    intro event hevent hdecides
    rcases List.mem_append.mp hevent with hevent | hevent
    · rw [hway.not_decides event hevent] at hdecides
      exact absurd hdecides Bool.false_ne_true
    · rcases List.mem_cons.mp hevent with rfl | hevent
      · exact absurd hdecides Bool.false_ne_true
      · exact hevent
  have hafter : attempts after = [] := by
    have hunder : InProcess after := hinprocess.of_subset fun event hevent ↦ by simp [hevent]
    have hclearedAfter : actorTypeOf actor = "ai" →
        SemanticCleared platform context.workspaceId request.payload actor after := by
      rw [hworkspace]
      exact fun hai ↦ (hcleared hai).mono hdown
    rcases (run_bind_iff _ _ _ _).mp hbody with ⟨raised, hchecks, -⟩ |
      ⟨first, second, checked, rfl, hchecks, -⟩
    · exact (queryChecks_unlimited hunder hclearedAfter hallow hlimits hchecks).2
    · have hcleared : QueryCleared platform context.workspaceId request.payload actor first :=
        queryChecks_run hchecks |>.mp ⟨checked, rfl⟩
      obtain ⟨limits, hfalse⟩ := hcleared.2.2.1
      rw [hlimits] at hfalse
      cases hfalse
  have hbefore : attempts before = [] := by
    refine Gateway.attempts_eq_nil fun event hevent hkind ↦ ?_
    rcases hway.2 event hevent with hop | hop | rfl
    · simp [hop, GatewayOp.kind] at hkind
    · simp [hop, GatewayOp.kind] at hkind
    · simp [GatewayOp.kind] at hkind
  rw [attempts_append, hbefore, List.nil_append]
  exact hafter

theorem Outcome.accounted {α : Type} {decisionId : String} {stray : Prop}
    {events : List GatewayEvent} {result : Except Exn α}
    (h : Outcome decisionId (Allowed decisionId) stray events result)
    (hdrawn : attempts events ≠ [] → drawnDecisionId events = some decisionId) :
    Accounted events result ∨ attempts events = [] ∧
      ((∃ event, lastCall events = some event ∧ Escapes event) ∨ stray) := by
  cases h with
  | returned value hsettled =>
    obtain ⟨record, hattempts, hid, hresult⟩ := hsettled
    refine Or.inl (Or.inl ⟨record, hattempts, ?_, fun _ _ ↦ hresult⟩)
    rw [hid]
    exact hdrawn (by simp [hattempts])
  | recorded exception record hid hattempts hlast =>
    refine Or.inl (Or.inl ⟨record, hattempts, ?_, fun _ hfalse ↦ by cases hfalse⟩)
    rw [hid]
    exact hdrawn (by simp [hattempts])
  | denied message details record failure hattempts hlast =>
    exact Or.inl (Or.inr ⟨record, failure, message, details, hattempts, rfl⟩)
  | escaped exception event hnone hlast hescapes =>
    exact Or.inr ⟨hnone, Or.inl ⟨event, hlast, hescapes⟩⟩
  | strayed exception hnone hstray => exact Or.inr ⟨hnone, Or.inr hstray⟩

/-- Nothing was recorded when a request ended in a call whose exceptions escape. -/
theorem Outcome.attempts_eq_nil_of_escapes {α : Type} {decisionId : String} {stray : Prop}
    {settled : List (AccessRecord × Except Exn Unit) → Prop} {events : List GatewayEvent}
    {exception : Exn} {event : GatewayEvent}
    (h : Outcome decisionId settled stray events (.error exception : Except Exn α))
    (hlast : lastCall events = some event) (hescapes : Escapes event) : attempts events = [] := by
  cases h with
  | recorded _ record hid hattempts hrecorded =>
    rw [hrecorded] at hlast
    cases hlast
    exact hescapes.elim
  | denied message details record failure hattempts hrecorded =>
    rw [hrecorded] at hlast
    cases hlast
    exact hescapes.elim
  | escaped _ _ hnone _ _ => exact hnone
  | strayed _ hnone _ => exact hnone

theorem Answered.lastCall_eq {decisionId responseId : String} {provenance : Fields}
    {events : List GatewayEvent} (h : Answered decisionId responseId provenance events) :
    lastCall events = some ⟨.newUlid, .ok responseId⟩ := by
  obtain ⟨first, record, rfl, -⟩ := h
  exact lastCall_append_of_some first rfl

theorem Accounted.attempts_ne_nil {α : Type} {events : List GatewayEvent} {result : Except Exn α}
    (h : Accounted events result) : attempts events ≠ [] := by
  rcases h with ⟨record, hattempts, -⟩ | ⟨record, failure, _, _, hattempts, -⟩
  · simp [hattempts]
  · simp [hattempts]

theorem Accounted.of_map {α β : Type} {events : List GatewayEvent} {result : Except Exn α}
    {convert : α → β} (h : Accounted events result) : Accounted events (result.map convert) := by
  rcases h with ⟨record, hattempts, hdrawn, hallow⟩ | ⟨record, failure, message, details, hattempts,
    rfl⟩
  · refine Or.inl ⟨record, hattempts, hdrawn, fun response hresponse ↦ ?_⟩
    cases result with
    | ok value => exact hallow value rfl
    | error exception => cases hresponse
  · exact Or.inr ⟨record, failure, message, details, hattempts, rfl⟩

theorem inProcess_history {α : Type} {answers : (op : GatewayOp) → Except Exn op.Answer}
    (hanswers : ∀ op : GatewayOp, op.kind ∈ [OpKind.identifier, .limiter, .cache, .clock] →
      ∃ value, answers op = .ok value) (p : Handler α) : InProcess (history answers p) := by
  intro event hevent hkind
  rw [answer_of_mem_history hevent]
  exact hanswers event.op hkind

theorem inProcess_analystAnswers {α : Type} (p : Handler α) :
    InProcess (history analystAnswers p) := by
  refine inProcess_history (fun op hkind ↦ ?_) p
  cases op with
  | newUlid => exact ⟨_, rfl⟩
  | tryAcquire _ => exact ⟨_, rfl⟩
  | release _ => exact ⟨_, rfl⟩
  | cacheGet _ => exact ⟨_, rfl⟩
  | cacheSet _ _ => exact ⟨_, rfl⟩
  | elapsedExceeds _ => exact ⟨_, rfl⟩
  | _ => exact absurd hkind (by simp [GatewayOp.kind])

/-- The analyst's query for at most `abc` rows. -/
def unlimitedRequest : GatewayRequest :=
  .query ⟨[("workspace_id", .str "ws"),
    ("constraints", .obj [("max_rows", .str "abc")])], "r1"⟩

end SchemaPilot.Gateway
