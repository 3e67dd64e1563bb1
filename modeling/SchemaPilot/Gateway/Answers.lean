import SchemaPilot.Gateway.SlotAccounting

/-!
# What a response rests on

A request that returns has been granted a slot (`guarded_ok`), and its history ends in the same three
calls at both endpoints: an id for the audit event, the record of the allowed request under that id,
and one more id, which the response carries (`Answered`, `serve_answered`).
-/

namespace SchemaPilot.Gateway

open Library Library.Program Library.Json SharedDomain

def GatewayResponse.provenance : GatewayResponse → Fields
  | .query response => response.provenance
  | .retrieve response => response.provenance

/-- The `audit_event_id` of a response. -/
def GatewayResponse.auditEventId : GatewayResponse → String
  | .query response => response.auditEventId
  | .retrieve response => response.auditEventId

/-- The history ends in the record of an allowed request and the id of its response, which names the
decision. -/
def Answered (decisionId responseId : String) (provenance : Fields)
    (events : List GatewayEvent) : Prop :=
  ∃ first record,
    events = first ++ [⟨.newUlid, .ok record.auditEventId⟩, ⟨.commitAccessDecision record, .ok ()⟩,
      ⟨.newUlid, .ok responseId⟩] ∧
    record.policyDecisionId = decisionId ∧ record.result = "allow" ∧
    get? provenance "policy_decision_id" = some (.str decisionId) ∧
    get? provenance "snapshots" = some (.arr [])

theorem Answered.prepend {decisionId responseId : String} {provenance : Fields}
    {events : List GatewayEvent} (h : Answered decisionId responseId provenance events)
    (before : List GatewayEvent) :
    Answered decisionId responseId provenance (before ++ events) := by
  obtain ⟨first, record, rfl, hrecord⟩ := h
  exact ⟨before ++ first, record, by simp, hrecord⟩

theorem recordAccessDecision_ok {context : DecisionContext} {actorId result reason : String}
    {resources filters masks : Fields} {events : List GatewayEvent}
    (h : Run (recordAccessDecision context actorId result reason resources filters masks) events
      (.ok ())) :
    ∃ auditEventId record,
      events = [⟨.newUlid, .ok auditEventId⟩, ⟨.commitAccessDecision record, .ok ()⟩] ∧
      record.auditEventId = auditEventId ∧ record.policyDecisionId = context.policyDecisionId ∧
      record.result = result := by
  unfold recordAccessDecision at h
  obtain ⟨auditEventId, rest, rfl, hcommit⟩ := h.perform_ok
  rcases (run_tryExcept_iff _ _ _ _).mp hcommit with ⟨_, hrun, -⟩ |
    ⟨_, _, exception, -, -, hhandler⟩
  · have hrest := (run_perform_iff _ _ _).mp hrun
    subst hrest
    exact ⟨auditEventId, _, rfl, rfl, rfl, rfl⟩
  · cases exception with
    | auditSink _ => exact absurd hhandler Run.not_raise
    | _ => exact absurd hhandler Run.not_raise

theorem recorded_answer {α : Type} {context : DecisionContext} {actorId reason : String}
    {resources filters masks provenance : Fields} {value : String → α}
    {events : List GatewayEvent} {answer : α}
    (h : Run (do
      recordAccessDecision context actorId "allow" reason resources filters masks
      let auditEventId ← ask .newUlid
      pure (value auditEventId)) events (.ok answer))
    (hid : get? provenance "policy_decision_id" = some (.str context.policyDecisionId))
    (hsnapshots : get? provenance "snapshots" = some (.arr [])) :
    ∃ responseId, answer = value responseId ∧
      Answered context.policyDecisionId responseId provenance events := by
  obtain ⟨first, second, _, rfl, hrecord, hresponse⟩ := h.bind_ok
  obtain ⟨responseId, rest, rfl, hpure⟩ := hresponse.perform_ok
  obtain ⟨rfl, hanswer⟩ := (run_pure_iff _ _ _).mp hpure
  obtain ⟨_, record, rfl, rfl, hdecision, hresult⟩ := recordAccessDecision_ok hrecord
  exact ⟨responseId, Except.ok.inj hanswer, [], record, rfl, hdecision, hresult, hid, hsnapshots⟩

theorem queryAnswer_answered {settings : Settings} {context : DecisionContext} {actor : Fields}
    {policyPack : Option PolicyPack} {checked : CheckedQuery} {rows : Rows} {metadata : Fields}
    {events : List GatewayEvent} {response : QueryResponse}
    (h : Run (queryAnswer settings context actor policyPack checked rows metadata) events
      (.ok response)) :
    Answered context.policyDecisionId response.auditEventId response.provenance events := by
  obtain ⟨buildId, queryId, rest, provenance, resources, rfl, hprovenance, hrecorded⟩ :=
    queryAnswer_built h
  obtain ⟨hid, -, hsnapshots, -, -⟩ := buildProvenanceV1_ok hprovenance
  obtain ⟨responseId, rfl, hanswered⟩ := recorded_answer hrecorded hid hsnapshots
  exact hanswered.prepend [⟨.newUlid, .ok buildId⟩, ⟨.newUlid, .ok queryId⟩]

theorem queryAnswer_buildId {settings : Settings} {context : DecisionContext} {actor : Fields}
    {policyPack : Option PolicyPack} {checked : CheckedQuery} {rows : Rows} {metadata : Fields}
    {events : List GatewayEvent} {response : QueryResponse}
    (h : Run (queryAnswer settings context actor policyPack checked rows metadata) events
      (.ok response)) :
    ∃ buildId, ⟨.newUlid, .ok buildId⟩ ∈ events ∧
      get? response.provenance "build_id" = some (.str buildId) := by
  obtain ⟨buildId, queryId, rest, provenance, resources, rfl, hprovenance, hrecorded⟩ :=
    queryAnswer_built h
  obtain ⟨hid, hbuild, hsnapshots, -, -⟩ := buildProvenanceV1_ok hprovenance
  obtain ⟨responseId, rfl, -⟩ := recorded_answer hrecorded hid hsnapshots
  exact ⟨buildId, List.mem_cons_self, hbuild⟩

theorem retrieveAnswer_answered {platform : Platform} {settings : Settings}
    {context : DecisionContext} {payload actor : Fields} {policyPack : Option PolicyPack}
    {abac : AbacDecision} {found : List Fields} {events : List GatewayEvent}
    {response : RetrieveResponse}
    (h : Run (retrieveAnswer platform settings context payload actor policyPack abac found) events
      (.ok response)) :
    Answered context.policyDecisionId response.auditEventId response.provenance events := by
  unfold retrieveAnswer at h
  obtain ⟨first, second, summaries, rfl, -, hfiltered⟩ := h.bind_ok
  refine Answered.prepend ?_ first
  simp only at hfiltered
  split_ifs at hfiltered
  · obtain ⟨_, hfalse⟩ := denyWith_run hfiltered
    cases hfalse
  obtain ⟨queryId, rest, rfl, hquery⟩ := hfiltered.perform_ok
  obtain ⟨buildId, rest, rfl, hbuild⟩ := hquery.perform_ok
  split at hbuild
  · obtain ⟨_, hfalse⟩ := deny_run hbuild
    cases hfalse
  · next provenance hprovenance =>
    obtain ⟨hid, -, hsnapshots, -, -⟩ := buildProvenanceV1_ok hprovenance
    obtain ⟨responseId, rfl, hanswered⟩ := recorded_answer hbuild hid hsnapshots
    exact hanswered.prepend [⟨.newUlid, .ok queryId⟩, ⟨.newUlid, .ok buildId⟩]

/-- An endpoint that returns took a slot and returned from its body. -/
theorem guarded_ok {α : Type} {endpoint : String} {access : Fields → AccessDecision}
    {request : Request} {body : DecisionContext → Fields → Option PolicyPack → Handler α}
    {events : List GatewayEvent} {value : α}
    (h : Run (guarded endpoint access request body) events (.ok value)) :
    ∃ context actor policyPack before after, events = before ++ after ∧
      context.workspaceId = workspaceIdOf request.payload ∧ (access actor).result = "allow" ∧
      ⟨.authenticatedActor, .ok (some actor)⟩ ∈ before ∧
      (∀ other, ⟨.authenticatedActor, .ok (some other)⟩ ∈ before → other = actor) ∧
      Run (body context actor policyPack) after (.ok value) := by
  unfold guarded at h
  obtain ⟨first, rest, policyPack, rfl, hload, hloaded⟩ := h.bind_ok
  have hfirst := ((calling_loadEffectivePolicyPack _).after hload).1
  obtain ⟨authenticated, rest, rfl, hauthenticated⟩ := hloaded.perform_ok
  obtain ⟨decisionId, rest, rfl, hdecided⟩ := hauthenticated.perform_ok
  have hdeny : ∀ {context : DecisionContext} {actorId reason : String} {events},
      ¬Run (deny context actorId reason [] [] : Handler α) events (.ok value) := by
    intro context actorId reason events hrun
    obtain ⟨_, hfalse⟩ := deny_run hrun
    cases hfalse
  cases authenticated with
  | none => exact absurd hdecided hdeny
  | some actor =>
    by_cases haccess : (access actor).result ≠ "allow"
    · simp only [if_pos haccess] at hdecided
      exact absurd hdecided hdeny
    simp only [if_neg haccess] at hdecided
    obtain ⟨decision, rest, rfl, hacquired⟩ := hdecided.perform_ok
    by_cases hallowed : decision.allowed = false
    · simp only [if_pos hallowed] at hacquired
      exact absurd hacquired hdeny
    · simp only [if_neg hallowed] at hacquired
      refine ⟨_, actor, policyPack, first ++ [⟨.authenticatedActor, .ok (some actor)⟩,
        ⟨.newUlid, .ok decisionId⟩, ⟨.tryAcquire (actorIdOf actor), .ok decision⟩], rest, by simp,
        rfl, not_not.mp haccess, by simp, fun other hother ↦ ?_, hacquired⟩
      rcases List.mem_append.mp hother with hmem | hmem
      · exact absurd (hfirst _ hmem) (by simp [GatewayOp.kind])
      · simp only [List.mem_cons, List.not_mem_nil, or_false] at hmem
        rcases hmem with heq | heq | heq
        · cases heq
          rfl
        · cases heq
        · cases heq

/-- A query that returns was checked, and ends in its answer. -/
theorem query_ok {platform : Platform} {settings : Settings} {request : Request}
    {events : List GatewayEvent} {response : QueryResponse}
    (h : Run (query platform settings request) events (.ok response)) :
    ∃ context actor policyPack checked rows metadata before after, events = before ++ after ∧
      Run (queryAnswer settings context actor policyPack checked rows metadata) after
        (.ok response) := by
  obtain ⟨context, actor, policyPack, before, after, rfl, -, -, -, -, hbody⟩ := guarded_ok h
  unfold queryAdmitted at hbody
  obtain ⟨first, rest, checked, rfl, -, hchecked⟩ := hbody.bind_ok
  obtain ⟨second, rest, cached, rfl, -, hfound⟩ := hchecked.bind_ok
  obtain ⟨third, rest, ⟨rows, metadata⟩, rfl, -, hanswer⟩ := hfound.bind_ok
  exact ⟨context, actor, policyPack, checked, rows, metadata, before ++ first ++ second ++ third,
    rest, by simp, hanswer⟩

theorem query_answered {platform : Platform} {settings : Settings} {request : Request}
    {events : List GatewayEvent} {response : QueryResponse}
    (h : Run (query platform settings request) events (.ok response)) :
    ∃ decisionId, Answered decisionId response.auditEventId response.provenance events := by
  obtain ⟨context, actor, policyPack, checked, rows, metadata, before, after, rfl, hanswer⟩ :=
    query_ok h
  exact ⟨_, (queryAnswer_answered hanswer).prepend before⟩

/-- A retrieval that returns was checked, found its rows and ends in its answer. -/
theorem retrieve_ok {platform : Platform} {settings : Settings} {request : Request}
    {events : List GatewayEvent} {response : RetrieveResponse}
    (h : Run (retrieve platform settings request) events (.ok response)) :
    ∃ context actor policyPack abac found before checks search after,
      events = before ++ checks ++ search ++ after ∧
      context.workspaceId = workspaceIdOf request.payload ∧
      (∀ other, ⟨.authenticatedActor, .ok (some other)⟩ ∈ events → other = actor) ∧
      Run (retrieveChecks context request.payload actor) checks (.ok abac) ∧
      Run (retrieveResults platform settings context request.payload actor) search (.ok found) ∧
      Run (retrieveAnswer platform settings context request.payload actor policyPack abac found)
        after (.ok response) := by
  obtain ⟨context, actor, policyPack, before, after, rfl, hworkspace, -, -, hactor, hbody⟩ :=
    guarded_ok h
  have hkinds := ((calling_retrieveAdmitted _ _ _ _ _ _).after hbody).1
  have hunique : ∀ other, (⟨.authenticatedActor, .ok (some other)⟩ : GatewayEvent) ∈
      before ++ after → other = actor := by
    intro other hother
    rcases List.mem_append.mp hother with hmem | hmem
    · exact hactor other hmem
    · exact absurd (hkinds _ hmem) (by simp [GatewayOp.kind])
  unfold retrieveAdmitted at hbody
  obtain ⟨checks, rest, abac, rfl, hchecks, hchecked⟩ := hbody.bind_ok
  obtain ⟨search, rest, found, rfl, hsearch, hanswer⟩ := hchecked.bind_ok
  exact ⟨context, actor, policyPack, abac, found, before, checks, search, rest, by simp, hworkspace,
    hunique, hchecks, hsearch, hanswer⟩

theorem retrieve_answered {platform : Platform} {settings : Settings} {request : Request}
    {events : List GatewayEvent} {response : RetrieveResponse}
    (h : Run (retrieve platform settings request) events (.ok response)) :
    ∃ decisionId, Answered decisionId response.auditEventId response.provenance events := by
  obtain ⟨context, actor, policyPack, abac, found, before, checks, search, after, rfl, -, -, -, -,
    hanswer⟩ := retrieve_ok h
  exact ⟨_, (retrieveAnswer_answered hanswer).prepend (before ++ checks ++ search)⟩

/-- A response of either endpoint rests on a record made before it. -/
theorem serve_answered {platform : Platform} {settings : Settings} {request : GatewayRequest}
    {events : List GatewayEvent} {response : GatewayResponse}
    (h : Run (serve platform settings request) events (.ok response)) :
    ∃ decisionId, Answered decisionId response.auditEventId response.provenance events := by
  cases request with
  | query request =>
    obtain ⟨first, second, answer, rfl, hrun, hpure⟩ := h.bind_ok
    obtain ⟨rfl, hresponse⟩ := (run_pure_iff _ _ _).mp hpure
    cases hresponse
    rw [List.append_nil]
    exact query_answered hrun
  | retrieve request =>
    obtain ⟨first, second, answer, rfl, hrun, hpure⟩ := h.bind_ok
    obtain ⟨rfl, hresponse⟩ := (run_pure_iff _ _ _).mp hpure
    cases hresponse
    rw [List.append_nil]
    exact retrieve_answered hrun

end SchemaPilot.Gateway
