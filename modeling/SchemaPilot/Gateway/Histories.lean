import SchemaPilot.Gateway.Checks

/-!
# How the history of a request is cut

The calls of a request fall into parts at the points its handler is cut at. Up to the rate limiter
both endpoints behave alike: a history either was granted no slot, or it is the way in, the grant and
a history of the endpoint's body (`guarded_after`). The body of a query is its checks, the cache
lookup, and what follows the answer of the lookup (`queryAdmitted_after`).
-/

namespace SchemaPilot.Gateway

open Library Library.Program SharedDomain

/-- A call a request makes without a slot. -/
def Ungranted (event : GatewayEvent) : Prop :=
  event.op.kind ∈ [OpKind.policy, .authentication, .identifier, .audit] ∨
    ∃ caller answer, event = ⟨.tryAcquire caller, answer⟩ ∧
      ∀ decision, answer = .ok decision → decision.allowed = false

/-- The calls a request makes before it takes a slot, the actor it authenticated as given. -/
def WayIn (workspaceId : String) (actor : Fields) (before : List GatewayEvent) : Prop :=
  ⟨.authenticatedActor, .ok (some actor)⟩ ∈ before ∧
    ∀ event ∈ before, event.op = .activePolicy workspaceId "policy_pack" ∨ event.op = .newUlid ∨
      event = ⟨.authenticatedActor, .ok (some actor)⟩

theorem WayIn.ungranted {workspaceId : String} {actor : Fields} {before : List GatewayEvent}
    (h : WayIn workspaceId actor before) : ∀ event ∈ before, Ungranted event := by
  intro event hevent
  refine Or.inl ?_
  rcases h.2 event hevent with hop | hop | rfl
  · simp [hop, GatewayOp.kind]
  · simp [hop, GatewayOp.kind]
  · simp [GatewayOp.kind]

/-- The actor a request took its slot for is the one it authenticated as. -/
theorem WayIn.actor_unique {workspaceId reason : String} {actor other : Fields}
    {before after : List GatewayEvent} (h : WayIn workspaceId actor before)
    (hafter : ∀ event ∈ after, event.op.kind ≠ .authentication)
    (hother : ⟨.authenticatedActor, .ok (some other)⟩ ∈
      before ++ ⟨.tryAcquire (actorIdOf actor), .ok ⟨true, reason⟩⟩ :: after) :
    other = actor := by
  rcases List.mem_append.mp hother with hmem | hmem
  · rcases h.2 _ hmem with hop | hop | heq
    · cases hop
    · cases hop
    · cases heq
      rfl
  · rcases List.mem_cons.mp hmem with heq | hmem
    · cases heq
    · exact absurd rfl (hafter _ hmem)

theorem Calling.ungranted {α : Type} {kinds : List OpKind} {p q : Handler α}
    {events : List GatewayEvent} (hp : Calling kinds p)
    (hkinds : kinds ⊆ [OpKind.policy, .authentication, .identifier, .audit])
    (h : After p events q) : ∀ event ∈ events, Ungranted event :=
  fun event hevent ↦ Or.inl (hkinds ((hp.after h).1 event hevent))

theorem calling_loadEffectivePolicyPack (workspaceId : String) :
    Calling [.policy] (loadEffectivePolicyPack workspaceId) := by
  refine Only.mono ?_ (only_loadEffectivePolicyPack workspaceId)
  intro op hop
  simp [hop, GatewayOp.kind]

/-- A history of an endpoint was granted no slot, or it took the way in, was granted one and is a
history of the endpoint's body from there on. -/
theorem guarded_after {α : Type} {endpoint : String} {access : Fields → AccessDecision}
    {request : Request} {body : DecisionContext → Fields → Option PolicyPack → Handler α}
    {events : List GatewayEvent} {q : Handler α}
    (h : After (guarded endpoint access request body) events q) :
    (∀ event ∈ events, Ungranted event) ∨ ∃ context actor policyPack reason before after,
      context.workspaceId = workspaceIdOf request.payload ∧
      events = before ++ ⟨.tryAcquire (actorIdOf actor), .ok ⟨true, reason⟩⟩ :: after ∧
      WayIn (workspaceIdOf request.payload) actor before ∧
      After (body context actor policyPack) after q := by
  have hpack := only_loadEffectivePolicyPack (workspaceIdOf request.payload)
  have hloading : ∀ {first : List GatewayEvent} {p : Handler (Option PolicyPack)},
      After (loadEffectivePolicyPack (workspaceIdOf request.payload)) first p →
        ∀ event ∈ first, Ungranted event := fun hfirst ↦
    (calling_loadEffectivePolicyPack _).ungranted (by decide) hfirst
  unfold guarded at h
  rcases (after_bind_iff _ _ _ _).mp h with ⟨_, _, hload, -⟩ | ⟨_, hload, -⟩ |
    ⟨first, rest, policyPack, rfl, hload, hloaded⟩
  · exact Or.inl (hloading hload)
  · exact Or.inl (hloading hload)
  have hfirst := hloading hload
  rcases (after_perform_bind_iff _ _ _ _).mp hloaded with ⟨rfl, -⟩ | ⟨_, rfl, -⟩ |
    ⟨authenticated, rest, rfl, hauthenticated⟩
  · exact Or.inl (by simpa using hfirst)
  · refine Or.inl (List.forall_mem_append.mpr ⟨hfirst, List.forall_mem_singleton.mpr (Or.inl ?_)⟩)
    simp [GatewayOp.kind]
  have hauth : Ungranted ⟨.authenticatedActor, .ok authenticated⟩ :=
    Or.inl (by simp [GatewayOp.kind])
  have hulid : ∀ answer, Ungranted ⟨.newUlid, answer⟩ := fun _ ↦ Or.inl (by simp [GatewayOp.kind])
  rcases (after_perform_bind_iff _ _ _ _).mp hauthenticated with ⟨rfl, -⟩ | ⟨_, rfl, -⟩ |
    ⟨policyDecisionId, rest, rfl, hdecided⟩
  · exact Or.inl (List.forall_mem_append.mpr ⟨hfirst, List.forall_mem_singleton.mpr hauth⟩)
  · exact Or.inl (List.forall_mem_append.mpr ⟨hfirst, List.forall_mem_cons.mpr
      ⟨hauth, List.forall_mem_singleton.mpr (hulid _)⟩⟩)
  -- what follows the id of the decision, put behind the calls before it
  have hprepend : ∀ {tail : List GatewayEvent}, (∀ event ∈ tail, Ungranted event) →
      ∀ event ∈ first ++ ⟨.authenticatedActor, .ok authenticated⟩ ::
        ⟨.newUlid, .ok policyDecisionId⟩ :: tail, Ungranted event := fun htail ↦
    List.forall_mem_append.mpr ⟨hfirst, List.forall_mem_cons.mpr
      ⟨hauth, List.forall_mem_cons.mpr ⟨hulid _, htail⟩⟩⟩
  have hdeny : ∀ {actorId reason : String} {context : DecisionContext} {tail : List GatewayEvent},
      After (deny context actorId reason [] [] : Handler α) tail q →
        ∀ event ∈ tail, Ungranted event := fun hrun ↦
    (calling_deny _ _ _ _ _).ungranted (by decide) hrun
  cases authenticated with
  | none => exact Or.inl (hprepend (hdeny hdecided))
  | some actor =>
    by_cases haccess : (access actor).result ≠ "allow"
    · simp only [if_pos haccess] at hdecided
      exact Or.inl (hprepend (hdeny hdecided))
    simp only [if_neg haccess] at hdecided
    rcases (after_perform_bind_iff _ _ _ _).mp hdecided with ⟨rfl, -⟩ | ⟨exception, rfl, -⟩ |
      ⟨decision, after, rfl, hafter⟩
    · exact Or.inl (hprepend fun _ hevent ↦ absurd hevent List.not_mem_nil)
    · refine Or.inl (hprepend (List.forall_mem_singleton.mpr (Or.inr ⟨_, _, rfl, ?_⟩)))
      intro decision hfalse
      cases hfalse
    by_cases hgranted : decision.allowed = false
    · simp only [if_pos hgranted] at hafter
      refine Or.inl (hprepend (List.forall_mem_cons.mpr ⟨Or.inr ⟨_, _, rfl, ?_⟩, hdeny hafter⟩))
      intro other hother
      cases hother
      exact hgranted
    · simp only [if_neg hgranted] at hafter
      obtain ⟨allowed, reason⟩ := decision
      have hallowed : allowed = true := by simpa using hgranted
      subst hallowed
      refine Or.inr ⟨_, actor, policyPack, reason,
        first ++ [⟨.authenticatedActor, .ok (some actor)⟩, ⟨.newUlid, .ok policyDecisionId⟩],
        after, rfl, by simp, ⟨by simp, ?_⟩, hafter⟩
      intro event hevent
      rcases List.mem_append.mp hevent with hevent | hevent
      · exact Or.inl ((hpack.after hload).1 event hevent)
      · simp only [List.mem_cons, List.not_mem_nil, or_false] at hevent
        rcases hevent with rfl | rfl
        · exact Or.inr (Or.inr rfl)
        · exact Or.inr (Or.inl rfl)

/-- A history of a query's body has not got past its checks, or it is a run of the checks, the cache
lookup and a history of what follows. -/
theorem queryAdmitted_after {platform : Platform} {settings : Settings}
    {context : DecisionContext} {payload actor : Fields} {policyPack : Option PolicyPack}
    {events : List GatewayEvent} {q : Handler QueryResponse}
    (h : After (queryAdmitted platform settings context payload actor policyPack) events q) :
    (∀ event ∈ events, event.op.kind ∈
        [OpKind.identifier, .audit, .policy, .catalogue, .pointer]) ∨
    ∃ checked first answer second,
      events = first ++ ⟨.cacheGet checked.cacheKey, answer⟩ :: second ∧
      Run (queryChecks platform settings context payload actor policyPack) first (.ok checked) ∧
      ((∃ exception, answer = .error exception ∧ second = [] ∧ q = done (.error exception)) ∨
        ∃ cached, answer = .ok cached ∧
          After (do
            let (rows, metadata) ← queryRows platform settings context actor checked cached
            queryAnswer settings context actor policyPack checked rows metadata) second q) := by
  have hchecks := calling_queryChecks platform settings context payload actor policyPack
  unfold queryAdmitted at h
  rcases (after_bind_iff _ _ _ _).mp h with ⟨_, _, hfirst, -⟩ | ⟨_, hfirst, -⟩ |
    ⟨first, rest, checked, rfl, hfirst, hrest⟩
  · exact Or.inl (hchecks.after hfirst).1
  · exact Or.inl (hchecks.after hfirst).1
  rcases (after_perform_bind_iff _ _ _ _).mp hrest with ⟨rfl, -⟩ | ⟨exception, rfl, rfl⟩ |
    ⟨cached, second, rfl, hsecond⟩
  · rw [List.append_nil]
    exact Or.inl (hchecks.after hfirst).1
  · exact Or.inr ⟨checked, first, _, [], rfl, hfirst, Or.inl ⟨exception, rfl, rfl, rfl⟩⟩
  · exact Or.inr ⟨checked, first, _, second, rfl, hfirst, Or.inr ⟨cached, rfl, hsecond⟩⟩

/-- The text a call hands to an engine. -/
def GatewayOp.executed? : GatewayOp → Option String
  | runDuckdb _ query => some query
  | runTrino query _ _ => some query
  | _ => none

theorem executed?_eq_none {op : GatewayOp} (h : op.kind ≠ .engine) : op.executed? = none := by
  cases op with
  | runDuckdb views query => exact absurd rfl h
  | runTrino query maxRows timeoutMs => exact absurd rfl h
  | _ => rfl

/-- Nothing is executed or looked up without a slot. -/
theorem Ungranted.executed_none {event : GatewayEvent} (h : Ungranted event) :
    event.op.executed? = none := by
  refine executed?_eq_none fun hkind ↦ ?_
  rcases h with hother | ⟨caller, answer, rfl, -⟩
  · rw [hkind] at hother
    exact absurd hother (by decide)
  · cases hkind

theorem not_ungranted_cacheGet (key : String) (answer : Except Exn (Option Rows)) :
    ¬Ungranted ⟨.cacheGet key, answer⟩ := by
  rintro (hother | ⟨caller, other, heq, -⟩)
  · exact absurd hother (by simp [GatewayOp.kind])
  · cases heq

theorem Calling.executed_none {α : Type} {kinds : List OpKind} {p q : Handler α}
    {events : List GatewayEvent} (hp : Calling kinds p) (hfree : OpKind.engine ∉ kinds)
    (h : After p events q) : ∀ event ∈ events, event.op.executed? = none := by
  intro event hevent
  refine executed?_eq_none fun hkind ↦ hfree ?_
  rw [← hkind]
  exact (hp.after h).1 event hevent

/-- An execution hands the validated text to the engines, and nothing else. -/
theorem only_executeSql (settings : Settings) (sql : String) (maxRows : ℤ)
    (rowFilter : Option (String × String)) (timeoutMs : ℤ) (workspaceId : String) :
    Only (fun op ↦ ∀ text, op.executed? = some text →
      validateReadOnlyQuery (if sql = "" then "select 1 as one" else sql) = .ok text)
      (executeSql settings sql maxRows rowFilter timeoutMs workspaceId) := by
  have hother : ∀ {α : Type} {kinds : List OpKind} {p : Handler α}, Calling kinds p →
      OpKind.engine ∉ kinds → Only (fun op ↦ ∀ text, op.executed? = some text →
        validateReadOnlyQuery (if sql = "" then "select 1 as one" else sql) = .ok text) p := by
    intro α kinds p hp hfree
    refine Only.mono (fun op hop text htext ↦ ?_) hp
    rw [executed?_eq_none fun hkind ↦ hfree (hkind ▸ hop)] at htext
    cases htext
  unfold executeSql
  cases hvalid : validateReadOnlyQuery (if sql = "" then "select 1 as one" else sql) with
  | error exception => exact only_raise _ _
  | ok query =>
    rw [hvalid] at hother
    refine Only.ite (fun _ ↦ only_raise _ _) fun _ ↦ Only.ite (fun _ ↦ ?_) fun _ ↦ ?_
    · unfold executeTrino
      refine Only.bind (Only.tryExcept ?_ fun exception ↦ ?_) fun answer ↦
        Only.bind ?_ fun late ↦ Only.ite (fun _ ↦ only_raise _ _) fun _ ↦
          Only.bind (only_ofExcept _ _) fun rows ↦ only_ret _ _
      · refine (only_perform _ _).mpr fun text htext ↦ ?_
        cases htext
        rfl
      · cases exception <;> exact only_raise _ _
      · refine (only_perform _ _).mpr fun text htext ↦ ?_
        cases htext
    · unfold executeDuckdb
      refine Only.bind (hother (calling_preparePublishedGoldViews _ _) (by decide)) fun views ↦
        Only.bind ?_ fun answer ↦ Only.bind ?_ fun late ↦
          Only.ite (fun _ ↦ only_raise _ _) fun _ ↦
            Only.bind (only_ofExcept _ _) fun rows ↦ only_ret _ _
      · refine (only_perform _ _).mpr fun text htext ↦ ?_
        cases htext
        rfl
      · refine (only_perform _ _).mpr fun text htext ↦ ?_
        cases htext

/-- The text a checked query is executed with, a default standing in for an empty one. -/
def CheckedQuery.executedText (checked : CheckedQuery) : String :=
  if checked.target.queryText = "" then "select 1 as one" else checked.target.queryText

theorem CheckedQuery.executedText_ne (checked : CheckedQuery) : checked.executedText ≠ "" := by
  unfold executedText
  by_cases h : checked.target.queryText = ""
  · rw [if_pos h]
    decide
  · rw [if_neg h]
    exact h

/-- What follows the cache lookup hands an engine the validated text of the query, and nothing at
all when the lookup found rows. -/
theorem queryBody_executed {platform : Platform} {settings : Settings} {context : DecisionContext}
    {actor : Fields} {policyPack : Option PolicyPack} {checked : CheckedQuery}
    {cached : Option Rows} {events : List GatewayEvent} {q : Handler QueryResponse}
    (h : After (do
      let (rows, metadata) ← queryRows platform settings context actor checked cached
      queryAnswer settings context actor policyPack checked rows metadata) events q) :
    ∀ event ∈ events, ∀ text, event.op.executed? = some text →
      cached = none ∧ validateReadOnlyQuery checked.executedText = .ok text := by
  have hother : ∀ {α : Type} {kinds : List OpKind} {p : Handler α}, Calling kinds p →
      OpKind.engine ∉ kinds → Only (fun op ↦ ∀ text, op.executed? = some text →
        cached = none ∧ validateReadOnlyQuery checked.executedText = .ok text) p := by
    intro α kinds p hp hfree
    refine Only.mono (fun op hop text htext ↦ ?_) hp
    rw [executed?_eq_none fun hkind ↦ hfree (hkind ▸ hop)] at htext
    cases htext
  have hrows : Only (fun op ↦ ∀ text, op.executed? = some text →
      cached = none ∧ validateReadOnlyQuery checked.executedText = .ok text)
      (queryRows platform settings context actor checked cached) := by
    unfold queryRows
    cases cached with
    | some rows =>
      have hrelease : Calling [.limiter] (do
          ask (.release (actorIdOf actor))
          pure (rows, []) : Handler (Rows × Fields)) :=
        Only.bind (by simp [GatewayOp.kind]) fun _ ↦ only_ret _ _
      exact hother hrelease (by decide)
    | none =>
      have hdeny : ∀ (message reason : String) (resources filters masks details : Fields),
          Calling [.identifier, .audit] (denyWith context (actorIdOf actor) message reason resources
            filters masks details : Handler QueryResult) :=
        fun _ _ _ _ _ _ ↦ calling_denyWith _ _ _ _ _ _ _ _
      have hexecute : Only (fun op ↦ ∀ text, op.executed? = some text →
          (none : Option Rows) = none ∧ validateReadOnlyQuery checked.executedText = .ok text)
          (executeChecked settings context actor checked) := by
        unfold executeChecked
        refine Only.tryExcept (Only.mono (fun op hop text htext ↦ ?_)
          (only_executeSql _ _ _ _ _ _)) fun exception ↦ ?_
        · have hvalid := hop text htext
          rw [show (if checked.target.queryText = "" then "select 1 as one"
            else checked.target.queryText) = checked.executedText from rfl,
            if_neg checked.executedText_ne] at hvalid
          exact ⟨rfl, hvalid⟩
        · cases exception with
          | unsafeSql error => exact hother (hdeny _ _ _ _ _ _) (by decide)
          | queryTimeout error => exact hother (hdeny _ _ _ _ _ _) (by decide)
          | _ =>
            exact Only.ite (fun _ ↦ hother (hdeny _ _ _ _ _ _) (by decide)) fun _ ↦
              Only.bind (hother (calling_recordAccessDecision _ _ _ _ _ _ _) (by decide))
                fun _ ↦ only_raise _ _
      have hrelease : Calling [.limiter] (ask (.release (actorIdOf actor))) := by
        simp [Calling, GatewayOp.kind]
      have hstore : ∀ rows, Calling [.cache] (ask (.cacheSet checked.cacheKey rows)) := by
        simp [Calling, GatewayOp.kind]
      exact Only.bind (Only.tryFinally hexecute (hother hrelease (by decide))) fun result ↦
        Only.bind (hother (hstore _) (by decide)) fun _ ↦ only_ret _ _
  have hbody := Only.bind hrows fun answer ↦ hother (calling_queryAnswer settings context actor
    policyPack checked answer.1 answer.2) (by decide)
  exact (hbody.after h).1

theorem queryAnswer_built {settings : Settings} {context : DecisionContext} {actor : Fields}
    {policyPack : Option PolicyPack} {checked : CheckedQuery} {rows : Rows} {metadata : Fields}
    {events : List GatewayEvent} {response : QueryResponse}
    (h : Run (queryAnswer settings context actor policyPack checked rows metadata) events
      (.ok response)) :
    ∃ buildId queryId rest provenance resources,
      events = ⟨.newUlid, .ok buildId⟩ :: ⟨.newUlid, .ok queryId⟩ :: rest ∧
      buildProvenanceV1 context.workspaceId context.policyDecisionId checked.target.datasetsUsed
        buildId queryId "allow" (serializeRowFilter checked.abac.rowFilter)
        (masksFields checked.abac.masks) none none policyPack = .ok provenance ∧
      Run (do
        recordAccessDecision context (actorIdOf actor) "allow" "allow" resources
          (serializeRowFilter checked.abac.rowFilter) (masksFields checked.abac.masks)
        let auditEventId ← ask .newUlid
        pure (QueryResponse.mk rows.columns rows.rows provenance auditEventId
          context.correlationId checked.target.binding)) rest (.ok response) := by
  unfold queryAnswer at h
  by_cases hbudget : enforceBudget (estimateQueryCostBytes checked.target.queryText
      rows.rows.length rows.columns.length) settings.queryMaxBytes = false
  · simp only [hbudget, if_true] at h
    obtain ⟨_, hfalse⟩ := denyWith_run h
    cases hfalse
  simp only [hbudget] at h
  obtain ⟨buildId, rest, rfl, hbuild⟩ := h.perform_ok
  obtain ⟨queryId, rest, rfl, hquery⟩ := hbuild.perform_ok
  cases hprovenance : buildProvenanceV1 context.workspaceId context.policyDecisionId
      checked.target.datasetsUsed buildId queryId "allow"
      (serializeRowFilter checked.abac.rowFilter) (masksFields checked.abac.masks) none none
      policyPack with
  | error exception =>
    simp only [hprovenance] at hquery
    obtain ⟨_, hfalse⟩ := denyWith_run hquery
    cases hfalse
  | ok provenance =>
    simp only [hprovenance] at hquery
    exact ⟨buildId, queryId, rest, provenance, _, rfl, hprovenance, hquery⟩

/-- What a provenance says. -/
theorem buildProvenanceV1_ok {workspaceId policyDecisionId buildId queryId decisionReason : String}
    {datasetsUsed : List String} {filters masks provenance : Fields}
    {citations allowedDatasetIds : Option (List String)} {policyPack : Option PolicyPack}
    (h : buildProvenanceV1 workspaceId policyDecisionId datasetsUsed buildId queryId decisionReason
      filters masks citations allowedDatasetIds policyPack = .ok provenance) :
    Json.get? provenance "policy_decision_id" = some (.str policyDecisionId) ∧
      Json.get? provenance "build_id" = some (.str buildId) ∧
      Json.get? provenance "snapshots" = some (.arr []) ∧
      Json.get? provenance "datasets_used" = some (nonEmptyTexts datasetsUsed) ∧
      Json.get? provenance "citations" = citations.map nonEmptyTexts := by
  unfold buildProvenanceV1 at h
  split at h
  · cases h
  · cases h
    refine ⟨rfl, rfl, rfl, rfl, ?_⟩
    cases citations with
    | some texts => rfl
    | none => cases allowedDatasetIds <;> cases policyPack <;> rfl

theorem queryAnswer_ok {settings : Settings} {context : DecisionContext} {actor : Fields}
    {policyPack : Option PolicyPack} {checked : CheckedQuery} {rows : Rows} {metadata : Fields}
    {events : List GatewayEvent} {response : QueryResponse}
    (h : Run (queryAnswer settings context actor policyPack checked rows metadata) events
      (.ok response)) :
    response.columns = rows.columns ∧ response.rows = rows.rows ∧
      response.semantic = checked.target.binding ∧
      Json.get? response.provenance "datasets_used" =
        some (nonEmptyTexts checked.target.datasetsUsed) := by
  obtain ⟨buildId, queryId, rest, provenance, resources, -, hprovenance, hrecorded⟩ :=
    queryAnswer_built h
  obtain ⟨first, second, _, -, -, hresponse⟩ := hrecorded.bind_ok
  obtain ⟨auditEventId, rest, -, hpure⟩ := hresponse.perform_ok
  obtain ⟨-, heq⟩ := (run_pure_iff _ _ _).mp hpure
  cases heq
  exact ⟨rfl, rfl, rfl, (buildProvenanceV1_ok hprovenance).2.2.2.1⟩

/-- A deployment on DuckDB without budgets to speak of. -/
def duckdbSettings : Settings := ⟨"duckdb", "storage", 1000000, "filesystem", false, false, 1000000⟩

/-- What the gateway's parts answer an actor in a workspace with a given semantic manifest row and
nothing published, every lookup in the cache finding the same. -/
def answersTo (actor : Fields) (manifestRow : Option (Option Json)) (cached : Option Rows) :
    (op : GatewayOp) → Except Exn op.Answer
  | .newUlid => .ok "01"
  | .authenticatedActor => .ok (some actor)
  | .activePolicy _ policyType =>
    .ok (if policyType = "semantic_manifest" then manifestRow else none)
  | .datasetWorkspace _ => .ok none
  | .datasetSummaries _ _ => .ok []
  | .tryAcquire _ => .ok ⟨true, "allow"⟩
  | .release _ => .ok ()
  | .commitAccessDecision _ => .ok ()
  | .latestGoldPointer _ => .ok none
  | .cacheGet _ => .ok cached
  | .cacheSet _ _ => .ok ()
  | .pathExists _ => .ok false
  | .runDuckdb _ _ => .ok ⟨[], []⟩
  | .elapsedExceeds _ => .ok false
  | .runTrino _ _ _ => .ok (⟨[], []⟩, [])
  | .retrievalCorpus _ => .ok []
  | .searchOpensearch _ => .ok []
  | .embed _ => .ok []
  | .searchQdrant _ => .ok []

end SchemaPilot.Gateway
