import SchemaPilot.Gateway.Answers
import SchemaPilot.Gateway.Simulation

/-!
# What the gateway lets an actor have

The authorisation that a request meets on its way through an endpoint, without the capacity limits
around it (the rate limiter, the budgets) and without the engines behind it. `Grants` says which rows,
report or snippets the checks of the endpoint let an actor have, under what the databases answer. An
endpoint that returns has granted (`grants_of_query`, `grants_of_policySimulate`,
`grants_of_retrieve`), and `grants_rows_iff` and `grants_snippets_iff` spell the checks out.
-/

namespace SchemaPilot.Gateway

open Library Library.Program Library.Text Library.Json SharedDomain

/-- The endpoints of the gateway that serve data. -/
inductive Endpoint where
  | query
  | policySimulate
  | retrieve
deriving DecidableEq

inductive Grant where
  /-- The rows of a target, filtered and masked. -/
  | rows (target : QueryTarget) (abac : AbacDecision)
  /-- A report on the access of an actor. -/
  | report (preview : Fields)
  /-- Snippets of datasets, filtered and masked. -/
  | snippets (datasetIds : List String) (abac : AbacDecision)

/-- The gateway of a deployment and what its databases answer. -/
structure GatewayState where
  platform : Platform
  settings : Settings
  answers : (op : GatewayOp) → Except Exn op.Answer

variable {gateway : GatewayState} {payload actor : Fields}

/-- The checks of an endpoint let the actor of a request have the grant. -/
def Grants (gateway : GatewayState) (payload actor : Fields) : Endpoint → Grant → Prop
  | .query, grant => (queryAccess actor).result = "allow" ∧
    ∃ context policyPack checked, context.workspaceId = workspaceIdOf payload ∧
      eval gateway.answers (queryChecks gateway.platform gateway.settings context payload actor
        policyPack) = .ok checked ∧ grant = .rows checked.target checked.abac
  | .policySimulate, grant =>
    maySimulate actor = true ∧ grant = .report (previewOf payload actor)
  | .retrieve, grant => (retrieveAccess actor).result = "allow" ∧
    ∃ context abac, context.workspaceId = workspaceIdOf payload ∧
      eval gateway.answers (retrieveChecks context payload actor) = .ok abac ∧
      grant = .snippets (allowedDatasetIdsOf actor) abac

/-! ### Outcomes of the checks -/

section Outcomes

variable {answers : (op : GatewayOp) → Except Exn op.Answer} {α : Type}

theorem eval_denyWith_ne (context : DecisionContext) (actorId message reason : String)
    (resources filters masks details : Fields) (value : α) :
    eval answers (denyWith context actorId message reason resources filters masks details) ≠
      .ok value := by
  intro h
  obtain ⟨exception, hfalse⟩ := denyWith_run
    (run_history answers (denyWith context actorId message reason resources filters masks details))
  rw [h] at hfalse
  cases hfalse

theorem eval_deny_ne (context : DecisionContext) (actorId reason : String)
    (resources details : Fields) (value : α) :
    eval answers (deny context actorId reason resources details) ≠ .ok value :=
  eval_denyWith_ne _ _ _ _ _ _ _ _ _

theorem eval_bind_ok_iff {β : Type} (p : Handler α) (next : α → Handler β) (value : β) :
    eval answers (p >>= next) = .ok value ↔
      ∃ first, eval answers p = .ok first ∧ eval answers (next first) = .ok value := by
  rw [eval_bind]
  exact bind_eq_ok_iff _ _ _

/-- A dataset is catalogued nowhere or under the workspace. -/
def OwnedBy (answers : (op : GatewayOp) → Except Exn op.Answer) (workspaceId datasetId : String) :
    Prop :=
  answers (.datasetWorkspace datasetId) = .ok none ∨
    answers (.datasetWorkspace datasetId) = .ok (some workspaceId)

/-- The lookup finds no dataset of another workspace exactly when every answer says so. -/
theorem eval_crossWorkspaceDatasetIds (workspaceId : String) (datasetIds : List String) :
    eval answers (crossWorkspaceDatasetIds workspaceId datasetIds) = .ok [] ↔
      ∀ datasetId ∈ datasetIds, OwnedBy answers workspaceId datasetId := by
  induction datasetIds with
  | nil => simp [crossWorkspaceDatasetIds, pure_eq]
  | cons datasetId rest ih =>
    rw [crossWorkspaceDatasetIds, eval_bind_ok_iff, List.forall_mem_cons, ← ih]
    have hother : ∀ other, eval answers (datasetBelongsToOtherWorkspace workspaceId datasetId) =
        .ok other ↔ ∃ owner, answers (.datasetWorkspace datasetId) = .ok owner ∧
          other = owner.any (· != workspaceId) := by
      intro other
      rw [datasetBelongsToOtherWorkspace, eval_bind_ok_iff]
      simp only [eval_perform, pure_eq, eval_done, Except.ok.injEq]
      refine exists_congr fun owner ↦ and_congr_right fun _ ↦ ?_
      cases owner <;> exact eq_comm
    constructor
    · rintro ⟨other, hfirst, hnext⟩
      obtain ⟨others, hothers, hdone⟩ := (eval_bind_ok_iff _ _ _).mp hnext
      simp only [pure_eq, eval_done, Except.ok.injEq] at hdone
      obtain ⟨owner, howner, rfl⟩ := (hother other).mp hfirst
      cases owner with
      | none =>
        obtain rfl : others = [] := by simpa using hdone
        exact ⟨Or.inl howner, hothers⟩
      | some owner =>
        by_cases hsame : owner = workspaceId
        · obtain rfl : others = [] := by simpa [hsame] using hdone
          exact ⟨Or.inr (hsame ▸ howner), hothers⟩
        · simp [hsame] at hdone
    · rintro ⟨howned, hothers⟩
      refine ⟨false, (hother false).mpr ?_, (eval_bind_ok_iff _ _ _).mpr ⟨[], hothers, rfl⟩⟩
      rcases howned with hnone | hsome
      · exact ⟨none, hnone, rfl⟩
      · exact ⟨some workspaceId, hsome, by simp⟩

/-- The semantic query of a payload binds over the manifest row of the workspace. -/
def BindsTo (gateway : GatewayState) (workspaceId : String) (payload : Fields)
    (binding : SemanticQueryBinding) : Prop :=
  semanticQueryOf payload ≠ [] ∧ ∃ metricId row,
    requestedMetric (semanticQueryOf payload) = .ok metricId ∧
    gateway.answers (.activePolicy workspaceId "semantic_manifest") = .ok row ∧
    bindState gateway.platform.sha256Hex workspaceId metricId (semanticQueryOf payload) row =
      .ok binding

theorem BindsTo.unique {workspaceId : String} {first second : SemanticQueryBinding}
    (hfirst : BindsTo gateway workspaceId payload first)
    (hsecond : BindsTo gateway workspaceId payload second) : first = second := by
  obtain ⟨-, metricId, row, hmetric, hrow, hbinding⟩ := hfirst
  obtain ⟨-, metricId', row', hmetric', hrow', hbinding'⟩ := hsecond
  rw [hmetric] at hmetric'
  rw [hrow] at hrow'
  cases hmetric'
  cases hrow'
  rw [hbinding] at hbinding'
  exact Except.ok.inj hbinding'

theorem eval_boundQuery (context : DecisionContext) (binding : SemanticQueryBinding) :
    eval gateway.answers (boundQuery gateway.platform context payload actor) = .ok binding ↔
      ∃ metricId row, requestedMetric (semanticQueryOf payload) = .ok metricId ∧
        gateway.answers (.activePolicy context.workspaceId "semantic_manifest") = .ok row ∧
        bindState gateway.platform.sha256Hex context.workspaceId metricId (semanticQueryOf payload)
          row = .ok binding := by
  have hbind : eval gateway.answers (bindSemanticQuery gateway.platform.sha256Hex
      context.workspaceId (semanticQueryOf payload)) = .ok binding ↔
        ∃ metricId row, requestedMetric (semanticQueryOf payload) = .ok metricId ∧
          gateway.answers (.activePolicy context.workspaceId "semantic_manifest") = .ok row ∧
          bindState gateway.platform.sha256Hex context.workspaceId metricId
            (semanticQueryOf payload) row = .ok binding := by
    simp only [bindSemanticQuery, eval_bind_ok_iff, eval_ofExcept, eval_perform,
      raiseValueError_eq_ok_iff, exists_and_left]
  rw [← hbind, boundQuery, tryExcept, eval_andThen]
  cases eval gateway.answers (bindSemanticQuery gateway.platform.sha256Hex context.workspaceId
      (semanticQueryOf payload)) with
  | ok value => rfl
  | error exception =>
    refine iff_of_false ?_ (by simp)
    dsimp only
    split_ifs
    · exact eval_deny_ne _ _ _ _ _ _
    · simp [raise]

theorem eval_semanticTarget (context : DecisionContext) (target : QueryTarget) :
    eval gateway.answers (semanticTarget gateway.platform context payload actor) = .ok target ↔
      ∃ binding, BindsTo gateway context.workspaceId payload binding ∧
        (∀ datasetId ∈ binding.datasetIds, datasetId ∈ allowedDatasetIdsOf actor ∧
          OwnedBy gateway.answers context.workspaceId datasetId) ∧
        target = ⟨binding.sqlText, binding.datasetIds, some binding⟩ := by
  unfold semanticTarget
  split_ifs with hquery
  · exact iff_of_false (eval_deny_ne _ _ _ _ _ _) fun ⟨_, hbinds, _⟩ ↦ hbinds.1 hquery
  rw [eval_bind_ok_iff]
  refine exists_congr fun binding ↦ ?_
  rw [eval_boundQuery, BindsTo, and_iff_right hquery]
  refine and_congr_right fun _ ↦ ?_
  have hdenied : deniedDatasetIds actor binding = [] ↔
      ∀ datasetId ∈ binding.datasetIds, datasetId ∈ allowedDatasetIdsOf actor := by
    simp [deniedDatasetIds]
  rw [entitledTarget, eval_bind_ok_iff]
  constructor
  · rintro ⟨crossWorkspace, hcross, hrest⟩
    split_ifs at hrest with hforeign hforbidden
    · exact absurd hrest (eval_deny_ne _ _ _ _ _ _)
    · exact absurd hrest (eval_deny_ne _ _ _ _ _ _)
    · rw [ne_eq, not_not] at hforeign hforbidden
      rw [hforeign] at hcross
      have howned := (eval_crossWorkspaceDatasetIds _ _).mp hcross
      exact ⟨fun datasetId hmem ↦ ⟨hdenied.mp hforbidden datasetId hmem, howned datasetId hmem⟩,
        (Except.ok.inj hrest).symm⟩
  · rintro ⟨hentitled, rfl⟩
    refine ⟨[], (eval_crossWorkspaceDatasetIds _ _).mpr fun d hd ↦ (hentitled d hd).2, ?_⟩
    rw [if_neg (not_not.mpr rfl), if_neg (not_not.mpr (hdenied.mpr fun d hd ↦ (hentitled d hd).1))]
    rfl

def Targets (gateway : GatewayState) (workspaceId : String) (payload actor : Fields)
    (target : QueryTarget) : Prop :=
  if actorTypeOf actor = "ai" then
    ∃ binding, BindsTo gateway workspaceId payload binding ∧
      (∀ datasetId ∈ binding.datasetIds, datasetId ∈ allowedDatasetIdsOf actor ∧
        OwnedBy gateway.answers workspaceId datasetId) ∧
      target = ⟨binding.sqlText, binding.datasetIds, some binding⟩
  else target = callerTarget payload

theorem eval_queryTarget (context : DecisionContext) (target : QueryTarget) :
    eval gateway.answers (queryTarget gateway.platform context payload actor) = .ok target ↔
      Targets gateway context.workspaceId payload actor target := by
  unfold queryTarget Targets
  split_ifs
  · exact eval_semanticTarget context target
  · simp only [pure_eq, eval_done, Except.ok.injEq]
    exact eq_comm

theorem eval_limitedQuery (context : DecisionContext) (policyPack : Option PolicyPack)
    (target through : QueryTarget) (abac : AbacDecision) :
    (∃ checked, eval gateway.answers (limitedQuery gateway.settings context payload actor policyPack
        target) = .ok checked ∧ through = checked.target ∧ abac = checked.abac) ↔
      through = target ∧ abac = abacOf payload actor ∧ abac.allow = true ∧
        (∃ limits, constraintsOf payload = .ok limits) ∧
        ∃ pointer, gateway.answers (.latestGoldPointer context.workspaceId) = .ok pointer := by
  unfold limitedQuery
  dsimp only
  split_ifs with hdenied
  · refine iff_of_false (fun ⟨checked, hfalse, _⟩ ↦ eval_denyWith_ne _ _ _ _ _ _ _ _ _ hfalse) ?_
    rintro ⟨-, rfl, hallow, -⟩
    rw [hdenied] at hallow
    cases hallow
  · simp only [eval_bind_ok_iff, eval_ofExcept, buildQueryCacheKey, eval_perform, pure_eq, eval_done,
      Except.ok.injEq]
    have hallow := (Bool.not_eq_false _).mp hdenied
    constructor
    · rintro ⟨checked, ⟨⟨maxRows, timeoutMs⟩, hlimits, cacheKey, ⟨pointer, hpointer, -⟩, rfl⟩,
        hthrough, habac⟩
      dsimp only at hthrough habac
      exact ⟨hthrough, habac, habac ▸ hallow, ⟨_, hlimits⟩, pointer, hpointer⟩
    · rintro ⟨rfl, rfl, -, ⟨limits, hlimits⟩, pointer, hpointer⟩
      refine ⟨_, ⟨limits, hlimits, _, ⟨pointer, hpointer, rfl⟩, rfl⟩, ?_⟩
      dsimp only
      exact ⟨rfl, rfl⟩

/-- The checks of a query let an actor through to a target exactly when the access policy allows the
actor, the query has that target, ABAC allows the request, its limits are numbers and the gold pointer
can be read. -/
theorem grants_rows_iff (target : QueryTarget) (abac : AbacDecision) :
    Grants gateway payload actor .query (.rows target abac) ↔
      (queryAccess actor).result = "allow" ∧
        Targets gateway (workspaceIdOf payload) payload actor target ∧
        abac = abacOf payload actor ∧ abac.allow = true ∧
        (∃ limits, constraintsOf payload = .ok limits) ∧
        ∃ pointer, gateway.answers (.latestGoldPointer (workspaceIdOf payload)) = .ok pointer := by
  refine and_congr_right fun _ ↦ ?_
  constructor
  · rintro ⟨context, policyPack, checked, hworkspace, hchecked, heq⟩
    obtain ⟨rfl, rfl⟩ := Grant.rows.inj heq
    obtain ⟨target, htarget, hlimited⟩ := (eval_bind_ok_iff _ _ _).mp hchecked
    obtain ⟨hsame, hrest⟩ := (eval_limitedQuery context policyPack target _ _).mp
      ⟨checked, hlimited, rfl, rfl⟩
    rw [eval_queryTarget, hworkspace] at htarget
    rw [hworkspace] at hrest
    exact ⟨hsame ▸ htarget, hrest⟩
  · rintro ⟨htarget, hrest⟩
    have hcontext : ∃ context : DecisionContext, context.workspaceId = workspaceIdOf payload :=
      ⟨⟨workspaceIdOf payload, [], "", "", ""⟩, rfl⟩
    obtain ⟨context, hworkspace⟩ := hcontext
    rw [← hworkspace] at htarget hrest
    obtain ⟨checked, hlimited, rfl, rfl⟩ :=
      (eval_limitedQuery context none target target abac).mpr ⟨rfl, hrest⟩
    refine ⟨context, none, checked, hworkspace, (eval_bind_ok_iff _ _ _).mpr ?_, rfl⟩
    exact ⟨checked.target, (eval_queryTarget context _).mpr htarget, hlimited⟩

theorem eval_retrieveChecks (context : DecisionContext) (abac : AbacDecision) :
    eval gateway.answers (retrieveChecks context payload actor) = .ok abac ↔
      allowedDatasetIdsOf actor ≠ [] ∧
        (∀ datasetId ∈ allowedDatasetIdsOf actor,
          OwnedBy gateway.answers context.workspaceId datasetId) ∧
        abac = abacOf payload actor ∧ abac.allow = true := by
  unfold retrieveChecks
  dsimp only
  by_cases hnone : allowedDatasetIdsOf actor = []
  · rw [if_pos hnone]
    exact iff_of_false (eval_deny_ne _ _ _ _ _ _) fun hrest ↦ hrest.1 hnone
  rw [if_neg hnone, eval_bind_ok_iff]
  constructor
  · rintro ⟨crossWorkspace, hcross, hrest⟩
    split_ifs at hrest with hforeign hdenied
    · exact absurd hrest (eval_deny_ne _ _ _ _ _ _)
    · exact absurd hrest (eval_denyWith_ne _ _ _ _ _ _ _ _ _)
    · rw [ne_eq, not_not] at hforeign
      rw [hforeign] at hcross
      obtain rfl := Except.ok.inj hrest
      exact ⟨hnone, (eval_crossWorkspaceDatasetIds _ _).mp hcross, rfl,
        (Bool.not_eq_false _).mp hdenied⟩
  · rintro ⟨-, howned, rfl, hallow⟩
    refine ⟨[], (eval_crossWorkspaceDatasetIds _ _).mpr howned, ?_⟩
    rw [if_neg (not_not.mpr rfl), if_neg ((Bool.not_eq_false _).mpr hallow)]
    rfl

/-- The checks of a retrieval let an actor through exactly when the access policy allows the actor,
who is entitled to some datasets, none of them another workspace's, and ABAC allows the request. -/
theorem grants_snippets_iff (datasetIds : List String) (abac : AbacDecision) :
    Grants gateway payload actor .retrieve (.snippets datasetIds abac) ↔
      (retrieveAccess actor).result = "allow" ∧
        datasetIds = allowedDatasetIdsOf actor ∧ datasetIds ≠ [] ∧
        (∀ datasetId ∈ datasetIds, OwnedBy gateway.answers (workspaceIdOf payload) datasetId) ∧
        abac = abacOf payload actor ∧ abac.allow = true := by
  refine and_congr_right fun _ ↦ ?_
  constructor
  · rintro ⟨context, decided, hworkspace, hdecided, heq⟩
    obtain ⟨rfl, rfl⟩ := Grant.snippets.inj heq
    have hcleared := (eval_retrieveChecks context abac).mp hdecided
    rw [hworkspace] at hcleared
    exact ⟨rfl, hcleared⟩
  · rintro ⟨rfl, hcleared⟩
    exact ⟨⟨workspaceIdOf payload, [], "", "", ""⟩, abac, rfl,
      (eval_retrieveChecks _ abac).mpr hcleared, rfl⟩

end Outcomes

/-! ### Responses are granted -/

variable {request : Request}

/-- An endpoint that returns let its actor through the access policy and returned from its body. -/
theorem eval_guarded_ok {α : Type} {answers : (op : GatewayOp) → Except Exn op.Answer}
    {endpoint : String} {access : Fields → AccessDecision}
    {body : DecisionContext → Fields → Option PolicyPack → Handler α} {value : α}
    (h : eval answers (guarded endpoint access request body) = .ok value)
    (hactor : answers .authenticatedActor = .ok (some actor)) :
    (access actor).result = "allow" ∧ ∃ context policyPack,
      context.workspaceId = workspaceIdOf request.payload ∧
      eval answers (body context actor policyPack) = .ok value := by
  obtain ⟨policyPack, -, h⟩ := (eval_bind_ok_iff _ _ _).mp h
  obtain ⟨authenticated, hauthenticated, h⟩ := (eval_bind_ok_iff _ _ _).mp h
  obtain ⟨policyDecisionId, -, h⟩ := (eval_bind_ok_iff _ _ _).mp h
  rw [eval_perform, hactor] at hauthenticated
  obtain rfl := Except.ok.inj hauthenticated
  dsimp only at h
  split_ifs at h with haccess
  · exact absurd h (eval_deny_ne _ _ _ _ _ _)
  obtain ⟨decision, -, h⟩ := (eval_bind_ok_iff _ _ _).mp h
  split_ifs at h with hlimited
  · exact absurd h (eval_deny_ne _ _ _ _ _ _)
  · exact ⟨not_not.mp haccess, _, policyPack, rfl, h⟩

theorem grants_of_query {response : QueryResponse}
    (h : eval gateway.answers (query gateway.platform gateway.settings request) = .ok response)
    (hactor : gateway.answers .authenticatedActor = .ok (some actor)) :
    ∃ grant, Grants gateway request.payload actor .query grant := by
  obtain ⟨haccess, context, policyPack, hworkspace, hadmitted⟩ := eval_guarded_ok h hactor
  obtain ⟨checked, hchecked, -⟩ := (eval_bind_ok_iff _ _ _).mp hadmitted
  exact ⟨_, haccess, context, policyPack, checked, hworkspace, hchecked, rfl⟩

theorem grants_of_retrieve {response : RetrieveResponse}
    (h : eval gateway.answers (retrieve gateway.platform gateway.settings request) = .ok response)
    (hactor : gateway.answers .authenticatedActor = .ok (some actor)) :
    ∃ grant, Grants gateway request.payload actor .retrieve grant := by
  obtain ⟨haccess, context, policyPack, hworkspace, hadmitted⟩ := eval_guarded_ok h hactor
  obtain ⟨abac, hchecked, -⟩ := (eval_bind_ok_iff _ _ _).mp hadmitted
  exact ⟨_, haccess, context, abac, hworkspace, hchecked, rfl⟩

theorem grants_of_policySimulate {response : SimulationResponse}
    (h : eval gateway.answers (policySimulate request) = .ok response)
    (hactor : gateway.answers .authenticatedActor = .ok (some actor)) :
    Grants gateway request.payload actor .policySimulate
      (.report (previewOf request.payload actor)) := by
  obtain ⟨policyDecisionId, -, h⟩ := (eval_bind_ok_iff _ _ _).mp h
  obtain ⟨authenticated, hauthenticated, h⟩ := (eval_bind_ok_iff _ _ _).mp h
  rw [eval_perform, hactor] at hauthenticated
  obtain rfl := Except.ok.inj hauthenticated
  dsimp only at h
  split_ifs at h with hforbidden
  · exact absurd h (eval_deny_ne _ _ _ _ _ _)
  · exact ⟨(Bool.not_eq_false _).mp hforbidden, rfl⟩

end SchemaPilot.Gateway
