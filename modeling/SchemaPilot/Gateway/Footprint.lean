import SchemaPilot.Gateway.Retrieve

/-!
# What each part of a handler calls

The operations fall into kinds (`OpKind`), and every part of a handler stays within a few of them
whatever its calls answer (`Calling`). Results about one kind, such as the rate limiter or the
engines, use these bounds to pass over the parts that do not touch it.
-/

namespace SchemaPilot.Gateway

open Library Library.Program SharedDomain

inductive OpKind where
  | identifier
  | authentication
  | policy
  | catalogue
  | limiter
  | audit
  | pointer
  | cache
  | file
  | engine
  | clock
  | retrieval
deriving DecidableEq

def GatewayOp.kind : GatewayOp → OpKind
  | newUlid => .identifier
  | authenticatedActor => .authentication
  | activePolicy _ _ => .policy
  | datasetWorkspace _ => .catalogue
  | datasetSummaries _ _ => .catalogue
  | tryAcquire _ => .limiter
  | release _ => .limiter
  | commitAccessDecision _ => .audit
  | latestGoldPointer _ => .pointer
  | cacheGet _ => .cache
  | cacheSet _ _ => .cache
  | pathExists _ => .file
  | runDuckdb _ _ => .engine
  | elapsedExceeds _ => .clock
  | runTrino _ _ _ => .engine
  | retrievalCorpus _ => .retrieval
  | searchOpensearch _ => .retrieval
  | embed _ => .retrieval
  | searchQdrant _ => .retrieval

/-- The program calls operations of the given kinds only. -/
def Calling {α : Type} (kinds : List OpKind) (p : Handler α) : Prop :=
  Only (fun op ↦ op.kind ∈ kinds) p

theorem Calling.mono {α : Type} {kinds kinds' : List OpKind} {p : Handler α}
    (hp : Calling kinds p) (h : kinds ⊆ kinds') : Calling kinds' p :=
  Only.mono (fun _ hop ↦ h hop) hp

variable {α : Type}

theorem calling_recordAccessDecision (context : DecisionContext) (actorId result reason : String)
    (resources appliedFilters appliedMasks : Fields) :
    Calling [.identifier, .audit]
      (recordAccessDecision context actorId result reason resources appliedFilters
        appliedMasks) := by
  unfold recordAccessDecision
  refine Only.bind (by simp [GatewayOp.kind]) fun auditEventId ↦ ?_
  refine Only.tryExcept (by simp [GatewayOp.kind]) fun exception ↦ ?_
  cases exception <;> exact only_raise _ _

theorem calling_denyWith (context : DecisionContext) (actorId message reason : String)
    (resources appliedFilters appliedMasks details : Fields) :
    Calling [.identifier, .audit] (denyWith context actorId message reason resources
      appliedFilters appliedMasks details : Handler α) := by
  unfold denyWith
  exact Only.bind (calling_recordAccessDecision _ _ _ _ _ _ _) fun _ ↦ only_raise _ _

theorem calling_deny (context : DecisionContext) (actorId reason : String)
    (resources details : Fields) :
    Calling [.identifier, .audit]
      (deny context actorId reason resources details : Handler α) :=
  calling_denyWith _ _ _ _ _ _ _ _

theorem only_loadEffectivePolicyPack (workspaceId : String) :
    Only (fun op ↦ op = .activePolicy workspaceId "policy_pack")
      (loadEffectivePolicyPack workspaceId) := by
  unfold loadEffectivePolicyPack
  refine Only.bind (by simp) fun row ↦ ?_
  cases row.bind fun definition ↦ definition.bind Json.asObj? with
  | none => exact only_ret _ _
  | some payload => exact Only.bind (only_ofExcept _ _) fun _ ↦ only_ret _ _

theorem only_crossWorkspaceDatasetIds (workspaceId : String) (datasetIds : List String) :
    Only (fun op ↦ ∃ datasetId ∈ datasetIds, op = .datasetWorkspace datasetId)
      (crossWorkspaceDatasetIds workspaceId datasetIds) := by
  induction datasetIds with
  | nil => exact only_ret _ _
  | cons datasetId rest ih =>
    rw [crossWorkspaceDatasetIds]
    refine Only.bind ?_ fun other ↦ Only.bind ?_ fun others ↦ only_ret _ _
    · unfold datasetBelongsToOtherWorkspace
      exact Only.bind (by simp) fun row ↦ only_ret _ _
    · refine Only.mono ?_ ih
      rintro op ⟨other, hother, rfl⟩
      exact ⟨other, List.mem_cons_of_mem _ hother, rfl⟩

theorem calling_crossWorkspaceDatasetIds (workspaceId : String) (datasetIds : List String) :
    Calling [.catalogue] (crossWorkspaceDatasetIds workspaceId datasetIds) := by
  refine Only.mono ?_ (only_crossWorkspaceDatasetIds workspaceId datasetIds)
  rintro op ⟨datasetId, -, rfl⟩
  simp [GatewayOp.kind]

theorem only_bindSemanticQuery (sha256Hex : String → String) (workspaceId : String)
    (semanticQuery : Fields) :
    Only (fun op ↦ op = .activePolicy workspaceId "semantic_manifest")
      (bindSemanticQuery sha256Hex workspaceId semanticQuery) := by
  unfold bindSemanticQuery
  exact Only.bind (only_ofExcept _ _) fun metricId ↦ Only.bind (by simp) fun row ↦
    only_ofExcept _ _

theorem calling_boundQuery (platform : Platform) (context : DecisionContext)
    (payload actor : Fields) :
    Calling [.identifier, .audit, .policy] (boundQuery platform context payload actor) := by
  unfold boundQuery
  refine Only.tryExcept ?_ fun exception ↦ ?_
  · refine Only.mono ?_ (only_bindSemanticQuery _ _ _)
    rintro op rfl
    simp [GatewayOp.kind]
  · exact Only.ite (fun _ ↦ (calling_deny _ _ _ _ _).mono (by decide)) fun _ ↦ only_raise _ _

theorem calling_entitledTarget (context : DecisionContext) (actor : Fields)
    (binding : SemanticQueryBinding) :
    Calling [.identifier, .audit, .catalogue] (entitledTarget context actor binding) := by
  unfold entitledTarget
  refine Only.bind ((calling_crossWorkspaceDatasetIds _ _).mono (by decide)) fun cross ↦ ?_
  exact Only.ite (fun _ ↦ (calling_deny _ _ _ _ _).mono (by decide)) fun _ ↦
    Only.ite (fun _ ↦ (calling_deny _ _ _ _ _).mono (by decide)) fun _ ↦ only_ret _ _

theorem calling_semanticTarget (platform : Platform) (context : DecisionContext)
    (payload actor : Fields) :
    Calling [.identifier, .audit, .policy, .catalogue]
      (semanticTarget platform context payload actor) := by
  unfold semanticTarget
  exact Only.ite (fun _ ↦ (calling_deny _ _ _ _ _).mono (by decide)) fun _ ↦
    Only.bind ((calling_boundQuery _ _ _ _).mono (by decide)) fun binding ↦
      (calling_entitledTarget _ _ _).mono (by decide)

theorem calling_limitedQuery (settings : Settings) (context : DecisionContext)
    (payload actor : Fields) (policyPack : Option PolicyPack) (target : QueryTarget) :
    Calling [.identifier, .audit, .pointer]
      (limitedQuery settings context payload actor policyPack target) := by
  unfold limitedQuery buildQueryCacheKey
  refine Only.ite (fun _ ↦ (calling_denyWith _ _ _ _ _ _ _ _).mono (by decide)) fun _ ↦ ?_
  refine Only.bind (only_ofExcept _ _) fun limits ↦ ?_
  exact Only.bind (Only.bind (by simp [GatewayOp.kind]) fun pointer ↦ only_ret _ _)
    fun key ↦ only_ret _ _

theorem calling_queryTarget (platform : Platform) (context : DecisionContext)
    (payload actor : Fields) :
    Calling [.identifier, .audit, .policy, .catalogue]
      (queryTarget platform context payload actor) := by
  unfold queryTarget
  exact Only.ite (fun _ ↦ calling_semanticTarget _ _ _ _) fun _ ↦ only_ret _ _

theorem calling_queryChecks (platform : Platform) (settings : Settings) (context : DecisionContext)
    (payload actor : Fields) (policyPack : Option PolicyPack) :
    Calling [.identifier, .audit, .policy, .catalogue, .pointer]
      (queryChecks platform settings context payload actor policyPack) := by
  unfold queryChecks
  exact Only.bind ((calling_queryTarget _ _ _ _).mono (by decide)) fun target ↦
    (calling_limitedQuery _ _ _ _ _ _).mono (by decide)

theorem calling_preparePublishedGoldViews (settings : Settings) (workspaceId : String) :
    Calling [.pointer, .file] (preparePublishedGoldViews settings workspaceId) := by
  unfold preparePublishedGoldViews
  refine Only.ite (fun _ ↦ only_ret _ _) fun _ ↦ ?_
  refine Only.bind (by simp [GatewayOp.kind]) fun pointer ↦ ?_
  cases pointer with
  | none => exact only_ret _ _
  | some pointer =>
    exact Only.ite (fun _ ↦ only_ret _ _) fun _ ↦
      Only.bind (by simp [GatewayOp.kind]) fun found ↦ only_ret _ _

theorem calling_executeTrino (query : String) (cappedRows : ℕ)
    (rowFilter : Option (String × String)) (budgetMs : ℤ) :
    Calling [.engine, .clock] (executeTrino query cappedRows rowFilter budgetMs) := by
  unfold executeTrino
  refine Only.bind (Only.tryExcept (by simp [GatewayOp.kind]) fun exception ↦ ?_) fun answer ↦
    Only.bind (by simp [GatewayOp.kind]) fun late ↦ ?_
  · cases exception <;> exact only_raise _ _
  · exact Only.ite (fun _ ↦ only_raise _ _) fun _ ↦
      Only.bind (only_ofExcept _ _) fun rows ↦ only_ret _ _

theorem calling_executeDuckdb (settings : Settings) (query : String) (cappedRows : ℕ)
    (rowFilter : Option (String × String)) (budgetMs : ℤ) (workspaceId : String) :
    Calling [.pointer, .file, .engine, .clock]
      (executeDuckdb settings query cappedRows rowFilter budgetMs workspaceId) := by
  unfold executeDuckdb
  refine Only.bind ((calling_preparePublishedGoldViews _ _).mono (by decide)) fun views ↦
    Only.bind (by simp [GatewayOp.kind]) fun answer ↦
      Only.bind (by simp [GatewayOp.kind]) fun late ↦ ?_
  exact Only.ite (fun _ ↦ only_raise _ _) fun _ ↦
    Only.bind (only_ofExcept _ _) fun rows ↦ only_ret _ _

theorem calling_executeSql (settings : Settings) (sql : String) (maxRows : ℤ)
    (rowFilter : Option (String × String)) (timeoutMs : ℤ) (workspaceId : String) :
    Calling [.pointer, .file, .engine, .clock]
      (executeSql settings sql maxRows rowFilter timeoutMs workspaceId) := by
  unfold executeSql
  refine Only.bind (only_ofExcept _ _) fun query ↦ ?_
  refine Only.ite (fun _ ↦ only_raise _ _) fun _ ↦ Only.ite (fun _ ↦ ?_) fun _ ↦ ?_
  · exact (calling_executeTrino _ _ _ _).mono (by decide)
  · exact calling_executeDuckdb _ _ _ _ _ _

theorem calling_executeChecked (settings : Settings) (context : DecisionContext) (actor : Fields)
    (checked : CheckedQuery) :
    Calling [.identifier, .audit, .pointer, .file, .engine, .clock]
      (executeChecked settings context actor checked) := by
  have hdeny : ∀ (message reason : String) (resources filters masks details : Fields),
      Calling [.identifier, .audit, .pointer, .file, .engine, .clock]
        (denyWith context (actorIdOf actor) message reason resources filters masks details :
          Handler QueryResult) :=
    fun _ _ _ _ _ _ ↦ (calling_denyWith _ _ _ _ _ _ _ _).mono (by decide)
  unfold executeChecked
  refine Only.tryExcept ((calling_executeSql _ _ _ _ _ _).mono (by decide)) fun exception ↦ ?_
  cases exception with
  | unsafeSql error => exact hdeny _ _ _ _ _ _
  | queryTimeout error => exact hdeny _ _ _ _ _ _
  | _ =>
    exact Only.ite (fun _ ↦ hdeny _ _ _ _ _ _) fun _ ↦
      Only.bind ((calling_recordAccessDecision _ _ _ _ _ _ _).mono (by decide)) fun _ ↦
        only_raise _ _

theorem calling_queryAnswer (settings : Settings) (context : DecisionContext) (actor : Fields)
    (policyPack : Option PolicyPack) (checked : CheckedQuery) (rows : Rows) (metadata : Fields) :
    Calling [.identifier, .audit]
      (queryAnswer settings context actor policyPack checked rows metadata) := by
  unfold queryAnswer
  refine Only.ite (fun _ ↦ calling_denyWith _ _ _ _ _ _ _ _) fun _ ↦ ?_
  refine Only.bind (by simp [GatewayOp.kind]) fun buildId ↦
    Only.bind (by simp [GatewayOp.kind]) fun queryId ↦ ?_
  cases buildProvenanceV1 context.workspaceId context.policyDecisionId
    checked.target.datasetsUsed buildId queryId "allow"
    (serializeRowFilter checked.abac.rowFilter) (masksFields checked.abac.masks) none none
    policyPack with
  | error exception => exact calling_denyWith _ _ _ _ _ _ _ _
  | ok provenance =>
    exact Only.bind (calling_recordAccessDecision _ _ _ _ _ _ _) fun _ ↦
      Only.bind (by simp [GatewayOp.kind]) fun auditEventId ↦ only_ret _ _

theorem calling_queryRows (platform : Platform) (settings : Settings) (context : DecisionContext)
    (actor : Fields) (checked : CheckedQuery) (cached : Option Rows) :
    Calling [.identifier, .audit, .pointer, .file, .engine, .clock, .cache, .limiter]
      (queryRows platform settings context actor checked cached) := by
  unfold queryRows
  cases cached with
  | some payload => exact Only.bind (by simp [GatewayOp.kind]) fun _ ↦ only_ret _ _
  | none =>
    refine Only.bind (Only.tryFinally ((calling_executeChecked _ _ _ _).mono (by decide))
      (by simp [GatewayOp.kind])) fun result ↦ ?_
    exact Only.bind (by simp [GatewayOp.kind]) fun _ ↦ only_ret _ _

theorem calling_queryAdmitted (platform : Platform) (settings : Settings)
    (context : DecisionContext) (payload actor : Fields) (policyPack : Option PolicyPack) :
    Calling [.identifier, .audit, .policy, .catalogue, .pointer, .file, .engine, .clock, .cache,
      .limiter] (queryAdmitted platform settings context payload actor policyPack) := by
  unfold queryAdmitted
  refine Only.bind ((calling_queryChecks _ _ _ _ _ _).mono (by decide)) fun checked ↦
    Only.bind (by simp [GatewayOp.kind]) fun cached ↦
      Only.bind ((calling_queryRows _ _ _ _ _ _).mono (by decide)) fun answer ↦ ?_
  exact (calling_queryAnswer _ _ _ _ _ _ _).mono (by decide)

theorem calling_retrieveChecks (context : DecisionContext) (payload actor : Fields) :
    Calling [.identifier, .audit, .catalogue] (retrieveChecks context payload actor) := by
  unfold retrieveChecks
  refine Only.ite (fun _ ↦ (calling_deny _ _ _ _ _).mono (by decide)) fun _ ↦ ?_
  refine Only.bind ((calling_crossWorkspaceDatasetIds _ _).mono (by decide)) fun cross ↦ ?_
  refine Only.ite (fun _ ↦ (calling_deny _ _ _ _ _).mono (by decide)) fun _ ↦ ?_
  exact Only.ite (fun _ ↦ (calling_denyWith _ _ _ _ _ _ _ _).mono (by decide)) fun _ ↦
    only_ret _ _

theorem calling_searchOpensearchDocuments (queryText workspaceId : String)
    (allowedDatasetIds : List String) :
    Calling [.retrieval]
      (searchOpensearchDocuments queryText workspaceId allowedDatasetIds) := by
  unfold searchOpensearchDocuments
  exact Only.ite (fun _ ↦ only_ret _ _) fun _ ↦
    Only.bind (by simp [GatewayOp.kind]) fun response ↦ only_ret _ _

theorem calling_searchQdrantDocuments (queryVector : List Json) (workspaceId : String)
    (allowedDatasetIds : List String) :
    Calling [.retrieval] (searchQdrantDocuments queryVector workspaceId allowedDatasetIds) := by
  unfold searchQdrantDocuments
  exact Only.ite (fun _ ↦ only_ret _ _) fun _ ↦
    Only.bind (by simp [GatewayOp.kind]) fun response ↦ only_ret _ _

theorem calling_searchBackend (platform : Platform) (settings : Settings)
    (context : DecisionContext) (payload actor : Fields) :
    Calling [.identifier, .audit, .retrieval]
      (searchBackend platform settings context payload actor) := by
  have hdeny : ∀ (reason : String) (resources details : Fields),
      Calling [.identifier, .audit, .retrieval]
        (deny context (actorIdOf actor) reason resources details : Handler (List Fields)) :=
    fun _ _ _ ↦ (calling_deny _ _ _ _ _).mono (by decide)
  unfold searchBackend
  refine Only.ite (fun _ ↦ ?_) fun _ ↦ Only.ite
    (fun _ ↦ Only.ite (fun _ ↦ hdeny _ _ _) fun _ ↦ Only.tryExcept ?_ fun exception ↦ ?_)
    fun _ ↦ Only.ite
      (fun _ ↦ Only.ite (fun _ ↦ hdeny _ _ _) fun _ ↦ Only.tryExcept ?_ fun exception ↦ ?_)
      fun _ ↦ hdeny _ _ _
  · exact Only.bind (by simp [GatewayOp.kind]) fun corpus ↦ only_ret _ _
  · exact (calling_searchOpensearchDocuments _ _ _).mono (by decide)
  · cases exception with
    | openSearchUnavailable error => exact hdeny _ _ _
    | _ => exact only_raise _ _
  · exact Only.bind (by simp [GatewayOp.kind]) fun queryVector ↦
      (calling_searchQdrantDocuments _ _ _).mono (by decide)
  · cases exception with
    | disabledIntegration error => exact hdeny _ _ _
    | qdrantUnavailable error => exact hdeny _ _ _
    | _ => exact only_raise _ _

theorem calling_retrieveAnswer (platform : Platform) (settings : Settings)
    (context : DecisionContext) (payload actor : Fields) (policyPack : Option PolicyPack)
    (abac : AbacDecision) (found : List Fields) :
    Calling [.identifier, .audit, .catalogue]
      (retrieveAnswer platform settings context payload actor policyPack abac found) := by
  unfold retrieveAnswer loadDatasetSensitivitySummaries
  refine Only.bind ?_ fun summaries ↦ ?_
  · exact Only.ite (fun _ ↦ only_ret _ _) fun _ ↦
      Only.bind (by simp [GatewayOp.kind]) fun rows ↦ only_ret _ _
  refine Only.ite (fun _ ↦ (calling_denyWith _ _ _ _ _ _ _ _).mono (by decide)) fun _ ↦ ?_
  refine Only.bind (by simp [GatewayOp.kind]) fun queryId ↦
    Only.bind (by simp [GatewayOp.kind]) fun buildId ↦ ?_
  split
  · exact (calling_deny _ _ _ _ _).mono (by decide)
  · exact Only.bind ((calling_recordAccessDecision _ _ _ _ _ _ _).mono (by decide)) fun _ ↦
      Only.bind (by simp [GatewayOp.kind]) fun auditEventId ↦ only_ret _ _

theorem calling_retrieveAdmitted (platform : Platform) (settings : Settings)
    (context : DecisionContext) (payload actor : Fields) (policyPack : Option PolicyPack) :
    Calling [.identifier, .audit, .catalogue, .retrieval, .limiter]
      (retrieveAdmitted platform settings context payload actor policyPack) := by
  unfold retrieveAdmitted retrieveResults
  refine Only.bind ((calling_retrieveChecks _ _ _).mono (by decide)) fun abac ↦
    Only.bind (Only.tryFinally ((calling_searchBackend _ _ _ _ _).mono (by decide))
      (by simp [GatewayOp.kind])) fun found ↦ ?_
  exact (calling_retrieveAnswer _ _ _ _ _ _ _ found).mono (by decide)

end SchemaPilot.Gateway
