import SchemaPilot.AiService.SqlAgent
import SchemaPilot.ControlPlane.AuditAtomicity
import SchemaPilot.ControlPlane.PolicyRows
import SchemaPilot.Gateway.SemanticBinding
import SchemaPilot.Workers.SemanticDrift

/-!
# The readers of the active manifest

The control plane and the gateway read the field `manifest` of the active row, which is what the
lifecycle writes. The drift gate and the planner read a field `semantic_manifest` that an active row
never has, so both work on an empty manifest as soon as one is in effect
(`manifestReadersAgree_iff`).
-/

namespace SchemaPilot.ControlPlane

open Library Library.Json Library.Effect SharedDomain

/-- The manifest `get_effective_semantic_manifest` returns. -/
def effectiveManifest? (service : Service) (workspaceId : String) (db : Database) :
    Option SemanticManifest :=
  match effectiveSemanticManifest service workspaceId
    (activeSemanticManifestRow? workspaceId db) with
  | .ok (some effective) => some effective.manifest
  | _ => none

/-- The definition the gateway finds of the active policy. -/
def gatewayDefinition (workspaceId : String) (db : Database) : Option (Option Json) :=
  (activePolicyRow? workspaceId "semantic_manifest" db).map GovernancePolicy.definitionRef

/-- The manifest `bind_semantic_query` binds a query to. -/
def binderManifest (workspaceId : String) (definition : Option (Option Json)) :
    Option SemanticManifest :=
  (((definition.bind fun found ↦ found.bind asObj?).bind fun state ↦
    (get? state "manifest").bind asObj?).bind fun manifestRaw ↦
      (validateSemanticManifest manifestRaw (some workspaceId)).toOption)

/-- A query is bound to that manifest. -/
theorem bindState_of_binderManifest {sha256Hex : String → String} {workspaceId : String}
    {metricId : Text.Identifier} {semanticQuery : Fields} {definition : Option (Option Json)}
    {binding : Gateway.SemanticQueryBinding}
    (h : Gateway.bindState sha256Hex workspaceId metricId semanticQuery definition = .ok binding) :
    ∃ manifest checksum, binderManifest workspaceId definition = some manifest ∧
      Gateway.bindManifest sha256Hex manifest checksum metricId semanticQuery = .ok binding := by
  unfold Gateway.bindState at h
  unfold binderManifest
  cases hstate : definition.bind fun found ↦ found.bind asObj? with
  | none =>
    rw [hstate] at h
    cases h
  | some state =>
    simp only [hstate] at h
    rw [Option.bind_some]
    cases hraw : (get? state "manifest").bind asObj? with
    | none =>
      rw [hraw] at h
      cases h
    | some manifestRaw =>
      simp only [hraw] at h
      rw [Option.bind_some]
      cases hvalid : validateSemanticManifest manifestRaw (some workspaceId) with
      | error message =>
        rw [hvalid] at h
        cases h
      | ok manifest =>
        rw [hvalid] at h
        exact ⟨manifest, _, rfl, h⟩

def unordered (manifest : Option Fields) : Option Json := manifest.map fun fields ↦ canon (.obj fields)

/-- The gateway, the worker and the planner use the manifest that is in effect. -/
structure ManifestReadersAgree (service : Service) (workspaceId : String) (db : Database) :
    Prop where
  binder : binderManifest workspaceId (gatewayDefinition workspaceId db) =
    effectiveManifest? service workspaceId db
  driftGate : unordered (Workers.driftGateManifest
      (activePolicyRow? workspaceId "semantic_manifest" db)) =
    unordered ((effectiveManifest? service workspaceId db).map SemanticManifest.toFields)
  planner : unordered (AiService.loadEffectiveSemanticManifest
      (activePolicyRow? workspaceId "semantic_manifest" db)) =
    unordered ((effectiveManifest? service workspaceId db).map SemanticManifest.toFields)

def IsEffectiveState (service : Service) (workspaceId : String) (state : Fields) : Prop :=
  ∃ manifest version before, state = nextState service workspaceId manifest version before

/-- Keys are unique, and the definition of a row of the active type is an effective state. -/
structure ManifestRows (service : Service) (rows : List GovernancePolicy) : Prop where
  keys_nodup : (rows.map GovernancePolicy.policyId).Nodup
  states : ∀ row ∈ rows, row.policyType = activePolicyType → ∃ state,
    row.definitionRef = storedDefinition state ∧ IsEffectiveState service row.workspaceId state

/-- No row of the active type belongs to a workspace. -/
def NoManifestRow (workspaceId : String) (rows : List GovernancePolicy) : Prop :=
  ∀ row ∈ rows, row.workspaceId = workspaceId → row.policyType ≠ activePolicyType

section Rows

variable {service : Service} {rows after : List GovernancePolicy}

theorem ManifestRows.eq_of_key (h : ManifestRows service rows) {row other : GovernancePolicy}
    (hrow : row ∈ rows) (hother : other ∈ rows) (hkey : other.policyId = row.policyId) :
    other = row :=
  List.inj_on_of_nodup_map h.keys_nodup hother hrow hkey

theorem ManifestRows.insert (h : ManifestRows service rows) {row : GovernancePolicy}
    (hinsert : insertRow GovernancePolicy.policyId rows row = .ok after)
    (hstate : row.policyType = activePolicyType → ∃ state,
      row.definitionRef = storedDefinition state ∧ IsEffectiveState service row.workspaceId state) :
    ManifestRows service after := by
  obtain ⟨rfl, hnew⟩ := insertRow_eq_ok hinsert
  constructor
  · rw [List.map_append, List.map_singleton, List.nodup_append]
    refine ⟨h.keys_nodup, List.nodup_singleton _, fun key hkey new hnewKey ↦ ?_⟩
    obtain ⟨other, hother, rfl⟩ := List.mem_map.mp hkey
    rw [List.mem_singleton.mp hnewKey]
    exact hnew other hother
  · intro other hother
    rcases List.mem_append.mp hother with hold | hlast
    · exact h.states other hold
    · rw [List.mem_singleton.mp hlast]
      exact hstate

theorem ManifestRows.rewrite (h : ManifestRows service rows) {policyId status : String}
    {definition : Fields}
    (hstate : ∀ row ∈ rows, row.policyId = policyId → row.policyType = activePolicyType →
      IsEffectiveState service row.workspaceId definition) :
    ManifestRows service (rows.map (GovernancePolicy.rewritten policyId definition status)) := by
  constructor
  · rw [List.map_map]
    simpa [Function.comp_def] using h.keys_nodup
  · intro row hrow htype
    obtain ⟨old, hold, rfl⟩ := List.mem_map.mp hrow
    rw [rewritten_policyType] at htype
    rw [rewritten_workspaceId]
    by_cases hkey : old.policyId = policyId
    · refine ⟨definition, ?_, hstate old hold hkey htype⟩
      rw [GovernancePolicy.rewritten, if_pos hkey]
    · rw [GovernancePolicy.rewritten, if_neg hkey]
      exact h.states old hold htype

/-- The active row is a row of the workspace and of the active type. -/
theorem activeSemanticManifestRow?_eq_some {workspaceId : String} {db : Database}
    {row : GovernancePolicy} (h : activeSemanticManifestRow? workspaceId db = some row) :
    row ∈ db.policies ∧ row.workspaceId = workspaceId ∧ row.policyType = activePolicyType := by
  have hfound := List.find?_some h
  rw [decide_eq_true_iff] at hfound
  exact ⟨List.mem_of_find?_eq_some h, hfound.1, hfound.2.1⟩

theorem ManifestRows.writeActive {db : Database} (h : ManifestRows service db.policies)
    {workspaceId : String} {state : Fields} {written : List GovernancePolicy}
    (hstate : IsEffectiveState service workspaceId state)
    (hwritten : ActiveStateWritten workspaceId state db.policies written
      (activeSemanticManifestRow? workspaceId db)) : ManifestRows service written := by
  cases hrow : activeSemanticManifestRow? workspaceId db with
  | none =>
    rw [hrow] at hwritten
    obtain ⟨policyId, hinserted⟩ := hwritten
    exact h.insert hinserted fun _ ↦ ⟨state, rfl, hstate⟩
  | some row =>
    rw [hrow] at hwritten
    obtain ⟨hmem, hworkspace, -⟩ := activeSemanticManifestRow?_eq_some hrow
    rw [show written = _ from hwritten]
    refine h.rewrite fun other hother hkey _ ↦ ?_
    rw [h.eq_of_key hmem hother hkey, hworkspace]
    exact hstate

/-- Writing the active state changes no row into one of the active type. -/
theorem not_active_of_written (h : ManifestRows service rows) {workspaceId : String}
    {state : Fields} {written : List GovernancePolicy} {activeRow : Option GovernancePolicy}
    (hwritten : ActiveStateWritten workspaceId state rows written activeRow)
    {row other : GovernancePolicy} (hrow : row ∈ rows) (htype : row.policyType ≠ activePolicyType)
    (hother : other ∈ written) (hkey : other.policyId = row.policyId) :
    other.policyType ≠ activePolicyType := by
  cases activeRow with
  | none =>
    obtain ⟨policyId, hinserted⟩ := hwritten
    obtain ⟨rfl, hnew⟩ := insertRow_eq_ok hinserted
    rcases List.mem_append.mp hother with hold | hlast
    · rwa [h.eq_of_key hrow hold hkey]
    · rw [List.mem_singleton.mp hlast] at hkey
      exact absurd hkey.symm (hnew row hrow)
  | some active =>
    rw [show written = _ from hwritten] at hother
    obtain ⟨old, hold, rfl⟩ := List.mem_map.mp hother
    rw [rewritten_policyId] at hkey
    rwa [rewritten_policyType, h.eq_of_key hrow hold hkey]

end Rows

theorem changeRequestPolicyType_ne : changeRequestPolicyType ≠ activePolicyType := by decide

/-- Every step keeps the rows those of the lifecycle. -/
theorem ManifestRows.step {service : Service} {db : Database} {after : List GovernancePolicy}
    {operation : ManifestOperation} (h : ManifestRows service db.policies)
    (hstep : ManifestStep service db after operation) : ManifestRows service after := by
  cases hstep with
  | unchanged rows_eq => rwa [rows_eq]
  | requested manifest_eq current_eq differs inserted =>
    exact h.insert inserted fun htype ↦ absurd htype changeRequestPolicyType_ne
  | decided row_eq decided =>
    obtain ⟨hmem, hkey, -, htype⟩ := changeRequestRow?_eq_some row_eq
    have hrequest := htype.trans_ne changeRequestPolicyType_ne
    cases decided with
    | declined word_ne rows_eq =>
      rw [rows_eq]
      refine h.rewrite fun other hother hsame hactive ↦ ?_
      rw [h.eq_of_key hmem hother hsame] at hactive
      exact absurd hactive hrequest
    | applied word_eq manifest_eq version_eq state_written rows_eq =>
      rw [rows_eq]
      refine (h.writeActive ⟨_, _, _, rfl⟩ state_written).rewrite fun other hother hsame hactive ↦ ?_
      exact absurd hactive
        (not_active_of_written h state_written hmem hrequest hother (hsame.trans hkey.symm))
  | rolledBack row_eq previous_eq manifest_eq version_eq rows_eq =>
    obtain ⟨hmem, hworkspace, -⟩ := activeSemanticManifestRow?_eq_some row_eq
    rw [rows_eq]
    refine h.rewrite fun other hother hsame _ ↦ ?_
    rw [h.eq_of_key hmem hother hsame, hworkspace]
    exact ⟨_, _, _, rfl⟩

theorem manifestRows_run {service : Service} {operations : List ManifestOperation} {world : World}
    (h : ManifestRows service world.db.policies) :
    ManifestRows service (runManifest service operations world).db.policies := by
  induction operations generalizing world with
  | nil => exact h
  | cons first rest ih => exact ih (h.step (manifestStep_perform service world first))

def ManifestOperation.Approves (workspaceId : String) : ManifestOperation → Prop
  | .decide decidedWorkspaceId _ _ decision _ =>
    decidedWorkspaceId = workspaceId ∧ normalizedDecision decision = "approve"
  | _ => False

theorem NoManifestRow.insert {workspaceId : String} {rows after : List GovernancePolicy}
    (h : NoManifestRow workspaceId rows) {row : GovernancePolicy}
    (hinsert : insertRow GovernancePolicy.policyId rows row = .ok after)
    (hrow : row.workspaceId = workspaceId → row.policyType ≠ activePolicyType) :
    NoManifestRow workspaceId after := by
  obtain ⟨rfl, -⟩ := insertRow_eq_ok hinsert
  intro other hother
  rcases List.mem_append.mp hother with hold | hlast
  · exact h other hold
  · rw [List.mem_singleton.mp hlast]
    exact hrow

theorem NoManifestRow.rewrite {workspaceId : String} {rows : List GovernancePolicy}
    (h : NoManifestRow workspaceId rows) (policyId status : String) (definition : Fields) :
    NoManifestRow workspaceId
      (rows.map (GovernancePolicy.rewritten policyId definition status)) := by
  intro row hrow
  obtain ⟨old, hold, rfl⟩ := List.mem_map.mp hrow
  rw [rewritten_workspaceId, rewritten_policyType]
  exact h old hold

/-- Only an approval gives a workspace an active row. -/
theorem NoManifestRow.step {service : Service} {db : Database} {after : List GovernancePolicy}
    {operation : ManifestOperation} {workspaceId : String} (h : NoManifestRow workspaceId db.policies)
    (hoperation : ¬operation.Approves workspaceId)
    (hstep : ManifestStep service db after operation) : NoManifestRow workspaceId after := by
  cases hstep with
  | unchanged rows_eq => rwa [rows_eq]
  | requested manifest_eq current_eq differs inserted =>
    exact h.insert inserted fun _ ↦ changeRequestPolicyType_ne
  | decided row_eq decided =>
    cases decided with
    | declined word_ne rows_eq =>
      rw [rows_eq]
      exact h.rewrite _ _ _
    | @applied decidedManifest version written word_eq manifest_eq version_eq state_written rows_eq =>
      rw [rows_eq]
      refine NoManifestRow.rewrite ?_ _ _ _
      have hother := fun heq ↦ hoperation ⟨heq, word_eq⟩
      revert state_written
      cases activeSemanticManifestRow? _ db with
      | none =>
        rintro ⟨policyId, hinserted⟩
        exact h.insert hinserted fun heq ↦ absurd heq hother
      | some active =>
        intro hwritten
        rw [show written = _ from hwritten]
        exact h.rewrite _ _ _
  | rolledBack row_eq previous_eq manifest_eq version_eq rows_eq =>
    rw [rows_eq]
    exact h.rewrite _ _ _

theorem noManifestRow_run {service : Service} {operations : List ManifestOperation} {world : World}
    {workspaceId : String} (h : NoManifestRow workspaceId world.db.policies)
    (hoperations : ∀ operation ∈ operations, ¬operation.Approves workspaceId) :
    NoManifestRow workspaceId (runManifest service operations world).db.policies := by
  induction operations generalizing world with
  | nil => exact h
  | cons first rest ih =>
    rw [List.forall_mem_cons] at hoperations
    exact ih (h.step hoperations.1 (manifestStep_perform service world first)) hoperations.2

theorem activeRow?_eq_none {workspaceId : String} {db : Database}
    (h : NoManifestRow workspaceId db.policies) :
    activePolicyRow? workspaceId "semantic_manifest" db = none := by
  refine List.find?_eq_none.mpr fun row hrow hfound ↦ ?_
  rw [decide_eq_true_iff] at hfound
  exact h row hrow hfound.1 hfound.2.1

/-- Where nothing is in effect no reader finds a manifest. -/
theorem manifestReadersAgree_of_no_row {service : Service} {workspaceId : String} {db : Database}
    (h : activePolicyRow? workspaceId "semantic_manifest" db = none) :
    ManifestReadersAgree service workspaceId db := by
  have heffective : effectiveManifest? service workspaceId db = none := by
    rw [effectiveManifest?, activeSemanticManifestRow?,
      show activePolicyRow? workspaceId activePolicyType db = none from h]
    rfl
  refine ⟨?_, ?_, ?_⟩
  · rw [heffective, gatewayDefinition, h]
    rfl
  · rw [heffective, h]
    rfl
  · rw [heffective, h]
    rfl

/-- The drift gate finds an empty manifest in an active row of the lifecycle. -/
theorem driftGateManifest_of_row {service : Service} {db : Database} {workspaceId : String}
    {row : GovernancePolicy} (h : ManifestRows service db.policies)
    (hrow : activePolicyRow? workspaceId "semantic_manifest" db = some row) :
    Workers.driftGateManifest (activePolicyRow? workspaceId "semantic_manifest" db) = some [] := by
  obtain ⟨hmem, -, htype⟩ := activeSemanticManifestRow?_eq_some hrow
  obtain ⟨_, hdefinition, manifest, version, before, rfl⟩ := h.states row hmem htype
  have hloaded : row.definitionRef.bind asObj? = some (loadDefinition row.definitionRef) := by
    rw [hdefinition]
    rfl
  have hfield : get? (loadDefinition row.definitionRef) "semantic_manifest" = none := by
    rw [hdefinition, get?_loadDefinition]
    rfl
  rw [hrow, Workers.driftGateManifest, Option.bind_some, hloaded, Option.bind_some, getD, hfield]
  rfl

/-- The manifest in effect is no empty mapping. -/
theorem unordered_effective_ne (service : Service) (workspaceId : String) (db : Database) :
    unordered (some []) ≠
      unordered ((effectiveManifest? service workspaceId db).map SemanticManifest.toFields) := by
  cases effectiveManifest? service workspaceId db with
  | none =>
    intro h
    cases h
  | some manifest =>
    intro h
    have hfields := Option.some.inj h
    have hversion := get?_of_canon_eq hfields "manifest_version"
    cases hversion

/-- The gateway binds queries to the manifest the control plane reports. -/
theorem binderManifest_eq_effective {service : Service} {db : Database}
    (h : ManifestRows service db.policies) (workspaceId : String) :
    binderManifest workspaceId (gatewayDefinition workspaceId db) =
      effectiveManifest? service workspaceId db := by
  unfold gatewayDefinition effectiveManifest? activeSemanticManifestRow? activePolicyType
  cases hrow : activePolicyRow? workspaceId "semantic_manifest" db with
  | none => rfl
  | some row =>
    obtain ⟨hmem, -, htype⟩ := activeSemanticManifestRow?_eq_some hrow
    obtain ⟨_, hdefinition, manifest, version, before, rfl⟩ := h.states row hmem htype
    have hmanifest : get? (loadDefinition row.definitionRef) "manifest" =
        some (canon (.obj manifest.toFields)) := by
      rw [hdefinition, get?_loadDefinition]
      rfl
    have hversion : get? (loadDefinition row.definitionRef) "version" = some (.int version) := by
      rw [hdefinition, get?_loadDefinition]
      rfl
    have hloaded : row.definitionRef.bind asObj? = some (loadDefinition row.definitionRef) := by
      rw [hdefinition]
      rfl
    rw [Option.map_some, binderManifest, Option.bind_some, hloaded, Option.bind_some, hmanifest,
      Option.bind_some, canon, asObj?, Option.bind_some, effectiveSemanticManifest, effectiveState,
      hmanifest, Option.bind_some, canon, asObj?, hversion]
    dsimp only
    rw [validatedManifest]
    cases validateSemanticManifest (sortFields (canonFields manifest.toFields))
      (some workspaceId) with
    | error message => rfl
    | ok normalized => rfl

/-- Whatever is in effect, the drift gate of a state the lifecycle reached queues nothing. -/
theorem driftGate_passes {service : Service} {world : World}
    (h : ManifestRows service world.db.policies) (lowerCase : String → String) (now : ℤ)
    (workspaceId : String) :
    Workers.createSemanticDriftReviewTaskIfNeeded service lowerCase now workspaceId world =
      (.ok 0, world) := by
  rw [Workers.createSemanticDriftReviewTaskIfNeeded, bind_apply, query_apply]
  dsimp only
  cases hrow : activePolicyRow? workspaceId "semantic_manifest" world.db with
  | none => rfl
  | some row =>
    have hgate := driftGateManifest_of_row h hrow
    rw [hrow] at hgate
    rw [hgate]
    dsimp only
    rw [bind_apply, query_apply]
    dsimp only
    have hnone : truthy (getD (Workers.detectSemanticManifestDrift lowerCase []
        (Workers.availableColumnsByDataset lowerCase workspaceId world.db)) "drift_detected"
          (.bool false)) = false := rfl
    split_ifs
    · rfl
    · rfl

/-- Whatever is in effect, the planner refuses every question. -/
theorem planner_refuses {service : Service} {db : Database} (h : ManifestRows service db.policies)
    (lowerCase : String → String) (workspaceId question : String) (metricId : Option String)
    (groupBy : Option (List String)) :
    AiService.generateSqlAgentPlan lowerCase workspaceId question metricId groupBy db =
      .error "semantic_manifest_missing" := by
  unfold AiService.generateSqlAgentPlan
  cases hrow : activePolicyRow? workspaceId "semantic_manifest" db with
  | none => rfl
  | some row =>
    have hgate := driftGateManifest_of_row h hrow
    rw [hrow] at hgate
    have hplanner : AiService.loadEffectiveSemanticManifest (some row) = some [] := hgate
    rw [hplanner]
    rfl

/-- In every run the readers agree on the manifest of a workspace exactly while it has no active
row, and they do in particular while no change of it was approved. -/
theorem manifestReadersAgree_iff (service : Service) (start : World)
    (operations : List ManifestOperation) (workspaceId : String)
    (hkeys : (start.db.policies.map GovernancePolicy.policyId).Nodup)
    (hstart : ∀ row ∈ start.db.policies, row.policyType ≠ activePolicyType) :
    (ManifestReadersAgree service workspaceId (runManifest service operations start).db ↔
      activeSemanticManifestRow? workspaceId (runManifest service operations start).db = none) ∧
    ((∀ operation ∈ operations, ¬operation.Approves workspaceId) →
      ManifestReadersAgree service workspaceId (runManifest service operations start).db) := by
  have hrows : ManifestRows service (runManifest service operations start).db.policies :=
    manifestRows_run ⟨hkeys, fun row hrow htype ↦ absurd htype (hstart row hrow)⟩
  refine ⟨⟨fun hagree ↦ ?_, manifestReadersAgree_of_no_row⟩, fun hoperations ↦ ?_⟩
  · cases hrow : activeSemanticManifestRow? workspaceId (runManifest service operations start).db with
    | none => rfl
    | some row =>
      have hgate := hagree.driftGate
      rw [driftGateManifest_of_row hrows hrow] at hgate
      exact absurd hgate (unordered_effective_ne service workspaceId _)
  · refine manifestReadersAgree_of_no_row (activeRow?_eq_none (noManifestRow_run ?_ hoperations))
    exact fun row hrow _ ↦ hstart row hrow

def salesManifest : Fields :=
  [("manifest_version", .str "1"), ("workspace_id", .str "w1"),
    ("entities", .arr [.obj [("entity_id", .str "sale"), ("dataset_id", .str "d1"),
      ("primary_key", .str "id"), ("attributes", textList ["region"])]]),
    ("metrics", .arr [.obj [("metric_id", .str "revenue"), ("entity_id", .str "sale"),
      ("aggregation", .str "sum"), ("field", .str "amount")]])]

/-- A change of the manifest of `w1` and what is decided on it. -/
def changedBy (decision : String) : List ManifestOperation :=
  [.request 7 "w1" "steward" salesManifest, .decide "w1" "2" "steward" decision "checked"]

/-- A workspace `w1` without policies. -/
def freshWorld : World where
  db := { Database.empty with workspaces := ["w1"] }
  files := FileTree.empty
  issued := 0

/-- The local service with a digest of two values. -/
def parityService : Service where
  storageRoot := localService.storageRoot
  retentionPurgeRoot := localService.retentionPurgeRoot
  auditSinkMode := localService.auditSinkMode
  resolvePath := localService.resolvePath
  codec := ⟨fun text ↦ if text.length % 2 = 0 then "00" else "11", localService.codec.encryptPayload⟩
  newUlid := localService.newUlid
  toFloat := localService.toFloat
  epochJson := localService.epochJson

theorem strip_parityDigest (text : String) :
    Text.strip (parityService.codec.sha256Hex text) = parityService.codec.sha256Hex text := by
  change Text.strip (if text.length % 2 = 0 then "00" else "11") =
    if text.length % 2 = 0 then "00" else "11"
  split_ifs <;> decide

theorem rejected_change_agrees :
    (ManifestReadersAgree localService "w1"
        (runManifest localService (changedBy "reject") freshWorld).db ↔
      activeSemanticManifestRow? "w1"
        (runManifest localService (changedBy "reject") freshWorld).db = none) ∧
    ((∀ operation ∈ changedBy "reject", ¬operation.Approves "w1") →
      ManifestReadersAgree localService "w1"
        (runManifest localService (changedBy "reject") freshWorld).db) :=
  manifestReadersAgree_iff localService freshWorld (changedBy "reject") "w1" List.nodup_nil
    fun _ hrow ↦ (List.not_mem_nil hrow).elim

/-- What the readers see after a run: the binder the effective manifest, the drift gate and the planner
none, whatever was made effective. -/
theorem readers_over_runs (service : Service) (lowerCase : String → String) (start : World)
    (operations : List ManifestOperation) (workspaceId : String)
    (hkeys : (start.db.policies.map GovernancePolicy.policyId).Nodup)
    (hstart : ∀ row ∈ start.db.policies, row.policyType ≠ activePolicyType) :
    let reached := runManifest service operations start
    binderManifest workspaceId (gatewayDefinition workspaceId reached.db) =
        effectiveManifest? service workspaceId reached.db ∧
      (∀ now, Workers.createSemanticDriftReviewTaskIfNeeded service lowerCase now workspaceId
        reached = (.ok 0, reached)) ∧
      ∀ question metricId groupBy, AiService.generateSqlAgentPlan lowerCase workspaceId question
        metricId groupBy reached.db = .error "semantic_manifest_missing" := by
  intro reached
  have hrows : ManifestRows service reached.db.policies :=
    manifestRows_run ⟨hkeys, fun row hrow htype ↦ absurd htype (hstart row hrow)⟩
  exact ⟨binderManifest_eq_effective hrows workspaceId,
    fun now ↦ driftGate_passes hrows lowerCase now workspaceId,
    fun question metricId groupBy ↦
      planner_refuses hrows lowerCase workspaceId question metricId groupBy⟩

theorem approved_change_bound :
    binderManifest "w1" (gatewayDefinition "w1"
        (runManifest localService (changedBy "approve") freshWorld).db) ≠ none ∧
      AiService.generateSqlAgentPlan id "w1" "revenue" (some "revenue") none
        (runManifest localService (changedBy "approve") freshWorld).db =
          .error "semantic_manifest_missing" := by
  obtain ⟨hbound, -, hrefused⟩ := readers_over_runs localService id freshWorld (changedBy "approve")
    "w1" List.nodup_nil fun _ hrow ↦ (List.not_mem_nil hrow).elim
  have heffective : (effectiveManifest? localService "w1"
      (runManifest localService (changedBy "approve") freshWorld).db).isSome = true := by
    decide +kernel
  exact ⟨hbound ▸ Option.isSome_iff_ne_none.mp heffective, hrefused "revenue" (some "revenue") none⟩

/-- After the first approved change the readers disagree. -/
theorem approved_change_unseen :
    ¬∀ (service : Service) (start : World) (operations : List ManifestOperation)
      (workspaceId : String), (start.db.policies.map GovernancePolicy.policyId).Nodup →
      (∀ row ∈ start.db.policies, row.policyType ≠ activePolicyType) →
      ManifestReadersAgree service workspaceId (runManifest service operations start).db := by
  intro h
  have hagree := h localService freshWorld (changedBy "approve") "w1" List.nodup_nil
    fun _ hrow ↦ (List.not_mem_nil hrow).elim
  have hgate : unordered (Workers.driftGateManifest (activePolicyRow? "w1" "semantic_manifest"
      (runManifest localService (changedBy "approve") freshWorld).db)) ≠
      unordered ((effectiveManifest? localService "w1"
        (runManifest localService (changedBy "approve") freshWorld).db).map
          SemanticManifest.toFields) := by decide +kernel
  exact hgate hagree.driftGate

end SchemaPilot.ControlPlane
