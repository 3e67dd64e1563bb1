import SchemaPilot.Gateway.Recording
import SchemaPilot.Gateway.SlotAccounting

/-!
# Simulating the policy stages

The handler of `/api/v1/gateway/policy/simulate` in `backend/gateway/app.py`, and its agreement with
the query endpoint: the access check of a query (`guarded`) and its ABAC check (`limitedQuery`) deny
an actor with the reason the simulation reports, and let through one the simulation allows, under the
filters and masks it reports (`simulation_agrees`).
-/

namespace SchemaPilot.Gateway

open Library Library.Program Library.Text Library.Json SharedDomain

structure SimulationResponse where
  workspaceId : String
  action : String
  result : String
  reason : String
  appliedFilters : Fields
  appliedMasks : Fields
  policyDecisionId : String
  requestId : String

/-- The actor whose access is simulated, by default the caller. -/
def previewOf (payload caller : Fields) : Fields :=
  ((get? payload "actor").bind asObj?).getD caller

def maySimulate (caller : Fields) : Bool :=
  ((listOrEmpty (get? caller "roles")).map toStr).any fun role ↦
    role == "data_steward" || role == "platform_admin"

/-- `action` of a payload. -/
def actionOf (payload : Fields) : String := (getD payload "action" (.str "query")).toStr

/-- The result of the two policies together. -/
def combinedResult (access : AccessDecision) (abac : AbacDecision) : String :=
  if access.result = "allow" ∧ abac.allow = true then "allow" else "deny"

/-- The reason of the two policies together: the one of the first that denies. -/
def combinedReason (access : AccessDecision) (abac : AbacDecision) : String :=
  if combinedResult access abac = "deny" then
    if access.result = "allow" then abac.reason else access.reason
  else "allow"

def simulationReport (context : DecisionContext) (payload preview : Fields) : SimulationResponse :=
  let access := evaluateAccess preview
    ((getD (attributesOf preview) "ai_allowlisted" (.bool false)).truthy)
  let abac := evaluateAbac preview (resourceAttributesOf payload)
    (getD payload "abac_mode" (.str "internal")).toStr
  { workspaceId := context.workspaceId
    action := actionOf payload
    result := combinedResult access abac
    reason := combinedReason access abac
    appliedFilters := serializeRowFilter abac.rowFilter
    appliedMasks := masksFields abac.masks
    policyDecisionId := context.policyDecisionId
    requestId := context.correlationId }

/-- The steps of a simulation for a caller who may simulate. -/
def simulated (context : DecisionContext) (payload caller : Fields) :
    Handler SimulationResponse := do
  let preview := previewOf payload caller
  let report := simulationReport context payload preview
  recordAccessDecision context (actorIdOf caller) report.result report.reason
    [("endpoint", .str context.endpoint), ("action", .str report.action),
      ("actor_preview", .obj
        [("actor_type", .str (getD preview "actor_type" (.str "human")).toStr),
          ("roles", getD preview "roles" (.arr []))])]
    report.appliedFilters report.appliedMasks
  pure report

/-- `policy_simulate`. -/
def policySimulate (request : Request) : Handler SimulationResponse := do
  let policyDecisionId ← ask .newUlid
  let authenticated ← ask .authenticatedActor
  let context : DecisionContext :=
    ⟨workspaceIdOf request.payload, requestContextOf request.payload, policyDecisionId,
      "policy_simulate", request.requestId⟩
  match authenticated with
  | none => deny context "unknown" "missing_or_invalid_auth_token" [] []
  | some caller =>
    if maySimulate caller = false then
      deny context (actorIdOf caller) "simulation_forbidden" [] []
    else simulated context request.payload caller

theorem policySimulate_ok {request : Request} {events : List GatewayEvent}
    {response : SimulationResponse}
    (h : Run (policySimulate request) events (.ok response)) :
    ∃ caller context, ⟨.authenticatedActor, .ok (some caller)⟩ ∈ events ∧
      response = simulationReport context request.payload (previewOf request.payload caller) := by
  unfold policySimulate at h
  obtain ⟨policyDecisionId, rest, rfl, hdrawn⟩ := h.perform_ok
  obtain ⟨authenticated, rest, rfl, hauthenticated⟩ := hdrawn.perform_ok
  cases authenticated with
  | none =>
    obtain ⟨_, hfalse⟩ := deny_run hauthenticated
    cases hfalse
  | some caller =>
    by_cases hforbidden : maySimulate caller = false
    · simp only [if_pos hforbidden] at hauthenticated
      obtain ⟨_, hfalse⟩ := deny_run hauthenticated
      cases hfalse
    simp only [if_neg hforbidden] at hauthenticated
    unfold simulated at hauthenticated
    obtain ⟨first, second, _, -, -, hpure⟩ := hauthenticated.bind_ok
    · exact ⟨caller, _, by simp, Except.ok.inj ((run_pure_iff _ _ _).mp hpure).2⟩

theorem simulationReport_eq (context : DecisionContext) (payload preview : Fields) :
    (simulationReport context payload preview).result =
        combinedResult (queryAccess preview) (abacOf payload preview) ∧
      (simulationReport context payload preview).reason =
        combinedReason (queryAccess preview) (abacOf payload preview) ∧
      (simulationReport context payload preview).appliedFilters =
        serializeRowFilter (abacOf payload preview).rowFilter ∧
      (simulationReport context payload preview).appliedMasks =
        masksFields (abacOf payload preview).masks := by
  simp only [simulationReport, queryAccess, abacOf, and_self]

theorem combined_of_access_denied {access : AccessDecision} (h : access.result ≠ "allow")
    (abac : AbacDecision) :
    combinedResult access abac = "deny" ∧ combinedReason access abac = access.reason := by
  simp [combinedResult, combinedReason, h]

theorem combined_of_abac_denied {access : AccessDecision} {abac : AbacDecision}
    (haccess : access.result = "allow") (habac : abac.allow = false) :
    combinedResult access abac = "deny" ∧ combinedReason access abac = abac.reason := by
  simp [combinedResult, combinedReason, haccess, habac]

theorem combined_of_allowed {access : AccessDecision} {abac : AbacDecision}
    (haccess : access.result = "allow") (habac : abac.allow = true) :
    combinedResult access abac = "allow" ∧ combinedReason access abac = "allow" := by
  simp [combinedResult, combinedReason, haccess, habac]

/-- A request ended in a denial, and what it tried to record is a denial for a reason. -/
def DeniedFor {α : Type} (reason : String) (events : List GatewayEvent)
    (result : Except Exn α) : Prop :=
  (∃ exception, result = .error exception) ∧
    ∀ attempt ∈ attempts events, attempt.1.result = "deny" ∧ attempt.1.reason = reason

theorem recordAccessDecision_attempts {context : DecisionContext} {actorId result reason : String}
    {resources filters masks : Fields} {events : List GatewayEvent} {outcome : Except Exn Unit}
    (h : Run (recordAccessDecision context actorId result reason resources filters masks) events
      outcome) :
    ∀ attempt ∈ attempts events, attempt.1.result = result ∧ attempt.1.reason = reason := by
  have honly : Only (fun op ↦ ∀ record, op = .commitAccessDecision record →
      record.result = result ∧ record.reason = reason)
      (recordAccessDecision context actorId result reason resources filters masks) := by
    unfold recordAccessDecision
    refine Only.bind ((only_perform _ _).mpr fun record heq ↦ by cases heq) fun auditEventId ↦ ?_
    refine Only.tryExcept ((only_perform _ _).mpr fun record heq ↦ ?_) fun exception ↦ ?_
    · cases heq
      exact ⟨rfl, rfl⟩
    · cases exception <;> exact only_raise _ _
  rintro ⟨record, answer⟩ hattempt
  exact (honly.after h).1 _ (mem_attempts.mp hattempt) record rfl

theorem denyWith_deniedFor {α : Type} {context : DecisionContext}
    {actorId message reason : String} {resources filters masks details : Fields}
    {events : List GatewayEvent} {result : Except Exn α}
    (h : Run (denyWith context actorId message reason resources filters masks details :
      Handler α) events result) : DeniedFor reason events result := by
  refine ⟨denyWith_run h, ?_⟩
  unfold denyWith at h
  rcases (run_bind_iff _ _ _ _).mp h with ⟨exception, hrecord, -⟩ |
    ⟨first, second, _, rfl, hrecord, hraise⟩
  · exact recordAccessDecision_attempts hrecord
  · obtain ⟨rfl, -⟩ := (run_raise_iff _ _ _).mp hraise
    rw [List.append_nil]
    exact recordAccessDecision_attempts hrecord

/-- What an endpoint does for the actor it authenticated. -/
def admission {α : Type} (endpoint : String) (access : Fields → AccessDecision) (request : Request)
    (body : DecisionContext → Fields → Option PolicyPack → Handler α)
    (policyPack : Option PolicyPack) (authenticated : Option Fields) : Handler α := do
  let policyDecisionId ← ask .newUlid
  let context : DecisionContext :=
    ⟨workspaceIdOf request.payload, requestContextOf request.payload, policyDecisionId, endpoint,
      request.requestId⟩
  match authenticated with
  | none => deny context "unknown" "missing_or_invalid_auth_token" [] []
  | some actor =>
    if (access actor).result ≠ "allow" then
      deny context (actorIdOf actor) (access actor).reason [] []
    else do
      let decision ← ask (.tryAcquire (actorIdOf actor))
      if decision.allowed = false then deny context (actorIdOf actor) decision.reason [] []
      else body context actor policyPack

theorem only_admission {α : Type} {endpoint : String} {access : Fields → AccessDecision}
    {request : Request} {body : DecisionContext → Fields → Option PolicyPack → Handler α}
    (hbody : ∀ context actor policyPack,
      Only (fun op ↦ op.kind ≠ .authentication) (body context actor policyPack))
    (policyPack : Option PolicyPack) (authenticated : Option Fields) :
    Only (fun op ↦ op.kind ≠ .authentication)
      (admission endpoint access request body policyPack authenticated) := by
  have hdeny : ∀ (context : DecisionContext) (actorId reason : String),
      Only (fun op ↦ op.kind ≠ .authentication)
        (deny context actorId reason [] [] : Handler α) := by
    intro context actorId reason
    refine Only.mono (fun op hop hkind ↦ ?_) (calling_deny context actorId reason [] [])
    rw [hkind] at hop
    exact absurd hop (by decide)
  unfold admission
  refine Only.bind (by simp [GatewayOp.kind]) fun policyDecisionId ↦ ?_
  cases authenticated with
  | none => exact hdeny _ _ _
  | some actor =>
    refine Only.ite (fun _ ↦ hdeny _ _ _) fun _ ↦ ?_
    exact Only.bind (by simp [GatewayOp.kind]) fun decision ↦
      Only.ite (fun _ ↦ hdeny _ _ _) fun _ ↦ hbody _ _ _

theorem guarded_authenticated {α : Type} {endpoint : String} {access : Fields → AccessDecision}
    {request : Request} {body : DecisionContext → Fields → Option PolicyPack → Handler α}
    (hbody : ∀ context actor policyPack,
      Only (fun op ↦ op.kind ≠ .authentication) (body context actor policyPack))
    {events : List GatewayEvent} {result : Except Exn α} {actor : Fields}
    (h : Run (guarded endpoint access request body) events result)
    (hactor : ⟨.authenticatedActor, .ok (some actor)⟩ ∈ events) :
    ∃ first rest policyPack, events = first ++ rest ∧ attempts first = [] ∧
      Run (admission endpoint access request body policyPack (some actor)) rest result := by
  have hload := calling_loadEffectivePolicyPack (workspaceIdOf request.payload)
  have hfree : ∀ {first : List GatewayEvent} {p : Handler (Option PolicyPack)},
      After (loadEffectivePolicyPack (workspaceIdOf request.payload)) first p →
      (⟨.authenticatedActor, .ok (some actor)⟩ : GatewayEvent) ∉ first := by
    intro first p hfirst hmem
    exact absurd ((hload.after hfirst).1 _ hmem) (by simp [GatewayOp.kind])
  rcases (run_bind_iff _ _ _ _).mp h with ⟨exception, hfirst, -⟩ |
    ⟨first, rest, policyPack, rfl, hfirst, hloaded⟩
  · exact absurd hactor (hfree hfirst)
  have hnone := hload.attempts_eq_nil (by decide) hfirst
  rcases (run_perform_bind_iff _ _ _ _).mp hloaded with ⟨exception, rfl, -⟩ |
    ⟨authenticated, rest, rfl, hadmission⟩
  · rcases List.mem_append.mp hactor with hmem | hmem
    · exact absurd hmem (hfree hfirst)
    · cases List.mem_singleton.mp hmem
  refine ⟨first ++ [⟨.authenticatedActor, .ok authenticated⟩], rest, policyPack, by simp, ?_, ?_⟩
  · rw [attempts_append, hnone]
    rfl
  · rcases List.mem_append.mp hactor with hmem | hmem
    · exact absurd hmem (hfree hfirst)
    rcases List.mem_cons.mp hmem with heq | hmem
    · cases heq
      exact hadmission
    · have honly : Only (fun op ↦ op.kind ≠ .authentication)
          (admission endpoint access request body policyPack authenticated) :=
        only_admission hbody policyPack authenticated
      exact absurd rfl ((honly.after hadmission).1 _ hmem)

theorem guarded_denies {α : Type} {endpoint : String} {access : Fields → AccessDecision}
    {request : Request} {body : DecisionContext → Fields → Option PolicyPack → Handler α}
    (hbody : ∀ context actor policyPack,
      Only (fun op ↦ op.kind ≠ .authentication) (body context actor policyPack))
    {events : List GatewayEvent} {result : Except Exn α} {actor : Fields}
    (h : Run (guarded endpoint access request body) events result)
    (hactor : ⟨.authenticatedActor, .ok (some actor)⟩ ∈ events)
    (hdenied : (access actor).result ≠ "allow") :
    DeniedFor (access actor).reason events result := by
  obtain ⟨first, rest, policyPack, rfl, hnone, hadmission⟩ := guarded_authenticated hbody h hactor
  unfold admission at hadmission
  rcases (run_perform_bind_iff _ _ _ _).mp hadmission with ⟨exception, rfl, rfl⟩ |
    ⟨policyDecisionId, second, rfl, hdeny⟩
  · refine ⟨⟨exception, rfl⟩, fun attempt hattempt ↦ ?_⟩
    rw [attempts_append, hnone] at hattempt
    exact absurd hattempt List.not_mem_nil
  · simp only [if_pos hdenied] at hdeny
    obtain ⟨hfailed, hattempts⟩ := denyWith_deniedFor hdeny
    refine ⟨hfailed, fun attempt hattempt ↦ hattempts attempt ?_⟩
    rw [attempts_append, hnone] at hattempt
    exact hattempt

/-- The ABAC check of a query denies for the reason of the policy, and otherwise passes on the
decision without a record. -/
theorem limitedQuery_decides {settings : Settings} {context : DecisionContext}
    {payload actor : Fields} {policyPack : Option PolicyPack} {target : QueryTarget}
    {events : List GatewayEvent} {result : Except Exn CheckedQuery}
    (h : Run (limitedQuery settings context payload actor policyPack target) events result) :
    ((abacOf payload actor).allow = false →
      DeniedFor (abacOf payload actor).reason events result) ∧
    ((abacOf payload actor).allow = true → attempts events = [] ∧
      ∀ checked, result = .ok checked → checked.abac = abacOf payload actor) := by
  refine ⟨fun hdenied ↦ ?_, fun hallow ↦ ⟨?_, fun checked hchecked ↦ ?_⟩⟩
  · unfold limitedQuery at h
    simp only [hdenied, if_true] at h
    exact denyWith_deniedFor h
  · have hpasses : ¬(abacOf payload actor).allow = false := by rw [hallow]; decide
    unfold limitedQuery buildQueryCacheKey at h
    rw [if_neg hpasses] at h
    rcases (run_ofExcept_bind_iff _ _ _ _).mp h with ⟨_, -, rfl, -⟩ | ⟨limits, -, hkey⟩
    · rfl
    · obtain ⟨_, hpointer, -⟩ := run_of_bind_pure hkey
      obtain ⟨_, hread, -⟩ := run_of_bind_pure hpointer
      rw [(run_perform_iff _ _ _).mp hread]
      rfl
  · exact ((limitedQuery_run h).2 checked hchecked).2.2.1

/-- The simulation of an actor and the two policy checks of a query by that actor agree: an actor the
access policy denies is denied by every run of the query that authenticates it, and one it allows
passes the access check and meets an ABAC check that denies, or passes on filters and masks, as
reported. -/
theorem simulation_agrees {platform : Platform} {settings : Settings} {simulation request : Request}
    {events : List GatewayEvent} {response : SimulationResponse} {actor : Fields}
    (h : Run (policySimulate simulation) events (.ok response))
    (hpreview : ∀ caller, ⟨.authenticatedActor, .ok (some caller)⟩ ∈ events →
      previewOf simulation.payload caller = actor)
    (hattributes : resourceAttributesOf request.payload = resourceAttributesOf simulation.payload)
    (hmode : (getD request.payload "abac_mode" (.str "internal")).toStr =
      (getD simulation.payload "abac_mode" (.str "internal")).toStr) :
    ((queryAccess actor).result ≠ "allow" → response.result = "deny" ∧
      ∀ events result, Run (query platform settings request) events result →
        ⟨.authenticatedActor, .ok (some actor)⟩ ∈ events →
          DeniedFor response.reason events result) ∧
    ((queryAccess actor).result = "allow" → ∀ context policyPack target events result,
      Run (limitedQuery settings context request.payload actor policyPack target) events result →
        response.result = "deny" ∧ DeniedFor response.reason events result ∨
        response.result = "allow" ∧ response.reason = "allow" ∧ attempts events = [] ∧
          ∀ checked, result = .ok checked →
            serializeRowFilter checked.abac.rowFilter = response.appliedFilters ∧
            masksFields checked.abac.masks = response.appliedMasks) := by
  obtain ⟨caller, context, hcaller, rfl⟩ := policySimulate_ok h
  rw [hpreview caller hcaller]
  have hsame : abacOf simulation.payload actor = abacOf request.payload actor := by
    unfold abacOf
    rw [hattributes, hmode]
  obtain ⟨hresult, hreason, hfilters, hmasks⟩ :=
    simulationReport_eq context simulation.payload actor
  rw [hresult, hreason, hfilters, hmasks, hsame]
  constructor
  · intro hdenied
    obtain ⟨hdeny, hwhy⟩ := combined_of_access_denied hdenied (abacOf request.payload actor)
    rw [hdeny, hwhy]
    refine ⟨rfl, fun events result hrun hactor ↦ ?_⟩
    refine guarded_denies (fun context actor policyPack ↦ ?_) hrun hactor hdenied
    refine Only.mono (fun op hop hkind ↦ ?_) (calling_queryAdmitted platform settings context
      request.payload actor policyPack)
    rw [hkind] at hop
    exact absurd hop (by decide)
  · intro haccess context' policyPack target events result hrun
    obtain ⟨hdenies, hallows⟩ := limitedQuery_decides hrun
    cases habac : (abacOf request.payload actor).allow with
    | false =>
      obtain ⟨hdeny, hwhy⟩ := combined_of_abac_denied haccess habac
      rw [hdeny, hwhy]
      exact Or.inl ⟨rfl, hdenies habac⟩
    | true =>
      obtain ⟨hallow, hwhy⟩ := combined_of_allowed haccess habac
      rw [hallow, hwhy]
      obtain ⟨hnone, hchecked⟩ := hallows habac
      refine Or.inr ⟨rfl, rfl, hnone, fun checked heq ↦ ?_⟩
      rw [hchecked checked heq]
      exact ⟨rfl, rfl⟩

def administrator : Fields :=
  [("actor_id", .str "p1"), ("actor_type", .str "human"), ("roles", .arr [.str "platform_admin"])]

/-- A simulation of the analyst of the region `eu` on a resource of the region `us`. -/
def regionSimulation : Request :=
  ⟨[("workspace_id", .str "ws"), ("actor", .obj euAnalyst),
    ("resource_attributes", .obj [("region", .str "us")])], "r1"⟩

def regionReport : SimulationResponse :=
  ⟨"ws", "query", "deny", "region_mismatch", [], [], "01", "r1"⟩

/-- The administrator is told that the analyst's region does not match, and the ABAC check of the
analyst's query denies for that reason. -/
theorem region_simulation_agrees :
    ∃ events, Run (policySimulate regionSimulation) events (.ok regionReport) ∧
      ∀ context policyPack target events result,
        Run (limitedQuery duckdbSettings context regionSimulation.payload euAnalyst policyPack
          target) events result → DeniedFor "region_mismatch" events result := by
  have hrun : Run (policySimulate regionSimulation)
      (history (answersTo administrator none none) (policySimulate regionSimulation))
      (.ok regionReport) := run_history (answersTo administrator none none) _
  have hagrees := @simulation_agrees ⟨id, id⟩ duckdbSettings regionSimulation regionSimulation _
    regionReport euAnalyst hrun (fun _ _ ↦ rfl) rfl rfl
  refine ⟨_, hrun, fun context policyPack target events result hlimited ↦ ?_⟩
  rcases hagrees.2 (by decide) context policyPack target events result hlimited with
    ⟨-, hdenied⟩ | ⟨hfalse, -⟩
  · exact hdenied
  · exact absurd hfalse (by decide)

end SchemaPilot.Gateway
