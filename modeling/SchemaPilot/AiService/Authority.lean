import SchemaPilot.AiService.App
import SchemaPilot.ControlPlane.Routes
import SchemaPilot.Gateway.Authority

/-!
# The authority of the AI service

An endpoint of the AI service calls the gateway or the control plane with a token that its payload
names, or with a built-in one. `downstreamCall?` is the call that a request leads to. A call adds no
authority when whatever its token is granted would have been granted to the caller's own credential
for the same request; `addsNoAuthority_iff` says when that is so.
-/

namespace SchemaPilot.AiService

open Library Library.Program Library.Text Library.Json SharedDomain
open Gateway (Endpoint GatewayState QueryTarget Grants Targets BindsTo OwnedBy workspaceIdOf
  queryAccess retrieveAccess maySimulate previewOf abacOf allowedDatasetIdsOf actorTypeOf
  actorRegion isAnalyst callerTarget)

/-- The services a call can reach. How a URL is taken apart before it is routed belongs to the web
framework: `segments` gives the path as the control plane's router sees it. -/
structure Deployment where
  ai : Service
  gateway : GatewayState
  gatewayAuth : AuthSettings
  controlPlaneAuth : AuthSettings
  segments : String → List String

/-- What a service may let a credential have: a grant of the gateway, or a resource of the control
plane. -/
inductive ServiceGrant where
  | gateway (grant : Gateway.Grant)
  | resource (path : List String)

def Authenticates (auth : AuthSettings) (headers : Headers) (actor : Fields) : Prop :=
  authenticatedActorFromRequest auth headers = .ok (some actor)

def endpointOf? (path : String) : Option Endpoint :=
  if path = "/api/v1/gateway/query" then some .query
  else if path = "/api/v1/gateway/policy/simulate" then some .policySimulate
  else if path = "/api/v1/gateway/retrieve" then some .retrieve
  else none

/-- The service of a call grants the request to a credential. -/
def ServiceGrants (deployment : Deployment) (headers : Headers) (call : ServiceCall) :
    ServiceGrant → Prop
  | .gateway grant => call.service = .gateway ∧ ∃ endpoint actor,
    endpointOf? call.path = some endpoint ∧
      Authenticates deployment.gatewayAuth headers actor ∧
      Grants deployment.gateway (call.payload.getD []) actor endpoint grant
  | .resource path => call.service = .controlPlane ∧ path = deployment.segments call.path ∧
    ∃ route, ControlPlane.routeOf? path = some route ∧
      (route.roles = none ∨
        ∃ actor, Authenticates deployment.controlPlaneAuth headers actor ∧
          route.mayRead (some actor) = true)

/-- Whatever a request to the AI service makes the gateway or the control plane grant, they would
have granted to the caller's own credential. -/
def AddsNoAuthority (deployment : Deployment) (endpoint : AiEndpoint) (request : AiRequest) : Prop :=
  ∀ events result, Run (serve deployment.ai request endpoint) events result →
    ∀ call reply, ⟨.requestJson call, reply⟩ ∈ events →
      ∀ grant, ServiceGrants deployment call.headers call grant →
        ServiceGrants deployment request.headers call grant

/-- The call a request leads to, if the caller is let in and the payload holds what the endpoint
asks for. -/
def downstreamCall? (service : Service) (request : AiRequest) (endpoint : AiEndpoint) :
    Option ServiceCall := do
  let _ ← (requireAiEnabled service request.headers).toOption
  match endpoint with
  | .askSql =>
    let (_, workspaceId, plan) ← (askSqlPlan service request.payload).toOption
    some (queryCall workspaceId request.payload plan)
  | .metricAnswer =>
    let (workspaceId, _, plan) ← (metricAnswerPlan service request.payload).toOption
    some (queryCall workspaceId request.payload plan)
  | .catalogAssistant =>
    let workspaceId ← (requiredWorkspace request.payload).toOption
    some (datasetsCall workspaceId request.payload)
  | .policyAssistant =>
    let workspaceId ← (requiredWorkspace request.payload).toOption
    some (simulationCall workspaceId request.payload)
  | .docQa =>
    let (workspaceId, question) ← (docQaQuestion request.payload).toOption
    some (retrieveCall workspaceId question request.payload)
  | _ => none

def Sends {α : Type} (p : Handler α) (call : ServiceCall) : Prop :=
  ∃ events result reply, Run p events result ∧ ⟨.requestJson call, reply⟩ ∈ events

section Sends

variable {α β : Type} {call : ServiceCall}

theorem not_sends_pure (value : α) : ¬Sends (pure value : Handler α) call := by
  rintro ⟨events, result, reply, hrun, hmem⟩
  obtain ⟨rfl, -⟩ := (run_pure_iff _ _ _).mp hrun
  exact absurd hmem List.not_mem_nil

theorem not_sends_raise (exception : Exn) : ¬Sends (raise exception : Handler α) call := by
  rintro ⟨events, result, reply, hrun, hmem⟩
  obtain ⟨rfl, -⟩ := (run_raise_iff _ _ _).mp hrun
  exact absurd hmem List.not_mem_nil

theorem sends_ofExcept_bind (value : Except Exn α) (next : α → Handler β) :
    Sends (ofExcept value >>= next) call ↔ ∃ a, value.toOption = some a ∧ Sends (next a) call := by
  cases value with
  | error exception =>
    refine iff_of_false ?_ (by simp [Except.toOption])
    exact not_sends_raise exception
  | ok a =>
    simp only [Except.toOption, Option.some.injEq, exists_eq_left']
    rfl

theorem upstream_events {made : ServiceCall} {reason : String}
    {events : List (Event ServiceOp ServiceOp.Answer Exn)} {result : Except Exn Fields}
    (h : Run (upstream made reason) events result) :
    ∃ answer, events = [⟨.requestJson made, answer⟩] := by
  rcases (run_perform_bind_iff _ _ _ _).mp h with ⟨exception, rfl, -⟩ | ⟨reply, rest, rfl, hrest⟩
  · exact ⟨_, rfl⟩
  · cases reply with
    | ok response =>
      obtain ⟨rfl, -⟩ := (run_pure_iff _ _ _).mp hrest
      exact ⟨_, rfl⟩
    | error message =>
      obtain ⟨rfl, -⟩ := (run_raise_iff _ _ _).mp hrest
      exact ⟨_, rfl⟩

theorem sends_upstream_bind {made : ServiceCall} {reason : String} {next : Fields → Handler β}
    (hnext : ∀ response, ¬Sends (next response) call) :
    Sends (upstream made reason >>= next) call ↔ made = call := by
  constructor
  · rintro ⟨events, result, reply, hrun, hmem⟩
    have honly : ∀ {first : List (Event ServiceOp ServiceOp.Answer Exn)} {outcome},
        Run (upstream made reason) first outcome → ⟨.requestJson call, reply⟩ ∈ first →
          made = call := by
      intro first outcome hfirst hcall
      obtain ⟨answer, rfl⟩ := upstream_events hfirst
      cases List.mem_singleton.mp hcall
      rfl
    rcases (run_bind_iff _ _ _ _).mp hrun with ⟨exception, hfirst, -⟩ |
      ⟨first, second, response, rfl, hfirst, hsecond⟩
    · exact honly hfirst hmem
    · rcases List.mem_append.mp hmem with hmem | hmem
      · exact honly hfirst hmem
      · exact absurd ⟨second, result, reply, hsecond, hmem⟩ (hnext response)
  · rintro rfl
    -- a call that fails ends the request
    have hfails : Run (upstream made reason) [⟨.requestJson made, .error (.other "")⟩]
        (.error (.other "")) :=
      (run_perform_bind_iff _ _ _ _).mpr (Or.inl ⟨_, rfl, rfl⟩)
    exact ⟨_, _, _, (run_bind_iff _ _ _ _).mpr (Or.inl ⟨_, hfails, rfl⟩), List.mem_singleton_self _⟩

theorem not_sends_completion (question : String) (snippetCount : ℕ)
    (body : String → Fields) :
    ¬Sends (docQaCompletion question snippetCount >>= fun completion ↦ pure (body completion))
      call := by
  rintro ⟨events, result, reply, hrun, hmem⟩
  have honly : Only (fun op ↦ ∀ made, op ≠ .requestJson made)
      (docQaCompletion question snippetCount) := by
    refine Only.tryExcept ((only_perform _ _).mpr fun made hfalse ↦ by cases hfalse) ?_
    intro exception
    cases exception <;> exact only_raise _ _
  obtain ⟨outcome, hcompletion, -⟩ := run_of_bind_pure hrun
  exact (honly.after hcompletion).1 _ hmem call rfl

end Sends

variable {service : Service} {request : AiRequest} {endpoint : AiEndpoint} {call : ServiceCall}

/-- The first pure step of an endpoint. -/
theorem sends_ofExcept_bind_iff {α : Type} {value : Except Exn α} {next : α → Handler Fields}
    {lead : α → Option ServiceCall} (hnext : ∀ a, Sends (next a) call ↔ lead a = some call) :
    Sends (ofExcept value >>= next) call ↔ (value.toOption >>= lead) = some call := by
  rw [sends_ofExcept_bind, Option.bind_eq_bind, Option.bind_eq_some_iff]
  exact exists_congr fun a ↦ and_congr_right fun _ ↦ hnext a

theorem sends_serve_iff :
    Sends (serve service request endpoint) call ↔
      downstreamCall? service request endpoint = some call := by
  have hcalled : ∀ {made : ServiceCall} {reason : String} {next : Fields → Handler Fields},
      (∀ response, ¬Sends (next response) call) →
        (Sends (upstream made reason >>= next) call ↔ some made = some call) := by
    intro made reason next hnext
    rw [sends_upstream_bind hnext, Option.some.injEq]
  unfold serve downstreamCall?
  cases endpoint with
  | askSql =>
    unfold askSql
    refine sends_ofExcept_bind_iff fun actor ↦ sends_ofExcept_bind_iff fun asked ↦ ?_
    exact hcalled fun response ↦ not_sends_pure _
  | metricAnswer =>
    unfold metricAnswer
    refine sends_ofExcept_bind_iff fun actor ↦ sends_ofExcept_bind_iff fun asked ↦ ?_
    exact hcalled fun response ↦ not_sends_pure _
  | catalogAssistant =>
    unfold catalogAssistant
    refine sends_ofExcept_bind_iff fun actor ↦ sends_ofExcept_bind_iff fun workspaceId ↦ ?_
    exact hcalled fun response ↦ not_sends_pure _
  | policyAssistant =>
    unfold policyAssistant
    refine sends_ofExcept_bind_iff fun actor ↦ sends_ofExcept_bind_iff fun workspaceId ↦ ?_
    exact hcalled fun response ↦ not_sends_pure _
  | docQa =>
    unfold docQa
    refine sends_ofExcept_bind_iff fun actor ↦ sends_ofExcept_bind_iff fun asked ↦ ?_
    exact hcalled fun response ↦ not_sends_completion _ _ _
  | queryDebug | releaseGateAssistant | joinSuggestion | contractProposer | driftExplainer
  | piiExplainer | erSuggestions | semanticGenerator | qualityTriage | evalGenerator =>
    refine sends_ofExcept_bind_iff fun actor ↦ ?_
    exact iff_of_false (not_sends_pure _) (by simp)

section Gateway

variable {gateway : GatewayState} {payload sent own : Fields}

/-- A request of the AI service says nothing on the resource and leaves the mode of ABAC open. -/
def PlainAttributes (payload : Fields) : Prop :=
  Gateway.resourceAttributesOf payload = [] ∧
    (getD payload "abac_mode" (.str "internal")).toStr = "internal"

theorem abacOf_of_plain (hplain : PlainAttributes payload) (actor : Fields) :
    abacOf payload actor =
      { allow := true
        reason := "internal_abac_allow"
        rowFilter := if actorRegion actor = "" then none else some ("region", actorRegion actor)
        masks := if isAnalyst actor then [("email", "partial_reveal")] else [] } := by
  obtain ⟨hattributes, hmode⟩ := hplain
  have hinternal : ¬lower "internal" = "opa" := by decide
  have hregion : (getD [] "region" (.str "")).toStr = "" := rfl
  rw [abacOf, hattributes, hmode, Gateway.evaluateAbac, if_neg hinternal,
    Gateway.evaluateInternalAbac, hregion]
  simp

/-- ABAC tells actors apart by their region and by whether they are analysts. -/
theorem abacOf_eq_iff (hplain : PlainAttributes payload) :
    abacOf payload own = abacOf payload sent ↔
      actorRegion own = actorRegion sent ∧ isAnalyst own = isAnalyst sent := by
  rw [abacOf_of_plain hplain, abacOf_of_plain hplain]
  constructor
  · intro h
    obtain ⟨-, -, hfilter, hmasks⟩ := Gateway.AbacDecision.mk.inj h
    constructor
    · split_ifs at hfilter with hown hsent hsent
      · rw [hown, hsent]
      · exact (Prod.mk.inj (Option.some.inj hfilter)).2
    · cases hown : isAnalyst own <;> cases hsent : isAnalyst sent <;> simp [hown, hsent] at hmasks ⊢
  · rintro ⟨hregion, hanalyst⟩
    rw [hregion, hanalyst]

def QueryPasses (gateway : GatewayState) (payload actor : Fields) : Prop :=
  (queryAccess actor).result = "allow" ∧
    (∃ target, Targets gateway (workspaceIdOf payload) payload actor target) ∧
    ∃ pointer, gateway.answers (.latestGoldPointer (workspaceIdOf payload)) = .ok pointer

/-- The caller may have what a query gives the actor of the token sent. -/
structure QueryStandIn (gateway : GatewayState) (payload sent own : Fields) : Prop where
  access : (queryAccess own).result = "allow"
  kind : actorTypeOf own = "ai" ↔ actorTypeOf sent = "ai"
  entitled : actorTypeOf own = "ai" → ∀ binding,
    BindsTo gateway (workspaceIdOf payload) payload binding →
      ∀ datasetId ∈ binding.datasetIds, datasetId ∈ allowedDatasetIdsOf own
  region : actorRegion own = actorRegion sent
  analyst : isAnalyst own = isAnalyst sent

theorem queryPasses_iff (hplain : PlainAttributes payload)
    (hlimits : ∃ limits, Gateway.constraintsOf payload = .ok limits) :
    QueryPasses gateway payload sent ↔ ∃ grant, Grants gateway payload sent .query grant := by
  constructor
  · rintro ⟨haccess, ⟨target, htarget⟩, hpointer⟩
    have hallow : (abacOf payload sent).allow = true := by rw [abacOf_of_plain hplain]
    exact ⟨_, (Gateway.grants_rows_iff target _).mpr
      ⟨haccess, htarget, rfl, hallow, hlimits, hpointer⟩⟩
  · rintro ⟨grant, hgrant⟩
    obtain ⟨-, -, -, checked, -, -, rfl⟩ := id hgrant
    obtain ⟨haccess, htarget, -, -, -, hpointer⟩ := (Gateway.grants_rows_iff _ _).mp hgrant
    exact ⟨haccess, ⟨_, htarget⟩, hpointer⟩

/-- The queries of two actors have one target exactly when both are AI actors, the second entitled to
the datasets of the binding, or neither is. -/
theorem targets_iff {target : QueryTarget} {workspaceId : String}
    (hsent : Targets gateway workspaceId payload sent target) :
    Targets gateway workspaceId payload own target ↔
      (actorTypeOf own = "ai" ↔ actorTypeOf sent = "ai") ∧
      (actorTypeOf own = "ai" → ∀ binding, BindsTo gateway workspaceId payload binding →
        ∀ datasetId ∈ binding.datasetIds, datasetId ∈ allowedDatasetIdsOf own) := by
  unfold Targets at hsent ⊢
  have hcaller : (callerTarget payload).binding = none := rfl
  by_cases hai : actorTypeOf sent = "ai"
  · rw [if_pos hai] at hsent
    obtain ⟨binding, hbinds, hentitled, rfl⟩ := hsent
    by_cases hown : actorTypeOf own = "ai"
    · rw [if_pos hown, and_iff_right (iff_of_true hown hai), forall_prop_of_true hown]
      constructor
      · rintro ⟨other, hother, hallowed, -⟩ binding' hbinds'
        obtain rfl := hother.unique hbinds'
        exact fun datasetId hmem ↦ (hallowed datasetId hmem).1
      · intro hallowed
        exact ⟨binding, hbinds, fun datasetId hmem ↦
          ⟨hallowed binding hbinds datasetId hmem, (hentitled datasetId hmem).2⟩, rfl⟩
    · rw [if_neg hown]
      refine iff_of_false (fun hsame ↦ ?_) fun h ↦ hown (h.1.mpr hai)
      have hbinding := congrArg QueryTarget.binding hsame
      rw [hcaller] at hbinding
      cases hbinding
  · rw [if_neg hai] at hsent
    by_cases hown : actorTypeOf own = "ai"
    · rw [if_pos hown]
      refine iff_of_false ?_ fun h ↦ hai (h.1.mp hown)
      rintro ⟨binding, -, -, hsame⟩
      have hbinding := congrArg QueryTarget.binding (hsent.symm.trans hsame)
      rw [hcaller] at hbinding
      cases hbinding
    · rw [if_neg hown]
      exact iff_of_true hsent ⟨iff_of_false hown hai, fun h ↦ absurd h hown⟩

theorem queryStandIn_iff (hplain : PlainAttributes payload)
    (hlimits : ∃ limits, Gateway.constraintsOf payload = .ok limits)
    (hpasses : QueryPasses gateway payload sent) :
    QueryStandIn gateway payload sent own ↔
      ∀ grant, Grants gateway payload sent .query grant →
        Grants gateway payload own .query grant := by
  constructor
  · intro hown grant hgrant
    obtain ⟨-, -, -, checked, -, -, rfl⟩ := id hgrant
    obtain ⟨-, htarget, habac, hallow, hrest⟩ := (Gateway.grants_rows_iff _ _).mp hgrant
    refine (Gateway.grants_rows_iff _ _).mpr
      ⟨hown.access, (targets_iff htarget).mpr ⟨hown.kind, hown.entitled⟩, ?_, hallow, hrest⟩
    rw [habac, (abacOf_eq_iff hplain).mpr ⟨hown.region, hown.analyst⟩]
  · intro hall
    obtain ⟨haccess, ⟨target, htarget⟩, hpointer⟩ := hpasses
    have hallow : (abacOf payload sent).allow = true := by rw [abacOf_of_plain hplain]
    obtain ⟨hownAccess, hownTarget, hownAbac, -⟩ := (Gateway.grants_rows_iff _ _).mp
      (hall _ ((Gateway.grants_rows_iff target _).mpr
        ⟨haccess, htarget, rfl, hallow, hlimits, hpointer⟩))
    obtain ⟨hkind, hentitled⟩ := (targets_iff htarget).mp hownTarget
    obtain ⟨hregion, hanalyst⟩ := (abacOf_eq_iff hplain).mp hownAbac.symm
    exact ⟨hownAccess, hkind, hentitled, hregion, hanalyst⟩

/-- The gateway lets a retrieval of the actor through. -/
def RetrievePasses (gateway : GatewayState) (payload actor : Fields) : Prop :=
  (retrieveAccess actor).result = "allow" ∧ allowedDatasetIdsOf actor ≠ [] ∧
    ∀ datasetId ∈ allowedDatasetIdsOf actor,
      OwnedBy gateway.answers (workspaceIdOf payload) datasetId

/-- The caller may have what a retrieval gives the actor of the token sent. -/
structure RetrieveStandIn (sent own : Fields) : Prop where
  access : (retrieveAccess own).result = "allow"
  entitled : allowedDatasetIdsOf own = allowedDatasetIdsOf sent
  region : actorRegion own = actorRegion sent
  analyst : isAnalyst own = isAnalyst sent

theorem grants_retrieve_iff (hplain : PlainAttributes payload) {grant : Gateway.Grant} :
    Grants gateway payload sent .retrieve grant ↔
      RetrievePasses gateway payload sent ∧
        grant = .snippets (allowedDatasetIdsOf sent) (abacOf payload sent) := by
  have hallow : (abacOf payload sent).allow = true := by rw [abacOf_of_plain hplain]
  constructor
  · intro hgrant
    obtain ⟨-, -, abac, -, -, rfl⟩ := id hgrant
    obtain ⟨haccess, -, hsome, howned, rfl, -⟩ := (Gateway.grants_snippets_iff _ _).mp hgrant
    exact ⟨⟨haccess, hsome, howned⟩, rfl⟩
  · rintro ⟨⟨haccess, hsome, howned⟩, rfl⟩
    exact (Gateway.grants_snippets_iff _ _).mpr ⟨haccess, rfl, hsome, howned, rfl, hallow⟩

theorem retrieveStandIn_iff (hplain : PlainAttributes payload)
    (hpasses : RetrievePasses gateway payload sent) :
    RetrieveStandIn sent own ↔
      ∀ grant, Grants gateway payload sent .retrieve grant →
        Grants gateway payload own .retrieve grant := by
  simp only [grants_retrieve_iff hplain]
  constructor
  · rintro ⟨haccess, hentitled, hregion, hanalyst⟩ grant ⟨-, rfl⟩
    obtain ⟨-, hsome, howned⟩ := hpasses
    rw [← hentitled] at hsome howned ⊢
    exact ⟨⟨haccess, hsome, howned⟩, by
      rw [(abacOf_eq_iff hplain).mpr ⟨hregion, hanalyst⟩]⟩
  · intro hall
    obtain ⟨⟨haccess, -, -⟩, hsame⟩ := hall _ ⟨hpasses, rfl⟩
    obtain ⟨hentitled, habac⟩ := Gateway.Grant.snippets.inj hsame
    obtain ⟨hregion, hanalyst⟩ := (abacOf_eq_iff hplain).mp habac.symm
    exact ⟨haccess, hentitled.symm, hregion, hanalyst⟩

end Gateway

/-- Where the credential of a call passes the checks of its service, the caller's own credential
passes the same checks to the same end. -/
def CallerSuffices (deployment : Deployment) (headers : Headers) (call : ServiceCall) : Prop :=
  let payload := call.payload.getD []
  match call.service, endpointOf? call.path with
  | .gateway, some .query =>
    ∀ sent, Authenticates deployment.gatewayAuth call.headers sent →
      QueryPasses deployment.gateway payload sent →
        ∃ own, Authenticates deployment.gatewayAuth headers own ∧
          QueryStandIn deployment.gateway payload sent own
  | .gateway, some .policySimulate =>
    ∀ sent, Authenticates deployment.gatewayAuth call.headers sent → maySimulate sent = true →
      ∃ own, Authenticates deployment.gatewayAuth headers own ∧ maySimulate own = true ∧
        previewOf payload own = previewOf payload sent
  | .gateway, some .retrieve =>
    ∀ sent, Authenticates deployment.gatewayAuth call.headers sent →
      RetrievePasses deployment.gateway payload sent →
        ∃ own, Authenticates deployment.gatewayAuth headers own ∧ RetrieveStandIn sent own
  | .gateway, none => True
  | .controlPlane, _ => ∀ route roles,
    ControlPlane.routeOf? (deployment.segments call.path) = some route →
      route.roles = some roles →
        (∃ sent, Authenticates deployment.controlPlaneAuth call.headers sent ∧
          ControlPlane.actorHasAnyRole sent roles = true) →
        ∃ own, Authenticates deployment.controlPlaneAuth headers own ∧
          ControlPlane.actorHasAnyRole own roles = true

section Suffices

variable {deployment : Deployment} {headers : Headers}

/-- A credential has one actor. -/
theorem Authenticates.unique {auth : AuthSettings} {first second : Fields}
    (hfirst : Authenticates auth headers first) (hsecond : Authenticates auth headers second) :
    first = second :=
  Option.some.inj (Except.ok.inj (hfirst.symm.trans hsecond))

/-- The caller covers a call exactly when everything granted to its credential is granted to the
caller's. -/
def Covered (deployment : Deployment) (headers : Headers) (call : ServiceCall) : Prop :=
  ∀ grant, ServiceGrants deployment call.headers call grant →
    ServiceGrants deployment headers call grant

/-- A gateway call is covered when a caller's actor stands in for the actor of the token: `passes`
says that the endpoint lets that actor through, `standsIn` that it treats the caller's alike. -/
theorem covered_gateway_iff {endpoint : Endpoint} {passes : Fields → Prop}
    {standsIn : Fields → Fields → Prop} (hservice : call.service = .gateway)
    (hpath : endpointOf? call.path = some endpoint)
    (hpasses : ∀ sent, passes sent ↔
      ∃ grant, Grants deployment.gateway (call.payload.getD []) sent endpoint grant)
    (hstands : ∀ sent own, passes sent → (standsIn sent own ↔
      ∀ grant, Grants deployment.gateway (call.payload.getD []) sent endpoint grant →
        Grants deployment.gateway (call.payload.getD []) own endpoint grant)) :
    Covered deployment headers call ↔
      ∀ sent, Authenticates deployment.gatewayAuth call.headers sent → passes sent →
        ∃ own, Authenticates deployment.gatewayAuth headers own ∧ standsIn sent own := by
  constructor
  · intro hcovered sent hsent hpass
    have hown : ∀ grant, Grants deployment.gateway (call.payload.getD []) sent endpoint grant →
        ∃ own, Authenticates deployment.gatewayAuth headers own ∧
          Grants deployment.gateway (call.payload.getD []) own endpoint grant := by
      intro grant hgrant
      obtain ⟨-, other, own, hother, hauthenticates, hgranted⟩ :=
        hcovered (.gateway grant) ⟨hservice, endpoint, sent, hpath, hsent, hgrant⟩
      rw [hpath] at hother
      cases hother
      exact ⟨own, hauthenticates, hgranted⟩
    obtain ⟨grant, hgrant⟩ := (hpasses sent).mp hpass
    obtain ⟨own, hauthenticates, -⟩ := hown grant hgrant
    refine ⟨own, hauthenticates, (hstands sent own hpass).mpr fun grant hgrant ↦ ?_⟩
    obtain ⟨other, hother, hgranted⟩ := hown grant hgrant
    rwa [hauthenticates.unique hother]
  · intro hall grant hgrant
    cases grant with
    | resource path =>
      rw [ServiceGrants, hservice] at hgrant
      cases hgrant.1
    | gateway grant =>
      obtain ⟨-, other, sent, hother, hsent, hgranted⟩ := hgrant
      rw [hpath] at hother
      cases hother
      have hpass := (hpasses sent).mpr ⟨grant, hgranted⟩
      obtain ⟨own, hauthenticates, hstand⟩ := hall sent hsent hpass
      exact ⟨hservice, endpoint, own, hpath, hauthenticates,
        (hstands sent own hpass).mp hstand grant hgranted⟩

theorem covered_queryCall_iff (workspaceId : String) (payload : Fields) (plan : SqlAgentPlan) :
    Covered deployment headers (queryCall workspaceId payload plan) ↔
      CallerSuffices deployment headers (queryCall workspaceId payload plan) := by
  have hplain : PlainAttributes ((queryCall workspaceId payload plan).payload.getD []) :=
    ⟨rfl, rfl⟩
  exact covered_gateway_iff rfl rfl (fun sent ↦ queryPasses_iff hplain ⟨_, rfl⟩)
    fun sent own ↦ queryStandIn_iff hplain ⟨_, rfl⟩

theorem covered_simulationCall_iff (workspaceId : String) (payload : Fields) :
    Covered deployment headers (simulationCall workspaceId payload) ↔
      CallerSuffices deployment headers (simulationCall workspaceId payload) := by
  refine covered_gateway_iff rfl rfl (fun sent ↦ ?_) fun sent own hmay ↦ ?_
  · exact ⟨fun hmay ↦ ⟨_, hmay, rfl⟩, fun ⟨_, hmay, _⟩ ↦ hmay⟩
  · constructor
    · rintro ⟨hown, hsame⟩ grant ⟨-, rfl⟩
      exact ⟨hown, congrArg Gateway.Grant.report hsame.symm⟩
    · intro hall
      obtain ⟨hown, hsame⟩ := hall _ ⟨hmay, rfl⟩
      exact ⟨hown, (Gateway.Grant.report.inj hsame).symm⟩

theorem covered_retrieveCall_iff (workspaceId question : String) (payload : Fields) :
    Covered deployment headers (retrieveCall workspaceId question payload) ↔
      CallerSuffices deployment headers (retrieveCall workspaceId question payload) := by
  have hplain : PlainAttributes ((retrieveCall workspaceId question payload).payload.getD []) :=
    ⟨rfl, rfl⟩
  refine covered_gateway_iff rfl rfl (fun sent ↦ ?_) fun sent own ↦ retrieveStandIn_iff hplain
  simp only [grants_retrieve_iff hplain, exists_and_left, exists_eq, and_true]

theorem covered_datasetsCall_iff (workspaceId : String) (payload : Fields) :
    Covered deployment headers (datasetsCall workspaceId payload) ↔
      CallerSuffices deployment headers (datasetsCall workspaceId payload) := by
  have hrole : ∀ {route : ControlPlane.Route} {roles : List String} (actor : Fields),
      route.roles = some roles →
        (route.mayRead (some actor) = true ↔ ControlPlane.actorHasAnyRole actor roles = true) := by
    intro route roles actor hroles
    rw [ControlPlane.Route.mayRead, hroles]
    rfl
  constructor
  · rintro hcovered route roles hroute hroles ⟨sent, hsent, hmay⟩
    obtain ⟨-, -, other, hother, hopen | ⟨own, hown, hread⟩⟩ := hcovered (.resource _)
      ⟨rfl, rfl, route, hroute, Or.inr ⟨sent, hsent, (hrole sent hroles).mpr hmay⟩⟩
    · rw [hroute] at hother
      cases hother
      rw [hroles] at hopen
      cases hopen
    · rw [hroute] at hother
      cases hother
      exact ⟨own, hown, (hrole own hroles).mp hread⟩
  · rintro hall (grant | path) hgrant
    · cases hgrant.1
    · obtain ⟨-, rfl, route, hroute, hread⟩ := hgrant
      refine ⟨rfl, rfl, route, hroute, ?_⟩
      cases hroles : route.roles with
      | none => exact Or.inl rfl
      | some roles =>
        rcases hread with hopen | ⟨sent, hsent, hread⟩
        · rw [hroles] at hopen
          cases hopen
        obtain ⟨own, hown, hmay⟩ :=
          hall route roles hroute hroles ⟨sent, hsent, (hrole sent hroles).mp hread⟩
        exact Or.inr ⟨own, hown, (hrole own hroles).mpr hmay⟩

end Suffices

theorem call_cases (h : downstreamCall? service request endpoint = some call) :
    (∃ workspaceId plan, call = queryCall workspaceId request.payload plan) ∨
    (∃ workspaceId, call = datasetsCall workspaceId request.payload) ∨
    (∃ workspaceId, call = simulationCall workspaceId request.payload) ∨
    ∃ workspaceId question, call = retrieveCall workspaceId question request.payload := by
  unfold downstreamCall? at h
  obtain ⟨actor, -, h⟩ := Option.bind_eq_some_iff.mp h
  cases endpoint with
  | askSql =>
    obtain ⟨asked, -, h⟩ := Option.bind_eq_some_iff.mp h
    exact Or.inl ⟨_, _, (Option.some.inj h).symm⟩
  | metricAnswer =>
    obtain ⟨asked, -, h⟩ := Option.bind_eq_some_iff.mp h
    exact Or.inl ⟨_, _, (Option.some.inj h).symm⟩
  | catalogAssistant =>
    obtain ⟨workspaceId, -, h⟩ := Option.bind_eq_some_iff.mp h
    exact Or.inr (Or.inl ⟨_, (Option.some.inj h).symm⟩)
  | policyAssistant =>
    obtain ⟨workspaceId, -, h⟩ := Option.bind_eq_some_iff.mp h
    exact Or.inr (Or.inr (Or.inl ⟨_, (Option.some.inj h).symm⟩))
  | docQa =>
    obtain ⟨asked, -, h⟩ := Option.bind_eq_some_iff.mp h
    exact Or.inr (Or.inr (Or.inr ⟨_, _, (Option.some.inj h).symm⟩))
  | queryDebug | releaseGateAssistant | joinSuggestion | contractProposer | driftExplainer
  | piiExplainer | erSuggestions | semanticGenerator | qualityTriage | evalGenerator => cases h

/-- A request to the AI service adds no authority exactly when it leads to no call of a service, the
credential of the call does not pass the checks of the service, or the caller's own credential passes
them to the same end. -/
theorem addsNoAuthority_iff (deployment : Deployment) (endpoint : AiEndpoint)
    (request : AiRequest) :
    AddsNoAuthority deployment endpoint request ↔
      ∀ call, downstreamCall? deployment.ai request endpoint = some call →
        CallerSuffices deployment request.headers call := by
  have hcovered : ∀ call, downstreamCall? deployment.ai request endpoint = some call →
      (Covered deployment request.headers call ↔
        CallerSuffices deployment request.headers call) := by
    intro call hcall
    rcases call_cases hcall with ⟨workspaceId, plan, rfl⟩ | ⟨workspaceId, rfl⟩ |
      ⟨workspaceId, rfl⟩ | ⟨workspaceId, question, rfl⟩
    · exact covered_queryCall_iff _ _ _
    · exact covered_datasetsCall_iff _ _
    · exact covered_simulationCall_iff _ _
    · exact covered_retrieveCall_iff _ _ _
  constructor
  · intro hadds call hcall
    obtain ⟨events, result, reply, hrun, hmem⟩ := sends_serve_iff.mpr hcall
    exact (hcovered call hcall).mp (hadds events result hrun call reply hmem)
  · intro hall events result hrun call reply hmem
    have hcall := sends_serve_iff.mp ⟨events, result, reply, hrun, hmem⟩
    exact (hcovered call hcall).mpr (hall call hcall)

/-- A service with the local tokens it knows by default. -/
def localAuth : AuthSettings :=
  { authMode := "local"
    authTokens := defaultLocalAuthTokens
    oidc := ⟨none, none, ["HS256"], 30⟩
    oidcClaimsHeader := "x-schemapilot-oidc-claims"
    oidcActorIdClaim := "sub"
    oidcRolesClaim := "roles"
    oidcAttributesClaim := "attributes"
    platform := Jwt.codePlatform []
    jwksKeys := []
    now := 0 }

/-- The three services with their local tokens, the AI service being enabled. -/
def localDeployment : Deployment :=
  { ai := ⟨localAuth, true, lower, ControlPlane.Database.empty⟩
    gateway := ⟨⟨id, id⟩, Gateway.duckdbSettings, Gateway.answersTo [] none none⟩
    gatewayAuth := localAuth
    controlPlaneAuth := localAuth
    segments := fun path ↦ (path.toList.splitOn '/').map String.ofList }

/-- An analyst asks the policy assistant of a workspace. -/
def analystRequest : AiRequest :=
  { headers := [("authorization", "Bearer local-analyst-token")]
    payload := [("workspace_id", .str "w1")]
    requestId := "r1" }

/-- The analyst may not simulate policies at the gateway. -/
theorem analyst_refused (actor : Fields)
    (h : Authenticates localAuth analystRequest.headers actor) : maySimulate actor = false := by
  have hanalyst : Authenticates localAuth analystRequest.headers
      (actorOf "user:local_analyst" "human" ["analyst"] (.obj [])) := rfl
  rw [h.unique hanalyst]
  decide

/-- Through the policy assistant the analyst is given the report that the gateway grants to data
stewards. -/
theorem analystRequest_adds : ¬AddsNoAuthority localDeployment .policyAssistant analystRequest := by
  intro h
  have hcall : downstreamCall? localDeployment.ai analystRequest .policyAssistant =
      some (simulationCall "w1" analystRequest.payload) := rfl
  obtain ⟨events, result, reply, hrun, hmem⟩ := sends_serve_iff.mpr hcall
  have hsteward : Authenticates localAuth
      (simulationCall "w1" analystRequest.payload).headers
      (actorOf "user:local_steward" "human" ["data_steward"] (.obj [])) := rfl
  obtain ⟨-, endpoint, own, hpath, hown, hgranted⟩ := h events result hrun _ reply hmem
    (.gateway (.report [])) ⟨rfl, .policySimulate, _, rfl, hsteward, by decide, rfl⟩
  obtain rfl : .policySimulate = endpoint := Option.some.inj hpath
  obtain ⟨hmay, -⟩ := hgranted
  rw [analyst_refused own hown] at hmay
  cases hmay

end SchemaPilot.AiService
