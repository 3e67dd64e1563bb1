import SchemaPilot.Gateway.Histories
import Mathlib.Algebra.Order.BigOperators.Group.List
import Mathlib.Algebra.GroupWithZero.Nat

/-!
# Concurrency slots over whole runs

Any number of query and retrieve requests run side by side over one rate limiter (`gatewaySystem`);
everything but the limiter and the in-memory cache lookup answers as it likes or raises. In every
reachable configuration the requests in progress the limiter counts for an actor are the grants of
all requests less their releases (`inflight_add_releases`).

A request that was granted a slot and has finished has released it once if it was cleared, and never
otherwise (`releases_eq_one_iff`): every way out of the checks behind the grant skips the release.
-/

namespace SchemaPilot.Gateway

open Library Library.Program SharedDomain

/-- A request to one of the two data endpoints. -/
inductive GatewayRequest where
  | query (request : Request)
  | retrieve (request : Request)

inductive GatewayResponse where
  | query (response : QueryResponse)
  | retrieve (response : RetrieveResponse)

def GatewayRequest.payload : GatewayRequest → Fields
  | .query request => request.payload
  | .retrieve request => request.payload

def serve (platform : Platform) (settings : Settings) :
    GatewayRequest → Handler GatewayResponse
  | .query request => do
    let response ← query platform settings request
    pure (.query response)
  | .retrieve request => do
    let response ← retrieve platform settings request
    pure (.retrieve response)

/-- What a call does to the limiter and what it may answer. -/
def limiterExec (limits : RateLimits) (limiter : RateLimiter) :
    (op : GatewayOp) → Except Exn op.Answer → RateLimiter → Prop
  | .tryAcquire actorId, answer, after => ∃ currentWindow,
    answer = .ok (limiter.tryAcquire limits currentWindow actorId).1 ∧
      after = (limiter.tryAcquire limits currentWindow actorId).2
  | .release actorId, answer, after => answer = .ok () ∧ after = limiter.release actorId
  | .cacheGet _, answer, after => (∃ value, answer = .ok value) ∧ after = limiter
  | _, _, after => after = limiter

def gatewaySystem (platform : Platform) (settings : Settings) (limits : RateLimits) :
    System GatewayOp GatewayOp.Answer Exn GatewayRequest GatewayResponse RateLimiter where
  handler := serve platform settings
  exec := limiterExec limits
  outside _ _ := False

abbrev GatewayThread := Thread GatewayOp GatewayOp.Answer Exn GatewayRequest GatewayResponse

def isGrant (actorId : String) : GatewayEvent → Bool
  | ⟨.tryAcquire caller, .ok decision⟩ => caller == actorId && decision.allowed
  | _ => false

def releasesSlot (actorId : String) : GatewayOp → Bool
  | .release caller => caller == actorId
  | _ => false

def isRelease (actorId : String) (event : GatewayEvent) : Bool := releasesSlot actorId event.op

/-- The slots a history was granted for an actor. -/
def grants (actorId : String) (events : List GatewayEvent) : ℕ := events.countP (isGrant actorId)

def releases (actorId : String) (events : List GatewayEvent) : ℕ :=
  events.countP (isRelease actorId)

/-- The request authenticated as the actor and was granted a slot. -/
def GrantedTo (thread : GatewayThread) (actor : Fields) : Prop :=
  ⟨.authenticatedActor, .ok (some actor)⟩ ∈ thread.history ∧
    1 ≤ grants (actorIdOf actor) thread.history

/-- The request of an actor gets past the checks of its endpoint. -/
def Cleared (platform : Platform) (actor : Fields) (answers : List GatewayEvent) :
    GatewayRequest → Prop
  | .query request =>
    QueryCleared platform (workspaceIdOf request.payload) request.payload actor answers
  | .retrieve request =>
    RetrieveCleared (workspaceIdOf request.payload) request.payload actor answers

/-- The calls neither were granted nor released a slot. -/
def Slotless (events : List GatewayEvent) : Prop :=
  ∀ event ∈ events, ∀ actorId, isGrant actorId event = false ∧ isRelease actorId event = false

theorem isGrant_of_kind {event : GatewayEvent} (h : event.op.kind ≠ .limiter) (actorId : String) :
    isGrant actorId event = false ∧ isRelease actorId event = false := by
  obtain ⟨op, answer⟩ := event
  cases op with
  | tryAcquire caller => exact absurd rfl h
  | release caller => exact absurd rfl h
  | _ => exact ⟨rfl, rfl⟩

theorem Calling.slotless {α : Type} {kinds : List OpKind} {p q : Handler α}
    {events : List GatewayEvent} (hp : Calling kinds p) (hfree : OpKind.limiter ∉ kinds)
    (h : After p events q) : Slotless events := by
  intro event hevent actorId
  refine isGrant_of_kind (fun hkind ↦ hfree ?_) actorId
  rw [← hkind]
  exact (hp.after h).1 event hevent

theorem slotless_of_ungranted {events : List GatewayEvent}
    (h : ∀ event ∈ events, Ungranted event) : Slotless events := by
  intro event hevent actorId
  rcases h event hevent with hkind | ⟨caller, answer, rfl, hrefused⟩
  · refine isGrant_of_kind (fun hlimiter ↦ ?_) actorId
    rw [hlimiter] at hkind
    exact absurd hkind (by decide)
  · refine ⟨?_, rfl⟩
    cases answer with
    | error exception => rfl
    | ok decision => simp [isGrant, hrefused decision rfl]

theorem slotless_nil : Slotless [] := fun _ hevent ↦ absurd hevent List.not_mem_nil

theorem Slotless.grants_eq {events : List GatewayEvent} (h : Slotless events) (actorId : String) :
    grants actorId events = 0 := by
  rw [grants, List.countP_eq_zero]
  intro event hevent
  rw [(h event hevent actorId).1]
  decide

theorem Slotless.releases_eq {events : List GatewayEvent} (h : Slotless events)
    (actorId : String) : releases actorId events = 0 := by
  rw [releases, List.countP_eq_zero]
  intro event hevent
  rw [(h event hevent actorId).2]
  decide

/-- The program releases one slot of the actor on every way out, and takes none. -/
def ReleasesOnce {α : Type} (actorId : String) (p : Handler α) : Prop :=
  Calls (fun op ↦ releasesSlot actorId op = true) p 1 ∧
    Only (fun op ↦ op.kind = .limiter → op = .release actorId) p

/-- The calls took no slot and released at most one, of the actor. -/
def Returning (actorId : String) (events : List GatewayEvent) : Prop :=
  (∀ event ∈ events, ∀ other, isGrant other event = false ∧
    (isRelease other event = true → other = actorId)) ∧ releases actorId events ≤ 1

section WayOut

variable {α β : Type} {actorId : String} {kinds : List OpKind}

theorem Calling.calls_none {p : Handler α} (hp : Calling kinds p)
    (hfree : OpKind.limiter ∉ kinds) :
    Calls (fun op ↦ releasesSlot actorId op = true) p 0 := by
  refine Only.calls (Only.mono ?_ hp)
  intro op hop hrelease
  cases op with
  | release caller => exact hfree hop
  | _ => exact absurd hrelease (by simp [releasesSlot])

theorem Calling.only_own {p : Handler α} (hp : Calling kinds p) (hfree : OpKind.limiter ∉ kinds) :
    Only (fun op ↦ op.kind = .limiter → op = .release actorId) p := by
  refine Only.mono ?_ hp
  intro op hop hkind
  rw [hkind] at hop
  exact absurd hop hfree

theorem releasesOnce_release : ReleasesOnce actorId (ask (.release actorId)) :=
  ⟨calls_perform (by simp [releasesSlot]), (only_perform _ _).mpr fun _ ↦ rfl⟩

theorem Calling.tryFinally_release {p : Handler α} (hp : Calling kinds p)
    (hfree : OpKind.limiter ∉ kinds) :
    ReleasesOnce actorId (p.tryFinally (ask (.release actorId))) := by
  have honce : ReleasesOnce actorId (ask (.release actorId)) := releasesOnce_release
  have hcalls := (hp.calls_none hfree).tryFinally honce.1
  rw [Nat.zero_add] at hcalls
  exact ⟨hcalls, Only.tryFinally (hp.only_own hfree) honce.2⟩

theorem ReleasesOnce.bind {p : Handler α} {next : α → Handler β} (hp : ReleasesOnce actorId p)
    (hnext : ∀ value, Calling kinds (next value)) (hfree : OpKind.limiter ∉ kinds) :
    ReleasesOnce actorId (p >>= next) :=
  ⟨hp.1.bind fun value ↦ (hnext value).calls_none hfree,
    Only.bind hp.2 fun value ↦ (hnext value).only_own hfree⟩

/-- A history of such a program releases at most one slot, and exactly one once it has ended. -/
theorem ReleasesOnce.after {p q : Handler α} {events : List GatewayEvent}
    (hp : ReleasesOnce actorId p) (h : After p events q) :
    Returning actorId events ∧ ((∃ result, q = done result) → releases actorId events = 1) := by
  have hcount : releases actorId events =
      events.countP fun event ↦ decide (releasesSlot actorId event.op = true) := by
    simp only [releases, Bool.decide_eq_true]
    rfl
  obtain ⟨m, hm, hrest⟩ := hp.1.after h
  rw [← hcount] at hm
  refine ⟨⟨fun event hevent other ↦ ?_, by omega⟩, ?_⟩
  · have hown := (hp.2.after h).1 event hevent
    obtain ⟨op, answer⟩ := event
    by_cases hkind : op.kind = .limiter
    · have hop : op = .release actorId := hown hkind
      subst hop
      exact ⟨rfl, fun hrelease ↦ (beq_iff_eq.mp hrelease).symm⟩
    · have hfree : isGrant other ⟨op, answer⟩ = false ∧ isRelease other ⟨op, answer⟩ = false :=
        isGrant_of_kind hkind other
      exact ⟨hfree.1, fun hrelease ↦ absurd hrelease (by rw [hfree.2]; decide)⟩
  · rintro ⟨result, rfl⟩
    rw [calls_done_iff] at hrest
    omega

/-- A history of a program behind a granted slot: it releases the slot at most once, and once it has
ended exactly if the request was cleared. -/
def Settled (actorId : String) (cleared : Prop) (events : List GatewayEvent) (q : Handler α) :
    Prop :=
  Returning actorId events ∧
    ((∃ result, q = done result) → (releases actorId events = 1 ↔ cleared))

theorem Slotless.settled {events : List GatewayEvent} {q : Handler α} {cleared : Prop}
    (h : Slotless events) (hcleared : (∃ result, q = done result) → ¬cleared) :
    Settled actorId cleared events q := by
  have hnone : releases actorId events = 0 := h.releases_eq actorId
  refine ⟨⟨fun event hevent other ↦ ⟨(h event hevent other).1, fun hrelease ↦ ?_⟩, by omega⟩,
    fun hdone ↦ ⟨fun hone ↦ by omega, fun hall ↦ absurd hall (hcleared hdone)⟩⟩
  rw [(h event hevent other).2] at hrelease
  exact absurd hrelease Bool.false_ne_true

theorem Slotless.append_settled {first second : List GatewayEvent} {q : Handler α}
    {cleared : Prop} (hfirst : Slotless first) (hsecond : Settled actorId cleared second q) :
    Settled actorId cleared (first ++ second) q := by
  have hcount : releases actorId (first ++ second) = releases actorId second := by
    have hnone := hfirst.releases_eq actorId
    simp only [releases, List.countP_append] at hnone ⊢
    omega
  obtain ⟨⟨hown, hle⟩, hended⟩ := hsecond
  refine ⟨⟨fun event hevent other ↦ ?_, by omega⟩, by rw [hcount]; exact hended⟩
  rcases List.mem_append.mp hevent with hevent | hevent
  · have hnone := hfirst event hevent other
    refine ⟨hnone.1, fun hrelease ↦ ?_⟩
    rw [hnone.2] at hrelease
    exact absurd hrelease Bool.false_ne_true
  · exact hown event hevent other

/-- Checks that touch no slot, followed by a program that releases the slot on every way out. -/
theorem settled_of_checks {checks : Handler α} {next : α → Handler β}
    {cleared : List GatewayEvent → Prop} {events : List GatewayEvent} {q : Handler β}
    (hchecks : Calling kinds checks) (hfree : OpKind.limiter ∉ kinds)
    (hrun : ∀ events result, Run checks events result →
      ((∃ value, result = .ok value) ↔ cleared events))
    (hmore : ∀ first second, cleared first → cleared (first ++ second))
    (hnext : ∀ value second, second ⊆ events → After (next value) second q →
      Settled actorId True second q)
    (h : After (checks >>= next) events q) : Settled actorId (cleared events) events q := by
  rcases (after_bind_iff _ _ _ _).mp h with ⟨op, rest, hfirst, rfl⟩ | ⟨exception, hfirst, rfl⟩ |
    ⟨first, second, value, rfl, hfirst, hsecond⟩
  · refine (hchecks.slotless hfree hfirst).settled ?_
    rintro ⟨result, hdone⟩
    exact absurd hdone (call_bind_ne_done _ _ _ _)
  · refine (hchecks.slotless hfree hfirst).settled fun _ hcleared ↦ ?_
    obtain ⟨value, hfalse⟩ := (hrun _ _ hfirst).mpr hcleared
    cases hfalse
  · have hcleared := hmore first second ((hrun _ _ hfirst).mp ⟨value, rfl⟩)
    have hsettled := hnext value second (List.subset_append_right _ _) hsecond
    simp only [hcleared]
    exact (hchecks.slotless hfree hfirst).append_settled hsettled

theorem ReleasesOnce.settled {p q : Handler α} {events : List GatewayEvent}
    (hp : ReleasesOnce actorId p) (h : After p events q) : Settled actorId True events q := by
  obtain ⟨hreturning, hended⟩ := hp.after h
  exact ⟨hreturning, fun hdone ↦ iff_of_true (hended hdone) trivial⟩

end WayOut

def CacheAnswers (events : List GatewayEvent) : Prop :=
  ∀ key exception, ⟨.cacheGet key, .error exception⟩ ∉ events

theorem queryAdmitted_settled {platform : Platform} {settings : Settings}
    {context : DecisionContext} {payload actor : Fields} {policyPack : Option PolicyPack}
    {events : List GatewayEvent} {q : Handler QueryResponse} (hcache : CacheAnswers events)
    (h : After (queryAdmitted platform settings context payload actor policyPack) events q) :
    Settled (actorIdOf actor) (QueryCleared platform context.workspaceId payload actor events)
      events q := by
  unfold queryAdmitted at h
  refine settled_of_checks (calling_queryChecks _ _ _ _ _ _) (by decide)
    (fun _ _ hrun ↦ queryChecks_run hrun)
    (fun _ _ hcleared ↦ hcleared.mono fun _ hevent _ ↦ List.mem_append_left _ hevent) ?_ h
  intro checked second hsubset hsecond
  rcases (after_perform_bind_iff _ _ _ _).mp hsecond with ⟨rfl, rfl⟩ | ⟨exception, rfl, rfl⟩ |
    ⟨cached, rest, rfl, hrest⟩
  · refine slotless_nil.settled ?_
    rintro ⟨result, hdone⟩
    exact absurd hdone (call_bind_ne_done _ _ _ _)
  · exact absurd (hsubset List.mem_cons_self) (hcache _ _)
  have hrows : ReleasesOnce (actorIdOf actor)
      (queryRows platform settings context actor checked cached) := by
    unfold queryRows
    cases cached with
    | some rows =>
      have hpure : Calling [] (pure (rows, []) : Handler (Rows × Fields)) := only_ret _ _
      exact releasesOnce_release.bind (fun _ ↦ hpure) (by decide)
    | none =>
      have hstore : ∀ masked metadata, Calling [.cache] (do
          ask (.cacheSet checked.cacheKey masked)
          pure (masked, metadata) : Handler (Rows × Fields)) :=
        fun _ _ ↦ Only.bind (by simp [GatewayOp.kind]) fun _ ↦ only_ret _ _
      exact ((calling_executeChecked _ _ _ _).tryFinally_release (by decide)).bind
        (fun result ↦ hstore _ _) (by decide)
  have hanswer := hrows.bind (fun answer ↦ calling_queryAnswer settings context actor policyPack
    checked answer.1 answer.2) (by decide)
  have hlookup : Slotless [⟨.cacheGet checked.cacheKey, .ok cached⟩] :=
    List.forall_mem_singleton.mpr (isGrant_of_kind (by simp [GatewayOp.kind]))
  exact Slotless.append_settled hlookup
    (hanswer.settled hrest)

theorem retrieveAdmitted_settled {platform : Platform} {settings : Settings}
    {context : DecisionContext} {payload actor : Fields} {policyPack : Option PolicyPack}
    {events : List GatewayEvent} {q : Handler RetrieveResponse}
    (h : After (retrieveAdmitted platform settings context payload actor policyPack) events q) :
    Settled (actorIdOf actor) (RetrieveCleared context.workspaceId payload actor events)
      events q := by
  unfold retrieveAdmitted at h
  refine settled_of_checks (calling_retrieveChecks _ _ _) (by decide)
    (fun _ _ hrun ↦ retrieveChecks_run hrun)
    (fun _ _ hcleared ↦ hcleared.mono fun _ hevent _ ↦ List.mem_append_left _ hevent) ?_ h
  intro abac second _ hsecond
  have hfound : ReleasesOnce (actorIdOf actor)
      (retrieveResults platform settings context payload actor) :=
    (calling_searchBackend _ _ _ _ _).tryFinally_release (by decide)
  exact (hfound.bind (fun found ↦ calling_retrieveAnswer platform settings context payload actor
    policyPack abac found) (by decide)).settled hsecond

/-- A request that was granted a slot, cut at the grant. -/
def Granted {α : Type} (platform : Platform) (request : GatewayRequest) (actor : Fields)
    (events : List GatewayEvent) (q : Handler α) : Prop :=
  ∃ before reason after,
    events = before ++ ⟨.tryAcquire (actorIdOf actor), .ok ⟨true, reason⟩⟩ :: after ∧
    WayIn (workspaceIdOf request.payload) actor before ∧
    (∀ event ∈ after, event.op.kind ≠ .authentication) ∧
    Settled (actorIdOf actor) (Cleared platform actor events request) after q

/-- The way in holds nothing the conditions rest on. -/
theorem WayIn.not_decides {workspaceId : String} {actor : Fields} {before : List GatewayEvent}
    (h : WayIn workspaceId actor before) : ∀ event ∈ before, event.op.decides = false := by
  intro event hevent
  rcases h.2 event hevent with hop | hop | rfl
  · simp [hop, GatewayOp.decides]
  · simp [hop, GatewayOp.decides]
  · simp [GatewayOp.decides]

/-- A request is cleared on its whole history exactly when it is on the part after its grant. -/
theorem cleared_iff_of_wayIn {platform : Platform} {request : GatewayRequest} {actor : Fields}
    {workspaceId reason : String} {before after : List GatewayEvent}
    (hway : WayIn workspaceId actor before) :
    Cleared platform actor
        (before ++ ⟨.tryAcquire (actorIdOf actor), .ok ⟨true, reason⟩⟩ :: after) request ↔
      Cleared platform actor after request := by
  have hdown : ∀ event ∈
      before ++ (⟨.tryAcquire (actorIdOf actor), .ok ⟨true, reason⟩⟩ : GatewayEvent) :: after,
      event.op.decides = true → event ∈ after := by
    intro event hevent hdecides
    rcases List.mem_append.mp hevent with hevent | hevent
    · rw [hway.not_decides event hevent] at hdecides
      exact absurd hdecides Bool.false_ne_true
    · rcases List.mem_cons.mp hevent with rfl | hevent
      · exact absurd hdecides Bool.false_ne_true
      · exact hevent
  have hup : ∀ event ∈ after, event.op.decides = true → event ∈
      before ++ (⟨.tryAcquire (actorIdOf actor), .ok ⟨true, reason⟩⟩ : GatewayEvent) :: after :=
    fun event hevent _ ↦ List.mem_append_right _ (List.mem_cons_of_mem _ hevent)
  cases request with
  | query request => exact ⟨fun h ↦ h.mono hdown, fun h ↦ h.mono hup⟩
  | retrieve request => exact ⟨fun h ↦ h.mono hdown, fun h ↦ h.mono hup⟩

/-- A history of a request was granted no slot, or is cut at its one grant. -/
theorem serve_after {platform : Platform} {settings : Settings} {request : GatewayRequest}
    {events : List GatewayEvent} {q : Handler GatewayResponse} (hcache : CacheAnswers events)
    (h : After (serve platform settings request) events q) :
    Slotless events ∨ ∃ actor, Granted platform request actor events q := by
  cases request with
  | query request =>
    obtain ⟨q', hquery, hended⟩ := after_of_bind_pure h
    rcases guarded_after hquery with hungranted | ⟨context, actor, policyPack, reason, before, after,
      hworkspace, rfl, hway, hbody⟩
    · exact Or.inl (slotless_of_ungranted hungranted)
    refine Or.inr ⟨actor, ⟨before, reason, after, rfl, hway, fun event hevent hkind ↦ ?_, ?_⟩⟩
    · have hkinds := ((calling_queryAdmitted _ _ _ _ _ _).after hbody).1 event hevent
      rw [hkind] at hkinds
      exact absurd hkinds (by decide)
    · have hsettled := queryAdmitted_settled (fun key exception hmem ↦ hcache key exception
        (List.mem_append_right _ (List.mem_cons_of_mem _ hmem))) hbody
      rw [cleared_iff_of_wayIn hway]
      refine ⟨hsettled.1, fun hdone ↦ ?_⟩
      rw [hsettled.2 (hended hdone), hworkspace]
      rfl
  | retrieve request =>
    obtain ⟨q', hretrieve, hended⟩ := after_of_bind_pure h
    rcases guarded_after hretrieve with hungranted | ⟨context, actor, policyPack, reason, before,
      after, hworkspace, rfl, hway, hbody⟩
    · exact Or.inl (slotless_of_ungranted hungranted)
    refine Or.inr ⟨actor, ⟨before, reason, after, rfl, hway, fun event hevent hkind ↦ ?_, ?_⟩⟩
    · have hkinds := ((calling_retrieveAdmitted _ _ _ _ _ _).after hbody).1 event hevent
      rw [hkind] at hkinds
      exact absurd hkinds (by decide)
    · have hsettled := retrieveAdmitted_settled hbody
      rw [cleared_iff_of_wayIn hway]
      refine ⟨hsettled.1, fun hdone ↦ ?_⟩
      rw [hsettled.2 (hended hdone), hworkspace]
      rfl

section Counts

variable {platform : Platform} {request : GatewayRequest} {actor : Fields}
  {events : List GatewayEvent} {q : Handler GatewayResponse}

theorem Granted.grants_eq (h : Granted platform request actor events q) (actorId : String) :
    grants actorId events = if actorIdOf actor = actorId then 1 else 0 := by
  obtain ⟨before, reason, after, rfl, hway, -, hsettled⟩ := h
  have hbefore := (slotless_of_ungranted hway.ungranted).grants_eq actorId
  have hafter : grants actorId after = 0 := by
    rw [grants, List.countP_eq_zero]
    intro event hevent
    rw [(hsettled.1.1 event hevent actorId).1]
    exact Bool.false_ne_true
  simp only [grants, List.countP_append, List.countP_cons] at hbefore hafter ⊢
  rw [hbefore, hafter]
  by_cases hown : actorIdOf actor = actorId
  · simp [isGrant, hown]
  · simp [isGrant, hown]

theorem Granted.releases_eq (h : Granted platform request actor events q) (actorId : String) :
    releases actorId events ≤ (if actorIdOf actor = actorId then 1 else 0) ∧
      ((∃ result, q = done result) → actorIdOf actor = actorId →
        (releases actorId events = 1 ↔ Cleared platform actor events request)) := by
  obtain ⟨before, reason, after, heq, hway, -, hsettled⟩ := h
  have hcount : releases actorId events = releases actorId after := by
    have hbefore := (slotless_of_ungranted hway.ungranted).releases_eq actorId
    rw [heq]
    simp only [releases, List.countP_append, List.countP_cons] at hbefore ⊢
    rw [hbefore]
    simp [isRelease, releasesSlot]
  rw [hcount]
  by_cases hown : actorIdOf actor = actorId
  · subst hown
    rw [if_pos rfl]
    exact ⟨hsettled.1.2, fun hdone _ ↦ hsettled.2 hdone⟩
  · rw [if_neg hown]
    refine ⟨?_, fun _ heq ↦ absurd heq hown⟩
    rw [Nat.le_zero, releases, List.countP_eq_zero]
    intro event hevent hrelease
    exact hown ((hsettled.1.1 event hevent actorId).2 hrelease).symm

theorem Granted.actor_unique (h : Granted platform request actor events q) {other : Fields}
    (hother : (⟨.authenticatedActor, .ok (some other)⟩ : GatewayEvent) ∈ events) :
    other = actor := by
  obtain ⟨before, reason, after, rfl, hway, hfree, -⟩ := h
  exact hway.actor_unique hfree hother

theorem Granted.authenticated (h : Granted platform request actor events q) :
    (⟨.authenticatedActor, .ok (some actor)⟩ : GatewayEvent) ∈ events := by
  obtain ⟨before, reason, after, rfl, hway, -, -⟩ := h
  exact List.mem_append_left _ hway.1

end Counts

theorem releases_le_grants {platform : Platform} {settings : Settings} {request : GatewayRequest}
    {events : List GatewayEvent} {q : Handler GatewayResponse} (hcache : CacheAnswers events)
    (h : After (serve platform settings request) events q) (actorId : String) :
    releases actorId events ≤ grants actorId events := by
  rcases serve_after hcache h with hslotless | ⟨actor, hgranted⟩
  · rw [hslotless.releases_eq actorId]
    exact Nat.zero_le _
  · rw [hgranted.grants_eq actorId]
    exact (hgranted.releases_eq actorId).1

section Runs

variable {platform : Platform} {settings : Settings} {limits : RateLimits} {window : ℤ}
  {config : Configuration GatewayOp GatewayOp.Answer Exn GatewayRequest GatewayResponse
    RateLimiter}

theorem cacheAnswers_of_reachable
    (hreach : (gatewaySystem platform settings limits).Reachable (.initial window) config) :
    ∀ thread ∈ config.threads, CacheAnswers thread.history := by
  have hanswers := hreach.event_of_exec
    (P := fun event ↦ ∀ key exception, event ≠ ⟨.cacheGet key, .error exception⟩) ?_
  · intro thread hthread key exception hmem
    exact hanswers thread hthread _ hmem key exception rfl
  · rintro shared op answer shared' hexec key exception heq
    cases heq
    obtain ⟨⟨value, hvalue⟩, -⟩ := hexec
    cases hvalue

/-- The slots of an actor in all requests, counted by `count`. -/
def total (count : String → List GatewayEvent → ℕ) (actorId : String)
    (threads : List GatewayThread) : ℕ :=
  (threads.map fun thread ↦ count actorId thread.history).sum

theorem total_append (count : String → List GatewayEvent → ℕ) (actorId : String)
    (first second : List GatewayThread) :
    total count actorId (first ++ second) =
      total count actorId first + total count actorId second := by
  simp [total]

theorem total_cons (count : String → List GatewayEvent → ℕ) (actorId : String)
    (thread : GatewayThread) (threads : List GatewayThread) :
    total count actorId (thread :: threads) =
      count actorId thread.history + total count actorId threads := by
  simp [total]

theorem grants_snoc (actorId : String) (events : List GatewayEvent) (event : GatewayEvent) :
    grants actorId (events ++ [event]) =
      grants actorId events + if isGrant actorId event = true then 1 else 0 := by
  simp [grants, List.countP_append, List.countP_singleton]

theorem releases_snoc (actorId : String) (events : List GatewayEvent) (event : GatewayEvent) :
    releases actorId (events ++ [event]) =
      releases actorId events + if isRelease actorId event = true then 1 else 0 := by
  simp [releases, List.countP_append, List.countP_singleton]

/-- What a call does to the count of an actor: a grant adds one, a release takes one off if there is
one, all other calls leave it. -/
theorem limiterExec_inflightCounts {limiter limiter' : RateLimiter} {op : GatewayOp}
    {answer : Except Exn op.Answer} (h : limiterExec limits limiter op answer limiter')
    (actorId : String) :
    limiter'.inflightCounts actorId =
      limiter.inflightCounts actorId + (if isGrant actorId ⟨op, answer⟩ = true then 1 else 0) -
        if isRelease actorId ⟨op, answer⟩ = true then 1 else 0 := by
  cases op with
  | tryAcquire caller =>
    obtain ⟨currentWindow, rfl, rfl⟩ := h
    rw [RateLimiter.tryAcquire_inflightCounts]
    simp [isGrant, isRelease, releasesSlot, and_comm]
  | release caller =>
    obtain ⟨rfl, rfl⟩ := h
    rw [RateLimiter.release_inflightCounts]
    simp [isGrant, isRelease, releasesSlot]
  | cacheGet key =>
    obtain ⟨-, rfl⟩ := h
    simp [isGrant, isRelease, releasesSlot]
  | _ =>
    have hsame : limiter' = limiter := h
    simp [hsame, isGrant, isRelease, releasesSlot]

/-- The requests in progress the limiter counts for an actor are the grants of all requests less
their releases. -/
theorem inflight_add_releases
    (hreach : (gatewaySystem platform settings limits).Reachable (.initial window) config)
    (actorId : String) :
    config.shared.inflightCounts actorId + total releases actorId config.threads =
      total grants actorId config.threads := by
  refine System.Reachable.invariant (fun config ↦
    config.shared.inflightCounts actorId + total releases actorId config.threads =
      total grants actorId config.threads) hreach (by simp [total]) ?_
  intro first second hfirst ih hstep
  have hsecond : (gatewaySystem platform settings limits).Reachable (.initial window) second :=
    hfirst.tail hstep
  have hle : ∀ thread ∈ second.threads,
      releases actorId thread.history ≤ grants actorId thread.history :=
    fun thread hthread ↦ releases_le_grants (cacheAnswers_of_reachable hsecond thread hthread)
      (hsecond.thread_after thread hthread) actorId
  cases hstep with
  | arrive shared threads request =>
    simp only [total_append] at ih ⊢
    simpa [total, System.arrival, releases, grants] using ih
  | call shared shared' before after request history op next answer hexec =>
    -- a release finds the count positive, as no request has released more than it was granted
    have hcaller := hle ⟨request, history ++ [⟨op, answer⟩], next answer⟩ (by simp)
    have hbefore : total releases actorId before ≤ total grants actorId before :=
      List.sum_le_sum fun thread hthread ↦ hle thread (by simp [hthread])
    have hafter : total releases actorId after ≤ total grants actorId after :=
      List.sum_le_sum fun thread hthread ↦ hle thread (by simp [hthread])
    have hcount := limiterExec_inflightCounts hexec actorId
    simp only [total_append, total_cons, grants_snoc, releases_snoc] at ih hcaller ⊢
    have hnotboth : isRelease actorId ⟨op, answer⟩ = true → isGrant actorId ⟨op, answer⟩ = false := by
      intro hrelease
      cases op with
      | release caller => rfl
      | _ => exact absurd hrelease (by simp [isRelease, releasesSlot])
    by_cases hrelease : isRelease actorId ⟨op, answer⟩ = true
    · simp only [hrelease, hnotboth hrelease, if_true] at hcount hcaller ⊢
      simp only [Bool.false_eq_true, if_false] at hcount hcaller ⊢
      omega
    · simp only [hrelease] at hcount hcaller ⊢
      simp only [Bool.false_eq_true, if_false] at hcount hcaller ⊢
      omega
  | world shared shared' threads houtside => exact absurd houtside id

theorem total_eq_iff_cleared
    (hreach : (gatewaySystem platform settings limits).Reachable (.initial window) config)
    {actorId : String}
    (hidle : ∀ thread ∈ config.threads, ¬thread.Finished → grants actorId thread.history = 0) :
    total releases actorId config.threads = total grants actorId config.threads ↔
      ∀ thread ∈ config.threads, ∀ actor, actorIdOf actor = actorId → GrantedTo thread actor →
        Cleared platform actor thread.history thread.request := by
  have hafter := hreach.thread_after
  have hcache := cacheAnswers_of_reachable hreach
  have hle : ∀ thread ∈ config.threads,
      releases actorId thread.history ≤ grants actorId thread.history :=
    fun thread hthread ↦ releases_le_grants (hcache thread hthread) (hafter thread hthread) actorId
  constructor
  · intro htotal thread hthread actor hown hgranted
    by_contra hcleared
    have hlt : releases actorId thread.history < grants actorId thread.history := by
      have hpos := hgranted.2
      rw [hown] at hpos
      have hfinished : thread.Finished := by
        by_contra hpending
        have hnone := hidle thread hthread hpending
        omega
      rcases serve_after (hcache thread hthread) (hafter thread hthread) with hslotless |
        ⟨actor', hcut⟩
      · have hnone := hslotless.grants_eq actorId
        omega
      · have hsame := hcut.actor_unique hgranted.1
        subst hsame
        have hcount := hcut.releases_eq actorId
        rw [if_pos hown] at hcount
        have hone : releases actorId thread.history ≠ 1 :=
          fun hone ↦ hcleared ((hcount.2 hfinished hown).mp hone)
        omega
    exact absurd htotal (Nat.ne_of_lt (List.sum_lt_sum _ _ hle ⟨thread, hthread, hlt⟩))
  · intro hcleared
    have hsame : ∀ thread ∈ config.threads,
        releases actorId thread.history = grants actorId thread.history := by
      intro thread hthread
      by_cases hfinished : thread.Finished
      · rcases serve_after (hcache thread hthread) (hafter thread hthread) with hslotless |
          ⟨actor, hcut⟩
        · rw [hslotless.releases_eq actorId, hslotless.grants_eq actorId]
        · rw [hcut.grants_eq actorId]
          by_cases hown : actorIdOf actor = actorId
          · rw [if_pos hown]
            refine ((hcut.releases_eq actorId).2 hfinished hown).mpr
              (hcleared thread hthread actor hown ⟨hcut.authenticated, ?_⟩)
            rw [hcut.grants_eq, if_pos rfl]
          · have hnone := (hcut.releases_eq actorId).1
            rw [if_neg hown] at hnone ⊢
            omega
      · have hnone := hidle thread hthread hfinished
        have := hle thread hthread
        omega
    exact congrArg List.sum (List.map_congr_left hsame)

/-- A request that was granted a slot and has finished has given it back exactly if it was cleared.
Once no request with a slot of an actor is pending, the limiter counts none for it exactly if all
requests that were granted one were cleared, and then the next request of the actor is not refused
for concurrency. -/
theorem slot_returned_iff_cleared
    (hreach : (gatewaySystem platform settings limits).Reachable (.initial window) config) :
    (∀ thread ∈ config.threads, thread.Finished → ∀ actor, GrantedTo thread actor →
      (releases (actorIdOf actor) thread.history = 1 ↔
        Cleared platform actor thread.history thread.request)) ∧
    ∀ actorId, (∀ thread ∈ config.threads, ¬thread.Finished → grants actorId thread.history = 0) →
      (config.shared.inflightCounts actorId = 0 ↔
        ∀ thread ∈ config.threads, ∀ actor, actorIdOf actor = actorId → GrantedTo thread actor →
          Cleared platform actor thread.history thread.request) ∧
      ((∀ thread ∈ config.threads, ∀ actor, actorIdOf actor = actorId → GrantedTo thread actor →
          Cleared platform actor thread.history thread.request) →
        1 ≤ limits.maxConcurrentPerActor → ∀ currentWindow,
          (config.shared.tryAcquire limits currentWindow actorId).1.reason ≠
            "concurrency_limit_exceeded") := by
  have hafter := hreach.thread_after
  have hcache := cacheAnswers_of_reachable hreach
  refine ⟨fun thread hthread hfinished actor hgranted ↦ ?_, fun actorId hidle ↦ ?_⟩
  · rcases serve_after (hcache thread hthread) (hafter thread hthread) with hslotless |
      ⟨actor', hcut⟩
    · have hpos := hgranted.2
      rw [hslotless.grants_eq] at hpos
      omega
    · have hsame := hcut.actor_unique hgranted.1
      subst hsame
      exact (hcut.releases_eq _).2 hfinished rfl
  · have haccount := inflight_add_releases hreach actorId
    have hcleared := total_eq_iff_cleared hreach hidle
    have hnone : config.shared.inflightCounts actorId = 0 ↔
        ∀ thread ∈ config.threads, ∀ actor, actorIdOf actor = actorId → GrantedTo thread actor →
          Cleared platform actor thread.history thread.request := by
      rw [← hcleared]
      omega
    refine ⟨hnone, fun hall hlimit currentWindow hrefused ↦ ?_⟩
    have hfull := RateLimiter.tryAcquire_concurrency hrefused
    rw [hnone.mpr hall] at hfull
    omega

end Runs

/-- An analyst of the region `eu`. -/
def euAnalyst : Fields :=
  [("actor_id", .str "a1"), ("actor_type", .str "human"), ("roles", .arr [.str "analyst"]),
    ("attributes", .obj [("region", .str "eu")])]

/-- What the gateway's parts answer the analyst in an empty workspace whose queries are cached. -/
def analystAnswers : (op : GatewayOp) → Except Exn op.Answer :=
  answersTo euAnalyst none (some ⟨[], []⟩)

def analystRequest (resourceAttributes : Fields) : GatewayRequest :=
  .query ⟨[("workspace_id", .str "ws"), ("resource_attributes", .obj resourceAttributes)], "r1"⟩

/-- The analyst's request once it has been served. -/
def servedAnalyst (resourceAttributes : Fields) : GatewayThread :=
  let program := serve ⟨id, id⟩ duckdbSettings (analystRequest resourceAttributes)
  ⟨analystRequest resourceAttributes, history analystAnswers program,
    done (eval analystAnswers program)⟩

/-- One request per actor is allowed at a time. -/
def oneAtATime : RateLimits := ⟨60, 1⟩

theorem reachable_servedAnalyst (resourceAttributes : Fields) (limiter : RateLimiter)
    (hexecs : System.Execs (gatewaySystem ⟨id, id⟩ duckdbSettings oneAtATime) (.initial 0)
      (servedAnalyst resourceAttributes).history limiter) :
    (gatewaySystem ⟨id, id⟩ duckdbSettings oneAtATime).Reachable (.initial 0)
      ⟨limiter, [servedAnalyst resourceAttributes]⟩ :=
  System.Reachable.serve .refl (run_history _ _) hexecs

/-- The analyst reads a resource of no region from the cache and gives the slot back. -/
theorem cached_query_returns_slot :
    releases "a1" (servedAnalyst []).history = 1 := by
  have hreach := reachable_servedAnalyst []
    (((RateLimiter.initial 0).grant "a1").release "a1") <|
    .cons rfl <| .cons rfl <| .cons rfl <| .cons ⟨0, rfl, rfl⟩ <| .cons rfl <|
    .cons ⟨⟨_, rfl⟩, rfl⟩ <| .cons ⟨rfl, rfl⟩ <| .cons rfl <| .cons rfl <| .cons rfl <|
    .cons rfl <| .cons rfl <| .nil _
  refine ((slot_returned_iff_cleared hreach).1 _ (List.mem_singleton_self _) ⟨_, rfl⟩ euAnalyst
    ⟨.tail _ (.head _), by decide⟩).mpr ⟨fun hai ↦ ?_, by decide, ⟨_, rfl⟩, none, ?_⟩
  · exact absurd hai (by decide)
  · exact .tail _ (.tail _ (.tail _ (.tail _ (.head _))))

/-- The analyst asks for a resource of the region `us`: the request is denied, keeps its slot, and
the analyst's next request is refused whenever it comes. -/
theorem region_mismatch_keeps_slot :
    ∃ config, (gatewaySystem ⟨id, id⟩ duckdbSettings oneAtATime).Reachable (.initial 0) config ∧
      (∀ thread ∈ config.threads, thread.Finished) ∧
      (∃ thread ∈ config.threads, GrantedTo thread euAnalyst ∧
        releases "a1" thread.history = 0) ∧
      ∀ currentWindow, (config.shared.tryAcquire oneAtATime currentWindow "a1").1 =
        ⟨false, "concurrency_limit_exceeded"⟩ := by
  have hreach := reachable_servedAnalyst [("region", .str "us")]
    ((RateLimiter.initial 0).grant "a1") <|
    .cons rfl <| .cons rfl <| .cons rfl <| .cons ⟨0, rfl, rfl⟩ <| .cons rfl <| .cons rfl <| .nil _
  refine ⟨_, hreach, ?_, ⟨_, List.mem_singleton_self _, ⟨.tail _ (.head _), by decide⟩, by decide⟩,
    fun currentWindow ↦ ?_⟩
  · intro thread hthread
    rw [List.mem_singleton] at hthread
    subst hthread
    exact ⟨_, rfl⟩
  · have hcount : ((RateLimiter.initial 0).grant "a1").inflightCounts "a1" = 1 := by decide
    simp [RateLimiter.tryAcquire, hcount, oneAtATime]

end SchemaPilot.Gateway
