import SchemaPilot.ControlPlane.Service

/-!
# What may be read from the control plane

The `GET` endpoints of `backend/control_plane/app.py` in their order, with the roles that the ones
which authenticate their caller ask for. `mayRead` is the outcome of that check (`mayRead_iff`).
-/

namespace SchemaPilot.ControlPlane

open Library SharedDomain

inductive Segment where
  | word (text : String)
  /-- A parameter in braces. -/
  | parameter
deriving DecidableEq

def Segment.accepts : Segment → String → Bool
  | word text, segment => segment == text
  | parameter, segment => segment != ""

/-- A `GET` endpoint and the roles its `require_actor` asks for, `none` without such a call. -/
structure Route where
  path : List Segment
  roles : Option (List String)
deriving DecidableEq

def Route.accepts (route : Route) (path : List String) : Bool :=
  route.path.length = path.length &&
    (route.path.zip path).all fun pair ↦ pair.1.accepts pair.2

/-- `analyst_or_steward_or_admin_roles`. -/
def analystOrStewardOrAdminRoles : List String := ["analyst", "data_steward", "platform_admin"]

/-- The route under `/api/v1/workspaces/{workspace_id}`. -/
def workspaceRoute (rest : List Segment) (roles : Option (List String)) : Route :=
  ⟨[.word "api", .word "v1", .word "workspaces", .parameter] ++ rest, roles⟩

/-- The `GET` routes of `create_app`. -/
def readRoutes : List Route :=
  [⟨[.word "api", .word "v1", .word "health"], none⟩,
    ⟨[.word "api", .word "v1", .word "metrics"], none⟩,
    ⟨[.word "api", .word "v1", .word "policy-packs"], none⟩,
    workspaceRoute [.word "policy-pack"] (some analystOrStewardOrAdminRoles),
    workspaceRoute [.word "policy-pack", .word "canary"] (some stewardOrAdminRoles),
    workspaceRoute [.word "semantic-manifest"] (some analystOrStewardOrAdminRoles),
    ⟨[.word "api", .word "v1", .word "workspaces"], none⟩,
    workspaceRoute [.word "retention", .word "policy"] (some analystOrStewardOrAdminRoles),
    workspaceRoute [] none,
    workspaceRoute [.word "sources"] none,
    workspaceRoute [.word "datasets"] none,
    workspaceRoute [.word "datasets", .parameter] none,
    workspaceRoute [.word "catalog", .word "export"] (some analystOrStewardOrAdminRoles),
    workspaceRoute [.word "source-slas"] (some analystOrStewardOrAdminRoles),
    workspaceRoute [.word "evidence", .parameter] (some analystOrStewardOrAdminRoles),
    workspaceRoute [.word "runs", .parameter] none,
    workspaceRoute [.word "runs", .parameter, .word "steps"] none,
    workspaceRoute [.word "run-schedules"] (some analystOrStewardOrAdminRoles),
    workspaceRoute [.word "review_tasks"] none,
    workspaceRoute [.word "review_tasks", .word "summary"] none,
    workspaceRoute [.word "recommendations", .parameter] none,
    workspaceRoute [.word "deletions", .parameter] (some analystOrStewardOrAdminRoles)]

def routeOf? (path : List String) : Option Route := readRoutes.find? fun route ↦ route.accepts path

/-- The check of a route lets the caller through. -/
def Route.mayRead (route : Route) (actor : Option Fields) : Bool :=
  match route.roles with
  | none => true
  | some roles => actor.any fun actor ↦ actorHasAnyRole actor roles

/-- Every role check of a route names a role. -/
theorem roles_ne_nil {route : Route} (h : route ∈ readRoutes) : route.roles ≠ some [] := by
  have hall : ∀ route ∈ readRoutes, route.roles ≠ some [] := by decide
  exact hall route h

/-- A route lets a caller through exactly when the `require_actor` it starts with returns. -/
theorem mayRead_iff {route : Route} (hroute : route ∈ readRoutes) {roles : List String}
    (hroles : route.roles = some roles) (context : RequestContext) (world : World) :
    route.mayRead context.actor = true ↔
      ∃ actor, (requireActor context roles world).1 = .ok actor := by
  have hne : roles ≠ [] := fun hnil ↦ roles_ne_nil hroute (hnil ▸ hroles)
  rw [Route.mayRead, hroles, requireActor]
  cases context.actor with
  | none => simp
  | some actor => cases hrole : actorHasAnyRole actor roles <;> simp [hne, hrole]

end SchemaPilot.ControlPlane
