import SchemaPilot.SharedDomain.EvidenceStore

/-!
# The control plane's state and requests

A request runs on the world: the database, the files and the identifiers handed out so far. Its
session is a transaction, so an exception puts the database back and leaves the files as they are.
Metrics, logs and the dispatch of the audit outbox after the response have no part in an answer and
are left out.
-/

namespace SchemaPilot.ControlPlane

open Library Library.Json SharedDomain

/-- `review_review_proposals`. -/
structure ReviewProposal where
  proposalId : String
  workspaceId : String
  proposalType : String
  evidenceBundleUri : String
  confidence : Json
  status : String

/-- `review_review_tasks`. -/
structure ReviewTask where
  taskId : String
  workspaceId : String
  priority : String
  subjectRef : String
  status : String
  blocking : Bool
deriving DecidableEq

/-- `review_approvals`. -/
structure ReviewApproval where
  approvalId : String
  taskId : String
  actorId : String
  decision : String
  decisionReason : String
  appliedChangesRef : String
  auditEventId : String
deriving DecidableEq

/-- `governance_retention_policies`. -/
structure RetentionPolicy where
  retentionPolicyId : String
  workspaceId : String
  retentionDays : ℤ
  enabled : Bool
  purgeEnabled : Bool
  legalHoldActive : Bool
  createdBy : String
  status : String
deriving DecidableEq

/-- `governance_purge_runs`. -/
structure PurgeRun where
  purgeRunId : String
  workspaceId : String
  retentionPolicyId : String
  dryRun : Bool
  status : String
  deletedCount : ℕ
  deletedPaths : List String
  evidenceBundleUri : String
deriving DecidableEq

/-- `governance_policies`. A definition is what its text reads as, `none` when it is no JSON. -/
structure GovernancePolicy where
  policyId : String
  workspaceId : String
  policyType : String
  definitionRef : Option Json
  status : String

/-- `catalog_datasets`. -/
structure CatalogDataset where
  datasetId : String
  workspaceId : String
  sensitivitySummary : Json

/-- `audit_audit_events`. -/
structure AuditEvent where
  auditEventId : String
  workspaceId : Option String
  actorId : String
  eventType : String
  eventJson : Fields
  correlationId : String

/-- `audit_outbox_events`. -/
structure AuditOutboxEvent where
  outboxEventId : String
  service : String
  workspaceId : Option String
  auditEventId : String
  payload : Fields
  status : String
  attemptCount : ℕ
  lastError : Option String

/-- The tables the requests read or write; of `workspaces` only the keys matter. -/
structure Database where
  workspaces : List String
  datasets : List CatalogDataset
  policies : List GovernancePolicy
  proposals : List ReviewProposal
  tasks : List ReviewTask
  approvals : List ReviewApproval
  retentionPolicies : List RetentionPolicy
  purgeRuns : List PurgeRun
  auditEvents : List AuditEvent
  auditOutbox : List AuditOutboxEvent

def Database.empty : Database := ⟨[], [], [], [], [], [], [], [], [], []⟩

/-- `session.add(row)` and `session.flush()`: a primary key is inserted once. -/
def insertRow {ρ : Type} (primaryKey : ρ → String) (rows : List ρ) (row : ρ) :
    Except Exn (List ρ) :=
  if rows.any fun other ↦ primaryKey other = primaryKey row then
    .error (.other "IntegrityError")
  else .ok (rows ++ [row])

namespace Database

def addPolicy (row : GovernancePolicy) (db : Database) : Except Exn Database :=
  (insertRow GovernancePolicy.policyId db.policies row).map fun rows ↦ { db with policies := rows }

def addProposal (row : ReviewProposal) (db : Database) : Except Exn Database :=
  (insertRow ReviewProposal.proposalId db.proposals row).map fun rows ↦ { db with proposals := rows }

def addTask (row : ReviewTask) (db : Database) : Except Exn Database :=
  (insertRow ReviewTask.taskId db.tasks row).map fun rows ↦ { db with tasks := rows }

def addApproval (row : ReviewApproval) (db : Database) : Except Exn Database :=
  (insertRow ReviewApproval.approvalId db.approvals row).map fun rows ↦ { db with approvals := rows }

def addPurgeRun (row : PurgeRun) (db : Database) : Except Exn Database :=
  (insertRow PurgeRun.purgeRunId db.purgeRuns row).map fun rows ↦ { db with purgeRuns := rows }

def addAuditEvent (row : AuditEvent) (db : Database) : Except Exn Database :=
  (insertRow AuditEvent.auditEventId db.auditEvents row).map fun rows ↦
    { db with auditEvents := rows }

def addOutboxEvent (row : AuditOutboxEvent) (db : Database) : Except Exn Database :=
  (insertRow AuditOutboxEvent.outboxEventId db.auditOutbox row).map fun rows ↦
    { db with auditOutbox := rows }

end Database

structure World where
  db : Database
  files : FileStore
  issued : ℕ

/-- The settings and the code outside the handlers. -/
structure Service where
  storageRoot : String
  retentionPurgeRoot : Option String
  auditSinkMode : String
  /-- The directory a configured path names. -/
  resolvePath : String → TreePath
  codec : EvidenceCodec
  /-- The identifiers of `new_ulid()`, one after the other. -/
  newUlid : ℕ → String
  /-- `float(value)`. -/
  toFloat : Json → Except Exn Json
  /-- A time as the float `time.time()` reports. -/
  epochJson : ℤ → Json

/-- What a request brings along. The fault is what the audit table, the sink or the outbox raises on
the event of the request. -/
structure RequestContext where
  actor : Option Fields
  requestId : String
  now : ℤ
  auditFault : AuditEvent → Option Exn

abbrev Handler (α : Type) := Effect World Exn α

def onFiles {α : Type} (p : Files α) : Handler α :=
  p.within World.files fun files world ↦ { world with files := files }

def onTables {α : Type} (p : Effect Database Exn α) : Handler α :=
  p.within World.db fun db world ↦ { world with db := db }

def query {α : Type} (f : Database → α) : Handler α := do return f (← Effect.read).db

/-- Replace the tables by the outcome of an insertion. -/
def save (f : Database → Except Exn Database) : Handler Unit :=
  onTables fun db ↦
    match f db with
    | .ok after => (.ok (), after)
    | .error exception => (.error exception, db)

/-- `new_ulid()`. -/
def newUlid (service : Service) : Handler String := fun world ↦
  (.ok (service.newUlid world.issued), { world with issued := world.issued + 1 })

/-- The directory of `settings.storage_root`. -/
def Service.storagePath (service : Service) : TreePath := service.resolvePath service.storageRoot

/-- `get_session`: the session of a request commits, or rolls back and passes the exception on. -/
def inSession {α : Type} (handler : Handler α) : Handler α := fun world ↦
  match handler world with
  | (.ok value, after) => (.ok value, after)
  | (.error exception, after) => (.error exception, { after with db := world.db })

/-- `PolicyDeniedError("Access denied by policy", details)`. -/
def accessDenied (details : Fields) : Exn := .policyDenied "Access denied by policy" details

/-- `actor_has_any_role`. -/
def actorHasAnyRole (actor : Fields) (required : List String) : Bool :=
  match getD actor "roles" (.arr []) with
  | .arr roles => roles.any fun role ↦ required.contains role.toStr
  | _ => false

/-- `require_actor`, the roles being sorted. -/
def requireActor (context : RequestContext) (roles : List String) : Handler Fields :=
  match context.actor with
  | none => Effect.raise (accessDenied [("reason", .str "missing_or_invalid_auth_token")])
  | some actor =>
    if roles ≠ [] ∧ actorHasAnyRole actor roles = false then
      Effect.raise (accessDenied [("reason", .str "missing_required_role"),
        ("required_roles", textList roles)])
    else pure actor

/-- `str(actor.get("actor_id", "unknown"))`. -/
def actorId (actor : Fields) : String := (getD actor "actor_id" (.str "unknown")).toStr

def platformAdminRoles : List String := ["platform_admin"]

def stewardOrAdminRoles : List String := ["data_steward", "platform_admin"]

def AuditEvent.toFields (event : AuditEvent) : Fields :=
  [("audit_event_id", .str event.auditEventId),
    ("workspace_id", (event.workspaceId.map Json.str).getD .null),
    ("actor_id", .str event.actorId), ("event_type", .str event.eventType),
    ("event_json", .obj event.eventJson), ("correlation_id", .str event.correlationId)]

/-- The denial of a request whose audit event could not be written. -/
def auditUnavailable (eventType : String) : Exn :=
  accessDenied [("reason", .str "audit_unavailable"), ("operation", .str eventType)]

/-- What `append_audit_event` does before anything fails. -/
def writeAuditEvent (service : Service) (context : RequestContext) (workspaceId : Option String)
    (actorId eventType : String) (eventJson : Fields) : Handler Fields := do
  let event : AuditEvent :=
    { auditEventId := ← newUlid service
      workspaceId := workspaceId
      actorId := actorId
      eventType := eventType
      eventJson := eventJson
      correlationId := context.requestId }
  save (Database.addAuditEvent event)
  match context.auditFault event with
  | some exception => Effect.raise exception
  | none =>
    if service.auditSinkMode = "inline" then return event.toFields
    else
      let outboxEventId ← newUlid service
      save (Database.addOutboxEvent
        { outboxEventId := outboxEventId
          service := "control_plane"
          workspaceId := workspaceId
          auditEventId := event.auditEventId
          payload := event.toFields
          status := "pending"
          attemptCount := 0
          lastError := none })
      return event.toFields

/-- `append_audit_event`: whatever goes wrong denies the request. -/
def appendAuditEvent (service : Service) (context : RequestContext)
    (workspaceId : Option String) (actorId eventType : String) (eventJson : Fields) :
    Handler Fields :=
  (writeAuditEvent service context workspaceId actorId eventType eventJson).tryExcept
    fun _ ↦ Effect.raise (auditUnavailable eventType)

end SchemaPilot.ControlPlane
