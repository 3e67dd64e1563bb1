import SchemaPilot.ControlPlane.PublicationGate
import SchemaPilot.Library.Versions

/-!
# The tables over whole runs

A request works on the rows of the workspace it is addressed to and, when it answers with a body, writes
one audit event that says the same as the body (`writes_handle`). So the audit table of a run lists the
answers in their order (`auditTrail_run`), and the rows of a workspace stay while everything that happens
is addressed to others (`rowsOf_run`).
-/

namespace SchemaPilot.ControlPlane

open Library Library.Json Library.Effect Library.Versions SharedDomain

/-- The rows that carry the id of a workspace, of the tables a request writes. -/
def Database.rowsOf (db : Database) (workspaceId : String) :
    List ReviewProposal × List ReviewTask × List PurgeRun :=
  (db.proposals.filter (·.workspaceId = workspaceId), db.tasks.filter (·.workspaceId = workspaceId),
    db.purgeRuns.filter (·.workspaceId = workspaceId))

/-- The primary keys of the tasks. -/
def Database.UniqueTasks (db : Database) : Prop := (db.tasks.map ReviewTask.taskId).Nodup

/-- What an audit event says, but for its key. -/
structure AuditRecord where
  workspaceId : Option String
  actorId : String
  eventType : String
  eventJson : Fields
  correlationId : String

def AuditEvent.record (event : AuditEvent) : AuditRecord :=
  ⟨event.workspaceId, event.actorId, event.eventType, event.eventJson, event.correlationId⟩

/-- Work on the rows of one workspace that writes some audit events. -/
structure Works (workspaceId : String) (records : List AuditRecord) (before after : Database) :
    Prop where
  audit : after.auditEvents.map AuditEvent.record =
    before.auditEvents.map AuditEvent.record ++ records
  unique : before.UniqueTasks → after.UniqueTasks
  others : before.UniqueTasks → ∀ other, other ≠ workspaceId → after.rowsOf other = before.rowsOf other

theorem Works.trans {workspaceId : String} {first second : List AuditRecord}
    {before middle after : Database} (h : Works workspaceId first before middle)
    (h' : Works workspaceId second middle after) : Works workspaceId (first ++ second) before after where
  audit := by rw [h'.audit, h.audit, List.append_assoc]
  unique := h'.unique ∘ h.unique
  others hunique other hother :=
    (h'.others (h.unique hunique) other hother).trans (h.others hunique other hother)

theorem Works.refl (workspaceId : String) (db : Database) : Works workspaceId [] db db :=
  ⟨(List.append_nil _).symm, id, fun _ _ _ ↦ rfl⟩

section Writes

variable {α β : Type} {workspaceId : String} {service : Service} {context : RequestContext}

/-- A handler that returns has worked on the workspace, with the audit events of its value. -/
def Writes (workspaceId : String) (records : α → List AuditRecord) (p : Handler α) : Prop :=
  ∀ world value after, p world = (.ok value, after) →
    Works workspaceId (records value) world.db after.db

abbrev Unaudited (workspaceId : String) (p : Handler α) : Prop := Writes workspaceId (fun _ ↦ []) p

theorem Writes.of_run {records : α → List AuditRecord} {p : Handler α}
    (h : Writes workspaceId records p) {world after : World} {value : α}
    (hrun : p world = (.ok value, after)) : Works workspaceId (records value) world.db after.db :=
  h world value after hrun

theorem Unaudited.of_run {p : Handler α} (h : Unaudited workspaceId p) {world after : World}
    {value : α} (hrun : p world = (.ok value, after)) : Works workspaceId [] world.db after.db :=
  h world value after hrun

theorem Unaudited.bind {records : β → List AuditRecord} {p : Handler α} {next : α → Handler β}
    (hp : Unaudited workspaceId p) (hnext : ∀ value, Writes workspaceId records (next value)) :
    Writes workspaceId records (p >>= next) := fun world value after h ↦ by
  obtain ⟨first, middle, hfirst, hrest⟩ := bind_eq_ok_iff.mp h
  exact (hp.of_run hfirst).trans ((hnext first).of_run hrest)

theorem unaudited_of_keeps {p : Handler α} (h : Keeps World.db p) : Unaudited workspaceId p :=
  fun _ _ _ hrun ↦ h.of_run hrun ▸ Works.refl _ _

theorem writes_after {records : β → List AuditRecord} {p : Handler α} {next : α → Handler β}
    (hp : Keeps World.db p) (hnext : ∀ value, Writes workspaceId records (next value)) :
    Writes workspaceId records (p >>= next) := (unaudited_of_keeps hp).bind hnext

theorem unaudited_pure (value : α) : Unaudited workspaceId (pure value : Handler α) :=
  unaudited_of_keeps (keeps_pure value)

/-- What an insertion makes of the tables. -/
theorem unaudited_save {f : Database → Except Exn Database}
    (h : ∀ db after, f db = .ok after → Works workspaceId [] db after) :
    Unaudited workspaceId (save f) := fun _ _ _ hrun ↦ h _ _ (save_eq_ok hrun).1

theorem unaudited_addProposal {row : ReviewProposal} (hrow : row.workspaceId = workspaceId) :
    Unaudited workspaceId (save (Database.addProposal row)) := by
  refine unaudited_save fun db after h ↦ ?_
  obtain ⟨rows, hrows, rfl⟩ := map_eq_ok h
  refine ⟨(List.append_nil _).symm, id, fun _ other hother ↦ ?_⟩
  simp [Database.rowsOf, (insertRow_eq_ok hrows).1, hrow, hother.symm]

theorem unaudited_addPurgeRun {row : PurgeRun} (hrow : row.workspaceId = workspaceId) :
    Unaudited workspaceId (save (Database.addPurgeRun row)) := by
  refine unaudited_save fun db after h ↦ ?_
  obtain ⟨rows, hrows, rfl⟩ := map_eq_ok h
  refine ⟨(List.append_nil _).symm, id, fun _ other hother ↦ ?_⟩
  simp [Database.rowsOf, (insertRow_eq_ok hrows).1, hrow, hother.symm]

theorem unaudited_addApproval (row : ReviewApproval) :
    Unaudited workspaceId (save (Database.addApproval row)) := by
  refine unaudited_save fun db after h ↦ ?_
  obtain ⟨rows, -, rfl⟩ := map_eq_ok h
  exact ⟨(List.append_nil _).symm, id, fun _ _ _ ↦ rfl⟩

theorem unaudited_addOutboxEvent (row : AuditOutboxEvent) :
    Unaudited workspaceId (save (Database.addOutboxEvent row)) := by
  refine unaudited_save fun db after h ↦ ?_
  obtain ⟨rows, -, rfl⟩ := map_eq_ok h
  exact ⟨(List.append_nil _).symm, id, fun _ _ _ ↦ rfl⟩

theorem unaudited_addTask {row : ReviewTask} (hrow : row.workspaceId = workspaceId) :
    Unaudited workspaceId (save (Database.addTask row)) := by
  refine unaudited_save fun db after h ↦ ?_
  obtain ⟨rows, hrows, rfl⟩ := map_eq_ok h
  obtain ⟨rfl, hnew⟩ := insertRow_eq_ok hrows
  refine ⟨(List.append_nil _).symm, fun hunique ↦ ?_, fun _ other hother ↦ ?_⟩
  · rw [Database.UniqueTasks, List.map_append, List.nodup_append]
    refine ⟨hunique, List.nodup_singleton _, fun taskId hmem other hother ↦ ?_⟩
    obtain ⟨task, htask, rfl⟩ := List.mem_map.mp hmem
    exact List.mem_singleton.mp hother ▸ hnew task htask
  · simp [Database.rowsOf, hrow, hother.symm]

theorem works_mapTasks {db : Database} {change : ReviewTask → ReviewTask}
    (hid : ∀ row, (change row).taskId = row.taskId)
    (hworkspace : ∀ row, (change row).workspaceId = row.workspaceId)
    (hothers : db.UniqueTasks → ∀ row ∈ db.tasks, row.workspaceId ≠ workspaceId → change row = row) :
    Works workspaceId [] db { db with tasks := db.tasks.map change } := by
  refine ⟨(List.append_nil _).symm, fun hunique ↦ ?_, fun hunique other hother ↦ ?_⟩
  · rw [Database.UniqueTasks, List.map_map]
    rwa [show ReviewTask.taskId ∘ change = ReviewTask.taskId from funext hid]
  · have htasks : (db.tasks.map change).filter (·.workspaceId = other) =
        db.tasks.filter (·.workspaceId = other) := by
      rw [List.filter_map, Function.comp_def]
      simp only [hworkspace]
      refine (List.map_congr_left fun row hrow ↦ ?_).trans (List.map_id _)
      obtain ⟨hstored, howner⟩ := List.mem_filter.mp hrow
      exact hothers hunique row hstored fun heq ↦ hother ((of_decide_eq_true howner).symm.trans heq)
    rw [Database.rowsOf, htasks]
    rfl

/-- The task of a key is in one workspace only. -/
theorem works_setTaskStatus {db : Database} {task : ReviewTask} (htask : task ∈ db.tasks)
    (status : String) : Works task.workspaceId [] db (db.setTaskStatus task.taskId status) := by
  refine works_mapTasks (fun row ↦ ?_) (fun row ↦ ?_) fun hunique row hrow hother ↦
    if_neg fun hid ↦ hother ?_
  · split_ifs <;> rfl
  · split_ifs <;> rfl
  · rw [List.inj_on_of_nodup_map hunique hrow htask hid]

theorem unaudited_createProposal (proposalType evidenceBundleUri : String) (confidence : Json) :
    Unaudited workspaceId
      (createProposal service workspaceId proposalType evidenceBundleUri confidence) :=
  writes_after (keeps_db_newUlid service) fun _ ↦
    (unaudited_addProposal (by rfl)).bind fun _ ↦ unaudited_pure _

theorem unaudited_createReviewTask (subjectRef priority : String) (blocking : Bool) :
    Unaudited workspaceId (createReviewTask service workspaceId subjectRef priority blocking) :=
  writes_after (keeps_db_newUlid service) fun _ ↦
    (unaudited_addTask (by rfl)).bind fun _ ↦ unaudited_pure _

theorem unaudited_foundOr {create : Handler α} (hcreate : Unaudited workspaceId create)
    (found : Option α) : Unaudited workspaceId (foundOr create found) := by
  cases found with
  | none => exact hcreate
  | some row => exact unaudited_pure _

theorem unaudited_applyPublishGate (buildId : String) (payload : Fields) (gate : PublishGate)
    (failures : List Fields) : Unaudited workspaceId
      (applyPublishGate service context workspaceId buildId payload gate failures) := by
  unfold applyPublishGate
  split_ifs
  · exact writes_after (keeps_db_onFiles _) fun _ ↦ unaudited_pure _
  · refine writes_after (keeps_db_onFiles _) fun _ ↦ Unaudited.bind ?_ fun _ ↦
      unaudited_pure _
    exact writes_after (keeps_db_onFiles _) fun _ ↦
      writes_after (keeps_query _) fun _ ↦
        (unaudited_foundOr (unaudited_createProposal _ _ _) _).bind fun _ ↦
          writes_after (keeps_query _) fun _ ↦
            (unaudited_foundOr (unaudited_createReviewTask _ _ _) _).bind fun _ ↦ unaudited_pure _
  · exact writes_after (keeps_db_onFiles _) fun _ ↦ unaudited_pure _

/-- The task that is decided is one of the workspace. -/
theorem unaudited_decideReviewTask (taskId actorId decision reason : String) :
    Unaudited workspaceId
      (decideReviewTask service workspaceId taskId actorId decision reason) := by
  intro world value after h
  rw [decideReviewTask, bind_apply, query_apply] at h
  dsimp only at h
  cases hfound : world.db.tasks.find? fun task ↦ task.taskId = taskId with
  | none =>
    rw [hfound] at h
    cases h
    exact Works.refl _ _
  | some task =>
    rw [hfound] at h
    dsimp only at h
    split_ifs at h with hworkspace
    · cases h
      exact Works.refl _ _
    · obtain ⟨_, decided, hdecided, hrest⟩ := bind_eq_ok_iff.mp h
      cases hdecided
      have hid := List.find?_some hfound
      obtain rfl : task.taskId = taskId := of_decide_eq_true hid
      obtain rfl := not_not.mp hworkspace
      have happroval : Works task.workspaceId []
          (world.db.setTaskStatus task.taskId (decidedStatus decision)) after.db := by
        refine Unaudited.of_run ?_ hrest
        exact writes_after (keeps_db_newUlid service) fun _ ↦
          writes_after (keeps_db_newUlid service) fun _ ↦
            (unaudited_addApproval _).bind fun _ ↦ unaudited_pure _
      exact (works_setTaskStatus (List.mem_of_find?_eq_some hfound) _).trans happroval

theorem unaudited_executeRetentionPurge (actorId : String) (dryRun : Bool) :
    Unaudited workspaceId (executeRetentionPurge service context workspaceId actorId dryRun) := by
  refine writes_after (keeps_query _) fun _ ↦
    writes_after (keeps_ofExcept _) fun _ ↦
      writes_after ((keeps_db_onFiles _).tryExcept fun exception ↦ ?_) fun _ ↦
        writes_after (keeps_db_onFiles _) fun _ ↦
          writes_after (keeps_db_newUlid service) fun _ ↦
            (unaudited_addPurgeRun (by rfl)).bind fun _ ↦ unaudited_pure _
  split_ifs
  · exact keeps_raise _
  · exact keeps_raise _

theorem writes_appendAuditEvent (actorId eventType : String) (eventJson : Fields) :
    Writes workspaceId
      (fun _ ↦ [⟨some workspaceId, actorId, eventType, eventJson, context.requestId⟩])
      (appendAuditEvent service context (some workspaceId) actorId eventType eventJson) := by
  intro world value after h
  rcases tryExcept_eq_ok h with hwritten | ⟨exception, middle, -, hraise⟩
  · obtain ⟨auditEventId, issued, hissued, hsave⟩ := bind_eq_ok_iff.mp hwritten
    obtain ⟨_, saved, hsaved, hrest⟩ := bind_eq_ok_iff.mp hsave
    obtain ⟨events, hevents, hdb⟩ := map_eq_ok (save_eq_ok hsaved).1
    rw [← (keeps_db_newUlid service).of_run hissued]
    have hwrote : Works workspaceId
        [⟨some workspaceId, actorId, eventType, eventJson, context.requestId⟩] issued.db saved.db := by
      rw [← hdb, (insertRow_eq_ok hevents).1]
      exact ⟨List.map_append, id, fun _ _ _ ↦ rfl⟩
    have hqueued : Works workspaceId [] saved.db after.db := by
      cases hfault : context.auditFault
          ⟨auditEventId, some workspaceId, actorId, eventType, eventJson, context.requestId⟩ with
      | some exception =>
        rw [hfault] at hrest
        cases hrest
      | none =>
        rw [hfault] at hrest
        dsimp only at hrest
        split_ifs at hrest
        · cases hrest
          exact Works.refl _ _
        · refine Unaudited.of_run ?_ hrest
          exact writes_after (keeps_db_newUlid service) fun _ ↦
            (unaudited_addOutboxEvent _).bind fun _ ↦ unaudited_pure _
    exact hwrote.trans hqueued
  · cases hraise

end Writes

def ApiRequest.workspaceId : ApiRequest → String
  | .createProposal workspaceId _ => workspaceId
  | .decideReviewTask workspaceId _ _ => workspaceId
  | .publishBuild workspaceId _ _ => workspaceId
  | .rollbackBuild workspaceId _ => workspaceId
  | .executeRetentionPurge workspaceId _ => workspaceId

def ApiRequest.eventType : ApiRequest → String
  | .createProposal _ _ => "proposal.created"
  | .decideReviewTask _ _ _ => "review.decision"
  | .publishBuild _ _ _ => "build.published"
  | .rollbackBuild _ _ => "build.rollback"
  | .executeRetentionPurge _ _ => "retention.purge_executed"

/-- The audit events of an answer: one that says the same as its body. -/
def recordsOf (context : RequestContext) (request : ApiRequest) : ApiResponse → List AuditRecord
  | .body fields => [⟨some request.workspaceId, (context.actor.map actorId).getD "unknown",
      request.eventType, fields, context.requestId⟩]
  | .notFound _ _ => []

theorem writes_requireActor {workspaceId : String} {context : RequestContext} {roles : List String}
    {records : ApiResponse → List AuditRecord} {next : Fields → Handler ApiResponse}
    (h : ∀ actor, context.actor = some actor → Writes workspaceId records (next actor)) :
    Writes workspaceId records (requireActor context roles >>= next) := fun world value after hrun ↦ by
  obtain ⟨actor, _, hactor, hrest⟩ := bind_eq_ok_iff.mp hrun
  obtain ⟨hcontext, rfl⟩ := requireActor_eq_ok hactor
  exact (h actor hcontext).of_run hrest

/-- A body is returned after the audit event that says the same. -/
theorem writes_audited {context : RequestContext} {request : ApiRequest} {actor : Fields}
    (hactor : context.actor = some actor) (service : Service) (fields : Fields) :
    Writes request.workspaceId (recordsOf context request)
      (appendAuditEvent service context (some request.workspaceId) (actorId actor) request.eventType
        fields >>= fun _ ↦ pure (.body fields)) := fun world value after h ↦ by
  obtain ⟨event, middle, hevent, hdone⟩ := bind_eq_ok_iff.mp h
  cases hdone
  rw [recordsOf, hactor]
  exact (writes_appendAuditEvent (actorId actor) request.eventType fields).of_run hevent

theorem writes_handle (service : Service) (context : RequestContext) (request : ApiRequest) :
    Writes request.workspaceId (recordsOf context request) (handle service context request) := by
  have hmissing (message : String) (details : Fields) : Writes request.workspaceId
      (recordsOf context request) (pure (.notFound message details)) := fun world value after h ↦ by
    cases h
    exact Works.refl _ _
  cases request with
  | createProposal workspaceId payload =>
    refine writes_requireActor fun actor hactor ↦ ?_
    exact writes_after (keeps_ofExcept _) fun _ ↦ (unaudited_createProposal _ _ _).bind fun _ ↦
      (unaudited_createReviewTask _ _ _).bind fun _ ↦ writes_audited hactor service _
  | decideReviewTask workspaceId taskId payload =>
    refine writes_requireActor fun actor hactor ↦
      (unaudited_decideReviewTask _ _ _ _).bind fun decision ↦ ?_
    cases decision with
    | none => exact hmissing _ _
    | some approval => exact writes_audited hactor service _
  | publishBuild workspaceId buildId payload =>
    refine writes_requireActor fun actor hactor ↦ ?_
    exact writes_after (keeps_db_onFiles _) fun _ ↦ writes_after (keeps_query _) fun _ ↦
      writes_after (keeps_db_onFiles _) fun _ ↦ (unaudited_applyPublishGate _ _ _ _).bind fun _ ↦
        writes_audited hactor service _
  | rollbackBuild workspaceId buildId =>
    refine writes_requireActor fun actor hactor ↦ writes_after (((keeps_db_onFiles _).bind fun _ ↦
      keeps_pure _).tryExcept fun exception ↦ ?_) fun outcome ↦ ?_
    · split_ifs
      · exact keeps_pure _
      · exact keeps_raise _
    · cases outcome with
      | error reason => exact hmissing _ _
      | ok entries => exact writes_audited hactor service _
  | executeRetentionPurge workspaceId payload =>
    refine writes_requireActor fun actor hactor ↦ ?_
    exact (unaudited_executeRetentionPurge _ _).bind fun _ ↦ writes_audited hactor service _

/-- The audit events that a step of a run writes. -/
def recordedBy (service : Service) : World × Operation → List AuditRecord
  | (world, .request context request) =>
    match (serve service context request world).1 with
    | .ok response => recordsOf context request response
    | .error _ => []
  | (_, .queueTask _ _ _ _) => []

def Operation.workspaceId : Operation → String
  | .request _ apiRequest => apiRequest.workspaceId
  | .queueTask workspaceId _ _ _ => workspaceId

theorem works_perform (service : Service) (world : World) (operation : Operation) :
    Works operation.workspaceId (recordedBy service (world, operation)) world.db
      (perform service world operation).db := by
  cases operation with
  | request context request =>
    rw [recordedBy, perform, serve, inSession]
    rcases hrun : handle service context request world with ⟨exception | response, after⟩
    · exact Works.refl _ _
    · exact (writes_handle service context request).of_run hrun
  | queueTask workspaceId subjectRef priority blocking =>
    rw [recordedBy, perform, inSession]
    rcases hrun : createReviewTask service workspaceId subjectRef priority blocking world with
      ⟨exception | task, after⟩
    · exact Works.refl _ _
    · exact (unaudited_createReviewTask subjectRef priority blocking).of_run hrun

/-- The audit table of a run lists the answers that requests were given, in their order. -/
theorem auditTrail_run (service : Service) (operations : List Operation) (start : World) :
    (run service operations start).db.auditEvents.map AuditEvent.record =
      start.db.auditEvents.map AuditEvent.record ++
        (trace (perform service) start operations).flatMap (recordedBy service) := by
  induction operations generalizing start with
  | nil => exact (List.append_nil _).symm
  | cons operation rest ih =>
    rw [trace, List.flatMap_cons, ← List.append_assoc, ← (works_perform service start operation).audit]
    exact ih _

/-- While everything that happens is addressed to other workspaces, the rows of a workspace stay. -/
theorem rowsOf_run (service : Service) (workspaceId : String) {operations : List Operation}
    {start : World} (hunique : start.db.UniqueTasks)
    (hothers : ∀ operation ∈ operations, operation.workspaceId ≠ workspaceId) :
    (run service operations start).db.rowsOf workspaceId = start.db.rowsOf workspaceId := by
  induction operations generalizing start with
  | nil => rfl
  | cons operation rest ih =>
    rw [List.forall_mem_cons] at hothers
    have hworks := works_perform service start operation
    exact (ih (hworks.unique hunique) hothers.2).trans
      (hworks.others hunique workspaceId hothers.1.symm)

/-- A decision in another workspace leaves a queued task as it is. -/
theorem queued_task_isolated :
    let queued := run localService [.queueTask "w2" "p2" "high" true] passedWorld
    (run localService (decidedBy "approve" "") queued).db.rowsOf "w2" = queued.db.rowsOf "w2" ∧
      (queued.db.rowsOf "w2").2.1.length = 1 :=
  ⟨rowsOf_run localService "w2" (List.nodup_singleton _) (by decide), rfl⟩

end SchemaPilot.ControlPlane
