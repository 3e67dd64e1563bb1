import SchemaPilot.ControlPlane.Service

/-!
# The review queue and the publish gate

`backend/control_plane/review_repository.py` and `backend/control_plane/gating.py`.
-/

namespace SchemaPilot.ControlPlane

open Library Library.Json SharedDomain

/-- `create_proposal`. -/
def createProposal (service : Service) (workspaceId proposalType evidenceBundleUri : String)
    (confidence : Json) : Handler ReviewProposal := do
  let proposal : ReviewProposal :=
    { proposalId := ← newUlid service
      workspaceId := workspaceId
      proposalType := proposalType
      evidenceBundleUri := evidenceBundleUri
      confidence := confidence
      status := "open" }
  save (Database.addProposal proposal)
  return proposal

/-- `create_review_task`. -/
def createReviewTask (service : Service) (workspaceId subjectRef priority : String)
    (blocking : Bool) : Handler ReviewTask := do
  let task : ReviewTask :=
    { taskId := ← newUlid service
      workspaceId := workspaceId
      priority := priority
      subjectRef := subjectRef
      status := "open"
      blocking := blocking }
  save (Database.addTask task)
  return task

/-- `status_map.get(decision, "deferred")`. -/
def decidedStatus (decision : String) : String :=
  ([("approve", "approved"), ("reject", "rejected"), ("defer", "deferred")].lookup
    decision).getD "deferred"

/-- `task.status = status` for the task of a primary key. -/
def Database.setTaskStatus (taskId status : String) (db : Database) : Database :=
  { db with tasks := db.tasks.map fun task ↦
      if task.taskId = taskId then { task with status := status } else task }

/-- `decide_review_task`. -/
def decideReviewTask (service : Service) (workspaceId taskId actorId decision reason : String) :
    Handler (Option ReviewApproval) := do
  match ← query fun db ↦ db.tasks.find? fun task ↦ task.taskId = taskId with
  | none => return none
  | some task =>
    if task.workspaceId ≠ workspaceId then return none
    else
      onTables (Effect.change (Database.setTaskStatus taskId (decidedStatus decision)))
      let approval : ReviewApproval :=
        { approvalId := ← newUlid service
          taskId := taskId
          actorId := actorId
          decision := decision
          decisionReason := reason
          appliedChangesRef := "review_queue"
          auditEventId := ← newUlid service }
      save (Database.addApproval approval)
      return some approval

/-- A task that still blocks: `blocking` and `status in ("open", "in_review")`. -/
def ReviewTask.unresolved (task : ReviewTask) : Bool :=
  task.blocking && ["open", "in_review"].contains task.status

/-- `unresolved_blocking_task_count`. -/
def unresolvedBlockingTaskCount (workspaceId : String) (db : Database) : ℕ :=
  db.tasks.countP fun task ↦ task.workspaceId = workspaceId ∧ task.unresolved

structure PublishGate where
  allowed : Bool
  reason : String
deriving DecidableEq

/-- `evaluate_gold_publish_gate`. -/
def evaluateGoldPublishGate (contractsPassed : Bool) (unresolvedBlockingTasks : ℕ) : PublishGate :=
  if !contractsPassed then ⟨false, "contract_failure"⟩
  else if 0 < unresolvedBlockingTasks then ⟨false, "blocking_review_tasks"⟩
  else ⟨true, "all_gates_passed"⟩

/-- What `create_proposal` returns. -/
def ReviewProposal.toFields (proposal : ReviewProposal) : Fields :=
  [("proposal_id", .str proposal.proposalId), ("workspace_id", .str proposal.workspaceId),
    ("proposal_type", .str proposal.proposalType),
    ("evidence_bundle_uri", .str proposal.evidenceBundleUri),
    ("confidence", proposal.confidence), ("status", .str proposal.status)]

/-- What `create_review_task` returns. -/
def ReviewTask.toFields (task : ReviewTask) : Fields :=
  [("task_id", .str task.taskId), ("workspace_id", .str task.workspaceId),
    ("priority", .str task.priority), ("subject_ref", .str task.subjectRef),
    ("status", .str task.status), ("blocking", .bool task.blocking)]

/-- What `decide_review_task` returns. -/
def ReviewApproval.toFields (approval : ReviewApproval) : Fields :=
  [("approval_id", .str approval.approvalId), ("task_id", .str approval.taskId),
    ("actor_id", .str approval.actorId), ("decision", .str approval.decision),
    ("decision_reason", .str approval.decisionReason)]

end SchemaPilot.ControlPlane
