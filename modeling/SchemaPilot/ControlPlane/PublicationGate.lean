import SchemaPilot.ControlPlane.AuditAtomicity

/-!
# Publication over whole runs

The gate counts the blocking tasks whose status is still open, and the status of a task is what
`decide_review_task` makes of any decision word. While every decision of a run is one of the domain
model's words, with a reason where it asks for one, a blocking task that no longer blocks carries
such a decision (`decisionsRecorded_run`), and a publication that moves the pointer finds its
contracts passed and every blocking task decided (`publication_fail_closed`). With any other word a
task is cleared without a decision.
-/

namespace SchemaPilot.ControlPlane

open Library Library.Json Library.Effect SharedDomain

/-- A decision word of the domain model, with a reason for a rejection or a deferral. -/
def IsExplicitDecision (decision reason : String) : Prop :=
  decision ∈ ["approve", "reject", "defer"] ∧ (decision ≠ "approve" → reason ≠ "")

instance (decision reason : String) : Decidable (IsExplicitDecision decision reason) :=
  inferInstanceAs (Decidable (_ ∧ _))

/-- The task carries an explicit recorded decision. -/
def Database.Decided (db : Database) (task : ReviewTask) : Prop :=
  ∃ approval ∈ db.approvals, approval.taskId = task.taskId ∧
    IsExplicitDecision approval.decision approval.decisionReason

instance (db : Database) (task : ReviewTask) : Decidable (db.Decided task) :=
  inferInstanceAs (Decidable (∃ approval ∈ db.approvals, _))

/-- Every blocking task that no longer blocks carries an explicit recorded decision. -/
def DecisionsRecorded (db : Database) : Prop :=
  ∀ task ∈ db.tasks, task.blocking = true → task.unresolved = false → db.Decided task

theorem decisionsRecorded_empty : DecisionsRecorded Database.empty := by
  intro task htask
  cases htask

theorem DecisionsRecorded.congr {db after : Database} (h : DecisionsRecorded db)
    (htasks : after.tasks = db.tasks) (happrovals : after.approvals = db.approvals) :
    DecisionsRecorded after := by
  intro task htask
  unfold Database.Decided
  rw [happrovals]
  exact h task (htasks ▸ htask)

/-- A row is saved when the tables it leads to keep the decisions recorded. -/
theorem maintains_save {f : Database → Except Exn Database}
    (hf : ∀ db after, f db = .ok after → DecisionsRecorded db → DecisionsRecorded after) :
    Maintains (fun world ↦ DecisionsRecorded world.db) (save f) := by
  intro world done after h hrecorded
  exact hf _ _ (save_eq_ok h).1 hrecorded

theorem maintains_addProposal (row : ReviewProposal) :
    Maintains (fun world ↦ DecisionsRecorded world.db) (save (Database.addProposal row)) := by
  refine maintains_save fun db after h hrecorded ↦ ?_
  obtain ⟨_, -, rfl⟩ := map_eq_ok h
  exact hrecorded.congr rfl rfl

theorem maintains_addPurgeRun (row : PurgeRun) :
    Maintains (fun world ↦ DecisionsRecorded world.db) (save (Database.addPurgeRun row)) := by
  refine maintains_save fun db after h hrecorded ↦ ?_
  obtain ⟨_, -, rfl⟩ := map_eq_ok h
  exact hrecorded.congr rfl rfl

theorem maintains_addAuditEvent (row : AuditEvent) :
    Maintains (fun world ↦ DecisionsRecorded world.db) (save (Database.addAuditEvent row)) := by
  refine maintains_save fun db after h hrecorded ↦ ?_
  obtain ⟨_, -, rfl⟩ := map_eq_ok h
  exact hrecorded.congr rfl rfl

theorem maintains_addOutboxEvent (row : AuditOutboxEvent) :
    Maintains (fun world ↦ DecisionsRecorded world.db) (save (Database.addOutboxEvent row)) := by
  refine maintains_save fun db after h hrecorded ↦ ?_
  obtain ⟨_, -, rfl⟩ := map_eq_ok h
  exact hrecorded.congr rfl rfl

/-- A new task is open, so it still blocks if it is a blocking one. -/
theorem maintains_addTask {row : ReviewTask} (hopen : row.status = "open") :
    Maintains (fun world ↦ DecisionsRecorded world.db) (save (Database.addTask row)) := by
  refine maintains_save fun db after h hrecorded ↦ ?_
  obtain ⟨inserted, hinserted, rfl⟩ := map_eq_ok h
  rw [(insertRow_eq_ok hinserted).1]
  intro task htask hblocking hresolved
  rcases List.mem_append.mp htask with hold | hnew
  · exact hrecorded task hold hblocking hresolved
  · rw [List.mem_singleton.mp hnew] at hblocking hresolved
    simp [ReviewTask.unresolved, hblocking, hopen] at hresolved

theorem maintains_of_keeps_db {α : Type} {p : Handler α} (hp : Keeps World.db p) :
    Maintains (fun world ↦ DecisionsRecorded world.db) p := hp.maintains

theorem maintains_createProposal (service : Service)
    (workspaceId proposalType evidenceBundleUri : String) (confidence : Json) :
    Maintains (fun world ↦ DecisionsRecorded world.db)
      (createProposal service workspaceId proposalType evidenceBundleUri confidence) :=
  (maintains_of_keeps_db (keeps_db_newUlid service)).bind fun _ ↦
    (maintains_addProposal _).bind fun _ ↦ maintains_of_keeps_db (keeps_pure _)

theorem maintains_createReviewTask (service : Service)
    (workspaceId subjectRef priority : String) (blocking : Bool) :
    Maintains (fun world ↦ DecisionsRecorded world.db)
      (createReviewTask service workspaceId subjectRef priority blocking) :=
  (maintains_of_keeps_db (keeps_db_newUlid service)).bind fun _ ↦
    (maintains_addTask rfl).bind fun _ ↦ maintains_of_keeps_db (keeps_pure _)

theorem maintains_foundOr {α : Type} {create : Handler α}
    (hcreate : Maintains (fun world ↦ DecisionsRecorded world.db) create) (found : Option α) :
    Maintains (fun world ↦ DecisionsRecorded world.db) (foundOr create found) := by
  cases found with
  | none => exact hcreate
  | some row => exact maintains_of_keeps_db (keeps_pure _)

theorem maintains_appendAuditEvent (service : Service) (context : RequestContext)
    (workspaceId : Option String) (actorId eventType : String) (eventJson : Fields) :
    Maintains (fun world ↦ DecisionsRecorded world.db)
      (appendAuditEvent service context workspaceId actorId eventType eventJson) := by
  intro world value after h hrecorded
  rcases tryExcept_eq_ok h with hwritten | ⟨exception, middle, -, hhandled⟩
  · refine Maintains.bind (maintains_of_keeps_db (keeps_db_newUlid service)) (fun auditEventId ↦
      (maintains_addAuditEvent _).bind fun _ ↦ ?_) world value after hwritten hrecorded
    split
    · exact maintains_of_keeps_db (keeps_raise _)
    · split_ifs
      · exact maintains_of_keeps_db (keeps_pure _)
      · exact (maintains_of_keeps_db (keeps_db_newUlid service)).bind fun _ ↦
          (maintains_addOutboxEvent _).bind fun _ ↦ maintains_of_keeps_db (keeps_pure _)
  · cases hhandled

theorem mem_tasks_setTaskStatus {db : Database} {taskId status : String} {task : ReviewTask}
    (h : task ∈ (db.setTaskStatus taskId status).tasks) :
    task ∈ db.tasks ∨ task.taskId = taskId := by
  obtain ⟨old, hold, heq⟩ := List.mem_map.mp h
  by_cases hid : old.taskId = taskId
  · rw [if_pos hid] at heq
    exact Or.inr (heq ▸ hid)
  · rw [if_neg hid] at heq
    exact Or.inl (heq ▸ hold)

/-- A decision whatever its word settles the task; an explicit one leaves the decision recorded. -/
theorem maintains_decideReviewTask {decision reason : String}
    (hdecision : IsExplicitDecision decision reason) (service : Service)
    (workspaceId taskId actorId : String) :
    Maintains (fun world ↦ DecisionsRecorded world.db)
      (decideReviewTask service workspaceId taskId actorId decision reason) := by
  refine (maintains_of_keeps_db (keeps_query _)).bind fun found ↦ ?_
  cases found with
  | none => exact maintains_of_keeps_db (keeps_pure _)
  | some row =>
    dsimp only
    split_ifs
    · exact maintains_of_keeps_db (keeps_pure _)
    · intro world value after h hrecorded
      obtain ⟨_, changed, hchanged, hidentified⟩ := bind_eq_ok_iff.mp h
      obtain ⟨approvalId, first, hfirst, hevent⟩ := bind_eq_ok_iff.mp hidentified
      obtain ⟨auditEventId, second, hsecond, hsave⟩ := bind_eq_ok_iff.mp hevent
      obtain ⟨_, saved, hsaved, hdone⟩ := bind_eq_ok_iff.mp hsave
      cases hdone
      have hdb : second.db = world.db.setTaskStatus taskId (decidedStatus decision) := by
        rw [(keeps_db_newUlid service).of_run hsecond, (keeps_db_newUlid service).of_run hfirst]
        cases hchanged
        rfl
      obtain ⟨inserted, hinserted, hafter⟩ := map_eq_ok (save_eq_ok hsaved).1
      rw [← hafter, (insertRow_eq_ok hinserted).1, hdb]
      intro task htask hblocking hresolved
      rcases mem_tasks_setTaskStatus htask with hold | hdecided
      · obtain ⟨approval, happroval, hexplicit⟩ := hrecorded task hold hblocking hresolved
        exact ⟨approval, List.mem_append_left _ happroval, hexplicit⟩
      · exact ⟨_, List.mem_append_right _ (List.mem_singleton.mpr rfl), hdecided.symm, hdecision⟩

theorem maintains_ensureContractFailureReviewTask (service : Service) (context : RequestContext)
    (workspaceId buildId : String) (failures : List Fields) :
    Maintains (fun world ↦ DecisionsRecorded world.db)
      (ensureContractFailureReviewTask service context workspaceId buildId failures) :=
  (maintains_of_keeps_db (keeps_db_onFiles _)).bind fun _ ↦
    (maintains_of_keeps_db (keeps_query _)).bind fun _ ↦
      (maintains_foundOr (maintains_createProposal _ _ _ _ _) _).bind fun _ ↦
        (maintains_of_keeps_db (keeps_query _)).bind fun _ ↦
          (maintains_foundOr (maintains_createReviewTask _ _ _ _ _) _).bind fun _ ↦
            maintains_of_keeps_db (keeps_pure _)

theorem maintains_applyPublishGate (service : Service) (context : RequestContext)
    (workspaceId buildId : String) (payload : Fields) (gate : PublishGate)
    (failures : List Fields) : Maintains (fun world ↦ DecisionsRecorded world.db)
      (applyPublishGate service context workspaceId buildId payload gate failures) := by
  unfold applyPublishGate
  by_cases hallowed : gate.allowed = true
  · rw [if_pos hallowed]
    exact maintains_of_keeps_db ((keeps_db_onFiles _).bind fun _ ↦ keeps_pure _)
  · rw [if_neg hallowed]
    refine (maintains_of_keeps_db (keeps_db_onFiles _)).bind fun latest ↦ ?_
    by_cases hfailure : gate.reason = "contract_failure"
    · rw [if_pos hfailure]
      exact (maintains_ensureContractFailureReviewTask _ _ _ _ _).bind fun _ ↦
        maintains_of_keeps_db (keeps_pure _)
    · rw [if_neg hfailure]
      exact maintains_of_keeps_db (keeps_pure _)

/-- An answer after the audit write of a request. -/
theorem maintains_audited (service : Service) (context : RequestContext)
    (workspaceId : Option String) (actorId eventType : String) (eventJson : Fields)
    (response : ApiResponse) : Maintains (fun world ↦ DecisionsRecorded world.db)
      (appendAuditEvent service context workspaceId actorId eventType eventJson >>= fun _ ↦
        pure response) :=
  (maintains_appendAuditEvent _ _ _ _ _ _).bind fun _ ↦ maintains_of_keeps_db (keeps_pure _)

def ApiRequest.DecidesExplicitly : ApiRequest → Prop
  | .decideReviewTask _ _ payload => IsExplicitDecision
      (getD payload "decision" (.str "defer")).toStr (getD payload "decision_reason" (.str "")).toStr
  | _ => True

theorem maintains_handle {service : Service} {context : RequestContext} {request : ApiRequest}
    (h : request.DecidesExplicitly) :
    Maintains (fun world ↦ DecisionsRecorded world.db) (handle service context request) := by
  cases request with
  | createProposal workspaceId payload =>
    exact (maintains_of_keeps_db (keeps_requireActor _ _)).bind fun _ ↦
      (maintains_of_keeps_db (keeps_ofExcept _)).bind fun _ ↦
        (maintains_createProposal _ _ _ _ _).bind fun _ ↦
          (maintains_createReviewTask _ _ _ _ _).bind fun _ ↦ maintains_audited _ _ _ _ _ _ _
  | decideReviewTask workspaceId taskId payload =>
    refine (maintains_of_keeps_db (keeps_requireActor _ _)).bind fun actor ↦
      (maintains_decideReviewTask h _ _ _ _).bind fun decision ↦ ?_
    cases decision with
    | none => exact maintains_of_keeps_db (keeps_pure _)
    | some approval => exact maintains_audited _ _ _ _ _ _ _
  | publishBuild workspaceId buildId payload =>
    exact (maintains_of_keeps_db (keeps_requireActor _ _)).bind fun _ ↦
      (maintains_of_keeps_db (keeps_db_onFiles _)).bind fun _ ↦
        (maintains_of_keeps_db (keeps_query _)).bind fun _ ↦
          (maintains_of_keeps_db (keeps_db_onFiles _)).bind fun _ ↦
            (maintains_applyPublishGate _ _ _ _ _ _ _).bind fun _ ↦ maintains_audited _ _ _ _ _ _ _
  | rollbackBuild workspaceId buildId =>
    refine (maintains_of_keeps_db (keeps_requireActor _ _)).bind fun actor ↦
      (maintains_of_keeps_db (((keeps_db_onFiles _).bind fun _ ↦ keeps_pure _).tryExcept
        fun exception ↦ ?_)).bind fun outcome ↦ ?_
    · split_ifs
      · exact keeps_pure _
      · exact keeps_raise _
    · cases outcome with
      | error reason => exact maintains_of_keeps_db (keeps_pure _)
      | ok entries => exact maintains_audited _ _ _ _ _ _ _
  | executeRetentionPurge workspaceId payload =>
    refine (maintains_of_keeps_db (keeps_requireActor _ _)).bind fun actor ↦
      Maintains.bind ((maintains_of_keeps_db (keeps_query _)).bind fun _ ↦
        (maintains_of_keeps_db (keeps_ofExcept _)).bind fun _ ↦
          (maintains_of_keeps_db ((keeps_db_onFiles _).tryExcept fun exception ↦ ?_)).bind fun _ ↦
            (maintains_of_keeps_db (keeps_db_onFiles _)).bind fun _ ↦
              (maintains_of_keeps_db (keeps_db_newUlid service)).bind fun _ ↦
                (maintains_addPurgeRun _).bind fun _ ↦ maintains_of_keeps_db (keeps_pure _))
        fun result ↦ maintains_audited _ _ _ _ _ _ _
    split_ifs
    · exact keeps_raise _
    · exact keeps_raise _

/-- What happens to the tables and files: a request, or a task that a worker queues. -/
inductive Operation where
  | request (context : RequestContext) (request : ApiRequest)
  | queueTask (workspaceId subjectRef priority : String) (blocking : Bool)

def perform (service : Service) (world : World) : Operation → World
  | .request context request => (serve service context request world).2
  | .queueTask workspaceId subjectRef priority blocking =>
    (inSession (createReviewTask service workspaceId subjectRef priority blocking) world).2

def run (service : Service) (operations : List Operation) (world : World) : World :=
  operations.foldl (perform service) world

def Operation.DecidesExplicitly : Operation → Prop
  | .request _ apiRequest => apiRequest.DecidesExplicitly
  | .queueTask _ _ _ _ => True

theorem decisionsRecorded_inSession {α : Type} {handler : Handler α}
    (hhandler : Maintains (fun world ↦ DecisionsRecorded world.db) handler) {world : World}
    (h : DecisionsRecorded world.db) : DecisionsRecorded (inSession handler world).2.db := by
  unfold inSession
  split
  · next value after hrun => exact hhandler world value after hrun h
  · exact h

theorem decisionsRecorded_perform {service : Service} {operation : Operation} {world : World}
    (hexplicit : operation.DecidesExplicitly) (h : DecisionsRecorded world.db) :
    DecisionsRecorded (perform service world operation).db := by
  cases operation with
  | request context request => exact decisionsRecorded_inSession (maintains_handle hexplicit) h
  | queueTask workspaceId subjectRef priority blocking =>
    exact decisionsRecorded_inSession (maintains_createReviewTask _ _ _ _ _) h

/-- A run whose decisions are explicit keeps them recorded. -/
theorem decisionsRecorded_run {service : Service} {operations : List Operation} {world : World}
    (hexplicit : ∀ operation ∈ operations, operation.DecidesExplicitly)
    (h : DecisionsRecorded world.db) : DecisionsRecorded (run service operations world).db := by
  induction operations generalizing world with
  | nil => exact h
  | cons first rest ih =>
    rw [List.forall_mem_cons] at hexplicit
    exact ih hexplicit.2 (decisionsRecorded_perform hexplicit.1 h)

theorem keeps_latest_ensureContractFailureReviewTask (service : Service) (context : RequestContext)
    (workspaceId buildId : String) (failures : List Fields) :
    Keeps (fun world ↦ world.files.content? (GoldFiles.latestPath service.storagePath workspaceId))
      (ensureContractFailureReviewTask service context workspaceId buildId failures) := by
  let latest (files : FileStore) : Option FileContent :=
    files.content? (GoldFiles.latestPath service.storagePath workspaceId)
  refine (keeps_files_onFiles (keeps_storeEvidenceBundle _ _ _ _ _ _ _ ?_)).bind fun stored ↦
    (keeps_query _).bind fun _ ↦
      (keeps_foundOr ((keeps_files_createProposal _ _ _ _ _).comp latest) _).bind fun _ ↦
        (keeps_query _).bind fun _ ↦
          (keeps_foundOr ((keeps_files_createReviewTask _ _ _ _ _).comp latest) _).bind fun _ ↦
            keeps_pure _
  intro hpath
  exact not_isArtifact_bundle service _ _ _ _ _ (hpath ▸ isArtifact_latestPath service workspaceId)

/-- Behind a closed gate the pointer stays where it is, whatever becomes of the request. -/
theorem latest_of_closed_gate {service : Service} {context : RequestContext}
    {workspaceId buildId : String} {payload : Fields} {world : World}
    (hclosed : (publishGate service workspaceId buildId world).allowed = false) :
    (apiPublishBuild service context workspaceId buildId payload world).2.files.content?
        (GoldFiles.latestPath service.storagePath workspaceId) =
      world.files.content? (GoldFiles.latestPath service.storagePath workspaceId) := by
  let latest (files : FileStore) : Option FileContent :=
    files.content? (GoldFiles.latestPath service.storagePath workspaceId)
  let part (world : World) : Option FileContent := latest world.files
  change part (apiPublishBuild service context workspaceId buildId payload world).2 = part world
  refine bind_keeps_at (keeps_requireActor context _ world) fun actor first hactor ↦ ?_
  obtain ⟨-, rfl⟩ := requireActor_eq_ok hactor
  refine bind_keeps_at (keeps_files_onFiles
    ((keeps_loadBuildContractReport _ _ _).comp latest) first) fun report second hreport ↦ ?_
  obtain ⟨rfl, hstored⟩ := onFiles_read (keeps_loadBuildContractReport _ _ _) hreport
  obtain rfl := loadBuildContractReport_eq_ok hstored
  refine bind_keeps_at (keeps_query _ _) fun unresolved third hcount ↦ ?_
  rw [query_apply] at hcount
  cases hcount
  have hgate : Keeps part (applyPublishGate service context workspaceId buildId payload
      (publishGate service workspaceId buildId second)
      (contractOutcome
        (storedContractReport? second.files service.storagePath workspaceId buildId)).2) := by
    unfold applyPublishGate
    rw [if_neg (Bool.eq_false_iff.mp hclosed)]
    refine (keeps_files_onFiles
      ((GoldFiles.keeps_loadLatestGoldPointer _ _).comp latest)).bind fun _ ↦ ?_
    by_cases hfailure : (publishGate service workspaceId buildId second).reason = "contract_failure"
    · rw [if_pos hfailure]
      exact (keeps_latest_ensureContractFailureReviewTask _ _ _ _ _).bind fun _ ↦ keeps_pure _
    · rw [if_neg hfailure]
      exact keeps_pure _
  exact ((keeps_files_onFiles ((GoldFiles.keeps_loadLatestGoldPointer _ _).comp latest)).bind
    fun _ ↦ hgate.bind fun _ ↦
      ((keeps_files_appendAuditEvent _ _ _ _ _ _).comp latest).bind fun _ ↦ keeps_pure _) second

theorem gate_allowed {service : Service} {workspaceId buildId : String} {world : World}
    (h : (publishGate service workspaceId buildId world).allowed = true) :
    (∃ report, storedContractReport? world.files service.storagePath workspaceId buildId =
      some report ∧ report.contractsPassed = true) ∧
    ∀ task ∈ world.db.tasks, task.workspaceId = workspaceId → task.blocking = true →
      task.unresolved = false := by
  obtain ⟨hpassed, hcount, -⟩ := reason_of_gate_allowed h
  constructor
  · cases hreport : storedContractReport? world.files service.storagePath workspaceId buildId with
    | none =>
      rw [hreport] at hpassed
      cases hpassed
    | some report =>
      rw [hreport] at hpassed
      exact ⟨report, rfl, hpassed⟩
  · intro task htask hworkspace hblocking
    have hnone := List.countP_eq_zero.mp hcount task htask
    simpa [hworkspace] using hnone

/-- In every run whose decisions are explicit, a publish request that moves the gold pointer finds
the contracts of its build passed and every blocking task of the workspace explicitly decided. -/
theorem publication_fail_closed (service : Service) (start : World) (operations : List Operation)
    (context : RequestContext) (workspaceId buildId : String) (payload : Fields)
    (hstart : start.db = Database.empty)
    (hexplicit : ∀ operation ∈ operations, operation.DecidesExplicitly)
    (hmoved : (serve service context (.publishBuild workspaceId buildId payload)
        (run service operations start)).2.files.content?
          (GoldFiles.latestPath service.storagePath workspaceId) ≠
      (run service operations start).files.content?
          (GoldFiles.latestPath service.storagePath workspaceId)) :
    (∃ report, storedContractReport? (run service operations start).files service.storagePath
      workspaceId buildId = some report ∧ report.contractsPassed = true) ∧
    ∀ task ∈ (run service operations start).db.tasks, task.workspaceId = workspaceId →
      task.blocking = true → (run service operations start).db.Decided task := by
  have hrecorded : DecisionsRecorded (run service operations start).db :=
    decisionsRecorded_run hexplicit (hstart ▸ decisionsRecorded_empty)
  have hopen : (publishGate service workspaceId buildId
      (run service operations start)).allowed = true := by
    by_contra hclosed
    rw [Bool.not_eq_true] at hclosed
    apply hmoved
    rw [serve_files]
    exact latest_of_closed_gate hclosed
  obtain ⟨hreport, hresolved⟩ := gate_allowed hopen
  refine ⟨hreport, fun task htask hworkspace hblocking ↦ ?_⟩
  exact hrecorded task htask hblocking (hresolved task htask hworkspace hblocking)

/-- A steward's request while everything works. -/
def stewardContext : RequestContext where
  actor := some [("actor_id", .str "steward"), ("roles", textList ["data_steward"])]
  requestId := "r2"
  now := 7
  auditFault _ := none

/-- A blocking proposal, and a decision of its task in some word. -/
def decidedBy (word reason : String) : List Operation :=
  [.request stewardContext (.createProposal "w1" [("blocking", .bool true)]),
    .request stewardContext (.decideReviewTask "w1" "1"
      [("decision", .str word), ("decision_reason", .str reason)])]

theorem steward_decisions_explicit {word reason : String}
    (h : IsExplicitDecision word reason) :
    ∀ operation ∈ decidedBy word reason, operation.DecidesExplicitly := by
  intro operation hoperation
  rcases List.mem_pair.mp hoperation with rfl | rfl
  · trivial
  · exact h

theorem approved_task_published :
    (∃ report, storedContractReport? (run localService (decidedBy "approve" "") passedWorld).files
      localService.storagePath "w1" "b1" = some report ∧ report.contractsPassed = true) ∧
    ∀ task ∈ (run localService (decidedBy "approve" "") passedWorld).db.tasks,
      task.workspaceId = "w1" → task.blocking = true →
      (run localService (decidedBy "approve" "") passedWorld).db.Decided task :=
  publication_fail_closed localService passedWorld (decidedBy "approve" "") stewardContext "w1" "b1"
    [] rfl (steward_decisions_explicit (by decide)) (by decide +kernel)

/-- A word that is no decision clears a blocking task, and the publication moves the pointer. -/
theorem unknown_word_published :
    ¬∀ (service : Service) (start : World) (operations : List Operation)
      (context : RequestContext) (workspaceId buildId : String) (payload : Fields),
      start.db = Database.empty →
      (serve service context (.publishBuild workspaceId buildId payload)
          (run service operations start)).2.files.content?
            (GoldFiles.latestPath service.storagePath workspaceId) ≠
        (run service operations start).files.content?
            (GoldFiles.latestPath service.storagePath workspaceId) →
      (∃ report, storedContractReport? (run service operations start).files service.storagePath
        workspaceId buildId = some report ∧ report.contractsPassed = true) ∧
      ∀ task ∈ (run service operations start).db.tasks, task.workspaceId = workspaceId →
        task.blocking = true → (run service operations start).db.Decided task := by
  intro h
  have hmoved : (serve localService stewardContext (.publishBuild "w1" "b1" [])
      (run localService (decidedBy "looks fine" "") passedWorld)).2.files.content?
        (GoldFiles.latestPath localService.storagePath "w1") ≠
      (run localService (decidedBy "looks fine" "") passedWorld).files.content?
        (GoldFiles.latestPath localService.storagePath "w1") := by decide +kernel
  have hundecided : ∃ task ∈ (run localService (decidedBy "looks fine" "") passedWorld).db.tasks,
      task.workspaceId = "w1" ∧ task.blocking = true ∧
      ¬(run localService (decidedBy "looks fine" "") passedWorld).db.Decided task := by
    decide +kernel
  obtain ⟨task, htask, hworkspace, hblocking, hnone⟩ := hundecided
  exact hnone ((h localService passedWorld _ stewardContext "w1" "b1" [] rfl hmoved).2 task htask
    hworkspace hblocking)

end SchemaPilot.ControlPlane
