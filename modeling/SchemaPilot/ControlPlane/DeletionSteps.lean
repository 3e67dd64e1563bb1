import SchemaPilot.ControlPlane.Deletion
import SchemaPilot.ControlPlane.Frames
import SchemaPilot.Library.Versions

/-!
# What a call does to a deletion request

`RequestStep` lists what a call can do to the row and the approvals of one request, and
`requestStep_applyCall` shows that it does nothing else.
-/

namespace SchemaPilot.ControlPlane

open Library Library.Effect SharedDomain

variable {settings : DeletionSettings} {world : DeletionWorld} {id : String}

/-! ### Rows and approvals of one request -/

/-- The decisions recorded for a request, in order. -/
def approvalsOf (world : DeletionWorld) (deletionRequestId : String) :
    List GovernanceDeletionApproval :=
  world.approvals.filter fun approval ↦ approval.deletionRequestId = deletionRequestId

theorem deletionRequestId_of_request? {row : GovernanceDeletionRequest}
    (h : request? world id = some row) : row.deletionRequestId = id := by
  simpa using List.find?_some h

theorem requestOf?_eq_some_iff {workspaceId : String} {row : GovernanceDeletionRequest} :
    requestOf? workspaceId id world = some row ↔
      request? world id = some row ∧ row.workspaceId = workspaceId := by
  simp [requestOf?, Option.filter_eq_some_iff]

/-- An assignment that keeps the key changes the row of its request and no other. -/
theorem request?_assign {update : GovernanceDeletionRequest → GovernanceDeletionRequest}
    (hkey : ∀ row, (update row).deletionRequestId = row.deletionRequestId) (assigned : String) :
    request? (world.assign assigned update) id =
      if id = assigned then (request? world id).map update else request? world id := by
  have hkeys : ∀ row : GovernanceDeletionRequest,
      (if row.deletionRequestId = assigned then update row else row).deletionRequestId =
        row.deletionRequestId := by
    intro row
    split_ifs
    · exact hkey row
    · rfl
  unfold request? DeletionWorld.assign
  rw [List.find?_map]
  have hsame : ((fun row : GovernanceDeletionRequest ↦ decide (row.deletionRequestId = id)) ∘
      fun row ↦ if row.deletionRequestId = assigned then update row else row) =
      fun row ↦ decide (row.deletionRequestId = id) := by
    ext row
    simp [hkeys]
  rw [hsame]
  cases hfound : world.requests.find? fun row ↦ decide (row.deletionRequestId = id) with
  | none => simp
  | some row =>
    have hid : row.deletionRequestId = id := by simpa using List.find?_some hfound
    by_cases h : id = assigned
    · simp [h, hid]
    · simp [h, hid]

/-- The row a new request adds. -/
theorem request?_append {row : GovernanceDeletionRequest}
    (hfresh : ∀ other ∈ world.requests, other.deletionRequestId ≠ row.deletionRequestId) :
    request? { world with requests := world.requests ++ [row] } id =
      if id = row.deletionRequestId then some row else request? world id := by
  unfold request?
  rw [List.find?_append]
  by_cases h : id = row.deletionRequestId
  · have hnone : world.requests.find? (fun other ↦ decide (other.deletionRequestId = id)) = none := by
      rw [List.find?_eq_none]
      intro other hother
      rw [h]
      simpa using hfresh other hother
    rw [hnone, if_pos h]
    simp [h]
  · simp [h, Ne.symm h]

section Decided

variable (hold : Bool) (normalized reason : String) (row : GovernanceDeletionRequest)

@[simp] theorem decidedRequest_deletionRequestId :
    (decidedRequest hold normalized reason row).deletionRequestId = row.deletionRequestId := by
  unfold decidedRequest
  split_ifs <;> rfl

@[simp] theorem decidedRequest_workspaceId :
    (decidedRequest hold normalized reason row).workspaceId = row.workspaceId := by
  unfold decidedRequest
  split_ifs <;> rfl

@[simp] theorem decidedRequest_requesterActorId :
    (decidedRequest hold normalized reason row).requesterActorId = row.requesterActorId := by
  unfold decidedRequest
  split_ifs <;> rfl

@[simp] theorem decidedRequest_evidenceBundleUri :
    (decidedRequest hold normalized reason row).evidenceBundleUri = row.evidenceBundleUri := by
  unfold decidedRequest
  split_ifs <;> rfl

/-- The status a decision assigns, whatever the request had. -/
theorem decidedRequest_status :
    (decidedRequest hold normalized reason row).status =
      if normalized = "approve" ∧ hold = true then "blocked"
      else if normalized = "approve" then "approved"
      else if normalized = "reject" then "rejected" else "deferred" := by
  unfold decidedRequest
  split_ifs <;> rfl

end Decided

/-! ### Runs of the operations -/

theorem onBase_query {α : Type} (f : Database → α) :
    onBase (query f) world = (.ok (f world.base.db), world) := rfl

theorem insertRow_of_fresh {ρ : Type} {primaryKey : ρ → String} {rows : List ρ} {row : ρ}
    (h : ∀ other ∈ rows, primaryKey other ≠ primaryKey row) :
    insertRow primaryKey rows row = .ok (rows ++ [row]) := by
  unfold insertRow
  rw [if_neg]
  simpa using h

theorem addDeletionApproval_of_fresh {row : GovernanceDeletionApproval}
    (h : ∀ other ∈ world.approvals, other.deletionApprovalId ≠ row.deletionApprovalId) :
    addDeletionApproval row world =
      (.ok (), { world with approvals := world.approvals ++ [row] }) := by
  unfold addDeletionApproval
  rw [bind_apply, read_apply]
  dsimp only
  rw [insertRow_of_fresh h]
  rfl

theorem addDeletionApproval_eq_ok {row : GovernanceDeletionApproval} {after : DeletionWorld}
    {done : Unit} (h : addDeletionApproval row world = (.ok done, after)) :
    after = { world with approvals := world.approvals ++ [row] } ∧
      ∀ other ∈ world.approvals, other.deletionApprovalId ≠ row.deletionApprovalId := by
  obtain ⟨_, _, hread, h⟩ := bind_eq_ok_iff.mp h
  cases hread
  obtain ⟨rows, _, hinsert, h⟩ := bind_eq_ok_iff.mp h
  rw [ofExcept_apply, Prod.mk.injEq] at hinsert
  obtain ⟨hinsert, rfl⟩ := hinsert
  cases h
  obtain ⟨hrows, hfresh⟩ := insertRow_eq_ok hinsert
  exact ⟨by rw [hrows], hfresh⟩

def recordedApproval (settings : DeletionSettings) (world : DeletionWorld)
    (row : GovernanceDeletionRequest) (approverActorId decision reason : String) :
    GovernanceDeletionApproval :=
  { deletionApprovalId := settings.service.newUlid world.base.issued
    deletionRequestId := row.deletionRequestId
    workspaceId := row.workspaceId
    approverActorId := approverActorId
    decision := normalizedDecision decision
    decisionReason := reason }

section Decide

variable {workspaceId approverActorId decision reason : String}

/-- A decision that returns left a missing request alone, or decided a request it may decide. -/
theorem approveDeletionRequest_eq_ok {answer : Option Fields} {after : DeletionWorld}
    (h : approveDeletionRequest settings workspaceId id approverActorId decision reason world =
      (.ok answer, after)) :
    after = world ∨ ∃ row, requestOf? workspaceId id world = some row ∧
      ¬(normalizedDecision decision = "approve" ∧ row.requesterActorId = approverActorId) ∧
      (∀ other ∈ world.approvals,
        other.deletionApprovalId ≠ settings.service.newUlid world.base.issued) ∧
      after.requests = (world.assign id (decidedRequest (legalHoldActive workspaceId world.base.db)
        (normalizedDecision decision) reason)).requests ∧
      after.approvals = world.approvals ++
        [recordedApproval settings world row approverActorId decision reason] := by
  obtain ⟨_, _, hread, h⟩ := bind_eq_ok_iff.mp h
  cases hread
  cases hrow : requestOf? workspaceId id world with
  | none =>
    rw [hrow] at h
    cases h
    exact Or.inl rfl
  | some row =>
    rw [hrow] at h
    dsimp only at h
    split_ifs at h with hself
    · cases h
    · obtain ⟨_, _, hhold, h⟩ := bind_eq_ok_iff.mp h
      cases hhold
      obtain ⟨_, _, hassign, h⟩ := bind_eq_ok_iff.mp h
      cases hassign
      obtain ⟨_, _, hulid, h⟩ := bind_eq_ok_iff.mp h
      cases hulid
      obtain ⟨_, _, hadd, h⟩ := bind_eq_ok_iff.mp h
      cases h
      obtain ⟨rfl, hfresh⟩ := addDeletionApproval_eq_ok hadd
      exact Or.inr ⟨row, rfl, hself, hfresh, rfl, rfl⟩

theorem approveDeletionRequest_of_fresh {row : GovernanceDeletionRequest}
    (hrow : requestOf? workspaceId id world = some row)
    (hself : ¬(normalizedDecision decision = "approve" ∧ row.requesterActorId = approverActorId))
    (hfresh : ∀ other ∈ world.approvals,
      other.deletionApprovalId ≠ settings.service.newUlid world.base.issued) :
    ∃ fields after, approveDeletionRequest settings workspaceId id approverActorId decision reason
        world = (.ok fields, after) ∧
      after.requests = (world.assign id (decidedRequest (legalHoldActive workspaceId world.base.db)
        (normalizedDecision decision) reason)).requests := by
  let issued : DeletionWorld :=
    { world.assign id (decidedRequest (legalHoldActive workspaceId world.base.db)
        (normalizedDecision decision) reason) with
      base := { world.base with issued := world.base.issued + 1 } }
  let approval := recordedApproval settings world row approverActorId decision reason
  have hadd : addDeletionApproval approval issued =
      (.ok (), { issued with approvals := issued.approvals ++ [approval] }) :=
    addDeletionApproval_of_fresh hfresh
  unfold approveDeletionRequest
  rw [bind_apply, read_apply]
  dsimp only
  rw [hrow]
  dsimp only
  rw [if_neg hself]
  exact ⟨_, _, bind_eq_ok_iff.mpr ⟨_, _, rfl, bind_eq_ok_iff.mpr ⟨_, _, rfl,
    bind_eq_ok_iff.mpr ⟨_, _, rfl, bind_eq_ok_iff.mpr ⟨_, _, hadd, rfl⟩⟩⟩⟩, rfl⟩

end Decide

section Execute

variable {workspaceId outputRoot : String} {backupReference : Option String} {now : ℤ}

theorem keeps_onBase {α : Type} (p : Handler α) :
    Keeps (fun world : DeletionWorld ↦ (world.requests, world.approvals)) (onBase p) :=
  fun _ ↦ rfl

/-- The workflow of an approved request under no hold executes. -/
theorem executeDeletionWorkflow_eq_ok {row : GovernanceDeletionRequest} {base after : World}
    {result : Fields}
    (h : executeDeletionWorkflow settings (workflowRequest workspaceId row backupReference) outputRoot
      now base = (.ok result, after)) :
    Json.getD result "status" .null = .str "executed" := by
  unfold executeDeletionWorkflow at h
  rw [if_neg (by simp [workflowRequest]), if_neg (by simp [workflowRequest])] at h
  obtain ⟨deletionId, _, -, h⟩ := bind_eq_ok_iff.mp h
  obtain ⟨_, _, -, h⟩ := bind_eq_ok_iff.mp h
  obtain ⟨_, _, -, h⟩ := bind_eq_ok_iff.mp h
  cases h
  rfl

theorem executeApproved_eq_ok {row : GovernanceDeletionRequest} {answer : Fields}
    {after : DeletionWorld}
    (h : executeApproved settings workspaceId row outputRoot backupReference now world =
      (.ok answer, after)) :
    ∃ evidenceBundleUri, after.approvals = world.approvals ∧
      after.requests = (world.assign row.deletionRequestId fun row ↦
        { row with status := "executed", evidenceBundleUri := some evidenceBundleUri }).requests := by
  obtain ⟨result, middle, hworkflow, h⟩ := bind_eq_ok_iff.mp h
  have hbase : executeDeletionWorkflow settings (workflowRequest workspaceId row backupReference)
      outputRoot now world.base = (.ok result, middle.base) := by
    have hfst := congrArg Prod.fst hworkflow
    have hsnd := congrArg (fun run ↦ run.2.base) hworkflow
    exact Prod.ext hfst hsnd
  have htables := (keeps_onBase _).of_run hworkflow
  rw [if_neg (by simp [executeDeletionWorkflow_eq_ok hbase])] at h
  obtain ⟨⟨evidenceBundleUri, reportPath, attestation⟩, last, hstored, h⟩ := bind_eq_ok_iff.mp h
  have hlast := ((keeps_onBase _).of_run hstored).trans htables
  obtain ⟨_, _, hassign, h⟩ := bind_eq_ok_iff.mp h
  cases hassign
  cases h
  rw [Prod.mk.injEq] at hlast
  refine ⟨evidenceBundleUri, hlast.2, ?_⟩
  rw [DeletionWorld.assign, DeletionWorld.assign, hlast.1]

/-- The columns of a request whose execution met a legal hold. -/
def heldRequest (row : GovernanceDeletionRequest) : GovernanceDeletionRequest :=
  { row with
    legalHoldActive := true
    status := "blocked"
    approvalReason := some "legal_hold_active" }

def executedRequest (evidenceBundleUri : String) (row : GovernanceDeletionRequest) :
    GovernanceDeletionRequest :=
  { row with
    legalHoldActive := false
    status := "executed"
    evidenceBundleUri := some evidenceBundleUri }

/-- Two assignments to one request are one. -/
theorem requests_assign_assign
    {first second : GovernanceDeletionRequest → GovernanceDeletionRequest}
    (hkey : ∀ row, (first row).deletionRequestId = row.deletionRequestId) :
    ((world.assign id first).assign id second).requests =
      (world.assign id (second ∘ first)).requests := by
  unfold DeletionWorld.assign
  dsimp only
  rw [List.map_map]
  refine List.map_congr_left fun row _ ↦ ?_
  by_cases h : row.deletionRequestId = id
  · simp [h, hkey]
  · simp [h]

/-- An execution that returns left a missing request alone, blocked it under a hold, or executed
it. -/
theorem executeDeletionRequest_eq_ok {answer : Option Fields} {after : DeletionWorld}
    (h : executeDeletionRequest settings workspaceId id outputRoot backupReference now world =
      (.ok answer, after)) :
    after = world ∨ ∃ row, requestOf? workspaceId id world = some row ∧
      after.approvals = world.approvals ∧
      (legalHoldActive workspaceId world.base.db = true ∧
          after.requests = (world.assign id heldRequest).requests ∨
        legalHoldActive workspaceId world.base.db = false ∧ row.status = "approved" ∧
          ∃ evidenceBundleUri,
            after.requests = (world.assign id (executedRequest evidenceBundleUri)).requests) := by
  obtain ⟨_, _, hread, h⟩ := bind_eq_ok_iff.mp h
  cases hread
  cases hrow : requestOf? workspaceId id world with
  | none =>
    rw [hrow] at h
    cases h
    exact Or.inl rfl
  | some row =>
    rw [hrow] at h
    obtain ⟨hold, _, hhold, h⟩ := bind_eq_ok_iff.mp h
    cases hhold
    obtain ⟨_, _, hassign, h⟩ := bind_eq_ok_iff.mp h
    cases hassign
    refine Or.inr ⟨row, rfl, ?_⟩
    cases hhold : legalHoldActive workspaceId world.base.db with
    | true =>
      rw [hhold] at h
      obtain ⟨_, _, hblock, h⟩ := bind_eq_ok_iff.mp h
      cases hblock
      cases h
      exact ⟨rfl, Or.inl ⟨rfl, requests_assign_assign fun _ ↦ rfl⟩⟩
    | false =>
      rw [hhold] at h
      dsimp only at h
      rw [if_neg Bool.false_ne_true] at h
      split_ifs at h with hstatus
      · cases h
      · obtain ⟨fields, _, happroved, h⟩ := bind_eq_ok_iff.mp h
        cases h
        obtain ⟨evidenceBundleUri, happrovals, hrequests⟩ := executeApproved_eq_ok happroved
        rw [deletionRequestId_of_request? (requestOf?_eq_some_iff.mp hrow).1] at hrequests
        refine ⟨happrovals, Or.inr ⟨rfl, not_not.mp hstatus, evidenceBundleUri, ?_⟩⟩
        exact hrequests.trans (requests_assign_assign fun _ ↦ rfl)

/-- Executing a request under a hold blocks it, whatever its status. -/
theorem executeDeletionRequest_of_hold {row : GovernanceDeletionRequest}
    (hrow : requestOf? workspaceId id world = some row)
    (hhold : legalHoldActive workspaceId world.base.db = true) :
    ∃ answer after, executeDeletionRequest settings workspaceId id outputRoot backupReference now
        world = (.ok answer, after) ∧
      after.requests = (world.assign id heldRequest).requests := by
  unfold executeDeletionRequest
  rw [bind_apply, read_apply]
  dsimp only
  rw [hrow]
  dsimp only
  rw [bind_apply, onBase_query]
  dsimp only
  rw [hhold]
  exact ⟨_, _, bind_eq_ok_iff.mpr ⟨_, _, rfl, bind_eq_ok_iff.mpr ⟨_, _, rfl, rfl⟩⟩,
    requests_assign_assign fun _ ↦ rfl⟩

end Execute

section Submit

variable {workspaceId requesterActorId : String} {subjectSelector : Fields}
  {affectedSnapshots affectedIndexes : List String}

/-- A submitted request is new, and its status is `"requested"`. -/
theorem submitDeletionRequest_eq_ok {answer : Fields} {after : DeletionWorld}
    (h : submitDeletionRequest settings workspaceId requesterActorId subjectSelector
      affectedSnapshots affectedIndexes world = (.ok answer, after)) :
    ∃ row, row.status = "requested" ∧ after.approvals = world.approvals ∧
      (∀ other ∈ world.requests, other.deletionRequestId ≠ row.deletionRequestId) ∧
      after.requests = world.requests ++ [row] := by
  obtain ⟨_, _, hhold, h⟩ := bind_eq_ok_iff.mp h
  cases hhold
  obtain ⟨_, _, hulid, h⟩ := bind_eq_ok_iff.mp h
  cases hulid
  obtain ⟨_, _, hadd, h⟩ := bind_eq_ok_iff.mp h
  cases h
  obtain ⟨_, _, hread, hadd⟩ := bind_eq_ok_iff.mp hadd
  cases hread
  obtain ⟨rows, _, hinsert, hadd⟩ := bind_eq_ok_iff.mp hadd
  rw [ofExcept_apply, Prod.mk.injEq] at hinsert
  obtain ⟨hinsert, rfl⟩ := hinsert
  cases hadd
  obtain ⟨hrows, hfresh⟩ := insertRow_eq_ok hinsert
  exact ⟨_, rfl, rfl, hfresh, hrows⟩

end Submit

/-! ### Calls -/

/-- What a call does to the row and the approvals of one request. -/
inductive RequestStep (settings : DeletionSettings) (world : DeletionWorld) (call : DeletionCall)
    (after : DeletionWorld) (id : String) : Prop
  | kept (request_eq : request? after id = request? world id)
      (approvals_eq : approvalsOf after id = approvalsOf world id)
  | submitted {row : GovernanceDeletionRequest} (absent : request? world id = none)
      (request_eq : request? after id = some row) (status_eq : row.status = "requested")
  | decided {row : GovernanceDeletionRequest} {approverActorId decision reason : String}
      (operation_eq : call.operation =
        .decide row.workspaceId id approverActorId decision reason)
      (committed : call.requestFault = none) (found : request? world id = some row)
      (fresh : ∀ other ∈ world.approvals,
        other.deletionApprovalId ≠ settings.service.newUlid world.base.issued)
      (separated : ¬(normalizedDecision decision = "approve" ∧
        row.requesterActorId = approverActorId))
      (request_eq : request? after id = some (decidedRequest
        (legalHoldActive row.workspaceId world.base.db) (normalizedDecision decision) reason row))
      (approvals_eq : approvalsOf after id = approvalsOf world id ++
        [recordedApproval settings world row approverActorId decision reason])
  | held {row : GovernanceDeletionRequest} {outputRoot : String} {backupReference : Option String}
      (operation_eq : call.operation = .execute row.workspaceId id outputRoot backupReference)
      (committed : call.requestFault = none) (found : request? world id = some row)
      (hold : legalHoldActive row.workspaceId world.base.db = true)
      (request_eq : request? after id = some (heldRequest row))
      (approvals_eq : approvalsOf after id = approvalsOf world id)
  | executed {row : GovernanceDeletionRequest} {outputRoot : String}
      {backupReference : Option String} {evidenceBundleUri : String}
      (operation_eq : call.operation = .execute row.workspaceId id outputRoot backupReference)
      (found : request? world id = some row)
      (free : legalHoldActive row.workspaceId world.base.db = false)
      (approved : row.status = "approved")
      (request_eq : request? after id = some (executedRequest evidenceBundleUri row))
      (approvals_eq : approvalsOf after id = approvalsOf world id)

section Calls

variable {call : DeletionCall} {after : DeletionWorld}

/-- A call that does not commit leaves the tables alone. -/
theorem applyCall_cases (settings : DeletionSettings) (world : DeletionWorld)
    (call : DeletionCall) :
    (applyCall settings world call).requests = world.requests ∧
        (applyCall settings world call).approvals = world.approvals ∨
      call.requestFault = none ∧ ∃ answer, call.operation.perform settings call.now world =
        (.ok answer, applyCall settings world call) := by
  unfold applyCall
  split
  · next answer after hrun hfault => exact Or.inr ⟨hfault, answer, hrun⟩
  · exact Or.inl ⟨rfl, rfl⟩

theorem applyCall_of_ok {answer : Option Fields}
    (h : call.operation.perform settings call.now world = (.ok answer, after))
    (hfault : call.requestFault = none) : applyCall settings world call = after := by
  unfold applyCall
  rw [h, hfault]

theorem requestStep_of_eq (hrequests : after.requests = world.requests)
    (happrovals : after.approvals = world.approvals) : RequestStep settings world call after id :=
  .kept (by rw [request?, hrequests, request?]) (by rw [approvalsOf, happrovals, approvalsOf])

theorem request?_of_requests_eq {first second : DeletionWorld}
    (h : first.requests = second.requests) (id : String) :
    request? first id = request? second id := by
  rw [request?, h, request?]

/-- The row of a request in tables that differ by an assignment. -/
theorem request?_of_assigned {assigned : String}
    {update : GovernanceDeletionRequest → GovernanceDeletionRequest}
    (h : after.requests = (world.assign assigned update).requests)
    (hkey : ∀ row, (update row).deletionRequestId = row.deletionRequestId) (id : String) :
    request? after id =
      if id = assigned then (request? world id).map update else request? world id :=
  (request?_of_requests_eq h id).trans (request?_assign hkey assigned)

/-- A call does nothing else to a request than what its step says. -/
theorem requestStep_applyCall (settings : DeletionSettings) (world : DeletionWorld)
    (call : DeletionCall) (id : String) :
    RequestStep settings world call (applyCall settings world call) id := by
  rcases applyCall_cases settings world call with ⟨hrequests, happrovals⟩ | ⟨hfault, answer, hrun⟩
  · exact requestStep_of_eq hrequests happrovals
  generalize applyCall settings world call = after at hrun
  cases hoperation : call.operation with
  | submit workspaceId requesterActorId subjectSelector affectedSnapshots affectedIndexes =>
    rw [hoperation] at hrun
    obtain ⟨fields, _, hsubmit, hdone⟩ := bind_eq_ok_iff.mp hrun
    cases hdone
    obtain ⟨row, hstatus, happrovals, hfresh, hrequests⟩ := submitDeletionRequest_eq_ok hsubmit
    have hrequest := (request?_of_requests_eq hrequests id).trans (request?_append hfresh)
    by_cases hid : id = row.deletionRequestId
    · rw [if_pos hid] at hrequest
      refine .submitted ?_ hrequest hstatus
      rw [request?, List.find?_eq_none]
      intro other hother
      rw [hid]
      simpa using hfresh other hother
    · rw [if_neg hid] at hrequest
      exact .kept hrequest (by rw [approvalsOf, happrovals, approvalsOf])
  | decide workspaceId decided approverActorId decision reason =>
    rw [hoperation] at hrun
    rcases approveDeletionRequest_eq_ok hrun with
      rfl | ⟨row, hrow, hself, hfresh, hrequests, happrovals⟩
    · exact requestStep_of_eq rfl rfl
    obtain ⟨hfound, rfl⟩ := requestOf?_eq_some_iff.mp hrow
    have hrequest := request?_of_assigned hrequests (decidedRequest_deletionRequestId _ _ _) id
    have hdecided := deletionRequestId_of_request? hfound
    by_cases hid : id = decided
    · subst hid
      rw [if_pos rfl, hfound] at hrequest
      refine .decided hoperation hfault hfound hfresh hself hrequest ?_
      rw [approvalsOf, happrovals, List.filter_append]
      simp [approvalsOf, recordedApproval, hdecided]
    · rw [if_neg hid] at hrequest
      refine .kept hrequest ?_
      rw [approvalsOf, happrovals, List.filter_append]
      simp [approvalsOf, recordedApproval, hdecided, Ne.symm hid]
  | execute workspaceId executed outputRoot backupReference =>
    rw [hoperation] at hrun
    rcases executeDeletionRequest_eq_ok hrun with rfl | ⟨row, hrow, happrovals, hcases⟩
    · exact requestStep_of_eq rfl rfl
    obtain ⟨hfound, rfl⟩ := requestOf?_eq_some_iff.mp hrow
    have hkept : approvalsOf after id = approvalsOf world id := by
      rw [approvalsOf, happrovals, approvalsOf]
    by_cases hid : id = executed
    · subst hid
      rcases hcases with ⟨hhold, hrequests⟩ | ⟨hfree, hstatus, evidenceBundleUri, hrequests⟩
      · have hrequest := request?_of_assigned hrequests (fun _ ↦ rfl) id
        rw [if_pos rfl, hfound] at hrequest
        exact .held hoperation hfault hfound hhold hrequest hkept
      · have hrequest := request?_of_assigned hrequests (fun _ ↦ rfl) id
        rw [if_pos rfl, hfound] at hrequest
        exact .executed hoperation hfound hfree hstatus hrequest hkept
    · refine .kept ?_ hkept
      rcases hcases with ⟨-, hrequests⟩ | ⟨-, -, evidenceBundleUri, hrequests⟩
      · rw [request?_of_assigned hrequests (fun _ ↦ rfl), if_neg hid]
      · rw [request?_of_assigned hrequests (fun _ ↦ rfl), if_neg hid]
  | configure workspaceId actorId retentionDays enabled purgeEnabled legalHoldActive =>
    rw [hoperation] at hrun
    obtain ⟨fields, _, hconfigure, hdone⟩ := bind_eq_ok_iff.mp hrun
    cases hdone
    have htables := (keeps_onBase _).of_run hconfigure
    rw [Prod.mk.injEq] at htables
    exact requestStep_of_eq htables.1 htables.2

theorem request?_applyCall_decide {row : GovernanceDeletionRequest}
    {workspaceId approverActorId decision reason : String} (hfault : call.requestFault = none)
    (hoperation : call.operation = .decide workspaceId id approverActorId decision reason)
    (hrow : requestOf? workspaceId id world = some row)
    (hself : ¬(normalizedDecision decision = "approve" ∧ row.requesterActorId = approverActorId))
    (hfresh : ∀ other ∈ world.approvals,
      other.deletionApprovalId ≠ settings.service.newUlid world.base.issued) :
    request? (applyCall settings world call) id = some (decidedRequest
      (legalHoldActive workspaceId world.base.db) (normalizedDecision decision) reason row) := by
  obtain ⟨answer, after, hrun, hrequests⟩ := approveDeletionRequest_of_fresh hrow hself hfresh
  rw [applyCall_of_ok (by rw [hoperation]; exact hrun) hfault,
    request?_of_assigned hrequests (decidedRequest_deletionRequestId _ _ _), if_pos rfl,
    (requestOf?_eq_some_iff.mp hrow).1, Option.map_some]

/-- An execution under a hold that commits blocks its request. -/
theorem request?_applyCall_hold {row : GovernanceDeletionRequest} {workspaceId outputRoot : String}
    {backupReference : Option String} (hfault : call.requestFault = none)
    (hoperation : call.operation = .execute workspaceId id outputRoot backupReference)
    (hrow : requestOf? workspaceId id world = some row)
    (hhold : legalHoldActive workspaceId world.base.db = true) :
    request? (applyCall settings world call) id = some (heldRequest row) := by
  obtain ⟨answer, after, hrun, hrequests⟩ : ∃ answer after,
      executeDeletionRequest settings workspaceId id outputRoot backupReference call.now world =
        (.ok answer, after) ∧ after.requests = (world.assign id heldRequest).requests :=
    executeDeletionRequest_of_hold hrow hhold
  rw [applyCall_of_ok (by rw [hoperation]; exact hrun) hfault,
    request?_of_assigned hrequests fun _ ↦ rfl, if_pos rfl,
    (requestOf?_eq_some_iff.mp hrow).1, Option.map_some]

end Calls

end SchemaPilot.ControlPlane
