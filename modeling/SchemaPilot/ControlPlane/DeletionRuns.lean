import SchemaPilot.ControlPlane.DeletionSteps

/-!
# Runs of the deletion workflow

A run starts without deletion requests. `deletion_separated` shows that a request becomes executed
only after an approval by another actor that was its last decision and met no legal hold, and
`terminalStates_iff` that executed and rejected requests stay as they are exactly in the runs whose
calls leave them alone: neither `approve_deletion_request` nor the legal hold branch of
`execute_deletion_request` looks at the status a request has.
-/

namespace SchemaPilot.ControlPlane

open Library Library.Versions SharedDomain

abbrev runCalls (settings : DeletionSettings) (start : DeletionWorld) (calls : List DeletionCall) :
    DeletionWorld := Versions.run (applyCall settings) start calls

def World.beforeDeletions (base : World) : DeletionWorld := ⟨base, [], []⟩

/-- The request was not executed and now is. -/
def BecomesExecuted (world after : DeletionWorld) (id : String) : Prop :=
  (request? world id).map GovernanceDeletionRequest.status ≠ some "executed" ∧
    (request? after id).map GovernanceDeletionRequest.status = some "executed"

instance (world after : DeletionWorld) (id : String) : Decidable (BecomesExecuted world after id) :=
  inferInstanceAs (Decidable (_ ∧ _))

/-! ### Separation of duties -/

section Separation

variable {settings : DeletionSettings} {start : DeletionWorld} {calls : List DeletionCall}
  {id : String}

/-- The approval was recorded for the request by a call that met no legal hold. -/
def RecordedFree (settings : DeletionSettings) (start : DeletionWorld) (calls : List DeletionCall)
    (workspaceId id : String) (approval : GovernanceDeletionApproval) : Prop :=
  ∃ earlier call, earlier ++ [call] <+: calls ∧
    approvalsOf (runCalls settings start (earlier ++ [call])) id =
      approvalsOf (runCalls settings start earlier) id ++ [approval] ∧
    legalHoldActive workspaceId (runCalls settings start earlier).base.db = false

/-- The last decision recorded for a request approves it, by an actor who is not its requester and
at a time without a legal hold. -/
def LastApproved (settings : DeletionSettings) (start : DeletionWorld) (calls : List DeletionCall)
    (id : String) (row : GovernanceDeletionRequest) : Prop :=
  ∃ approval, (approvalsOf (runCalls settings start calls) id).getLast? = some approval ∧
    approval.decision = "approve" ∧ approval.approverActorId ≠ row.requesterActorId ∧
    RecordedFree settings start calls row.workspaceId id approval

/-- A request becomes executed only when no legal hold is active and it was last approved by another
actor while none was. -/
def DutiesSeparated (settings : DeletionSettings) (start : DeletionWorld)
    (calls : List DeletionCall) : Prop :=
  ∀ earlier call, earlier ++ [call] <+: calls → ∀ id,
    BecomesExecuted (runCalls settings start earlier)
      (runCalls settings start (earlier ++ [call])) id →
    ∃ row, request? (runCalls settings start earlier) id = some row ∧
      legalHoldActive row.workspaceId (runCalls settings start earlier).base.db = false ∧
      LastApproved settings start earlier id row

theorem RecordedFree.mono {more : List DeletionCall} {workspaceId : String}
    {approval : GovernanceDeletionApproval} (hmore : calls <+: more)
    (h : RecordedFree settings start calls workspaceId id approval) :
    RecordedFree settings start more workspaceId id approval := by
  obtain ⟨earlier, call, hearlier, hrecorded⟩ := h
  exact ⟨earlier, call, hearlier.trans hmore, hrecorded⟩

/-- A call that records nothing for a request leaves it last approved. -/
theorem LastApproved.kept {call : DeletionCall} {row : GovernanceDeletionRequest}
    (h : LastApproved settings start calls id row)
    (hkept : approvalsOf (runCalls settings start (calls ++ [call])) id =
      approvalsOf (runCalls settings start calls) id) :
    LastApproved settings start (calls ++ [call]) id row := by
  obtain ⟨approval, hlast, hdecision, hother, hrecorded⟩ := h
  exact ⟨approval, hkept ▸ hlast, hdecision, hother, hrecorded.mono (List.prefix_append _ _)⟩

/-- A decision leaves a request approved only when it approves it and no hold is active. -/
theorem decidedRequest_approved {hold : Bool} {normalized reason : String}
    {row : GovernanceDeletionRequest}
    (h : (decidedRequest hold normalized reason row).status = "approved") :
    normalized = "approve" ∧ hold = false := by
  rw [decidedRequest_status] at h
  split_ifs at h with hblocked happroved hrejected
  · exact absurd h (by decide)
  · refine ⟨happroved, ?_⟩
    simpa [happroved] using hblocked
  · exact absurd h (by decide)
  · exact absurd h (by decide)

theorem lastApproved_snoc {call : DeletionCall}
    (ih : ∀ id row, request? (runCalls settings start calls) id = some row →
      row.status = "approved" → LastApproved settings start calls id row)
    {row : GovernanceDeletionRequest}
    (hrow : request? (runCalls settings start (calls ++ [call])) id = some row)
    (hstatus : row.status = "approved") :
    LastApproved settings start (calls ++ [call]) id row := by
  have hstep := requestStep_applyCall settings (runCalls settings start calls) call id
  rw [← run_snoc (applyCall settings)] at hstep
  cases hstep with
  | kept request_eq approvals_eq =>
    exact (ih id row (request_eq ▸ hrow) hstatus).kept approvals_eq
  | submitted absent request_eq status_eq =>
    obtain rfl := Option.some.inj (request_eq.symm.trans hrow)
    exact absurd (status_eq.symm.trans hstatus) (by decide)
  | decided operation_eq committed found fresh separated request_eq approvals_eq =>
    obtain rfl := Option.some.inj (request_eq.symm.trans hrow)
    obtain ⟨happrove, hfree⟩ := decidedRequest_approved hstatus
    have hlast := congrArg List.getLast? approvals_eq
    rw [List.getLast?_concat] at hlast
    rw [LastApproved, decidedRequest_requesterActorId, decidedRequest_workspaceId]
    refine ⟨_, hlast, ?_, ?_, calls, call, List.prefix_rfl, approvals_eq, hfree⟩
    · rw [recordedApproval, happrove]
    · dsimp only [recordedApproval]
      intro hsame
      exact separated ⟨happrove, hsame.symm⟩
  | held operation_eq committed found hold request_eq approvals_eq =>
    obtain rfl := Option.some.inj (request_eq.symm.trans hrow)
    exact absurd (show "blocked" = "approved" from hstatus) (by decide)
  | executed operation_eq found free approved request_eq approvals_eq =>
    obtain rfl := Option.some.inj (request_eq.symm.trans hrow)
    exact absurd (show "executed" = "approved" from hstatus) (by decide)

theorem lastApproved_run (settings : DeletionSettings) (base : World) (calls : List DeletionCall)
    (id : String) (row : GovernanceDeletionRequest)
    (hrow : request? (runCalls settings base.beforeDeletions calls) id = some row)
    (hstatus : row.status = "approved") :
    LastApproved settings base.beforeDeletions calls id row := by
  induction calls using List.reverseRecOn generalizing id row with
  | nil => cases hrow
  | append_singleton calls call ih =>
    exact lastApproved_snoc ih hrow hstatus

/-- A deletion request becomes executed only when the latest decision recorded for it is an approve
by an actor other than its requester, taken under no legal hold, and no hold is active. -/
theorem deletion_separated (settings : DeletionSettings) (base : World)
    (calls : List DeletionCall) : DutiesSeparated settings base.beforeDeletions calls := by
  rintro earlier call - id ⟨hbefore, hafter⟩
  have hstep := requestStep_applyCall settings (runCalls settings base.beforeDeletions earlier) call
    id
  rw [← run_snoc (applyCall settings)] at hstep
  cases hstep with
  | kept request_eq =>
    rw [request_eq] at hafter
    exact absurd hafter hbefore
  | submitted absent request_eq status_eq =>
    rw [request_eq, Option.map_some, status_eq] at hafter
    exact absurd hafter (by decide)
  | decided operation_eq committed found fresh separated request_eq =>
    rw [request_eq, Option.map_some, decidedRequest_status] at hafter
    split_ifs at hafter <;> exact absurd hafter (by decide)
  | held operation_eq committed found hold request_eq =>
    rw [request_eq, Option.map_some] at hafter
    exact absurd (show some "blocked" = some "executed" from hafter) (by decide)
  | executed operation_eq found free approved =>
    exact ⟨_, found, free, lastApproved_run settings base earlier id _ found approved⟩

end Separation

/-! ### Terminal states -/

def GovernanceDeletionRequest.Terminal (row : GovernanceDeletionRequest) : Prop :=
  row.status = "executed" ∨ row.status = "rejected"

instance (row : GovernanceDeletionRequest) : Decidable row.Terminal :=
  inferInstanceAs (Decidable (_ ∨ _))

/-- The request still has the status and the evidence URI of a row. -/
def KeptAs (world : DeletionWorld) (id : String) (row : GovernanceDeletionRequest) : Prop :=
  ∃ kept, request? world id = some kept ∧ kept.status = row.status ∧
    kept.evidenceBundleUri = row.evidenceBundleUri

/-- In a run, no request becomes executed twice, and one that is executed or rejected keeps its
status and the URI of its evidence. -/
structure TerminalStates (settings : DeletionSettings) (start : DeletionWorld)
    (calls : List DeletionCall) : Prop where
  once : ∀ first firstCall second secondCall, first ++ [firstCall] <+: calls →
    second ++ [secondCall] <+: calls → ∀ id,
    BecomesExecuted (runCalls settings start first)
      (runCalls settings start (first ++ [firstCall])) id →
    BecomesExecuted (runCalls settings start second)
      (runCalls settings start (second ++ [secondCall])) id → first = second
  kept : ∀ earlier later, earlier <+: later → later <+: calls → ∀ id row,
    request? (runCalls settings start earlier) id = some row → row.Terminal →
    KeptAs (runCalls settings start later) id row

/-- A decision on this request is refused, or rejects what is rejected. -/
def DecisionLeaves (settings : DeletionSettings) (world : DeletionWorld)
    (row : GovernanceDeletionRequest) (approverActorId decision : String) : Prop :=
  normalizedDecision decision = "approve" ∧ row.requesterActorId = approverActorId ∨
    (∃ other ∈ world.approvals,
      other.deletionApprovalId = settings.service.newUlid world.base.issued) ∨
    normalizedDecision decision = "reject" ∧ row.status = "rejected"

instance (settings : DeletionSettings) (world : DeletionWorld) (row : GovernanceDeletionRequest)
    (approverActorId decision : String) :
    Decidable (DecisionLeaves settings world row approverActorId decision) :=
  inferInstanceAs (Decidable (_ ∧ _ ∨ _ ∨ _ ∧ _))

/-- The call is no decision that takes effect on an executed or rejected request, other than
another rejection of a rejected one, and no execution of such a request under a legal hold. -/
def LeavesTerminal (settings : DeletionSettings) (world : DeletionWorld) (call : DeletionCall) :
    Prop :=
  call.requestFault = none →
    match call.operation with
    | .decide workspaceId id approverActorId decision _ =>
      ∀ row ∈ requestOf? workspaceId id world, row.Terminal →
        DecisionLeaves settings world row approverActorId decision
    | .execute workspaceId id _ _ =>
      ∀ row ∈ requestOf? workspaceId id world, row.Terminal →
        legalHoldActive workspaceId world.base.db = false
    | _ => True

section Terminal

variable {settings : DeletionSettings} {start world : DeletionWorld} {calls : List DeletionCall}
  {call : DeletionCall} {id : String} {row : GovernanceDeletionRequest}

theorem not_terminal_of_approved (h : row.status = "approved") : ¬row.Terminal := by
  rw [GovernanceDeletionRequest.Terminal, h]
  decide

theorem not_keptAs_of_status {other : GovernanceDeletionRequest}
    (h : request? world id = some other) (hne : other.status ≠ row.status) :
    ¬KeptAs world id row := by
  rintro ⟨kept, hkept, hstatus, -⟩
  obtain rfl := Option.some.inj (h.symm.trans hkept)
  exact hne hstatus

/-- A decision gives an executed or rejected request another status, unless it rejects what is
rejected. -/
theorem decidedRequest_status_ne (hterminal : row.Terminal) {hold : Bool}
    {normalized reason : String} (hne : ¬(normalized = "reject" ∧ row.status = "rejected")) :
    (decidedRequest hold normalized reason row).status ≠ row.status := by
  rw [decidedRequest_status]
  rcases hterminal with hstatus | hstatus
  · rw [hstatus]
    split_ifs <;> decide
  · rw [hstatus]
    split_ifs with hblocked happroved hrejected
    · decide
    · decide
    · exact absurd ⟨hrejected, hstatus⟩ hne
    · decide

/-- A call that meets the condition leaves an executed or rejected request as it is. -/
theorem LeavesTerminal.keptAs (hleaves : LeavesTerminal settings world call)
    (hrow : request? world id = some row) (hterminal : row.Terminal) :
    KeptAs (applyCall settings world call) id row := by
  have hstep := requestStep_applyCall settings world call id
  cases hstep with
  | kept request_eq => exact ⟨row, request_eq.trans hrow, rfl, rfl⟩
  | submitted absent => exact absurd (absent.symm.trans hrow) (by simp)
  | decided operation_eq committed found fresh separated request_eq =>
    obtain rfl := Option.some.inj (found.symm.trans hrow)
    have hcall := hleaves committed
    rw [operation_eq] at hcall
    rcases hcall _ (requestOf?_eq_some_iff.mpr ⟨found, rfl⟩) hterminal with
      hself | ⟨other, hother, htaken⟩ | ⟨hreject, hrejected⟩
    · exact absurd hself separated
    · exact absurd htaken (fresh other hother)
    · refine ⟨_, request_eq, ?_, ?_⟩
      · rw [decidedRequest_status, hreject, hrejected]
        rfl
      · exact decidedRequest_evidenceBundleUri _ _ _ _
  | held operation_eq committed found hold request_eq =>
    obtain rfl := Option.some.inj (found.symm.trans hrow)
    have hcall := hleaves committed
    rw [operation_eq] at hcall
    have hfree := hcall _ (requestOf?_eq_some_iff.mpr ⟨found, rfl⟩) hterminal
    exact absurd (hold.symm.trans hfree) (by decide)
  | executed operation_eq found free approved =>
    obtain rfl := Option.some.inj (found.symm.trans hrow)
    exact absurd hterminal (not_terminal_of_approved approved)

/-- A call that leaves every executed and rejected request as it is meets the condition. -/
theorem leavesTerminal_of_keptAs (h : ∀ id row, request? world id = some row → row.Terminal →
    KeptAs (applyCall settings world call) id row) : LeavesTerminal settings world call := by
  intro hcommitted
  cases hoperation : call.operation with
  | submit => trivial
  | configure => trivial
  | decide workspaceId id approverActorId decision reason =>
    intro row hrow hterminal
    by_contra hleaves
    obtain ⟨hself, hrest⟩ := not_or.mp hleaves
    obtain ⟨hfresh, hrejects⟩ := not_or.mp hrest
    have hdecided := request?_applyCall_decide hcommitted hoperation hrow hself
      fun other hother htaken ↦ hfresh ⟨other, hother, htaken⟩
    exact not_keptAs_of_status hdecided (decidedRequest_status_ne hterminal hrejects)
      (h id row (requestOf?_eq_some_iff.mp hrow).1 hterminal)
  | execute workspaceId id outputRoot backupReference =>
    intro row hrow hterminal
    by_contra hfree
    have hheld : request? (applyCall settings world call) id = some (heldRequest row) :=
      request?_applyCall_hold hcommitted hoperation hrow (eq_true_of_ne_false hfree)
    refine not_keptAs_of_status hheld ?_ (h id row (requestOf?_eq_some_iff.mp hrow).1 hterminal)
    change "blocked" ≠ row.status
    rcases hterminal with hstatus | hstatus
    · rw [hstatus]
      decide
    · rw [hstatus]
      decide

/-- What every call of a run keeps, the run keeps. -/
theorem keptAs_run
    (hleaves : ∀ step ∈ trace (applyCall settings) start calls,
      LeavesTerminal settings step.1 step.2)
    {earlier later : List DeletionCall} (hearlier : earlier <+: later) (hlater : later <+: calls)
    (hrow : request? (runCalls settings start earlier) id = some row) (hterminal : row.Terminal) :
    KeptAs (runCalls settings start later) id row := by
  obtain ⟨more, rfl⟩ := hearlier
  induction more using List.reverseRecOn with
  | nil =>
    rw [List.append_nil]
    exact ⟨row, hrow, rfl, rfl⟩
  | append_singleton more call ih =>
    rw [← List.append_assoc] at hlater ⊢
    obtain ⟨kept, hkept, hstatus, huri⟩ := ih ((List.prefix_append _ _).trans hlater)
    rw [runCalls, run_snoc]
    have hterm : kept.Terminal := by rwa [GovernanceDeletionRequest.Terminal, hstatus]
    obtain ⟨last, hlast, hlastStatus, hlastUri⟩ :=
      (hleaves _ (mem_trace hlater)).keptAs hkept hterm
    exact ⟨last, hlast, hlastStatus.trans hstatus, hlastUri.trans huri⟩

theorem length_le_of_becomesExecuted
    (hkept : ∀ earlier later, earlier <+: later → later <+: calls → ∀ id row,
      request? (runCalls settings start earlier) id = some row → row.Terminal →
      KeptAs (runCalls settings start later) id row)
    {first second : List DeletionCall} {firstCall secondCall : DeletionCall}
    (hfirst : first ++ [firstCall] <+: calls) (hsecond : second ++ [secondCall] <+: calls)
    (hexecuted : BecomesExecuted (runCalls settings start first)
      (runCalls settings start (first ++ [firstCall])) id)
    (hagain : BecomesExecuted (runCalls settings start second)
      (runCalls settings start (second ++ [secondCall])) id) :
    second.length ≤ first.length := by
  by_contra hlonger
  have hprefix : second <+: calls := (List.prefix_append _ _).trans hsecond
  have hbetween : first ++ [firstCall] <+: second :=
    List.prefix_of_prefix_length_le hfirst hprefix (by
      rw [List.length_append, List.length_singleton]
      omega)
  obtain ⟨row, hrow, hstatus⟩ := Option.map_eq_some_iff.mp hexecuted.2
  obtain ⟨kept, hrequest, hsame, -⟩ :=
    hkept _ second hbetween hprefix id row hrow (Or.inl hstatus)
  exact hagain.1 (by rw [hrequest, Option.map_some, hsame, hstatus])

/-- Executed and rejected requests keep their status and evidence, and each request is executed at
most once, exactly in the runs whose calls all leave such requests alone. -/
theorem terminalStates_iff (settings : DeletionSettings) (base : World)
    (calls : List DeletionCall) :
    TerminalStates settings base.beforeDeletions calls ↔
      ∀ step ∈ trace (applyCall settings) base.beforeDeletions calls,
        LeavesTerminal settings step.1 step.2 := by
  constructor
  · rintro ⟨-, hkept⟩ ⟨world, call⟩ hstep
    obtain ⟨earlier, hprefix, rfl⟩ := exists_prefix_of_mem_trace hstep
    refine leavesTerminal_of_keptAs fun id row hrow hterminal ↦ ?_
    have := hkept earlier (earlier ++ [call]) (List.prefix_append _ _) hprefix id row hrow hterminal
    rwa [runCalls, run_snoc] at this
  · intro hleaves
    have hkept : ∀ earlier later, earlier <+: later → later <+: calls → ∀ id row,
        request? (runCalls settings base.beforeDeletions earlier) id = some row → row.Terminal →
        KeptAs (runCalls settings base.beforeDeletions later) id row :=
      fun earlier later hearlier hlater id row hrow hterminal ↦
        keptAs_run hleaves hearlier hlater hrow hterminal
    refine ⟨fun first firstCall second secondCall hfirst hsecond id hexecuted hagain ↦ ?_, hkept⟩
    have hlength := le_antisymm
      (length_le_of_becomesExecuted hkept hsecond hfirst hagain hexecuted)
      (length_le_of_becomesExecuted hkept hfirst hsecond hexecuted hagain)
    have hprefix : first <+: second :=
      List.prefix_of_prefix_length_le ((List.prefix_append _ _).trans hfirst)
        ((List.prefix_append _ _).trans hsecond) hlength.le
    exact hprefix.eq_of_length hlength

end Terminal

/-! ### An executed request that is decided again -/

/-- A service whose identifiers count up, with a small digest. -/
def countingSettings : DeletionSettings where
  service :=
    { storageRoot := "srv"
      retentionPurgeRoot := none
      auditSinkMode := "inline"
      resolvePath := fun text ↦ [text]
      codec := ⟨fun text ↦
          toString (text.toList.foldl (fun hash c ↦ (31 * hash + c.toNat) % 1000003) 7),
        fun payload ↦ [("encrypted", .bool false), ("payload", .obj payload)]⟩
      newUlid := fun n ↦ toString n
      toFloat := fun value ↦ .ok value
      epochJson := fun time ↦ .int time }
  posixPath root names := names.foldl (fun path name ↦ path ++ "/" ++ name) root
  signature text := toString text.length

def deletionBase : World := ⟨{ Database.empty with workspaces := ["w1"] }, FileTree.empty, 0⟩

def executedOnce : List DeletionCall :=
  [⟨.submit "w1" "requester" [("customer", .str "c1")] ["s1"] [], 7, none⟩,
    ⟨.decide "w1" "0" "steward" "approve" "checked", 8, none⟩,
    ⟨.execute "w1" "0" "runtime" none, 9, none⟩]

def decidedAgain : DeletionCall := ⟨.decide "w1" "0" "steward" "approve" "again", 10, none⟩

/-- An executed request is open for execution again when it is approved once more. -/
theorem executed_request_reopened :
    ¬∀ (settings : DeletionSettings) (base : World) (calls : List DeletionCall),
      TerminalStates settings base.beforeDeletions calls := by
  intro h
  have hexecuted : (request? (runCalls countingSettings deletionBase.beforeDeletions executedOnce)
      "0").map GovernanceDeletionRequest.status = some "executed" := by decide +kernel
  have hreopened : (request? (runCalls countingSettings deletionBase.beforeDeletions
      (executedOnce ++ [decidedAgain])) "0").map GovernanceDeletionRequest.status =
        some "approved" := by decide +kernel
  obtain ⟨row, hrow, hstatus⟩ := Option.map_eq_some_iff.mp hexecuted
  obtain ⟨kept, hkept, hsame, -⟩ := (h countingSettings deletionBase
    (executedOnce ++ [decidedAgain])).kept executedOnce _ (List.prefix_append _ _) List.prefix_rfl
      "0" row hrow (Or.inl hstatus)
  rw [hkept, Option.map_some, hsame, hstatus] at hreopened
  exact absurd hreopened (by decide)

end SchemaPilot.ControlPlane
