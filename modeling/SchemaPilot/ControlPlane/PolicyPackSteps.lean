import SchemaPilot.ControlPlane.PolicyPack
import SchemaPilot.ControlPlane.PolicyRows

/-!
# What the policy-pack lifecycle does to the policy rows

An operation is refused and leaves the table of policies alone, or it answers and is one of the
cases of `PackStep`: a request adds a staged row; a decision declines it, puts its pack on trial or
makes it effective; a rollback rewrites the active row; a promotion writes it and marks the canary.
-/

namespace SchemaPilot.ControlPlane

open Library Library.Json Library.Effect SharedDomain

inductive PackOperation where
  | request (now : ℤ) (workspaceId requesterActorId requestedPackId : String)
  | decide (workspaceId changeRequestId approverActorId decision reason : String)
      (canaryEnabled : Bool)
  | rollback (workspaceId : String)
  | promote (workspaceId actorId : String)

/-- An operation; a decision on no request answers nothing. -/
def PackOperation.handle (service : Service) (packs : List Fields) :
    PackOperation → Handler (Option Fields)
  | .request now workspaceId requesterActorId requestedPackId => do
    return some (← requestPolicyPackChange service packs now workspaceId requesterActorId
      requestedPackId)
  | .decide workspaceId changeRequestId approverActorId decision reason canaryEnabled =>
    decidePolicyPackChange service packs workspaceId changeRequestId approverActorId decision reason
      canaryEnabled
  | .rollback workspaceId => do return some (← rollbackPolicyPack workspaceId)
  | .promote workspaceId actorId => do
    return some (← promotePolicyPackCanary service workspaceId actorId)

/-- The world after an operation in a session of its own. -/
def performPack (service : Service) (packs : List Fields) (world : World)
    (operation : PackOperation) : World :=
  (inSession (operation.handle service packs) world).2

def PackOperation.answer? (service : Service) (packs : List Fields) (world : World)
    (operation : PackOperation) : Option Fields :=
  (inSession (operation.handle service packs) world).1.toOption.join

def stagedPackRow (workspaceId changeRequestId : String) (definition : Fields) :
    GovernancePolicy where
  policyId := changeRequestId
  workspaceId := workspaceId
  policyType := packRequestPolicyType
  definitionRef := storedDefinition definition
  status := "staged"

/-- The state an approval at once writes. -/
def appliedState (workspaceId : String) (staged active : Fields) (version : ℤ) :
    EffectivePolicyPack where
  workspaceId := workspaceId
  packId := strippedText staged "requested_pack_id" ""
  packChecksum := fieldText staged "requested_pack_checksum"
  version := version + 1
  previousPackId := fieldText active "pack_id"
  previousPackChecksum := fieldText active "pack_checksum"

def rolledBackState (workspaceId : String) (active : Fields) (version : ℤ) :
    EffectivePolicyPack where
  workspaceId := workspaceId
  packId := strippedText active "previous_pack_id" ""
  packChecksum := strippedText active "previous_pack_checksum" ""
  version := version + 1
  previousPackId := fieldText active "pack_id"
  previousPackChecksum := fieldText active "pack_checksum"

def canaryOf (workspaceId changeRequestId approverActorId : String) (staged : Fields) : Fields :=
  canaryDefinition workspaceId (strippedText staged "requested_pack_id" "")
    (fieldText staged "requested_pack_checksum") (fieldText staged "requester_actor_id")
    approverActorId changeRequestId

/-- A bundled pack that passes its invariants. -/
def SoundPack (packs : List Fields) (packId : String) : Prop :=
  ∃ pack, loadPolicyPack packs packId = .ok pack ∧ evaluatePolicyPackInvariants pack = []

/-- What an operation may answer and leave in the table of policies. -/
inductive PackStep (service : Service) (packs : List Fields) (db : Database)
    (after : List GovernancePolicy) : PackOperation → Option Fields → Prop
  | refused {operation : PackOperation} (rows_eq : after = db.policies) :
    PackStep service packs db after operation none
  | requested {now : ℤ} {workspaceId requesterActorId requestedPackId changeRequestId proposalId
      reviewTaskId : String} {pack : Fields} {current : Option EffectivePolicyPack}
      (pack_eq : loadPolicyPack packs requestedPackId = .ok pack)
      (current_eq : effectivePolicyPack workspaceId (activePolicyPackRow? workspaceId db) =
        .ok current)
      (differs : ∀ effective ∈ current, effective.packId ≠ requestedPackId)
      (inserted : insertRow GovernancePolicy.policyId db.policies
        (stagedPackRow workspaceId changeRequestId (packRequestDefinition service workspaceId
          requesterActorId requestedPackId changeRequestId proposalId reviewTaskId pack)) =
            .ok after) :
    PackStep service packs db after (.request now workspaceId requesterActorId requestedPackId)
      (some (packRequestDefinition service workspaceId requesterActorId requestedPackId
        changeRequestId proposalId reviewTaskId pack))
  | declined {workspaceId changeRequestId approverActorId decision reason : String}
      {canaryEnabled : Bool} {row : GovernancePolicy}
      (row_eq : packRequestRow? workspaceId changeRequestId db = some row)
      (word_ne : normalizedDecision decision ≠ "approve")
      (rows_eq : after = db.policies.map (GovernancePolicy.rewritten changeRequestId
        (decidedDefinition (loadDefinition row.definitionRef)
          (declinedStatus (normalizedDecision decision)) approverActorId reason)
        (declinedStatus (normalizedDecision decision)))) :
    PackStep service packs db after
      (.decide workspaceId changeRequestId approverActorId decision reason canaryEnabled)
      (some (decidedDefinition (loadDefinition row.definitionRef)
        (declinedStatus (normalizedDecision decision)) approverActorId reason))
  | onTrial {workspaceId changeRequestId approverActorId decision reason : String}
      {row : GovernancePolicy} {written : List GovernancePolicy}
      (row_eq : packRequestRow? workspaceId changeRequestId db = some row)
      (word_eq : normalizedDecision decision = "approve")
      (sound : SoundPack packs (strippedText (loadDefinition row.definitionRef)
        "requested_pack_id" ""))
      (canary_written : PolicyWritten workspaceId packCanaryPolicyType
        (canaryOf workspaceId changeRequestId approverActorId (loadDefinition row.definitionRef))
        db.policies written (activeCanaryRow? workspaceId db))
      (rows_eq : after = written.map (GovernancePolicy.rewritten changeRequestId
        (decidedDefinition (loadDefinition row.definitionRef) "canary_active" approverActorId reason)
        "canary_active")) :
    PackStep service packs db after
      (.decide workspaceId changeRequestId approverActorId decision reason true)
      (some [("change_request_id", .str changeRequestId), ("status", .str "canary_active"),
        ("canary", .obj (canaryOf workspaceId changeRequestId approverActorId
          (loadDefinition row.definitionRef)))])
  | applied {workspaceId changeRequestId approverActorId decision reason : String}
      {row : GovernancePolicy} {version : ℤ} {written : List GovernancePolicy}
      (row_eq : packRequestRow? workspaceId changeRequestId db = some row)
      (word_eq : normalizedDecision decision = "approve")
      (sound : SoundPack packs (strippedText (loadDefinition row.definitionRef)
        "requested_pack_id" ""))
      (version_eq : toInt (getD (loadRow (activePolicyPackRow? workspaceId db)) "version" (.int 0)) =
        .ok version)
      (state_written : PolicyWritten workspaceId packPolicyType
        (appliedState workspaceId (loadDefinition row.definitionRef)
          (loadRow (activePolicyPackRow? workspaceId db)) version).toFields
        db.policies written (activePolicyPackRow? workspaceId db))
      (rows_eq : after = written.map (GovernancePolicy.rewritten changeRequestId
        (decidedDefinition (loadDefinition row.definitionRef) "applied" approverActorId reason)
        "applied")) :
    PackStep service packs db after
      (.decide workspaceId changeRequestId approverActorId decision reason false)
      (some [("change_request_id", .str changeRequestId), ("status", .str "applied"),
        ("effective_policy_pack", .obj (appliedState workspaceId (loadDefinition row.definitionRef)
          (loadRow (activePolicyPackRow? workspaceId db)) version).toFields)])
  | rolledBack {workspaceId : String} {row : GovernancePolicy} {version : ℤ}
      (row_eq : activePolicyPackRow? workspaceId db = some row)
      (available : ¬(strippedText (loadDefinition row.definitionRef) "previous_pack_id" "" = "" ∨
        strippedText (loadDefinition row.definitionRef) "previous_pack_checksum" "" = ""))
      (version_eq : toInt (getD (loadDefinition row.definitionRef) "version" (.int 0)) =
        .ok version)
      (rows_eq : after = db.policies.map (GovernancePolicy.rewritten row.policyId
        (rolledBackState workspaceId (loadDefinition row.definitionRef) version).toFields
        row.status)) :
    PackStep service packs db after (.rollback workspaceId)
      (some [("status", .str "rolled_back"), ("effective_policy_pack",
        .obj (rolledBackState workspaceId (loadDefinition row.definitionRef) version).toFields)])
  | promoted {workspaceId actorId : String} {canaryRow : GovernancePolicy}
      {active : Option EffectivePolicyPack} {written : List GovernancePolicy}
      (row_eq : activeCanaryRow? workspaceId db = some canaryRow)
      (active_eq : effectivePolicyPack workspaceId (activePolicyPackRow? workspaceId db) =
        .ok active)
      (state_written : PolicyWritten workspaceId packPolicyType
        (promotedState workspaceId (loadDefinition canaryRow.definitionRef) active).toFields
        db.policies written (activePolicyPackRow? workspaceId db))
      (rows_eq : after = match activeRowIn? workspaceId packCanaryPolicyType written with
        | none => written
        | some row => written.map (GovernancePolicy.rewritten row.policyId
            (set (set (loadDefinition row.definitionRef) "status" (.str "promoted")) "promoted_by"
              (.str actorId)) "promoted")) :
    PackStep service packs db after (.promote workspaceId actorId)
      (some [("status", .str "promoted"), ("effective_policy_pack", .obj
          (promotedState workspaceId (loadDefinition canaryRow.definitionRef) active).toFields),
        ("canary_change_request_id",
          .str (fieldText (loadDefinition canaryRow.definitionRef) "change_request_id"))])

section Inversion

variable {service : Service} {packs : List Fields} {world after : World}

theorem activePolicyRow?_congr {db other : Database} (h : db.policies = other.policies)
    (workspaceId policyType : String) :
    activePolicyRow? workspaceId policyType db = activePolicyRow? workspaceId policyType other := by
  rw [activePolicyRow?, activePolicyRow?, h]

/-- A row of a workspace and a type was written over the one that was found. -/
theorem policyWritten_of_save {workspaceId policyType : String} {definition : Fields}
    {done : Unit}
    (h : (do
      let policyId ← newUlid service
      save (Database.addPolicy
        { policyId := policyId
          workspaceId := workspaceId
          policyType := policyType
          definitionRef := storedDefinition definition
          status := "active" }) : Handler Unit) world = (.ok done, after)) :
    PolicyWritten workspaceId policyType definition (policyRows world) (policyRows after) none := by
  obtain ⟨policyId, issued, hissued, hsave⟩ := bind_eq_ok_iff.mp h
  have hinserted := savePolicy_eq_ok hsave
  rw [(keeps_policies_newUlid service).of_run hissued] at hinserted
  exact ⟨policyId, hinserted⟩

theorem writeEffectivePack_eq_ok {state : EffectivePolicyPack}
    {activeRow : Option GovernancePolicy} {done : Unit}
    (h : writeEffectivePack service state activeRow world = (.ok done, after)) :
    PolicyWritten state.workspaceId packPolicyType state.toFields (policyRows world)
      (policyRows after) activeRow := by
  cases activeRow with
  | none => exact policyWritten_of_save h
  | some row =>
    cases h
    rfl

theorem writeCanary_eq_ok {workspaceId : String} {definition : Fields}
    {activeRow : Option GovernancePolicy} {done : Unit}
    (h : writeCanary service workspaceId definition activeRow world = (.ok done, after)) :
    PolicyWritten workspaceId packCanaryPolicyType definition (policyRows world)
      (policyRows after) activeRow := by
  cases activeRow with
  | none => exact policyWritten_of_save h
  | some row =>
    cases h
    rfl

theorem requestPolicyPackChange_eq_ok {now : ℤ}
    {workspaceId requesterActorId requestedPackId : String} {result : Fields}
    (h : requestPolicyPackChange service packs now workspaceId requesterActorId requestedPackId
      world = (.ok result, after)) :
    ∃ changeRequestId proposalId reviewTaskId pack current,
      loadPolicyPack packs requestedPackId = .ok pack ∧
      effectivePolicyPack workspaceId (activePolicyPackRow? workspaceId world.db) = .ok current ∧
      (∀ effective ∈ current, effective.packId ≠ requestedPackId) ∧
      result = packRequestDefinition service workspaceId requesterActorId requestedPackId
        changeRequestId proposalId reviewTaskId pack ∧
      insertRow GovernancePolicy.policyId (policyRows world)
        (stagedPackRow workspaceId changeRequestId result) = .ok (policyRows after) := by
  obtain ⟨_, found, hfound, hload⟩ := bind_eq_ok_iff.mp h
  obtain ⟨workspaces, listed, hlisted, hguard⟩ := bind_eq_ok_iff.mp hfound
  obtain ⟨-, rfl⟩ := query_eq_ok hlisted
  obtain ⟨-, rfl⟩ := guard_eq_ok hguard
  obtain ⟨pack, loaded, hloaded, hcurrent⟩ := bind_eq_ok_iff.mp hload
  obtain ⟨hpack, rfl⟩ := ofExcept_eq_ok hloaded
  obtain ⟨current, read, hread, hrefuse⟩ := bind_eq_ok_iff.mp hcurrent
  obtain ⟨activeRow, queried, hqueried, hstate⟩ := bind_eq_ok_iff.mp hread
  obtain ⟨rfl, rfl⟩ := query_eq_ok hqueried
  obtain ⟨heffective, rfl⟩ := ofExcept_eq_ok hstate
  obtain ⟨_, passed, hpassed, hstore⟩ := bind_eq_ok_iff.mp hrefuse
  obtain ⟨hdiffers, rfl⟩ := guard_eq_ok hpassed
  obtain ⟨stored, bundled, hbundled, hpropose⟩ := bind_eq_ok_iff.mp hstore
  obtain ⟨proposal, proposed, hproposed, htask⟩ := bind_eq_ok_iff.mp hpropose
  obtain ⟨reviewTask, queued, hqueued, hid⟩ := bind_eq_ok_iff.mp htask
  obtain ⟨changeRequestId, issued, hissued, hsave⟩ := bind_eq_ok_iff.mp hid
  obtain ⟨_, saved, hsaved, hdone⟩ := bind_eq_ok_iff.mp hsave
  cases hdone
  have hrows : policyRows issued = policyRows passed := by
    rw [(keeps_policies_newUlid service).of_run hissued,
      (keeps_policies_createReviewTask _ _ _ _ _).of_run hqueued,
      (keeps_policies_createProposal _ _ _ _ _).of_run hproposed,
      (keeps_policies_onFiles _).of_run hbundled]
  refine ⟨changeRequestId, proposal.proposalId, reviewTask.taskId, pack, current, hpack, heffective,
    fun effective hmem heq ↦ hdiffers ⟨effective, hmem, heq⟩, rfl, ?_⟩
  rw [← hrows]
  exact savePolicy_eq_ok hsaved

theorem packRequestRow?_eq_some {workspaceId changeRequestId : String} {db : Database}
    {row : GovernancePolicy} (h : packRequestRow? workspaceId changeRequestId db = some row) :
    row ∈ db.policies ∧ row.policyId = changeRequestId ∧ row.workspaceId = workspaceId ∧
      row.policyType = packRequestPolicyType := by
  rw [packRequestRow?, Option.filter_eq_some_iff, decide_eq_true_iff] at h
  obtain ⟨hfind, hworkspace, htype⟩ := h
  exact ⟨List.mem_of_find?_eq_some hfind, by simpa using List.find?_some hfind, hworkspace, htype⟩

theorem decidePolicyPackChange_eq_ok
    {workspaceId changeRequestId approverActorId decision reason : String} {canaryEnabled : Bool}
    {result : Option Fields}
    (h : decidePolicyPackChange service packs workspaceId changeRequestId approverActorId decision
      reason canaryEnabled world = (.ok result, after)) :
    PackStep service packs world.db (policyRows after)
      (.decide workspaceId changeRequestId approverActorId decision reason canaryEnabled)
      result := by
  obtain ⟨found, queried, hqueried, hfound⟩ := bind_eq_ok_iff.mp h
  obtain ⟨hrow, rfl⟩ := query_eq_ok hqueried
  cases found with
  | none =>
    cases hfound
    exact .refused rfl
  | some row =>
    obtain ⟨_, reviewed, hreviewed, hdecided⟩ := bind_eq_ok_iff.mp hfound
    have hrows : policyRows reviewed = policyRows queried := by
      refine Keeps.of_run (Keeps.onlyIf ?_) hreviewed
      exact (keeps_policies_decideReviewTask _ _ _ _ _ _).bind fun _ ↦ keeps_pure _
    have hkey := (packRequestRow?_eq_some hrow.symm).2.1
    by_cases hword : normalizedDecision decision = "approve"
    · rw [if_neg (not_not.mpr hword)] at hdecided
      obtain ⟨answer, saved, hsaved, hdone⟩ := bind_eq_ok_iff.mp hdecided
      cases hdone
      obtain ⟨activeRow, asked, hasked, hload⟩ := bind_eq_ok_iff.mp hsaved
      obtain ⟨rfl, rfl⟩ := query_eq_ok hasked
      obtain ⟨pack, loaded, hloaded, hcheck⟩ := bind_eq_ok_iff.mp hload
      obtain ⟨hpack, rfl⟩ := ofExcept_eq_ok hloaded
      obtain ⟨_, passed, hpassed, happrove⟩ := bind_eq_ok_iff.mp hcheck
      obtain ⟨hpasses, rfl⟩ := guard_eq_ok hpassed
      have hsound : SoundPack packs (strippedText (loadDefinition row.definitionRef)
          "requested_pack_id" "") := ⟨pack, hpack, not_not.mp hpasses⟩
      have hactive := activePolicyRow?_congr hrows workspaceId packPolicyType
      have hcanary := activePolicyRow?_congr hrows workspaceId packCanaryPolicyType
      cases canaryEnabled with
      | true =>
        rw [if_pos rfl] at happrove
        obtain ⟨existing, looked, hlooked, hwrite⟩ := bind_eq_ok_iff.mp happrove
        obtain ⟨rfl, rfl⟩ := query_eq_ok hlooked
        obtain ⟨_, written, hwritten, hmark⟩ := bind_eq_ok_iff.mp hwrite
        cases hmark
        have hwritten' := writeCanary_eq_ok hwritten
        rw [hrows, activeCanaryRow?, hcanary] at hwritten'
        exact .onTrial hrow.symm hword hsound hwritten' rfl
      | false =>
        rw [if_neg Bool.false_ne_true] at happrove
        obtain ⟨version, counted, hcounted, hwrite⟩ := bind_eq_ok_iff.mp happrove
        obtain ⟨hversion, rfl⟩ := ofExcept_eq_ok hcounted
        obtain ⟨_, written, hwritten, hmark⟩ := bind_eq_ok_iff.mp hwrite
        cases hmark
        have hwritten' := writeEffectivePack_eq_ok hwritten
        rw [activePolicyPackRow?, hactive] at hversion hwritten' ⊢
        rw [hrows] at hwritten'
        exact .applied hrow.symm hword hsound hversion hwritten' rfl
    · rw [if_pos hword] at hdecided
      cases hdecided
      refine .declined hrow.symm hword ?_
      rw [← hkey]
      exact congrArg (List.map _) hrows

theorem rollbackPolicyPack_eq_ok {workspaceId : String} {result : Fields}
    (h : rollbackPolicyPack workspaceId world = (.ok result, after)) :
    PackStep service packs world.db (policyRows after) (.rollback workspaceId) (some result) := by
  obtain ⟨found, queried, hqueried, hfound⟩ := bind_eq_ok_iff.mp h
  obtain ⟨hrow, rfl⟩ := query_eq_ok hqueried
  cases found with
  | none => cases hfound
  | some row =>
    obtain ⟨_, passed, hpassed, hcount⟩ := bind_eq_ok_iff.mp hfound
    obtain ⟨havailable, rfl⟩ := guard_eq_ok hpassed
    obtain ⟨version, counted, hcounted, hwrite⟩ := bind_eq_ok_iff.mp hcount
    obtain ⟨hversion, rfl⟩ := ofExcept_eq_ok hcounted
    cases hwrite
    exact .rolledBack hrow.symm havailable hversion rfl

theorem promotePolicyPackCanary_eq_ok {workspaceId actorId : String} {result : Fields}
    (h : promotePolicyPackCanary service workspaceId actorId world = (.ok result, after)) :
    PackStep service packs world.db (policyRows after) (.promote workspaceId actorId) (some result) := by
  obtain ⟨found, queried, hqueried, hfound⟩ := bind_eq_ok_iff.mp h
  obtain ⟨hrow, rfl⟩ := query_eq_ok hqueried
  cases found with
  | none => cases hfound
  | some row =>
    obtain ⟨active, read, hread, hask⟩ := bind_eq_ok_iff.mp hfound
    obtain ⟨activeRow, asked, hasked, hstate⟩ := bind_eq_ok_iff.mp hread
    obtain ⟨rfl, rfl⟩ := query_eq_ok hasked
    obtain ⟨hactive, rfl⟩ := ofExcept_eq_ok hstate
    obtain ⟨activeRow, looked, hlooked, hwrite⟩ := bind_eq_ok_iff.mp hask
    obtain ⟨rfl, rfl⟩ := query_eq_ok hlooked
    obtain ⟨_, written, hwritten, hsecond⟩ := bind_eq_ok_iff.mp hwrite
    obtain ⟨canaryRow, seen, hseen, hmark⟩ := bind_eq_ok_iff.mp hsecond
    obtain ⟨rfl, rfl⟩ := query_eq_ok hseen
    obtain ⟨_, marked, hmarked, hdone⟩ := bind_eq_ok_iff.mp hmark
    cases hdone
    refine .promoted hrow.symm hactive (writeEffectivePack_eq_ok hwritten) ?_
    rw [activeCanaryRow?, activePolicyRow?_eq] at hmarked
    cases hcanary : activeRowIn? workspaceId packCanaryPolicyType (policyRows seen) with
    | none =>
      rw [hcanary] at hmarked
      cases hmarked
      rfl
    | some canary =>
      rw [hcanary] at hmarked
      cases hmarked
      rfl

end Inversion

theorem packStep_perform (service : Service) (packs : List Fields) (world : World)
    (operation : PackOperation) :
    PackStep service packs world.db (policyRows (performPack service packs world operation)) operation
      (operation.answer? service packs world) := by
  rcases hrun : operation.handle service packs world with ⟨exception | answer, after⟩
  · have hanswer : operation.answer? service packs world = none := by
      rw [PackOperation.answer?, inSession, hrun]
      rfl
    have hrows : policyRows (performPack service packs world operation) = policyRows world := by
      rw [performPack, inSession, hrun]
    rw [hanswer, hrows]
    exact .refused rfl
  · have hanswer : operation.answer? service packs world = answer := by
      rw [PackOperation.answer?, inSession, hrun]
      rfl
    have hworld : performPack service packs world operation = after := by
      rw [performPack, inSession, hrun]
    rw [hanswer, hworld]
    cases operation with
    | request now workspaceId requesterActorId requestedPackId =>
      obtain ⟨result, final, hrequest, hdone⟩ := bind_eq_ok_iff.mp hrun
      cases hdone
      obtain ⟨changeRequestId, proposalId, reviewTaskId, pack, current, hpack, hcurrent, hdiffers, rfl,
        hinserted⟩ := requestPolicyPackChange_eq_ok hrequest
      exact .requested hpack hcurrent hdiffers hinserted
    | decide workspaceId changeRequestId approverActorId decision reason canaryEnabled =>
      exact decidePolicyPackChange_eq_ok hrun
    | rollback workspaceId =>
      obtain ⟨result, final, hrollback, hdone⟩ := bind_eq_ok_iff.mp hrun
      cases hdone
      exact rollbackPolicyPack_eq_ok hrollback
    | promote workspaceId actorId =>
      obtain ⟨result, final, hpromote, hdone⟩ := bind_eq_ok_iff.mp hrun
      cases hdone
      exact promotePolicyPackCanary_eq_ok hpromote

end SchemaPilot.ControlPlane
