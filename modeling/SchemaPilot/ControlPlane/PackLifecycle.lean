import SchemaPilot.ControlPlane.PackRollback

/-!
# Which requests make their pack effective

No operation of the lifecycle looks at what became of a request: a decision is taken on a request that
was applied already, and a promotion takes the canary of a request that was rejected since. In a run
whose decisions and promotions find requests that are not spent, and whose promotions find them on
trial, a request makes its pack effective at most once and only while its last decision is an approval
(`packLifecycle_of_pending`).
-/

namespace SchemaPilot.ControlPlane

open Library Library.Json Library.Versions SharedDomain

/-- The row shows that a request was applied, by its status or by its promoted canary. -/
def GovernancePolicy.Spends (changeRequestId : String) (row : GovernancePolicy) : Prop :=
  (row.policyType = packRequestPolicyType ∧ row.policyId = changeRequestId ∧
    row.status = "applied") ∨
  (row.policyType = packCanaryPolicyType ∧ row.status = "promoted" ∧
    fieldText (loadDefinition row.definitionRef) "change_request_id" = changeRequestId)

instance (changeRequestId : String) (row : GovernancePolicy) :
    Decidable (row.Spends changeRequestId) :=
  inferInstanceAs (Decidable (_ ∨ _))

/-- The table shows that a request was applied. -/
def Spent (rows : List GovernancePolicy) (changeRequestId : String) : Prop :=
  ∃ row ∈ rows, row.Spends changeRequestId

instance (rows : List GovernancePolicy) (changeRequestId : String) :
    Decidable (Spent rows changeRequestId) :=
  inferInstanceAs (Decidable (∃ row ∈ rows, row.Spends changeRequestId))

def canaryRequestId (canary : GovernancePolicy) : String :=
  fieldText (loadDefinition canary.definitionRef) "change_request_id"

/-- A decision finds a request that is not spent, and a promotion one that moreover is on trial. -/
def Pending (db : Database) : PackOperation → Prop
  | .decide workspaceId changeRequestId _ _ _ _ =>
    packRequestRow? workspaceId changeRequestId db ≠ none → ¬Spent db.policies changeRequestId
  | .promote workspaceId _ => ∀ canary ∈ activeCanaryRow? workspaceId db,
    ¬Spent db.policies (canaryRequestId canary) ∧
      ∃ row ∈ packRequestRow? workspaceId (canaryRequestId canary) db, row.status = "canary_active"
  | _ => True

instance (db : Database) (operation : PackOperation) : Decidable (Pending db operation) := by
  cases operation with
  | request => exact inferInstanceAs (Decidable True)
  | decide => exact inferInstanceAs (Decidable (_ → _))
  | rollback => exact inferInstanceAs (Decidable True)
  | promote workspaceId actorId =>
    exact inferInstanceAs (Decidable (∀ canary ∈ activeCanaryRow? workspaceId db,
      ¬Spent db.policies (canaryRequestId canary) ∧
        ∃ row ∈ packRequestRow? workspaceId (canaryRequestId canary) db,
          row.status = "canary_active"))

/-- The request that is decided and the word of the decision, where the operation answers. -/
def decisionOn? : PackOperation → Option Fields → Option (String × String)
  | .decide _ changeRequestId _ decision _ _, some _ =>
    some (changeRequestId, normalizedDecision decision)
  | _, _ => none

section Trace

variable (service : Service) (packs : List Fields)

def effectiveRequest? (step : World × PackOperation) : Option String :=
  appliedRequest? step.2 (step.2.answer? service packs step.1)

def stepDecision? (step : World × PackOperation) : Option (String × String) :=
  decisionOn? step.2 (step.2.answer? service packs step.1)

def lastDecision? (steps : List (World × PackOperation)) (changeRequestId : String) :
    Option String :=
  (steps.filterMap (stepDecision? service packs)).reverse.lookup changeRequestId

/-- Every request makes its pack effective at most once, and a pack becomes effective by a rollback
or by a request whose most recent decision is an approval. -/
structure PackLifecycle (start : World) (operations : List PackOperation) : Prop where
  once : ((trace (performPack service packs) start operations).filterMap
    (effectiveRequest? service packs)).Nodup
  approved : ∀ earlier operation, earlier ++ [operation] <+: operations → ∀ workspaceId,
    effectivePack? workspaceId (runPack service packs start (earlier ++ [operation])) ≠
      effectivePack? workspaceId (runPack service packs start earlier) →
    operation = .rollback workspaceId ∨ ∃ changeRequestId,
      effectiveRequest? service packs (runPack service packs start earlier, operation) =
        some changeRequestId ∧
      lastDecision? service packs (trace (performPack service packs) start (earlier ++ [operation]))
        changeRequestId = some "approve"

end Trace

def decisionsAfter (decisions : String → Option String) (operation : PackOperation)
    (answer : Option Fields) (changeRequestId : String) : Option String :=
  match decisionOn? operation answer with
  | some (decided, word) => if changeRequestId = decided then some word else decisions changeRequestId
  | none => decisions changeRequestId

theorem lastDecision?_snoc (service : Service) (packs : List Fields)
    (steps : List (World × PackOperation)) (world : World) (operation : PackOperation) :
    lastDecision? service packs (steps ++ [(world, operation)]) =
      decisionsAfter (lastDecision? service packs steps) operation
        (operation.answer? service packs world) := by
  funext changeRequestId
  rw [lastDecision?, decisionsAfter, List.filterMap_append, List.reverse_append]
  cases hdecision : decisionOn? operation (operation.answer? service packs world) with
  | none =>
    have hstep : stepDecision? service packs (world, operation) = none := hdecision
    rw [List.filterMap_cons_none hstep]
    rfl
  | some decision =>
    obtain ⟨decided, word⟩ := decision
    have hstep : stepDecision? service packs (world, operation) = some (decided, word) := hdecision
    rw [List.filterMap_cons_some hstep]
    by_cases hsame : changeRequestId = decided
    · simp [hsame]
    · simp [List.lookup_cons, beq_eq_false_iff_ne.mpr hsame, hsame, lastDecision?]

/-- A request on trial was last approved. -/
def TrialApproved (decisions : String → Option String) (row : GovernancePolicy) : Prop :=
  row.policyType = packRequestPolicyType → row.status = "canary_active" →
    decisions row.policyId = some "approve"

/-- Requests that made their pack effective are spent, and requests on trial were last approved. -/
structure LifecycleSound (rows : List GovernancePolicy) (applied : List String)
    (decisions : String → Option String) : Prop where
  trials : KeyedRows (TrialApproved decisions) rows
  spent : ∀ changeRequestId ∈ applied, Spent rows changeRequestId

section Steps

variable {service : Service} {packs : List Fields} {db : Database}
  {rows after : List GovernancePolicy} {operation : PackOperation} {answer : Option Fields}
  {applied : List String} {decisions : String → Option String} {changeRequestId : String}

theorem GovernancePolicy.Spends.not_active {row : GovernancePolicy} (h : row.Spends changeRequestId)
    (workspaceId policyType : String) : ¬row.IsActive workspaceId policyType := by
  rintro ⟨-, -, hstatus⟩
  rcases h with ⟨-, -, happlied⟩ | ⟨-, hpromoted, -⟩
  · exact absurd (hstatus.symm.trans happlied) (by decide)
  · exact absurd (hstatus.symm.trans hpromoted) (by decide)

theorem Spent.written {workspaceId policyType : String} {definition : Fields}
    (hkeys : (rows.map GovernancePolicy.policyId).Nodup) (h : Spent rows changeRequestId)
    (hwritten : PolicyWritten workspaceId policyType definition rows after
      (activeRowIn? workspaceId policyType rows)) : Spent after changeRequestId := by
  obtain ⟨row, hrow, hspends⟩ := h
  exact ⟨row, mem_written hkeys hrow (hspends.not_active _ _) hwritten, hspends⟩

/-- Rewriting a row that spends nothing hides no spent request. -/
theorem Spent.rewrite {row : GovernancePolicy} (hkeys : (rows.map GovernancePolicy.policyId).Nodup)
    (hrow : row ∈ rows) (hnone : ¬row.Spends changeRequestId) (h : Spent rows changeRequestId)
    (definition : Fields) (status : String) :
    Spent (rows.map (GovernancePolicy.rewritten row.policyId definition status)) changeRequestId := by
  obtain ⟨other, hother, hspends⟩ := h
  refine ⟨other, List.mem_map.mpr ⟨other, hother, rewritten_of_ne (fun hkey ↦ hnone ?_) _ _⟩, hspends⟩
  rwa [← List.inj_on_of_nodup_map hkeys hother hrow hkey]

theorem not_spends_request {row : GovernancePolicy} (hrow : row ∈ rows)
    (htype : row.policyType = packRequestPolicyType) (hunspent : ¬Spent rows row.policyId)
    (other : String) : ¬row.Spends other := by
  rintro (⟨-, rfl, hstatus⟩ | ⟨hcanary, -⟩)
  · exact hunspent ⟨row, hrow, Or.inl ⟨htype, rfl, hstatus⟩⟩
  · exact absurd (htype.symm.trans hcanary) (by decide)

theorem LifecycleSound.written {workspaceId policyType : String} {definition : Fields}
    (h : LifecycleSound rows applied decisions) (hne : policyType ≠ packRequestPolicyType)
    (hwritten : PolicyWritten workspaceId policyType definition rows after
      (activeRowIn? workspaceId policyType rows)) : LifecycleSound after applied decisions where
  trials := h.trials.written hwritten fun _ htype ↦ absurd htype hne
  spent := fun id hid ↦ (h.spent id hid).written h.trials.keys_nodup hwritten

/-- A request that is not spent takes a decision. -/
theorem LifecycleSound.decided {row : GovernancePolicy} (h : LifecycleSound rows applied decisions)
    (hrow : row ∈ rows) (hnone : ∀ id, ¬row.Spends id) (definition : Fields) {status word : String}
    (hstatus : status = "canary_active" → word = "approve") :
    LifecycleSound (rows.map (GovernancePolicy.rewritten row.policyId definition status)) applied
      fun id ↦ if id = row.policyId then some word else decisions id where
  trials := by
    refine h.trials.rewrite_of (fun other hother hkey _ htrial ↦ ?_) fun other _ hkey happroved htype
      htrial ↦ ?_
    · rw [GovernancePolicy.rewritten, if_pos hkey] at htrial
      rw [rewritten_policyId]
      exact (if_pos hkey).trans (congrArg some (hstatus htrial))
    · exact (if_neg hkey).trans (happroved htype htrial)
  spent := fun id hid ↦ (h.spent id hid).rewrite h.trials.keys_nodup hrow (hnone id) _ _

theorem declinedStatus_ne (word : String) {status : String}
    (hstatus : status ∈ ["applied", "canary_active"]) : declinedStatus word ≠ status := by
  rw [declinedStatus]
  split_ifs <;> revert status <;> decide

/-- A request that is declined does not become effective. -/
theorem appliedRequest?_declined (workspaceId approverActorId decision reason word : String)
    (canaryEnabled : Bool) (staged : Fields) :
    appliedRequest?
      (.decide workspaceId changeRequestId approverActorId decision reason canaryEnabled)
      (some (decidedDefinition staged (declinedStatus word) approverActorId reason)) = none := by
  rw [appliedRequest?, decidedDefinition, get?_set_of_ne (by decide), get?_set_of_ne (by decide),
    get?_set_self, if_neg]
  intro heq
  exact declinedStatus_ne word (List.mem_cons_self ..) (Json.str.inj (Option.some.inj heq))

/-- Every step keeps the lifecycle sound, and a request it makes effective was not effective before
and was last approved. -/
theorem LifecycleSound.step (h : LifecycleSound db.policies applied decisions)
    (hpacks : KeyedRows PackRow db.policies) (hpending : Pending db operation)
    (hstep : PackStep service packs db after operation answer) :
    (∀ id ∈ appliedRequest? operation answer,
      id ∉ applied ∧ decisionsAfter decisions operation answer id = some "approve") ∧
    LifecycleSound after (applied ++ (appliedRequest? operation answer).toList)
      (decisionsAfter decisions operation answer) := by
  cases hstep with
  | refused rows_eq =>
    have hnone : appliedRequest? operation none = none := by cases operation <;> rfl
    have hdecisions : decisionsAfter decisions operation none = decisions := by
      cases operation <;> rfl
    rw [hnone, hdecisions, rows_eq, Option.toList_none, List.append_nil]
    exact ⟨fun _ hid ↦ absurd hid (by simp), h⟩
  | requested pack_eq current_eq differs inserted =>
    change (∀ id ∈ (none : Option String), _) ∧ LifecycleSound after (applied ++ []) decisions
    rw [List.append_nil]
    refine ⟨fun _ hid ↦ absurd hid (by simp), h.trials.insert inserted fun _ htrial ↦ ?_,
      fun id hid ↦ ?_⟩
    · exact absurd (show "staged" = "canary_active" from htrial) (by decide)
    · obtain ⟨row, hrow, hspends⟩ := h.spent id hid
      obtain ⟨rfl, -⟩ := insertRow_eq_ok inserted
      exact ⟨row, List.mem_append_left _ hrow, hspends⟩
  | declined row_eq word_ne rows_eq =>
    obtain ⟨hmem, rfl, -, htype⟩ := packRequestRow?_eq_some row_eq
    have hunspent := hpending (by rw [row_eq]; exact Option.some_ne_none _)
    rw [appliedRequest?_declined, Option.toList_none, List.append_nil, rows_eq]
    refine ⟨fun _ hid ↦ absurd hid (by simp), ?_⟩
    exact h.decided hmem (not_spends_request hmem htype hunspent) _ fun hstatus ↦
      absurd hstatus (declinedStatus_ne _ (by simp))
  | @onTrial workspaceId requestId approverActorId decision reason row written row_eq word_eq sound
      canary_written rows_eq =>
    obtain ⟨hmem, rfl, -, htype⟩ := packRequestRow?_eq_some row_eq
    have hunspent := hpending (by rw [row_eq]; exact Option.some_ne_none _)
    have hmem' := request_mem_written hpacks hmem htype (by decide) canary_written
    have hwritten := h.written (by decide) canary_written
    change (∀ id ∈ (none : Option String), _) ∧ LifecycleSound after (applied ++ [])
      fun id ↦ if id = row.policyId then some (normalizedDecision decision) else decisions id
    rw [List.append_nil, rows_eq]
    exact ⟨fun _ hid ↦ absurd hid (by simp), hwritten.decided hmem'
      (not_spends_request hmem htype hunspent) _ fun _ ↦ word_eq⟩
  | @applied workspaceId requestId approverActorId decision reason row version written row_eq word_eq
      sound version_eq state_written rows_eq =>
    obtain ⟨hmem, rfl, -, htype⟩ := packRequestRow?_eq_some row_eq
    have hunspent := hpending (by rw [row_eq]; exact Option.some_ne_none _)
    have hmem' := request_mem_written hpacks hmem htype (by decide) state_written
    have hdecided := (h.written (by decide) state_written).decided hmem'
      (not_spends_request hmem htype hunspent)
      (decidedDefinition (loadDefinition row.definitionRef) "applied" approverActorId reason)
      fun _ : "applied" = "canary_active" ↦ word_eq
    change (∀ id ∈ some row.policyId, id ∉ applied ∧ (if id = row.policyId then
        some (normalizedDecision decision) else decisions id) = some "approve") ∧
      LifecycleSound after (applied ++ [row.policyId])
        fun id ↦ if id = row.policyId then some (normalizedDecision decision) else decisions id
    refine ⟨?_, rows_eq ▸ hdecided.trials, fun id hid ↦ ?_⟩
    · rintro _ ⟨rfl⟩
      exact ⟨fun happlied ↦ hunspent (h.spent _ happlied),
        (if_pos rfl).trans (congrArg some word_eq)⟩
    · rw [rows_eq]
      rcases List.mem_append.mp hid with hbefore | hnew
      · exact hdecided.spent id hbefore
      · rw [List.mem_singleton.mp hnew]
        refine ⟨_, List.mem_map_of_mem hmem', Or.inl ?_⟩
        rw [GovernancePolicy.rewritten, if_pos rfl]
        exact ⟨htype, rfl, rfl⟩
  | @rolledBack workspaceId row version row_eq available version_eq rows_eq =>
    obtain ⟨-, -, -, hstatus⟩ := activeRowIn?_eq_some row_eq
    have hwritten : PolicyWritten workspaceId packPolicyType
        (rolledBackState workspaceId (loadDefinition row.definitionRef) version).toFields
        db.policies after (activeRowIn? workspaceId packPolicyType db.policies) := by
      rw [← activePolicyRow?_eq, ← activePolicyPackRow?, row_eq, rows_eq, hstatus]
      rfl
    change (∀ id ∈ (none : Option String), _) ∧ LifecycleSound after (applied ++ []) decisions
    rw [List.append_nil]
    exact ⟨fun _ hid ↦ absurd hid (by simp), h.written (by decide) hwritten⟩
  | @promoted workspaceId actorId canary active written row_eq active_eq state_written rows_eq =>
    obtain ⟨hmem, hactive⟩ := activeRowIn?_eq_some row_eq
    obtain ⟨hunspent, row, hrow, htrial⟩ := hpending canary row_eq
    obtain ⟨hmemRow, hkey, -, htypeRow⟩ := packRequestRow?_eq_some hrow
    have hwritten := h.written (by decide) state_written
    have hcanary : activeRowIn? workspaceId packCanaryPolicyType written = some canary :=
      (activeRowIn?_written_of_ne hpacks.keys_nodup (fun heq ↦ absurd heq.2 (by decide))
        state_written).trans row_eq
    have hmem' := (activeRowIn?_eq_some hcanary).1
    rw [hcanary] at rows_eq
    change (∀ id ∈ some (canaryRequestId canary), id ∉ applied ∧ decisions id = some "approve") ∧
      LifecycleSound after (applied ++ [canaryRequestId canary]) decisions
    refine ⟨?_, ?_, fun id hid ↦ ?_⟩
    · rintro _ ⟨rfl⟩
      exact ⟨fun happlied ↦ hunspent (h.spent _ happlied),
        hkey ▸ h.trials.all row hmemRow htypeRow htrial⟩
    · rw [rows_eq]
      refine hwritten.trials.rewrite fun other hother hsame htype _ ↦ ?_
      rw [rewritten_policyType, hwritten.trials.eq_of_key hmem' hother hsame] at htype
      exact absurd (htype.symm.trans hactive.2.1) (by decide)
    · rw [rows_eq]
      rcases List.mem_append.mp hid with hbefore | hnew
      · exact (hwritten.spent id hbefore).rewrite hwritten.trials.keys_nodup hmem'
          (fun hspends ↦ hspends.not_active _ _ hactive) _ _
      · rw [List.mem_singleton.mp hnew]
        refine ⟨_, List.mem_map_of_mem hmem', Or.inr ?_⟩
        obtain ⟨packId, checksum, requestId, -, -, hrequest, -⟩ :=
          (hpacks.all canary hmem).canary hactive.2.1
        rw [GovernancePolicy.rewritten, if_pos rfl, canaryRequestId, fieldText_of_get? hrequest]
        refine ⟨hactive.2.1, rfl, fieldText_of_get? (get?_stored_str ?_)⟩
        rw [get?_set_of_ne (by decide), get?_set_of_ne (by decide)]
        exact hrequest

end Steps

section Runs

variable {service : Service} {packs : List Fields} {start : World}

/-- All along a run that meets the condition the lifecycle is sound. -/
theorem lifecycleSound_run {operations : List PackOperation}
    (hrows : ∀ earlier, KeyedRows PackRow (runPack service packs start earlier).db.policies)
    (hstart : ∀ row ∈ start.db.policies, row.policyType ∉ packPolicyTypes)
    (hpending : ∀ step ∈ trace (performPack service packs) start operations,
      Pending step.1.db step.2) :
    ∀ earlier, earlier <+: operations →
      ((trace (performPack service packs) start earlier).filterMap
        (effectiveRequest? service packs)).Nodup ∧
      LifecycleSound (runPack service packs start earlier).db.policies
        ((trace (performPack service packs) start earlier).filterMap
          (effectiveRequest? service packs))
        (lastDecision? service packs (trace (performPack service packs) start earlier)) := by
  refine prefix_induction ⟨List.nodup_nil, ⟨⟨(hrows []).keys_nodup, ?_⟩, ?_⟩⟩ ?_
  · intro row hrow htype
    exact absurd (by rw [htype]; decide) (hstart row hrow)
  · exact fun _ hid ↦ absurd hid List.not_mem_nil
  · intro earlier operation hprefix ih
    obtain ⟨hnodup, hsound⟩ := ih
    obtain ⟨hfresh, hafter⟩ := hsound.step (hrows earlier) (hpending _ (mem_trace hprefix))
      (packStep_perform service packs _ operation)
    have hlast : effectiveRequest? service packs (runPack service packs start earlier, operation) =
        appliedRequest? operation
          (operation.answer? service packs (runPack service packs start earlier)) := rfl
    have hsnoc : (trace (performPack service packs) start (earlier ++ [operation])).filterMap
        (effectiveRequest? service packs) =
        (trace (performPack service packs) start earlier).filterMap
          (effectiveRequest? service packs) ++
        (effectiveRequest? service packs
          (runPack service packs start earlier, operation)).toList := by
      rw [trace_snoc, List.filterMap_append, List.filterMap_cons, runPack]
      cases effectiveRequest? service packs
        (Versions.run (performPack service packs) start earlier, operation) <;> rfl
    rw [hsnoc, hlast, runPack_snoc, trace_snoc, lastDecision?_snoc]
    refine ⟨?_, hafter⟩
    cases hid : appliedRequest? operation
      (operation.answer? service packs (runPack service packs start earlier)) with
    | none => rwa [Option.toList_none, List.append_nil]
    | some id =>
      rw [Option.toList_some]
      refine hnodup.append (List.nodup_singleton id) fun other hother hsame ↦ ?_
      rw [List.mem_singleton.mp hsame] at hother
      exact (hfresh id hid).1 hother

/-- In a run whose decisions find requests that are not spent and whose promotions find requests on
trial, a request makes its pack effective at most once and only when it was last approved. -/
theorem packLifecycle_of_pending
    (hhex : ∀ text, Text.strip (service.codec.sha256Hex text) = service.codec.sha256Hex text)
    (hkeys : (start.db.policies.map GovernancePolicy.policyId).Nodup)
    (hstart : ∀ row ∈ start.db.policies, row.policyType ∉ packPolicyTypes)
    (operations : List PackOperation)
    (hpending : ∀ step ∈ trace (performPack service packs) start operations,
      Pending step.1.db step.2) : PackLifecycle service packs start operations := by
  have hrows : ∀ earlier, KeyedRows PackRow (runPack service packs start earlier).db.policies :=
    packRows_run hhex hkeys hstart
  have hsound := lifecycleSound_run hrows hstart hpending
  refine ⟨(hsound operations List.prefix_rfl).1, fun earlier operation hprefix workspaceId
    hchanged ↦ ?_⟩
  have hstep := packStep_perform service packs (runPack service packs start earlier) operation
  rcases hstep.effective (hrows earlier) workspaceId with hsame | ⟨state, hstate, -, horigin⟩
  · rw [← runPack_snoc] at hsame
    exact absurd hsame hchanged
  · refine horigin.imp_right fun ⟨id, hid⟩ ↦ ⟨id, hid, ?_⟩
    rw [trace_snoc, lastDecision?_snoc]
    exact ((hsound earlier ((List.prefix_append _ _).trans hprefix)).2.step (hrows earlier)
      (hpending _ (mem_trace hprefix)) hstep).1 id hid |>.2

end Runs

theorem packReplaced_lifecycle :
    PackLifecycle parityService bundledPacks freshWorld packReplaced := by
  have hkeys : (freshWorld.db.policies.map GovernancePolicy.policyId).Nodup := List.nodup_nil
  have hnone : ∀ row ∈ freshWorld.db.policies, row.policyType ∉ packPolicyTypes :=
    fun _ hrow ↦ (List.not_mem_nil hrow).elim
  exact packLifecycle_of_pending strip_parityDigest hkeys hnone packReplaced (by decide +kernel)

/-- A request that is approved, put on trial, rejected and then promoted. -/
def rejectedOnTrial : List PackOperation :=
  [.request 7 "w1" "steward" "enterprise_ai_assistant",
    .decide "w1" "2" "admin" "approve" "trial" true,
    .decide "w1" "2" "admin" "reject" "withdrawn" false, .promote "w1" "admin"]

/-- A rejected request becomes effective by the promotion of its canary. -/
theorem rejected_request_promoted :
    ¬∀ (service : Service) (packs : List Fields) (start : World) (operations : List PackOperation),
      (∀ text, Text.strip (service.codec.sha256Hex text) = service.codec.sha256Hex text) →
      (start.db.policies.map GovernancePolicy.policyId).Nodup →
      (∀ row ∈ start.db.policies, row.policyType ∉ packPolicyTypes) →
      PackLifecycle service packs start operations := by
  intro h
  have hlifecycle := h parityService bundledPacks freshWorld rejectedOnTrial strip_parityDigest
    List.nodup_nil fun _ hrow ↦ (List.not_mem_nil hrow).elim
  obtain ⟨hchanged, hrequest, hrejected⟩ : effectivePack? "w1"
          (runPack parityService bundledPacks freshWorld rejectedOnTrial) ≠
        effectivePack? "w1"
          (runPack parityService bundledPacks freshWorld rejectedOnTrial.dropLast) ∧
      effectiveRequest? parityService bundledPacks
        (runPack parityService bundledPacks freshWorld rejectedOnTrial.dropLast,
          .promote "w1" "admin") = some "2" ∧
      lastDecision? parityService bundledPacks
        (trace (performPack parityService bundledPacks) freshWorld rejectedOnTrial) "2" =
          some "reject" := by decide +kernel
  obtain hrollback | ⟨id, hid, happroved⟩ := hlifecycle.approved rejectedOnTrial.dropLast
    (.promote "w1" "admin") List.prefix_rfl "w1" hchanged
  · cases hrollback
  · obtain rfl : "2" = id := Option.some.inj (hrequest.symm.trans hid)
    exact absurd (hrejected.symm.trans happroved) (by decide)

end SchemaPilot.ControlPlane
