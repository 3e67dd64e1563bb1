import SchemaPilot.Library.Versions
import SchemaPilot.ControlPlane.PolicyPackSteps
import SchemaPilot.ControlPlane.ManifestReaders

/-!
# What a rollback of the policy pack restores

Every change of the effective pack raises the version by one and remembers the pack it replaces, so
a rollback restores the pack that was effective before the last change. That is the most recent other
pack exactly when the last change was to another pack (`packRollbacksRestore_iff`): the approval of a
pack that is effective already makes the next rollback restore the pack it rolls back.
-/

namespace SchemaPilot.ControlPlane

open Library Library.Json Library.Versions SharedDomain

def EffectivePolicyPack.key (effective : EffectivePolicyPack) : String × String :=
  (effective.packId, effective.packChecksum)

/-- The id and the checksum a state remembers. -/
def EffectivePolicyPack.previousKey (effective : EffectivePolicyPack) : String × String :=
  (effective.previousPackId, effective.previousPackChecksum)

/-- An id and a checksum without blanks around them. -/
def Trimmed (key : String × String) : Prop := Text.strip key.1 = key.1 ∧ Text.strip key.2 = key.2

/-- What the rows of the three types hold. -/
structure PackRow (row : GovernancePolicy) : Prop where
  effective : row.policyType = packPolicyType → ∃ state : EffectivePolicyPack,
    row.definitionRef = storedDefinition state.toFields ∧ state.workspaceId = row.workspaceId ∧
      Trimmed state.key ∧ Trimmed state.previousKey
  request : row.policyType = packRequestPolicyType → ∃ checksum,
    get? (loadDefinition row.definitionRef) "requested_pack_checksum" = some (.str checksum) ∧
      Text.strip checksum = checksum
  canary : row.policyType = packCanaryPolicyType → ∃ packId checksum changeRequestId,
    get? (loadDefinition row.definitionRef) "pack_id" = some (.str packId) ∧
      get? (loadDefinition row.definitionRef) "pack_checksum" = some (.str checksum) ∧
      get? (loadDefinition row.definitionRef) "change_request_id" = some (.str changeRequestId) ∧
      Trimmed (packId, checksum)

/-- The types of the three kinds of rows. -/
def packPolicyTypes : List String := [packPolicyType, packRequestPolicyType, packCanaryPolicyType]

theorem packRow_of_other {row : GovernancePolicy} (h : row.policyType ∉ packPolicyTypes) :
    PackRow row := by
  refine ⟨fun htype ↦ ?_, fun htype ↦ ?_, fun htype ↦ ?_⟩ <;>
    exact absurd (by rw [htype]; decide) h

theorem fieldText_of_get? {definition : Fields} {key text : String}
    (h : get? definition key = some (.str text)) : fieldText definition key = text := by
  rw [fieldText, getD, h]
  rfl

theorem get?_stored_str {definition : Fields} {key text : String}
    (h : get? definition key = some (.str text)) :
    get? (loadDefinition (storedDefinition definition)) key = some (.str text) := by
  rw [get?_loadDefinition, h]
  rfl

/-- A decision leaves the requested checksum of a request alone. -/
theorem get?_decidedDefinition {staged : Fields} {status approverActorId reason key : String}
    (hkey : key ∉ ["status", "approved_by", "decision_reason"]) :
    get? (decidedDefinition staged status approverActorId reason) key = get? staged key := by
  simp only [List.mem_cons, List.not_mem_nil, or_false, not_or] at hkey
  rw [decidedDefinition, get?_set_of_ne hkey.2.2, get?_set_of_ne hkey.2.1, get?_set_of_ne hkey.1]

theorem PackRow.decided {row : GovernancePolicy} (h : PackRow row)
    (htype : row.policyType = packRequestPolicyType)
    (decision status approverActorId reason : String) :
    PackRow (row.rewritten row.policyId (decidedDefinition (loadDefinition row.definitionRef)
      decision approverActorId reason) status) := by
  obtain ⟨checksum, hchecksum, htrimmed⟩ := h.request htype
  rw [GovernancePolicy.rewritten, if_pos rfl]
  refine ⟨fun heq ↦ ?_, fun _ ↦ ⟨checksum, get?_stored_str ?_, htrimmed⟩, fun heq ↦ ?_⟩
  · exact absurd (htype.symm.trans heq) (by decide)
  · rw [get?_decidedDefinition (by decide)]
    exact hchecksum
  · exact absurd (htype.symm.trans heq) (by decide)

theorem packRow_of_state {state : EffectivePolicyPack} (hkey : Trimmed state.key)
    (hprevious : Trimmed state.previousKey) (policyId status : String) :
    PackRow ⟨policyId, state.workspaceId, packPolicyType, storedDefinition state.toFields, status⟩ where
  effective := fun _ ↦ ⟨state, rfl, rfl, hkey, hprevious⟩
  request := fun htype ↦ absurd (show packPolicyType = packRequestPolicyType from htype) (by decide)
  canary := fun htype ↦ absurd (show packPolicyType = packCanaryPolicyType from htype) (by decide)

theorem PackRow.replaced {row : GovernancePolicy} {state : EffectivePolicyPack}
    (htype : row.policyType = packPolicyType) (hworkspace : state.workspaceId = row.workspaceId)
    (hkey : Trimmed state.key) (hprevious : Trimmed state.previousKey) (status : String) :
    PackRow (row.rewritten row.policyId state.toFields status) := by
  rw [GovernancePolicy.rewritten, if_pos rfl]
  refine ⟨fun _ ↦ ⟨state, rfl, hworkspace, hkey, hprevious⟩, fun heq ↦ ?_, fun heq ↦ ?_⟩
  · exact absurd (htype.symm.trans heq) (by decide)
  · exact absurd (htype.symm.trans heq) (by decide)

/-- What `get_effective_policy_pack` answers of a workspace. -/
def effectivePack? (workspaceId : String) (world : World) : Option EffectivePolicyPack :=
  (effectivePolicyPack workspaceId (activePolicyPackRow? workspaceId world.db)).toOption.join

def effectiveIn? (workspaceId : String) (rows : List GovernancePolicy) :
    Option EffectivePolicyPack :=
  (effectivePolicyPack workspaceId (activeRowIn? workspaceId packPolicyType rows)).toOption.join

theorem effectivePack?_eq (workspaceId : String) (world : World) :
    effectivePack? workspaceId world = effectiveIn? workspaceId world.db.policies := rfl

theorem effectivePolicyPack_of_stored {workspaceId : String} {row : GovernancePolicy}
    {state : EffectivePolicyPack} (hstate : row.definitionRef = storedDefinition state.toFields)
    (hworkspace : state.workspaceId = workspaceId) :
    effectivePolicyPack workspaceId (some row) = .ok (some state) := by
  have hversion : get? (loadDefinition row.definitionRef) "version" = some (.int state.version) := by
    rw [hstate, get?_loadDefinition]
    rfl
  have htext : ∀ key text, get? state.toFields key = some (.str text) →
      fieldText (loadDefinition row.definitionRef) key = text := fun key text hkey ↦ by
    rw [hstate]
    exact fieldText_of_get? (get?_stored_str hkey)
  rw [effectivePolicyPack, htext "pack_id" state.packId rfl,
    htext "pack_checksum" state.packChecksum rfl,
    htext "previous_pack_id" state.previousPackId rfl,
    htext "previous_pack_checksum" state.previousPackChecksum rfl, hversion, ← hworkspace]
  rfl

theorem effectiveIn?_eq {workspaceId : String} {rows : List GovernancePolicy}
    (h : KeyedRows PackRow rows) {row : GovernancePolicy}
    (hrow : activeRowIn? workspaceId packPolicyType rows = some row) :
    ∃ state, effectiveIn? workspaceId rows = some state ∧
      effectivePolicyPack workspaceId (some row) = .ok (some state) ∧
      row.definitionRef = storedDefinition state.toFields ∧ state.workspaceId = workspaceId ∧
      Trimmed state.key ∧ Trimmed state.previousKey := by
  obtain ⟨hmem, rfl, htype, -⟩ := activeRowIn?_eq_some hrow
  obtain ⟨state, hstate, hworkspace, htrimmed⟩ := (h.all row hmem).effective htype
  have heffective := effectivePolicyPack_of_stored hstate hworkspace
  refine ⟨state, ?_, heffective, hstate, hworkspace, htrimmed⟩
  rw [effectiveIn?, hrow, heffective]
  rfl

/-- A change from one effective pack to the next: the version goes up by one and the pack that is
replaced is remembered. -/
structure Follows (before : Option EffectivePolicyPack) (state : EffectivePolicyPack) : Prop where
  version : state.version = (before.map EffectivePolicyPack.version).getD 0 + 1
  previous : state.previousKey = (before.map EffectivePolicyPack.key).getD ("", "")
  trimmed : Trimmed state.key ∧ Trimmed state.previousKey

theorem Follows.ne {before : Option EffectivePolicyPack} {state : EffectivePolicyPack}
    (h : Follows before state) : some state ≠ before := by
  rintro rfl
  have hversion := h.version
  rw [Option.map_some, Option.getD_some] at hversion
  omega

theorem trimmed_empty : Trimmed ("", "") := ⟨by decide, by decide⟩

/-- What the active row says of the state that follows it. -/
theorem activeState_of_row {db : Database} (h : KeyedRows PackRow db.policies)
    (workspaceId : String) :
    (∀ version, toInt (getD (loadRow (activePolicyPackRow? workspaceId db)) "version" (.int 0)) =
        .ok version →
      version = ((effectiveIn? workspaceId db.policies).map EffectivePolicyPack.version).getD 0) ∧
    (fieldText (loadRow (activePolicyPackRow? workspaceId db)) "pack_id",
        fieldText (loadRow (activePolicyPackRow? workspaceId db)) "pack_checksum") =
      ((effectiveIn? workspaceId db.policies).map EffectivePolicyPack.key).getD ("", "") ∧
    Trimmed (((effectiveIn? workspaceId db.policies).map EffectivePolicyPack.key).getD
      ("", "")) := by
  rw [activePolicyPackRow?, activePolicyRow?_eq]
  cases hrow : activeRowIn? workspaceId packPolicyType db.policies with
  | none =>
    rw [effectiveIn?, hrow]
    refine ⟨fun version hversion ↦ ?_, rfl, trimmed_empty⟩
    cases hversion
    rfl
  | some row =>
    obtain ⟨state, heffective, -, hstate, -, htrimmed, -⟩ := effectiveIn?_eq h hrow
    rw [heffective]
    have hversion : get? (loadDefinition row.definitionRef) "version" =
        some (.int state.version) := by
      rw [hstate, get?_loadDefinition]
      rfl
    have htext : ∀ key text, get? state.toFields key = some (.str text) →
        fieldText (loadDefinition (storedDefinition state.toFields)) key = text :=
      fun _ _ hkey ↦ fieldText_of_get? (get?_stored_str hkey)
    refine ⟨fun version hcount ↦ ?_, ?_, htrimmed⟩
    · rw [loadRow, Option.map_some, Option.getD_some, getD, hversion] at hcount
      cases hcount
      rfl
    · rw [loadRow, Option.map_some, Option.getD_some, hstate,
        htext "pack_id" state.packId rfl, htext "pack_checksum" state.packChecksum rfl]
      rfl

section Steps

variable {service : Service} {packs : List Fields} {db : Database} {after : List GovernancePolicy}
  {operation : PackOperation} {answer : Option Fields}

/-- The request row is in the table after another row was written. -/
theorem request_mem_written {workspaceId policyType : String} {definition : Fields}
    {written : List GovernancePolicy} {row : GovernancePolicy} (h : KeyedRows PackRow db.policies)
    (hmem : row ∈ db.policies) (htype : row.policyType = packRequestPolicyType)
    (hne : policyType ≠ packRequestPolicyType)
    (hwritten : PolicyWritten workspaceId policyType definition db.policies written
      (activeRowIn? workspaceId policyType db.policies)) : row ∈ written :=
  mem_written h.keys_nodup hmem (fun hactive ↦ hne (hactive.2.1.symm.trans htype)) hwritten

/-- An approval at once follows the effective state. -/
theorem follows_applied {workspaceId : String} {row : GovernancePolicy} {version : ℤ}
    (h : KeyedRows PackRow db.policies) (hrow : row ∈ db.policies)
    (htype : row.policyType = packRequestPolicyType)
    (hversion : toInt (getD (loadRow (activePolicyPackRow? workspaceId db)) "version" (.int 0)) =
      .ok version) :
    Follows (effectiveIn? workspaceId db.policies)
      (appliedState workspaceId (loadDefinition row.definitionRef)
        (loadRow (activePolicyPackRow? workspaceId db)) version) := by
  obtain ⟨checksum, hchecksum, htrimmed⟩ := (h.all row hrow).request htype
  obtain ⟨hcount, hprevious, hbefore⟩ := activeState_of_row h workspaceId
  refine ⟨congrArg (· + 1) (hcount version hversion), hprevious, ⟨Text.strip_strip _, ?_⟩, ?_⟩
  · change Text.strip (fieldText _ _) = fieldText _ _
    rw [fieldText_of_get? hchecksum]
    exact htrimmed
  · rw [← hprevious] at hbefore
    exact hbefore

theorem follows_rolledBack {workspaceId : String} {row : GovernancePolicy} {version : ℤ}
    (h : KeyedRows PackRow db.policies) (hrow : activePolicyPackRow? workspaceId db = some row)
    (hversion : toInt (getD (loadDefinition row.definitionRef) "version" (.int 0)) =
      .ok version) :
    Follows (effectiveIn? workspaceId db.policies)
      (rolledBackState workspaceId (loadDefinition row.definitionRef) version) := by
  obtain ⟨hcount, hprevious, hbefore⟩ := activeState_of_row h workspaceId
  rw [hrow] at hcount hprevious
  refine ⟨congrArg (· + 1) (hcount version hversion), hprevious,
    ⟨Text.strip_strip _, Text.strip_strip _⟩, ?_⟩
  rw [← hprevious] at hbefore
  exact hbefore

theorem follows_promoted {workspaceId : String} {row : GovernancePolicy}
    {active : Option EffectivePolicyPack} (h : KeyedRows PackRow db.policies)
    (hrow : row ∈ db.policies) (htype : row.policyType = packCanaryPolicyType)
    (hactive : effectivePolicyPack workspaceId (activePolicyPackRow? workspaceId db) = .ok active) :
    Follows (effectiveIn? workspaceId db.policies)
      (promotedState workspaceId (loadDefinition row.definitionRef) active) := by
  obtain ⟨packId, checksum, -, hpack, hchecksum, -, htrimmed⟩ := (h.all row hrow).canary htype
  have hbefore := (activeState_of_row h workspaceId).2.2
  have heffective : effectiveIn? workspaceId db.policies = active := by
    change (effectivePolicyPack workspaceId (activePolicyPackRow? workspaceId db)).toOption.join = _
    rw [hactive]
    rfl
  rw [heffective] at hbefore ⊢
  have hkey : (promotedState workspaceId (loadDefinition row.definitionRef) active).key =
      (packId, checksum) := by
    rw [← fieldText_of_get? hpack, ← fieldText_of_get? hchecksum]
    rfl
  refine ⟨rfl, ?_, hkey ▸ htrimmed, ?_⟩
  · cases active <;> rfl
  · cases active with
    | none => exact trimmed_empty
    | some before => exact hbefore

theorem KeyedRows.writtenState {workspaceId : String} {state : EffectivePolicyPack}
    {written : List GovernancePolicy} {before : Option EffectivePolicyPack}
    (h : KeyedRows PackRow db.policies) (hfollows : Follows before state)
    (hworkspace : state.workspaceId = workspaceId)
    (hwritten : PolicyWritten workspaceId packPolicyType state.toFields db.policies written
      (activeRowIn? workspaceId packPolicyType db.policies)) : KeyedRows PackRow written := by
  subst hworkspace
  exact h.written hwritten fun policyId ↦
    packRow_of_state hfollows.trimmed.1 hfollows.trimmed.2 policyId "active"

/-- The canary row an approval writes. -/
theorem packRow_of_canary {workspaceId changeRequestId approverActorId policyId : String}
    {row : GovernancePolicy} (h : PackRow row) (htype : row.policyType = packRequestPolicyType) :
    PackRow ⟨policyId, workspaceId, packCanaryPolicyType, storedDefinition
      (canaryOf workspaceId changeRequestId approverActorId (loadDefinition row.definitionRef)),
      "active"⟩ := by
  obtain ⟨checksum, hchecksum, htrimmed⟩ := h.request htype
  refine ⟨fun heq ↦ ?_, fun heq ↦ ?_, fun _ ↦ ⟨_, checksum, _, get?_stored_str rfl,
    get?_stored_str ?_, get?_stored_str rfl, Text.strip_strip _, htrimmed⟩⟩
  · exact absurd (show packCanaryPolicyType = packPolicyType from heq) (by decide)
  · exact absurd (show packCanaryPolicyType = packRequestPolicyType from heq) (by decide)
  · rw [← fieldText_of_get? hchecksum]
    rfl

theorem PackRow.promoted {row : GovernancePolicy} (h : PackRow row)
    (htype : row.policyType = packCanaryPolicyType) (actorId : String) :
    PackRow (row.rewritten row.policyId (set (set (loadDefinition row.definitionRef) "status"
      (.str "promoted")) "promoted_by" (.str actorId)) "promoted") := by
  obtain ⟨packId, checksum, changeRequestId, hpack, hchecksum, hrequest, htrimmed⟩ :=
    h.canary htype
  have hkept : ∀ key ∉ ["status", "promoted_by"], get? (set (set (loadDefinition row.definitionRef)
      "status" (.str "promoted")) "promoted_by" (.str actorId)) key =
      get? (loadDefinition row.definitionRef) key := fun key hkey ↦ by
    simp only [List.mem_cons, List.not_mem_nil, or_false, not_or] at hkey
    rw [get?_set_of_ne hkey.2, get?_set_of_ne hkey.1]
  rw [GovernancePolicy.rewritten, if_pos rfl]
  refine ⟨fun heq ↦ ?_, fun heq ↦ ?_, fun _ ↦ ⟨packId, checksum, changeRequestId,
    get?_stored_str ?_, get?_stored_str ?_, get?_stored_str ?_, htrimmed⟩⟩
  · exact absurd (htype.symm.trans heq) (by decide)
  · exact absurd (htype.symm.trans heq) (by decide)
  · exact (hkept _ (by decide)).trans hpack
  · exact (hkept _ (by decide)).trans hchecksum
  · exact (hkept _ (by decide)).trans hrequest

/-- Every step keeps the rows those of the lifecycle. -/
theorem KeyedRows.packStep
    (hhex : ∀ text, Text.strip (service.codec.sha256Hex text) = service.codec.sha256Hex text)
    (h : KeyedRows PackRow db.policies) (hstep : PackStep service packs db after operation answer) :
    KeyedRows PackRow after := by
  have hrequest : ∀ {workspaceId changeRequestId : String} {row : GovernancePolicy}
      {rows : List GovernancePolicy}, KeyedRows PackRow rows → row ∈ rows →
      packRequestRow? workspaceId changeRequestId db = some row →
      ∀ decision approverActorId reason status, KeyedRows PackRow
        (rows.map (GovernancePolicy.rewritten changeRequestId (decidedDefinition
          (loadDefinition row.definitionRef) decision approverActorId reason) status)) := by
    intro workspaceId changeRequestId row rows hrows hmem hrow decision approverActorId reason status
    obtain ⟨-, hkey, -, htype⟩ := packRequestRow?_eq_some hrow
    refine hrows.rewrite fun other hother hsame ↦ ?_
    obtain rfl := hrows.eq_of_key hmem hother (hsame.trans hkey.symm)
    rw [← hkey]
    exact (hrows.all other hother).decided htype _ _ _ _
  cases hstep with
  | refused rows_eq => rwa [rows_eq]
  | requested pack_eq current_eq differs inserted =>
    refine h.insert inserted ⟨fun htype ↦ ?_, fun _ ↦ ?_, fun htype ↦ ?_⟩
    · exact absurd (show packRequestPolicyType = packPolicyType from htype) (by decide)
    · exact ⟨_, get?_stored_str rfl, hhex _⟩
    · exact absurd (show packRequestPolicyType = packCanaryPolicyType from htype) (by decide)
  | declined row_eq word_ne rows_eq =>
    rw [rows_eq]
    exact hrequest h (packRequestRow?_eq_some row_eq).1 row_eq _ _ _ _
  | onTrial row_eq word_eq sound canary_written rows_eq =>
    obtain ⟨hmem, -, -, htype⟩ := packRequestRow?_eq_some row_eq
    have hwritten := h.written canary_written fun _ ↦ packRow_of_canary (h.all _ hmem) htype
    rw [rows_eq]
    exact hrequest hwritten (request_mem_written h hmem htype (by decide) canary_written) row_eq
      _ _ _ _
  | applied row_eq word_eq sound version_eq state_written rows_eq =>
    obtain ⟨hmem, -, -, htype⟩ := packRequestRow?_eq_some row_eq
    have hwritten := h.writtenState (follows_applied h hmem htype version_eq) rfl state_written
    rw [rows_eq]
    exact hrequest hwritten (request_mem_written h hmem htype (by decide) state_written) row_eq
      _ _ _ _
  | rolledBack row_eq available version_eq rows_eq =>
    obtain ⟨hmem, hworkspace, htype, -⟩ := activeRowIn?_eq_some row_eq
    have hfollows := follows_rolledBack h row_eq version_eq
    rw [rows_eq]
    refine h.rewrite fun other hother hkey ↦ ?_
    obtain rfl := h.eq_of_key hmem hother hkey
    exact PackRow.replaced htype hworkspace.symm hfollows.trimmed.1 hfollows.trimmed.2 _
  | promoted row_eq active_eq state_written rows_eq =>
    obtain ⟨hmem, -, htype, -⟩ := activeRowIn?_eq_some row_eq
    have hwritten := h.writtenState (follows_promoted h hmem htype active_eq) rfl state_written
    rw [rows_eq]
    split
    · exact hwritten
    · next row hrow =>
      obtain ⟨hcanary, -, hcanaryType, -⟩ := activeRowIn?_eq_some hrow
      refine hwritten.rewrite fun other hother hkey ↦ ?_
      obtain rfl := hwritten.eq_of_key hcanary hother hkey
      exact (hwritten.all other hother).promoted hcanaryType _

/-- The request an answer reports as effective, by a decision or by the promotion of its canary. -/
def appliedRequest? : PackOperation → Option Fields → Option String
  | .decide _ changeRequestId _ _ _ _, some answer =>
    if get? answer "status" = some (.str "applied") then some changeRequestId else none
  | .promote _ _, some answer => (get? answer "canary_change_request_id").map toStr
  | _, _ => none

theorem effectiveIn?_congr {workspaceId : String} {rows rows' : List GovernancePolicy}
    (h : activeRowIn? workspaceId packPolicyType rows' =
      activeRowIn? workspaceId packPolicyType rows) :
    effectiveIn? workspaceId rows' = effectiveIn? workspaceId rows := by
  rw [effectiveIn?, effectiveIn?, h]

theorem effectiveIn?_written {writtenId : String} {state : EffectivePolicyPack}
    {written : List GovernancePolicy} (h : KeyedRows PackRow db.policies)
    (hwritten : PolicyWritten writtenId packPolicyType state.toFields db.policies written
      (activeRowIn? writtenId packPolicyType db.policies))
    (hworkspace : state.workspaceId = writtenId) (workspaceId : String) :
    effectiveIn? workspaceId written =
      if writtenId = workspaceId then some state else effectiveIn? workspaceId db.policies := by
  split_ifs with hsame
  · subst hsame
    obtain ⟨row, hrow, hstate⟩ := activeRowIn?_written h.keys_nodup hwritten
    rw [effectiveIn?, hrow, effectivePolicyPack_of_stored hstate hworkspace]
    rfl
  · exact effectiveIn?_congr
      (activeRowIn?_written_of_ne h.keys_nodup (fun heq ↦ hsame heq.1) hwritten)

/-- Rewriting a row of another type leaves the effective packs alone. -/
theorem effectiveIn?_rewrite {rows : List GovernancePolicy} {row : GovernancePolicy}
    (h : KeyedRows PackRow rows) (hmem : row ∈ rows) (htype : row.policyType ≠ packPolicyType)
    (workspaceId : String) (definition : Fields) (status : String) :
    effectiveIn? workspaceId
      (rows.map (GovernancePolicy.rewritten row.policyId definition status)) =
      effectiveIn? workspaceId rows := by
  refine effectiveIn?_congr (activeRowIn?_rewrite_of_ne fun other hother hkey hsame ↦ htype ?_)
  rw [← h.eq_of_key hmem hother hkey]
  exact hsame.2

/-- An effective pack stays as it is, or a rollback or a reported request makes another state
effective that follows it. -/
theorem PackStep.effective (h : KeyedRows PackRow db.policies)
    (hstep : PackStep service packs db after operation answer) (workspaceId : String) :
    effectiveIn? workspaceId after = effectiveIn? workspaceId db.policies ∨
    ∃ state, effectiveIn? workspaceId after = some state ∧
      Follows (effectiveIn? workspaceId db.policies) state ∧
      (operation = .rollback workspaceId ∨ ∃ id, appliedRequest? operation answer = some id) := by
  cases hstep with
  | refused rows_eq =>
    rw [rows_eq]
    exact Or.inl rfl
  | requested pack_eq current_eq differs inserted =>
    obtain ⟨rfl, -⟩ := insertRow_eq_ok inserted
    refine Or.inl (effectiveIn?_congr ?_)
    rw [activeRowIn?_append, if_neg, Option.or_none]
    exact fun hactive ↦ absurd (show packRequestPolicyType = packPolicyType from hactive.2.1)
      (by decide)
  | declined row_eq word_ne rows_eq =>
    obtain ⟨hmem, hkey, -, htype⟩ := packRequestRow?_eq_some row_eq
    rw [rows_eq, ← hkey]
    exact Or.inl (effectiveIn?_rewrite h hmem (htype.trans_ne (by decide)) workspaceId _ _)
  | onTrial row_eq word_eq sound canary_written rows_eq =>
    obtain ⟨hmem, hkey, -, htype⟩ := packRequestRow?_eq_some row_eq
    have hwritten := h.written canary_written fun _ ↦ packRow_of_canary (h.all _ hmem) htype
    have hmem' := request_mem_written h hmem htype (by decide) canary_written
    rw [rows_eq, ← hkey,
      effectiveIn?_rewrite hwritten hmem' (htype.trans_ne (by decide)) workspaceId _ _]
    refine Or.inl (effectiveIn?_congr (activeRowIn?_written_of_ne h.keys_nodup ?_ canary_written))
    exact fun heq ↦ absurd heq.2 (by decide)
  | @applied appliedId changeRequestId approverActorId decision reason row version written row_eq
      word_eq sound version_eq state_written rows_eq =>
    obtain ⟨hmem, hkey, -, htype⟩ := packRequestRow?_eq_some row_eq
    have hfollows := follows_applied h hmem htype version_eq
    have hwritten := h.writtenState hfollows rfl state_written
    have hmem' := request_mem_written h hmem htype (by decide) state_written
    rw [rows_eq, ← hkey,
      effectiveIn?_rewrite hwritten hmem' (htype.trans_ne (by decide)) workspaceId _ _,
      effectiveIn?_written h state_written rfl workspaceId]
    split_ifs with hsame
    · obtain rfl : appliedId = workspaceId := hsame
      exact Or.inr ⟨_, rfl, hfollows, Or.inr ⟨_, rfl⟩⟩
    · exact Or.inl rfl
  | @rolledBack rolledId row version row_eq available version_eq rows_eq =>
    obtain ⟨hmem, hworkspace, htype, hstatus⟩ := activeRowIn?_eq_some row_eq
    have hfollows := follows_rolledBack h row_eq version_eq
    have hwritten : PolicyWritten rolledId packPolicyType
        (rolledBackState rolledId (loadDefinition row.definitionRef) version).toFields
        db.policies after (activeRowIn? rolledId packPolicyType db.policies) := by
      rw [← activePolicyRow?_eq, ← activePolicyPackRow?, row_eq, rows_eq, hstatus]
      rfl
    rw [effectiveIn?_written h hwritten rfl workspaceId]
    split_ifs with hsame
    · obtain rfl : rolledId = workspaceId := hsame
      exact Or.inr ⟨_, rfl, hfollows, Or.inl rfl⟩
    · exact Or.inl rfl
  | @promoted promotedId actorId canaryRow active written row_eq active_eq state_written rows_eq =>
    obtain ⟨hmem, -, htype, -⟩ := activeRowIn?_eq_some row_eq
    have hfollows := follows_promoted h hmem htype active_eq
    have hwritten := h.writtenState hfollows rfl state_written
    have heffective : effectiveIn? workspaceId after = effectiveIn? workspaceId written := by
      rw [rows_eq]
      split
      · rfl
      · next canary hcanary =>
        obtain ⟨hcanaryMem, -, hcanaryType, -⟩ := activeRowIn?_eq_some hcanary
        exact effectiveIn?_rewrite hwritten hcanaryMem (hcanaryType.trans_ne (by decide)) workspaceId
          _ _
    rw [heffective, effectiveIn?_written h state_written rfl workspaceId]
    split_ifs with hsame
    · obtain rfl : promotedId = workspaceId := hsame
      exact Or.inr ⟨_, rfl, hfollows, Or.inr ⟨_, rfl⟩⟩
    · exact Or.inl rfl

/-- A rollback that answers makes effective what the effective state remembers. -/
theorem PackStep.rollback {workspaceId : String} {fields : Fields}
    (h : KeyedRows PackRow db.policies)
    (hstep : PackStep service packs db after (.rollback workspaceId) (some fields)) :
    ∃ active state, effectiveIn? workspaceId db.policies = some active ∧
      effectiveIn? workspaceId after = some state ∧ state.key = active.previousKey ∧
      active.previousKey ≠ ("", "") := by
  cases hstep with
  | @rolledBack _ row version row_eq available version_eq rows_eq =>
    obtain ⟨hmem, hworkspace, htype, hstatus⟩ := activeRowIn?_eq_some row_eq
    obtain ⟨active, hactive, -, hstate, -, -, htrimmed⟩ := effectiveIn?_eq h row_eq
    have hwritten : PolicyWritten workspaceId packPolicyType
        (rolledBackState workspaceId (loadDefinition row.definitionRef) version).toFields
        db.policies after (activeRowIn? workspaceId packPolicyType db.policies) := by
      rw [← activePolicyRow?_eq, ← activePolicyPackRow?, row_eq, rows_eq, hstatus]
      rfl
    have hid : strippedText (loadDefinition row.definitionRef) "previous_pack_id" "" =
        active.previousPackId := by
      refine (congrArg Text.strip ?_).trans htrimmed.1
      rw [hstate]
      exact fieldText_of_get? (get?_stored_str rfl)
    have hchecksum : strippedText (loadDefinition row.definitionRef) "previous_pack_checksum" "" =
        active.previousPackChecksum := by
      refine (congrArg Text.strip ?_).trans htrimmed.2
      rw [hstate]
      exact fieldText_of_get? (get?_stored_str rfl)
    have heffective := effectiveIn?_written h hwritten rfl workspaceId
    rw [if_pos rfl] at heffective
    refine ⟨active, _, hactive, heffective, Prod.ext hid hchecksum, fun hnone ↦ available ?_⟩
    rw [hid]
    exact Or.inl (congrArg Prod.fst hnone)

end Steps

section Runs

variable (service : Service) (packs : List Fields) (workspaceId : String) (start : World)

def runPack (operations : List PackOperation) : World :=
  Versions.run (performPack service packs) start operations

/-- The effective states of a workspace along a run, in order. -/
def packHistory (operations : List PackOperation) : List EffectivePolicyPack :=
  history (performPack service packs) (effectivePack? workspaceId) start operations

/-- Every change of the effective pack raises the version by one, and every rollback that answers
makes the most recent other pack effective. -/
structure PackRollbacksRestore (operations : List PackOperation) : Prop where
  versions : ∀ earlier operation, earlier ++ [operation] <+: operations →
    effectivePack? workspaceId (runPack service packs start (earlier ++ [operation])) ≠
      effectivePack? workspaceId (runPack service packs start earlier) →
    ∃ state, effectivePack? workspaceId (runPack service packs start (earlier ++ [operation])) =
        some state ∧
      state.version = ((effectivePack? workspaceId (runPack service packs start earlier)).map
        EffectivePolicyPack.version).getD 0 + 1
  restores : ∀ earlier, earlier ++ [.rollback workspaceId] <+: operations →
    (PackOperation.rollback workspaceId).answer? service packs (runPack service packs start earlier) ≠
      none →
    ∃ state, effectivePack? workspaceId
        (runPack service packs start (earlier ++ [.rollback workspaceId])) = some state ∧
      (lastOther? EffectivePolicyPack.key (packHistory service packs workspaceId start earlier)).map
        EffectivePolicyPack.key = some state.key

variable {service packs workspaceId start}

theorem runPack_snoc (earlier : List PackOperation) (operation : PackOperation) :
    runPack service packs start (earlier ++ [operation]) =
      performPack service packs (runPack service packs start earlier) operation :=
  run_snoc _ _ _ _

theorem packRows_run
    (hhex : ∀ text, Text.strip (service.codec.sha256Hex text) = service.codec.sha256Hex text)
    (hkeys : (start.db.policies.map GovernancePolicy.policyId).Nodup)
    (hstart : ∀ row ∈ start.db.policies, row.policyType ∉ packPolicyTypes)
    (operations : List PackOperation) :
    KeyedRows PackRow (runPack service packs start operations).db.policies := by
  refine prefix_induction
    (P := fun earlier ↦ KeyedRows PackRow (runPack service packs start earlier).db.policies) ?_
    (fun earlier operation _ ih ↦ ?_) operations List.prefix_rfl
  · exact ⟨hkeys, fun row hrow ↦ packRow_of_other (hstart row hrow)⟩
  · rw [runPack_snoc]
    exact ih.packStep hhex (packStep_perform service packs _ operation)

theorem effectivePack?_start
    (hstart : ∀ row ∈ start.db.policies, row.policyType ∉ packPolicyTypes) :
    effectivePack? workspaceId start = none := by
  rw [effectivePack?_eq, effectiveIn?, activeRowIn?_eq_none]
  · rfl
  · intro row hrow hactive
    exact hstart row hrow (by rw [hactive.2.1]; decide)

def rememberedKey (workspaceId : String) (world : World) : String × String :=
  ((effectivePack? workspaceId world).map EffectivePolicyPack.previousKey).getD ("", "")

theorem packHistory_linked (workspaceId : String)
    (hrows : ∀ operations, KeyedRows PackRow (runPack service packs start operations).db.policies)
    (hstart : ∀ row ∈ start.db.policies, row.policyType ∉ packPolicyTypes)
    (operations : List PackOperation) :
    (packHistory service packs workspaceId start operations).getLast? =
        effectivePack? workspaceId (runPack service packs start operations) ∧
      ∀ entries state, packHistory service packs workspaceId start operations = entries ++ [state] →
        rememberedKey workspaceId (runPack service packs start operations) =
          (entries.getLast?.map EffectivePolicyPack.key).getD ("", "") := by
  refine history_linked (rememberedKey workspaceId)
    (fun before ↦ (before.map EffectivePolicyPack.key).getD ("", "")) (effectivePack?_start hstart)
    fun earlier operation _ ↦ ?_
  rw [run_snoc]
  rcases (packStep_perform service packs (runPack service packs start earlier) operation).effective
    (hrows earlier) workspaceId with hsame | ⟨state, hstate, hfollows, -⟩
  · refine Or.inl ⟨hsame, ?_⟩
    rw [rememberedKey, rememberedKey]
    exact congrArg (fun effective ↦ (Option.map EffectivePolicyPack.previousKey effective).getD
      ("", "")) hsame
  · refine Or.inr ⟨state, hstate, hfollows.ne, ?_⟩
    rw [rememberedKey]
    exact (congrArg (fun effective ↦ (Option.map EffectivePolicyPack.previousKey effective).getD
      ("", "")) hstate).trans hfollows.previous

/-- A rollback that answers makes the pack effective that the effective state remembers, and that is
the most recent other one exactly when it is another. -/
theorem rollback_restores (workspaceId : String)
    (hrows : ∀ operations, KeyedRows PackRow (runPack service packs start operations).db.policies)
    (hstart : ∀ row ∈ start.db.policies, row.policyType ∉ packPolicyTypes)
    {earlier : List PackOperation}
    (hanswer : (PackOperation.rollback workspaceId).answer? service packs
      (runPack service packs start earlier) ≠ none) :
    ∃ active state,
      effectivePack? workspaceId (runPack service packs start earlier) = some active ∧
      effectivePack? workspaceId
        (runPack service packs start (earlier ++ [.rollback workspaceId])) = some state ∧
      ((lastOther? EffectivePolicyPack.key
        (packHistory service packs workspaceId start earlier)).map EffectivePolicyPack.key =
          some state.key ↔ active.previousKey ≠ active.key) := by
  obtain ⟨fields, hfields⟩ := Option.ne_none_iff_exists'.mp hanswer
  have hstep := packStep_perform service packs (runPack service packs start earlier)
    (.rollback workspaceId)
  rw [hfields] at hstep
  obtain ⟨active, state, hactive, hstate, hkey, hremembers⟩ := hstep.rollback (hrows earlier)
  rw [← runPack_snoc] at hstate
  refine ⟨active, state, hactive, hstate, ?_⟩
  obtain ⟨hlast, hlinked⟩ := packHistory_linked workspaceId hrows hstart earlier
  rw [effectivePack?_eq, hactive, List.getLast?_eq_some_iff] at hlast
  obtain ⟨entries, hentries⟩ := hlast
  have hprevious := hlinked entries active hentries
  rw [rememberedKey, effectivePack?_eq, hactive, Option.map_some, Option.getD_some] at hprevious
  rcases List.eq_nil_or_concat entries with rfl | ⟨before, previous, rfl⟩
  · exact absurd hprevious hremembers
  · rw [List.concat_eq_append, List.getLast?_concat, Option.map_some, Option.getD_some] at hprevious
    rw [hentries, List.concat_eq_append, List.append_assoc, hkey, hprevious]
    exact lastOther?_eq_some_iff_ne before previous active fun _ _ hsame ↦ hsame

/-- In every run that starts without policy-pack rows the version grows by one with every change, and
the rollbacks that answer restore the most recent other pack exactly when each of them finds an
effective state that remembers another pack than its own. -/
theorem packRollbacksRestore_iff
    (hhex : ∀ text, Text.strip (service.codec.sha256Hex text) = service.codec.sha256Hex text)
    (hkeys : (start.db.policies.map GovernancePolicy.policyId).Nodup)
    (hstart : ∀ row ∈ start.db.policies, row.policyType ∉ packPolicyTypes)
    (operations : List PackOperation) :
    PackRollbacksRestore service packs workspaceId start operations ↔
      ∀ earlier, earlier ++ [.rollback workspaceId] <+: operations →
        (PackOperation.rollback workspaceId).answer? service packs
          (runPack service packs start earlier) ≠ none →
        ∀ active ∈ effectivePack? workspaceId (runPack service packs start earlier),
          active.previousKey ≠ active.key := by
  have hrows : ∀ earlier, KeyedRows PackRow (runPack service packs start earlier).db.policies :=
    packRows_run hhex hkeys hstart
  refine ⟨fun h earlier hprefix hanswer active hactive ↦ ?_,
    fun h ↦ ⟨fun earlier operation _ hchanged ↦ ?_, fun earlier hprefix hanswer ↦ ?_⟩⟩
  · obtain ⟨restored, hrestored, hother⟩ := h.restores earlier hprefix hanswer
    obtain ⟨found, state, hfound, hstate, hiff⟩ :=
      rollback_restores workspaceId hrows hstart hanswer
    obtain rfl : found = active := Option.some.inj (hfound.symm.trans hactive)
    obtain rfl : restored = state := Option.some.inj (hrestored.symm.trans hstate)
    exact hiff.mp hother
  · have hstep := packStep_perform service packs (runPack service packs start earlier) operation
    rcases hstep.effective (hrows earlier) workspaceId with hsame | ⟨state, hstate, hfollows, -⟩
    · rw [← runPack_snoc] at hsame
      exact absurd hsame hchanged
    · rw [← runPack_snoc] at hstate
      exact ⟨state, hstate, hfollows.version⟩
  · obtain ⟨active, state, hactive, hstate, hiff⟩ :=
      rollback_restores workspaceId hrows hstart hanswer
    exact ⟨state, hstate, hiff.mpr (h earlier hprefix hanswer active hactive)⟩

end Runs

def bundledPacks : List Fields :=
  [[("id", .str "starter_local_team"), ("template_actor", .obj [("actor_type", .str "human"),
      ("roles", textList ["analyst"]), ("attributes", .obj [("region", .str "eu")])])],
    [("id", .str "enterprise_ai_assistant"), ("template_actor", .obj [("actor_type", .str "ai"),
      ("roles", textList ["ai_agent"]), ("attributes", .obj [("ai_allowlisted", .bool true)])])]]

def packApproved : List PackOperation :=
  [.request 7 "w1" "steward" "enterprise_ai_assistant",
    .decide "w1" "2" "admin" "approve" "rollout" false]

/-- A second pack that is approved, and a rollback to the first. -/
def packReplaced : List PackOperation :=
  packApproved ++ [.request 8 "w1" "steward" "starter_local_team",
    .decide "w1" "8" "admin" "approve" "rollout" false, .rollback "w1"]

theorem packReplaced_restores :
    PackRollbacksRestore parityService bundledPacks "w1" freshWorld packReplaced ↔
      ∀ earlier, earlier ++ [.rollback "w1"] <+: packReplaced →
        (PackOperation.rollback "w1").answer? parityService bundledPacks
          (runPack parityService bundledPacks freshWorld earlier) ≠ none →
        ∀ active ∈ effectivePack? "w1" (runPack parityService bundledPacks freshWorld earlier),
          active.previousKey ≠ active.key := by
  have hkeys : (freshWorld.db.policies.map GovernancePolicy.policyId).Nodup := List.nodup_nil
  have hnone : ∀ row ∈ freshWorld.db.policies, row.policyType ∉ packPolicyTypes :=
    fun _ hrow ↦ (List.not_mem_nil hrow).elim
  exact packRollbacksRestore_iff strip_parityDigest hkeys hnone packReplaced

/-- The rollback after a repeated approval restores the pack it rolls back. -/
theorem repeated_approval_not_restored :
    ¬∀ (service : Service) (packs : List Fields) (workspaceId : String) (start : World)
      (operations : List PackOperation),
      (∀ text, Text.strip (service.codec.sha256Hex text) = service.codec.sha256Hex text) →
      (start.db.policies.map GovernancePolicy.policyId).Nodup →
      (∀ row ∈ start.db.policies, row.policyType ∉ packPolicyTypes) →
      PackRollbacksRestore service packs workspaceId start operations := by
  intro h
  let repeated : List PackOperation :=
    packApproved ++ [.decide "w1" "2" "admin" "approve" "rollout" false]
  have hrestores := h parityService bundledPacks "w1" freshWorld (repeated ++ [.rollback "w1"])
    strip_parityDigest List.nodup_nil fun _ hrow ↦ (List.not_mem_nil hrow).elim
  have hanswer : (PackOperation.rollback "w1").answer? parityService bundledPacks
      (runPack parityService bundledPacks freshWorld repeated) ≠ none := by decide +kernel
  have hnone : lastOther? EffectivePolicyPack.key
      (packHistory parityService bundledPacks "w1" freshWorld repeated) = none := by decide +kernel
  obtain ⟨state, -, hother⟩ := hrestores.restores repeated List.prefix_rfl hanswer
  rw [hnone] at hother
  cases hother

end SchemaPilot.ControlPlane
