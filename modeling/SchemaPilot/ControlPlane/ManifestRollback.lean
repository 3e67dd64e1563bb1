import SchemaPilot.ControlPlane.ManifestReaders
import SchemaPilot.Library.Versions
import SchemaPilot.SharedDomain.NormalManifest

/-!
# What a rollback of the manifest restores

The active row of a manifest holds the manifest, its checksum and the manifest before it, all of them
as the validation returns them, so what is effective is valid and has the checksum that is stored.
Every change raises the version by one and remembers the manifest it replaces. A rollback therefore
restores the most recent other manifest exactly when the last change was to another one
(`manifestRollbacksRestore_iff`): an approval that is repeated, or given to two requests for one
manifest, makes the next rollback restore the manifest it rolls back.
-/

namespace SchemaPilot.ControlPlane

open Library Library.Json Library.Versions Library.Effect SharedDomain

deriving instance DecidableEq for EffectiveSemanticManifest

def ValidManifest (workspaceId : String) (manifest : SemanticManifest) : Prop :=
  manifest.Normalised ∧ manifest.workspaceId = workspaceId

/-- What a definition of the active type holds: a manifest, its version and the manifest before it. -/
structure ManifestHeld (service : Service) (workspaceId : String) (definitionRef : Option Json)
    (manifest : SemanticManifest) (version : ℤ) (previous : Option SemanticManifest) : Prop where
  stored : ∃ before : Fields,
    definitionRef = storedDefinition (nextState service workspaceId manifest version before) ∧
    get? before "manifest" = previous.map (fun replaced ↦ canon (.obj replaced.toFields)) ∧
    get? before "manifest_checksum" =
      previous.map fun replaced ↦ .str (service.manifestChecksum replaced)
  valid : ValidManifest workspaceId manifest
  previous_valid : ∀ replaced ∈ previous, ValidManifest workspaceId replaced

/-- The effective state of a row that holds a manifest. -/
def heldState (service : Service) (workspaceId : String) (manifest : SemanticManifest) (version : ℤ)
    (previous : Option SemanticManifest) : EffectiveSemanticManifest where
  workspaceId := workspaceId
  manifest := manifest
  manifestChecksum := service.manifestChecksum manifest
  version := version
  previousManifestChecksum := (previous.map service.manifestChecksum).getD "None"

section Held

variable {service : Service} {workspaceId : String} {definitionRef : Option Json}
  {manifest : SemanticManifest} {version : ℤ} {previous : Option SemanticManifest}

theorem validatedManifest_readBack (h : ValidManifest workspaceId manifest) :
    validatedManifest (readBack manifest.toFields) workspaceId = .ok manifest := by
  rw [validatedManifest, validateSemanticManifest_readBack h.1 fun expected hexpected ↦
    h.2.trans (Option.mem_some_iff.mp hexpected)]

theorem validManifest_of_validated {payload : Fields}
    (h : validatedManifest payload workspaceId = .ok manifest) :
    ValidManifest workspaceId manifest := by
  unfold validatedManifest at h
  split at h
  · next normalized hnormalized =>
    cases h
    exact ⟨validateSemanticManifest_normalised hnormalized,
      (validateSemanticManifest_wellFormed hnormalized).2 workspaceId rfl⟩
  · cases h

theorem ManifestHeld.get?_manifest
    (h : ManifestHeld service workspaceId definitionRef manifest version previous) :
    get? (loadDefinition definitionRef) "manifest" = some (.obj (readBack manifest.toFields)) := by
  obtain ⟨before, hstored, -⟩ := h.stored
  rw [hstored, get?_loadDefinition]
  exact congrArg some (canon_obj _)

theorem ManifestHeld.get?_checksum
    (h : ManifestHeld service workspaceId definitionRef manifest version previous) :
    get? (loadDefinition definitionRef) "manifest_checksum" =
      some (.str (service.manifestChecksum manifest)) := by
  obtain ⟨before, hstored, -⟩ := h.stored
  rw [hstored, get?_loadDefinition]
  rfl

theorem ManifestHeld.get?_version
    (h : ManifestHeld service workspaceId definitionRef manifest version previous) :
    get? (loadDefinition definitionRef) "version" = some (.int version) := by
  obtain ⟨before, hstored, -⟩ := h.stored
  rw [hstored, get?_loadDefinition]
  rfl

theorem ManifestHeld.get?_previous
    (h : ManifestHeld service workspaceId definitionRef manifest version previous) :
    (get? (loadDefinition definitionRef) "previous_manifest").bind asObj? =
      previous.map fun replaced ↦ readBack replaced.toFields := by
  obtain ⟨before, hstored, hmanifest, -⟩ := h.stored
  have hfield : get? (nextState service workspaceId manifest version before) "previous_manifest" =
      some (getD before "manifest" .null) := rfl
  rw [hstored, get?_loadDefinition, hfield, getD, hmanifest]
  cases previous with
  | none => rfl
  | some replaced =>
    change (some (canon (canon (.obj replaced.toFields)))).bind asObj? =
      some (readBack replaced.toFields)
    rw [canon_canon, canon_obj, Option.bind_some, asObj?]

theorem ManifestHeld.previousChecksum
    (h : ManifestHeld service workspaceId definitionRef manifest version previous) :
    (getD (loadDefinition definitionRef) "previous_manifest_checksum" (.str "")).toStr =
      (previous.map service.manifestChecksum).getD "None" := by
  obtain ⟨before, hstored, -, hchecksum⟩ := h.stored
  have hfield : get? (nextState service workspaceId manifest version before)
      "previous_manifest_checksum" = some (getD before "manifest_checksum" .null) := rfl
  rw [hstored, getD, get?_loadDefinition, hfield, getD, hchecksum]
  cases previous with
  | none =>
    change toStr .null = "None"
    decide
  | some replaced => rfl

/-- What `get_effective_semantic_manifest` reads of the row. -/
theorem ManifestHeld.effectiveState
    (hhex : ∀ text, Text.strip (service.codec.sha256Hex text) = service.codec.sha256Hex text)
    (h : ManifestHeld service workspaceId definitionRef manifest version previous) :
    effectiveState service workspaceId (loadDefinition definitionRef) =
      .ok (some (heldState service workspaceId manifest version previous)) := by
  have hchecksum : strippedText (loadDefinition definitionRef) "manifest_checksum" "" =
      service.manifestChecksum manifest := by
    rw [strippedText, getD, h.get?_checksum]
    exact hhex _
  have hcoerced : coerceInt (some (.int version)) 1 = .ok version := rfl
  rw [ControlPlane.effectiveState, h.get?_manifest, Option.bind_some, asObj?]
  dsimp only
  rw [validatedManifest_readBack h.valid, ok_bind, h.get?_version, hcoerced, ok_bind, hchecksum,
    h.previousChecksum, ite_eq_left_iff.mpr fun _ ↦ rfl]
  rfl

end Held

/-- Rows of the active type hold a manifest. -/
def ManifestRow (service : Service) (row : GovernancePolicy) : Prop :=
  row.policyType = activePolicyType → ∃ manifest version previous,
    ManifestHeld service row.workspaceId row.definitionRef manifest version previous

/-- What `get_effective_semantic_manifest` answers of a workspace. -/
def effectiveManifestState? (service : Service) (workspaceId : String) (world : World) :
    Option EffectiveSemanticManifest :=
  (effectiveSemanticManifest service workspaceId
    (activeSemanticManifestRow? workspaceId world.db)).toOption.join

def effectiveManifestIn? (service : Service) (workspaceId : String) (rows : List GovernancePolicy) :
    Option EffectiveSemanticManifest :=
  (effectiveSemanticManifest service workspaceId
    (activeRowIn? workspaceId activePolicyType rows)).toOption.join

theorem effectiveManifestState?_eq (service : Service) (workspaceId : String) (world : World) :
    effectiveManifestState? service workspaceId world =
      effectiveManifestIn? service workspaceId world.db.policies := rfl

def rememberedManifest? (workspaceId : String) (rows : List GovernancePolicy) :
    Option SemanticManifest :=
  (activeRowIn? workspaceId activePolicyType rows).bind fun row ↦
    ((get? (loadDefinition row.definitionRef) "previous_manifest").bind asObj?).bind fun previous ↦
      (validatedManifest previous workspaceId).toOption

/-- The active row holds a manifest, its version and the manifest before it. -/
def ActiveHolds (service : Service) (workspaceId : String) (rows : List GovernancePolicy)
    (manifest : SemanticManifest) (version : ℤ) (previous : Option SemanticManifest) : Prop :=
  ∃ row, activeRowIn? workspaceId activePolicyType rows = some row ∧
    ManifestHeld service workspaceId row.definitionRef manifest version previous

section Rows

variable {service : Service} {workspaceId : String} {rows after : List GovernancePolicy}

theorem ActiveHolds.effective {manifest : SemanticManifest} {version : ℤ}
    {previous : Option SemanticManifest}
    (hhex : ∀ text, Text.strip (service.codec.sha256Hex text) = service.codec.sha256Hex text)
    (h : ActiveHolds service workspaceId rows manifest version previous) :
    effectiveManifestIn? service workspaceId rows =
      some (heldState service workspaceId manifest version previous) := by
  obtain ⟨row, hrow, hheld⟩ := h
  rw [effectiveManifestIn?, hrow, effectiveSemanticManifest, hheld.effectiveState hhex]
  rfl

theorem ActiveHolds.remembered {manifest : SemanticManifest} {version : ℤ}
    {previous : Option SemanticManifest}
    (h : ActiveHolds service workspaceId rows manifest version previous) :
    rememberedManifest? workspaceId rows = previous := by
  obtain ⟨row, hrow, hheld⟩ := h
  rw [rememberedManifest?, hrow, Option.bind_some, hheld.get?_previous]
  cases previous with
  | none => rfl
  | some replaced =>
    rw [Option.map_some, Option.bind_some,
      validatedManifest_readBack (hheld.previous_valid replaced rfl)]
    rfl

theorem activeHolds_of_row (h : KeyedRows (ManifestRow service) rows) {row : GovernancePolicy}
    (hrow : activeRowIn? workspaceId activePolicyType rows = some row) :
    ∃ manifest version previous,
      ManifestHeld service workspaceId row.definitionRef manifest version previous := by
  obtain ⟨hmem, rfl, htype, -⟩ := activeRowIn?_eq_some hrow
  exact h.all row hmem htype

/-- The state that follows the active one raises its version and remembers its manifest. -/
theorem held_next (hhex : ∀ text,
      Text.strip (service.codec.sha256Hex text) = service.codec.sha256Hex text)
    (h : KeyedRows (ManifestRow service) rows) {manifest : SemanticManifest} {version : ℤ}
    (hmanifest : ValidManifest workspaceId manifest)
    (hversion : coerceInt (get? (loadRow (activeRowIn? workspaceId activePolicyType rows)) "version")
      0 = .ok version) :
    ManifestHeld service workspaceId
      (storedDefinition (nextState service workspaceId manifest (version + 1)
        (loadRow (activeRowIn? workspaceId activePolicyType rows))))
      manifest (((effectiveManifestIn? service workspaceId rows).map
        EffectiveSemanticManifest.version).getD 0 + 1)
      ((effectiveManifestIn? service workspaceId rows).map EffectiveSemanticManifest.manifest) := by
  cases hrow : activeRowIn? workspaceId activePolicyType rows with
  | none =>
    rw [hrow] at hversion
    cases hversion
    rw [effectiveManifestIn?, hrow]
    exact ⟨⟨[], rfl, rfl, rfl⟩, hmanifest, fun _ hnone ↦ by cases hnone⟩
  | some row =>
    obtain ⟨current, count, previous, hheld⟩ := activeHolds_of_row h hrow
    have heffective := ActiveHolds.effective hhex ⟨row, hrow, hheld⟩
    have hloaded : loadRow (some row) = loadDefinition row.definitionRef := rfl
    rw [hrow, hloaded, hheld.get?_version] at hversion
    cases hversion
    rw [heffective, hloaded]
    refine ⟨⟨loadDefinition row.definitionRef, rfl, ?_, ?_⟩, hmanifest, ?_⟩
    · rw [hheld.get?_manifest, ← canon_obj]
      rfl
    · rw [hheld.get?_checksum]
      rfl
    · rintro _ hcurrent
      cases hcurrent
      exact hheld.valid

theorem activeHolds_of_written {manifest : SemanticManifest} {version : ℤ}
    {previous : Option SemanticManifest} {state : Fields}
    (hkeys : (rows.map GovernancePolicy.policyId).Nodup)
    (hwritten : PolicyWritten workspaceId activePolicyType state rows after
      (activeRowIn? workspaceId activePolicyType rows))
    (hheld : ManifestHeld service workspaceId (storedDefinition state) manifest version previous) :
    ActiveHolds service workspaceId after manifest version previous := by
  obtain ⟨row, hrow, hdefinition⟩ := activeRowIn?_written hkeys hwritten
  exact ⟨row, hrow, hdefinition ▸ hheld⟩

end Rows

/-- What a step does to the active rows: those of a workspace stay, or the next manifest is held. -/
structure ManifestKept (service : Service) (rows after : List GovernancePolicy) : Prop where
  keyed : KeyedRows (ManifestRow service) after
  active : ∀ workspaceId,
    activeRowIn? workspaceId activePolicyType after =
      activeRowIn? workspaceId activePolicyType rows ∨
    ∃ manifest, ActiveHolds service workspaceId after manifest
      (((effectiveManifestIn? service workspaceId rows).map
        EffectiveSemanticManifest.version).getD 0 + 1)
      ((effectiveManifestIn? service workspaceId rows).map EffectiveSemanticManifest.manifest)

section Steps

variable {service : Service} {db : Database} {rows after : List GovernancePolicy}

/-- A rewritten request leaves the active rows alone. -/
theorem ManifestKept.rewriteRequest (h : ManifestKept service rows after) {row : GovernancePolicy}
    (hmem : row ∈ after) (htype : row.policyType = changeRequestPolicyType) (definition : Fields)
    (status : String) :
    ManifestKept service rows
      (after.map (GovernancePolicy.rewritten row.policyId definition status)) := by
  have hne : row.policyType ≠ activePolicyType := htype.trans_ne changeRequestPolicyType_ne
  have hother : ∀ other ∈ after, other.policyId = row.policyId →
      other.policyType ≠ activePolicyType := fun other hmemOther hkey ↦ by
    rwa [h.keyed.eq_of_key hmem hmemOther hkey]
  refine ⟨h.keyed.rewrite fun other hmemOther hkey hactive ↦ ?_, fun workspaceId ↦ ?_⟩
  · rw [rewritten_policyType] at hactive
    exact absurd hactive (hother other hmemOther hkey)
  · have hactive : activeRowIn? workspaceId activePolicyType
        (after.map (GovernancePolicy.rewritten row.policyId definition status)) =
        activeRowIn? workspaceId activePolicyType after :=
      activeRowIn?_rewrite_of_ne fun other hmemOther hkey hsame ↦
        hother other hmemOther hkey hsame.2
    rw [hactive]
    refine (h.active workspaceId).imp_right fun ⟨manifest, row, hrow, hheld⟩ ↦ ?_
    exact ⟨manifest, row, hactive.trans hrow, hheld⟩

/-- A manifest that is made effective follows the one before. -/
theorem manifestKept_of_written (hhex : ∀ text,
      Text.strip (service.codec.sha256Hex text) = service.codec.sha256Hex text)
    (h : KeyedRows (ManifestRow service) rows) {workspaceId : String} {manifest : SemanticManifest}
    {version : ℤ} (hmanifest : ValidManifest workspaceId manifest)
    (hversion : coerceInt (get? (loadRow (activeRowIn? workspaceId activePolicyType rows)) "version")
      0 = .ok version)
    (hwritten : PolicyWritten workspaceId activePolicyType
      (nextState service workspaceId manifest (version + 1)
        (loadRow (activeRowIn? workspaceId activePolicyType rows)))
      rows after (activeRowIn? workspaceId activePolicyType rows)) :
    ManifestKept service rows after ∧
      ActiveHolds service workspaceId after manifest
        (((effectiveManifestIn? service workspaceId rows).map
          EffectiveSemanticManifest.version).getD 0 + 1)
        ((effectiveManifestIn? service workspaceId rows).map
          EffectiveSemanticManifest.manifest) := by
  have hheld := held_next hhex h hmanifest hversion
  have hactive := activeHolds_of_written h.keys_nodup hwritten hheld
  refine ⟨⟨h.written hwritten fun policyId _ ↦ ⟨_, _, _, hheld⟩, fun other ↦ ?_⟩, hactive⟩
  by_cases hsame : workspaceId = other
  · subst hsame
    exact Or.inr ⟨manifest, hactive⟩
  · exact Or.inl (activeRowIn?_written_of_ne h.keys_nodup (fun heq ↦ hsame heq.1) hwritten)

theorem policyWritten_of_activeStateWritten {workspaceId : String} {state : Fields}
    {activeRow : Option GovernancePolicy}
    (h : ActiveStateWritten workspaceId state rows after activeRow) :
    PolicyWritten workspaceId activePolicyType state rows after activeRow := by
  cases activeRow with
  | none => exact h
  | some row => exact h

theorem manifestKept_of_rollback (hhex : ∀ text,
      Text.strip (service.codec.sha256Hex text) = service.codec.sha256Hex text)
    (h : KeyedRows (ManifestRow service) db.policies) {workspaceId : String}
    {row : GovernancePolicy} {previousManifest : Fields} {manifest : SemanticManifest} {version : ℤ}
    (hrow : activeSemanticManifestRow? workspaceId db = some row)
    (hmanifest : validatedManifest previousManifest workspaceId = .ok manifest)
    (hversion : coerceInt (get? (loadDefinition row.definitionRef) "version") 0 = .ok version)
    (hrows : after = db.policies.map (GovernancePolicy.rewritten row.policyId
      (nextState service workspaceId manifest (version + 1) (loadDefinition row.definitionRef))
      row.status)) :
    ManifestKept service db.policies after ∧
      ActiveHolds service workspaceId after manifest
        (((effectiveManifestIn? service workspaceId db.policies).map
          EffectiveSemanticManifest.version).getD 0 + 1)
        ((effectiveManifestIn? service workspaceId db.policies).map
          EffectiveSemanticManifest.manifest) := by
  have hactive : activeRowIn? workspaceId activePolicyType db.policies = some row := hrow
  obtain ⟨-, -, -, hstatus⟩ := activeRowIn?_eq_some hactive
  have hloaded : loadRow (activeRowIn? workspaceId activePolicyType db.policies) =
      loadDefinition row.definitionRef := by
    rw [hactive]
    rfl
  refine manifestKept_of_written hhex h (validManifest_of_validated hmanifest)
    (hloaded ▸ hversion) ?_
  rw [hloaded, hactive, hrows, hstatus]
  rfl

/-- Every step keeps the active row of a workspace, or makes the next manifest effective. -/
theorem manifestKept_of_step (hhex : ∀ text,
      Text.strip (service.codec.sha256Hex text) = service.codec.sha256Hex text)
    {operation : ManifestOperation} (h : KeyedRows (ManifestRow service) db.policies)
    (hstep : ManifestStep service db after operation) :
    ManifestKept service db.policies after := by
  cases hstep with
  | unchanged rows_eq =>
    rw [rows_eq]
    exact ⟨h, fun _ ↦ Or.inl rfl⟩
  | requested manifest_eq current_eq differs inserted =>
    refine ⟨h.insert inserted fun htype ↦ absurd htype changeRequestPolicyType_ne,
      fun workspaceId ↦ Or.inl ?_⟩
    obtain ⟨rfl, -⟩ := insertRow_eq_ok inserted
    rw [activeRowIn?_append, if_neg, Option.or_none]
    exact fun hactive ↦ changeRequestPolicyType_ne hactive.2.1
  | decided row_eq decided =>
    obtain ⟨hmem, hkey, -, htype⟩ := changeRequestRow?_eq_some row_eq
    cases decided with
    | declined word_ne rows_eq =>
      have hsame : ManifestKept service db.policies db.policies := ⟨h, fun _ ↦ Or.inl rfl⟩
      rw [rows_eq]
      exact hsame.rewriteRequest hmem htype _ _
    | applied word_eq manifest_eq version_eq state_written rows_eq =>
      rw [requestedManifest] at manifest_eq
      split at manifest_eq
      · have hwritten := policyWritten_of_activeStateWritten state_written
        have hkept := (manifestKept_of_written hhex h (validManifest_of_validated manifest_eq)
          version_eq hwritten).1
        have hmem' := mem_written h.keys_nodup hmem
          (fun hactive ↦ changeRequestPolicyType_ne (htype.symm.trans hactive.2.1)) hwritten
        rw [rows_eq, ← hkey]
        exact hkept.rewriteRequest hmem' htype _ _
      · cases manifest_eq
  | rolledBack row_eq previous_eq manifest_eq version_eq rows_eq =>
    exact (manifestKept_of_rollback hhex h row_eq manifest_eq version_eq rows_eq).1

end Steps

section Runs

variable (service : Service) (workspaceId : String) (start : World)

/-- The effective states of a workspace along a run, in order. -/
def manifestHistory (operations : List ManifestOperation) : List EffectiveSemanticManifest :=
  history (performManifest service) (effectiveManifestState? service workspaceId) start operations

def RollsBack (world : World) : Prop :=
  (rollbackSemanticManifest service workspaceId world).1.isOk = true

/-- The effective state is read off a row whose manifest passes the validation, and its checksum is
the one that is stored. -/
structure SoundManifest (row : GovernancePolicy) (state : EffectiveSemanticManifest) : Prop where
  effective : effectiveSemanticManifest service workspaceId (some row) = .ok (some state)
  valid : ∃ fields, get? (loadDefinition row.definitionRef) "manifest" = some (.obj fields) ∧
    validateSemanticManifest fields (some workspaceId) = .ok state.manifest
  checksum : get? (loadDefinition row.definitionRef) "manifest_checksum" =
    some (.str state.manifestChecksum)
  computed : state.manifestChecksum = service.manifestChecksum state.manifest

/-- Every change raises the version by one, every effective manifest is valid and has the stored
checksum, and every rollback that succeeds makes the most recent other manifest effective. -/
structure ManifestRollbacksRestore (operations : List ManifestOperation) : Prop where
  versions : ∀ earlier operation, earlier ++ [operation] <+: operations →
    effectiveManifestState? service workspaceId
        (runManifest service (earlier ++ [operation]) start) ≠
      effectiveManifestState? service workspaceId (runManifest service earlier start) →
    ∃ state, effectiveManifestState? service workspaceId
        (runManifest service (earlier ++ [operation]) start) = some state ∧
      state.version = ((effectiveManifestState? service workspaceId
        (runManifest service earlier start)).map EffectiveSemanticManifest.version).getD 0 + 1
  sound : ∀ earlier, earlier <+: operations → ∀ row, activeSemanticManifestRow? workspaceId
    (runManifest service earlier start).db = some row →
    ∃ state, SoundManifest service workspaceId row state
  restores : ∀ earlier, earlier ++ [.rollback workspaceId] <+: operations →
    RollsBack service workspaceId (runManifest service earlier start) →
    ∃ state, effectiveManifestState? service workspaceId
        (runManifest service (earlier ++ [.rollback workspaceId]) start) = some state ∧
      (lastOther? EffectiveSemanticManifest.manifestChecksum
        (manifestHistory service workspaceId start earlier)).map EffectiveSemanticManifest.manifest =
          some state.manifest

variable {service start}

theorem runManifest_snoc (earlier : List ManifestOperation) (operation : ManifestOperation) :
    runManifest service (earlier ++ [operation]) start =
      performManifest service (runManifest service earlier start) operation :=
  run_snoc (performManifest service) start earlier operation

theorem manifestKept_run (hhex : ∀ text,
      Text.strip (service.codec.sha256Hex text) = service.codec.sha256Hex text)
    (hkeys : (start.db.policies.map GovernancePolicy.policyId).Nodup)
    (hstart : ∀ row ∈ start.db.policies, row.policyType ≠ activePolicyType)
    (operations : List ManifestOperation) :
    KeyedRows (ManifestRow service) (runManifest service operations start).db.policies := by
  refine prefix_induction
    (P := fun earlier ↦ KeyedRows (ManifestRow service) (runManifest service earlier start).db.policies)
    ?_ (fun earlier operation _ ih ↦ ?_) operations List.prefix_rfl
  · exact ⟨hkeys, fun row hrow htype ↦ absurd htype (hstart row hrow)⟩
  · rw [runManifest_snoc]
    exact (manifestKept_of_step hhex ih (manifestStep_perform service _ operation)).keyed

theorem activeRow?_start (hstart : ∀ row ∈ start.db.policies, row.policyType ≠ activePolicyType) :
    activeRowIn? workspaceId activePolicyType start.db.policies = none :=
  activeRowIn?_eq_none fun row hrow hactive ↦ hstart row hrow hactive.2.1

section Lifecycle

variable (hhex : ∀ text, Text.strip (service.codec.sha256Hex text) = service.codec.sha256Hex text)
  (hrows : ∀ operations,
    KeyedRows (ManifestRow service) (runManifest service operations start).db.policies)
  (hstart : ∀ row ∈ start.db.policies, row.policyType ≠ activePolicyType)

include hhex hrows

theorem soundManifest_run (operations : List ManifestOperation) {row : GovernancePolicy}
    (hrow : activeSemanticManifestRow? workspaceId (runManifest service operations start).db =
      some row) : ∃ state, SoundManifest service workspaceId row state := by
  obtain ⟨manifest, version, previous, hheld⟩ := activeHolds_of_row (hrows operations) hrow
  refine ⟨heldState service workspaceId manifest version previous, hheld.effectiveState hhex,
    ⟨_, hheld.get?_manifest, ?_⟩, hheld.get?_checksum, rfl⟩
  exact validateSemanticManifest_readBack hheld.valid.1 fun expected hexpected ↦
    hheld.valid.2.trans (Option.mem_some_iff.mp hexpected)

theorem checksum_of_effective (operations : List ManifestOperation)
    {state : EffectiveSemanticManifest}
    (hstate : effectiveManifestState? service workspaceId (runManifest service operations start) =
      some state) : state.manifestChecksum = service.manifestChecksum state.manifest := by
  rw [effectiveManifestState?_eq, effectiveManifestIn?] at hstate
  cases hrow : activeRowIn? workspaceId activePolicyType
      (runManifest service operations start).db.policies with
  | none =>
    rw [hrow] at hstate
    cases hstate
  | some row =>
    obtain ⟨sound, hsound⟩ := soundManifest_run workspaceId hhex hrows operations hrow
    rw [hrow, hsound.effective] at hstate
    obtain rfl : sound = state := Option.some.inj hstate
    exact hsound.computed

theorem effective_step (earlier : List ManifestOperation) (operation : ManifestOperation) :
    (effectiveManifestState? service workspaceId
          (runManifest service (earlier ++ [operation]) start) =
        effectiveManifestState? service workspaceId (runManifest service earlier start) ∧
      rememberedManifest? workspaceId
          (runManifest service (earlier ++ [operation]) start).db.policies =
        rememberedManifest? workspaceId (runManifest service earlier start).db.policies) ∨
    ∃ state, effectiveManifestState? service workspaceId
        (runManifest service (earlier ++ [operation]) start) = some state ∧
      state.version = ((effectiveManifestState? service workspaceId
        (runManifest service earlier start)).map EffectiveSemanticManifest.version).getD 0 + 1 ∧
      rememberedManifest? workspaceId
          (runManifest service (earlier ++ [operation]) start).db.policies =
        (effectiveManifestState? service workspaceId (runManifest service earlier start)).map
          EffectiveSemanticManifest.manifest := by
  have hkept := manifestKept_of_step hhex (hrows earlier)
    (manifestStep_perform service (runManifest service earlier start) operation)
  rw [runManifest_snoc, effectiveManifestState?_eq, effectiveManifestState?_eq]
  rcases hkept.active workspaceId with hsame | ⟨manifest, hactive⟩
  · refine Or.inl ⟨?_, ?_⟩
    · rw [effectiveManifestIn?, effectiveManifestIn?, hsame]
    · rw [rememberedManifest?, rememberedManifest?, hsame]
  · exact Or.inr ⟨_, hactive.effective hhex, rfl, hactive.remembered⟩

include hstart

theorem manifestHistory_linked (operations : List ManifestOperation) :
    (manifestHistory service workspaceId start operations).getLast? =
        effectiveManifestState? service workspaceId (runManifest service operations start) ∧
      ∀ entries state, manifestHistory service workspaceId start operations = entries ++ [state] →
        rememberedManifest? workspaceId (runManifest service operations start).db.policies =
          entries.getLast?.map EffectiveSemanticManifest.manifest := by
  have hnone : effectiveManifestState? service workspaceId start = none := by
    rw [effectiveManifestState?_eq, effectiveManifestIn?, activeRow?_start workspaceId hstart]
    rfl
  refine history_linked (fun world ↦ rememberedManifest? workspaceId world.db.policies)
    (fun before ↦ before.map EffectiveSemanticManifest.manifest) hnone fun earlier operation _ ↦ ?_
  rcases effective_step workspaceId hhex hrows earlier operation with
    hsame | ⟨state, hstate, hversion, hremembered⟩
  · exact Or.inl hsame
  · refine Or.inr ⟨state, hstate, fun hunchanged ↦ ?_, hremembered⟩
    change some state = effectiveManifestState? service workspaceId
      (runManifest service earlier start) at hunchanged
    rw [← hunchanged, Option.map_some, Option.getD_some] at hversion
    omega

/-- A rollback that succeeds makes the remembered manifest effective, and that is the most recent
other one exactly when its checksum is another. -/
theorem rollback_restores_manifest {earlier : List ManifestOperation}
    (hrollback : RollsBack service workspaceId (runManifest service earlier start)) :
    ∃ active state,
      effectiveManifestState? service workspaceId (runManifest service earlier start) =
        some active ∧
      effectiveManifestState? service workspaceId
        (runManifest service (earlier ++ [.rollback workspaceId]) start) = some state ∧
      ((lastOther? EffectiveSemanticManifest.manifestChecksum
        (manifestHistory service workspaceId start earlier)).map EffectiveSemanticManifest.manifest =
          some state.manifest ↔ active.previousManifestChecksum ≠ active.manifestChecksum) := by
  obtain ⟨result, hresult⟩ := exists_eq_ok_of_isOk hrollback
  obtain ⟨after, hrun⟩ : ∃ after, rollbackSemanticManifest service workspaceId
      (runManifest service earlier start) = (.ok result, after) := ⟨_, Prod.ext hresult rfl⟩
  have hafter : runManifest service (earlier ++ [.rollback workspaceId]) start = after := by
    rw [runManifest_snoc, performManifest, inSession, hrun]
  obtain ⟨row, previousManifest, manifest, version, hrow, hprevious, hmanifest, hversion, hwritten⟩ :=
    rollbackSemanticManifest_eq_ok hrun
  obtain ⟨current, count, replaced, hheld⟩ := activeHolds_of_row (hrows earlier) hrow
  have hactive : ActiveHolds service workspaceId (runManifest service earlier start).db.policies
      current count replaced := ⟨row, hrow, hheld⟩
  -- what the rollback validates is the manifest that the active row remembers
  have hrestored : replaced = some manifest := by
    rw [hheld.get?_previous] at hprevious
    obtain ⟨found, rfl, rfl⟩ := Option.map_eq_some_iff.mp hprevious
    rw [validatedManifest_readBack (hheld.previous_valid found rfl)] at hmanifest
    cases hmanifest
    rfl
  subst hrestored
  have heffective := hactive.effective hhex
  have hnext := (manifestKept_of_rollback hhex (hrows earlier) hrow hmanifest hversion hwritten).2
  rw [heffective] at hnext
  refine ⟨_, heldState service workspaceId manifest (count + 1) (some current), heffective, ?_, ?_⟩
  · rw [hafter]
    exact hnext.effective hhex
  obtain ⟨hlast, hlinked⟩ := manifestHistory_linked workspaceId hhex hrows hstart earlier
  rw [effectiveManifestState?_eq, heffective, List.getLast?_eq_some_iff] at hlast
  obtain ⟨entries, hentries⟩ := hlast
  have hbefore := hlinked entries _ hentries
  rw [hactive.remembered] at hbefore
  obtain ⟨previous, hlastEntry, rfl⟩ := Option.map_eq_some_iff.mp hbefore.symm
  obtain ⟨before, rfl⟩ := List.getLast?_eq_some_iff.mp hlastEntry
  have hchecksum : ∀ entry ∈ manifestHistory service workspaceId start earlier,
      entry.manifestChecksum = service.manifestChecksum entry.manifest := fun entry hentry ↦ by
    obtain ⟨prior, -, hprior⟩ := mem_history hentry
    exact checksum_of_effective workspaceId hhex hrows prior hprior
  rw [hentries, List.append_assoc] at hchecksum
  rw [hentries, List.append_assoc]
  refine (lastOther?_eq_some_iff_ne before previous _ fun entry hentry hsame ↦ ?_).trans ?_
  · rw [hchecksum entry hentry, hchecksum previous (by simp), hsame]
  · rw [hchecksum previous (by simp)]
    exact Iff.rfl

end Lifecycle

/-- In every run that starts without an active manifest the version grows by one with every change and
every effective manifest is valid with the stored checksum, and the rollbacks that succeed restore the
most recent other manifest exactly when each of them finds an effective state that remembers another
checksum than its own. -/
theorem manifestRollbacksRestore_iff
    (hhex : ∀ text, Text.strip (service.codec.sha256Hex text) = service.codec.sha256Hex text)
    (hkeys : (start.db.policies.map GovernancePolicy.policyId).Nodup)
    (hstart : ∀ row ∈ start.db.policies, row.policyType ≠ activePolicyType)
    (operations : List ManifestOperation) :
    ManifestRollbacksRestore service workspaceId start operations ↔
      ∀ earlier, earlier ++ [.rollback workspaceId] <+: operations →
        RollsBack service workspaceId (runManifest service earlier start) →
        ∀ active ∈ effectiveManifestState? service workspaceId (runManifest service earlier start),
          active.previousManifestChecksum ≠ active.manifestChecksum := by
  have hrows : ∀ earlier,
      KeyedRows (ManifestRow service) (runManifest service earlier start).db.policies :=
    manifestKept_run hhex hkeys hstart
  refine ⟨fun h earlier hprefix hrollback active hactive ↦ ?_, fun h ↦ ⟨fun earlier operation _
    hchanged ↦ ?_, fun earlier _ row hrow ↦ soundManifest_run workspaceId hhex hrows earlier hrow,
    fun earlier hprefix hrollback ↦ ?_⟩⟩
  · obtain ⟨restored, hrestored, hother⟩ := h.restores earlier hprefix hrollback
    obtain ⟨found, state, hfound, hstate, hiff⟩ :=
      rollback_restores_manifest workspaceId hhex hrows hstart hrollback
    obtain rfl : found = active := Option.some.inj (hfound.symm.trans hactive)
    obtain rfl : restored = state := Option.some.inj (hrestored.symm.trans hstate)
    exact hiff.mp hother
  · rcases effective_step workspaceId hhex hrows earlier operation with
      hsame | ⟨state, hstate, hversion, -⟩
    · exact absurd hsame.1 hchanged
    · exact ⟨state, hstate, hversion⟩
  · obtain ⟨active, state, hactive, hstate, hiff⟩ :=
      rollback_restores_manifest workspaceId hhex hrows hstart hrollback
    exact ⟨state, hstate, hiff.mpr (h earlier hprefix hrollback active hactive)⟩

end Runs

def approvedThenRolledBack : List ManifestOperation := changedBy "approve" ++ [.rollback "w1"]

theorem approvedThenRolledBack_restores :
    ManifestRollbacksRestore parityService "w1" freshWorld approvedThenRolledBack ↔
      ∀ earlier, earlier ++ [.rollback "w1"] <+: approvedThenRolledBack →
        RollsBack parityService "w1" (runManifest parityService earlier freshWorld) →
        ∀ active ∈ effectiveManifestState? parityService "w1"
          (runManifest parityService earlier freshWorld),
          active.previousManifestChecksum ≠ active.manifestChecksum := by
  have hkeys : (freshWorld.db.policies.map GovernancePolicy.policyId).Nodup := List.nodup_nil
  have hnone : ∀ row ∈ freshWorld.db.policies, row.policyType ≠ activePolicyType :=
    fun _ hrow ↦ (List.not_mem_nil hrow).elim
  exact manifestRollbacksRestore_iff "w1" strip_parityDigest hkeys hnone approvedThenRolledBack

/-- The rollback after a repeated approval restores the manifest it rolls back. -/
theorem repeated_manifest_not_restored :
    ¬∀ (service : Service) (workspaceId : String) (start : World)
      (operations : List ManifestOperation),
      (∀ text, Text.strip (service.codec.sha256Hex text) = service.codec.sha256Hex text) →
      (start.db.policies.map GovernancePolicy.policyId).Nodup →
      (∀ row ∈ start.db.policies, row.policyType ≠ activePolicyType) →
      ManifestRollbacksRestore service workspaceId start operations := by
  intro h
  let repeated : List ManifestOperation :=
    changedBy "approve" ++ [.decide "w1" "2" "steward" "approve" "checked"]
  have hrestores := h parityService "w1" freshWorld (repeated ++ [.rollback "w1"])
    strip_parityDigest List.nodup_nil fun _ hrow ↦ (List.not_mem_nil hrow).elim
  have hrollback : RollsBack parityService "w1" (runManifest parityService repeated freshWorld) := by
    rw [RollsBack]
    decide +kernel
  have hnone : lastOther? EffectiveSemanticManifest.manifestChecksum
      (manifestHistory parityService "w1" freshWorld repeated) = none := by decide +kernel
  obtain ⟨state, -, hother⟩ := hrestores.restores repeated List.prefix_rfl hrollback
  rw [hnone] at hother
  cases hother

end SchemaPilot.ControlPlane
