import SchemaPilot.ControlPlane.Frames
import SchemaPilot.ControlPlane.SemanticManifest

/-!
# What the manifest lifecycle does to the policy rows

One inversion lemma for each operation says what a successful run leaves in the table of policies:
a request adds a staged row, a decision rewrites it and an approval writes the active row before, a
rollback rewrites the active row. The review queue and the evidence store do not touch the table.
-/

namespace SchemaPilot.ControlPlane

open Library Library.Json Library.Effect SharedDomain

abbrev policyRows (world : World) : List GovernancePolicy := world.db.policies

theorem keeps_policies_save {f : Database → Except Exn Database}
    (hf : ∀ db after, f db = .ok after → after.policies = db.policies) :
    Keeps policyRows (save f) := by
  intro world
  cases hdb : f world.db with
  | error exception => simp [policyRows, save, onTables, within, hdb]
  | ok after => simp [policyRows, save, onTables, within, hdb, hf _ _ hdb]

theorem keeps_policies_newUlid (service : Service) : Keeps policyRows (newUlid service) :=
  (keeps_db_newUlid service).comp Database.policies

theorem keeps_policies_onFiles {α : Type} (p : Files α) : Keeps policyRows (onFiles p) :=
  (keeps_db_onFiles p).comp Database.policies

theorem keeps_policies_createProposal (service : Service)
    (workspaceId proposalType evidenceBundleUri : String) (confidence : Json) :
    Keeps policyRows
      (createProposal service workspaceId proposalType evidenceBundleUri confidence) := by
  refine (keeps_policies_newUlid service).bind fun _ ↦
    (keeps_policies_save fun db after h ↦ ?_).bind fun _ ↦ keeps_pure _
  obtain ⟨_, -, rfl⟩ := map_eq_ok h
  rfl

theorem keeps_policies_createReviewTask (service : Service)
    (workspaceId subjectRef priority : String) (blocking : Bool) :
    Keeps policyRows (createReviewTask service workspaceId subjectRef priority blocking) := by
  refine (keeps_policies_newUlid service).bind fun _ ↦
    (keeps_policies_save fun db after h ↦ ?_).bind fun _ ↦ keeps_pure _
  obtain ⟨_, -, rfl⟩ := map_eq_ok h
  rfl

theorem keeps_policies_decideReviewTask (service : Service)
    (workspaceId taskId actorId decision reason : String) :
    Keeps policyRows (decideReviewTask service workspaceId taskId actorId decision reason) := by
  refine (keeps_query _).bind fun found ↦ ?_
  cases found with
  | none => exact keeps_pure _
  | some task =>
    dsimp only
    split_ifs
    · exact keeps_pure _
    · refine Keeps.bind (fun _ ↦ rfl) fun _ ↦ (keeps_policies_newUlid service).bind fun _ ↦
        (keeps_policies_newUlid service).bind fun _ ↦
          (keeps_policies_save fun db after h ↦ ?_).bind fun _ ↦ keeps_pure _
      obtain ⟨_, -, rfl⟩ := map_eq_ok h
      rfl

theorem query_eq_ok {α : Type} {f : Database → α} {world after : World} {value : α}
    (h : query f world = (.ok value, after)) : value = f world.db ∧ after = world := by
  rw [query_apply] at h
  cases h
  exact ⟨rfl, rfl⟩

theorem ofExcept_eq_ok {α : Type} {result : Except Exn α} {world after : World} {value : α}
    (h : (ofExcept result : Handler α) world = (.ok value, after)) :
    result = .ok value ∧ after = world := by
  cases h
  exact ⟨rfl, rfl⟩

theorem savePolicy_eq_ok {row : GovernancePolicy} {world after : World} {done : Unit}
    (h : save (Database.addPolicy row) world = (.ok done, after)) :
    insertRow GovernancePolicy.policyId (policyRows world) row = .ok (policyRows after) := by
  obtain ⟨inserted, hinserted, hafter⟩ := map_eq_ok (save_eq_ok h).1
  rw [hinserted, policyRows, ← hafter]

theorem guard_eq_ok {condition : Prop} [Decidable condition] {exception : Exn}
    {world after : World} {done : Unit}
    (h : onlyIf condition (raise exception : Handler Unit) world = (.ok done, after)) :
    ¬condition ∧ after = world := by
  rcases onlyIf_eq_ok_iff.mp h with ⟨-, hraised⟩ | hpassed
  · cases hraised
  · exact hpassed

/-- The active row is read off the table of policies alone. -/
theorem activeSemanticManifestRow?_congr {db other : Database} (h : db.policies = other.policies)
    (workspaceId : String) :
    activeSemanticManifestRow? workspaceId db = activeSemanticManifestRow? workspaceId other := by
  rw [activeSemanticManifestRow?, activeSemanticManifestRow?, activePolicyRow?, activePolicyRow?, h]

theorem get?_loadDefinition (definition : Fields) (key : String) :
    get? (loadDefinition (storedDefinition definition)) key = (get? definition key).map canon := by
  rw [loadDefinition, storedDefinition, canon, Option.bind_some, asObj?, Option.getD_some,
    get?_sortFields, get?_canonFields]

def stagedRow (workspaceId changeRequestId : String) (definition : Fields) : GovernancePolicy where
  policyId := changeRequestId
  workspaceId := workspaceId
  policyType := changeRequestPolicyType
  definitionRef := storedDefinition definition
  status := "staged"

theorem requestSemanticManifestChange_eq_ok {service : Service} {now : ℤ}
    {workspaceId requesterActorId : String} {semanticManifest : Fields} {world after : World}
    {result : Fields}
    (h : requestSemanticManifestChange service now workspaceId requesterActorId semanticManifest
      world = (.ok result, after)) :
    ∃ manifest current changeRequestId proposalId reviewTaskId,
      validatedManifest semanticManifest workspaceId = .ok manifest ∧
      effectiveSemanticManifest service workspaceId
        (activeSemanticManifestRow? workspaceId world.db) = .ok current ∧
      (∀ effective ∈ current, effective.manifestChecksum ≠ service.manifestChecksum manifest) ∧
      result = changeRequestDefinition service workspaceId requesterActorId changeRequestId
        proposalId reviewTaskId manifest ∧
      insertRow GovernancePolicy.policyId (policyRows world)
        (stagedRow workspaceId changeRequestId result) = .ok (policyRows after) := by
  obtain ⟨_, found, hfound, hvalidate⟩ := bind_eq_ok_iff.mp h
  obtain ⟨workspaces, listed, hlisted, hguard⟩ := bind_eq_ok_iff.mp hfound
  obtain ⟨-, rfl⟩ := query_eq_ok hlisted
  obtain ⟨-, rfl⟩ := guard_eq_ok hguard
  obtain ⟨manifest, validated, hvalidated, hcurrent⟩ := bind_eq_ok_iff.mp hvalidate
  obtain ⟨hmanifest, rfl⟩ := ofExcept_eq_ok hvalidated
  obtain ⟨current, read, hread, hrefuse⟩ := bind_eq_ok_iff.mp hcurrent
  obtain ⟨activeRow, queried, hqueried, hstate⟩ := bind_eq_ok_iff.mp hread
  obtain ⟨rfl, rfl⟩ := query_eq_ok hqueried
  obtain ⟨heffective, rfl⟩ := ofExcept_eq_ok hstate
  obtain ⟨_, passed, hpassed, hstore⟩ := bind_eq_ok_iff.mp hrefuse
  obtain ⟨hdiffers, rfl⟩ := guard_eq_ok hpassed
  obtain ⟨stored, bundled, hbundled, hpropose⟩ := bind_eq_ok_iff.mp hstore
  obtain ⟨proposal, proposed, hproposed, htask⟩ := bind_eq_ok_iff.mp hpropose
  obtain ⟨reviewTask, queued, hqueued, hid⟩ := bind_eq_ok_iff.mp htask
  obtain ⟨changeRequestId, issued, hissued, hsave⟩ := bind_eq_ok_iff.mp hid
  obtain ⟨_, saved, hsaved, hdone⟩ := bind_eq_ok_iff.mp hsave
  cases hdone
  have hrows : policyRows issued = policyRows passed := by
    rw [(keeps_policies_newUlid service).of_run hissued,
      (keeps_policies_createReviewTask _ _ _ _ _).of_run hqueued,
      (keeps_policies_createProposal _ _ _ _ _).of_run hproposed,
      (keeps_policies_onFiles _).of_run hbundled]
  refine ⟨manifest, current, changeRequestId, proposal.proposalId, reviewTask.taskId, hmanifest,
    heffective, fun effective hmem heq ↦ hdiffers ⟨effective, hmem, heq⟩, rfl, ?_⟩
  rw [← hrows]
  exact savePolicy_eq_ok hsaved

def ActiveStateWritten (workspaceId : String) (state : Fields) (rows after : List GovernancePolicy) :
    Option GovernancePolicy → Prop
  | none => ∃ policyId, insertRow GovernancePolicy.policyId rows
      { policyId := policyId
        workspaceId := workspaceId
        policyType := activePolicyType
        definitionRef := storedDefinition state
        status := "active" } = .ok after
  | some row => after = rows.map (GovernancePolicy.rewritten row.policyId state "active")

theorem writeActiveState_eq_ok {service : Service} {workspaceId : String} {state : Fields}
    {activeRow : Option GovernancePolicy} {world after : World} {done : Unit}
    (h : writeActiveState service workspaceId state activeRow world = (.ok done, after)) :
    ActiveStateWritten workspaceId state (policyRows world) (policyRows after) activeRow := by
  cases activeRow with
  | none =>
    obtain ⟨policyId, issued, hissued, hsave⟩ := bind_eq_ok_iff.mp h
    have hinserted := savePolicy_eq_ok hsave
    rw [(keeps_policies_newUlid service).of_run hissued] at hinserted
    exact ⟨policyId, hinserted⟩
  | some row =>
    cases h
    rfl

/-- The rows after a decision on a staged row: the row takes the decision, and an approval writes
the active state first. -/
inductive Decided (service : Service) (workspaceId changeRequestId approverActorId reason : String)
    (db : Database) (stagedRow : GovernancePolicy) (word : String) (after : List GovernancePolicy) :
    Prop
  | declined
      (word_ne : word ≠ "approve")
      (rows_eq : after = db.policies.map (GovernancePolicy.rewritten stagedRow.policyId
        (decidedDefinition (loadDefinition stagedRow.definitionRef) (declinedStatus word)
          approverActorId reason) (declinedStatus word)))
  | applied {manifest : SemanticManifest} {version : ℤ} {written : List GovernancePolicy}
      (word_eq : word = "approve")
      (manifest_eq : requestedManifest workspaceId (loadDefinition stagedRow.definitionRef) =
        .ok manifest)
      (version_eq : coerceInt
        (get? (loadRow (activeSemanticManifestRow? workspaceId db)) "version") 0 = .ok version)
      (state_written : ActiveStateWritten workspaceId
        (nextState service workspaceId manifest (version + 1)
          (loadRow (activeSemanticManifestRow? workspaceId db)))
        db.policies written (activeSemanticManifestRow? workspaceId db))
      (rows_eq : after = written.map (GovernancePolicy.rewritten changeRequestId
        (decidedDefinition (loadDefinition stagedRow.definitionRef) "applied" approverActorId reason)
        "applied"))

theorem applySemanticManifestChange_eq_ok {service : Service}
    {workspaceId changeRequestId approverActorId reason : String} {staged result : Fields}
    {world after : World}
    (h : applySemanticManifestChange service workspaceId changeRequestId approverActorId reason
      staged world = (.ok result, after)) :
    ∃ manifest version written, requestedManifest workspaceId staged = .ok manifest ∧
      coerceInt (get? (loadRow (activeSemanticManifestRow? workspaceId world.db)) "version") 0 =
        .ok version ∧
      ActiveStateWritten workspaceId
        (nextState service workspaceId manifest (version + 1)
          (loadRow (activeSemanticManifestRow? workspaceId world.db)))
        (policyRows world) written (activeSemanticManifestRow? workspaceId world.db) ∧
      policyRows after = written.map (GovernancePolicy.rewritten changeRequestId
        (decidedDefinition staged "applied" approverActorId reason) "applied") := by
  obtain ⟨manifest, validated, hvalidated, hquery⟩ := bind_eq_ok_iff.mp h
  obtain ⟨hmanifest, rfl⟩ := ofExcept_eq_ok hvalidated
  obtain ⟨activeRow, queried, hqueried, hversion⟩ := bind_eq_ok_iff.mp hquery
  obtain ⟨rfl, rfl⟩ := query_eq_ok hqueried
  obtain ⟨version, counted, hcounted, hwrite⟩ := bind_eq_ok_iff.mp hversion
  obtain ⟨hcoerced, rfl⟩ := ofExcept_eq_ok hcounted
  obtain ⟨_, written, hwritten, hmark⟩ := bind_eq_ok_iff.mp hwrite
  cases hmark
  exact ⟨manifest, version, policyRows written, hmanifest, hcoerced,
    writeActiveState_eq_ok hwritten, rfl⟩

theorem changeRequestRow?_eq_some {workspaceId changeRequestId : String} {db : Database}
    {row : GovernancePolicy} (h : changeRequestRow? workspaceId changeRequestId db = some row) :
    row ∈ db.policies ∧ row.policyId = changeRequestId ∧ row.workspaceId = workspaceId ∧
      row.policyType = changeRequestPolicyType := by
  rw [changeRequestRow?, Option.filter_eq_some_iff, decide_eq_true_iff] at h
  obtain ⟨hfind, hworkspace, htype⟩ := h
  exact ⟨List.mem_of_find?_eq_some hfind, by simpa using List.find?_some hfind, hworkspace, htype⟩

/-- A decision answers nothing and leaves the rows alone, or it finds a staged row and decides it. -/
theorem decideSemanticManifestChange_eq_ok {service : Service}
    {workspaceId changeRequestId approverActorId decision reason : String} {world after : World}
    {result : Option Fields}
    (h : decideSemanticManifestChange service workspaceId changeRequestId approverActorId decision
      reason world = (.ok result, after)) :
    policyRows after = policyRows world ∨
    ∃ row, changeRequestRow? workspaceId changeRequestId world.db = some row ∧
      Decided service workspaceId changeRequestId approverActorId reason world.db row
        (normalizedDecision decision) (policyRows after) := by
  obtain ⟨found, queried, hqueried, hfound⟩ := bind_eq_ok_iff.mp h
  obtain ⟨hrow, rfl⟩ := query_eq_ok hqueried
  cases found with
  | none =>
    cases hfound
    exact Or.inl rfl
  | some row =>
    refine Or.inr ⟨row, hrow.symm, ?_⟩
    obtain ⟨_, reviewed, hreviewed, hdecided⟩ := bind_eq_ok_iff.mp hfound
    have hrows : policyRows reviewed = policyRows queried := by
      refine Keeps.of_run (Keeps.onlyIf ?_) hreviewed
      exact (keeps_policies_decideReviewTask _ _ _ _ _ _).bind fun _ ↦ keeps_pure _
    have hactive := activeSemanticManifestRow?_congr hrows workspaceId
    by_cases hword : normalizedDecision decision = "approve"
    · rw [if_neg (not_not.mpr hword)] at hdecided
      obtain ⟨applied, saved, hsaved, hdone⟩ := bind_eq_ok_iff.mp hdecided
      cases hdone
      obtain ⟨manifest, version, written, hmanifest, hversion, hwritten, hafter⟩ :=
        applySemanticManifestChange_eq_ok hsaved
      rw [hactive] at hversion hwritten
      rw [hrows] at hwritten
      exact .applied hword hmanifest hversion hwritten hafter
    · rw [if_pos hword] at hdecided
      cases hdecided
      exact .declined hword (congrArg (List.map _) hrows)

theorem rollbackSemanticManifest_eq_ok {service : Service} {workspaceId : String}
    {world after : World} {result : Fields}
    (h : rollbackSemanticManifest service workspaceId world = (.ok result, after)) :
    ∃ row previousManifest manifest version,
      activeSemanticManifestRow? workspaceId world.db = some row ∧
      (get? (loadDefinition row.definitionRef) "previous_manifest").bind asObj? =
        some previousManifest ∧
      validatedManifest previousManifest workspaceId = .ok manifest ∧
      coerceInt (get? (loadDefinition row.definitionRef) "version") 0 = .ok version ∧
      policyRows after = (policyRows world).map (GovernancePolicy.rewritten row.policyId
        (nextState service workspaceId manifest (version + 1) (loadDefinition row.definitionRef))
        row.status) := by
  obtain ⟨found, queried, hqueried, hfound⟩ := bind_eq_ok_iff.mp h
  obtain ⟨hrow, rfl⟩ := query_eq_ok hqueried
  cases found with
  | none => cases hfound
  | some row =>
    dsimp only at hfound
    cases hprevious : (get? (loadDefinition row.definitionRef) "previous_manifest").bind asObj? with
    | none =>
      rw [hprevious] at hfound
      cases hfound
    | some previousManifest =>
      rw [hprevious] at hfound
      obtain ⟨manifest, validated, hvalidated, hcount⟩ := bind_eq_ok_iff.mp hfound
      obtain ⟨hmanifest, rfl⟩ := ofExcept_eq_ok hvalidated
      obtain ⟨version, counted, hcounted, hwrite⟩ := bind_eq_ok_iff.mp hcount
      obtain ⟨hversion, rfl⟩ := ofExcept_eq_ok hcounted
      cases hwrite
      exact ⟨row, previousManifest, manifest, version, hrow.symm, hprevious, hmanifest, hversion,
        rfl⟩

inductive ManifestOperation where
  | request (now : ℤ) (workspaceId requesterActorId : String) (semanticManifest : Fields)
  | decide (workspaceId changeRequestId approverActorId decision reason : String)
  | rollback (workspaceId : String)

def performManifest (service : Service) (world : World) : ManifestOperation → World
  | .request now workspaceId requesterActorId semanticManifest =>
    (inSession (requestSemanticManifestChange service now workspaceId requesterActorId
      semanticManifest) world).2
  | .decide workspaceId changeRequestId approverActorId decision reason =>
    (inSession (decideSemanticManifestChange service workspaceId changeRequestId approverActorId
      decision reason) world).2
  | .rollback workspaceId => (inSession (rollbackSemanticManifest service workspaceId) world).2

def runManifest (service : Service) (operations : List ManifestOperation) (world : World) : World :=
  operations.foldl (performManifest service) world

/-- What an operation may leave in the table of policies. -/
inductive ManifestStep (service : Service) (db : Database) (after : List GovernancePolicy) :
    ManifestOperation → Prop
  | unchanged {operation : ManifestOperation} (rows_eq : after = db.policies) :
    ManifestStep service db after operation
  | requested {now : ℤ} {workspaceId requesterActorId changeRequestId proposalId reviewTaskId : String}
      {semanticManifest : Fields} {manifest : SemanticManifest}
      {current : Option EffectiveSemanticManifest}
      (manifest_eq : validatedManifest semanticManifest workspaceId = .ok manifest)
      (current_eq : effectiveSemanticManifest service workspaceId
        (activeSemanticManifestRow? workspaceId db) = .ok current)
      (differs : ∀ effective ∈ current,
        effective.manifestChecksum ≠ service.manifestChecksum manifest)
      (inserted : insertRow GovernancePolicy.policyId db.policies
        (stagedRow workspaceId changeRequestId (changeRequestDefinition service workspaceId
          requesterActorId changeRequestId proposalId reviewTaskId manifest)) = .ok after) :
    ManifestStep service db after (.request now workspaceId requesterActorId semanticManifest)
  | decided {workspaceId changeRequestId approverActorId decision reason : String}
      {row : GovernancePolicy}
      (row_eq : changeRequestRow? workspaceId changeRequestId db = some row)
      (decided : Decided service workspaceId changeRequestId approverActorId reason db row
        (normalizedDecision decision) after) :
    ManifestStep service db after
      (.decide workspaceId changeRequestId approverActorId decision reason)
  | rolledBack {workspaceId : String} {row : GovernancePolicy} {previousManifest : Fields}
      {manifest : SemanticManifest} {version : ℤ}
      (row_eq : activeSemanticManifestRow? workspaceId db = some row)
      (previous_eq : (get? (loadDefinition row.definitionRef) "previous_manifest").bind asObj? =
        some previousManifest)
      (manifest_eq : validatedManifest previousManifest workspaceId = .ok manifest)
      (version_eq : coerceInt (get? (loadDefinition row.definitionRef) "version") 0 = .ok version)
      (rows_eq : after = db.policies.map (GovernancePolicy.rewritten row.policyId
        (nextState service workspaceId manifest (version + 1) (loadDefinition row.definitionRef))
        row.status)) :
    ManifestStep service db after (.rollback workspaceId)

/-- A session leaves the tables as they were, or its handler succeeded. -/
theorem inSession_cases {α : Type} (handler : Handler α) (world : World) :
    (inSession handler world).2.db = world.db ∨
      ∃ value after, handler world = (.ok value, after) ∧ (inSession handler world).2 = after := by
  unfold inSession
  split
  · next value after hrun => exact Or.inr ⟨value, after, hrun, rfl⟩
  · exact Or.inl rfl

theorem manifestStep_perform (service : Service) (world : World) (operation : ManifestOperation) :
    ManifestStep service world.db (policyRows (performManifest service world operation))
      operation := by
  cases operation with
  | request now workspaceId requesterActorId semanticManifest =>
    rcases inSession_cases (requestSemanticManifestChange service now workspaceId requesterActorId
      semanticManifest) world with hsame | ⟨value, after, hrun, hafter⟩
    · exact .unchanged (congrArg Database.policies hsame)
    · obtain ⟨manifest, current, changeRequestId, proposalId, reviewTaskId, hmanifest, hcurrent,
        hdiffers, rfl, hinserted⟩ := requestSemanticManifestChange_eq_ok hrun
      rw [performManifest, hafter]
      exact .requested hmanifest hcurrent hdiffers hinserted
  | decide workspaceId changeRequestId approverActorId decision reason =>
    rcases inSession_cases (decideSemanticManifestChange service workspaceId changeRequestId
      approverActorId decision reason) world with hsame | ⟨value, after, hrun, hafter⟩
    · exact .unchanged (congrArg Database.policies hsame)
    · rw [performManifest, hafter]
      rcases decideSemanticManifestChange_eq_ok hrun with hrows | ⟨row, hrow, hdecided⟩
      · exact .unchanged hrows
      · exact .decided hrow hdecided
  | rollback workspaceId =>
    rcases inSession_cases (rollbackSemanticManifest service workspaceId) world with
      hsame | ⟨value, after, hrun, hafter⟩
    · exact .unchanged (congrArg Database.policies hsame)
    · obtain ⟨row, previousManifest, manifest, version, hrow, hprevious, hmanifest, hversion,
        hrows⟩ := rollbackSemanticManifest_eq_ok hrun
      rw [performManifest, hafter]
      exact .rolledBack hrow hprevious hmanifest hversion hrows

end SchemaPilot.ControlPlane
