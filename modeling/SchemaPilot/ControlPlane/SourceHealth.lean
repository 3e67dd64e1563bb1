import SchemaPilot.ControlPlane.SemanticManifest
import SchemaPilot.ControlPlane.Frames
import SchemaPilot.Library.EffectLogic
import SchemaPilot.Library.Versions

/-!
# Freshness of sources

`backend/control_plane/source_health.py`. A freshness policy names a dataset; an evaluation stores
evidence, makes a proposal and opens a review task for each dataset whose profile is too old. It looks
for an open task of the proposal it has just made, so it never finds one: a dataset that has a task
gets another (`_has_open_quality_task`). `tasks_once_of_fresh` says that the queue holds one unresolved
task per dataset in every run whose evaluations meet no violated dataset that has one.
-/

namespace SchemaPilot.ControlPlane.SourceHealth

open Library Library.Json Library.Effect Library.Versions SharedDomain

/-- `SOURCE_SLA_POLICY_TYPE`. -/
def sourceSlaPolicyType : String := "source_sla"

/-- The active freshness policies of a workspace. -/
def slaRows (workspaceId : String) (db : Database) : List GovernancePolicy :=
  db.policies.filter fun row ↦
    row.workspaceId = workspaceId ∧ row.policyType = sourceSlaPolicyType ∧ row.status = "active"

/-- The fields a configuration changes in an existing policy. -/
def updatedPayload (payload : Fields) (freshnessSeconds : ℤ) (enabled : Bool) (actorId : String) :
    Fields :=
  set (set (set payload "freshness_seconds" (.int freshnessSeconds)) "enabled" (.bool enabled))
    "updated_by" (.str actorId)

def slaPayload (policyId workspaceId datasetId : String) (freshnessSeconds : ℤ) (enabled : Bool)
    (actorId : String) : Fields :=
  [("sla_id", .str policyId), ("workspace_id", .str workspaceId), ("dataset_id", .str datasetId),
    ("freshness_seconds", .int freshnessSeconds), ("enabled", .bool enabled),
    ("created_by", .str actorId)]

/-- `configure_source_sla`. -/
def configureSourceSla (service : Service) (workspaceId datasetId : String) (freshnessSeconds : ℤ)
    (enabled : Bool) (actorId : String) : Handler Fields := do
  onlyIf (freshnessSeconds ≤ 0) (raise (.valueError "invalid_freshness_seconds"))
  let existing ← query fun db ↦ (slaRows workspaceId db).find? fun row ↦
    (getD (loadDefinition row.definitionRef) "dataset_id" (.str "")).toStr = datasetId
  match existing with
  | some row =>
    let payload := updatedPayload (loadDefinition row.definitionRef) freshnessSeconds enabled actorId
    onTables (change (Database.setPolicy row.policyId payload row.status))
    return payload
  | none =>
    let policyId ← newUlid service
    let payload := slaPayload policyId workspaceId datasetId freshnessSeconds enabled actorId
    save (Database.addPolicy
      { policyId := policyId
        workspaceId := workspaceId
        policyType := sourceSlaPolicyType
        definitionRef := storedDefinition payload
        status := "active" })
    return payload

/-- `list_source_slas`. -/
def listSourceSlas (workspaceId : String) (db : Database) : List Fields :=
  ((slaRows workspaceId db).insertionSort fun first second ↦ first.policyId ≤ second.policyId).map
    fun row ↦ loadDefinition row.definitionRef

/-- A dataset whose profile is too old. -/
structure Violation where
  datasetId : String
  freshnessSeconds : ℤ
  lastProfileEpoch : ℤ
  ageSeconds : ℤ

def Violation.toFields (violation : Violation) : Fields :=
  [("dataset_id", .str violation.datasetId), ("freshness_seconds", .int violation.freshnessSeconds),
    ("last_profile_epoch", .int violation.lastProfileEpoch),
    ("age_seconds", .int violation.ageSeconds)]

/-- `value if isinstance(value, dict) else {}`. -/
def dictOrEmpty (value : Json) : Fields := (asObj? value).getD []

/-- What the loop finds of one policy: its violation, if its dataset is catalogued and too old. -/
def slaViolation? (now : ℤ) (db : Database) (sla : Fields) : Except Exn (Option Violation) :=
  if (getD sla "enabled" (.bool false)).truthy then do
    let datasetId := strippedText sla "dataset_id" ""
    let freshnessSeconds ← coerceInt (get? sla "freshness_seconds") 0
    match db.datasets.find? fun dataset ↦ dataset.datasetId = datasetId with
    | none => return none
    | some dataset =>
      let profile := dictOrEmpty (getD (dictOrEmpty dataset.sensitivitySummary) "profile" (.obj []))
      let lastProfileEpoch ← coerceInt (get? profile "last_profile_epoch") 0
      let ageSeconds := max (now - lastProfileEpoch) 0
      if lastProfileEpoch = 0 ∨ freshnessSeconds < ageSeconds then
        return some ⟨datasetId, freshnessSeconds, lastProfileEpoch, ageSeconds⟩
      else return none
  else .ok none

/-- What an evaluation has found and made; of each proposal it is kept which dataset it is about. -/
structure EvaluationProgress where
  violations : List Violation
  createdTaskIds : List String
  proposals : List (String × String)

def IsUnresolved (task : ReviewTask) : Prop := task.status = "open" ∨ task.status = "in_review"

instance (task : ReviewTask) : Decidable (IsUnresolved task) := inferInstanceAs (Decidable (_ ∨ _))

/-- `_has_open_quality_task`. -/
def hasOpenQualityTask (workspaceId proposalId : String) (db : Database) : Bool :=
  db.tasks.any fun task ↦ task.workspaceId = workspaceId ∧ task.subjectRef = proposalId ∧
    task.priority = "quality_critical" ∧ IsUnresolved task

def reportViolation (service : Service) (workspaceId : String) (clock : ℤ)
    (progress : EvaluationProgress) (violation : Violation) : Handler EvaluationProgress := do
  let stored ← onFiles (storeEvidenceBundle service.codec workspaceId violation.toFields
    service.storagePath "source_sla_violation" none clock)
  let proposal ← createProposal service workspaceId "source_freshness_violation"
    stored.evidenceBundleUri floatOne
  let found := progress.violations ++ [violation]
  let proposals := progress.proposals ++ [(proposal.proposalId, violation.datasetId)]
  if ← query (hasOpenQualityTask workspaceId proposal.proposalId) then
    return ⟨found, progress.createdTaskIds, proposals⟩
  else
    let task ← createReviewTask service workspaceId proposal.proposalId "quality_critical" true
    return ⟨found, progress.createdTaskIds ++ [task.taskId], proposals⟩

def evaluateSla (service : Service) (workspaceId : String) (now clock : ℤ)
    (progress : EvaluationProgress) (sla : Fields) : Handler EvaluationProgress := do
  match ← ofExcept (slaViolation? now (← query id) sla) with
  | none => return progress
  | some violation => reportViolation service workspaceId clock progress violation

/-- The loop of `evaluate_source_slas`. -/
def evaluateSlas (service : Service) (workspaceId : String) (now clock : ℤ) :
    Handler EvaluationProgress := do
  (← query (listSourceSlas workspaceId)).foldlM (evaluateSla service workspaceId now clock)
    ⟨[], [], []⟩

/-- `evaluate_source_slas`. -/
def evaluateSourceSlas (service : Service) (workspaceId : String) (now clock : ℤ) :
    Handler Fields := do
  let progress ← evaluateSlas service workspaceId now clock
  let slas ← query (listSourceSlas workspaceId)
  return [("workspace_id", .str workspaceId), ("evaluated_slas", .int slas.length),
    ("violation_count", .int progress.violations.length),
    ("violations", .arr (progress.violations.map fun violation ↦ .obj violation.toFields)),
    ("created_task_ids", textList progress.createdTaskIds)]

/-- A call, a decision in the review queue, or a change of the catalog by others. -/
inductive SlaAction where
  | configure (workspaceId datasetId : String) (freshnessSeconds : ℤ) (enabled : Bool)
      (actorId : String)
  | evaluate (workspaceId : String) (now clock : ℤ)
  | decide (workspaceId taskId actorId decision reason : String)
  | catalogue (datasets : List CatalogDataset)

/-- The world, and the freshness proposals with the datasets they are about. -/
structure SlaHistory where
  world : World
  proposals : List (String × String)

def slaStep (service : Service) (history : SlaHistory) : SlaAction → SlaHistory
  | .configure workspaceId datasetId freshnessSeconds enabled actorId =>
    { history with world := (inSession
        (configureSourceSla service workspaceId datasetId freshnessSeconds enabled actorId)
        history.world).2 }
  | .evaluate workspaceId now clock =>
    match inSession (evaluateSlas service workspaceId now clock) history.world with
    | (.ok progress, after) => ⟨after, history.proposals ++ progress.proposals⟩
    | (.error _, after) => { history with world := after }
  | .decide workspaceId taskId actorId decision reason =>
    { history with world := (inSession
        (decideReviewTask service workspaceId taskId actorId decision reason) history.world).2 }
  | .catalogue datasets =>
    { history with world := { history.world with
        db := { history.world.db with datasets := datasets } } }

def runSlas (service : Service) (start : World) (actions : List SlaAction) : SlaHistory :=
  Versions.run (slaStep service) ⟨start, []⟩ actions

def SlaHistory.tasksOf (history : SlaHistory) (datasetId : String) : List ReviewTask :=
  history.world.db.tasks.filter fun task ↦
    IsUnresolved task ∧ (task.subjectRef, datasetId) ∈ history.proposals

/-- The datasets that an evaluation finds too old, one entry for each policy. -/
def violatedDatasets (workspaceId : String) (now : ℤ) (db : Database) : List String :=
  (listSourceSlas workspaceId db).filterMap fun sla ↦
    match slaViolation? now db sla with
    | .ok (some violation) => some violation.datasetId
    | _ => none

section Evaluation

variable {service : Service} {workspaceId : String} {now clock : ℤ} {world : World}

/-- Saving inserts a row or raises. -/
theorem ends_save {f : Database → Except Exn Database} {Q : Unit → World → Prop}
    (h : ∀ db, f world.db = .ok db → Q () { world with db := db }) :
    Ends (save f) world Q fun _ _ ↦ True := by
  refine ⟨fun {_ after} hrun ↦ ?_, fun _ ↦ trivial⟩
  have hissued : after.issued = world.issued := by
    have hkeeps : Keeps World.issued (save f) := fun _ ↦ rfl
    exact hkeeps.of_run hrun
  obtain ⟨hdb, hfiles⟩ := save_eq_ok hrun
  have hafter : after = { world with db := after.db } := by
    cases after
    cases world
    simp_all
  rw [hafter]
  exact h _ hdb

theorem ends_newUlid {Q : String → World → Prop} {E : Exn → World → Prop}
    (h : ∀ id, Q id { world with issued := world.issued + 1 }) : Ends (newUlid service) world Q E := by
  constructor
  · intro id after hrun
    cases hrun
    exact h _
  · intro exception after hrun
    cases hrun

/-- A proposal is inserted under a key of its own. -/
theorem ends_createProposal (service : Service) (workspaceId proposalType uri : String)
    (confidence : Json) : Ends (createProposal service workspaceId proposalType uri confidence) world
      (fun proposal after ↦
        after.db = { world.db with proposals := world.db.proposals ++ [proposal] } ∧
        proposal.proposalType = proposalType ∧
        proposal.proposalId ∉ world.db.proposals.map ReviewProposal.proposalId)
      fun _ _ ↦ True := by
  unfold createProposal
  refine Ends.bind (ends_newUlid (Q := fun _ after ↦ after.db = world.db) fun _ ↦ rfl) ?_
  intro proposalId middle hdb
  refine Ends.bind (ends_save fun db hinsert ↦ ?_) fun _ after hafter ↦ ends_pure hafter
  obtain ⟨rows, hrows, rfl⟩ := map_eq_ok hinsert
  obtain ⟨rfl, hnew⟩ := insertRow_eq_ok hrows
  rw [hdb] at hnew
  refine ⟨by rw [hdb], rfl, fun hmem ↦ ?_⟩
  obtain ⟨other, hother, hsame⟩ := List.mem_map.mp hmem
  exact hnew other hother hsame

/-- A task is inserted, open. -/
theorem ends_createReviewTask (service : Service) (workspaceId subjectRef priority : String)
    (blocking : Bool) : Ends (createReviewTask service workspaceId subjectRef priority blocking) world
      (fun task after ↦ after.db = { world.db with tasks := world.db.tasks ++ [task] } ∧
        task.subjectRef = subjectRef ∧ task.status = "open")
      fun _ _ ↦ True := by
  unfold createReviewTask
  refine Ends.bind (ends_newUlid (Q := fun _ after ↦ after.db = world.db) fun _ ↦ rfl) ?_
  intro taskId middle hdb
  refine Ends.bind (ends_save fun db hinsert ↦ ?_) fun _ after hafter ↦ ends_pure hafter
  obtain ⟨rows, hrows, rfl⟩ := map_eq_ok hinsert
  obtain ⟨rfl, -⟩ := insertRow_eq_ok hrows
  exact ⟨by rw [hdb], rfl, rfl⟩

/-- Every task is about a proposal that exists. -/
def References (db : Database) : Prop :=
  ∀ task ∈ db.tasks, task.subjectRef ∈ db.proposals.map ReviewProposal.proposalId

/-- What a violation adds: a proposal under a new key and an open task of it. -/
structure Reported (before : World) (progress : EvaluationProgress) (violation : Violation)
    (next : EvaluationProgress) (after : World) : Prop where
  row : ∃ proposal task, after.db = { before.db with
      proposals := before.db.proposals ++ [proposal]
      tasks := before.db.tasks ++ [task] } ∧
    proposal.proposalId ∉ before.db.proposals.map ReviewProposal.proposalId ∧
    task.subjectRef = proposal.proposalId ∧ task.status = "open" ∧
    next.proposals = progress.proposals ++ [(proposal.proposalId, violation.datasetId)]

/-- The proposal is new, so no task of it is found and one is made. -/
theorem ends_reportViolation (service : Service) (workspaceId : String) (clock : ℤ)
    (progress : EvaluationProgress) (violation : Violation) (href : References world.db) :
    Ends (reportViolation service workspaceId clock progress violation) world
      (fun next after ↦ Reported world progress violation next after) fun _ _ ↦ True := by
  unfold reportViolation
  have hstore : Ends (onFiles (storeEvidenceBundle service.codec workspaceId violation.toFields
      service.storagePath "source_sla_violation" none clock)) world
      (fun _ after ↦ after.db = world.db) (fun _ _ ↦ True) :=
    ((keeps_db_onFiles _).ends world).mono (fun _ _ hdb ↦ hdb) fun _ _ _ ↦ trivial
  refine hstore.bind fun stored kept hkept ↦ ?_
  refine (ends_createProposal service workspaceId _ _ _).bind ?_
  rintro proposal middle ⟨hmiddle, -, hnew⟩
  rw [hkept] at hmiddle hnew
  have hnone : hasOpenQualityTask workspaceId proposal.proposalId middle.db = false := by
    rw [hasOpenQualityTask, List.any_eq_false]
    intro task htask hfound
    rw [hmiddle] at htask
    exact hnew ((of_decide_eq_true hfound).2.1 ▸ href task htask)
  refine Ends.bind (Q := fun found after ↦ found = false ∧ after = middle)
    ⟨fun hrun ↦ by cases hrun; exact ⟨hnone, rfl⟩, fun _ ↦ trivial⟩ ?_
  rintro _ _ ⟨rfl, rfl⟩
  rw [if_neg Bool.false_ne_true]
  refine (ends_createReviewTask service workspaceId _ _ _).bind ?_
  rintro task after ⟨hafter, hsubject, hopen⟩
  refine ends_pure ⟨⟨proposal, task, ?_, hnew, hsubject, hopen, rfl⟩⟩
  rw [hafter, hmiddle]

/-- The datasets of the violations among some policies. -/
def violatedIn (now : ℤ) (db : Database) (slas : List Fields) : List String :=
  slas.filterMap fun sla ↦
    match slaViolation? now db sla with
    | .ok (some violation) => some violation.datasetId
    | _ => none

/-- What the loop has done when it has taken up some policies. -/
structure Evaluated (now : ℤ) (before : World) (slas : List Fields) (progress : EvaluationProgress)
    (after : World) : Prop where
  row : ∃ proposals tasks, after.db = { before.db with
      proposals := before.db.proposals ++ proposals
      tasks := before.db.tasks ++ tasks } ∧
    proposals.map ReviewProposal.proposalId = progress.proposals.map Prod.fst ∧
    tasks.map ReviewTask.subjectRef = progress.proposals.map Prod.fst ∧
    ∀ task ∈ tasks, task.status = "open"
  references : References after.db
  new : ∀ pair ∈ progress.proposals, pair.1 ∉ before.db.proposals.map ReviewProposal.proposalId
  nodup : (progress.proposals.map Prod.fst).Nodup
  datasets : progress.proposals.map Prod.snd = violatedIn now before.db slas

theorem slaViolation?_congr {db after : Database} (h : after.datasets = db.datasets) (now : ℤ)
    (sla : Fields) : slaViolation? now after sla = slaViolation? now db sla := by
  unfold slaViolation?
  rw [h]

theorem Evaluated.report {slas : List Fields} {sla : Fields} {progress next : EvaluationProgress}
    {before middle after : World} {violation : Violation} (h : Evaluated now before slas progress middle)
    (hreport : Reported middle progress violation next after)
    (hviolation : slaViolation? now before.db sla = .ok (some violation)) :
    Evaluated now before (slas ++ [sla]) next after := by
  obtain ⟨proposals, tasks, hdb, hproposals, htasks, hopen⟩ := h.row
  obtain ⟨proposal, task, hafter, hnew, hsubject, hstatus, hnext⟩ := hreport.row
  rw [hdb, List.map_append, List.mem_append, not_or, hproposals] at hnew
  refine ⟨⟨proposals ++ [proposal], tasks ++ [task], ?_, ?_, ?_, ?_⟩, ?_, ?_, ?_, ?_⟩
  · rw [hafter, hdb, List.append_assoc, List.append_assoc]
  · rw [List.map_append, hproposals, hnext, List.map_append]
    rfl
  · rw [List.map_append, htasks, hnext, List.map_append, List.map_singleton, hsubject]
    rfl
  · intro other hother
    rcases List.mem_append.mp hother with hold | hlast
    · exact hopen other hold
    · rw [List.mem_singleton.mp hlast, hstatus]
  · intro other hother
    rw [hafter] at hother ⊢
    rw [List.map_append]
    rcases List.mem_append.mp hother with hold | hlast
    · exact List.mem_append_left _ (h.references other hold)
    · rw [List.mem_singleton.mp hlast, hsubject]
      exact List.mem_append_right _ (List.mem_singleton_self _)
  · intro pair hpair
    rw [hnext] at hpair
    rcases List.mem_append.mp hpair with hold | hlast
    · exact h.new pair hold
    · rw [List.mem_singleton.mp hlast]
      exact hnew.1
  · rw [hnext, List.map_append, List.map_singleton, List.nodup_append]
    refine ⟨h.nodup, List.nodup_singleton _, fun id hid last hlast ↦ ?_⟩
    rw [List.mem_singleton.mp hlast]
    intro hsame
    rw [hsame] at hid
    exact hnew.2 hid
  · rw [hnext, List.map_append, h.datasets, violatedIn, violatedIn, List.filterMap_append,
      List.filterMap_cons, hviolation]
    rfl

/-- The loop reports each violation. -/
theorem ends_evaluateSlas (service : Service) (workspaceId : String) (now clock : ℤ)
    (href : References world.db) :
    Ends (evaluateSlas service workspaceId now clock) world
      (fun progress after ↦
        Evaluated now world (listSourceSlas workspaceId world.db) progress after)
      fun _ _ ↦ True := by
  unfold evaluateSlas
  refine ends_read_bind ?_
  refine ends_foldlM (I := Evaluated now world) ?_ ?_
  · refine ⟨⟨[], [], ?_, rfl, rfl, fun _ htask ↦ absurd htask List.not_mem_nil⟩, href,
      fun _ hpair ↦ absurd hpair List.not_mem_nil, List.nodup_nil, rfl⟩
    rw [List.append_nil, List.append_nil]
  · rintro done sla - progress middle hdone
    unfold evaluateSla
    refine ends_read_bind ?_
    have hdatasets : middle.db.datasets = world.db.datasets := by
      obtain ⟨_, _, hdb, -⟩ := hdone.row
      rw [hdb]
    have hsame : slaViolation? now (id middle.db) sla = slaViolation? now world.db sla :=
      slaViolation?_congr hdatasets now sla
    rw [hsame]
    refine Ends.bind (Q := fun found after ↦
      slaViolation? now world.db sla = .ok found ∧ after = middle)
      (ends_ofExcept (fun _ hfound ↦ ⟨hfound, rfl⟩) fun _ _ ↦ trivial) ?_
    rintro found _ ⟨hfound, rfl⟩
    cases found with
    | none =>
      refine ends_pure ⟨hdone.row, hdone.references, hdone.new, hdone.nodup, ?_⟩
      rw [hdone.datasets, violatedIn, violatedIn, List.filterMap_append, List.filterMap_cons, hfound]
      exact (List.append_nil _).symm
    | some violation =>
      exact (ends_reportViolation service workspaceId clock progress violation
        hdone.references).mono (fun _ _ hreport ↦ hdone.report hreport hfound) fun _ _ _ ↦ trivial

/-- The answer is read off what the loop has done, which is all that is stored. -/
theorem world_evaluateSourceSlas (service : Service) (workspaceId : String) (now clock : ℤ)
    (world : World) : (inSession (evaluateSourceSlas service workspaceId now clock) world).2 =
      (inSession (evaluateSlas service workspaceId now clock) world).2 := by
  rcases hrun : evaluateSlas service workspaceId now clock world with ⟨exception | progress, after⟩
  · have hraise : ∃ raised, evaluateSourceSlas service workspaceId now clock world =
        (.error raised, after) := ⟨exception, by
      rw [evaluateSourceSlas, bind_apply, hrun]⟩
    obtain ⟨raised, hraise⟩ := hraise
    simp [inSession, hrun, hraise]
  · have hreturn : ∃ answer, evaluateSourceSlas service workspaceId now clock world =
        (.ok answer, after) := ⟨_, by
      rw [evaluateSourceSlas, bind_apply, hrun]
      rfl⟩
    obtain ⟨answer, hreturn⟩ := hreturn
    simp [inSession, hrun, hreturn]

end Evaluation

/-- The tables go on without a proposal or a task more, and no task is reopened. -/
def Settles (before after : Database) : Prop :=
  after.proposals = before.proposals ∧ ∃ f : ReviewTask → ReviewTask,
    (∀ task, (f task).subjectRef = task.subjectRef ∧ (IsUnresolved (f task) → IsUnresolved task)) ∧
      after.tasks = before.tasks.map f

def Settling (before after : World) : Prop := Settles before.db after.db

theorem Settles.of_eq {before after : Database} (hproposals : after.proposals = before.proposals)
    (htasks : after.tasks = before.tasks) : Settles before after :=
  ⟨hproposals, id, fun _ ↦ ⟨rfl, id⟩, by rw [htasks, List.map_id]⟩

instance : IsPreorder World Settling where
  refl _ := Settles.of_eq rfl rfl
  trans := by
    rintro first second third ⟨hproposals, f, hf, htasks⟩ ⟨hproposals', g, hg, htasks'⟩
    refine ⟨hproposals'.trans hproposals, g ∘ f, fun task ↦ ⟨?_, fun hopen ↦ ?_⟩, ?_⟩
    · exact (hg (f task)).1.trans (hf task).1
    · exact (hf task).2 ((hg (f task)).2 hopen)
    · rw [htasks', htasks, List.map_map]

theorem settling_of_db {before after : World} (h : after.db = before.db) : Settling before after :=
  Settles.of_eq (by rw [h]) (by rw [h])

theorem advances_save {f : Database → Except Exn Database}
    (h : ∀ db after, f db = .ok after → Settles db after) : Advances Settling (save f) := by
  intro world
  rcases hrun : save f world with ⟨exception | done, after⟩
  · cases hdb : f world.db with
    | error _ =>
      have hsame : (save f world).2.db = world.db := by simp [save, onTables, within, hdb]
      rw [hrun] at hsame
      exact settling_of_db hsame
    | ok db =>
      have hok : (save f world).1 = .ok () := by simp [save, onTables, within, hdb]
      rw [hrun] at hok
      cases hok
  · exact h _ _ (save_eq_ok hrun).1

theorem advances_onTables_change {f : Database → Database} (h : ∀ db, Settles db (f db)) :
    Advances Settling (onTables (change f)) := fun world ↦ h world.db

theorem advances_configureSourceSla (service : Service) (workspaceId datasetId : String)
    (freshnessSeconds : ℤ) (enabled : Bool) (actorId : String) : Advances Settling
      (configureSourceSla service workspaceId datasetId freshnessSeconds enabled actorId) := by
  unfold configureSourceSla
  refine (advances_raise _).onlyIf.bind fun _ ↦ ?_
  refine Advances.bind (fun _ ↦ refl_of Settling _) fun existing ↦ ?_
  cases existing with
  | some row =>
    dsimp only
    refine Advances.bind ?_ fun _ ↦ advances_pure _
    exact advances_onTables_change fun _ ↦ Settles.of_eq rfl rfl
  | none =>
    refine Advances.bind (fun _ ↦ settling_of_db rfl) fun policyId ↦ ?_
    refine Advances.bind (advances_save fun db after hinsert ↦ ?_) fun _ ↦ advances_pure _
    obtain ⟨rows, -, rfl⟩ := map_eq_ok hinsert
    exact Settles.of_eq rfl rfl

theorem not_isUnresolved_decidedStatus (task : ReviewTask) (decision : String) :
    ¬IsUnresolved { task with status := decidedStatus decision } := by
  have hstatus : decidedStatus decision ∈ ["approved", "rejected", "deferred"] := by
    simp only [decidedStatus, List.lookup_cons, List.lookup_nil]
    repeat' split
    all_goals simp
  rintro (h | h)
  all_goals
    change decidedStatus decision = _ at h
    rw [h] at hstatus
    simp at hstatus

theorem settles_setTaskStatus (taskId decision : String) (db : Database) :
    Settles db (db.setTaskStatus taskId (decidedStatus decision)) := by
  refine ⟨rfl, _, fun task ↦ ?_, rfl⟩
  by_cases hid : task.taskId = taskId
  · rw [if_pos hid]
    exact ⟨rfl, fun hopen ↦ absurd hopen (not_isUnresolved_decidedStatus task decision)⟩
  · rw [if_neg hid]
    exact ⟨rfl, id⟩

/-- A decision of any word closes its task. -/
theorem advances_decideReviewTask (service : Service)
    (workspaceId taskId actorId decision reason : String) : Advances Settling
      (decideReviewTask service workspaceId taskId actorId decision reason) := by
  unfold decideReviewTask
  refine Advances.bind (fun _ ↦ refl_of Settling _) fun found ↦ ?_
  cases found with
  | none => exact advances_pure _
  | some task =>
    dsimp only
    split_ifs
    · exact advances_pure _
    · refine (advances_onTables_change (settles_setTaskStatus taskId decision)).bind fun _ ↦ ?_
      refine Advances.bind (fun _ ↦ settling_of_db rfl) fun approvalId ↦ ?_
      refine Advances.bind (fun _ ↦ settling_of_db rfl) fun auditEventId ↦ ?_
      refine Advances.bind (advances_save fun db after hinsert ↦ ?_) fun _ ↦ advances_pure _
      obtain ⟨rows, -, rfl⟩ := map_eq_ok hinsert
      exact Settles.of_eq rfl rfl

theorem advances_inSession {α : Type} {handler : Handler α} (h : Advances Settling handler) :
    Advances Settling (inSession handler) := by
  intro world
  rcases hrun : handler world with ⟨exception | value, after⟩
  · refine settling_of_db ?_
    simp [inSession, hrun]
  · have hstep := h world
    rw [hrun] at hstep
    simpa [inSession, hrun] using hstep

/-- The tasks are about proposals that exist, and so are the recorded ones. -/
structure Queue (history : SlaHistory) : Prop where
  references : References history.world.db
  known : ∀ pair ∈ history.proposals,
    pair.1 ∈ history.world.db.proposals.map ReviewProposal.proposalId

/-- A step that settles keeps the queue and adds no task of any dataset. -/
theorem Queue.settle {history : SlaHistory} {after : World} (h : Queue history)
    (hsettles : Settling history.world after) : Queue { history with world := after } ∧
      ∀ datasetId, ({ history with world := after }.tasksOf datasetId).length ≤
        (history.tasksOf datasetId).length := by
  obtain ⟨hproposals, f, hf, htasks⟩ := hsettles
  refine ⟨⟨?_, ?_⟩, fun datasetId ↦ ?_⟩
  · intro task htask
    rw [htasks] at htask
    obtain ⟨old, hold, rfl⟩ := List.mem_map.mp htask
    rw [hproposals, (hf old).1]
    exact h.references old hold
  · rw [hproposals]
    exact h.known
  · simp only [SlaHistory.tasksOf, htasks, ← List.countP_eq_length_filter, List.countP_map]
    refine List.countP_mono_left fun task _ hcounted ↦ ?_
    obtain ⟨hopen, hof⟩ := of_decide_eq_true hcounted
    rw [(hf task).1] at hof
    exact decide_eq_true ⟨(hf task).2 hopen, hof⟩

theorem length_filter_paired {ρ : Type} {key : ρ → String} (value : String) :
    ∀ {rows : List ρ} {pairs : List (String × String)}, rows.map key = pairs.map Prod.fst →
      (pairs.map Prod.fst).Nodup →
      (rows.filter fun row ↦ (key row, value) ∈ pairs).length = (pairs.map Prod.snd).count value := by
  intro rows pairs
  induction pairs generalizing rows with
  | nil =>
    intro hkeys _
    rw [List.map_nil, List.map_eq_nil_iff] at hkeys
    rw [hkeys]
    rfl
  | cons pair pairs ih =>
    intro hkeys hnodup
    obtain ⟨row, rest, rfl, hrow, hrest⟩ := List.map_eq_cons_iff.mp hkeys
    obtain ⟨hnew, hnodup⟩ := List.nodup_cons.mp hnodup
    have hothers : (rest.filter fun other ↦ (key other, value) ∈ pair :: pairs) =
        rest.filter fun other ↦ (key other, value) ∈ pairs := by
      refine List.filter_congr fun other hother ↦ ?_
      have hkey : key other ∈ pairs.map Prod.fst := hrest ▸ List.mem_map_of_mem hother
      have hne : (key other, value) ≠ pair := fun hsame ↦ hnew (hsame ▸ hkey)
      rw [decide_eq_decide, List.mem_cons, or_iff_right hne]
    have hfirst : (key row, value) ∈ pair :: pairs ↔ pair.2 = value := by
      rw [hrow, List.mem_cons]
      constructor
      · rintro (hsame | hlater)
        · exact (congrArg Prod.snd hsame).symm
        · exact absurd (List.mem_map_of_mem hlater) hnew
      · exact fun hvalue ↦ Or.inl (by rw [← hvalue])
    rw [List.filter_cons, hothers, List.map_cons, List.count_cons, ← ih hrest hnodup]
    by_cases hvalue : pair.2 = value
    · rw [if_pos (decide_eq_true (hfirst.mpr hvalue)), if_pos (beq_iff_eq.mpr hvalue),
        List.length_cons]
    · rw [if_neg fun hof ↦ hvalue (hfirst.mp (of_decide_eq_true hof)),
        if_neg fun hsame ↦ hvalue (beq_iff_eq.mp hsame), Nat.add_zero]

/-- An evaluation that returns keeps the queue and adds a task for each violation. -/
theorem Queue.evaluate {history : SlaHistory} {workspaceId : String} {now : ℤ}
    {progress : EvaluationProgress} {after : World} (h : Queue history)
    (hdone : Evaluated now history.world (listSourceSlas workspaceId history.world.db) progress
      after) :
    Queue ⟨after, history.proposals ++ progress.proposals⟩ ∧
      ∀ datasetId, (SlaHistory.tasksOf ⟨after, history.proposals ++ progress.proposals⟩
        datasetId).length = (history.tasksOf datasetId).length +
          (violatedDatasets workspaceId now history.world.db).count datasetId := by
  obtain ⟨proposals, tasks, hdb, hproposals, htasks, hopen⟩ := hdone.row
  refine ⟨⟨hdone.references, fun pair hpair ↦ ?_⟩, fun datasetId ↦ ?_⟩
  · rw [hdb, List.map_append, hproposals]
    rcases List.mem_append.mp hpair with hold | hmade
    · exact List.mem_append_left _ (h.known pair hold)
    · exact List.mem_append_right _ (List.mem_map_of_mem hmade)
  · have hearlier : (history.world.db.tasks.filter fun task ↦ IsUnresolved task ∧
        (task.subjectRef, datasetId) ∈ history.proposals ++ progress.proposals) =
        history.tasksOf datasetId := by
      refine List.filter_congr fun task htask ↦ ?_
      have hnone : (task.subjectRef, datasetId) ∉ progress.proposals := fun hmade ↦
        hdone.new _ hmade (h.references task htask)
      rw [decide_eq_decide, List.mem_append, or_iff_left hnone]
    have hmade : (tasks.filter fun task ↦ IsUnresolved task ∧
        (task.subjectRef, datasetId) ∈ history.proposals ++ progress.proposals) =
        tasks.filter fun task ↦ (task.subjectRef, datasetId) ∈ progress.proposals := by
      refine List.filter_congr fun task htask ↦ ?_
      have hsubject : task.subjectRef ∈ progress.proposals.map Prod.fst :=
        htasks ▸ List.mem_map_of_mem htask
      obtain ⟨pair, hpair, hsame⟩ := List.mem_map.mp hsubject
      have hnone : (task.subjectRef, datasetId) ∉ history.proposals := fun hold ↦
        hdone.new pair hpair (hsame ▸ h.known _ hold)
      have hunresolved : IsUnresolved task := Or.inl (hopen task htask)
      rw [decide_eq_decide, List.mem_append, or_iff_right hnone, and_iff_right hunresolved]
    simp only [SlaHistory.tasksOf, hdb, List.filter_append, List.length_append]
    rw [hearlier, hmade, length_filter_paired datasetId htasks hdone.nodup, hdone.datasets]
    rfl

/-- What an evaluation meets for the queue to stay free of repetitions: no dataset is violated twice,
and none that is violated has an unresolved task. -/
def Fresh (history : SlaHistory) : SlaAction → Prop
  | .evaluate workspaceId now _ =>
    (violatedDatasets workspaceId now history.world.db).Nodup ∧
      ∀ datasetId ∈ violatedDatasets workspaceId now history.world.db,
        history.tasksOf datasetId = []
  | _ => True

instance (history : SlaHistory) (action : SlaAction) : Decidable (Fresh history action) :=
  match action with
  | .configure .. => inferInstanceAs (Decidable True)
  | .evaluate .. => inferInstanceAs (Decidable (_ ∧ _))
  | .decide .. => inferInstanceAs (Decidable True)
  | .catalogue .. => inferInstanceAs (Decidable True)

def Once (history : SlaHistory) : Prop := ∀ datasetId, (history.tasksOf datasetId).length ≤ 1

/-- A fresh evaluation leaves one task where none was. -/
theorem Queue.evaluate_once {history : SlaHistory} {workspaceId : String} {now clock : ℤ}
    {progress : EvaluationProgress} {after : World} (h : Queue history) (honce : Once history)
    (hfresh : Fresh history (.evaluate workspaceId now clock))
    (hdone : Evaluated now history.world (listSourceSlas workspaceId history.world.db) progress
      after) : Once ⟨after, history.proposals ++ progress.proposals⟩ := by
  intro datasetId
  rw [(h.evaluate hdone).2]
  by_cases hviolated : datasetId ∈ violatedDatasets workspaceId now history.world.db
  · rw [hfresh.2 datasetId hviolated]
    exact (Nat.zero_add _).le.trans (List.nodup_iff_count_le_one.mp hfresh.1 datasetId)
  · rw [List.count_eq_zero.mpr hviolated]
    exact honce datasetId

/-- An evaluation that is not fresh leaves two tasks of a dataset. -/
theorem Queue.fresh_of_once {history : SlaHistory} {workspaceId : String} {now clock : ℤ}
    {progress : EvaluationProgress} {after : World} (h : Queue history)
    (hdone : Evaluated now history.world (listSourceSlas workspaceId history.world.db) progress
      after) (honce : Once ⟨after, history.proposals ++ progress.proposals⟩) :
    Fresh history (.evaluate workspaceId now clock) := by
  have hcount : ∀ datasetId, (history.tasksOf datasetId).length +
      (violatedDatasets workspaceId now history.world.db).count datasetId ≤ 1 :=
    fun datasetId ↦ (h.evaluate hdone).2 datasetId ▸ honce datasetId
  refine ⟨List.nodup_iff_count_le_one.mpr fun datasetId ↦ ?_, fun datasetId hviolated ↦ ?_⟩
  · exact (Nat.le_add_left _ _).trans (hcount datasetId)
  · have hpositive := List.count_pos_iff.mpr hviolated
    have hbound := hcount datasetId
    exact List.eq_nil_of_length_eq_zero (by omega)

/-- The outcomes of a step: one that settles, or an evaluation that returns. -/
theorem slaStep_cases (service : Service) (history : SlaHistory) (action : SlaAction)
    (h : Queue history) :
    (∃ after, Settling history.world after ∧
      slaStep service history action = { history with world := after } ∧
      ∀ workspaceId now clock, action = .evaluate workspaceId now clock →
        ∃ exception, inSession (evaluateSlas service workspaceId now clock) history.world =
          (.error exception, after)) ∨
    ∃ workspaceId now clock progress after, action = .evaluate workspaceId now clock ∧
      inSession (evaluateSlas service workspaceId now clock) history.world = (.ok progress, after) ∧
      Evaluated now history.world (listSourceSlas workspaceId history.world.db) progress after ∧
      slaStep service history action = ⟨after, history.proposals ++ progress.proposals⟩ := by
  cases action with
  | configure workspaceId datasetId freshnessSeconds enabled actorId =>
    refine Or.inl ⟨_, ?_, rfl, fun _ _ _ heq ↦ by cases heq⟩
    exact advances_inSession (advances_configureSourceSla service workspaceId datasetId
      freshnessSeconds enabled actorId) history.world
  | decide workspaceId taskId actorId decision reason =>
    refine Or.inl ⟨_, ?_, rfl, fun _ _ _ heq ↦ by cases heq⟩
    exact advances_inSession (advances_decideReviewTask service workspaceId taskId actorId decision
      reason) history.world
  | catalogue datasets =>
    exact Or.inl ⟨{ history.world with db := { history.world.db with datasets := datasets } },
      Settles.of_eq rfl rfl, rfl, fun _ _ _ heq ↦ by cases heq⟩
  | evaluate workspaceId now clock =>
    rcases hrun : evaluateSlas service workspaceId now clock history.world with
      ⟨exception | progress, after⟩
    · have hsession : inSession (evaluateSlas service workspaceId now clock) history.world =
          (.error exception, { after with db := history.world.db }) := by simp [inSession, hrun]
      refine Or.inl ⟨{ after with db := history.world.db }, settling_of_db rfl,
        by rw [slaStep, hsession], ?_⟩
      rintro _ _ _ ⟨⟩
      exact ⟨exception, hsession⟩
    · have hsession : inSession (evaluateSlas service workspaceId now clock) history.world =
          (.ok progress, after) := by simp [inSession, hrun]
      refine Or.inr ⟨_, _, _, progress, after, rfl, hsession, ?_, by rw [slaStep, hsession]⟩
      exact (ends_evaluateSlas service workspaceId now clock h.references).of_ok hrun

/-- The queue after every step. -/
theorem queue_runSlas (service : Service) {start : World} (href : References start.db)
    (actions : List SlaAction) : Queue (runSlas service start actions) := by
  induction actions using List.reverseRecOn with
  | nil => exact ⟨href, fun _ hpair ↦ absurd hpair List.not_mem_nil⟩
  | append_singleton actions action ih =>
    rw [runSlas, run_snoc]
    change Queue (slaStep service (runSlas service start actions) action)
    rcases slaStep_cases service _ action ih with
      ⟨after, hsettles, hstep, -⟩ | ⟨_, _, _, progress, after, -, -, hdone, hstep⟩
    · rw [hstep]
      exact (ih.settle hsettles).1
    · rw [hstep]
      exact (ih.evaluate hdone).1

/-- Nothing is recorded at the start. -/
theorem once_start (service : Service) (start : World) : Once (runSlas service start []) := by
  intro datasetId
  have hnone : (runSlas service start []).tasksOf datasetId = [] :=
    List.filter_eq_nil_iff.mpr fun task _ hof ↦
      absurd (of_decide_eq_true hof).2 List.not_mem_nil
  rw [hnone]
  exact Nat.zero_le 1

/-- An evaluation that returns leaves a task for each dataset it finds violated. -/
def Covered (service : Service) (history : SlaHistory) : SlaAction → Prop
  | .evaluate workspaceId now clock =>
    (inSession (evaluateSlas service workspaceId now clock) history.world).1.isOk = true →
      ∀ datasetId ∈ violatedDatasets workspaceId now history.world.db,
        (slaStep service history (.evaluate workspaceId now clock)).tasksOf datasetId ≠ []
  | _ => True

def AllReturn (service : Service) (start : World) (actions : List SlaAction) : Prop :=
  ∀ entry ∈ trace (slaStep service) ⟨start, []⟩ actions, ∀ workspaceId now clock,
    entry.2 = .evaluate workspaceId now clock →
      (inSession (evaluateSlas service workspaceId now clock) entry.1.world).1.isOk = true

theorem covered_of_queue (service : Service) {history : SlaHistory} (h : Queue history)
    (action : SlaAction) : Covered service history action := by
  rcases slaStep_cases service history action h with
    ⟨after, -, -, hraised⟩ | ⟨workspaceId, now, clock, progress, after, rfl, -, hdone, hstep⟩
  · cases action with
    | evaluate workspaceId now clock =>
      intro hok
      obtain ⟨exception, hsession⟩ := hraised _ _ _ rfl
      rw [hsession] at hok
      cases hok
    | _ => trivial
  · intro _ datasetId hviolated hnil
    have hcount := (h.evaluate hdone).2 datasetId
    rw [← hstep, hnil] at hcount
    have hpositive := List.count_pos_iff.mpr hviolated
    rw [List.length_nil] at hcount
    omega

/-- In a run whose evaluations are all fresh each dataset has at most one unresolved task at every
point, and one after each evaluation that finds it violated; a run whose evaluations all return has
that at every point only if they are all fresh. -/
theorem tasks_once_of_fresh (service : Service) {start : World} (href : References start.db)
    (actions : List SlaAction) :
    ((∀ entry ∈ trace (slaStep service) ⟨start, []⟩ actions, Fresh entry.1 entry.2) →
      (∀ earlier, earlier <+: actions → Once (runSlas service start earlier)) ∧
        ∀ entry ∈ trace (slaStep service) ⟨start, []⟩ actions,
          Covered service entry.1 entry.2) ∧
    (AllReturn service start actions →
      (∀ earlier, earlier <+: actions → Once (runSlas service start earlier)) →
        ∀ entry ∈ trace (slaStep service) ⟨start, []⟩ actions, Fresh entry.1 entry.2) := by
  refine ⟨fun hfresh ↦ ⟨?_, ?_⟩, fun hreturn honce ↦ ?_⟩
  · refine prefix_induction (once_start service start) fun earlier action hprefix ih ↦ ?_
    have hqueue := queue_runSlas service href earlier
    have hown := hfresh _ (mem_trace hprefix)
    rw [runSlas, run_snoc]
    change Once (slaStep service (runSlas service start earlier) action)
    rcases slaStep_cases service _ action hqueue with
      ⟨after, hsettles, hstep, -⟩ | ⟨_, _, _, progress, after, rfl, -, hdone, hstep⟩
    · rw [hstep]
      exact fun datasetId ↦ ((hqueue.settle hsettles).2 datasetId).trans (ih datasetId)
    · rw [hstep]
      exact hqueue.evaluate_once ih hown hdone
  · rintro ⟨history, action⟩ hentry
    obtain ⟨earlier, -, rfl⟩ := exists_prefix_of_mem_trace hentry
    exact covered_of_queue service (queue_runSlas service href earlier) action
  · rintro ⟨history, action⟩ hentry
    obtain ⟨earlier, hprefix, rfl⟩ := exists_prefix_of_mem_trace hentry
    have hqueue := queue_runSlas service href earlier
    have hafter := honce _ hprefix
    rw [runSlas, run_snoc] at hafter
    change Once (slaStep service (runSlas service start earlier) action) at hafter
    rcases slaStep_cases service _ action hqueue with
      ⟨after, -, -, hraised⟩ | ⟨_, _, _, progress, after, rfl, -, hdone, hstep⟩
    · cases action with
      | evaluate workspaceId now clock =>
        obtain ⟨exception, hsession⟩ := hraised _ _ _ rfl
        have hok := hreturn _ hentry _ _ _ rfl
        change (inSession (evaluateSlas service workspaceId now clock)
          (runSlas service start earlier).world).1.isOk = true at hok
        rw [hsession] at hok
        cases hok
      | _ => trivial
    · rw [hstep] at hafter
      exact hqueue.fresh_of_once hdone hafter

def slaService : Service where
  storageRoot := "/srv"
  retentionPurgeRoot := none
  auditSinkMode := "inline"
  resolvePath _ := ["srv"]
  codec := ⟨fun _ ↦ "00", fun payload ↦ [("encrypted", .bool false), ("payload", .obj payload)]⟩
  newUlid n := toString n
  toFloat value := .ok value
  epochJson time := .int time

def neverProfiled : World :=
  ⟨{ Database.empty with workspaces := ["w1"], datasets := [⟨"d1", "w1", .null⟩] },
    FileTree.empty, 0⟩

theorem references_neverProfiled : References neverProfiled.db :=
  fun _ htask ↦ absurd htask List.not_mem_nil

/-- An evaluation, its task approved, and another evaluation. -/
def decidedBetween : List SlaAction :=
  [.configure "w1" "d1" 60 true "steward", .evaluate "w1" 100 100,
    .decide "w1" "2" "steward" "approve" "seen", .evaluate "w1" 100 100]

theorem decidedBetween_once :
    (∀ earlier, earlier <+: decidedBetween → Once (runSlas slaService neverProfiled earlier)) ∧
      ∀ entry ∈ trace (slaStep slaService) ⟨neverProfiled, []⟩ decidedBetween,
        Covered slaService entry.1 entry.2 :=
  (tasks_once_of_fresh slaService references_neverProfiled decidedBetween).1 (by decide +kernel)

/-- Two evaluations at one time, and nobody decides in between. -/
def evaluatedTwice : List SlaAction :=
  [.configure "w1" "d1" 60 true "steward", .evaluate "w1" 100 100, .evaluate "w1" 100 100]

theorem evaluatedTwice_floods : ¬Once (runSlas slaService neverProfiled evaluatedTwice) := by
  intro honce
  have hbound := honce "d1"
  revert hbound
  decide +kernel

end SchemaPilot.ControlPlane.SourceHealth
