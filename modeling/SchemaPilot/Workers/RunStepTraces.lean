import SchemaPilot.Workers.RunStepOrder

/-!
# Traces of runs and their steps

Nothing queues a run a second time, and a tick that raises is rolled back, so in every trace the step
rows are of runs that have ended. A queued run therefore starts without rows, and its processing goes
in the order of its steps.
-/

namespace SchemaPilot.Workers

open Library Library.Effect SharedDomain

/-! ### The tables -/

/-- Tables whose runs have keys of their own, whose step rows are of runs that are not queued, and
whose runs with steps have ended in order. -/
structure RunTables.Sound (tables : RunTables) : Prop where
  nodup : (tables.runs.map RunRecord.runId).Nodup
  owned : ∀ row ∈ tables.steps, ∃ run ∈ tables.runs, row.Of run ∧ run.status ≠ "queued"
  ends : ∀ run ∈ tables.runs, run.status ≠ "queued" → runStepDefinitions run.runType ≠ [] →
    (tables.stepsOf run).map RunStepRecord.toRunStepDefinition = runStepDefinitions run.runType ∧
      EndsOrderly run.status (tables.stepsOf run)

/-- The runs of sound tables are known by their keys. -/
theorem RunTables.Sound.run_eq {tables : RunTables} (h : tables.Sound) {first second : RunRecord}
    (hfirst : first ∈ tables.runs) (hsecond : second ∈ tables.runs)
    (heq : first.runId = second.runId) : first = second :=
  List.inj_on_of_nodup_map h.nodup hfirst hsecond heq

theorem RunTables.Sound.stepsOf_queued {tables : RunTables} (h : tables.Sound) {run : RunRecord}
    (hrun : run ∈ tables.runs) (hqueued : run.status = "queued") : tables.stepsOf run = [] := by
  rw [RunTables.stepsOf, List.filter_eq_nil_iff]
  intro row hrow hof
  obtain ⟨owner, howner, hofOwner, hended⟩ := h.owned row hrow
  have hsame : owner = run :=
    h.run_eq howner hrun (hofOwner.2.symm.trans (of_decide_eq_true hof).2)
  exact hended (hsame ▸ hqueued)

/-- A new run keeps tables sound. -/
theorem RunTables.Sound.queue {tables : RunTables} (h : tables.Sound)
    (runId workspaceId runType : String) : (tables.queue runId workspaceId runType).Sound := by
  unfold RunTables.queue
  split_ifs with htaken
  · exact h
  · constructor
    · rw [List.map_append, List.nodup_append]
      refine ⟨h.nodup, List.nodup_singleton _, ?_⟩
      intro first hfirst last hlast heq
      rw [heq, List.mem_singleton.mp hlast] at hfirst
      exact htaken hfirst
    · intro row hrow
      obtain ⟨owner, howner, hof⟩ := h.owned row hrow
      exact ⟨owner, List.mem_append_left _ howner, hof⟩
    · intro run hrun hended
      rcases List.mem_append.mp hrun with hold | hnew
      · exact h.ends run hold hended
      · rw [List.mem_singleton.mp hnew] at hended
        exact absurd rfl hended

theorem of_iff_of_identity {row : RunStepRecord} {first second : RunRecord}
    (h : first.identity = second.identity) : row.Of first ↔ row.Of second := by
  obtain ⟨hrunId, hrest⟩ := Prod.ext_iff.mp h
  obtain ⟨hworkspaceId, -⟩ := Prod.ext_iff.mp hrest
  dsimp only [RunRecord.identity] at hrunId hworkspaceId
  rw [RunStepRecord.Of, RunStepRecord.Of, hrunId, hworkspaceId]

section Write

variable {tables : RunTables} {run ended other : RunRecord} {rows : List RunStepRecord}

theorem mem_runs_write :
    other ∈ (tables.write ended rows).runs ↔
      other ∈ tables.runs ∧ other.runId ≠ ended.runId ∨
        other = ended ∧ ∃ old ∈ tables.runs, old.runId = ended.runId := by
  rw [RunTables.write, List.mem_map]
  constructor
  · rintro ⟨old, hold, rfl⟩
    split_ifs with hkey
    · exact Or.inr ⟨rfl, old, hold, hkey⟩
    · exact Or.inl ⟨hold, hkey⟩
  · rintro (⟨hother, hkey⟩ | ⟨rfl, old, hold, hkey⟩)
    · exact ⟨other, hother, if_neg hkey⟩
    · exact ⟨old, hold, if_pos hkey⟩

/-- The steps of the run written. -/
theorem stepsOf_write_self (howned : ∀ row ∈ rows, row.Of ended) :
    (tables.write ended rows).stepsOf ended = rows := by
  rw [RunTables.stepsOf, RunTables.write, List.filter_append, List.filter_filter,
    List.filter_eq_nil_iff.mpr, List.nil_append, List.filter_eq_self.mpr]
  · exact fun row hrow ↦ decide_eq_true (howned row hrow)
  · intro row _
    simp

theorem stepsOf_write_of_ne (howned : ∀ row ∈ rows, row.Of ended) (hne : other.runId ≠ ended.runId) :
    (tables.write ended rows).stepsOf other = tables.stepsOf other := by
  have hnone : (rows.filter fun row ↦ row.Of other) = [] := by
    rw [List.filter_eq_nil_iff]
    intro row hrow hof
    exact hne ((of_decide_eq_true hof).2.symm.trans (howned row hrow).2)
  rw [RunTables.stepsOf, RunTables.stepsOf, RunTables.write, List.filter_append, List.filter_filter,
    hnone, List.append_nil]
  apply List.filter_congr
  intro row _
  by_cases hof : row.Of other
  · have hnot : ¬row.Of ended := fun hended ↦ hne (hof.2.symm.trans hended.2)
    simp [hof, hnot]
  · simp [hof]

theorem RunTables.Sound.write (h : tables.Sound) (hrun : run ∈ tables.runs)
    (hidentity : ended.identity = run.identity) (hended : ended.status ≠ "queued")
    (howned : ∀ row ∈ rows, row.Of run)
    (hends : runStepDefinitions run.runType ≠ [] →
      rows.map RunStepRecord.toRunStepDefinition = runStepDefinitions run.runType ∧
        EndsOrderly ended.status rows) : (tables.write ended rows).Sound := by
  have hkey : ended.runId = run.runId := congrArg Prod.fst hidentity
  have htype : ended.runType = run.runType := congrArg (fun identity ↦ identity.2.2) hidentity
  have hrows : ∀ row ∈ rows, row.Of ended :=
    fun row hrow ↦ (of_iff_of_identity hidentity).mpr (howned row hrow)
  constructor
  · have hkeys : (tables.write ended rows).runs.map RunRecord.runId =
        tables.runs.map RunRecord.runId := by
      rw [RunTables.write, List.map_map]
      refine List.map_congr_left fun other _ ↦ ?_
      dsimp only [Function.comp_apply]
      split_ifs with hsame
      · exact hsame.symm
      · rfl
    rw [hkeys]
    exact h.nodup
  · intro row hrow
    rcases List.mem_append.mp hrow with hold | hnew
    · obtain ⟨hrow, hnot⟩ := List.mem_filter.mp hold
      obtain ⟨owner, howner, hof, hownerEnded⟩ := h.owned row hrow
      refine ⟨owner, mem_runs_write.mpr (Or.inl ⟨howner, fun hsame ↦ ?_⟩), hof, hownerEnded⟩
      obtain rfl := h.run_eq howner hrun (hsame.trans hkey)
      exact of_decide_eq_true hnot ((of_iff_of_identity hidentity).mpr hof)
    · exact ⟨ended, mem_runs_write.mpr (Or.inr ⟨rfl, run, hrun, hkey.symm⟩), hrows row hnew, hended⟩
  · intro other hother hotherEnded hsteps
    rcases mem_runs_write.mp hother with ⟨hold, hne⟩ | ⟨rfl, -⟩
    · rw [stepsOf_write_of_ne hrows hne]
      exact h.ends other hold hotherEnded hsteps
    · rw [stepsOf_write_self hrows]
      rw [htype] at hsteps ⊢
      exact hends hsteps

end Write

/-- The world's tables are sound, as seen and as committed. -/
def RunWorld.Sound {σ : Type} (world : RunWorld σ) : Prop :=
  world.tables.Sound ∧ world.committed.Sound

section World

variable {σ : Type} {world : RunWorld σ}

/-- The processing of a run keeps the tables sound. -/
theorem RunWorld.Sound.processRunById (h : world.Sound) (settings : RunSettings)
    (stages : RunStages σ) (runId : String) : (processRunById settings stages runId world).Sound := by
  unfold Workers.processRunById
  split
  · exact h
  · next run hfind =>
    have hrun : run ∈ world.tables.runs := List.mem_of_find?_eq_some hfind
    split_ifs with hqueued
    · have hsteps : (world.startOf run).steps = [] := h.1.stepsOf_queued hrun hqueued
      split
      · next processed after hprocess =>
        refine ⟨?_, h.2⟩
        by_cases hnone : runStepDefinitions run.runType = []
        · obtain ⟨hstatus, hidentity, hempty⟩ : _ ∧ Bare run after :=
            (ends_processQueuedRun_of_unknown hnone rfl hsteps).of_ok hprocess
          refine h.1.write hrun hidentity (by rw [hstatus]; decide) ?_ fun hsome ↦ absurd hnone hsome
          rw [hempty]
          exact fun row hrow ↦ absurd hrow List.not_mem_nil
        · have hconcluded := (ends_processQueuedRun hnone rfl hsteps rfl).of_ok hprocess
          have hended : after.run.status ≠ "queued" := by
            rw [hconcluded.status_eq]
            rcases hconcluded.ends with ⟨hstatus, -⟩ | ⟨hstatus, -⟩
            · rw [hstatus]
              decide
            · rw [hstatus]
              decide
          refine h.1.write hrun hconcluded.identity_eq hended hconcluded.owned fun _ ↦ ?_
          exact ⟨hconcluded.definitions_eq, hconcluded.status_eq ▸ hconcluded.ends⟩
      · exact ⟨h.2, h.2⟩
    · exact h

/-- A step of the world keeps its tables sound. -/
theorem RunWorld.Sound.runStep (h : world.Sound) (action : RunAction σ) :
    (runStep world action).Sound := by
  cases action with
  | queue runId workspaceId runType own =>
    refine ⟨h.1.queue runId workspaceId runType, ?_⟩
    dsimp only [Workers.runStep]
    split_ifs
    · exact h.2
    · exact h.2.queue runId workspaceId runType
  | process runId settings stages => exact h.processRunById settings stages runId
  | commit => exact ⟨h.1, h.1⟩
  | rollback => exact ⟨h.2, h.2⟩

/-- In every trace the tables stay sound. -/
theorem sound_worldAfterRuns (rest : σ) (actions : List (RunAction σ)) :
    (worldAfterRuns rest actions).Sound := by
  have hempty : RunTables.Sound ⟨[], []⟩ := ⟨List.nodup_nil, by simp, by simp⟩
  have hrun : ∀ {start : RunWorld σ}, start.Sound → (actions.foldl runStep start).Sound := by
    induction actions with
    | nil => exact fun hstart ↦ hstart
    | cons action actions ih => exact fun hstart ↦ ih (hstart.runStep action)
  exact hrun ⟨hempty, hempty⟩

/-- In every trace, a queued run with steps is processed in the order of its dependencies, and what it
ends with agrees with its steps. -/
theorem runSteps_ordered (rest : σ) (actions : List (RunAction σ)) (settings : RunSettings)
    (stages : RunStages σ) {run : RunRecord}
    (hrun : run ∈ (worldAfterRuns rest actions).tables.runs) (hqueued : run.status = "queued")
    (hsome : runStepDefinitions run.runType ≠ []) :
    let outcome := processQueuedRun settings stages ((worldAfterRuns rest actions).startOf run)
    (∀ rows ∈ outcome.2.history, DagOrdered rows) ∧
      ∀ processed, outcome.1 = .ok processed →
        outcome.2.steps.map RunStepRecord.toRunStepDefinition = runStepDefinitions run.runType ∧
          EndsOrderly processed.status outcome.2.steps := by
  have hsteps : ((worldAfterRuns rest actions).startOf run).steps = [] :=
    (sound_worldAfterRuns rest actions).1.stepsOf_queued hrun hqueued
  have hends : Ends (processQueuedRun settings stages) ((worldAfterRuns rest actions).startOf run)
      (fun processed after ↦ Concluded run processed.status after) fun _ ↦ Ordered :=
    ends_processQueuedRun hsome rfl hsteps rfl
  intro outcome
  rcases hrun : outcome with ⟨exception | processed, after⟩
  · exact ⟨hends.of_error hrun, fun _ hnever ↦ nomatch hnever⟩
  · have hconcluded := hends.of_ok hrun
    refine ⟨hconcluded.ordered, fun other hother ↦ ?_⟩
    obtain rfl := Except.ok.inj hother
    exact ⟨hconcluded.definitions_eq, hconcluded.ends⟩

end World

/-- A worker whose flushes succeed. -/
def steadySettings : RunSettings where
  now := fun n ↦ 10 ^ 9 * n
  newUlid := fun n ↦ "id-" ++ toString n
  flushFault := fun _ ↦ none
  pendingRollback := .other "transaction has been rolled back"
  stepTimeoutSeconds := 3600
  materializedRefresh := none
  strictIngest := true
  lowerCase := Text.lower
  className := fun _ ↦ "ValueError"

/-- Stages of a workspace with one source whose ingest raises. -/
def brokenIngestStages : RunStages Unit where
  collectDatasets := fun _ ↦ (.ok [], (), true)
  buildSemanticManifestCandidate := fun _ ↦
    (.error (.raised (.valueError "semantic_bootstrap_requires_catalog_datasets")), (), true)
  activeSources := fun _ ↦ (.ok ["src-1"], (), true)
  ingest := fun _ _ ↦ (.error (.raised (.valueError "connector plugin spec is invalid")), (), true)
  storeCompletenessFailure := fun _ _ ↦ (.ok "evidence://failure", (), true)
  ensureCompletenessTask := fun _ _ ↦ (.ok ("proposal-1", "task-1"), (), true)
  storeCompletenessWarning := fun _ _ ↦ (.ok "evidence://warning", (), true)
  semanticDriftGate := fun _ ↦ (.ok 0, (), true)
  writeSnapshot := fun _ _ ↦ (.ok "materialized/refresh.json", (), true)

/-- A discover run whose ingest raises is processed in order. -/
theorem brokenIngest_ordered :
    let outcome := processQueuedRun steadySettings brokenIngestStages
      ((worldAfterRuns () [.queue "run-1" "ws-1" "discover" false]).startOf
        ⟨"run-1", "ws-1", "discover", "queued", []⟩)
    (∀ rows ∈ outcome.2.history, DagOrdered rows) ∧
      ∀ processed, outcome.1 = .ok processed →
        outcome.2.steps.map RunStepRecord.toRunStepDefinition = runStepDefinitions "discover" ∧
          EndsOrderly processed.status outcome.2.steps :=
  runSteps_ordered () [.queue "run-1" "ws-1" "discover" false] steadySettings brokenIngestStages
    (List.mem_cons_self (a := (⟨"run-1", "ws-1", "discover", "queued", []⟩ : RunRecord))) rfl
    (by decide)

example : ((processQueuedRun steadySettings brokenIngestStages
    ((worldAfterRuns () [.queue "run-1" "ws-1" "discover" false]).startOf
      ⟨"run-1", "ws-1", "discover", "queued", []⟩)).2.steps.map RunStepRecord.status) =
    [.succeeded, .failed, .queued, .queued] := by decide +kernel

end SchemaPilot.Workers
