import SchemaPilot.Library.DependencyOrder
import SchemaPilot.Workers.RunSteps

/-!
# Steps run in the order of their dependencies

While a run is processed its rows stand at one step: the steps before it have succeeded, the steps
after it are queued. Every change of a row keeps that, and so does a stage, whatever it does. A flush
that fails leaves the rows as they are but spoils the session, and then the handler of the run cannot
load the run: the tick is rolled back before a step is put down as failed.
-/

namespace SchemaPilot.Workers

open Library Library.Effect SharedDomain

/-! ### Ordered rows -/

/-- Each running or succeeded step has all the steps it depends on succeeded. -/
def DagOrdered (rows : List RunStepRecord) : Prop :=
  ∀ row ∈ rows, row.status = .running ∨ row.status = .succeeded →
    ∀ key ∈ row.dependsOn, ∃ other ∈ rows, other.stepKey = key ∧ other.status = .succeeded

def DependsOnStep (rows : List RunStepRecord) : RunStepRecord → RunStepRecord → Prop :=
  DependsIn (fun row ↦ row.stepKey) (fun row ↦ row.dependsOn) rows

/-- The rows of a run that failed: one step failed, none is running, and what depends on the failed
one is queued. -/
def FailedOnce (rows : List RunStepRecord) : Prop :=
  ∃ failed, (rows.filter fun row ↦ row.status = .failed) = [failed] ∧
    (∀ row ∈ rows, row.status ≠ .running) ∧
    ∀ row, Relation.TransGen (DependsOnStep rows) row failed → row.status = .queued

def EndsOrderly (status : String) (rows : List RunStepRecord) : Prop :=
  (status = "succeeded" ∧ ∀ row ∈ rows, row.status = .succeeded) ∨
    (status = "failed" ∧ FailedOnce rows)

/-- Definitions with new keys and rising orders, each depending on steps before it. -/
def WellDefined (definitions : List RunStepDefinition) : Prop :=
  InOrder RunStepDefinition.stepKey RunStepDefinition.dependsOn [] definitions ∧
    definitions.Pairwise fun first second ↦ first.stepOrder < second.stepOrder

instance (definitions : List RunStepDefinition) : Decidable (WellDefined definitions) :=
  inferInstanceAs (Decidable (_ ∧ _))

theorem wellDefined_runStepDefinitions (runType : String) :
    WellDefined (runStepDefinitions runType) := by
  unfold runStepDefinitions
  split <;> decide

/-! ### Rows that stand at a step -/

def outline (rows : List RunStepRecord) : List (RunStepDefinition × StepStatus) :=
  rows.map fun row ↦ (row.toRunStepDefinition, row.status)

/-- The rows before `step` have succeeded, `step` has the status, and the rows after it are queued. -/
def standing (done : List RunStepDefinition) (step : RunStepDefinition) (status : StepStatus)
    (todo : List RunStepDefinition) : List (RunStepDefinition × StepStatus) :=
  done.map (fun definition ↦ (definition, .succeeded)) ++
    (step, status) :: todo.map fun definition ↦ (definition, .queued)

section Rows

variable {rows : List RunStepRecord} {done todo : List RunStepDefinition} {step : RunStepDefinition}
  {status : StepStatus}

theorem rows_of_outline {definitions : List RunStepDefinition}
    (h : outline rows = definitions.map fun definition ↦ (definition, status)) :
    rows.map RunStepRecord.toRunStepDefinition = definitions ∧
      ∀ row ∈ rows, row.status = status := by
  constructor
  · have hfirst := congrArg (List.map Prod.fst) h
    simpa [outline, Function.comp_def] using hfirst
  · intro row hrow
    have hmem : (row.toRunStepDefinition, row.status) ∈ outline rows := List.mem_map_of_mem hrow
    rw [h, List.mem_map] at hmem
    obtain ⟨definition, -, heq⟩ := hmem
    exact (congrArg Prod.snd heq).symm

/-- Rows that stand at a step, taken apart. -/
theorem exists_rows_of_standing (h : outline rows = standing done step status todo) :
    ∃ before row after, rows = before ++ row :: after ∧
      before.map RunStepRecord.toRunStepDefinition = done ∧
      (∀ other ∈ before, other.status = .succeeded) ∧
      row.toRunStepDefinition = step ∧ row.status = status ∧
      after.map RunStepRecord.toRunStepDefinition = todo ∧
      ∀ other ∈ after, other.status = .queued := by
  obtain ⟨before, rest, rfl, hbefore, hrest⟩ := List.map_eq_append_iff.mp h
  obtain ⟨row, after, rfl, hrow, hafter⟩ := List.map_eq_cons_iff.mp hrest
  obtain ⟨hdone, hsucceeded⟩ := rows_of_outline hbefore
  exact ⟨before, row, after, rfl, hdone, hsucceeded, congrArg Prod.fst hrow,
    congrArg Prod.snd hrow, rows_of_outline hafter⟩

theorem definitions_of_standing (h : outline rows = standing done step status todo) :
    rows.map RunStepRecord.toRunStepDefinition = done ++ step :: todo := by
  have hfirst := congrArg (List.map Prod.fst) h
  simpa [outline, standing, Function.comp_def] using hfirst

/-- The rows stand in the order of their definitions. -/
theorem inOrder_rows (hdefinitions : WellDefined (done ++ step :: todo))
    (h : outline rows = standing done step status todo) :
    InOrder (fun row : RunStepRecord ↦ row.stepKey) (fun row ↦ row.dependsOn) [] rows := by
  have horder := hdefinitions.1
  rw [← definitions_of_standing h] at horder
  exact inOrder_map.mp horder

theorem dagOrdered_of_standing (hdefinitions : WellDefined (done ++ step :: todo))
    (h : outline rows = standing done step status todo) : DagOrdered rows := by
  have horder := inOrder_rows hdefinitions h
  obtain ⟨before, row, after, rfl, -, hbefore, -, -, -, hafter⟩ := exists_rows_of_standing h
  intro earlier hearlier hstatus key hkey
  have hdep : key ∈ before.map fun row ↦ row.stepKey := by
    rcases List.mem_append.mp hearlier with hmem | hmem
    · exact horder.deps_mem_of_mem hmem key hkey
    · rcases List.mem_cons.mp hmem with rfl | hmem
      · exact horder.deps_mem key hkey
      · rw [hafter earlier hmem] at hstatus
        rcases hstatus with hstatus | hstatus <;> cases hstatus
  obtain ⟨other, hother, rfl⟩ := List.mem_map.mp hdep
  exact ⟨other, List.mem_append_left _ hother, rfl, hbefore other hother⟩

theorem failedOnce_of_standing (hdefinitions : WellDefined (done ++ step :: todo))
    (h : outline rows = standing done step .failed todo) : FailedOnce rows := by
  have horder := inOrder_rows hdefinitions h
  obtain ⟨before, row, after, rfl, -, hbefore, -, hrow, -, hafter⟩ := exists_rows_of_standing h
  refine ⟨row, ?_, ?_, ?_⟩
  · rw [List.filter_append, List.filter_cons_of_pos (by simpa using hrow),
      List.filter_eq_nil_iff.mpr fun other hother ↦ by simp [hbefore other hother],
      List.filter_eq_nil_iff.mpr fun other hother ↦ by simp [hafter other hother]]
    rfl
  · intro other hother hrunning
    rcases List.mem_append.mp hother with hmem | hmem
    · rw [hbefore other hmem] at hrunning
      cases hrunning
    · rcases List.mem_cons.mp hmem with rfl | hmem
      · rw [hrow] at hrunning
        cases hrunning
      · rw [hafter other hmem] at hrunning
        cases hrunning
  · exact fun later hchain ↦ hafter later (horder.mem_of_transGen hchain)

theorem all_succeeded_of_standing (h : outline rows = standing done step .succeeded []) :
    ∀ row ∈ rows, row.status = .succeeded := by
  obtain ⟨before, row, after, rfl, -, hbefore, -, hrow, hafter, -⟩ := exists_rows_of_standing h
  obtain rfl := List.map_eq_nil_iff.mp hafter
  intro other hother
  rcases List.mem_append.mp hother with hmem | hmem
  · exact hbefore other hmem
  · rw [List.mem_singleton.mp hmem, hrow]

theorem isSome_stepRow? (h : outline rows = standing done step status todo) :
    ∃ found, stepRow? step.stepKey rows = some found := by
  obtain ⟨before, row, after, rfl, -, -, hstep, -⟩ := exists_rows_of_standing h
  apply Option.isSome_iff_exists.mp
  rw [stepRow?, List.find?_isSome]
  exact ⟨row, List.mem_append_right _ List.mem_cons_self, by simp [← hstep]⟩

/-- A change of the step's row gives the step another status. -/
theorem outline_updateStep (hdefinitions : WellDefined (done ++ step :: todo))
    (h : outline rows = standing done step status todo) {f : RunStepRecord → RunStepRecord}
    {status' : StepStatus} (hf : ∀ row, (f row).toRunStepDefinition = row.toRunStepDefinition ∧
      (f row).status = status') :
    outline (updateStep step.stepKey f rows) = standing done step status' todo := by
  have hupdate : outline (updateStep step.stepKey f rows) = (outline rows).map fun entry ↦
      if entry.1.stepKey = step.stepKey then (entry.1, status') else entry := by
    rw [outline, outline, updateStep, List.map_map, List.map_map]
    refine List.map_congr_left fun row _ ↦ ?_
    dsimp only [Function.comp_apply]
    split_ifs with hkey
    · rw [(hf row).1, (hf row).2]
    · rfl
  have hearlier : ∀ definition ∈ done, definition.stepKey ≠ step.stepKey := by
    intro definition hdefinition heq
    have hnew := hdefinitions.1.key_not_mem (List.mem_cons_self (a := step) (l := todo))
    exact hnew (heq ▸ List.mem_map_of_mem hdefinition)
  have hlater : ∀ definition ∈ todo, definition.stepKey ≠ step.stepKey := by
    intro definition hdefinition heq
    have hrest := hdefinitions.1.of_append.2.2.not_mem_seen hdefinition
    exact hrest (List.mem_append_right _ (List.mem_singleton.mpr heq))
  rw [hupdate, h, standing, List.map_append, List.map_cons, List.map_map, List.map_map, if_pos rfl]
  refine congrArg₂ _ (List.map_congr_left fun definition hdefinition ↦ ?_)
    (congrArg _ (List.map_congr_left fun definition hdefinition ↦ ?_))
  · exact if_neg (hearlier definition hdefinition)
  · exact if_neg (hlater definition hdefinition)

/-- No step has failed while the rows stand at one that has not. -/
theorem any_failed_of_standing (h : outline rows = standing done step status todo) :
    (rows.any fun row ↦ row.status = .failed) = decide (status = .failed) := by
  obtain ⟨before, row, after, rfl, -, hbefore, -, hrow, -, hafter⟩ := exists_rows_of_standing h
  rw [List.any_append, List.any_cons, hrow]
  have hnone : ∀ {others : List RunStepRecord} {other : StepStatus}, other ≠ .failed →
      (∀ row ∈ others, row.status = other) →
        (others.any fun row ↦ row.status = .failed) = false := by
    intro others other hother hall
    rw [List.any_eq_false]
    intro row hmem
    simpa [hall row hmem] using hother
  rw [hnone (by decide) hbefore, hnone (by decide) hafter, Bool.or_false, Bool.false_or]

/-- The step a failure is put down to is the one the rows stand at. -/
theorem blamedStep?_of_standing (hdefinitions : WellDefined (done ++ step :: todo))
    (h : outline rows = standing done step status todo)
    (hstatus : status = .running ∨ status = .queued ∧ done = []) :
    ∃ row, blamedStep? rows = some row ∧ row.stepKey = step.stepKey := by
  have horders := hdefinitions.2
  rw [← definitions_of_standing h, List.pairwise_map] at horders
  obtain ⟨before, row, after, rfl, hdone, hbefore, hstep, hrow, -, hafter⟩ :=
    exists_rows_of_standing h
  refine ⟨row, ?_, congrArg RunStepDefinition.stepKey hstep⟩
  rw [blamedStep?]
  rcases hstatus with rfl | ⟨rfl, rfl⟩
  · have hfind : (before ++ row :: after).find? (fun row ↦ row.status = .running) = some row := by
      rw [List.find?_append, List.find?_eq_none.mpr fun other hother ↦ by simp [hbefore other hother],
        List.find?_cons_of_pos (by simpa using hrow)]
      rfl
    rw [hfind, Option.some_or]
  · -- nothing runs, and the rows stand sorted
    obtain rfl := List.map_eq_nil_iff.mp hdone
    have hfind : (row :: after).find? (fun row ↦ row.status = .running) = none := by
      rw [List.find?_eq_none]
      intro other hother
      rcases List.mem_cons.mp hother with rfl | hmem
      · simp [hrow]
      · simp [hafter other hmem]
    have hsorted : (row :: after).Pairwise RunStepRecord.UpTo := horders.imp Or.inl
    rw [List.nil_append, hfind, Option.none_or, hsorted.insertionSort_eq]
    rfl

end Rows

/-! ### What stages and flushes leave -/

/-- What stays of a run while it is processed. -/
def RunRecord.identity (run : RunRecord) : String × String × String :=
  (run.runId, run.workspaceId, run.runType)

/-- All step rows so far were ordered. -/
def Ordered {σ : Type} (state : RunState σ) : Prop := ∀ rows ∈ state.history, DagOrdered rows

structure StandsAt {σ : Type} (run : RunRecord) (done : List RunStepDefinition)
    (step : RunStepDefinition) (status : StepStatus) (todo : List RunStepDefinition)
    (state : RunState σ) : Prop where
  identity_eq : state.run.identity = run.identity
  outline_eq : outline state.steps = standing done step status todo
  owned : ∀ row ∈ state.steps, row.Of run
  ordered : Ordered state

def Spoilt {σ : Type} (state : RunState σ) : Prop := state.active = false ∧ Ordered state

/-- How an exception can leave a run: with its session spoilt, or at a step that runs or has failed, or
before its first step. -/
def Interrupted {σ : Type} (definitions : List RunStepDefinition) (run : RunRecord)
    (state : RunState σ) : Prop :=
  Spoilt state ∨
    ∃ done step status todo, definitions = done ++ step :: todo ∧
      StandsAt run done step status todo state ∧
        (status = .running ∨ status = .failed ∨ status = .queued ∧ done = [])

section Effects

variable {σ α β : Type} {settings : RunSettings} {definitions done todo : List RunStepDefinition}
  {run : RunRecord} {step : RunStepDefinition} {status : StepStatus} {state : RunState σ}

theorem Interrupted.ordered (h : Interrupted definitions run state) : Ordered state := by
  rcases h with ⟨-, hordered⟩ | ⟨_, _, _, _, -, hstands, -⟩
  · exact hordered
  · exact hstands.ordered

/-- The run, its steps and their history are what a step is known by. -/
def bookkeeping (state : RunState σ) : RunRecord × List RunStepRecord × List (List RunStepRecord) :=
  (state.run, state.steps, state.history)

theorem StandsAt.of_bookkeeping (h : StandsAt run done step status todo state) {after : RunState σ}
    (hsame : bookkeeping after = bookkeeping state) : StandsAt run done step status todo after := by
  obtain ⟨hrun, hrest⟩ := Prod.ext_iff.mp hsame
  obtain ⟨hsteps, hhistory⟩ := Prod.ext_iff.mp hrest
  dsimp only [bookkeeping] at hrun hsteps hhistory
  refine ⟨hrun ▸ h.identity_eq, hsteps ▸ h.outline_eq, hsteps ▸ h.owned, ?_⟩
  rw [Ordered, hhistory]
  exact h.ordered

/-- A stage may raise anything, but it does not move the run. -/
theorem StandsAt.runStage (h : StandsAt run done step status todo state) (body : Stage σ α) :
    Ends (runStage body) state (fun _ ↦ StandsAt run done step status todo)
      fun _ ↦ StandsAt run done step status todo := by
  constructor
  · intro value after hrun
    exact h.of_bookkeeping (congrArg (fun result ↦ bookkeeping result.2) hrun).symm
  · intro exception after hrun
    exact h.of_bookkeeping (congrArg (fun result ↦ bookkeeping result.2) hrun).symm

/-- A flush changes nothing of the run; one that fails spoils the session. -/
theorem ends_flush :
    Ends (flush settings) state (fun _ after ↦ bookkeeping after = bookkeeping state)
      fun _ after ↦ after.active = false ∧ bookkeeping after = bookkeeping state := by
  unfold Workers.flush
  constructor
  · intro value after hrun
    split at hrun
    · cases hrun
      rfl
    · cases hrun
  · intro exception after hrun
    split at hrun
    · cases hrun
    · cases hrun
      exact ⟨rfl, rfl⟩

/-- The session is spoilt while the processing stands at a step. -/
theorem StandsAt.spoilt (h : StandsAt run done step status todo state) {after : RunState σ}
    (hspoilt : after.active = false ∧ bookkeeping after = bookkeeping state) : Spoilt after :=
  ⟨hspoilt.1, (h.of_bookkeeping hspoilt.2).ordered⟩

/-- A flush moves nothing. -/
theorem StandsAt.flush (h : StandsAt run done step status todo state) :
    Ends (flush settings) state (fun _ ↦ StandsAt run done step status todo) fun _ ↦ Spoilt :=
  ends_flush.mono (fun _ _ ↦ h.of_bookkeeping) fun _ _ ↦ h.spoilt

/-- A reading of the clock moves nothing. -/
theorem StandsAt.readEpoch (h : StandsAt run done step status todo state)
    {E : RunError → RunState σ → Prop} :
    Ends (readEpoch settings) state (fun _ ↦ StandsAt run done step status todo) E := by
  constructor
  · intro value after hrun
    cases hrun
    exact h.of_bookkeeping rfl
  · intro exception after hrun
    cases hrun

theorem StandsAt.changeSteps (hdefinitions : WellDefined (done ++ step :: todo))
    (h : StandsAt run done step status todo state) {f : RunStepRecord → RunStepRecord}
    {status' : StepStatus} (hf : ∀ row, (f row).toRunStepDefinition = row.toRunStepDefinition ∧
      (f row).status = status') (hof : ∀ row, row.Of run → (f row).Of run)
    {E : RunError → RunState σ → Prop} :
    Ends (changeSteps (updateStep step.stepKey f)) state
      (fun _ ↦ StandsAt run done step status' todo) E := by
  have houtline := outline_updateStep hdefinitions h.outline_eq hf
  refine ends_change ⟨h.identity_eq, houtline, ?_, ?_⟩
  · intro row hrow
    obtain ⟨old, hold, rfl⟩ := List.mem_map.mp hrow
    split_ifs
    · exact hof old (h.owned old hold)
    · exact h.owned old hold
  · intro rows hrows
    rcases List.mem_append.mp hrows with hearlier | hlast
    · exact h.ordered rows hearlier
    · rw [List.mem_singleton.mp hlast]
      exact dagOrdered_of_standing hdefinitions houtline

/-! ### Steps -/

theorem StandsAt.startStep (hdefinitions : WellDefined (done ++ step :: todo))
    (h : StandsAt run done step status todo state) :
    Ends (startStep settings step.stepKey) state (fun _ ↦ StandsAt run done step .running todo)
      fun _ ↦ Spoilt := by
  apply ends_read_bind
  obtain ⟨found, hfound⟩ := isSome_stepRow? h.outline_eq
  rw [hfound]
  dsimp only
  refine h.readEpoch.bind fun started after hafter ↦ ?_
  apply Ends.bind (Q := fun _ ↦ StandsAt run done step .running todo)
  · apply hafter.changeSteps hdefinitions
    · exact fun _ ↦ ⟨rfl, rfl⟩
    · exact fun _ hof ↦ hof
  · exact fun _ _ hstands ↦ hstands.flush

theorem StandsAt.finishStep (hdefinitions : WellDefined (done ++ step :: todo))
    (h : StandsAt run done step status todo state) {status' : StepStatus}
    {errorCode evidenceBundleUri : Option String} {details : Fields} :
    Ends (finishStep settings step.stepKey status' errorCode details evidenceBundleUri) state
      (fun _ ↦ StandsAt run done step status' todo)
      fun _ ↦ Spoilt := by
  apply ends_read_bind
  obtain ⟨found, hfound⟩ := isSome_stepRow? h.outline_eq
  rw [hfound]
  dsimp only
  refine h.readEpoch.bind fun finished after hafter ↦ ?_
  apply Ends.bind (Q := fun _ ↦ StandsAt run done step status' todo)
  · apply hafter.changeSteps hdefinitions
    · exact fun _ ↦ ⟨rfl, rfl⟩
    · exact fun _ hof ↦ hof
  · exact fun _ _ hstands ↦ hstands.flush

/-- The check of a step's time moves nothing. -/
theorem StandsAt.enforceStepTimeout (h : StandsAt run done step status todo state)
    (stepKey : String) :
    Ends (enforceStepTimeout settings stepKey) state (fun _ ↦ StandsAt run done step status todo)
      fun _ ↦ StandsAt run done step status todo := by
  apply ends_read_bind
  split
  · exact ends_pure h
  · apply Ends.bind (Q := fun _ ↦ StandsAt run done step status todo)
    · unfold startedOrNow
      split
      · exact ends_pure h
      · exact h.readEpoch
    · intro started after hafter
      refine hafter.readEpoch.bind fun now last hlast ↦ ?_
      exact ends_onlyIf (fun _ ↦ ends_raise hlast) fun _ ↦ hlast

/-- Where a failure is put down, the run stands at one failed step. -/
theorem StandsAt.ensureFailedRunStep (hdefinitions : WellDefined (done ++ step :: todo))
    (h : StandsAt run done step status todo state)
    (hstatus : status = .running ∨ status = .failed ∨ status = .queued ∧ done = [])
    {errorCode : String} {details : Fields} {evidenceBundleUri : Option String} :
    Ends (ensureFailedRunStep settings errorCode details evidenceBundleUri) state
      (fun _ ↦ StandsAt run done step .failed todo)
      fun _ ↦ Spoilt := by
  apply ends_read_bind
  dsimp only
  rw [any_failed_of_standing h.outline_eq]
  by_cases hfailed : status = .failed
  · rw [decide_eq_true hfailed, if_pos rfl]
    exact ends_pure (hfailed ▸ h)
  · rw [decide_eq_false hfailed, if_neg Bool.false_ne_true]
    obtain ⟨row, hblamed, hkey⟩ := blamedStep?_of_standing hdefinitions h.outline_eq
      (hstatus.imp_right fun hrest ↦ hrest.resolve_left hfailed)
    rw [hblamed]
    dsimp only
    rw [hkey]
    exact h.finishStep hdefinitions

/-! ### Processors -/

/-- A run that stands at a step that runs is interrupted at it. -/
theorem StandsAt.interrupted (hsplit : definitions = done ++ step :: todo)
    (h : StandsAt run done step .running todo state) : Interrupted definitions run state :=
  Or.inr ⟨done, step, .running, todo, hsplit, h, Or.inl rfl⟩

theorem StandsAt.next {following : RunStepDefinition}
    (h : StandsAt run done step .succeeded (following :: todo) state) :
    StandsAt run (done ++ [step]) following .queued todo state where
  identity_eq := h.identity_eq
  outline_eq := by simpa [standing] using h.outline_eq
  owned := h.owned
  ordered := h.ordered

section Sequences

variable {Q : β → RunState σ → Prop}

/-- A processor flushes within a step. -/
theorem StandsAt.flush_bind (h : StandsAt run done step status todo state)
    {next : RunEffect σ β} (hnext : ∀ after, StandsAt run done step status todo after →
      Ends next after Q fun _ ↦ Interrupted definitions run) :
    Ends (Workers.flush settings >>= fun _ ↦ next) state Q fun _ ↦ Interrupted definitions run :=
  (h.flush.mono (fun _ _ hstands ↦ hstands) fun _ _ hspoilt ↦ Or.inl hspoilt).bind fun _ ↦ hnext

variable (hsplit : definitions = done ++ step :: todo)
include hsplit

/-- A processor runs a stage within a step. -/
theorem StandsAt.runStage_bind (h : StandsAt run done step .running todo state) {body : Stage σ α}
    {next : α → RunEffect σ β} (hnext : ∀ value after, StandsAt run done step .running todo after →
      Ends (next value) after Q fun _ ↦ Interrupted definitions run) :
    Ends (Workers.runStage body >>= next) state Q fun _ ↦ Interrupted definitions run :=
  ((h.runStage body).mono (fun _ _ hstands ↦ hstands) fun _ _ hstands ↦
    hstands.interrupted hsplit).bind hnext

variable (hdefinitions : WellDefined definitions)
include hdefinitions

/-- A processor starts a step and checks its time. -/
theorem StandsAt.start_bind (h : StandsAt run done step status todo state)
    {next : RunEffect σ β} (hnext : ∀ after, StandsAt run done step .running todo after →
      Ends next after Q fun _ ↦ Interrupted definitions run) :
    Ends (do Workers.startStep settings step.stepKey
             Workers.enforceStepTimeout settings step.stepKey
             next) state Q fun _ ↦ Interrupted definitions run := by
  subst hsplit
  apply Ends.bind (Q := fun _ ↦ StandsAt run done step .running todo)
  · exact (h.startStep hdefinitions).mono (fun _ _ hstands ↦ hstands) fun _ _ ↦ Or.inl
  · intro _ started hstarted
    apply Ends.bind (Q := fun _ ↦ StandsAt run done step .running todo)
    · exact (hstarted.enforceStepTimeout step.stepKey).mono (fun _ _ hstands ↦ hstands)
        fun _ _ hstands ↦ hstands.interrupted rfl
    · exact fun _ ↦ hnext

/-- A processor finishes a step with success. -/
theorem StandsAt.succeedStep_bind (h : StandsAt run done step .running todo state)
    {details : Fields} {evidenceBundleUri : Option String}
    {next : RunEffect σ β} (hnext : ∀ after, StandsAt run done step .succeeded todo after →
      Ends next after Q fun _ ↦ Interrupted definitions run) :
    Ends (Workers.succeedStep settings step.stepKey details evidenceBundleUri >>= fun _ ↦ next) state
      Q fun _ ↦ Interrupted definitions run := by
  subst hsplit
  apply Ends.bind (Q := fun _ ↦ StandsAt run done step .succeeded todo)
  · exact (h.finishStep hdefinitions).mono (fun _ _ hstands ↦ hstands) fun _ _ ↦ Or.inl
  · exact fun _ ↦ hnext

end Sequences

end Effects

section Runs

variable {σ : Type} {settings : RunSettings} {stages : RunStages σ} {run : RunRecord}
  {state : RunState σ}

def Fresh (definitions : List RunStepDefinition) (run : RunRecord) (state : RunState σ) : Prop :=
  ∃ step todo, definitions = step :: todo ∧ StandsAt run [] step .queued todo state

/-- A run whose steps have all succeeded. -/
def Completed (definitions : List RunStepDefinition) (run : RunRecord) (state : RunState σ) : Prop :=
  ∃ done step, definitions = done ++ [step] ∧ StandsAt run done step .succeeded [] state

/-- A semantic bootstrap takes its steps in order. -/
theorem ends_processSemanticBootstrapRun
    (h : Fresh (runStepDefinitions "semantic_bootstrap") run state) :
    Ends (processSemanticBootstrapRun settings stages) state
      (fun _ ↦ Completed (runStepDefinitions "semantic_bootstrap") run)
      fun _ ↦ Interrupted (runStepDefinitions "semantic_bootstrap") run := by
  have hdefinitions := wellDefined_runStepDefinitions "semantic_bootstrap"
  obtain ⟨step, todo, heq, hstands⟩ := h
  obtain ⟨rfl, rfl⟩ := List.cons.inj heq
  refine hstands.start_bind rfl hdefinitions fun _ h ↦ ?_
  refine h.runStage_bind rfl fun datasetIds _ h ↦ ?_
  refine h.flush_bind fun _ h ↦ ?_
  refine h.succeedStep_bind rfl hdefinitions fun _ h ↦ ?_
  refine h.next.start_bind rfl hdefinitions fun _ h ↦ ?_
  refine h.runStage_bind rfl fun candidate _ h ↦ ?_
  refine h.succeedStep_bind rfl hdefinitions fun _ h ↦ ?_
  refine h.next.start_bind rfl hdefinitions fun _ h ↦ ?_
  refine h.succeedStep_bind rfl hdefinitions fun _ h ↦ ?_
  exact ends_pure ⟨_, _, rfl, h⟩

/-- The report of an ingest leaves the step running, or failed where the run is strict. -/
theorem ends_reportIngest {definitions done todo : List RunStepDefinition} {step : RunStepDefinition}
    (hdefinitions : WellDefined definitions) (hsplit : definitions = done ++ step :: todo)
    (hkey : step.stepKey = "ingest_profile_governance") {report : IngestReport}
    (h : StandsAt run done step .running todo state) :
    Ends (reportIngest settings stages report) state
      (fun _ ↦ StandsAt run done step .running todo) fun _ ↦ Interrupted definitions run := by
  unfold reportIngest
  split_ifs
  · exact ends_pure h
  · refine h.runStage_bind hsplit fun evidenceBundleUri _ h ↦ ?_
    refine h.runStage_bind hsplit fun failureTask _ h ↦ ?_
    apply Ends.bind (Q := fun _ ↦ StandsAt run done step .failed todo)
    · rw [← hkey]
      exact (h.finishStep (hsplit ▸ hdefinitions)).mono (fun _ _ hstands ↦ hstands) fun _ _ ↦ Or.inl
    · intro _ after hfailed
      exact ends_raise (Or.inr ⟨done, step, .failed, todo, hsplit, hfailed, Or.inr (Or.inl rfl)⟩)
  · exact h.runStage_bind hsplit fun evidenceBundleUri _ h ↦ ends_pure h

/-- A discover run takes its steps in order. -/
theorem ends_processDiscoverSteps (h : Fresh (runStepDefinitions "discover") run state) :
    Ends (processDiscoverSteps settings stages) state
      (fun _ ↦ Completed (runStepDefinitions "discover") run)
      fun _ ↦ Interrupted (runStepDefinitions "discover") run := by
  have hdefinitions := wellDefined_runStepDefinitions "discover"
  obtain ⟨step, todo, heq, hstands⟩ := h
  obtain ⟨rfl, rfl⟩ := List.cons.inj heq
  refine hstands.start_bind rfl hdefinitions fun _ h ↦ ?_
  refine h.runStage_bind rfl fun sources _ h ↦ ?_
  refine ends_check_bind (fun _ ↦ h.interrupted rfl) fun _ ↦ ?_
  refine h.flush_bind fun _ h ↦ ?_
  refine h.succeedStep_bind rfl hdefinitions fun _ h ↦ ?_
  refine h.next.start_bind rfl hdefinitions fun _ h ↦ ?_
  refine h.runStage_bind rfl fun report _ h ↦ ?_
  refine (ends_reportIngest hdefinitions rfl rfl h).bind fun warning _ h ↦ ?_
  refine h.succeedStep_bind rfl hdefinitions fun _ h ↦ ?_
  refine h.next.start_bind rfl hdefinitions fun _ h ↦ ?_
  refine h.runStage_bind rfl fun semanticDrift _ h ↦ ?_
  refine h.succeedStep_bind rfl hdefinitions fun _ h ↦ ?_
  refine h.next.start_bind rfl hdefinitions fun _ h ↦ ?_
  refine h.succeedStep_bind rfl hdefinitions fun _ h ↦ ?_
  exact ends_pure ⟨_, _, rfl, h⟩

/-- A refresh takes its steps in order. -/
theorem ends_processMaterializedRefreshRun
    (h : Fresh (runStepDefinitions "materialize_refresh") run state) :
    Ends (processMaterializedRefreshRun settings stages) state
      (fun _ ↦ Completed (runStepDefinitions "materialize_refresh") run)
      fun _ ↦ Interrupted (runStepDefinitions "materialize_refresh") run := by
  have hdefinitions := wellDefined_runStepDefinitions "materialize_refresh"
  obtain ⟨step, todo, heq, hstands⟩ := h
  have hnone : Interrupted (runStepDefinitions "materialize_refresh") run state :=
    Or.inr ⟨[], step, .queued, todo, heq, hstands, Or.inr (Or.inr ⟨rfl, rfl⟩)⟩
  obtain ⟨rfl, rfl⟩ := List.cons.inj heq
  refine ends_check_bind (fun _ ↦ hnone) fun _ ↦ ?_
  refine hstands.start_bind rfl hdefinitions fun _ h ↦ ?_
  refine h.runStage_bind rfl fun datasetIds _ h ↦ ?_
  refine h.succeedStep_bind rfl hdefinitions fun _ h ↦ ?_
  refine h.next.start_bind rfl hdefinitions fun _ h ↦ ?_
  refine h.runStage_bind rfl fun snapshotPath _ h ↦ ?_
  refine h.succeedStep_bind rfl hdefinitions fun _ h ↦ ?_
  refine h.next.start_bind rfl hdefinitions fun _ h ↦ ?_
  refine h.succeedStep_bind rfl hdefinitions fun _ h ↦ ?_
  exact ends_pure ⟨_, _, rfl, h⟩

/-- Every run with steps takes them in order. -/
theorem ends_executeRun (h : Fresh (runStepDefinitions run.runType) run state) :
    Ends (executeRun settings stages) state
      (fun _ ↦ Completed (runStepDefinitions run.runType) run)
      fun _ ↦ Interrupted (runStepDefinitions run.runType) run := by
  have htype : state.run.runType = run.runType := by
    obtain ⟨step, todo, -, hstands⟩ := h
    exact congrArg (fun identity ↦ identity.2.2) hstands.identity_eq
  apply ends_read_bind
  dsimp only
  rw [htype]
  split_ifs with hdiscover hbootstrap hrefresh
  · rw [hdiscover] at h ⊢
    exact ends_processDiscoverSteps h
  · rw [hbootstrap] at h ⊢
    exact ends_processSemanticBootstrapRun h
  · rw [hrefresh] at h ⊢
    exact ends_processMaterializedRefreshRun h
  · obtain ⟨step, todo, heq, -⟩ := h
    rw [runStepDefinitions] at heq
    · cases heq
    · exact hdiscover
    · exact hbootstrap
    · exact hrefresh

/-! ### The run -/

/-- An audit event changes nothing of the run. -/
theorem ends_appendRunAuditEvent (eventType : String) (payload : Fields) :
    Ends (appendRunAuditEvent settings eventType payload) state
      (fun _ after ↦ bookkeeping after = bookkeeping state)
      fun _ after ↦ after.active = false ∧ bookkeeping after = bookkeeping state :=
  ends_change_bind ends_flush

theorem ends_concludeRun {runStatus : String} {outputRefs payload : Fields} :
    Ends (concludeRun settings runStatus outputRefs payload) state
      (fun processed after ↦ processed.status = runStatus ∧ bookkeeping after =
        ({ state.run with status := runStatus, outputRefsJson := outputRefs }, state.steps,
          state.history))
      fun _ after ↦ after.active = false ∧ after.history = state.history := by
  have hhistory : ∀ {before after : RunState σ},
      after.active = false ∧ bookkeeping after = bookkeeping before →
        after.active = false ∧ after.history = before.history :=
    fun h ↦ ⟨h.1, congrArg (fun kept ↦ kept.2.2) h.2⟩
  apply ends_change_bind
  refine (ends_flush.mono (fun _ _ hkept ↦ hkept) fun _ _ ↦ hhistory).bind fun _ flushed hflushed ↦ ?_
  have hflushedHistory : flushed.history = state.history :=
    congrArg (fun kept ↦ kept.2.2) hflushed
  refine ((ends_appendRunAuditEvent _ _).mono (fun _ _ hkept ↦ hkept) fun _ _ hspoilt ↦ ?_).bind
    fun _ after hafter ↦ ?_
  · exact ⟨(hhistory hspoilt).1, (hhistory hspoilt).2.trans hflushedHistory⟩
  · have hall := hafter.trans hflushed
    exact ends_read_bind (ends_pure ⟨congrArg (fun kept ↦ kept.1.status) hall, hall⟩)

theorem StandsAt.concludeRun {done todo : List RunStepDefinition} {step : RunStepDefinition}
    {status : StepStatus} (h : StandsAt run done step status todo state) {runStatus : String}
    {outputRefs payload : Fields} :
    Ends (concludeRun settings runStatus outputRefs payload) state
      (fun processed after ↦ processed.status = runStatus ∧ after.run.status = runStatus ∧
        StandsAt run done step status todo after) fun _ ↦ Spoilt := by
  have hset : StandsAt run done step status todo { state with
      run := { state.run with status := runStatus, outputRefsJson := outputRefs } } :=
    ⟨h.identity_eq, h.outline_eq, h.owned, h.ordered⟩
  refine ends_concludeRun.mono (fun processed after ⟨hstatus, hkept⟩ ↦ ?_)
    fun _ after ⟨hactive, hhistory⟩ ↦ ⟨hactive, ?_⟩
  · exact ⟨hstatus, congrArg (fun kept ↦ kept.1.status) hkept, hset.of_bookkeeping hkept⟩
  · rw [Ordered, hhistory]
    exact h.ordered

theorem Interrupted.handleFailure {definitions : List RunStepDefinition}
    (hdefinitions : WellDefined definitions) (h : Interrupted definitions run state)
    (exception : RunError) :
    Ends (handleFailure settings exception) state
      (fun processed after ↦ processed.status = "failed" ∧ after.run.status = "failed" ∧
        ∃ done step todo, definitions = done ++ step :: todo ∧
          StandsAt run done step .failed todo after)
      fun _ ↦ Ordered := by
  have hload : Ends (loadRun settings) state (fun _ after ↦ after = state ∧ state.active = true)
      fun _ after ↦ after = state := by
    apply ends_read_bind
    split_ifs with hactive
    · exact ends_pure ⟨rfl, hactive⟩
    · exact ends_raise rfl
  refine (hload.mono (fun _ _ hstate ↦ hstate) ?_).bind ?_
  · rintro _ _ rfl
    exact h.ordered
  · rintro found _ ⟨rfl, hactive⟩
    rcases h with ⟨hspoilt, -⟩ | ⟨done, step, status, todo, rfl, hstands, hstatus⟩
    · rw [hspoilt] at hactive
      cases hactive
    · refine ((hstands.ensureFailedRunStep hdefinitions hstatus).mono (fun _ _ hfailed ↦ hfailed)
        fun _ _ hspoilt ↦ hspoilt.2).bind fun _ _ hfailed ↦ ?_
      refine hfailed.concludeRun.mono ?_ fun _ _ hspoilt ↦ hspoilt.2
      exact fun processed after ⟨hprocessed, hrun, hafter⟩ ↦
        ⟨hprocessed, hrun, done, step, todo, rfl, hafter⟩

structure Concluded (run : RunRecord) (status : String) (state : RunState σ) : Prop where
  status_eq : state.run.status = status
  identity_eq : state.run.identity = run.identity
  owned : ∀ row ∈ state.steps, row.Of run
  definitions_eq :
    state.steps.map RunStepRecord.toRunStepDefinition = runStepDefinitions run.runType
  ends : EndsOrderly status state.steps
  ordered : Ordered state

/-- The guarded part of a run ends with success, or is interrupted. -/
theorem ends_executeAndConclude (h : Fresh (runStepDefinitions run.runType) run state) :
    Ends (executeAndConclude settings stages) state
      (fun processed after ↦ Concluded run processed.status after)
      fun _ ↦ Interrupted (runStepDefinitions run.runType) run := by
  refine (ends_executeRun h).bind fun outputRefs _ ⟨done, step, hsplit, hstands⟩ ↦ ?_
  apply ends_read_bind
  refine hstands.concludeRun.mono ?_ fun _ _ hspoilt ↦ Or.inl hspoilt
  rintro processed after ⟨hprocessed, hrun, hafter⟩
  exact {
    status_eq := hrun.trans hprocessed.symm
    identity_eq := hafter.identity_eq
    owned := hafter.owned
    definitions_eq := (definitions_of_standing hafter.outline_eq).trans hsplit.symm
    ends := Or.inl ⟨hprocessed, all_succeeded_of_standing hafter.outline_eq⟩
    ordered := hafter.ordered }

theorem outline_newStepRows (settings : RunSettings) (run : RunRecord) (idsDrawn : ℕ) :
    outline (newStepRows settings run idsDrawn) =
      (runStepDefinitions run.runType).map fun definition ↦ (definition, .queued) := by
  ext i
  simp [outline, newStepRows]

theorem owned_newStepRows (settings : RunSettings) (run : RunRecord) (idsDrawn : ℕ) :
    ∀ row ∈ newStepRows settings run idsDrawn, row.Of run := by
  intro row hrow
  obtain ⟨i, hi, rfl⟩ := List.exists_of_mem_mapIdx hrow
  exact ⟨rfl, rfl⟩

/-- The rows of a run are created queued. -/
theorem ends_ensureRunSteps (hsome : runStepDefinitions run.runType ≠ [])
    (hrun : state.run.identity = run.identity) (hsteps : state.steps = [])
    (hhistory : state.history = []) :
    Ends (ensureRunSteps settings) state (fun _ ↦ Fresh (runStepDefinitions run.runType) run)
      fun _ ↦ Spoilt := by
  obtain ⟨hrunId, hrest⟩ := Prod.ext_iff.mp hrun
  obtain ⟨hworkspaceId, htype⟩ := Prod.ext_iff.mp hrest
  dsimp only [RunRecord.identity] at hrunId hworkspaceId htype
  obtain ⟨step, todo, hsplit⟩ := List.exists_cons_of_ne_nil hsome
  have hdefinitions : WellDefined ([] ++ step :: todo) :=
    hsplit ▸ wellDefined_runStepDefinitions run.runType
  have houtline : outline (newStepRows settings state.run state.idsDrawn) =
      standing [] step .queued todo := by
    rw [outline_newStepRows, htype, hsplit]
    rfl
  have howned : ∀ row ∈ newStepRows settings state.run state.idsDrawn, row.Of run := by
    intro row hrow
    have hof := owned_newStepRows settings state.run state.idsDrawn row hrow
    exact ⟨hof.1.trans hworkspaceId, hof.2.trans hrunId⟩
  apply ends_read_bind
  rw [if_pos hsteps]
  apply ends_change_bind
  apply ends_change_bind
  refine Ends.mono (Q := fun _ ↦ StandsAt run [] step .queued todo) (StandsAt.flush ?_) ?_
    fun _ _ hspoilt ↦ hspoilt
  · refine ⟨hrun, houtline, howned, fun rows hrows ↦ ?_⟩
    rw [hhistory] at hrows
    rw [List.mem_singleton.mp hrows]
    exact dagOrdered_of_standing hdefinitions houtline
  · exact fun _ _ hstands ↦ ⟨step, todo, hsplit, hstands⟩

theorem ends_processQueuedRun (hsome : runStepDefinitions run.runType ≠ [])
    (hrun : state.run = run) (hsteps : state.steps = []) (hhistory : state.history = []) :
    Ends (processQueuedRun settings stages) state
      (fun processed after ↦ Concluded run processed.status after) fun _ ↦ Ordered := by
  have hdefinitions := wellDefined_runStepDefinitions run.runType
  subst hrun
  apply ends_read_bind
  apply ends_change_bind
  apply Ends.bind (Q := fun _ ↦ Fresh (runStepDefinitions state.run.runType) state.run)
  · refine (ends_ensureRunSteps hsome ?_ ?_ ?_).mono (fun _ _ hfresh ↦ hfresh)
      fun _ _ hspoilt ↦ hspoilt.2
    · rfl
    · exact hsteps
    · exact hhistory
  rintro _ _ ⟨step, todo, heq, hcreated⟩
  refine (hcreated.flush.mono (fun _ _ hstands ↦ hstands) fun _ _ hspoilt ↦ hspoilt.2).bind
    fun _ _ hflushed ↦ ?_
  refine ((ends_appendRunAuditEvent _ _).mono (fun _ _ ↦ hflushed.of_bookkeeping)
    fun _ _ hspoilt ↦ (hflushed.spoilt hspoilt).2).bind fun _ _ hstarted ↦ ?_
  refine (ends_executeAndConclude ⟨step, todo, heq, hstarted⟩).tryExcept ?_
  intro exception interrupted hinterrupted
  refine (hinterrupted.handleFailure hdefinitions exception).mono ?_ fun _ _ hordered ↦ hordered
  rintro processed after ⟨hprocessed, hrun, done, failed, rest, hsplit, hafter⟩
  exact {
    status_eq := hrun.trans hprocessed.symm
    identity_eq := hafter.identity_eq
    owned := hafter.owned
    definitions_eq := (definitions_of_standing hafter.outline_eq).trans hsplit.symm
    ends := Or.inr ⟨hprocessed, failedOnce_of_standing (hsplit ▸ hdefinitions) hafter.outline_eq⟩
    ordered := hafter.ordered }

def Bare (run : RunRecord) (state : RunState σ) : Prop :=
  state.run.identity = run.identity ∧ state.steps = []

theorem Bare.of_bookkeeping (h : Bare run state) {after : RunState σ}
    (hsame : bookkeeping after = bookkeeping state) : Bare run after :=
  ⟨(congrArg (fun kept ↦ kept.1.identity) hsame).trans h.1,
    (congrArg (fun kept ↦ kept.2.1) hsame).trans h.2⟩

theorem Bare.executeRun (hnone : runStepDefinitions run.runType = []) (h : Bare run state) :
    Ends (executeRun settings stages) state (fun _ _ ↦ False) fun _ ↦ Bare run := by
  have htype : state.run.runType = run.runType := congrArg (fun identity ↦ identity.2.2) h.1
  apply ends_read_bind
  dsimp only
  rw [htype]
  split_ifs with hdiscover hbootstrap hrefresh
  · rw [hdiscover] at hnone
    cases hnone
  · rw [hbootstrap] at hnone
    cases hnone
  · rw [hrefresh] at hnone
    cases hnone
  · exact ends_raise h

/-- A failure of a run without steps. -/
theorem Bare.handleFailure (h : Bare run state) (exception : RunError) :
    Ends (handleFailure settings exception) state
      (fun _ after ↦ after.run.status = "failed" ∧ Bare run after) fun _ _ ↦ True := by
  apply Ends.bind (Q := fun _ ↦ Bare run)
  · apply ends_read_bind
    split_ifs
    · exact ends_pure h
    · exact ends_raise trivial
  · intro found loaded hloaded
    apply Ends.bind (Q := fun _ ↦ Bare run)
    · apply ends_read_bind
      rw [hloaded.2]
      exact ends_pure hloaded
    · intro _ settled hsettled
      refine ends_concludeRun.mono (fun processed after ⟨_, hkept⟩ ↦ ?_) fun _ _ _ ↦ trivial
      exact ⟨congrArg (fun kept ↦ kept.1.status) hkept,
        (congrArg (fun kept ↦ kept.1.identity) hkept).trans hsettled.1,
        (congrArg (fun kept ↦ kept.2.1) hkept).trans hsettled.2⟩

theorem ends_processQueuedRun_of_unknown (hnone : runStepDefinitions run.runType = [])
    (hrun : state.run = run) (hsteps : state.steps = []) :
    Ends (processQueuedRun settings stages) state
      (fun _ after ↦ after.run.status = "failed" ∧ Bare run after) fun _ _ ↦ True := by
  subst hrun
  apply ends_read_bind
  apply ends_change_bind
  apply Ends.bind (Q := fun _ ↦ Bare state.run)
  · apply ends_read_bind
    rw [if_pos hsteps]
    apply ends_change_bind
    apply ends_change_bind
    refine ends_flush.mono (fun _ after hkept ↦ ?_) fun _ _ _ ↦ trivial
    refine Bare.of_bookkeeping ?_ hkept
    exact ⟨rfl, List.mapIdx_eq_nil_iff.mpr hnone⟩
  intro _ created hcreated
  refine (ends_flush.mono (fun _ _ ↦ hcreated.of_bookkeeping) fun _ _ _ ↦ trivial).bind
    fun _ _ hflushed ↦ ?_
  refine ((ends_appendRunAuditEvent _ _).mono (fun _ _ ↦ hflushed.of_bookkeeping)
    fun _ _ _ ↦ trivial).bind fun _ started hstarted ↦ ?_
  apply Ends.tryExcept (F := fun _ ↦ Bare state.run)
  · exact (hstarted.executeRun hnone).bind fun _ _ hnever ↦ hnever.elim
  · exact fun exception failed hfailed ↦ hfailed.handleFailure exception

end Runs

end SchemaPilot.Workers
