import SchemaPilot.Library.Json
import SchemaPilot.Library.Versions
import Mathlib.Data.Fintype.Card

/-!
# The queue of runs

`process_queued_runs_once` of `backend/workers/service.py` and the functions of
`backend/workers/run_processor.py` it calls, up to the execution of a run. A tick of a worker is one
transaction: it selects the queued runs, counts the running ones of a workspace, marks a run as
running, executes it, and commits when it has processed enough or found nothing. Several workers share
the database. A session sees what is committed and what it has written itself, and a row that one
session has written is locked for the others until that session ends. The runs a tick schedules are
taken to be queued before it.
-/

namespace SchemaPilot.Workers

open Library Library.Json Library.Versions

/-- A row of `runs_runs`. -/
structure RunRecord where
  runId : String
  workspaceId : String
  runType : String
  status : String
  outputRefsJson : Fields

inductive WorkerPhase where
  /-- The next candidate is to be selected, or the tick is over. -/
  | polling
  /-- The running runs of the first candidate's workspace are to be counted. -/
  | choosing (candidates : List RunRecord)
  /-- The run is to be marked as running. -/
  | chosen (run : RunRecord)
  | executing (run : RunRecord)
  /-- The tick is to be committed. -/
  | closing

/-- The session of a worker: the rows it has written, the last version first, and the runs it has
processed in the tick. -/
structure WorkerSession where
  phase : WorkerPhase
  flushed : List RunRecord
  processed : ℕ

def WorkerSession.idle : WorkerSession := ⟨.polling, [], 0⟩

/-- The keys of the rows a session has written. -/
def WorkerSession.locks (session : WorkerSession) : List String :=
  session.flushed.map RunRecord.runId

/-- The committed table under what a session has written. -/
def WorkerSession.view (session : WorkerSession) (table : List RunRecord) : List RunRecord :=
  table.map fun row ↦ (session.flushed.find? fun written ↦ written.runId = row.runId).getD row

def WorkerSession.Executes (workspaceId : String) (session : WorkerSession) : Prop :=
  match session.phase with
  | .executing run => run.workspaceId = workspaceId
  | _ => False

instance (workspaceId : String) (session : WorkerSession) :
    Decidable (session.Executes workspaceId) := by
  unfold WorkerSession.Executes
  split <;> infer_instance

def queuedRuns (rows : List RunRecord) : List RunRecord :=
  (rows.filter fun row ↦ row.status = "queued").insertionSort fun first second ↦
    first.runId ≤ second.runId

def runningCount (workspaceId : String) (rows : List RunRecord) : ℕ :=
  (rows.filter fun row ↦ row.workspaceId = workspaceId ∧ row.status = "running").length

/-- `workspace_limit`. -/
def workspaceLimit (maxActivePerWorkspace : ℤ) : ℕ := (max maxActivePerWorkspace 1).toNat

/-- The table, the sessions of the workers, and which worker has executed which run so far. -/
structure QueueState (δ : Type) where
  table : List RunRecord
  sessions : δ → WorkerSession
  executions : List (δ × String)

/-- A step of the queue. A tick that is aborted is rolled back. -/
inductive QueueAction (δ : Type) where
  | queue (runId workspaceId runType : String)
  | select (worker : δ)
  | count (worker : δ)
  | mark (worker : δ)
  | finish (worker : δ) (succeeded : Bool) (outputRefs : Fields)
  | commit (worker : δ)
  | abort (worker : δ)

section Steps

variable {δ : Type} [DecidableEq δ] [Fintype δ]

/-- A worker's session becomes another one. -/
def QueueState.setSession (state : QueueState δ) (worker : δ) (session : WorkerSession) :
    QueueState δ :=
  { state with sessions := Function.update state.sessions worker session }

/-- Another session has written the row. -/
def QueueState.Locked (state : QueueState δ) (worker : δ) (runId : String) : Prop :=
  ∃ other, other ≠ worker ∧ runId ∈ (state.sessions other).locks

instance (state : QueueState δ) (worker : δ) (runId : String) : Decidable (state.Locked worker runId) :=
  inferInstanceAs (Decidable (∃ other, other ≠ worker ∧ runId ∈ (state.sessions other).locks))

/-- The selection of `process_next_queued_run`, while the tick may process another run. -/
def selectRuns (maxRuns : ℕ) (state : QueueState δ) (worker : δ) : QueueState δ :=
  let session := state.sessions worker
  if session.processed < maxRuns then
    state.setSession worker
      { session with phase := .choosing (queuedRuns (session.view state.table)) }
  else state.setSession worker { session with phase := .closing }

/-- One pass of the loop over the candidates. -/
def countRunning (maxActivePerWorkspace : ℤ) (state : QueueState δ) (worker : δ) :
    List RunRecord → QueueState δ
  | [] => state.setSession worker { state.sessions worker with phase := .closing }
  | candidate :: rest =>
    let session := state.sessions worker
    if runningCount candidate.workspaceId (session.view state.table) <
        workspaceLimit maxActivePerWorkspace then
      state.setSession worker { session with phase := .chosen candidate }
    else state.setSession worker { session with phase := .choosing rest }

/-- `_process_queued_run` up to the execution; the update waits for a row that is locked. -/
def markRunning (state : QueueState δ) (worker : δ) (run : RunRecord) : QueueState δ :=
  if state.Locked worker run.runId then state
  else
    let session := state.sessions worker
    { state with
      sessions := Function.update state.sessions worker
        { session with
          phase := .executing run
          flushed := { run with status := "running" } :: session.flushed }
      executions := state.executions ++ [(worker, run.runId)] }

def finishRun (state : QueueState δ) (worker : δ) (succeeded : Bool) (outputRefs : Fields)
    (run : RunRecord) : QueueState δ :=
  let session := state.sessions worker
  state.setSession worker
    { phase := .polling
      flushed :=
        { run with
          status := if succeeded then "succeeded" else "failed"
          outputRefsJson := outputRefs } :: session.flushed
      processed := session.processed + 1 }

def commitTick (state : QueueState δ) (worker : δ) : QueueState δ :=
  { state with
    table := (state.sessions worker).view state.table
    sessions := Function.update state.sessions worker .idle }

def queueStep (maxRuns : ℕ) (maxActivePerWorkspace : ℤ) (state : QueueState δ) :
    QueueAction δ → QueueState δ
  | .queue runId workspaceId runType =>
    if runId ∈ state.table.map RunRecord.runId then state
    else { state with table := state.table ++ [⟨runId, workspaceId, runType, "queued", []⟩] }
  | .select worker =>
    match (state.sessions worker).phase with
    | .polling => selectRuns maxRuns state worker
    | _ => state
  | .count worker =>
    match (state.sessions worker).phase with
    | .choosing candidates => countRunning maxActivePerWorkspace state worker candidates
    | _ => state
  | .mark worker =>
    match (state.sessions worker).phase with
    | .chosen run => markRunning state worker run
    | _ => state
  | .finish worker succeeded outputRefs =>
    match (state.sessions worker).phase with
    | .executing run => finishRun state worker succeeded outputRefs run
    | _ => state
  | .commit worker =>
    match (state.sessions worker).phase with
    | .closing => commitTick state worker
    | _ => state
  | .abort worker => state.setSession worker .idle

def runQueue (maxRuns : ℕ) (maxActivePerWorkspace : ℤ) (start : QueueState δ)
    (actions : List (QueueAction δ)) : QueueState δ :=
  run (queueStep maxRuns maxActivePerWorkspace) start actions

inductive QueueMove (maxRuns : ℕ) (maxActivePerWorkspace : ℤ) (state : QueueState δ) :
    QueueAction δ → QueueState δ → Prop
  | idle (action : QueueAction δ) : QueueMove maxRuns maxActivePerWorkspace state action state
  | queued {runId workspaceId runType : String}
      (fresh : runId ∉ state.table.map RunRecord.runId) :
      QueueMove maxRuns maxActivePerWorkspace state (.queue runId workspaceId runType)
        { state with table := state.table ++ [⟨runId, workspaceId, runType, "queued", []⟩] }
  | selected {worker : δ} (polling : (state.sessions worker).phase = .polling) :
      QueueMove maxRuns maxActivePerWorkspace state (.select worker)
        (state.setSession worker { state.sessions worker with
          phase := .choosing (queuedRuns ((state.sessions worker).view state.table)) })
  | passed {action : QueueAction δ} {worker : δ}
      (free : ∀ workspaceId, ¬(state.sessions worker).Executes workspaceId) :
      QueueMove maxRuns maxActivePerWorkspace state action
        (state.setSession worker { state.sessions worker with phase := .closing })
  | picked {worker : δ} {candidate : RunRecord} {rest : List RunRecord}
      (choosing : (state.sessions worker).phase = .choosing (candidate :: rest)) :
      QueueMove maxRuns maxActivePerWorkspace state (.count worker)
        (state.setSession worker { state.sessions worker with phase := .chosen candidate })
  | skipped {worker : δ} {candidate : RunRecord} {rest : List RunRecord}
      (choosing : (state.sessions worker).phase = .choosing (candidate :: rest)) :
      QueueMove maxRuns maxActivePerWorkspace state (.count worker)
        (state.setSession worker { state.sessions worker with phase := .choosing rest })
  | marked {worker : δ} {chosen : RunRecord}
      (phase_eq : (state.sessions worker).phase = .chosen chosen)
      (unlocked : ¬state.Locked worker chosen.runId) :
      QueueMove maxRuns maxActivePerWorkspace state (.mark worker)
        { state with
          sessions := Function.update state.sessions worker
            { state.sessions worker with
              phase := .executing chosen
              flushed := { chosen with status := "running" } :: (state.sessions worker).flushed }
          executions := state.executions ++ [(worker, chosen.runId)] }
  | finished {worker : δ} {executed : RunRecord} {succeeded : Bool} {outputRefs : Fields}
      (phase_eq : (state.sessions worker).phase = .executing executed) :
      QueueMove maxRuns maxActivePerWorkspace state (.finish worker succeeded outputRefs)
        (finishRun state worker succeeded outputRefs executed)
  | committed {worker : δ} (closing : (state.sessions worker).phase = .closing) :
      QueueMove maxRuns maxActivePerWorkspace state (.commit worker) (commitTick state worker)
  | aborted (worker : δ) :
      QueueMove maxRuns maxActivePerWorkspace state (.abort worker)
        (state.setSession worker .idle)

/-- Every step is one of the cases. -/
theorem queueMove_step (maxRuns : ℕ) (maxActivePerWorkspace : ℤ) (state : QueueState δ)
    (action : QueueAction δ) :
    QueueMove maxRuns maxActivePerWorkspace state action
      (queueStep maxRuns maxActivePerWorkspace state action) := by
  cases action with
  | queue runId workspaceId runType =>
    rw [queueStep]
    split_ifs with htaken
    · exact .idle _
    · exact .queued htaken
  | select worker =>
    rw [queueStep]
    split
    · next hphase =>
      simp only [selectRuns]
      split_ifs
      · exact .selected hphase
      · exact .passed fun workspaceId ↦ by simp [WorkerSession.Executes, hphase]
    · exact .idle _
  | count worker =>
    rw [queueStep]
    split
    · next candidates hphase =>
      cases candidates with
      | nil => exact .passed fun workspaceId ↦ by simp [WorkerSession.Executes, hphase]
      | cons candidate rest =>
        simp only [countRunning]
        split_ifs
        · exact .picked hphase
        · exact .skipped hphase
    · exact .idle _
  | mark worker =>
    rw [queueStep]
    split
    · next chosen hphase =>
      rw [markRunning]
      split_ifs with hlocked
      · exact .idle _
      · exact .marked hphase hlocked
    · exact .idle _
  | finish worker succeeded outputRefs =>
    rw [queueStep]
    split
    · next executed hphase => exact .finished hphase
    · exact .idle _
  | commit worker =>
    rw [queueStep]
    split
    · next hphase => exact .committed hphase
    · exact .idle _
  | abort worker => exact .aborted worker

end Steps

end SchemaPilot.Workers
