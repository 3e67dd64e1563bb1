import SchemaPilot.Workers.RunQueue
import Mathlib.Algebra.GroupWithZero.Nat

/-!
# Which runs are executed once

The status a worker gives a run is committed only when its tick is over, so another worker that has
selected the run before, or counts the running runs meanwhile, acts on what is no longer so. In a run
where every worker that marks a run finds it still queued and the limit of the workspace not reached by
what other workers execute, and no tick is rolled back after it has marked a run, every run is executed
once and the limit holds (`runsExclusive_of_current`).
-/

namespace SchemaPilot.Workers

open Library Library.Json Library.Versions

def WorkerSession.candidates (session : WorkerSession) : List RunRecord :=
  match session.phase with
  | .choosing candidates => candidates
  | .chosen run => [run]
  | _ => []

def WorkerSession.chosen? (session : WorkerSession) : Option RunRecord :=
  match session.phase with
  | .chosen run => some run
  | _ => none

theorem chosen?_eq {session : WorkerSession} {run : RunRecord} (h : session.phase = .chosen run) :
    run ∈ session.chosen? := by
  rw [WorkerSession.chosen?, h]
  rfl

/-- What a session has written is not queued, what it may still mark it has not written, and what it
executes it has. -/
structure WorkerSession.Sound (session : WorkerSession) : Prop where
  written : ∀ row ∈ session.flushed, row.status ≠ "queued"
  candidates : ∀ candidate ∈ session.candidates, candidate.runId ∉ session.locks
  executing : ∀ executed, session.phase = .executing executed → executed.runId ∈ session.locks

theorem WorkerSession.sound_idle : WorkerSession.idle.Sound where
  written := fun _ hrow ↦ absurd hrow List.not_mem_nil
  candidates := fun _ hcandidate ↦ absurd hcandidate List.not_mem_nil
  executing := fun _ hphase ↦ by cases hphase

/-- A row of the view has the key of the stored row, and is that row unless the session has written
it. -/
theorem viewed (session : WorkerSession) (stored : RunRecord) :
    ((session.flushed.find? fun written ↦ written.runId = stored.runId).getD stored).runId =
        stored.runId ∧
      ((session.flushed.find? fun written ↦ written.runId = stored.runId).getD stored ∈
          session.flushed ∨
        (session.flushed.find? fun written ↦ written.runId = stored.runId).getD stored = stored ∧
          stored.runId ∉ session.locks) := by
  cases hwritten : session.flushed.find? fun written ↦ written.runId = stored.runId with
  | none =>
    refine ⟨rfl, Or.inr ⟨rfl, fun hlocked ↦ ?_⟩⟩
    obtain ⟨written, hmem, hkey⟩ := List.mem_map.mp hlocked
    exact List.find?_eq_none.mp hwritten written hmem (decide_eq_true hkey)
  | some written =>
    have hkey := List.find?_some hwritten
    rw [decide_eq_true_iff] at hkey
    exact ⟨hkey, Or.inl (List.mem_of_find?_eq_some hwritten)⟩

theorem mem_view {session : WorkerSession} {table : List RunRecord} {row : RunRecord}
    (h : row ∈ session.view table) : ∃ stored ∈ table, row.runId = stored.runId ∧
      (row ∈ session.flushed ∨ row = stored ∧ stored.runId ∉ session.locks) := by
  obtain ⟨stored, hstored, rfl⟩ := List.mem_map.mp h
  exact ⟨stored, hstored, viewed session stored⟩

theorem exists_view (session : WorkerSession) {table : List RunRecord} {stored : RunRecord}
    (h : stored ∈ table) : ∃ row ∈ session.view table, row.runId = stored.runId ∧
      (row ∈ session.flushed ∨ row = stored ∧ stored.runId ∉ session.locks) :=
  ⟨_, List.mem_map_of_mem h, viewed session stored⟩

theorem view_keys (session : WorkerSession) (table : List RunRecord) :
    (session.view table).map RunRecord.runId = table.map RunRecord.runId := by
  rw [WorkerSession.view, List.map_map]
  exact List.map_congr_left fun row _ ↦ (viewed session row).1

theorem WorkerSession.Sound.selected {session : WorkerSession} (h : session.Sound)
    {table : List RunRecord} {row : RunRecord} (hrow : row ∈ queuedRuns (session.view table)) :
    row.runId ∉ session.locks := by
  obtain ⟨hview, hqueued⟩ := List.mem_filter.mp ((List.mem_insertionSort _).mp hrow)
  rw [decide_eq_true_iff] at hqueued
  obtain ⟨stored, -, hkey, hwritten | ⟨rfl, hunlocked⟩⟩ := mem_view hview
  · exact absurd hqueued (h.written row hwritten)
  · exact hunlocked

section Invariant

variable {δ : Type} [DecidableEq δ]

/-- The run is no longer queued, or a session that has marked it is open. -/
def Taken (state : QueueState δ) (runId : String) : Prop :=
  (∃ row ∈ state.table, row.runId = runId ∧ row.status ≠ "queued") ∨
    ∃ worker, runId ∈ (state.sessions worker).locks

/-- Sessions are sound and write rows of the table, and what was executed is taken. -/
structure QueueSound (state : QueueState δ) : Prop where
  keys_nodup : (state.table.map RunRecord.runId).Nodup
  sessions : ∀ worker, (state.sessions worker).Sound
  rows : ∀ worker, ∀ runId ∈ (state.sessions worker).locks, runId ∈ state.table.map RunRecord.runId
  executed : ∀ entry ∈ state.executions, Taken state entry.2
  once : (state.executions.map Prod.snd).Nodup

/-- What holds of the sessions before and of the new one holds of all. -/
theorem forall_session_update {P : WorkerSession → Prop} {sessions : δ → WorkerSession} {worker : δ}
    {session : WorkerSession} (h : ∀ other, P (sessions other)) (hsession : P session) :
    ∀ other, P (Function.update sessions worker session other) := by
  intro other
  by_cases hsame : other = worker
  · rwa [hsame, Function.update_self]
  · rw [Function.update_of_ne hsame]
    exact h other

variable {state : QueueState δ} {worker : δ} {session : WorkerSession} {runId : String}

/-- What is taken stays so while the session holds on to its locks. -/
theorem Taken.setSession (h : Taken state runId)
    (hlocks : (state.sessions worker).locks ⊆ session.locks) :
    Taken (state.setSession worker session) runId := by
  refine h.imp_right fun ⟨other, hlocked⟩ ↦ ⟨other, ?_⟩
  change runId ∈ (Function.update state.sessions worker session other).locks
  by_cases hsame : other = worker
  · rw [hsame, Function.update_self]
    exact hlocks (hsame ▸ hlocked)
  · rwa [Function.update_of_ne hsame]

theorem QueueSound.setSession (h : QueueSound state) (hsound : session.Sound)
    (hlocks : (state.sessions worker).locks ⊆ session.locks)
    (hrows : ∀ runId ∈ session.locks, runId ∈ state.table.map RunRecord.runId) :
    QueueSound (state.setSession worker session) where
  keys_nodup := h.keys_nodup
  sessions := forall_session_update h.sessions hsound
  rows := forall_session_update
    (P := fun session ↦ ∀ runId ∈ session.locks, runId ∈ state.table.map RunRecord.runId) h.rows
    hrows
  executed := fun entry hentry ↦ (h.executed entry hentry).setSession hlocks
  once := h.once

omit [DecidableEq δ] in
theorem QueueSound.not_executed (h : QueueSound state) {row : RunRecord} (hrow : row ∈ state.table)
    (hqueued : row.status = "queued")
    (hfree : ∀ worker, row.runId ∉ (state.sessions worker).locks) :
    row.runId ∉ state.executions.map Prod.snd := by
  intro hexecuted
  obtain ⟨entry, hentry, hkey⟩ := List.mem_map.mp hexecuted
  obtain ⟨taken, htaken, hsame, hstatus⟩ | ⟨other, hlocked⟩ := h.executed entry hentry
  · have heq := List.inj_on_of_nodup_map h.keys_nodup htaken hrow (hsame.trans hkey)
    exact hstatus (heq ▸ hqueued)
  · exact hfree other (hkey ▸ hlocked)

/-- A commit makes what the session has marked no longer queued. -/
theorem Taken.commit (h : QueueSound state) (htaken : Taken state runId) :
    Taken (commitTick state worker) runId := by
  have hkept : ∀ stored ∈ state.table, stored.runId = runId →
      stored.status ≠ "queued" ∨ runId ∈ (state.sessions worker).locks →
      Taken (commitTick state worker) runId := by
    intro stored hstored hkey hstatus
    obtain ⟨row, hrow, hsame, hwritten | ⟨rfl, hunlocked⟩⟩ :=
      exists_view (state.sessions worker) hstored
    · exact Or.inl ⟨row, hrow, hsame.trans hkey, (h.sessions worker).written row hwritten⟩
    · exact Or.inl ⟨row, hrow, hkey, hstatus.resolve_right (hkey ▸ hunlocked)⟩
  obtain ⟨stored, hstored, hkey, hstatus⟩ | ⟨other, hlocked⟩ := htaken
  · exact hkept stored hstored hkey (Or.inl hstatus)
  · by_cases hsame : other = worker
    · subst hsame
      obtain ⟨stored, hstored, hkey⟩ := List.mem_map.mp (h.rows other runId hlocked)
      exact hkept stored hstored hkey (Or.inr hlocked)
    · refine Or.inr ⟨other, ?_⟩
      change runId ∈ (Function.update state.sessions worker .idle other).locks
      rwa [Function.update_of_ne hsame]

theorem QueueSound.commit (h : QueueSound state) : QueueSound (commitTick state worker) where
  keys_nodup := (view_keys _ _).symm ▸ h.keys_nodup
  sessions := forall_session_update h.sessions WorkerSession.sound_idle
  rows := by
    change ∀ other, ∀ runId ∈ (Function.update state.sessions worker .idle other).locks,
      runId ∈ ((state.sessions worker).view state.table).map RunRecord.runId
    rw [view_keys]
    exact forall_session_update
      (P := fun session ↦ ∀ runId ∈ session.locks, runId ∈ state.table.map RunRecord.runId) h.rows
      fun _ hlocked ↦ absurd hlocked List.not_mem_nil
  executed := fun entry hentry ↦ (h.executed entry hentry).commit h
  once := h.once

end Invariant

section Exclusion

variable {δ : Type} [DecidableEq δ] [Fintype δ]

def executingWorkers (state : QueueState δ) (workspaceId : String) : Finset δ :=
  Finset.univ.filter fun worker ↦ (state.sessions worker).Executes workspaceId

/-- No run is executed twice, and the limit of no workspace is exceeded. -/
structure RunsExclusive (maxRuns : ℕ) (maxActivePerWorkspace : ℤ) (start : QueueState δ)
    (actions : List (QueueAction δ)) : Prop where
  once : ((runQueue maxRuns maxActivePerWorkspace start actions).executions.map Prod.snd).Nodup
  limited : ∀ earlier, earlier <+: actions → ∀ workspaceId,
    (executingWorkers (runQueue maxRuns maxActivePerWorkspace start earlier) workspaceId).card ≤
      workspaceLimit maxActivePerWorkspace

/-- A worker that marks a run finds it queued in the table, and the limit of its workspace not reached
when what the other workers execute is counted too; no tick is rolled back once it has marked a run. -/
def Current (maxActivePerWorkspace : ℤ) (state : QueueState δ) : QueueAction δ → Prop
  | .mark worker => ∀ run ∈ (state.sessions worker).chosen?, ¬state.Locked worker run.runId →
    (∃ row ∈ state.table, row.runId = run.runId ∧ row.status = "queued") ∧
      runningCount run.workspaceId ((state.sessions worker).view state.table) +
        ((executingWorkers state run.workspaceId).erase worker).card <
          workspaceLimit maxActivePerWorkspace
  | .abort worker => (state.sessions worker).flushed = []
  | _ => True

instance (maxActivePerWorkspace : ℤ) (state : QueueState δ) (action : QueueAction δ) :
    Decidable (Current maxActivePerWorkspace state action) := by
  cases action with
  | mark worker =>
    exact inferInstanceAs (Decidable (∀ run ∈ (state.sessions worker).chosen?,
      ¬state.Locked worker run.runId →
      (∃ row ∈ state.table, row.runId = run.runId ∧ row.status = "queued") ∧
        runningCount run.workspaceId ((state.sessions worker).view state.table) +
          ((executingWorkers state run.workspaceId).erase worker).card <
            workspaceLimit maxActivePerWorkspace))
  | abort worker => exact inferInstanceAs (Decidable ((state.sessions worker).flushed = []))
  | queue => exact inferInstanceAs (Decidable True)
  | select => exact inferInstanceAs (Decidable True)
  | count => exact inferInstanceAs (Decidable True)
  | finish => exact inferInstanceAs (Decidable True)
  | commit => exact inferInstanceAs (Decidable True)

section Runs

variable {maxRuns : ℕ} {maxActivePerWorkspace : ℤ} {state after : QueueState δ}
  {action : QueueAction δ} {worker : δ} {session : WorkerSession} {workspaceId : String}

theorem QueueSound.mark (h : QueueSound state) {chosen : RunRecord}
    (hphase : (state.sessions worker).phase = .chosen chosen)
    (hunlocked : ¬state.Locked worker chosen.runId)
    (hcurrent : Current maxActivePerWorkspace state (.mark worker)) :
    QueueSound { state with
      sessions := Function.update state.sessions worker
        { state.sessions worker with
          phase := .executing chosen
          flushed := { chosen with status := "running" } :: (state.sessions worker).flushed }
      executions := state.executions ++ [(worker, chosen.runId)] } := by
  obtain ⟨⟨row, hrow, hkey, hqueued⟩, -⟩ := hcurrent chosen (chosen?_eq hphase) hunlocked
  have hown : chosen.runId ∉ (state.sessions worker).locks := by
    refine (h.sessions worker).candidates chosen ?_
    rw [WorkerSession.candidates, hphase]
    exact List.mem_singleton_self _
  have hfree : ∀ other, chosen.runId ∉ (state.sessions other).locks := by
    intro other hlocked
    by_cases hsame : other = worker
    · exact hown (hsame ▸ hlocked)
    · exact hunlocked ⟨other, hsame, hlocked⟩
  have hnew : chosen.runId ∉ state.executions.map Prod.snd := by
    rw [← hkey] at hfree ⊢
    exact h.not_executed hrow hqueued hfree
  have hmarked : QueueSound (state.setSession worker { state.sessions worker with
      phase := .executing chosen
      flushed := { chosen with status := "running" } :: (state.sessions worker).flushed }) := by
    refine h.setSession ⟨?_, ?_, ?_⟩ (List.subset_cons_self _ _) ?_
    · intro written hwritten
      obtain rfl | hearlier := List.mem_cons.mp hwritten
      · change "running" ≠ "queued"
        decide
      · exact (h.sessions worker).written written hearlier
    · exact fun candidate hcandidate ↦ absurd hcandidate List.not_mem_nil
    · intro executed hexecuted
      cases hexecuted
      exact List.mem_cons_self
    · intro runId hlocked
      obtain rfl | hearlier := List.mem_cons.mp hlocked
      · exact List.mem_map.mpr ⟨row, hrow, hkey⟩
      · exact h.rows worker runId hearlier
  refine ⟨hmarked.keys_nodup, hmarked.sessions, hmarked.rows, ?_, ?_⟩
  · intro entry hentry
    obtain hearlier | hlast := List.mem_append.mp hentry
    · exact hmarked.executed entry hearlier
    · rw [List.mem_singleton.mp hlast]
      refine Or.inr ⟨worker, ?_⟩
      change chosen.runId ∈ (Function.update state.sessions worker _ worker).locks
      rw [Function.update_self]
      exact List.mem_cons_self
  · change ((state.executions ++ [(worker, chosen.runId)]).map Prod.snd).Nodup
    rw [List.map_append]
    exact h.once.append (List.nodup_singleton _) (List.disjoint_singleton.mpr hnew)

omit [Fintype δ] in
/-- The end of an execution keeps the queue sound. -/
theorem QueueSound.finish (h : QueueSound state) {executed : RunRecord} {succeeded : Bool}
    {outputRefs : Fields} (hphase : (state.sessions worker).phase = .executing executed) :
    QueueSound (finishRun state worker succeeded outputRefs executed) := by
  refine h.setSession ⟨?_, ?_, ?_⟩ (List.subset_cons_self _ _) ?_
  · intro written hwritten
    obtain rfl | hearlier := List.mem_cons.mp hwritten
    · change (if succeeded then "succeeded" else "failed") ≠ "queued"
      cases succeeded <;> decide
    · exact (h.sessions worker).written written hearlier
  · exact fun candidate hcandidate ↦ absurd hcandidate List.not_mem_nil
  · exact fun run hrun ↦ by cases hrun
  · intro runId hlocked
    obtain rfl | hearlier := List.mem_cons.mp hlocked
    · exact h.rows worker _ ((h.sessions worker).executing executed hphase)
    · exact h.rows worker runId hearlier

/-- A step under the condition keeps the queue sound. -/
theorem QueueSound.step (h : QueueSound state)
    (hmove : QueueMove maxRuns maxActivePerWorkspace state action after)
    (hcurrent : Current maxActivePerWorkspace state action) : QueueSound after := by
  cases hmove with
  | idle => exact h
  | @queued runId workspaceId runType fresh =>
    refine ⟨?_, h.sessions, ?_, ?_, h.once⟩
    · change ((state.table ++ [_]).map RunRecord.runId).Nodup
      rw [List.map_append]
      exact h.keys_nodup.append (List.nodup_singleton _)
        (List.disjoint_singleton.mpr fresh)
    · intro worker runId hlocked
      change runId ∈ (state.table ++ [_]).map RunRecord.runId
      rw [List.map_append]
      exact List.mem_append_left _ (h.rows worker runId hlocked)
    · intro entry hentry
      exact (h.executed entry hentry).imp_left fun ⟨row, hrow, hkey⟩ ↦
        ⟨row, List.mem_append_left _ hrow, hkey⟩
  | @selected worker polling =>
    refine h.setSession ⟨(h.sessions worker).written, ?_, ?_⟩ (List.Subset.refl _) (h.rows worker)
    · exact fun candidate hcandidate ↦ (h.sessions worker).selected hcandidate
    · exact fun executed hphase ↦ by cases hphase
  | @passed _ worker free =>
    refine h.setSession ⟨(h.sessions worker).written, ?_, ?_⟩ (List.Subset.refl _) (h.rows worker)
    · exact fun candidate hcandidate ↦ absurd hcandidate List.not_mem_nil
    · exact fun executed hphase ↦ by cases hphase
  | @picked worker candidate rest choosing =>
    refine h.setSession ⟨(h.sessions worker).written, ?_, ?_⟩ (List.Subset.refl _) (h.rows worker)
    · intro picked hpicked
      refine (h.sessions worker).candidates picked ?_
      rw [WorkerSession.candidates, choosing]
      exact List.mem_cons.mpr (Or.inl (List.mem_singleton.mp hpicked))
    · exact fun executed hphase ↦ by cases hphase
  | @skipped worker candidate rest choosing =>
    refine h.setSession ⟨(h.sessions worker).written, ?_, ?_⟩ (List.Subset.refl _) (h.rows worker)
    · intro left hleft
      refine (h.sessions worker).candidates left ?_
      rw [WorkerSession.candidates, choosing]
      exact List.mem_cons_of_mem _ hleft
    · exact fun executed hphase ↦ by cases hphase
  | marked phase_eq unlocked => exact h.mark phase_eq unlocked hcurrent
  | finished phase_eq => exact h.finish phase_eq
  | committed closing => exact h.commit
  | aborted worker =>
    have hflushed : (state.sessions worker).flushed = [] := hcurrent
    refine h.setSession WorkerSession.sound_idle ?_ fun _ hlocked ↦ absurd hlocked List.not_mem_nil
    rw [WorkerSession.locks, hflushed]
    exact List.nil_subset _

theorem executingWorkers_setSession
    (h : session.Executes workspaceId → (state.sessions worker).Executes workspaceId) :
    executingWorkers (state.setSession worker session) workspaceId ⊆
      executingWorkers state workspaceId := by
  intro other hother
  have hexecutes := (Finset.mem_filter.mp hother).2
  refine Finset.mem_filter.mpr ⟨Finset.mem_univ _, ?_⟩
  change (Function.update state.sessions worker session other).Executes workspaceId at hexecutes
  by_cases hsame : other = worker
  · rw [hsame, Function.update_self] at hexecutes
    exact hsame ▸ h hexecutes
  · rwa [Function.update_of_ne hsame] at hexecutes

/-- A session that executes a run adds at most its worker. -/
theorem executingWorkers_setSession_subset_insert :
    executingWorkers (state.setSession worker session) workspaceId ⊆
      insert worker ((executingWorkers state workspaceId).erase worker) := by
  intro other hother
  by_cases hsame : other = worker
  · exact hsame ▸ Finset.mem_insert_self _ _
  · have hexecutes := (Finset.mem_filter.mp hother).2
    change (Function.update state.sessions worker session other).Executes workspaceId at hexecutes
    rw [Function.update_of_ne hsame] at hexecutes
    exact Finset.mem_insert_of_mem (Finset.mem_erase.mpr
      ⟨hsame, Finset.mem_filter.mpr ⟨Finset.mem_univ _, hexecutes⟩⟩)

/-- A step under the condition keeps the limit of a workspace. -/
theorem executingWorkers_card_step
    (h : (executingWorkers state workspaceId).card ≤ workspaceLimit maxActivePerWorkspace)
    (hmove : QueueMove maxRuns maxActivePerWorkspace state action after)
    (hcurrent : Current maxActivePerWorkspace state action) :
    (executingWorkers after workspaceId).card ≤ workspaceLimit maxActivePerWorkspace := by
  have hkeep : ∀ {session worker}, ¬session.Executes workspaceId →
      (executingWorkers (state.setSession worker session) workspaceId).card ≤
        workspaceLimit maxActivePerWorkspace := fun hfree ↦
    (Finset.card_le_card (executingWorkers_setSession fun hexecutes ↦ absurd hexecutes hfree)).trans h
  cases hmove with
  | idle | queued => exact h
  | selected | passed | picked | skipped | finished | aborted | committed => exact hkeep not_false
  | @marked worker chosen phase_eq unlocked =>
    obtain ⟨-, hlimit⟩ := hcurrent chosen (chosen?_eq phase_eq) unlocked
    by_cases hworkspace : chosen.workspaceId = workspaceId
    · rw [hworkspace] at hlimit
      calc (executingWorkers (state.setSession worker _) workspaceId).card
          ≤ (insert worker ((executingWorkers state workspaceId).erase worker)).card :=
            Finset.card_le_card executingWorkers_setSession_subset_insert
        _ ≤ ((executingWorkers state workspaceId).erase worker).card + 1 :=
            Finset.card_insert_le _ _
        _ ≤ workspaceLimit maxActivePerWorkspace := by omega
    · have hfree : ¬({ state.sessions worker with
          phase := .executing chosen
          flushed := { chosen with status := "running" } :: (state.sessions worker).flushed } :
            WorkerSession).Executes workspaceId := hworkspace
      exact hkeep hfree

/-- A start: unique keys, idle workers, and nothing executed. -/
structure QueueState.Fresh (start : QueueState δ) : Prop where
  keys_nodup : (start.table.map RunRecord.runId).Nodup
  sessions : ∀ worker, start.sessions worker = .idle
  executions : start.executions = []

omit [DecidableEq δ] [Fintype δ] in
theorem QueueState.Fresh.sound {start : QueueState δ} (h : start.Fresh) : QueueSound start where
  keys_nodup := h.keys_nodup
  sessions := fun worker ↦ h.sessions worker ▸ WorkerSession.sound_idle
  rows := fun worker _ hlocked ↦ absurd (h.sessions worker ▸ hlocked) List.not_mem_nil
  executed := fun _ hentry ↦ absurd (h.executions ▸ hentry) List.not_mem_nil
  once := h.executions ▸ List.nodup_nil

omit [DecidableEq δ] in
theorem QueueState.Fresh.executingWorkers_eq_empty {start : QueueState δ} (h : start.Fresh)
    (workspaceId : String) : executingWorkers start workspaceId = ∅ :=
  Finset.filter_eq_empty_iff.mpr fun worker _ ↦ by
    rw [h.sessions worker]
    exact not_false

/-- In a run from a start whose steps act on what is so, no run is executed twice and no limit is
exceeded. -/
theorem runsExclusive_of_current {start : QueueState δ} (hstart : start.Fresh)
    {actions : List (QueueAction δ)}
    (hcurrent : ∀ entry ∈ trace (queueStep maxRuns maxActivePerWorkspace) start actions,
      Current maxActivePerWorkspace entry.1 entry.2) :
    RunsExclusive maxRuns maxActivePerWorkspace start actions := by
  have hrun : ∀ earlier, earlier <+: actions →
      QueueSound (runQueue maxRuns maxActivePerWorkspace start earlier) ∧
        ∀ workspaceId,
          (executingWorkers (runQueue maxRuns maxActivePerWorkspace start earlier)
            workspaceId).card ≤ workspaceLimit maxActivePerWorkspace := by
    refine prefix_induction ?_ fun earlier action hpre ⟨hsound, hlimited⟩ ↦ ?_
    · refine ⟨hstart.sound, fun workspaceId ↦ ?_⟩
      change (executingWorkers start workspaceId).card ≤ _
      rw [hstart.executingWorkers_eq_empty, Finset.card_empty]
      exact Nat.zero_le _
    · have hstep := hcurrent _ (mem_trace hpre)
      have hmove := queueMove_step maxRuns maxActivePerWorkspace
        (runQueue maxRuns maxActivePerWorkspace start earlier) action
      rw [runQueue, run_snoc]
      exact ⟨hsound.step hmove hstep, fun workspaceId ↦
        executingWorkers_card_step (hlimited workspaceId) hmove hstep⟩
  exact ⟨(hrun actions (List.prefix_refl _)).1.once, fun earlier hpre ↦ (hrun earlier hpre).2⟩

end Runs

end Exclusion

def freshQueue : QueueState (Fin 2) := ⟨[], fun _ ↦ .idle, []⟩

theorem freshQueue_fresh : freshQueue.Fresh := ⟨List.nodup_nil, fun _ ↦ rfl, rfl⟩

local instance twoWorkers : NeZero 2 := ⟨by decide⟩

/-- Two workers, the second of which selects when the first has committed. -/
def workedInTurn : List (QueueAction (Fin 2)) :=
  [.queue "run-1" "ws" "discover", .queue "run-2" "ws" "discover",
    .select 0, .count 0, .mark 0, .finish 0 true [], .select 0, .commit 0,
    .select 1, .count 1, .mark 1, .finish 1 true [], .select 1, .commit 1]

theorem workedInTurn_exclusive : RunsExclusive 1 1 freshQueue workedInTurn :=
  runsExclusive_of_current freshQueue_fresh (by decide +kernel)

/-- Both workers select the run before one of them has committed. -/
def selectedTwice : List (QueueAction (Fin 2)) :=
  [.queue "run-1" "ws" "discover", .select 0, .select 1, .count 0, .mark 0, .finish 0 true [],
    .select 0, .commit 0, .count 1, .mark 1]

theorem selected_run_executed_twice : ¬RunsExclusive 1 1 freshQueue selectedTwice := by
  intro h
  have hexecuted : (runQueue 1 1 freshQueue selectedTwice).executions =
      [(0, "run-1"), (1, "run-1")] := by
    decide +kernel
  have honce := h.once
  rw [hexecuted] at honce
  exact absurd honce (by decide)

end SchemaPilot.Workers
