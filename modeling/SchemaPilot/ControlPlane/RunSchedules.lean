import SchemaPilot.ControlPlane.SemanticManifest
import SchemaPilot.ControlPlane.Frames
import SchemaPilot.Library.EffectLogic
import SchemaPilot.Library.Versions

/-!
# Scheduled runs

`backend/shared_domain/scheduling.py`. A schedule is a policy row whose definition says how often it
runs, whether it is enabled and when it runs next; `enqueue_due_scheduled_runs` creates a queued run for
each schedule that is due and writes the row anew. Several calls make a history (`runScheduler`): what
the schedules were made with, and which runs each call has created at which time.
-/

namespace SchemaPilot.ControlPlane.RunSchedules

open Library Library.Json Library.Versions SharedDomain

/-- The digits of `_MINUTE_CRON.fullmatch(normalized)`. -/
def minuteCron? : List Char → Option (List ℕ)
  | '*' :: '/' :: rest =>
    let digits := rest.takeWhile fun c ↦ (digitValue? c).isSome
    if rest.drop digits.length = " * * * *".toList ∧ 1 ≤ digits.length ∧ digits.length ≤ 4 then
      some (digits.filterMap digitValue?)
    else none
  | _ => none

/-- `validate_schedule_expression`. -/
def validateScheduleExpression (expression : String) : Except Exn ℤ :=
  let normalized := Text.lower (Text.strip expression)
  if normalized = "@hourly" then .ok 3600
  else if normalized = "@daily" then .ok 86400
  else
    match minuteCron? normalized.toList with
    | none => .error (.valueError "invalid_schedule_expression")
    | some digits =>
      let minutes := ofDigits digits
      if minutes = 0 ∨ 1440 < minutes then .error (.valueError "invalid_schedule_expression")
      else .ok (minutes * 60)

example : (validateScheduleExpression " */15 * * * * ").toOption = some 900 := by decide +kernel

/-- A row of `runs_runs`. -/
structure RunRecord where
  runId : String
  workspaceId : String
  runType : String
  status : String
  inputRefsJson : Fields
  outputRefsJson : Fields

/-- The tables that scheduling reads and writes, and how many identifiers `new_ulid` has given out. -/
structure SchedulerState where
  policies : List GovernancePolicy
  runs : List RunRecord
  issued : ℕ

abbrev SchedulerHandler (α : Type) := Effect SchedulerState Exn α

/-- `new_ulid()`. -/
def nextUlid (newUlid : ℕ → String) : SchedulerHandler String := fun state ↦
  (.ok (newUlid state.issued), { state with issued := state.issued + 1 })

/-- `session.add(row)` and `session.flush()` for a policy. -/
def addPolicy (row : GovernancePolicy) : SchedulerHandler Unit := fun state ↦
  match insertRow GovernancePolicy.policyId state.policies row with
  | .ok rows => (.ok (), { state with policies := rows })
  | .error exception => (.error exception, state)

/-- `session.flush()` of a run that was added. -/
def addRun (row : RunRecord) : SchedulerHandler Unit := fun state ↦
  match insertRow RunRecord.runId state.runs row with
  | .ok rows => (.ok (), { state with runs := rows })
  | .error exception => (.error exception, state)

/-- `RUN_SCHEDULE_POLICY_TYPE`. -/
def runSchedulePolicyType : String := "run_schedule"

def schedulePayload (scheduleId workspaceId runType scheduleExpression : String)
    (intervalSeconds : ℤ) (enabled : Bool) (actorId : String) (nowEpoch : ℤ) : Fields :=
  [("schedule_id", .str scheduleId), ("workspace_id", .str workspaceId), ("run_type", .str runType),
    ("schedule_expression", .str scheduleExpression), ("interval_seconds", .int intervalSeconds),
    ("enabled", .bool enabled),
    ("next_run_epoch", if enabled then .int (nowEpoch + intervalSeconds) else .null),
    ("created_by", .str actorId)]

/-- `create_run_schedule`, `now_epoch` being `int(time.time())`. -/
def createRunSchedule (newUlid : ℕ → String) (workspaceId runType scheduleExpression : String)
    (enabled : Bool) (actorId : String) (nowEpoch : ℤ) : SchedulerHandler Fields := do
  let intervalSeconds ← Effect.ofExcept (validateScheduleExpression scheduleExpression)
  let scheduleId ← nextUlid newUlid
  let payload := schedulePayload scheduleId workspaceId runType scheduleExpression intervalSeconds
    enabled actorId nowEpoch
  addPolicy
    { policyId := scheduleId
      workspaceId := workspaceId
      policyType := runSchedulePolicyType
      definitionRef := storedDefinition payload
      status := "active" }
  return payload

/-- `_parse_schedule_payload`. -/
def parseSchedulePayload (definitionRef : Option Json) (fallbackId : String) : Fields :=
  let payload := loadDefinition definitionRef
  if get? payload "schedule_id" = none then set payload "schedule_id" (.str fallbackId) else payload

/-- The integer of a value that `isinstance(value, int)` accepts. -/
def asInt? : Json → Option ℤ
  | .int value => some value
  | .bool value => some value.toInt
  | _ => none

/-- The definition of a row that the loop does not pass over. -/
def duePayload? (now : ℤ) (row : GovernancePolicy) : Option Fields :=
  let payload := parseSchedulePayload row.definitionRef row.policyId
  if (getD payload "enabled" (.bool false)).truthy then
    match (get? payload "next_run_epoch").bind asInt? with
    | none => none
    | some nextRunEpoch => if now < nextRunEpoch then none else some payload
  else none

/-- The runs that were added, and what is returned of them. -/
structure EnqueueProgress where
  pending : List RunRecord
  created : List Fields

def scheduledRun (runId : String) (row : GovernancePolicy) (payload : Fields) : RunRecord :=
  { runId := runId
    workspaceId := (getD payload "workspace_id" (.str row.workspaceId)).toStr
    runType := (getD payload "run_type" (.str "discover")).toStr
    status := "queued"
    inputRefsJson := [("source", .str "scheduler"),
      ("schedule_id", .str (getD payload "schedule_id" (.str row.policyId)).toStr)]
    outputRefsJson := [] }

def createdRun (run : RunRecord) (row : GovernancePolicy) (payload : Fields) : Fields :=
  [("run_id", .str run.runId), ("workspace_id", .str run.workspaceId), ("run_type", .str run.runType),
    ("schedule_id", .str (getD payload "schedule_id" (.str row.policyId)).toStr)]

/-- `row.definition_ref = json.dumps(payload, sort_keys=True)`. -/
def redefine (policyId : String) (definition : Fields) (state : SchedulerState) : SchedulerState :=
  { state with policies := state.policies.map fun row ↦
      if row.policyId = policyId then { row with definitionRef := storedDefinition definition }
      else row }

def enqueueSchedule (newUlid : ℕ → String) (now : ℤ) (progress : EnqueueProgress)
    (row : GovernancePolicy) : SchedulerHandler EnqueueProgress :=
  match duePayload? now row with
  | none => pure progress
  | some payload => do
    let run := scheduledRun (← nextUlid newUlid) row payload
    let intervalSeconds ← Effect.ofExcept (toInt (getD payload "interval_seconds" (.int 60)))
    Effect.change (redefine row.policyId
      (set payload "next_run_epoch" (.int (now + max intervalSeconds 60))))
    return ⟨progress.pending ++ [run], progress.created ++ [createdRun run row payload]⟩

def IsSchedule (row : GovernancePolicy) : Prop :=
  row.policyType = runSchedulePolicyType ∧ row.status = "active"

instance (row : GovernancePolicy) : Decidable (IsSchedule row) := inferInstanceAs (Decidable (_ ∧ _))

/-- `enqueue_due_scheduled_runs`. -/
def enqueueDueScheduledRuns (newUlid : ℕ → String) (now : ℤ) : SchedulerHandler (List Fields) := do
  let rows := (← Effect.read).policies.filter IsSchedule
  let progress ← rows.foldlM (enqueueSchedule newUlid now) ⟨[], []⟩
  Effect.forEach addRun progress.pending
  return progress.created

/-- A call, by the control plane or by a worker. -/
inductive SchedulerAction where
  | create (workspaceId runType scheduleExpression : String) (enabled : Bool) (actorId : String)
      (nowEpoch : ℤ)
  | enqueue (now : ℤ)

/-- The tables, the definitions that `create_run_schedule` has returned, and for each call of
`enqueue_due_scheduled_runs` that has returned its time and the runs it has created. -/
structure SchedulerHistory where
  state : SchedulerState
  schedules : List Fields
  calls : List (ℤ × List RunRecord)

/-- A call runs in a session: one that raises leaves the tables as they were. -/
def schedulerStep (newUlid : ℕ → String) (history : SchedulerHistory) :
    SchedulerAction → SchedulerHistory
  | .create workspaceId runType scheduleExpression enabled actorId nowEpoch =>
    match createRunSchedule newUlid workspaceId runType scheduleExpression enabled actorId nowEpoch
      history.state with
    | (.ok payload, after) =>
      { history with state := after, schedules := history.schedules ++ [payload] }
    | (.error _, after) => { history with state := { history.state with issued := after.issued } }
  | .enqueue now =>
    match enqueueDueScheduledRuns newUlid now history.state with
    | (.ok _, after) =>
      { history with
        state := after
        calls := history.calls ++ [(now, after.runs.drop history.state.runs.length)] }
    | (.error _, after) => { history with state := { history.state with issued := after.issued } }

def runScheduler (newUlid : ℕ → String) (start : SchedulerState) (actions : List SchedulerAction) :
    SchedulerHistory :=
  Versions.run (schedulerStep newUlid) ⟨start, [], []⟩ actions

def RunRecord.scheduleId (run : RunRecord) : Json := getD run.inputRefsJson "schedule_id" .null

/-- The runs of a schedule among those of a call. -/
def runsOf (schedule : Fields) (created : List RunRecord) : List RunRecord :=
  created.filter fun run ↦ run.scheduleId = getD schedule "schedule_id" .null

def intervalSeconds (payload : Fields) : ℤ :=
  ((get? payload "interval_seconds").bind asInt?).getD 0

def isEnabled (payload : Fields) : Bool := (getD payload "enabled" (.bool false)).truthy

def nextRunEpoch? (payload : Fields) : Option ℤ := (get? payload "next_run_epoch").bind asInt?

/-- The definition of a schedule under its identifier, with a time for the next run where it is
enabled. -/
structure IsDefinition (scheduleId : String) (payload : Fields) : Prop where
  scheduleId : get? payload "schedule_id" = some (.str scheduleId)
  interval : get? payload "interval_seconds" = some (.int (intervalSeconds payload))
  enabled : get? payload "enabled" = some (.bool (isEnabled payload))
  minute : 60 ≤ intervalSeconds payload
  next : isEnabled payload = true → nextRunEpoch? payload ≠ none

/-- The definition after the run of a schedule. -/
def advanced (now : ℤ) (payload : Fields) : Fields :=
  set payload "next_run_epoch" (.int (now + max (intervalSeconds payload) 60))

/-- What the definition of a row reads as. -/
def stored (payload : Fields) : Fields := sortFields (canonFields payload)

theorem get?_stored (payload : Fields) (key : String) :
    get? (stored payload) key = (get? payload key).map canon := by
  rw [stored, get?_sortFields, get?_canonFields]

theorem storedDefinition_eq (payload : Fields) :
    storedDefinition payload = some (.obj (stored payload)) := rfl

/-- Numbers, truth values and `None` are read back as they are. -/
theorem asInt?_canon (value : Json) : asInt? (canon value) = asInt? value := by
  cases value <;> rfl

theorem bind_asInt?_stored (payload : Fields) (key : String) :
    (get? (stored payload) key).bind asInt? = (get? payload key).bind asInt? := by
  rw [get?_stored]
  cases get? payload key with
  | none => rfl
  | some value => exact asInt?_canon value

@[simp] theorem intervalSeconds_stored (payload : Fields) :
    intervalSeconds (stored payload) = intervalSeconds payload := by
  unfold intervalSeconds
  rw [bind_asInt?_stored]

@[simp] theorem nextRunEpoch?_stored (payload : Fields) :
    nextRunEpoch? (stored payload) = nextRunEpoch? payload := bind_asInt?_stored payload _

@[simp] theorem isEnabled_advanced (now : ℤ) (payload : Fields) :
    isEnabled (advanced now payload) = isEnabled payload := by
  unfold isEnabled advanced getD
  rw [get?_set_of_ne (by decide)]

@[simp] theorem intervalSeconds_advanced (now : ℤ) (payload : Fields) :
    intervalSeconds (advanced now payload) = intervalSeconds payload := by
  unfold intervalSeconds advanced
  rw [get?_set_of_ne (by decide)]

@[simp] theorem nextRunEpoch?_advanced (now : ℤ) (payload : Fields) :
    nextRunEpoch? (advanced now payload) = some (now + max (intervalSeconds payload) 60) := by
  unfold nextRunEpoch? advanced
  rw [get?_set_self]
  rfl

theorem IsDefinition.advanced {scheduleId : String} {payload : Fields} (now : ℤ)
    (h : IsDefinition scheduleId payload) : IsDefinition scheduleId (advanced now payload) where
  scheduleId := by
    unfold RunSchedules.advanced
    rw [get?_set_of_ne (by decide)]
    exact h.scheduleId
  interval := by
    rw [intervalSeconds_advanced]
    unfold RunSchedules.advanced
    rw [get?_set_of_ne (by decide)]
    exact h.interval
  enabled := by
    rw [isEnabled_advanced]
    unfold RunSchedules.advanced
    rw [get?_set_of_ne (by decide)]
    exact h.enabled
  minute := by
    rw [intervalSeconds_advanced]
    exact h.minute
  next _ := by
    rw [nextRunEpoch?_advanced]
    exact Option.some_ne_none _

theorem isEnabled_schedulePayload (scheduleId workspaceId runType scheduleExpression : String)
    (interval : ℤ) (enabled : Bool) (actorId : String) (nowEpoch : ℤ) :
    isEnabled (schedulePayload scheduleId workspaceId runType scheduleExpression interval enabled
      actorId nowEpoch) = enabled := by
  cases enabled <;> rfl

theorem isDefinition_schedulePayload {scheduleExpression : String} {interval : ℤ}
    (hminute : 60 ≤ interval) (scheduleId workspaceId runType : String) (enabled : Bool)
    (actorId : String) (nowEpoch : ℤ) :
    IsDefinition scheduleId (schedulePayload scheduleId workspaceId runType scheduleExpression interval
      enabled actorId nowEpoch) where
  scheduleId := rfl
  interval := rfl
  enabled := by cases enabled <;> rfl
  minute := hminute
  next h := by
    rw [isEnabled_schedulePayload] at h
    rw [h]
    exact Option.some_ne_none _

theorem IsDefinition.stored {scheduleId : String} {payload : Fields}
    (h : IsDefinition scheduleId payload) :
    IsDefinition scheduleId (stored payload) ∧ isEnabled (stored payload) = isEnabled payload := by
  have henabled : get? (RunSchedules.stored payload) "enabled" = some (.bool (isEnabled payload)) := by
    rw [get?_stored, h.enabled]
    rfl
  have hsame : isEnabled (RunSchedules.stored payload) = isEnabled payload := by
    rw [isEnabled, getD, henabled]
    rfl
  refine ⟨⟨?_, ?_, ?_, ?_, fun hon ↦ ?_⟩, hsame⟩
  · rw [get?_stored, h.scheduleId]
    rfl
  · rw [get?_stored, h.interval, intervalSeconds_stored]
    rfl
  · rw [henabled, hsame]
  · rw [intervalSeconds_stored]
    exact h.minute
  · rw [nextRunEpoch?_stored]
    exact h.next (hsame ▸ hon)

/-- An accepted expression is at least a minute. -/
theorem minute_le_of_validate {expression : String} {interval : ℤ}
    (h : validateScheduleExpression expression = .ok interval) : 60 ≤ interval := by
  unfold validateScheduleExpression at h
  dsimp only at h
  split_ifs at h
  · cases h
    decide
  · cases h
    decide
  · split at h
    · cases h
    · split_ifs at h with hrange
      cases h
      omega

/-- The rows have keys of their own, and those of schedules hold definitions. -/
structure ScheduleRows (policies : List GovernancePolicy) : Prop where
  keys_nodup : (policies.map GovernancePolicy.policyId).Nodup
  definition : ∀ row ∈ policies, IsSchedule row →
    ∃ payload, row.definitionRef = some (.obj payload) ∧ IsDefinition row.policyId payload

theorem ScheduleRows.unique_definition {policies : List GovernancePolicy} {row : GovernancePolicy}
    {payload : Fields} (h : ScheduleRows policies) (hrow : row ∈ policies)
    (hschedule : IsSchedule row) (hpayload : row.definitionRef = some (.obj payload)) :
    IsDefinition row.policyId payload := by
  obtain ⟨found, hfound, hdefinition⟩ := h.definition row hrow hschedule
  rw [hpayload, Option.some_inj, Json.obj.injEq] at hfound
  exact hfound ▸ hdefinition

def IsDue (now : ℤ) (payload : Fields) : Prop :=
  isEnabled payload = true ∧ ∃ next, nextRunEpoch? payload = some next ∧ next ≤ now

/-- The loop runs the schedule of a row when it is due. -/
theorem duePayload?_eq_some_iff {now : ℤ} {row : GovernancePolicy} {payload found : Fields}
    (hrow : row.definitionRef = some (.obj payload)) (h : IsDefinition row.policyId payload) :
    duePayload? now row = some found ↔ found = payload ∧ IsDue now payload := by
  have hparse : parseSchedulePayload row.definitionRef row.policyId = payload := by
    rw [parseSchedulePayload, hrow, show loadDefinition (some (.obj payload)) = payload from rfl,
      h.scheduleId, if_neg (Option.some_ne_none _)]
  unfold duePayload? IsDue
  rw [hparse]
  change (if isEnabled payload = true then (match nextRunEpoch? payload with
    | none => none
    | some nextRunEpoch => if now < nextRunEpoch then none else some payload) else none) = _ ↔ _
  by_cases hon : isEnabled payload = true
  · rw [if_pos hon]
    obtain ⟨next, hnext⟩ := Option.ne_none_iff_exists'.mp (h.next hon)
    rw [hnext]
    dsimp only
    by_cases hlater : now < next
    · rw [if_pos hlater]
      constructor
      · intro hnone
        cases hnone
      · rintro ⟨-, -, other, hother, hle⟩
        cases hother
        omega
    · rw [if_neg hlater]
      constructor
      · intro hsome
        cases hsome
        exact ⟨rfl, hon, next, rfl, by omega⟩
      · rintro ⟨rfl, -⟩
        rfl
  · rw [if_neg hon]
    constructor
    · intro hnone
      cases hnone
    · rintro ⟨-, hon', -⟩
      exact absurd hon' hon

def advancedRow (now : ℤ) (row : GovernancePolicy) : GovernancePolicy :=
  if IsSchedule row then
    match duePayload? now row with
    | none => row
    | some payload => { row with definitionRef := storedDefinition (advanced now payload) }
  else row

@[simp] theorem policyId_advancedRow (now : ℤ) (row : GovernancePolicy) :
    (advancedRow now row).policyId = row.policyId := by
  unfold advancedRow
  split_ifs
  · split <;> rfl
  · rfl

@[simp] theorem isSchedule_advancedRow (now : ℤ) (row : GovernancePolicy) :
    IsSchedule (advancedRow now row) ↔ IsSchedule row := by
  unfold advancedRow
  split_ifs
  · split <;> exact Iff.rfl
  · exact Iff.rfl

/-- A row that was written anew is not due again. -/
theorem duePayload?_advancedRow {now : ℤ} {policies : List GovernancePolicy} {row : GovernancePolicy}
    (h : ScheduleRows policies) (hrow : row ∈ policies) (hschedule : IsSchedule row) :
    duePayload? now (advancedRow now row) = none := by
  obtain ⟨payload, hpayload, hdefinition⟩ := h.definition row hrow hschedule
  rcases hdue : duePayload? now row with _ | found
  · rw [advancedRow, if_pos hschedule, hdue]
    exact hdue
  · obtain ⟨rfl, -⟩ := (duePayload?_eq_some_iff hpayload hdefinition).mp hdue
    rw [advancedRow, if_pos hschedule, hdue]
    dsimp only
    by_contra hagain
    obtain ⟨again, hagain⟩ := Option.ne_none_iff_exists'.mp hagain
    have hstored : ({ row with definitionRef := storedDefinition (advanced now found) } :
      GovernancePolicy).definitionRef = some (.obj (stored (advanced now found))) :=
        storedDefinition_eq _
    obtain ⟨-, -, next, hnext, hle⟩ := (duePayload?_eq_some_iff hstored
      (hdefinition.advanced now).stored.1).mp hagain
    rw [nextRunEpoch?_stored, nextRunEpoch?_advanced, Option.some_inj] at hnext
    omega

theorem ScheduleRows.advance {policies : List GovernancePolicy} (now : ℤ)
    (h : ScheduleRows policies) : ScheduleRows (policies.map (advancedRow now)) := by
  constructor
  · rw [List.map_map]
    have hkeys : (GovernancePolicy.policyId ∘ advancedRow now) = GovernancePolicy.policyId := by
      ext row
      rw [Function.comp_apply, policyId_advancedRow]
    rw [hkeys]
    exact h.keys_nodup
  · intro row hrow hschedule
    obtain ⟨old, hold, rfl⟩ := List.mem_map.mp hrow
    rw [isSchedule_advancedRow] at hschedule
    obtain ⟨payload, hpayload, hdefinition⟩ := h.definition old hold hschedule
    rw [policyId_advancedRow, advancedRow, if_pos hschedule]
    rcases hdue : duePayload? now old with _ | found
    · exact ⟨payload, hpayload, hdefinition⟩
    · obtain ⟨rfl, -⟩ := (duePayload?_eq_some_iff hpayload hdefinition).mp hdue
      exact ⟨_, storedDefinition_eq _, (hdefinition.advanced now).stored.1⟩

section Loop

variable {newUlid : ℕ → String} {now : ℤ} {state : SchedulerState}

def dueRows (now : ℤ) (policies : List GovernancePolicy) : List GovernancePolicy :=
  (policies.filter IsSchedule).filter fun row ↦ duePayload? now row ≠ none

/-- What the loop has done when it has taken up some rows. -/
structure Enqueued (newUlid : ℕ → String) (now : ℤ) (before : SchedulerState)
    (done : List GovernancePolicy) (progress : EnqueueProgress) (after : SchedulerState) : Prop where
  policies : after.policies = before.policies.map fun row ↦
    if row.policyId ∈ done.map GovernancePolicy.policyId then advancedRow now row else row
  runs : after.runs = before.runs
  pending : progress.pending.map RunRecord.scheduleId =
    (done.filter fun row ↦ duePayload? now row ≠ none).map fun row ↦ .str row.policyId
  issued : after.issued = before.issued + progress.pending.length
  ids : progress.pending.map RunRecord.runId =
    (List.range progress.pending.length).map fun i ↦ newUlid (before.issued + i)

/-- A round of the loop. -/
theorem ends_enqueueSchedule {row : GovernancePolicy} {payload : Fields} {progress : EnqueueProgress}
    (hrow : row.definitionRef = some (.obj payload)) (h : IsDefinition row.policyId payload) :
    Effect.Ends (enqueueSchedule newUlid now progress row) state
      (fun next after ↦
        (duePayload? now row = none ∧ next = progress ∧ after = state) ∨
        (duePayload? now row = some payload ∧ ∃ run : RunRecord, run.runId = newUlid state.issued ∧
          run.scheduleId = .str row.policyId ∧ next.pending = progress.pending ++ [run] ∧
          after = redefine row.policyId (advanced now payload)
            { state with issued := state.issued + 1 }))
      fun _ _ ↦ False := by
  unfold enqueueSchedule
  rcases hdue : duePayload? now row with _ | found
  · exact Effect.ends_pure (Or.inl ⟨rfl, rfl, rfl⟩)
  · obtain ⟨rfl, -⟩ := (duePayload?_eq_some_iff hrow h).mp hdue
    have hinterval : toInt (getD found "interval_seconds" (.int 60)) = .ok (intervalSeconds found) := by
      rw [getD, h.interval]
      rfl
    have hulid : Effect.Ends (nextUlid newUlid) state
        (fun value after ↦ value = newUlid state.issued ∧
          after = { state with issued := state.issued + 1 }) (fun _ _ ↦ False) := by
      constructor
      · intro value after hrun
        cases hrun
        exact ⟨rfl, rfl⟩
      · intro exception after hrun
        cases hrun
    refine hulid.bind ?_
    rintro _ _ ⟨rfl, rfl⟩
    rw [hinterval]
    refine Effect.ends_ok_bind ?_
    refine Effect.ends_change_bind (Effect.ends_pure (Or.inr ⟨rfl, _, rfl, ?_, rfl, rfl⟩))
    change Json.str (getD found "schedule_id" (.str row.policyId)).toStr = _
    rw [getD, h.scheduleId]
    rfl

theorem nodup_dueRows {policies : List GovernancePolicy}
    (h : (policies.map GovernancePolicy.policyId).Nodup) :
    ((policies.filter IsSchedule).map GovernancePolicy.policyId).Nodup :=
  h.sublist (List.filter_sublist.map _)

/-- A row that is run is written anew, and no other row. -/
theorem policies_redefine {rows done : List GovernancePolicy} {row : GovernancePolicy}
    {payload : Fields} (hkeys : (rows.map GovernancePolicy.policyId).Nodup) (hrow : row ∈ rows)
    (hschedule : IsSchedule row) (hnew : row.policyId ∉ done.map GovernancePolicy.policyId)
    (hdue : duePayload? now row = some payload) (issued : ℕ) (runs : List RunRecord) :
    (redefine row.policyId (advanced now payload)
      ⟨rows.map fun row ↦ if row.policyId ∈ done.map GovernancePolicy.policyId then
        advancedRow now row else row, runs, issued⟩).policies =
      rows.map fun other ↦ if other.policyId ∈ (done ++ [row]).map GovernancePolicy.policyId then
        advancedRow now other else other := by
  unfold redefine
  dsimp only
  rw [List.map_map]
  refine List.map_congr_left fun other hother ↦ ?_
  rw [Function.comp_apply, List.map_append, List.map_singleton]
  by_cases hsame : other.policyId = row.policyId
  · obtain rfl : other = row := List.inj_on_of_nodup_map hkeys hother hrow hsame
    rw [if_neg hnew, if_pos rfl, if_pos (List.mem_append_right _ (List.mem_singleton_self _)),
      advancedRow, if_pos hschedule, hdue]
  · have hmem : other.policyId ∈ done.map GovernancePolicy.policyId ++ [row.policyId] ↔
        other.policyId ∈ done.map GovernancePolicy.policyId := by
      rw [List.mem_append, List.mem_singleton, or_iff_left hsame]
    by_cases hdone : other.policyId ∈ done.map GovernancePolicy.policyId
    · rw [if_pos hdone, if_pos (hmem.mpr hdone), policyId_advancedRow, if_neg hsame]
    · rw [if_neg hdone, if_neg (fun h ↦ hdone (hmem.mp h)), if_neg hsame]

theorem map_done_passed {rows done : List GovernancePolicy} {row : GovernancePolicy}
    (hkeys : (rows.map GovernancePolicy.policyId).Nodup) (hrow : row ∈ rows)
    (hdue : duePayload? now row = none) :
    (rows.map fun other ↦ if other.policyId ∈ done.map GovernancePolicy.policyId then
        advancedRow now other else other) =
      rows.map fun other ↦ if other.policyId ∈ (done ++ [row]).map GovernancePolicy.policyId then
        advancedRow now other else other := by
  refine List.map_congr_left fun other hother ↦ ?_
  rw [List.map_append, List.map_singleton]
  by_cases hsame : other.policyId = row.policyId
  · obtain rfl : other = row := List.inj_on_of_nodup_map hkeys hother hrow hsame
    have hpassed : advancedRow now other = other := by
      unfold advancedRow
      rw [hdue]
      exact ite_self other
    rw [hpassed, ite_self, ite_self]
  · have hmem : other.policyId ∈ done.map GovernancePolicy.policyId ++ [row.policyId] ↔
        other.policyId ∈ done.map GovernancePolicy.policyId := by
      rw [List.mem_append, List.mem_singleton, or_iff_left hsame]
    rw [if_congr hmem rfl rfl]

/-- The loop runs the rows that are due and raises nothing. -/
theorem ends_enqueueLoop (newUlid : ℕ → String) (now : ℤ) (h : ScheduleRows state.policies) :
    Effect.Ends ((state.policies.filter IsSchedule).foldlM (enqueueSchedule newUlid now) ⟨[], []⟩) state
      (fun progress after ↦
        Enqueued newUlid now state (state.policies.filter IsSchedule) progress after)
      fun _ _ ↦ False := by
  refine Effect.ends_foldlM (I := Enqueued newUlid now state) ⟨?_, rfl, rfl, rfl, rfl⟩ ?_
  · simp
  · rintro done row ⟨later, hitems⟩ progress middle hdone
    have hmem : row ∈ state.policies.filter IsSchedule := by
      rw [← hitems]
      simp
    obtain ⟨hrow, hschedule⟩ := List.mem_filter.mp hmem
    have hschedule := of_decide_eq_true hschedule
    have hnew : row.policyId ∉ done.map GovernancePolicy.policyId := by
      have hkeys := nodup_dueRows h.keys_nodup
      rw [← hitems, List.append_assoc, List.map_append, List.singleton_append, List.map_cons,
        List.nodup_append] at hkeys
      exact fun hold ↦ hkeys.2.2 _ hold _ List.mem_cons_self rfl
    obtain ⟨payload, hpayload, hdefinition⟩ := h.definition row hrow hschedule
    refine (ends_enqueueSchedule hpayload hdefinition).mono ?_ fun _ _ hfalse ↦ hfalse
    rintro next after (⟨hdue, rfl, rfl⟩ | ⟨hdue, run, hid, hrun, hpending, rfl⟩)
    · refine ⟨?_, hdone.runs, ?_, hdone.issued, hdone.ids⟩
      · rw [hdone.policies]
        exact map_done_passed h.keys_nodup hrow hdue
      · rw [hdone.pending, List.filter_append, List.filter_singleton, hdue]
        simp
    · refine ⟨?_, hdone.runs, ?_, ?_, ?_⟩
      · rw [← policies_redefine h.keys_nodup hrow hschedule hnew hdue (middle.issued + 1) middle.runs,
          ← hdone.policies]
      · rw [hpending, List.map_append, hdone.pending, List.filter_append, List.filter_singleton, hdue]
        simp [hrun]
      · rw [hpending, List.length_append, List.length_singleton, ← Nat.add_assoc, ← hdone.issued]
        rfl
      · rw [hpending, List.map_append, hdone.ids, List.length_append, List.length_singleton,
          List.range_succ, List.map_append, List.map_singleton, List.map_singleton, hid, hdone.issued]

/-- The runs are inserted in order, or an identifier of one is taken. -/
theorem ends_addRuns (pending : List RunRecord) : ∀ state : SchedulerState,
    Effect.Ends (Effect.forEach addRun pending) state
      (fun _ after ↦ after = { state with runs := state.runs ++ pending }) fun _ _ ↦ True := by
  induction pending with
  | nil =>
    intro state
    rw [List.append_nil]
    exact Effect.ends_pure rfl
  | cons run rest ih =>
    intro state
    have hadd : Effect.Ends (addRun run) state
        (fun _ after ↦ after = { state with runs := state.runs ++ [run] }) (fun _ _ ↦ True) := by
      refine ⟨fun {_ after} hrun ↦ ?_, fun _ ↦ trivial⟩
      unfold addRun at hrun
      rcases hinsert : insertRow RunRecord.runId state.runs run with exception | rows
      · rw [hinsert] at hrun
        cases hrun
      · rw [hinsert] at hrun
        cases hrun
        rw [(insertRow_eq_ok hinsert).1]
    refine hadd.bind ?_
    rintro _ _ rfl
    refine (ih _).mono (fun _ after hafter ↦ ?_) fun _ _ _ ↦ trivial
    rw [hafter, List.append_assoc]
    rfl

/-- What a call that returns has done: it runs the schedules that are due, once each, and writes their
rows anew. -/
structure CallOutcome (now : ℤ) (before after : SchedulerState) : Prop where
  policies : after.policies = before.policies.map (advancedRow now)
  runs : before.runs <+: after.runs
  created : (after.runs.drop before.runs.length).map RunRecord.scheduleId =
    (dueRows now before.policies).map fun row ↦ .str row.policyId

theorem ends_enqueueDueScheduledRuns (newUlid : ℕ → String) (now : ℤ)
    (h : ScheduleRows state.policies) :
    Effect.Ends (enqueueDueScheduledRuns newUlid now) state
      (fun _ after ↦ CallOutcome now state after) fun _ _ ↦ True := by
  unfold enqueueDueScheduledRuns
  refine Effect.ends_read_bind ?_
  refine Effect.Ends.bind ((ends_enqueueLoop newUlid now h).mono (fun _ _ hloop ↦ hloop) fun _ _ _ ↦ trivial) ?_
  intro progress middle hloop
  refine (ends_addRuns progress.pending middle).bind ?_
  rintro _ _ rfl
  refine Effect.ends_pure ⟨?_, ⟨progress.pending, ?_⟩, ?_⟩
  · rw [hloop.policies]
    refine List.map_congr_left fun row hrow ↦ ?_
    by_cases hschedule : IsSchedule row
    · have hmem : row.policyId ∈ (state.policies.filter IsSchedule).map GovernancePolicy.policyId :=
        List.mem_map_of_mem (List.mem_filter.mpr ⟨hrow, decide_eq_true hschedule⟩)
      rw [if_pos hmem]
    · have hsame : advancedRow now row = row := if_neg hschedule
      rw [hsame, ite_self]
  · rw [hloop.runs]
  · rw [hloop.runs, List.drop_left, hloop.pending]
    rfl

/-- A call that finds nothing due does nothing. -/
theorem enqueue_nothing_due (newUlid : ℕ → String) (h : dueRows now state.policies = []) :
    enqueueDueScheduledRuns newUlid now state = (.ok [], state) := by
  have hpass : ∀ rows : List GovernancePolicy, (∀ row ∈ rows, duePayload? now row = none) →
      rows.foldlM (enqueueSchedule newUlid now) ⟨[], []⟩ state = (.ok ⟨[], []⟩, state) := by
    intro rows
    induction rows with
    | nil => exact fun _ ↦ rfl
    | cons row rest ih =>
      intro hall
      obtain ⟨hrow, hrest⟩ := List.forall_mem_cons.mp hall
      have hfirst : enqueueSchedule newUlid now ⟨[], []⟩ row state = (.ok ⟨[], []⟩, state) := by
        rw [enqueueSchedule, hrow]
        rfl
      rw [List.foldlM_cons]
      exact Effect.bind_eq_ok_iff.mpr ⟨_, _, hfirst, ih hrest⟩
  have hnone : ∀ row ∈ state.policies.filter IsSchedule, duePayload? now row = none := by
    intro row hrow
    by_contra hdue
    have hmem : row ∈ dueRows now state.policies :=
      List.mem_filter.mpr ⟨hrow, decide_eq_true hdue⟩
    rw [h] at hmem
    exact absurd hmem List.not_mem_nil
  unfold enqueueDueScheduledRuns
  rw [Effect.bind_apply, Effect.read_apply]
  dsimp only
  exact Effect.bind_eq_ok_iff.mpr ⟨_, _, hpass _ hnone, rfl⟩

/-- `new_ulid` gives out identifiers that no run has, each once. -/
def FreshUlids (newUlid : ℕ → String) (state : SchedulerState) : Prop :=
  ∀ n, newUlid (state.issued + n) ∉ state.runs.map RunRecord.runId ∧
    ∀ m < n, newUlid (state.issued + n) ≠ newUlid (state.issued + m)

/-- Runs whose identifiers are new are inserted. -/
theorem addRuns_ok (pending : List RunRecord) : ∀ state : SchedulerState,
    (pending.map RunRecord.runId).Nodup →
    (∀ run ∈ pending, run.runId ∉ state.runs.map RunRecord.runId) →
    Effect.forEach addRun pending state = (.ok (), { state with runs := state.runs ++ pending }) := by
  induction pending with
  | nil =>
    intro state _ _
    rw [List.append_nil]
    rfl
  | cons run rest ih =>
    intro state hnodup hnew
    obtain ⟨hfirst, hrest⟩ := List.nodup_cons.mp hnodup
    have hinsert : insertRow RunRecord.runId state.runs run = .ok (state.runs ++ [run]) := by
      refine if_neg fun hany ↦ ?_
      obtain ⟨other, hother, hid⟩ := List.any_eq_true.mp hany
      exact hnew run List.mem_cons_self
        (List.mem_map.mpr ⟨other, hother, of_decide_eq_true hid⟩)
    have hadd : addRun run state = (.ok (), { state with runs := state.runs ++ [run] }) := by
      rw [addRun, hinsert]
    have hothers := ih { state with runs := state.runs ++ [run] } hrest fun other hother hmem ↦ by
      rw [List.map_append, List.mem_append] at hmem
      rcases hmem with hold | hlast
      · exact hnew other (List.mem_cons_of_mem _ hother) hold
      · rw [List.map_singleton, List.mem_singleton] at hlast
        exact hfirst (List.mem_map.mpr ⟨other, hother, hlast⟩)
    rw [Effect.forEach]
    refine Effect.bind_eq_ok_iff.mpr ⟨(), _, hadd, hothers.trans ?_⟩
    rw [List.append_assoc]
    rfl

/-- A call returns when the identifiers of its runs are new. -/
theorem enqueue_returns (newUlid : ℕ → String) (now : ℤ) (h : ScheduleRows state.policies)
    (hfresh : FreshUlids newUlid state) :
    ∃ created after, enqueueDueScheduledRuns newUlid now state = (.ok created, after) := by
  have hloop := ends_enqueueLoop newUlid now h
  rcases hrun : (state.policies.filter IsSchedule).foldlM (enqueueSchedule newUlid now) ⟨[], []⟩ state
    with ⟨exception | progress, middle⟩
  · exact (hloop.of_error hrun).elim
  · have hdone := hloop.of_ok hrun
    have hnodup : (progress.pending.map RunRecord.runId).Nodup := by
      rw [hdone.ids]
      refine List.Nodup.map_on (fun n _ m _ heq ↦ ?_) List.nodup_range
      rcases lt_trichotomy n m with hlt | hsame | hgt
      · exact absurd heq.symm ((hfresh m).2 n hlt)
      · exact hsame
      · exact absurd heq ((hfresh n).2 m hgt)
    have hnew : ∀ run ∈ progress.pending, run.runId ∉ middle.runs.map RunRecord.runId := by
      intro run hmem
      have hid := List.mem_map_of_mem (f := RunRecord.runId) hmem
      rw [hdone.ids] at hid
      obtain ⟨n, -, hn⟩ := List.mem_map.mp hid
      rw [← hn, hdone.runs]
      exact (hfresh n).1
    unfold enqueueDueScheduledRuns
    rw [Effect.bind_apply, Effect.read_apply]
    dsimp only
    exact ⟨_, _, Effect.bind_eq_ok_iff.mpr ⟨progress, middle, hrun,
      Effect.bind_eq_ok_iff.mpr ⟨(), _, addRuns_ok _ middle hnodup hnew, rfl⟩⟩⟩

end Loop

section Histories

variable {newUlid : ℕ → String} {history : SchedulerHistory}

def HasDefinition (policies : List GovernancePolicy) (schedule payload : Fields) : Prop :=
  ∃ row ∈ policies, IsSchedule row ∧ get? schedule "schedule_id" = some (.str row.policyId) ∧
    row.definitionRef = some (.obj payload)

/-- What the rows say of the calls so far: a schedule is as it was made, and after a run it waits for
its interval. -/
structure Tracked (history : SchedulerHistory) : Prop where
  rows : ScheduleRows history.state.policies
  known : ∀ call ∈ history.calls, ∀ run ∈ call.2, ∃ row ∈ history.state.policies,
    run.scheduleId = .str row.policyId
  made : ∀ schedule ∈ history.schedules, ∃ payload,
    HasDefinition history.state.policies schedule payload ∧
    intervalSeconds payload = intervalSeconds schedule ∧ isEnabled payload = isEnabled schedule ∧
    ∀ call ∈ history.calls, runsOf schedule call.2 ≠ [] → isEnabled schedule = true ∧
      ∃ next, nextRunEpoch? payload = some next ∧ call.1 + intervalSeconds schedule ≤ next

/-- The runs of a schedule are its interval apart, and a call creates one at most. -/
structure Spaced (history : SchedulerHistory) : Prop where
  once : ∀ schedule ∈ history.schedules, ∀ call ∈ history.calls, (runsOf schedule call.2).length ≤ 1
  apart : ∀ schedule ∈ history.schedules, history.calls.Pairwise fun first second ↦
    runsOf schedule first.2 ≠ [] → runsOf schedule second.2 ≠ [] →
      first.1 + intervalSeconds schedule ≤ second.1

/-- A key finds its row alone. -/
theorem filter_policyId {rows : List GovernancePolicy} {row : GovernancePolicy}
    (hkeys : (rows.map GovernancePolicy.policyId).Nodup) (hrow : row ∈ rows) :
    (rows.filter fun other ↦ other.policyId = row.policyId) = [row] := by
  induction rows with
  | nil => cases hrow
  | cons first rest ih =>
    obtain ⟨hfirst, hrest⟩ := List.nodup_cons.mp hkeys
    rcases List.mem_cons.mp hrow with rfl | hmem
    · rw [List.filter_cons, if_pos (decide_eq_true rfl), List.filter_eq_nil_iff.mpr]
      intro other hother hsame
      exact hfirst (of_decide_eq_true hsame ▸ List.mem_map_of_mem hother)
    · rw [List.filter_cons_of_neg, ih hrest hmem]
      rw [decide_eq_true_eq]
      exact fun hsame ↦ hfirst (hsame ▸ List.mem_map_of_mem hmem)

theorem length_runsOf {now : ℤ} {before after : SchedulerState} {schedule payload : Fields}
    (hrows : ScheduleRows before.policies) (h : CallOutcome now before after)
    (hdefinition : HasDefinition before.policies schedule payload) [Decidable (IsDue now payload)] :
    (runsOf schedule (after.runs.drop before.runs.length)).length =
      if IsDue now payload then 1 else 0 := by
  obtain ⟨row, hrow, hschedule, hid, hpayload⟩ := hdefinition
  have hcount : (runsOf schedule (after.runs.drop before.runs.length)).length =
      (((after.runs.drop before.runs.length).map RunRecord.scheduleId).filter
        fun id ↦ id = .str row.policyId).length := by
    rw [List.filter_map, List.length_map, runsOf, getD, hid]
    rfl
  have hdue : (dueRows now before.policies).filter (fun other ↦ other.policyId = row.policyId) =
      if IsDue now payload then [row] else [] := by
    have hfound : duePayload? now row = some payload ↔ payload = payload ∧ IsDue now payload :=
      duePayload?_eq_some_iff hpayload (hrows.unique_definition hrow hschedule hpayload)
    rw [dueRows, List.filter_comm, List.filter_comm _ _ before.policies,
      filter_policyId hrows.keys_nodup hrow, List.filter_singleton, decide_eq_true hschedule]
    by_cases hdue : IsDue now payload
    · rw [if_pos hdue, cond_true, List.filter_singleton, hfound.mpr ⟨rfl, hdue⟩]
      rfl
    · have hnone : duePayload? now row = none := by
        by_contra hsome
        obtain ⟨found, hsome⟩ := Option.ne_none_iff_exists'.mp hsome
        exact hdue ((duePayload?_eq_some_iff hpayload
          (hrows.unique_definition hrow hschedule hpayload)).mp hsome).2
      rw [if_neg hdue, cond_true, List.filter_singleton, hnone]
      rfl
  rw [hcount, h.created, List.filter_map, List.length_map]
  have hsame : ((fun id : Json ↦ decide (id = .str row.policyId)) ∘
      fun other : GovernancePolicy ↦ Json.str other.policyId) =
      fun other ↦ decide (other.policyId = row.policyId) := by
    ext other
    simp
  rw [hsame, hdue]
  split_ifs <;> rfl

theorem runsOf_ne_nil_iff {now : ℤ} {before after : SchedulerState} {schedule payload : Fields}
    (hrows : ScheduleRows before.policies) (h : CallOutcome now before after)
    (hdefinition : HasDefinition before.policies schedule payload) :
    runsOf schedule (after.runs.drop before.runs.length) ≠ [] ↔ IsDue now payload := by
  classical
  rw [← List.length_pos_iff, length_runsOf hrows h hdefinition]
  split_ifs with hdue
  · exact iff_of_true Nat.one_pos hdue
  · exact iff_of_false (Nat.lt_irrefl 0) hdue

/-- A definition that is due is written anew. -/
theorem HasDefinition.advance {policies : List GovernancePolicy} {schedule payload : Fields}
    (h : HasDefinition policies schedule payload) (now : ℤ) (hrows : ScheduleRows policies) :
    (IsDue now payload → HasDefinition (policies.map (advancedRow now)) schedule
      (stored (advanced now payload))) ∧
    (¬IsDue now payload → HasDefinition (policies.map (advancedRow now)) schedule payload) := by
  obtain ⟨row, hrow, hschedule, hid, hpayload⟩ := h
  have hdefinition := hrows.unique_definition hrow hschedule hpayload
  have hmem := List.mem_map_of_mem (f := advancedRow now) hrow
  have hid' : get? schedule "schedule_id" = some (.str (advancedRow now row).policyId) := by
    rw [policyId_advancedRow]
    exact hid
  constructor
  · intro hdue
    refine ⟨_, hmem, (isSchedule_advancedRow now row).mpr hschedule, hid', ?_⟩
    rw [advancedRow, if_pos hschedule,
      (duePayload?_eq_some_iff hpayload hdefinition).mpr ⟨rfl, hdue⟩]
    rfl
  · intro hdue
    have hnone : duePayload? now row = none := by
      by_contra hsome
      obtain ⟨found, hsome⟩ := Option.ne_none_iff_exists'.mp hsome
      exact hdue ((duePayload?_eq_some_iff hpayload hdefinition).mp hsome).2
    refine ⟨_, hmem, (isSchedule_advancedRow now row).mpr hschedule, hid', ?_⟩
    rw [advancedRow, if_pos hschedule, hnone]
    exact hpayload

theorem HasDefinition.isDefinition {policies : List GovernancePolicy} {schedule payload : Fields}
    (hrows : ScheduleRows policies) (h : HasDefinition policies schedule payload) :
    ∃ scheduleId, IsDefinition scheduleId payload := by
  obtain ⟨row, hrow, hschedule, -, hpayload⟩ := h
  exact ⟨_, hrows.unique_definition hrow hschedule hpayload⟩

/-- A call that returns keeps track. -/
theorem Tracked.call {now : ℤ} {after : SchedulerState} (h : Tracked history)
    (hcall : CallOutcome now history.state after) :
    Tracked { history with
      state := after
      calls := history.calls ++ [(now, after.runs.drop history.state.runs.length)] } := by
  constructor
  · rw [hcall.policies]
    exact h.rows.advance now
  · intro call hmem run hrun
    rw [hcall.policies]
    rcases List.mem_append.mp hmem with hold | hlast
    · obtain ⟨row, hrow, hid⟩ := h.known call hold run hrun
      exact ⟨_, List.mem_map_of_mem hrow, by rw [policyId_advancedRow, hid]⟩
    · rw [List.mem_singleton.mp hlast] at hrun
      have hid := List.mem_map_of_mem (f := RunRecord.scheduleId) hrun
      rw [hcall.created] at hid
      obtain ⟨row, hrow, hid⟩ := List.mem_map.mp hid
      have hpolicy : row ∈ history.state.policies :=
        List.mem_of_mem_filter (List.mem_of_mem_filter hrow)
      exact ⟨_, List.mem_map_of_mem hpolicy, by rw [policyId_advancedRow, hid]⟩
  · intro schedule hschedule
    obtain ⟨payload, hdefinition, hinterval, henabled, hcalls⟩ := h.made schedule hschedule
    obtain ⟨hdueRow, hnotRow⟩ := hdefinition.advance now h.rows
    obtain ⟨scheduleId, hpayload⟩ := hdefinition.isDefinition h.rows
    have hruns := runsOf_ne_nil_iff h.rows hcall hdefinition
    by_cases hdue : IsDue now payload
    · have hnext : nextRunEpoch? (stored (advanced now payload)) =
          some (now + intervalSeconds schedule) := by
        rw [nextRunEpoch?_stored, nextRunEpoch?_advanced, max_eq_left hpayload.minute, hinterval]
      have hwait : 0 ≤ intervalSeconds schedule := by
        have hminute := hpayload.minute
        omega
      refine ⟨stored (advanced now payload), ?_, ?_, ?_, fun call hmem hsome ↦ ?_⟩
      · rw [hcall.policies]
        exact hdueRow hdue
      · rw [intervalSeconds_stored, intervalSeconds_advanced, hinterval]
      · rw [(hpayload.advanced now).stored.2, isEnabled_advanced, henabled]
      · refine ⟨henabled ▸ hdue.1, _, hnext, ?_⟩
        rcases List.mem_append.mp hmem with hold | hlast
        · obtain ⟨-, next, hbefore, hle⟩ := hcalls call hold hsome
          obtain ⟨next', hbefore', hnow⟩ := hdue.2
          rw [hbefore, Option.some_inj] at hbefore'
          omega
        · rw [List.mem_singleton.mp hlast]
    · refine ⟨payload, ?_, hinterval, henabled, fun call hmem hsome ↦ ?_⟩
      · rw [hcall.policies]
        exact hnotRow hdue
      · rcases List.mem_append.mp hmem with hold | hlast
        · exact hcalls call hold hsome
        · rw [List.mem_singleton.mp hlast] at hsome
          exact absurd (hruns.mp hsome) hdue

/-- A call that returns keeps the runs apart. -/
theorem Spaced.call {now : ℤ} {after : SchedulerState} (h : Spaced history) (htracked : Tracked history)
    (hcall : CallOutcome now history.state after) :
    Spaced { history with
      state := after
      calls := history.calls ++ [(now, after.runs.drop history.state.runs.length)] } := by
  classical
  constructor
  · intro schedule hschedule call hmem
    rcases List.mem_append.mp hmem with hold | hlast
    · exact h.once schedule hschedule call hold
    · obtain ⟨payload, hdefinition, -⟩ := htracked.made schedule hschedule
      rw [List.mem_singleton.mp hlast, length_runsOf htracked.rows hcall hdefinition]
      split_ifs
      · exact Nat.le_refl 1
      · exact Nat.zero_le 1
  · intro schedule hschedule
    obtain ⟨payload, hdefinition, -, -, hcalls⟩ := htracked.made schedule hschedule
    refine List.pairwise_append.mpr ⟨h.apart schedule hschedule, List.pairwise_singleton _ _, ?_⟩
    intro first hfirst second hsecond hsome hsome'
    rw [List.mem_singleton.mp hsecond] at hsome' ⊢
    obtain ⟨-, next, hnext, hle⟩ := hcalls first hfirst hsome
    obtain ⟨-, next', hnext', hnow⟩ := (runsOf_ne_nil_iff htracked.rows hcall hdefinition).mp hsome'
    rw [hnext, Option.some_inj] at hnext'
    dsimp only
    omega

/-- What a call of `create_run_schedule` that returns has done. -/
structure Made (before after : SchedulerState) (schedule : Fields) : Prop where
  rows : ∃ row, after.policies = before.policies ++ [row] ∧ IsSchedule row ∧
    get? schedule "schedule_id" = some (.str row.policyId) ∧
    row.definitionRef = storedDefinition schedule ∧
    ∀ other ∈ before.policies, other.policyId ≠ row.policyId
  definition : ∀ row, get? schedule "schedule_id" = some (.str row) → IsDefinition row schedule
  runs : after.runs = before.runs

theorem ends_createRunSchedule (newUlid : ℕ → String)
    (workspaceId runType scheduleExpression : String) (enabled : Bool) (actorId : String)
    (nowEpoch : ℤ) (state : SchedulerState) :
    Effect.Ends (createRunSchedule newUlid workspaceId runType scheduleExpression enabled actorId
      nowEpoch) state (fun schedule after ↦ Made state after schedule ∧ isEnabled schedule = enabled)
      fun _ _ ↦ True := by
  unfold createRunSchedule
  refine Effect.Ends.bind (Q := fun interval after ↦
    validateScheduleExpression scheduleExpression = .ok interval ∧ state = after)
    (Effect.ends_ofExcept (fun interval hinterval ↦ ⟨hinterval, rfl⟩) fun _ _ ↦ trivial) ?_
  rintro interval _ ⟨hinterval, rfl⟩
  refine Effect.Ends.bind (Q := fun _ after ↦ ∃ issued, after = { state with issued := issued })
    ⟨fun hrun ↦ ⟨_, (congrArg Prod.snd hrun).symm⟩, fun _ ↦ trivial⟩ ?_
  rintro scheduleId _ ⟨issued, rfl⟩
  have hdefinition : IsDefinition scheduleId (schedulePayload scheduleId workspaceId runType
      scheduleExpression interval enabled actorId nowEpoch) :=
    isDefinition_schedulePayload (minute_le_of_validate hinterval) scheduleId workspaceId runType
      enabled actorId nowEpoch
  dsimp only
  refine Effect.Ends.bind (Q := fun _ after ↦ Made state after (schedulePayload scheduleId workspaceId
    runType scheduleExpression interval enabled actorId nowEpoch)) ⟨fun {_ after} hrun ↦ ?_,
      fun _ ↦ trivial⟩ fun _ after hafter ↦ Effect.ends_pure ⟨hafter, isEnabled_schedulePayload _ _ _ _ _ _ _ _⟩
  unfold addPolicy at hrun
  split at hrun
  · next rows hinsert =>
    cases hrun
    obtain ⟨hrows, hnew⟩ := insertRow_eq_ok hinsert
    refine ⟨⟨_, hrows, ⟨rfl, rfl⟩, rfl, rfl, hnew⟩, fun found hfound ↦ ?_, rfl⟩
    rw [hdefinition.scheduleId, Option.some_inj, Json.str.injEq] at hfound
    exact hfound ▸ hdefinition
  · cases hrun

theorem HasDefinition.append {policies : List GovernancePolicy} {schedule payload : Fields}
    (h : HasDefinition policies schedule payload) (row : GovernancePolicy) :
    HasDefinition (policies ++ [row]) schedule payload := by
  obtain ⟨found, hfound, hrest⟩ := h
  exact ⟨found, List.mem_append_left _ hfound, hrest⟩

theorem runsOf_made {after : SchedulerState} {schedule : Fields} (h : Tracked history)
    (hmade : Made history.state after schedule) : ∀ call ∈ history.calls, runsOf schedule call.2 = [] := by
  obtain ⟨row, -, -, hid, -, hnew⟩ := hmade.rows
  intro call hcall
  rw [runsOf, List.filter_eq_nil_iff]
  intro run hrun hsame
  obtain ⟨other, hother, hother'⟩ := h.known call hcall run hrun
  rw [decide_eq_true_eq, getD, hid, hother', Option.getD_some, Json.str.injEq] at hsame
  exact hnew other hother hsame

theorem Tracked.create {after : SchedulerState} {schedule : Fields} (h : Tracked history)
    (hmade : Made history.state after schedule) :
    Tracked { history with state := after, schedules := history.schedules ++ [schedule] } := by
  obtain ⟨row, hrows, hkind, hid, hstored, hnew⟩ := hmade.rows
  have hdefinition := hmade.definition row.policyId hid
  constructor
  · constructor
    · rw [hrows, List.map_append, List.map_singleton, List.nodup_append]
      refine ⟨h.rows.keys_nodup, List.nodup_singleton _, fun key hkey last hlast ↦ ?_⟩
      obtain ⟨other, hother, rfl⟩ := List.mem_map.mp hkey
      rw [List.mem_singleton.mp hlast]
      exact hnew other hother
    · intro other hother hschedule
      rw [hrows] at hother
      rcases List.mem_append.mp hother with hold | hlast
      · exact h.rows.definition other hold hschedule
      · rw [List.mem_singleton.mp hlast]
        exact ⟨_, hstored.trans (storedDefinition_eq _), hdefinition.stored.1⟩
  · intro call hcall run hrun
    obtain ⟨other, hother, hsame⟩ := h.known call hcall run hrun
    refine ⟨other, ?_, hsame⟩
    rw [hrows]
    exact List.mem_append_left _ hother
  · intro other hother
    rcases List.mem_append.mp hother with hold | hlast
    · obtain ⟨payload, hfound, hrest⟩ := h.made other hold
      refine ⟨payload, ?_, hrest⟩
      rw [hrows]
      exact hfound.append row
    · rw [List.mem_singleton.mp hlast]
      refine ⟨stored schedule, ⟨row, ?_, hkind, hid, hstored.trans (storedDefinition_eq _)⟩,
        intervalSeconds_stored _, hdefinition.stored.2, fun call hcall hsome ↦ ?_⟩
      · rw [hrows]
        exact List.mem_append_right _ (List.mem_singleton_self _)
      · exact absurd (runsOf_made h hmade call hcall) hsome

theorem Spaced.create {after : SchedulerState} {schedule : Fields} (h : Spaced history)
    (htracked : Tracked history) (hmade : Made history.state after schedule) :
    Spaced { history with state := after, schedules := history.schedules ++ [schedule] } := by
  have hnone := runsOf_made htracked hmade
  constructor
  · intro other hother call hcall
    rcases List.mem_append.mp hother with hold | hlast
    · exact h.once other hold call hcall
    · rw [List.mem_singleton.mp hlast, hnone call hcall]
      exact Nat.zero_le 1
  · intro other hother
    rcases List.mem_append.mp hother with hold | hlast
    · exact h.apart other hold
    · rw [List.mem_singleton.mp hlast]
      refine List.pairwise_of_forall_mem_list fun first hfirst second _ hsome ↦ ?_
      exact absurd (hnone first hfirst) hsome

/-- A step keeps track of the schedules and keeps their runs apart. -/
theorem tracked_step (newUlid : ℕ → String) (htracked : Tracked history) (hspaced : Spaced history)
    (action : SchedulerAction) : Tracked (schedulerStep newUlid history action) ∧
      Spaced (schedulerStep newUlid history action) := by
  -- identifiers that were given out are not part of what is tracked
  have hrolledBack : ∀ issued, Tracked { history with
        state := { history.state with issued := issued } } ∧
      Spaced { history with state := { history.state with issued := issued } } := fun issued ↦
    ⟨⟨htracked.rows, htracked.known, htracked.made⟩, ⟨hspaced.once, hspaced.apart⟩⟩
  cases action with
  | create workspaceId runType scheduleExpression enabled actorId nowEpoch =>
    have hends := ends_createRunSchedule newUlid workspaceId runType scheduleExpression enabled actorId
      nowEpoch history.state
    unfold schedulerStep
    dsimp only
    split
    · next payload after hrun =>
      have hmade := (hends.of_ok hrun).1
      exact ⟨htracked.create hmade, hspaced.create htracked hmade⟩
    · exact hrolledBack _
  | enqueue now =>
    have hends := ends_enqueueDueScheduledRuns newUlid now htracked.rows
    unfold schedulerStep
    dsimp only
    split
    · next created after hrun =>
      have hcall := hends.of_ok hrun
      exact ⟨htracked.call hcall, hspaced.call htracked hcall⟩
    · exact hrolledBack _

structure NoSchedules (start : SchedulerState) : Prop where
  keys_nodup : (start.policies.map GovernancePolicy.policyId).Nodup
  none : ∀ row ∈ start.policies, ¬IsSchedule row

theorem tracked_run (newUlid : ℕ → String) {start : SchedulerState} (hstart : NoSchedules start)
    (actions : List SchedulerAction) : Tracked (runScheduler newUlid start actions) ∧
      Spaced (runScheduler newUlid start actions) := by
  have hall : ∀ earlier, earlier <+: actions → Tracked (runScheduler newUlid start earlier) ∧
      Spaced (runScheduler newUlid start earlier) := by
    refine prefix_induction ⟨⟨⟨hstart.keys_nodup, fun row hrow hschedule ↦ ?_⟩, ?_, ?_⟩, ⟨?_, ?_⟩⟩ ?_
    · exact absurd hschedule (hstart.none row hrow)
    · exact fun _ hcall ↦ absurd hcall List.not_mem_nil
    · exact fun _ hschedule ↦ absurd hschedule List.not_mem_nil
    · exact fun _ hschedule ↦ absurd hschedule List.not_mem_nil
    · exact fun _ hschedule ↦ absurd hschedule List.not_mem_nil
    · rintro earlier action - ⟨htracked, hspaced⟩
      rw [runScheduler, run_snoc]
      exact tracked_step newUlid htracked hspaced action
  exact hall actions List.prefix_rfl

/-- What is asked of the scheduler after any calls. -/
structure SchedulerSpacing (newUlid : ℕ → String) (history : SchedulerHistory) : Prop where
  /-- A call creates one run of a schedule at most. -/
  once : ∀ schedule ∈ history.schedules, ∀ call ∈ history.calls, (runsOf schedule call.2).length ≤ 1
  /-- Two runs of a schedule are its interval apart. -/
  apart : ∀ schedule ∈ history.schedules, history.calls.Pairwise fun first second ↦
    runsOf schedule first.2 ≠ [] → runsOf schedule second.2 ≠ [] →
      first.1 + intervalSeconds schedule ≤ second.1
  /-- A disabled schedule has no runs. -/
  disabled : ∀ schedule ∈ history.schedules, isEnabled schedule = false →
    ∀ call ∈ history.calls, runsOf schedule call.2 = []
  /-- A second call at the same time creates no run. -/
  repeated : ∀ now created after,
    enqueueDueScheduledRuns newUlid now history.state = (.ok created, after) →
    enqueueDueScheduledRuns newUlid now after = (.ok [], after)
  /-- A call gives each schedule that is due a run. -/
  due : ∀ now created after,
    enqueueDueScheduledRuns newUlid now history.state = (.ok created, after) →
    ∀ schedule ∈ history.schedules, ∀ payload,
      HasDefinition history.state.policies schedule payload → IsDue now payload →
      runsOf schedule (after.runs.drop history.state.runs.length) ≠ []
  /-- Each schedule has its definition, enabled as it was made. -/
  defined : ∀ schedule ∈ history.schedules, ∃ payload,
    HasDefinition history.state.policies schedule payload ∧ isEnabled payload = isEnabled schedule
  /-- A call whose identifiers are new returns. -/
  returns : ∀ now, FreshUlids newUlid history.state →
    ∃ created after, enqueueDueScheduledRuns newUlid now history.state = (.ok created, after)

/-- After any calls that make schedules and create their runs, the runs of each schedule are spaced,
and a call runs what is due. -/
theorem scheduler_spacing (newUlid : ℕ → String) (start : SchedulerState) (hstart : NoSchedules start)
    (actions : List SchedulerAction) :
    SchedulerSpacing newUlid (runScheduler newUlid start actions) := by
  obtain ⟨htracked, hspaced⟩ := tracked_run newUlid hstart actions
  refine ⟨hspaced.once, hspaced.apart, ?_, ?_, ?_, ?_, ?_⟩
  · intro schedule hschedule hdisabled call hcall
    obtain ⟨payload, -, -, -, hcalls⟩ := htracked.made schedule hschedule
    by_contra hsome
    rw [(hcalls call hcall hsome).1] at hdisabled
    cases hdisabled
  · intro now created after hrun
    have hcall := (ends_enqueueDueScheduledRuns newUlid now htracked.rows).of_ok hrun
    refine enqueue_nothing_due newUlid ?_
    rw [hcall.policies, dueRows, List.filter_eq_nil_iff]
    intro row hrow hdue
    obtain ⟨hmem, hschedule⟩ := List.mem_filter.mp hrow
    obtain ⟨old, hold, rfl⟩ := List.mem_map.mp hmem
    have hschedule := (isSchedule_advancedRow now old).mp (of_decide_eq_true hschedule)
    exact absurd (duePayload?_advancedRow htracked.rows hold hschedule) (of_decide_eq_true hdue)
  · intro now created after hrun schedule hschedule payload hdefinition hdue
    have hcall := (ends_enqueueDueScheduledRuns newUlid now htracked.rows).of_ok hrun
    exact (runsOf_ne_nil_iff htracked.rows hcall hdefinition).mpr hdue
  · intro schedule hschedule
    obtain ⟨payload, hdefinition, -, henabled, -⟩ := htracked.made schedule hschedule
    exact ⟨payload, hdefinition, henabled⟩
  · exact fun now hfresh ↦ enqueue_returns newUlid now htracked.rows hfresh

end Histories

/-- A database without policies and runs. -/
def emptyScheduler : SchedulerState := ⟨[], [], 0⟩

/-- A schedule made at time 0, and calls at four times. -/
def everyMinute : List SchedulerAction :=
  [.create "w1" "discover" "*/1 * * * *" true "user:steward" 0, .enqueue 60, .enqueue 60,
    .enqueue 119, .enqueue 120]

theorem everyMinute_spacing : SchedulerSpacing (fun n ↦ toString n)
    (runScheduler (fun n ↦ toString n) emptyScheduler everyMinute) :=
  scheduler_spacing _ emptyScheduler ⟨List.nodup_nil, fun _ hrow ↦ absurd hrow List.not_mem_nil⟩
    everyMinute

/-- The first and the last call create a run. -/
example : (runScheduler (fun n ↦ toString n) emptyScheduler everyMinute).calls.map
    (fun call ↦ (call.1, call.2.length)) = [(60, 1), (60, 0), (119, 0), (120, 1)] := by
  decide +kernel

end SchemaPilot.ControlPlane.RunSchedules
