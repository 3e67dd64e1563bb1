import SchemaPilot.SharedDomain.OutboxDelivery
import SchemaPilot.Library.EffectLogic

/-!
# One batch of the outbox

`dispatch_audit_outbox_batch` as one call, and the webhook sink of
`backend/shared_domain/audit_sinks.py`. The loop catches `AuditSinkError`, `OSError` and
`TimeoutError`; any other exception leaves the call before the commit that all marks of the batch
share. `batchIsolated_iff` says that the rows of a batch fare independently exactly when no emission
raises such an exception. A call is a run of the steps of `outboxStep` (`table_dispatch_eq_run`).
-/

namespace SchemaPilot.SharedDomain

open Library Library.Json Library.Versions

/-- What a sink raises, by the families that the loop tells apart. -/
inductive SinkException where
  | auditSinkError (message : String)
  | osError (message : String)
  | timeoutError (message : String)
  | other (kind message : String)

/-- `str(exc)` of an exception that the loop catches. -/
def SinkException.caught? : SinkException → Option String
  | auditSinkError message => some message
  | osError message => some message
  | timeoutError message => some message
  | other _ _ => none

/-- `WebhookAuditSink.emit`. The request, with the event as its body, is built before the `try`. -/
def webhookEmit {ρ : Type} (newRequest : String → Fields → Except SinkException ρ)
    (urlopen : ρ → Except SinkException Unit) (url : String) (event : Fields) :
    Except SinkException Unit := do
  let req ← newRequest url event
  match urlopen req with
  | .ok () => return ()
  | .error (.osError _) => .error (.auditSinkError "audit_sink_unavailable")
  | .error (.timeoutError _) => .error (.auditSinkError "audit_sink_unavailable")
  | .error exc => .error exc

def sinkOutcome : Except SinkException Unit → SinkOutcome
  | .ok () => .accepted
  | .error exc =>
    match exc.caught? with
    | some message => .declined message
    | none => .raised

/-- The committed rows, the rows of the session that have changed, each as it was read and as it is
now, the rows handed to the sink, and the counters of the call. -/
structure DispatchSession where
  table : List AuditOutboxEvent
  marks : List (AuditOutboxEvent × AuditOutboxEvent)
  handed : List AuditOutboxEvent
  attempted : ℕ
  sent : ℕ
  failed : ℕ

/-- `AuditOutboxDispatchResult`. -/
structure AuditOutboxDispatchResult where
  attempted : ℕ
  sent : ℕ
  failed : ℕ
  pending : ℕ

/-- `session_factory()`. -/
def newDispatchSession (table : List AuditOutboxEvent) : DispatchSession := ⟨table, [], [], 0, 0, 0⟩

/-- The row after its emission was accepted. -/
def AuditOutboxEvent.markedSent (row : AuditOutboxEvent) : AuditOutboxEvent :=
  { row with status := "sent", attemptCount := row.attemptCount + 1, lastError := none }

/-- The row after its emission raised an exception that is caught. -/
def AuditOutboxEvent.markedFailed (maxAttempts : ℕ) (message : String) (row : AuditOutboxEvent) :
    AuditOutboxEvent :=
  { row with
    status := if maxAttempts ≤ row.attemptCount + 1 then "failed" else row.status
    attemptCount := row.attemptCount + 1
    lastError := some message }

/-- `_count_pending_outbox_rows`. -/
def countPendingOutboxRows (service : String) (maxAttempts : ℕ) (table : List AuditOutboxEvent) : ℕ :=
  table.countP fun row ↦ row.IsPending service maxAttempts

/-- `session.commit()`. -/
def DispatchSession.commit (session : DispatchSession) : DispatchSession :=
  { session with table := session.table.map (DispatchCycle.mk session.marks []).flush }

/-- One round of the loop, `emit` being what the sink does with the row. -/
def dispatchRow (maxAttempts : ℕ) (emit : AuditOutboxEvent → Except SinkException Unit)
    (row : AuditOutboxEvent) : Effect DispatchSession SinkException Unit := do
  Effect.change fun session ↦
    { session with attempted := session.attempted + 1, handed := session.handed ++ [row] }
  match emit row with
  | .ok () => Effect.change fun session ↦
      { session with marks := session.marks ++ [(row, row.markedSent)], sent := session.sent + 1 }
  | .error exc =>
    match exc.caught? with
    | some message => Effect.change fun session ↦
        { session with
          marks := session.marks ++ [(row, row.markedFailed maxAttempts message)]
          failed := session.failed + 1 }
    | none => Effect.raise exc

/-- `dispatch_audit_outbox_batch`. -/
def dispatchAuditOutboxBatch (emit : AuditOutboxEvent → Except SinkException Unit) (service : String)
    (maxBatch maxAttempts : ℕ) :
    Effect DispatchSession SinkException AuditOutboxDispatchResult := do
  let rows := pendingRows service maxAttempts maxBatch (← Effect.read).table
  Effect.forEach (dispatchRow maxAttempts emit) rows
  Effect.change DispatchSession.commit
  let session ← Effect.read
  return {
      attempted := session.attempted
      sent := session.sent
      failed := session.failed
      pending := countPendingOutboxRows service maxAttempts session.table }

section Loop

variable {maxAttempts : ℕ} {emit : AuditOutboxEvent → Except SinkException Unit}
  {rows : List AuditOutboxEvent} {session : DispatchSession} {row : AuditOutboxEvent}

def EmissionCaught (emit : AuditOutboxEvent → Except SinkException Unit) (row : AuditOutboxEvent) :
    Prop := ∀ exc, emit row = .error exc → exc.caught? ≠ none

/-- The row as its emission leaves it, where the loop goes on. -/
def markOf (maxAttempts : ℕ) (emit : AuditOutboxEvent → Except SinkException Unit)
    (row : AuditOutboxEvent) : AuditOutboxEvent :=
  match emit row with
  | .ok () => row.markedSent
  | .error exc => row.markedFailed maxAttempts (exc.caught?.getD "")

theorem marked_sinkOutcome (h : EmissionCaught emit row) :
    row.marked maxAttempts (sinkOutcome (emit row)) = some (markOf maxAttempts emit row) := by
  unfold markOf
  rcases hemit : emit row with exc | done
  · rcases hcaught : exc.caught? with _ | message
    · exact absurd hcaught (h exc hemit)
    · simp [sinkOutcome, hcaught, AuditOutboxEvent.marked, AuditOutboxEvent.markedFailed]
  · rfl

theorem dispatchRow_caught (maxAttempts : ℕ) (session : DispatchSession) (h : EmissionCaught emit row) :
    ∃ sent failed, dispatchRow maxAttempts emit row session =
      (.ok (),
        { session with
          marks := session.marks ++ [(row, markOf maxAttempts emit row)]
          handed := session.handed ++ [row]
          attempted := session.attempted + 1
          sent := sent
          failed := failed }) := by
  unfold dispatchRow markOf
  rw [Effect.bind_apply, Effect.change_apply]
  dsimp only
  rcases hemit : emit row with exc | done
  · rcases hcaught : exc.caught? with _ | message
    · exact absurd hcaught (h exc hemit)
    · refine ⟨session.sent, session.failed + 1, ?_⟩
      simp only [hcaught]
      rfl
  · exact ⟨session.sent + 1, session.failed, rfl⟩

/-- A round whose emission is not caught ends the call. -/
theorem dispatchRow_raised (maxAttempts : ℕ) (session : DispatchSession) {exc : SinkException}
    (hemit : emit row = .error exc)
    (hcaught : exc.caught? = none) : ∃ after, dispatchRow maxAttempts emit row session =
      (.error exc, after) ∧ after.table = session.table := by
  unfold dispatchRow
  rw [Effect.bind_apply, Effect.change_apply, hemit]
  dsimp only
  rw [hcaught]
  exact ⟨_, rfl, rfl⟩

theorem forEach_dispatchRow_caught (maxAttempts : ℕ) (h : ∀ row ∈ rows, EmissionCaught emit row) :
    ∀ session : DispatchSession, ∃ sent failed,
      Effect.forEach (dispatchRow maxAttempts emit) rows session =
        (.ok (),
          { session with
            marks := session.marks ++ rows.map fun row ↦ (row, markOf maxAttempts emit row)
            handed := session.handed ++ rows
            attempted := session.attempted + rows.length
            sent := sent
            failed := failed }) := by
  induction rows with
  | nil =>
    intro session
    refine ⟨session.sent, session.failed, ?_⟩
    rw [List.map_nil, List.append_nil, List.append_nil]
    rfl
  | cons row rest ih =>
    intro session
    obtain ⟨hrow, hrest⟩ := List.forall_mem_cons.mp h
    obtain ⟨sent, failed, hfirst⟩ := dispatchRow_caught maxAttempts session hrow
    obtain ⟨sent', failed', hothers⟩ := ih hrest _
    refine ⟨sent', failed', ?_⟩
    rw [Effect.forEach, Effect.bind_eq_ok_iff]
    refine ⟨(), _, hfirst, hothers.trans ?_⟩
    rw [List.map_cons, List.length_cons, Nat.add_comm rest.length 1, ← Nat.add_assoc]
    simp only [List.append_assoc, List.singleton_append]

/-- A loop with an emission that is not caught ends the call, and nothing is committed. -/
theorem forEach_dispatchRow_raised (maxAttempts : ℕ) (h : ¬∀ row ∈ rows, EmissionCaught emit row) :
    ∀ session : DispatchSession, ∃ exc after,
      Effect.forEach (dispatchRow maxAttempts emit) rows session = (.error exc, after) ∧
        after.table = session.table := by
  induction rows with
  | nil => exact absurd (fun _ hrow ↦ absurd hrow List.not_mem_nil) h
  | cons row rest ih =>
    intro session
    rw [Effect.forEach]
    by_cases hrow : EmissionCaught emit row
    · obtain ⟨sent, failed, hfirst⟩ := dispatchRow_caught maxAttempts session hrow
      have hrest : ¬∀ row ∈ rest, EmissionCaught emit row :=
        fun hall ↦ h (List.forall_mem_cons.mpr ⟨hrow, hall⟩)
      obtain ⟨exc, after, hothers, htable⟩ := ih hrest _
      exact ⟨exc, after, Effect.bind_eq_error_iff.mpr (Or.inr ⟨(), _, hfirst, hothers⟩), htable⟩
    · unfold EmissionCaught at hrow
      push Not at hrow
      obtain ⟨exc, hemit, hcaught⟩ := hrow
      obtain ⟨after, hfirst, htable⟩ := dispatchRow_raised maxAttempts session hemit hcaught
      exact ⟨exc, after, Effect.bind_eq_error_iff.mpr (Or.inl hfirst), htable⟩

end Loop

section Isolation

variable {emit : AuditOutboxEvent → Except SinkException Unit} {service : String}
  {maxBatch maxAttempts : ℕ} {table : List AuditOutboxEvent}

/-- What is asked of a call: every row of the batch is handed to the sink, a row whose emission raised
has one more attempt, the rows of the batch marked as sent are those whose emission succeeded, and the
other rows are as they were. -/
structure BatchIsolated (emit : AuditOutboxEvent → Except SinkException Unit) (service : String)
    (maxBatch maxAttempts : ℕ) (before : List AuditOutboxEvent) (after : DispatchSession) : Prop where
  handed : after.handed = pendingRows service maxAttempts maxBatch before
  counted : ∀ row ∈ pendingRows service maxAttempts maxBatch before, ∀ exc, emit row = .error exc →
    ∃ now ∈ after.table, now.outboxEventId = row.outboxEventId ∧
      now.attemptCount = row.attemptCount + 1
  sent : ∀ row ∈ pendingRows service maxAttempts maxBatch before, ∃ now ∈ after.table,
    now.outboxEventId = row.outboxEventId ∧ (now.status = "sent" ↔ emit row = .ok ())
  others : ∀ row ∈ before, row ∉ pendingRows service maxAttempts maxBatch before → row ∈ after.table
  sameIds : after.table.map AuditOutboxEvent.outboxEventId =
    before.map AuditOutboxEvent.outboxEventId

theorem dispatch_caught
    (h : ∀ row ∈ pendingRows service maxAttempts maxBatch table, EmissionCaught emit row) :
    ((dispatchAuditOutboxBatch emit service maxBatch maxAttempts (newDispatchSession table)).2.handed =
        pendingRows service maxAttempts maxBatch table) ∧
      (dispatchAuditOutboxBatch emit service maxBatch maxAttempts (newDispatchSession table)).2.table =
        table.map (DispatchCycle.mk ((pendingRows service maxAttempts maxBatch table).map fun row ↦
          (row, markOf maxAttempts emit row)) []).flush := by
  obtain ⟨sent, failed, hloop⟩ := forEach_dispatchRow_caught maxAttempts h
    (newDispatchSession table)
  unfold dispatchAuditOutboxBatch
  rw [Effect.bind_apply, Effect.read_apply]
  dsimp only
  rw [Effect.bind_apply, show (newDispatchSession table).table = table from rfl, hloop]
  exact ⟨rfl, rfl⟩

/-- A call with an emission that is not caught leaves the table as it was. -/
theorem dispatch_raised
    (h : ¬∀ row ∈ pendingRows service maxAttempts maxBatch table, EmissionCaught emit row) :
    (dispatchAuditOutboxBatch emit service maxBatch maxAttempts (newDispatchSession table)).2.table =
      table := by
  obtain ⟨exc, after, hloop, htable⟩ := forEach_dispatchRow_raised maxAttempts h
    (newDispatchSession table)
  unfold dispatchAuditOutboxBatch
  rw [Effect.bind_apply, Effect.read_apply]
  dsimp only
  rw [Effect.bind_apply, show (newDispatchSession table).table = table from rfl, hloop]
  exact htable

/-- The keys of a batch tell its rows apart. -/
theorem nodup_ids_pendingRows (hkeys : (table.map AuditOutboxEvent.outboxEventId).Nodup) :
    ((pendingRows service maxAttempts maxBatch table).map AuditOutboxEvent.outboxEventId).Nodup := by
  have hperm : ((table.filter fun row ↦ row.IsPending service maxAttempts).insertionSort
      fun first second ↦ first.outboxEventId ≤ second.outboxEventId).Perm
      (table.filter fun row ↦ row.IsPending service maxAttempts) := List.perm_insertionSort _ _
  have hfilter : ((table.filter fun row ↦ row.IsPending service maxAttempts).map
      AuditOutboxEvent.outboxEventId).Nodup := hkeys.sublist (List.filter_sublist.map _)
  exact ((hperm.map _).nodup_iff.mpr hfilter).sublist ((List.take_sublist _ _).map _)

/-- A column is written when it has changed. -/
theorem written_eq {α : Type} [DecidableEq α] (now read : α) :
    (if now = read then read else now) = now := by
  split_ifs with h
  · exact h.symm
  · rfl

/-- The commit leaves a row as its emission has left it. -/
theorem updated_markOf (row : AuditOutboxEvent) :
    row.updated row (markOf maxAttempts emit row) = markOf maxAttempts emit row := by
  unfold AuditOutboxEvent.updated
  rw [written_eq, written_eq, written_eq]
  unfold markOf
  split <;> rfl

theorem outboxEventId_markOf (row : AuditOutboxEvent) :
    (markOf maxAttempts emit row).outboxEventId = row.outboxEventId := by
  unfold markOf
  split <;> rfl

theorem attemptCount_markOf (row : AuditOutboxEvent) :
    (markOf maxAttempts emit row).attemptCount = row.attemptCount + 1 := by
  unfold markOf
  split <;> rfl

/-- A pending row becomes a sent one when its emission succeeded. -/
theorem status_markOf {row : AuditOutboxEvent} (hrow : row.status = "pending") :
    (markOf maxAttempts emit row).status = "sent" ↔ emit row = .ok () := by
  unfold markOf
  rcases hemit : emit row with exc | done
  · refine iff_of_false ?_ (by simp)
    simp only [AuditOutboxEvent.markedFailed]
    split_ifs
    · decide
    · rw [hrow]
      decide
  · exact iff_of_true rfl rfl

/-- The rows of a batch fare independently exactly when its emissions raise nothing but the three
families of exceptions that the loop catches. -/
theorem batchIsolated_iff (emit : AuditOutboxEvent → Except SinkException Unit) (service : String)
    (maxBatch maxAttempts : ℕ) (table : List AuditOutboxEvent)
    (hkeys : (table.map AuditOutboxEvent.outboxEventId).Nodup) :
    BatchIsolated emit service maxBatch maxAttempts table
        (dispatchAuditOutboxBatch emit service maxBatch maxAttempts (newDispatchSession table)).2 ↔
      ∀ row ∈ pendingRows service maxAttempts maxBatch table, EmissionCaught emit row := by
  constructor
  · intro hisolated
    by_contra hraised
    have htable := dispatch_raised hraised
    have hraised' := hraised
    unfold EmissionCaught at hraised'
    push Not at hraised'
    obtain ⟨row, hrow, exc, hemit, -⟩ := hraised'
    -- the row has its old count, since nothing was committed
    obtain ⟨now, hnow, hid, hcount⟩ := hisolated.counted row hrow exc hemit
    rw [htable] at hnow
    rw [List.inj_on_of_nodup_map hkeys hnow (mem_pendingRows hrow).1 hid] at hcount
    exact Nat.succ_ne_self _ hcount.symm
  · intro hcaught
    obtain ⟨hhanded, htable⟩ := dispatch_caught hcaught
    let rows := pendingRows service maxAttempts maxBatch table
    let cycle : DispatchCycle := ⟨rows.map fun row ↦ (row, markOf maxAttempts emit row), []⟩
    have hids : cycle.ids = rows.map AuditOutboxEvent.outboxEventId := by
      change ((rows.map fun row ↦ (row, markOf maxAttempts emit row)).map
        fun pair ↦ pair.1.outboxEventId) ++ [] = _
      rw [List.append_nil, List.map_map]
      rfl
    have hnodup : cycle.ids.Nodup := hids ▸ nodup_ids_pendingRows hkeys
    have hflush : ∀ row ∈ rows, cycle.flush row = markOf maxAttempts emit row := by
      intro row hrow
      have hpair : (row, markOf maxAttempts emit row) ∈ cycle.emitted :=
        List.mem_map.mpr ⟨row, hrow, rfl⟩
      exact (flush_of_emitted hnodup hpair).trans (updated_markOf row)
    have hmarked : ∀ row ∈ rows, markOf maxAttempts emit row ∈ (dispatchAuditOutboxBatch emit service
        maxBatch maxAttempts (newDispatchSession table)).2.table := by
      intro row hrow
      rw [htable]
      exact List.mem_map.mpr ⟨row, (mem_pendingRows hrow).1, hflush row hrow⟩
    constructor
    · exact hhanded
    · intro row hrow exc _
      exact ⟨_, hmarked row hrow, outboxEventId_markOf row, attemptCount_markOf row⟩
    · intro row hrow
      exact ⟨_, hmarked row hrow, outboxEventId_markOf row,
        status_markOf (mem_pendingRows hrow).2.2.1⟩
    · intro row hrow hother
      have hnot : row.outboxEventId ∉ cycle.ids := by
        rw [hids]
        intro hmem
        obtain ⟨found, hfound, hid⟩ := List.mem_map.mp hmem
        have hsame := List.inj_on_of_nodup_map hkeys (mem_pendingRows hfound).1 hrow hid
        exact hother (hsame ▸ hfound)
      rw [htable]
      exact List.mem_map.mpr ⟨row, hrow, flush_of_not_mem hnot⟩
    · rw [htable, List.map_map]
      exact List.map_congr_left fun row _ ↦ outboxEventId_flush _ row

end Isolation

section Run

variable {emit : AuditOutboxEvent → Except SinkException Unit} {maxAttempts : ℕ}

/-- The steps of a call that no other one interleaves with. -/
def dispatchActions (emit : AuditOutboxEvent → Except SinkException Unit) (service : String)
    (maxBatch maxAttempts : ℕ) (table : List AuditOutboxEvent) : List (OutboxAction Unit) :=
  .read () service maxBatch ::
    (pendingRows service maxAttempts maxBatch table).map
      (fun row ↦ .emit () (sinkOutcome (emit row))) ++ [.commit ()]

theorem run_emits_closed (rows : List AuditOutboxEvent) (state : OutboxState Unit)
    (hclosed : state.cycles () = none) :
    run (outboxStep maxAttempts) state (rows.map fun row ↦ .emit () (sinkOutcome (emit row))) =
      state := by
  induction rows with
  | nil => rfl
  | cons row rest ih =>
    have hstep : outboxStep maxAttempts state (.emit () (sinkOutcome (emit row))) = state := by
      simp only [outboxStep, hclosed]
    rw [List.map_cons, run, List.foldl_cons, hstep]
    exact ih

theorem run_emits (emit : AuditOutboxEvent → Except SinkException Unit) (maxAttempts : ℕ)
    (rows : List AuditOutboxEvent) :
    ∀ (state : OutboxState Unit) (marks : List (AuditOutboxEvent × AuditOutboxEvent)),
      state.cycles () = some ⟨marks, rows⟩ → ∃ final : OutboxState Unit,
      run (outboxStep maxAttempts) state (rows.map fun row ↦ .emit () (sinkOutcome (emit row))) =
          final ∧ final.table = state.table ∧
        ((∀ row ∈ rows, EmissionCaught emit row) → final.cycles () =
          some ⟨marks ++ rows.map (fun row ↦ (row, markOf maxAttempts emit row)), []⟩) ∧
        ((¬∀ row ∈ rows, EmissionCaught emit row) → final.cycles () = none) := by
  induction rows with
  | nil =>
    intro state marks hcycle
    refine ⟨state, rfl, rfl, fun _ ↦ ?_, fun hnot ↦ absurd (fun _ hrow ↦ ?_) hnot⟩
    · rw [hcycle, List.map_nil, List.append_nil]
    · exact absurd hrow List.not_mem_nil
  | cons row rest ih =>
    intro state marks hcycle
    rw [List.map_cons, run, List.foldl_cons]
    by_cases hrow : EmissionCaught emit row
    · obtain ⟨final, hrun, htable, hall, hsome⟩ := ih
        (outboxStep maxAttempts state (.emit () (sinkOutcome (emit row))))
        (marks ++ [(row, markOf maxAttempts emit row)])
        (by simp [outboxStep, hcycle, emitNext, marked_sinkOutcome hrow])
      refine ⟨final, hrun, ?_, fun hcaught ↦ ?_, fun hnot ↦ hsome fun hrest ↦ hnot ?_⟩
      · rw [htable]
        simp [outboxStep, hcycle, emitNext]
      · rw [hall (List.forall_mem_cons.mp hcaught).2, List.map_cons, List.append_assoc]
        rfl
      · exact List.forall_mem_cons.mpr ⟨hrow, hrest⟩
    · have hraised : sinkOutcome (emit row) = .raised := by
        unfold EmissionCaught at hrow
        push Not at hrow
        obtain ⟨exc, hemit, hcaught⟩ := hrow
        simp [sinkOutcome, hemit, hcaught]
      have hclosed : (outboxStep maxAttempts state (.emit () (sinkOutcome (emit row)))).cycles () =
          none := by
        simp [outboxStep, hcycle, emitNext, hraised, AuditOutboxEvent.marked]
      refine ⟨_, run_emits_closed rest _ hclosed, ?_, fun hall ↦ ?_, fun _ ↦ hclosed⟩
      · simp [outboxStep, hcycle, emitNext]
      · exact absurd (List.forall_mem_cons.mp hall).1 hrow

/-- A call leaves the table that its steps leave. -/
theorem table_dispatch_eq_run (emit : AuditOutboxEvent → Except SinkException Unit) (service : String)
    (maxBatch maxAttempts : ℕ) (table : List AuditOutboxEvent) :
    (dispatchAuditOutboxBatch emit service maxBatch maxAttempts (newDispatchSession table)).2.table =
      (runOutbox maxAttempts ⟨table, fun _ ↦ none, []⟩
        (dispatchActions emit service maxBatch maxAttempts table)).table := by
  obtain ⟨final, hrun, htable, hall, hsome⟩ := run_emits emit maxAttempts
    (pendingRows service maxAttempts maxBatch table)
    (outboxStep maxAttempts ⟨table, fun _ ↦ none, []⟩ (.read () service maxBatch)) []
    (by simp [outboxStep, OutboxState.setCycle])
  rw [run] at hrun
  rw [runOutbox, dispatchActions, run_snoc, run, List.foldl_cons, hrun]
  have hstart : final.table = table := htable
  by_cases hcaught : ∀ row ∈ pendingRows service maxAttempts maxBatch table, EmissionCaught emit row
  · rw [(dispatch_caught hcaught).2, outboxStep, hall hcaught, List.nil_append]
    simp only [commitCycle, if_true, hstart]
  · rw [dispatch_raised hcaught, outboxStep, hsome hcaught]
    exact hstart.symm

end Run

/-- The urls that `urllib.request.Request` builds a request for, in the examples. -/
def exampleRequest (url : String) (event : Fields) : Except SinkException Fields :=
  if url = "http://audit.local" then .ok event
  else .error (.other "ValueError" "unknown url type")

/-- A server that answers the second event with a broken status line. -/
def brokenServer (event : Fields) : Except SinkException Unit :=
  if (getD event "event" .null).toStr = "second" then .error (.other "BadStatusLine" "")
  else .ok ()

def refusingServer (event : Fields) : Except SinkException Unit :=
  if (getD event "event" .null).toStr = "second" then
    .error (.osError "HTTP Error 503: Service Unavailable")
  else .ok ()

def queuedEvent (outboxEventId event : String) : AuditOutboxEvent :=
  ⟨outboxEventId, "gateway", some "w1", event, [("event", .str event)], "pending", 0, none⟩

def twoEvents : List AuditOutboxEvent := [queuedEvent "e1" "first", queuedEvent "e2" "second"]

def webhookOutbox (server : Fields → Except SinkException Unit) (row : AuditOutboxEvent) :
    Except SinkException Unit :=
  webhookEmit exampleRequest server "http://audit.local" row.payloadJson

theorem pendingRows_twoEvents : pendingRows "gateway" 5 100 twoEvents = twoEvents := by rfl

/-- The broken answer to the second event undoes the mark of the first. -/
theorem broken_answer_undoes_mark :
    ¬∀ (emit : AuditOutboxEvent → Except SinkException Unit) (service : String)
      (maxBatch maxAttempts : ℕ) (table : List AuditOutboxEvent),
      (table.map AuditOutboxEvent.outboxEventId).Nodup →
      BatchIsolated emit service maxBatch maxAttempts table
        (dispatchAuditOutboxBatch emit service maxBatch maxAttempts (newDispatchSession table)).2 := by
  intro hclaim
  have hisolated := hclaim (webhookOutbox brokenServer) "gateway" 100 5 twoEvents (by decide)
  have hpending : ∀ now ∈ (dispatchAuditOutboxBatch (webhookOutbox brokenServer) "gateway" 100 5
      (newDispatchSession twoEvents)).2.table, now.status = "pending" := by decide +kernel
  have hfirst : queuedEvent "e1" "first" ∈ pendingRows "gateway" 5 100 twoEvents := by
    rw [pendingRows_twoEvents]
    exact List.mem_cons_self
  obtain ⟨now, hnow, -, hsent⟩ := hisolated.sent _ hfirst
  have hstatus := hsent.mpr (by rfl)
  rw [hpending now hnow] at hstatus
  exact absurd hstatus (by decide)

/-- The refusal of the second event leaves the mark of the first. -/
theorem refusal_leaves_mark :
    BatchIsolated (webhookOutbox refusingServer) "gateway" 100 5 twoEvents
      (dispatchAuditOutboxBatch (webhookOutbox refusingServer) "gateway" 100 5
        (newDispatchSession twoEvents)).2 := by
  refine (batchIsolated_iff (webhookOutbox refusingServer) "gateway" 100 5 twoEvents
    (by decide)).mpr fun row hrow ↦ ?_
  rw [pendingRows_twoEvents] at hrow
  obtain rfl | hrow := List.mem_cons.mp hrow
  · intro exc hemit
    cases hemit
  · rw [List.mem_singleton.mp hrow]
    intro exc hemit
    cases hemit
    exact Option.some_ne_none _

end SchemaPilot.SharedDomain
