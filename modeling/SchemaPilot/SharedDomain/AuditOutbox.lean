import SchemaPilot.Library.Json
import SchemaPilot.Library.Versions
import Mathlib.Logic.Function.Basic

/-!
# The audit outbox

`backend/shared_domain/audit_outbox.py`. Events are queued as rows and dispatched in cycles: a cycle
reads the pending rows of a service, emits them to the sink one by one and writes what became of them
at one commit. The middlewares of the gateway and of the control plane start a cycle with every
request, so any number of cycles may be open at a time. An action is one of their steps
(`outboxStep`), and a run is a list of actions.

No row is attempted more often than allowed, whatever the order of the steps
(`attemptCount_le_of_run`): a cycle writes the count it has read, plus one.
-/

namespace SchemaPilot.SharedDomain

open Library Library.Json Library.Versions

/-- A row of `audit_outbox_events`. -/
structure AuditOutboxEvent where
  outboxEventId : String
  service : String
  workspaceId : Option String
  auditEventId : String
  payloadJson : Fields
  status : String
  attemptCount : ℕ
  lastError : Option String

/-- `enqueue_audit_outbox_event`, a key that is taken being refused. -/
def enqueueAuditOutboxEvent (outboxEventId service : String) (workspaceId : Option String)
    (auditEventId : String) (payload : Fields) (table : List AuditOutboxEvent) :
    List AuditOutboxEvent :=
  if outboxEventId ∈ table.map AuditOutboxEvent.outboxEventId then table
  else table ++
    [{ outboxEventId := outboxEventId
       service := service
       workspaceId := workspaceId
       auditEventId := auditEventId
       payloadJson := payload
       status := "pending"
       attemptCount := 0
       lastError := none }]

def AuditOutboxEvent.IsPending (service : String) (maxAttempts : ℕ) (row : AuditOutboxEvent) : Prop :=
  row.service = service ∧ row.status = "pending" ∧ row.attemptCount < maxAttempts

instance (service : String) (maxAttempts : ℕ) (row : AuditOutboxEvent) :
    Decidable (row.IsPending service maxAttempts) :=
  inferInstanceAs (Decidable (_ ∧ _))

/-- The rows a cycle reads, in the order of their keys. -/
def pendingRows (service : String) (maxAttempts maxBatch : ℕ) (table : List AuditOutboxEvent) :
    List AuditOutboxEvent :=
  ((table.filter fun row ↦ row.IsPending service maxAttempts).insertionSort
    fun first second ↦ first.outboxEventId ≤ second.outboxEventId).take maxBatch

/-- What `sink.emit` does: it returns, it raises one of the errors that are caught, or another. -/
inductive SinkOutcome where
  | accepted
  | declined (message : String)
  | raised
deriving DecidableEq

def AuditOutboxEvent.marked (maxAttempts : ℕ) (row : AuditOutboxEvent) :
    SinkOutcome → Option AuditOutboxEvent
  | .accepted => some
    { row with status := "sent", attemptCount := row.attemptCount + 1, lastError := none }
  | .declined message => some
    { row with
      status := if maxAttempts ≤ row.attemptCount + 1 then "failed" else row.status
      attemptCount := row.attemptCount + 1
      lastError := some message }
  | .raised => none

/-- An open cycle: the rows that were emitted, each as it was read and as it is now, and the rows
that were not emitted yet. -/
structure DispatchCycle where
  emitted : List (AuditOutboxEvent × AuditOutboxEvent)
  remaining : List AuditOutboxEvent

/-- The keys of the rows a cycle has read. -/
def DispatchCycle.ids (cycle : DispatchCycle) : List String :=
  (cycle.emitted.map fun pair ↦ pair.1.outboxEventId) ++
    cycle.remaining.map AuditOutboxEvent.outboxEventId

/-- The `UPDATE` of a row sets the columns that changed since it was read. -/
def AuditOutboxEvent.updated (row read now : AuditOutboxEvent) : AuditOutboxEvent :=
  { row with
    status := if now.status = read.status then row.status else now.status
    attemptCount := if now.attemptCount = read.attemptCount then row.attemptCount
      else now.attemptCount
    lastError := if now.lastError = read.lastError then row.lastError else now.lastError }

def DispatchCycle.flush (cycle : DispatchCycle) (row : AuditOutboxEvent) : AuditOutboxEvent :=
  match cycle.emitted.find? fun pair ↦ pair.1.outboxEventId = row.outboxEventId with
  | some pair => row.updated pair.1 pair.2
  | none => row

structure Emission where
  outboxEventId : String
  payload : Fields
  outcome : SinkOutcome

/-- The table, the open cycle of each dispatcher, and what reached the sink so far. -/
structure OutboxState (δ : Type) where
  table : List AuditOutboxEvent
  cycles : δ → Option DispatchCycle
  emissions : List Emission

/-- A step of the outbox. An aborted cycle ends without a commit. -/
inductive OutboxAction (δ : Type) where
  | enqueue (outboxEventId service : String) (workspaceId : Option String) (auditEventId : String)
      (payload : Fields)
  | read (dispatcher : δ) (service : String) (maxBatch : ℕ)
  | emit (dispatcher : δ) (outcome : SinkOutcome)
  | commit (dispatcher : δ)
  | abort (dispatcher : δ)

section Steps

variable {δ : Type} [DecidableEq δ]

/-- A dispatcher's cycle becomes another one, or ends. -/
def OutboxState.setCycle (state : OutboxState δ) (dispatcher : δ) (cycle : Option DispatchCycle) :
    OutboxState δ :=
  { state with cycles := Function.update state.cycles dispatcher cycle }

/-- The emission of the next row of a cycle. Errors that are not caught end the cycle. -/
def emitNext (maxAttempts : ℕ) (state : OutboxState δ) (dispatcher : δ) (outcome : SinkOutcome)
    (cycle : DispatchCycle) : OutboxState δ :=
  match cycle.remaining with
  | [] => state
  | row :: rest =>
    { state with
      cycles := Function.update state.cycles dispatcher ((row.marked maxAttempts outcome).map
        fun now ↦ ⟨cycle.emitted ++ [(row, now)], rest⟩)
      emissions := state.emissions ++ [⟨row.outboxEventId, row.payloadJson, outcome⟩] }

/-- The commit of a cycle that has emitted all its rows. -/
def commitCycle (state : OutboxState δ) (dispatcher : δ) (cycle : DispatchCycle) : OutboxState δ :=
  if cycle.remaining = [] then
    { state with
      table := state.table.map cycle.flush
      cycles := Function.update state.cycles dispatcher none }
  else state

/-- The steps of `dispatch_audit_outbox_batch`, and the queueing of an event. -/
def outboxStep (maxAttempts : ℕ) (state : OutboxState δ) : OutboxAction δ → OutboxState δ
  | .enqueue outboxEventId service workspaceId auditEventId payload =>
    { state with table :=
        enqueueAuditOutboxEvent outboxEventId service workspaceId auditEventId payload state.table }
  | .read dispatcher service maxBatch =>
    match state.cycles dispatcher with
    | none => state.setCycle dispatcher
        (some ⟨[], pendingRows service maxAttempts maxBatch state.table⟩)
    | some _ => state
  | .emit dispatcher outcome =>
    match state.cycles dispatcher with
    | none => state
    | some cycle => emitNext maxAttempts state dispatcher outcome cycle
  | .commit dispatcher =>
    match state.cycles dispatcher with
    | none => state
    | some cycle => commitCycle state dispatcher cycle
  | .abort dispatcher => state.setCycle dispatcher none

def runOutbox (maxAttempts : ℕ) (start : OutboxState δ) (actions : List (OutboxAction δ)) :
    OutboxState δ :=
  run (outboxStep maxAttempts) start actions

inductive OutboxMove (maxAttempts : ℕ) (state : OutboxState δ) :
    OutboxAction δ → OutboxState δ → Prop
  | idle (action : OutboxAction δ) : OutboxMove maxAttempts state action state
  | enqueued {outboxEventId service auditEventId : String} {workspaceId : Option String}
      {payload : Fields}
      (fresh : outboxEventId ∉ state.table.map AuditOutboxEvent.outboxEventId) :
      OutboxMove maxAttempts state
        (.enqueue outboxEventId service workspaceId auditEventId payload)
        { state with table := state.table ++
          [⟨outboxEventId, service, workspaceId, auditEventId, payload, "pending", 0, none⟩] }
  | read {dispatcher : δ} {service : String} {maxBatch : ℕ} (closed : state.cycles dispatcher = none) :
      OutboxMove maxAttempts state (.read dispatcher service maxBatch)
        (state.setCycle dispatcher
          (some ⟨[], pendingRows service maxAttempts maxBatch state.table⟩))
  | emitted {dispatcher : δ} {outcome : SinkOutcome} {cycle : DispatchCycle}
      {row now : AuditOutboxEvent} {rest : List AuditOutboxEvent}
      (opened : state.cycles dispatcher = some cycle) (next : cycle.remaining = row :: rest)
      (caught : row.marked maxAttempts outcome = some now) :
      OutboxMove maxAttempts state (.emit dispatcher outcome)
        { state with
          cycles := Function.update state.cycles dispatcher
            (some ⟨cycle.emitted ++ [(row, now)], rest⟩)
          emissions := state.emissions ++ [⟨row.outboxEventId, row.payloadJson, outcome⟩] }
  | crashed {dispatcher : δ} {cycle : DispatchCycle} {row : AuditOutboxEvent}
      {rest : List AuditOutboxEvent} (opened : state.cycles dispatcher = some cycle)
      (next : cycle.remaining = row :: rest) :
      OutboxMove maxAttempts state (.emit dispatcher .raised)
        { state with
          cycles := Function.update state.cycles dispatcher none
          emissions := state.emissions ++ [⟨row.outboxEventId, row.payloadJson, .raised⟩] }
  | committed {dispatcher : δ} {cycle : DispatchCycle}
      (opened : state.cycles dispatcher = some cycle) (finished : cycle.remaining = []) :
      OutboxMove maxAttempts state (.commit dispatcher)
        { state with
          table := state.table.map cycle.flush
          cycles := Function.update state.cycles dispatcher none }
  | aborted (dispatcher : δ) :
      OutboxMove maxAttempts state (.abort dispatcher) (state.setCycle dispatcher none)

/-- Every step is one of the cases. -/
theorem outboxMove_step (maxAttempts : ℕ) (state : OutboxState δ) (action : OutboxAction δ) :
    OutboxMove maxAttempts state action (outboxStep maxAttempts state action) := by
  cases action with
  | enqueue outboxEventId service workspaceId auditEventId payload =>
    rw [outboxStep, enqueueAuditOutboxEvent]
    split_ifs with htaken
    · exact .idle _
    · exact .enqueued htaken
  | read dispatcher service maxBatch =>
    rw [outboxStep]
    cases hcycle : state.cycles dispatcher with
    | none => exact .read hcycle
    | some cycle => exact .idle _
  | emit dispatcher outcome =>
    rw [outboxStep]
    cases hcycle : state.cycles dispatcher with
    | none => exact .idle _
    | some cycle =>
      simp only [emitNext]
      cases hremaining : cycle.remaining with
      | nil => exact .idle _
      | cons row rest =>
        cases outcome with
        | accepted => exact .emitted hcycle hremaining rfl
        | declined message => exact .emitted hcycle hremaining rfl
        | raised => exact .crashed hcycle hremaining
  | commit dispatcher =>
    rw [outboxStep]
    cases hcycle : state.cycles dispatcher with
    | none => exact .idle _
    | some cycle =>
      simp only [commitCycle]
      split_ifs with hremaining
      · exact .committed hcycle hremaining
      · exact .idle _
  | abort dispatcher => exact .aborted dispatcher

/-- What is stored and what the open cycles will write respects the bound. -/
structure AttemptsBounded (maxAttempts : ℕ) (state : OutboxState δ) : Prop where
  table : ∀ row ∈ state.table, row.attemptCount ≤ maxAttempts
  emitted : ∀ dispatcher cycle, state.cycles dispatcher = some cycle →
    ∀ pair ∈ cycle.emitted, pair.2.attemptCount ≤ maxAttempts
  remaining : ∀ dispatcher cycle, state.cycles dispatcher = some cycle →
    ∀ row ∈ cycle.remaining, row.attemptCount < maxAttempts

theorem mem_pendingRows {service : String} {maxAttempts maxBatch : ℕ}
    {table : List AuditOutboxEvent} {row : AuditOutboxEvent}
    (h : row ∈ pendingRows service maxAttempts maxBatch table) :
    row ∈ table ∧ row.IsPending service maxAttempts := by
  obtain ⟨hrow, hpending⟩ :=
    List.mem_filter.mp ((List.mem_insertionSort _).mp (List.mem_of_mem_take h))
  exact ⟨hrow, of_decide_eq_true hpending⟩

theorem attemptCount_marked {maxAttempts : ℕ} {row now : AuditOutboxEvent} {outcome : SinkOutcome}
    (h : row.marked maxAttempts outcome = some now) : now.attemptCount = row.attemptCount + 1 := by
  cases outcome with
  | accepted =>
    cases h
    rfl
  | declined message =>
    cases h
    rfl
  | raised => cases h

theorem attemptCount_flush {maxAttempts : ℕ} {cycle : DispatchCycle} {row : AuditOutboxEvent}
    (hcycle : ∀ pair ∈ cycle.emitted, pair.2.attemptCount ≤ maxAttempts)
    (hrow : row.attemptCount ≤ maxAttempts) : (cycle.flush row).attemptCount ≤ maxAttempts := by
  unfold DispatchCycle.flush
  split
  · next pair hpair =>
    have hmarked := hcycle pair (List.mem_of_find?_eq_some hpair)
    rw [AuditOutboxEvent.updated]
    dsimp only
    split_ifs
    · exact hrow
    · exact hmarked
  · exact hrow

/-- What held of the other cycles and holds of the new one holds of all cycles. -/
theorem forall_update {P : DispatchCycle → Prop} {cycles : δ → Option DispatchCycle}
    {dispatcher : δ} {opened : Option DispatchCycle}
    (h : ∀ other cycle, cycles other = some cycle → P cycle)
    (hopened : ∀ cycle, opened = some cycle → P cycle) :
    ∀ other cycle, Function.update cycles dispatcher opened other = some cycle → P cycle := by
  intro other cycle hcycle
  by_cases hsame : other = dispatcher
  · rw [hsame, Function.update_self] at hcycle
    exact hopened cycle hcycle
  · rw [Function.update_of_ne hsame] at hcycle
    exact h other cycle hcycle

theorem AttemptsBounded.step {maxAttempts : ℕ} {state after : OutboxState δ}
    {action : OutboxAction δ} (h : AttemptsBounded maxAttempts state)
    (hmove : OutboxMove maxAttempts state action after) : AttemptsBounded maxAttempts after := by
  cases hmove with
  | idle => exact h
  | enqueued fresh =>
    refine ⟨fun row hrow ↦ ?_, h.emitted, h.remaining⟩
    rcases List.mem_append.mp hrow with hbefore | hnew
    · exact h.table row hbefore
    · rw [List.mem_singleton.mp hnew]
      exact Nat.zero_le _
  | read closed =>
    refine ⟨h.table, forall_update h.emitted fun cycle hcycle ↦ ?_,
      forall_update h.remaining fun cycle hcycle ↦ ?_⟩
    · cases hcycle
      exact fun _ hpair ↦ absurd hpair List.not_mem_nil
    · cases hcycle
      exact fun row hrow ↦ (mem_pendingRows hrow).2.2.2
  | @emitted dispatcher outcome cycle row now rest opened next caught =>
    have hremaining := h.remaining dispatcher cycle opened
    rw [next, List.forall_mem_cons] at hremaining
    refine ⟨h.table, forall_update h.emitted fun cycle hcycle ↦ ?_,
      forall_update h.remaining fun cycle hcycle ↦ ?_⟩
    · cases hcycle
      intro pair hpair
      rcases List.mem_append.mp hpair with hbefore | hnew
      · exact h.emitted dispatcher _ opened pair hbefore
      · rw [List.mem_singleton.mp hnew, attemptCount_marked caught]
        exact hremaining.1
    · cases hcycle
      exact hremaining.2
  | crashed opened next =>
    exact ⟨h.table, forall_update h.emitted fun _ hcycle ↦ absurd hcycle (by simp),
      forall_update h.remaining fun _ hcycle ↦ absurd hcycle (by simp)⟩
  | @committed dispatcher cycle opened finished =>
    refine ⟨fun row hrow ↦ ?_, forall_update h.emitted fun _ hcycle ↦ absurd hcycle (by simp),
      forall_update h.remaining fun _ hcycle ↦ absurd hcycle (by simp)⟩
    obtain ⟨old, hold, rfl⟩ := List.mem_map.mp hrow
    exact attemptCount_flush (h.emitted dispatcher cycle opened) (h.table old hold)
  | aborted dispatcher =>
    exact ⟨h.table, forall_update h.emitted fun _ hcycle ↦ absurd hcycle (by simp),
      forall_update h.remaining fun _ hcycle ↦ absurd hcycle (by simp)⟩

/-- A table whose counts respect the bound, with no cycle open. -/
def OutboxState.Fresh (maxAttempts : ℕ) (state : OutboxState δ) : Prop :=
  (state.table.map AuditOutboxEvent.outboxEventId).Nodup ∧
    (∀ row ∈ state.table, row.attemptCount ≤ maxAttempts) ∧
    (∀ dispatcher, state.cycles dispatcher = none) ∧ state.emissions = []

/-- Whatever the order of the steps, no row is attempted more often than allowed. -/
theorem attemptCount_le_of_run {maxAttempts : ℕ} {start : OutboxState δ}
    (hstart : start.Fresh maxAttempts) (actions : List (OutboxAction δ)) :
    ∀ row ∈ (runOutbox maxAttempts start actions).table, row.attemptCount ≤ maxAttempts := by
  have hbounded : ∀ earlier, earlier <+: actions →
      AttemptsBounded maxAttempts (runOutbox maxAttempts start earlier) := by
    refine prefix_induction ?_ fun earlier action _ ih ↦ ?_
    · obtain ⟨-, htable, hcycles, -⟩ := hstart
      refine ⟨htable, fun dispatcher cycle hcycle ↦ ?_, fun dispatcher cycle hcycle ↦ ?_⟩
      · exact absurd ((hcycles dispatcher).symm.trans hcycle) (by simp)
      · exact absurd ((hcycles dispatcher).symm.trans hcycle) (by simp)
    · rw [runOutbox, run_snoc]
      exact ih.step (outboxMove_step maxAttempts _ action)
  exact (hbounded actions List.prefix_rfl).table

end Steps

end SchemaPilot.SharedDomain
