import SchemaPilot.SharedDomain.AuditOutbox
import Mathlib.Data.Fintype.Basic

/-!
# Which rows of the outbox are delivered once

A cycle claims none of the rows it reads: a second cycle reads them too, emits them again and may mark
a sent row as failed; and a cycle that ends without its commit forgets what the sink has accepted. In
a run where no cycle reads a row of another open cycle and no cycle ends so after an acceptance, rows
move from pending to sent or failed only and what was accepted is not emitted again
(`outboxDelivery_of_exclusive`).
-/

namespace SchemaPilot.SharedDomain

open Library Library.Json Library.Versions

/-- The sink has accepted a row of the cycle. -/
def DispatchCycle.HasSent (cycle : DispatchCycle) : Prop :=
  ∃ pair ∈ cycle.emitted, pair.2.status = "sent"

/-- What a cycle holds is what is stored: its rows are pending in the table, as it has read them. -/
structure DispatchCycle.Holds (table : List AuditOutboxEvent) (cycle : DispatchCycle) : Prop where
  nodup : cycle.ids.Nodup
  emitted : ∀ pair ∈ cycle.emitted, pair.1 ∈ table ∧ pair.1.status = "pending" ∧
    (pair.2.status = "pending" ∨ pair.2.status ∈ ["sent", "failed"])
  remaining : ∀ row ∈ cycle.remaining, row ∈ table ∧ row.status = "pending"

theorem mem_ids_of_emitted {cycle : DispatchCycle} {pair : AuditOutboxEvent × AuditOutboxEvent}
    (h : pair ∈ cycle.emitted) : pair.1.outboxEventId ∈ cycle.ids :=
  List.mem_append_left _ (List.mem_map_of_mem (f := fun pair ↦ pair.1.outboxEventId) h)

theorem mem_ids_of_remaining {cycle : DispatchCycle} {row : AuditOutboxEvent}
    (h : row ∈ cycle.remaining) : row.outboxEventId ∈ cycle.ids :=
  List.mem_append_right _ (List.mem_map_of_mem h)

theorem status_marked {maxAttempts : ℕ} {row now : AuditOutboxEvent} {outcome : SinkOutcome}
    (h : row.marked maxAttempts outcome = some now) (hrow : row.status = "pending") :
    now.status = "pending" ∨ now.status ∈ ["sent", "failed"] := by
  cases outcome with
  | accepted =>
    cases h
    exact Or.inr (by simp)
  | declined message =>
    cases h
    dsimp only
    split_ifs
    · exact Or.inr (by simp)
    · exact Or.inl hrow
  | raised => cases h

/-- The commit of a cycle writes each of its rows as the cycle has left it. -/
theorem flush_of_emitted {cycle : DispatchCycle} (hnodup : cycle.ids.Nodup)
    {pair : AuditOutboxEvent × AuditOutboxEvent} (hpair : pair ∈ cycle.emitted) :
    cycle.flush pair.1 = pair.1.updated pair.1 pair.2 := by
  have hkeys : (cycle.emitted.map fun pair ↦ pair.1.outboxEventId).Nodup :=
    (List.nodup_append.mp hnodup).1
  unfold DispatchCycle.flush
  split
  · next found hfound =>
    have hkey := List.find?_some hfound
    rw [decide_eq_true_iff] at hkey
    rw [List.inj_on_of_nodup_map hkeys (List.mem_of_find?_eq_some hfound) hpair hkey]
  · next hnone =>
    exact absurd (decide_eq_true rfl) (List.find?_eq_none.mp hnone pair hpair)

/-- The commit of a cycle leaves the rows of the others alone. -/
theorem flush_of_not_mem {cycle : DispatchCycle} {row : AuditOutboxEvent}
    (h : row.outboxEventId ∉ cycle.ids) : cycle.flush row = row := by
  unfold DispatchCycle.flush
  split
  · next pair hpair =>
    have hkey := List.find?_some hpair
    rw [decide_eq_true_iff] at hkey
    exact absurd (mem_ids_of_emitted (List.mem_of_find?_eq_some hpair)) (hkey ▸ h)
  · rfl

@[simp] theorem outboxEventId_flush (cycle : DispatchCycle) (row : AuditOutboxEvent) :
    (cycle.flush row).outboxEventId = row.outboxEventId := by
  unfold DispatchCycle.flush
  split <;> rfl

section Delivery

variable {δ : Type} [DecidableEq δ]

/-- The status of a row stays, or it goes from pending to sent or failed. -/
def StatusMoves (row after : AuditOutboxEvent) : Prop :=
  after.status = row.status ∨ row.status = "pending" ∧ after.status ∈ ["sent", "failed"]

/-- What was accepted is not emitted again. -/
def AcceptedOnce (emissions : List Emission) : Prop :=
  emissions.Pairwise fun first second ↦
    first.outcome = .accepted → second.outboxEventId ≠ first.outboxEventId

/-- What is asked of a run: attempts are bounded, statuses only leave pending, and what the sink has
accepted is not emitted again. -/
structure OutboxDelivery (maxAttempts : ℕ) (start : OutboxState δ)
    (actions : List (OutboxAction δ)) : Prop where
  attempts : ∀ row ∈ (runOutbox maxAttempts start actions).table, row.attemptCount ≤ maxAttempts
  moves : ∀ earlier action, earlier ++ [action] <+: actions →
    ∀ row ∈ (runOutbox maxAttempts start earlier).table,
      ∃ after ∈ (runOutbox maxAttempts start (earlier ++ [action])).table,
        after.outboxEventId = row.outboxEventId ∧ StatusMoves row after
  once : AcceptedOnce (runOutbox maxAttempts start actions).emissions

/-- No cycle reads a row of another open cycle, and none ends without a commit after the sink has
accepted a row of it. -/
def Exclusive (maxAttempts : ℕ) (state : OutboxState δ) : OutboxAction δ → Prop
  | .read dispatcher service maxBatch => state.cycles dispatcher = none →
    ∀ row ∈ pendingRows service maxAttempts maxBatch state.table, ∀ other,
      ∀ cycle ∈ state.cycles other, row.outboxEventId ∉ cycle.ids
  | .emit dispatcher .raised => ∀ cycle ∈ state.cycles dispatcher, ¬cycle.HasSent
  | .abort dispatcher => ∀ cycle ∈ state.cycles dispatcher, ¬cycle.HasSent
  | _ => True

instance [Fintype δ] (maxAttempts : ℕ) (state : OutboxState δ) (action : OutboxAction δ) :
    Decidable (Exclusive maxAttempts state action) := by
  have hsent : ∀ dispatcher, Decidable (∀ cycle ∈ state.cycles dispatcher, ¬cycle.HasSent) :=
    fun dispatcher ↦ inferInstanceAs (Decidable (∀ cycle ∈ state.cycles dispatcher,
      ¬∃ pair ∈ cycle.emitted, pair.2.status = "sent"))
  cases action with
  | enqueue => exact inferInstanceAs (Decidable True)
  | read dispatcher service maxBatch =>
    exact inferInstanceAs (Decidable (state.cycles dispatcher = none →
      ∀ row ∈ pendingRows service maxAttempts maxBatch state.table, ∀ other,
        ∀ cycle ∈ state.cycles other, row.outboxEventId ∉ cycle.ids))
  | emit dispatcher outcome =>
    cases outcome with
    | accepted => exact inferInstanceAs (Decidable True)
    | declined => exact inferInstanceAs (Decidable True)
    | raised => exact hsent dispatcher
  | commit => exact inferInstanceAs (Decidable True)
  | abort dispatcher => exact hsent dispatcher

/-- A row is stored as sent, or an open cycle is about to store it so. -/
def MarkedSent (state : OutboxState δ) (outboxEventId : String) : Prop :=
  (∃ row ∈ state.table, row.outboxEventId = outboxEventId ∧ row.status = "sent") ∨
  ∃ dispatcher, ∃ cycle ∈ state.cycles dispatcher, ∃ pair ∈ cycle.emitted,
    pair.1.outboxEventId = outboxEventId ∧ pair.2.status = "sent"

/-- Open cycles hold different rows, and what was accepted is marked as sent. -/
structure Delivering (state : OutboxState δ) : Prop where
  keys_nodup : (state.table.map AuditOutboxEvent.outboxEventId).Nodup
  holds : ∀ dispatcher cycle, state.cycles dispatcher = some cycle → cycle.Holds state.table
  disjoint : ∀ dispatcher other cycle cycle', dispatcher ≠ other →
    state.cycles dispatcher = some cycle → state.cycles other = some cycle' →
    ∀ id ∈ cycle.ids, id ∉ cycle'.ids
  accepted : ∀ emission ∈ state.emissions, emission.outcome = .accepted →
    MarkedSent state emission.outboxEventId

omit [DecidableEq δ] in
theorem Delivering.eq_of_key {state : OutboxState δ} (h : Delivering state)
    {row other : AuditOutboxEvent} (hrow : row ∈ state.table) (hother : other ∈ state.table)
    (hkey : other.outboxEventId = row.outboxEventId) : other = row :=
  List.inj_on_of_nodup_map h.keys_nodup hother hrow hkey

theorem update_eq_some {cycles : δ → Option DispatchCycle} {dispatcher other : δ}
    {opened : Option DispatchCycle} {cycle : DispatchCycle} :
    Function.update cycles dispatcher opened other = some cycle ↔
      other = dispatcher ∧ opened = some cycle ∨ other ≠ dispatcher ∧ cycles other = some cycle := by
  by_cases hsame : other = dispatcher
  · rw [hsame, Function.update_self]
    simp
  · rw [Function.update_of_ne hsame]
    simp [hsame]

section Steps

variable {maxAttempts : ℕ} {state after : OutboxState δ} {action : OutboxAction δ}

omit [DecidableEq δ] in
theorem Delivering.not_marked (h : Delivering state) {dispatcher : δ} {cycle : DispatchCycle}
    {row : AuditOutboxEvent} (hopened : state.cycles dispatcher = some cycle)
    (hrow : row ∈ cycle.remaining) : ¬MarkedSent state row.outboxEventId := by
  have hholds := h.holds dispatcher cycle hopened
  rintro (⟨sent, hsent, hkey, hstatus⟩ | ⟨other, cycle', hother, pair, hpair, hkey, -⟩)
  · obtain ⟨hmem, hpending⟩ := hholds.remaining row hrow
    rw [h.eq_of_key hmem hsent hkey, hpending] at hstatus
    exact absurd hstatus (by decide)
  · by_cases hsame : other = dispatcher
    · subst hsame
      obtain rfl : cycle = cycle' := Option.some.inj (hopened.symm.trans hother)
      exact (List.nodup_append.mp hholds.nodup).2.2 _ (List.mem_map_of_mem hpair) _
        (List.mem_map_of_mem hrow) hkey
    · exact h.disjoint other dispatcher cycle' cycle hsame hother hopened _ (mem_ids_of_emitted hpair)
        (hkey ▸ mem_ids_of_remaining hrow)

/-- A cycle ends without a commit and nothing of it was accepted. -/
theorem Delivering.drop (h : Delivering state) {dispatcher : δ}
    (hsent : ∀ cycle ∈ state.cycles dispatcher, ¬cycle.HasSent) :
    Delivering { state with cycles := Function.update state.cycles dispatcher none } where
  keys_nodup := h.keys_nodup
  holds := fun other cycle hcycle ↦ by
    obtain ⟨-, hnone⟩ | ⟨-, hkept⟩ := update_eq_some.mp hcycle
    · cases hnone
    · exact h.holds other cycle hkept
  disjoint := fun first second cycle cycle' hne hfirst hsecond ↦ by
    obtain ⟨-, hnone⟩ | ⟨-, hkept⟩ := update_eq_some.mp hfirst
    · cases hnone
    obtain ⟨-, hnone⟩ | ⟨-, hkept'⟩ := update_eq_some.mp hsecond
    · cases hnone
    exact h.disjoint first second cycle cycle' hne hkept hkept'
  accepted := fun emission hemission haccepted ↦ by
    refine (h.accepted emission hemission haccepted).imp_right ?_
    rintro ⟨other, cycle, hcycle, pair, hpair, hkey, hstatus⟩
    refine ⟨other, cycle, update_eq_some.mpr (Or.inr ⟨fun hsame ↦ ?_, hcycle⟩), pair, hpair, hkey,
      hstatus⟩
    exact hsent cycle (hsame ▸ hcycle) ⟨pair, hpair, hstatus⟩

/-- A new cycle reads rows that no other open cycle holds. -/
theorem Delivering.read (h : Delivering state) {dispatcher : δ} {service : String} {maxBatch : ℕ}
    (hclosed : state.cycles dispatcher = none)
    (hfree : ∀ row ∈ pendingRows service maxAttempts maxBatch state.table, ∀ other,
      ∀ cycle ∈ state.cycles other, row.outboxEventId ∉ cycle.ids) :
    Delivering (state.setCycle dispatcher
      (some ⟨[], pendingRows service maxAttempts maxBatch state.table⟩)) where
  keys_nodup := h.keys_nodup
  holds := fun other cycle hcycle ↦ by
    obtain ⟨-, hnew⟩ | ⟨-, hkept⟩ := update_eq_some.mp hcycle
    · cases hnew
      refine ⟨?_, fun _ hpair ↦ absurd hpair List.not_mem_nil, fun row hrow ↦ ?_⟩
      · have hsorted := (List.perm_insertionSort
          (fun first second : AuditOutboxEvent ↦ first.outboxEventId ≤ second.outboxEventId)
          (state.table.filter fun row ↦ row.IsPending service maxAttempts)).map
            AuditOutboxEvent.outboxEventId
        have hfiltered : ((state.table.filter fun row ↦ row.IsPending service maxAttempts).map
            AuditOutboxEvent.outboxEventId).Nodup :=
          h.keys_nodup.sublist (List.filter_sublist.map _)
        exact (hsorted.nodup_iff.mpr hfiltered).sublist ((List.take_sublist _ _).map _)
      · obtain ⟨hmem, -, hpending, -⟩ := mem_pendingRows hrow
        exact ⟨hmem, hpending⟩
    · exact h.holds other cycle hkept
  disjoint := fun first second cycle cycle' hne hfirst hsecond id hid hid' ↦ by
    have hnew : ∀ id ∈ (⟨[], pendingRows service maxAttempts maxBatch state.table⟩ :
        DispatchCycle).ids, ∀ other, ∀ cycle ∈ state.cycles other, id ∉ cycle.ids := by
      intro id hid other cycle hcycle
      obtain ⟨row, hrow, rfl⟩ := List.mem_map.mp hid
      exact hfree row hrow other cycle hcycle
    obtain ⟨hsame, hopened⟩ | ⟨-, hkept⟩ := update_eq_some.mp hfirst
    · cases hopened
      obtain ⟨hsame', -⟩ | ⟨-, hkept'⟩ := update_eq_some.mp hsecond
      · exact hne (hsame.trans hsame'.symm)
      · exact hnew id hid second cycle' hkept' hid'
    · obtain ⟨-, hopened⟩ | ⟨-, hkept'⟩ := update_eq_some.mp hsecond
      · cases hopened
        exact hnew id hid' first cycle hkept hid
      · exact h.disjoint first second cycle cycle' hne hkept hkept' id hid hid'
  accepted := fun emission hemission haccepted ↦ by
    refine (h.accepted emission hemission haccepted).imp_right ?_
    rintro ⟨other, cycle, hcycle, hpair⟩
    refine ⟨other, cycle, update_eq_some.mpr (Or.inr ⟨fun hsame ↦ ?_, hcycle⟩), hpair⟩
    rw [hsame] at hcycle
    exact absurd (hclosed.symm.trans hcycle) (by simp)

/-- A row that was emitted stays with its cycle, and is marked as sent when it was accepted. -/
theorem Delivering.emit (h : Delivering state) {dispatcher : δ} {outcome : SinkOutcome}
    {cycle : DispatchCycle} {row now : AuditOutboxEvent} {rest : List AuditOutboxEvent}
    (hopened : state.cycles dispatcher = some cycle) (hnext : cycle.remaining = row :: rest)
    (hcaught : row.marked maxAttempts outcome = some now) :
    Delivering
      { state with
        cycles := Function.update state.cycles dispatcher
          (some ⟨cycle.emitted ++ [(row, now)], rest⟩)
        emissions := state.emissions ++ [⟨row.outboxEventId, row.payloadJson, outcome⟩] } := by
  have hholds := h.holds dispatcher cycle hopened
  have hids : (⟨cycle.emitted ++ [(row, now)], rest⟩ : DispatchCycle).ids = cycle.ids := by
    rw [DispatchCycle.ids, DispatchCycle.ids, hnext, List.map_append, List.append_assoc]
    rfl
  have hrow := hholds.remaining row (by rw [hnext]; exact List.mem_cons_self)
  refine ⟨h.keys_nodup, fun other found hfound ↦ ?_, fun first second found found' hne hfirst
    hsecond ↦ ?_, fun emission hemission haccepted ↦ ?_⟩
  · obtain ⟨-, hnew⟩ | ⟨-, hkept⟩ := update_eq_some.mp hfound
    · cases hnew
      refine ⟨hids ▸ hholds.nodup, fun pair hpair ↦ ?_, fun waiting hwaiting ↦ ?_⟩
      · rcases List.mem_append.mp hpair with hbefore | hlast
        · exact hholds.emitted pair hbefore
        · rw [List.mem_singleton.mp hlast]
          exact ⟨hrow.1, hrow.2, status_marked hcaught hrow.2⟩
      · exact hholds.remaining waiting (by rw [hnext]; exact List.mem_cons_of_mem _ hwaiting)
    · exact h.holds other found hkept
  · obtain ⟨hsame, hnew⟩ | ⟨hother, hkept⟩ := update_eq_some.mp hfirst
    · cases hnew
      obtain ⟨hsame', -⟩ | ⟨-, hkept'⟩ := update_eq_some.mp hsecond
      · exact absurd (hsame.trans hsame'.symm) hne
      · rw [hids]
        exact h.disjoint first second cycle found' hne (hsame ▸ hopened) hkept'
    · obtain ⟨hsame', hnew⟩ | ⟨-, hkept'⟩ := update_eq_some.mp hsecond
      · cases hnew
        rw [hids]
        exact h.disjoint first second found cycle hne hkept (hsame' ▸ hopened)
      · exact h.disjoint first second found found' hne hkept hkept'
  · rcases List.mem_append.mp hemission with hbefore | hlast
    · refine (h.accepted emission hbefore haccepted).imp_right ?_
      rintro ⟨other, found, hfound, pair, hpair, hmarked⟩
      by_cases hsame : other = dispatcher
      · rw [hsame] at hfound
        obtain rfl : cycle = found := Option.some.inj (hopened.symm.trans hfound)
        exact ⟨dispatcher, _, update_eq_some.mpr (Or.inl ⟨rfl, rfl⟩), pair,
          List.mem_append_left _ hpair, hmarked⟩
      · exact ⟨other, found, update_eq_some.mpr (Or.inr ⟨hsame, hfound⟩), pair, hpair, hmarked⟩
    · rw [List.mem_singleton.mp hlast] at haccepted ⊢
      dsimp only at haccepted
      subst haccepted
      cases hcaught
      exact Or.inr ⟨dispatcher, _, update_eq_some.mpr (Or.inl ⟨rfl, rfl⟩), _,
        List.mem_append_right _ (List.mem_singleton_self _), rfl, rfl⟩

omit [DecidableEq δ] in
/-- A commit leaves the rows that another cycle holds alone. -/
theorem Delivering.flush_other (h : Delivering state) {dispatcher other : δ}
    {cycle cycle' : DispatchCycle} (hne : other ≠ dispatcher)
    (hopened : state.cycles dispatcher = some cycle) (hother : state.cycles other = some cycle')
    {row : AuditOutboxEvent} (hrow : row.outboxEventId ∈ cycle'.ids) : cycle.flush row = row :=
  flush_of_not_mem (h.disjoint other dispatcher cycle' cycle hne hother hopened _ hrow)

omit [DecidableEq δ] in
/-- What a commit makes of a row of the table: it is left alone, or it was pending and takes the
status its cycle has marked. -/
theorem Delivering.flush_cases (h : Delivering state) {dispatcher : δ} {cycle : DispatchCycle}
    (hopened : state.cycles dispatcher = some cycle) {row : AuditOutboxEvent}
    (hrow : row ∈ state.table) :
    cycle.flush row = row ∨ row.status = "pending" ∧
      ((cycle.flush row).status = "pending" ∨ (cycle.flush row).status ∈ ["sent", "failed"]) := by
  have hholds := h.holds dispatcher cycle hopened
  by_cases hemitted : ∃ pair ∈ cycle.emitted, pair.1.outboxEventId = row.outboxEventId
  · obtain ⟨pair, hpair, hkey⟩ := hemitted
    obtain ⟨hmem, hpending, hmarked⟩ := hholds.emitted pair hpair
    obtain rfl := h.eq_of_key hrow hmem hkey
    refine Or.inr ⟨hpending, ?_⟩
    rw [flush_of_emitted hholds.nodup hpair, AuditOutboxEvent.updated]
    dsimp only
    split_ifs
    · exact Or.inl hpending
    · exact hmarked
  · refine Or.inl ?_
    unfold DispatchCycle.flush
    split
    · next pair hpair =>
      have hkey := List.find?_some hpair
      rw [decide_eq_true_iff] at hkey
      exact absurd ⟨pair, List.mem_of_find?_eq_some hpair, hkey⟩ hemitted
    · rfl

/-- A commit stores what was accepted as sent. -/
theorem Delivering.commit (h : Delivering state) {dispatcher : δ} {cycle : DispatchCycle}
    (hopened : state.cycles dispatcher = some cycle) :
    Delivering
      { state with
        table := state.table.map cycle.flush
        cycles := Function.update state.cycles dispatcher none } := by
  have hholds := h.holds dispatcher cycle hopened
  have hkept : ∀ other cycle', Function.update state.cycles dispatcher none other = some cycle' →
      other ≠ dispatcher ∧ state.cycles other = some cycle' := fun other cycle' hcycle ↦ by
    obtain ⟨-, hnone⟩ | hother := update_eq_some.mp hcycle
    · cases hnone
    · exact hother
  refine ⟨?_, fun other cycle' hcycle ↦ ?_, fun first second found found' hne hfirst hsecond ↦ ?_,
    fun emission hemission haccepted ↦ ?_⟩
  · rw [List.map_map]
    simpa [Function.comp_def] using h.keys_nodup
  · obtain ⟨hne, hother⟩ := hkept other cycle' hcycle
    have hstays : ∀ row ∈ state.table, row.outboxEventId ∈ cycle'.ids →
        row ∈ state.table.map cycle.flush := fun row hrow hid ↦
      List.mem_map.mpr ⟨row, hrow, h.flush_other hne hopened hother hid⟩
    obtain ⟨hnodup, hemitted, hremaining⟩ := h.holds other cycle' hother
    refine ⟨hnodup, fun pair hpair ↦ ?_, fun row hrow ↦ ?_⟩
    · obtain ⟨hmem, hrest⟩ := hemitted pair hpair
      exact ⟨hstays _ hmem (mem_ids_of_emitted hpair), hrest⟩
    · obtain ⟨hmem, hpending⟩ := hremaining row hrow
      exact ⟨hstays row hmem (mem_ids_of_remaining hrow), hpending⟩
  · exact h.disjoint first second found found' hne (hkept first found hfirst).2
      (hkept second found' hsecond).2
  · rcases h.accepted emission hemission haccepted with ⟨row, hrow, hkey, hstatus⟩ |
      ⟨other, found, hfound, pair, hpair, hkey, hstatus⟩
    · refine Or.inl ⟨cycle.flush row, List.mem_map_of_mem hrow, by rwa [outboxEventId_flush], ?_⟩
      rcases h.flush_cases hopened hrow with hsame | ⟨hpending, -⟩
      · rwa [hsame]
      · exact absurd (hstatus.symm.trans hpending) (by decide)
    · by_cases hsame : other = dispatcher
      · subst hsame
        obtain rfl : cycle = found := Option.some.inj (hopened.symm.trans hfound)
        obtain ⟨hmem, hpending, -⟩ := hholds.emitted pair hpair
        refine Or.inl ⟨cycle.flush pair.1, List.mem_map_of_mem hmem, by rwa [outboxEventId_flush], ?_⟩
        rw [flush_of_emitted hholds.nodup hpair, AuditOutboxEvent.updated, hstatus, hpending]
        rfl
      · exact Or.inr ⟨other, found, update_eq_some.mpr (Or.inr ⟨hsame, hfound⟩), pair, hpair, hkey,
          hstatus⟩

/-- Every step that meets the condition keeps the invariant. -/
theorem Delivering.step (h : Delivering state) (hexclusive : Exclusive maxAttempts state action)
    (hmove : OutboxMove maxAttempts state action after) : Delivering after := by
  cases hmove with
  | idle => exact h
  | enqueued fresh =>
    refine ⟨?_, fun other cycle hcycle ↦ ?_, h.disjoint, fun emission hemission haccepted ↦ ?_⟩
    · rw [List.map_append, List.nodup_append]
      refine ⟨h.keys_nodup, List.nodup_singleton _, fun key hkey other hother heq ↦ ?_⟩
      rw [heq, List.mem_singleton.mp hother] at hkey
      exact fresh hkey
    · obtain ⟨hnodup, hemitted, hremaining⟩ := h.holds other cycle hcycle
      exact ⟨hnodup, fun pair hpair ↦ (hemitted pair hpair).imp_left (List.mem_append_left _),
        fun row hrow ↦ (hremaining row hrow).imp_left (List.mem_append_left _)⟩
    · refine (h.accepted emission hemission haccepted).imp_left ?_
      rintro ⟨row, hrow, hsent⟩
      exact ⟨row, List.mem_append_left _ hrow, hsent⟩
  | read closed => exact h.read closed (hexclusive closed)
  | emitted opened next caught => exact h.emit opened next caught
  | @crashed dispatcher cycle row rest opened next =>
    have hdropped := h.drop hexclusive
    refine ⟨hdropped.keys_nodup, hdropped.holds, hdropped.disjoint, fun emission hemission
      haccepted ↦ ?_⟩
    rcases List.mem_append.mp hemission with hbefore | hlast
    · exact hdropped.accepted emission hbefore haccepted
    · rw [List.mem_singleton.mp hlast] at haccepted
      cases haccepted
  | committed opened finished => exact h.commit opened
  | aborted dispatcher => exact h.drop hexclusive

/-- A step moves statuses only out of pending. -/
theorem Delivering.moves (h : Delivering state) (hmove : OutboxMove maxAttempts state action after)
    {row : AuditOutboxEvent} (hrow : row ∈ state.table) :
    ∃ moved ∈ after.table, moved.outboxEventId = row.outboxEventId ∧ StatusMoves row moved := by
  cases hmove with
  | enqueued fresh => exact ⟨row, List.mem_append_left _ hrow, rfl, Or.inl rfl⟩
  | @committed dispatcher cycle opened finished =>
    refine ⟨cycle.flush row, List.mem_map_of_mem hrow, outboxEventId_flush _ _, ?_⟩
    rcases h.flush_cases opened hrow with hsame | ⟨hpending, hstatus | hstatus⟩
    · rw [hsame]
      exact Or.inl rfl
    · exact Or.inl (hstatus.trans hpending.symm)
    · exact Or.inr ⟨hpending, hstatus⟩
  | idle => exact ⟨row, hrow, rfl, Or.inl rfl⟩
  | read => exact ⟨row, hrow, rfl, Or.inl rfl⟩
  | emitted => exact ⟨row, hrow, rfl, Or.inl rfl⟩
  | crashed => exact ⟨row, hrow, rfl, Or.inl rfl⟩
  | aborted => exact ⟨row, hrow, rfl, Or.inl rfl⟩

/-- A step emits nothing, or a row that is not marked as sent. -/
theorem Delivering.emissions (h : Delivering state)
    (hmove : OutboxMove maxAttempts state action after) :
    after.emissions = state.emissions ∨ ∃ emission,
      after.emissions = state.emissions ++ [emission] ∧ ¬MarkedSent state emission.outboxEventId := by
  cases hmove with
  | emitted opened next caught =>
    exact Or.inr ⟨_, rfl, h.not_marked opened (by rw [next]; exact List.mem_cons_self)⟩
  | crashed opened next =>
    exact Or.inr ⟨_, rfl, h.not_marked opened (by rw [next]; exact List.mem_cons_self)⟩
  | idle => exact Or.inl rfl
  | enqueued => exact Or.inl rfl
  | read => exact Or.inl rfl
  | committed => exact Or.inl rfl
  | aborted => exact Or.inl rfl

end Steps

theorem delivering_run {maxAttempts : ℕ} {start : OutboxState δ} (hstart : start.Fresh maxAttempts)
    {actions : List (OutboxAction δ)}
    (hexclusive : ∀ step ∈ trace (outboxStep maxAttempts) start actions,
      Exclusive maxAttempts step.1 step.2) :
    ∀ earlier, earlier <+: actions → Delivering (runOutbox maxAttempts start earlier) ∧
      AcceptedOnce (runOutbox maxAttempts start earlier).emissions := by
  obtain ⟨hkeys, -, hcycles, hemissions⟩ := hstart
  have hclosed : ∀ dispatcher cycle, start.cycles dispatcher ≠ some cycle := fun dispatcher cycle
    hcycle ↦ absurd ((hcycles dispatcher).symm.trans hcycle) (by simp)
  refine prefix_induction ⟨⟨hkeys, fun dispatcher cycle hcycle ↦ ?_, fun first second cycle cycle' _
    hcycle ↦ ?_, fun emission hemission ↦ ?_⟩, ?_⟩ fun earlier action hprefix ih ↦ ?_
  · exact absurd hcycle (hclosed dispatcher cycle)
  · exact absurd hcycle (hclosed first cycle)
  · change emission ∈ start.emissions at hemission
    rw [hemissions] at hemission
    exact absurd hemission List.not_mem_nil
  · change AcceptedOnce start.emissions
    rw [hemissions]
    exact List.Pairwise.nil
  · obtain ⟨hdelivering, honce⟩ := ih
    have hmove := outboxMove_step maxAttempts (runOutbox maxAttempts start earlier) action
    rw [runOutbox, run_snoc]
    refine ⟨hdelivering.step (hexclusive _ (mem_trace hprefix)) hmove, ?_⟩
    rcases hdelivering.emissions hmove with hsame | ⟨emission, hnew, hunmarked⟩
    · exact hsame ▸ honce
    · change AcceptedOnce
        (outboxStep maxAttempts (runOutbox maxAttempts start earlier) action).emissions
      rw [hnew, AcceptedOnce, List.pairwise_append]
      refine ⟨honce, List.pairwise_singleton _ _, fun first hfirst second hsecond haccepted hsame ↦ ?_⟩
      rw [List.mem_singleton.mp hsecond] at hsame
      exact hunmarked (hsame ▸ hdelivering.accepted first hfirst haccepted)

/-- Attempts are bounded in every run. In a run whose cycles read no row of another open cycle, and
whose cycles commit once the sink has accepted a row of theirs, statuses leave pending only and what
was accepted is not emitted again. -/
theorem outboxDelivery_of_exclusive {maxAttempts : ℕ} {start : OutboxState δ}
    (hstart : start.Fresh maxAttempts) (actions : List (OutboxAction δ)) :
    (∀ row ∈ (runOutbox maxAttempts start actions).table, row.attemptCount ≤ maxAttempts) ∧
    ((∀ step ∈ trace (outboxStep maxAttempts) start actions, Exclusive maxAttempts step.1 step.2) →
      OutboxDelivery maxAttempts start actions) := by
  refine ⟨attemptCount_le_of_run hstart actions, fun hexclusive ↦
    ⟨attemptCount_le_of_run hstart actions, fun earlier action hprefix row hrow ↦ ?_, ?_⟩⟩
  · have hdelivering :=
      (delivering_run hstart hexclusive earlier ((List.prefix_append _ _).trans hprefix)).1
    rw [runOutbox, run_snoc]
    exact hdelivering.moves (outboxMove_step maxAttempts _ action) hrow
  · exact (delivering_run hstart hexclusive actions List.prefix_rfl).2

end Delivery

/-- An outbox without rows, for two dispatchers. -/
def emptyOutbox : OutboxState (Fin 2) := ⟨[], fun _ ↦ none, []⟩

theorem emptyOutbox_fresh (maxAttempts : ℕ) : emptyOutbox.Fresh maxAttempts :=
  ⟨List.nodup_nil, fun _ hrow ↦ absurd hrow List.not_mem_nil, fun _ ↦ rfl, rfl⟩

/-- An event that the first dispatcher delivers before the second one looks. -/
def deliveredInTurn : List (OutboxAction (Fin 2)) :=
  [.enqueue "e1" "gateway" (some "w1") "a1" [], .read 0 "gateway" 100, .emit 0 .accepted, .commit 0,
    .read 1 "gateway" 100, .commit 1]

theorem deliveredInTurn_delivery : OutboxDelivery 5 emptyOutbox deliveredInTurn :=
  (outboxDelivery_of_exclusive (emptyOutbox_fresh 5) deliveredInTurn).2 (by decide +kernel)

/-- An event that both dispatchers read before the first one commits. -/
def deliveredTwice : List (OutboxAction (Fin 2)) :=
  [.enqueue "e1" "gateway" (some "w1") "a1" [], .read 0 "gateway" 100, .read 1 "gateway" 100,
    .emit 0 .accepted, .commit 0, .emit 1 (.declined "audit_sink_unavailable"), .commit 1]

/-- The second cycle emits a row again that the sink has accepted. -/
theorem accepted_row_emitted_again :
    ¬∀ (maxAttempts : ℕ) (start : OutboxState (Fin 2)) (actions : List (OutboxAction (Fin 2))),
      start.Fresh maxAttempts → OutboxDelivery maxAttempts start actions := by
  intro h
  have hdelivery := h 1 emptyOutbox deliveredTwice (emptyOutbox_fresh 1)
  have hemissions : (runOutbox 1 emptyOutbox deliveredTwice).emissions =
      [⟨"e1", [], .accepted⟩, ⟨"e1", [], .declined "audit_sink_unavailable"⟩] := by rfl
  have honce := hdelivery.once
  rw [hemissions, AcceptedOnce, List.pairwise_cons] at honce
  exact honce.1 _ (List.mem_singleton_self _) rfl rfl

/-- The second cycle marks the row as failed that the first one has marked as sent. -/
example : (runOutbox 1 emptyOutbox deliveredTwice).table.map AuditOutboxEvent.status = ["failed"] := by
  decide +kernel

end SchemaPilot.SharedDomain
