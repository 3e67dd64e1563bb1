import SchemaPilot.Gateway.Answers

/-!
# Tracing a response to its audit event

Requests run side by side over the tables of committed access decisions, which other processes
extend too (`auditSystem`). The audit event id of a response is drawn anew, after the event was
committed under an id of its own, so a response can be traced to the event of its decision exactly
when the two draws gave the same id (`response_traced_iff`).
-/

namespace SchemaPilot.Gateway

open Library Library.Program Library.Json SharedDomain

/-- The committed access decisions, each with its audit event; both tables are keyed. -/
structure AuditStore where
  records : List AccessRecord
  decisionKeyed : (records.map AccessRecord.policyDecisionId).Nodup
  eventKeyed : (records.map AccessRecord.auditEventId).Nodup

/-- A decision id is the key of one record. -/
theorem AuditStore.record_unique (store : AuditStore) {first second : AccessRecord}
    (hfirst : first ∈ store.records) (hsecond : second ∈ store.records)
    (h : first.policyDecisionId = second.policyDecisionId) : first = second :=
  List.inj_on_of_nodup_map store.decisionKeyed hfirst hsecond h

/-- A commit fails and leaves the tables alone, or adds its record. -/
def auditExec (store : AuditStore) :
    (op : GatewayOp) → Except Exn op.Answer → AuditStore → Prop
  | .commitAccessDecision record, answer, after =>
    (∃ failure, answer = .error failure) ∧ after = store ∨
      answer = .ok () ∧ after.records = store.records ++ [record]
  | _, _, after => after = store

/-- The gateway as a system of interleaved requests over the tables. -/
def auditSystem (platform : Platform) (settings : Settings) :
    System GatewayOp GatewayOp.Answer Exn GatewayRequest GatewayResponse AuditStore where
  handler := serve platform settings
  exec := auditExec
  outside store after := ∃ more, after.records = store.records ++ more

/-- The `audit_event_id` of the response is the key of a committed event, the one of the decision
its provenance names. -/
def Traced (store : AuditStore) (response : GatewayResponse) : Prop :=
  ∃ record ∈ store.records, record.auditEventId = response.auditEventId ∧
    get? response.provenance "policy_decision_id" = some (.str record.policyDecisionId)

/-- The id source gave the response the id it had given the event. -/
def RepeatsId (events : List GatewayEvent) : Prop :=
  ∃ first id record, events = first ++
    [⟨.newUlid, .ok id⟩, ⟨.commitAccessDecision record, .ok ()⟩, ⟨.newUlid, .ok id⟩]

section Runs

variable {platform : Platform} {settings : Settings} {initial : AuditStore}
  {config : Configuration GatewayOp GatewayOp.Answer Exn GatewayRequest GatewayResponse AuditStore}

theorem auditExec_records {store after : AuditStore} {op : GatewayOp}
    {answer : Except Exn op.Answer} (h : auditExec store op answer after) :
    store.records ⊆ after.records := by
  cases op with
  | commitAccessDecision record =>
    rcases h with ⟨-, rfl⟩ | ⟨-, hrecords⟩
    · exact List.Subset.refl _
    · rw [hrecords]
      exact List.subset_append_left _ _
  | _ =>
    cases h
    exact List.Subset.refl _

/-- What a request committed stays in the tables. -/
theorem committed_of_reachable (hreach : (auditSystem platform settings).Reachable initial config) :
    ∀ thread ∈ config.threads, ∀ record,
      (⟨.commitAccessDecision record, .ok ()⟩ : GatewayEvent) ∈ thread.history →
        record ∈ config.shared.records := by
  refine System.Reachable.invariant (fun config ↦ ∀ thread ∈ config.threads, ∀ record,
    (⟨.commitAccessDecision record, .ok ()⟩ : GatewayEvent) ∈ thread.history →
      record ∈ config.shared.records) hreach (fun _ hthread ↦ absurd hthread List.not_mem_nil) ?_
  intro first second _ ih hstep
  cases hstep with
  | arrive shared threads request =>
    intro thread hthread record hrecord
    rcases List.mem_append.mp hthread with hthread | hthread
    · exact ih thread hthread record hrecord
    · rw [List.mem_singleton.mp hthread] at hrecord
      exact absurd hrecord List.not_mem_nil
  | call shared shared' before after request history op next answer hexec =>
    intro thread hthread record hrecord
    have hkept := auditExec_records hexec
    rcases List.mem_append.mp hthread with hthread | hthread
    · exact hkept (ih thread (List.mem_append_left _ hthread) record hrecord)
    rcases List.mem_cons.mp hthread with rfl | hthread
    · rcases List.mem_append.mp hrecord with hrecord | hrecord
      · exact hkept (ih ⟨request, history, .call op next⟩ (by simp) record hrecord)
      · -- the call just made
        cases List.mem_singleton.mp hrecord
        rcases hexec with ⟨⟨failure, hfalse⟩, -⟩ | ⟨-, hrecords⟩
        · cases hfalse
        · rw [hrecords]
          exact List.mem_append_right _ (List.mem_singleton_self _)
    · exact hkept (ih thread (by simp [hthread]) record hrecord)
  | world shared shared' threads houtside =>
    intro thread hthread record hrecord
    obtain ⟨more, hrecords⟩ := houtside
    rw [hrecords]
    exact List.mem_append_left _ (ih thread hthread record hrecord)

/-- In every reachable configuration a response can be traced to the event of its decision exactly
when its id and the one of the event were drawn alike. -/
theorem response_traced_iff (hreach : (auditSystem platform settings).Reachable initial config) :
    ∀ thread ∈ config.threads, ∀ response, thread.remaining = done (.ok response) →
      (Traced config.shared response ↔ RepeatsId thread.history) := by
  intro thread hthread response hdone
  have hafter := hreach.thread_after thread hthread
  rw [hdone] at hafter
  obtain ⟨decisionId, first, record, hevents, hid, -, hnamed, -⟩ := serve_answered hafter
  have hcommitted : record ∈ config.shared.records :=
    committed_of_reachable hreach thread hthread record (by rw [hevents]; simp)
  constructor
  · rintro ⟨traced, hmem, htraced, hdecision⟩
    have hsame : traced.policyDecisionId = record.policyDecisionId := by
      rw [hnamed, ← hid] at hdecision
      exact (Json.str.inj (Option.some.inj hdecision)).symm
    rw [config.shared.record_unique hmem hcommitted hsame] at htraced
    rw [← htraced] at hevents
    exact ⟨first, _, record, hevents⟩
  · rintro ⟨first', id, record', hrepeats⟩
    rw [hevents] at hrepeats
    obtain ⟨-, hlast⟩ := List.append_inj' hrepeats rfl
    simp only [List.cons.injEq, Event.mk.injEq, heq_eq_eq, Except.ok.injEq, true_and,
      and_true] at hlast
    refine ⟨record, hcommitted, hlast.1.trans hlast.2.2.symm, ?_⟩
    rw [hnamed, hid]

end Runs

def noRecords : AuditStore := ⟨[], List.nodup_nil, List.nodup_nil⟩

def oneRecord (record : AccessRecord) : AuditStore :=
  ⟨[record], List.nodup_singleton _, List.nodup_singleton _⟩

/-- The analyst's query up to the id of its response. -/
def analystUpToResponse : List GatewayEvent × Handler GatewayResponse :=
  advance analystAnswers 11 (serve ⟨id, id⟩ duckdbSettings (analystRequest []))

/-- The analyst's query, whose response was given the id `responseId`. -/
def answeredAnalyst (responseId : String) : List GatewayEvent :=
  analystUpToResponse.1 ++ [⟨.newUlid, .ok responseId⟩]

theorem reachable_answeredAnalyst (responseId : String) :
    ∃ store response, (auditSystem ⟨id, id⟩ duckdbSettings).Reachable noRecords
      ⟨store, [⟨analystRequest [], answeredAnalyst responseId, done (.ok response)⟩]⟩ ∧
      response.auditEventId = responseId ∧
      store.records.map AccessRecord.auditEventId = ["01"] := by
  have hafter : After (serve ⟨id, id⟩ duckdbSettings (analystRequest [])) analystUpToResponse.1
      (.call .newUlid _) := after_advance analystAnswers 11 _
  have hexecs : System.Execs (auditSystem ⟨id, id⟩ duckdbSettings) noRecords
      (answeredAnalyst responseId) (oneRecord _) :=
    .cons rfl <| .cons rfl <| .cons rfl <| .cons rfl <| .cons rfl <| .cons rfl <| .cons rfl <|
    .cons rfl <| .cons rfl <| .cons rfl <| .cons (Or.inr ⟨rfl, rfl⟩) <| .cons rfl <| .nil _
  exact ⟨_, _, System.Reachable.serve .refl (hafter.snoc (.ok responseId)) hexecs, rfl, rfl⟩

/-- With an id source that repeats itself the response can be traced. -/
theorem repeated_id_traced :
    ∃ store response, (auditSystem ⟨id, id⟩ duckdbSettings).Reachable noRecords
      ⟨store, [⟨analystRequest [], answeredAnalyst "01", done (.ok response)⟩]⟩ ∧
      Traced store response := by
  obtain ⟨store, response, hreach, -, -⟩ := reachable_answeredAnalyst "01"
  exact ⟨store, response, hreach, (response_traced_iff hreach _ (List.mem_singleton_self _)
    response rfl).mpr ⟨analystUpToResponse.1.take 9, "01", _, rfl⟩⟩

/-- The analyst's response was given the id `02`, the event of its decision the id `01`: the
response names no committed event. -/
theorem fresh_id_untraced :
    ∃ store response, (auditSystem ⟨id, id⟩ duckdbSettings).Reachable noRecords
      ⟨store, [⟨analystRequest [], answeredAnalyst "02", done (.ok response)⟩]⟩ ∧
      ¬Traced store response := by
  obtain ⟨store, response, hreach, hresponse, hevents⟩ := reachable_answeredAnalyst "02"
  refine ⟨store, response, hreach, ?_⟩
  rintro ⟨record, hrecord, hid, -⟩
  have hmem := List.mem_map_of_mem (f := AccessRecord.auditEventId) hrecord
  rw [hid, hresponse, hevents] at hmem
  exact absurd hmem (by decide)

end SchemaPilot.Gateway
