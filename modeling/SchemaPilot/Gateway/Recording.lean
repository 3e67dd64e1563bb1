import SchemaPilot.Gateway.Histories

/-!
# How a request is recorded

A part of a handler ends in one of five ways (`Outcome`): it returns, it denies with a record that
was written, it denies because the record could not be written, it raises from a call whose
exceptions no one records, or it raises without a call. `Tracks` says that all runs of a part end in
one of these; the rules below compose it along the control flow of the handlers.
-/

namespace SchemaPilot.Gateway

open Library Library.Program SharedDomain

/-- The access decisions a history tried to commit, with what the transactions answered. -/
def attempts (events : List GatewayEvent) : List (AccessRecord × Except Exn Unit) :=
  events.filterMap fun
    | ⟨.commitAccessDecision record, answer⟩ => some (record, answer)
    | _ => none

def lastCall (events : List GatewayEvent) : Option GatewayEvent :=
  (events.filter fun event ↦ event.op.kind ≠ .limiter).getLast?

/-- The calls within the process have answered. -/
def InProcess (events : List GatewayEvent) : Prop :=
  ∀ event ∈ events, event.op.kind ∈ [OpKind.identifier, .limiter, .cache, .clock] →
    ∃ value, event.answer = .ok value

/-- The call raised, or answered what raises, where the endpoints record nothing. -/
def Escapes : GatewayEvent → Prop
  | ⟨.authenticatedActor, .error _⟩ => True
  | ⟨.activePolicy _ policyType, .error exception⟩ =>
    policyType = "policy_pack" ∨ exception.isValueError = false
  | ⟨.activePolicy _ policyType, .ok row⟩ => policyType = "policy_pack" ∧
    ∃ payload, (row.bind fun definition ↦ definition.bind Json.asObj?) = some payload ∧
      ∀ version, intOrDefault (Json.getD payload "version" (.int 0)) 0 ≠ .ok version
  | ⟨.datasetWorkspace _, .error _⟩ => True
  | ⟨.datasetSummaries _ _, .error _⟩ => True
  | ⟨.latestGoldPointer _, .error _⟩ => True
  | ⟨.retrievalCorpus _, .error _⟩ => True
  | ⟨.searchOpensearch _, .error exception⟩ => ∀ message, exception ≠ .openSearchUnavailable message
  | ⟨.embed _, .error exception⟩ => ∀ message,
    exception ≠ .disabledIntegration message ∧ exception ≠ .qdrantUnavailable message
  | ⟨.searchQdrant _, .error exception⟩ => ∀ message,
    exception ≠ .disabledIntegration message ∧ exception ≠ .qdrantUnavailable message
  | _ => False

@[simp] theorem attempts_append (first second : List GatewayEvent) :
    attempts (first ++ second) = attempts first ++ attempts second := List.filterMap_append

theorem mem_attempts {events : List GatewayEvent} {record : AccessRecord}
    {answer : Except Exn Unit} :
    (record, answer) ∈ attempts events ↔ ⟨.commitAccessDecision record, answer⟩ ∈ events := by
  rw [attempts, List.mem_filterMap]
  constructor
  · rintro ⟨⟨op, result⟩, hevent, hattempt⟩
    cases op with
    | commitAccessDecision other =>
      cases hattempt
      exact hevent
    | _ => cases hattempt
  · exact fun hevent ↦ ⟨_, hevent, rfl⟩

theorem attempts_eq_nil {events : List GatewayEvent}
    (h : ∀ event ∈ events, event.op.kind ≠ .audit) : attempts events = [] := by
  refine List.filterMap_eq_nil_iff.mpr fun event hevent ↦ ?_
  obtain ⟨op, answer⟩ := event
  cases op with
  | commitAccessDecision record => exact absurd rfl (h _ hevent)
  | _ => rfl

theorem Calling.attempts_eq_nil {α : Type} {kinds : List OpKind} {p q : Handler α}
    {events : List GatewayEvent} (hp : Calling kinds p) (hfree : OpKind.audit ∉ kinds)
    (h : After p events q) : attempts events = [] :=
  Gateway.attempts_eq_nil fun event hevent hkind ↦ hfree (hkind ▸ (hp.after h).1 event hevent)

theorem lastCall_append_of_some {second : List GatewayEvent} {event : GatewayEvent}
    (first : List GatewayEvent) (h : lastCall second = some event) :
    lastCall (first ++ second) = some event := by
  rw [lastCall, List.filter_append, List.getLast?_append, ← lastCall, h]
  rfl

theorem lastCall_append_of_limiter (first : List GatewayEvent) {second : List GatewayEvent}
    (h : ∀ event ∈ second, event.op.kind = .limiter) : lastCall (first ++ second) = lastCall first := by
  have hnone : second.filter (fun event ↦ event.op.kind ≠ .limiter) = [] :=
    List.filter_eq_nil_iff.mpr fun event hevent ↦ by simp [h event hevent]
  rw [lastCall, List.filter_append, hnone, List.append_nil]
  rfl

theorem lastCall_snoc (first : List GatewayEvent) {event : GatewayEvent}
    (h : event.op.kind ≠ .limiter) : lastCall (first ++ [event]) = some event :=
  lastCall_append_of_some first (by simp [lastCall, h])

theorem InProcess.of_subset {first events : List GatewayEvent} (h : InProcess events)
    (hsubset : first ⊆ events) : InProcess first := fun event hevent ↦ h event (hsubset hevent)

/-- How a run of a part of a handler ends. `settled` is what holds of the attempts when it returns;
`stray` is what holds when it raises without a call to blame. -/
inductive Outcome {α : Type} (decisionId : String)
    (settled : List (AccessRecord × Except Exn Unit) → Prop) (stray : Prop)
    (events : List GatewayEvent) : Except Exn α → Prop
  | returned (value : α) (hsettled : settled (attempts events)) :
    Outcome decisionId settled stray events (.ok value)
  | recorded (exception : Exn) (record : AccessRecord)
    (hid : record.policyDecisionId = decisionId)
    (hattempts : attempts events = [(record, .ok ())])
    (hlast : lastCall events = some ⟨.commitAccessDecision record, .ok ()⟩) :
    Outcome decisionId settled stray events (.error exception)
  | denied (message : String) (details : Fields) (record : AccessRecord) (failure : Exn)
    (hattempts : attempts events = [(record, .error failure)])
    (hlast : lastCall events = some ⟨.commitAccessDecision record, .error failure⟩) :
    Outcome decisionId settled stray events (.error (.policyDenied message details))
  | escaped (exception : Exn) (event : GatewayEvent) (hnone : attempts events = [])
    (hlast : lastCall events = some event) (hescapes : Escapes event) :
    Outcome decisionId settled stray events (.error exception)
  | strayed (exception : Exn) (hnone : attempts events = []) (hstray : stray) :
    Outcome decisionId settled stray events (.error exception)

/-- All runs of a part whose calls are among those of `history` end in one of the ways. -/
def Tracks {α : Type} (history : List GatewayEvent) (decisionId : String)
    (settled : List (AccessRecord × Except Exn Unit) → Prop) (stray : Prop) (p : Handler α) :
    Prop :=
  ∀ events result, events ⊆ history → Run p events result →
    Outcome decisionId settled stray events result

/-- Nothing was recorded so far. -/
abbrev Unsettled (recorded : List (AccessRecord × Except Exn Unit)) : Prop := recorded = []

section Rules

variable {α β : Type} {history : List GatewayEvent} {decisionId : String}
  {settled : List (AccessRecord × Except Exn Unit) → Prop} {stray : Prop}

/-- Calls that record nothing may come before. -/
theorem Outcome.prepend {first events : List GatewayEvent} {result : Except Exn α}
    (h : Outcome decisionId settled stray events result) (hfirst : attempts first = []) :
    Outcome decisionId settled stray (first ++ events) result := by
  have hattempts : attempts (first ++ events) = attempts events := by
    rw [attempts_append, hfirst, List.nil_append]
  cases h with
  | returned value hsettled => exact .returned value (hattempts ▸ hsettled)
  | recorded exception record hid hrecorded hlast =>
    exact .recorded exception record hid (hattempts.trans hrecorded)
      (lastCall_append_of_some first hlast)
  | denied message details record failure hrecorded hlast =>
    exact .denied message details record failure (hattempts.trans hrecorded)
      (lastCall_append_of_some first hlast)
  | escaped exception event hnone hlast hescapes =>
    exact .escaped exception event (hattempts.trans hnone) (lastCall_append_of_some first hlast)
      hescapes
  | strayed exception hnone hstray => exact .strayed exception (hattempts.trans hnone) hstray

/-- Calls to the limiter may come after. -/
theorem Outcome.append_limiter {events rest : List GatewayEvent} {result : Except Exn α}
    (h : Outcome decisionId settled stray events result)
    (hrest : ∀ event ∈ rest, event.op.kind = .limiter) :
    Outcome decisionId settled stray (events ++ rest) result := by
  have hattempts : attempts (events ++ rest) = attempts events := by
    have hnone : attempts rest = [] := attempts_eq_nil fun event hevent hkind ↦ by
      rw [hrest event hevent] at hkind
      cases hkind
    rw [attempts_append, hnone, List.append_nil]
  have hsame := lastCall_append_of_limiter events hrest
  cases h with
  | returned value hsettled => exact .returned value (hattempts ▸ hsettled)
  | recorded exception record hid hrecorded hlast =>
    exact .recorded exception record hid (hattempts.trans hrecorded) (hsame.trans hlast)
  | denied message details record failure hrecorded hlast =>
    exact .denied message details record failure (hattempts.trans hrecorded) (hsame.trans hlast)
  | escaped exception event hnone hlast hescapes =>
    exact .escaped exception event (hattempts.trans hnone) (hsame.trans hlast) hescapes
  | strayed exception hnone hstray => exact .strayed exception (hattempts.trans hnone) hstray

/-- An exception is passed on by what would have come next. -/
theorem Outcome.raised {settled' : List (AccessRecord × Except Exn Unit) → Prop}
    {events : List GatewayEvent} {exception : Exn}
    (h : Outcome decisionId settled stray events (.error exception : Except Exn α)) :
    Outcome decisionId settled' stray events (.error exception : Except Exn β) := by
  cases h with
  | recorded _ record hid hrecorded hlast => exact .recorded _ record hid hrecorded hlast
  | denied message details record failure hrecorded hlast =>
    exact .denied message details record failure hrecorded hlast
  | escaped _ event hnone hlast hescapes => exact .escaped _ event hnone hlast hescapes
  | strayed _ hnone hstray => exact .strayed _ hnone hstray

theorem Outcome.attempts_of_returned {events : List GatewayEvent} {value : α}
    (h : Outcome decisionId settled stray events (.ok value)) : settled (attempts events) := by
  cases h with
  | returned _ hsettled => exact hsettled

/-- A sequence, whose second part may rest on what the first one did. -/
theorem Tracks.bind_run {p : Handler α} {next : α → Handler β}
    (hp : Tracks history decisionId Unsettled stray p)
    (hnext : ∀ value first, first ⊆ history → Run p first (.ok value) →
      Tracks history decisionId settled stray (next value)) :
    Tracks history decisionId settled stray (p >>= next) := by
  intro events result hsubset h
  rcases (run_bind_iff _ _ _ _).mp h with ⟨exception, hfirst, rfl⟩ |
    ⟨first, second, value, rfl, hfirst, hsecond⟩
  · exact (hp _ _ hsubset hfirst).raised
  · obtain ⟨hleft, hright⟩ := List.append_subset.mp hsubset
    have hnone := (hp _ _ hleft hfirst).attempts_of_returned
    exact (hnext value first hleft hfirst _ _ hright hsecond).prepend hnone

theorem Tracks.bind {p : Handler α} {next : α → Handler β}
    (hp : Tracks history decisionId Unsettled stray p)
    (hnext : ∀ value, Tracks history decisionId settled stray (next value)) :
    Tracks history decisionId settled stray (p >>= next) :=
  hp.bind_run fun value _ _ _ ↦ hnext value

theorem Tracks.ite {guard : Prop} [Decidable guard] {p q : Handler α}
    (hp : guard → Tracks history decisionId settled stray p)
    (hq : ¬guard → Tracks history decisionId settled stray q) :
    Tracks history decisionId settled stray (if guard then p else q) := by
  by_cases h : guard
  · rw [if_pos h]
    exact hp h
  · rw [if_neg h]
    exact hq h

theorem tracks_pure (value : α) :
    Tracks history decisionId Unsettled stray (pure value : Handler α) := by
  intro events result _ h
  obtain ⟨rfl, rfl⟩ := (run_pure_iff _ _ _).mp h
  exact .returned value rfl

/-- A conversion that may raise. -/
theorem tracks_ofExcept (value : Except Exn α)
    (hstray : ∀ exception, value = .error exception → stray) :
    Tracks history decisionId Unsettled stray (Program.ofExcept value : Handler α) := by
  intro events result _ h
  obtain ⟨rfl, rfl⟩ := (run_done_iff _ _ _).mp h
  cases result with
  | ok a => exact .returned a rfl
  | error exception => exact .strayed exception rfl (hstray exception rfl)

/-- A call within the process answers. -/
theorem tracks_inProcess (hinprocess : InProcess history) {op : GatewayOp}
    (hkind : op.kind ∈ [OpKind.identifier, .limiter, .cache, .clock]) :
    Tracks history decisionId Unsettled stray (ask op) := by
  intro events result hsubset h
  have hevents : events = [⟨op, result⟩] := (run_perform_iff _ _ _).mp h
  subst hevents
  cases result with
  | error exception =>
    obtain ⟨value, hfalse⟩ := hinprocess _ (hsubset (List.mem_singleton_self _)) hkind
    cases hfalse
  | ok value =>
    refine .returned value (attempts_eq_nil fun event hevent haudit ↦ ?_)
    rw [List.mem_singleton.mp hevent] at haudit
    simp only at haudit
    rw [haudit] at hkind
    exact absurd hkind (by decide)

theorem tracks_escaping (op : GatewayOp) (haudit : op.kind ≠ .audit)
    (hlimiter : op.kind ≠ .limiter) (hescapes : ∀ exception, Escapes ⟨op, .error exception⟩) :
    Tracks history decisionId Unsettled stray (ask op) := by
  intro events result _ h
  have hevents : events = [⟨op, result⟩] := (run_perform_iff _ _ _).mp h
  subst hevents
  have hnone : attempts [(⟨op, result⟩ : GatewayEvent)] = [] :=
    attempts_eq_nil fun event hevent ↦ by rw [List.mem_singleton.mp hevent]; exact haudit
  cases result with
  | ok value => exact .returned value hnone
  | error exception =>
    exact .escaped exception _ hnone (lastCall_snoc [] hlimiter) (hescapes exception)

/-- `try … except` around a part that records nothing. The handler deals with an exception, or it
raises one behind a call whose exceptions escape. -/
theorem Tracks.tryExcept {kinds : List OpKind} {p : Handler α} {handler : Exn → Handler α}
    (hp : Calling kinds p) (hfree : OpKind.audit ∉ kinds)
    (hhandler : ∀ events exception, Run p events (.error exception) →
      Tracks history decisionId Unsettled stray (handler exception) ∨
      ∃ raised event, handler exception = Program.raise raised ∧
        lastCall events = some event ∧ Escapes event) :
    Tracks history decisionId Unsettled stray (p.tryExcept handler) := by
  intro events result hsubset h
  rcases (run_tryExcept_iff _ _ _ _).mp h with ⟨value, hrun, rfl⟩ |
    ⟨first, second, exception, rfl, hrun, hsecond⟩
  · exact .returned value (hp.attempts_eq_nil hfree hrun)
  have hnone := hp.attempts_eq_nil hfree hrun
  rcases hhandler first exception hrun with htracks | ⟨raised, event, hraise, hlast, hescapes⟩
  · exact (htracks _ _ (List.append_subset.mp hsubset).2 hsecond).prepend hnone
  · rw [hraise] at hsecond
    obtain ⟨rfl, rfl⟩ := (run_raise_iff _ _ _).mp hsecond
    rw [List.append_nil]
    exact .escaped raised event hnone hlast hescapes

theorem Tracks.tryFinally (hinprocess : InProcess history) {p : Handler α} {actorId : String}
    (hp : Tracks history decisionId Unsettled stray p) :
    Tracks history decisionId Unsettled stray (p.tryFinally (ask (.release actorId))) := by
  intro events result hsubset h
  obtain ⟨first, rest, outcome, rfl, hfirst, hrest⟩ := (run_andThen_iff _ _ _ _).mp h
  obtain ⟨second, last, released, rfl, hsecond, hlast⟩ := (run_andThen_iff _ _ _ _).mp hrest
  have hevents : second = [⟨.release actorId, released⟩] := (run_perform_iff _ _ _).mp hsecond
  subst hevents
  obtain ⟨value, hvalue⟩ := hinprocess ⟨.release actorId, released⟩ (hsubset (by simp))
    (by simp [GatewayOp.kind])
  cases released with
  | error exception => cases hvalue
  | ok _ =>
  obtain ⟨rfl, rfl⟩ := (run_done_iff _ _ _).mp hlast
  refine Outcome.append_limiter (hp _ _ (List.append_subset.mp hsubset).1 hfirst)
    fun event hevent ↦ ?_
  rw [List.append_nil, List.mem_singleton] at hevent
  subst hevent
  rfl

end Rules

/-- What a recording does: it draws the id of its event and commits the record, and a failure of the
commit is a denial. -/
theorem recordAccessDecision_run {context : DecisionContext} {actorId result reason : String}
    {resources filters masks : Fields} {events : List GatewayEvent} {outcome : Except Exn Unit}
    (hinprocess : InProcess events)
    (h : Run (recordAccessDecision context actorId result reason resources filters masks) events
      outcome) :
    ∃ (auditEventId : String) (answer : Except Exn Unit) (record : AccessRecord),
      events = [⟨.newUlid, .ok auditEventId⟩, ⟨.commitAccessDecision record, answer⟩] ∧
      record.auditEventId = auditEventId ∧ record.policyDecisionId = context.policyDecisionId ∧
      record.result = result ∧
      ((answer = .ok () ∧ outcome = .ok ()) ∨ ∃ failure message details,
        answer = .error failure ∧ outcome = .error (.policyDenied message details)) := by
  unfold recordAccessDecision at h
  rcases (run_perform_bind_iff _ _ _ _).mp h with ⟨exception, rfl, -⟩ |
    ⟨auditEventId, rest, rfl, hcommit⟩
  · obtain ⟨value, hvalue⟩ := hinprocess _ (List.mem_singleton_self _) (by simp [GatewayOp.kind])
    cases hvalue
  rcases (run_tryExcept_iff _ _ _ _).mp hcommit with ⟨value, hrun, rfl⟩ |
    ⟨first, second, exception, rfl, hrun, hhandler⟩
  · have hrest := (run_perform_iff _ _ _).mp hrun
    subst hrest
    exact ⟨auditEventId, _, _, rfl, rfl, rfl, rfl, Or.inl ⟨rfl, rfl⟩⟩
  · have hfirst := (run_perform_iff _ _ _).mp hrun
    subst hfirst
    have hraised : second = [] ∧ ∃ message details,
        outcome = .error (.policyDenied message details) := by
      cases exception with
      | auditSink _ =>
        obtain ⟨hsecond, houtcome⟩ := (run_raise_iff _ _ _).mp hhandler
        exact ⟨hsecond, _, _, houtcome⟩
      | _ =>
        obtain ⟨hsecond, houtcome⟩ := (run_raise_iff _ _ _).mp hhandler
        exact ⟨hsecond, _, _, houtcome⟩
    obtain ⟨rfl, message, details, rfl⟩ := hraised
    exact ⟨auditEventId, _, _, rfl, rfl, rfl, rfl, Or.inr ⟨exception, message, details, rfl, rfl⟩⟩

section Records

variable {α : Type} {history : List GatewayEvent} {context : DecisionContext} {stray : Prop}
  {settled : List (AccessRecord × Except Exn Unit) → Prop}

theorem tracks_record_raise (hinprocess : InProcess history) (actorId result reason : String)
    (resources filters masks : Fields) (exception : Exn) :
    Tracks history context.policyDecisionId settled stray (do
      recordAccessDecision context actorId result reason resources filters masks
      Program.raise exception : Handler α) := by
  intro events outcome hsubset h
  rcases (run_bind_iff _ _ _ _).mp h with ⟨raised, hrun, rfl⟩ |
    ⟨first, second, value, rfl, hrun, hraise⟩
  · obtain ⟨auditEventId, answer, record, rfl, -, -, -,
      ⟨-, hfalse⟩ | ⟨failure, message, details, rfl, houtcome⟩⟩ :=
      recordAccessDecision_run (hinprocess.of_subset hsubset) hrun
    · cases hfalse
    · cases houtcome
      exact .denied message details record failure rfl rfl
  · obtain ⟨auditEventId, answer, record, rfl, -, hid, -,
      ⟨rfl, -⟩ | ⟨failure, message, details, -, hfalse⟩⟩ :=
      recordAccessDecision_run (hinprocess.of_subset (List.append_subset.mp hsubset).1) hrun
    · obtain ⟨rfl, rfl⟩ := (run_raise_iff _ _ _).mp hraise
      exact .recorded exception record hid rfl rfl
    · cases hfalse

theorem tracks_denyWith (hinprocess : InProcess history) (actorId message reason : String)
    (resources filters masks details : Fields) :
    Tracks history context.policyDecisionId settled stray
      (denyWith context actorId message reason resources filters masks details : Handler α) := by
  unfold denyWith
  exact tracks_record_raise hinprocess _ _ _ _ _ _ _

theorem tracks_deny (hinprocess : InProcess history) (actorId reason : String)
    (resources details : Fields) :
    Tracks history context.policyDecisionId settled stray
      (deny context actorId reason resources details : Handler α) :=
  tracks_denyWith hinprocess _ _ _ _ _ _ _

end Records

end SchemaPilot.Gateway
