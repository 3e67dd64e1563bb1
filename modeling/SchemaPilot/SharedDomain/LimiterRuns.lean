import SchemaPilot.SharedDomain.RateLimit
import Mathlib.Algebra.Order.Floor.Ring
import Mathlib.Data.List.Infix
import Mathlib.Data.Rat.Floor

/-!
# The rate limiter over whole runs

Any sequence of calls of any actors under a clock that does not go back. An actor has in progress what it
was granted and has not released, within the limit (`LimiterAccount.inflight`), and is granted no more than
the limit in one minute of the clock (`LimiterAccount.bounded`). The window is shared by all actors, but
what the calls of the others do to it the actor's own next call would do as well, so the decisions given
to an actor are those it would be given alone (`decisions_alone`).
-/

namespace SchemaPilot.SharedDomain

namespace RateLimiter

inductive Call where
  | tryAcquire (actorId : String)
  | release (actorId : String)
deriving DecidableEq

def Call.actorId : Call → String
  | tryAcquire actorId => actorId
  | release actorId => actorId

/-- A call with the reading of `time.time()`, in seconds. -/
structure TimedCall where
  now : ℚ
  call : Call

/-- `int(time.time() // 60)`. -/
def epochMinute (now : ℚ) : ℤ := ⌊now / 60⌋

/-- One call: its decision, if it asks for one, and the limiter it leaves. -/
def step (limits : RateLimits) (limiter : RateLimiter) (timed : TimedCall) :
    Option RateLimitDecision × RateLimiter :=
  match timed.call with
  | .tryAcquire actorId =>
    let outcome := limiter.tryAcquire limits (epochMinute timed.now) actorId
    (some outcome.1, outcome.2)
  | .release actorId => (none, limiter.release actorId)

abbrev Log := List (TimedCall × Option RateLimitDecision)

def logFrom (limits : RateLimits) (limiter : RateLimiter) : List TimedCall → Log
  | [] => []
  | timed :: rest =>
    (timed, (limiter.step limits timed).1) :: logFrom limits (limiter.step limits timed).2 rest

def afterFrom (limits : RateLimits) (limiter : RateLimiter) (calls : List TimedCall) : RateLimiter :=
  calls.foldl (fun limiter timed ↦ (limiter.step limits timed).2) limiter

/-- The limiter that `__init__` makes at a time. -/
def startAt (start : ℚ) : RateLimiter := initial (epochMinute start)

def grants (actorId : String) (entry : TimedCall × Option RateLimitDecision) : Bool :=
  entry.1.call = .tryAcquire actorId && entry.2.any (·.allowed)

def grantsIn (actorId : String) (minute : ℤ) (entry : TimedCall × Option RateLimitDecision) : Bool :=
  grants actorId entry && epochMinute entry.1.now = minute

def releases (actorId : String) (entry : TimedCall × Option RateLimitDecision) : Bool :=
  entry.1.call = .release actorId

/-- The clock does not go back from the making of the limiter on. -/
def ClockAdvances (start : ℚ) (calls : List TimedCall) : Prop :=
  (start :: calls.map (·.now)).Pairwise (· ≤ ·)

/-- No actor has released more often than it was granted. -/
def ReleasesGranted (limits : RateLimits) (start : ℚ) (calls : List TimedCall) : Prop :=
  ∀ earlier now actorId, earlier ++ [⟨now, .release actorId⟩] <+: calls →
    (logFrom limits (startAt start) earlier).countP (releases actorId) <
      (logFrom limits (startAt start) earlier).countP (grants actorId)

def decisionsOf (actorId : String) (log : Log) : List RateLimitDecision :=
  (log.filter fun entry ↦ entry.1.call.actorId = actorId).filterMap (·.2)

def callsOf (actorId : String) (calls : List TimedCall) : List TimedCall :=
  calls.filter fun timed ↦ timed.call.actorId = actorId

theorem logFrom_append (limits : RateLimits) (calls more : List TimedCall) :
    ∀ limiter : RateLimiter, logFrom limits limiter (calls ++ more) =
      logFrom limits limiter calls ++ logFrom limits (afterFrom limits limiter calls) more := by
  induction calls with
  | nil => exact fun _ ↦ rfl
  | cons timed rest ih =>
    intro limiter
    rw [List.cons_append, logFrom, logFrom, ih, List.cons_append]
    rfl

theorem logFrom_concat (limits : RateLimits) (limiter : RateLimiter) (calls : List TimedCall)
    (timed : TimedCall) : logFrom limits limiter (calls ++ [timed]) =
      logFrom limits limiter calls ++
        [(timed, ((afterFrom limits limiter calls).step limits timed).1)] :=
  logFrom_append limits calls [timed] limiter

theorem afterFrom_concat (limits : RateLimits) (limiter : RateLimiter) (calls : List TimedCall)
    (timed : TimedCall) : afterFrom limits limiter (calls ++ [timed]) =
      ((afterFrom limits limiter calls).step limits timed).2 := by
  rw [afterFrom, List.foldl_append]
  rfl

theorem epochMinute_mono {first second : ℚ} (h : first ≤ second) :
    epochMinute first ≤ epochMinute second :=
  Int.floor_le_floor (div_le_div_of_nonneg_right h (by norm_num))

@[simp] theorem windowEpochMinute_advance (limiter : RateLimiter) (currentWindow : ℤ) :
    (limiter.advance currentWindow).windowEpochMinute = currentWindow := by
  unfold advance
  split_ifs with h
  · exact h.symm
  · rfl

theorem requestCounts_advance (limiter : RateLimiter) (currentWindow : ℤ) (actorId : String) :
    (limiter.advance currentWindow).requestCounts actorId =
      if currentWindow = limiter.windowEpochMinute then limiter.requestCounts actorId else 0 := by
  unfold advance
  split_ifs <;> rfl

/-- A granted call is within both limits. -/
theorem within_of_tryAcquire {limits : RateLimits} {currentWindow : ℤ} {limiter : RateLimiter}
    {actorId : String} (h : (limiter.tryAcquire limits currentWindow actorId).1.allowed = true) :
    (limiter.inflightCounts actorId : ℤ) < limits.maxConcurrentPerActor ∧
      ((limiter.advance currentWindow).requestCounts actorId : ℤ) < limits.maxRequestsPerMinute := by
  unfold tryAcquire at h
  dsimp only at h
  split_ifs at h with hnone hfull hrequests hwindow
  rw [inflightCounts_advance] at hfull
  exact ⟨not_le.mp hfull, not_le.mp hwindow⟩

/-- The limiter a call leaves, by its decision. -/
theorem tryAcquire_after (limits : RateLimits) (currentWindow : ℤ) (limiter : RateLimiter)
    (actorId : String) : (limiter.tryAcquire limits currentWindow actorId).2 =
      if (limiter.tryAcquire limits currentWindow actorId).1.allowed = true then
        (limiter.advance currentWindow).grant actorId
      else limiter.advance currentWindow := by
  rcases tryAcquire_cases limits currentWindow limiter actorId with ⟨reason, h, -⟩ | h
  · rw [h]
    rfl
  · rw [h]
    rfl

/-- What a limiter holds after the calls of a log, the latest of them at a time. -/
structure LimiterAccount (limits : RateLimits) (latest : ℚ) (log : Log) (limiter : RateLimiter) :
    Prop where
  window : limiter.windowEpochMinute ≤ epochMinute latest
  later : ∀ actorId minute, limiter.windowEpochMinute < minute →
    log.countP (grantsIn actorId minute) = 0
  current : ∀ actorId, log.countP (grantsIn actorId limiter.windowEpochMinute) =
    limiter.requestCounts actorId
  bounded : ∀ actorId minute,
    (log.countP (grantsIn actorId minute) : ℤ) ≤ max limits.maxRequestsPerMinute 0
  inflight : ∀ actorId, limiter.inflightCounts actorId + log.countP (releases actorId) =
    log.countP (grants actorId)
  capped : ∀ actorId, (limiter.inflightCounts actorId : ℤ) ≤ max limits.maxConcurrentPerActor 0

section Account

variable {limits : RateLimits} {latest : ℚ} {log : Log} {limiter : RateLimiter}

theorem account_startAt (limits : RateLimits) (start : ℚ) :
    LimiterAccount limits start [] (startAt start) where
  window := le_refl _
  later _ _ _ := rfl
  current _ := rfl
  bounded _ _ := le_max_right _ _
  inflight _ := rfl
  capped _ := le_max_right _ _

/-- The window moves on to the minute of a call. -/
theorem LimiterAccount.advance (h : LimiterAccount limits latest log limiter) {now : ℚ}
    (hnow : latest ≤ now) :
    LimiterAccount limits now log (limiter.advance (epochMinute now)) := by
  have hwindow : limiter.windowEpochMinute ≤ epochMinute now := h.window.trans (epochMinute_mono hnow)
  refine ⟨?_, ?_, ?_, h.bounded, ?_, ?_⟩
  · rw [windowEpochMinute_advance]
  · intro actorId minute hminute
    rw [windowEpochMinute_advance] at hminute
    exact h.later actorId minute (hwindow.trans_lt hminute)
  · intro actorId
    rw [windowEpochMinute_advance, requestCounts_advance]
    split_ifs with hsame
    · rw [hsame]
      exact h.current actorId
    · exact h.later actorId _ (lt_of_le_of_ne hwindow (Ne.symm hsame))
  · intro actorId
    rw [inflightCounts_advance]
    exact h.inflight actorId
  · intro actorId
    rw [inflightCounts_advance]
    exact h.capped actorId

theorem LimiterAccount.refuse (h : LimiterAccount limits latest log limiter) (timed : TimedCall)
    {actorId : String} (hcall : timed.call = .tryAcquire actorId) {decision : RateLimitDecision}
    (hdecision : decision.allowed = false) :
    LimiterAccount limits latest (log ++ [(timed, some decision)]) limiter := by
  have hgrants : ∀ other, grants other (timed, some decision) = false := by
    intro other
    simp [grants, hdecision]
  have hgrantsIn : ∀ other minute, grantsIn other minute (timed, some decision) = false := by
    intro other minute
    rw [grantsIn, hgrants, Bool.false_and]
  have hreleases : ∀ other, releases other (timed, some decision) = false := by
    intro other
    simp [releases, hcall]
  have hcount : ∀ {p : TimedCall × Option RateLimitDecision → Bool},
      p (timed, some decision) = false →
        (log ++ [(timed, some decision)]).countP p = log.countP p := by
    intro p hp
    rw [List.countP_append, List.countP_singleton, hp]
    rfl
  refine ⟨h.window, ?_, ?_, ?_, ?_, h.capped⟩
  · intro other minute hminute
    rw [hcount (hgrantsIn other minute)]
    exact h.later other minute hminute
  · intro other
    rw [hcount (hgrantsIn other _)]
    exact h.current other
  · intro other minute
    rw [hcount (hgrantsIn other minute)]
    exact h.bounded other minute
  · intro other
    rw [hcount (hreleases other), hcount (hgrants other)]
    exact h.inflight other

theorem LimiterAccount.grant (h : LimiterAccount limits latest log limiter) {timed : TimedCall}
    {actorId : String} (hcall : timed.call = .tryAcquire actorId) {decision : RateLimitDecision}
    (hdecision : decision.allowed = true)
    (hminute : epochMinute timed.now = limiter.windowEpochMinute)
    (hinflight : (limiter.inflightCounts actorId : ℤ) < limits.maxConcurrentPerActor)
    (hrequests : (limiter.requestCounts actorId : ℤ) < limits.maxRequestsPerMinute) :
    LimiterAccount limits latest (log ++ [(timed, some decision)]) (limiter.grant actorId) := by
  have hgrants : ∀ other, (log ++ [(timed, some decision)]).countP (grants other) =
      log.countP (grants other) + if other = actorId then 1 else 0 := by
    intro other
    rw [List.countP_append, List.countP_singleton]
    simp [grants, hcall, hdecision, eq_comm]
  have hgrantsIn : ∀ other minute, (log ++ [(timed, some decision)]).countP (grantsIn other minute) =
      log.countP (grantsIn other minute) +
        if other = actorId ∧ minute = limiter.windowEpochMinute then 1 else 0 := by
    intro other minute
    rw [List.countP_append, List.countP_singleton]
    simp [grantsIn, grants, hcall, hdecision, hminute, @eq_comm _ _ other, @eq_comm _ _ minute]
  have hreleases : ∀ other, (log ++ [(timed, some decision)]).countP (releases other) =
      log.countP (releases other) := by
    intro other
    rw [List.countP_append, List.countP_singleton]
    simp [releases, hcall]
  have hcurrent := h.current actorId
  refine ⟨h.window, ?_, ?_, ?_, ?_, ?_⟩
  · intro other minute hlater
    change limiter.windowEpochMinute < minute at hlater
    rw [hgrantsIn, h.later other minute hlater, if_neg fun heq ↦ hlater.ne' heq.2]
  · intro other
    change _ = Function.update limiter.requestCounts actorId _ other
    rw [hgrantsIn, show (limiter.grant actorId).windowEpochMinute = limiter.windowEpochMinute from rfl,
      h.current]
    by_cases hother : other = actorId
    · subst hother
      rw [if_pos ⟨rfl, rfl⟩, Function.update_self]
    · rw [if_neg fun heq ↦ hother heq.1, Function.update_of_ne hother, Nat.add_zero]
  · intro other minute
    rw [hgrantsIn]
    by_cases hother : other = actorId ∧ minute = limiter.windowEpochMinute
    · obtain ⟨rfl, rfl⟩ := hother
      rw [if_pos ⟨rfl, rfl⟩, hcurrent]
      push_cast
      omega
    · rw [if_neg hother, Nat.add_zero]
      exact h.bounded other minute
  · intro other
    change Function.update limiter.inflightCounts actorId _ other + _ = _
    rw [hreleases, hgrants]
    have hbefore := h.inflight other
    by_cases hother : other = actorId
    · subst hother
      rw [if_pos rfl, Function.update_self]
      omega
    · rw [if_neg hother, Function.update_of_ne hother, Nat.add_zero]
      exact hbefore
  · intro other
    change (Function.update limiter.inflightCounts actorId _ other : ℤ) ≤ _
    by_cases hother : other = actorId
    · subst hother
      rw [Function.update_self]
      push_cast
      omega
    · rw [Function.update_of_ne hother]
      exact h.capped other

/-- A release of what was granted takes one request in progress off its actor. -/
theorem LimiterAccount.release (h : LimiterAccount limits latest log limiter) {timed : TimedCall}
    {actorId : String} (hcall : timed.call = .release actorId) (hnow : latest ≤ timed.now)
    (hgranted : log.countP (releases actorId) < log.countP (grants actorId)) :
    LimiterAccount limits timed.now (log ++ [(timed, none)]) (limiter.release actorId) := by
  have hgrants : ∀ other, grants other (timed, none) = false := by
    intro other
    simp [grants]
  have hgrantsIn : ∀ other minute,
      (log ++ [(timed, none)]).countP (grantsIn other minute) = log.countP (grantsIn other minute) := by
    intro other minute
    rw [List.countP_append, List.countP_singleton, grantsIn, hgrants]
    rfl
  refine ⟨h.window.trans (epochMinute_mono hnow), ?_, ?_, ?_, ?_, ?_⟩
  · intro other minute hlater
    rw [hgrantsIn]
    exact h.later other minute hlater
  · intro other
    rw [hgrantsIn]
    exact h.current other
  · intro other minute
    rw [hgrantsIn]
    exact h.bounded other minute
  · intro other
    have hbefore := h.inflight other
    rw [List.countP_append, List.countP_append, List.countP_singleton, List.countP_singleton, hgrants,
      release_inflightCounts, releases, hcall]
    by_cases hother : actorId = other
    · subst hother
      rw [if_pos rfl, if_pos (decide_eq_true rfl), if_neg Bool.false_ne_true]
      omega
    · have hne : ¬decide (Call.release actorId = Call.release other) = true := fun heq ↦
        hother (Call.release.inj (of_decide_eq_true heq))
      rw [if_neg hother, if_neg hne, if_neg Bool.false_ne_true]
      omega
  · intro other
    have hbefore := h.capped other
    rw [release_inflightCounts]
    omega

end Account

/-- The latest reading of the clock after some calls. -/
def latest (start : ℚ) (calls : List TimedCall) : ℚ :=
  (calls.getLast?.map (·.now)).getD start

theorem latest_le {start : ℚ} {calls : List TimedCall} {timed : TimedCall}
    (h : ClockAdvances start (calls ++ [timed])) : latest start calls ≤ timed.now := by
  rw [ClockAdvances, List.map_append, List.map_singleton, ← List.cons_append,
    List.pairwise_append] at h
  refine h.2.2 _ ?_ _ (List.mem_singleton_self _)
  rw [latest]
  cases hlast : calls.getLast? with
  | none => exact List.mem_cons_self
  | some last =>
    exact List.mem_cons_of_mem _ (List.mem_map_of_mem (List.mem_of_getLast? hlast))

theorem account_run {limits : RateLimits} {start : ℚ} {calls : List TimedCall}
    (hclock : ClockAdvances start calls) (hreleases : ReleasesGranted limits start calls) :
    LimiterAccount limits (latest start calls) (logFrom limits (startAt start) calls)
      (afterFrom limits (startAt start) calls) := by
  induction calls using List.reverseRecOn with
  | nil => exact account_startAt limits start
  | append_singleton earlier timed ih =>
    have hbefore := ih
      (hclock.sublist (((List.sublist_append_left earlier [timed]).map (·.now)).cons_cons start))
      fun before now actorId hpre ↦ hreleases before now actorId (hpre.trans (List.prefix_append _ _))
    have hnow : latest start earlier ≤ timed.now := latest_le hclock
    have hlatest : latest start (earlier ++ [timed]) = timed.now := by
      rw [latest, List.getLast?_append]
      rfl
    rw [logFrom_concat, afterFrom_concat, hlatest]
    obtain ⟨now, call⟩ := timed
    cases call with
    | release actorId =>
      exact hbefore.release rfl hnow (hreleases earlier now actorId (List.prefix_refl _))
    | tryAcquire actorId =>
      have hmoved := hbefore.advance hnow
      simp only [step]
      rw [tryAcquire_after]
      split_ifs with hallowed
      · have hwithin := within_of_tryAcquire hallowed
        refine hmoved.grant rfl hallowed ?_ ?_ hwithin.2
        · rw [windowEpochMinute_advance]
        · rw [inflightCounts_advance]
          exact hwithin.1
      · exact hmoved.refuse _ rfl (Bool.eq_false_iff.mpr hallowed)

/-- A limiter decides about an actor as another one that the calls of the others have not reached. -/
structure DecidesAs (actorId : String) (limiter alone : RateLimiter) : Prop where
  window : alone.windowEpochMinute ≤ limiter.windowEpochMinute
  inflight : limiter.inflightCounts actorId = alone.inflightCounts actorId
  requests : limiter.requestCounts actorId =
    if alone.windowEpochMinute = limiter.windowEpochMinute then alone.requestCounts actorId else 0

theorem DecidesAs.advance {actorId : String} {limiter alone : RateLimiter}
    (h : DecidesAs actorId limiter alone) {minute : ℤ} (hminute : limiter.windowEpochMinute ≤ minute) :
    (limiter.advance minute).requestCounts actorId = (alone.advance minute).requestCounts actorId := by
  have hwindow := h.window
  rw [requestCounts_advance, requestCounts_advance, h.requests]
  split_ifs <;> first | rfl | omega

theorem tryAcquire_decision {limits : RateLimits} {minute : ℤ} {actorId : String}
    {limiter alone : RateLimiter}
    (hinflight : limiter.inflightCounts actorId = alone.inflightCounts actorId)
    (hrequests : (limiter.advance minute).requestCounts actorId =
      (alone.advance minute).requestCounts actorId) :
    (limiter.tryAcquire limits minute actorId).1 = (alone.tryAcquire limits minute actorId).1 := by
  unfold tryAcquire
  dsimp only
  rw [inflightCounts_advance, inflightCounts_advance, hinflight, hrequests]
  split_ifs <;> rfl

/-- A call of the actor itself is decided alike. -/
theorem DecidesAs.own {limits : RateLimits} {limiter alone : RateLimiter} {timed : TimedCall}
    (h : DecidesAs timed.call.actorId limiter alone)
    (hnow : limiter.windowEpochMinute ≤ epochMinute timed.now) :
    (limiter.step limits timed).1 = (alone.step limits timed).1 ∧
      DecidesAs timed.call.actorId (limiter.step limits timed).2 (alone.step limits timed).2 := by
  obtain ⟨now, call⟩ := timed
  cases call with
  | release actorId =>
    refine ⟨rfl, h.window, ?_, h.requests⟩
    simp only [step, Call.actorId, release_inflightCounts]
    exact congrArg (· - _) h.inflight
  | tryAcquire actorId =>
    have hrequests := h.advance hnow
    have hdecision : (limiter.tryAcquire limits (epochMinute now) actorId).1 =
        (alone.tryAcquire limits (epochMinute now) actorId).1 :=
      tryAcquire_decision h.inflight hrequests
    simp only [Call.actorId] at hrequests ⊢
    simp only [step]
    refine ⟨congrArg some hdecision, ?_⟩
    have hinflight : limiter.inflightCounts actorId = alone.inflightCounts actorId := h.inflight
    rw [tryAcquire_after, tryAcquire_after, ← hdecision]
    split_ifs
    · refine ⟨?_, ?_, ?_⟩
      · change (limiter.advance _).windowEpochMinute ≥ (alone.advance _).windowEpochMinute
        rw [windowEpochMinute_advance, windowEpochMinute_advance]
      · simp only [grant, Function.update_self, inflightCounts_advance, hinflight]
      · change Function.update _ _ _ _ = if (alone.advance _).windowEpochMinute =
          (limiter.advance _).windowEpochMinute then Function.update _ _ _ _ else 0
        rw [windowEpochMinute_advance, windowEpochMinute_advance, if_pos rfl, Function.update_self,
          Function.update_self, hrequests]
    · refine ⟨?_, ?_, ?_⟩
      · rw [windowEpochMinute_advance, windowEpochMinute_advance]
      · rw [inflightCounts_advance, inflightCounts_advance, hinflight]
      · rw [windowEpochMinute_advance, windowEpochMinute_advance, if_pos rfl, hrequests]

/-- A call of another actor changes nothing for the actor. -/
theorem DecidesAs.other {limits : RateLimits} {actorId : String} {limiter alone : RateLimiter}
    {timed : TimedCall} (h : DecidesAs actorId limiter alone) (hother : timed.call.actorId ≠ actorId)
    (hnow : limiter.windowEpochMinute ≤ epochMinute timed.now) :
    DecidesAs actorId (limiter.step limits timed).2 alone := by
  obtain ⟨now, call⟩ := timed
  cases call with
  | release other =>
    replace hother : other ≠ actorId := hother
    refine ⟨h.window, ?_, h.requests⟩
    simp only [step]
    rw [release_inflightCounts, if_neg hother, Nat.sub_zero, h.inflight]
  | tryAcquire other =>
    replace hother : other ≠ actorId := hother
    have hwindow := h.window
    have hmoved : DecidesAs actorId (limiter.advance (epochMinute now)) alone := by
      refine ⟨?_, ?_, ?_⟩
      · rw [windowEpochMinute_advance]
        exact hwindow.trans hnow
      · rw [inflightCounts_advance, h.inflight]
      · rw [windowEpochMinute_advance, requestCounts_advance, h.requests]
        dsimp only at hnow
        split_ifs <;> first | rfl | omega
    simp only [step]
    rw [tryAcquire_after]
    split_ifs
    · refine ⟨hmoved.window, ?_, ?_⟩
      · change Function.update _ _ _ _ = _
        rw [Function.update_of_ne (Ne.symm hother), hmoved.inflight]
      · change Function.update _ _ _ _ = _
        rw [Function.update_of_ne (Ne.symm hother), hmoved.requests]
        rfl
    · exact hmoved

theorem step_window_le {limits : RateLimits} {limiter : RateLimiter} {timed : TimedCall} {minute : ℤ}
    (hlimiter : limiter.windowEpochMinute ≤ minute) (hnow : epochMinute timed.now ≤ minute) :
    (limiter.step limits timed).2.windowEpochMinute ≤ minute := by
  obtain ⟨now, call⟩ := timed
  cases call with
  | release actorId => exact hlimiter
  | tryAcquire actorId =>
    simp only [step]
    rw [tryAcquire_after]
    split_ifs
    · change (limiter.advance _).windowEpochMinute ≤ minute
      rw [windowEpochMinute_advance]
      exact hnow
    · rw [windowEpochMinute_advance]
      exact hnow

theorem decisionsOf_cons (actorId : String) (entry : TimedCall × Option RateLimitDecision) (log : Log) :
    decisionsOf actorId (entry :: log) =
      if entry.1.call.actorId = actorId then entry.2.toList ++ decisionsOf actorId log
      else decisionsOf actorId log := by
  unfold decisionsOf
  split_ifs with hown
  · rw [List.filter_cons_of_pos (by simpa using hown), List.filterMap_cons]
    cases entry.2 <;> rfl
  · rw [List.filter_cons_of_neg (by simpa using hown)]

/-- The decisions given to an actor are those it would be given alone. -/
theorem decisions_alone {limits : RateLimits} {actorId : String} {calls : List TimedCall} :
    ∀ {limiter alone : RateLimiter}, DecidesAs actorId limiter alone →
      (∀ timed ∈ calls, limiter.windowEpochMinute ≤ epochMinute timed.now) →
      (calls.map (·.now)).Pairwise (· ≤ ·) →
        decisionsOf actorId (logFrom limits limiter calls) =
          decisionsOf actorId (logFrom limits alone (callsOf actorId calls)) := by
  induction calls with
  | nil => exact fun _ _ _ ↦ rfl
  | cons timed rest ih =>
    intro limiter alone h hnow hclock
    rw [List.map_cons, List.pairwise_cons] at hclock
    have hthis := hnow timed List.mem_cons_self
    have hrest : ∀ later ∈ rest,
        (limiter.step limits timed).2.windowEpochMinute ≤ epochMinute later.now := fun later hlater ↦
      step_window_le (hnow later (List.mem_cons_of_mem _ hlater))
        (epochMinute_mono (hclock.1 _ (List.mem_map_of_mem hlater)))
    by_cases hown : timed.call.actorId = actorId
    · have hdecides : DecidesAs timed.call.actorId limiter alone := hown ▸ h
      obtain ⟨hdecision, hafter⟩ := hdecides.own hthis
      rw [hown] at hafter
      have hcalls : callsOf actorId (timed :: rest) = timed :: callsOf actorId rest :=
        List.filter_cons_of_pos (decide_eq_true hown)
      rw [hcalls, logFrom, logFrom, decisionsOf_cons, decisionsOf_cons, if_pos hown, if_pos hown,
        hdecision, ih hafter hrest hclock.2]
    · have hcalls : callsOf actorId (timed :: rest) = callsOf actorId rest :=
        List.filter_cons_of_neg (by simpa using hown)
      rw [hcalls, logFrom, decisionsOf_cons, if_neg hown, ih (h.other hown hthis) hrest hclock.2]

/-- In every run, an actor has in progress what it was granted and has not released, within the limit, is
granted no more than the limit in a minute, and is given the decisions it would be given alone. -/
theorem limiter_bounds {limits : RateLimits} {start : ℚ} {calls : List TimedCall}
    (hclock : ClockAdvances start calls) (hreleases : ReleasesGranted limits start calls)
    (actorId : String) :
    ((afterFrom limits (startAt start) calls).inflightCounts actorId +
        (logFrom limits (startAt start) calls).countP (releases actorId) =
          (logFrom limits (startAt start) calls).countP (grants actorId) ∧
      ((afterFrom limits (startAt start) calls).inflightCounts actorId : ℤ) ≤
        max limits.maxConcurrentPerActor 0) ∧
    (∀ minute, ((logFrom limits (startAt start) calls).countP (grantsIn actorId minute) : ℤ) ≤
      max limits.maxRequestsPerMinute 0) ∧
    decisionsOf actorId (logFrom limits (startAt start) calls) =
      decisionsOf actorId (logFrom limits (startAt start) (callsOf actorId calls)) := by
  have haccount := account_run hclock hreleases
  rw [ClockAdvances, List.pairwise_cons] at hclock
  refine ⟨⟨haccount.inflight actorId, haccount.capped actorId⟩, haccount.bounded actorId, ?_⟩
  refine decisions_alone ⟨le_refl _, rfl, (if_pos rfl).symm⟩ (fun timed htimed ↦ ?_) hclock.2
  exact epochMinute_mono (hclock.1 _ (List.mem_map_of_mem htimed))

/-- A request that is granted and released, and a second one in the same minute. -/
theorem limiter_bounds_released :
    (afterFrom ⟨2, 1⟩ (startAt 0) [⟨1, .tryAcquire "analyst"⟩, ⟨2, .release "analyst"⟩,
        ⟨3, .tryAcquire "analyst"⟩]).inflightCounts "analyst" = 1 ∧
      ((logFrom ⟨2, 1⟩ (startAt 0) [⟨1, .tryAcquire "analyst"⟩, ⟨2, .release "analyst"⟩,
        ⟨3, .tryAcquire "analyst"⟩]).countP (grantsIn "analyst" 0) : ℤ) ≤ max 2 0 := by
  have hclock : ClockAdvances 0 [⟨1, .tryAcquire "analyst"⟩, ⟨2, .release "analyst"⟩,
      ⟨3, .tryAcquire "analyst"⟩] := by
    simp [ClockAdvances]
    norm_num
  have hreleases : ReleasesGranted ⟨2, 1⟩ 0 [⟨1, .tryAcquire "analyst"⟩, ⟨2, .release "analyst"⟩,
      ⟨3, .tryAcquire "analyst"⟩] := by
    intro earlier now actorId hpre
    rcases earlier with _ | ⟨first, _ | ⟨second, _ | ⟨third, rest⟩⟩⟩
    · simp at hpre
    · obtain ⟨rfl, rfl, rfl⟩ : first = ⟨1, .tryAcquire "analyst"⟩ ∧ now = 2 ∧ actorId = "analyst" := by
        simpa using hpre
      decide +kernel
    · simp at hpre
    · simp at hpre
  refine ⟨?_, (limiter_bounds hclock hreleases "analyst").2.1 0⟩
  decide +kernel

end RateLimiter

end SchemaPilot.SharedDomain
