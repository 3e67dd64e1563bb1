import Mathlib.Data.Int.Notation
import Mathlib.Data.Nat.Notation
import Mathlib.Logic.Function.Basic
import Mathlib.Tactic.Common

/-!
# The per-actor rate limiter

`InMemoryActorRateLimiter` of `backend/shared_domain/rate_limit.py`: a fixed one-minute window of
request counts and a count of requests in progress for each actor. The two dictionaries are read
with `.get(actor_id, 0)` only, so they are functions here, a removed entry being zero. Both methods
hold the lock throughout and are therefore single steps; the clock reading is an argument.

What one call does is stated once for each method (`tryAcquire_cases`, `release_inflightCounts`); the
counts of other actors never change.
-/

namespace SchemaPilot.SharedDomain

/-- `RateLimitDecision`. -/
structure RateLimitDecision where
  allowed : Bool
  reason : String
deriving DecidableEq

structure RateLimits where
  maxRequestsPerMinute : ℤ
  maxConcurrentPerActor : ℤ

structure RateLimiter where
  windowEpochMinute : ℤ
  requestCounts : String → ℕ
  inflightCounts : String → ℕ

namespace RateLimiter

/-- A limiter as `__init__` leaves it. -/
def initial (windowEpochMinute : ℤ) : RateLimiter := ⟨windowEpochMinute, fun _ ↦ 0, fun _ ↦ 0⟩

/-- The window of the current minute: a new minute clears the request counts. -/
def advance (limiter : RateLimiter) (currentWindow : ℤ) : RateLimiter :=
  if currentWindow = limiter.windowEpochMinute then limiter
  else { limiter with windowEpochMinute := currentWindow, requestCounts := fun _ ↦ 0 }

/-- One more request of an actor, counted in the window and in progress. -/
def grant (limiter : RateLimiter) (actorId : String) : RateLimiter :=
  { limiter with
    requestCounts := Function.update limiter.requestCounts actorId
      (limiter.requestCounts actorId + 1)
    inflightCounts := Function.update limiter.inflightCounts actorId
      (limiter.inflightCounts actorId + 1) }

/-- `try_acquire`. -/
def tryAcquire (limits : RateLimits) (currentWindow : ℤ) (limiter : RateLimiter)
    (actorId : String) : RateLimitDecision × RateLimiter :=
  let current := limiter.advance currentWindow
  if limits.maxConcurrentPerActor ≤ 0 then (⟨false, "concurrency_limit_exceeded"⟩, current)
  else if limits.maxConcurrentPerActor ≤ current.inflightCounts actorId then
    (⟨false, "concurrency_limit_exceeded"⟩, current)
  else if limits.maxRequestsPerMinute ≤ 0 then (⟨false, "rate_limit_exceeded"⟩, current)
  else if limits.maxRequestsPerMinute ≤ current.requestCounts actorId then
    (⟨false, "rate_limit_exceeded"⟩, current)
  else (⟨true, "allow"⟩, current.grant actorId)

/-- `release`. -/
def release (limiter : RateLimiter) (actorId : String) : RateLimiter :=
  { limiter with
    inflightCounts := Function.update limiter.inflightCounts actorId
      (if limiter.inflightCounts actorId ≤ 1 then 0 else limiter.inflightCounts actorId - 1) }

@[simp] theorem inflightCounts_initial (windowEpochMinute : ℤ) (actorId : String) :
    (initial windowEpochMinute).inflightCounts actorId = 0 := rfl

@[simp] theorem inflightCounts_advance (limiter : RateLimiter) (currentWindow : ℤ) :
    (limiter.advance currentWindow).inflightCounts = limiter.inflightCounts := by
  unfold advance
  split_ifs <;> rfl

/-- What `try_acquire` can do: refuse and count nothing, for concurrency only when the actor has the
allowed number of requests in progress, or grant and count one request. -/
theorem tryAcquire_cases (limits : RateLimits) (currentWindow : ℤ) (limiter : RateLimiter)
    (actorId : String) :
    (∃ reason, limiter.tryAcquire limits currentWindow actorId =
        (⟨false, reason⟩, limiter.advance currentWindow) ∧
      (reason = "concurrency_limit_exceeded" →
        limits.maxConcurrentPerActor ≤ limiter.inflightCounts actorId)) ∨
    limiter.tryAcquire limits currentWindow actorId =
      (⟨true, "allow"⟩, (limiter.advance currentWindow).grant actorId) := by
  unfold tryAcquire
  by_cases hnone : limits.maxConcurrentPerActor ≤ 0
  · have hnonneg : (0 : ℤ) ≤ limiter.inflightCounts actorId := Int.natCast_nonneg _
    exact Or.inl ⟨_, if_pos hnone, fun _ ↦ Int.le_trans hnone hnonneg⟩
  rw [if_neg hnone, inflightCounts_advance]
  by_cases hfull : limits.maxConcurrentPerActor ≤ limiter.inflightCounts actorId
  · exact Or.inl ⟨_, if_pos hfull, fun _ ↦ hfull⟩
  rw [if_neg hfull]
  have hother : "rate_limit_exceeded" ≠ "concurrency_limit_exceeded" := by decide
  by_cases hrequests : limits.maxRequestsPerMinute ≤ 0
  · exact Or.inl ⟨_, if_pos hrequests, fun h ↦ absurd h hother⟩
  rw [if_neg hrequests]
  by_cases hwindow :
      limits.maxRequestsPerMinute ≤ (limiter.advance currentWindow).requestCounts actorId
  · exact Or.inl ⟨_, if_pos hwindow, fun h ↦ absurd h hother⟩
  · exact Or.inr (if_neg hwindow)

/-- A granted call adds one request in progress for its actor, a refused one adds none. -/
theorem tryAcquire_inflightCounts (limits : RateLimits) (currentWindow : ℤ)
    (limiter : RateLimiter) (actorId other : String) :
    (limiter.tryAcquire limits currentWindow actorId).2.inflightCounts other =
      limiter.inflightCounts other +
        if (limiter.tryAcquire limits currentWindow actorId).1.allowed = true ∧ actorId = other
          then 1 else 0 := by
  rcases tryAcquire_cases limits currentWindow limiter actorId with ⟨reason, h, -⟩ | h
  · simp [h]
  · rw [h]
    by_cases hother : actorId = other
    · simp [grant, hother]
    · simp [grant, Function.update_of_ne (Ne.symm hother), hother]

/-- A refusal for concurrency means that the actor has the allowed number of requests in
progress. -/
theorem tryAcquire_concurrency {limits : RateLimits} {currentWindow : ℤ} {limiter : RateLimiter}
    {actorId : String}
    (h : (limiter.tryAcquire limits currentWindow actorId).1.reason =
      "concurrency_limit_exceeded") :
    limits.maxConcurrentPerActor ≤ limiter.inflightCounts actorId := by
  rcases tryAcquire_cases limits currentWindow limiter actorId with ⟨reason, heq, hfull⟩ | heq
  · rw [heq] at h
    exact hfull h
  · have hreason : "allow" = "concurrency_limit_exceeded" := by
      rw [heq] at h
      exact h
    exact absurd hreason (by decide)

/-- A release takes one request in progress off its actor's count, never below zero. -/
theorem release_inflightCounts (limiter : RateLimiter) (actorId other : String) :
    (limiter.release actorId).inflightCounts other =
      limiter.inflightCounts other - if actorId = other then 1 else 0 := by
  unfold release
  by_cases h : actorId = other
  · subst h
    simp only [Function.update_self, if_true]
    split_ifs <;> omega
  · simp [Function.update_of_ne (Ne.symm h), h]

end RateLimiter

end SchemaPilot.SharedDomain
