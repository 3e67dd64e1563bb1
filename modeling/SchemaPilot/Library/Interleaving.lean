import SchemaPilot.Library.Program
import Mathlib.Logic.Relation

/-!
# Interleaved runs of programs over a shared state

Requests run side by side: each is a program with its own history, and a step of the system begins
a new request, lets one pending request make its next call against the shared state, or changes the
shared state from outside (`Step`). The order of steps is arbitrary, so a statement about every
reachable configuration covers every interleaving.

What a call may answer, and what it does to the shared state, is the relation `exec` of a `System`;
an interface without a fixed behaviour answers arbitrarily. `Reachable.thread_after` links the two
levels: the history of a request in a reachable configuration is a history of its program, so the
structure of the program decides what the history can look like. `Reachable.invariant` is the
induction rule: an invariant of the initial configuration that every step preserves holds in every
reachable configuration.
-/

namespace SchemaPilot.Library

/-- A family of request programs over a shared state. -/
structure System (Op : Type) (Answer : Op → Type) (Exc Request Result State : Type) where
  /-- The program that serves a request. -/
  handler : Request → Program Op Answer Exc Result
  /-- What a call may answer in a shared state, and the state it leaves. -/
  exec : State → (op : Op) → Except Exc (Answer op) → State → Prop
  /-- The steps of the rest of the world. -/
  outside : State → State → Prop

/-- A request being served: the calls it has made and the program it is left with. -/
structure Thread (Op : Type) (Answer : Op → Type) (Exc Request Result : Type) where
  request : Request
  history : List (Event Op Answer Exc)
  remaining : Program Op Answer Exc Result

/-- The shared state and the requests begun so far, finished ones included. -/
structure Configuration (Op : Type) (Answer : Op → Type) (Exc Request Result State : Type) where
  shared : State
  threads : List (Thread Op Answer Exc Request Result)

variable {Op : Type} {Answer : Op → Type} {Exc Request Result State : Type}

/-- The request has ended, with a value or an exception. -/
def Thread.Finished (thread : Thread Op Answer Exc Request Result) : Prop :=
  ∃ result, thread.remaining = .done result

namespace System

variable (system : System Op Answer Exc Request Result State)

def arrival (request : Request) : Thread Op Answer Exc Request Result :=
  ⟨request, [], system.handler request⟩

inductive Step : Configuration Op Answer Exc Request Result State →
    Configuration Op Answer Exc Request Result State → Prop
  | arrive (shared : State) (threads : List (Thread Op Answer Exc Request Result))
      (request : Request) :
      Step ⟨shared, threads⟩ ⟨shared, threads ++ [system.arrival request]⟩
  | call (shared shared' : State) (before after : List (Thread Op Answer Exc Request Result))
      (request : Request) (history : List (Event Op Answer Exc)) (op : Op)
      (next : Except Exc (Answer op) → Program Op Answer Exc Result)
      (answer : Except Exc (Answer op)) (hexec : system.exec shared op answer shared') :
      Step ⟨shared, before ++ ⟨request, history, .call op next⟩ :: after⟩
        ⟨shared', before ++ ⟨request, history ++ [⟨op, answer⟩], next answer⟩ :: after⟩
  | world (shared shared' : State) (threads : List (Thread Op Answer Exc Request Result))
      (houtside : system.outside shared shared') :
      Step ⟨shared, threads⟩ ⟨shared', threads⟩

/-- The configurations that runs from the shared state `initial` reach, no request having begun. -/
def Reachable (initial : State)
    (config : Configuration Op Answer Exc Request Result State) : Prop :=
  Relation.ReflTransGen system.Step ⟨initial, []⟩ config

variable {system} {initial : State} {config : Configuration Op Answer Exc Request Result State}

/-- The induction rule for reachable configurations. -/
theorem Reachable.invariant (Inv : Configuration Op Answer Exc Request Result State → Prop)
    (hreach : system.Reachable initial config) (hinit : Inv ⟨initial, []⟩)
    (hstep : ∀ first second, system.Reachable initial first → Inv first →
      system.Step first second → Inv second) : Inv config := by
  have hpair : system.Reachable initial config ∧ Inv config := by
    induction hreach with
    | refl => exact ⟨.refl, hinit⟩
    | tail _ hlast ih => exact ⟨ih.1.tail hlast, hstep _ _ ih.1 ih.2 hlast⟩
  exact hpair.2

theorem Reachable.thread_after (hreach : system.Reachable initial config) :
    ∀ thread ∈ config.threads,
      Program.After (system.handler thread.request) thread.history thread.remaining := by
  refine Reachable.invariant (fun config ↦ ∀ thread ∈ config.threads,
    Program.After (system.handler thread.request) thread.history thread.remaining) hreach
    (fun _ hthread ↦ absurd hthread List.not_mem_nil) ?_
  intro first second _ ih hstep
  cases hstep with
  | arrive shared threads request =>
    intro thread hthread
    rcases List.mem_append.mp hthread with hthread | hthread
    · exact ih thread hthread
    · rw [List.mem_singleton] at hthread
      subst hthread
      exact .refl _
  | call shared shared' before after request history op next answer hexec =>
    intro thread hthread
    have hcaller := ih ⟨request, history, .call op next⟩ (by simp)
    rcases List.mem_append.mp hthread with hthread | hthread
    · exact ih thread (List.mem_append_left _ hthread)
    · rcases List.mem_cons.mp hthread with rfl | hthread
      · exact hcaller.snoc answer
      · exact ih thread (by simp [hthread])
  | world shared shared' threads houtside => exact ih

/-- A step only prolongs the histories of the requests. -/
theorem Step.thread_extends {first second : Configuration Op Answer Exc Request Result State}
    (h : system.Step first second) : ∀ thread ∈ first.threads, ∃ thread' ∈ second.threads,
      thread'.request = thread.request ∧ ∃ more, thread'.history = thread.history ++ more := by
  cases h with
  | arrive shared threads request =>
    exact fun thread hthread ↦ ⟨thread, List.mem_append_left _ hthread, rfl, [], by simp⟩
  | call shared shared' before after request history op next answer hexec =>
    intro thread hthread
    rcases List.mem_append.mp hthread with hthread | hthread
    · exact ⟨thread, List.mem_append_left _ hthread, rfl, [], by simp⟩
    rcases List.mem_cons.mp hthread with rfl | hthread
    · exact ⟨⟨request, history ++ [⟨op, answer⟩], next answer⟩, by simp, rfl, _, rfl⟩
    · exact ⟨thread, by simp [hthread], rfl, [], by simp⟩
  | world shared shared' threads houtside =>
    exact fun thread hthread ↦ ⟨thread, hthread, rfl, [], by simp⟩

/-- What every answer of the shared state satisfies holds of every call made so far. -/
theorem Reachable.event_of_exec {P : Event Op Answer Exc → Prop}
    (hreach : system.Reachable initial config)
    (hexec : ∀ shared op answer shared', system.exec shared op answer shared' → P ⟨op, answer⟩) :
    ∀ thread ∈ config.threads, ∀ event ∈ thread.history, P event := by
  refine Reachable.invariant
    (fun config ↦ ∀ thread ∈ config.threads, ∀ event ∈ thread.history, P event) hreach
    (fun _ hthread ↦ absurd hthread List.not_mem_nil) ?_
  intro first second _ ih hstep
  cases hstep with
  | arrive shared threads request =>
    intro thread hthread
    rcases List.mem_append.mp hthread with hthread | hthread
    · exact ih thread hthread
    · rw [List.mem_singleton] at hthread
      subst hthread
      exact fun _ hevent ↦ absurd hevent List.not_mem_nil
  | call shared shared' before after request history op next answer hcall =>
    intro thread hthread
    rcases List.mem_append.mp hthread with hthread | hthread
    · exact ih thread (List.mem_append_left _ hthread)
    rcases List.mem_cons.mp hthread with rfl | hthread
    · intro event hevent
      rcases List.mem_append.mp hevent with hevent | hevent
      · exact ih ⟨request, history, .call op next⟩ (by simp) event hevent
      · rw [List.mem_singleton] at hevent
        subst hevent
        exact hexec _ _ _ _ hcall
    · exact ih thread (by simp [hthread])
  | world shared shared' threads houtside => exact ih

/-- The rest of the world may move several times while no request does. -/
theorem Reachable.worlds {shared shared' : State}
    {threads : List (Thread Op Answer Exc Request Result)}
    (hreach : system.Reachable initial ⟨shared, threads⟩)
    (hmoves : Relation.ReflTransGen system.outside shared shared') :
    system.Reachable initial ⟨shared', threads⟩ := by
  induction hmoves with
  | refl => exact hreach
  | tail _ hmove ih => exact ih.tail (.world _ _ threads hmove)

/-- The calls and answers `events` lead from one shared state to another. -/
inductive Execs (system : System Op Answer Exc Request Result State) :
    State → List (Event Op Answer Exc) → State → Prop
  | nil (shared : State) : Execs system shared [] shared
  | cons {shared shared' shared'' : State} {op : Op} {answer : Except Exc (Answer op)}
      {events : List (Event Op Answer Exc)} (hexec : system.exec shared op answer shared')
      (hrest : Execs system shared' events shared'') :
      Execs system shared (⟨op, answer⟩ :: events) shared''

/-- A pending request may make several calls in a row. -/
theorem Reachable.calls {shared shared' : State}
    {threads : List (Thread Op Answer Exc Request Result)} {request : Request}
    {history events : List (Event Op Answer Exc)} {p q : Program Op Answer Exc Result}
    (hreach : system.Reachable initial ⟨shared, threads ++ [⟨request, history, p⟩]⟩)
    (hafter : Program.After p events q) (hexecs : Execs system shared events shared') :
    system.Reachable initial ⟨shared', threads ++ [⟨request, history ++ events, q⟩]⟩ := by
  induction hafter generalizing shared history with
  | refl =>
    cases hexecs
    rw [List.append_nil]
    exact hreach
  | call op next answer events q _ ih =>
    cases hexecs with
    | cons hexec hrest =>
      have hnext := ih (hreach.tail (.call _ _ threads [] request history op next answer hexec)) hrest
      rw [List.append_assoc, List.singleton_append] at hnext
      exact hnext

/-- A request may arrive and make its calls while no other request moves. -/
theorem Reachable.serve {shared shared' : State}
    {threads : List (Thread Op Answer Exc Request Result)} {request : Request}
    {events : List (Event Op Answer Exc)} {q : Program Op Answer Exc Result}
    (hreach : system.Reachable initial ⟨shared, threads⟩)
    (hafter : Program.After (system.handler request) events q)
    (hexecs : Execs system shared events shared') :
    system.Reachable initial ⟨shared', threads ++ [⟨request, events, q⟩]⟩ :=
  Reachable.calls (hreach.tail (.arrive shared threads request)) hafter hexecs

end System

end SchemaPilot.Library
