import Mathlib.Data.Nat.Notation
import Mathlib.Tactic.Common

/-!
# Programs over an interface of operations

A request handler that reads databases, files and clocks and may raise is a tree: it ends with a
value or an exception (`done`), or it calls an operation and goes on with whatever the call
answered or raised (`call`). The answers are left open, so a statement about the tree is a statement
about every environment.

`andThen` is the one way two programs are put together; sequencing, `try … except` and
`try … finally` are instances of it. `After p events q` says that `p`, having met the calls and
answers `events`, is left with `q`, and `Run p events result` that it has ended. The two
decompositions `after_andThen_iff` and `run_andThen_iff` cut a history of a composed program at the
point where its first part ended. `Only P p` says that every operation `p` can still call
satisfies `P`, and `Calls P p n` that every complete run calls exactly `n` operations that do.
-/

namespace SchemaPilot.Library

/-- A program over the operations `Op`, whose call of `op` answers in `Answer op` or raises an
exception, and which itself returns an `α` or raises. -/
inductive Program (Op : Type) (Answer : Op → Type) (Exc : Type) (α : Type) where
  | done (result : Except Exc α)
  | call (op : Op) (next : Except Exc (Answer op) → Program Op Answer Exc α)

structure Event (Op : Type) (Answer : Op → Type) (Exc : Type) where
  op : Op
  answer : Except Exc (Answer op)

namespace Program

variable {Op : Type} {Answer : Op → Type} {Exc α β γ : Type}

/-- Run `p`, then the continuation of its outcome, be it a value or an exception. -/
def andThen (p : Program Op Answer Exc α) (next : Except Exc α → Program Op Answer Exc β) :
    Program Op Answer Exc β :=
  match p with
  | done result => next result
  | call op rest => call op fun answer ↦ (rest answer).andThen next

@[simp] theorem andThen_done (result : Except Exc α)
    (next : Except Exc α → Program Op Answer Exc β) :
    (done result : Program Op Answer Exc α).andThen next = next result := rfl

@[simp] theorem andThen_call (op : Op) (rest : Except Exc (Answer op) → Program Op Answer Exc α)
    (next : Except Exc α → Program Op Answer Exc β) :
    (call op rest).andThen next = call op fun answer ↦ (rest answer).andThen next := rfl

def ret (value : α) : Program Op Answer Exc α := done (.ok value)

def raise (exception : Exc) : Program Op Answer Exc α := done (.error exception)

/-- The outcome of a pure computation that may raise. -/
def ofExcept (result : Except Exc α) : Program Op Answer Exc α := done result

/-- Call one operation; an exception it raises is passed on. -/
def perform (op : Op) : Program Op Answer Exc (Answer op) := call op done

/-- Sequencing: the second program runs on the value of the first, an exception is passed on. -/
def bind (p : Program Op Answer Exc α) (next : α → Program Op Answer Exc β) :
    Program Op Answer Exc β :=
  p.andThen fun
    | .ok value => next value
    | .error exception => raise exception

instance : Monad (Program Op Answer Exc) where
  pure := ret
  bind := bind

/-- `try p except handler`. -/
def tryExcept (p : Program Op Answer Exc α) (handler : Exc → Program Op Answer Exc α) :
    Program Op Answer Exc α :=
  p.andThen fun
    | .ok value => ret value
    | .error exception => handler exception

/-- `try p finally cleanup`: the cleanup runs on both outcomes, and an exception of its own
replaces the outcome. -/
def tryFinally (p : Program Op Answer Exc α) (cleanup : Program Op Answer Exc Unit) :
    Program Op Answer Exc α :=
  p.andThen fun result ↦ cleanup.andThen fun
    | .ok _ => done result
    | .error exception => raise exception

theorem pure_eq (value : α) : (pure value : Program Op Answer Exc α) = done (.ok value) := rfl

theorem bind_eq (p : Program Op Answer Exc α) (next : α → Program Op Answer Exc β) :
    (p >>= next) = p.andThen fun
      | .ok value => next value
      | .error exception => raise exception := rfl

/-! ### Histories -/

/-- `After p events q`: the calls and answers `events` lead from `p` to `q`. -/
inductive After : Program Op Answer Exc α → List (Event Op Answer Exc) →
    Program Op Answer Exc α → Prop
  | refl (p : Program Op Answer Exc α) : After p [] p
  | call (op : Op) (next : Except Exc (Answer op) → Program Op Answer Exc α)
      (answer : Except Exc (Answer op)) (events : List (Event Op Answer Exc))
      (q : Program Op Answer Exc α) (rest : After (next answer) events q) :
      After (.call op next) (⟨op, answer⟩ :: events) q

/-- `Run p events result`: the calls and answers `events` lead `p` to its end. -/
def Run (p : Program Op Answer Exc α) (events : List (Event Op Answer Exc))
    (result : Except Exc α) : Prop := After p events (done result)

@[simp] theorem after_done_iff (result : Except Exc α) (events : List (Event Op Answer Exc))
    (q : Program Op Answer Exc α) :
    After (done result) events q ↔ events = [] ∧ q = done result := by
  constructor
  · intro h
    cases h
    exact ⟨rfl, rfl⟩
  · rintro ⟨rfl, rfl⟩
    exact .refl _

@[simp] theorem run_done_iff (result final : Except Exc α) (events : List (Event Op Answer Exc)) :
    Run (done result) events final ↔ events = [] ∧ final = result := by
  simp [Run]

/-- A history of a call either has not begun or starts with that call. -/
theorem after_call_iff (op : Op) (next : Except Exc (Answer op) → Program Op Answer Exc α)
    (events : List (Event Op Answer Exc)) (q : Program Op Answer Exc α) :
    After (call op next) events q ↔ (events = [] ∧ q = call op next) ∨
      ∃ answer rest, events = ⟨op, answer⟩ :: rest ∧ After (next answer) rest q := by
  constructor
  · intro h
    cases h with
    | refl => exact Or.inl ⟨rfl, rfl⟩
    | call _ _ answer rest _ hrest => exact Or.inr ⟨answer, rest, rfl, hrest⟩
  · rintro (⟨rfl, rfl⟩ | ⟨answer, rest, rfl, hrest⟩)
    · exact .refl _
    · exact .call _ _ _ _ _ hrest

theorem run_call_iff (op : Op) (next : Except Exc (Answer op) → Program Op Answer Exc α)
    (events : List (Event Op Answer Exc)) (result : Except Exc α) :
    Run (call op next) events result ↔
      ∃ answer rest, events = ⟨op, answer⟩ :: rest ∧ Run (next answer) rest result := by
  simp [Run, after_call_iff]

/-- Histories compose. -/
theorem After.append {p q r : Program Op Answer Exc α} {first second : List (Event Op Answer Exc)}
    (hfirst : After p first q) (hsecond : After q second r) : After p (first ++ second) r := by
  induction hfirst with
  | refl => exact hsecond
  | call op next answer events q _ ih => exact .call op next answer _ r (ih hsecond)

/-- One more answer prolongs a history. -/
theorem After.snoc {p : Program Op Answer Exc α} {events : List (Event Op Answer Exc)} {op : Op}
    {next : Except Exc (Answer op) → Program Op Answer Exc α} (h : After p events (.call op next))
    (answer : Except Exc (Answer op)) : After p (events ++ [⟨op, answer⟩]) (next answer) :=
  h.append (.call op next answer [] _ (.refl _))

/-- A history of `p.andThen next` is a history of `p` that has not ended, or a run of `p` followed
by a history of the continuation of its outcome. -/
theorem after_andThen_iff (p : Program Op Answer Exc α)
    (next : Except Exc α → Program Op Answer Exc β) (events : List (Event Op Answer Exc))
    (q : Program Op Answer Exc β) :
    After (p.andThen next) events q ↔
      (∃ op rest, After p events (call op rest) ∧
        q = call op fun answer ↦ (rest answer).andThen next) ∨
      ∃ first second result, events = first ++ second ∧ Run p first result ∧
        After (next result) second q := by
  induction p generalizing events with
  | done result =>
    simp only [andThen_done, after_done_iff, run_done_iff, reduceCtorEq, and_false, false_and,
      exists_false, false_or]
    constructor
    · intro h
      exact ⟨[], events, result, rfl, ⟨rfl, rfl⟩, h⟩
    · rintro ⟨_, second, _, rfl, ⟨rfl, rfl⟩, h⟩
      exact h
  | call op rest ih =>
    rw [andThen_call, after_call_iff]
    constructor
    · rintro (⟨rfl, rfl⟩ | ⟨answer, tail, rfl, htail⟩)
      · exact Or.inl ⟨op, rest, .refl _, rfl⟩
      · rcases (ih answer tail).mp htail with ⟨op', rest', hafter, rfl⟩ |
          ⟨first, second, result, rfl, hrun, hafter⟩
        · exact Or.inl ⟨op', rest', .call _ _ _ _ _ hafter, rfl⟩
        · exact Or.inr ⟨_ :: first, second, result, rfl, .call _ _ _ _ _ hrun, hafter⟩
    · rintro (⟨op', rest', hafter, rfl⟩ | ⟨first, second, result, rfl, hrun, hafter⟩)
      · rcases (after_call_iff _ _ _ _).mp hafter with ⟨rfl, heq⟩ | ⟨answer, tail, rfl, htail⟩
        · cases heq
          exact Or.inl ⟨rfl, rfl⟩
        · exact Or.inr ⟨answer, tail, rfl, (ih answer tail).mpr (Or.inl ⟨op', rest', htail, rfl⟩)⟩
      · obtain ⟨answer, tail, rfl, htail⟩ := (run_call_iff _ _ _ _).mp hrun
        exact Or.inr ⟨answer, tail ++ second, rfl,
          (ih answer _).mpr (Or.inr ⟨tail, second, result, rfl, htail, hafter⟩)⟩

/-- A run of `p.andThen next` is a run of `p` followed by a run of the continuation. -/
theorem run_andThen_iff (p : Program Op Answer Exc α)
    (next : Except Exc α → Program Op Answer Exc β) (events : List (Event Op Answer Exc))
    (final : Except Exc β) :
    Run (p.andThen next) events final ↔
      ∃ first second result, events = first ++ second ∧ Run p first result ∧
        Run (next result) second final := by
  rw [Run, after_andThen_iff]
  simp only [reduceCtorEq, and_false, exists_false, false_or]
  rfl

@[simp] theorem run_perform_iff (op : Op) (events : List (Event Op Answer Exc))
    (result : Except Exc (Answer op)) :
    Run (perform op) events result ↔ events = [⟨op, result⟩] := by
  rw [perform, run_call_iff]
  constructor
  · rintro ⟨answer, rest, rfl, hrest⟩
    obtain ⟨rfl, rfl⟩ := (run_done_iff _ _ _).mp hrest
    rfl
  · rintro rfl
    exact ⟨result, [], rfl, (run_done_iff _ _ _).mpr ⟨rfl, rfl⟩⟩

/-- A run of a sequence is a run of the first part that failed, or one that succeeded followed by a
run of the second part. -/
theorem run_bind_iff (p : Program Op Answer Exc α) (next : α → Program Op Answer Exc β)
    (events : List (Event Op Answer Exc)) (final : Except Exc β) :
    Run (p >>= next) events final ↔
      (∃ exception, Run p events (.error exception) ∧ final = .error exception) ∨
      ∃ first second value, events = first ++ second ∧ Run p first (.ok value) ∧
        Run (next value) second final := by
  rw [bind_eq, run_andThen_iff]
  constructor
  · rintro ⟨first, second, result, rfl, hfirst, hsecond⟩
    cases result with
    | ok value => exact Or.inr ⟨first, second, value, rfl, hfirst, hsecond⟩
    | error exception =>
      obtain ⟨rfl, rfl⟩ := (run_done_iff _ _ _).mp hsecond
      rw [List.append_nil]
      exact Or.inl ⟨exception, hfirst, rfl⟩
  · rintro (⟨exception, hrun, rfl⟩ | ⟨first, second, value, rfl, hfirst, hsecond⟩)
    · exact ⟨events, [], _, (List.append_nil _).symm, hrun, .refl _⟩
    · exact ⟨first, second, _, rfl, hfirst, hsecond⟩

/-- A history of a sequence has not left its first part, or is a run of the first part that failed,
or one that succeeded followed by a history of the second part. -/
theorem after_bind_iff (p : Program Op Answer Exc α) (next : α → Program Op Answer Exc β)
    (events : List (Event Op Answer Exc)) (q : Program Op Answer Exc β) :
    After (p >>= next) events q ↔
      (∃ op rest, After p events (call op rest) ∧ q = (call op rest >>= next)) ∨
      (∃ exception, Run p events (.error exception) ∧ q = done (.error exception)) ∨
      ∃ first second value, events = first ++ second ∧ Run p first (.ok value) ∧
        After (next value) second q := by
  rw [bind_eq, after_andThen_iff]
  constructor
  · rintro (hfirst | ⟨first, second, result, rfl, hfirst, hsecond⟩)
    · exact Or.inl hfirst
    · cases result with
      | ok value => exact Or.inr (Or.inr ⟨first, second, value, rfl, hfirst, hsecond⟩)
      | error exception =>
        obtain ⟨rfl, rfl⟩ := (after_done_iff _ _ _).mp hsecond
        rw [List.append_nil]
        exact Or.inr (Or.inl ⟨exception, hfirst, rfl⟩)
  · rintro (hfirst | ⟨exception, hrun, rfl⟩ | ⟨first, second, value, rfl, hfirst, hsecond⟩)
    · exact Or.inl hfirst
    · exact Or.inr ⟨events, [], _, (List.append_nil _).symm, hrun, .refl _⟩
    · exact Or.inr ⟨first, second, _, rfl, hfirst, hsecond⟩

/-- A sequence has not ended while its first part has a call to make. -/
theorem call_bind_ne_done (op : Op) (rest : Except Exc (Answer op) → Program Op Answer Exc α)
    (next : α → Program Op Answer Exc β) (result : Except Exc β) :
    (call op rest >>= next) ≠ done result := by
  rw [bind_eq, andThen_call]
  simp

theorem after_of_bind_pure {p : Program Op Answer Exc α} {convert : α → β}
    {events : List (Event Op Answer Exc)} {q : Program Op Answer Exc β}
    (h : After (p >>= fun value ↦ pure (convert value)) events q) :
    ∃ q', After p events q' ∧ ((∃ result, q = done result) → ∃ result, q' = done result) := by
  rcases (after_bind_iff _ _ _ _).mp h with ⟨op, rest, hfirst, rfl⟩ | ⟨exception, hfirst, rfl⟩ |
    ⟨first, second, value, rfl, hfirst, hpure⟩
  · exact ⟨_, hfirst, fun ⟨result, hdone⟩ ↦ absurd hdone (call_bind_ne_done _ _ _ _)⟩
  · exact ⟨_, hfirst, fun _ ↦ ⟨_, rfl⟩⟩
  · obtain ⟨rfl, -⟩ := (after_done_iff _ _ _).mp hpure
    rw [List.append_nil]
    exact ⟨_, hfirst, fun _ ↦ ⟨_, rfl⟩⟩

theorem run_of_bind_pure {p : Program Op Answer Exc α} {convert : α → β}
    {events : List (Event Op Answer Exc)} {final : Except Exc β}
    (h : Run (p >>= fun value ↦ pure (convert value)) events final) :
    ∃ result, Run p events result ∧ final = result.map convert := by
  rcases (run_bind_iff _ _ _ _).mp h with ⟨exception, hrun, rfl⟩ |
    ⟨first, second, value, rfl, hrun, hpure⟩
  · exact ⟨_, hrun, rfl⟩
  · obtain ⟨rfl, rfl⟩ := (run_done_iff _ _ _).mp hpure
    rw [List.append_nil]
    exact ⟨_, hrun, rfl⟩

/-- A run of a call followed by a program. -/
theorem run_perform_bind_iff (op : Op) (next : Answer op → Program Op Answer Exc β)
    (events : List (Event Op Answer Exc)) (final : Except Exc β) :
    Run (perform op >>= next) events final ↔
      (∃ exception, events = [⟨op, .error exception⟩] ∧ final = .error exception) ∨
      ∃ value rest, events = ⟨op, .ok value⟩ :: rest ∧ Run (next value) rest final := by
  rw [run_bind_iff]
  simp only [run_perform_iff]
  constructor
  · rintro (⟨exception, rfl, rfl⟩ | ⟨first, second, value, rfl, rfl, hnext⟩)
    · exact Or.inl ⟨exception, rfl, rfl⟩
    · exact Or.inr ⟨value, second, rfl, hnext⟩
  · rintro (⟨exception, rfl, rfl⟩ | ⟨value, rest, rfl, hnext⟩)
    · exact Or.inl ⟨exception, rfl, rfl⟩
    · exact Or.inr ⟨_, rest, value, rfl, rfl, hnext⟩

/-- A history of a call followed by a program. -/
theorem after_perform_bind_iff (op : Op) (next : Answer op → Program Op Answer Exc β)
    (events : List (Event Op Answer Exc)) (q : Program Op Answer Exc β) :
    After (perform op >>= next) events q ↔
      (events = [] ∧ q = (perform op >>= next)) ∨
      (∃ exception, events = [⟨op, .error exception⟩] ∧ q = done (.error exception)) ∨
      ∃ value rest, events = ⟨op, .ok value⟩ :: rest ∧ After (next value) rest q := by
  have hcall : (perform op >>= next) = call op fun answer ↦
      (done answer : Program Op Answer Exc (Answer op)) >>= next := rfl
  rw [hcall, after_call_iff]
  constructor
  · rintro (hnone | ⟨answer, rest, rfl, hrest⟩)
    · exact Or.inl hnone
    · cases answer with
      | ok value => exact Or.inr (Or.inr ⟨value, rest, rfl, hrest⟩)
      | error exception =>
        obtain ⟨rfl, rfl⟩ := (after_done_iff _ _ _).mp hrest
        exact Or.inr (Or.inl ⟨exception, rfl, rfl⟩)
  · rintro (hnone | ⟨exception, rfl, rfl⟩ | ⟨value, rest, rfl, hrest⟩)
    · exact Or.inl hnone
    · exact Or.inr ⟨_, [], rfl, .refl _⟩
    · exact Or.inr ⟨_, rest, rfl, hrest⟩

theorem run_ofExcept_bind_iff (value : Except Exc α) (next : α → Program Op Answer Exc β)
    (events : List (Event Op Answer Exc)) (final : Except Exc β) :
    Run (ofExcept value >>= next) events final ↔
      (∃ exception, value = .error exception ∧ events = [] ∧ final = .error exception) ∨
      ∃ a, value = .ok a ∧ Run (next a) events final := by
  cases value with
  | ok a =>
    constructor
    · intro h
      exact Or.inr ⟨a, rfl, h⟩
    · rintro (⟨_, h, _⟩ | ⟨b, h, hnext⟩)
      · cases h
      · cases h
        exact hnext
  | error exception =>
    constructor
    · intro h
      obtain ⟨rfl, rfl⟩ := (run_done_iff _ _ _).mp h
      exact Or.inl ⟨exception, rfl, rfl, rfl⟩
    · rintro (⟨_, h, rfl, rfl⟩ | ⟨_, h, _⟩)
      · cases h
        exact .refl _
      · cases h

@[simp] theorem run_pure_iff (value : α) (events : List (Event Op Answer Exc))
    (final : Except Exc α) :
    Run (pure value : Program Op Answer Exc α) events final ↔
      events = [] ∧ final = .ok value := run_done_iff _ _ _

@[simp] theorem run_raise_iff (exception : Exc) (events : List (Event Op Answer Exc))
    (final : Except Exc α) :
    Run (raise exception : Program Op Answer Exc α) events final ↔
      events = [] ∧ final = .error exception := run_done_iff _ _ _

/-- A sequence that returns has returned from its first part. -/
theorem Run.bind_ok {p : Program Op Answer Exc α} {next : α → Program Op Answer Exc β}
    {events : List (Event Op Answer Exc)} {final : β} (h : Run (p >>= next) events (.ok final)) :
    ∃ first second value, events = first ++ second ∧ Run p first (.ok value) ∧
      Run (next value) second (.ok final) := by
  rcases (run_bind_iff _ _ _ _).mp h with ⟨_, -, hfalse⟩ | hnext
  · cases hfalse
  · exact hnext

theorem Run.perform_ok {op : Op} {next : Answer op → Program Op Answer Exc β}
    {events : List (Event Op Answer Exc)} {final : β} (h : Run (perform op >>= next) events (.ok final)) :
    ∃ value rest, events = ⟨op, .ok value⟩ :: rest ∧ Run (next value) rest (.ok final) := by
  rcases (run_perform_bind_iff _ _ _ _).mp h with ⟨_, -, hfalse⟩ | hnext
  · cases hfalse
  · exact hnext

theorem Run.ofExcept_ok {value : Except Exc α} {next : α → Program Op Answer Exc β}
    {events : List (Event Op Answer Exc)} {final : β} (h : Run (ofExcept value >>= next) events (.ok final)) :
    ∃ a, value = .ok a ∧ Run (next a) events (.ok final) := by
  rcases (run_ofExcept_bind_iff _ _ _ _).mp h with ⟨_, -, -, hfalse⟩ | hnext
  · cases hfalse
  · exact hnext

theorem Run.not_raise {exception : Exc} {events : List (Event Op Answer Exc)} {value : α} :
    ¬Run (raise exception : Program Op Answer Exc α) events (.ok value) := by
  intro h
  cases ((run_raise_iff _ _ _).mp h).2

theorem run_tryExcept_iff (p : Program Op Answer Exc α) (handler : Exc → Program Op Answer Exc α)
    (events : List (Event Op Answer Exc)) (final : Except Exc α) :
    Run (p.tryExcept handler) events final ↔
      (∃ value, Run p events (.ok value) ∧ final = .ok value) ∨
      ∃ first second exception, events = first ++ second ∧ Run p first (.error exception) ∧
        Run (handler exception) second final := by
  rw [tryExcept, run_andThen_iff]
  constructor
  · rintro ⟨first, second, result, rfl, hfirst, hsecond⟩
    cases result with
    | ok value =>
      obtain ⟨rfl, rfl⟩ := (run_done_iff _ _ _).mp hsecond
      rw [List.append_nil]
      exact Or.inl ⟨value, hfirst, rfl⟩
    | error exception => exact Or.inr ⟨first, second, exception, rfl, hfirst, hsecond⟩
  · rintro (⟨value, hrun, rfl⟩ | ⟨first, second, exception, rfl, hfirst, hsecond⟩)
    · exact ⟨events, [], _, (List.append_nil _).symm, hrun, .refl _⟩
    · exact ⟨first, second, _, rfl, hfirst, hsecond⟩

/-- A value behind `try … finally` is one of the first part, the cleanup having succeeded. -/
theorem run_tryFinally_ok {p : Program Op Answer Exc α} {cleanup : Program Op Answer Exc Unit}
    {events : List (Event Op Answer Exc)} {value : α}
    (h : Run (p.tryFinally cleanup) events (.ok value)) :
    ∃ first second, events = first ++ second ∧ Run p first (.ok value) ∧
      Run cleanup second (.ok ()) := by
  obtain ⟨first, rest, result, rfl, hfirst, hrest⟩ := (run_andThen_iff _ _ _ _).mp h
  obtain ⟨second, last, outcome, rfl, hsecond, hlast⟩ := (run_andThen_iff _ _ _ _).mp hrest
  cases outcome with
  | ok _ =>
    obtain ⟨rfl, heq⟩ := (run_done_iff _ _ _).mp hlast
    rw [← heq] at hfirst
    exact ⟨first, second, by rw [List.append_nil], hfirst, hsecond⟩
  | error exception =>
    obtain ⟨-, heq⟩ := (run_done_iff _ _ _).mp hlast
    cases heq

/-! ### The operations a program can call -/

/-- Every operation that `p` can still call satisfies `P`, whatever the calls answer. -/
def Only (P : Op → Prop) : Program Op Answer Exc α → Prop
  | done _ => True
  | call op next => P op ∧ ∀ answer, Only P (next answer)

@[simp] theorem only_done (P : Op → Prop) (result : Except Exc α) :
    Only P (done result : Program Op Answer Exc α) := trivial

@[simp] theorem only_call (P : Op → Prop) (op : Op)
    (next : Except Exc (Answer op) → Program Op Answer Exc α) :
    Only P (call op next) ↔ P op ∧ ∀ answer, Only P (next answer) := Iff.rfl

@[simp] theorem only_ret (P : Op → Prop) (value : α) :
    Only P (ret value : Program Op Answer Exc α) := trivial

@[simp] theorem only_raise (P : Op → Prop) (exception : Exc) :
    Only P (raise exception : Program Op Answer Exc α) := trivial

@[simp] theorem only_ofExcept (P : Op → Prop) (result : Except Exc α) :
    Only P (ofExcept result : Program Op Answer Exc α) := trivial

@[simp] theorem only_perform (P : Op → Prop) (op : Op) :
    Only P (perform op : Program Op Answer Exc (Answer op)) ↔ P op := by
  simp [perform]

theorem Only.andThen {P : Op → Prop} {p : Program Op Answer Exc α}
    {next : Except Exc α → Program Op Answer Exc β} (hp : Only P p)
    (hnext : ∀ result, Only P (next result)) : Only P (p.andThen next) := by
  induction p with
  | done result => exact hnext result
  | call op rest ih => exact ⟨hp.1, fun answer ↦ ih answer (hp.2 answer)⟩

theorem Only.bind {P : Op → Prop} {p : Program Op Answer Exc α}
    {next : α → Program Op Answer Exc β} (hp : Only P p) (hnext : ∀ value, Only P (next value)) :
    Only P (p >>= next) := by
  rw [bind_eq]
  refine hp.andThen fun result ↦ ?_
  cases result with
  | ok value => exact hnext value
  | error exception => exact only_raise P exception

theorem Only.tryExcept {P : Op → Prop} {p : Program Op Answer Exc α}
    {handler : Exc → Program Op Answer Exc α} (hp : Only P p)
    (hhandler : ∀ exception, Only P (handler exception)) : Only P (p.tryExcept handler) := by
  refine hp.andThen fun result ↦ ?_
  cases result with
  | ok value => exact only_ret P value
  | error exception => exact hhandler exception

theorem Only.tryFinally {P : Op → Prop} {p : Program Op Answer Exc α}
    {cleanup : Program Op Answer Exc Unit} (hp : Only P p) (hcleanup : Only P cleanup) :
    Only P (p.tryFinally cleanup) := by
  refine hp.andThen fun result ↦ hcleanup.andThen fun outcome ↦ ?_
  cases outcome with
  | ok value => exact only_done P result
  | error exception => exact only_raise P exception

theorem Only.ite {P : Op → Prop} {guard : Prop} [Decidable guard] {p q : Program Op Answer Exc α}
    (hp : guard → Only P p) (hq : ¬guard → Only P q) : Only P (if guard then p else q) := by
  by_cases h : guard
  · rw [if_pos h]
    exact hp h
  · rw [if_neg h]
    exact hq h

theorem Only.mono {P Q : Op → Prop} (hPQ : ∀ op, P op → Q op) {p : Program Op Answer Exc α}
    (hp : Only P p) : Only Q p := by
  induction p with
  | done result => trivial
  | call op next ih => exact ⟨hPQ op hp.1, fun answer ↦ ih answer (hp.2 answer)⟩

/-- The calls of a history satisfy what every call of the program satisfies, and so do the calls
still to come. -/
theorem Only.after {P : Op → Prop} {p q : Program Op Answer Exc α}
    {events : List (Event Op Answer Exc)} (hp : Only P p) (h : After p events q) :
    (∀ event ∈ events, P event.op) ∧ Only P q := by
  induction h with
  | refl => exact ⟨fun _ hevent ↦ absurd hevent List.not_mem_nil, hp⟩
  | call op next answer events q _ ih =>
    obtain ⟨hevents, hq⟩ := ih (hp.2 answer)
    exact ⟨List.forall_mem_cons.mpr ⟨hp.1, hevents⟩, hq⟩

/-! ### Counting calls -/

/-- `Calls P p n`: every complete run of `p` calls exactly `n` operations that satisfy `P`. -/
def Calls (P : Op → Prop) : Program Op Answer Exc α → ℕ → Prop
  | done _, n => n = 0
  | call op next, n =>
    (¬P op ∧ ∀ answer, Calls P (next answer) n) ∨
      (P op ∧ ∃ m, n = m + 1 ∧ ∀ answer, Calls P (next answer) m)

@[simp] theorem calls_done_iff {P : Op → Prop} {result : Except Exc α} {n : ℕ} :
    Calls P (done result : Program Op Answer Exc α) n ↔ n = 0 := Iff.rfl

theorem calls_perform {P : Op → Prop} {op : Op} (h : P op) :
    Calls P (perform op : Program Op Answer Exc (Answer op)) 1 :=
  Or.inr ⟨h, 0, rfl, fun _ ↦ rfl⟩

theorem Only.calls {P : Op → Prop} {p : Program Op Answer Exc α} (h : Only (fun op ↦ ¬P op) p) :
    Calls P p 0 := by
  induction p with
  | done result => rfl
  | call op next ih => exact Or.inl ⟨h.1, fun answer ↦ ih answer (h.2 answer)⟩

/-- The calls of a composed program add up when the continuation makes equally many on every
outcome. -/
theorem Calls.andThen {P : Op → Prop} {p : Program Op Answer Exc α}
    {next : Except Exc α → Program Op Answer Exc β} {n k : ℕ} (hp : Calls P p n)
    (hnext : ∀ result, Calls P (next result) k) : Calls P (p.andThen next) (n + k) := by
  induction p generalizing n with
  | done result =>
    have hzero : n = 0 := hp
    rw [hzero, Nat.zero_add]
    exact hnext result
  | call op rest ih =>
    rcases hp with ⟨hop, hrest⟩ | ⟨hop, m, rfl, hrest⟩
    · exact Or.inl ⟨hop, fun answer ↦ ih answer (hrest answer)⟩
    · exact Or.inr ⟨hop, m + k, by omega, fun answer ↦ ih answer (hrest answer)⟩

theorem Calls.bind {P : Op → Prop} {p : Program Op Answer Exc α}
    {next : α → Program Op Answer Exc β} {n : ℕ} (hp : Calls P p n)
    (hnext : ∀ value, Calls P (next value) 0) : Calls P (p >>= next) n := by
  rw [bind_eq]
  refine Calls.andThen (k := 0) hp fun result ↦ ?_
  cases result with
  | ok value => exact hnext value
  | error exception => exact rfl

theorem Calls.tryFinally {P : Op → Prop} {p : Program Op Answer Exc α}
    {cleanup : Program Op Answer Exc Unit} {n k : ℕ} (hp : Calls P p n)
    (hcleanup : Calls P cleanup k) : Calls P (p.tryFinally cleanup) (n + k) := by
  refine Calls.andThen hp fun result ↦ Calls.andThen (k := 0) hcleanup fun outcome ↦ ?_
  cases outcome with
  | ok value => exact rfl
  | error exception => exact rfl

/-- The calls made in a history and those of the program it leads to add up. -/
theorem Calls.after {P : Op → Prop} [DecidablePred P] {p q : Program Op Answer Exc α}
    {events : List (Event Op Answer Exc)} {n : ℕ} (hp : Calls P p n) (h : After p events q) :
    ∃ m, n = events.countP (fun event ↦ P event.op) + m ∧ Calls P q m := by
  induction h generalizing n with
  | refl => exact ⟨n, by simp, hp⟩
  | call op next answer events q _ ih =>
    rcases hp with ⟨hop, hnext⟩ | ⟨hop, m, rfl, hnext⟩
    · obtain ⟨k, hk, hq⟩ := ih (hnext answer)
      exact ⟨k, by simp [hop, hk], hq⟩
    · obtain ⟨k, hk, hq⟩ := ih (hnext answer)
      refine ⟨k, ?_, hq⟩
      rw [List.countP_cons_of_pos (by simpa using hop), hk]
      omega

/-! ### Deterministic environments -/

/-- The outcome of a program in an environment that answers each operation in one way. -/
def eval (answers : (op : Op) → Except Exc (Answer op)) :
    Program Op Answer Exc α → Except Exc α
  | done result => result
  | call op next => eval answers (next (answers op))

@[simp] theorem eval_done (answers : (op : Op) → Except Exc (Answer op)) (result : Except Exc α) :
    eval answers (done result) = result := rfl

@[simp] theorem eval_call (answers : (op : Op) → Except Exc (Answer op)) (op : Op)
    (next : Except Exc (Answer op) → Program Op Answer Exc α) :
    eval answers (call op next) = eval answers (next (answers op)) := rfl

@[simp] theorem eval_andThen (answers : (op : Op) → Except Exc (Answer op))
    (p : Program Op Answer Exc α) (next : Except Exc α → Program Op Answer Exc β) :
    eval answers (p.andThen next) = eval answers (next (eval answers p)) := by
  induction p with
  | done result => rfl
  | call op rest ih => exact ih (answers op)

@[simp] theorem eval_perform (answers : (op : Op) → Except Exc (Answer op)) (op : Op) :
    eval answers (perform op) = answers op := rfl

theorem eval_bind (answers : (op : Op) → Except Exc (Answer op))
    (p : Program Op Answer Exc α) (next : α → Program Op Answer Exc β) :
    eval answers (p >>= next) = (eval answers p).bind fun value ↦ eval answers (next value) := by
  rw [bind_eq, eval_andThen]
  cases eval answers p <;> rfl

theorem eval_ofExcept (answers : (op : Op) → Except Exc (Answer op)) (result : Except Exc α) :
    eval answers (ofExcept result) = result := rfl

/-- A handler has no part in a program that succeeds. -/
theorem eval_tryExcept_ok {answers : (op : Op) → Except Exc (Answer op)}
    {p : Program Op Answer Exc α} {value : α} (h : eval answers p = .ok value)
    (handler : Exc → Program Op Answer Exc α) : eval answers (p.tryExcept handler) = .ok value := by
  rw [tryExcept, eval_andThen, h]
  rfl

/-- Environments that answer what a program can call alike give it the same outcome. -/
theorem eval_congr {answers answers' : (op : Op) → Except Exc (Answer op)}
    {p : Program Op Answer Exc α} (hp : Only (fun op ↦ answers op = answers' op) p) :
    eval answers p = eval answers' p := by
  induction p with
  | done result => rfl
  | call op next ih =>
    rw [eval_call, eval_call, ← hp.1]
    exact ih (answers op) (hp.2 (answers op))

/-- The calls a program makes in such an environment. -/
def history (answers : (op : Op) → Except Exc (Answer op)) :
    Program Op Answer Exc α → List (Event Op Answer Exc)
  | done _ => []
  | call op next => ⟨op, answers op⟩ :: history answers (next (answers op))

theorem run_history (answers : (op : Op) → Except Exc (Answer op)) (p : Program Op Answer Exc α) :
    Run p (history answers p) (eval answers p) := by
  induction p with
  | done result => exact .refl _
  | call op next ih => exact .call op next _ _ _ (ih (answers op))

theorem answer_of_mem_history {answers : (op : Op) → Except Exc (Answer op)}
    {p : Program Op Answer Exc α} {event : Event Op Answer Exc} (h : event ∈ history answers p) :
    event.answer = answers event.op := by
  induction p with
  | done result => exact absurd h List.not_mem_nil
  | call op next ih =>
    rcases List.mem_cons.mp h with rfl | hrest
    · rfl
    · exact ih _ hrest

/-- The first calls a program makes in such an environment, and the program they leave. -/
def advance (answers : (op : Op) → Except Exc (Answer op)) :
    ℕ → Program Op Answer Exc α → List (Event Op Answer Exc) × Program Op Answer Exc α
  | 0, p => ([], p)
  | _ + 1, done result => ([], done result)
  | n + 1, call op next =>
    let rest := advance answers n (next (answers op))
    (⟨op, answers op⟩ :: rest.1, rest.2)

theorem after_advance (answers : (op : Op) → Except Exc (Answer op)) (n : ℕ)
    (p : Program Op Answer Exc α) : After p (advance answers n p).1 (advance answers n p).2 := by
  induction n generalizing p with
  | zero => exact .refl _
  | succ n ih =>
    cases p with
    | done result => exact .refl _
    | call op next => exact .call op next _ _ _ (ih (next (answers op)))

attribute [irreducible] Only Calls

end Program

end SchemaPilot.Library
