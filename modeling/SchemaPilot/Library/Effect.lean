import Mathlib.Tactic.Common

/-!
# Computations on a state that may raise

An `Effect` ends with a value or an exception, and what it did to the state stays done in both
cases. Two notions compose along programs: `Keeps part p` says that `p` leaves a part of the state
as it was, on every outcome, and `Raises P p` that every exception `p` ends with satisfies `P`.
`within` runs a computation on one part of a larger state.
-/

namespace SchemaPilot.Library

/-- A computation on the states `σ` that returns an `α` or raises an `ε`. -/
def Effect (σ ε α : Type) : Type := σ → Except ε α × σ

namespace Effect

variable {σ τ ε α β γ : Type}

def ret (value : α) : Effect σ ε α := fun state ↦ (.ok value, state)

def raise (exception : ε) : Effect σ ε α := fun state ↦ (.error exception, state)

/-- The outcome of a pure computation that may raise. -/
def ofExcept (result : Except ε α) : Effect σ ε α := fun state ↦ (result, state)

def read : Effect σ ε σ := fun state ↦ (.ok state, state)

def change (f : σ → σ) : Effect σ ε Unit := fun state ↦ (.ok (), f state)

/-- Run `p`, then the continuation of its outcome. -/
def andThen (p : Effect σ ε α) (next : Except ε α → Effect σ ε β) : Effect σ ε β :=
  fun state ↦ next (p state).1 (p state).2

/-- Sequencing: an exception is passed on. -/
def bind (p : Effect σ ε α) (next : α → Effect σ ε β) : Effect σ ε β :=
  p.andThen fun
    | .ok value => next value
    | .error exception => raise exception

instance : Monad (Effect σ ε) where
  pure := ret
  bind := bind

/-- `try p except handler`. -/
def tryExcept (p : Effect σ ε α) (handler : ε → Effect σ ε α) : Effect σ ε α :=
  p.andThen fun
    | .ok value => ret value
    | .error exception => handler exception

/-- `if condition: p`. -/
def onlyIf (condition : Prop) [Decidable condition] (p : Effect σ ε Unit) : Effect σ ε Unit :=
  if condition then p else pure ()

/-- Run a computation on one part of the state. -/
def within (get : σ → τ) (put : τ → σ → σ) (p : Effect τ ε α) : Effect σ ε α :=
  fun state ↦ ((p (get state)).1, put (p (get state)).2 state)

/-! ### Runs -/

@[simp] theorem pure_apply (value : α) (state : σ) :
    (pure value : Effect σ ε α) state = (.ok value, state) := rfl

@[simp] theorem raise_apply (exception : ε) (state : σ) :
    (raise exception : Effect σ ε α) state = (.error exception, state) := rfl

@[simp] theorem ofExcept_apply (result : Except ε α) (state : σ) :
    (ofExcept result : Effect σ ε α) state = (result, state) := rfl

@[simp] theorem read_apply (state : σ) : (read : Effect σ ε σ) state = (.ok state, state) := rfl

@[simp] theorem change_apply (f : σ → σ) (state : σ) :
    (change f : Effect σ ε Unit) state = (.ok (), f state) := rfl

theorem bind_apply (p : Effect σ ε α) (next : α → Effect σ ε β) (state : σ) :
    (p >>= next) state = match p state with
      | (.ok value, after) => next value after
      | (.error exception, after) => (.error exception, after) := by
  change (match (p state).1 with
    | .ok value => next value
    | .error exception => raise exception) (p state).2 = _
  rcases p state with ⟨_ | _, after⟩ <;> rfl

theorem bind_assoc (p : Effect σ ε α) (next : α → Effect σ ε β) (last : β → Effect σ ε γ) :
    p >>= next >>= last = p >>= fun value ↦ next value >>= last := by
  funext state
  rw [bind_apply, bind_apply, bind_apply]
  rcases p state with ⟨_ | value, after⟩
  · rfl
  · exact (bind_apply _ _ _).symm

/-- A sequence returns when both parts do. -/
theorem bind_eq_ok_iff {p : Effect σ ε α} {next : α → Effect σ ε β} {state final : σ} {value : β} :
    (p >>= next) state = (.ok value, final) ↔
      ∃ a after, p state = (.ok a, after) ∧ next a after = (.ok value, final) := by
  rw [bind_apply]
  rcases hp : p state with ⟨_ | a, after⟩
  · simp
  · constructor
    · intro h
      exact ⟨a, after, rfl, h⟩
    · rintro ⟨_, _, heq, h⟩
      cases heq
      exact h

/-- A sequence raises when its first part does, or when that returns and its second part does. -/
theorem bind_eq_error_iff {p : Effect σ ε α} {next : α → Effect σ ε β} {state final : σ}
    {exception : ε} :
    (p >>= next) state = (.error exception, final) ↔ p state = (.error exception, final) ∨
      ∃ a after, p state = (.ok a, after) ∧ next a after = (.error exception, final) := by
  rw [bind_apply]
  rcases hp : p state with ⟨_ | a, after⟩
  · simp
  · constructor
    · intro h
      exact Or.inr ⟨a, after, rfl, h⟩
    · rintro (heq | ⟨_, _, heq, h⟩)
      · cases heq
      · cases heq
        exact h

/-- A guarded part ran, or was passed over. -/
theorem onlyIf_eq_ok_iff {condition : Prop} [Decidable condition] {p : Effect σ ε Unit}
    {state final : σ} {done : Unit} :
    onlyIf condition p state = (.ok done, final) ↔
      condition ∧ p state = (.ok done, final) ∨ ¬condition ∧ final = state := by
  unfold onlyIf
  split_ifs with h
  · simp [h]
  · simp [h, eq_comm]

/-- A guarded computation returned by itself, or its handler did. -/
theorem tryExcept_eq_ok {p : Effect σ ε α} {handler : ε → Effect σ ε α} {state final : σ}
    {value : α} (h : p.tryExcept handler state = (.ok value, final)) :
    p state = (.ok value, final) ∨
      ∃ exception after, p state = (.error exception, after) ∧
        handler exception after = (.ok value, final) := by
  change (match (p state).1 with
    | .ok value => ret value
    | .error exception => handler exception) (p state).2 = _ at h
  rcases hrun : p state with ⟨exception | found, after⟩
  · rw [hrun] at h
    exact Or.inr ⟨exception, after, rfl, h⟩
  · rw [hrun] at h
    cases h
    exact Or.inl rfl

/-! ### What a computation leaves alone -/

/-- `p` leaves a part of the state as it was. -/
def Keeps (part : σ → γ) (p : Effect σ ε α) : Prop := ∀ state, part (p state).2 = part state

section Keeps

variable {part : σ → γ}

theorem keeps_pure (value : α) : Keeps part (pure value : Effect σ ε α) := fun _ ↦ rfl

theorem keeps_raise (exception : ε) : Keeps part (raise exception : Effect σ ε α) := fun _ ↦ rfl

theorem keeps_ofExcept (result : Except ε α) : Keeps part (ofExcept result : Effect σ ε α) :=
  fun _ ↦ rfl

theorem keeps_read : Keeps part (read : Effect σ ε σ) := fun _ ↦ rfl

theorem Keeps.andThen {p : Effect σ ε α} {next : Except ε α → Effect σ ε β} (hp : Keeps part p)
    (hnext : ∀ result, Keeps part (next result)) : Keeps part (p.andThen next) := fun state ↦
  (hnext _ _).trans (hp state)

theorem Keeps.bind {p : Effect σ ε α} {next : α → Effect σ ε β} (hp : Keeps part p)
    (hnext : ∀ value, Keeps part (next value)) : Keeps part (p >>= next) := by
  refine hp.andThen fun result ↦ ?_
  cases result with
  | ok value => exact hnext value
  | error exception => exact keeps_raise exception

theorem Keeps.onlyIf {condition : Prop} [Decidable condition] {p : Effect σ ε Unit}
    (hp : Keeps part p) : Keeps part (onlyIf condition p) := by
  unfold Effect.onlyIf
  split_ifs
  · exact hp
  · exact keeps_pure ()

theorem Keeps.tryExcept {p : Effect σ ε α} {handler : ε → Effect σ ε α} (hp : Keeps part p)
    (hhandler : ∀ exception, Keeps part (handler exception)) : Keeps part (p.tryExcept handler) := by
  refine hp.andThen fun result ↦ ?_
  cases result with
  | ok value => exact keeps_pure value
  | error exception => exact hhandler exception

/-- What is read off a part that is kept is kept. -/
theorem Keeps.comp {δ : Type} {p : Effect σ ε α} (hp : Keeps part p) (f : γ → δ) :
    Keeps (fun state ↦ f (part state)) p := fun state ↦ congrArg f (hp state)

theorem Keeps.of_run {p : Effect σ ε α} (hp : Keeps part p) {state after : σ}
    {result : Except ε α} (h : p state = (result, after)) : part after = part state := by
  have := hp state
  rwa [h] at this

end Keeps

/-- A sequence leaves a part of one state as it was when its first part does and the second does so
after the runs of the first. -/
theorem bind_keeps_at {part : σ → γ} {p : Effect σ ε α} {next : α → Effect σ ε β} {state : σ}
    (hp : part (p state).2 = part state)
    (hnext : ∀ value after, p state = (.ok value, after) → part (next value after).2 = part state) :
    part ((p >>= next) state).2 = part state := by
  rw [bind_apply]
  rcases hrun : p state with ⟨_ | value, after⟩
  · rw [hrun] at hp
    exact hp
  · exact hnext value after hrun

/-- What follows a computation leaves a part of the state as the computation left it. -/
theorem part_bind (part : σ → γ) (p : Effect σ ε α) {next : α → Effect σ ε β}
    (hnext : ∀ value, Keeps part (next value)) (state : σ) :
    part ((p >>= next) state).2 = part (p state).2 := by
  rw [bind_apply]
  rcases p state with ⟨_ | value, after⟩
  · rfl
  · exact hnext value after

/-- A handler leaves a part of the state as the guarded computation left it. -/
theorem part_tryExcept (part : σ → γ) (p : Effect σ ε α) {handler : ε → Effect σ ε α}
    (hhandler : ∀ exception, Keeps part (handler exception)) (state : σ) :
    part (p.tryExcept handler state).2 = part (p state).2 := by
  change part ((match (p state).1 with
    | .ok value => ret value
    | .error exception => handler exception) (p state).2).2 = _
  rcases p state with ⟨exception | _, after⟩
  · exact hhandler exception after
  · rfl

/-- A computation that keeps a part of a component keeps it in the whole. -/
theorem Keeps.within {get : σ → τ} {put : τ → σ → σ} {part : τ → γ} {p : Effect τ ε α}
    (hget : ∀ inner state, get (put inner state) = inner) (hp : Keeps part p) :
    Keeps (fun state ↦ part (get state)) (p.within get put) := fun state ↦ by
  change part (get (put (p (get state)).2 state)) = part (get state)
  rw [hget, hp (get state)]

/-! ### What successful runs maintain -/

/-- A successful run of `p` keeps `I` true. -/
def Maintains (I : σ → Prop) (p : Effect σ ε α) : Prop :=
  ∀ state value after, p state = (.ok value, after) → I state → I after

section Maintains

variable {I : σ → Prop}

theorem Keeps.maintains {part : σ → γ} {p : Effect σ ε α} (hp : Keeps part p)
    {J : γ → Prop} : Maintains (fun state ↦ J (part state)) p := by
  intro state value after h hstate
  rwa [hp.of_run h]

theorem Maintains.bind {p : Effect σ ε α} {next : α → Effect σ ε β} (hp : Maintains I p)
    (hnext : ∀ value, Maintains I (next value)) : Maintains I (p >>= next) := by
  intro state value after h hstate
  obtain ⟨a, middle, hfirst, hsecond⟩ := bind_eq_ok_iff.mp h
  exact hnext a middle value after hsecond (hp state a middle hfirst hstate)

end Maintains

/-! ### What a computation may raise -/

/-- Every exception of `p` satisfies `P`. -/
def Raises (P : ε → Prop) (p : Effect σ ε α) : Prop :=
  ∀ state exception after, p state = (.error exception, after) → P exception

section Raises

variable {P : ε → Prop}

theorem raises_pure (value : α) : Raises P (pure value : Effect σ ε α) := by
  intro _ _ _ h
  cases h

theorem raises_read : Raises P (read : Effect σ ε σ) := by
  intro _ _ _ h
  cases h

theorem raises_change (f : σ → σ) : Raises P (change f : Effect σ ε Unit) := by
  intro _ _ _ h
  cases h

theorem raises_raise {exception : ε} (h : P exception) :
    Raises P (raise exception : Effect σ ε α) := by
  intro _ _ _ heq
  cases heq
  exact h

theorem raises_ofExcept {result : Except ε α} (h : ∀ exception, result = .error exception →
    P exception) : Raises P (ofExcept result : Effect σ ε α) := by
  intro _ exception _ heq
  cases heq
  exact h exception rfl

theorem Raises.bind {p : Effect σ ε α} {next : α → Effect σ ε β} (hp : Raises P p)
    (hnext : ∀ value, Raises P (next value)) : Raises P (p >>= next) := by
  intro state exception after h
  rcases bind_eq_error_iff.mp h with hfirst | ⟨value, middle, -, hsecond⟩
  · exact hp _ _ _ hfirst
  · exact hnext _ _ _ _ hsecond

theorem Raises.onlyIf {condition : Prop} [Decidable condition] {p : Effect σ ε Unit}
    (hp : Raises P p) : Raises P (onlyIf condition p) := by
  unfold Effect.onlyIf
  split_ifs
  · exact hp
  · exact raises_pure ()

theorem Raises.tryExcept {Q : ε → Prop} {p : Effect σ ε α} {handler : ε → Effect σ ε α}
    (hp : Raises Q p) (hhandler : ∀ exception, Q exception → Raises P (handler exception)) :
    Raises P (p.tryExcept handler) := by
  intro state exception after h
  change (match (p state).1 with
    | .ok value => ret value
    | .error exception => handler exception) (p state).2 = _ at h
  rcases hrun : p state with ⟨found | value, middle⟩
  · rw [hrun] at h
    exact hhandler found (hp state found middle hrun) middle exception after h
  · rw [hrun] at h
    cases h

theorem Raises.within {get : σ → τ} {put : τ → σ → σ} {p : Effect τ ε α} (hp : Raises P p) :
    Raises P (p.within get put) := by
  intro state exception after h
  have hresult : (p (get state)).1 = .error exception := congrArg Prod.fst h
  exact hp (get state) exception (p (get state)).2 (Prod.ext hresult rfl)

end Raises

end Effect

end SchemaPilot.Library
