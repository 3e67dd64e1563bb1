import SchemaPilot.Library.Effect
import Mathlib.Data.List.Basic
import Mathlib.Order.Defs.Unbundled

/-!
# Outcomes of computations

`Ends p state Q E` says that `p`, run on a state, either returns a value that satisfies `Q` with the
state it leaves, or raises an exception that satisfies `E`. Each way to build a computation has a rule,
and a loop goes by an invariant on what it has done so far. `Advances R p` says that `p` leaves a state
that is `R`-related to the one it found, on every outcome; for a preorder it composes without more. The
iterations of a loop are the items it takes up, each with the state it finds (`iterations`); a loop that
returns has taken up all its items (`iterations_fst_of_ok`).
-/

namespace SchemaPilot.Library.Effect

variable {σ τ ε α β γ : Type}

/-! ### Loops -/

/-- `for item in items: body(item)`. -/
def forEach (body : α → Effect σ ε Unit) : List α → Effect σ ε Unit
  | [] => pure ()
  | item :: rest => do
    body item
    forEach body rest

/-- `sum(body(item) for item in items)`, in order. -/
def sumEach (body : α → Effect σ ε ℕ) : List α → Effect σ ε ℕ
  | [] => pure 0
  | item :: rest => do
    let first ← body item
    let others ← sumEach body rest
    return first + others

/-- The items a loop takes up, each with the state it finds. -/
def iterations (body : α → Effect σ ε Unit) : List α → σ → List (α × σ)
  | [], _ => []
  | item :: rest, state =>
    (item, state) :: match body item state with
      | (.ok _, after) => iterations body rest after
      | (.error _, _) => []

/-- A loop takes up none but its items. -/
theorem mem_of_mem_iterations {body : α → Effect σ ε Unit} {items : List α} :
    ∀ {state : σ} {entry : α × σ}, entry ∈ iterations body items state → entry.1 ∈ items := by
  induction items with
  | nil => exact fun hentry ↦ absurd hentry List.not_mem_nil
  | cons item rest ih =>
    intro state entry hentry
    rw [iterations] at hentry
    obtain rfl | hentry := List.mem_cons.mp hentry
    · exact List.mem_cons_self
    · split at hentry
      · exact List.mem_cons_of_mem _ (ih hentry)
      · exact absurd hentry List.not_mem_nil

/-! ### Outcomes -/

/-- The run of `p` on the state returns with `Q`, or raises with `E`. -/
structure Ends (p : Effect σ ε α) (state : σ) (Q : α → σ → Prop) (E : ε → σ → Prop) : Prop where
  of_ok : ∀ {value after}, p state = (.ok value, after) → Q value after
  of_error : ∀ {exception after}, p state = (.error exception, after) → E exception after

section Rules

variable {p : Effect σ ε α} {state : σ} {Q : α → σ → Prop} {E : ε → σ → Prop}

theorem Ends.mono {R : α → σ → Prop} {F : ε → σ → Prop} (h : Ends p state Q E)
    (hok : ∀ value after, Q value after → R value after)
    (herror : ∀ exception after, E exception after → F exception after) : Ends p state R F :=
  ⟨fun hrun ↦ hok _ _ (h.of_ok hrun), fun hrun ↦ herror _ _ (h.of_error hrun)⟩

/-- A run that raises nothing meets every claim about what it raises. -/
theorem Ends.never (h : Ends p state Q fun _ _ ↦ False) : Ends p state Q E :=
  h.mono (fun _ _ hvalue ↦ hvalue) fun _ _ hnone ↦ hnone.elim

/-- What holds of the state a run leaves holds on every outcome. -/
theorem ends_of_after {I : σ → Prop} (h : I (p state).2) :
    Ends p state (fun _ after ↦ I after) fun _ after ↦ I after := by
  constructor
  · intro value after hrun
    rwa [hrun] at h
  · intro exception after hrun
    rwa [hrun] at h

/-- A run that returns raises nothing. -/
theorem ends_of_isOk (h : (p state).1.isOk = true) :
    Ends p state (fun _ after ↦ after = (p state).2) fun _ _ ↦ False := by
  constructor
  · intro value after hrun
    rw [hrun]
  · intro exception after hrun
    rw [hrun] at h
    cases h

theorem Ends.and {R : α → σ → Prop} {F : ε → σ → Prop} (h : Ends p state Q E)
    (h' : Ends p state R F) : Ends p state (fun value after ↦ Q value after ∧ R value after)
      fun exception after ↦ E exception after ∧ F exception after :=
  ⟨fun hrun ↦ ⟨h.of_ok hrun, h'.of_ok hrun⟩, fun hrun ↦ ⟨h.of_error hrun, h'.of_error hrun⟩⟩

theorem ends_pure {value : α} (h : Q value state) : Ends (pure value) state Q E := by
  constructor
  · intro found after hrun
    cases hrun
    exact h
  · intro exception after hrun
    cases hrun

/-- What holds on every outcome holds of the state that is left. -/
theorem Ends.after {I : σ → Prop} (h : Ends p state (fun _ after ↦ I after) fun _ after ↦ I after) :
    I (p state).2 := by
  rcases hrun : p state with ⟨exception | value, after⟩
  · exact h.of_error hrun
  · exact h.of_ok hrun

theorem ends_raise {exception : ε} (h : E exception state) :
    Ends (raise exception : Effect σ ε α) state Q E := by
  constructor
  · intro found after hrun
    cases hrun
  · intro found after hrun
    cases hrun
    exact h

theorem ends_change {f : σ → σ} {Q : Unit → σ → Prop} (h : Q () (f state)) :
    Ends (change f) state Q E := by
  constructor
  · intro done after hrun
    cases hrun
    exact h
  · intro exception after hrun
    cases hrun

theorem ends_ofExcept {result : Except ε α} (hok : ∀ value, result = .ok value → Q value state)
    (herror : ∀ exception, result = .error exception → E exception state) :
    Ends (ofExcept result) state Q E := by
  constructor
  · intro value after hrun
    cases hrun
    exact hok value rfl
  · intro exception after hrun
    cases hrun
    exact herror exception rfl

theorem Ends.bind {next : α → Effect σ ε β} {R : β → σ → Prop} (h : Ends p state Q E)
    (hnext : ∀ value after, Q value after → Ends (next value) after R E) :
    Ends (p >>= next) state R E := by
  constructor
  · intro value after hrun
    obtain ⟨first, middle, hfirst, hrest⟩ := bind_eq_ok_iff.mp hrun
    exact (hnext first middle (h.of_ok hfirst)).of_ok hrest
  · intro exception after hrun
    obtain hfirst | ⟨first, middle, hfirst, hrest⟩ := bind_eq_error_iff.mp hrun
    · exact h.of_error hfirst
    · exact (hnext first middle (h.of_ok hfirst)).of_error hrest

/-- A computation that starts by reading the state goes on with it. -/
theorem ends_read_bind {next : σ → Effect σ ε β} {R : β → σ → Prop}
    (h : Ends (next state) state R E) : Ends (read >>= next) state R E :=
  ⟨fun hrun ↦ h.of_ok hrun, fun hrun ↦ h.of_error hrun⟩

/-- A computation that starts by changing the state goes on with the new one. -/
theorem ends_change_bind {f : σ → σ} {next : Unit → Effect σ ε β} {R : β → σ → Prop}
    (h : Ends (next ()) (f state) R E) : Ends (change f >>= next) state R E :=
  ⟨fun hrun ↦ h.of_ok hrun, fun hrun ↦ h.of_error hrun⟩

/-- A computation that starts with a pure one that returns goes on with its value. -/
theorem ends_ok_bind {value : α} {next : α → Effect σ ε β} {R : β → σ → Prop}
    (h : Ends (next value) state R E) : Ends (ofExcept (.ok value) >>= next) state R E :=
  ⟨fun hrun ↦ h.of_ok hrun, fun hrun ↦ h.of_error hrun⟩

theorem Ends.tryExcept {handler : ε → Effect σ ε α} {F : ε → σ → Prop} (h : Ends p state Q F)
    (hhandler : ∀ exception after, F exception after → Ends (handler exception) after Q E) :
    Ends (p.tryExcept handler) state Q E := by
  have hrun : ∀ {result}, p.tryExcept handler state = result →
      (∃ value after, p state = (.ok value, after) ∧ result = (.ok value, after)) ∨
        ∃ exception after, p state = (.error exception, after) ∧
          handler exception after = result := by
    rintro _ rfl
    change (∃ value after, _ ∧ p.andThen _ state = _) ∨ ∃ exception after, _ ∧ _ = p.andThen _ state
    rw [andThen]
    rcases hp : p state with ⟨exception | value, after⟩
    · exact Or.inr ⟨exception, after, rfl, rfl⟩
    · exact Or.inl ⟨value, after, rfl, rfl⟩
  constructor
  · intro value after h'
    obtain ⟨found, last, hp, heq⟩ | ⟨exception, middle, hp, hcaught⟩ := hrun h'
    · cases heq
      exact h.of_ok hp
    · exact (hhandler exception middle (h.of_error hp)).of_ok hcaught
  · intro exception after h'
    obtain ⟨found, last, hp, heq⟩ | ⟨exception, middle, hp, hcaught⟩ := hrun h'
    · cases heq
    · exact (hhandler exception middle (h.of_error hp)).of_error hcaught

theorem ends_onlyIf {condition : Prop} [Decidable condition] {p : Effect σ ε Unit}
    {Q : Unit → σ → Prop} (h : condition → Ends p state Q E) (hnot : ¬condition → Q () state) :
    Ends (onlyIf condition p) state Q E := by
  unfold onlyIf
  split_ifs with hcondition
  · exact h hcondition
  · exact ends_pure (hnot hcondition)

/-- A computation that starts with a check goes on where the check passes. -/
theorem ends_check_bind {condition : Prop} [Decidable condition] {exception : ε}
    {next : Unit → Effect σ ε β} {R : β → σ → Prop} (hraise : condition → E exception state)
    (hnext : ¬condition → Ends (next ()) state R E) :
    Ends (onlyIf condition (raise exception) >>= next) state R E := by
  have hcheck : Ends (onlyIf condition (raise exception)) state
      (fun _ after ↦ ¬condition ∧ after = state) E :=
    ends_onlyIf (fun hcondition ↦ ends_raise (hraise hcondition)) fun hnot ↦ ⟨hnot, rfl⟩
  refine hcheck.bind fun _ after hafter ↦ ?_
  obtain ⟨hnot, rfl⟩ := hafter
  exact hnext hnot

theorem Keeps.ends {part : σ → γ} (h : Keeps part p) (state : σ) :
    Ends p state (fun _ after ↦ part after = part state) fun _ after ↦ part after = part state :=
  ⟨fun hrun ↦ h.of_run hrun, fun hrun ↦ h.of_run hrun⟩

theorem Raises.ends {P : ε → Prop} (h : Raises P p) (state : σ) :
    Ends p state (fun _ _ ↦ True) fun exception _ ↦ P exception :=
  ⟨fun _ ↦ trivial, fun hrun ↦ h _ _ _ hrun⟩

end Rules

/-! ### Advancing along a preorder -/

/-- What `p` leaves is related to what it found, on every outcome. -/
def Advances (R : σ → σ → Prop) (p : Effect σ ε α) : Prop := ∀ state, R state (p state).2

section Advances

variable {R : σ → σ → Prop}

theorem Advances.of_run {p : Effect σ ε α} (h : Advances R p) {state after : σ}
    {result : Except ε α} (hrun : p state = (result, after)) : R state after := by
  have := h state
  rwa [hrun] at this

theorem Advances.ends {p : Effect σ ε α} (h : Advances R p) (state : σ) :
    Ends p state (fun _ after ↦ R state after) fun _ after ↦ R state after :=
  ⟨fun hrun ↦ h.of_run hrun, fun hrun ↦ h.of_run hrun⟩

/-- A computation on a component advances the whole, where the component's steps do. -/
theorem Advances.within {S : τ → τ → Prop} {get : σ → τ} {put : τ → σ → σ} {p : Effect τ ε α}
    (h : Advances S p) (hput : ∀ state inner, S (get state) inner → R state (put inner state)) :
    Advances R (p.within get put) := fun state ↦ hput state _ (h (get state))

variable [IsPreorder σ R]

theorem advances_pure (value : α) : Advances R (pure value : Effect σ ε α) := fun _ ↦ refl_of R _

theorem advances_raise (exception : ε) : Advances R (raise exception : Effect σ ε α) :=
  fun _ ↦ refl_of R _

theorem advances_read : Advances R (read : Effect σ ε σ) := fun _ ↦ refl_of R _

theorem advances_ofExcept (result : Except ε α) : Advances R (ofExcept result : Effect σ ε α) :=
  fun _ ↦ refl_of R _

theorem Advances.andThen {p : Effect σ ε α} {next : Except ε α → Effect σ ε β} (hp : Advances R p)
    (hnext : ∀ result, Advances R (next result)) : Advances R (p.andThen next) := fun state ↦
  trans_of R (hp state) (hnext _ _)

theorem Advances.bind {p : Effect σ ε α} {next : α → Effect σ ε β} (hp : Advances R p)
    (hnext : ∀ value, Advances R (next value)) : Advances R (p >>= next) := by
  refine hp.andThen fun result ↦ ?_
  cases result with
  | ok value => exact hnext value
  | error exception => exact advances_raise exception

theorem Advances.tryExcept {p : Effect σ ε α} {handler : ε → Effect σ ε α} (hp : Advances R p)
    (hhandler : ∀ exception, Advances R (handler exception)) : Advances R (p.tryExcept handler) := by
  refine hp.andThen fun result ↦ ?_
  cases result with
  | ok value => exact advances_pure value
  | error exception => exact hhandler exception

theorem Advances.onlyIf {condition : Prop} [Decidable condition] {p : Effect σ ε Unit}
    (hp : Advances R p) : Advances R (onlyIf condition p) := by
  unfold Effect.onlyIf
  split_ifs
  · exact hp
  · exact advances_pure ()

theorem Advances.forEach {body : α → Effect σ ε Unit} (h : ∀ item, Advances R (body item))
    (items : List α) : Advances R (forEach body items) := by
  induction items with
  | nil => exact advances_pure ()
  | cons item rest ih => exact (h item).bind fun _ ↦ ih

theorem Advances.sumEach {body : α → Effect σ ε ℕ} (h : ∀ item, Advances R (body item))
    (items : List α) : Advances R (sumEach body items) := by
  induction items with
  | nil => exact advances_pure 0
  | cons item rest ih => exact (h item).bind fun _ ↦ ih.bind fun _ ↦ advances_pure _

/-- What the first part of a sequence leaves is related to what the sequence leaves. -/
theorem advances_rest (p : Effect σ ε α) {next : α → Effect σ ε β}
    (hnext : ∀ value, Advances R (next value)) (state : σ) :
    R (p state).2 ((p >>= next) state).2 := by
  rw [bind_apply]
  rcases hrun : p state with ⟨exception | value, after⟩
  · exact refl_of R _
  · exact hnext value after

/-- What an iteration leaves is related to what the loop leaves. -/
theorem Advances.iteration {body : α → Effect σ ε Unit} (h : ∀ item, Advances R (body item))
    {items : List α} : ∀ {state : σ}, ∀ entry ∈ iterations body items state,
      R (body entry.1 entry.2).2 (Effect.forEach body items state).2 := by
  induction items with
  | nil => exact fun entry hentry ↦ absurd hentry List.not_mem_nil
  | cons item rest ih =>
    intro state entry hentry
    rw [iterations] at hentry
    rw [Effect.forEach, bind_apply]
    rcases hrun : body item state with ⟨exception | done, after⟩
    · rw [hrun] at hentry
      obtain rfl | hentry := List.mem_cons.mp hentry
      · dsimp only
        rw [hrun]
        exact refl_of R _
      · exact absurd hentry List.not_mem_nil
    · rw [hrun] at hentry
      obtain rfl | hentry := List.mem_cons.mp hentry
      · dsimp only
        rw [hrun]
        exact Advances.forEach h rest after
      · exact ih entry hentry

end Advances

theorem raises_sumEach {P : ε → Prop} {body : α → Effect σ ε ℕ} (h : ∀ item, Raises P (body item))
    (items : List α) : Raises P (sumEach body items) := by
  induction items with
  | nil => exact raises_pure 0
  | cons item rest ih => exact (h item).bind fun _ ↦ ih.bind fun _ ↦ raises_pure _

theorem Keeps.sumEach {part : σ → γ} {body : α → Effect σ ε ℕ} (h : ∀ item, Keeps part (body item))
    (items : List α) : Keeps part (Effect.sumEach body items) := by
  induction items with
  | nil => exact keeps_pure 0
  | cons item rest ih => exact (h item).bind fun _ ↦ ih.bind fun _ ↦ keeps_pure _

/-! ### Loops go by an invariant -/

section Loops

variable {E : ε → σ → Prop}

/-- A loop that returns has taken up all its items. -/
theorem iterations_fst_of_ok {body : α → Effect σ ε Unit} {items : List α} :
    ∀ {state after : σ} {done : Unit}, forEach body items state = (.ok done, after) →
      (iterations body items state).map Prod.fst = items := by
  induction items with
  | nil => exact fun _ ↦ rfl
  | cons item rest ih =>
    intro state after done h
    obtain ⟨_, middle, hfirst, hrest⟩ := bind_eq_ok_iff.mp h
    rw [iterations, hfirst, List.map_cons]
    exact congrArg _ (ih hrest)

/-- A loop keeps an invariant of the iterations done so far. -/
theorem ends_forEach {body : α → Effect σ ε Unit} {items : List α} :
    ∀ {state : σ} {I : List (α × σ) → σ → Prop}, I [] state →
      (∀ done, ∀ entry ∈ iterations body items state, I done entry.2 →
        Ends (body entry.1) entry.2 (fun _ after ↦ I (done ++ [entry]) after) E) →
      Ends (forEach body items) state
        (fun _ after ↦ I (iterations body items state) after) E := by
  induction items with
  | nil => exact fun hstart _ ↦ ends_pure hstart
  | cons item rest ih =>
    intro state I hstart hstep
    have hfirst := hstep [] (item, state) List.mem_cons_self hstart
    -- the rest of the loop goes by the invariant of what follows the first item
    have hrest : ∀ {middle}, body item state = (.ok (), middle) →
        Ends (forEach body rest) middle
          (fun _ after ↦ I (iterations body (item :: rest) state) after) E := by
      intro middle hbody
      rw [iterations, hbody]
      exact ih (I := fun done ↦ I ((item, state) :: done)) (hfirst.of_ok hbody) fun done entry hentry ↦
        hstep ((item, state) :: done) entry (by
          rw [iterations, hbody]
          exact List.mem_cons_of_mem _ hentry)
    constructor
    · intro done after hrun
      obtain ⟨_, middle, hbody, hothers⟩ := bind_eq_ok_iff.mp hrun
      exact (hrest hbody).of_ok hothers
    · intro exception after hrun
      obtain hbody | ⟨_, middle, hbody, hothers⟩ := bind_eq_error_iff.mp hrun
      · exact hfirst.of_error hbody
      · exact (hrest hbody).of_error hothers

/-- A fold keeps an invariant of the items taken up so far. -/
theorem ends_foldlM {body : β → α → Effect σ ε β} {items : List α} :
    ∀ {start : β} {state : σ} {I : List α → β → σ → Prop}, I [] start state →
      (∀ done item, done ++ [item] <+: items → ∀ value state, I done value state →
        Ends (body value item) state (I (done ++ [item])) E) →
      Ends (items.foldlM body start) state (I items) E := by
  induction items with
  | nil => exact fun hstart _ ↦ ends_pure hstart
  | cons item rest ih =>
    intro start state I hstart hstep
    have hfirst : [] ++ [item] <+: item :: rest := ⟨rest, rfl⟩
    refine (hstep [] item hfirst start state hstart).bind fun next after hnext ↦ ?_
    exact ih (I := fun done ↦ I (item :: done)) hnext fun done other hother ↦
      hstep (item :: done) other ((List.prefix_cons_inj item).mpr hother)

/-- A loop establishes of its iterations what each establishes of its own, where that lasts. -/
theorem ends_forEach_of_iterations {R : σ → σ → Prop} [IsPreorder σ R]
    {body : α → Effect σ ε Unit} {P : α × σ → σ → Prop}
    (hlasts : ∀ entry before after, R before after → P entry before → P entry after)
    {items : List α} {state : σ} (hsteps : ∀ entry ∈ iterations body items state,
      Ends (body entry.1) entry.2 (fun _ after ↦ R entry.2 after ∧ P entry after) E) :
    Ends (forEach body items) state
      (fun _ after ↦ R state after ∧ ∀ entry ∈ iterations body items state, P entry after) E := by
  refine ends_forEach (I := fun done after ↦ R state after ∧ ∀ entry ∈ done, P entry after)
    ⟨refl_of R state, fun entry hentry ↦ absurd hentry List.not_mem_nil⟩
    fun done entry hentry ⟨hbefore, hdone⟩ ↦ (hsteps entry hentry).mono ?_ fun _ _ herror ↦ herror
  rintro _ after ⟨hstep, hown⟩
  refine ⟨trans_of R hbefore hstep, fun other hother ↦ ?_⟩
  obtain hother | hother := List.mem_append.mp hother
  · exact hlasts other _ _ hstep (hdone other hother)
  · rw [List.mem_singleton.mp hother]
    exact hown

/-- A loop that returns establishes of its items what each iteration establishes of its own. -/
theorem ends_forEach_of_items {R : σ → σ → Prop} [IsPreorder σ R] {body : α → Effect σ ε Unit}
    {P : α → σ → Prop} (hlasts : ∀ item before after, R before after → P item before → P item after)
    {items : List α} {state : σ} (hsteps : ∀ entry ∈ iterations body items state,
      Ends (body entry.1) entry.2 (fun _ after ↦ R entry.2 after ∧ P entry.1 after) E) :
    Ends (forEach body items) state
      (fun _ after ↦ R state after ∧ ∀ item ∈ items, P item after) E := by
  have hloop := ends_forEach_of_iterations (P := fun entry ↦ P entry.1)
    (fun entry ↦ hlasts entry.1) hsteps
  refine ⟨fun hrun ↦ ⟨(hloop.of_ok hrun).1, fun item hitem ↦ ?_⟩, hloop.of_error⟩
  rw [← iterations_fst_of_ok hrun, List.mem_map] at hitem
  obtain ⟨entry, hentry, rfl⟩ := hitem
  exact (hloop.of_ok hrun).2 entry hentry

end Loops

end SchemaPilot.Library.Effect
