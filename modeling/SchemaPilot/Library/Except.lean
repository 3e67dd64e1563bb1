import Mathlib.Data.List.Forall2
import Mathlib.Tactic.Common

/-!
# Computations that may fail

What a successful `Except` computation was made of: the steps of a successful sequence succeeded,
and so did the body of a successful loop on every item.
-/

namespace SchemaPilot.Library

variable {ε α β : Type}

theorem ok_bind (value : α) (next : α → Except ε β) : (Except.ok value >>= next) = next value := rfl

/-- A sequence of two computations succeeds exactly when both do. -/
theorem bind_eq_ok_iff (first : Except ε α) (next : α → Except ε β) (value : β) :
    (first >>= next) = .ok value ↔ ∃ a, first = .ok a ∧ next a = .ok value := by
  cases first with
  | error e =>
    constructor
    · intro h
      cases h
    · rintro ⟨_, h, _⟩
      cases h
  | ok a =>
    constructor
    · intro h
      exact ⟨a, rfl, h⟩
    · rintro ⟨_, heq, h⟩
      cases heq
      exact h

/-- A guarded computation succeeds exactly when the guard is false and the rest succeeds. -/
theorem ite_error_eq_ok_iff (guard : Prop) [Decidable guard] (e : ε) (rest : Except ε α)
    (value : α) :
    (if guard then .error e else rest) = .ok value ↔ ¬guard ∧ rest = .ok value := by
  by_cases h : guard <;> simp [h]

theorem map_eq_ok_iff {f : α → β} {result : Except ε α} {value : β} :
    result.map f = .ok value ↔ ∃ a, result = .ok a ∧ f a = value := by
  cases result with
  | error e => exact ⟨fun h ↦ (by cases h), fun ⟨_, h, _⟩ ↦ (by cases h)⟩
  | ok a =>
    change Except.ok (f a) = .ok value ↔ _
    rw [Except.ok.injEq]
    exact ⟨fun h ↦ ⟨a, rfl, h⟩, fun ⟨_, heq, h⟩ ↦ Except.ok.inj heq ▸ h⟩

theorem map_eq_error_iff {f : α → β} {result : Except ε α} {exception : ε} :
    result.map f = .error exception ↔ result = .error exception := by
  cases result with
  | error e =>
    change Except.error e = .error exception ↔ _
    rw [Except.error.injEq, Except.error.injEq]
  | ok a => exact ⟨fun h ↦ (by cases h), fun h ↦ (by cases h)⟩

theorem mapError_eq_ok_iff {δ : Type} {f : ε → δ} {result : Except ε α} {value : α} :
    result.mapError f = .ok value ↔ result = .ok value := by
  cases result with
  | error e => exact ⟨fun h ↦ (by cases h), fun h ↦ (by cases h)⟩
  | ok a =>
    change Except.ok a = .ok value ↔ _
    rw [Except.ok.injEq, Except.ok.injEq]

theorem mapError_eq_error_iff {δ : Type} {f : ε → δ} {result : Except ε α} {exception : δ} :
    result.mapError f = .error exception ↔ ∃ e, result = .error e ∧ f e = exception := by
  cases result with
  | error e =>
    change Except.error (f e) = .error exception ↔ _
    rw [Except.error.injEq]
    exact ⟨fun h ↦ ⟨e, rfl, h⟩, fun ⟨_, heq, h⟩ ↦ Except.error.inj heq ▸ h⟩
  | ok a => exact ⟨fun h ↦ (by cases h), fun ⟨_, h, _⟩ ↦ (by cases h)⟩

theorem exists_eq_ok_of_isOk {result : Except ε α} (h : result.isOk = true) :
    ∃ value, result = .ok value := by
  cases result with
  | error exception => cases h
  | ok value => exact ⟨value, rfl⟩

/-- A loop returns exactly when the computation of each item does. -/
theorem mapM_eq_ok_iff {f : α → Except ε β} {items : List α} {values : List β} :
    items.mapM f = .ok values ↔ List.Forall₂ (fun item value ↦ f item = .ok value) items values := by
  induction items generalizing values with
  | nil =>
    rw [List.mapM_nil, List.forall₂_nil_left_iff]
    exact ⟨fun h ↦ (by cases h; rfl), fun h ↦ h ▸ rfl⟩
  | cons item rest ih =>
    rw [List.mapM_cons, bind_eq_ok_iff, List.forall₂_cons_left_iff]
    constructor
    · rintro ⟨first, hfirst, hrest⟩
      obtain ⟨others, hothers, hdone⟩ := (bind_eq_ok_iff _ _ _).mp hrest
      cases hdone
      exact ⟨first, others, hfirst, ih.mp hothers, rfl⟩
    · rintro ⟨first, others, hfirst, hothers, rfl⟩
      exact ⟨first, hfirst, (bind_eq_ok_iff _ _ _).mpr ⟨others, ih.mpr hothers, rfl⟩⟩

/-- What a loop that returns has computed of each item keeps what each item's computation keeps. -/
theorem map_eq_of_mapM_eq_ok {γ : Type} {f : α → Except ε β} {key : α → γ} {keyOf : β → γ}
    (h : ∀ item value, f item = .ok value → keyOf value = key item) {items : List α} :
    ∀ {values : List β}, items.mapM f = .ok values → values.map keyOf = items.map key := by
  induction items with
  | nil =>
    intro values hvalues
    cases hvalues
    rfl
  | cons item rest ih =>
    intro values hvalues
    rw [List.mapM_cons] at hvalues
    obtain ⟨first, hfirst, hrest⟩ := (bind_eq_ok_iff _ _ _).mp hvalues
    obtain ⟨others, hothers, hdone⟩ := (bind_eq_ok_iff _ _ _).mp hrest
    cases hdone
    rw [List.map_cons, List.map_cons, h item first hfirst, ih hothers]

end SchemaPilot.Library
