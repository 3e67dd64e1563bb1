import Mathlib.Data.List.Nodup
import Mathlib.Data.List.Perm.Subperm
import Mathlib.Data.List.Range

/-!
# Names that are not in use

A search through numbered names for the first one that is not in use. As many steps as there are names in use are
enough (`firstUnused_not_mem`), since the numbered names differ.
-/

namespace SchemaPilot.Library

variable {α : Type} [DecidableEq α] {name : ℕ → α} {used : List α}

/-- The first name from a number on that is not in use, after at most so many that are. -/
def firstUnused (name : ℕ → α) (used : List α) : ℕ → ℕ → α
  | 0, number => name number
  | fuel + 1, number =>
    if name number ∈ used then firstUnused name used fuel (number + 1) else name number

theorem exists_firstUnused (name : ℕ → α) (used : List α) (fuel number : ℕ) :
    ∃ found, firstUnused name used fuel number = name found := by
  induction fuel generalizing number with
  | zero => exact ⟨number, rfl⟩
  | succ fuel ih =>
    rw [firstUnused]
    split_ifs
    · exact ih (number + 1)
    · exact ⟨number, rfl⟩

/-- The search ends at a name in use only where all names it passes are. -/
theorem mem_used_of_firstUnused_mem {fuel number : ℕ} (h : firstUnused name used fuel number ∈ used) {step : ℕ}
    (hstep : step ≤ fuel) : name (number + step) ∈ used := by
  induction fuel generalizing number step with
  | zero =>
    rw [Nat.le_zero.mp hstep]
    exact h
  | succ fuel ih =>
    rw [firstUnused] at h
    split_ifs at h with hmem
    · cases step with
      | zero => exact hmem
      | succ step =>
        rw [Nat.add_comm step 1, ← Nat.add_assoc]
        exact ih h (Nat.le_of_succ_le_succ hstep)
    · exact absurd h hmem

/-- The search among distinct names finds one that is not in use. -/
theorem firstUnused_not_mem (hname : Function.Injective name) (number : ℕ) :
    firstUnused name used used.length number ∉ used := by
  intro h
  have hnames : ((List.range (used.length + 1)).map fun step ↦ name (number + step)).Nodup :=
    List.nodup_range.map fun _ _ hsame ↦ Nat.add_left_cancel (hname hsame)
  have hsubset : ((List.range (used.length + 1)).map fun step ↦ name (number + step)) ⊆ used := by
    intro other hother
    obtain ⟨step, hstep, rfl⟩ := List.mem_map.mp hother
    exact mem_used_of_firstUnused_mem h (Nat.lt_succ_iff.mp (List.mem_range.mp hstep))
  have hlength := (List.subperm_of_subset hnames hsubset).length_le
  rw [List.length_map, List.length_range] at hlength
  exact absurd hlength (Nat.not_succ_le_self _)

end SchemaPilot.Library
