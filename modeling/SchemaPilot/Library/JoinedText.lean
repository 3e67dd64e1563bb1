import Mathlib.Data.List.Basic
import Mathlib.Data.String.Basic

/-!
# Parts joined by a separator

Splitting what `separator.join(parts)` gives yields the pieces of all the parts in a row
(`splitOn_intercalate_eq_flatMap`), so two lists of parts give the same text exactly when they have the
same pieces, and then they are equal exactly when the pieces are shared out alike
(`eq_of_splitOn_flatMap_eq`).
-/

namespace SchemaPilot.Library

variable {α : Type} [DecidableEq α]

theorem length_splitOn (separator : α) (part : List α) :
    (part.splitOn separator).length = part.count separator + 1 := by
  induction part with
  | nil => rfl
  | cons a rest ih =>
    rw [List.splitOn_cons_eq_if_modifyHead, List.count_cons]
    split_ifs
    · rw [List.length_cons, ih]
    · rw [List.length_modifyHead, ih, Nat.add_zero]

theorem splitOn_injective (separator : α) :
    Function.Injective fun part : List α ↦ part.splitOn separator := by
  have hjoined : ∀ part : List α, List.intercalate [separator] (part.splitOn separator) = part :=
    fun _ ↦ List.intercalate_splitOn separator
  exact Function.LeftInverse.injective hjoined

theorem splitOn_intercalate_eq_flatMap (separator : α) {parts : List (List α)} (hne : parts ≠ []) :
    (List.intercalate [separator] parts).splitOn separator =
      parts.flatMap fun part ↦ part.splitOn separator := by
  induction parts with
  | nil => exact absurd rfl hne
  | cons part rest ih =>
    cases rest with
    | nil => rw [List.intercalate_singleton, List.flatMap_singleton]
    | cons next rest =>
      rw [List.intercalate_cons_cons, List.append_assoc, List.singleton_append,
        List.splitOn_append_cons_self, ih (List.cons_ne_nil next rest), ← List.flatMap_cons]

/-- Texts joined of parts are equal when the parts have the same pieces. -/
theorem intercalate_eq_iff {separator : α} {first second : List (List α)} (hfirst : first ≠ [])
    (hsecond : second ≠ []) :
    List.intercalate [separator] first = List.intercalate [separator] second ↔
      (first.flatMap fun part ↦ part.splitOn separator) =
        second.flatMap fun part ↦ part.splitOn separator := by
  rw [← splitOn_intercalate_eq_flatMap separator hfirst,
    ← splitOn_intercalate_eq_flatMap separator hsecond]
  exact (splitOn_injective separator).eq_iff.symm

/-- Parts with the same pieces, shared out alike, are the same. -/
theorem eq_of_splitOn_flatMap_eq {ι : Type} {separator : α} {first second : ι → List α}
    {keys : List ι}
    (hpieces : (keys.flatMap fun key ↦ (first key).splitOn separator) =
      keys.flatMap fun key ↦ (second key).splitOn separator)
    (hcounts : ∀ key ∈ keys, (first key).count separator = (second key).count separator) :
    ∀ key ∈ keys, first key = second key := by
  induction keys with
  | nil => exact fun _ hkey ↦ absurd hkey List.not_mem_nil
  | cons key rest ih =>
    rw [List.forall_mem_cons] at hcounts ⊢
    rw [List.flatMap_cons, List.flatMap_cons] at hpieces
    have hlength : ((first key).splitOn separator).length =
        ((second key).splitOn separator).length := by
      rw [length_splitOn, length_splitOn, hcounts.1]
    obtain ⟨hkey, hrest⟩ := List.append_inj hpieces hlength
    exact ⟨splitOn_injective separator hkey, ih hrest hcounts.2⟩

end SchemaPilot.Library
