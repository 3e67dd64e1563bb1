import Mathlib.Data.List.Perm.Basic

/-!
# Partitions of a list that keep its order

`Parts first second whole` says that each item of a list has gone to one of two lists, in order.
-/

namespace SchemaPilot.Library

variable {α : Type}

/-- The items of a list, shared out to two lists in order. -/
inductive Parts : List α → List α → List α → Prop
  | nil : Parts [] [] []
  | left {first second whole : List α} (item : α) (h : Parts first second whole) :
      Parts (item :: first) second (item :: whole)
  | right {first second whole : List α} (item : α) (h : Parts first second whole) :
      Parts first (item :: second) (item :: whole)

namespace Parts

variable {first second whole : List α}

theorem snoc_left (h : Parts first second whole) (item : α) :
    Parts (first ++ [item]) second (whole ++ [item]) := by
  induction h with
  | nil => exact left item nil
  | left other _ ih => exact left other ih
  | right other _ ih => exact right other ih

theorem snoc_right (h : Parts first second whole) (item : α) :
    Parts first (second ++ [item]) (whole ++ [item]) := by
  induction h with
  | nil => exact right item nil
  | left other _ ih => exact left other ih
  | right other _ ih => exact right other ih

/-- The two lists together have the items of the whole. -/
theorem perm (h : Parts first second whole) : (first ++ second).Perm whole := by
  induction h with
  | nil => exact List.Perm.refl _
  | left item _ ih => exact ih.cons item
  | right item _ ih => exact List.perm_middle.trans (ih.cons item)

/-- Two ways to share out a list that give the first list alike give the second the same items. -/
theorem perm_right {second' : List α} (h : Parts first second whole)
    (h' : Parts first second' whole) : second.Perm second' :=
  (List.perm_append_left_iff first).mp (h.perm.trans h'.perm.symm)

end Parts

end SchemaPilot.Library
