import SchemaPilot.Library.Text
import Mathlib.Data.List.Sort

/-!
# Sorting by a key

`sorted(items, key=key)`: items of one key stay in their order (`filter_sortedBy`). The keys of the
result depend only on which items there are (`map_sortedBy_eq_of_perm`), and so does the result itself
where no two items share a key (`sortedBy_eq_of_perm`).
-/

namespace SchemaPilot.Library

variable {α κ : Type} [LinearOrder κ]

/-- `sorted(items, key=key)`. -/
def sortedBy (key : α → κ) (items : List α) : List α :=
  items.insertionSort fun a b ↦ key a ≤ key b

section Keys

variable (key : α → κ)

local instance keyPreorder : IsPreorder α fun a b ↦ key a ≤ key b where
  refl a := le_refl (key a)
  trans _ _ _ := le_trans

local instance keyTotal : Std.Total fun a b : α ↦ key a ≤ key b := ⟨fun a b ↦ le_total (key a) (key b)⟩

theorem perm_sortedBy (items : List α) : (sortedBy key items).Perm items :=
  List.perm_insertionSort _ items

theorem pairwise_sortedBy (items : List α) :
    (sortedBy key items).Pairwise fun a b ↦ key a ≤ key b :=
  List.pairwise_insertionSort _ items

@[simp] theorem mem_sortedBy {items : List α} {item : α} : item ∈ sortedBy key items ↔ item ∈ items :=
  (perm_sortedBy key items).mem_iff

theorem sortedBy_eq_of_perm {items items' : List α} (h : items.Perm items')
    (hkeys : (items.map key).Nodup) : sortedBy key items = sortedBy key items' := by
  have hperm : (sortedBy key items).Perm (sortedBy key items') :=
    (perm_sortedBy key items).trans (h.trans (perm_sortedBy key items').symm)
  refine List.Perm.eq_of_pairwise (fun a b ha hb hab hba ↦ ?_) (pairwise_sortedBy key items)
    (pairwise_sortedBy key items') hperm
  have hmem : b ∈ items := (mem_sortedBy key).mp (hperm.mem_iff.mpr hb)
  exact List.inj_on_of_nodup_map hkeys ((mem_sortedBy key).mp ha) hmem (le_antisymm hab hba)

theorem map_sortedBy_eq_of_perm {items items' : List α} (h : items.Perm items') :
    (sortedBy key items).map key = (sortedBy key items').map key := by
  have hsorted : ∀ list : List α, ((sortedBy key list).map key).Pairwise (· ≤ ·) := fun list ↦
    List.pairwise_map.mpr (pairwise_sortedBy key list)
  refine List.Perm.eq_of_pairwise (fun _ _ _ _ ↦ le_antisymm) (hsorted items) (hsorted items') ?_
  exact ((perm_sortedBy key items).trans (h.trans (perm_sortedBy key items').symm)).map key

/-- Inserting an item puts it before those of its key. -/
theorem filter_orderedInsert (item : α) (items : List α) (wanted : κ) :
    (items.orderedInsert (fun a b ↦ key a ≤ key b) item).filter (fun a ↦ key a = wanted) =
      (item :: items).filter fun a ↦ key a = wanted := by
  induction items with
  | nil => rfl
  | cons first rest ih =>
    rw [List.orderedInsert]
    split_ifs with h
    · rfl
    · rw [List.filter_cons, ih, List.filter_cons, List.filter_cons, List.filter_cons]
      have hne : ¬(key item = wanted ∧ key first = wanted) := fun hboth ↦
        h (hboth.1.trans hboth.2.symm).le
      by_cases hitem : key item = wanted
      · have hfirst : ¬key first = wanted := fun hfirst ↦ hne ⟨hitem, hfirst⟩
        simp [hitem, hfirst]
      · simp [hitem]

/-- Items of one key stay in their order. -/
theorem filter_sortedBy (items : List α) (wanted : κ) :
    (sortedBy key items).filter (fun a ↦ key a = wanted) =
      items.filter fun a ↦ key a = wanted := by
  induction items with
  | nil => rfl
  | cons item rest ih =>
    rw [sortedBy, List.insertionSort_cons, filter_orderedInsert, List.filter_cons, List.filter_cons]
    rw [← ih]
    rfl

theorem first_le_of_sortedBy {items rest : List α} {first item : α}
    (h : sortedBy key items = first :: rest) (hitem : item ∈ items) : key first ≤ key item := by
  have hsub : item ∈ first :: rest := h ▸ (mem_sortedBy key).mpr hitem
  have hpairs := h ▸ pairwise_sortedBy key items
  rcases List.mem_cons.mp hsub with rfl | hrest
  · exact le_refl _
  · exact List.rel_of_pairwise_cons hpairs hrest

/-- The first of the sorted items is the first item of the least key. -/
theorem head?_sortedBy {items : List α} {wanted : κ} (hleast : ∀ item ∈ items, wanted ≤ key item)
    (h : ∃ item ∈ items, key item = wanted) :
    (sortedBy key items).head? = (items.filter fun a ↦ key a = wanted).head? := by
  obtain ⟨item, hitem, hkey⟩ := h
  rw [← filter_sortedBy]
  cases hsorted : sortedBy key items with
  | nil => rfl
  | cons first rest =>
    have hfirst : first ∈ items := (mem_sortedBy key).mp (hsorted ▸ List.mem_cons_self)
    have hwanted : key first = wanted :=
      le_antisymm (hkey ▸ first_le_of_sortedBy key hsorted hitem) (hleast first hfirst)
    simp [hwanted]

end Keys

namespace Text

theorem pairwise_sortedTexts (texts : List String) : (sortedTexts texts).Pairwise (· < ·) := by
  have hle : (sortedTexts texts).Pairwise (· ≤ ·) := List.pairwise_insertionSort _ _
  exact (hle.and (nodup_sortedTexts texts)).imp fun h ↦ lt_of_le_of_ne h.1 h.2

/-- The sorted set of texts depends only on which texts there are. -/
theorem sortedTexts_congr {texts texts' : List String} (h : ∀ text, text ∈ texts ↔ text ∈ texts') :
    sortedTexts texts = sortedTexts texts' := by
  refine List.Pairwise.eq_of_mem_iff (pairwise_sortedTexts texts) (pairwise_sortedTexts texts')
    fun text ↦ ?_
  rw [mem_sortedTexts, mem_sortedTexts, h]

end Text

end SchemaPilot.Library
