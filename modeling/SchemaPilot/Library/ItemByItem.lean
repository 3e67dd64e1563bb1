import Mathlib.Data.List.Forall2

/-!
# Lists related item by item

What a relation between the items of two lists, one with one, says about the lists.
-/

namespace SchemaPilot.Library

variable {α β : Type} {R : α → β → Prop}

theorem exists_forall₂ {items : List α} (h : ∀ item ∈ items, ∃ value, R item value) :
    ∃ values, List.Forall₂ R items values := by
  induction items with
  | nil => exact ⟨[], .nil⟩
  | cons item rest ih =>
    obtain ⟨value, hvalue⟩ := h item List.mem_cons_self
    obtain ⟨values, hvalues⟩ := ih fun other hother ↦ h other (List.mem_cons_of_mem _ hother)
    exact ⟨value :: values, .cons hvalue hvalues⟩

theorem forall_mem_iff_of_forall₂ {P : α → Prop} {Q : β → Prop}
    (hR : ∀ item value, R item value → (P item ↔ Q value)) {items : List α} {values : List β}
    (h : List.Forall₂ R items values) : (∀ item ∈ items, P item) ↔ ∀ value ∈ values, Q value := by
  induction h with
  | nil => simp
  | cons hhead _ ih => rw [List.forall_mem_cons, List.forall_mem_cons, hR _ _ hhead, ih]

/-- Another relation follows for the items and values of two lists. -/
theorem forall₂_imp_of_mem {S : α → β → Prop} {items : List α} {values : List β}
    (h : List.Forall₂ R items values)
    (himp : ∀ item ∈ items, ∀ value ∈ values, R item value → S item value) :
    List.Forall₂ S items values := by
  induction h with
  | nil => exact .nil
  | cons hhead _ ih =>
    exact .cons (himp _ List.mem_cons_self _ List.mem_cons_self hhead)
      (ih fun item hitem value hvalue ↦
        himp item (List.mem_cons_of_mem _ hitem) value (List.mem_cons_of_mem _ hvalue))

theorem exists_mem_of_forall₂ {items : List α} {values : List β} (h : List.Forall₂ R items values)
    {item : α} (hitem : item ∈ items) : ∃ value ∈ values, R item value := by
  induction h with
  | nil => exact absurd hitem List.not_mem_nil
  | cons hhead _ ih =>
    rcases List.mem_cons.mp hitem with rfl | hitem
    · exact ⟨_, List.mem_cons_self, hhead⟩
    · obtain ⟨value, hvalue, hrelated⟩ := ih hitem
      exact ⟨value, List.mem_cons_of_mem _ hvalue, hrelated⟩

/-- The item at a place is related to the value there. -/
theorem exists_getElem?_of_forall₂ {items : List α} {values : List β}
    (h : List.Forall₂ R items values) {index : ℕ} {item : α} (hitem : items[index]? = some item) :
    ∃ value, values[index]? = some value ∧ R item value := by
  induction h generalizing index with
  | nil =>
    rw [List.getElem?_nil] at hitem
    cases hitem
  | cons hhead _ ih =>
    cases index with
    | zero =>
      rw [List.getElem?_cons_zero, Option.some.injEq] at hitem
      exact ⟨_, rfl, hitem ▸ hhead⟩
    | succ index => exact ih hitem

/-- Items that are related to the same items are related as those say. -/
theorem forall₂_of_common {γ : Type} {S : α → γ → Prop} {T : β → γ → Prop}
    {items : List α} {firsts : List β} {seconds : List γ} (hfirsts : List.Forall₂ R items firsts)
    (hseconds : List.Forall₂ S items seconds)
    (h : ∀ item ∈ items, ∀ first second, R item first → S item second → T first second) :
    List.Forall₂ T firsts seconds := by
  induction hfirsts generalizing seconds with
  | nil =>
    cases hseconds
    exact List.Forall₂.nil
  | cons hfirst _ ih =>
    obtain ⟨second, rest, hsecond, hrest, rfl⟩ := List.forall₂_cons_left_iff.mp hseconds
    rw [List.forall_mem_cons] at h
    exact List.Forall₂.cons (h.1 _ _ hfirst hsecond) (ih hrest h.2)

/-- Items at the same places are related. -/
theorem zipIdx_forall₂ {items : List α} {others : List β}
    (h : List.Forall₂ R items others) (index : ℕ) :
    List.Forall₂ (fun item other ↦ other.2 = item.2 ∧ R item.1 other.1) (items.zipIdx index)
      (others.zipIdx index) := by
  induction h generalizing index with
  | nil => exact List.Forall₂.nil
  | cons hhead _ ih =>
    rw [List.zipIdx_cons, List.zipIdx_cons]
    exact List.Forall₂.cons ⟨rfl, hhead⟩ (ih (index + 1))

end SchemaPilot.Library
