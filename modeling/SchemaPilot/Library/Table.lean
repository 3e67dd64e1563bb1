import Mathlib.Data.List.Sort

/-!
# Tables with a primary key

Rows in the order of their insertion, no two of which share a key. A row is inserted when its key
is new (`insert?_of_absent`), and a query lists the rows of a kind by their keys (`orderedRows`).
-/

namespace SchemaPilot.Library

structure Table (ρ : Type) {κ : Type} (key : ρ → κ) where
  rows : List ρ
  keys_nodup : (rows.map key).Nodup

namespace Table

variable {ρ κ : Type} {key : ρ → κ}

def empty : Table ρ key := ⟨[], List.nodup_nil⟩

section Keys

variable [DecidableEq κ]

def get? (table : Table ρ key) (k : κ) : Option ρ := table.rows.find? fun row ↦ key row = k

theorem get?_eq_none_iff {table : Table ρ key} {k : κ} :
    table.get? k = none ↔ ∀ row ∈ table.rows, key row ≠ k := by
  simp [get?]

theorem key_of_get? {table : Table ρ key} {k : κ} {row : ρ} (h : table.get? k = some row) :
    key row = k := by
  simpa using List.find?_some h

def insert? (table : Table ρ key) (row : ρ) : Option (Table ρ key) :=
  if h : table.get? (key row) = none then
    some
      { rows := table.rows ++ [row]
        keys_nodup := by
          rw [List.map_append, List.nodup_append]
          refine ⟨table.keys_nodup, List.nodup_singleton _, ?_⟩
          intro k hk other hother
          obtain ⟨found, hfound, rfl⟩ := List.mem_map.mp hk
          rw [List.map_singleton, List.mem_singleton] at hother
          rw [hother]
          exact get?_eq_none_iff.mp h found hfound }
  else none

/-- A row with a new key comes last. -/
theorem insert?_of_absent {table : Table ρ key} {row : ρ} (h : table.get? (key row) = none) :
    ∃ after, table.insert? row = some after ∧ after.rows = table.rows ++ [row] := by
  unfold insert?
  rw [dif_pos h]
  exact ⟨_, rfl, rfl⟩

/-- A row of another key hides nothing. -/
theorem get?_of_append {table after : Table ρ key} {row : ρ} {k : κ}
    (hrows : after.rows = table.rows ++ [row]) (hkey : key row ≠ k) :
    after.get? k = table.get? k := by
  unfold get?
  rw [hrows, List.find?_append, List.find?_singleton, if_neg (by simpa using hkey), Option.or_none]

/-- Only a row with a new key is inserted, and it comes last. -/
theorem rows_of_insert? {table after : Table ρ key} {row : ρ} (h : table.insert? row = some after) :
    table.get? (key row) = none ∧ after.rows = table.rows ++ [row] := by
  unfold insert? at h
  by_cases habsent : table.get? (key row) = none
  · rw [dif_pos habsent] at h
    cases h
    exact ⟨habsent, rfl⟩
  · rw [dif_neg habsent] at h
    cases h

theorem mem_of_get? {table : Table ρ key} {k : κ} {row : ρ} (h : table.get? k = some row) :
    row ∈ table.rows := List.mem_of_find?_eq_some h

theorem get?_of_mem {table : Table ρ key} {row : ρ} (h : row ∈ table.rows) :
    table.get? (key row) = some row := by
  rcases hfound : table.get? (key row) with _ | found
  · exact absurd rfl (get?_eq_none_iff.mp hfound row h)
  · rw [List.inj_on_of_nodup_map table.keys_nodup (mem_of_get? hfound) h (key_of_get? hfound)]

/-- Later rows do not hide an earlier one. -/
theorem get?_of_extended {table after : Table ρ key} {rows : List ρ} {k : κ} {row : ρ}
    (hrows : after.rows = table.rows ++ rows) (h : table.get? k = some row) :
    after.get? k = some row := by
  unfold get? at h ⊢
  rw [hrows, List.find?_append, h, Option.some_or]

end Keys

section Ordered

variable [LinearOrder κ] (p : ρ → Bool)

def orderedRows (table : Table ρ key) : List ρ :=
  (table.rows.filter p).insertionSort fun first second ↦ key first ≤ key second

theorem mem_orderedRows {table : Table ρ key} {row : ρ} :
    row ∈ table.orderedRows p ↔ row ∈ table.rows ∧ p row := by
  rw [orderedRows, List.mem_insertionSort, List.mem_filter]

theorem nodup_keys_orderedRows (table : Table ρ key) :
    ((table.orderedRows p).map key).Nodup := by
  have hperm : (table.orderedRows p).Perm (table.rows.filter p) := List.perm_insertionSort _ _
  rw [(hperm.map key).nodup_iff]
  exact table.keys_nodup.sublist ((List.filter_sublist).map key)

theorem pairwise_orderedRows (table : Table ρ key) :
    (table.orderedRows p).Pairwise fun first second ↦ key first ≤ key second := by
  have : Std.Total fun first second : ρ ↦ key first ≤ key second :=
    ⟨fun first second ↦ le_total (key first) (key second)⟩
  have : IsTrans ρ fun first second ↦ key first ≤ key second := ⟨fun _ _ _ ↦ le_trans⟩
  exact List.pairwise_insertionSort _ _

theorem orderedRows_of_append {table after : Table ρ key} {rows : List ρ}
    (hrows : after.rows = table.rows ++ rows) (hothers : ∀ row ∈ table.rows, p row = false)
    (hkind : ∀ row ∈ rows, p row = true)
    (hordered : rows.Pairwise fun first second ↦ key first ≤ key second) :
    after.orderedRows p = rows := by
  have hnone : table.rows.filter p = [] := by
    rw [List.filter_eq_nil_iff]
    intro row hrow
    rw [hothers row hrow]
    exact Bool.false_ne_true
  rw [orderedRows, hrows, List.filter_append, hnone, List.nil_append, List.filter_eq_self.mpr hkind]
  exact hordered.insertionSort_eq

end Ordered

end Table

end SchemaPilot.Library
