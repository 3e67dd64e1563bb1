import SchemaPilot.ControlPlane.ManifestSteps

/-!
# The table of policies

What an insertion and a rewriting do to the row that is active for a workspace and a type. Keys are
unique and a rewriting changes neither workspace nor type, so writing the active row of one type
leaves that of every other workspace and type as it was (`activeRowIn?_written`,
`activeRowIn?_written_of_ne`).
-/

namespace SchemaPilot.ControlPlane

open Library Library.Json SharedDomain

@[simp] theorem rewritten_policyId (policyId : String) (definition : Fields) (status : String)
    (row : GovernancePolicy) : (row.rewritten policyId definition status).policyId = row.policyId := by
  unfold GovernancePolicy.rewritten
  split_ifs <;> rfl

@[simp] theorem rewritten_workspaceId (policyId : String) (definition : Fields) (status : String)
    (row : GovernancePolicy) :
    (row.rewritten policyId definition status).workspaceId = row.workspaceId := by
  unfold GovernancePolicy.rewritten
  split_ifs <;> rfl

@[simp] theorem rewritten_policyType (policyId : String) (definition : Fields) (status : String)
    (row : GovernancePolicy) :
    (row.rewritten policyId definition status).policyType = row.policyType := by
  unfold GovernancePolicy.rewritten
  split_ifs <;> rfl

theorem rewritten_of_ne {policyId : String} {row : GovernancePolicy} (h : row.policyId ≠ policyId)
    (definition : Fields) (status : String) : row.rewritten policyId definition status = row :=
  if_neg h

/-- Keys are unique, and every row satisfies `P`. -/
structure KeyedRows (P : GovernancePolicy → Prop) (rows : List GovernancePolicy) : Prop where
  keys_nodup : (rows.map GovernancePolicy.policyId).Nodup
  all : ∀ row ∈ rows, P row

section Rows

variable {P : GovernancePolicy → Prop} {rows after : List GovernancePolicy}

theorem KeyedRows.eq_of_key (h : KeyedRows P rows) {row other : GovernancePolicy}
    (hrow : row ∈ rows) (hother : other ∈ rows) (hkey : other.policyId = row.policyId) :
    other = row :=
  List.inj_on_of_nodup_map h.keys_nodup hother hrow hkey

theorem KeyedRows.insert (h : KeyedRows P rows) {row : GovernancePolicy}
    (hinsert : insertRow GovernancePolicy.policyId rows row = .ok after) (hrow : P row) :
    KeyedRows P after := by
  obtain ⟨rfl, hnew⟩ := insertRow_eq_ok hinsert
  constructor
  · rw [List.map_append, List.map_singleton, List.nodup_append]
    refine ⟨h.keys_nodup, List.nodup_singleton _, fun key hkey new hnewKey ↦ ?_⟩
    obtain ⟨other, hother, rfl⟩ := List.mem_map.mp hkey
    rw [List.mem_singleton.mp hnewKey]
    exact hnew other hother
  · intro other hother
    rcases List.mem_append.mp hother with hold | hlast
    · exact h.all other hold
    · rw [List.mem_singleton.mp hlast]
      exact hrow

/-- Rows become those of another kind when the rewritten one does and the others are of it. -/
theorem KeyedRows.rewrite_of {Q : GovernancePolicy → Prop} (h : KeyedRows P rows)
    {policyId status : String} {definition : Fields}
    (hrow : ∀ row ∈ rows, row.policyId = policyId → Q (row.rewritten policyId definition status))
    (hother : ∀ row ∈ rows, row.policyId ≠ policyId → P row → Q row) :
    KeyedRows Q (rows.map (GovernancePolicy.rewritten policyId definition status)) := by
  constructor
  · rw [List.map_map]
    simpa [Function.comp_def] using h.keys_nodup
  · intro row hmem
    obtain ⟨old, hold, rfl⟩ := List.mem_map.mp hmem
    by_cases hkey : old.policyId = policyId
    · exact hrow old hold hkey
    · rw [rewritten_of_ne hkey]
      exact hother old hold hkey (h.all old hold)

theorem KeyedRows.rewrite (h : KeyedRows P rows) {policyId status : String} {definition : Fields}
    (hrow : ∀ row ∈ rows, row.policyId = policyId →
      P (row.rewritten policyId definition status)) :
    KeyedRows P (rows.map (GovernancePolicy.rewritten policyId definition status)) :=
  h.rewrite_of hrow fun _ _ _ hkept ↦ hkept

def GovernancePolicy.IsActive (workspaceId policyType : String) (row : GovernancePolicy) : Prop :=
  row.workspaceId = workspaceId ∧ row.policyType = policyType ∧ row.status = "active"

instance (workspaceId policyType : String) (row : GovernancePolicy) :
    Decidable (row.IsActive workspaceId policyType) :=
  inferInstanceAs (Decidable (_ ∧ _))

def activeRowIn? (workspaceId policyType : String) (rows : List GovernancePolicy) :
    Option GovernancePolicy :=
  rows.find? fun row ↦ row.IsActive workspaceId policyType

theorem activePolicyRow?_eq (workspaceId policyType : String) (db : Database) :
    activePolicyRow? workspaceId policyType db = activeRowIn? workspaceId policyType db.policies :=
  rfl

variable {workspaceId policyType : String}

theorem activeRowIn?_eq_some {row : GovernancePolicy}
    (h : activeRowIn? workspaceId policyType rows = some row) :
    row ∈ rows ∧ row.IsActive workspaceId policyType := by
  have hfound := List.find?_some h
  exact ⟨List.mem_of_find?_eq_some h, of_decide_eq_true hfound⟩

theorem activeRowIn?_eq_none (h : ∀ row ∈ rows, ¬row.IsActive workspaceId policyType) :
    activeRowIn? workspaceId policyType rows = none :=
  List.find?_eq_none.mpr fun row hrow hfound ↦ h row hrow (of_decide_eq_true hfound)

theorem activeRowIn?_cons (row : GovernancePolicy) :
    activeRowIn? workspaceId policyType (row :: rows) =
      if row.IsActive workspaceId policyType then some row
      else activeRowIn? workspaceId policyType rows := by
  by_cases hactive : row.IsActive workspaceId policyType
  · simp [activeRowIn?, hactive]
  · simp [activeRowIn?, hactive]

theorem activeRowIn?_append (row : GovernancePolicy) :
    activeRowIn? workspaceId policyType (rows ++ [row]) =
      (activeRowIn? workspaceId policyType rows).or
        (if row.IsActive workspaceId policyType then some row else none) := by
  rw [activeRowIn?, List.find?_append]
  exact congrArg _ (activeRowIn?_cons row)

/-- Rewriting rows that are not of the workspace and type changes nothing. -/
theorem activeRowIn?_rewrite_of_ne {policyId status : String} {definition : Fields}
    (h : ∀ row ∈ rows, row.policyId = policyId →
      ¬(row.workspaceId = workspaceId ∧ row.policyType = policyType)) :
    activeRowIn? workspaceId policyType
      (rows.map (GovernancePolicy.rewritten policyId definition status)) =
      activeRowIn? workspaceId policyType rows := by
  induction rows with
  | nil => rfl
  | cons row rest ih =>
    obtain ⟨hrow, hrest⟩ := List.forall_mem_cons.mp h
    rw [List.map_cons, activeRowIn?_cons, activeRowIn?_cons, ih hrest]
    by_cases hkey : row.policyId = policyId
    · have hold : ¬row.IsActive workspaceId policyType := fun hactive ↦
        hrow hkey ⟨hactive.1, hactive.2.1⟩
      have hnew : ¬(row.rewritten policyId definition status).IsActive workspaceId policyType :=
        fun hactive ↦ by
          refine hrow hkey ⟨?_, ?_⟩
          · rw [← hactive.1, rewritten_workspaceId]
          · rw [← hactive.2.1, rewritten_policyType]
      rw [if_neg hnew, if_neg hold]
    · rw [rewritten_of_ne hkey]

theorem activeRowIn?_rewrite_active {row : GovernancePolicy} {definition : Fields}
    (hkeys : (rows.map GovernancePolicy.policyId).Nodup)
    (h : activeRowIn? workspaceId policyType rows = some row) :
    activeRowIn? workspaceId policyType
      (rows.map (GovernancePolicy.rewritten row.policyId definition "active")) =
      some { row with definitionRef := storedDefinition definition } := by
  induction rows with
  | nil => cases h
  | cons first rest ih =>
    rw [List.map_cons, List.nodup_cons] at hkeys
    rw [activeRowIn?_cons] at h
    rw [List.map_cons, activeRowIn?_cons]
    by_cases hactive : first.IsActive workspaceId policyType
    · rw [if_pos hactive] at h
      obtain rfl := Option.some.inj h
      have hrewritten : first.rewritten first.policyId definition "active" =
          { first with definitionRef := storedDefinition definition } := by
        rw [GovernancePolicy.rewritten, if_pos rfl, ← hactive.2.2]
      rw [hrewritten]
      exact if_pos hactive
    · rw [if_neg hactive] at h
      have hne : first.policyId ≠ row.policyId := fun hkey ↦ hkeys.1
        (hkey ▸ List.mem_map_of_mem (List.mem_of_find?_eq_some h))
      rw [rewritten_of_ne hne, if_neg hactive]
      exact ih hkeys.2 h

/-- A definition was written over the active row of a workspace and a type, or as a new one. -/
def PolicyWritten (workspaceId policyType : String) (definition : Fields)
    (rows after : List GovernancePolicy) : Option GovernancePolicy → Prop
  | none => ∃ policyId, insertRow GovernancePolicy.policyId rows
      { policyId := policyId
        workspaceId := workspaceId
        policyType := policyType
        definitionRef := storedDefinition definition
        status := "active" } = .ok after
  | some row => after = rows.map (GovernancePolicy.rewritten row.policyId definition "active")

theorem activeRowIn?_written {definition : Fields}
    (hkeys : (rows.map GovernancePolicy.policyId).Nodup)
    (h : PolicyWritten workspaceId policyType definition rows after
      (activeRowIn? workspaceId policyType rows)) :
    ∃ row, activeRowIn? workspaceId policyType after = some row ∧
      row.definitionRef = storedDefinition definition := by
  cases hrow : activeRowIn? workspaceId policyType rows with
  | none =>
    rw [hrow] at h
    obtain ⟨policyId, hinserted⟩ := h
    obtain ⟨rfl, -⟩ := insertRow_eq_ok hinserted
    rw [activeRowIn?_append, hrow, Option.none_or, if_pos ⟨rfl, rfl, rfl⟩]
    exact ⟨_, rfl, rfl⟩
  | some row =>
    rw [hrow] at h
    rw [show after = _ from h, activeRowIn?_rewrite_active hkeys hrow]
    exact ⟨_, rfl, rfl⟩

theorem activeRowIn?_written_of_ne {definition : Fields} {workspaceId' policyType' : String}
    (hkeys : (rows.map GovernancePolicy.policyId).Nodup)
    (hne : ¬(workspaceId = workspaceId' ∧ policyType = policyType'))
    (h : PolicyWritten workspaceId policyType definition rows after
      (activeRowIn? workspaceId policyType rows)) :
    activeRowIn? workspaceId' policyType' after = activeRowIn? workspaceId' policyType' rows := by
  cases hrow : activeRowIn? workspaceId policyType rows with
  | none =>
    rw [hrow] at h
    obtain ⟨policyId, hinserted⟩ := h
    obtain ⟨rfl, -⟩ := insertRow_eq_ok hinserted
    rw [activeRowIn?_append, if_neg fun hactive ↦ hne ⟨hactive.1, hactive.2.1⟩, Option.or_none]
  | some row =>
    rw [hrow] at h
    obtain ⟨hmem, hactive⟩ := activeRowIn?_eq_some hrow
    rw [show after = _ from h]
    refine activeRowIn?_rewrite_of_ne fun other hother hkey hsame ↦ hne ?_
    rw [List.inj_on_of_nodup_map hkeys hother hmem hkey] at hsame
    exact ⟨hactive.1.symm.trans hsame.1, hactive.2.1.symm.trans hsame.2⟩

/-- Rows stay those of a kind when what is written is of the kind. -/
theorem KeyedRows.written (h : KeyedRows P rows) {definition : Fields}
    (hwritten : PolicyWritten workspaceId policyType definition rows after
      (activeRowIn? workspaceId policyType rows))
    (hrow : ∀ policyId, P
      { policyId := policyId
        workspaceId := workspaceId
        policyType := policyType
        definitionRef := storedDefinition definition
        status := "active" }) : KeyedRows P after := by
  cases hfound : activeRowIn? workspaceId policyType rows with
  | none =>
    rw [hfound] at hwritten
    obtain ⟨policyId, hinserted⟩ := hwritten
    exact h.insert hinserted (hrow policyId)
  | some row =>
    rw [hfound] at hwritten
    obtain ⟨hmem, rfl, rfl, -⟩ := activeRowIn?_eq_some hfound
    rw [show after = _ from hwritten]
    refine h.rewrite fun other hother hkey ↦ ?_
    rw [h.eq_of_key hmem hother hkey, GovernancePolicy.rewritten, if_pos rfl]
    exact hrow row.policyId

/-- A row of another key is in the table as before. -/
theorem mem_written {definition : Fields} {row : GovernancePolicy}
    (hkeys : (rows.map GovernancePolicy.policyId).Nodup) (hmem : row ∈ rows)
    (hrow : ¬row.IsActive workspaceId policyType)
    (h : PolicyWritten workspaceId policyType definition rows after
      (activeRowIn? workspaceId policyType rows)) : row ∈ after := by
  cases hfound : activeRowIn? workspaceId policyType rows with
  | none =>
    rw [hfound] at h
    obtain ⟨policyId, hinserted⟩ := h
    obtain ⟨rfl, -⟩ := insertRow_eq_ok hinserted
    exact List.mem_append_left _ hmem
  | some active =>
    rw [hfound] at h
    obtain ⟨hactive, hisActive⟩ := activeRowIn?_eq_some hfound
    rw [show after = _ from h]
    refine List.mem_map.mpr ⟨row, hmem, rewritten_of_ne (fun hkey ↦ hrow ?_) _ _⟩
    rw [List.inj_on_of_nodup_map hkeys hmem hactive hkey]
    exact hisActive

end Rows

end SchemaPilot.ControlPlane
