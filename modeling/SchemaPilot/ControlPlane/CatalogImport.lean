import SchemaPilot.ControlPlane.CatalogSnapshot
import SchemaPilot.Library.EffectLogic

/-!
# What a catalog import leaves

A snapshot may name keys that no row has, that a row of the workspace has, or that a row of another
workspace has. `Imported` says what one item does to its table in each case and `Grown` what the items
so far have done. From these, `references_kept_iff` says which snapshots leave every dataset with a
source of its own workspace, and `import_again_iff` which a second import passes over.
-/

namespace SchemaPilot.ControlPlane.CatalogSnapshot

open Library Library.Json SharedDomain

section Tables

variable {ρ : Type} {key : ρ → String}

def Owned (owner : ρ → String) (workspaceId : String) (table : Table ρ key) (id : String) : Prop :=
  ∃ row, table.get? id = some row ∧ owner row = workspaceId

def Taken (owner : ρ → String) (workspaceId : String) (table : Table ρ key) (id : String) : Prop :=
  ∃ row, table.get? id = some row ∧ owner row ≠ workspaceId

/-- What the import of an item makes of its key, and the rows it adds. -/
inductive Imported (owner : ρ → String) (newUuid : ℕ → String) (workspaceId : String)
    (table : Table ρ key) (original : String) : String → List ρ → Prop
  | kept : Owned owner workspaceId table original → Imported owner newUuid workspaceId table original
      original []
  | added (row : ρ) : table.get? original = none → key row = original → owner row = workspaceId →
      Imported owner newUuid workspaceId table original original [row]
  | renamed (row : ρ) (n : ℕ) : Taken owner workspaceId table original → key row = newUuid n →
      owner row = workspaceId →
      Imported owner newUuid workspaceId table original (newUuid n) [row]

/-- What the import of items with these keys has added to a table. -/
structure Grown (owner : ρ → String) (newUuid : ℕ → String) (workspaceId : String)
    (ids : List String) (before after : Table ρ key) (added : List ρ) : Prop where
  rows : after.rows = before.rows ++ added
  own : ∀ row ∈ added, owner row = workspaceId
  found : ∀ id ∈ ids, after.get? id ≠ none
  taken : ∀ id ∈ ids, Taken owner workspaceId before id → added ≠ []
  keys : ∀ row ∈ added, key row ∈ ids ∨ ∃ n, key row = newUuid n

variable {owner : ρ → String} {newUuid : ℕ → String} {workspaceId original assigned id : String}
  {before middle after : Table ρ key} {ids : List String} {added new : List ρ}

theorem Owned.not_taken (h : Owned owner workspaceId before id) :
    ¬Taken owner workspaceId before id := by
  rintro ⟨other, hother, hforeign⟩
  obtain ⟨row, hrow, hown⟩ := h
  rw [hrow] at hother
  cases hother
  exact hforeign hown

theorem Grown.start (table : Table ρ key) : Grown owner newUuid workspaceId [] table table [] where
  rows := (List.append_nil _).symm
  own _ hrow := absurd hrow List.not_mem_nil
  found _ hid := absurd hid List.not_mem_nil
  taken _ hid := absurd hid List.not_mem_nil
  keys _ hrow := absurd hrow List.not_mem_nil

/-- A key that is taken stays taken. -/
theorem Grown.still_taken (h : Grown owner newUuid workspaceId ids before after added)
    (htaken : Taken owner workspaceId before id) : Taken owner workspaceId after id := by
  obtain ⟨row, hrow, hforeign⟩ := htaken
  exact ⟨row, Table.get?_of_extended h.rows hrow, hforeign⟩

/-- No key gets taken by an import into the workspace. -/
theorem Grown.taken_before (h : Grown owner newUuid workspaceId ids before after added)
    (htaken : Taken owner workspaceId after id) : Taken owner workspaceId before id := by
  obtain ⟨row, hrow, hforeign⟩ := htaken
  have hmem : row ∈ before.rows ++ added := h.rows ▸ Table.mem_of_get? hrow
  rcases List.mem_append.mp hmem with hold | hnew
  · exact ⟨row, Table.key_of_get? hrow ▸ Table.get?_of_mem hold, hforeign⟩
  · exact absurd (h.own row hnew) hforeign

/-- A row of the workspace was there, or came with one of the keys or under a new one. -/
theorem Grown.owned_before (h : Grown owner newUuid workspaceId ids before after added)
    (howned : Owned owner workspaceId after id) :
    Owned owner workspaceId before id ∨ id ∈ ids ∨ ∃ n, id = newUuid n := by
  obtain ⟨row, hrow, hown⟩ := howned
  have hkey := Table.key_of_get? hrow
  have hmem : row ∈ before.rows ++ added := h.rows ▸ Table.mem_of_get? hrow
  rcases List.mem_append.mp hmem with hold | hnew
  · exact Or.inl ⟨row, hkey ▸ Table.get?_of_mem hold, hown⟩
  · exact Or.inr (hkey ▸ h.keys row hnew)

/-- A key that no other workspace has is the workspace's own after the import of its item. -/
theorem Grown.owned (h : Grown owner newUuid workspaceId ids before after added) (hid : id ∈ ids)
    (hfree : ¬Taken owner workspaceId before id) : Owned owner workspaceId after id := by
  rcases hrow : after.get? id with _ | row
  · exact absurd hrow (h.found id hid)
  · by_cases hown : owner row = workspaceId
    · exact ⟨row, hrow, hown⟩
    · exact absurd (h.taken_before ⟨row, hrow, hown⟩) hfree

/-- One more item. -/
theorem Grown.step (h : Grown owner newUuid workspaceId ids before middle added)
    (hitem : Imported owner newUuid workspaceId middle original assigned new)
    (hrows : after.rows = middle.rows ++ new) :
    Grown owner newUuid workspaceId (ids ++ [original]) before after (added ++ new) := by
  have hown : ∀ row ∈ new, owner row = workspaceId ∧
      (key row = original ∨ ∃ n, key row = newUuid n) := by
    intro row hrow
    cases hitem with
    | kept howned => exact absurd hrow List.not_mem_nil
    | added found habsent hkey hown =>
      rw [List.mem_singleton.mp hrow]
      exact ⟨hown, Or.inl hkey⟩
    | renamed found n htaken hkey hown =>
      rw [List.mem_singleton.mp hrow]
      exact ⟨hown, Or.inr ⟨n, hkey⟩⟩
  have hstill : ∀ {id}, middle.get? id ≠ none → after.get? id ≠ none := by
    intro id hfound
    obtain ⟨row, hrow⟩ := Option.ne_none_iff_exists'.mp hfound
    rw [Table.get?_of_extended hrows hrow]
    exact Option.some_ne_none row
  constructor
  · rw [hrows, h.rows, List.append_assoc]
  · intro row hrow
    rcases List.mem_append.mp hrow with hold | hnew
    · exact h.own row hold
    · exact (hown row hnew).1
  · intro id hid
    rcases List.mem_append.mp hid with hold | hlast
    · exact hstill (h.found id hold)
    · rw [List.mem_singleton.mp hlast]
      cases hitem with
      | kept howned =>
        obtain ⟨row, hrow, -⟩ := howned
        exact hstill (hrow ▸ Option.some_ne_none row)
      | added row habsent hkey hown =>
        intro hnone
        exact Table.get?_eq_none_iff.mp hnone row (by simp [hrows]) hkey
      | renamed row n htaken hkey hown =>
        obtain ⟨found, hfound, -⟩ := htaken
        exact hstill (hfound ▸ Option.some_ne_none found)
  · intro id hid htaken
    rcases List.mem_append.mp hid with hold | hlast
    · exact List.append_ne_nil_of_left_ne_nil (h.taken id hold htaken) new
    · rw [List.mem_singleton.mp hlast] at htaken
      have hmiddle := h.still_taken htaken
      cases hitem with
      | kept howned => exact absurd hmiddle howned.not_taken
      | added row habsent hkey hown =>
        obtain ⟨found, hfound, -⟩ := hmiddle
        rw [habsent] at hfound
        cases hfound
      | renamed row n _ hkey hown =>
        exact List.append_ne_nil_of_right_ne_nil added (List.cons_ne_nil row [])
  · intro row hrow
    rcases List.mem_append.mp hrow with hold | hnew
    · exact (h.keys row hold).imp_left fun hmem ↦ List.mem_append_left _ hmem
    · refine (hown row hnew).2.imp_left fun hkey ↦ ?_
      rw [hkey]
      exact List.mem_append_right _ (List.mem_singleton_self _)

theorem Grown.others (h : Grown owner newUuid workspaceId ids before after added) :
    (after.rows.filter fun row ↦ owner row ≠ workspaceId) =
      before.rows.filter fun row ↦ owner row ≠ workspaceId := by
  have hnone : (added.filter fun row ↦ owner row ≠ workspaceId) = [] := by
    rw [List.filter_eq_nil_iff]
    intro row hrow
    simp [h.own row hrow]
  rw [h.rows, List.filter_append, hnone, List.append_nil]

end Tables

section Items

variable {newUuid : ℕ → String} {workspaceId : String} {state : CatalogState}

/-- The key of an item of `snapshot["sources"]`. -/
def sourceIdOf (item : Fields) : String := strippedText item "source_id" ""

/-- The key of an item of `snapshot["datasets"]`. -/
def datasetIdOf (item : Fields) : String := strippedText item "dataset_id" ""

/-- The items of `snapshot["sources"]` that an import does not pass over. -/
def sourceItems (items : List Fields) : List Fields := items.filter fun item ↦ sourceIdOf item ≠ ""

/-- The items of `snapshot["datasets"]` that an import does not pass over. -/
def datasetItems (items : List Fields) : List Fields :=
  items.filter fun item ↦ datasetIdOf item ≠ "" ∧ sourceIdOf item ≠ ""

/-- The key that a row gets, and whether a row is added under it. -/
theorem ends_importKey {ρ : Type} (owner : ρ → String) {key : ρ → String} {table : Table ρ key}
    (original : String) {Q : String × Bool → CatalogState → Prop} {E : Exn → CatalogState → Prop}
    (hkept : Owned owner workspaceId table original → Q (original, false) state)
    (hadded : table.get? original = none → Q (original, true) state)
    (hrenamed : Taken owner workspaceId table original →
      Q (newUuid state.issued, true) { state with issued := state.issued + 1 }) :
    Effect.Ends (importKey newUuid workspaceId original ((table.get? original).map owner)) state Q E := by
  rcases hrow : table.get? original with _ | row
  · exact Effect.ends_pure (hadded hrow)
  · rw [Option.map_some, importKey]
    by_cases hown : owner row = workspaceId
    · rw [if_pos hown]
      exact Effect.ends_pure (hkept ⟨row, hrow, hown⟩)
    · rw [if_neg hown]
      constructor
      · intro value after hrun
        cases hrun
        exact hrenamed ⟨row, hrow, hown⟩
      · intro exception after hrun
        cases hrun

theorem ends_addSource {row : CatalogSource} {Q : Unit → CatalogState → Prop}
    (h : ∀ sources, state.sources.get? row.sourceId = none →
      sources.rows = state.sources.rows ++ [row] → Q () { state with sources := sources }) :
    Effect.Ends (addSource row) state Q fun _ _ ↦ True := by
  refine ⟨fun {value after} hrun ↦ ?_, fun _ ↦ trivial⟩
  rcases hinsert : state.sources.insert? row with _ | sources
  · rw [addSource, hinsert] at hrun
    cases hrun
  · rw [addSource, hinsert] at hrun
    cases hrun
    exact h sources (Table.rows_of_insert? hinsert).1 (Table.rows_of_insert? hinsert).2

theorem ends_addDataset {row : CatalogDataset} {Q : Unit → CatalogState → Prop}
    (h : ∀ datasets, state.datasets.get? row.datasetId = none →
      datasets.rows = state.datasets.rows ++ [row] → Q () { state with datasets := datasets }) :
    Effect.Ends (addDataset row) state Q fun _ _ ↦ True := by
  refine ⟨fun {value after} hrun ↦ ?_, fun _ ↦ trivial⟩
  rcases hinsert : state.datasets.insert? row with _ | datasets
  · rw [addDataset, hinsert] at hrun
    cases hrun
  · rw [addDataset, hinsert] at hrun
    cases hrun
    exact h datasets (Table.rows_of_insert? hinsert).1 (Table.rows_of_insert? hinsert).2

theorem ends_importSource (newUuid : ℕ → String) (progress : ImportProgress) (item : Fields) :
    Effect.Ends (importSource newUuid workspaceId progress item) state
      (fun next after ↦
        if sourceIdOf item = "" then next = progress ∧ after = state
        else ∃ assigned new sources issued,
          Imported CatalogSource.workspaceId newUuid workspaceId state.sources (sourceIdOf item)
            assigned new ∧
          sources.rows = state.sources.rows ++ new ∧
          after = { state with sources := sources, issued := issued } ∧
          next.sourceIdMap = (sourceIdOf item, assigned) :: progress.sourceIdMap)
      fun _ _ ↦ True := by
  unfold importSource
  change Effect.Ends (if sourceIdOf item = "" then _ else _) _ _ _
  by_cases hempty : sourceIdOf item = ""
  · rw [if_pos hempty]
    simp only [if_pos hempty]
    exact Effect.ends_pure ⟨rfl, rfl⟩
  · rw [if_neg hempty]
    simp only [if_neg hempty]
    refine Effect.ends_read_bind ?_
    refine Effect.Ends.bind (ends_importKey CatalogSource.workspaceId (sourceIdOf item)
      (Q := fun found after ↦ ∃ issued, after = { state with issued := issued } ∧
        if found.2 then ∀ row : CatalogSource, row.sourceId = found.1 → row.workspaceId = workspaceId →
          Imported CatalogSource.workspaceId newUuid workspaceId state.sources (sourceIdOf item)
            found.1 [row]
        else Imported CatalogSource.workspaceId newUuid workspaceId state.sources (sourceIdOf item)
          found.1 []) ?_ ?_ ?_) ?_
    · exact fun howned ↦ ⟨state.issued, rfl, Imported.kept howned⟩
    · exact fun habsent ↦ ⟨state.issued, rfl, fun row hkey hown ↦ Imported.added row habsent hkey hown⟩
    · exact fun htaken ↦ ⟨_, rfl, fun row hkey hown ↦ Imported.renamed row _ htaken hkey hown⟩
    · rintro ⟨assigned, isNew⟩ _ ⟨issued, rfl, hfound⟩
      cases isNew with
      | true =>
        refine Effect.Ends.bind (ends_addSource fun sources hkey hrows ↦ ?_) fun _ after hafter ↦
          Effect.ends_pure hafter
        exact ⟨assigned, _, sources, issued, hfound _ rfl rfl, hrows, rfl, rfl⟩
      | false =>
        refine Effect.ends_pure ⟨assigned, [], state.sources, issued, hfound, ?_, rfl, rfl⟩
        exact (List.append_nil _).symm

/-- The source that a dataset of the snapshot is imported with. -/
def resolvedSource (sourceIdMap : List (String × String)) (item : Fields) : String :=
  (sourceIdMap.lookup (sourceIdOf item)).getD (sourceIdOf item)

theorem ends_importDataset (newUuid : ℕ → String) (progress : ImportProgress) (item : Fields) :
    Effect.Ends (importDataset newUuid workspaceId progress item) state
      (fun next after ↦ next.sourceIdMap = progress.sourceIdMap ∧
        if datasetIdOf item = "" ∨ sourceIdOf item = "" then next = progress ∧ after = state
        else ∃ assigned new datasets issued,
          Imported CatalogDataset.workspaceId newUuid workspaceId state.datasets (datasetIdOf item)
            assigned new ∧
          datasets.rows = state.datasets.rows ++ new ∧
          after = { state with datasets := datasets, issued := issued } ∧
          ∀ row ∈ new, row.sourceId = resolvedSource progress.sourceIdMap item)
      fun _ _ ↦ True := by
  unfold importDataset
  change Effect.Ends (if datasetIdOf item = "" ∨ sourceIdOf item = "" then _ else _) _ _ _
  by_cases hempty : datasetIdOf item = "" ∨ sourceIdOf item = ""
  · rw [if_pos hempty]
    simp only [if_pos hempty]
    exact Effect.ends_pure ⟨rfl, rfl, rfl⟩
  · rw [if_neg hempty]
    simp only [if_neg hempty]
    refine Effect.ends_read_bind ?_
    refine Effect.Ends.bind (ends_importKey CatalogDataset.workspaceId (datasetIdOf item)
      (Q := fun found after ↦ ∃ issued, after = { state with issued := issued } ∧
        if found.2 then ∀ row : CatalogDataset, row.datasetId = found.1 →
          row.workspaceId = workspaceId →
          Imported CatalogDataset.workspaceId newUuid workspaceId state.datasets (datasetIdOf item)
            found.1 [row]
        else Imported CatalogDataset.workspaceId newUuid workspaceId state.datasets
          (datasetIdOf item) found.1 []) ?_ ?_ ?_) ?_
    · exact fun howned ↦ ⟨state.issued, rfl, Imported.kept howned⟩
    · exact fun habsent ↦ ⟨state.issued, rfl, fun row hkey hown ↦ Imported.added row habsent hkey hown⟩
    · exact fun htaken ↦ ⟨_, rfl, fun row hkey hown ↦ Imported.renamed row _ htaken hkey hown⟩
    · rintro ⟨assigned, isNew⟩ _ ⟨issued, rfl, hfound⟩
      cases isNew with
      | true =>
        have hversion : Effect.Ends (Effect.ofExcept (toInt (getD item "schema_version" (.int 1))))
            { state with issued := issued }
            (fun _ after ↦ after = { state with issued := issued }) (fun _ _ ↦ True) :=
          Effect.ends_ofExcept (fun _ _ ↦ rfl) fun _ _ ↦ trivial
        refine hversion.bind ?_
        rintro schemaVersion _ rfl
        refine Effect.Ends.bind (ends_addDataset fun datasets hkey hrows ↦ ?_) fun _ after hafter ↦
          Effect.ends_pure ⟨rfl, hafter⟩
        refine ⟨assigned, _, datasets, issued, hfound _ rfl rfl, hrows, rfl, fun row hrow ↦ ?_⟩
        rw [List.mem_singleton.mp hrow]
        rfl
      | false =>
        refine Effect.ends_pure ⟨rfl, assigned, [], state.datasets, issued, hfound, ?_, rfl, ?_⟩
        · exact (List.append_nil _).symm
        · exact fun row hrow ↦ absurd hrow List.not_mem_nil

end Items

section Loops

variable {newUuid : ℕ → String} {workspaceId : String} {state : CatalogState}

/-- What the first loop has done when it has taken up some items. -/
structure SourcesImported (newUuid : ℕ → String) (workspaceId : String) (before : CatalogState)
    (items : List Fields) (progress : ImportProgress) (after : CatalogState)
    (added : List CatalogSource) : Prop where
  sources : Grown CatalogSource.workspaceId newUuid workspaceId
    ((sourceItems items).map sourceIdOf) before.sources after.sources added
  datasets : after.datasets = before.datasets
  workspaces : after.workspaces = before.workspaces
  mapped : ∀ id assigned, progress.sourceIdMap.lookup id = some assigned →
    ∃ row ∈ after.sources.rows, row.sourceId = assigned ∧ row.workspaceId = workspaceId
  listed : ∀ id, progress.sourceIdMap.lookup id ≠ none ↔ id ∈ (sourceItems items).map sourceIdOf

/-- The item whose key makes a row, given the items before it. -/
def AddsDataset (workspaceId : String) (state : CatalogState) (earlier : List Fields)
    (item : Fields) : Prop :=
  datasetIdOf item ≠ "" ∧ sourceIdOf item ≠ "" ∧
    ¬Owned CatalogDataset.workspaceId workspaceId state.datasets (datasetIdOf item) ∧
    (state.datasets.get? (datasetIdOf item) = none →
      datasetIdOf item ∉ (datasetItems earlier).map datasetIdOf)

/-- What the second loop has done when it has taken up some items. -/
structure DatasetsImported (newUuid : ℕ → String) (workspaceId : String) (before : CatalogState)
    (sourceIdMap : List (String × String)) (items : List Fields) (progress : ImportProgress)
    (after : CatalogState) (added : List CatalogDataset) : Prop where
  datasets : Grown CatalogDataset.workspaceId newUuid workspaceId
    ((datasetItems items).map datasetIdOf) before.datasets after.datasets added
  sources : after.sources = before.sources
  workspaces : after.workspaces = before.workspaces
  sameMap : progress.sourceIdMap = sourceIdMap
  fromItem : ∀ row ∈ added, ∃ earlier item later, items = earlier ++ item :: later ∧
    AddsDataset workspaceId before earlier item ∧ row.sourceId = resolvedSource sourceIdMap item
  ofItem : ∀ earlier item later, items = earlier ++ item :: later →
    AddsDataset workspaceId before earlier item → (∀ n, datasetIdOf item ≠ newUuid n) →
    ∃ row ∈ added, row.sourceId = resolvedSource sourceIdMap item

theorem sourceItems_concat (items : List Fields) (item : Fields) :
    (sourceItems (items ++ [item])).map sourceIdOf = (sourceItems items).map sourceIdOf ++
      if sourceIdOf item = "" then [] else [sourceIdOf item] := by
  unfold sourceItems
  rw [List.filter_append, List.map_append]
  by_cases hempty : sourceIdOf item = "" <;> simp [hempty]

theorem datasetItems_concat (items : List Fields) (item : Fields) :
    (datasetItems (items ++ [item])).map datasetIdOf = (datasetItems items).map datasetIdOf ++
      if datasetIdOf item = "" ∨ sourceIdOf item = "" then [] else [datasetIdOf item] := by
  unfold datasetItems
  rw [List.filter_append, List.map_append]
  by_cases hempty : datasetIdOf item = "" ∨ sourceIdOf item = ""
  · rcases hempty with hempty | hempty <;> simp [hempty]
  · obtain ⟨hdataset, hsource⟩ := not_or.mp hempty
    simp [hdataset, hsource]

theorem Imported.present {ρ : Type} {key owner : ρ → String} {table after : Table ρ key}
    {original assigned : String} {new : List ρ}
    (h : Imported owner newUuid workspaceId table original assigned new)
    (hrows : after.rows = table.rows ++ new) :
    ∃ row ∈ after.rows, key row = assigned ∧ owner row = workspaceId := by
  cases h with
  | kept howned =>
    obtain ⟨row, hrow, hown⟩ := howned
    refine ⟨row, ?_, Table.key_of_get? hrow, hown⟩
    rw [hrows, List.append_nil]
    exact Table.mem_of_get? hrow
  | added row habsent hkey hown => exact ⟨row, by simp [hrows], hkey, hown⟩
  | renamed row n htaken hkey hown => exact ⟨row, by simp [hrows], hkey, hown⟩

/-- The first loop. -/
theorem ends_importSources (newUuid : ℕ → String) (items : List Fields) :
    Effect.Ends (items.foldlM (importSource newUuid workspaceId) ⟨0, 0, []⟩) state
      (fun progress after ↦
        ∃ added, SourcesImported newUuid workspaceId state items progress after added)
      fun _ _ ↦ True := by
  refine Effect.ends_foldlM (I := fun done progress after ↦
    ∃ added, SourcesImported newUuid workspaceId state done progress after added) ?_ ?_
  · refine ⟨[], Grown.start state.sources, rfl, rfl, fun id assigned hfound ↦ ?_, fun id ↦ ?_⟩
    · cases hfound
    · simp [sourceItems]
  · rintro done item - progress middle ⟨added, hdone⟩
    refine (ends_importSource newUuid progress item).mono ?_ fun _ _ _ ↦ trivial
    intro next after hstep
    by_cases hempty : sourceIdOf item = ""
    · rw [if_pos hempty] at hstep
      obtain ⟨rfl, rfl⟩ := hstep
      have hsame : (sourceItems (done ++ [item])).map sourceIdOf =
          (sourceItems done).map sourceIdOf := by
        rw [sourceItems_concat, if_pos hempty, List.append_nil]
      refine ⟨added, ?_, hdone.datasets, hdone.workspaces, hdone.mapped, ?_⟩
      · rw [hsame]
        exact hdone.sources
      · rw [hsame]
        exact hdone.listed
    · rw [if_neg hempty] at hstep
      obtain ⟨assigned, new, sources, issued, hitem, hrows, rfl, hmap⟩ := hstep
      have hids : (sourceItems (done ++ [item])).map sourceIdOf =
          (sourceItems done).map sourceIdOf ++ [sourceIdOf item] := by
        rw [sourceItems_concat, if_neg hempty]
      refine ⟨added ++ new, ?_, hdone.datasets, hdone.workspaces, ?_, ?_⟩
      · rw [hids]
        exact hdone.sources.step hitem hrows
      · intro id found hfound
        rw [hmap, List.lookup_cons] at hfound
        split at hfound
        · cases hfound
          exact hitem.present hrows
        · obtain ⟨row, hrow, hrest⟩ := hdone.mapped id found hfound
          refine ⟨row, ?_, hrest⟩
          rw [hrows]
          exact List.mem_append_left _ hrow
      · intro id
        rw [hids, hmap, List.lookup_cons, List.mem_append, List.mem_singleton, ← hdone.listed id]
        by_cases hsame : id = sourceIdOf item
        · simp [hsame]
        · rw [beq_false_of_ne hsame, or_iff_left hsame]

/-- A row of the workspace whose key no row had has the key of an earlier item, or a new one. -/
theorem DatasetsImported.not_owned {before after : CatalogState}
    {sourceIdMap : List (String × String)} {done : List Fields} {item : Fields}
    {progress : ImportProgress} {added : List CatalogDataset}
    (h : DatasetsImported newUuid workspaceId before sourceIdMap done progress after added)
    (hadds : AddsDataset workspaceId before done item)
    (hfresh : ∀ n, datasetIdOf item ≠ newUuid n) :
    ¬Owned CatalogDataset.workspaceId workspaceId after.datasets (datasetIdOf item) := by
  intro howned
  have hnot := hadds.2.2.1
  rcases h.datasets.owned_before howned with hbefore | hearlier | ⟨n, hn⟩
  · exact hnot hbefore
  · by_cases hnone : before.datasets.get? (datasetIdOf item) = none
    · exact hadds.2.2.2 hnone hearlier
    · obtain ⟨row, hrow⟩ := Option.ne_none_iff_exists'.mp hnone
      have htaken : Taken CatalogDataset.workspaceId workspaceId before.datasets
          (datasetIdOf item) := ⟨row, hrow, fun hown ↦ hnot ⟨row, hrow, hown⟩⟩
      exact howned.not_taken (h.datasets.still_taken htaken)
  · exact hfresh n hn

/-- An item that adds a row is one whose key is new or another workspace's. -/
theorem DatasetsImported.adds {before after : CatalogState} {sourceIdMap : List (String × String)}
    {done : List Fields} {item : Fields} {progress : ImportProgress} {added new : List CatalogDataset}
    {assigned : String}
    (h : DatasetsImported newUuid workspaceId before sourceIdMap done progress after added)
    (hdataset : datasetIdOf item ≠ "") (hsource : sourceIdOf item ≠ "")
    (hitem : Imported CatalogDataset.workspaceId newUuid workspaceId after.datasets
      (datasetIdOf item) assigned new) (hnew : new ≠ []) :
    AddsDataset workspaceId before done item := by
  refine ⟨hdataset, hsource, ?_, ?_⟩
  · rintro ⟨row, hrow, hown⟩
    have howned : Owned CatalogDataset.workspaceId workspaceId after.datasets (datasetIdOf item) :=
      ⟨row, Table.get?_of_extended h.datasets.rows hrow, hown⟩
    cases hitem with
    | kept _ => exact hnew rfl
    | added _ habsent =>
      obtain ⟨_, hfound, -⟩ := howned
      rw [habsent] at hfound
      cases hfound
    | renamed _ _ htaken => exact howned.not_taken htaken
  · intro hnone hearlier
    have howned := h.datasets.owned hearlier (by
      rintro ⟨row, hrow, -⟩
      rw [hnone] at hrow
      cases hrow)
    cases hitem with
    | kept _ => exact hnew rfl
    | added _ habsent =>
      obtain ⟨_, hfound, -⟩ := howned
      rw [habsent] at hfound
      cases hfound
    | renamed _ _ htaken => exact howned.not_taken htaken

/-- The second loop. -/
theorem ends_importDatasets (newUuid : ℕ → String) (start : ImportProgress) (items : List Fields) :
    Effect.Ends (items.foldlM (importDataset newUuid workspaceId) start) state
      (fun progress after ↦ ∃ added,
        DatasetsImported newUuid workspaceId state start.sourceIdMap items progress after added)
      fun _ _ ↦ True := by
  refine Effect.ends_foldlM (I := fun done progress after ↦ ∃ added,
    DatasetsImported newUuid workspaceId state start.sourceIdMap done progress after added) ?_ ?_
  · refine ⟨[], Grown.start state.datasets, rfl, rfl, rfl, fun row hrow ↦ ?_, ?_⟩
    · exact absurd hrow List.not_mem_nil
    · intro earlier item later hitems
      simp at hitems
  · rintro done item - progress middle ⟨added, hdone⟩
    refine (ends_importDataset newUuid progress item).mono ?_ fun _ _ _ ↦ trivial
    rintro next after ⟨hmap, hstep⟩
    -- an item that adds a row comes before the last one, or is the last one
    have hsplit : ∀ {earlier other later}, done ++ [item] = earlier ++ other :: later →
        (∃ rest, done = earlier ++ other :: rest) ∨ earlier = done ∧ other = item := by
      intro earlier other later hitems
      rcases List.eq_nil_or_concat later with rfl | ⟨rest, last, rfl⟩
      · obtain ⟨rfl, hlast⟩ := List.append_inj' hitems rfl
        cases hlast
        exact Or.inr ⟨rfl, rfl⟩
      · rw [List.concat_eq_append, ← List.cons_append, ← List.append_assoc] at hitems
        exact Or.inl ⟨rest, (List.append_inj' hitems rfl).1⟩
    have hold : ∀ row ∈ added, ∃ earlier other later, done ++ [item] = earlier ++ other :: later ∧
        AddsDataset workspaceId state earlier other ∧
        row.sourceId = resolvedSource start.sourceIdMap other := by
      intro row hrow
      obtain ⟨earlier, other, later, rfl, hother⟩ := hdone.fromItem row hrow
      exact ⟨earlier, other, later ++ [item], by simp, hother⟩
    by_cases hempty : datasetIdOf item = "" ∨ sourceIdOf item = ""
    · rw [if_pos hempty] at hstep
      obtain ⟨rfl, rfl⟩ := hstep
      refine ⟨added, ?_, hdone.sources, hdone.workspaces, hdone.sameMap, hold, ?_⟩
      · rw [datasetItems_concat, if_pos hempty, List.append_nil]
        exact hdone.datasets
      · intro earlier other later hitems hadds
        rcases hsplit hitems with ⟨rest, hrest⟩ | ⟨rfl, rfl⟩
        · exact hdone.ofItem earlier other rest hrest hadds
        · exact absurd hempty (not_or.mpr ⟨hadds.1, hadds.2.1⟩)
    · rw [if_neg hempty] at hstep
      obtain ⟨assigned, new, datasets, issued, hitem, hrows, rfl, hsource⟩ := hstep
      obtain ⟨hdatasetId, hsourceId⟩ := not_or.mp hempty
      rw [hdone.sameMap] at hsource
      refine ⟨added ++ new, ?_, hdone.sources, hdone.workspaces, hmap.trans hdone.sameMap, ?_, ?_⟩
      · rw [datasetItems_concat, if_neg hempty]
        exact hdone.datasets.step hitem hrows
      · intro row hrow
        rcases List.mem_append.mp hrow with hrow | hrow
        · exact hold row hrow
        · exact ⟨done, item, [], rfl,
            hdone.adds hdatasetId hsourceId hitem (List.ne_nil_of_mem hrow), hsource row hrow⟩
      · intro earlier other later hitems hadds hfresh
        rcases hsplit hitems with ⟨rest, hrest⟩ | ⟨rfl, rfl⟩
        · obtain ⟨row, hrow, hresolved⟩ := hdone.ofItem earlier other rest hrest hadds hfresh
          exact ⟨row, List.mem_append_left _ hrow, hresolved⟩
        · have hnotOwned := hdone.not_owned hadds hfresh
          cases hitem with
          | kept howned => exact absurd howned hnotOwned
          | added row =>
            exact ⟨row, List.mem_append_right _ (List.mem_singleton_self _),
              hsource row (List.mem_singleton_self _)⟩
          | renamed row =>
            exact ⟨row, List.mem_append_right _ (List.mem_singleton_self _),
              hsource row (List.mem_singleton_self _)⟩

end Loops

section Import

variable {newUuid : ℕ → String} {workspaceId : String} {snapshot counts : Fields}
  {before after : CatalogState}

def snapshotWorkspace (workspaceId : String) (snapshot : Fields) : String :=
  match getD snapshot "workspace" (.obj []) with
  | .obj workspaceSnapshot => itemText workspaceSnapshot "workspace_id" workspaceId
  | _ => ""

def importCounts (progress : ImportProgress) : Fields :=
  [("imported_sources", .int progress.importedSources),
    ("imported_datasets", .int progress.importedDatasets)]

theorem importCatalogSnapshot_ok_iff :
    importCatalogSnapshot newUuid workspaceId snapshot before = (.ok counts, after) ↔
      before.workspaces.get? workspaceId ≠ none ∧
      ¬(snapshotWorkspace workspaceId snapshot ≠ "" ∧
        snapshotWorkspace workspaceId snapshot ≠ workspaceId) ∧
      ∃ first middle last,
        (itemsOf snapshot "sources").foldlM (importSource newUuid workspaceId) ⟨0, 0, []⟩ before =
          (.ok first, middle) ∧
        (itemsOf snapshot "datasets").foldlM (importDataset newUuid workspaceId) first middle =
          (.ok last, after) ∧
        counts = importCounts last := by
  unfold importCatalogSnapshot
  rw [Effect.bind_apply, Effect.read_apply]
  dsimp only
  rcases before.workspaces.get? workspaceId with _ | workspace
  · simp
  · change (if snapshotWorkspace workspaceId snapshot ≠ "" ∧
      snapshotWorkspace workspaceId snapshot ≠ workspaceId then _ else _ : CatalogHandler Fields)
        before = _ ↔ _
    by_cases hmismatch : snapshotWorkspace workspaceId snapshot ≠ "" ∧
      snapshotWorkspace workspaceId snapshot ≠ workspaceId
    · rw [if_pos hmismatch]
      constructor
      · intro hrun
        cases hrun
      · rintro ⟨-, hnot, -⟩
        exact absurd hmismatch hnot
    · rw [if_neg hmismatch, Effect.bind_eq_ok_iff]
      constructor
      · rintro ⟨first, middle, hfirst, hrest⟩
        obtain ⟨last, final, hlast, hreturn⟩ := Effect.bind_eq_ok_iff.mp hrest
        cases hreturn
        exact ⟨Option.some_ne_none _, hmismatch, first, middle, last, hfirst, hlast, rfl⟩
      · rintro ⟨-, -, first, middle, last, hfirst, hlast, rfl⟩
        exact ⟨first, middle, hfirst, Effect.bind_eq_ok_iff.mpr ⟨last, after, hlast, rfl⟩⟩

/-- What an import that returns has done to both tables. -/
theorem imported_of_ok
    (hrun : importCatalogSnapshot newUuid workspaceId snapshot before = (.ok counts, after)) :
    ∃ first middle last newSources newDatasets,
      SourcesImported newUuid workspaceId before (itemsOf snapshot "sources") first middle
        newSources ∧
      DatasetsImported newUuid workspaceId middle first.sourceIdMap (itemsOf snapshot "datasets")
        last after newDatasets := by
  obtain ⟨-, -, first, middle, last, hfirst, hlast, -⟩ := importCatalogSnapshot_ok_iff.mp hrun
  obtain ⟨newSources, hsources⟩ := (ends_importSources newUuid _).of_ok hfirst
  obtain ⟨newDatasets, hdatasets⟩ := (ends_importDatasets newUuid first _).of_ok hlast
  exact ⟨first, middle, last, newSources, newDatasets, hsources, hdatasets⟩

/-- Each dataset's source is there and belongs to the dataset's workspace. -/
def ReferencesKept (state : CatalogState) : Prop :=
  ∀ dataset ∈ state.datasets.rows, ∃ source ∈ state.sources.rows,
    source.sourceId = dataset.sourceId ∧ source.workspaceId = dataset.workspaceId

/-- The rows of other workspaces are as they were. -/
def OthersUnchanged (workspaceId : String) (before after : CatalogState) : Prop :=
  after.workspaces = before.workspaces ∧
    (after.sources.rows.filter fun row ↦ row.workspaceId ≠ workspaceId) =
      (before.sources.rows.filter fun row ↦ row.workspaceId ≠ workspaceId) ∧
    (after.datasets.rows.filter fun row ↦ row.workspaceId ≠ workspaceId) =
      before.datasets.rows.filter fun row ↦ row.workspaceId ≠ workspaceId

/-- Every dataset item that adds a row names a source which the snapshot lists or which the workspace
has. -/
def SourcesNamed (workspaceId : String) (snapshot : Fields) (state : CatalogState) : Prop :=
  ∀ earlier item later, itemsOf snapshot "datasets" = earlier ++ item :: later →
    AddsDataset workspaceId state earlier item →
    sourceIdOf item ∈ (sourceItems (itemsOf snapshot "sources")).map sourceIdOf ∨
      Owned CatalogSource.workspaceId workspaceId state.sources (sourceIdOf item)

/-- `uuid4` gives out no key that the snapshot names. -/
def FreshUuids (newUuid : ℕ → String) (snapshot : Fields) : Prop :=
  ∀ item ∈ itemsOf snapshot "sources" ++ itemsOf snapshot "datasets",
    ∀ n, sourceIdOf item ≠ newUuid n ∧ datasetIdOf item ≠ newUuid n

/-- The source that a dataset item is imported with is one of the workspace, exactly when the snapshot
lists it or the workspace had it. -/
theorem SourcesImported.resolved_iff {items : List Fields} {progress : ImportProgress}
    {added : List CatalogSource} {item : Fields}
    (h : SourcesImported newUuid workspaceId before items progress after added)
    (hfresh : ∀ n, sourceIdOf item ≠ newUuid n) :
    Owned CatalogSource.workspaceId workspaceId after.sources
        (resolvedSource progress.sourceIdMap item) ↔
      sourceIdOf item ∈ (sourceItems items).map sourceIdOf ∨
        Owned CatalogSource.workspaceId workspaceId before.sources (sourceIdOf item) := by
  unfold resolvedSource
  rcases hfound : progress.sourceIdMap.lookup (sourceIdOf item) with _ | assigned
  · have hnot : sourceIdOf item ∉ (sourceItems items).map sourceIdOf :=
      fun hmem ↦ (h.listed _).mpr hmem hfound
    rw [Option.getD_none, or_iff_right hnot]
    constructor
    · intro howned
      rcases h.sources.owned_before howned with hbefore | hlisted | ⟨n, hn⟩
      · exact hbefore
      · exact absurd hlisted hnot
      · exact absurd hn (hfresh n)
    · rintro ⟨row, hrow, hown⟩
      exact ⟨row, Table.get?_of_extended h.sources.rows hrow, hown⟩
  · rw [Option.getD_some]
    obtain ⟨row, hrow, rfl, hown⟩ := h.mapped _ _ hfound
    refine iff_of_true ⟨row, Table.get?_of_mem hrow, hown⟩ (Or.inl ?_)
    rw [← h.listed, hfound]
    exact Option.some_ne_none _

theorem mem_rows_iff_owned {state : CatalogState} {sourceId : String} :
    (∃ source ∈ state.sources.rows, source.sourceId = sourceId ∧ source.workspaceId = workspaceId) ↔
      Owned CatalogSource.workspaceId workspaceId state.sources sourceId := by
  constructor
  · rintro ⟨source, hsource, rfl, hown⟩
    exact ⟨source, Table.get?_of_mem hsource, hown⟩
  · rintro ⟨source, hsource, hown⟩
    exact ⟨source, Table.mem_of_get? hsource, Table.key_of_get? hsource, hown⟩

/-- An import that returns leaves every dataset with a source of its own workspace, and other
workspaces as they were, exactly when the datasets it adds name sources that the snapshot lists or
that the workspace has. -/
theorem references_kept_iff (newUuid : ℕ → String) (workspaceId : String) (snapshot counts : Fields)
    (before after : CatalogState) (hfresh : FreshUuids newUuid snapshot)
    (hreferences : ReferencesKept before)
    (hrun : importCatalogSnapshot newUuid workspaceId snapshot before = (.ok counts, after)) :
    ReferencesKept after ∧ OthersUnchanged workspaceId before after ↔
      SourcesNamed workspaceId snapshot before := by
  obtain ⟨first, middle, last, newSources, newDatasets, hsources, hdatasets⟩ := imported_of_ok hrun
  have hsame : middle.datasets = before.datasets := hsources.datasets
  have hadds : ∀ earlier item, AddsDataset workspaceId middle earlier item ↔
      AddsDataset workspaceId before earlier item := by
    intro earlier item
    unfold AddsDataset
    rw [hsame]
  have hresolved : ∀ earlier item later, itemsOf snapshot "datasets" = earlier ++ item :: later →
      (Owned CatalogSource.workspaceId workspaceId after.sources
          (resolvedSource first.sourceIdMap item) ↔
        sourceIdOf item ∈ (sourceItems (itemsOf snapshot "sources")).map sourceIdOf ∨
          Owned CatalogSource.workspaceId workspaceId before.sources (sourceIdOf item)) := by
    intro earlier item later hitems
    rw [hdatasets.sources]
    exact hsources.resolved_iff fun n ↦ (hfresh item (by simp [hitems]) n).1
  constructor
  · rintro ⟨hkept, -⟩ earlier item later hitems hadd
    have hfreshId : ∀ n, datasetIdOf item ≠ newUuid n :=
      fun n ↦ (hfresh item (by simp [hitems]) n).2
    obtain ⟨row, hrow, hsource⟩ := hdatasets.ofItem earlier item later hitems
      ((hadds earlier item).mpr hadd) hfreshId
    have hmem : row ∈ after.datasets.rows := by
      rw [hdatasets.datasets.rows]
      exact List.mem_append_right _ hrow
    have hreference := hkept row hmem
    rw [hsource, hdatasets.datasets.own row hrow, mem_rows_iff_owned] at hreference
    exact (hresolved earlier item later hitems).mp hreference
  · intro hnamed
    refine ⟨fun row hrow ↦ ?_, ?_, ?_, ?_⟩
    · rw [hdatasets.datasets.rows, hsame] at hrow
      rcases List.mem_append.mp hrow with hold | hnew
      · obtain ⟨source, hsource, href⟩ := hreferences row hold
        refine ⟨source, ?_, href⟩
        rw [hdatasets.sources, hsources.sources.rows]
        exact List.mem_append_left _ hsource
      · obtain ⟨earlier, item, later, hitems, hadd, hsource⟩ := hdatasets.fromItem row hnew
        rw [hsource, hdatasets.datasets.own row hnew, mem_rows_iff_owned]
        exact (hresolved earlier item later hitems).mpr
          (hnamed earlier item later hitems ((hadds earlier item).mp hadd))
    · exact hdatasets.workspaces.trans hsources.workspaces
    · rw [hdatasets.sources]
      exact hsources.sources.others
    · rw [← hsame]
      exact hdatasets.datasets.others

/-- No row of another workspace has the key of an item. -/
def KeysFree (workspaceId : String) (snapshot : Fields) (state : CatalogState) : Prop :=
  (∀ item ∈ sourceItems (itemsOf snapshot "sources"),
    ¬Taken CatalogSource.workspaceId workspaceId state.sources (sourceIdOf item)) ∧
  ∀ item ∈ datasetItems (itemsOf snapshot "datasets"),
    ¬Taken CatalogDataset.workspaceId workspaceId state.datasets (datasetIdOf item)

/-- Progress that has added as many rows. -/
def SameCounts (first second : ImportProgress) : Prop :=
  second.importedSources = first.importedSources ∧
    second.importedDatasets = first.importedDatasets

/-- A loop over items that leave the state alone and add nothing does so. -/
theorem foldlM_passes (step : ImportProgress → Fields → CatalogHandler ImportProgress)
    (items : List Fields) (state : CatalogState)
    (hstep : ∀ item ∈ items, ∀ progress, ∃ next, SameCounts progress next ∧
      step progress item state = (.ok next, state)) (start : ImportProgress) :
    ∃ last, SameCounts start last ∧ items.foldlM step start state = (.ok last, state) := by
  induction items generalizing start with
  | nil => exact ⟨start, ⟨rfl, rfl⟩, rfl⟩
  | cons item rest ih =>
    obtain ⟨next, hnext, hrun⟩ := hstep item List.mem_cons_self start
    obtain ⟨last, hlast, hrest⟩ :=
      ih (fun other hother ↦ hstep other (List.mem_cons_of_mem _ hother)) next
    refine ⟨last, ⟨hlast.1.trans hnext.1, hlast.2.trans hnext.2⟩, ?_⟩
    rw [List.foldlM_cons]
    exact Effect.bind_eq_ok_iff.mpr ⟨next, state, hrun, hrest⟩

theorem importKey_owned {ρ : Type} {key owner : ρ → String} {table : Table ρ key}
    {original : String} {state : CatalogState} (h : Owned owner workspaceId table original) :
    importKey newUuid workspaceId original ((table.get? original).map owner) state =
      (.ok (original, false), state) := by
  obtain ⟨row, hrow, hown⟩ := h
  rw [hrow, Option.map_some, importKey, if_pos hown]
  rfl

theorem importSource_owned {state : CatalogState} {item : Fields}
    (h : sourceIdOf item ≠ "" →
      Owned CatalogSource.workspaceId workspaceId state.sources (sourceIdOf item))
    (progress : ImportProgress) : ∃ next, SameCounts progress next ∧
      importSource newUuid workspaceId progress item state = (.ok next, state) := by
  unfold importSource
  change ∃ next, _ ∧ (if sourceIdOf item = "" then _ else _ : CatalogHandler ImportProgress) state = _
  by_cases hempty : sourceIdOf item = ""
  · rw [if_pos hempty]
    exact ⟨progress, ⟨rfl, rfl⟩, rfl⟩
  · rw [if_neg hempty, Effect.bind_apply, Effect.read_apply]
    refine ⟨_, ?_, Effect.bind_eq_ok_iff.mpr
      ⟨(sourceIdOf item, false), state, importKey_owned (h hempty), rfl⟩⟩
    exact ⟨rfl, rfl⟩

theorem importDataset_owned {state : CatalogState} {item : Fields}
    (h : datasetIdOf item ≠ "" → sourceIdOf item ≠ "" →
      Owned CatalogDataset.workspaceId workspaceId state.datasets (datasetIdOf item))
    (progress : ImportProgress) : ∃ next, SameCounts progress next ∧
      importDataset newUuid workspaceId progress item state = (.ok next, state) := by
  unfold importDataset
  change ∃ next, _ ∧ (if datasetIdOf item = "" ∨ sourceIdOf item = "" then _ else _ :
    CatalogHandler ImportProgress) state = _
  by_cases hempty : datasetIdOf item = "" ∨ sourceIdOf item = ""
  · rw [if_pos hempty]
    exact ⟨progress, ⟨rfl, rfl⟩, rfl⟩
  · rw [if_neg hempty, Effect.bind_apply, Effect.read_apply]
    obtain ⟨hdataset, hsource⟩ := not_or.mp hempty
    refine ⟨progress, ⟨rfl, rfl⟩, Effect.bind_eq_ok_iff.mpr
      ⟨(datasetIdOf item, false), state, importKey_owned (h hdataset hsource), rfl⟩⟩

/-- A snapshot that was imported is passed over by a second import, which reports no row, exactly when
no row of another workspace had a key of it. -/
theorem import_again_iff (newUuid : ℕ → String) (workspaceId : String) (snapshot counts : Fields)
    (before after : CatalogState)
    (hrun : importCatalogSnapshot newUuid workspaceId snapshot before = (.ok counts, after)) :
    importCatalogSnapshot newUuid workspaceId snapshot after =
        (.ok [("imported_sources", .int 0), ("imported_datasets", .int 0)], after) ↔
      KeysFree workspaceId snapshot before := by
  obtain ⟨hworkspace, hmatch, -⟩ := importCatalogSnapshot_ok_iff.mp hrun
  obtain ⟨first, middle, last, newSources, newDatasets, hsources, hdatasets⟩ := imported_of_ok hrun
  have hsame : middle.datasets = before.datasets := hsources.datasets
  have hgrownSources := hsources.sources
  have hgrownDatasets := hdatasets.datasets
  rw [← hdatasets.sources] at hgrownSources
  rw [hsame] at hgrownDatasets
  constructor
  · intro hagain
    obtain ⟨first', middle', last', newSources', newDatasets', hsources', hdatasets'⟩ :=
      imported_of_ok hagain
    have hsame' : middle'.datasets = after.datasets := hsources'.datasets
    constructor
    · intro item hitem htaken
      -- the second import adds a source for the item as the first did
      have hid : sourceIdOf item ∈ (sourceItems (itemsOf snapshot "sources")).map sourceIdOf :=
        List.mem_map_of_mem hitem
      have hadded := hsources'.sources.taken _ hid (hgrownSources.still_taken htaken)
      have hrows := hsources'.sources.rows
      rw [← hdatasets'.sources] at hrows
      exact hadded (List.self_eq_append_right.mp hrows)
    · intro item hitem htaken
      have hid : datasetIdOf item ∈ (datasetItems (itemsOf snapshot "datasets")).map datasetIdOf :=
        List.mem_map_of_mem hitem
      have hgrown := hdatasets'.datasets
      rw [hsame'] at hgrown
      have hadded := hgrown.taken _ hid (hgrownDatasets.still_taken htaken)
      exact hadded (List.self_eq_append_right.mp hgrown.rows)
  · rintro ⟨hfreeSources, hfreeDatasets⟩
    have hworkspaces : after.workspaces = before.workspaces :=
      hdatasets.workspaces.trans hsources.workspaces
    obtain ⟨progress, hprogress, hfirst⟩ := foldlM_passes
      (importSource newUuid workspaceId) (itemsOf snapshot "sources") after (fun item hitem ↦ importSource_owned fun hid ↦ by
        have hmem : item ∈ sourceItems (itemsOf snapshot "sources") :=
          List.mem_filter.mpr ⟨hitem, decide_eq_true hid⟩
        exact hgrownSources.owned (List.mem_map_of_mem hmem) (hfreeSources item hmem)) ⟨0, 0, []⟩
    obtain ⟨final, hfinal, hlast⟩ := foldlM_passes
      (importDataset newUuid workspaceId) (itemsOf snapshot "datasets") after (fun item hitem ↦ importDataset_owned
        fun hdataset hsource ↦ by
          have hmem : item ∈ datasetItems (itemsOf snapshot "datasets") :=
            List.mem_filter.mpr ⟨hitem, decide_eq_true ⟨hdataset, hsource⟩⟩
          exact hgrownDatasets.owned (List.mem_map_of_mem hmem) (hfreeDatasets item hmem)) progress
    refine importCatalogSnapshot_ok_iff.mpr ⟨hworkspaces ▸ hworkspace, hmatch, progress, after, final,
      hfirst, hlast, ?_⟩
    unfold importCounts
    rw [hfinal.1, hfinal.2, hprogress.1, hprogress.2]
    rfl

end Import

def exampleUuid (n : ℕ) : String := "uuid-" ++ toString n

/-- A database where the source `s2` belongs to the workspace `w2`. -/
def sharedCatalog : CatalogState where
  workspaces := ⟨[ordersWorkspace, ⟨"w2", "Sales", "starter", "standard"⟩], by decide⟩
  sources := ⟨[⟨"s2", "w2", "filesystem", [], none, "active", "Sales files"⟩],
    List.nodup_singleton _⟩
  datasets := Table.empty
  issued := 0

def strayDataset : Fields :=
  [("datasets", .arr [.obj [("dataset_id", .str "d1"), ("source_id", .str "s2")]])]

def sourceWithDataset (sourceId : String) : Fields :=
  [("sources", .arr [.obj [("source_id", .str sourceId)]]),
    ("datasets", .arr [.obj [("dataset_id", .str "d1"), ("source_id", .str sourceId)]])]

theorem run_of_isOk (newUuid : ℕ → String) (workspaceId : String) (snapshot : Fields)
    (state : CatalogState)
    (h : (importCatalogSnapshot newUuid workspaceId snapshot state).1.isOk = true) :
    ∃ counts, importCatalogSnapshot newUuid workspaceId snapshot state =
      (.ok counts, (importCatalogSnapshot newUuid workspaceId snapshot state).2) := by
  rcases hrun : importCatalogSnapshot newUuid workspaceId snapshot state with ⟨exception | counts, after⟩
  · rw [hrun] at h
    cases h
  · exact ⟨counts, rfl⟩

theorem exampleUuid_ne (id : String) (h : id.length < 5) (n : ℕ) : id ≠ exampleUuid n := by
  rintro rfl
  rw [exampleUuid, String.length_append] at h
  have hlength : ("uuid-" : String).length = 5 := rfl
  omega

/-- A dataset without its source in the snapshot is given the source of another workspace. -/
theorem stray_dataset_adopts_foreign_source :
    ¬∀ (newUuid : ℕ → String) (workspaceId : String) (snapshot counts : Fields)
      (before after : CatalogState), FreshUuids newUuid snapshot → ReferencesKept before →
      importCatalogSnapshot newUuid workspaceId snapshot before = (.ok counts, after) →
      ReferencesKept after ∧ OthersUnchanged workspaceId before after := by
  intro hclaim
  obtain ⟨counts, hrun⟩ := run_of_isOk exampleUuid "w1" strayDataset sharedCatalog
    (by decide +kernel)
  have hfresh : FreshUuids exampleUuid strayDataset := by
    intro item hitem n
    rw [List.mem_singleton.mp hitem]
    exact ⟨exampleUuid_ne _ (by decide) n, exampleUuid_ne _ (by decide) n⟩
  have hbefore : ReferencesKept sharedCatalog := fun _ hrow ↦ absurd hrow List.not_mem_nil
  have hkept := (hclaim exampleUuid "w1" strayDataset counts sharedCatalog _ hfresh hbefore hrun).1
  have hforeign : ¬ReferencesKept (importCatalogSnapshot exampleUuid "w1" strayDataset
      sharedCatalog).2 := by
    unfold ReferencesKept
    decide +kernel
  exact hforeign hkept

/-- A dataset imported with its source keeps its reference. -/
theorem sourceWithDataset_references_kept :
    ReferencesKept
        (importCatalogSnapshot exampleUuid "w1" (sourceWithDataset "s1") emptyCatalog).2 ∧
      OthersUnchanged "w1" emptyCatalog
        (importCatalogSnapshot exampleUuid "w1" (sourceWithDataset "s1") emptyCatalog).2 := by
  obtain ⟨counts, hrun⟩ := run_of_isOk exampleUuid "w1" (sourceWithDataset "s1") emptyCatalog
    (by decide +kernel)
  have hfresh : FreshUuids exampleUuid (sourceWithDataset "s1") := by
    intro item hitem n
    obtain rfl | hitem := List.mem_cons.mp hitem
    · exact ⟨exampleUuid_ne _ (by decide) n, exampleUuid_ne _ (by decide) n⟩
    · rw [List.mem_singleton.mp hitem]
      exact ⟨exampleUuid_ne _ (by decide) n, exampleUuid_ne _ (by decide) n⟩
  have hbefore : ReferencesKept emptyCatalog := fun _ hrow ↦ absurd hrow List.not_mem_nil
  refine (references_kept_iff exampleUuid "w1" (sourceWithDataset "s1") counts emptyCatalog _ hfresh
    hbefore hrun).mpr ?_
  intro earlier item later hitems hadds
  have hitem : item ∈ itemsOf (sourceWithDataset "s1") "datasets" := by
    rw [hitems]
    exact List.mem_append_right _ List.mem_cons_self
  rw [List.mem_singleton.mp hitem]
  exact Or.inl (by decide)

/-- A source whose key another workspace has is imported once more by each import. -/
theorem taken_source_imported_again :
    ¬∀ (newUuid : ℕ → String) (workspaceId : String) (snapshot counts : Fields)
      (before after : CatalogState),
      importCatalogSnapshot newUuid workspaceId snapshot before = (.ok counts, after) →
      importCatalogSnapshot newUuid workspaceId snapshot after =
        (.ok [("imported_sources", .int 0), ("imported_datasets", .int 0)], after) := by
  intro hclaim
  obtain ⟨counts, hrun⟩ := run_of_isOk exampleUuid "w1" (sourceWithDataset "s2") sharedCatalog
    (by decide +kernel)
  have hagain := hclaim exampleUuid "w1" (sourceWithDataset "s2") counts sharedCatalog _ hrun
  have hcount := congrArg (fun result ↦ result.2.sources.rows.length) hagain
  have hmore : (importCatalogSnapshot exampleUuid "w1" (sourceWithDataset "s2")
      (importCatalogSnapshot exampleUuid "w1" (sourceWithDataset "s2") sharedCatalog).2).2.sources.rows.length ≠
      (importCatalogSnapshot exampleUuid "w1" (sourceWithDataset "s2")
        sharedCatalog).2.sources.rows.length := by decide +kernel
  exact hmore hcount

/-- A snapshot whose keys no other workspace has is passed over by a second import. -/
theorem sourceWithDataset_passed_over :
    importCatalogSnapshot exampleUuid "w1" (sourceWithDataset "s1")
        (importCatalogSnapshot exampleUuid "w1" (sourceWithDataset "s1") sharedCatalog).2 =
      (.ok [("imported_sources", .int 0), ("imported_datasets", .int 0)],
        (importCatalogSnapshot exampleUuid "w1" (sourceWithDataset "s1") sharedCatalog).2) := by
  obtain ⟨counts, hrun⟩ := run_of_isOk exampleUuid "w1" (sourceWithDataset "s1") sharedCatalog
    (by decide +kernel)
  refine (import_again_iff exampleUuid "w1" (sourceWithDataset "s1") counts sharedCatalog _
    hrun).mpr ⟨fun item hitem ↦ ?_, fun item hitem ↦ ?_⟩
  · rintro ⟨row, hrow, -⟩
    rw [List.mem_singleton.mp (List.mem_of_mem_filter hitem)] at hrow
    exact absurd (Table.key_of_get? hrow) (by
      rw [List.mem_singleton.mp (Table.mem_of_get? hrow)]
      decide)
  · rintro ⟨row, hrow, -⟩
    exact absurd (Table.mem_of_get? hrow) List.not_mem_nil

end SchemaPilot.ControlPlane.CatalogSnapshot
