import SchemaPilot.SharedDomain.GoldPointer
import SchemaPilot.SharedDomain.StoredFiles

/-!
# The gold pointer on disk

`backend/shared_domain/gold_pointer.py` on the files of a workspace, with the normalisation of what
it reads. `publishGoldPointer_ok` and `rollbackGoldPointer_ok` say what a successful call leaves in
every file, and `publishGoldPointer_represents` and `rollbackGoldPointer_represents` that the files
follow the store of the two lists.
-/

namespace SchemaPilot.SharedDomain

open Library Library.Json

namespace GoldFiles

/-- A pointer read back: the mapping of a `GoldPointer`, or `{}`. -/
abbrev Entry := Option GoldPointer

/-- `_normalize_pointer`. -/
def normalizePointer : Json → Entry
  | .obj raw => some
      { workspaceId := (getD raw "workspace_id" (.str "")).toStr
        buildId := (getD raw "build_id" (.str "")).toStr
        snapshotId := (getD raw "snapshot_id" (.str "")).toStr
        modelName := (getD raw "model_name" (.str "")).toStr }
  | _ => none

/-- The mapping of a pointer, its fields sorted. -/
def pointerJson : Entry → Json
  | some pointer => .obj
      [("build_id", .str pointer.buildId), ("model_name", .str pointer.modelName),
        ("snapshot_id", .str pointer.snapshotId), ("workspace_id", .str pointer.workspaceId)]
  | none => .obj []

/-- `_pointer_dir`. -/
def pointerDir (storageRoot : TreePath) (workspaceId : String) : TreePath :=
  storageRoot ++ ["gold", workspaceId, "_published"]

/-- The path of `latest.json`. -/
def latestPath (storageRoot : TreePath) (workspaceId : String) : TreePath :=
  pointerDir storageRoot workspaceId ++ ["latest.json"]

/-- The path of `history.json`. -/
def historyPath (storageRoot : TreePath) (workspaceId : String) : TreePath :=
  pointerDir storageRoot workspaceId ++ ["history.json"]

/-- `load_latest_gold_pointer`. -/
def loadLatestGoldPointer (storageRoot : TreePath) (workspaceId : String) :
    Files (Option Entry) := do
  if ← Files.pathExists (latestPath storageRoot workspaceId) then
    return some (normalizePointer (← Files.readJson (latestPath storageRoot workspaceId)))
  else return none

def historyEntries : Json → List Entry
  | .arr raw => raw.map normalizePointer
  | _ => []

/-- `_load_history`. -/
def loadHistory (storageRoot : TreePath) (workspaceId : String) : Files (List Entry) := do
  if ← Files.pathExists (historyPath storageRoot workspaceId) then
    return historyEntries (← Files.readJson (historyPath storageRoot workspaceId))
  else return []

/-- The JSON text of a history. -/
def historyJson (history : List Entry) : Json := .arr (history.map pointerJson)

/-- `_write_history`. -/
def writeHistory (storageRoot : TreePath) (workspaceId : String) (history : List Entry)
    (now : ℤ) : Files Unit := do
  Files.makeDirs (pointerDir storageRoot workspaceId)
  Files.writeJson (historyPath storageRoot workspaceId) (historyJson history) now

/-- `history[-1].get("build_id")`, `none` for an empty history or entry. -/
def lastBuildId (history : List Entry) : Option String :=
  history.getLast?.join.map GoldPointer.buildId

/-- `publish_gold_pointer`. -/
def publishGoldPointer (storageRoot : TreePath)
    (workspaceId buildId snapshotId modelName : String) (now : ℤ) : Files GoldPointer := do
  let pointer : GoldPointer := ⟨workspaceId, buildId, snapshotId, modelName⟩
  Files.makeDirs (pointerDir storageRoot workspaceId)
  Files.writeJson (latestPath storageRoot workspaceId) (pointerJson (some pointer)) now
  let history ← loadHistory storageRoot workspaceId
  Effect.onlyIf (lastBuildId history ≠ some buildId) <|
    writeHistory storageRoot workspaceId (history ++ [some pointer]) now
  return pointer

/-- `str(item.get("build_id"))`. -/
def buildIdText : Entry → String
  | some pointer => pointer.buildId
  | none => "None"

/-- The entry `rollback_gold_pointer` restores. -/
def rollbackEntry (history : List Entry) (current : Entry) (buildId : Option String) :
    Except Exn Entry :=
  match buildId.filter (· ≠ "") with
  | some requested =>
    match history.reverse.find? fun item ↦ buildIdText item == requested with
    | some target => .ok target
    | none => .error (.valueError "Requested rollback target was not found in publish history.")
  | none => .ok (history.dropLast.getLast?.getD current)

/-- `rollback_gold_pointer`, with the `current` and `rolled_back_to` entries it returns. -/
def rollbackGoldPointer (storageRoot : TreePath) (workspaceId : String) (buildId : Option String)
    (now : ℤ) : Files (Entry × Entry) := do
  let history ← loadHistory storageRoot workspaceId
  match history.getLast? with
  | none => Effect.raise (.valueError "No gold publish history available for rollback.")
  | some current =>
    let target ← Effect.ofExcept (rollbackEntry history current buildId)
    Files.writeJson (latestPath storageRoot workspaceId) (pointerJson target) now
    Effect.onlyIf (current ≠ target) <|
      writeHistory storageRoot workspaceId (history ++ [target]) now
    return (current, target)

theorem latestPath_ne_historyPath (storageRoot : TreePath) (workspaceId : String) :
    latestPath storageRoot workspaceId ≠ historyPath storageRoot workspaceId := by
  simp [latestPath, historyPath]

/-- The entries of the history file, none where it is missing. -/
def recordedHistory (files : FileStore) (storageRoot : TreePath) (workspaceId : String) :
    List Entry :=
  match files.content? (historyPath storageRoot workspaceId) with
  | some (.json raw) => historyEntries raw
  | _ => []

theorem recordedHistory_congr {files after : FileStore} {storageRoot : TreePath}
    {workspaceId : String}
    (h : after.content? (historyPath storageRoot workspaceId) =
      files.content? (historyPath storageRoot workspaceId)) :
    recordedHistory after storageRoot workspaceId =
      recordedHistory files storageRoot workspaceId := by
  unfold recordedHistory
  rw [h]

theorem loadHistory_eq_ok {storageRoot : TreePath} {workspaceId : String} {files after : FileStore}
    {history : List Entry} (h : loadHistory storageRoot workspaceId files = (.ok history, after)) :
    after = files ∧ history = recordedHistory files storageRoot workspaceId := by
  unfold loadHistory at h
  rw [Effect.bind_apply, Files.pathExists_apply] at h
  dsimp only at h
  split_ifs at h with hpath
  · rw [Effect.bind_apply, Files.readJson_apply] at h
    unfold recordedHistory
    rcases hread : Files.loads (files.content? (historyPath storageRoot workspaceId)) with
      exception | raw
    · rw [hread] at h
      cases h
    · rw [hread] at h
      rw [Files.loads_eq_ok_iff.mp hread]
      cases h
      exact ⟨rfl, rfl⟩
  · cases h
    refine ⟨rfl, ?_⟩
    have hnode : files.node? (historyPath storageRoot workspaceId) = none := by
      simpa [FileTree.pathExists] using hpath
    simp [recordedHistory, FileTree.content?, hnode]

theorem content?_writeHistory {storageRoot : TreePath} {workspaceId : String}
    {history : List Entry} {now : ℤ} {files after : FileStore} {done : Unit}
    (h : writeHistory storageRoot workspaceId history now files = (.ok done, after))
    (path : TreePath) :
    after.content? path = if path = historyPath storageRoot workspaceId then
      some (.json (historyJson history)) else files.content? path := by
  obtain ⟨_, middle, hmake, hwrite⟩ := Effect.bind_eq_ok_iff.mp h
  rw [Files.content?_writeJson hwrite, Files.content?_makeDirs hmake]

theorem keeps_loadLatestGoldPointer (storageRoot : TreePath) (workspaceId : String) :
    Effect.Keeps id (loadLatestGoldPointer storageRoot workspaceId) := by
  refine (Files.keeps_pathExists _).bind fun found ↦ ?_
  split_ifs
  · exact (Files.keeps_readJson _).bind fun _ ↦ Effect.keeps_pure _
  · exact Effect.keeps_pure _

/-- A successful publication has put the pointer into `latest.json` and, unless the history ends
with the build, at the end of the history. -/
theorem publishGoldPointer_ok {storageRoot : TreePath}
    {workspaceId buildId snapshotId modelName : String} {now : ℤ} {files after : FileStore}
    {pointer : GoldPointer}
    (h : publishGoldPointer storageRoot workspaceId buildId snapshotId modelName now files =
      (.ok pointer, after)) :
    pointer = ⟨workspaceId, buildId, snapshotId, modelName⟩ ∧ ∀ path, after.content? path =
      if path = latestPath storageRoot workspaceId then some (.json (pointerJson (some pointer)))
      else if path = historyPath storageRoot workspaceId ∧
          lastBuildId (recordedHistory files storageRoot workspaceId) ≠ some buildId then
        some (.json (historyJson
          (recordedHistory files storageRoot workspaceId ++ [some pointer])))
      else files.content? path := by
  obtain ⟨_, made, hmake, h⟩ := Effect.bind_eq_ok_iff.mp h
  obtain ⟨_, written, hwrite, h⟩ := Effect.bind_eq_ok_iff.mp h
  obtain ⟨history, loaded, hload, h⟩ := Effect.bind_eq_ok_iff.mp h
  obtain ⟨_, final, hentered, hdone⟩ := Effect.bind_eq_ok_iff.mp h
  cases hdone
  obtain ⟨rfl, rfl⟩ := loadHistory_eq_ok hload
  have hlatest : ∀ path, loaded.content? path =
      if path = latestPath storageRoot workspaceId then
        some (.json (pointerJson (some ⟨workspaceId, buildId, snapshotId, modelName⟩)))
      else files.content? path := fun path ↦ by
    rw [Files.content?_writeJson hwrite, Files.content?_makeDirs hmake]
  have hhistory : recordedHistory loaded storageRoot workspaceId =
      recordedHistory files storageRoot workspaceId := by
    refine recordedHistory_congr ?_
    rw [hlatest, if_neg (latestPath_ne_historyPath storageRoot workspaceId).symm]
  rw [hhistory] at hentered
  refine ⟨rfl, fun path ↦ ?_⟩
  rcases Effect.onlyIf_eq_ok_iff.mp hentered with ⟨hnew, hrun⟩ | ⟨hsame, rfl⟩
  · rw [content?_writeHistory hrun, hlatest]
    by_cases hpath : path = historyPath storageRoot workspaceId
    · rw [if_pos hpath, if_neg, if_pos ⟨hpath, hnew⟩]
      rw [hpath]
      exact (latestPath_ne_historyPath storageRoot workspaceId).symm
    · rw [if_neg hpath, if_neg (fun h : path = _ ∧ _ ↦ hpath h.1)]
  · rw [hlatest, if_neg (fun h : path = _ ∧ _ ↦ hsame h.2)]

/-- A successful rollback has put the target into `latest.json` and, unless the history ends with
it, at the end of the history. -/
theorem rollbackGoldPointer_ok {storageRoot : TreePath} {workspaceId : String}
    {buildId : Option String} {now : ℤ} {files after : FileStore} {current target : Entry}
    (h : rollbackGoldPointer storageRoot workspaceId buildId now files =
      (.ok (current, target), after)) :
    (recordedHistory files storageRoot workspaceId).getLast? = some current ∧
    rollbackEntry (recordedHistory files storageRoot workspaceId) current buildId = .ok target ∧
    ∀ path, after.content? path =
      if path = latestPath storageRoot workspaceId then some (.json (pointerJson target))
      else if path = historyPath storageRoot workspaceId ∧ current ≠ target then
        some (.json (historyJson (recordedHistory files storageRoot workspaceId ++ [target])))
      else files.content? path := by
  obtain ⟨history, loaded, hload, h⟩ := Effect.bind_eq_ok_iff.mp h
  obtain ⟨rfl, rfl⟩ := loadHistory_eq_ok hload
  cases hlast : (recordedHistory loaded storageRoot workspaceId).getLast? with
  | none =>
    rw [hlast] at h
    cases h
  | some last =>
    rw [hlast] at h
    dsimp only at h
    obtain ⟨entry, found, hentry, h⟩ := Effect.bind_eq_ok_iff.mp h
    obtain ⟨_, written, hwrite, h⟩ := Effect.bind_eq_ok_iff.mp h
    obtain ⟨_, final, hentered, hdone⟩ := Effect.bind_eq_ok_iff.mp h
    cases hdone
    rw [Effect.ofExcept_apply, Prod.mk.injEq] at hentry
    obtain ⟨hentry, rfl⟩ := hentry
    refine ⟨rfl, hentry, fun path ↦ ?_⟩
    rcases Effect.onlyIf_eq_ok_iff.mp hentered with ⟨hnew, hrun⟩ | ⟨hsame, rfl⟩
    · rw [content?_writeHistory hrun, Files.content?_writeJson hwrite]
      by_cases hpath : path = historyPath storageRoot workspaceId
      · rw [if_pos hpath, if_neg, if_pos ⟨hpath, hnew⟩]
        rw [hpath]
        exact (latestPath_ne_historyPath storageRoot workspaceId).symm
      · rw [if_neg hpath, if_neg (fun h : path = _ ∧ _ ↦ hpath h.1)]
    · rw [Files.content?_writeJson hwrite, if_neg (fun h : path = _ ∧ _ ↦ hsame h.2)]

open Files in
theorem raises_loadLatestGoldPointer (storageRoot : TreePath) (workspaceId : String) :
    Effect.Raises IsFileError (loadLatestGoldPointer storageRoot workspaceId) := by
  refine (raises_pathExists _).bind fun found ↦ ?_
  split_ifs
  · exact (raises_readJson _).bind fun _ ↦ Effect.raises_pure _
  · exact Effect.raises_pure _

open Files in
theorem raises_loadHistory (storageRoot : TreePath) (workspaceId : String) :
    Effect.Raises IsFileError (loadHistory storageRoot workspaceId) := by
  refine (raises_pathExists _).bind fun found ↦ ?_
  split_ifs
  · exact (raises_readJson _).bind fun _ ↦ Effect.raises_pure _
  · exact Effect.raises_pure _

open Files in
theorem raises_writeHistory (storageRoot : TreePath) (workspaceId : String) (history : List Entry)
    (now : ℤ) : Effect.Raises IsFileError (writeHistory storageRoot workspaceId history now) :=
  (raises_makeDirs _).bind fun _ ↦ raises_writeJson _ _ _

open Files in
theorem raises_publishGoldPointer (storageRoot : TreePath)
    (workspaceId buildId snapshotId modelName : String) (now : ℤ) :
    Effect.Raises IsFileError
      (publishGoldPointer storageRoot workspaceId buildId snapshotId modelName now) :=
  (raises_makeDirs _).bind fun _ ↦ (raises_writeJson _ _ _).bind fun _ ↦
    (raises_loadHistory _ _).bind fun _ ↦ (raises_writeHistory _ _ _ _).onlyIf.bind fun _ ↦
      Effect.raises_pure _

open Files in
theorem raises_rollbackGoldPointer (storageRoot : TreePath) (workspaceId : String)
    (buildId : Option String) (now : ℤ) : Effect.Raises IsFileError
      (rollbackGoldPointer storageRoot workspaceId buildId now) := by
  refine (raises_loadHistory _ _).bind fun history ↦ ?_
  cases history.getLast? with
  | none => exact Effect.raises_raise (Or.inl ⟨_, rfl⟩)
  | some current =>
    refine Effect.Raises.bind (Effect.raises_ofExcept fun exception h ↦ ?_) fun target ↦
      (raises_writeJson _ _ _).bind fun _ ↦ (raises_writeHistory _ _ _ _).onlyIf.bind fun _ ↦
        Effect.raises_pure _
    unfold rollbackEntry at h
    split at h
    · split at h
      · cases h
      · cases h
        exact Or.inl ⟨_, rfl⟩
    · cases h

/-- A file that holds a longer history is not the file the history was read from. -/
theorem content?_historyPath_ne (files : FileStore) (storageRoot : TreePath) (workspaceId : String)
    (entry : Entry) : files.content? (historyPath storageRoot workspaceId) ≠
      some (.json (historyJson (recordedHistory files storageRoot workspaceId ++ [entry]))) := by
  intro h
  have hread : recordedHistory files storageRoot workspaceId =
      historyEntries (historyJson (recordedHistory files storageRoot workspaceId ++ [entry])) := by
    conv_lhs => unfold recordedHistory
    rw [h]
  have hlength := congrArg List.length hread
  simp [historyEntries, historyJson] at hlength

/-- One file written, and a second one unless it is guarded off, with a content it did not hold:
the files of a kind that both are of are as before exactly when the first held its content and the
second was passed over. -/
theorem contents_kept_iff {files after : FileStore} {first second : TreePath}
    {content other : FileContent} {guard : Prop} [Decidable guard] {P : TreePath → Prop}
    (hne : first ≠ second) (hfirst : P first) (hsecond : P second)
    (hother : files.content? second ≠ some other)
    (h : ∀ path, after.content? path = if path = first then some content
      else if path = second ∧ guard then some other else files.content? path) :
    (∀ path, P path → after.content? path = files.content? path) ↔
      files.content? first = some content ∧ ¬guard := by
  constructor
  · intro hkept
    constructor
    · rw [← hkept first hfirst, h first, if_pos rfl]
    · intro hguard
      apply hother
      rw [← hkept second hsecond, h second, if_neg hne.symm, if_pos ⟨rfl, hguard⟩]
  · rintro ⟨hcontent, hguard⟩ path -
    rw [h path]
    by_cases hpath : path = first
    · rw [if_pos hpath, hpath, hcontent]
    · rw [if_neg hpath, if_neg fun h ↦ hguard h.2]

structure Represents (files : FileStore) (storageRoot : TreePath) (workspaceId : String)
    (store : GoldStore) : Prop where
  latest : files.content? (latestPath storageRoot workspaceId) =
    store.latest.map fun pointer ↦ .json (pointerJson (some pointer))
  history : recordedHistory files storageRoot workspaceId = store.history.map some

theorem normalizePointer_pointerJson (pointer : GoldPointer) :
    normalizePointer (pointerJson (some pointer)) = some pointer := by
  simp [pointerJson, normalizePointer, getD, get?_cons]

theorem historyEntries_historyJson (history : List GoldPointer) :
    historyEntries (historyJson (history.map some)) = history.map some := by
  simp [historyEntries, historyJson, Function.comp_def, normalizePointer_pointerJson]

theorem lastBuildId_map_some (history : List GoldPointer) :
    lastBuildId (history.map some) = history.getLast?.map GoldPointer.buildId := by
  rw [lastBuildId, List.getLast?_map]
  cases history.getLast? <;> rfl

/-- Files that hold a store's pointers hold those of the store after a publication. -/
theorem publishGoldPointer_represents {storageRoot : TreePath}
    {workspaceId buildId snapshotId modelName : String} {now : ℤ} {files after : FileStore}
    {pointer : GoldPointer} {store : GoldStore}
    (hstore : Represents files storageRoot workspaceId store)
    (h : publishGoldPointer storageRoot workspaceId buildId snapshotId modelName now files =
      (.ok pointer, after)) :
    Represents after storageRoot workspaceId
      (store.publishGoldPointer workspaceId buildId snapshotId modelName) := by
  obtain ⟨rfl, hafter⟩ := publishGoldPointer_ok h
  rw [hstore.history, lastBuildId_map_some] at hafter
  constructor
  · rw [hafter, if_pos rfl]
    rfl
  · have hpath := hafter (historyPath storageRoot workspaceId)
    rw [if_neg (latestPath_ne_historyPath storageRoot workspaceId).symm] at hpath
    change recordedHistory after storageRoot workspaceId =
      (if store.history.getLast?.map GoldPointer.buildId = some buildId then store.history
        else store.history ++ [⟨workspaceId, buildId, snapshotId, modelName⟩]).map some
    by_cases hlast : store.history.getLast?.map GoldPointer.buildId = some buildId
    · rw [if_neg (fun h ↦ h.2 hlast)] at hpath
      rw [recordedHistory_congr hpath, hstore.history, if_pos hlast]
    · rw [if_pos ⟨rfl, hlast⟩, ← List.map_singleton, ← List.map_append] at hpath
      rw [recordedHistory, hpath, if_neg hlast]
      exact historyEntries_historyJson _

theorem rollbackEntry_map_some (history : List GoldPointer) (current : GoldPointer)
    (buildId : Option String) : rollbackEntry (history.map some) (some current) buildId =
      (GoldStore.rollbackTarget history current buildId).map some := by
  unfold rollbackEntry GoldStore.rollbackTarget
  cases buildId.filter (· ≠ "") with
  | none =>
    dsimp only
    rw [← List.map_dropLast, List.getLast?_map]
    cases history.dropLast.getLast? <;> rfl
  | some requested =>
    dsimp only
    rw [← List.map_reverse, List.find?_map]
    change (match Option.map some (history.reverse.find? fun item ↦ item.buildId == requested) with
      | some target => Except.ok target
      | none => _) = _
    cases history.reverse.find? fun item ↦ item.buildId == requested <;> rfl

theorem rollbackGoldPointer_represents {storageRoot : TreePath} {workspaceId : String}
    {buildId : Option String} {now : ℤ} {files after : FileStore} {current target : Entry}
    {store : GoldStore} (hstore : Represents files storageRoot workspaceId store)
    (h : rollbackGoldPointer storageRoot workspaceId buildId now files =
      (.ok (current, target), after)) :
    ∃ currentPointer targetPointer final, current = some currentPointer ∧
      target = some targetPointer ∧
      store.rollbackGoldPointer buildId = .ok ((currentPointer, targetPointer), final) ∧
      Represents after storageRoot workspaceId final := by
  obtain ⟨hcurrent, htarget, hafter⟩ := rollbackGoldPointer_ok h
  rw [hstore.history, List.getLast?_map, Option.map_eq_some_iff] at hcurrent
  obtain ⟨currentPointer, hlast, rfl⟩ := hcurrent
  rw [hstore.history, rollbackEntry_map_some] at htarget
  cases hfound : GoldStore.rollbackTarget store.history currentPointer buildId with
  | error exception =>
    rw [hfound] at htarget
    cases htarget
  | ok targetPointer =>
    rw [hfound] at htarget
    cases htarget
    refine ⟨currentPointer, targetPointer, ⟨some targetPointer, if currentPointer = targetPointer
      then store.history else store.history ++ [targetPointer]⟩, rfl, rfl, ?_, ?_, ?_⟩
    · unfold GoldStore.rollbackGoldPointer
      rw [hlast]
      dsimp only
      rw [hfound]
      rfl
    · rw [hafter, if_pos rfl]
      rfl
    · have hpath := hafter (historyPath storageRoot workspaceId)
      rw [if_neg (latestPath_ne_historyPath storageRoot workspaceId).symm] at hpath
      by_cases hsame : currentPointer = targetPointer
      · rw [if_neg (fun h ↦ h.2 (congrArg some hsame))] at hpath
        rw [recordedHistory_congr hpath, hstore.history, if_pos hsame]
      · rw [if_pos ⟨rfl, fun h ↦ hsame (Option.some.inj h)⟩, hstore.history,
          ← List.map_singleton, ← List.map_append] at hpath
        rw [recordedHistory, hpath, if_neg hsame]
        exact historyEntries_historyJson _

end GoldFiles

end SchemaPilot.SharedDomain
