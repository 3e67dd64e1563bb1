import SchemaPilot.SharedDomain.StoredFiles
import Mathlib.Order.Lex
import Mathlib.Algebra.Group.Int.Defs

/-!
# Retention purge

`purge_workspace_artifacts` of `backend/shared_domain/purge.py`. Times are nanoseconds since the
epoch.
-/

namespace SchemaPilot.SharedDomain

open Library

structure PurgeExecution where
  scannedCount : ℕ
  deletedCount : ℕ
  deletedPaths : List String
  cutoffEpoch : ℤ
  dryRun : Bool
deriving DecidableEq

namespace Purge

/-- `time.time() - float(retention_days * 86400)`. -/
def cutoffEpoch (retentionDays now : ℤ) : ℤ := now - retentionDays * 86400 * 10 ^ 9

/-- The directories of a workspace that a purge looks through. -/
def candidateRoots (base : TreePath) (workspaceId : String) : List TreePath :=
  ["bronze", "silver", "gold", "documents"].map fun layer ↦ base ++ [layer, workspaceId]

/-- `sorted(p for p in root.rglob("*") if p.is_file())`, nothing for a missing root. -/
def scannedFiles (files : FileStore) (root : TreePath) : List TreePath :=
  if files.pathExists root then
    ((files.below root).filter files.isFile).insertionSort fun a b ↦ a ≤ b
  else []

/-- `path.stat().st_mtime <= cutoff_epoch`. -/
def isExpired (files : FileStore) (cutoff : ℤ) (path : TreePath) : Bool :=
  (files.mtime? path).any (· ≤ cutoff)

def collected (files : FileStore) (base : TreePath) (workspaceId : String) : List TreePath :=
  (candidateRoots base workspaceId).flatMap (scannedFiles files)

def toDelete (files : FileStore) (base : TreePath) (workspaceId : String)
    (retentionDays now : ℤ) : List TreePath :=
  (collected files base workspaceId).filter (isExpired files (cutoffEpoch retentionDays now))

def directoriesBelow (files : FileStore) (root : TreePath) : List TreePath :=
  (((files.below root).filter files.isDir).insertionSort fun a b ↦ a ≤ b).reverse

/-- `_remove_empty_directories`. -/
def removeEmptyDirectories (roots : List TreePath) (files : FileStore) : FileStore :=
  roots.foldl (fun tree root ↦
    if tree.pathExists root then tree.sweep (directoriesBelow tree root) else tree) files

/-- `path.relative_to(base).as_posix()`. -/
def relativeTo (base path : TreePath) : String :=
  String.intercalate "/" (path.drop base.length)

def execution (files : FileStore) (base : TreePath) (workspaceId : String)
    (retentionDays : ℤ) (dryRun : Bool) (now : ℤ) : PurgeExecution :=
  let deletedPaths := ((toDelete files base workspaceId retentionDays now).map
    (relativeTo base)).insertionSort fun a b ↦ a ≤ b
  { scannedCount := (collected files base workspaceId).length
    deletedCount := deletedPaths.length
    deletedPaths := deletedPaths
    cutoffEpoch := cutoffEpoch retentionDays now
    dryRun := dryRun }

/-- The `ValueError` of a purge that cannot run. -/
def refusal? (files : FileStore) (base : TreePath) (retentionDays : ℤ) : Option String :=
  if retentionDays ≤ 0 then some "retention_days_must_be_positive"
  else if !files.pathExists base then some "purge_root_missing"
  else if !files.isDir base then some "purge_root_not_directory"
  else none

end Purge

open Purge

/-- `purge_workspace_artifacts`. -/
def purgeWorkspaceArtifacts (workspaceId : String) (purgeRoot : TreePath) (retentionDays : ℤ)
    (dryRun : Bool) (now : ℤ) : Files PurgeExecution := do
  let files ← Effect.read
  match refusal? files purgeRoot retentionDays with
  | some reason => Effect.raise (.valueError reason)
  | none =>
    Effect.onlyIf (dryRun = false) <| Effect.change fun tree ↦
      removeEmptyDirectories (candidateRoots purgeRoot workspaceId)
        (tree.removeAll (toDelete files purgeRoot workspaceId retentionDays now))
    return execution files purgeRoot workspaceId retentionDays dryRun now

namespace Purge

/-! ### What a purge leaves -/

theorem content?_removeEmptyDirectories (roots : List TreePath) (files : FileStore)
    (path : TreePath) : (removeEmptyDirectories roots files).content? path = files.content? path := by
  unfold removeEmptyDirectories
  induction roots generalizing files with
  | nil => rfl
  | cons root rest ih =>
    rw [List.foldl_cons, ih]
    split_ifs
    · exact FileTree.content?_sweep _ _ _
    · rfl

theorem node?_removeEmptyDirectories (roots : List TreePath) {files : FileStore} {path : TreePath}
    (h : files.isDir path = false) :
    (removeEmptyDirectories roots files).node? path = files.node? path := by
  unfold removeEmptyDirectories
  induction roots generalizing files with
  | nil => rfl
  | cons root rest ih =>
    rw [List.foldl_cons]
    split_ifs
    · have hswept := FileTree.node?_sweep files (directoriesBelow files root) h
      have hdir : (files.sweep (directoriesBelow files root)).isDir path = false := by
        rw [FileTree.isDir, hswept]
        exact h
      rw [ih hdir, hswept]
    · exact ih h

theorem isDir_of_isDir_removeEmptyDirectories (roots : List TreePath) {files : FileStore}
    {path : TreePath} (h : (removeEmptyDirectories roots files).isDir path = true) :
    files.isDir path = true := by
  unfold removeEmptyDirectories at h
  induction roots generalizing files with
  | nil => exact h
  | cons root rest ih =>
    rw [List.foldl_cons] at h
    have hstep := ih h
    split_ifs at hstep
    · rcases FileTree.node?_sweep_eq files (directoriesBelow files root) path with hnone | hsame
      · rw [FileTree.isDir, hnone] at hstep
        cases hstep
      · rwa [FileTree.isDir, hsame] at hstep
    · exact hstep

theorem isDir_removeEmptyDirectories (roots : List TreePath) {files : FileStore}
    {path child : TreePath} (hdir : files.isDir path = true) (hchild : files.isFile child = true)
    (hbelow : path <+: child) : (removeEmptyDirectories roots files).isDir path = true := by
  unfold removeEmptyDirectories
  induction roots generalizing files with
  | nil => exact hdir
  | cons root rest ih =>
    rw [List.foldl_cons]
    split_ifs
    · refine ih (FileTree.isDir_sweep_of_isFile _ _ hdir hchild hbelow) ?_
      rw [FileTree.isFile, FileTree.content?_sweep]
      exact hchild
    · exact ih hdir hchild

/-- A purge collects the files below the directories of the workspace, and deletes those whose
modification time is not after the cutoff. -/
theorem mem_toDelete_iff {files : FileStore} {base : TreePath} {workspaceId : String}
    {retentionDays now : ℤ} {path : TreePath} :
    path ∈ toDelete files base workspaceId retentionDays now ↔ files.isFile path = true ∧
      (∃ root ∈ candidateRoots base workspaceId,
        files.pathExists root = true ∧ root <+: path ∧ path ≠ root) ∧
      isExpired files (cutoffEpoch retentionDays now) path = true := by
  rw [toDelete, List.mem_filter, collected, List.mem_flatMap]
  constructor
  · rintro ⟨⟨root, hroot, hpath⟩, hexpired⟩
    unfold scannedFiles at hpath
    split_ifs at hpath with hexists
    · obtain ⟨hbelow, hfile⟩ := List.mem_filter.mp ((List.mem_insertionSort _).mp hpath)
      exact ⟨hfile, ⟨root, hroot, hexists, (FileTree.mem_below_of_isFile hfile).mp hbelow⟩, hexpired⟩
    · cases hpath
  · rintro ⟨hfile, ⟨root, hroot, hexists, hbelow⟩, hexpired⟩
    refine ⟨⟨root, hroot, ?_⟩, hexpired⟩
    rw [scannedFiles, if_pos hexists, List.mem_insertionSort, List.mem_filter]
    exact ⟨(FileTree.mem_below_of_isFile hfile).mpr hbelow, hfile⟩

/-- What a purge leaves of a path that names no directory, whether it is refused or not. -/
theorem node?_purgeWorkspaceArtifacts {workspaceId : String} {purgeRoot : TreePath}
    {retentionDays : ℤ} {dryRun : Bool} {now : ℤ} {files : FileStore} {path : TreePath}
    (h : files.isDir path = false) :
    (purgeWorkspaceArtifacts workspaceId purgeRoot retentionDays dryRun now files).2.node? path =
      if refusal? files purgeRoot retentionDays = none ∧ dryRun = false ∧
        path ∈ toDelete files purgeRoot workspaceId retentionDays now then none
      else files.node? path := by
  unfold purgeWorkspaceArtifacts
  rw [Effect.bind_apply, Effect.read_apply]
  dsimp only
  cases hrefusal : refusal? files purgeRoot retentionDays with
  | some reason =>
    rw [if_neg (by simp)]
    rfl
  | none =>
    dsimp only
    rw [Effect.bind_apply]
    unfold Effect.onlyIf
    by_cases hwet : dryRun = false
    · rw [if_pos hwet, Effect.change_apply]
      have hremoved := FileTree.node?_removeAll files
        (toDelete files purgeRoot workspaceId retentionDays now)
        (FileTree.ne_nil_of_isDir_eq_false h)
      have hdir : (files.removeAll
          (toDelete files purgeRoot workspaceId retentionDays now)).isDir path = false := by
        rw [FileTree.isDir, hremoved]
        split_ifs
        · rfl
        · exact h
      change (removeEmptyDirectories _ _).node? path = _
      rw [node?_removeEmptyDirectories _ hdir, hremoved]
      exact if_congr (by simp [hwet]) rfl rfl
    · rw [if_neg hwet, if_neg fun hall ↦ hwet hall.2.1]
      rfl

/-- What a purge deletes are files. -/
theorem isFile_of_mem_toDelete {files : FileStore} {base : TreePath} {workspaceId : String}
    {retentionDays now : ℤ} {path : TreePath}
    (h : path ∈ toDelete files base workspaceId retentionDays now) : files.isFile path = true :=
  (mem_toDelete_iff.mp h).1

/-- What a purge that deletes leaves of every file, whether it is refused or not. -/
theorem content?_purgeWorkspaceArtifacts (workspaceId : String) (purgeRoot : TreePath)
    (retentionDays now : ℤ) (files : FileStore) (path : TreePath) :
    (purgeWorkspaceArtifacts workspaceId purgeRoot retentionDays false now files).2.content? path =
      if refusal? files purgeRoot retentionDays = none ∧
        path ∈ toDelete files purgeRoot workspaceId retentionDays now then none
      else files.content? path := by
  unfold purgeWorkspaceArtifacts
  rw [Effect.bind_apply, Effect.read_apply]
  dsimp only
  cases refusal? files purgeRoot retentionDays with
  | some reason => rfl
  | none =>
    change (removeEmptyDirectories _ _).content? path = _
    rw [content?_removeEmptyDirectories, FileTree.content?_removeAll]
    exact if_congr (by simp) rfl rfl

/-- A purge makes no directories, and leaves those with a file that stays. -/
theorem isDir_purgeWorkspaceArtifacts (workspaceId : String) (purgeRoot : TreePath)
    (retentionDays now : ℤ) (files : FileStore) (path : TreePath) :
    ((purgeWorkspaceArtifacts workspaceId purgeRoot retentionDays false now files).2.isDir path =
      true → files.isDir path = true) ∧
    ∀ child, path <+: child →
      (purgeWorkspaceArtifacts workspaceId purgeRoot retentionDays false now files).2.isFile child =
        true → files.isDir path = true →
      (purgeWorkspaceArtifacts workspaceId purgeRoot retentionDays false now files).2.isDir path =
        true := by
  unfold purgeWorkspaceArtifacts
  rw [Effect.bind_apply, Effect.read_apply]
  dsimp only
  cases refusal? files purgeRoot retentionDays with
  | some reason => exact ⟨id, fun _ _ _ hdir ↦ hdir⟩
  | none =>
    have hremoved : ∀ other, (files.removeAll
        (toDelete files purgeRoot workspaceId retentionDays now)).isDir other =
          files.isDir other :=
      FileTree.isDir_removeAll fun _ hmem ↦
        FileTree.isDir_of_isFile (mem_toDelete_iff.mp hmem).1
    refine ⟨fun h ↦ ?_, fun child hbelow hchild hdir ↦ ?_⟩
    · rw [← hremoved]
      exact isDir_of_isDir_removeEmptyDirectories _ h
    · refine isDir_removeEmptyDirectories _ ((hremoved path).trans hdir) ?_ hbelow
      change (removeEmptyDirectories _ _).isFile child = true at hchild
      rwa [FileTree.isFile, content?_removeEmptyDirectories] at hchild

/-- A purge that ran has deleted the expired files it collected, unless it was a dry run, and left
every other file alone. -/
theorem purgeWorkspaceArtifacts_ok {workspaceId : String} {purgeRoot : TreePath}
    {retentionDays : ℤ} {dryRun : Bool} {now : ℤ} {files after : FileStore}
    {summary : PurgeExecution}
    (h : purgeWorkspaceArtifacts workspaceId purgeRoot retentionDays dryRun now files =
      (.ok summary, after)) :
    refusal? files purgeRoot retentionDays = none ∧
    summary = execution files purgeRoot workspaceId retentionDays dryRun now ∧
    ∀ path, after.content? path =
      if dryRun = false ∧ path ∈ toDelete files purgeRoot workspaceId retentionDays now then none
      else files.content? path := by
  obtain ⟨_, _, hread, h⟩ := Effect.bind_eq_ok_iff.mp h
  cases hread
  cases hrefusal : refusal? files purgeRoot retentionDays with
  | some reason =>
    rw [hrefusal] at h
    cases h
  | none =>
    rw [hrefusal] at h
    dsimp only at h
    obtain ⟨_, final, hpurged, hdone⟩ := Effect.bind_eq_ok_iff.mp h
    cases hdone
    refine ⟨rfl, rfl, fun path ↦ ?_⟩
    rcases Effect.onlyIf_eq_ok_iff.mp hpurged with ⟨hwet, hrun⟩ | ⟨hdry, rfl⟩
    · cases hrun
      rw [content?_removeEmptyDirectories, FileTree.content?_removeAll]
      exact if_congr (by simp [hwet]) rfl rfl
    · rw [if_neg fun h ↦ hdry h.1]

theorem raises_purgeWorkspaceArtifacts (workspaceId : String) (purgeRoot : TreePath)
    (retentionDays : ℤ) (dryRun : Bool) (now : ℤ) : Effect.Raises Files.IsFileError
      (purgeWorkspaceArtifacts workspaceId purgeRoot retentionDays dryRun now) := by
  refine Effect.raises_read.bind fun files ↦ ?_
  cases refusal? files purgeRoot retentionDays with
  | some reason => exact Effect.raises_raise (Or.inl ⟨_, rfl⟩)
  | none => exact (Effect.raises_change _).onlyIf.bind fun _ ↦ Effect.raises_pure _

end Purge

end SchemaPilot.SharedDomain
