import SchemaPilot.SharedDomain.Purge

/-!
# What a purge removes

A purge that deletes leaves of a tree exactly what it is to leave (`Purged`): a file of the workspace goes
when its modification time is not after the cutoff, a directory of the workspace when no file is left below
it, and nothing else. A dry run leaves the tree and names the files that the other one deletes.
-/

namespace SchemaPilot.SharedDomain.Purge

open Library

/-- The path lies below one of the directories of the workspace. -/
def InWorkspace (base : TreePath) (workspaceId : String) (path : TreePath) : Prop :=
  ∃ layer ∈ ["bronze", "silver", "gold", "documents"],
    joinNames base [layer, workspaceId] <+: path ∧ path ≠ joinNames base [layer, workspaceId]

structure Purged (base : TreePath) (workspaceId : String) (cutoff : ℤ) (files after : FileStore) :
    Prop where
  kept : ∀ path, after.node? path = none ∨ after.node? path = files.node? path
  file : ∀ path, files.isFile path = true → (after.node? path = none ↔
    InWorkspace base workspaceId path ∧ ∃ mtime, files.mtime? path = some mtime ∧ mtime ≤ cutoff)
  directory : ∀ path, files.isDir path = true → (after.node? path = none ↔
    InWorkspace base workspaceId path ∧ ∀ child, path <+: child → after.isFile child = false)
  elsewhere : ∀ path, ¬InWorkspace base workspaceId path → after.node? path = files.node? path
  workspaces : ∀ other, IsPlainName other → other ≠ workspaceId →
    ∀ path, InWorkspace base other path → after.node? path = files.node? path

theorem joinNames_layer {layer workspaceId : String}
    (hlayer : layer ∈ ["bronze", "silver", "gold", "documents"]) (hname : IsPlainName workspaceId)
    (base : TreePath) : joinNames base [layer, workspaceId] = base ++ [layer, workspaceId] := by
  have hplain : ∀ layer ∈ ["bronze", "silver", "gold", "documents"], IsPlainName layer := by decide
  rw [joinNames, List.foldl_cons, List.foldl_cons, List.foldl_nil, joinName_plain (hplain layer hlayer),
    joinName_plain hname, List.append_assoc]
  rfl

theorem inWorkspace_iff {workspaceId : String} (hname : IsPlainName workspaceId) (base path : TreePath) :
    InWorkspace base workspaceId path ↔
      ∃ root ∈ candidateRoots base workspaceId, root <+: path ∧ path ≠ root := by
  rw [candidateRoots]
  constructor
  · rintro ⟨layer, hlayer, hbelow⟩
    rw [joinNames_layer hlayer hname] at hbelow
    exact ⟨_, List.mem_map_of_mem hlayer, hbelow⟩
  · rintro ⟨root, hroot, hbelow⟩
    obtain ⟨layer, hlayer, rfl⟩ := List.mem_map.mp hroot
    rw [← joinNames_layer hlayer hname] at hbelow
    exact ⟨layer, hlayer, hbelow⟩

theorem InWorkspace.eq {base path : TreePath} {first second : String} (hfirst : IsPlainName first)
    (hsecond : IsPlainName second) (h : InWorkspace base first path)
    (h' : InWorkspace base second path) : first = second := by
  obtain ⟨layer, hlayer, ⟨names, hpath⟩, -⟩ := h
  obtain ⟨layer', hlayer', ⟨names', hpath'⟩, -⟩ := h'
  rw [joinNames_layer hlayer hfirst] at hpath
  rw [joinNames_layer hlayer' hsecond, ← hpath, List.append_assoc, List.append_assoc] at hpath'
  have hnames := List.append_cancel_left hpath'
  simp only [List.cons_append, List.nil_append, List.cons.injEq] at hnames
  exact hnames.2.1.symm

theorem path_le_child {path child : TreePath} (h : path <+: child) : path ≤ child := by
  obtain ⟨names, rfl⟩ := h
  induction path with
  | nil =>
    cases names with
    | nil => exact le_refl _
    | cons name names => exact le_of_lt List.Lex.nil
  | cons name path ih =>
    rcases eq_or_lt_of_le ih with heq | hlt
    · rw [List.cons_append, ← heq]
    · exact le_of_lt (List.Lex.cons hlt)

theorem nodup_below (files : FileStore) (root : TreePath) : (files.below root).Nodup :=
  files.nodes.keys_nodup.filter _

theorem mem_directoriesBelow_iff {files : FileStore} {root path : TreePath} :
    path ∈ directoriesBelow files root ↔ files.isDir path = true ∧ root <+: path ∧ path ≠ root := by
  rw [directoriesBelow, List.mem_reverse, List.mem_insertionSort, List.mem_filter,
    FileTree.mem_below_iff, FileTree.pathExists_eq]
  constructor
  · rintro ⟨⟨-, hbelow⟩, hdir⟩
    exact ⟨hdir, hbelow⟩
  · rintro ⟨hdir, hbelow⟩
    exact ⟨⟨by rw [hdir]; rfl, hbelow⟩, hdir⟩

/-- In descending order a directory comes after those below it. -/
theorem fromBelow_directoriesBelow (files : FileStore) (root : TreePath) :
    files.FromBelow (directoriesBelow files root) := by
  refine ⟨fun path hpath ↦ (mem_directoriesBelow_iff.mp hpath).1, ?_, ?_, fun hroot ↦ ?_⟩
  · intro path hpath other hdir hbelow
    obtain ⟨-, hroot, hne⟩ := mem_directoriesBelow_iff.mp hpath
    refine mem_directoriesBelow_iff.mpr ⟨hdir, hroot.trans hbelow, fun heq ↦ hne ?_⟩
    exact List.IsPrefix.eq_of_length_le (heq ▸ hbelow) hroot.length_le
  · rw [directoriesBelow, List.pairwise_reverse]
    have hnodup := (List.perm_insertionSort (fun a b : TreePath ↦ a ≤ b) _).nodup_iff.mpr
      ((nodup_below files root).filter files.isDir)
    have hsorted := List.pairwise_insertionSort (fun a b : TreePath ↦ a ≤ b)
      ((files.below root).filter files.isDir)
    refine (hsorted.and hnodup).imp fun {path other} horder hprefix ↦ ?_
    exact horder.2 (le_antisymm horder.1 (path_le_child hprefix))
  · obtain ⟨-, hprefix, hne⟩ := mem_directoriesBelow_iff.mp hroot
    exact hne (List.prefix_nil.mp hprefix).symm

/-- A path below none of the roots is left alone. -/
theorem node?_removeEmptyDirectories_elsewhere {roots : List TreePath} (files : FileStore)
    {path : TreePath} (h : ∀ root ∈ roots, root <+: path → path = root) :
    (removeEmptyDirectories roots files).node? path = files.node? path := by
  unfold removeEmptyDirectories
  induction roots generalizing files with
  | nil => rfl
  | cons root rest ih =>
    rw [List.foldl_cons, ih _ fun other hother ↦ h other (List.mem_cons_of_mem _ hother)]
    split_ifs
    · refine FileTree.node?_sweep_of_notMem _ fun hmem ↦ ?_
      obtain ⟨-, hbelow, hne⟩ := mem_directoriesBelow_iff.mp hmem
      exact hne (h root List.mem_cons_self hbelow)
    · rfl

theorem node?_removeEmptyDirectories_eq (roots : List TreePath) (files : FileStore) (path : TreePath) :
    (removeEmptyDirectories roots files).node? path = none ∨
      (removeEmptyDirectories roots files).node? path = files.node? path := by
  unfold removeEmptyDirectories
  induction roots generalizing files with
  | nil => exact Or.inr rfl
  | cons root rest ih =>
    rw [List.foldl_cons]
    rcases ih (if files.pathExists root then files.sweep (directoriesBelow files root) else files)
      with hnone | hsame
    · exact Or.inl hnone
    · rw [hsame]
      split_ifs
      · exact FileTree.node?_sweep_eq _ _ _
      · exact Or.inr rfl

/-- A directory below a root goes when no file lies below it. -/
theorem node?_removeEmptyDirectories_empty {roots : List TreePath} {files : FileStore}
    (htree : files.IsTree) {path : TreePath}
    (hbelow : ∃ root ∈ roots, root <+: path ∧ path ≠ root)
    (hfiles : ∀ child, path <+: child → files.isFile child = false) :
    (removeEmptyDirectories roots files).node? path = none := by
  induction roots generalizing files with
  | nil =>
    obtain ⟨root, hroot, -⟩ := hbelow
    cases hroot
  | cons root rest ih =>
    obtain ⟨above, habove, hprefix, hne⟩ := hbelow
    change (removeEmptyDirectories rest (if files.pathExists root then
      files.sweep (directoriesBelow files root) else files)).node? path = none
    rcases List.mem_cons.mp habove with rfl | hrest
    · have hgone : (if files.pathExists above then files.sweep (directoriesBelow files above)
          else files).node? path = none := by
        by_cases hdir : files.isDir path = true
        · have habove : files.pathExists above = true := by
            rw [FileTree.pathExists_eq, htree.isDir_of_below _ hprefix hne]
            · rfl
            · rw [FileTree.pathExists_eq, hdir]
              rfl
          rw [if_pos habove]
          exact (fromBelow_directoriesBelow files above).node?_sweep
            (mem_directoriesBelow_iff.mpr ⟨hdir, hprefix, hne⟩) hfiles
        · have hmissing : files.node? path = none := by
            have hexists := FileTree.pathExists_eq files path
            rw [hfiles path (List.prefix_refl _), Bool.eq_false_iff.mpr hdir] at hexists
            exact Option.isNone_iff_eq_none.mp (Option.isSome_eq_false_iff.mp hexists)
          split_ifs
          · rcases FileTree.node?_sweep_eq files (directoriesBelow files above) path with h | h
            · exact h
            · rw [h, hmissing]
          · exact hmissing
      rcases node?_removeEmptyDirectories_eq rest _ path with hnone | hsame
      · exact hnone
      · rw [hsame, hgone]
    · have hcontent : ∀ other, (if files.pathExists root then
          files.sweep (directoriesBelow files root) else files).isFile other =
            files.isFile other := by
        intro other
        split_ifs
        · rw [FileTree.isFile, FileTree.content?_sweep]
          rfl
        · rfl
      refine ih ?_ ⟨above, hrest, hprefix, hne⟩ fun child hchild ↦
        (hcontent child).trans (hfiles child hchild)
      split_ifs
      · exact htree.sweep _
      · exact htree

theorem refusal?_eq_none {files : FileStore} {base : TreePath} {retentionDays : ℤ}
    (hbase : files.isDir base = true) (hretention : 0 < retentionDays) :
    refusal? files base retentionDays = none := by
  have hexists : files.pathExists base = true := by
    rw [FileTree.pathExists_eq, hbase]
    rfl
  rw [refusal?, if_neg (by omega), hexists, hbase]
  rfl

/-- What a purge that is not refused leaves and reports. -/
theorem purgeWorkspaceArtifacts_apply {files : FileStore} {base : TreePath} {retentionDays : ℤ}
    (h : refusal? files base retentionDays = none) (workspaceId : String) (dryRun : Bool) (now : ℤ) :
    purgeWorkspaceArtifacts workspaceId base retentionDays dryRun now files =
      (.ok (execution files base workspaceId retentionDays dryRun now),
        if dryRun = false then removeEmptyDirectories (candidateRoots base workspaceId)
          (files.removeAll (toDelete files base workspaceId retentionDays now))
        else files) := by
  unfold purgeWorkspaceArtifacts
  rw [Effect.bind_apply, Effect.read_apply]
  dsimp only
  rw [h]
  cases dryRun <;> rfl

theorem isExpired_iff {files : FileStore} {cutoff : ℤ} {path : TreePath} :
    isExpired files cutoff path = true ↔ ∃ mtime, files.mtime? path = some mtime ∧ mtime ≤ cutoff := by
  rw [isExpired, Option.any_eq_true]
  exact exists_congr fun mtime ↦ and_congr_right fun _ ↦ decide_eq_true_iff

theorem mem_toDelete_tree_iff {files : FileStore} (htree : files.IsTree) {workspaceId : String}
    (hname : IsPlainName workspaceId) {base : TreePath} {retentionDays now : ℤ} {path : TreePath} :
    path ∈ toDelete files base workspaceId retentionDays now ↔ files.isFile path = true ∧
      InWorkspace base workspaceId path ∧
      ∃ mtime, files.mtime? path = some mtime ∧ mtime ≤ cutoffEpoch retentionDays now := by
  rw [mem_toDelete_iff, inWorkspace_iff hname, isExpired_iff]
  refine and_congr_right fun hfile ↦ and_congr_left fun _ ↦ exists_congr fun root ↦
    and_congr_right fun _ ↦ ⟨fun h ↦ h.2, fun h ↦ ⟨?_, h⟩⟩
  have hexists : files.pathExists path = true := by
    rw [FileTree.pathExists_eq, hfile, Bool.or_true]
  rw [FileTree.pathExists_eq, htree.isDir_of_below hexists h.1 h.2]
  rfl

/-- A purge collects no file twice. -/
theorem nodup_toDelete (files : FileStore) (base : TreePath) (workspaceId : String)
    (retentionDays now : ℤ) : (toDelete files base workspaceId retentionDays now).Nodup := by
  refine List.Nodup.filter _ (List.nodup_flatMap.mpr ⟨fun root _ ↦ ?_, ?_⟩)
  · unfold scannedFiles
    split_ifs
    · exact (List.perm_insertionSort _ _).nodup_iff.mpr ((nodup_below files root).filter _)
    · exact List.nodup_nil
  · have hbelow : ∀ root path, path ∈ scannedFiles files root → root <+: path := by
      intro root path hpath
      unfold scannedFiles at hpath
      split_ifs at hpath
      · have hmem := (List.mem_filter.mp ((List.mem_insertionSort _).mp hpath)).1
        exact (FileTree.mem_below_iff.mp hmem).2.1
      · cases hpath
    have hlayers : ["bronze", "silver", "gold", "documents"].Pairwise fun first second ↦
        first ≠ second := by decide
    refine List.pairwise_map.mpr (hlayers.imp fun {first second} hne ↦ ?_)
    intro path hfirst hsecond
    obtain ⟨names, hpath⟩ := hbelow _ _ hfirst
    obtain ⟨names', hpath'⟩ := hbelow _ _ hsecond
    rw [← hpath, List.append_assoc, List.append_assoc] at hpath'
    exact hne (List.cons.inj (List.append_cancel_left hpath')).1.symm

/-- A purge that deletes leaves of a tree what it is to leave. -/
theorem purged_removeEmptyDirectories {files : FileStore} (htree : files.IsTree) {workspaceId : String}
    (hname : IsPlainName workspaceId) (base : TreePath) (retentionDays now : ℤ) :
    Purged base workspaceId (cutoffEpoch retentionDays now) files
      (removeEmptyDirectories (candidateRoots base workspaceId)
        (files.removeAll (toDelete files base workspaceId retentionDays now))) := by
  have hdelete : ∀ path, path ∈ toDelete files base workspaceId retentionDays now ↔ _ := fun _ ↦
    mem_toDelete_tree_iff htree hname
  have hfiles : ∀ path ∈ toDelete files base workspaceId retentionDays now,
      files.isDir path = false := fun path hpath ↦
    FileTree.isDir_of_isFile (isFile_of_mem_toDelete hpath)
  have hroots : ∀ path, ¬InWorkspace base workspaceId path →
      ∀ root ∈ candidateRoots base workspaceId, root <+: path → path = root := by
    intro path houtside root hroot hprefix
    by_contra hne
    exact houtside ((inWorkspace_iff hname base path).mpr ⟨root, hroot, hprefix, hne⟩)
  generalize toDelete files base workspaceId retentionDays now = removed at hdelete hfiles
  have hmid : ∀ path, (files.removeAll removed).node? path =
      if path ∈ removed then none else files.node? path := by
    intro path
    by_cases hroot : path = []
    · rw [if_neg, hroot]
      · rfl
      · rintro hmem
        exact absurd hroot (FileTree.ne_nil_of_isDir_eq_false (hfiles path hmem))
    · exact FileTree.node?_removeAll files removed hroot
  have hmidDir : ∀ path, (files.removeAll removed).isDir path = files.isDir path :=
    FileTree.isDir_removeAll hfiles
  have helsewhere : ∀ path, ¬InWorkspace base workspaceId path →
      (removeEmptyDirectories (candidateRoots base workspaceId) (files.removeAll removed)).node? path =
        files.node? path := by
    intro path houtside
    rw [node?_removeEmptyDirectories_elsewhere _ (hroots path houtside), hmid,
      if_neg fun hmem ↦ houtside ((hdelete path).mp hmem).2.1]
  refine ⟨fun path ↦ ?_, fun path hfile ↦ ?_, fun path hdir ↦ ?_, helsewhere, ?_⟩
  · rcases node?_removeEmptyDirectories_eq (candidateRoots base workspaceId) (files.removeAll removed)
      path with hnone | hsame
    · exact Or.inl hnone
    · rw [hsame, hmid]
      split_ifs
      · exact Or.inl rfl
      · exact Or.inr rfl
  · have hnode : files.node? path ≠ none := by
      intro hnone
      rw [FileTree.isFile, FileTree.content?, hnone] at hfile
      cases hfile
    have hsame := node?_removeEmptyDirectories (candidateRoots base workspaceId)
      ((hmidDir path).trans (FileTree.isDir_of_isFile hfile))
    have hgone : (removeEmptyDirectories (candidateRoots base workspaceId)
        (files.removeAll removed)).node? path = none ↔ path ∈ removed := by
      rw [hsame, hmid]
      split_ifs with hmem
      · exact iff_of_true rfl hmem
      · exact iff_of_false hnode hmem
    rw [hgone, hdelete, and_iff_right hfile]
  · have hnode : files.node? path ≠ none := by
      intro hnone
      rw [FileTree.isDir, hnone] at hdir
      cases hdir
    constructor
    · intro hnone
      refine ⟨?_, fun child hchild ↦ ?_⟩
      · by_contra houtside
        exact hnode ((helsewhere path houtside).symm.trans hnone)
      · by_contra hleft
        rw [Bool.not_eq_false, FileTree.isFile, content?_removeEmptyDirectories] at hleft
        have hstays := isDir_removeEmptyDirectories (candidateRoots base workspaceId)
          ((hmidDir path).trans hdir) hleft hchild
        rw [FileTree.isDir, hnone] at hstays
        cases hstays
    · rintro ⟨hinside, hempty⟩
      refine node?_removeEmptyDirectories_empty (htree.removeAll hfiles)
        ((inWorkspace_iff hname base path).mp hinside) fun child hchild ↦ ?_
      rw [← hempty child hchild, FileTree.isFile, FileTree.isFile, content?_removeEmptyDirectories]
  · intro other hother hne path hpath
    exact helsewhere path fun hinside ↦ hne (hpath.eq hother hname hinside)

/-- An expired and a fresh file of the workspace `w1`, the expired one in a directory of its own. -/
def agedFiles : FileStore :=
  ⟨AList.insert ["lake"] .directory <| AList.insert ["lake", "gold"] .directory <|
    AList.insert ["lake", "gold", "w1"] .directory <|
    AList.insert ["lake", "gold", "w1", "old"] .directory <|
    AList.insert ["lake", "gold", "w1", "old", "a.csv"] (.file (.bytes []) 0) <|
    AList.insert ["lake", "gold", "w1", "b.csv"] (.file (.bytes []) (86400 * 10 ^ 9)) ∅⟩

theorem isTree_agedFiles : agedFiles.IsTree :=
  FileTree.isTree_of_keys (by decide)

end SchemaPilot.SharedDomain.Purge
