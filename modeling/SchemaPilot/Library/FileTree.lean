import Mathlib.Data.List.AList
import Mathlib.Data.List.Infix

/-!
# File trees

The files and directories below the root of a file system, by the names that lead to them. A write
needs its directory and refreshes the modification time; `makeDirs?` is `mkdir(parents=True,
exist_ok=True)` and `below` is `rglob("*")`. An operation that the system refuses is `none`. The
lemmas say what each operation does to the contents of the files: `content?_write?`,
`content?_makeDirs?`, `content?_removeAll` and `content?_sweep`.
-/

namespace SchemaPilot.Library

/-- The names that lead from the root to a file or a directory. -/
abbrev TreePath := List String

/-- The parts of the text of a path, those that stay where they are left out. -/
def pathParts (text : String) : List String :=
  ((text.toList.splitOn '/').map String.ofList).filter fun part ↦ part ≠ "" ∧ part ≠ "."

/-- `base / text`: an absolute text starts from the root, and `..` leads back to the parent. -/
def joinName (base : TreePath) (text : String) : TreePath :=
  (pathParts text).foldl (fun path part ↦ if part = ".." then path.dropLast else path ++ [part])
    (if text.toList.head? = some '/' then [] else base)

/-- `base / first / second / …`. -/
def joinNames (base : TreePath) (texts : List String) : TreePath := texts.foldl joinName base

def IsPlainName (name : String) : Prop := name ∉ ["", ".", ".."] ∧ '/' ∉ name.toList

instance (name : String) : Decidable (IsPlainName name) := inferInstanceAs (Decidable (_ ∧ _))

/-- A plain name leads one step down. -/
theorem joinName_plain {name : String} (h : IsPlainName name) (base : TreePath) :
    joinName base name = base ++ [name] := by
  obtain ⟨hname, hslash⟩ := h
  simp only [List.mem_cons, List.not_mem_nil, or_false, not_or] at hname
  have hhead : name.toList.head? ≠ some '/' := fun hfirst ↦ hslash (List.mem_of_mem_head? hfirst)
  have hparts : pathParts name = [name] := by
    rw [pathParts, List.splitOn_eq_singleton hslash, List.map_singleton, String.ofList_toList]
    simp [hname.1, hname.2.1]
  rw [joinName, hparts, if_neg hhead, List.foldl_cons, if_neg hname.2.2]
  rfl

/-- What a path names: a directory, or a file with its content and modification time. -/
inductive FileNode (κ : Type) where
  | directory
  | file (content : κ) (mtime : ℤ)

/-- The files and directories below the root. -/
structure FileTree (κ : Type) where
  nodes : AList fun _ : TreePath ↦ FileNode κ

namespace FileTree

variable {κ : Type}

def empty : FileTree κ := ⟨∅⟩

/-- What a path names; the root is a directory. -/
def node? (tree : FileTree κ) (path : TreePath) : Option (FileNode κ) :=
  if path = [] then some .directory else tree.nodes.lookup path

def content? (tree : FileTree κ) (path : TreePath) : Option κ :=
  match tree.node? path with
  | some (.file content _) => some content
  | _ => none

def mtime? (tree : FileTree κ) (path : TreePath) : Option ℤ :=
  match tree.node? path with
  | some (.file _ mtime) => some mtime
  | _ => none

/-- `path.exists()`. -/
def pathExists (tree : FileTree κ) (path : TreePath) : Bool := (tree.node? path).isSome

/-- `path.is_file()`. -/
def isFile (tree : FileTree κ) (path : TreePath) : Bool := (tree.content? path).isSome

/-- `path.is_dir()`. -/
def isDir (tree : FileTree κ) (path : TreePath) : Bool :=
  match tree.node? path with
  | some .directory => true
  | _ => false

def bindNode (tree : FileTree κ) (path : TreePath) (node : FileNode κ) : FileTree κ :=
  ⟨tree.nodes.insert path node⟩

/-- Write a whole file, new or not, into an existing directory. -/
def write? (tree : FileTree κ) (path : TreePath) (content : κ) (now : ℤ) :
    Option (FileTree κ) :=
  if tree.isDir path.dropLast && !tree.isDir path then
    some (tree.bindNode path (.file content now))
  else none

/-- `mkdir(exist_ok=True)` of a path whose parent exists. -/
def makeDir? (tree : FileTree κ) (path : TreePath) : Option (FileTree κ) :=
  match tree.node? path with
  | some .directory => some tree
  | some (.file _ _) => none
  | none => some (tree.bindNode path .directory)

/-- `mkdir(parents=True, exist_ok=True)`. -/
def makeDirs? (tree : FileTree κ) (path : TreePath) : Option (FileTree κ) :=
  path.inits.foldlM makeDir? tree

def remove (tree : FileTree κ) (path : TreePath) : FileTree κ := ⟨tree.nodes.erase path⟩

def removeAll (tree : FileTree κ) (paths : List TreePath) : FileTree κ := paths.foldl remove tree

/-- `root.rglob("*")`. -/
def below (tree : FileTree κ) (root : TreePath) : List TreePath :=
  tree.nodes.keys.filter fun path ↦ root.isPrefixOf path && path != root

/-- `path.rmdir()`, an error being passed over. -/
def removeEmptyDir (tree : FileTree κ) (path : TreePath) : FileTree κ :=
  if tree.isDir path && (tree.below path).isEmpty then tree.remove path else tree

/-- Remove the directories among some paths that are empty when their turn comes. -/
def sweep (tree : FileTree κ) (paths : List TreePath) : FileTree κ :=
  paths.foldl removeEmptyDir tree

/-! ### Nodes after an operation -/

theorem node?_bindNode (tree : FileTree κ) {path : TreePath} (hpath : path ≠ [])
    (node : FileNode κ) (other : TreePath) :
    (tree.bindNode path node).node? other = if other = path then some node else tree.node? other := by
  unfold node? bindNode
  by_cases hother : other = []
  · rw [if_pos hother, if_pos hother, if_neg]
    rintro rfl
    exact hpath hother
  · rw [if_neg hother, if_neg hother]
    by_cases heq : other = path
    · rw [if_pos heq, heq, AList.lookup_insert]
    · rw [if_neg heq, AList.lookup_insert_ne heq]

theorem node?_remove (tree : FileTree κ) (path other : TreePath) :
    (tree.remove path).node? other =
      if other = path ∧ path ≠ [] then none else tree.node? other := by
  unfold node? remove
  by_cases hother : other = []
  · rw [if_pos hother, if_pos hother, if_neg]
    rintro ⟨rfl, hpath⟩
    exact hpath hother
  · rw [if_neg hother, if_neg hother]
    by_cases heq : other = path
    · rw [if_pos ⟨heq, heq ▸ hother⟩, heq, AList.lookup_erase]
    · rw [if_neg (fun h ↦ heq h.1), AList.lookup_erase_ne heq]

/-- Making a directory leaves every other node alone. -/
theorem node?_makeDir? {tree after : FileTree κ} {path other : TreePath}
    (h : tree.makeDir? path = some after) (hother : other ≠ path) :
    after.node? other = tree.node? other := by
  unfold makeDir? at h
  split at h
  · cases h
    rfl
  · cases h
  · next hnode =>
    have hpath : path ≠ [] := by
      rintro rfl
      cases hnode
    cases h
    rw [node?_bindNode tree hpath, if_neg hother]

/-- Making directories leaves every node alone that does not lead to them. -/
theorem node?_makeDirs? {tree after : FileTree κ} {path other : TreePath}
    (h : tree.makeDirs? path = some after) (hother : ¬other <+: path) :
    after.node? other = tree.node? other := by
  unfold makeDirs? at h
  have hinits : ∀ made ∈ path.inits, other ≠ made := by
    rintro made hmade rfl
    exact hother ((List.mem_inits _ _).mp hmade)
  generalize path.inits = paths at h hinits
  induction paths generalizing tree with
  | nil =>
    cases h
    rfl
  | cons first rest ih =>
    rw [List.foldlM_cons, Option.bind_eq_bind, Option.bind_eq_some_iff] at h
    obtain ⟨middle, hfirst, hrest⟩ := h
    rw [ih hrest fun made hmade ↦ hinits made (List.mem_cons_of_mem _ hmade),
      node?_makeDir? hfirst (hinits first List.mem_cons_self)]

/-- A write leaves every other node alone. -/
theorem node?_write? {tree after : FileTree κ} {path other : TreePath} {content : κ} {now : ℤ}
    (h : tree.write? path content now = some after) (hother : other ≠ path) :
    after.node? other = tree.node? other := by
  unfold write? at h
  split_ifs at h with hdirs
  rw [Bool.and_eq_true, Bool.not_eq_true'] at hdirs
  cases h
  have hpath : path ≠ [] := by
    rintro rfl
    cases hdirs.2
  rw [node?_bindNode tree hpath, if_neg hother]

/-- Removed nodes are gone, and the others are left alone. -/
theorem node?_removeAll (tree : FileTree κ) (paths : List TreePath) {other : TreePath}
    (hroot : other ≠ []) :
    (tree.removeAll paths).node? other = if other ∈ paths then none else tree.node? other := by
  unfold removeAll
  induction paths generalizing tree with
  | nil => rw [List.foldl_nil, if_neg List.not_mem_nil]
  | cons first rest ih =>
    rw [List.foldl_cons, ih, node?_remove]
    by_cases hrest : other ∈ rest
    · rw [if_pos hrest, if_pos (List.mem_cons_of_mem _ hrest)]
    · rw [if_neg hrest]
      by_cases hfirst : other = first
      · subst hfirst
        rw [if_pos ⟨rfl, hroot⟩, if_pos List.mem_cons_self]
      · rw [if_neg fun h ↦ hfirst h.1,
          if_neg fun h ↦ (List.mem_cons.mp h).elim hfirst hrest]

/-- Removing empty directories leaves every node alone that is none. -/
theorem node?_sweep (tree : FileTree κ) (paths : List TreePath) {other : TreePath}
    (hother : tree.isDir other = false) : (tree.sweep paths).node? other = tree.node? other := by
  unfold sweep
  induction paths generalizing tree with
  | nil => rfl
  | cons first rest ih =>
    have hfirst : (tree.removeEmptyDir first).node? other = tree.node? other := by
      unfold removeEmptyDir
      split_ifs with h
      · rw [Bool.and_eq_true] at h
        rw [node?_remove, if_neg]
        rintro ⟨rfl, -⟩
        exact absurd (h.1.symm.trans hother) (by decide)
      · rfl
    have hdir : (tree.removeEmptyDir first).isDir other = false := by
      rw [isDir, hfirst]
      exact hother
    rw [List.foldl_cons, ih _ hdir, hfirst]

/-- What lies below a root are the paths there that name something. -/
theorem mem_below_iff {tree : FileTree κ} {root path : TreePath} :
    path ∈ tree.below root ↔ tree.pathExists path = true ∧ root <+: path ∧ path ≠ root := by
  by_cases hpath : path = []
  · subst hpath
    constructor
    · intro h
      have hroot := (List.mem_filter.mp h).2
      simp only [Bool.and_eq_true, List.isPrefixOf_iff_prefix, bne_iff_ne] at hroot
      exact absurd (List.prefix_nil.mp hroot.1).symm hroot.2
    · rintro ⟨-, hroot, hne⟩
      exact absurd (List.prefix_nil.mp hroot).symm hne
  · have hkey : tree.pathExists path = true ↔ path ∈ tree.nodes.keys := by
      rw [pathExists, node?, if_neg hpath, AList.lookup_isSome]
      exact Iff.rfl
    rw [hkey, below, List.mem_filter]
    simp

theorem mem_below_of_isFile {tree : FileTree κ} {root path : TreePath}
    (hfile : tree.isFile path = true) :
    path ∈ tree.below root ↔ root <+: path ∧ path ≠ root := by
  have hexists : tree.pathExists path = true := by
    unfold isFile content? at hfile
    unfold pathExists
    cases hnode : tree.node? path with
    | none =>
      rw [hnode] at hfile
      cases hfile
    | some node => rfl
  rw [mem_below_iff, and_iff_right hexists]

/-! ### Contents after an operation -/

theorem content?_eq_none_of_isDir {tree : FileTree κ} {path : TreePath}
    (h : tree.isDir path = true) : tree.content? path = none := by
  unfold isDir at h
  unfold content?
  split at h
  · next hnode => rw [hnode]
  · cases h

theorem isDir_of_isFile {tree : FileTree κ} {path : TreePath} (h : tree.isFile path = true) :
    tree.isDir path = false := by
  unfold isFile content? at h
  unfold isDir
  split at h
  · next hnode => rw [hnode]
  · cases h

theorem ne_nil_of_isDir_eq_false {tree : FileTree κ} {path : TreePath}
    (h : tree.isDir path = false) : path ≠ [] := by
  rintro rfl
  cases h

/-- A write gives its file the content and leaves every other file alone. -/
theorem content?_write? {tree after : FileTree κ} {path : TreePath} {content : κ} {now : ℤ}
    (h : tree.write? path content now = some after) (other : TreePath) :
    after.content? other = if other = path then some content else tree.content? other := by
  unfold write? at h
  split_ifs at h with hdirs
  rw [Bool.and_eq_true, Bool.not_eq_true'] at hdirs
  cases h
  unfold content?
  rw [node?_bindNode tree (ne_nil_of_isDir_eq_false hdirs.2)]
  split_ifs <;> rfl

theorem content?_makeDir? {tree after : FileTree κ} {path : TreePath}
    (h : tree.makeDir? path = some after) (other : TreePath) :
    after.content? other = tree.content? other := by
  unfold makeDir? at h
  split at h
  · cases h
    rfl
  · cases h
  · next hnode =>
    have hpath : path ≠ [] := by
      rintro rfl
      cases hnode
    cases h
    unfold content?
    rw [node?_bindNode tree hpath]
    by_cases heq : other = path
    · rw [if_pos heq, heq, hnode]
    · rw [if_neg heq]

/-- Making directories leaves every file alone. -/
theorem content?_makeDirs? {tree after : FileTree κ} {path : TreePath}
    (h : tree.makeDirs? path = some after) (other : TreePath) :
    after.content? other = tree.content? other := by
  unfold makeDirs? at h
  generalize path.inits = paths at h
  induction paths generalizing tree with
  | nil =>
    cases h
    rfl
  | cons first rest ih =>
    rw [List.foldlM_cons, Option.bind_eq_bind, Option.bind_eq_some_iff] at h
    obtain ⟨middle, hfirst, hrest⟩ := h
    rw [ih hrest, content?_makeDir? hfirst]

theorem content?_remove (tree : FileTree κ) (path other : TreePath) :
    (tree.remove path).content? other = if other = path then none else tree.content? other := by
  unfold content?
  rw [node?_remove]
  by_cases heq : other = path
  · rw [if_pos heq]
    by_cases hpath : path = []
    · rw [if_neg (fun h ↦ h.2 hpath), heq, hpath]
      rfl
    · rw [if_pos ⟨heq, hpath⟩]
  · rw [if_neg heq, if_neg (fun h ↦ heq h.1)]

/-- Removed files are gone and the others are left alone. -/
theorem content?_removeAll (tree : FileTree κ) (paths : List TreePath) (other : TreePath) :
    (tree.removeAll paths).content? other =
      if other ∈ paths then none else tree.content? other := by
  unfold removeAll
  induction paths generalizing tree with
  | nil => rw [List.foldl_nil, if_neg List.not_mem_nil]
  | cons first rest ih =>
    rw [List.foldl_cons, ih, content?_remove]
    by_cases hrest : other ∈ rest
    · rw [if_pos hrest, if_pos (List.mem_cons_of_mem _ hrest)]
    · rw [if_neg hrest]
      by_cases hfirst : other = first
      · rw [if_pos hfirst, if_pos (hfirst ▸ List.mem_cons_self)]
      · rw [if_neg hfirst, if_neg fun h ↦ (List.mem_cons.mp h).elim hfirst hrest]

theorem content?_removeEmptyDir (tree : FileTree κ) (path other : TreePath) :
    (tree.removeEmptyDir path).content? other = tree.content? other := by
  unfold removeEmptyDir
  split_ifs with h
  · rw [Bool.and_eq_true] at h
    rw [content?_remove]
    by_cases heq : other = path
    · rw [if_pos heq, heq, content?_eq_none_of_isDir h.1]
    · rw [if_neg heq]
  · rfl

/-- Removing empty directories leaves every file alone. -/
theorem content?_sweep (tree : FileTree κ) (paths : List TreePath) (other : TreePath) :
    (tree.sweep paths).content? other = tree.content? other := by
  unfold sweep
  induction paths generalizing tree with
  | nil => rfl
  | cons first rest ih => rw [List.foldl_cons, ih, content?_removeEmptyDir]

/-! ### Directories after an operation -/

/-- A path names a directory, a file or nothing. -/
theorem pathExists_eq (tree : FileTree κ) (path : TreePath) :
    tree.pathExists path = (tree.isDir path || tree.isFile path) := by
  unfold pathExists isDir isFile content?
  rcases tree.node? path with _ | _ | _ <;> rfl

theorem isDir_makeDir? {tree after : FileTree κ} {path : TreePath}
    (h : tree.makeDir? path = some after) (other : TreePath) :
    after.isDir other = (decide (other = path) || tree.isDir other) := by
  by_cases hother : other = path
  · subst hother
    unfold makeDir? at h
    split at h
    · next hnode =>
      cases h
      simp [isDir, hnode]
    · cases h
    · next hnode =>
      have hpath : other ≠ [] := by
        rintro rfl
        cases hnode
      cases h
      rw [isDir, node?_bindNode tree hpath, if_pos rfl]
      simp
  · rw [isDir, node?_makeDir? h hother, decide_eq_false hother, Bool.false_or, isDir]

/-- Made directories are there, and so are those that lead to them. -/
theorem isDir_makeDirs? {tree after : FileTree κ} {path : TreePath}
    (h : tree.makeDirs? path = some after) (other : TreePath) :
    after.isDir other = (decide (other <+: path) || tree.isDir other) := by
  have hmem : (other <+: path) ↔ other ∈ path.inits := (List.mem_inits _ _).symm
  unfold makeDirs? at h
  simp only [hmem]
  generalize path.inits = paths at h
  induction paths generalizing tree with
  | nil =>
    cases h
    simp
  | cons first rest ih =>
    rw [List.foldlM_cons, Option.bind_eq_bind, Option.bind_eq_some_iff] at h
    obtain ⟨middle, hfirst, hrest⟩ := h
    rw [ih hrest, isDir_makeDir? hfirst]
    by_cases hother : other = first
    · simp [hother]
    · simp [hother]

/-- A path that names something stays what it is when directories are made. -/
theorem isDir_makeDirs?_of_pathExists {tree after : FileTree κ} {path other : TreePath}
    (h : tree.makeDirs? path = some after) (hother : tree.pathExists other = true) :
    after.isDir other = tree.isDir other := by
  cases hdir : tree.isDir other with
  | true => rw [isDir_makeDirs? h, hdir, Bool.or_true]
  | false =>
    by_contra hmade
    have hnone := content?_eq_none_of_isDir (by simpa using hmade)
    rw [content?_makeDirs? h] at hnone
    rw [pathExists_eq, hdir, Bool.false_or, isFile, hnone] at hother
    cases hother

theorem isFile_eq_false_iff {tree : FileTree κ} {path : TreePath} :
    tree.isFile path = false ↔ tree.content? path = none := by
  rw [isFile, Option.isSome_eq_false_iff, Option.isNone_iff_eq_none]

/-- Directories can be made where no file is in the way. -/
theorem exists_makeDirs? {tree : FileTree κ} {path : TreePath}
    (h : ∀ made, made <+: path → tree.isFile made = false) :
    ∃ after, tree.makeDirs? path = some after := by
  have hinits : ∀ made ∈ path.inits, tree.isFile made = false := fun made hmade ↦
    h made ((List.mem_inits _ _).mp hmade)
  unfold makeDirs?
  generalize path.inits = paths at hinits
  induction paths generalizing tree with
  | nil => exact ⟨tree, rfl⟩
  | cons first rest ih =>
    have hmake : ∃ middle, tree.makeDir? first = some middle := by
      unfold makeDir?
      split
      · exact ⟨_, rfl⟩
      · next content mtime hnode =>
        have hfile := hinits first List.mem_cons_self
        rw [isFile, content?, hnode] at hfile
        cases hfile
      · exact ⟨_, rfl⟩
    obtain ⟨middle, hmiddle⟩ := hmake
    have hsame : ∀ made ∈ rest, middle.isFile made = false := by
      intro made hmade
      rw [isFile, content?_makeDir? hmiddle]
      exact hinits made (List.mem_cons_of_mem _ hmade)
    have hrest : ∀ made, made <+: path → middle.isFile made = false := by
      intro made hmade
      rw [isFile, content?_makeDir? hmiddle]
      exact h made hmade
    obtain ⟨after, hafter⟩ := ih hrest hsame
    refine ⟨after, ?_⟩
    rw [List.foldlM_cons, hmiddle]
    exact hafter

/-- A write succeeds into an existing directory, unless its file is a directory. -/
theorem exists_write? {tree : FileTree κ} {path : TreePath} (content : κ) (now : ℤ)
    (hparent : tree.isDir path.dropLast = true) (hdir : tree.isDir path = false) :
    ∃ after, tree.write? path content now = some after := by
  rw [write?, hparent, hdir]
  exact ⟨_, rfl⟩

theorem isDir_write? {tree after : FileTree κ} {path : TreePath} {content : κ} {now : ℤ}
    (h : tree.write? path content now = some after) (other : TreePath) :
    after.isDir other = tree.isDir other := by
  by_cases hother : other = path
  · unfold write? at h
    split_ifs at h with hdirs
    rw [Bool.and_eq_true, Bool.not_eq_true'] at hdirs
    cases h
    rw [isDir, hother, node?_bindNode tree (ne_nil_of_isDir_eq_false hdirs.2), if_pos rfl, hdirs.2]
  · rw [isDir, node?_write? h hother, isDir]

/-- Removing what is no directory leaves the directories. -/
theorem isDir_removeAll {tree : FileTree κ} {paths : List TreePath}
    (h : ∀ path ∈ paths, tree.isDir path = false) (other : TreePath) :
    (tree.removeAll paths).isDir other = tree.isDir other := by
  by_cases hroot : other = []
  · rw [hroot]
    rfl
  · rw [isDir, node?_removeAll tree paths hroot]
    split_ifs with hmem
    · rw [h other hmem]
    · rfl

/-- Removing empty directories makes nothing new. -/
theorem node?_sweep_eq (tree : FileTree κ) (paths : List TreePath) (other : TreePath) :
    (tree.sweep paths).node? other = none ∨ (tree.sweep paths).node? other = tree.node? other := by
  unfold sweep
  induction paths generalizing tree with
  | nil => exact Or.inr rfl
  | cons first rest ih =>
    rw [List.foldl_cons]
    rcases ih (tree.removeEmptyDir first) with hnone | hsame
    · exact Or.inl hnone
    · rw [hsame]
      unfold removeEmptyDir
      split_ifs
      · rw [node?_remove]
        split_ifs
        · exact Or.inl rfl
        · exact Or.inr rfl
      · exact Or.inr rfl

/-- Removing empty directories leaves those with a file below them. -/
theorem isDir_sweep_of_isFile (tree : FileTree κ) (paths : List TreePath) {other child : TreePath}
    (hdir : tree.isDir other = true) (hchild : tree.isFile child = true) (hbelow : other <+: child) :
    (tree.sweep paths).isDir other = true := by
  unfold sweep
  induction paths generalizing tree with
  | nil => exact hdir
  | cons first rest ih =>
    rw [List.foldl_cons]
    have hfile : (tree.removeEmptyDir first).isFile child = true := by
      rw [isFile, content?_removeEmptyDir]
      exact hchild
    refine ih _ ?_ hfile
    unfold removeEmptyDir
    split_ifs with hempty
    · rw [isDir, node?_remove, if_neg]
      · exact hdir
      · rintro ⟨rfl, -⟩
        rw [Bool.and_eq_true, List.isEmpty_iff] at hempty
        have hne : child ≠ other := by
          rintro rfl
          rw [isDir_of_isFile hchild] at hdir
          cases hdir
        have hmem := (mem_below_of_isFile hchild).mpr ⟨hbelow, hne⟩
        rw [hempty.2] at hmem
        cases hmem
    · exact hdir

/-! ### Trees -/

/-- Every file and directory lies in a directory. -/
def IsTree (tree : FileTree κ) : Prop :=
  ∀ path name, tree.pathExists (path ++ [name]) = true → tree.isDir path = true

theorem isTree_of_keys {tree : FileTree κ}
    (h : ∀ path ∈ tree.nodes.keys, tree.isDir path.dropLast = true) : tree.IsTree := by
  intro path name hexists
  have hmem : path ++ [name] ∈ tree.nodes.keys := by
    rw [pathExists, node?, if_neg (by simp), AList.lookup_isSome] at hexists
    exact hexists
  have hparent := h _ hmem
  rwa [List.dropLast_concat] at hparent

/-- What lies below a path of a tree lies in a directory. -/
theorem IsTree.isDir_of_below {tree : FileTree κ} (htree : tree.IsTree) {path child : TreePath}
    (hchild : tree.pathExists child = true) (hbelow : path <+: child) (hne : child ≠ path) :
    tree.isDir path = true := by
  obtain ⟨names, rfl⟩ := hbelow
  induction names using List.reverseRecOn with
  | nil => exact absurd (List.append_nil path) hne
  | append_singleton names name ih =>
    rw [← List.append_assoc] at hchild
    have hparent := htree _ _ hchild
    by_cases hnames : names = []
    · rwa [hnames, List.append_nil] at hparent
    · refine ih ?_ fun heq ↦ hnames (List.append_right_eq_self.mp heq)
      rw [pathExists_eq, hparent]
      rfl

/-- A tree whose nodes are those of another one, or gone with nothing left below them, is one too. -/
theorem IsTree.of_node? {tree after : FileTree κ} (htree : tree.IsTree)
    (hkept : ∀ path, after.node? path = none ∨ after.node? path = tree.node? path)
    (hdirs : ∀ path name, after.pathExists (path ++ [name]) = true → tree.isDir path = true →
      after.node? path = tree.node? path) : after.IsTree := by
  intro path name hexists
  have hbefore : tree.isDir path = true := by
    refine htree path name ?_
    rcases hkept (path ++ [name]) with hnone | hsame
    · rw [pathExists, hnone] at hexists
      cases hexists
    · rwa [pathExists, ← hsame]
  rw [isDir, hdirs path name hexists hbefore]
  exact hbefore

theorem node?_removeEmptyDir_eq (tree : FileTree κ) (path other : TreePath) :
    (tree.removeEmptyDir path).node? other = none ∨
      (tree.removeEmptyDir path).node? other = tree.node? other :=
  node?_sweep_eq tree [path] other

theorem node?_removeEmptyDir_of_ne (tree : FileTree κ) {path other : TreePath} (h : other ≠ path) :
    (tree.removeEmptyDir path).node? other = tree.node? other := by
  unfold removeEmptyDir
  split_ifs
  · rw [node?_remove, if_neg fun hremoved ↦ h hremoved.1]
  · rfl

/-- Removing an empty directory leaves a tree. -/
theorem IsTree.removeEmptyDir {tree : FileTree κ} (htree : tree.IsTree) (path : TreePath) :
    (tree.removeEmptyDir path).IsTree := by
  refine htree.of_node? (node?_removeEmptyDir_eq tree path) fun parent name hexists hparent ↦ ?_
  by_cases hpath : parent = path
  · -- a directory with something in it is not removed
    have hchild : tree.pathExists (parent ++ [name]) = true := by
      rcases node?_removeEmptyDir_eq tree path (parent ++ [name]) with hnone | hsame
      · rw [pathExists, hnone] at hexists
        cases hexists
      · rwa [pathExists, ← hsame]
    have hbelow : parent ++ [name] ∈ tree.below path :=
      mem_below_iff.mpr ⟨hchild, hpath ▸ List.prefix_append _ _, by simp [hpath]⟩
    rw [FileTree.removeEmptyDir, if_neg]
    rw [Bool.and_eq_true, List.isEmpty_iff]
    rintro ⟨-, hempty⟩
    rw [hempty] at hbelow
    cases hbelow
  · exact node?_removeEmptyDir_of_ne tree hpath

theorem IsTree.sweep {tree : FileTree κ} (htree : tree.IsTree) (paths : List TreePath) :
    (tree.sweep paths).IsTree := by
  unfold FileTree.sweep
  induction paths generalizing tree with
  | nil => exact htree
  | cons first rest ih => exact ih (htree.removeEmptyDir first)

/-- Removing files leaves a tree. -/
theorem IsTree.removeAll {tree : FileTree κ} (htree : tree.IsTree) {paths : List TreePath}
    (hpaths : ∀ path ∈ paths, tree.isDir path = false) : (tree.removeAll paths).IsTree := by
  have hnode : ∀ other, (tree.removeAll paths).node? other =
      if other ∈ paths ∧ other ≠ [] then none else tree.node? other := by
    intro other
    by_cases hroot : other = []
    · rw [if_neg fun h ↦ h.2 hroot, hroot]
      rfl
    · rw [node?_removeAll tree paths hroot]
      exact if_congr (and_iff_left hroot).symm rfl rfl
  refine htree.of_node? (fun other ↦ ?_) fun path name _ hdir ↦ ?_
  · rw [hnode]
    split_ifs
    · exact Or.inl rfl
    · exact Or.inr rfl
  · rw [hnode, if_neg]
    rintro ⟨hmem, -⟩
    rw [hpaths path hmem] at hdir
    cases hdir

/-! ### Sweeps from below -/

/-- A sweep leaves every path alone that it does not come to. -/
theorem node?_sweep_of_notMem (tree : FileTree κ) {paths : List TreePath} {other : TreePath}
    (h : other ∉ paths) : (tree.sweep paths).node? other = tree.node? other := by
  unfold sweep
  induction paths generalizing tree with
  | nil => rfl
  | cons first rest ih =>
    rw [List.mem_cons, not_or] at h
    rw [List.foldl_cons, ih _ h.2, node?_removeEmptyDir_of_ne tree h.1]

/-- Directories to sweep: with each, those below it come earlier. -/
structure FromBelow (tree : FileTree κ) (paths : List TreePath) : Prop where
  isDir : ∀ path ∈ paths, tree.isDir path = true
  closed : ∀ path ∈ paths, ∀ other, tree.isDir other = true → path <+: other → other ∈ paths
  order : paths.Pairwise fun first second ↦ ¬first <+: second
  root : [] ∉ paths

/-- A sweep from below removes a directory without files below it. -/
theorem FromBelow.node?_sweep {tree : FileTree κ} {paths : List TreePath}
    (h : tree.FromBelow paths) {path : TreePath} (hpath : path ∈ paths)
    (hfiles : ∀ child, path <+: child → tree.isFile child = false) :
    (tree.sweep paths).node? path = none := by
  induction paths using List.reverseRecOn generalizing path with
  | nil => cases hpath
  | append_singleton earlier last ih =>
    rw [sweep, List.foldl_append, List.foldl_cons, List.foldl_nil]
    change ((tree.sweep earlier).removeEmptyDir last).node? path = none
    have horder := List.pairwise_append.mp h.order
    have hearlier : tree.FromBelow earlier := by
      refine ⟨fun other hother ↦ h.isDir other (List.mem_append_left _ hother), ?_, horder.1,
        fun hroot ↦ h.root (List.mem_append_left _ hroot)⟩
      intro above habove other hother hbelow
      rcases List.mem_append.mp (h.closed above (List.mem_append_left _ habove) other hother hbelow)
        with hmem | hlast
      · exact hmem
      · exact absurd (List.mem_singleton.mp hlast ▸ hbelow)
          (horder.2.2 above habove last (List.mem_singleton_self last))
    rcases List.mem_append.mp hpath with hmem | hlast
    · rcases node?_removeEmptyDir_eq (tree.sweep earlier) last path with hnone | hsame
      · exact hnone
      · rw [hsame, ih hearlier hmem hfiles]
    · obtain rfl := List.mem_singleton.mp hlast
      -- when its turn comes, everything below the last directory is gone
      have hempty : (tree.sweep earlier).below path = [] := by
        refine List.eq_nil_iff_forall_not_mem.mpr fun child hchild ↦ ?_
        obtain ⟨hexists, hbelow, hne⟩ := mem_below_iff.mp hchild
        have hnode : (tree.sweep earlier).node? child = tree.node? child := by
          rcases node?_sweep_eq tree earlier child with hnone | hsame
          · rw [pathExists, hnone] at hexists
            cases hexists
          · exact hsame
        have hdir : tree.isDir child = true := by
          rw [pathExists, hnode] at hexists
          have hkind := pathExists_eq tree child
          rw [pathExists, hexists, hfiles child hbelow, Bool.or_false] at hkind
          exact hkind.symm
        have hmem : child ∈ earlier := by
          rcases List.mem_append.mp (h.closed path hpath child hdir hbelow) with hmem | hlast
          · exact hmem
          · exact absurd (List.mem_singleton.mp hlast) hne
        rw [pathExists, ih hearlier hmem fun other hother ↦ hfiles other (hbelow.trans hother)]
          at hexists
        cases hexists
      have hroot : path ≠ [] := fun heq ↦ h.root (heq ▸ hpath)
      by_cases hthere : (tree.sweep earlier).isDir path = true
      · rw [removeEmptyDir, hthere, hempty, if_pos (by rfl), node?_remove, if_pos ⟨rfl, hroot⟩]
      · have hdir := h.isDir path hpath
        rcases node?_sweep_eq tree earlier path with hnone | hsame
        · rcases node?_removeEmptyDir_eq (tree.sweep earlier) path path with hgone | hstays
          · exact hgone
          · rw [hstays, hnone]
        · rw [FileTree.isDir, hsame] at hthere
          exact absurd hdir hthere

/-! ### Shapes -/

/-- Neither paths nor directories come or go. -/
structure SameShape (tree after : FileTree κ) : Prop where
  exist : ∀ path, after.pathExists path = tree.pathExists path
  dirs : ∀ path, after.isDir path = tree.isDir path

theorem SameShape.refl (tree : FileTree κ) : tree.SameShape tree := ⟨fun _ ↦ rfl, fun _ ↦ rfl⟩

theorem SameShape.trans {tree middle after : FileTree κ} (h : tree.SameShape middle)
    (hafter : middle.SameShape after) : tree.SameShape after :=
  ⟨fun path ↦ (hafter.exist path).trans (h.exist path),
    fun path ↦ (hafter.dirs path).trans (h.dirs path)⟩

theorem SameShape.isTree {tree after : FileTree κ} (h : tree.SameShape after) (htree : tree.IsTree) :
    after.IsTree := by
  intro path name hexists
  rw [h.exist] at hexists
  rw [h.dirs]
  exact htree path name hexists

/-- Writing a file that is there changes nothing else. -/
theorem sameShape_write? {tree after : FileTree κ} {path : TreePath} {content : κ} {now : ℤ}
    (hfile : tree.isFile path = true) (h : tree.write? path content now = some after) :
    tree.SameShape after := by
  refine ⟨fun other ↦ ?_, fun other ↦ isDir_write? h other⟩
  rw [pathExists_eq, pathExists_eq, isDir_write? h, isFile, content?_write? h, isFile]
  by_cases hother : other = path
  · rw [isFile] at hfile
    rw [if_pos hother, hother, hfile]
    rfl
  · rw [if_neg hother]

/-- A file of a tree can be written again. -/
theorem IsTree.exists_write? {tree : FileTree κ} (htree : tree.IsTree) {path : TreePath}
    (hfile : tree.isFile path = true) (content : κ) (now : ℤ) :
    ∃ after, tree.write? path content now = some after := by
  have hdir := isDir_of_isFile hfile
  have hparent : path.dropLast ++ [path.getLast (ne_nil_of_isDir_eq_false hdir)] = path :=
    List.dropLast_append_getLast _
  refine FileTree.exists_write? content now ?_ hdir
  refine htree path.dropLast (path.getLast (ne_nil_of_isDir_eq_false hdir)) ?_
  rw [hparent, pathExists_eq, hfile, Bool.or_true]

/-- Below a root the same paths are listed, whatever their order. -/
theorem SameShape.perm_below {tree after : FileTree κ} (h : tree.SameShape after) (root : TreePath) :
    (after.below root).Perm (tree.below root) := by
  refine (List.perm_ext_iff_of_nodup (after.nodes.keys_nodup.filter _)
    (tree.nodes.keys_nodup.filter _)).mpr fun path ↦ ?_
  change path ∈ after.below root ↔ path ∈ tree.below root
  rw [mem_below_iff, mem_below_iff, h.exist]

end FileTree

end SchemaPilot.Library
