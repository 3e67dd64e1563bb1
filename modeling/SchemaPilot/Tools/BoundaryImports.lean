import SchemaPilot.Library.Except
import SchemaPilot.Tools.BoundaryFitness

/-!
# Imports across boundaries

What an import statement refers to is a module of the tree, by the rules of the language, and the module has an
owner. The checker looks at the dotted module of a statement only, and takes the part after `backend` for the owner.
So a boundary is not noticed where its name is taken from the package `backend` itself, unless another import of the
same owner shows it (`noticesDependencies_iff`).
-/

namespace SchemaPilot.Tools

open Library

/-! ### What statements refer to -/

def SourceFile.package (file : SourceFile) : List String := file.parts.dropLast

/-- The module that names are imported from, for a statement in a package: a level counts the packages to leave,
and the outermost one cannot be left. -/
def importBase (package : List String) (module : Option DottedName) : ℕ → Option (List String)
  | 0 => module.map DottedName.parts
  | level + 1 =>
    if level < package.length then
      some (package.take (package.length - level) ++ (module.map DottedName.parts).getD [])
    else none

/-- A module is in the tree at a place: a directory with a file below it, or a file. -/
def SourceTree.Located (tree : SourceTree) (name place : List String) : Prop :=
  (∃ file ∈ tree.files, name <+: file.package ∧ place = name) ∨
    ∃ file ∈ tree.files, ∃ parent last, name = parent ++ [last] ∧
      file.parts = parent ++ [last ++ ".py"] ∧ place = file.parts

/-- The code of a module binds a name to anything but a module below it. -/
def SourceTree.IsAttribute (tree : SourceTree) (base : List String) (name : String) : Prop :=
  ∃ file ∈ tree.files, (file.parts = base ++ ["__init__.py"] ∨
    ∃ parent last, base = parent ++ [last] ∧ file.parts = parent ++ [last ++ ".py"]) ∧ name ∈ file.attributes

inductive RefersTo (tree : SourceTree) (file : SourceFile) : ImportStatement → List String → Prop
  | name {names : List DottedName} {name : DottedName} {place : List String} (hname : name ∈ names)
      (hplace : tree.Located name.parts place) : RefersTo tree file (.importNames names) place
  | base {module : Option DottedName} {level : ℕ} {names base place : List String}
      (hbase : importBase file.package module level = some base) (hplace : tree.Located base place) :
      RefersTo tree file (.importFrom module level names) place
  | submodule {module : Option DottedName} {level : ℕ} {names base place : List String} {name : String}
      (hbase : importBase file.package module level = some base) (hname : name ∈ names)
      (hsubmodule : ¬tree.IsAttribute base name) (hplace : tree.Located (base ++ [name]) place) :
      RefersTo tree file (.importFrom module level names) place

/-- The owner of the file or directory at a place, by the rules of the repository. -/
def ownerAt (place : List String) : Option String := moduleOwner (posix place) boundaryRules.pythonModuleRoots

/-- A statement of a file of one owner refers to a module of another one. -/
structure Dependency (tree : SourceTree) (file : SourceFile) (statement : ImportStatement)
    (owner other : String) : Prop where
  file_mem : file ∈ tree.files
  owner_eq : ownerAt file.parts = some owner
  statement_mem : statement ∈ file.imports
  refers : ∃ place, RefersTo tree file statement place ∧ ownerAt place = some other
  ne : other ≠ owner

/-- Every reference from one owner to another is an edge of the graph, and one that is not allowed a violation. -/
def NoticesDependencies (tree : SourceTree) : Prop :=
  ∃ state, checkPython boundaryRules tree .empty = some state ∧
    ∀ file statement owner other, Dependency tree file statement owner other →
      Edge state.edges owner other ∧ (other ∉ boundaryRules.allowedImports owner →
        ∃ rel, forbiddenImport owner other rel ∈ state.violations)

/-- The names of a statement are taken from the package `backend` itself. -/
def TakesFromBackend (file : SourceFile) : ImportStatement → Prop
  | .importNames _ => False
  | .importFrom module level _ => importBase file.package module level = some ["backend"]

/-- A file of the owner that is checked has an import that counts as one of the other. -/
def Shown (tree : SourceTree) (owner other : String) : Prop :=
  ∃ file ∈ tree.files, tree.checked file = true ∧ ownerAt file.parts = some owner ∧
    ∃ rawTarget ∈ parsePythonImportTargets file, normalizeImportTarget rawTarget = other

/-- Where a reference is in a file that is left out, or takes its names from `backend` itself, another import shows
the dependency. -/
def OtherwiseShown (tree : SourceTree) : Prop :=
  ∀ file statement owner other, Dependency tree file statement owner other →
    tree.checked file = false ∨ TakesFromBackend file statement → Shown tree owner other

/-! ### The graph -/

theorem lookup_setEdges (edges : List (String × List String)) (node : String) (targets : List String)
    (other : String) :
    (setEdges edges node targets).lookup other = if other = node then some targets else edges.lookup other := by
  have hcons : ∀ (key : String) (found : List String) (rest : List (String × List String)),
      ((key, found) :: rest).lookup other = if other = key then some found else rest.lookup other := by
    intro key found rest
    rw [List.lookup_cons]
    split_ifs with h
    · rw [h, beq_self_eq_true]
    · rw [beq_false_of_ne h]
  induction edges with
  | nil => rw [setEdges, hcons]
  | cons entry rest ih =>
    obtain ⟨key, found⟩ := entry
    rw [setEdges]
    split_ifs with hkey hother hother
    · rw [hcons, if_pos hother]
    · rw [hcons, hcons, if_neg hother, if_neg fun h ↦ hother (h.trans hkey)]
    · rw [hcons, ih, if_pos hother, if_neg]
      exact fun h ↦ hkey (h.symm.trans hother)
    · rw [hcons, hcons, ih, if_neg hother]

theorem edgesOf_setEdges (edges : List (String × List String)) (node : String) (targets : List String)
    (other : String) :
    edgesOf (setEdges edges node targets) other = if other = node then targets else edgesOf edges other := by
  rw [edgesOf, lookup_setEdges]
  split_ifs
  · rfl
  · rfl

structure SeenTarget where
  owner : String
  rel : String
  rawTarget : String

def SeenTarget.target (seen : SeenTarget) : String := normalizeImportTarget seen.rawTarget

/-- The state shows the targets seen: its edges are those of the boundaries among them, and the ones not allowed are
violations. -/
structure Shows (rules : BoundaryRules) (seen : List SeenTarget) (state : CheckState) : Prop where
  keys : ∀ module ∈ rules.modules, (state.edges.lookup module).isSome
  edge_iff : ∀ owner other, Edge state.edges owner other ↔
    other ∈ rules.modules ∧ ∃ target ∈ seen, target.owner = owner ∧ target.target = other
  forbidden : ∀ target ∈ seen, target.target ∈ rules.modules → target.target ≠ target.owner →
    target.target ∉ rules.allowedImports target.owner →
      forbiddenImport target.owner target.target target.rel ∈ state.violations

section Runs

variable {rules : BoundaryRules} {seen : List SeenTarget} {state : CheckState}

theorem Shows.violate (h : Shows rules seen state) (text : String) : Shows rules seen (state.violate text) :=
  ⟨h.keys, h.edge_iff, fun target hmem hmodule hne hnot ↦
    List.mem_append_left _ (h.forbidden target hmem hmodule hne hnot)⟩

theorem Shows.checkEngineClient (h : Shows rules seen state) (owner rel rawTarget : String) :
    Shows rules seen (checkEngineClient rules owner rel rawTarget state) := by
  rw [Tools.checkEngineClient]
  split_ifs
  · exact h.violate _
  · exact h

/-- A target that counts as a boundary is added with its edge. -/
theorem Shows.addEdge (h : Shows rules seen state) (target : SeenTarget) (howner : target.owner ∈ rules.modules)
    (htarget : target.target ∈ rules.modules) :
    ∃ after, state.addEdge target.owner target.target = some after ∧ after.violations = state.violations ∧
      (∀ module ∈ rules.modules, (after.edges.lookup module).isSome) ∧
      ∀ owner other, Edge after.edges owner other ↔
        other ∈ rules.modules ∧ ∃ shown ∈ seen ++ [target], shown.owner = owner ∧ shown.target = other := by
  obtain ⟨targets, htargets⟩ := Option.isSome_iff_exists.mp (h.keys _ howner)
  refine ⟨{ state with edges := setEdges state.edges target.owner (targets.insert target.target) },
    by rw [CheckState.addEdge, htargets, Option.map_some], rfl, fun module hmodule ↦ ?_, fun owner other ↦ ?_⟩
  · rw [lookup_setEdges]
    split_ifs
    · rfl
    · exact h.keys module hmodule
  · have hold := h.edge_iff owner other
    rw [Edge, edgesOf] at hold
    rw [Edge, edgesOf_setEdges]
    simp only [List.mem_append, List.mem_singleton, or_and_right, exists_or, exists_eq_left]
    split_ifs with hsame
    · subst hsame
      rw [htargets, Option.getD_some] at hold
      rw [List.mem_insert_iff, hold]
      constructor
      · rintro (rfl | ⟨hmodule, hshown⟩)
        · exact ⟨htarget, Or.inr ⟨rfl, rfl⟩⟩
        · exact ⟨hmodule, Or.inl hshown⟩
      · rintro ⟨hmodule, hshown | ⟨-, rfl⟩⟩
        · exact Or.inr ⟨hmodule, hshown⟩
        · exact Or.inl rfl
    · rw [edgesOf, hold]
      refine and_congr_right fun _ ↦ (or_iff_left ?_).symm
      exact fun hshown ↦ hsame hshown.1.symm

theorem Shows.checkTarget (h : Shows rules seen state) {owner : String} (howner : owner ∈ rules.modules)
    (rel rawTarget : String) :
    ∃ after, checkTarget rules owner rel state rawTarget = some after ∧
      Shows rules (seen ++ [⟨owner, rel, rawTarget⟩]) after := by
  rw [Tools.checkTarget]
  dsimp only
  have hforbidden : ∀ {violations : List String}, state.violations ⊆ violations →
      (normalizeImportTarget rawTarget ∈ rules.modules → normalizeImportTarget rawTarget ≠ owner →
        normalizeImportTarget rawTarget ∉ rules.allowedImports owner →
          forbiddenImport owner (normalizeImportTarget rawTarget) rel ∈ violations) →
      ∀ target ∈ seen ++ [⟨owner, rel, rawTarget⟩], target.target ∈ rules.modules →
        target.target ≠ target.owner → target.target ∉ rules.allowedImports target.owner →
          forbiddenImport target.owner target.target target.rel ∈ violations := by
    intro violations hsub hnew target hmem hmodule hne hnot
    rcases List.mem_append.mp hmem with hmem | hmem
    · exact hsub (h.forbidden target hmem hmodule hne hnot)
    · obtain rfl := List.mem_singleton.mp hmem
      exact hnew hmodule hne hnot
  by_cases hmodule : normalizeImportTarget rawTarget ∈ rules.modules
  · obtain ⟨after, hafter, hviolations, hkeys, hedges⟩ :=
      h.addEdge ⟨owner, rel, rawTarget⟩ howner hmodule
    rw [if_pos hmodule, show state.addEdge owner (normalizeImportTarget rawTarget) = some after from hafter]
    by_cases hsame : owner = normalizeImportTarget rawTarget
    · exact ⟨after, if_pos hsame, hkeys, hedges,
        hforbidden (hviolations ▸ List.Subset.refl _) fun _ hne _ ↦ absurd hsame.symm hne⟩
    · refine ⟨_, if_neg hsame, Shows.checkEngineClient ?_ owner rel rawTarget⟩
      by_cases hallowed : normalizeImportTarget rawTarget ∈ rules.allowedImports owner
      · rw [if_pos hallowed]
        exact ⟨hkeys, hedges, hforbidden (hviolations ▸ List.Subset.refl _) fun _ _ hnot ↦ absurd hallowed hnot⟩
      · rw [if_neg hallowed]
        refine ⟨hkeys, hedges, hforbidden ?_ fun _ _ _ ↦ List.mem_append_right _ (List.mem_singleton_self _)⟩
        exact hviolations ▸ List.subset_append_left _ _
  · rw [if_neg hmodule]
    refine ⟨_, rfl, Shows.checkEngineClient ⟨h.keys, fun owner' other ↦ ?_,
      hforbidden (List.Subset.refl _) fun hmem ↦ absurd hmem hmodule⟩ owner rel rawTarget⟩
    rw [h.edge_iff]
    refine and_congr_right fun hother ↦ ?_
    simp only [List.mem_append, List.mem_singleton, or_and_right, exists_or, exists_eq_left]
    refine (or_iff_left ?_).symm
    rintro ⟨-, rfl⟩
    exact hmodule hother

def fileTargets (rules : BoundaryRules) (file : SourceFile) : List SeenTarget :=
  match moduleOwner file.rel rules.pythonModuleRoots with
  | none => []
  | some owner => (parsePythonImportTargets file).map (SeenTarget.mk owner file.rel)

theorem mem_fileTargets {file : SourceFile} {target : SeenTarget} :
    target ∈ fileTargets rules file ↔ moduleOwner file.rel rules.pythonModuleRoots = some target.owner ∧
      target.rawTarget ∈ parsePythonImportTargets file ∧ target.rel = file.rel := by
  rw [fileTargets]
  cases moduleOwner file.rel rules.pythonModuleRoots with
  | none => simp
  | some owner =>
    obtain ⟨seenOwner, rel, rawTarget⟩ := target
    simp only [List.mem_map, SeenTarget.mk.injEq, Option.some.injEq]
    grind

theorem Shows.checkTargets (h : Shows rules seen state) {owner : String} (howner : owner ∈ rules.modules)
    (rel : String) (rawTargets : List String) :
    ∃ after, rawTargets.foldlM (Tools.checkTarget rules owner rel) state = some after ∧
      Shows rules (seen ++ rawTargets.map (SeenTarget.mk owner rel)) after := by
  induction rawTargets generalizing seen state with
  | nil => exact ⟨state, rfl, by rwa [List.map_nil, List.append_nil]⟩
  | cons rawTarget rest ih =>
    obtain ⟨middle, hmiddle, hmiddleShows⟩ := h.checkTarget howner rel rawTarget
    obtain ⟨after, hafter, hshows⟩ := ih hmiddleShows
    rw [List.append_assoc, List.singleton_append] at hshows
    refine ⟨after, ?_, hshows⟩
    rw [List.foldlM_cons, hmiddle]
    exact hafter

def OwnersAreModules (rules : BoundaryRules) : Prop :=
  ∀ entry ∈ rules.pythonModuleRoots, entry.1 ∈ rules.modules

instance (rules : BoundaryRules) : Decidable (OwnersAreModules rules) :=
  inferInstanceAs (Decidable (∀ entry ∈ _, _))

theorem exists_root_of_moduleOwner {rel owner : String} {roots : List (String × String)}
    (h : moduleOwner rel roots = some owner) : ∃ root, (owner, root) ∈ roots ∧ isBelow rel root = true := by
  rw [moduleOwner, Option.map_eq_some_iff] at h
  obtain ⟨entry, hentry, rfl⟩ := h
  have hbelow := List.find?_some hentry
  exact ⟨entry.2, List.mem_of_find?_eq_some hentry, hbelow⟩

theorem Shows.checkFile (hrules : OwnersAreModules rules) (h : Shows rules seen state) (file : SourceFile) :
    ∃ after, checkFile rules state file = some after ∧ Shows rules (seen ++ fileTargets rules file) after := by
  rw [Tools.checkFile, fileTargets]
  cases howner : moduleOwner file.rel rules.pythonModuleRoots with
  | none =>
    dsimp only
    rw [List.append_nil]
    split_ifs
    · exact ⟨_, rfl, h.violate _⟩
    · exact ⟨_, rfl, h⟩
  | some owner =>
    obtain ⟨root, hroot, -⟩ := exists_root_of_moduleOwner howner
    exact h.checkTargets (hrules _ hroot) file.rel (parsePythonImportTargets file)

theorem Shows.checkFiles (hrules : OwnersAreModules rules) (h : Shows rules seen state) (files : List SourceFile) :
    ∃ after, files.foldlM (Tools.checkFile rules) state = some after ∧
      Shows rules (seen ++ files.flatMap (fileTargets rules)) after := by
  induction files generalizing seen state with
  | nil => exact ⟨state, rfl, by rwa [List.flatMap_nil, List.append_nil]⟩
  | cons file rest ih =>
    obtain ⟨middle, hmiddle, hmiddleShows⟩ := h.checkFile hrules file
    obtain ⟨after, hafter, hshows⟩ := ih hmiddleShows
    rw [List.append_assoc, ← List.flatMap_cons] at hshows
    refine ⟨after, ?_, hshows⟩
    rw [List.foldlM_cons, hmiddle]
    exact hafter

/-- The boundaries start without edges. -/
theorem shows_initial (rules : BoundaryRules) (violations : List String) :
    Shows rules [] ⟨rules.modules.foldl (fun edges module ↦ setEdges edges module []) [], violations⟩ := by
  have hloop : ∀ (modules : List String) (edges : List (String × List String)),
      (∀ node, edgesOf edges node = []) →
        (∀ node, edgesOf (modules.foldl (fun edges module ↦ setEdges edges module []) edges) node = []) ∧
          ∀ node, node ∈ modules ∨ (edges.lookup node).isSome →
            ((modules.foldl (fun edges module ↦ setEdges edges module []) edges).lookup node).isSome := by
    intro modules
    induction modules with
    | nil => exact fun edges hempty ↦ ⟨hempty, fun node hnode ↦ hnode.resolve_left List.not_mem_nil⟩
    | cons module rest ih =>
      intro edges hempty
      rw [List.foldl_cons]
      obtain ⟨hnone, hkeys⟩ := ih (setEdges edges module []) fun node ↦ by
        rw [edgesOf_setEdges, hempty node, ite_self]
      refine ⟨hnone, fun node hnode ↦ hkeys node ?_⟩
      rw [lookup_setEdges]
      split_ifs with hsame
      · exact Or.inr rfl
      · exact hnode.imp_left fun hmem ↦ (List.mem_cons.mp hmem).resolve_left hsame
  obtain ⟨hnone, hkeys⟩ := hloop rules.modules [] fun _ ↦ rfl
  refine ⟨fun module hmodule ↦ hkeys module (Or.inl hmodule), fun owner other ↦ ?_,
    fun target htarget ↦ absurd htarget List.not_mem_nil⟩
  rw [Edge, hnone owner]
  simp

/-- The checker ends in a state that shows the targets of the files it reads. -/
theorem checkPython_spec (hrules : OwnersAreModules rules) (tree : SourceTree) :
    ∃ state, checkPython rules tree .empty = some state ∧
      Shows rules ((sortedBy SourceFile.parts (tree.files.filter tree.checked)).flatMap (fileTargets rules)) state :=
  (shows_initial rules []).checkFiles hrules _

end Runs

/-! ### Owners -/

def rootOf (owner : String) : List String :=
  if owner = "cli" then ["cli", "schemapilot_cli"] else ["backend", owner]

theorem splitDots_text (name : DottedName) : splitDots name.text = name.parts := by
  have hfree : ∀ chars ∈ name.parts.map String.toList, '.' ∉ chars := by
    intro chars hchars
    obtain ⟨part, hpart, rfl⟩ := List.mem_map.mp hchars
    exact (name.names part hpart).2.1
  have hdot : ".".toList = ['.'] := rfl
  rw [splitDots, DottedName.text, String.toList_intercalate, hdot, List.splitOn_intercalate '.' hfree
    (List.map_eq_nil_iff.not.mpr name.ne_nil), List.map_map]
  simp

/-- The parts of a path, read from its text. -/
theorem splitOn_posix {parts : List String} (hfree : ∀ part ∈ parts, '/' ∉ part.toList) (hne : parts ≠ []) :
    (posix parts).toList.splitOn '/' = parts.map String.toList := by
  have hslash : "/".toList = ['/'] := rfl
  rw [posix, String.toList_intercalate, hslash, List.splitOn_intercalate '/' _ (List.map_eq_nil_iff.not.mpr hne)]
  intro chars hchars
  obtain ⟨part, hpart, rfl⟩ := List.mem_map.mp hchars
  exact hfree part hpart

/-- A path is at or below a root whose parts it starts with. -/
theorem parts_of_isBelow {parts rootParts : List String} {root : String}
    (hfree : ∀ part ∈ parts, '/' ∉ part.toList) (hne : parts ≠ [])
    (hroot : (forwardSlashes root).toList.splitOn '/' = rootParts.map String.toList)
    (h : isBelow (posix parts) root = true) : rootParts <+: parts := by
  have hpieces : rootParts.map String.toList <+: parts.map String.toList := by
    rw [← splitOn_posix hfree hne, ← hroot]
    rcases of_decide_eq_true h with hsame | ⟨rest, hrest⟩
    · rw [hsame]
    · have hslash : "/".toList = ['/'] := rfl
      rw [← hrest, String.toList_append, hslash, List.append_assoc, List.singleton_append,
        List.splitOn_append_cons_self]
      exact List.prefix_append _ _
  exact (List.prefix_map_iff_of_injective fun _ _ ↦ String.toList_injective).mp hpieces

theorem ownersAreModules_boundaryRules : OwnersAreModules boundaryRules := by
  decide

theorem rootOf_isPrefix {place : List String} (hfree : ∀ part ∈ place, '/' ∉ part.toList) {owner : String}
    (h : ownerAt place = some owner) : rootOf owner <+: place ∧ owner ∈ boundaryRules.modules := by
  obtain ⟨root, hroot, hbelow⟩ := exists_root_of_moduleOwner h
  have htable : ∀ entry ∈ boundaryRules.pythonModuleRoots,
      (forwardSlashes entry.2).toList.splitOn '/' = (rootOf entry.1).map String.toList := by
    decide
  have hne : place ≠ [] := by
    rintro rfl
    have hnone : ownerAt [] = none := by decide
    rw [hnone] at h
    cases h
  exact ⟨parts_of_isBelow hfree hne (htable _ hroot) hbelow, ownersAreModules_boundaryRules _ hroot⟩

theorem length_rootOf (owner : String) : (rootOf owner).length = 2 := by
  rw [rootOf]
  split_ifs <;> rfl

theorem eq_of_rootOf_eq {owner other : String} {place : List String} (howner : rootOf owner <+: place)
    (hother : rootOf other <+: place) : owner = other := by
  have hroots : rootOf owner = rootOf other :=
    (List.prefix_of_prefix_length_le howner hother (by rw [length_rootOf, length_rootOf])).eq_of_length
      (by rw [length_rootOf, length_rootOf])
  rw [rootOf, rootOf] at hroots
  split_ifs at hroots with hfirst hsecond hsecond
  · rw [hfirst, hsecond]
  · simp at hroots
  · simp at hroots
  · simpa using hroots

/-! ### References and targets -/

theorem SourceTree.Located.rootOf_isPrefix {tree : SourceTree} {name place : List String}
    (h : tree.Located name place) {owner : String} (howner : ownerAt place = some owner) :
    rootOf owner <+: name ∧ owner ∈ boundaryRules.modules := by
  rcases h with ⟨file, -, hname, rfl⟩ | ⟨file, -, parent, last, rfl, hparts, rfl⟩
  · refine Tools.rootOf_isPrefix (fun part hpart ↦ file.slashFree part ?_) howner
    exact List.dropLast_subset _ (hname.subset hpart)
  · obtain ⟨hbelow, hmodule⟩ := Tools.rootOf_isPrefix file.slashFree howner
    refine ⟨?_, hmodule⟩
    rw [hparts] at hbelow
    rcases List.prefix_concat_iff.mp hbelow with hroot | hparent
    · -- no root is a file
      have hfile : ∀ module ∈ boundaryRules.modules, ∀ part ∈ rootOf module,
          ¬".py".toList <:+ part.toList := by
        decide
      refine absurd ?_ (hfile owner hmodule (last ++ ".py") (hroot ▸ by simp))
      rw [String.toList_append]
      exact List.suffix_append _ _
    · exact hparent.trans (List.prefix_append _ _)

theorem normalizeImportTarget_text {name : DottedName} {first second : String} {rest : List String}
    (h : name.parts = first :: second :: rest) : normalizeImportTarget name.text =
      if first = "backend" then second else if first = "cli" then "cli" else first := by
  rw [normalizeImportTarget, splitDots_text, h]

theorem normalizeImportTarget_single {name : DottedName} {only : String} (h : name.parts = [only]) :
    normalizeImportTarget name.text = only := by
  rw [normalizeImportTarget, splitDots_text, h]

/-- A dotted name below the root of a boundary counts as the boundary. -/
theorem normalizeImportTarget_of_below {name : DottedName} {owner : String}
    (h : rootOf owner <+: name.parts) : normalizeImportTarget name.text = owner := by
  obtain ⟨rest, hrest⟩ := h
  rw [rootOf] at hrest
  split_ifs at hrest with hcli
  · rw [normalizeImportTarget_text hrest.symm, hcli]
    rfl
  · rw [normalizeImportTarget_text hrest.symm, if_pos rfl]

/-- A dotted name that begins with a boundary of the backend counts as it. -/
theorem normalizeImportTarget_of_head {name : DottedName} {owner : String} {rest : List String}
    (h : name.parts = owner :: rest) (hmodule : owner ∈ boundaryRules.modules) (hcli : owner ≠ "cli") :
    normalizeImportTarget name.text = owner := by
  cases rest with
  | nil => exact normalizeImportTarget_single h
  | cons second rest =>
    have hbackend : owner ≠ "backend" := by
      rintro rfl
      revert hmodule
      decide
    rw [normalizeImportTarget_text h, if_neg hbackend, if_neg hcli]

/-- The base of a relative import begins with the outermost package of the file. -/
theorem importBase_succ {package : List String} {module : Option DottedName} {level : ℕ} {base : List String}
    (h : importBase package module (level + 1) = some base) :
    ∃ kept, kept <+: package ∧ kept ≠ [] ∧ base = kept ++ (module.map DottedName.parts).getD [] := by
  rw [importBase] at h
  split_ifs at h with hlevel
  cases h
  refine ⟨_, List.take_prefix _ _, ?_, rfl⟩
  rw [Ne, List.take_eq_nil_iff, not_or]
  exact ⟨by omega, List.ne_nil_of_length_pos (by omega)⟩

section References

variable {file : SourceFile} {owner other : String} {module : Option DottedName} {level : ℕ} {base : List String}

theorem rootOf_of_ne_cli (h : other ≠ "cli") : rootOf other = ["backend", other] := if_neg h

/-- The outermost package of a file is not shared by boundaries unless it is the backend. -/
theorem ne_cli_of_head {top second : String} {rest : List String} (howner : rootOf owner <+: top :: rest)
    (hother : rootOf other = [top, second]) (hne : other ≠ owner) : other ≠ "cli" := by
  rintro rfl
  have htop : top = "cli" := (List.cons.inj hother).1.symm
  rw [htop] at howner
  by_cases hcli : owner = "cli"
  · exact hne hcli.symm
  · rw [rootOf_of_ne_cli hcli, List.cons_prefix_cons] at howner
    exact absurd howner.1 (by decide)

/-- A relative import that leads to another boundary takes it from the backend, by a dotted name that begins with
it. -/
theorem exists_target_of_relative (howner : rootOf owner <+: file.parts) (hne : other ≠ owner)
    (hmodule : other ∈ boundaryRules.modules) (hbase : importBase file.package module (level + 1) = some base)
    {name : String} (hother : rootOf other <+: base ++ [name]) (hbackend : base ≠ ["backend"]) :
    ∃ target, module = some target ∧ normalizeImportTarget target.text = other := by
  obtain ⟨kept, hkept, hkeptNe, rfl⟩ := importBase_succ hbase
  have hpackage : file.package <+: file.parts := List.dropLast_prefix _
  have hkeptFile := hkept.trans hpackage
  match kept, hkeptNe with
  | top :: next :: after, _ =>
    -- a package of a boundary leads to nothing but itself
    rw [List.append_assoc] at hother
    have hwithin := List.prefix_of_prefix_length_le hother (List.prefix_append _ _)
      (by rw [length_rootOf]; simp)
    exact absurd (eq_of_rootOf_eq (hwithin.trans hkeptFile) howner) hne
  | [top], _ =>
    obtain ⟨others, hfile⟩ := hkeptFile
    rw [← hfile, List.singleton_append] at howner
    obtain ⟨second, hroot⟩ : ∃ second, rootOf other = [top, second] := by
      rw [List.singleton_append, List.cons_append] at hother
      have hlength := length_rootOf other
      match hrootOf : rootOf other, hlength with
      | [first, second], _ =>
        rw [hrootOf, List.cons_prefix_cons] at hother
        exact ⟨second, by rw [hother.1]⟩
    have hcli := ne_cli_of_head howner hroot hne
    rw [rootOf_of_ne_cli hcli] at hroot hother
    obtain ⟨rfl, -⟩ := List.cons.inj hroot
    cases module with
    | none => exact absurd rfl hbackend
    | some target =>
      rw [Option.map_some, Option.getD_some] at hother
      obtain ⟨first, rest, hparts⟩ := List.exists_cons_of_ne_nil target.ne_nil
      rw [hparts, List.singleton_append, List.cons_append, List.cons_append, List.cons_prefix_cons,
        List.cons_prefix_cons] at hother
      obtain ⟨-, rfl, -⟩ := hother
      exact ⟨target, rfl, normalizeImportTarget_of_head hparts hmodule hcli⟩

/-- An import from a module other than the package `backend` that leads to another boundary has a dotted name that
counts as it. -/
theorem exists_target_of_from (howner : rootOf owner <+: file.parts) (hne : other ≠ owner)
    (hmodule : other ∈ boundaryRules.modules) (hbase : importBase file.package module level = some base)
    {name : String} (hother : rootOf other <+: base ++ [name]) (hbackend : base ≠ ["backend"]) :
    ∃ target, module = some target ∧ normalizeImportTarget target.text = other := by
  cases level with
  | succ level => exact exists_target_of_relative howner hne hmodule hbase hother hbackend
  | zero =>
    rw [importBase, Option.map_eq_some_iff] at hbase
    obtain ⟨target, rfl, rfl⟩ := hbase
    refine ⟨target, rfl, ?_⟩
    rcases List.prefix_concat_iff.mp hother with hroot | hwithin
    · by_cases hcli : other = "cli"
      · subst hcli
        have hparts : ["cli"] ++ ["schemapilot_cli"] = target.parts ++ [name] := hroot
        exact normalizeImportTarget_single (List.append_inj' hparts rfl).1.symm
      · rw [rootOf_of_ne_cli hcli] at hroot
        have hparts : ["backend"] ++ [other] = target.parts ++ [name] := hroot
        exact absurd (List.append_inj' hparts rfl).1.symm hbackend
    · exact normalizeImportTarget_of_below hwithin

end References

/-- A statement that refers to a module of another boundary has a target that counts as it, unless it takes its
names from the package `backend`. -/
theorem Dependency.exists_target {tree : SourceTree} {file : SourceFile} {statement : ImportStatement}
    {owner other : String} (h : Dependency tree file statement owner other)
    (htakes : ¬TakesFromBackend file statement) :
    ∃ rawTarget ∈ statement.targets, normalizeImportTarget rawTarget = other := by
  have howner := (rootOf_isPrefix file.slashFree h.owner_eq).1
  obtain ⟨place, hrefers, hplace⟩ := h.refers
  cases hrefers with
  | name hname hlocated =>
    refine ⟨_, List.mem_map_of_mem hname, ?_⟩
    exact normalizeImportTarget_of_below (hlocated.rootOf_isPrefix hplace).1
  | @base module level names base _ hbase hlocated =>
    obtain ⟨hroot, hmodule⟩ := hlocated.rootOf_isPrefix hplace
    obtain ⟨target, rfl, htarget⟩ := exists_target_of_from howner h.ne hmodule hbase
      (hroot.trans (List.prefix_append _ [""])) fun hbackend ↦ htakes (hbase.trans (congrArg some hbackend))
    exact ⟨_, List.mem_singleton_self _, htarget⟩
  | @submodule module level names base _ name hbase hname _ hlocated =>
    obtain ⟨hroot, hmodule⟩ := hlocated.rootOf_isPrefix hplace
    obtain ⟨target, rfl, htarget⟩ := exists_target_of_from howner h.ne hmodule hbase hroot
      fun hbackend ↦ htakes (hbase.trans (congrArg some hbackend))
    exact ⟨_, List.mem_singleton_self _, htarget⟩

theorem Dependency.other_mem {tree : SourceTree} {file : SourceFile} {statement : ImportStatement}
    {owner other : String} (h : Dependency tree file statement owner other) : other ∈ boundaryRules.modules := by
  obtain ⟨place, -, hplace⟩ := h.refers
  obtain ⟨root, hroot, -⟩ := exists_root_of_moduleOwner hplace
  exact ownersAreModules_boundaryRules _ hroot

/-! ### What is noticed -/

theorem exists_seen_iff {tree : SourceTree} {owner other : String} :
    (∃ target ∈ (sortedBy SourceFile.parts (tree.files.filter tree.checked)).flatMap (fileTargets boundaryRules),
      target.owner = owner ∧ target.target = other) ↔ Shown tree owner other := by
  constructor
  · rintro ⟨target, htarget, rfl, rfl⟩
    obtain ⟨file, hfile, htarget⟩ := List.mem_flatMap.mp htarget
    obtain ⟨howner, hraw, -⟩ := mem_fileTargets.mp htarget
    obtain ⟨hfile, hchecked⟩ := List.mem_filter.mp ((mem_sortedBy _).mp hfile)
    exact ⟨file, hfile, hchecked, howner, _, hraw, rfl⟩
  · rintro ⟨file, hfile, hchecked, howner, rawTarget, hraw, htarget⟩
    refine ⟨⟨owner, file.rel, rawTarget⟩, List.mem_flatMap.mpr ⟨file, ?_, ?_⟩, rfl, htarget⟩
    · exact (mem_sortedBy _).mpr (List.mem_filter.mpr ⟨hfile, hchecked⟩)
    · exact mem_fileTargets.mpr ⟨howner, hraw, rfl⟩

/-- An edge of the graph has been shown. -/
theorem otherwiseShown_of_notices {tree : SourceTree} (h : NoticesDependencies tree) : OtherwiseShown tree := by
  obtain ⟨state, hstate, hshows⟩ := checkPython_spec ownersAreModules_boundaryRules tree
  obtain ⟨state', hstate', hnoticed⟩ := h
  obtain rfl := Option.some.inj (hstate.symm.trans hstate')
  intro file statement owner other hdependency _
  have hedge := (hnoticed file statement owner other hdependency).1
  exact exists_seen_iff.mp ((hshows.edge_iff owner other).mp hedge).2

theorem Dependency.shown {tree : SourceTree} (htree : OtherwiseShown tree) {file : SourceFile}
    {statement : ImportStatement} {owner other : String} (h : Dependency tree file statement owner other) :
    Shown tree owner other := by
  by_cases hunseen : tree.checked file = false ∨ TakesFromBackend file statement
  · exact htree file statement owner other h hunseen
  · rw [not_or, Bool.not_eq_false] at hunseen
    obtain ⟨rawTarget, hraw, htarget⟩ := h.exists_target hunseen.2
    exact ⟨file, h.file_mem, hunseen.1, h.owner_eq, rawTarget,
      List.mem_flatMap.mpr ⟨statement, h.statement_mem, hraw⟩, htarget⟩

/-- The checker notices every dependency exactly when those in files left out, and those whose name is taken from
the package `backend` itself, are shown by another import of the same owner. -/
theorem noticesDependencies_iff (tree : SourceTree) : NoticesDependencies tree ↔ OtherwiseShown tree := by
  refine ⟨otherwiseShown_of_notices, fun h ↦ ?_⟩
  obtain ⟨state, hstate, hshows⟩ := checkPython_spec ownersAreModules_boundaryRules tree
  refine ⟨state, hstate, fun file statement owner other hdependency ↦ ?_⟩
  obtain ⟨target, htarget, rfl, rfl⟩ := exists_seen_iff.mpr (hdependency.shown h)
  exact ⟨(hshows.edge_iff _ _).mpr ⟨hdependency.other_mem, target, htarget, rfl, rfl⟩,
    fun hnot ↦ ⟨target.rel, hshows.forbidden target htarget hdependency.other_mem hdependency.ne hnot⟩⟩

/-- The package `backend`. -/
def backendName : DottedName := ⟨["backend"], by decide, by decide⟩

/-- `from backend import gateway` in a file of the workers. -/
def jobsFile : SourceFile :=
  ⟨["backend", "workers", "jobs.py"], by decide, [.importFrom (some backendName) 0 ["gateway"]], []⟩

def jobsTree : SourceTree :=
  ⟨["srv", "repo"], [jobsFile, ⟨["backend", "gateway", "__init__.py"], by decide, [], []⟩]⟩

theorem jobs_take_gateway_unnoticed : ¬NoticesDependencies jobsTree := by
  intro h
  have hdependency : Dependency jobsTree jobsFile (.importFrom (some backendName) 0 ["gateway"])
      "workers" "gateway" := by
    refine ⟨List.mem_cons_self, by decide, List.mem_cons_self, ⟨["backend", "gateway"], ?_, by decide⟩, by decide⟩
    refine .submodule rfl (List.mem_singleton_self _) ?_
      (Or.inl ⟨_, List.mem_cons_of_mem _ List.mem_cons_self, List.prefix_refl _, rfl⟩)
    rintro ⟨file, hfile, -, hname⟩
    have hnone : ∀ file ∈ jobsTree.files, file.attributes = [] := by decide
    exact absurd (hnone file hfile ▸ hname) List.not_mem_nil
  obtain ⟨file, hfile, -, howner, rawTarget, hraw, htarget⟩ :=
    otherwiseShown_of_notices h _ _ _ _ hdependency (Or.inr rfl)
  have hall : ∀ file ∈ jobsTree.files, ∀ rawTarget ∈ parsePythonImportTargets file,
      normalizeImportTarget rawTarget ≠ "gateway" := by
    decide
  exact hall file hfile rawTarget hraw htarget

end SchemaPilot.Tools
