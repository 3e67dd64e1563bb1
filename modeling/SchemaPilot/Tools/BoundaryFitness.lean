import Mathlib.Data.List.Lex
import SchemaPilot.Library.CycleSearch
import SchemaPilot.Library.StableSort

/-!
# Boundary fitness

`tools/check_boundary_fitness.py`: which boundary owns a source file, what its imports count as, the graph of the
owners, and the search of that graph for cycles. Cycle detection is exact (`detectCycles_exact`). Reading and parsing
the files is left out, a file being given with its import statements, and so is the check of the user interface. The
search is refused when it nests deeper than a limit, as the interpreter does; it never nests deeper than there are
nodes.
-/

namespace SchemaPilot.Tools

open Library Library.Text

/-- `boundary_rules.json`, without the rules for the user interface. -/
structure BoundaryRules where
  modules : List String
  pythonModuleRoots : List (String × String)
  managedPythonPrefixes : List String
  unmanagedPythonPathAllowlist : List String
  allowedModuleImports : List (String × List String)
  engineClientImportRoots : List String

def boundaryRules : BoundaryRules where
  modules := ["control_plane", "gateway", "ai_service", "workers", "shared_domain", "cli"]
  pythonModuleRoots := [("control_plane", "backend/control_plane"), ("gateway", "backend/gateway"),
    ("ai_service", "backend/ai_service"), ("workers", "backend/workers"),
    ("shared_domain", "backend/shared_domain"), ("cli", "cli/schemapilot_cli")]
  managedPythonPrefixes := ["backend", "cli"]
  unmanagedPythonPathAllowlist := ["backend/__init__.py", "cli/__init__.py"]
  allowedModuleImports := [("control_plane", ["shared_domain"]), ("gateway", ["shared_domain"]),
    ("ai_service", ["shared_domain"]), ("workers", ["shared_domain"]), ("shared_domain", []),
    ("cli", ["shared_domain"])]
  engineClientImportRoots := ["duckdb", "trino", "opensearchpy", "qdrant_client"]

/-- A name of Python has neither a dot nor a slash. -/
def IsPyName (text : String) : Prop := text ≠ "" ∧ '.' ∉ text.toList ∧ '/' ∉ text.toList

instance (text : String) : Decidable (IsPyName text) := inferInstanceAs (Decidable (_ ∧ _ ∧ _))

structure DottedName where
  parts : List String
  ne_nil : parts ≠ []
  names : ∀ part ∈ parts, IsPyName part

def DottedName.text (name : DottedName) : String := ".".intercalate name.parts

/-- An import statement: `ast.Import` and `ast.ImportFrom`, without the names bound by `as`. -/
inductive ImportStatement where
  | importNames (names : List DottedName)
  | importFrom (module : Option DottedName) (level : ℕ) (names : List String)

/-- A source file: its path below the root of the repository, its import statements at any depth, and the names its
code binds to anything but a module below it of that name. -/
structure SourceFile where
  parts : List String
  slashFree : ∀ part ∈ parts, '/' ∉ part.toList
  imports : List ImportStatement
  attributes : List String

/-- `as_posix`. -/
def posix (parts : List String) : String := "/".intercalate parts

/-- The path of a file relative to the root. -/
def SourceFile.rel (file : SourceFile) : String := posix file.parts

/-- The Python files below the root of a repository, and the parts of the path to the root. -/
structure SourceTree where
  rootParts : List String
  files : List SourceFile

/-- The files `check_python` reads. -/
def SourceTree.checked (tree : SourceTree) (file : SourceFile) : Bool :=
  ".venv" ∉ tree.rootParts ++ file.parts ∧ "__pycache__" ∉ tree.rootParts ++ file.parts

/-- `name.split(".")`. -/
def splitDots (name : String) : List String := (name.toList.splitOn '.').map String.ofList

/-- `normalize_import_target`. -/
def normalizeImportTarget (name : String) : String :=
  match splitDots name with
  | [] => ""
  | [only] => only
  | first :: second :: _ =>
    if first = "backend" then second else if first = "cli" then "cli" else first

/-- `root.replace("\\", "/")`. -/
def forwardSlashes (root : String) : String :=
  String.ofList (root.toList.map fun c ↦ if c = '\\' then '/' else c)

def isBelow (rel root : String) : Bool :=
  rel = forwardSlashes root ∨ (forwardSlashes root ++ "/").toList <+: rel.toList

/-- `module_owner`. -/
def moduleOwner (rel : String) (moduleRoots : List (String × String)) : Option String :=
  (moduleRoots.find? fun entry ↦ isBelow rel entry.2).map Prod.fst

/-- `parse_python_import_targets`, of one statement. -/
def ImportStatement.targets : ImportStatement → List String
  | .importNames names => names.map DottedName.text
  | .importFrom (some module) _ _ => [module.text]
  | .importFrom none _ _ => []

/-- `parse_python_import_targets`. -/
def parsePythonImportTargets (file : SourceFile) : List String :=
  file.imports.flatMap ImportStatement.targets

/-- `CheckState`, the sets being lists without repetition. -/
structure CheckState where
  edges : List (String × List String)
  violations : List String

/-- `CheckState()`. -/
def CheckState.empty : CheckState := ⟨[], []⟩

/-- `state.edges.get(node, set())`. -/
def edgesOf (edges : List (String × List String)) (node : String) : List String :=
  (edges.lookup node).getD []

/-- `edges[node] = targets`. -/
def setEdges (edges : List (String × List String)) (node : String) (targets : List String) :
    List (String × List String) :=
  match edges with
  | [] => [(node, targets)]
  | entry :: rest => if entry.1 = node then (node, targets) :: rest else entry :: setEdges rest node targets

/-- `state.edges[owner].add(target)`, refused where the owner is no key. -/
def CheckState.addEdge (state : CheckState) (owner target : String) : Option CheckState :=
  (state.edges.lookup owner).map fun targets ↦
    { state with edges := setEdges state.edges owner (targets.insert target) }

/-- `state.violations.append(text)`. -/
def CheckState.violate (state : CheckState) (text : String) : CheckState :=
  { state with violations := state.violations ++ [text] }

/-- The violation of an import that the rules do not allow. -/
def forbiddenImport (owner target rel : String) : String :=
  "Forbidden import: " ++ owner ++ " -> " ++ target ++ " in " ++ rel

def BoundaryRules.allowedImports (rules : BoundaryRules) (owner : String) : List String :=
  (rules.allowedModuleImports.lookup owner).getD []

def checkEngineClient (rules : BoundaryRules) (owner rel rawTarget : String) (state : CheckState) : CheckState :=
  if owner ≠ "gateway" ∧ normalizeImportTarget rawTarget ∈ rules.engineClientImportRoots then
    state.violate ("Engine client import outside gateway: " ++ rawTarget ++ " in " ++ rel)
  else state

/-- The loop body of `check_python` over the targets of a file. -/
def checkTarget (rules : BoundaryRules) (owner rel : String) (state : CheckState) (rawTarget : String) :
    Option CheckState :=
  let target := normalizeImportTarget rawTarget
  if target ∈ rules.modules then do
    let state ← state.addEdge owner target
    if owner = target then return state
    let state := if target ∈ rules.allowedImports owner then state
      else state.violate (forbiddenImport owner target rel)
    return checkEngineClient rules owner rel rawTarget state
  else some (checkEngineClient rules owner rel rawTarget state)

/-- The loop body of `check_python` over the files. -/
def checkFile (rules : BoundaryRules) (state : CheckState) (file : SourceFile) : Option CheckState :=
  match moduleOwner file.rel rules.pythonModuleRoots with
  | none =>
    if rules.managedPythonPrefixes.any (isBelow file.rel) ∧ file.rel ∉ rules.unmanagedPythonPathAllowlist then
      some (state.violate ("Unregistered module root: " ++ file.rel))
    else some state
  | some owner => (parsePythonImportTargets file).foldlM (checkTarget rules owner file.rel) state

/-- `check_python`. -/
def checkPython (rules : BoundaryRules) (tree : SourceTree) (state : CheckState) : Option CheckState :=
  (sortedBy SourceFile.parts (tree.files.filter tree.checked)).foldlM (checkFile rules)
    { state with edges := rules.modules.foldl (fun edges module ↦ setEdges edges module []) state.edges }

def successors (edges : List (String × List String)) (node : String) : List String :=
  (sortedTexts (edgesOf edges node)).filter (· ≠ node)

def cycleViolation (cycle : List String) : String := "Cycle detected: " ++ " -> ".intercalate cycle

/-- `detect_cycles`, the calls of `dfs` nested at most as deep as a limit. -/
def detectCycles (limit : ℕ) (state : CheckState) : Option CheckState := do
  let search ← visitAll (successors state.edges) limit [] .start (sortedTexts (state.edges.map Prod.fst))
  return { state with violations := state.violations ++ search.cycles.map cycleViolation }

def Edge (edges : List (String × List String)) (first second : String) : Prop :=
  second ∈ edgesOf edges first

/-- The graph has a cycle through at least two nodes. -/
def HasCycle (edges : List (String × List String)) : Prop :=
  ∃ path, ClosedPath (Edge edges) path ∧ ∃ first ∈ path, ∃ second ∈ path, first ≠ second

def graphNodes (edges : List (String × List String)) : Finset String :=
  (edges.flatMap fun entry ↦ entry.1 :: entry.2).toFinset

section Cycles

variable {edges : List (String × List String)} {first second : String}

theorem mem_successors : second ∈ successors edges first ↔ Edge edges first second ∧ second ≠ first := by
  rw [successors, List.mem_filter, mem_sortedTexts, decide_eq_true_iff, Edge]

/-- An edge leads from a key to a target of the map. -/
theorem Edge.mem (h : Edge edges first second) :
    first ∈ edges.map Prod.fst ∧ second ∈ graphNodes edges := by
  rw [Edge, edgesOf] at h
  cases htargets : edges.lookup first with
  | none =>
    rw [htargets] at h
    exact absurd h List.not_mem_nil
  | some targets =>
    rw [htargets, Option.getD_some] at h
    obtain ⟨before, rest, hedges, -⟩ := List.lookup_eq_some_iff.mp htargets
    have hentry : (first, targets) ∈ edges := hedges ▸ List.mem_append_right _ List.mem_cons_self
    exact ⟨List.mem_map.mpr ⟨_, hentry, rfl⟩,
      List.mem_toFinset.mpr (List.mem_flatMap.mpr ⟨_, hentry, List.mem_cons_of_mem _ h⟩)⟩

theorem key_mem_graphNodes (h : first ∈ edges.map Prod.fst) : first ∈ graphNodes edges := by
  obtain ⟨entry, hentry, rfl⟩ := List.mem_map.mp h
  exact List.mem_toFinset.mpr (List.mem_flatMap.mpr ⟨entry, hentry, List.mem_cons_self⟩)

/-- A closed path through the successors of its nodes has two nodes. -/
theorem hasCycle_of_closedPath {path : List String}
    (h : ClosedPath (fun a b ↦ b ∈ successors edges a) path) : HasCycle edges := by
  refine ⟨path, h.imp fun _ _ hedge ↦ (mem_successors.mp hedge).1, ?_⟩
  match path, h with
  | first :: second :: _, h =>
    have hedge := (List.isChain_cons_cons.mp h.chain).1
    exact ⟨first, List.mem_cons_self, second, List.mem_cons_of_mem _ List.mem_cons_self,
      (mem_successors.mp hedge).2.symm⟩
  | [_], h => exact absurd h.moves (by simp)
  | [], h => exact absurd h.moves (by simp)

/-- A graph whose keys no infinite path leaves has no cycle. -/
theorem not_hasCycle_of_acc
    (h : ∀ node ∈ edges.map Prod.fst, Acc (fun b a ↦ b ∈ successors edges a) node) : ¬HasCycle edges := by
  rintro ⟨path, hclosed, first, hfirst, second, hsecond, hne⟩
  have hback := hclosed.transGen_ne hfirst hsecond hne
  obtain ⟨next, hedge, -⟩ := Relation.TransGen.head'_iff.mp hback
  refine not_transGen_of_acc (h first hedge.1.mem.1) ?_
  exact Relation.TransGen.mono (fun _ _ hedge ↦ mem_successors.mpr hedge) _ _ hback

end Cycles

/-- Cycle detection ends, adds a violation exactly when the graph has a cycle through at least two nodes, and
reports closed paths of the graph only. -/
theorem detectCycles_exact (state : CheckState) :
    ∃ cycles : List (List String),
      (∀ limit, (graphNodes state.edges).card < limit → detectCycles limit state =
        some { state with violations := state.violations ++ cycles.map cycleViolation }) ∧
      (cycles ≠ [] ↔ HasCycle state.edges) ∧ ∀ cycle ∈ cycles, ClosedPath (Edge state.edges) cycle := by
  have hnodes : ∀ node ∈ graphNodes state.edges, ∀ successor ∈ successors state.edges node,
      successor ∈ graphNodes state.edges :=
    fun _ _ _ hsuccessor ↦ (mem_successors.mp hsuccessor).1.mem.2
  have hstarts : ∀ node ∈ sortedTexts (state.edges.map Prod.fst), node ∈ graphNodes state.edges :=
    fun _ hnode ↦ key_mem_graphNodes (mem_sortedTexts.mp hnode)
  obtain ⟨search, hsearch, hclosed, hacc⟩ := visitAll_exact hnodes hstarts
  refine ⟨search.cycles, fun limit hlimit ↦ ?_, ⟨fun hcycles ↦ ?_, fun hcycle hnone ↦ ?_⟩,
    fun cycle hcycle ↦ (hclosed cycle hcycle).imp fun _ _ hedge ↦ (mem_successors.mp hedge).1⟩
  · rw [detectCycles, hsearch limit hlimit]
    rfl
  · obtain ⟨cycle, hcycle⟩ := List.exists_mem_of_ne_nil _ hcycles
    exact hasCycle_of_closedPath (hclosed cycle hcycle)
  · exact not_hasCycle_of_acc (fun node hnode ↦ hacc hnone node (mem_sortedTexts.mpr hnode)) hcycle

end SchemaPilot.Tools
