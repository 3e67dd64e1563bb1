import Mathlib.Data.Finset.Card
import Mathlib.Data.Finset.SDiff
import Mathlib.Data.List.Chain
import Mathlib.Logic.Relation

/-!
# Depth-first search for cycles

A search that keeps the nodes it is at, the nodes it has left, and the path to where it is, and reports a cycle
whenever it comes back to a node it is at. Nested calls go no deeper than there are nodes (`visit_spec`). What is
reported are closed paths, and where nothing is reported no infinite path leaves a node that was visited, since all
its successors were left before it (`visitAll_exact`).
-/

namespace SchemaPilot.Library

variable {α : Type}

/-! ### Closed paths -/

/-- A path along edges that ends in the node it began in. -/
structure ClosedPath (edge : α → α → Prop) (path : List α) : Prop where
  chain : path.IsChain edge
  closed : path.head? = path.getLast?
  moves : 2 ≤ path.length

section ClosedPaths

variable {edge : α → α → Prop} {path : List α} {first second : α}

theorem ClosedPath.imp {edge' : α → α → Prop} (h : ClosedPath edge path)
    (himp : ∀ a b, edge a b → edge' a b) : ClosedPath edge' path :=
  ⟨h.chain.imp himp, h.closed, h.moves⟩

/-- From every node of a closed path there is a way to every other one. -/
theorem ClosedPath.reflTransGen (h : ClosedPath edge path) (hfirst : first ∈ path)
    (hsecond : second ∈ path) : Relation.ReflTransGen edge first second := by
  have hways : path.Pairwise (Relation.ReflTransGen edge) :=
    List.isChain_iff_pairwise.mp (h.chain.imp fun _ _ ↦ .single)
  cases path with
  | nil => exact absurd hfirst List.not_mem_nil
  | cons start rest =>
    have hlast : (start :: rest).getLast (List.cons_ne_nil _ _) = start := by
      have hclosed := h.closed
      rw [List.head?_cons, List.getLast?_eq_some_getLast (List.cons_ne_nil _ _)] at hclosed
      exact (Option.some.inj hclosed).symm
    have hto : ∀ node ∈ start :: rest, Relation.ReflTransGen edge start node := by
      intro node hnode
      rcases List.mem_cons.mp hnode with rfl | hnode
      · exact .refl
      · exact (List.pairwise_cons.mp hways).1 node hnode
    have hback : ∀ node ∈ start :: rest, Relation.ReflTransGen edge node start := by
      intro node hnode
      rw [← List.dropLast_append_getLast (List.cons_ne_nil start rest), hlast] at hways hnode
      rcases List.mem_append.mp hnode with hnode | hnode
      · exact (List.pairwise_append.mp hways).2.2 node hnode start (List.mem_singleton_self _)
      · rw [List.mem_singleton.mp hnode]
    exact (hback first hfirst).trans (hto second hsecond)

/-- A way that can stand still is one that does not, or leads nowhere. -/
theorem reflTransGen_ne (h : Relation.ReflTransGen edge first second) :
    Relation.ReflTransGen (fun a b ↦ edge a b ∧ b ≠ a) first second := by
  induction h with
  | refl => exact .refl
  | @tail middle last _ hedge ih =>
    by_cases hsame : last = middle
    · exact hsame ▸ ih
    · exact ih.tail ⟨hedge, hsame⟩

/-- A closed path with two nodes leads back to each of them along edges between distinct nodes. -/
theorem ClosedPath.transGen_ne (h : ClosedPath edge path) (hfirst : first ∈ path) (hsecond : second ∈ path)
    (hne : first ≠ second) : Relation.TransGen (fun a b ↦ edge a b ∧ b ≠ a) first first := by
  rcases Relation.reflTransGen_iff_eq_or_transGen.mp (reflTransGen_ne (h.reflTransGen hfirst hsecond))
    with hsame | hthere
  · exact absurd hsame.symm hne
  · exact hthere.trans_left (reflTransGen_ne (h.reflTransGen hsecond hfirst))

/-- No way leads back to a node that no infinite path leaves. -/
theorem not_transGen_of_acc {node : α} (h : Acc (fun b a ↦ edge a b) node) :
    ¬Relation.TransGen edge node node := by
  induction h with
  | intro node _ ih =>
    intro hway
    obtain ⟨next, hedge, hback⟩ := Relation.TransGen.head'_iff.mp hway
    exact ih next hedge (Relation.TransGen.tail' hback hedge)

end ClosedPaths

/-! ### The search -/

/-- The nodes a search is at, those it has left, and the cycles it has reported. -/
structure Search (α : Type) where
  visiting : Finset α
  visited : Finset α
  cycles : List (List α)

def Search.start : Search α := ⟨∅, ∅, []⟩

section Searches

variable [DecidableEq α]

def Search.enter (search : Search α) (node : α) : Search α :=
  { search with visiting := insert node search.visiting }

def Search.leave (search : Search α) (node : α) : Search α :=
  { search with visiting := search.visiting.erase node, visited := insert node search.visited }

def Search.report (search : Search α) (cycle : List α) : Search α :=
  { search with cycles := search.cycles ++ [cycle] }

/-- The search at a node, the path to it known. Calls nested deeper than the limit are refused. -/
def visit (next : α → List α) : ℕ → List α → Search α → α → Option (Search α)
  | 0, _, _, _ => none
  | limit + 1, stack, search, node =>
    if node ∈ search.visiting then
      some (search.report (stack.drop (stack.idxOf node) ++ [node]))
    else if node ∈ search.visited then some search
    else do
      let after ← (next node).foldlM (visit next limit (stack ++ [node])) (search.enter node)
      some (after.leave node)

def visitAll (next : α → List α) (limit : ℕ) (stack : List α) (search : Search α) (starts : List α) :
    Option (Search α) :=
  starts.foldlM (visit next limit stack) search

variable {next : α → List α} {search after last : Search α} {node : α} {stack : List α}

omit [DecidableEq α] in
/-- A loop ends as one does whose steps it has. -/
theorem foldlM_of_imp {σ : Type} {step wider : σ → α → Option σ}
    (himp : ∀ state item {result}, step state item = some result → wider state item = some result)
    {items : List α} {state result : σ} (h : items.foldlM step state = some result) :
    items.foldlM wider state = some result := by
  induction items generalizing state with
  | nil => exact h
  | cons first rest ih =>
    rw [List.foldlM_cons] at h ⊢
    obtain ⟨between, hfirst, hrest⟩ := Option.bind_eq_some_iff.mp h
    exact Option.bind_eq_some_iff.mpr ⟨between, himp state first hfirst, ih hrest⟩

/-- A search that ends within a limit ends in the same way within a higher one. -/
theorem visit_succ {limit : ℕ} (h : visit next limit stack search node = some after) :
    visit next (limit + 1) stack search node = some after := by
  induction limit generalizing stack search node after with
  | zero => cases h
  | succ limit ih =>
    rw [visit] at h ⊢
    split_ifs at h ⊢ with hvisiting hvisited
    · exact h
    · exact h
    · obtain ⟨middle, hmiddle, hleft⟩ := Option.bind_eq_some_iff.mp h
      exact Option.bind_eq_some_iff.mpr ⟨middle, foldlM_of_imp (fun _ _ ↦ ih) hmiddle, hleft⟩

theorem visitAll_of_le {limit higher : ℕ} {starts : List α}
    (h : visitAll next limit stack search starts = some after) (hle : limit ≤ higher) :
    visitAll next higher stack search starts = some after := by
  induction higher, hle using Nat.le_induction with
  | base => exact h
  | succ higher _ ih => exact foldlM_of_imp (fun _ _ ↦ visit_succ) ih

/-- What is reported are closed paths, and no infinite path leaves a node left in a search that reported none. -/
structure Search.Sound (next : α → List α) (search : Search α) : Prop where
  closed : ∀ cycle ∈ search.cycles, ClosedPath (fun a b ↦ b ∈ next a) cycle
  acc : search.cycles = [] → ∀ node ∈ search.visited, Acc (fun b a ↦ b ∈ next a) node

/-- The search is where it was, with more nodes left and more cycles reported. -/
structure Search.Continues (search after : Search α) : Prop where
  visiting_eq : after.visiting = search.visiting
  visited_subset : search.visited ⊆ after.visited
  cycles_extend : search.cycles <+: after.cycles

omit [DecidableEq α] in
theorem Search.Continues.refl (search : Search α) : search.Continues search :=
  ⟨rfl, Finset.Subset.refl _, List.prefix_refl _⟩

omit [DecidableEq α] in
theorem Search.Continues.trans (h : search.Continues after) (hlast : after.Continues last) :
    search.Continues last :=
  ⟨hlast.visiting_eq.trans h.visiting_eq, h.visited_subset.trans hlast.visited_subset,
    h.cycles_extend.trans hlast.cycles_extend⟩

omit [DecidableEq α] in
theorem Search.Continues.cycles_eq_nil (h : search.Continues after) (hnone : after.cycles = []) :
    search.cycles = [] :=
  List.prefix_nil.mp (hnone ▸ h.cycles_extend)

omit [DecidableEq α] in
theorem Search.sound_start : (Search.start : Search α).Sound next :=
  ⟨fun _ h ↦ absurd h List.not_mem_nil, fun _ _ h ↦ absurd h (Finset.notMem_empty _)⟩

/-- A search at a node ends soundly where it was, having left the node unless it has reported a cycle. -/
def Visits (next : α → List α) (limit : ℕ) (stack : List α) (search : Search α) (node : α) : Prop :=
  ∃ after, visit next limit stack search node = some after ∧ after.Sound next ∧ search.Continues after ∧
    (after.cycles = [] → node ∈ after.visited)

/-- What holds of the search at each node holds of the loop over them. -/
theorem visitAll_spec {limit : ℕ} {starts : List α} (hsound : search.Sound next)
    (hvisits : ∀ current, search.visiting = current.visiting → current.Sound next →
      ∀ node ∈ starts, Visits next limit stack current node) :
    ∃ after, visitAll next limit stack search starts = some after ∧ after.Sound next ∧
      search.Continues after ∧ (after.cycles = [] → ∀ node ∈ starts, node ∈ after.visited) := by
  induction starts generalizing search with
  | nil => exact ⟨search, rfl, hsound, .refl search, fun _ _ h ↦ absurd h List.not_mem_nil⟩
  | cons node rest ih =>
    obtain ⟨middle, hmiddle, hmiddleSound, hcontinues, hleft⟩ :=
      hvisits search rfl hsound node List.mem_cons_self
    obtain ⟨after, hafter, hafterSound, hrest, hrestLeft⟩ := ih hmiddleSound
      fun current hcurrent hcurrentSound other hother ↦
        hvisits current (hcontinues.visiting_eq.symm.trans hcurrent) hcurrentSound other
          (List.mem_cons_of_mem _ hother)
    refine ⟨after, ?_, hafterSound, hcontinues.trans hrest, fun hnone other hother ↦ ?_⟩
    · rw [visitAll, List.foldlM_cons, hmiddle]
      exact hafter
    · rcases List.mem_cons.mp hother with rfl | hother
      · exact hrest.visited_subset (hleft (hrest.cycles_eq_nil hnone))
      · exact hrestLeft hnone other hother

/-- A cycle is reported where the search comes back to a node of its path. -/
theorem closedPath_of_mem_stack (hmem : node ∈ stack) (hpath : (stack ++ [node]).IsChain fun a b ↦ b ∈ next a) :
    ClosedPath (fun a b ↦ b ∈ next a) (stack.drop (stack.idxOf node) ++ [node]) := by
  have hindex : stack.idxOf node < stack.length := List.idxOf_lt_length_of_mem hmem
  have hdrop : stack.drop (stack.idxOf node) = node :: stack.drop (stack.idxOf node + 1) := by
    rw [List.drop_eq_getElem_cons hindex, List.getElem_idxOf]
  refine ⟨hpath.suffix ?_, ?_, ?_⟩
  · rw [← List.drop_append_of_le_length hindex.le]
    exact List.drop_suffix _ _
  · rw [hdrop, List.cons_append, List.head?_cons, ← List.cons_append, List.getLast?_append,
      List.getLast?_singleton, Option.some_or]
  · rw [hdrop, List.length_append, List.length_cons, List.length_singleton]
    omega

omit [DecidableEq α] in
theorem Search.Sound.report (h : search.Sound next) {cycle : List α}
    (hcycle : ClosedPath (fun a b ↦ b ∈ next a) cycle) : (search.report cycle).Sound next where
  closed path hpath := by
    rcases List.mem_append.mp hpath with hpath | hpath
    · exact h.closed path hpath
    · exact List.mem_singleton.mp hpath ▸ hcycle
  acc hnone := absurd hnone (List.append_ne_nil_of_right_ne_nil _ (List.cons_ne_nil _ _))

/-- A node is left soundly when all its successors have been left. -/
theorem Search.Sound.leave (h : search.Sound next)
    (hleft : search.cycles = [] → ∀ successor ∈ next node, successor ∈ search.visited) :
    (search.leave node).Sound next where
  closed := h.closed
  acc hnone other hother := by
    rcases Finset.mem_insert.mp hother with rfl | hother
    · exact .intro _ fun successor hsuccessor ↦ h.acc hnone successor (hleft hnone successor hsuccessor)
    · exact h.acc hnone other hother

/-- Nested calls go no deeper than there are nodes the search is not at, and each ends soundly. -/
theorem visit_spec {nodes : Finset α} (hnodes : ∀ node ∈ nodes, ∀ successor ∈ next node, successor ∈ nodes)
    {limit : ℕ} (hlimit : (nodes \ search.visiting).card < limit) (hnode : node ∈ nodes)
    (hstack : search.visiting = stack.toFinset)
    (hpath : (stack ++ [node]).IsChain fun a b ↦ b ∈ next a) (hsound : search.Sound next) :
    Visits next limit stack search node := by
  induction limit generalizing stack search node with
  | zero => exact absurd hlimit (Nat.not_lt_zero _)
  | succ limit ih =>
    unfold Visits visit
    split_ifs with hvisiting hvisited
    · -- the search has come back to a node of its path
      have hcycle := closedPath_of_mem_stack (List.mem_toFinset.mp (hstack ▸ hvisiting)) hpath
      exact ⟨_, rfl, hsound.report hcycle, ⟨rfl, Finset.Subset.refl _, List.prefix_append _ _⟩,
        fun hnone ↦ absurd hnone (List.append_ne_nil_of_right_ne_nil _ (List.cons_ne_nil _ _))⟩
    · exact ⟨search, rfl, hsound, .refl search, fun _ ↦ hvisited⟩
    · have hfewer : (nodes \ insert node search.visiting).card < limit := by
        have hstrict : nodes \ insert node search.visiting ⊂ nodes \ search.visiting := by
          refine Finset.ssubset_iff_of_subset
            (Finset.sdiff_subset_sdiff (Finset.Subset.refl _) (Finset.subset_insert _ _)) |>.mpr ?_
          exact ⟨node, Finset.mem_sdiff.mpr ⟨hnode, hvisiting⟩,
            fun h ↦ (Finset.mem_sdiff.mp h).2 (Finset.mem_insert_self _ _)⟩
        exact Nat.lt_of_lt_of_le (Finset.card_lt_card hstrict) (Nat.le_of_lt_succ hlimit)
      have hentered : (search.enter node).Sound next := ⟨hsound.closed, hsound.acc⟩
      obtain ⟨after, hafter, hafterSound, hcontinues, hleft⟩ :=
        @visitAll_spec _ _ next _ (stack ++ [node]) limit (next node) hentered (by
          intro current hcurrent hcurrentSound successor hsuccessor
          refine ih ?_ (hnodes node hnode successor hsuccessor) ?_ ?_ hcurrentSound
          · rw [← hcurrent]
            exact hfewer
          · rw [← hcurrent, Search.enter, hstack, List.toFinset_append, List.toFinset_cons,
              List.toFinset_nil, insert_empty_eq, Finset.insert_eq, Finset.union_comm]
          · refine hpath.append (List.isChain_singleton _) ?_
            simpa using hsuccessor)
      rw [visitAll] at hafter
      refine ⟨after.leave node, by rw [hafter]; rfl, hafterSound.leave hleft, ⟨?_, ?_, ?_⟩,
        fun _ ↦ Finset.mem_insert_self _ _⟩
      · rw [Search.leave, hcontinues.visiting_eq, Search.enter, Finset.erase_insert hvisiting]
      · exact hcontinues.visited_subset.trans (Finset.subset_insert _ _)
      · exact hcontinues.cycles_extend

/-- Searching from some nodes ends, reports closed paths only, and where it reports none no infinite path leaves
one of the nodes. -/
theorem visitAll_exact {nodes : Finset α}
    (hnodes : ∀ node ∈ nodes, ∀ successor ∈ next node, successor ∈ nodes) {starts : List α}
    (hstarts : ∀ node ∈ starts, node ∈ nodes) :
    ∃ after, (∀ limit, nodes.card < limit → visitAll next limit [] .start starts = some after) ∧
      (∀ cycle ∈ after.cycles, ClosedPath (fun a b ↦ b ∈ next a) cycle) ∧
      (after.cycles = [] → ∀ node ∈ starts, Acc (fun b a ↦ b ∈ next a) node) := by
  obtain ⟨after, hafter, hsound, -, hleft⟩ :=
    @visitAll_spec _ _ next .start [] (nodes.card + 1) starts Search.sound_start (by
      intro current hcurrent hcurrentSound node hnode
      have hempty : current.visiting = ∅ := hcurrent.symm
      refine visit_spec hnodes ?_ (hstarts node hnode) ?_ (List.isChain_singleton _) hcurrentSound
      · rw [hempty, Finset.sdiff_empty]
        exact Nat.lt_succ_self _
      · rw [hempty, List.toFinset_nil])
  exact ⟨after, fun _ hlimit ↦ visitAll_of_le hafter hlimit, hsound.closed, fun hnone node hnode ↦ hsound.acc hnone node (hleft hnone node hnode)⟩

end Searches

end SchemaPilot.Library
