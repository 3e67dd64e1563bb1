import Mathlib.Logic.Relation
import Mathlib.Data.List.Basic

/-!
# Lists in the order of their dependencies

A list of nodes is in order when each node depends only on keys of nodes before it and its own key is
new. Where a run along such a list stops, what depends on the node it stopped at, through any chain of
dependencies, stands after that node.
-/

namespace SchemaPilot.Library

variable {ν κ : Type}

section InOrder

variable (key : ν → κ) (deps : ν → List κ)

/-- The nodes are in order after nodes with the keys seen. -/
def InOrder (seen : List κ) : List ν → Prop
  | [] => True
  | node :: rest =>
    (∀ dep ∈ deps node, dep ∈ seen) ∧ key node ∉ seen ∧ InOrder (seen ++ [key node]) rest

def DependsIn (nodes : List ν) (node other : ν) : Prop :=
  node ∈ nodes ∧ other ∈ nodes ∧ key other ∈ deps node

instance decidableInOrder [DecidableEq κ] :
    ∀ (seen : List κ) (nodes : List ν), Decidable (InOrder key deps seen nodes)
  | _, [] => isTrue trivial
  | seen, node :: rest =>
    have := decidableInOrder (seen ++ [key node]) rest
    inferInstanceAs (Decidable (_ ∧ _ ∧ _))

end InOrder

variable {key : ν → κ} {deps : ν → List κ} {nodes done todo : List ν} {node other : ν}

/-- What stands at a place of a list in order is in order after what stands before. -/
theorem InOrder.of_append {seen : List κ} (h : InOrder key deps seen (done ++ todo)) :
    InOrder key deps (seen ++ done.map key) todo := by
  induction done generalizing seen with
  | nil => simpa using h
  | cons first done ih =>
    have hrest := ih h.2.2
    rwa [List.append_assoc] at hrest

theorem InOrder.not_mem_seen {seen : List κ} (h : InOrder key deps seen nodes) (hnode : node ∈ nodes) :
    key node ∉ seen := by
  induction nodes generalizing seen with
  | nil => exact absurd hnode List.not_mem_nil
  | cons first rest ih =>
    rcases List.mem_cons.mp hnode with rfl | hnode
    · exact h.2.1
    · exact fun hseen ↦ ih h.2.2 hnode (List.mem_append_left _ hseen)

/-- A node depends on nodes that stand before it. -/
theorem InOrder.deps_mem (h : InOrder key deps [] (done ++ node :: todo)) :
    ∀ dep ∈ deps node, dep ∈ done.map key :=
  h.of_append.1

/-- A node that stands before a place depends on nodes before that place. -/
theorem InOrder.deps_mem_of_mem (h : InOrder key deps [] (done ++ todo)) (hnode : node ∈ done) :
    ∀ dep ∈ deps node, dep ∈ done.map key := by
  obtain ⟨before, after, rfl⟩ := List.append_of_mem hnode
  have hplace : InOrder key deps [] (before ++ node :: (after ++ todo)) := by simpa using h
  intro dep hdep
  rw [List.map_append]
  exact List.mem_append_left _ (hplace.deps_mem dep hdep)

/-- What is in order by the keys and dependencies of images is in order. -/
theorem inOrder_map {μ : Type} {f : μ → ν} {items : List μ} {seen : List κ} :
    InOrder key deps seen (items.map f) ↔ InOrder (key ∘ f) (deps ∘ f) seen items := by
  induction items generalizing seen with
  | nil => exact Iff.rfl
  | cons item rest ih => exact and_congr_right' (and_congr_right' ih)

/-- No later node has the key of an earlier one. -/
theorem InOrder.key_not_mem (h : InOrder key deps [] (done ++ todo)) (hother : other ∈ todo) :
    key other ∉ done.map key :=
  h.of_append.not_mem_seen hother

/-- A node that stands up to a place depends on nothing from that place on. -/
theorem InOrder.not_depends (h : InOrder key deps [] (done ++ node :: todo))
    (hother : other ∈ node :: todo) {earlier : ν} (hearlier : earlier ∈ done ∨ earlier = node) :
    key other ∉ deps earlier := by
  intro hdep
  apply h.key_not_mem hother
  rcases hearlier with hdone | rfl
  · exact h.deps_mem_of_mem hdone _ hdep
  · exact h.deps_mem _ hdep

/-- What depends, through any chain, on the node at a place stands after that place. -/
theorem InOrder.mem_of_transGen (h : InOrder key deps [] (done ++ node :: todo))
    (hchain : Relation.TransGen (DependsIn key deps (done ++ node :: todo)) other node) :
    other ∈ todo := by
  have hstep : ∀ {later earlier}, DependsIn key deps (done ++ node :: todo) later earlier →
      earlier ∈ node :: todo → later ∈ todo := by
    rintro later earlier ⟨hlater, -, hdep⟩ hearlier
    by_contra hnot
    refine h.not_depends hearlier ?_ hdep
    rcases List.mem_append.mp hlater with hdone | hlater
    · exact Or.inl hdone
    · exact Or.inr ((List.mem_cons.mp hlater).resolve_right hnot)
  induction hchain using Relation.TransGen.head_induction_on with
  | single hlast => exact hstep hlast List.mem_cons_self
  | head hfirst _ ih => exact hstep hfirst (List.mem_cons_of_mem _ ih)

end SchemaPilot.Library
