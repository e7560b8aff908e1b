import Mathlib.Data.List.Perm.Basic

/-!
# The nodes of a forest

A forest is given by its roots and by the children of each node. Its nodes, listed from the top, are
the roots together with the nodes of the forest of their children, so that they are the first level,
the second one, and what is deeper.

## Main definitions

* `ForestNodes`: the nodes of a forest.

## Main results

* `ForestNodes.perm_levels`.
-/

namespace ClassroomSuite.Library

open scoped List

variable {α : Type*}

/-- The nodes of a forest: each before those below it, and these before the next root. -/
inductive ForestNodes (children : α → List α) : List α → List α → Prop
  | nil : ForestNodes children [] []
  | cons {root : α} {roots below nodes : List α}
      (hbelow : ForestNodes children (children root) below)
      (rest : ForestNodes children roots nodes) :
      ForestNodes children (root :: roots) (root :: below ++ nodes)

variable {children : α → List α} {roots nodes : List α}

theorem ForestNodes.append {roots' nodes' : List α} (h : ForestNodes children roots nodes)
    (h' : ForestNodes children roots' nodes') :
    ForestNodes children (roots ++ roots') (nodes ++ nodes') := by
  induction h with
  | nil => exact h'
  | cons hbelow _ _ ih =>
    rw [List.cons_append, List.append_assoc]
    exact .cons hbelow ih

/-- A forest has one list of nodes. -/
theorem ForestNodes.unique {nodes' : List α} (h : ForestNodes children roots nodes)
    (h' : ForestNodes children roots nodes') : nodes = nodes' := by
  induction h generalizing nodes' with
  | nil =>
    cases h'
    rfl
  | cons _ _ ihbelow ihrest =>
    cases h' with
    | cons hbelow' rest' => rw [ihbelow hbelow', ihrest rest']

/-- A forest without roots has no nodes, and no other. -/
theorem ForestNodes.eq_nil_iff (h : ForestNodes children roots nodes) :
    nodes = [] ↔ roots = [] := by
  cases h with
  | nil => exact Iff.rfl
  | cons _ _ => exact iff_of_false (List.cons_ne_nil _ _) (List.cons_ne_nil _ _)

/-- The nodes are the roots together with the nodes of the forest of their children. -/
theorem ForestNodes.perm (h : ForestNodes children roots nodes) :
    ∃ lower, ForestNodes children (roots.flatMap children) lower ∧ nodes.Perm (roots ++ lower) := by
  induction h with
  | nil => exact ⟨[], .nil, .refl _⟩
  | @cons root roots below nodes hbelow _ _ ih =>
    obtain ⟨lower, hlower, hperm⟩ := ih
    refine ⟨below ++ lower, hbelow.append hlower, ?_⟩
    calc root :: below ++ nodes
      _ ~ root :: below ++ (roots ++ lower) := hperm.append_left _
      _ ~ root :: roots ++ (below ++ lower) :=
        (List.perm_append_comm_assoc below roots lower).cons _

/-- The nodes are the roots, each followed by its children, and what is deeper, which is nothing
exactly when the children have no children. -/
theorem ForestNodes.perm_levels (h : ForestNodes children roots nodes) :
    ∃ deeper, nodes.Perm (roots.flatMap (fun root => root :: children root) ++ deeper) ∧
      (deeper = [] ↔ ∀ root ∈ roots, ∀ child ∈ children root, children child = []) := by
  obtain ⟨lower, hlower, hperm⟩ := h.perm
  obtain ⟨deeper, hdeeper, hperm'⟩ := hlower.perm
  refine ⟨deeper, ?_, ?_⟩
  · have hlevels := List.flatMap_append_perm roots (fun root => [root]) children
    rw [List.flatMap_singleton'] at hlevels
    calc nodes
      _ ~ roots ++ (roots.flatMap children ++ deeper) := hperm.trans (hperm'.append_left _)
      _ ~ roots ++ roots.flatMap children ++ deeper := .of_eq (List.append_assoc ..).symm
      _ ~ roots.flatMap (fun root => root :: children root) ++ deeper := hlevels.append_right _
  · rw [hdeeper.eq_nil_iff]
    simp only [List.flatMap_eq_nil_iff, List.mem_flatMap]
    exact ⟨fun hall root hroot child hchild => hall child ⟨root, hroot, hchild⟩,
      fun hall child ⟨root, hroot, hchild⟩ => hall root hroot child hchild⟩

end ClassroomSuite.Library
