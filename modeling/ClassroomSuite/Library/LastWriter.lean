import Mathlib.Data.List.Infix

/-!
# The last writer wins

A store is read and written at paths. Two paths may be independent of each other, and then a write
at one leaves what is read at the other. What a whole sequence of writes leaves at a path is then
decided by the last of them that concerns it: the value last written there, if only independent
paths are written later, and the old value, if only independent paths are written at all.

For paths that are lists of segments, independence means that neither leads to the other.

## Main definitions

* `PathStore`: the laws of reading and writing.
* `PathStore.WritesAll`: a sequence of writes.
* `Independent`: neither of two lists is a prefix of the other.

## Main results

* `PathStore.WritesAll.read_last`, `PathStore.WritesAll.read_other`.
* `foldl_eq_getLast?`, `foldl_eq_append_filterMap`: what is replaced, or added to, along a fold.
* `independent_cons_iff`.
-/

namespace ClassroomSuite.Library

/-! ### Independent paths -/

/-- Neither list is a prefix of the other. -/
def Independent {α : Type*} (p q : List α) : Prop := ¬ p <+: q ∧ ¬ q <+: p

section Independent

variable {α : Type*} {p q : List α} {a b : α}

theorem not_independent_nil : ¬ Independent [] q := fun h => h.1 List.nil_prefix

theorem not_independent_nil_right : ¬ Independent p [] := fun h => h.2 List.nil_prefix

/-- Independent lists differ at their first elements, or have independent rests. -/
theorem independent_cons_iff : Independent (a :: p) (b :: q) ↔ a = b → Independent p q := by
  simp only [Independent, List.cons_prefix_cons]
  constructor
  · rintro ⟨hpq, hqp⟩ rfl
    exact ⟨fun h => hpq ⟨rfl, h⟩, fun h => hqp ⟨rfl, h⟩⟩
  · exact fun h => ⟨fun hpq => (h hpq.1).1 hpq.2, fun hqp => (h hqp.1.symm).2 hqp.2⟩

end Independent

/-! ### Stores -/

/-- A store of values at paths. Reading and writing may fail; a write of `v` at `p` leads from one
store to another. -/
structure PathStore (σ π ν : Type*) where
  read : σ → π → Option ν
  Writes : π → ν → σ → σ → Prop
  Independent : π → π → Prop
  read_written : ∀ {p v s s'}, Writes p v s s' → read s' p = some v
  read_other : ∀ {p q v x s s'}, Independent p q → Writes q v s s' → read s p = some x →
    read s' p = some x

namespace PathStore

variable {σ π ν : Type*} (store : PathStore σ π ν)

/-- The writes lead, one after the other, from one store to another. -/
inductive WritesAll : List (π × ν) → σ → σ → Prop
  | nil (s : σ) : WritesAll [] s s
  | cons {p : π} {v : ν} {ws : List (π × ν)} {s s' s'' : σ} (write : store.Writes p v s s')
      (rest : WritesAll ws s' s'') : WritesAll ((p, v) :: ws) s s''

variable {store} {ws ws' : List (π × ν)} {s s' s'' : σ} {p : π} {v x : ν}

theorem WritesAll.append (h : store.WritesAll ws s s') (h' : store.WritesAll ws' s' s'') :
    store.WritesAll (ws ++ ws') s s'' := by
  induction h with
  | nil s => exact h'
  | cons write rest ih => exact .cons write (ih h')

/-- Writes at independent paths leave what is read at a path. -/
theorem WritesAll.read_other (h : store.WritesAll ws s s')
    (hind : ∀ w ∈ ws, store.Independent p w.1) (hread : store.read s p = some x) :
    store.read s' p = some x := by
  induction h with
  | nil s => exact hread
  | cons write rest ih =>
    obtain ⟨hfirst, hrest⟩ := List.forall_mem_cons.mp hind
    exact ih hrest (store.read_other hfirst write hread)

/-- What is written at a path is read there, if only independent paths are written later. -/
theorem WritesAll.read_last (h : store.WritesAll (ws ++ (p, v) :: ws') s s')
    (hind : ∀ w ∈ ws', store.Independent p w.1) : store.read s' p = some v := by
  induction ws generalizing s with
  | nil =>
    cases h with
    | cons write rest => exact rest.read_other hind (store.read_written write)
  | cons w ws ih =>
    cases h with
    | cons write rest => exact ih rest

end PathStore

/-! ### Folds -/

section Fold

variable {σ α β : Type*} {step : σ → α → σ}

/-- What each step replaces or leaves is replaced by the last step that does. -/
theorem foldl_eq_getLast? (observe : σ → β) {f : α → Option β}
    (h : ∀ s a, observe (step s a) = (f a).getD (observe s)) (as : List α) (s : σ) :
    observe (as.foldl step s) = (as.filterMap f).getLast?.getD (observe s) := by
  induction as generalizing s with
  | nil => rfl
  | cons a as ih =>
    rw [List.foldl_cons, ih, h]
    cases hf : f a with
    | none => rw [List.filterMap_cons_none hf, Option.getD_none]
    | some b =>
      rw [List.filterMap_cons_some hf, Option.getD_some, List.getLast?_cons, Option.getD_some]

/-- What each step adds to is added to by all steps that do, in their order. -/
theorem foldl_eq_append_filterMap (observe : σ → List β) {f : α → Option β}
    (h : ∀ s a, observe (step s a) = observe s ++ (f a).toList) (as : List α) (s : σ) :
    observe (as.foldl step s) = observe s ++ as.filterMap f := by
  induction as generalizing s with
  | nil => rw [List.foldl_nil, List.filterMap_nil, List.append_nil]
  | cons a as ih =>
    rw [List.foldl_cons, ih, h, List.append_assoc]
    cases hf : f a with
    | none => rw [List.filterMap_cons_none hf, Option.toList_none, List.nil_append]
    | some b => rw [List.filterMap_cons_some hf, Option.toList_some, List.singleton_append]

end Fold

end ClassroomSuite.Library
