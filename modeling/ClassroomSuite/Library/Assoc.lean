import Mathlib.Data.List.Basic

/-!
# Ordered association lists

A mapping that remembers the order in which its keys were inserted is a list of key–value pairs.
`List.lookup` reads it; `assocSet` overwrites the value of a key in place, or appends a new key at
the end; `assocErase` drops a key. These are the reading, writing and deleting of an
insertion-ordered dictionary and of a directory listing.
-/

namespace ClassroomSuite.Library

variable {κ β : Type} [DecidableEq κ]

/-- Overwrite the value of `k` in place, or append `k` when it is not a key. -/
def assocSet (k : κ) (v : β) : List (κ × β) → List (κ × β)
  | [] => [(k, v)]
  | (k', v') :: es => if k' = k then (k, v) :: es else (k', v') :: assocSet k v es

/-- Drop the key `k`. -/
def assocErase (k : κ) : List (κ × β) → List (κ × β)
  | [] => []
  | (k', v') :: es => if k' = k then assocErase k es else (k', v') :: assocErase k es

theorem lookup_cons_eq (k : κ) (e : κ × β) (es : List (κ × β)) :
    (e :: es).lookup k = if e.1 = k then some e.2 else es.lookup k := by
  obtain ⟨k', v⟩ := e
  rw [List.lookup_cons]
  by_cases h : k' = k
  · simp [h]
  · have hk : (k == k') = false := beq_eq_false_iff_ne.mpr (Ne.symm h)
    simp [h, hk]

/-- A value that is found is an entry. -/
theorem mem_of_lookup {k : κ} {v : β} {es : List (κ × β)} (h : es.lookup k = some v) :
    (k, v) ∈ es := by
  obtain ⟨before, after, hes, -⟩ := List.lookup_eq_some_iff.mp h
  rw [hes]
  exact List.mem_append_right _ List.mem_cons_self

@[simp] theorem lookup_assocSet (k k' : κ) (v : β) (es : List (κ × β)) :
    (assocSet k v es).lookup k' = if k' = k then some v else es.lookup k' := by
  induction es with
  | nil => simp [assocSet, lookup_cons_eq, eq_comm]
  | cons e es ih =>
    unfold assocSet
    by_cases he : e.1 = k
    · by_cases hk : k' = k
      · simp [he, hk, lookup_cons_eq]
      · simp [he, hk, lookup_cons_eq, Ne.symm hk]
    · by_cases hk : k' = k
      · subst hk
        simp [he, lookup_cons_eq, ih]
      · simp [he, hk, lookup_cons_eq, ih]

/-- Storing what is already there changes nothing. -/
theorem assocSet_of_lookup {k : κ} {v : β} {es : List (κ × β)} (h : es.lookup k = some v) :
    assocSet k v es = es := by
  induction es with
  | nil => cases h
  | cons e es ih =>
    rw [lookup_cons_eq] at h
    unfold assocSet
    split_ifs at h ⊢ with he
    · rw [← he, ← Option.some.inj h]
    · rw [ih h]

/-- The keys stay in place, and a new one comes last. -/
theorem map_fst_assocSet (k : κ) (v : β) (es : List (κ × β)) :
    (assocSet k v es).map Prod.fst =
      if k ∈ es.map Prod.fst then es.map Prod.fst else es.map Prod.fst ++ [k] := by
  induction es with
  | nil => rfl
  | cons e es ih =>
    unfold assocSet
    by_cases he : e.1 = k
    · simp [he]
    · rw [if_neg he, List.map_cons, ih, List.map_cons]
      simp only [List.mem_cons, Ne.symm he, false_or]
      split_ifs <;> rfl

@[simp] theorem lookup_assocErase (k k' : κ) (es : List (κ × β)) :
    (assocErase k es).lookup k' = if k' = k then none else es.lookup k' := by
  induction es with
  | nil => simp [assocErase]
  | cons e es ih =>
    unfold assocErase
    by_cases he : e.1 = k
    · rw [if_pos he, ih, lookup_cons_eq]
      split_ifs with hk hk'
      · rfl
      · exact absurd (hk'.symm.trans he) hk
      · rfl
    · rw [if_neg he, lookup_cons_eq, lookup_cons_eq, ih]
      split_ifs with hk' hk
      · exact absurd (hk'.trans hk) he
      all_goals rfl

/-- After a list has been stored by the keys of its elements, a key leads to the last element that
has it. -/
theorem lookup_foldl_assocSet {α : Type} (key : α → κ) (value : α → β) (xs : List α)
    (es : List (κ × β)) (k : κ) :
    (xs.foldl (fun es x => assocSet (key x) (value x) es) es).lookup k =
      ((xs.reverse.find? fun x => key x = k).map value).or (es.lookup k) := by
  induction xs generalizing es with
  | nil => simp
  | cons x xs ih =>
    rw [List.foldl_cons, ih, lookup_assocSet, List.reverse_cons, List.find?_append,
      List.find?_singleton]
    cases xs.reverse.find? fun x => key x = k with
    | some y => simp
    | none =>
      by_cases hx : key x = k
      · simp [hx]
      · have hk : k ≠ key x := fun h => hx h.symm
        simp [hx, hk]

/-- Where each key occurs once, its value does not depend on the order. -/
theorem lookup_eq_of_perm {es es' : List (κ × β)} (hnodup : (es.map Prod.fst).Nodup)
    (h : es.Perm es') (k : κ) : es.lookup k = es'.lookup k := by
  induction h with
  | nil => rfl
  | cons e _ ih =>
    rw [lookup_cons_eq, lookup_cons_eq, ih (List.nodup_cons.mp hnodup).2]
  | swap e e' es =>
    have hne : e'.1 ≠ e.1 := fun heq =>
      (List.nodup_cons.mp hnodup).1 (heq ▸ List.mem_cons_self)
    simp only [lookup_cons_eq]
    split_ifs with he' he
    · exact absurd (he'.trans he.symm) hne
    all_goals rfl
  | trans h _ ih ih' => exact (ih hnodup).trans (ih' ((h.map _).nodup_iff.mp hnodup))

end ClassroomSuite.Library
