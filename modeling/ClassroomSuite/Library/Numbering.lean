import Mathlib.Data.List.Basic

/-!
# Numbering with a fallback

The items of a list are numbered, some with a number of their own and the others by their position.
The numbers are distinct when the numbers of their own are and no position that is used is one of
them.

## Main definitions

* `numbers`: the numbers of the items.
* `FallsBackTo`: an item has a number for its position.

## Main results

* `mem_numbers_iff`, `nodup_numbers_iff`.
-/

namespace ClassroomSuite.Library

variable {α β : Type*} (own : α → Option β) (fallback : ℕ → β)

/-- The numbers of the items: their own, or else the one for their position. -/
def numbers (items : List α) (start : ℕ) : List β :=
  (items.zipIdx start).map fun item => (own item.1).getD (fallback item.2)

/-- Some item without a number of its own is numbered so. -/
def FallsBackTo (items : List α) (start : ℕ) (b : β) : Prop :=
  ∃ item ∈ items.zipIdx start, own item.1 = none ∧ fallback item.2 = b

variable {own fallback}

theorem fallsBackTo_cons_iff (a : α) (items : List α) (start : ℕ) (b : β) :
    FallsBackTo own fallback (a :: items) start b ↔
      (own a = none ∧ fallback start = b) ∨ FallsBackTo own fallback items (start + 1) b := by
  simp [FallsBackTo, List.zipIdx_cons]

theorem mem_numbers_iff (items : List α) (start : ℕ) (b : β) :
    b ∈ numbers own fallback items start ↔
      b ∈ items.filterMap own ∨ FallsBackTo own fallback items start b := by
  induction items generalizing start with
  | nil => simp [numbers, FallsBackTo]
  | cons a items ih =>
    rw [numbers, List.zipIdx_cons, List.map_cons, ← numbers, List.mem_cons, ih,
      fallsBackTo_cons_iff]
    cases ha : own a with
    | none => simp [List.filterMap_cons_none ha, or_left_comm, eq_comm]
    | some b' => simp [List.filterMap_cons_some ha, or_assoc]

/-- The number for a position is not used for a later one. -/
theorem not_fallsBackTo_of_lt (hfallback : Function.Injective fallback) {items : List α}
    {position start : ℕ} (h : position < start) :
    ¬ FallsBackTo own fallback items start (fallback position) := by
  rintro ⟨⟨a, position'⟩, hmem, -, heq⟩
  obtain rfl := hfallback heq
  have := (List.mem_zipIdx hmem).1
  omega

/-- The numbers are distinct exactly when no item falls back to a number that another has of its
own. -/
theorem nodup_numbers_iff (hfallback : Function.Injective fallback) {items : List α}
    (hown : (items.filterMap own).Nodup) (start : ℕ) :
    (numbers own fallback items start).Nodup ↔
      ∀ b ∈ items.filterMap own, ¬ FallsBackTo own fallback items start b := by
  induction items generalizing start with
  | nil => simp [numbers]
  | cons a items ih =>
    rw [numbers, List.zipIdx_cons, List.map_cons, ← numbers, List.nodup_cons, mem_numbers_iff]
    simp only [fallsBackTo_cons_iff]
    cases ha : own a with
    | none =>
      rw [List.filterMap_cons_none ha] at hown ⊢
      have hlater : ¬ FallsBackTo own fallback items (start + 1) (fallback start) :=
        not_fallsBackTo_of_lt hfallback (Nat.lt_succ_self start)
      rw [ih hown, Option.getD_none, or_iff_left hlater]
      constructor
      · rintro ⟨hnot, hall⟩ b hb (⟨-, rfl⟩ | hfalls)
        · exact hnot hb
        · exact hall b hb hfalls
      · intro hall
        exact ⟨fun hmem => hall _ hmem (Or.inl ⟨rfl, rfl⟩), fun b hb hfalls =>
          hall b hb (Or.inr hfalls)⟩
    | some b =>
      rw [List.filterMap_cons_some ha] at hown ⊢
      obtain ⟨hfresh, hown⟩ := List.nodup_cons.mp hown
      rw [ih hown]
      simp [hfresh]

end ClassroomSuite.Library
