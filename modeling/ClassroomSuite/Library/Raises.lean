import ClassroomSuite.Library.Traversal

/-!
# Which errors a computation raises

`Raises P m` says that `m` fails, with an error of the kind `P`. The rules of this module compute
it exactly along the shape of the computation: a sequence raises what its first part raises or,
once that has succeeded, what the rest raises; a traversal raises what the first element that fails
raises.

## Main definitions

* `Raises P m`.

## Main results

* `raises_bind_iff`, `raises_mapM_iff`, `raises_mapM_iff_exists`, `raises_zipIdx_mapM_iff`.
-/

namespace ClassroomSuite.Library

variable {ε α β : Type} (P : ε → Prop)

/-- `m` fails with an error of the kind `P`. -/
def Raises (m : Except ε α) : Prop := ∃ e, m = .error e ∧ P e

@[simp] theorem not_raises_ok (a : α) : ¬ Raises P (.ok a : Except ε α) := by
  rintro ⟨e, he, -⟩
  cases he

@[simp] theorem raises_error_iff (e : ε) : Raises P (.error e : Except ε α) ↔ P e := by
  constructor
  · rintro ⟨e', he, hP⟩
    cases he
    exact hP
  · exact fun hP => ⟨e, rfl, hP⟩

@[simp] theorem ok_bind (a : α) (f : α → Except ε β) : (.ok a : Except ε α) >>= f = f a := rfl

@[simp] theorem error_bind (e : ε) (f : α → Except ε β) :
    (.error e : Except ε α) >>= f = .error e := rfl

@[simp] theorem throw_eq_error (e : ε) : (throw e : Except ε α) = .error e := rfl

@[simp] theorem pure_eq_ok (a : α) : (pure a : Except ε α) = .ok a := rfl

/-- A sequence raises what its first part raises, or what the rest raises after it. -/
theorem raises_bind_iff (m : Except ε α) (f : α → Except ε β) :
    Raises P (m >>= f) ↔ Raises P m ∨ ∃ a, m = .ok a ∧ Raises P (f a) := by
  cases m with
  | error e => simp [Raises, bind, Except.bind]
  | ok a => simp [Raises, bind, Except.bind]

/-- If the first part raises nothing of the kind, the rest does. -/
theorem raises_bind_iff_of_not {m : Except ε α} (h : ¬ Raises P m) (f : α → Except ε β) :
    Raises P (m >>= f) ↔ ∃ a, m = .ok a ∧ Raises P (f a) := by
  rw [raises_bind_iff, or_iff_right h]

theorem not_raises_bind {m : Except ε α} {f : α → Except ε β} (hm : ¬ Raises P m)
    (hf : ∀ a, m = .ok a → ¬ Raises P (f a)) : ¬ Raises P (m >>= f) := by
  rw [raises_bind_iff_of_not P hm]
  rintro ⟨a, ha, h⟩
  exact hf a ha h

/-- If the rest raises nothing of the kind, the first part does. -/
theorem raises_bind_iff_left {m : Except ε α} {f : α → Except ε β} (h : ∀ a, ¬ Raises P (f a)) :
    Raises P (m >>= f) ↔ Raises P m := by
  rw [raises_bind_iff, or_iff_left]
  rintro ⟨a, -, ha⟩
  exact h a ha

@[simp] theorem raises_bind_pure_iff (m : Except ε α) (f : α → β) :
    Raises P (m >>= fun a => pure (f a)) ↔ Raises P m :=
  raises_bind_iff_left P fun _ => not_raises_ok P _

theorem not_raises_map {m : Except ε α} (h : ¬ Raises P m) (f : α → β) :
    ¬ Raises P (m.map f) := by
  cases m with
  | ok a => exact not_raises_ok P (f a)
  | error e => simpa [Except.map] using h

/-- A traversal raises what the first element that fails raises. -/
theorem raises_mapM_iff (f : α → Except ε β) (xs : List α) :
    Raises P (xs.mapM f) ↔ ∃ before x after, xs = before ++ x :: after ∧
      (∀ y ∈ before, ∃ b, f y = .ok b) ∧ Raises P (f x) := by
  simp only [Raises, mapM_eq_error_iff, FirstFailure]
  constructor
  · rintro ⟨e, ⟨before, x, after, hxs, hok, hx⟩, hP⟩
    exact ⟨before, x, after, hxs, hok, e, hx, hP⟩
  · rintro ⟨before, x, after, hxs, hok, e, hx, hP⟩
    exact ⟨e, ⟨before, x, after, hxs, hok, hx⟩, hP⟩

theorem not_raises_mapM {f : α → Except ε β} {xs : List α} (h : ∀ x ∈ xs, ¬ Raises P (f x)) :
    ¬ Raises P (xs.mapM f) := by
  rw [raises_mapM_iff]
  rintro ⟨before, x, after, rfl, -, hx⟩
  exact h x (by simp) hx

/-- A traversal that fails with errors of the kind only raises one where an element does. -/
theorem raises_mapM_iff_exists {f : α → Except ε β}
    (h : ∀ x, (∃ b, f x = .ok b) ∨ Raises P (f x)) (xs : List α) :
    Raises P (xs.mapM f) ↔ ∃ x ∈ xs, Raises P (f x) := by
  induction xs with
  | nil => simp
  | cons x xs ih =>
    rw [List.mapM_cons, List.exists_mem_cons_iff, ← ih]
    rcases h x with ⟨b, hb⟩ | hx
    · simp only [hb, ok_bind, raises_bind_pure_iff, not_raises_ok, false_or]
    · simp only [raises_bind_iff, hx, true_or]

/-- A traversal with positions raises what the first element that fails raises. -/
theorem raises_zipIdx_mapM_iff (f : α → ℕ → Except ε β) (xs : List α) (start : ℕ) :
    Raises P ((xs.zipIdx start).mapM fun p => f p.1 p.2) ↔ ∃ before x after,
      xs = before ++ x :: after ∧ (∀ p ∈ before.zipIdx start, ∃ b, f p.1 p.2 = .ok b) ∧
        Raises P (f x (start + before.length)) := by
  rw [raises_mapM_iff]
  constructor
  · rintro ⟨before, x, after, hxs, hok, hx⟩
    obtain ⟨before, rest, rfl, rfl, hrest⟩ := List.zipIdx_eq_append_iff.mp hxs
    obtain ⟨y, after, rfl, rfl, rfl⟩ := List.zipIdx_eq_cons_iff.mp hrest.symm
    exact ⟨before, y, after, rfl, hok, hx⟩
  · rintro ⟨before, x, after, rfl, hok, hx⟩
    exact ⟨before.zipIdx start, (x, start + before.length), _, by
      rw [List.zipIdx_append, List.zipIdx_cons], hok, hx⟩

/-- A computation that raises nothing of the kind returns, or raises an error of another kind. -/
theorem not_raises_iff (m : Except ε α) :
    ¬ Raises P m ↔ (∃ a, m = .ok a) ∨ ∃ e, m = .error e ∧ ¬ P e := by
  cases m with
  | ok a => simp
  | error e => simp

end ClassroomSuite.Library
