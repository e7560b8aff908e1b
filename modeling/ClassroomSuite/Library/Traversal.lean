import Mathlib.Data.List.Forall2
import Mathlib.Data.List.Basic

/-!
# First failure of a fallible traversal

`List.mapM` over `Except` visits a list from the left and stops at the first element that fails.
Whether the traversal succeeds, and with which error it fails, is therefore decided by the
elements up to and including that one. The lemmas here say so for an arbitrary element function;
`FirstFailure f xs e` is the relational reading of "the first failing element of `xs` fails
with `e`".

## Main definitions

* `FirstFailure f xs e`: a prefix of `xs` succeeds under `f` and the next element fails with `e`.

## Main results

* `mapM_eq_ok_iff`: a successful traversal is a pointwise successful one.
* `mapM_eq_error_iff`: a failing traversal fails as its first failing element does.
* `exists_mapM_eq_ok_iff`: whether a traversal succeeds.
* `bind_eq_ok_iff`: a successful sequence is one of two successful parts.
* `mapError_eq_ok_iff`, `mapError_eq_error_iff`: translating errors.
* `forall_or_exists_first`, `first_unique`: the first element that lacks a property.
* `map_find?_eq_of_forall₂`, `exists_mem_of_forall₂`, `forall_mem_iff_of_forall₂`: searching two
  lists that are related element by element, and a property of all elements.
* `forall₂_of_zipIdx`, `forall₂_zipIdx`: relations that do not depend on the positions.
* `map_eq_of_mapM_eq_ok`: an observation that the element function leaves alone.
-/

namespace ClassroomSuite.Library

variable {α β ε : Type*}

/-- A sequence succeeds exactly when its first part does and the rest does after it. -/
theorem bind_eq_ok_iff {α β : Type} {m : Except ε α} {f : α → Except ε β} {b : β} :
    m >>= f = .ok b ↔ ∃ a, m = .ok a ∧ f a = .ok b := by
  cases m <;> simp [bind, Except.bind]

theorem mapError_eq_ok_iff {ε ε' α : Type} {x : Except ε α} {f : ε → ε'} {a : α} :
    x.mapError f = .ok a ↔ x = .ok a := by
  cases x <;> simp [Except.mapError]

theorem mapError_eq_error_iff {ε ε' α : Type} {x : Except ε α} {f : ε → ε'} {e : ε'} :
    x.mapError f = .error e ↔ ∃ e', x = .error e' ∧ f e' = e := by
  cases x <;> simp [Except.mapError]

theorem returns_mapError_iff {ε ε' α : Type} {x : Except ε α} {f : ε → ε'} :
    (∃ a, x.mapError f = .ok a) ↔ ∃ a, x = .ok a := by
  simp only [mapError_eq_ok_iff]

theorem toOption_eq_some_iff {m : Except ε α} {a : α} : m.toOption = some a ↔ m = .ok a := by
  cases m <;> simp [Except.toOption]

/-- Whether a computation returns a value with a property is decided by running it. -/
instance decidableReturns (m : Except ε α) (p : α → Prop) [DecidablePred p] :
    Decidable (∃ a, m = .ok a ∧ p a) :=
  match m with
  | .ok a => decidable_of_iff (p a) (by simp)
  | .error _ => .isFalse (by simp)

instance decidableReturnsAny (m : Except ε α) : Decidable (∃ a, m = .ok a) :=
  match m with
  | .ok a => .isTrue ⟨a, rfl⟩
  | .error _ => .isFalse (by simp)

/-- Every element of a list has a property, or there is a first one that has not. -/
theorem forall_or_exists_first (p : α → Prop) (xs : List α) :
    (∀ x ∈ xs, p x) ∨
      ∃ before x after, xs = before ++ x :: after ∧ (∀ y ∈ before, p y) ∧ ¬ p x := by
  induction xs with
  | nil => exact Or.inl fun x hx => absurd hx List.not_mem_nil
  | cons x xs ih =>
    by_cases hx : p x
    · rcases ih with h | ⟨before, y, after, rfl, hbefore, hy⟩
      · exact Or.inl (List.forall_mem_cons.mpr ⟨hx, h⟩)
      · exact Or.inr ⟨x :: before, y, after, rfl, List.forall_mem_cons.mpr ⟨hx, hbefore⟩, hy⟩
    · exact Or.inr ⟨[], x, xs, rfl, fun y hy => absurd hy List.not_mem_nil, hx⟩

/-- The first element that lacks a property is one element. -/
theorem first_unique {p : α → Prop} {before before' after after' : List α} {x x' : α}
    (h : before ++ x :: after = before' ++ x' :: after') (hbefore : ∀ y ∈ before, p y)
    (hx : ¬ p x) (hbefore' : ∀ y ∈ before', p y) (hx' : ¬ p x') : x = x' := by
  induction before generalizing before' with
  | nil =>
    cases before' with
    | nil => exact (List.cons.inj h).1
    | cons y before' => exact absurd ((List.cons.inj h).1 ▸ hbefore' y List.mem_cons_self) hx
  | cons y before ih =>
    cases before' with
    | nil => exact absurd ((List.cons.inj h).1 ▸ hbefore y List.mem_cons_self) hx'
    | cons y' before' =>
      exact ih (List.cons.inj h).2 (List.forall_mem_cons.mp hbefore).2
        (List.forall_mem_cons.mp hbefore').2

/-- A prefix of `xs` succeeds under `f` and the element after it fails with `e`. -/
def FirstFailure (f : α → Except ε β) (xs : List α) (e : ε) : Prop :=
  ∃ before x after, xs = before ++ x :: after ∧ (∀ y ∈ before, ∃ b, f y = .ok b) ∧ f x = .error e

theorem not_firstFailure_nil (f : α → Except ε β) (e : ε) : ¬ FirstFailure f [] e := by
  rintro ⟨before, x, after, h, -⟩
  simp at h

/-- The first failure of `x :: xs` is at `x`, or `x` succeeds and it is the one of `xs`. -/
theorem firstFailure_cons_iff (f : α → Except ε β) (x : α) (xs : List α) (e : ε) :
    FirstFailure f (x :: xs) e ↔ f x = .error e ∨ (∃ b, f x = .ok b) ∧ FirstFailure f xs e := by
  constructor
  · rintro ⟨before, y, after, h, hok, herr⟩
    cases before with
    | nil =>
      obtain ⟨rfl, -⟩ := List.cons.inj h
      exact Or.inl herr
    | cons z before =>
      obtain ⟨rfl, hxs⟩ := List.cons.inj h
      exact Or.inr ⟨hok x List.mem_cons_self,
        before, y, after, hxs, fun w hw => hok w (List.mem_cons_of_mem _ hw), herr⟩
  · rintro (herr | ⟨hx, before, y, after, rfl, hok, herr⟩)
    · exact ⟨[], x, xs, rfl, by simp, herr⟩
    · refine ⟨x :: before, y, after, rfl, fun w hw => ?_, herr⟩
      rcases List.mem_cons.mp hw with rfl | hw
      · exact hx
      · exact hok w hw

/-- A traversal succeeds exactly with pointwise successful results. -/
theorem mapM_eq_ok_iff (f : α → Except ε β) (xs : List α) (ys : List β) :
    xs.mapM f = .ok ys ↔ List.Forall₂ (fun x y => f x = .ok y) xs ys := by
  induction xs generalizing ys with
  | nil => simp [pure, Except.pure, eq_comm]
  | cons x xs ih =>
    rw [List.mapM_cons, List.forall₂_cons_left_iff]
    simp only [← ih]
    cases hx : f x with
    | error e => simp [bind, Except.bind]
    | ok y => cases hxs : xs.mapM f <;> simp [bind, Except.bind, pure, Except.pure, eq_comm]

/-- A traversal succeeds when the element function does on every element. -/
theorem exists_mapM_eq_ok_iff (f : α → Except ε β) (xs : List α) :
    (∃ ys, xs.mapM f = .ok ys) ↔ ∀ x ∈ xs, ∃ y, f x = .ok y := by
  simp only [mapM_eq_ok_iff]
  induction xs with
  | nil => simp
  | cons x xs ih =>
    rw [List.forall_mem_cons, ← ih]
    simp only [List.forall₂_cons_left_iff]
    exact ⟨fun ⟨_, y, ys, hy, hys, _⟩ => ⟨⟨y, hy⟩, ys, hys⟩,
      fun ⟨⟨y, hy⟩, ys, hys⟩ => ⟨_, y, ys, hy, hys, rfl⟩⟩

/-- A traversal fails with `e` exactly when its first failing element does. -/
theorem mapM_eq_error_iff (f : α → Except ε β) (xs : List α) (e : ε) :
    xs.mapM f = .error e ↔ FirstFailure f xs e := by
  induction xs with
  | nil => simp [pure, Except.pure, not_firstFailure_nil]
  | cons x xs ih =>
    rw [List.mapM_cons, firstFailure_cons_iff, ← ih]
    cases hx : f x with
    | error e' => simp [bind, Except.bind]
    | ok y => cases hxs : xs.mapM f <;> simp [bind, Except.bind, pure, Except.pure]

/-- What is related to the elements with their positions is related to the elements. -/
theorem forall₂_of_zipIdx {R : α × ℕ → β → Prop} {xs : List α} {ys : List β} {start : ℕ}
    (h : List.Forall₂ R (xs.zipIdx start) ys) :
    List.Forall₂ (fun x y => ∃ n, R (x, n) y) xs ys := by
  rw [← List.zipIdx_map_fst start xs, List.forall₂_map_left_iff]
  exact h.imp fun p y hp => ⟨p.2, hp⟩

/-- What is related to the elements at any position is related to them with theirs. -/
theorem forall₂_zipIdx {R : α × ℕ → β → Prop} {xs : List α} {ys : List β}
    (h : List.Forall₂ (fun x y => ∀ n, R (x, n) y) xs ys) (start : ℕ) :
    List.Forall₂ R (xs.zipIdx start) ys := by
  induction h generalizing start with
  | nil => exact .nil
  | cons hxy _ ih => exact .cons (hxy start) (ih (start + 1))

/-- Lists that are related through a third one are related element by element. -/
theorem forall₂_trans {γ : Type*} {R : α → β → Prop} {S : β → γ → Prop} {T : α → γ → Prop}
    {xs : List α} {ys : List β} {zs : List γ} (hxy : List.Forall₂ R xs ys)
    (hyz : List.Forall₂ S ys zs) (h : ∀ x y z, R x y → S y z → T x z) : List.Forall₂ T xs zs := by
  induction hxy generalizing zs with
  | nil =>
    cases hyz with
    | nil => exact .nil
  | cons hR _ ih =>
    cases hyz with
    | cons hS hrest => exact .cons (h _ _ _ hR hS) (ih hrest)

/-- A property and an observation on which related elements agree: the first elements of related
lists that have the one agree on the other. -/
theorem map_find?_eq_of_forall₂ {γ : Type*} {R : α → β → Prop} {p : α → Bool} {q : β → Bool}
    {f : α → γ} {g : β → γ} {xs : List α} {ys : List β} (h : List.Forall₂ R xs ys)
    (hpq : ∀ x y, R x y → p x = q y) (hfg : ∀ x y, R x y → f x = g y) :
    (xs.find? p).map f = (ys.find? q).map g := by
  induction h with
  | nil => rfl
  | @cons x y xs ys hxy _ ih =>
    rw [List.find?_cons, List.find?_cons, ← hpq x y hxy]
    cases p x with
    | true => exact congrArg some (hfg x y hxy)
    | false => exact ih

/-- Every element of the one list is related to one of the other. -/
theorem exists_mem_of_forall₂ {R : α → β → Prop} {xs : List α} {ys : List β}
    (h : List.Forall₂ R xs ys) {x : α} (hx : x ∈ xs) : ∃ y ∈ ys, R x y := by
  induction h with
  | nil => exact absurd hx List.not_mem_nil
  | cons hR _ ih =>
    rcases List.mem_cons.mp hx with rfl | hx
    · exact ⟨_, List.mem_cons_self, hR⟩
    · obtain ⟨y, hy, hxy⟩ := ih hx
      exact ⟨y, List.mem_cons_of_mem _ hy, hxy⟩

/-- Related elements have corresponding properties, so that all of the one list have theirs if all
of the other do. -/
theorem forall_mem_iff_of_forall₂ {R : α → β → Prop} {P : α → Prop} {Q : β → Prop} {xs : List α}
    {ys : List β} (h : List.Forall₂ R xs ys) (hPQ : ∀ x y, R x y → (P x ↔ Q y)) :
    (∀ x ∈ xs, P x) ↔ ∀ y ∈ ys, Q y := by
  induction h with
  | nil => simp
  | cons hR _ ih => rw [List.forall_mem_cons, List.forall_mem_cons, hPQ _ _ hR, ih]

/-- What the element function does not change is the same in the results. -/
theorem map_eq_of_mapM_eq_ok {γ : Type*} {f : α → Except ε α} (observe : α → γ)
    (h : ∀ x y, f x = .ok y → observe y = observe x) {xs ys : List α} (hys : xs.mapM f = .ok ys) :
    ys.map observe = xs.map observe := by
  have hall := (mapM_eq_ok_iff f xs ys).mp hys
  induction hall with
  | nil => rfl
  | cons hxy hall ih =>
    rw [List.map_cons, List.map_cons, h _ _ hxy, ih ((mapM_eq_ok_iff _ _ _).mpr hall)]

/-- A traversal of written elements that reads each of them, whatever its position. -/
theorem mapM_zipIdx_map_eq_ok {γ : Type*} {write : α → β} {read : β → ℕ → Except ε γ}
    {result : α → γ} {xs : List α} (h : ∀ x ∈ xs, ∀ i, read (write x) i = .ok (result x)) (n : ℕ) :
    ((xs.map write).zipIdx n).mapM (fun p => read p.1 p.2) = .ok (xs.map result) := by
  induction xs generalizing n with
  | nil => rfl
  | cons x xs ih =>
    obtain ⟨hx, hxs⟩ := List.forall_mem_cons.mp h
    rw [List.map_cons, List.zipIdx_cons, List.mapM_cons, hx n, ih hxs]
    rfl

/-- A traversal of written elements that reads each of them. -/
theorem mapM_map_eq_ok {γ : Type*} {write : α → β} {read : β → Except ε γ} {result : α → γ}
    {xs : List α} (h : ∀ x ∈ xs, read (write x) = .ok (result x)) :
    (xs.map write).mapM read = .ok (xs.map result) := by
  induction xs with
  | nil => rfl
  | cons x xs ih =>
    obtain ⟨hx, hxs⟩ := List.forall_mem_cons.mp h
    rw [List.map_cons, List.mapM_cons, hx, ih hxs]
    rfl

/-- A fold whose steps succeed on an element whatever the state succeeds when they do on every
element. -/
theorem exists_foldlM_eq_ok_iff {f : β → α → Except ε β} {p : α → Prop}
    (h : ∀ b a, (∃ c, f b a = .ok c) ↔ p a) (xs : List α) (b : β) :
    (∃ c, xs.foldlM f b = .ok c) ↔ ∀ a ∈ xs, p a := by
  induction xs generalizing b with
  | nil => simp [pure, Except.pure]
  | cons a xs ih =>
    rw [List.foldlM_cons, List.forall_mem_cons, ← h b a]
    cases hstep : f b a with
    | error e => simp [bind, Except.bind]
    | ok c => simpa [bind, Except.bind] using ih c

/-- Every element before which all have the property `p` has the property `q`: what a search needs
that goes on as long as `p` holds. -/
def HoldsWhile (p q : α → Prop) (xs : List α) : Prop :=
  ∀ before x after, xs = before ++ x :: after → (∀ y ∈ before, p y) → q x

theorem holdsWhile_nil (p q : α → Prop) : HoldsWhile p q [] := by
  intro before x after h
  simp at h

theorem holdsWhile_cons_iff {p q : α → Prop} {x : α} {xs : List α} :
    HoldsWhile p q (x :: xs) ↔ q x ∧ (p x → HoldsWhile p q xs) := by
  constructor
  · intro h
    refine ⟨h [] x xs rfl fun y hy => absurd hy List.not_mem_nil,
      fun hx before y after hxs hp => ?_⟩
    exact h (x :: before) y after (by rw [hxs, List.cons_append])
      (List.forall_mem_cons.mpr ⟨hx, hp⟩)
  · rintro ⟨hx, hxs⟩ before y after h hp
    cases before with
    | nil => exact (List.cons.inj h).1 ▸ hx
    | cons z before =>
      obtain ⟨rfl, htail⟩ := List.cons.inj h
      obtain ⟨hpx, hbefore⟩ := List.forall_mem_cons.mp hp
      exact hxs hpx before y after htail hbefore

end ClassroomSuite.Library
