import Mathlib.Data.List.Basic

/-!
# Pre- and postconditions of computations with state and exceptions

`EStateM ε σ` models imperative code whose state changes survive an exception: an exception
leaves the state where it was raised, as in a language without transactions. `Hoare P m Q R` says
that from every state satisfying `P` the computation `m` either returns `a` in a state satisfying
`Q a` or raises `e` in a state satisfying `R e`. `Keeps I m` is the case of an invariant, which
must hold on both ways out.

## Main definitions

* `Hoare P m Q R`, `Keeps I m`.
* `onPart`: a computation on a part of the state, run on the whole state.

## Main results

* `Hoare.bind`, `Hoare.tryCatch`, `Hoare.consequence`, `Hoare.onPart`: the rules of the calculus.
* `Keeps.mapM`, `Keeps.forM`: an invariant of a loop body is an invariant of the loop.
-/

namespace ClassroomSuite.Library

variable {ε ε' σ τ α β : Type}

/-! ### Running a computation -/

theorem bind_apply (m : EStateM ε σ α) (k : α → EStateM ε σ β) (s : σ) :
    (m >>= k) s = match m s with
      | .ok a s' => k a s'
      | .error e s' => .error e s' := by
  change EStateM.bind m k s = _
  unfold EStateM.bind
  cases m s <;> rfl

/-- A sequence returns exactly when its first part does and the rest does from where it ended. -/
theorem bind_apply_eq_ok_iff {m : EStateM ε σ α} {k : α → EStateM ε σ β} {s s'' : σ} {b : β} :
    (m >>= k) s = .ok b s'' ↔ ∃ a s', m s = .ok a s' ∧ k a s' = .ok b s'' := by
  rw [bind_apply]
  cases m s <;> simp

theorem tryCatch_apply (m : EStateM ε σ α) (h : ε → EStateM ε σ α) (s : σ) :
    (tryCatch m h) s = match m s with
      | .ok a s' => .ok a s'
      | .error e s' => h e s' := by
  change EStateM.tryCatch m h s = _
  unfold EStateM.tryCatch
  cases hm : m s <;> rfl

@[simp] theorem pure_apply (a : α) (s : σ) : (pure a : EStateM ε σ α) s = .ok a s := rfl

@[simp] theorem throw_apply (e : ε) (s : σ) : (throw e : EStateM ε σ α) s = .error e s := rfl

@[simp] theorem get_apply (s : σ) : (get : EStateM ε σ σ) s = .ok s s := rfl

@[simp] theorem modify_apply (f : σ → σ) (s : σ) :
    (modify f : EStateM ε σ PUnit) s = .ok ⟨⟩ (f s) := rfl

/-- The state a computation ends in, whether it returns or raises. -/
def finalState (m : EStateM ε σ α) (s : σ) : σ :=
  match m s with
  | .ok _ s' => s'
  | .error _ s' => s'

theorem finalState_bind (m : EStateM ε σ α) (k : α → EStateM ε σ β) (s : σ) :
    finalState (m >>= k) s = match m s with
      | .ok a s' => finalState (k a) s'
      | .error _ s' => s' := by
  simp only [finalState, bind_apply]
  cases m s <;> rfl

/-! ### Triples -/

/-- From every state satisfying `P`, the computation `m` returns `a` in a state satisfying `Q a`
or raises `e` in a state satisfying `R e`. -/
def Hoare (P : σ → Prop) (m : EStateM ε σ α) (Q : α → σ → Prop) (R : ε → σ → Prop) : Prop :=
  ∀ s, P s → match m s with
    | .ok a s' => Q a s'
    | .error e s' => R e s'

/-- `I` is an invariant of `m`: it survives a return and an exception. -/
def Keeps (I : σ → Prop) (m : EStateM ε σ α) : Prop :=
  Hoare I m (fun _ => I) (fun _ => I)

variable {P I : σ → Prop} {Q : α → σ → Prop} {R : ε → σ → Prop} {m : EStateM ε σ α}

theorem Hoare.of_ok (h : Hoare P m Q R) {s s' : σ} {a : α} (hs : P s) (hm : m s = .ok a s') :
    Q a s' := by
  have := h s hs
  rwa [hm] at this

theorem Hoare.of_error (h : Hoare P m Q R) {s s' : σ} {e : ε} (hs : P s)
    (hm : m s = .error e s') : R e s' := by
  have := h s hs
  rwa [hm] at this

theorem Hoare.consequence {P' : σ → Prop} {Q' : α → σ → Prop} {R' : ε → σ → Prop}
    (h : Hoare P m Q R) (hP : ∀ s, P' s → P s) (hQ : ∀ a s, Q a s → Q' a s)
    (hR : ∀ e s, R e s → R' e s) : Hoare P' m Q' R' := by
  intro s hs
  cases hm : m s with
  | ok a s' => exact hQ a s' (h.of_ok (hP s hs) hm)
  | error e s' => exact hR e s' (h.of_error (hP s hs) hm)

theorem Hoare.pure {a : α} (h : ∀ s, P s → Q a s) : Hoare P (pure a : EStateM ε σ α) Q R :=
  h

theorem Hoare.throw {e : ε} (h : ∀ s, P s → R e s) : Hoare P (throw e : EStateM ε σ α) Q R :=
  h

theorem Hoare.get {Q : σ → σ → Prop} (h : ∀ s, P s → Q s s) :
    Hoare P (get : EStateM ε σ σ) Q R :=
  h

theorem Hoare.modify {Q : PUnit → σ → Prop} {f : σ → σ} (h : ∀ s, P s → Q ⟨⟩ (f s)) :
    Hoare P (modify f : EStateM ε σ PUnit) Q R :=
  h

/-- Sequencing: the second computation starts where the first one returned. -/
theorem Hoare.bind {S : β → σ → Prop} {k : α → EStateM ε σ β} (hm : Hoare P m Q R)
    (hk : ∀ a, Hoare (Q a) (k a) S R) : Hoare P (m >>= k) S R := by
  intro s hs
  rw [bind_apply]
  cases h : m s with
  | ok a s' => exact hk a s' (hm.of_ok hs h)
  | error e s' => exact hm.of_error hs h

/-- Handling: the handler starts in the state the exception left. -/
theorem Hoare.tryCatch {R' : ε → σ → Prop} {k : ε → EStateM ε σ α} (hm : Hoare P m Q R')
    (hk : ∀ e, Hoare (R' e) (k e) Q R) : Hoare P (tryCatch m k) Q R := by
  intro s hs
  rw [tryCatch_apply]
  cases h : m s with
  | ok a s' => exact hm.of_ok hs h
  | error e s' => exact hk e s' (hm.of_error hs h)

/-! ### Invariants -/

/-- A postcondition of both ways out holds in the final state. -/
theorem Hoare.finalState (h : Hoare P m (fun _ => I) (fun _ => I)) {s : σ} (hs : P s) :
    I (finalState m s) := by
  unfold Library.finalState
  cases hm : m s with
  | ok a s' => exact h.of_ok hs hm
  | error e s' => exact h.of_error hs hm

theorem Keeps.of_pre (h : Keeps I m) (hP : ∀ s, P s → I s) :
    Hoare P m (fun _ => I) (fun _ => I) :=
  fun s hs => h s (hP s hs)

/-- What leaves a part of the state as it is keeps every property of that part. -/
theorem Keeps.of_view {f : σ → β} (h : ∀ b, Keeps (fun s => f s = b) m) (P : β → Prop) :
    Keeps (fun s => P (f s)) m := by
  intro s hs
  cases hm : m s with
  | ok a s' =>
    have hf : f s' = f s := (h (f s)).of_ok rfl hm
    exact (congrArg P hf).mpr hs
  | error e s' =>
    have hf : f s' = f s := (h (f s)).of_error rfl hm
    exact (congrArg P hf).mpr hs

theorem Keeps.pure (a : α) : Keeps I (pure a : EStateM ε σ α) := fun _ hs => hs

theorem Keeps.throw (e : ε) : Keeps I (throw e : EStateM ε σ α) := fun _ hs => hs

theorem Keeps.get : Keeps I (get : EStateM ε σ σ) := fun _ hs => hs

theorem Keeps.bind {k : α → EStateM ε σ β} (hm : Keeps I m) (hk : ∀ a, Keeps I (k a)) :
    Keeps I (m >>= k) :=
  Hoare.bind hm hk

theorem Keeps.tryCatch {k : ε → EStateM ε σ α} (hm : Keeps I m) (hk : ∀ e, Keeps I (k e)) :
    Keeps I (tryCatch m k) :=
  Hoare.tryCatch hm hk

/-- An invariant of the body of a loop over a list is an invariant of the loop. -/
theorem Keeps.mapM {f : α → EStateM ε σ β} (h : ∀ a, Keeps I (f a)) (xs : List α) :
    Keeps I (xs.mapM f) := by
  induction xs with
  | nil => exact Keeps.pure []
  | cons x xs ih =>
    rw [List.mapM_cons]
    exact (h x).bind fun y => ih.bind fun ys => Keeps.pure (y :: ys)

theorem Keeps.forM {f : α → EStateM ε σ PUnit} (h : ∀ a, Keeps I (f a)) (xs : List α) :
    Keeps I (xs.forM f) := by
  induction xs with
  | nil => exact Keeps.pure _
  | cons x xs ih => exact (h x).bind fun _ => ih

/-- What one of the steps of a loop establishes, and all of them keep, holds behind the loop. -/
theorem Hoare.forM_of_mem {f : α → EStateM ε σ PUnit} {xs : List α} {x : α} (hx : x ∈ xs)
    (hestablishes : Hoare (fun _ => True) (f x) (fun _ => I) (fun _ _ => True))
    (hkeeps : ∀ y, Keeps I (f y)) :
    Hoare (fun _ => True) (xs.forM f) (fun _ => I) (fun _ _ => True) := by
  have hrest (ys : List α) : Hoare I (ys.forM f) (fun _ => I) (fun _ _ => True) :=
    (Keeps.forM hkeeps ys).consequence (fun _ hs => hs) (fun _ _ hs => hs) fun _ _ _ => trivial
  induction xs with
  | nil => exact absurd hx List.not_mem_nil
  | cons y xs ih =>
    rcases List.mem_cons.mp hx with rfl | hx
    · exact hestablishes.bind fun _ => hrest xs
    · refine Hoare.bind (Q := fun _ _ => True) (fun s _ => ?_) fun _ => ih hx
      split <;> trivial

/-! ### Computations on a part of the state -/

/-- The computation `m` on the part `view s` of the state `s`, its exceptions read as exceptions
of the whole through `inj`. -/
def onPart (view : σ → τ) (put : σ → τ → σ) (inj : ε' → ε) (m : EStateM ε' τ α) :
    EStateM ε σ α := fun s =>
  match m (view s) with
  | .ok a t => .ok a (put s t)
  | .error e t => .error (inj e) (put s t)

/-- A triple of a computation on a part is a triple of the whole. -/
theorem Hoare.onPart {view : σ → τ} {put : σ → τ → σ} {inj : ε' → ε} {m : EStateM ε' τ α}
    {P' : τ → Prop} {Q' : α → τ → Prop} {R' : ε' → τ → Prop} (h : Hoare P' m Q' R')
    (hP : ∀ s, P s → P' (view s)) (hQ : ∀ s a t, P s → Q' a t → Q a (put s t))
    (hR : ∀ s e t, P s → R' e t → R (inj e) (put s t)) :
    Hoare P (onPart view put inj m) Q R := by
  intro s hs
  unfold Library.onPart
  cases hm : m (view s) with
  | ok a t => exact hQ s a t hs (h.of_ok (hP s hs) hm)
  | error e t => exact hR s e t hs (h.of_error (hP s hs) hm)

end ClassroomSuite.Library
