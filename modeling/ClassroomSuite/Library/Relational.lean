import ClassroomSuite.Library.Hoare

/-!
# Two computations side by side

`Coupled P m m' Q E` says that from states related by `P` the computations `m` and `m'` end the same
way: both return the same value, in states related by `Q`, or both raise the same exception, in
states related by `E`. `Alike R m m'` is the case of a relation that is kept on both ways out. What
a computation does not depend on is said by a relation that leaves it open: `Alike R m m` says that
`m` cannot tell related states apart, and does not make them unrelated.

## Main definitions

* `SameEnd`, `Coupled P m m' Q E`, `Alike R m m'`.

## Main results

* `Coupled.bind`, `Coupled.tryCatch`: the rules of the calculus.
* `Alike.get_bind`: what the two computations read may differ where the relation leaves it open.
* `Alike.mapM`, `Alike.forM`, `Alike.onPart`.
-/

namespace ClassroomSuite.Library

variable {ε ε' σ τ σ' τ' α β : Type}

/-- Two computations have ended the same way, in states as related. -/
inductive SameEnd (Q : α → σ → τ → Prop) (E : ε → σ → τ → Prop) :
    EStateM.Result ε σ α → EStateM.Result ε τ α → Prop
  | ok (a : α) {s : σ} {t : τ} (h : Q a s t) : SameEnd Q E (.ok a s) (.ok a t)
  | error (e : ε) {s : σ} {t : τ} (h : E e s t) : SameEnd Q E (.error e s) (.error e t)

/-- From related states the two computations end the same way. -/
def Coupled (P : σ → τ → Prop) (m : EStateM ε σ α) (m' : EStateM ε τ α) (Q : α → σ → τ → Prop)
    (E : ε → σ → τ → Prop) : Prop :=
  ∀ s t, P s t → SameEnd Q E (m s) (m' t)

/-- From related states the two computations end the same way, in related states. -/
def Alike (R : σ → τ → Prop) (m : EStateM ε σ α) (m' : EStateM ε τ α) : Prop :=
  Coupled R m m' (fun _ => R) (fun _ => R)

variable {P R : σ → τ → Prop} {Q : α → σ → τ → Prop} {E : ε → σ → τ → Prop} {m : EStateM ε σ α}
  {m' : EStateM ε τ α}

/-- How the two computations end. -/
theorem Coupled.ends (h : Coupled P m m' Q E) {s : σ} {t : τ} (hst : P s t) :
    (∃ a s' t', m s = .ok a s' ∧ m' t = .ok a t' ∧ Q a s' t') ∨
      ∃ e s' t', m s = .error e s' ∧ m' t = .error e t' ∧ E e s' t' := by
  have hend := h s t hst
  generalize m s = x at hend ⊢
  generalize m' t = y at hend ⊢
  cases hend with
  | ok a h => exact Or.inl ⟨a, _, _, rfl, rfl, h⟩
  | error e h => exact Or.inr ⟨e, _, _, rfl, rfl, h⟩

/-! ### Rules -/

theorem Coupled.pure {a : α} (h : ∀ s t, P s t → Q a s t) :
    Coupled P (pure a : EStateM ε σ α) (pure a) Q E :=
  fun s t hst => .ok a (h s t hst)

theorem Coupled.throw {e : ε} (h : ∀ s t, P s t → E e s t) :
    Coupled P (throw e : EStateM ε σ α) (throw e) Q E :=
  fun s t hst => .error e (h s t hst)

theorem Coupled.modify {Q : PUnit → σ → τ → Prop} {f : σ → σ} {g : τ → τ}
    (h : ∀ s t, P s t → Q ⟨⟩ (f s) (g t)) :
    Coupled P (modify f : EStateM ε σ PUnit) (modify g) Q E :=
  fun s t hst => SameEnd.ok PUnit.unit (h s t hst)

/-- Sequencing: what follows may use what the common value is known to be. -/
theorem Coupled.bind {S : β → σ → τ → Prop} {k : α → EStateM ε σ β} {k' : α → EStateM ε τ β}
    (hm : Coupled P m m' Q E) (hk : ∀ a, Coupled (Q a) (k a) (k' a) S E) :
    Coupled P (m >>= k) (m' >>= k') S E := by
  intro s t hst
  obtain ⟨a, s', t', hm, hm', hQa⟩ | ⟨e, s', t', hm, hm', hEe⟩ := hm.ends hst
  · rw [bind_apply, bind_apply, hm, hm']
    exact hk a s' t' hQa
  · rw [bind_apply, bind_apply, hm, hm']
    exact .error e hEe

/-- Handling: the handlers are given the same exception. -/
theorem Coupled.tryCatch {E' : ε → σ → τ → Prop} {k : ε → EStateM ε σ α} {k' : ε → EStateM ε τ α}
    (hm : Coupled P m m' Q E') (hk : ∀ e, Coupled (E' e) (k e) (k' e) Q E) :
    Coupled P (tryCatch m k) (tryCatch m' k') Q E := by
  intro s t hst
  obtain ⟨a, s', t', hm, hm', hQa⟩ | ⟨e, s', t', hm, hm', hEe⟩ := hm.ends hst
  · rw [tryCatch_apply, tryCatch_apply, hm, hm']
    exact .ok a hQa
  · rw [tryCatch_apply, tryCatch_apply, hm, hm']
    exact hk e s' t' hEe

/-- Continuing with what the present states are. -/
theorem Coupled.get_bind {k : σ → EStateM ε σ α} {k' : τ → EStateM ε τ α}
    (h : ∀ s t, P s t → Coupled P (k s) (k' t) Q E) : Coupled P (get >>= k) (get >>= k') Q E :=
  fun s t hst => h s t hst s t hst

/-! ### Relations that are kept -/

theorem Alike.pure (a : α) : Alike R (pure a : EStateM ε σ α) (pure a) :=
  Coupled.pure fun _ _ h => h

theorem Alike.throw (e : ε) : Alike R (throw e : EStateM ε σ α) (throw e) :=
  Coupled.throw fun _ _ h => h

theorem Alike.bind {k : α → EStateM ε σ β} {k' : α → EStateM ε τ β} (hm : Alike R m m')
    (hk : ∀ a, Alike R (k a) (k' a)) : Alike R (m >>= k) (m' >>= k') :=
  Coupled.bind hm hk

theorem Alike.tryCatch {k : ε → EStateM ε σ α} {k' : ε → EStateM ε τ α} (hm : Alike R m m')
    (hk : ∀ e, Alike R (k e) (k' e)) : Alike R (tryCatch m k) (tryCatch m' k') :=
  Coupled.tryCatch hm hk

theorem Alike.get_bind {k : σ → EStateM ε σ α} {k' : τ → EStateM ε τ α}
    (h : ∀ s t, R s t → Alike R (k s) (k' t)) : Alike R (get >>= k) (get >>= k') :=
  Coupled.get_bind h

/-- Loops over one list whose bodies are alike are alike. -/
theorem Alike.mapM {f : α → EStateM ε σ β} {g : α → EStateM ε τ β} {xs : List α}
    (h : ∀ x ∈ xs, Alike R (f x) (g x)) : Alike R (xs.mapM f) (xs.mapM g) := by
  induction xs with
  | nil => exact Alike.pure []
  | cons x xs ih =>
    obtain ⟨hx, hxs⟩ := List.forall_mem_cons.mp h
    rw [List.mapM_cons, List.mapM_cons]
    exact hx.bind fun y => (ih hxs).bind fun ys => Alike.pure (y :: ys)

theorem Alike.forM {f : α → EStateM ε σ PUnit} {g : α → EStateM ε τ PUnit} {xs : List α}
    (h : ∀ x ∈ xs, Alike R (f x) (g x)) : Alike R (xs.forM f) (xs.forM g) := by
  induction xs with
  | nil => exact Alike.pure _
  | cons x xs ih =>
    obtain ⟨hx, hxs⟩ := List.forall_mem_cons.mp h
    exact hx.bind fun _ => ih hxs

/-- Computations on parts of the states, whose relation is a part of that of the states. -/
theorem Alike.onPart {view : σ → σ'} {put : σ → σ' → σ} {view' : τ → τ'} {put' : τ → τ' → τ}
    {inj : ε' → ε} {m : EStateM ε' σ' α} {m' : EStateM ε' τ' α} {R' : σ' → τ' → Prop}
    (h : Alike R' m m') (hview : ∀ s t, R s t → R' (view s) (view' t))
    (hput : ∀ s t x y, R s t → R' x y → R (put s x) (put' t y)) :
    Alike R (onPart view put inj m) (onPart view' put' inj m') := by
  intro s t hst
  unfold Library.onPart
  obtain ⟨a, x, y, hm, hm', hR⟩ | ⟨e, x, y, hm, hm', hR⟩ := h.ends (hview s t hst)
  · rw [hm, hm']
    exact .ok a (hput s t x y hst hR)
  · rw [hm, hm']
    exact .error _ (hput s t x y hst hR)

end ClassroomSuite.Library
