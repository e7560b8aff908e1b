import Mathlib.Data.List.Basic
import ClassroomSuite.Library.Hoare

/-!
# Computations that log what they ask for

A computation that asks its surroundings for answers can log what it asks for, in a part of the
state that nothing else looks at. `Logs requests m c` says that `m` does what `c` does, which has no
log, and that it asks for nothing but `requests`, in their order and none of them twice. Where `c`
is a value or an exception that does not depend on the state, this is `Answers`.

## Main definitions

* `Logged`, `logRequest`, `unlogged`, `answered`, `onOutcome`: computations with a log.
* `Logs`, `Answers`.

## Main results

* `Logs.bind`, `Answers.bind`, `Answers.mapM`, `Answers.onOutcome`: the rules.
-/

namespace ClassroomSuite.Library

variable {ε ε' σ τ Q α β : Type}

/-- A computation with a log behind its state. -/
abbrev Logged (ε σ Q α : Type) := EStateM ε (σ × List Q) α

/-- Log what is asked for. -/
def logRequest (q : Q) : Logged ε σ Q Unit := modify fun s => (s.1, s.2 ++ [q])

/-- A computation that asks for nothing. -/
def unlogged (c : EStateM ε σ α) : Logged ε σ Q α := onPart Prod.fst (fun s t => (t, s.2)) id c

/-- A value or an exception, whatever the state. -/
def ofExcept : Except ε α → EStateM ε σ α
  | .ok a => pure a
  | .error e => throw e

/-- A value or an exception for which nothing is asked. -/
def answered (r : Except ε α) : Logged ε σ Q α := ofExcept r

/-- What is made of the outcome of a computation. -/
def onOutcome (m : Logged ε σ Q α) (f : Except ε α → Except ε' β) : Logged ε' σ Q β := fun s =>
  match m s with
  | .ok a s' => answered (f (.ok a)) s'
  | .error e s' => answered (f (.error e)) s'

/-- The outcome of a computation, with a log behind its state. -/
def withLog (log : List Q) : EStateM.Result ε σ α → EStateM.Result ε (σ × List Q) α
  | .ok a s => .ok a (s, log)
  | .error e s => .error e (s, log)

/-- The computation does what `c` does, and asks for some of the requests, in their order. -/
def Logs (requests : List Q) (m : Logged ε σ Q α) (c : EStateM ε σ α) : Prop :=
  ∀ s log, ∃ asked, asked.Sublist requests ∧ m (s, log) = withLog (log ++ asked) (c s)

/-- The computation returns or raises what `r` says, and asks for some of the requests, in their
order. -/
def Answers (σ : Type) (requests : List Q) (m : Logged ε σ Q α) (r : Except ε α) : Prop :=
  Logs requests m (ofExcept r)

/-! ### The rules -/

theorem Logs.mono {requests requests' : List Q} {m : Logged ε σ Q α} {c : EStateM ε σ α}
    (h : Logs requests m c) (hsub : requests.Sublist requests') : Logs requests' m c := by
  intro s log
  obtain ⟨asked, hasked, hm⟩ := h s log
  exact ⟨asked, hasked.trans hsub, hm⟩

theorem logs_unlogged (c : EStateM ε σ α) : Logs [] (unlogged c : Logged ε σ Q α) c := by
  intro s log
  refine ⟨[], List.nil_sublist _, ?_⟩
  rw [unlogged, onPart, List.append_nil]
  cases c s <;> rfl

theorem logs_throw (e : ε) : Logs [] (throw e : Logged ε σ Q α) (throw e) := fun s log =>
  ⟨[], List.nil_sublist _, by rw [List.append_nil]; rfl⟩

theorem logs_pure (a : α) : Logs [] (pure a : Logged ε σ Q α) (pure a) := fun s log =>
  ⟨[], List.nil_sublist _, by rw [List.append_nil]; rfl⟩

/-- One computation after the other asks for what the two ask for. -/
theorem Logs.bind {requests requests' : List Q} {m : Logged ε σ Q α} {c : EStateM ε σ α}
    {k : α → Logged ε σ Q β} {f : α → EStateM ε σ β} (hm : Logs requests m c)
    (hk : ∀ a, Logs requests' (k a) (f a)) :
    Logs (requests ++ requests') (m >>= k) (c >>= f) := by
  intro s log
  obtain ⟨asked, hasked, hm⟩ := hm s log
  cases hc : c s with
  | ok a s' =>
    obtain ⟨asked', hasked', hk⟩ := hk a s' (log ++ asked)
    refine ⟨asked ++ asked', hasked.append hasked', ?_⟩
    rw [bind_apply, bind_apply, hm, hc]
    exact hk.trans (by rw [List.append_assoc])
  | error e s' =>
    refine ⟨asked, hasked.trans (List.sublist_append_left _ _), ?_⟩
    rw [bind_apply, bind_apply, hm, hc]
    rfl

theorem answers_answered (r : Except ε α) : Answers σ [] (answered r : Logged ε σ Q α) r := by
  cases r with
  | ok a => exact logs_pure a
  | error e => exact logs_throw e

theorem Answers.bind {requests requests' : List Q} {m : Logged ε σ Q α} {r : Except ε α}
    {k : α → Logged ε σ Q β} {f : α → Except ε β} (hm : Answers σ requests m r)
    (hk : ∀ a, Answers σ requests' (k a) (f a)) :
    Answers σ (requests ++ requests') (m >>= k) (r >>= f) := by
  have h := Logs.bind hm hk
  cases r with
  | ok a => exact h
  | error e => exact h

/-- What is made of an outcome asks for what led to it. -/
theorem Answers.onOutcome {requests : List Q} {m : Logged ε σ Q α} {r : Except ε α}
    (h : Answers σ requests m r) (f : Except ε α → Except ε' β) :
    Answers σ requests (onOutcome m f) (f r) := by
  intro s log
  obtain ⟨asked, hasked, hm⟩ := h s log
  refine ⟨asked, hasked, ?_⟩
  rw [Library.onOutcome, hm]
  cases r with
  | ok a =>
    change answered (f (.ok a)) (s, log ++ asked) = withLog (log ++ asked) (ofExcept (f (.ok a)) s)
    cases f (.ok a) <;> rfl
  | error e =>
    change answered (f (.error e)) (s, log ++ asked) =
      withLog (log ++ asked) (ofExcept (f (.error e)) s)
    cases f (.error e) <;> rfl

/-- A loop asks for what its rounds ask for. -/
theorem Answers.mapM {γ : Type} {requests : γ → List Q} {f : γ → Logged ε σ Q α}
    {g : γ → Except ε α} {xs : List γ} (h : ∀ x ∈ xs, Answers σ (requests x) (f x) (g x)) :
    Answers σ (xs.flatMap requests) (xs.mapM f) (xs.mapM g) := by
  induction xs with
  | nil => exact answers_answered (.ok [])
  | cons x xs ih =>
    obtain ⟨hx, hxs⟩ := List.forall_mem_cons.mp h
    rw [List.mapM_cons, List.mapM_cons, List.flatMap_cons]
    refine hx.bind fun a => ?_
    have hrest := (ih hxs).bind fun as => answers_answered (.ok (a :: as))
    rwa [List.append_nil] at hrest

end ClassroomSuite.Library
