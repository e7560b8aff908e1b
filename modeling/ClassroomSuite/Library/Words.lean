import Mathlib.Data.List.DropRight

/-!
# Words

The words of a list are its maximal runs without separators. A list can be split into its first
words and what follows them, which may contain separators and is kept as it is.

## Main definitions

* `strip`, `Trimmed`, `words`.
* `splitWords p n`: the first `n` words, and what follows them.
* `afterWords p n`: what follows the first `n` words.
* `takeRun`: the run that a list begins with.

## Main results

* `words_append_cons`, `words_of_head`, `mem_words`, `words_strip`.
* `splitWords_eq`, `words_afterWords`, `afterWords_afterWords`, `afterWords_eq_nil_iff`.
* `words_append`, `afterWords_append`: a word followed by separators.
* `strip_append`, `trimmed_strip`, `strip_eq_nil_iff`: what is stripped.
* `dropPrefix?_eq_some_iff`, `takeRun_eq_some_iff`.
-/

namespace ClassroomSuite.Library

variable {α : Type} (p : α → Bool)

/-- A list without the separators at its ends. -/
def strip (cs : List α) : List α := (cs.dropWhile p).rdropWhile p

/-- There is no separator at either end. -/
def Trimmed (cs : List α) : Prop :=
  (∀ c ∈ cs.head?, p c = false) ∧ ∀ c ∈ cs.getLast?, p c = false

/-- The maximal runs without separators. -/
def words (cs : List α) : List (List α) := (cs.splitOnP p).filter fun w => !w.isEmpty

/-- The elements at the beginning that have the property, if there are any, and what follows
them. -/
def takeRun (cs : List α) : Option (List α × List α) :=
  if (cs.takeWhile p).isEmpty then none else some (cs.takeWhile p, cs.dropWhile p)

/-- The first `n` words and, if anything does, what follows them. -/
def splitWords : ℕ → List α → List (List α)
  | 0, cs => if (cs.dropWhile p).isEmpty then [] else [cs.dropWhile p]
  | n + 1, cs =>
    if (cs.dropWhile p).isEmpty then []
    else (cs.dropWhile p).takeWhile (!p ·) ::
      splitWords n ((cs.dropWhile p).dropWhile (!p ·))

/-- What follows the first `n` words. -/
def afterWords : ℕ → List α → List α
  | 0, cs => cs.dropWhile p
  | n + 1, cs => afterWords n ((cs.dropWhile p).dropWhile (!p ·))

variable {p} {cs : List α}

/-- What is left begins with no separator. -/
theorem head_dropWhile {c : α} {rest : List α} (h : cs.dropWhile p = c :: rest) : p c = false := by
  have hhead := List.head?_dropWhile_not p cs
  rw [h] at hhead
  simpa using hhead

/-! ### Words -/

@[simp] theorem words_nil : words p [] = [] := by simp [words, List.splitOnP_nil]

/-- A separator ends a word. -/
theorem words_append_cons {c : α} (hc : p c = true) (xs ys : List α) :
    words p (xs ++ c :: ys) = words p xs ++ words p ys := by
  rw [words, List.splitOnP_append_cons xs ys hc, List.filter_append]
  rfl

theorem words_cons {c : α} (hc : p c = true) (cs : List α) : words p (c :: cs) = words p cs := by
  simpa using words_append_cons hc [] cs

theorem words_dropWhile (cs : List α) : words p (cs.dropWhile p) = words p cs := by
  induction cs with
  | nil => rfl
  | cons c cs ih =>
    cases hc : p c with
    | true => rw [List.dropWhile_cons_of_pos hc, ih, words_cons hc]
    | false => rw [List.dropWhile_cons_of_neg (by simp [hc])]

/-- A list of separators has no words. -/
theorem words_eq_nil_of_forall (h : ∀ c ∈ cs, p c = true) : words p cs = [] := by
  rw [← words_dropWhile, List.dropWhile_eq_nil_iff.mpr h, words_nil]

/-- A run without separators is one word. -/
theorem words_singleton {w : List α} (hne : w ≠ []) (h : ∀ c ∈ w, p c = false) :
    words p w = [w] := by
  rw [words, List.splitOnP_eq_singleton h]
  simp [hne]

theorem words_append_of_forall {xs ys : List α} (h : ∀ c ∈ ys, p c = true) :
    words p (xs ++ ys) = words p xs := by
  cases ys with
  | nil => rw [List.append_nil]
  | cons c ys =>
    obtain ⟨hc, hys⟩ := List.forall_mem_cons.mp h
    rw [words_append_cons hc, words_eq_nil_of_forall hys, List.append_nil]

theorem forall_mem_splitOnP {w : List α} (h : w ∈ cs.splitOnP p) : ∀ c ∈ w, p c = false := by
  induction cs generalizing w with
  | nil =>
    obtain rfl := List.mem_singleton.mp (List.splitOnP_nil (p := p) ▸ h)
    exact List.forall_mem_nil _
  | cons c cs ih =>
    rw [List.splitOnP_cons_eq_if_modifyHead] at h
    split_ifs at h with hc
    · rcases List.mem_cons.mp h with rfl | h
      · exact List.forall_mem_nil _
      · exact ih h
    · cases hsplit : cs.splitOnP p with
      | nil => exact absurd hsplit (List.splitOnP_ne_nil p cs)
      | cons run runs =>
        rw [hsplit] at h ih
        rcases List.mem_cons.mp h with rfl | h
        · exact List.forall_mem_cons.mpr
            ⟨Bool.not_eq_true _ ▸ hc, ih List.mem_cons_self⟩
        · exact ih (List.mem_cons_of_mem run h)

/-- A word is not empty and has no separator. -/
theorem mem_words {w : List α} (h : w ∈ words p cs) : w ≠ [] ∧ ∀ c ∈ w, p c = false := by
  obtain ⟨hmem, hne⟩ := List.mem_filter.mp h
  exact ⟨by simpa using hne, forall_mem_splitOnP hmem⟩

/-- What is stripped is in no word. -/
theorem words_strip (cs : List α) : words p (strip p cs) = words p cs := by
  have happ : strip p cs ++ (cs.dropWhile p).rtakeWhile p = cs.dropWhile p :=
    List.rdropWhile_append_rtakeWhile
  have hspaces : ∀ c ∈ (cs.dropWhile p).rtakeWhile p, p c = true :=
    fun _ hc => List.mem_rtakeWhile_imp hc
  rw [← words_dropWhile cs, ← happ, words_append_of_forall hspaces]

/-- A list that begins with no separator begins with a word. -/
theorem words_of_head {c : α} (hc : p c = false) (cs : List α) :
    words p (c :: cs) = (c :: cs).takeWhile (!p ·) :: words p ((c :: cs).dropWhile (!p ·)) := by
  have hword : words p ((c :: cs).takeWhile (!p ·)) = [(c :: cs).takeWhile (!p ·)] := by
    refine words_singleton (by simp [hc]) fun d hd => ?_
    simpa using List.mem_takeWhile_imp hd
  conv_lhs => rw [← List.takeWhile_append_dropWhile (p := (!p ·)) (l := c :: cs)]
  cases hrest : (c :: cs).dropWhile (!p ·) with
  | nil => rw [List.append_nil, hword, words_nil]
  | cons d rest =>
    have hd : p d = true := by simpa using head_dropWhile hrest
    rw [words_append_cons hd, hword, words_cons hd]
    rfl

/-- There are no words exactly where everything is a separator. -/
theorem words_eq_nil_iff : words p cs = [] ↔ cs.dropWhile p = [] := by
  rw [← words_dropWhile]
  cases hrest : cs.dropWhile p with
  | nil => simp
  | cons c rest => simp [words_of_head (head_dropWhile hrest)]

/-! ### Splitting -/

/-- Dropping words drops them from the words. -/
theorem words_afterWords (n : ℕ) (cs : List α) :
    words p (afterWords p n cs) = (words p cs).drop n := by
  induction n generalizing cs with
  | zero => rw [afterWords, words_dropWhile, List.drop_zero]
  | succ n ih =>
    rw [afterWords, ih, ← words_dropWhile cs]
    cases hrest : cs.dropWhile p with
    | nil => simp
    | cons c rest => rw [words_of_head (head_dropWhile hrest), List.drop_succ_cons]

theorem dropWhile_afterWords (n : ℕ) (cs : List α) :
    (afterWords p n cs).dropWhile p = afterWords p n cs := by
  induction n generalizing cs with
  | zero => exact List.dropWhile_idempotent p cs
  | succ n ih => exact ih _

/-- Something follows the first `n` words exactly if there are more words. -/
theorem afterWords_eq_nil_iff {n : ℕ} : afterWords p n cs = [] ↔ (words p cs).length ≤ n := by
  rw [← dropWhile_afterWords, ← words_eq_nil_iff, words_afterWords, List.drop_eq_nil_iff]

theorem afterWords_afterWords (m n : ℕ) (cs : List α) :
    afterWords p m (afterWords p n cs) = afterWords p (n + m) cs := by
  induction n generalizing cs with
  | zero =>
    rw [afterWords, Nat.zero_add]
    cases m with
    | zero => exact List.dropWhile_idempotent p cs
    | succ m => rw [afterWords, afterWords, List.dropWhile_idempotent]
  | succ n ih => rw [afterWords, ih, Nat.succ_add, afterWords]

/-- A split has the first words and, if anything does, what follows them. -/
theorem splitWords_eq (n : ℕ) (cs : List α) :
    splitWords p n cs = (words p cs).take n ++
      if (afterWords p n cs).isEmpty then [] else [afterWords p n cs] := by
  induction n generalizing cs with
  | zero => rw [splitWords, afterWords, List.take_zero, List.nil_append]
  | succ n ih =>
    rw [splitWords, afterWords, ih, ← words_dropWhile cs]
    cases hrest : cs.dropWhile p with
    | nil =>
      have hafter : afterWords p n ([] : List α) = [] := by simp [afterWords_eq_nil_iff]
      simp [hafter]
    | cons c rest =>
      rw [words_of_head (head_dropWhile hrest), List.take_succ_cons, List.cons_append]
      rfl

/-! ### A word and what follows it -/

/-- A word that separators follow, and the rest. -/
theorem words_append {w gap : List α} (hne : w ≠ []) (hw : ∀ c ∈ w, p c = false) (hgap : gap ≠ [])
    (hsep : ∀ c ∈ gap, p c = true) (rest : List α) :
    words p (w ++ (gap ++ rest)) = w :: words p rest := by
  obtain ⟨c, gap, rfl⟩ := List.exists_cons_of_ne_nil hgap
  have hrest : words p (gap ++ rest) = words p rest := by
    rw [← words_dropWhile (gap ++ rest),
      List.dropWhile_append_of_pos (List.forall_mem_cons.mp hsep).2, words_dropWhile]
  rw [List.cons_append, words_append_cons (hsep c List.mem_cons_self), words_singleton hne hw,
    hrest, List.singleton_append]

theorem afterWords_append {w gap : List α} (hne : w ≠ []) (hw : ∀ c ∈ w, p c = false)
    (hgap : gap ≠ []) (hsep : ∀ c ∈ gap, p c = true) (n : ℕ) (rest : List α) :
    afterWords p (n + 1) (w ++ (gap ++ rest)) = afterWords p n rest := by
  obtain ⟨c, w, rfl⟩ := List.exists_cons_of_ne_nil hne
  obtain ⟨d, gap, rfl⟩ := List.exists_cons_of_ne_nil hgap
  have hword : ((c :: w) ++ (d :: gap ++ rest)).dropWhile p = (c :: w) ++ (d :: gap ++ rest) :=
    List.dropWhile_cons_of_neg (by simp [hw c List.mem_cons_self])
  have hdrop : ((c :: w) ++ (d :: gap ++ rest)).dropWhile (!p ·) = d :: gap ++ rest := by
    rw [List.dropWhile_append_of_pos fun x hx => by simp [hw x hx]]
    exact List.dropWhile_cons_of_neg (by simp [hsep d List.mem_cons_self])
  rw [afterWords, hword, hdrop]
  cases n with
  | zero => rw [afterWords, afterWords, List.dropWhile_append_of_pos hsep]
  | succ n => rw [afterWords, afterWords, List.dropWhile_append_of_pos hsep]

/-! ### What is stripped -/

theorem dropWhile_of_head {cs : List α} (h : ∀ c ∈ cs.head?, p c = false) :
    cs.dropWhile p = cs := by
  cases cs with
  | nil => rfl
  | cons c cs => exact List.dropWhile_cons_of_neg (by simp [h c rfl])

/-- Separators in front are stripped, and nothing else where there is none at an end. -/
theorem strip_append {gap rest : List α} (hgap : ∀ c ∈ gap, p c = true) (h : Trimmed p rest) :
    strip p (gap ++ rest) = rest := by
  rw [strip, List.dropWhile_append_of_pos hgap, dropWhile_of_head h.1,
    List.rdropWhile_eq_self_iff]
  exact fun hne hlast => by simp [h.2 _ (List.getLast?_eq_getLast_of_ne_nil hne)] at hlast

/-- That no element is a separator is decided by evaluation. -/
theorem forall_not_of_all (h : cs.all (!p ·) = true) : ∀ c ∈ cs, p c = false := by
  simpa using h

theorem trimmed_of_all (hhead : cs.head?.all (!p ·) = true)
    (hlast : cs.getLast?.all (!p ·) = true) : Trimmed p cs := by
  simp only [Option.all_eq_true, Bool.not_eq_true'] at hhead hlast
  exact ⟨hhead, hlast⟩

theorem trimmed_of_forall (h : ∀ c ∈ cs, p c = false) : Trimmed p cs :=
  ⟨fun c hc => h c (List.mem_of_mem_head? hc), fun c hc => h c (List.mem_of_mem_getLast? hc)⟩

theorem Trimmed.strip_eq (h : Trimmed p cs) : strip p cs = cs := by
  have hnil : ∀ c ∈ ([] : List α), p c = true := nofun
  exact strip_append hnil h

/-- So are separators at the end. -/
theorem strip_append_right {gap : List α} (hgap : ∀ c ∈ gap, p c = true) (h : Trimmed p cs) :
    strip p (cs ++ gap) = cs := by
  by_cases hne : cs = []
  · rw [hne, List.nil_append, strip, List.dropWhile_eq_nil_iff.mpr hgap, List.rdropWhile_nil]
  · have hhead : (cs ++ gap).dropWhile p = cs ++ gap := by
      refine dropWhile_of_head fun c hc => h.1 c ?_
      rwa [List.head?_append_of_ne_nil _ hne] at hc
    have hself := h.strip_eq
    rw [strip, dropWhile_of_head h.1, List.rdropWhile] at hself
    rw [strip, hhead, List.rdropWhile, List.reverse_append,
      List.dropWhile_append_of_pos (by simpa using hgap), hself]

/-- What has been stripped has no separator at an end. -/
theorem trimmed_strip (cs : List α) : Trimmed p (strip p cs) := by
  constructor
  · intro c hc
    obtain ⟨rest, hrest⟩ : strip p cs <+: cs.dropWhile p := List.rdropWhile_prefix p _
    cases hstrip : strip p cs with
    | nil => simp [hstrip] at hc
    | cons d ds =>
      rw [hstrip] at hc hrest
      obtain rfl : d = c := by simpa using hc
      exact head_dropWhile hrest.symm
  · intro c hc
    have hne : strip p cs ≠ [] := by
      intro hnil
      simp [hnil] at hc
    rw [List.getLast?_eq_getLast_of_ne_nil hne] at hc
    obtain rfl : (strip p cs).getLast hne = c := by simpa using hc
    exact Bool.not_eq_true _ ▸ List.rdropWhile_last_not p _ hne

/-- Nothing is left where there are no words. -/
theorem strip_eq_nil_iff : strip p cs = [] ↔ words p cs = [] := by
  rw [← words_strip, words_eq_nil_iff, dropWhile_of_head (trimmed_strip cs).1]

/-- Where there is no separator at the ends of the first and the last of three parts, there is none
at those of the whole. -/
theorem Trimmed.append {first last : List α} (hfirst : Trimmed p first) (hlast : Trimmed p last)
    (hne : first ≠ []) (hne' : last ≠ []) (mid : List α) :
    Trimmed p (first ++ (mid ++ last)) := by
  constructor
  · intro c hc
    exact hfirst.1 c (by rwa [List.head?_append_of_ne_nil _ hne] at hc)
  · intro c hc
    rw [List.getLast?_append_of_ne_nil _ (by simp [hne']),
      List.getLast?_append_of_ne_nil _ hne'] at hc
    exact hlast.2 c hc

/-- What holds of all elements of the parts holds of those of the whole. -/
theorem forall_mem_intercalate {P : α → Prop} {sep : List α} {parts : List (List α)}
    (hsep : ∀ c ∈ sep, P c) (hparts : ∀ part ∈ parts, ∀ c ∈ part, P c) :
    ∀ c ∈ sep.intercalate parts, P c := by
  induction parts with
  | nil => exact fun c hc => absurd hc List.not_mem_nil
  | cons part parts ih =>
    obtain ⟨hpart, hrest⟩ := List.forall_mem_cons.mp hparts
    cases parts with
    | nil => rwa [List.intercalate_singleton]
    | cons part' parts =>
      rw [List.intercalate_cons_cons, List.forall_mem_append, List.forall_mem_append]
      exact ⟨⟨hpart, hsep⟩, ih hrest⟩

/-! ### Runs and prefixes -/

theorem dropPrefix?_eq_some_iff [BEq α] [LawfulBEq α] {word rest : List α} :
    cs.dropPrefix? word = some rest ↔ cs = word ++ rest := by
  rw [List.dropPrefix?_eq_some_iff]
  constructor
  · rintro ⟨word', rfl, hword⟩
    rw [eq_of_beq hword]
  · rintro rfl
    exact ⟨word, rfl, beq_self_eq_true word⟩

/-- A run is as long as it can be. -/
theorem takeRun_eq_some_iff {run rest : List α} :
    takeRun p cs = some (run, rest) ↔
      cs = run ++ rest ∧ run ≠ [] ∧ (∀ c ∈ run, p c = true) ∧ ∀ c ∈ rest.head?, p c = false := by
  unfold takeRun
  constructor
  · intro h
    split_ifs at h with hempty
    cases h
    refine ⟨List.takeWhile_append_dropWhile.symm, fun hnil => hempty (by rw [hnil]; rfl),
      fun c hc => List.mem_takeWhile_imp hc, fun c hc => ?_⟩
    obtain ⟨rest, hrest⟩ := List.head?_eq_some_iff.mp hc
    exact head_dropWhile hrest
  · rintro ⟨rfl, hne, hrun, hrest⟩
    rw [List.takeWhile_append_of_pos hrun, List.dropWhile_append_of_pos hrun,
      dropWhile_of_head hrest]
    have htake : rest.takeWhile p = [] := by
      cases rest with
      | nil => rfl
      | cons c rest => exact List.takeWhile_cons_of_neg (by simp [hrest c rfl])
    rw [htake, List.append_nil, if_neg (by simp [hne])]

end ClassroomSuite.Library
