import Mathlib.Data.List.TakeWhile
import ClassroomSuite.Cli.ArgvNormalize
import ClassroomSuite.Library.Traversal

/-!
# The separator `--`

What comes after a literal `--` is no option, whatever it looks like. So the rewriter should leave
the first `--` and everything after it where it is, and only rearrange what comes before. Its loop
looks for `--` between the items it consumes, and not inside one: an option that waits for its value
takes the next token, and if that is `--` the loop goes on behind it.

Source: `cli/src/bcs/argv_normalize.py`.

## Main definitions

* `openOption`: the option that is still waiting for its value at the end of tokens.
* `afterSubcommand`: the tokens after the subcommand.
* `BarrierKept`: the guarantee about `--`.

## Main results

* `hoistLoop_barrier`, `hoistLoop_swallowed`: the loop around the first `--`.
* `barrierKept_iff`: when the guarantee holds.
-/

namespace ClassroomSuite.Cli

open Library

/-- The option at the end of the tokens that is waiting for its value, if there is one. -/
def openOption : List String → Option String
  | [] => none
  | [arg] => if takesNext arg then some arg else none
  | arg :: next :: rest => if takesNext arg then openOption rest else openOption (next :: rest)

/-- The tokens after the subcommand, none if there is no subcommand. -/
def afterSubcommand (argv : List String) : List String :=
  match findSubcommandIndex argv with
  | none => []
  | some i => argv.drop (i + 1)

/-- The first `--`, with `before` in front of it, stays in its place with everything after it, and
what is in front of it is only rearranged. -/
def BarrierKept (before after : List String) : Prop :=
  ∃ front, normalizeArgv (before ++ "--" :: after) = front ++ "--" :: after ∧ front.Perm before

/-! ### The loop around the separator -/

/-- If no option is waiting, the loop ends at the separator. -/
theorem hoistLoop_barrier {tokens : List String} (htokens : "--" ∉ tokens)
    (h : openOption tokens = none) (after : List String) :
    hoistLoop (tokens ++ "--" :: after) =
      ((hoistLoop tokens).1, (hoistLoop tokens).2 ++ "--" :: after) := by
  induction tokens using openOption.induct with
  | case1 => simp
  | case2 arg htakes => simp [openOption, htakes] at h
  | case3 arg htakes =>
    have harg : arg ≠ "--" := fun h => htokens (h ▸ List.mem_cons_self)
    obtain ⟨isGlobal, hconsume⟩ := exists_consumeOne_eq (Bool.eq_false_iff.mpr htakes)
    rw [List.singleton_append, hoistLoop_cons harg (hconsume _), hoistLoop_cons harg (hconsume _)]
    cases isGlobal <;> simp
  | case4 arg next rest htakes ih =>
    obtain ⟨harg, hnext, hrest⟩ : arg ≠ "--" ∧ next ≠ "--" ∧ "--" ∉ rest := by
      simpa [eq_comm] using htokens
    rw [openOption, if_pos htakes] at h
    have hconsume := consumeOne_of_takesNext htakes next
    rw [List.cons_append, List.cons_append, hoistLoop_paired harg (hconsume _),
      hoistLoop_paired harg (hconsume _), ih hrest h]
  | case5 arg next rest htakes ih =>
    obtain ⟨harg, hrest⟩ : arg ≠ "--" ∧ "--" ∉ next :: rest := by
      simpa [eq_comm] using htokens
    rw [openOption, if_neg htakes] at h
    obtain ⟨isGlobal, hconsume⟩ := exists_consumeOne_eq (Bool.eq_false_iff.mpr htakes)
    rw [List.cons_append, hoistLoop_cons harg (hconsume _), hoistLoop_cons harg (hconsume _),
      ih hrest h]
    cases isGlobal <;> simp

/-- If an option is waiting, it takes the separator for its value, and the loop goes on. -/
theorem hoistLoop_swallowed {tokens : List String} {option : String} (htokens : "--" ∉ tokens)
    (h : openOption tokens = some option) (after : List String) :
    ∃ tokens', tokens = tokens' ++ [option] ∧
      hoistLoop (tokens ++ "--" :: after) =
        ((hoistLoop tokens').1 ++ option :: "--" :: (hoistLoop after).1,
          (hoistLoop tokens').2 ++ (hoistLoop after).2) := by
  induction tokens using openOption.induct with
  | case1 => cases h
  | case2 arg htakes =>
    have harg : arg ≠ "--" := fun h => htokens (h ▸ List.mem_cons_self)
    obtain rfl : arg = option := by simpa [openOption, htakes] using h
    refine ⟨[], rfl, ?_⟩
    rw [List.singleton_append, hoistLoop_paired harg (consumeOne_of_takesNext htakes _ _)]
    simp
  | case3 arg htakes => simp [openOption, htakes] at h
  | case4 arg next rest htakes ih =>
    obtain ⟨harg, hnext, hrest⟩ : arg ≠ "--" ∧ next ≠ "--" ∧ "--" ∉ rest := by
      simpa [eq_comm] using htokens
    rw [openOption, if_pos htakes] at h
    obtain ⟨rest', rfl, hloop⟩ := ih hrest h
    refine ⟨arg :: next :: rest', rfl, ?_⟩
    have hconsume := consumeOne_of_takesNext htakes next
    rw [List.cons_append, List.cons_append, hoistLoop_paired harg (hconsume _),
      hoistLoop_paired harg (hconsume _), hloop]
    rfl
  | case5 arg next rest htakes ih =>
    obtain ⟨harg, hrest⟩ : arg ≠ "--" ∧ "--" ∉ next :: rest := by
      simpa [eq_comm] using htokens
    rw [openOption, if_neg htakes] at h
    obtain ⟨rest', heq, hloop⟩ := ih hrest h
    refine ⟨arg :: rest', by rw [heq]; rfl, ?_⟩
    obtain ⟨isGlobal, hconsume⟩ := exists_consumeOne_eq (Bool.eq_false_iff.mpr htakes)
    rw [List.cons_append, hoistLoop_cons harg (hconsume _), hoistLoop_cons harg (hconsume _),
      hloop]
    cases isGlobal <;> simp

/-! ### The argument vector -/

theorem afterSubcommand_append {pre : List String} (hpre : ∀ t ∈ pre, Passed t) {s : String}
    (hs : looksLikeName s = true) (after : List String) :
    afterSubcommand (pre ++ s :: after) = after := by
  rw [afterSubcommand, findSubcommandIndex_append hpre, findSubcommandIndex_cons_name hs]
  simp [← List.drop_drop]

/-- Tokens without `--` are all passed over, or there is a first one among them that looks like a
name. -/
theorem passed_or_exists_name {tokens : List String} (h : "--" ∉ tokens) :
    (∀ t ∈ tokens, Passed t) ∨ ∃ pre s after, tokens = pre ++ s :: after ∧
      (∀ t ∈ pre, Passed t) ∧ looksLikeName s = true := by
  rcases forall_or_exists_first (fun t => looksLikeName t = false) tokens with
    hall | ⟨pre, s, after, rfl, hpre, hs⟩
  · exact Or.inl fun t ht => ⟨fun hdashes => h (hdashes ▸ ht), hall t ht⟩
  · refine Or.inr ⟨pre, s, after, rfl, fun t ht => ⟨fun hdashes => h ?_, hpre t ht⟩,
      Bool.not_eq_false _ ▸ hs⟩
    exact List.mem_append_left _ (hdashes ▸ ht)

/-- Where the separator is taken for a value, less is in front of the first one than was before. -/
theorem not_barrierKept_of_swallowed {pre tokens : List String} {s option : String}
    (hpre : ∀ t ∈ pre, Passed t) (hs : looksLikeName s = true) (htokens : "--" ∉ tokens)
    (h : openOption tokens = some option) (after : List String) :
    ¬ BarrierKept (pre ++ s :: tokens) after := by
  rintro ⟨front, hnormal, hperm⟩
  obtain ⟨tokens', rfl, hloop⟩ := hoistLoop_swallowed htokens h after
  have hmoved := hoistLoop_perm tokens'
  rw [List.append_assoc, List.cons_append, normalizeArgv_append hpre hs, hloop] at hnormal
  have hhoisted : "--" ∉ pre ++ (hoistLoop tokens').1 ++ [option] := by
    simp only [List.mem_append, not_or] at htokens ⊢
    refine ⟨⟨fun hmem => (hpre _ hmem).1 rfl, fun hmem => htokens.1 ?_⟩, htokens.2⟩
    exact hmoved.subset (List.mem_append_left _ hmem)
  have hfront : "--" ∉ front := by
    rw [hperm.mem_iff, List.mem_append, List.mem_cons, not_or, not_or]
    exact ⟨fun hmem => (hpre _ hmem).1 rfl, (ne_dashes_of_looksLikeName hs).symm, htokens⟩
  have hshape : pre ++ ((hoistLoop tokens').1 ++ option :: "--" :: (hoistLoop after).1) ++
      s :: ((hoistLoop tokens').2 ++ (hoistLoop after).2) =
        (pre ++ (hoistLoop tokens').1 ++ [option]) ++ "--" ::
          ((hoistLoop after).1 ++ s :: ((hoistLoop tokens').2 ++ (hoistLoop after).2)) := by
    simp
  -- The position of the first `--` is the number of tokens in front of it.
  have hposition := congrArg (List.idxOf "--") hnormal
  rw [List.idxOf_append_of_notMem hfront, List.idxOf_cons_self, hshape,
    List.idxOf_append_of_notMem hhoisted, List.idxOf_cons_self] at hposition
  have hlength := hperm.length_eq
  have hshort := hmoved.length_eq
  simp only [List.length_append, List.length_cons, List.length_nil] at hposition hlength hshort
  omega

/-- The first `--` stays in its place, with everything after it, exactly when no option in front of
it is waiting for its value. -/
theorem barrierKept_iff (before after : List String) (hbefore : "--" ∉ before) :
    BarrierKept before after ↔ openOption (afterSubcommand before) = none := by
  rcases passed_or_exists_name hbefore with hpassed | ⟨pre, s, tokens, rfl, hpre, hs⟩
  · have hnone (rest : List String) (hrest : findSubcommandIndex rest = none) :
        findSubcommandIndex (before ++ rest) = none := by
      rw [findSubcommandIndex_append hpassed, hrest, Option.map_none]
    have hbefore := hnone [] rfl
    rw [List.append_nil] at hbefore
    rw [afterSubcommand, hbefore]
    refine iff_of_true ⟨before, normalizeArgv_of_none (hnone _ ?_), List.Perm.refl _⟩ rfl
    rw [findSubcommandIndex, if_pos rfl]
  · have htokens : "--" ∉ tokens := fun hmem =>
      hbefore (List.mem_append_right _ (List.mem_cons_of_mem _ hmem))
    rw [afterSubcommand_append hpre hs]
    cases hopen : openOption tokens with
    | some option =>
      exact iff_of_false (not_barrierKept_of_swallowed hpre hs htokens hopen after)
        (Option.some_ne_none _)
    | none =>
      refine iff_of_true ⟨pre ++ (hoistLoop tokens).1 ++ s :: (hoistLoop tokens).2, ?_, ?_⟩ rfl
      · rw [List.append_assoc, List.cons_append, normalizeArgv_append hpre hs,
          hoistLoop_barrier htokens hopen]
        simp
      · rw [List.append_assoc]
        refine List.Perm.append_left _ (List.perm_middle.trans ?_)
        exact (hoistLoop_perm tokens).cons s

/-- `barrierKept_iff` at `bcs validate -- --output x`. -/
theorem barrierKept_validate : BarrierKept ["validate"] ["--output", "x"] :=
  (barrierKept_iff ["validate"] ["--output", "x"] (by decide)).mpr (by decide +kernel)

/-- In `bcs validate --output -- x` the option takes the separator for its value. -/
theorem not_barrierKept_output : ¬ BarrierKept ["validate", "--output"] ["x"] := by
  rintro ⟨front, hnormal, -⟩
  have hnormal' : normalizeArgv ["validate", "--output", "--", "x"] =
      ["--output", "--", "validate", "x"] := by decide +kernel
  have hlast := congrArg (fun tokens => tokens.reverse.take 2) (hnormal'.symm.trans hnormal)
  simp at hlast

end ClassroomSuite.Cli
