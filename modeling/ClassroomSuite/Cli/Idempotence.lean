import ClassroomSuite.Cli.ArgvNormalize

/-!
# Rewriting the argument vector twice

The options that a rewriting has moved stand before the subcommand, with their values. A second
rewriting scans them for the subcommand one token at a time and knows nothing of values, so the
first value that looks like a name stops it. The tokens after that value are the rest of the
options, the subcommand and what has been left after it; rewriting is the same a second time
exactly when there is nothing to be moved among these, that is, when no option follows the value.

Source: `cli/src/bcs/argv_normalize.py`.

## Main definitions

* `stoppingValue`: the first value among the options after the subcommand that stops the scan.
* `Settled`: the condition on the argument vector.

## Main results

* `hoisted_of_stoppingValue`: where that value stands among the options that are moved.
* `normalizeArgv_idempotent_iff`.
-/

namespace ClassroomSuite.Cli

open Library

instance (arg : String) : Decidable (Passed arg) :=
  inferInstanceAs (Decidable (arg ≠ "--" ∧ looksLikeName arg = false))

/-- The first value after the subcommand that is a token of its own and that the scan does not pass
over, with the tokens after it. -/
def stoppingValue : List String → Option (String × List String)
  | [] => none
  | arg :: following =>
    if arg = "--" then none
    else
      let consumed := consumeOne arg following
      match consumed.1.drop 1 with
      | value :: _ =>
        if Passed value then stoppingValue consumed.2.1 else some (value, consumed.2.1)
      | [] => stoppingValue consumed.2.1
  termination_by after => after.length
  decreasing_by all_goals exact Nat.lt_succ_of_le (length_consumeOne_rest arg following)

/-- After the subcommand, if there is one, the first value that stops the scan is `--`, or no option
follows it. -/
def Settled (argv : List String) : Prop :=
  ∀ i, findSubcommandIndex argv = some i →
    ∀ value rest, stoppingValue (argv.drop (i + 1)) = some (value, rest) →
      value = "--" ∨ NothingHoisted rest

/-! ### The value that stops the scan -/

theorem stoppingValue_nil : stoppingValue [] = none := by rw [stoppingValue]

theorem stoppingValue_dashes (following : List String) :
    stoppingValue ("--" :: following) = none := by
  rw [stoppingValue, if_pos rfl]

theorem stoppingValue_single {arg : String} {following : List String} {isGlobal : Bool}
    (harg : arg ≠ "--") (h : consumeOne arg following = ([arg], following, isGlobal)) :
    stoppingValue (arg :: following) = stoppingValue following := by
  rw [stoppingValue, if_neg harg]
  simp only [h, List.drop_one, List.tail_cons]

theorem stoppingValue_paired {arg value : String} {rest : List String} (harg : arg ≠ "--")
    (h : consumeOne arg (value :: rest) = ([arg, value], rest, true)) :
    stoppingValue (arg :: value :: rest) =
      if Passed value then stoppingValue rest else some (value, rest) := by
  rw [stoppingValue, if_neg harg]
  simp only [h, List.drop_one, List.tail_cons]

/-- Without a value that stops the scan, it passes over everything that is hoisted. -/
theorem passed_of_stoppingValue_eq_none {after : List String} (h : stoppingValue after = none) :
    ∀ t ∈ (hoistLoop after).1, Passed t := by
  induction after using hoistLoop_induction with
  | nil => simp
  | dashes following => simp
  | alone arg following harg hconsume ih =>
    rw [stoppingValue_single harg hconsume] at h
    rw [hoistLoop_alone harg hconsume]
    exact List.forall_mem_cons.mpr ⟨passed_of_consumeOne hconsume, ih h⟩
  | paired arg value rest harg hconsume ih =>
    rw [stoppingValue_paired harg hconsume] at h
    split_ifs at h with hvalue
    rw [hoistLoop_paired harg hconsume]
    exact List.forall_mem_cons.mpr ⟨passed_of_consumeOne hconsume,
      List.forall_mem_cons.mpr ⟨hvalue, ih h⟩⟩
  | kept arg following harg hconsume ih =>
    rw [stoppingValue_single harg hconsume] at h
    rw [hoistLoop_kept harg hconsume]
    exact ih h

/-- The value that stops the scan stands among the hoisted tokens behind tokens that are passed
over, and before those that are hoisted from what follows it. -/
theorem hoisted_of_stoppingValue {after : List String} {value : String} {rest : List String}
    (h : stoppingValue after = some (value, rest)) :
    ¬ Passed value ∧ ∃ pre, (∀ t ∈ pre, Passed t) ∧
      (hoistLoop after).1 = pre ++ value :: (hoistLoop rest).1 := by
  induction after using hoistLoop_induction with
  | nil => simp [stoppingValue_nil] at h
  | dashes following => simp [stoppingValue_dashes] at h
  | alone arg following harg hconsume ih =>
    rw [stoppingValue_single harg hconsume] at h
    obtain ⟨hvalue, pre, hpre, hhoisted⟩ := ih h
    refine ⟨hvalue, arg :: pre, ?_, ?_⟩
    · exact List.forall_mem_cons.mpr ⟨passed_of_consumeOne hconsume, hpre⟩
    · rw [hoistLoop_alone harg hconsume, hhoisted]
      rfl
  | paired arg other after harg hconsume ih =>
    rw [stoppingValue_paired harg hconsume] at h
    have harg' := passed_of_consumeOne hconsume
    rw [hoistLoop_paired harg hconsume]
    split_ifs at h with hother
    · obtain ⟨hvalue, pre, hpre, hhoisted⟩ := ih h
      refine ⟨hvalue, arg :: other :: pre, ?_, ?_⟩
      · exact List.forall_mem_cons.mpr ⟨harg', List.forall_mem_cons.mpr ⟨hother, hpre⟩⟩
      · rw [hhoisted]
        rfl
    · obtain ⟨rfl, rfl⟩ := Prod.ext_iff.mp (Option.some.inj h)
      exact ⟨hother, [arg], by simpa using harg', rfl⟩
  | kept arg following harg hconsume ih =>
    rw [stoppingValue_single harg hconsume] at h
    rw [hoistLoop_kept harg hconsume]
    exact ih h

/-! ### Rewriting twice -/

/-- A token that looks like a name stays in front of the tokens after it exactly when nothing is
hoisted from them. -/
theorem hoistLoop_around_name_iff {value : String} (hvalue : looksLikeName value = true)
    (after : List String) :
    (hoistLoop after).1 ++ value :: (hoistLoop after).2 = value :: after ↔
      NothingHoisted after := by
  constructor
  · intro h
    by_contra hhoisted
    obtain ⟨t, ts, hts, hpassed, -⟩ := exists_hoisted hhoisted
    rw [hts] at h
    rw [(List.cons.inj h).1] at hpassed
    exact Bool.false_ne_true (hpassed.2.symm.trans hvalue)
  · intro h
    rw [hoistLoop_of_nothingHoisted h]
    rfl

/-- Among hoisted options, the subcommand and what is left after it, there is nothing to hoist only
if there are no options. -/
theorem nothingHoisted_rewritten_iff {s : String} (hs : looksLikeName s = true)
    (after rest : List String) :
    NothingHoisted ((hoistLoop rest).1 ++ s :: (hoistLoop after).2) ↔ NothingHoisted rest := by
  constructor
  · intro h
    by_contra hhoisted
    obtain ⟨t, ts, hts, hpassed, hagain⟩ := exists_hoisted hhoisted
    rw [hts] at h
    rcases h with hdashes | ⟨hkept, -⟩
    · exact hpassed.1 hdashes
    · exact Bool.false_ne_true (hkept.symm.trans (hagain _ (by simp)))
  · intro h
    rw [(hoisted_eq_nil_iff rest).mpr h]
    refine Or.inr ⟨by rw [consumeOne_of_name hs], ?_⟩
    exact (hoisted_eq_nil_iff _).mp (by rw [hoistLoop_remaining])

/-- Rewriting is the same a second time exactly when the scan is not stopped by a value that
options follow. -/
theorem normalizeArgv_idempotent_iff (argv : List String) :
    normalizeArgv (normalizeArgv argv) = normalizeArgv argv ↔ Settled argv := by
  cases hindex : findSubcommandIndex argv with
  | none =>
    rw [normalizeArgv_of_none hindex, normalizeArgv_of_none hindex]
    simp [Settled, hindex]
  | some i =>
    obtain ⟨pre, s, after, rfl, rfl, hpre, hs⟩ := findSubcommandIndex_eq_some hindex
    have hdrop : (pre ++ s :: after).drop (pre.length + 1) = after := by
      rw [← List.drop_drop, List.drop_left, List.drop_one, List.tail_cons]
    have hsettled : Settled (pre ++ s :: after) ↔
        ∀ value rest, stoppingValue after = some (value, rest) →
          value = "--" ∨ NothingHoisted rest := by
      simp only [Settled, hindex, Option.some.injEq, forall_eq', hdrop]
    rw [hsettled, normalizeArgv_append hpre hs]
    cases hstop : stoppingValue after with
    | none =>
      -- The scan reaches the subcommand again, and there is nothing more to hoist.
      have hpassed := List.forall_mem_append.mpr ⟨hpre, passed_of_stoppingValue_eq_none hstop⟩
      rw [normalizeArgv_append hpassed hs, hoistLoop_remaining]
      simp
    | some stop =>
      obtain ⟨value, rest⟩ := stop
      obtain ⟨hvalue, passed, hpassed, hhoisted⟩ := hoisted_of_stoppingValue hstop
      have hpre' := List.forall_mem_append.mpr ⟨hpre, hpassed⟩
      have hargv : pre ++ (hoistLoop after).1 ++ s :: (hoistLoop after).2 =
          (pre ++ passed) ++ value :: ((hoistLoop rest).1 ++ s :: (hoistLoop after).2) := by
        simp [hhoisted]
      rw [hargv]
      by_cases hdashes : value = "--"
      · have hnone : findSubcommandIndex ((pre ++ passed) ++
            value :: ((hoistLoop rest).1 ++ s :: (hoistLoop after).2)) = none := by
          rw [findSubcommandIndex_append hpre', hdashes]
          rfl
        rw [normalizeArgv_of_none hnone]
        simp [hdashes]
      · have hname : looksLikeName value = true := by
          by_contra hname
          exact hvalue ⟨hdashes, Bool.eq_false_iff.mpr hname⟩
        rw [normalizeArgv_append hpre' hname, List.append_assoc, List.append_cancel_left_eq,
          hoistLoop_around_name_iff hname, nothingHoisted_rewritten_iff hs]
        simp [hdashes]

/-- `bcs build -o json -v` is rewritten to `bcs -o json -v build` first and to
`bcs -o -v json build` then. -/
theorem normalizeArgv_not_idempotent :
    normalizeArgv (normalizeArgv ["build", "-o", "json", "-v"]) ≠
      normalizeArgv ["build", "-o", "json", "-v"] := by
  decide +kernel

end ClassroomSuite.Cli
