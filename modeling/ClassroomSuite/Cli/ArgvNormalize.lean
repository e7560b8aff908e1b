import Mathlib.Data.List.Basic
import ClassroomSuite.Library.Assoc
import ClassroomSuite.Library.Text

/-!
# Rewriting the argument vector

Click recognises the options of a group only before the name of the subcommand. `normalizeArgv`
rewrites the argument vector once, before Click sees it: the first token that does not look like
an option is taken for the subcommand, and every global option after it is moved in front of it,
together with its value. Everything from a literal `--` on stays where it is.

The scan before the subcommand (`findSubcommandIndex`) looks at one token at a time and knows
nothing of option values; the scan after it (`hoistLoop`) consumes an option with its value
(`consumeOne`).

Source: `cli/src/bcs/argv_normalize.py`.

## Main definitions

* `globalOptions`, `isRepeatedShortVerbose`, `findSubcommandIndex`, `consumeOne`, `hoistLoop`,
  `normalizeArgv`.
* `takesNext`: the options whose value is the next token.
* `NothingHoisted`, `Passed`: what the loop leaves in place, and what the scan passes over.

## Main results

* `consumeOne_of_takesNext`, `exists_consumeOne_eq`: what is consumed at once.
* `hoistLoop_cons`, `hoistLoop_induction`: the loop in terms of `consumeOne`.
* `consumed_of_hoisted`, `startsWith_of_hoisted`: the first hoisted token is an option.
* `hoistLoop_perm`, `hoistLoop_remaining`: the loop only moves tokens, and moves all it can.
* `hoisted_eq_nil_iff`, `hoistLoop_of_nothingHoisted`, `exists_hoisted`: when it moves nothing, and
  what it moves first otherwise.
* `normalizeArgv_append`: the result around a given subcommand.
-/

namespace ClassroomSuite.Cli

open Library

/-- The global options that mean the same before and after the subcommand, with whether they take
a value (`_GLOBAL_OPTIONS`). -/
def globalOptions : List (String × Bool) :=
  [("--config", true), ("-c", true), ("--set", true), ("--output", true), ("-o", true),
    ("--color", true), ("--verbose", false), ("-v", false), ("--quiet", false), ("-q", false),
    ("--log-level", true), ("--log-format", true), ("--log-file", true), ("--no-input", false),
    ("--yes", false), ("-y", false), ("--dry-run", false), ("--timeout", true)]

/-- The length of `-vv`, the shortest glued cluster. -/
def minGluedVerboseLength : ℕ := 3

/-- A glued cluster of short flags such as `-vvv`. -/
def isRepeatedShortVerbose (arg : String) : Bool :=
  minGluedVerboseLength ≤ arg.length && startsWith arg "-v" &&
    (arg.toList.drop 1).all (· == 'v')

/-- The index of the first token that looks like a subcommand name, if one comes before `--`. -/
def findSubcommandIndex : List String → Option ℕ
  | [] => none
  | arg :: rest =>
    if arg = "--" then none
    else if !startsWith arg "-" || arg == "-" then some 0
    else (findSubcommandIndex rest).map (· + 1)

/-- The tokens consumed at `arg`, the tokens after them, and whether they are a global option. -/
def consumeOne (arg : String) (following : List String) : List String × List String × Bool :=
  let (name, inlineValue) := partitionAt '=' arg
  match globalOptions.lookup name with
  | some takesValue =>
    if inlineValue ≠ "" || !takesValue then ([arg], following, true)
    else match following with
      | value :: rest => ([arg, value], rest, true)
      -- no value follows: left in place, for Click to report
      | [] => ([arg], [], false)
  | none => ([arg], following, isRepeatedShortVerbose arg)

theorem length_consumeOne_rest (arg : String) (following : List String) :
    (consumeOne arg following).2.1.length ≤ following.length := by
  simp only [consumeOne]
  split
  · split
    · exact le_refl _
    · cases following <;> simp
  · exact le_refl _

/-- The loop over the tokens after the subcommand: the hoisted and the remaining tokens. -/
def hoistLoop : List String → List String × List String
  | [] => ([], [])
  | arg :: following =>
    if arg = "--" then ([], arg :: following)
    else
      let consumed := consumeOne arg following
      let after := hoistLoop consumed.2.1
      if consumed.2.2 then (consumed.1 ++ after.1, after.2) else (after.1, consumed.1 ++ after.2)
  termination_by after => after.length
  decreasing_by exact Nat.lt_succ_of_le (length_consumeOne_rest arg following)

/-- The argument vector with the global options moved in front of the subcommand. -/
def normalizeArgv (argv : List String) : List String :=
  match findSubcommandIndex argv with
  | none => argv
  | some i =>
    let after := hoistLoop (argv.drop (i + 1))
    argv.take i ++ after.1 ++ [argv.getD i ""] ++ after.2

example : normalizeArgv ["build", "--tag", "nightly", "--output", "json"] =
    ["--output", "json", "build", "--tag", "nightly"] := by decide +kernel

example : normalizeArgv ["validate", "--", "--output", "not-an-option"] =
    ["validate", "--", "--output", "not-an-option"] := by decide +kernel

/-! ### The table of options -/

/-- An option name starts with `-`, is neither `-` nor `--`, and holds no `=`. -/
theorem globalOptions_names {name : String} {takesValue : Bool}
    (h : globalOptions.lookup name = some takesValue) :
    startsWith name "-" = true ∧ name ≠ "-" ∧ name ≠ "--" ∧ '=' ∉ name.toList := by
  have hall : ∀ p ∈ globalOptions,
      startsWith p.1 "-" = true ∧ p.1 ≠ "-" ∧ p.1 ≠ "--" ∧ '=' ∉ p.1.toList := by
    decide
  exact hall _ (mem_of_lookup h)

theorem consumeOne_of_flag {name : String} (h : globalOptions.lookup name = some false)
    (following : List String) : consumeOne name following = ([name], following, true) := by
  obtain ⟨-, -, -, heq⟩ := globalOptions_names h
  simp [consumeOne, partitionAt_of_notMem heq, h]

theorem consumeOne_of_inline {name value : String} (h : globalOptions.lookup name = some true)
    (hvalue : value ≠ "") (following : List String) :
    consumeOne (name ++ "=" ++ value) following = ([name ++ "=" ++ value], following, true) := by
  obtain ⟨-, -, -, heq⟩ := globalOptions_names h
  have hpart := partitionAt_append heq value
  simp only [consumeOne, show ("=" : String) = String.singleton '=' from rfl, hpart, h]
  simp [hvalue]

/-! ### Options whose value is the next token -/

/-- Whether a token is an option whose value is the next token, whatever this is. -/
def takesNext (arg : String) : Bool :=
  globalOptions.lookup (partitionAt '=' arg).1 = some true && (partitionAt '=' arg).2 == ""

theorem consumeOne_of_takesNext {arg : String} (h : takesNext arg = true) (value : String)
    (rest : List String) : consumeOne arg (value :: rest) = ([arg, value], rest, true) := by
  simp only [takesNext, Bool.and_eq_true, decide_eq_true_eq, beq_iff_eq] at h
  simp [consumeOne, h.1, h.2]

/-- Without a next token it is left in place. -/
theorem consumeOne_nil_of_takesNext {arg : String} (h : takesNext arg = true) :
    consumeOne arg [] = ([arg], [], false) := by
  simp only [takesNext, Bool.and_eq_true, decide_eq_true_eq, beq_iff_eq] at h
  simp [consumeOne, h.1, h.2]

/-- Any other token is consumed alone, and whether it is hoisted does not depend on what follows. -/
theorem exists_consumeOne_eq {arg : String} (h : takesNext arg = false) :
    ∃ isGlobal, ∀ following, consumeOne arg following = ([arg], following, isGlobal) := by
  cases hlookup : globalOptions.lookup (partitionAt '=' arg).1 with
  | none => exact ⟨isRepeatedShortVerbose arg, fun following => by simp [consumeOne, hlookup]⟩
  | some takesValue =>
    refine ⟨true, fun following => ?_⟩
    cases takesValue with
    | false => simp [consumeOne, hlookup]
    | true =>
      have hvalue : (partitionAt '=' arg).2 ≠ "" := by simpa [takesNext, hlookup] using h
      simp [consumeOne, hlookup, hvalue]

theorem takesNext_of_separate {name : String} (h : globalOptions.lookup name = some true) :
    takesNext name = true := by
  obtain ⟨-, -, -, heq⟩ := globalOptions_names h
  simp [takesNext, partitionAt_of_notMem heq, h]

/-- An empty inline value is no value. -/
theorem takesNext_of_emptyInline {name : String} (h : globalOptions.lookup name = some true) :
    takesNext (name ++ "=" ++ "") = true := by
  obtain ⟨-, -, -, heq⟩ := globalOptions_names h
  have hpart := partitionAt_append heq ""
  simp only [takesNext, show ("=" : String) = String.singleton '=' from rfl, hpart, h]
  rfl

/-! ### What is consumed at once -/

/-- A token is consumed alone as a global option, or with its value, or left in place. -/
theorem consumeOne_shape (arg : String) (following : List String) :
    consumeOne arg following = ([arg], following, true) ∨
      (∃ value rest, following = value :: rest ∧
        consumeOne arg following = ([arg, value], rest, true)) ∨
      consumeOne arg following = ([arg], following, false) := by
  cases htakes : takesNext arg with
  | true =>
    cases following with
    | nil => exact Or.inr (Or.inr (consumeOne_nil_of_takesNext htakes))
    | cons value rest =>
      exact Or.inr (Or.inl ⟨value, rest, rfl, consumeOne_of_takesNext htakes value rest⟩)
  | false =>
    obtain ⟨isGlobal, hconsume⟩ := exists_consumeOne_eq htakes
    cases isGlobal with
    | true => exact Or.inl (hconsume following)
    | false => exact Or.inr (Or.inr (hconsume following))

/-- A token left in place is left in place whatever follows it, unless it waits for a value that is
not there. -/
theorem consumeOne_kept {arg : String} {following : List String}
    (h : consumeOne arg following = ([arg], following, false)) :
    following = [] ∨ ∀ other, consumeOne arg other = ([arg], other, false) := by
  cases htakes : takesNext arg with
  | true =>
    cases following with
    | nil => exact Or.inl rfl
    | cons value rest =>
      rw [consumeOne_of_takesNext htakes] at h
      cases h
  | false =>
    obtain ⟨isGlobal, hconsume⟩ := exists_consumeOne_eq htakes
    obtain rfl : isGlobal = false := by
      rw [hconsume] at h
      exact (Prod.mk.inj (Prod.mk.inj h).2).2
    exact Or.inr hconsume

/-- A token hoisted somewhere is hoisted wherever something follows it. -/
theorem consumeOne_hoisted {arg : String} {following tokens rest : List String}
    (h : consumeOne arg following = (tokens, rest, true)) {other : List String}
    (hother : other ≠ []) : (consumeOne arg other).2.2 = true := by
  by_contra hkept
  rcases consumeOne_shape arg other with halone | ⟨value, rest', -, hpaired⟩ | hleft
  · exact hkept (by rw [halone])
  · exact hkept (by rw [hpaired])
  · rcases consumeOne_kept hleft with hnil | hall
    · exact hother hnil
    · rw [hall] at h
      simp at h

/-- A token consumed as a global option looks like an option. -/
theorem startsWith_of_consumeOne {arg : String} {following tokens rest : List String}
    (h : consumeOne arg following = (tokens, rest, true)) : startsWith arg "-" = true := by
  cases hname : globalOptions.lookup (partitionAt '=' arg).1 with
  | none =>
    simp only [consumeOne, hname, Prod.mk.injEq, isRepeatedShortVerbose, Bool.and_eq_true] at h
    obtain ⟨t, ht⟩ := startsWith_iff.mp h.2.2.1.2
    exact startsWith_iff.mpr ⟨"v" ++ t, by rw [ht, ← String.append_assoc]; rfl⟩
  | some takesValue =>
    have hdash := (globalOptions_names hname).1
    rcases eq_partitionAt '=' arg with harg | harg
    · rw [harg]
      exact hdash
    · rw [harg]
      exact startsWith_append _ _ _ (startsWith_append _ _ _ hdash)

/-! ### The loop -/

@[simp] theorem hoistLoop_nil : hoistLoop [] = ([], []) := by
  rw [hoistLoop]

@[simp] theorem hoistLoop_dashes (following : List String) :
    hoistLoop ("--" :: following) = ([], "--" :: following) := by
  rw [hoistLoop, if_pos rfl]

theorem hoistLoop_cons {arg : String} {following tokens rest : List String} {isGlobal : Bool}
    (harg : arg ≠ "--") (h : consumeOne arg following = (tokens, rest, isGlobal)) :
    hoistLoop (arg :: following) =
      if isGlobal then (tokens ++ (hoistLoop rest).1, (hoistLoop rest).2)
      else ((hoistLoop rest).1, tokens ++ (hoistLoop rest).2) := by
  rw [hoistLoop, if_neg harg]
  simp only [h]

theorem hoistLoop_alone {arg : String} {following : List String} (harg : arg ≠ "--")
    (h : consumeOne arg following = ([arg], following, true)) :
    hoistLoop (arg :: following) = (arg :: (hoistLoop following).1, (hoistLoop following).2) :=
  hoistLoop_cons harg h

theorem hoistLoop_paired {arg value : String} {rest : List String} (harg : arg ≠ "--")
    (h : consumeOne arg (value :: rest) = ([arg, value], rest, true)) :
    hoistLoop (arg :: value :: rest) =
      (arg :: value :: (hoistLoop rest).1, (hoistLoop rest).2) :=
  hoistLoop_cons harg h

theorem hoistLoop_kept {arg : String} {following : List String} (harg : arg ≠ "--")
    (h : consumeOne arg following = ([arg], following, false)) :
    hoistLoop (arg :: following) = ((hoistLoop following).1, arg :: (hoistLoop following).2) :=
  hoistLoop_cons harg h

/-- Induction along the loop: it ends at the end of the tokens or at `--`, and otherwise consumes an
option alone, an option with its value, or a token that stays. -/
@[elab_as_elim]
theorem hoistLoop_induction {motive : List String → Prop} (nil : motive [])
    (dashes : ∀ following, motive ("--" :: following))
    (alone : ∀ arg following, arg ≠ "--" →
      consumeOne arg following = ([arg], following, true) → motive following →
        motive (arg :: following))
    (paired : ∀ arg value rest, arg ≠ "--" →
      consumeOne arg (value :: rest) = ([arg, value], rest, true) → motive rest →
        motive (arg :: value :: rest))
    (kept : ∀ arg following, arg ≠ "--" →
      consumeOne arg following = ([arg], following, false) → motive following →
        motive (arg :: following))
    (after : List String) : motive after := by
  induction after using hoistLoop.induct with
  | case1 => exact nil
  | case2 following => exact dashes following
  | case3 arg following harg consumed hglobal ih | case4 arg following harg consumed hglobal ih =>
    rcases consumeOne_shape arg following with h | ⟨value, rest, rfl, h⟩ | h
    · exact alone arg following harg h (by simpa only [consumed, h] using ih)
    · exact paired arg value rest harg h (by simpa only [consumed, h] using ih)
    · exact kept arg following harg h (by simpa only [consumed, h] using ih)

/-- The first token hoisted has been consumed as a global option. -/
theorem consumed_of_hoisted {after : List String} {t : String} {ts : List String}
    (h : (hoistLoop after).1 = t :: ts) :
    ∃ following tokens rest, consumeOne t following = (tokens, rest, true) := by
  induction after using hoistLoop_induction with
  | nil => simp at h
  | dashes following => simp at h
  | alone arg following harg hconsume ih =>
    rw [hoistLoop_alone harg hconsume] at h
    rw [← (List.cons.inj h).1]
    exact ⟨_, _, _, hconsume⟩
  | paired arg value rest harg hconsume ih =>
    rw [hoistLoop_paired harg hconsume] at h
    rw [← (List.cons.inj h).1]
    exact ⟨_, _, _, hconsume⟩
  | kept arg following harg hconsume ih =>
    rw [hoistLoop_kept harg hconsume] at h
    exact ih h

/-- Whatever is hoisted first looks like an option. -/
theorem startsWith_of_hoisted {after : List String} {t : String} {ts : List String}
    (h : (hoistLoop after).1 = t :: ts) : startsWith t "-" = true := by
  obtain ⟨following, tokens, rest, hconsume⟩ := consumed_of_hoisted h
  exact startsWith_of_consumeOne hconsume

/-- The loop only moves tokens. -/
theorem hoistLoop_perm (after : List String) :
    ((hoistLoop after).1 ++ (hoistLoop after).2).Perm after := by
  induction after using hoistLoop_induction with
  | nil => simp
  | dashes following => simp
  | alone arg following harg hconsume ih =>
    rw [hoistLoop_alone harg hconsume]
    exact ih.cons arg
  | paired arg value rest harg hconsume ih =>
    rw [hoistLoop_paired harg hconsume]
    exact (ih.cons value).cons arg
  | kept arg following harg hconsume ih =>
    rw [hoistLoop_kept harg hconsume]
    exact List.perm_middle.trans (ih.cons arg)

/-- The loop finds nothing more to hoist in what it has left. -/
theorem hoistLoop_remaining (after : List String) :
    hoistLoop (hoistLoop after).2 = ([], (hoistLoop after).2) := by
  induction after using hoistLoop_induction with
  | nil => simp
  | dashes following => simp
  | alone arg following harg hconsume ih => rwa [hoistLoop_alone harg hconsume]
  | paired arg value rest harg hconsume ih => rwa [hoistLoop_paired harg hconsume]
  | kept arg following harg hconsume ih =>
    have hagain : consumeOne arg (hoistLoop following).2 =
        ([arg], (hoistLoop following).2, false) := by
      rcases consumeOne_kept hconsume with rfl | hall
      · simpa using hconsume
      · exact hall _
    rw [hoistLoop_kept harg hconsume]
    dsimp only
    rw [hoistLoop_kept harg hagain, ih]

/-! ### Tokens among which nothing is hoisted -/

/-- No token before `--` is consumed as a global option. -/
def NothingHoisted : List String → Prop
  | [] => True
  | arg :: following =>
    arg = "--" ∨ (consumeOne arg following).2.2 = false ∧ NothingHoisted following

instance decidableNothingHoisted : (after : List String) → Decidable (NothingHoisted after)
  | [] => isTrue trivial
  | arg :: following =>
    have := decidableNothingHoisted following
    inferInstanceAs (Decidable (arg = "--" ∨ _ ∧ NothingHoisted following))

/-- The loop hoists nothing exactly when nothing is to be hoisted. -/
theorem hoisted_eq_nil_iff (after : List String) :
    (hoistLoop after).1 = [] ↔ NothingHoisted after := by
  induction after using hoistLoop_induction with
  | nil => simp [NothingHoisted]
  | dashes following => simp [NothingHoisted]
  | alone arg following harg hconsume ih =>
    simp [hoistLoop_alone harg hconsume, NothingHoisted, harg, hconsume]
  | paired arg value rest harg hconsume ih =>
    simp [hoistLoop_paired harg hconsume, NothingHoisted, harg, hconsume]
  | kept arg following harg hconsume ih =>
    simp [hoistLoop_kept harg hconsume, NothingHoisted, harg, hconsume, ih]

/-- Where nothing is hoisted, everything is left in place. -/
theorem hoistLoop_of_nothingHoisted {after : List String} (h : NothingHoisted after) :
    hoistLoop after = ([], after) := by
  induction after using hoistLoop_induction with
  | nil => simp
  | dashes following => simp
  | alone arg following harg hconsume ih => simp [NothingHoisted, harg, hconsume] at h
  | paired arg value rest harg hconsume ih => simp [NothingHoisted, harg, hconsume] at h
  | kept arg following harg hconsume ih =>
    simp only [NothingHoisted, harg, hconsume, false_or, true_and] at h
    rw [hoistLoop_kept harg hconsume, ih h]

/-! ### The scan for the subcommand -/

/-- Whether the scan takes a token for the name of the subcommand. -/
def looksLikeName (arg : String) : Bool := !startsWith arg "-" || arg == "-"

/-- The scan passes over a token. -/
def Passed (arg : String) : Prop := arg ≠ "--" ∧ looksLikeName arg = false

theorem looksLikeName_of_not_startsWith {arg : String} (h : startsWith arg "-" = false) :
    looksLikeName arg = true := by
  simp [looksLikeName, h]

theorem ne_dashes_of_looksLikeName {arg : String} (h : looksLikeName arg = true) :
    arg ≠ "--" := by
  rintro rfl
  exact absurd h (by decide)

/-- The tokens `-` and `--` are left in place. -/
theorem consumeOne_of_dashes {t : String} (ht : t = "-" ∨ t = "--") (following : List String) :
    consumeOne t following = ([t], following, false) := by
  have hparts : partitionAt '=' t = (t, "") ∧ globalOptions.lookup t = none ∧
      isRepeatedShortVerbose t = false := by
    rcases ht with rfl | rfl
    · exact ⟨partitionAt_of_notMem (by decide), by decide, by decide⟩
    · exact ⟨partitionAt_of_notMem (by decide), by decide, by decide⟩
  simp [consumeOne, hparts.1, hparts.2.1, hparts.2.2]

/-- A token consumed as a global option is passed over by the scan. -/
theorem passed_of_consumeOne {arg : String} {following tokens rest : List String}
    (h : consumeOne arg following = (tokens, rest, true)) : Passed arg := by
  have hne : ¬ (arg = "-" ∨ arg = "--") := by
    intro harg
    rw [consumeOne_of_dashes harg] at h
    simp at h
  obtain ⟨hdash, hdashes⟩ := not_or.mp hne
  exact ⟨hdashes, by simp [looksLikeName, startsWith_of_consumeOne h, hdash]⟩

/-- A token that looks like a name is left in place. -/
theorem consumeOne_of_name {s : String} (hs : looksLikeName s = true) (following : List String) :
    consumeOne s following = ([s], following, false) := by
  have hnot {tokens rest : List String} : consumeOne s following ≠ (tokens, rest, true) := by
    intro h
    exact Bool.false_ne_true ((passed_of_consumeOne h).2.symm.trans hs)
  rcases consumeOne_shape s following with h | ⟨value, rest, -, h⟩ | h
  · exact absurd h hnot
  · exact absurd h hnot
  · exact h

/-- If anything is hoisted, the first token of it is passed over by the scan, and hoisted again
wherever something follows it. -/
theorem exists_hoisted {after : List String} (h : ¬ NothingHoisted after) :
    ∃ t ts, (hoistLoop after).1 = t :: ts ∧ Passed t ∧
      ∀ other, other ≠ [] → (consumeOne t other).2.2 = true := by
  rw [← hoisted_eq_nil_iff] at h
  obtain ⟨t, ts, hts⟩ := List.exists_cons_of_ne_nil h
  obtain ⟨following, tokens, rest, hconsume⟩ := consumed_of_hoisted hts
  exact ⟨t, ts, hts, passed_of_consumeOne hconsume, fun _ => consumeOne_hoisted hconsume⟩

theorem findSubcommandIndex_cons_name {arg : String} (h : looksLikeName arg = true)
    (rest : List String) : findSubcommandIndex (arg :: rest) = some 0 := by
  rw [findSubcommandIndex, if_neg (ne_dashes_of_looksLikeName h)]
  exact if_pos h

theorem findSubcommandIndex_append {pre : List String} (hpre : ∀ t ∈ pre, Passed t)
    (rest : List String) :
    findSubcommandIndex (pre ++ rest) = (findSubcommandIndex rest).map (· + pre.length) := by
  induction pre with
  | nil => simp
  | cons t pre ih =>
    obtain ⟨ht, hpre⟩ := List.forall_mem_cons.mp hpre
    have hname : (!startsWith t "-" || t == "-") = false := ht.2
    rw [List.cons_append, findSubcommandIndex, if_neg ht.1, hname, ih hpre]
    simp [Function.comp_def, Nat.add_assoc]

/-- The scan takes the first token that looks like a name, if every token before it is passed
over. -/
theorem findSubcommandIndex_eq_some {argv : List String} {i : ℕ}
    (h : findSubcommandIndex argv = some i) :
    ∃ pre s after, argv = pre ++ s :: after ∧ i = pre.length ∧ (∀ t ∈ pre, Passed t) ∧
      looksLikeName s = true := by
  induction argv generalizing i with
  | nil => simp [findSubcommandIndex] at h
  | cons arg rest ih =>
    rw [findSubcommandIndex] at h
    split_ifs at h with hdashes hname
    · exact ⟨[], arg, rest, rfl, (Option.some.inj h).symm, by simp, hname⟩
    · obtain ⟨j, hj, rfl⟩ := Option.map_eq_some_iff.mp h
      obtain ⟨pre, s, after, rfl, rfl, hpre, hs⟩ := ih hj
      refine ⟨arg :: pre, s, after, rfl, rfl, ?_, hs⟩
      exact List.forall_mem_cons.mpr ⟨⟨hdashes, Bool.eq_false_iff.mpr hname⟩, hpre⟩

/-- An argument vector without a subcommand is left as it is. -/
theorem normalizeArgv_of_none {argv : List String} (h : findSubcommandIndex argv = none) :
    normalizeArgv argv = argv := by
  rw [normalizeArgv, h]

theorem normalizeArgv_append {pre : List String} (hpre : ∀ t ∈ pre, Passed t) {s : String}
    (hs : looksLikeName s = true) (after : List String) :
    normalizeArgv (pre ++ s :: after) =
      pre ++ (hoistLoop after).1 ++ s :: (hoistLoop after).2 := by
  rw [normalizeArgv, findSubcommandIndex_append hpre, findSubcommandIndex_cons_name hs]
  have hdrop : (pre ++ s :: after).drop (pre.length + 1) = after := by
    rw [← List.drop_drop, List.drop_left, List.drop_one, List.tail_cons]
  simp [hdrop]

end ClassroomSuite.Cli
