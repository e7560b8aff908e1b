import Mathlib.Data.List.Flatten
import ClassroomSuite.Cli.EndOfOptions

/-!
# The rewriter as a stable partition

The rewriter neither loses nor invents a token. What comes after the subcommand falls into pieces
that follow each other: the units it hoists, which are options together with their values, and
single tokens that stay. The units go in front of the subcommand, and both parts keep their order.
An option with a value behind `=` is such a unit by itself, and so is a flag with anything behind
`=`; this holds for short names as for long ones.

Source: `cli/src/bcs/argv_normalize.py`.

## Main definitions

* `HoistedUnit`, `Piece`: what the loop consumes at once.
* `StablyPartitioned`: the law, for units of certain kinds.

## Main results

* `exists_pieces`: the loop in terms of pieces.
* `stablyPartitioned`: the law holds of every argument vector.
-/

namespace ClassroomSuite.Cli

open Library

/-- What the loop hoists at once: a flag, an option with its value behind `=`, a glued cluster, or
an option, which may have an empty value behind `=`, with the token that follows it. -/
inductive HoistedUnit where
  | flag (name : String) (hname : globalOptions.lookup name = some false)
  | inline (name value : String) (takesValue : Bool)
      (hname : globalOptions.lookup name = some takesValue) (hvalue : takesValue → value ≠ "")
  | cluster (token : String) (hcluster : isRepeatedShortVerbose token = true)
  | bare (name value : String) (hname : globalOptions.lookup name = some true)
  | emptyInline (name value : String) (hname : globalOptions.lookup name = some true)

/-- The tokens of a unit. -/
def HoistedUnit.tokens : HoistedUnit → List String
  | .flag name _ => [name]
  | .inline name value _ _ _ => [name ++ "=" ++ value]
  | .cluster token _ => [token]
  | .bare name value _ => [name, value]
  | .emptyInline name value _ => [name ++ "=", value]

/-- A unit with a value behind `=` has a long name. -/
def HoistedUnit.LongInline : HoistedUnit → Prop
  | .inline name _ _ _ _ => startsWith name "--" = true
  | _ => True

/-- What the loop consumes at once: a unit, or a token that stays. -/
inductive Piece where
  | unit (u : HoistedUnit)
  | token (t : String)

namespace Piece

/-- The tokens of a piece. -/
def tokens : Piece → List String
  | .unit u => u.tokens
  | .token t => [t]

/-- Whether a piece is hoisted. -/
def isUnit : Piece → Bool
  | .unit _ => true
  | .token _ => false

end Piece

/-- The tokens that are hoisted from the pieces, in order. -/
def hoistedTokens (pieces : List Piece) : List String :=
  (pieces.filter Piece.isUnit).flatMap Piece.tokens

/-- The tokens of the pieces that stay, in order. -/
def remainingTokens (pieces : List Piece) : List String :=
  (pieces.filter fun piece => !piece.isUnit).flatMap Piece.tokens

/-- The rewriter moves the tokens of an argument vector without losing any. What is in front of the
subcommand stays. What is after it falls into pieces, of which the units, all of the kinds listed,
go in front of the subcommand. -/
structure StablyPartitioned (listed : HoistedUnit → Prop) (argv : List String) : Prop where
  perm : (normalizeArgv argv).Perm argv
  pieces : ∀ i, findSubcommandIndex argv = some i → ∃ subcommand pieces,
    argv[i]? = some subcommand ∧ argv.drop (i + 1) = pieces.flatMap Piece.tokens ∧
      (∀ u, Piece.unit u ∈ pieces → listed u) ∧
      (hoistedTokens pieces).Sublist (argv.drop (i + 1)) ∧
      (remainingTokens pieces).Sublist (argv.drop (i + 1)) ∧
      normalizeArgv argv =
        argv.take i ++ hoistedTokens pieces ++ subcommand :: remainingTokens pieces

/-! ### Pieces -/

@[simp] theorem hoistedTokens_unit (u : HoistedUnit) (pieces : List Piece) :
    hoistedTokens (.unit u :: pieces) = u.tokens ++ hoistedTokens pieces := rfl

@[simp] theorem hoistedTokens_token (t : String) (pieces : List Piece) :
    hoistedTokens (.token t :: pieces) = hoistedTokens pieces := rfl

@[simp] theorem remainingTokens_unit (u : HoistedUnit) (pieces : List Piece) :
    remainingTokens (.unit u :: pieces) = remainingTokens pieces := rfl

@[simp] theorem remainingTokens_token (t : String) (pieces : List Piece) :
    remainingTokens (.token t :: pieces) = t :: remainingTokens pieces := rfl

theorem hoistedTokens_sublist (pieces : List Piece) :
    (hoistedTokens pieces).Sublist (pieces.flatMap Piece.tokens) :=
  List.filter_sublist.flatMap _

theorem remainingTokens_sublist (pieces : List Piece) :
    (remainingTokens pieces).Sublist (pieces.flatMap Piece.tokens) :=
  List.filter_sublist.flatMap _

/-- Tokens that all stay. -/
theorem pieces_token (tokens : List String) :
    (tokens.map Piece.token).flatMap Piece.tokens = tokens ∧
      hoistedTokens (tokens.map Piece.token) = [] ∧
      remainingTokens (tokens.map Piece.token) = tokens := by
  induction tokens with
  | nil => exact ⟨rfl, rfl, rfl⟩
  | cons t tokens ih =>
    obtain ⟨htokens, hhoisted, hremaining⟩ := ih
    refine ⟨?_, hhoisted, ?_⟩
    · rw [List.map_cons, List.flatMap_cons, htokens]
      rfl
    · rw [List.map_cons, remainingTokens_token, hremaining]

/-! ### The units -/

/-- A token with the name of an option is this name, or the name with something behind `=`. -/
theorem eq_option {arg : String} {takesValue : Bool}
    (h : globalOptions.lookup (partitionAt '=' arg).1 = some takesValue) :
    (∃ name, globalOptions.lookup name = some takesValue ∧ arg = name ∧
        (partitionAt '=' arg).2 = "") ∨
      ∃ name, globalOptions.lookup name = some takesValue ∧
        arg = name ++ "=" ++ (partitionAt '=' arg).2 := by
  rcases eq_partitionAt '=' arg with harg | harg
  · obtain ⟨-, -, -, hnotMem⟩ := globalOptions_names h
    rw [← harg] at hnotMem
    exact Or.inl ⟨_, h, harg, by rw [partitionAt_of_notMem hnotMem]⟩
  · exact Or.inr ⟨_, h, harg⟩

/-- What is hoisted alone is a unit. -/
theorem exists_unit_of_alone {arg : String} {following : List String}
    (h : consumeOne arg following = ([arg], following, true)) :
    ∃ u : HoistedUnit, u.tokens = [arg] := by
  cases hlookup : globalOptions.lookup (partitionAt '=' arg).1 with
  | none =>
    have hcluster : isRepeatedShortVerbose arg = true := by simpa [consumeOne, hlookup] using h
    exact ⟨.cluster arg hcluster, rfl⟩
  | some takesValue =>
    have hvalue : takesValue = true → (partitionAt '=' arg).2 ≠ "" := by
      rintro rfl hempty
      cases following <;> simp [consumeOne, hlookup, hempty] at h
    rcases eq_option hlookup with ⟨name, hname, rfl, hempty⟩ | ⟨name, hname, harg⟩
    · cases takesValue with
      | false => exact ⟨.flag arg hname, rfl⟩
      | true => exact absurd hempty (hvalue rfl)
    · exact ⟨.inline name _ takesValue hname hvalue, by rw [HoistedUnit.tokens, ← harg]⟩

/-- What is hoisted together with the token after it is a unit. -/
theorem exists_unit_of_paired {arg value : String} {rest : List String}
    (h : consumeOne arg (value :: rest) = ([arg, value], rest, true)) :
    ∃ u : HoistedUnit, u.tokens = [arg, value] := by
  cases htakes : takesNext arg with
  | false =>
    obtain ⟨isGlobal, hconsume⟩ := exists_consumeOne_eq htakes
    simp [hconsume] at h
  | true =>
    simp only [takesNext, Bool.and_eq_true, decide_eq_true_eq, beq_iff_eq] at htakes
    obtain ⟨hlookup, hempty⟩ := htakes
    rcases eq_option hlookup with ⟨name, hname, rfl, -⟩ | ⟨name, hname, harg⟩
    · exact ⟨.bare arg value hname, rfl⟩
    · rw [hempty, String.append_empty] at harg
      exact ⟨.emptyInline name value hname, by rw [HoistedUnit.tokens, ← harg]⟩

/-- The loop takes the tokens apart into pieces. -/
theorem exists_pieces (after : List String) :
    ∃ pieces : List Piece, after = pieces.flatMap Piece.tokens ∧
      hoistLoop after = (hoistedTokens pieces, remainingTokens pieces) := by
  induction after using hoistLoop_induction with
  | nil => exact ⟨[], rfl, hoistLoop_nil⟩
  | dashes following =>
    obtain ⟨htokens, hhoisted, hremaining⟩ := pieces_token ("--" :: following)
    exact ⟨_, htokens.symm, by rw [hhoisted, hremaining, hoistLoop_dashes]⟩
  | alone arg following harg hconsume ih =>
    obtain ⟨pieces, hpieces, hloop⟩ := ih
    obtain ⟨u, hu⟩ := exists_unit_of_alone hconsume
    refine ⟨.unit u :: pieces, ?_, ?_⟩
    · rw [List.flatMap_cons, ← hpieces, Piece.tokens, hu, List.singleton_append]
    · rw [hoistLoop_alone harg hconsume, hloop, hoistedTokens_unit, hu, remainingTokens_unit]
      rfl
  | paired arg value rest harg hconsume ih =>
    obtain ⟨pieces, hpieces, hloop⟩ := ih
    obtain ⟨u, hu⟩ := exists_unit_of_paired hconsume
    refine ⟨.unit u :: pieces, ?_, ?_⟩
    · rw [List.flatMap_cons, ← hpieces, Piece.tokens, hu]
      rfl
    · rw [hoistLoop_paired harg hconsume, hloop, hoistedTokens_unit, hu, remainingTokens_unit]
      rfl
  | kept arg following harg hconsume ih =>
    obtain ⟨pieces, hpieces, hloop⟩ := ih
    refine ⟨.token arg :: pieces, ?_, ?_⟩
    · rw [List.flatMap_cons, ← hpieces, Piece.tokens, List.singleton_append]
    · rw [hoistLoop_kept harg hconsume, hloop, hoistedTokens_token, remainingTokens_token]

/-! ### The law -/

/-- The rewriter is a stable partition of the tokens after the subcommand. -/
theorem stablyPartitioned (argv : List String) : StablyPartitioned (fun _ => True) argv := by
  cases hindex : findSubcommandIndex argv with
  | none =>
    exact {
      perm := by rw [normalizeArgv_of_none hindex]
      pieces := fun i hi => absurd (hindex.symm.trans hi) (by simp) }
  | some i =>
    obtain ⟨pre, s, after, rfl, rfl, hpre, hs⟩ := findSubcommandIndex_eq_some hindex
    obtain ⟨pieces, hpieces, hloop⟩ := exists_pieces after
    have hnormal := normalizeArgv_append hpre hs after
    have hdrop : (pre ++ s :: after).drop (pre.length + 1) = after := by
      simp [← List.drop_drop]
    refine { perm := ?_, pieces := fun j hj => ⟨s, pieces, ?_⟩ }
    · rw [hnormal, List.append_assoc]
      exact List.Perm.append_left _ (List.perm_middle.trans ((hoistLoop_perm after).cons s))
    · obtain rfl : pre.length = j := Option.some.inj (hindex.symm.trans hj)
      rw [hdrop, hnormal, hloop, List.take_left]
      refine ⟨by simp, hpieces, fun u _ => trivial, ?_, ?_, rfl⟩
      · exact hpieces ▸ hoistedTokens_sublist pieces
      · exact hpieces ▸ remainingTokens_sublist pieces

/-- No unit with a long name in front of `=` is written `-o=json`. -/
theorem not_longInline_short {u : HoistedUnit} {rest : List String}
    (h : u.tokens ++ rest = ["-o=json"]) : ¬ u.LongInline := by
  intro hlong
  cases u with
  | flag name hname =>
    obtain rfl : name = "-o=json" := (List.cons.inj h).1
    exact absurd hname (by decide)
  | inline name value takesValue hname hvalue =>
    have htoken : name ++ "=" ++ value = "-o=json" := (List.cons.inj h).1
    have hdashes := startsWith_append _ value _ (startsWith_append _ "=" _ hlong)
    rw [htoken] at hdashes
    exact absurd hdashes (by decide)
  | cluster token hcluster =>
    obtain rfl : token = "-o=json" := (List.cons.inj h).1
    exact absurd hcluster (by decide)
  | bare name value hname => exact absurd (List.cons.inj h).2 (List.cons_ne_nil _ _)
  | emptyInline name value hname => exact absurd (List.cons.inj h).2 (List.cons_ne_nil _ _)

/-- In `bcs build -o=json` a unit is hoisted that has a short name in front of `=`. -/
theorem not_stablyPartitioned_short :
    ¬ StablyPartitioned HoistedUnit.LongInline ["build", "-o=json"] := by
  intro h
  obtain ⟨s, pieces, hs, htokens, hlisted, hhoisted, -, hnormal⟩ := h.pieces 0 (by decide)
  have hnormal' : normalizeArgv ["build", "-o=json"] = ["-o=json", "build"] := by decide +kernel
  cases pieces with
  | nil => cases htokens
  | cons piece pieces =>
    cases piece with
    | unit u =>
      exact not_longInline_short htokens.symm (hlisted u List.mem_cons_self)
    | token t =>
      -- The token stays, so the subcommand comes first.
      have hrest : pieces.flatMap Piece.tokens = [] := (List.cons.inj htokens).2.symm
      have hnone := hoistedTokens_sublist pieces
      rw [hrest, List.sublist_nil] at hnone
      obtain rfl : "build" = s := Option.some.inj hs
      rw [hnormal', hoistedTokens_token, hnone] at hnormal
      exact absurd (List.cons.inj hnormal).1 (by decide)

end ClassroomSuite.Cli
