import Mathlib.Data.List.Induction
import Mathlib.Data.List.Perm.Basic
import ClassroomSuite.Cli.ArgvNormalize
import ClassroomSuite.Library.Traversal

/-!
# The arguments a plugin receives

A name that is no built-in command is looked for on the path, and what is found there is run with
the tokens after the name. The rewriter comes before the group that does this: it cannot tell a
plugin from a command, and takes the global options out of the tokens of either. So a plugin
receives its tokens unchanged only if there is no global option among them. It also has to be the
plugin's name that the rewriter takes for the subcommand, and not a value in front of it. If it was
a value, the options behind it move in front of it, the option before it takes the first of them for
its value, and one value is left over, which the parser takes for a name at the latest.

The parser of the group comes from Click and is described by what it does with an option.

Source: `main` of `cli/src/bcs/__main__.py`, `BcsGroup.resolve_command` of `cli/src/bcs/app.py`,
`cli/src/bcs/plugins.py`, `cli/src/bcs/commands/stubs.py`.

## Main definitions

* `GroupParser`, `GroupOption`: the parser, and the options it reads.
* `PluginHost`, `Resolution`, `resolveCommand`, `dispatch`, `main`.
* `behindValue`: the options behind the first one with a value of its own.
* `tableParser`: a parser that satisfies the description.

## Main results

* `GroupParser.names_le_bare`: the parser ends behind no more values than options that take one.
* `GroupParser.parse_hoisted_ne`, `GroupParser.parse_misplaced_ne`: where it does not end.
* `main_passthrough_iff`: when a plugin receives its tokens unchanged.
-/

namespace ClassroomSuite.Cli

open Library

/-- The parser of the group: it gives the name of the command and the tokens after it, or refuses
the tokens or has nothing to run. It takes the first token that looks like a name for the command,
and leaves everything after the command alone. An option is refused, or consumed: alone, or with the
token after it, whatever this is, if it takes a value that it does not hold itself. -/
structure GroupParser where
  parse : List String → Option (String × List String)
  takesValue : String → Bool
  parse_name : ∀ name rest, looksLikeName name = true → parse (name :: rest) = some (name, rest)
  parse_suffix : ∀ tokens name rest, parse tokens = some (name, rest) → name :: rest <:+ tokens
  parse_alone : ∀ t rest, Passed t → takesValue t = false →
    parse (t :: rest) = none ∨ parse (t :: rest) = parse rest
  parse_value : ∀ t value rest, Passed t → takesValue t = true →
    parse (t :: value :: rest) = none ∨ parse (t :: value :: rest) = parse rest
  parse_missing : ∀ t, Passed t → takesValue t = true → parse [t] = none

/-- An option in front of the name: one token, or two tokens, of which the second is a value that
does not look like an option. -/
inductive GroupOption (group : GroupParser) where
  | alone (t : String) (hpassed : Passed t) (halone : group.takesValue t = false)
  | separate (t value : String) (hpassed : Passed t) (htakes : group.takesValue t = true)
      (hvalue : looksLikeName value = true)

namespace GroupOption

variable {group : GroupParser}

/-- The tokens an option is written as. -/
def tokens : GroupOption group → List String
  | .alone t _ _ => [t]
  | .separate t value _ _ _ => [t, value]

/-- Whether an option is one token. -/
def isAlone : GroupOption group → Bool
  | .alone .. => true
  | .separate .. => false

/-- The parser accepts an option: it consumes it, and goes on behind it. -/
def Accepted (o : GroupOption group) : Prop :=
  ∀ rest, group.parse (o.tokens ++ rest) = group.parse rest

end GroupOption

/-- The built-in commands (`_KNOWN_COMMANDS`). -/
def knownCommands : List String :=
  ["doctor", "validate", "version", "inventory", "build", "install", "deploy", "backup", "restore",
    "update", "config"]

/-- Where plugins are looked for: the executable for a name, and the command that an unknown name is
closest to. -/
structure PluginHost where
  findPlugin : String → Option String
  suggestCommand : String → List String → Option String

/-- What becomes of an argument vector. -/
inductive Resolution where
  | usageError
  | command (name : String) (args : List String)
  | runPlugin (executable : String) (args : List String)
  | unknown (message : String)

/-- The arguments that a plugin is run with, if one is run. -/
def Resolution.pluginArgs : Resolution → Option (List String)
  | .runPlugin _ args => some args
  | .usageError | .command .. | .unknown _ => none

/-- The command for the tokens that the parser has left. A plugin is looked for only if there is no
built-in command of the name. -/
def resolveCommand (host : PluginHost) (args : List String) : Resolution :=
  let name := args.headD ""
  if args ≠ [] ∧ name ∈ knownCommands then .command name (args.drop 1)
  else match host.findPlugin name with
    | some executable => .runPlugin executable (args.drop 1)
    | none => .unknown ("bcs: unknown command '" ++ name ++ "'" ++
        match host.suggestCommand name knownCommands with
        | some suggestion => " - did you mean '" ++ suggestion ++ "'?"
        | none => "")

/-- The group, on tokens. -/
def dispatch (group : GroupParser) (host : PluginHost) (tokens : List String) : Resolution :=
  match group.parse tokens with
  | none => .usageError
  | some (name, args) => resolveCommand host (name :: args)

/-- The program, on an argument vector. -/
def main (group : GroupParser) (host : PluginHost) (argv : List String) : Resolution :=
  dispatch group host (normalizeArgv argv)

/-! ### Options in front of the name -/

section Options

variable {group : GroupParser}

/-- The tokens of options, in order. -/
def groupTokens (options : List (GroupOption group)) : List String :=
  options.flatMap GroupOption.tokens

@[simp] theorem groupTokens_nil : groupTokens ([] : List (GroupOption group)) = [] := rfl

/-- The options behind the first one that has a value of its own. -/
def behindValue (options : List (GroupOption group)) : List (GroupOption group) :=
  (options.dropWhile GroupOption.isAlone).drop 1

/-- Options of one token are passed over by the scan for the subcommand. -/
theorem passed_of_isAlone {options : List (GroupOption group)}
    (h : ∀ o ∈ options, o.isAlone = true) : ∀ t ∈ groupTokens options, Passed t := by
  intro t ht
  obtain ⟨o, ho, hto⟩ := List.mem_flatMap.mp ht
  have halone := h o ho
  cases o with
  | alone u hpassed _ =>
    obtain rfl := List.mem_singleton.mp hto
    exact hpassed
  | separate => cases halone

/-- Either all options are one token, or there is a first one that has a value of its own. -/
theorem isAlone_or_exists (options : List (GroupOption group)) :
    (∀ o ∈ options, o.isAlone = true) ∨ ∃ before t value hpassed htakes hvalue behind,
      options = before ++ .separate t value hpassed htakes hvalue :: behind ∧
        ∀ o ∈ before, o.isAlone = true := by
  rcases forall_or_exists_first (fun o : GroupOption group => o.isAlone = true) options with
    h | ⟨before, o, behind, hoptions, hbefore, ho⟩
  · exact Or.inl h
  · cases o with
    | alone => exact absurd rfl ho
    | separate t value hpassed htakes hvalue =>
      exact Or.inr ⟨before, t, value, hpassed, htakes, hvalue, behind, hoptions, hbefore⟩

theorem behindValue_of_isAlone {options : List (GroupOption group)}
    (h : ∀ o ∈ options, o.isAlone = true) : behindValue options = [] := by
  rw [behindValue, List.dropWhile_eq_nil_iff.mpr h, List.drop_nil]

theorem behindValue_append {before behind : List (GroupOption group)} {o : GroupOption group}
    (h : ∀ o ∈ before, o.isAlone = true) (ho : o.isAlone = false) :
    behindValue (before ++ o :: behind) = behind := by
  rw [behindValue, List.dropWhile_append_of_pos h, List.dropWhile_cons_of_neg (by simp [ho]),
    List.drop_one, List.tail_cons]

/-- A name is no option, so what is behind it decides. -/
theorem nothingHoisted_name_iff {name : String} (hname : looksLikeName name = true)
    (tail : List String) : NothingHoisted (name :: tail) ↔ NothingHoisted tail := by
  simp [NothingHoisted, consumeOne_of_name hname, ne_dashes_of_looksLikeName hname]

end Options

/-! ### Where the parser ends -/

section Ends

variable {group : GroupParser}

/-- Whether a token is an option whose value has to be the next token. -/
def GroupParser.isBare (group : GroupParser) (t : String) : Bool :=
  !looksLikeName t && group.takesValue t

theorem GroupParser.isBare_of_name {t : String} (h : looksLikeName t = true) :
    group.isBare t = false := by
  simp [isBare, h]

/-- An option comes with a value that looks like a name if it takes one. -/
theorem GroupOption.bare_le_names (o : GroupOption group) :
    o.tokens.countP group.isBare ≤ o.tokens.countP looksLikeName := by
  cases o with
  | alone t hpassed halone => simp [tokens, GroupParser.isBare, halone]
  | separate t value hpassed htakes hvalue =>
    simp [tokens, GroupParser.isBare, hpassed.2, htakes, hvalue]

/-- No token of an option is `--`. -/
theorem ne_dashes_of_mem_groupTokens {options : List (GroupOption group)} {t : String}
    (h : t ∈ groupTokens options) : t ≠ "--" := by
  obtain ⟨o, -, ho⟩ := List.mem_flatMap.mp h
  cases o with
  | alone u hpassed halone =>
    obtain rfl := List.mem_singleton.mp ho
    exact hpassed.1
  | separate u value hpassed htakes hvalue =>
    rcases List.mem_pair.mp ho with rfl | rfl
    · exact hpassed.1
    · exact ne_dashes_of_looksLikeName hvalue

/-- Options come with a value that looks like a name for every option that takes one. -/
theorem bare_le_names (options : List (GroupOption group)) :
    (groupTokens options).countP group.isBare ≤ (groupTokens options).countP looksLikeName := by
  induction options with
  | nil => exact le_refl _
  | cons o options ih =>
    rw [groupTokens, List.flatMap_cons, List.countP_append, List.countP_append]
    exact Nat.add_le_add o.bare_le_names ih

/-- If a token that is no name has changed places with one among options and names, the other tokens
hold more names than options that take a value. -/
theorem bare_lt_names_of_perm {consumed : List String} {t name value plugin : String}
    {behind : List (GroupOption group)} (ht : looksLikeName t = false)
    (hname : looksLikeName name = true) (hvalue : looksLikeName value = true)
    (hplugin : looksLikeName plugin = true)
    (h : (t :: consumed ++ [name]).Perm (value :: (groupTokens behind ++ [plugin]))) :
    consumed.countP group.isBare < consumed.countP looksLikeName := by
  have hnames := h.countP_eq looksLikeName
  have hbares := h.countP_eq group.isBare
  have hbehind := bare_le_names behind
  simp only [List.cons_append, List.countP_cons, List.countP_append, List.countP_nil, ht, hname,
    hvalue, hplugin, GroupParser.isBare_of_name hname, GroupParser.isBare_of_name hvalue,
    GroupParser.isBare_of_name hplugin, Bool.false_eq_true, if_false, if_true] at hnames hbares
  omega

namespace GroupParser

/-- The parser goes on behind options that it accepts. -/
theorem parse_groupTokens {options : List (GroupOption group)} (h : ∀ o ∈ options, o.Accepted)
    (rest : List String) : group.parse (groupTokens options ++ rest) = group.parse rest := by
  induction options with
  | nil => rfl
  | cons o options ih =>
    obtain ⟨ho, hoptions⟩ := List.forall_mem_cons.mp h
    rw [groupTokens, List.flatMap_cons, List.append_assoc, ho]
    exact ih hoptions

variable {name : String} {tokens rest tail : List String}

theorem length_lt_of_parse (h : group.parse tokens = some (name, tail)) :
    tail.length < tokens.length := by
  have hlength := (group.parse_suffix _ _ _ h).length_le
  rwa [List.length_cons] at hlength

theorem parse_of_alone {t : String} (ht : Passed t) (halone : group.takesValue t = false)
    (h : group.parse (t :: rest) = some (name, tail)) : group.parse rest = some (name, tail) := by
  rcases group.parse_alone t rest ht halone with hnone | hrest
  · exact absurd (hnone.symm.trans h) (by simp)
  · exact hrest.symm.trans h

theorem parse_of_value {t value : String} (ht : Passed t) (htakes : group.takesValue t = true)
    (h : group.parse (t :: value :: rest) = some (name, tail)) :
    group.parse rest = some (name, tail) := by
  rcases group.parse_value t value rest ht htakes with hnone | hrest
  · exact absurd (hnone.symm.trans h) (by simp)
  · exact hrest.symm.trans h

/-- The parser does not end at an option. -/
theorem length_lt_of_parse_passed {t : String} (ht : Passed t)
    (h : group.parse (t :: rest) = some (name, tail)) : tail.length < rest.length := by
  cases htakes : group.takesValue t with
  | false => exact length_lt_of_parse (parse_of_alone ht htakes h)
  | true =>
    cases rest with
    | nil => exact absurd ((group.parse_missing t ht htakes).symm.trans h) (by simp)
    | cons value rest =>
      exact (length_lt_of_parse (parse_of_value ht htakes h)).trans (Nat.lt_succ_self _)

/-- The parser ends at a token that looks like a name, if this is what it finds first. -/
theorem parse_name_ne {t : String} (ht : looksLikeName t = true) (consumed : List String) :
    group.parse (t :: (consumed ++ name :: tail)) ≠ some (name, tail) := by
  intro h
  rw [group.parse_name _ _ ht] at h
  have hlength := congrArg List.length (Prod.ext_iff.mp (Option.some.inj h)).2
  simp only [List.length_append, List.length_cons] at hlength
  omega

/-- The parser ends only after as many options that take a value as there are tokens that look like
a name before its end: each of these has been the value of one. -/
theorem names_le_bare (consumed : List String) (hdashes : ∀ t ∈ consumed, t ≠ "--")
    (h : group.parse (consumed ++ name :: tail) = some (name, tail)) :
    group.parse (name :: tail) = some (name, tail) ∧
      consumed.countP looksLikeName ≤ consumed.countP group.isBare := by
  induction consumed using List.twoStepInduction with
  | nil => exact ⟨h, le_refl _⟩
  | singleton t =>
    cases ht : looksLikeName t with
    | true => exact absurd h (parse_name_ne ht [])
    | false =>
      have hpassed : Passed t := ⟨hdashes t (List.mem_singleton_self t), ht⟩
      cases htakes : group.takesValue t with
      | false => exact ⟨parse_of_alone hpassed htakes h, by simp [ht]⟩
      | true =>
        exact absurd (length_lt_of_parse (parse_of_value hpassed htakes h)) (lt_irrefl _)
  | cons_cons t u consumed ih ih' =>
    obtain ⟨hne, hdashes⟩ := List.forall_mem_cons.mp hdashes
    cases ht : looksLikeName t with
    | true => exact absurd h (parse_name_ne ht (u :: consumed))
    | false =>
      have hpassed : Passed t := ⟨hne, ht⟩
      cases htakes : group.takesValue t with
      | false =>
        obtain ⟨hend, hle⟩ := ih' u hdashes (parse_of_alone hpassed htakes h)
        refine ⟨hend, ?_⟩
        rw [List.countP_cons_of_neg (by simp [ht])]
        exact hle.trans (List.sublist_cons_self t _).countP_le
      | true =>
        -- The option takes `u`, which may look like a name.
        obtain ⟨hend, hle⟩ :=
          ih (List.forall_mem_cons.mp hdashes).2 (parse_of_value hpassed htakes h)
        have hu := List.countP_le_length (p := looksLikeName) (l := [u])
        have hbare : group.isBare t = true := by simp [isBare, ht, htakes]
        refine ⟨hend, ?_⟩
        simp only [List.countP_cons, List.countP_nil, List.length_singleton, ht, hbare] at hu ⊢
        simp only [Bool.false_eq_true, if_false, if_true]
        omega

/-- What the parser ends at looks like a name. -/
theorem looksLikeName_of_parse (hdashes : name ≠ "--")
    (h : group.parse (name :: tail) = some (name, tail)) : looksLikeName name = true := by
  by_contra hname
  exact lt_irrefl _ (length_lt_of_parse_passed ⟨hdashes, Bool.eq_false_iff.mpr hname⟩ h)

/-- When options have been moved in front of the name, the parser does not end before all that was
behind the name. -/
theorem parse_hoisted_ne {plugin : String} (hhoisted : ¬ NothingHoisted tail) :
    group.parse ((hoistLoop tail).1 ++ plugin :: (hoistLoop tail).2) ≠ some (name, tail) := by
  obtain ⟨t, ts, hts, hpassed, -⟩ := exists_hoisted hhoisted
  have hlength := (hoistLoop_perm tail).length_eq
  rw [hts, List.cons_append] at hlength ⊢
  intro h
  have hlt := length_lt_of_parse_passed hpassed h
  simp only [List.length_append, List.length_cons] at hlength hlt
  omega

/-- When options have been moved in front of a value, the option before it takes one of them for its
value, and the parser does not end before what was behind the name. -/
theorem parse_misplaced_ne {option value plugin : String} {behind : List (GroupOption group)}
    (hoption : Passed option) (htakes : group.takesValue option = true)
    (hvalue : looksLikeName value = true) (hplugin : looksLikeName plugin = true)
    (hhoisted : ¬ NothingHoisted (groupTokens behind ++ plugin :: tail)) :
    group.parse (option :: ((hoistLoop (groupTokens behind ++ plugin :: tail)).1 ++
      value :: (hoistLoop (groupTokens behind ++ plugin :: tail)).2)) ≠ some (name, tail) := by
  obtain ⟨t, ts, hts, hpassed, -⟩ := exists_hoisted hhoisted
  have hmoved := hoistLoop_perm (groupTokens behind ++ plugin :: tail)
  rw [hts, List.cons_append] at hmoved ⊢
  intro h
  have hlength := hmoved.length_eq
  simp only [List.length_append, List.length_cons] at hlength
  -- There is no less behind the first option moved than behind the plugin's name.
  obtain ⟨consumed, hconsumed⟩ :
      name :: tail <:+ ts ++ value :: (hoistLoop (groupTokens behind ++ plugin :: tail)).2 := by
    refine List.suffix_of_suffix_length_le (group.parse_suffix _ _ _ h) ⟨[option, t], rfl⟩ ?_
    simp only [List.length_append, List.length_cons]
    omega
  have hperm : (t :: consumed ++ [name]).Perm (value :: (groupTokens behind ++ [plugin])) := by
    have hfront : value :: (groupTokens behind ++ [plugin]) ++ tail =
        value :: (groupTokens behind ++ plugin :: tail) := by simp
    refine (List.perm_append_right_iff tail).mp ?_
    rw [hfront, List.append_assoc, List.singleton_append, List.cons_append, hconsumed]
    exact (@List.perm_middle _ value (t :: ts) _).trans (hmoved.cons value)
  have hdashes : ∀ u ∈ t :: consumed ++ [name], u ≠ "--" := by
    intro u hu
    have hu' := hperm.mem_iff.mp hu
    simp only [List.mem_cons, List.mem_append, List.not_mem_nil, or_false] at hu'
    rcases hu' with rfl | hu' | rfl
    · exact ne_dashes_of_looksLikeName hvalue
    · exact ne_dashes_of_mem_groupTokens hu'
    · exact ne_dashes_of_looksLikeName hplugin
  rw [← hconsumed] at h
  obtain ⟨hend, hle⟩ := names_le_bare consumed (fun u hu => hdashes u (by simp [hu]))
    (parse_of_value hoption htakes h)
  have hname := looksLikeName_of_parse (hdashes name (by simp)) hend
  have hlt := bare_lt_names_of_perm hpassed.2 hname hvalue hplugin hperm
  omega

end GroupParser

end Ends

/-! ### A parser -/

/-- Whether a token is a global option whose value has to be the next token. -/
def tableTakesValue (t : String) : Bool := globalOptions.lookup t = some true

/-- Whether a token is a global option without a value, or with one behind `=`. -/
def isSingle (t : String) : Bool :=
  globalOptions.lookup t = some false || isRepeatedShortVerbose t ||
    ('=' ∈ t.toList && globalOptions.lookup (partitionAt '=' t).1 = some true)

/-- A parser that knows the global options and accepts every value. Behind `--` it takes the next
token for the command. -/
def parseTokens : List String → Option (String × List String)
  | [] => none
  | t :: rest =>
    if looksLikeName t then some (t, rest)
    else if t = "--" then
      match rest with
      | [] => none
      | name :: rest => some (name, rest)
    else if tableTakesValue t then
      match rest with
      | [] => none
      | _ :: rest => parseTokens rest
    else if isSingle t then parseTokens rest
    else none

theorem parseTokens_name {name : String} (h : looksLikeName name = true) (rest : List String) :
    parseTokens (name :: rest) = some (name, rest) := by
  cases rest <;> simp [parseTokens, h]

theorem parseTokens_value {t : String} (ht : Passed t) (htakes : tableTakesValue t = true)
    (value : String) (rest : List String) :
    parseTokens (t :: value :: rest) = parseTokens rest := by
  simp [parseTokens, ht.1, ht.2, htakes]

theorem parseTokens_alone {t : String} (ht : Passed t) (htakes : tableTakesValue t = false)
    (rest : List String) :
    parseTokens (t :: rest) = none ∨ parseTokens (t :: rest) = parseTokens rest := by
  cases hsingle : isSingle t <;> cases rest <;>
    simp [parseTokens, ht.1, ht.2, htakes, hsingle]

/-- The tokens behind the command are those at the end. -/
theorem parseTokens_suffix (tokens : List String) (name : String) (rest : List String)
    (h : parseTokens tokens = some (name, rest)) : name :: rest <:+ tokens := by
  induction tokens using List.twoStepInduction with
  | nil => simp [parseTokens] at h
  | singleton t =>
    by_cases hname : looksLikeName t = true
    · rw [parseTokens_name hname] at h
      cases h
      exact List.suffix_refl _
    · simp [parseTokens, hname] at h
  | cons_cons t u tokens ih ih' =>
    by_cases hname : looksLikeName t = true
    · rw [parseTokens_name hname] at h
      cases h
      exact List.suffix_refl _
    by_cases hdashes : t = "--"
    · simp only [parseTokens, hdashes, if_true] at h
      cases h
      exact List.suffix_cons _ _
    have hpassed : Passed t := ⟨hdashes, Bool.eq_false_iff.mpr hname⟩
    cases htakes : tableTakesValue t with
    | true =>
      rw [parseTokens_value hpassed htakes] at h
      exact (ih h).trans ((List.suffix_cons _ _).trans (List.suffix_cons _ _))
    | false =>
      rcases parseTokens_alone hpassed htakes (u :: tokens) with hnone | hrest
      · exact absurd (hnone.symm.trans h) (by simp)
      · exact (ih' u (hrest.symm.trans h)).trans (List.suffix_cons _ _)

/-- The parser of the table of options. -/
def tableParser : GroupParser where
  parse := parseTokens
  takesValue := tableTakesValue
  parse_name name rest hname := parseTokens_name hname rest
  parse_suffix := parseTokens_suffix
  parse_alone t rest ht htakes := parseTokens_alone ht htakes rest
  parse_value t value rest ht htakes := Or.inr (parseTokens_value ht htakes value rest)
  parse_missing t ht htakes := by simp [parseTokens, ht.1, ht.2, htakes]

/-! ### Running a plugin -/

variable {group : GroupParser} {host : PluginHost}

/-- A plugin is run with what the parser has left. -/
theorem parse_of_pluginArgs {tokens args : List String}
    (h : (dispatch group host tokens).pluginArgs = some args) :
    ∃ name, group.parse tokens = some (name, args) := by
  unfold dispatch at h
  split at h
  · cases h
  · rename_i name rest hparse
    unfold resolveCommand at h
    dsimp only at h
    split_ifs at h
    · cases h
    split at h
    · exact ⟨name, by rw [hparse, ← Option.some.inj h]; rfl⟩
    · cases h

/-- A name that is no built-in command runs its plugin. -/
theorem dispatch_eq_runPlugin {tokens args : List String} {name executable : String}
    (hparse : group.parse tokens = some (name, args)) (hname : name ∉ knownCommands)
    (hplugin : host.findPlugin name = some executable) :
    dispatch group host tokens = .runPlugin executable args := by
  rw [dispatch, hparse]
  simp [resolveCommand, hname, hplugin]

/-- Behind options that the parser accepts, a plugin receives its tokens unchanged exactly when the
rewriter finds nothing to hoist among them, nor among the options behind a value that it takes for
the name. -/
theorem main_passthrough_iff (group : GroupParser) (host : PluginHost)
    (options : List (GroupOption group)) (name : String) (tail : List String)
    (hoptions : ∀ o ∈ options, o.Accepted) (hname : looksLikeName name = true)
    (hunknown : name ∉ knownCommands) (hplugin : (host.findPlugin name).isSome = true) :
    (main group host (groupTokens options ++ name :: tail)).pluginArgs = some tail ↔
      NothingHoisted (groupTokens (behindValue options) ++ name :: tail) := by
  obtain ⟨executable, hexecutable⟩ := Option.isSome_iff_exists.mp hplugin
  have hkept (hsame : normalizeArgv (groupTokens options ++ name :: tail) =
      groupTokens options ++ name :: tail) :
      (main group host (groupTokens options ++ name :: tail)).pluginArgs = some tail := by
    have hparse : group.parse (groupTokens options ++ name :: tail) = some (name, tail) := by
      rw [GroupParser.parse_groupTokens hoptions, group.parse_name _ _ hname]
    rw [main, hsame, dispatch_eq_runPlugin hparse hunknown hexecutable]
    rfl
  rcases isAlone_or_exists options with
    halone | ⟨before, option, value, hpassed, htakes, hvalue, behind, rfl, hbefore⟩
  · have hnormal := normalizeArgv_append (passed_of_isAlone halone) hname tail
    rw [behindValue_of_isAlone halone, groupTokens_nil, List.nil_append,
      nothingHoisted_name_iff hname]
    constructor
    · intro h
      by_contra hhoisted
      obtain ⟨name', hparse⟩ := parse_of_pluginArgs h
      rw [hnormal, List.append_assoc, GroupParser.parse_groupTokens hoptions] at hparse
      exact GroupParser.parse_hoisted_ne hhoisted hparse
    · intro hnothing
      exact hkept (by rw [hnormal, hoistLoop_of_nothingHoisted hnothing, List.append_nil])
  · have hall : ∀ t ∈ groupTokens before ++ [option], Passed t :=
      List.forall_mem_append.mpr ⟨passed_of_isAlone hbefore, fun t ht =>
        List.mem_singleton.mp ht ▸ hpassed⟩
    have hargv : groupTokens (before ++ .separate option value hpassed htakes hvalue :: behind) ++
        name :: tail =
          (groupTokens before ++ [option]) ++ value :: (groupTokens behind ++ name :: tail) := by
      simp [groupTokens, GroupOption.tokens]
    have hnormal := normalizeArgv_append hall hvalue (groupTokens behind ++ name :: tail)
    rw [behindValue_append hbefore rfl]
    constructor
    · intro h
      by_contra hhoisted
      obtain ⟨name', hparse⟩ := parse_of_pluginArgs h
      rw [hargv, hnormal, List.append_assoc, List.append_assoc,
        GroupParser.parse_groupTokens fun o ho => hoptions o (List.mem_append_left _ ho)]
        at hparse
      exact GroupParser.parse_misplaced_ne hpassed htakes hvalue hname hhoisted hparse
    · intro hnothing
      refine hkept ?_
      rw [hargv, hnormal, hoistLoop_of_nothingHoisted hnothing, List.append_nil]

/-- A host with one plugin. -/
def pluginHost (plugin : String) : PluginHost where
  findPlugin name := if name = plugin then some ("/usr/bin/bcs-" ++ plugin) else none
  suggestCommand _ _ := none

/-- `main_passthrough_iff` at `bcs -v lab x`. -/
theorem main_passthrough_lab :
    (main tableParser (pluginHost "lab") ["-v", "lab", "x"]).pluginArgs = some ["x"] := by
  refine (main_passthrough_iff tableParser (pluginHost "lab")
    [.alone "-v" ⟨by decide, by decide⟩ (by decide)] "lab" ["x"] ?_ (by decide) (by decide)
    (by decide)).mpr (by decide +kernel)
  intro o ho rest
  obtain rfl := List.mem_singleton.mp ho
  cases rest <;> rfl

/-- In `bcs lab -v` the plugin does not receive `-v`. -/
theorem main_not_passthrough :
    (main tableParser (pluginHost "lab") ["lab", "-v"]).pluginArgs ≠ some ["-v"] := by
  decide +kernel

end ClassroomSuite.Cli
