import Mathlib.Data.List.Basic
import ClassroomSuite.Cli.ArgvNormalize
import ClassroomSuite.Library.Traversal

/-!
# Global options before and after the subcommand

The documented grammar lets a global option stand before or after the subcommand. Here the
arguments around a subcommand `s` are written in that grammar: a list of global option occurrences
before `s`, and an interleaving of global option occurrences with other tokens after it. The
rewriter is right when it moves the occurrences after `s` behind those before it, and nothing else.

It is not always right. A value given as a token of its own before `s` is taken for the
subcommand, and an option with an empty `=` value after `s` swallows the token that follows it.
`normalizeArgv_interleaving_iff` is the exact condition; the two exceptional ways of being right
in spite of a swallowed token (`SwallowsName`) are those where the swallowed token equals `s`.

Source: `docs/CLI.md`, section "Invocation Grammar"; `cli/src/bcs/argv_normalize.py`.

## Main definitions

* `GlobalOccurrence`, `ArgItem`, `PlainToken`.
* `WellPlaced`: the condition on the arguments.

## Main results

* `normalizeArgv_interleaving_iff`.
-/

namespace ClassroomSuite.Cli

open Library

/-- A well-formed occurrence of a global option. -/
inductive GlobalOccurrence where
  | flag (name : String) (hname : globalOptions.lookup name = some false)
  | separate (name value : String) (hname : globalOptions.lookup name = some true)
      (hvalue : startsWith value "-" = false)
  | inline (name value : String) (hname : globalOptions.lookup name = some true)
      (hlong : startsWith name "--" = true)

/-- The tokens an occurrence is written as. -/
def GlobalOccurrence.tokens : GlobalOccurrence → List String
  | .flag name _ => [name]
  | .separate name value _ _ => [name, value]
  | .inline name value _ _ => [name ++ "=" ++ value]

/-- One item after the subcommand: an occurrence of a global option, or another token. -/
inductive ArgItem where
  | option (o : GlobalOccurrence)
  | token (t : String)

/-- A token that is a global option, alone or with a value behind `=`. -/
def IsGlobalToken (t : String) : Prop :=
  ∃ name takesValue, globalOptions.lookup name = some takesValue ∧
    (t = name ∨ ∃ value, t = name ++ "=" ++ value)

/-- A token the rewriter has no business with. -/
def PlainToken (t : String) : Prop :=
  t ≠ "--" ∧ ¬ IsGlobalToken t ∧ isRepeatedShortVerbose t = false

namespace ArgItem

/-- The tokens of an item. -/
def tokens : ArgItem → List String
  | .option o => o.tokens
  | .token t => [t]

/-- The tokens of an item that are to be hoisted. -/
def optionTokens : ArgItem → List String
  | .option o => o.tokens
  | .token _ => []

/-- The tokens of an item that are to stay. -/
def plainTokens : ArgItem → List String
  | .option _ => []
  | .token t => [t]

/-- An option with an empty value behind `=`. -/
def isEmptyInline : ArgItem → Bool
  | .option (.inline _ value _ _) => value == ""
  | _ => false

/-- An option written as one token. -/
def isSingleOption : ArgItem → Bool
  | .option (.flag ..) => true
  | .option (.inline ..) => true
  | _ => false

/-- A token `s`, or an option with `s` as its separate value. -/
def endsWith (s : String) : ArgItem → Prop
  | .token t => t = s
  | .option (.separate _ value _ _) => value = s
  | _ => False

end ArgItem

/-- The tokens of the arguments after the subcommand. -/
def itemTokens (items : List ArgItem) : List String := items.flatMap ArgItem.tokens

/-- The tokens of the global options among them, in order. -/
def optionTokens (items : List ArgItem) : List String := items.flatMap ArgItem.optionTokens

/-- The other tokens among them, in order. -/
def plainTokens (items : List ArgItem) : List String := items.flatMap ArgItem.plainTokens

/-- Read from the left, every option with an empty `=` value is followed at once by an option
written as one token, which it takes along. -/
def EmptyInlinesPaired : List ArgItem → Prop
  | [] => True
  | [i] => i.isEmptyInline = false
  | i :: j :: rest =>
    if i.isEmptyInline then j.isSingleOption = true ∧ EmptyInlinesPaired rest
    else EmptyInlinesPaired (j :: rest)

/-- The last option with an empty `=` value takes along a token that stands for `s`: no option
follows it, and every plain token before it is `s` too. -/
def SwallowsName (s : String) : List ArgItem → Prop
  | [] => False
  | [_] => False
  | i :: j :: rest =>
    if i.isEmptyInline then
      if j.isSingleOption then SwallowsName s rest else j.endsWith s ∧ optionTokens rest = []
    else (∀ t ∈ i.plainTokens, t = s) ∧ SwallowsName s (j :: rest)

/-- No option of the list gives its value as a token of its own. -/
def NoSeparateValue (os : List GlobalOccurrence) : Prop :=
  ∀ o ∈ os, ∃ t, o.tokens = [t]

/-- The arguments around the subcommand `s` on which the rewriter is right: no separate value
before `s`, and every empty `=` value after `s` followed by a one-token option; or one of the
coincidences, where a separate value is the very last token before `s` and no option follows `s`,
or where the token swallowed by the last empty `=` value is `s` again. -/
def WellPlaced (before : List GlobalOccurrence) (s : String) (items : List ArgItem) : Prop :=
  (NoSeparateValue before ∧ (EmptyInlinesPaired items ∨ SwallowsName s items)) ∨
    (∃ os o, before = os ++ [o] ∧ NoSeparateValue os ∧ ¬ NoSeparateValue [o] ∧
      optionTokens items = [])

/-! ### Tokens -/

theorem IsGlobalToken.startsWith {t : String} (h : IsGlobalToken t) : startsWith t "-" = true := by
  obtain ⟨name, takesValue, hname, rfl | ⟨value, rfl⟩⟩ := h
  · exact (globalOptions_names hname).1
  · exact startsWith_append _ _ _ (startsWith_append _ _ _ (globalOptions_names hname).1)

/-- A token that does not start with `-` is plain. -/
theorem plainToken_of_not_startsWith {t : String} (h : startsWith t "-" = false) :
    PlainToken t := by
  refine ⟨?_, fun hglobal => by simp [hglobal.startsWith] at h, ?_⟩
  · rintro rfl
    exact absurd h (by decide)
  · by_contra hverbose
    simp only [isRepeatedShortVerbose, Bool.not_eq_false, Bool.and_eq_true] at hverbose
    obtain ⟨r, rfl⟩ := startsWith_iff.mp hverbose.1.2
    rw [startsWith_append _ _ _ (by decide)] at h
    exact absurd h (by decide)

theorem consumeOne_of_plain {t : String} (h : PlainToken t) (following : List String) :
    consumeOne t following = ([t], following, false) := by
  have hname : globalOptions.lookup (partitionAt '=' t).1 = none := by
    rw [Option.eq_none_iff_forall_ne_some]
    intro takesValue hlookup
    refine h.2.1 ⟨_, takesValue, hlookup, ?_⟩
    rcases eq_partitionAt '=' t with ht | ht
    · exact Or.inl ht
    · exact Or.inr ⟨_, ht⟩
  simp [consumeOne, hname, h.2.2]

theorem hoistLoop_plain {t : String} (h : PlainToken t) (following : List String) :
    hoistLoop (t :: following) = ((hoistLoop following).1, t :: (hoistLoop following).2) := by
  rw [hoistLoop_cons h.1 (consumeOne_of_plain h following)]
  rfl

theorem ArgItem.exists_of_isEmptyInline {i : ArgItem} (h : i.isEmptyInline = true) :
    ∃ name hname hlong, i = .option (.inline name "" hname hlong) := by
  match i, h with
  | .option (.inline name value hname hlong), h =>
    obtain rfl : value = "" := by simpa [ArgItem.isEmptyInline] using h
    exact ⟨name, hname, hlong, rfl⟩

theorem ArgItem.exists_of_isSingleOption {i : ArgItem} (h : i.isSingleOption = true) :
    ∃ t, i.tokens = [t] ∧ i.optionTokens = [t] ∧ i.plainTokens = [] := by
  match i, h with
  | .option (.flag name hname), _ => exact ⟨name, rfl, rfl, rfl⟩
  | .option (.inline name value hname hlong), _ => exact ⟨_, rfl, rfl, rfl⟩

/-- The tokens of an occurrence begin with a global option. -/
theorem GlobalOccurrence.exists_tokens_eq (o : GlobalOccurrence) :
    ∃ t ts, o.tokens = t :: ts ∧ IsGlobalToken t := by
  cases o with
  | flag name hname => exact ⟨name, [], rfl, name, false, hname, Or.inl rfl⟩
  | separate name value hname hvalue =>
    exact ⟨name, [value], rfl, name, true, hname, Or.inl rfl⟩
  | inline name value hname hlong =>
    exact ⟨_, [], rfl, name, true, hname, Or.inr ⟨value, rfl⟩⟩

/-- The hoisted tokens begin with a global option. -/
theorem exists_of_optionTokens_ne_nil {items : List ArgItem} (h : optionTokens items ≠ []) :
    ∃ t ts, optionTokens items = t :: ts ∧ IsGlobalToken t := by
  induction items with
  | nil => exact absurd rfl h
  | cons i items ih =>
    cases i with
    | token t => exact ih h
    | option o =>
      obtain ⟨t, ts, ho, hglobal⟩ := o.exists_tokens_eq
      refine ⟨t, ts ++ optionTokens items, ?_, hglobal⟩
      rw [optionTokens, List.flatMap_cons, ArgItem.optionTokens, ho]
      rfl

theorem inline_ne_dashes (name value : String) : name ++ "=" ++ value ≠ "--" := by
  intro h
  have hmem : '=' ∈ (name ++ "=" ++ value).toList := by simp
  rw [h] at hmem
  exact absurd hmem (by decide)

/-! ### One item -/

/-- An item that is no empty inline value is taken apart as it was written. -/
theorem hoistLoop_tokens {i : ArgItem} (hi : i.isEmptyInline = false)
    (hplain : ∀ t ∈ i.plainTokens, PlainToken t) (following : List String) :
    hoistLoop (i.tokens ++ following) =
      (i.optionTokens ++ (hoistLoop following).1, i.plainTokens ++ (hoistLoop following).2) := by
  cases i with
  | token t => exact hoistLoop_plain (hplain t (by simp [ArgItem.plainTokens])) following
  | option o =>
    cases o with
    | flag name hname =>
      have hne := (globalOptions_names hname).2.2.1
      exact hoistLoop_cons hne (consumeOne_of_flag hname following)
    | separate name value hname hvalue =>
      have hne := (globalOptions_names hname).2.2.1
      have htakes := takesNext_of_separate hname
      exact hoistLoop_cons hne (consumeOne_of_takesNext htakes value following)
    | inline name value hname hlong =>
      have hvalue : value ≠ "" := by simpa [ArgItem.isEmptyInline] using hi
      exact hoistLoop_cons (inline_ne_dashes name value)
        (consumeOne_of_inline hname hvalue following)

/-- An empty inline value takes the next token along, whatever it is. -/
theorem hoistLoop_emptyInline {name : String} (hname : globalOptions.lookup name = some true)
    (t : String) (following : List String) :
    hoistLoop ((name ++ "=" ++ "") :: t :: following) =
      ((name ++ "=" ++ "") :: t :: (hoistLoop following).1, (hoistLoop following).2) :=
  hoistLoop_cons (inline_ne_dashes name "")
    (consumeOne_of_takesNext (takesNext_of_emptyInline hname) t following)

theorem hoistLoop_emptyInline_last {name : String}
    (hname : globalOptions.lookup name = some true) :
    hoistLoop [name ++ "=" ++ ""] = ([], [name ++ "=" ++ ""]) := by
  rw [hoistLoop_cons (inline_ne_dashes name "")
    (consumeOne_nil_of_takesNext (takesNext_of_emptyInline hname))]
  simp

/-- Without options among the items, nothing is hoisted. -/
theorem hoistLoop_of_no_options {items : List ArgItem}
    (hplain : ∀ t ∈ plainTokens items, PlainToken t) (h : optionTokens items = []) :
    hoistLoop (itemTokens items) = ([], plainTokens items) := by
  induction items with
  | nil => exact hoistLoop_nil
  | cons i items ih =>
    cases i with
    | option o =>
      obtain ⟨t, ts, ho, -⟩ := o.exists_tokens_eq
      simp [optionTokens, ArgItem.optionTokens, ho] at h
    | token t =>
      have hrest := ih (fun u hu => hplain u (List.mem_cons_of_mem _ hu)) h
      have ht : PlainToken t := hplain t List.mem_cons_self
      rw [show itemTokens (.token t :: items) = t :: itemTokens items from rfl,
        hoistLoop_plain ht, hrest]
      rfl

/-! ### All items -/

/-- The loop puts the options of `items` before `s`, and their other tokens after `s` and after
`shifted`. -/
def Separates (s : String) (shifted : List String) (items : List ArgItem) : Prop :=
  (hoistLoop (itemTokens items)).1 ++ s :: (shifted ++ (hoistLoop (itemTokens items)).2) =
    optionTokens items ++ s :: (shifted ++ plainTokens items)

theorem separates_cons_iff {s : String} {shifted : List String} {i : ArgItem}
    {items : List ArgItem} (hi : i.isEmptyInline = false)
    (hplain : ∀ t ∈ i.plainTokens, PlainToken t) :
    Separates s shifted (i :: items) ↔ Separates s (shifted ++ i.plainTokens) items := by
  simp only [Separates, itemTokens, optionTokens, plainTokens, List.flatMap_cons,
    hoistLoop_tokens hi hplain, List.append_assoc, List.append_cancel_left_eq]

theorem separates_paired_iff {s : String} {shifted : List String} {i j : ArgItem}
    {items : List ArgItem} (hi : i.isEmptyInline = true) (hj : j.isSingleOption = true) :
    Separates s shifted (i :: j :: items) ↔ Separates s shifted items := by
  obtain ⟨name, hname, hlong, rfl⟩ := ArgItem.exists_of_isEmptyInline hi
  obtain ⟨t, htokens, hoption, hplain⟩ := ArgItem.exists_of_isSingleOption hj
  have hall : itemTokens (.option (.inline name "" hname hlong) :: j :: items) =
      (name ++ "=" ++ "") :: t :: itemTokens items := by
    rw [itemTokens, List.flatMap_cons, List.flatMap_cons, htokens]
    rfl
  have hoptions : optionTokens (.option (.inline name "" hname hlong) :: j :: items) =
      (name ++ "=" ++ "") :: t :: optionTokens items := by
    rw [optionTokens, List.flatMap_cons, List.flatMap_cons, hoption]
    rfl
  have hplains : plainTokens (.option (.inline name "" hname hlong) :: j :: items) =
      plainTokens items := by
    rw [plainTokens, List.flatMap_cons, List.flatMap_cons, hplain]
    rfl
  rw [Separates, Separates, hall, hoptions, hplains, hoistLoop_emptyInline hname]
  exact (List.cons_inj_right _).trans (List.cons_inj_right _)

/-- Moving `s` from the front of `l` to its back changes nothing only when `l` is all `s`. -/
theorem cons_eq_append_singleton_iff {s : String} {l : List String} :
    s :: l = l ++ [s] ↔ ∀ t ∈ l, t = s := by
  induction l with
  | nil => simp
  | cons t l ih =>
    rw [List.cons_append, List.cons.injEq, List.forall_mem_cons, ← ih]
    constructor
    · rintro ⟨rfl, h⟩
      exact ⟨rfl, h⟩
    · rintro ⟨rfl, h⟩
      exact ⟨rfl, h⟩

private theorem swallowed_iff {s t : String} {shifted rest : List String} :
    t :: s :: (shifted ++ rest) = s :: (shifted ++ t :: rest) ↔
      t = s ∧ ∀ u ∈ shifted, u = s := by
  rw [List.cons.injEq]
  refine and_congr_right fun hts => ?_
  rw [hts, show s :: (shifted ++ rest) = (s :: shifted) ++ rest from rfl,
    show shifted ++ s :: rest = (shifted ++ [s]) ++ rest by simp, List.append_cancel_right_eq,
    cons_eq_append_singleton_iff]

/-- A plain token swallowed by an empty inline value. -/
theorem separates_swallowed_token_iff {s name t : String} {shifted : List String}
    {items : List ArgItem} (hname : globalOptions.lookup name = some true)
    (hlong : startsWith name "--" = true) (ht : PlainToken t)
    (hplain : ∀ u ∈ plainTokens items, PlainToken u) :
    Separates s shifted (.option (.inline name "" hname hlong) :: .token t :: items) ↔
      (t = s ∧ ∀ u ∈ shifted, u = s) ∧ optionTokens items = [] := by
  have hloop := hoistLoop_emptyInline hname t (itemTokens items)
  have hsep : Separates s shifted (.option (.inline name "" hname hlong) :: .token t :: items) ↔
      t :: ((hoistLoop (itemTokens items)).1 ++ s :: (shifted ++ (hoistLoop (itemTokens items)).2))
        = optionTokens items ++ s :: (shifted ++ t :: plainTokens items) := by
    rw [Separates, show itemTokens (.option (.inline name "" hname hlong) :: .token t :: items) =
      (name ++ "=" ++ "") :: t :: itemTokens items from rfl, hloop]
    exact List.cons_inj_right _
  rw [hsep]
  by_cases hoptions : optionTokens items = []
  · rw [hoistLoop_of_no_options hplain hoptions, hoptions]
    simp only [List.nil_append, and_true]
    exact swallowed_iff
  · obtain ⟨g, gs, hg, hglobal⟩ := exists_of_optionTokens_ne_nil hoptions
    refine ⟨fun h => ?_, fun h => absurd h.2 hoptions⟩
    rw [hg, List.cons_append, List.cons.injEq] at h
    exact absurd (h.1 ▸ hglobal) ht.2.1

/-- An option swallowed by an empty inline value, whose own value is left behind. -/
theorem separates_swallowed_option_iff {s name other v : String} {shifted : List String}
    {items : List ArgItem} (hname : globalOptions.lookup name = some true)
    (hlong : startsWith name "--" = true) (hother : globalOptions.lookup other = some true)
    (hv : startsWith v "-" = false) (hshifted : ∀ u ∈ shifted, PlainToken u)
    (hplain : ∀ u ∈ plainTokens items, PlainToken u) :
    Separates s shifted
        (.option (.inline name "" hname hlong) :: .option (.separate other v hother hv) :: items) ↔
      (v = s ∧ ∀ u ∈ shifted, u = s) ∧ optionTokens items = [] := by
  have hloop := hoistLoop_emptyInline hname other (v :: itemTokens items)
  rw [hoistLoop_plain (plainToken_of_not_startsWith hv)] at hloop
  have hsep : Separates s shifted
        (.option (.inline name "" hname hlong) :: .option (.separate other v hother hv) :: items) ↔
      (hoistLoop (itemTokens items)).1 ++
          s :: (shifted ++ v :: (hoistLoop (itemTokens items)).2) =
        v :: (optionTokens items ++ s :: (shifted ++ plainTokens items)) := by
    rw [Separates, show itemTokens (.option (.inline name "" hname hlong) ::
      .option (.separate other v hother hv) :: items) =
      (name ++ "=" ++ "") :: other :: v :: itemTokens items from rfl, hloop]
    exact (List.cons_inj_right _).trans (List.cons_inj_right _)
  rw [hsep]
  by_cases hoptions : optionTokens items = []
  · rw [hoistLoop_of_no_options hplain hoptions, hoptions]
    simp only [List.nil_append, and_true]
    rw [eq_comm]
    exact swallowed_iff
  · refine ⟨fun h => absurd h ?_, fun h => absurd h.2 hoptions⟩
    obtain ⟨g, gs, hg, hglobal⟩ := exists_of_optionTokens_ne_nil hoptions
    cases hH : (hoistLoop (itemTokens items)).1 with
    | cons t ts =>
      -- what is hoisted first starts with `-`, and `v` does not
      rw [List.cons_append, List.cons.injEq]
      rintro ⟨rfl, -⟩
      exact absurd (startsWith_of_hoisted hH) (by simp [hv])
    | nil =>
      rw [List.nil_append, List.cons.injEq, hg]
      rintro ⟨rfl, h⟩
      cases shifted with
      | nil =>
        rw [List.nil_append, List.cons_append, List.cons.injEq] at h
        exact absurd hglobal.startsWith (by simp [← h.1, hv])
      | cons u us =>
        rw [List.cons_append, List.cons_append, List.cons.injEq] at h
        exact (hshifted u List.mem_cons_self).2.1 (h.1 ▸ hglobal)

theorem separates_emptyInline_last {s name : String} {shifted : List String}
    (hs : startsWith s "-" = false) (hname : globalOptions.lookup name = some true)
    (hlong : startsWith name "--" = true) :
    ¬ Separates s shifted [.option (.inline name "" hname hlong)] := by
  have hglobal : IsGlobalToken (name ++ "=" ++ "") := ⟨name, true, hname, Or.inr ⟨"", rfl⟩⟩
  have hloop := hoistLoop_emptyInline_last hname
  rw [Separates, show itemTokens [.option (.inline name "" hname hlong)] = [name ++ "=" ++ ""]
    from rfl, hloop, List.nil_append]
  intro h
  have hhead : s = name ++ "=" ++ "" := (List.cons.inj h).1
  exact absurd hglobal.startsWith (by simp [← hhead, hs])

theorem emptyInlinesPaired_cons_iff {i : ArgItem} {items : List ArgItem}
    (hi : i.isEmptyInline = false) :
    EmptyInlinesPaired (i :: items) ↔ EmptyInlinesPaired items := by
  cases items <;> simp [EmptyInlinesPaired, hi]

theorem swallowsName_cons_iff {s : String} {i : ArgItem} {items : List ArgItem}
    (hi : i.isEmptyInline = false) :
    SwallowsName s (i :: items) ↔ (∀ t ∈ i.plainTokens, t = s) ∧ SwallowsName s items := by
  cases items <;> simp [SwallowsName, hi]

/-- The loop separates the options from the other tokens exactly when no option swallows a token,
or the one token swallowed stands for `s`, as do all tokens it has to pass. -/
def SeparatesExactly (s : String) (shifted : List String) (items : List ArgItem) : Prop :=
  Separates s shifted items ↔
    EmptyInlinesPaired items ∨ (∀ t ∈ shifted, t = s) ∧ SwallowsName s items

theorem separatesExactly_cons {s : String} {shifted : List String} {i : ArgItem}
    {items : List ArgItem} (hi : i.isEmptyInline = false)
    (hplain : ∀ t ∈ i.plainTokens, PlainToken t)
    (h : SeparatesExactly s (shifted ++ i.plainTokens) items) :
    SeparatesExactly s shifted (i :: items) := by
  rw [SeparatesExactly, List.forall_mem_append, and_assoc] at h
  rw [SeparatesExactly, separates_cons_iff hi hplain, emptyInlinesPaired_cons_iff hi,
    swallowsName_cons_iff hi, h]

theorem separatesExactly_swallowed {s : String} {shifted : List String} {i j : ArgItem}
    {items : List ArgItem} (hi : i.isEmptyInline = true) (hj : j.isSingleOption = false)
    (hplain : ∀ t ∈ plainTokens (j :: items), PlainToken t)
    (hshifted : ∀ t ∈ shifted, PlainToken t) :
    SeparatesExactly s shifted (i :: j :: items) := by
  have hrest : ∀ t ∈ plainTokens items, PlainToken t := fun t ht =>
    hplain t (List.mem_append_right _ ht)
  rw [SeparatesExactly, EmptyInlinesPaired, SwallowsName]
  simp only [hi, hj, if_true, Bool.false_eq_true, if_false, false_and, false_or]
  obtain ⟨name, hname, hlong, rfl⟩ := ArgItem.exists_of_isEmptyInline hi
  match j, hj with
  | .token t, _ =>
    have ht : PlainToken t := hplain t List.mem_cons_self
    rw [separates_swallowed_token_iff hname hlong ht hrest, ArgItem.endsWith]
    tauto
  | .option (.separate other v hother hv), _ =>
    rw [separates_swallowed_option_iff hname hlong hother hv hshifted hrest, ArgItem.endsWith]
    tauto

theorem separatesExactly {s : String} (hs : startsWith s "-" = false) (items : List ArgItem)
    (hplain : ∀ t ∈ plainTokens items, PlainToken t) (shifted : List String)
    (hshifted : ∀ t ∈ shifted, PlainToken t) : SeparatesExactly s shifted items := by
  have hnil (l : List String) : SeparatesExactly s l [] := by
    simp [SeparatesExactly, Separates, EmptyInlinesPaired, itemTokens, optionTokens, plainTokens]
  induction items using EmptyInlinesPaired.induct generalizing shifted with
  | case1 => exact hnil shifted
  | case2 i =>
    by_cases hi : i.isEmptyInline = true
    · obtain ⟨name, hname, hlong, rfl⟩ := ArgItem.exists_of_isEmptyInline hi
      simp [SeparatesExactly, separates_emptyInline_last hs hname hlong, EmptyInlinesPaired,
        SwallowsName, ArgItem.isEmptyInline]
    · refine separatesExactly_cons (by simpa using hi) (fun t ht => hplain t ?_) (hnil _)
      exact List.mem_append_left _ ht
  | case3 i j rest hi ih =>
    by_cases hj : j.isSingleOption = true
    · have hrest : ∀ t ∈ plainTokens rest, PlainToken t := fun t ht =>
        hplain t (List.mem_append_right _ (List.mem_append_right _ ht))
      have hpaired := ih hrest shifted hshifted
      rw [SeparatesExactly] at hpaired ⊢
      simpa only [separates_paired_iff hi hj, EmptyInlinesPaired, SwallowsName, hi, hj, if_true,
        true_and] using hpaired
    · exact separatesExactly_swallowed hi (by simpa using hj)
        (fun t ht => hplain t (List.mem_append_right _ ht)) hshifted
  | case4 i j rest hi ih =>
    have hplaini : ∀ t ∈ i.plainTokens, PlainToken t := fun t ht =>
      hplain t (List.mem_append_left _ ht)
    exact separatesExactly_cons (by simpa using hi) hplaini
      (ih (fun t ht => hplain t (List.mem_append_right _ ht)) _
        (List.forall_mem_append.mpr ⟨hshifted, hplaini⟩))

/-! ### Before the subcommand -/

/-- A global option is passed over by the scan for the subcommand. -/
theorem IsGlobalToken.passed {t : String} (h : IsGlobalToken t) : Passed t := by
  obtain ⟨name, takesValue, hname, ht⟩ := id h
  obtain ⟨-, hdash, hdashes, -⟩ := globalOptions_names hname
  have hnames : t ≠ "--" ∧ t ≠ "-" := by
    rcases ht with rfl | ⟨value, rfl⟩
    · exact ⟨hdashes, hdash⟩
    · refine ⟨inline_ne_dashes name value, fun heq => ?_⟩
      have hmem : '=' ∈ (name ++ "=" ++ value).toList := by simp
      rw [heq] at hmem
      exact absurd hmem (by decide)
  exact ⟨hnames.1, by simp [looksLikeName, h.startsWith, hnames.2]⟩

/-- The tokens of occurrences without separate values are all global options. -/
theorem isGlobalToken_of_noSeparateValue {os : List GlobalOccurrence} (h : NoSeparateValue os) :
    ∀ t ∈ os.flatMap GlobalOccurrence.tokens, IsGlobalToken t := by
  intro t ht
  obtain ⟨o, ho, hto⟩ := List.mem_flatMap.mp ht
  obtain ⟨u, hu⟩ := h o ho
  obtain ⟨u', us, hu', hglobal⟩ := o.exists_tokens_eq
  rw [hu] at hto hu'
  rw [List.mem_singleton.mp hto, (List.cons.inj hu').1]
  exact hglobal

/-- An occurrence that is not one token has a separate value. -/
theorem GlobalOccurrence.exists_separate {o : GlobalOccurrence} (h : ¬ ∃ t, o.tokens = [t]) :
    ∃ name value hname hvalue, o = .separate name value hname hvalue := by
  cases o with
  | flag name hname => exact absurd ⟨name, rfl⟩ h
  | separate name value hname hvalue => exact ⟨name, value, hname, hvalue, rfl⟩
  | inline name value hname hlong => exact absurd ⟨_, rfl⟩ h

/-- Occurrences either have no separate value, or there is a first one that has. -/
theorem noSeparateValue_or_exists (os : List GlobalOccurrence) :
    NoSeparateValue os ∨ ∃ os₁ name value hname hvalue os₂, NoSeparateValue os₁ ∧
      os = os₁ ++ .separate name value hname hvalue :: os₂ := by
  rcases forall_or_exists_first (fun o : GlobalOccurrence => ∃ t, o.tokens = [t]) os with
    h | ⟨os₁, o, os₂, rfl, hos₁, ho⟩
  · exact Or.inl h
  · obtain ⟨name, value, hname, hvalue, rfl⟩ := GlobalOccurrence.exists_separate ho
    exact Or.inr ⟨os₁, name, value, hname, hvalue, os₂, hos₁, rfl⟩

/-- An option that something follows is hoisted. -/
theorem hoisted_ne_nil (o : GlobalOccurrence) (t : String) (following : List String) :
    (hoistLoop (o.tokens ++ t :: following)).1 ≠ [] := by
  by_cases ho : (ArgItem.option o).isEmptyInline = true
  · obtain ⟨name, hname, hlong, hoption⟩ := ArgItem.exists_of_isEmptyInline ho
    obtain rfl := ArgItem.option.inj hoption
    rw [GlobalOccurrence.tokens, List.singleton_append, hoistLoop_emptyInline hname]
    exact List.cons_ne_nil _ _
  · have hloop := hoistLoop_tokens (i := .option o) (by simpa using ho)
      (fun t ht => absurd ht List.not_mem_nil) (t :: following)
    obtain ⟨u, us, hu, -⟩ := o.exists_tokens_eq
    rw [show (ArgItem.option o).tokens = o.tokens from rfl] at hloop
    rw [hloop, show (ArgItem.option o).optionTokens = o.tokens from rfl, hu]
    exact List.cons_ne_nil _ _

/-- When a separate value `v` is taken for the subcommand, the result is right only if neither an
option nor anything else has to pass it. -/
theorem misplaced_iff {s v : String} (hs : startsWith s "-" = false)
    (hv : startsWith v "-" = false) (os : List GlobalOccurrence) {items : List ArgItem}
    (hplain : ∀ t ∈ plainTokens items, PlainToken t) :
    (hoistLoop (os.flatMap GlobalOccurrence.tokens ++ s :: itemTokens items)).1 ++
          v :: (hoistLoop (os.flatMap GlobalOccurrence.tokens ++ s :: itemTokens items)).2 =
        v :: (os.flatMap GlobalOccurrence.tokens ++
          (optionTokens items ++ s :: plainTokens items)) ↔
      os = [] ∧ optionTokens items = [] := by
  have hfirst {ts us ws : List String} (hts : ts ≠ []) (hdash : ∀ t ts', ts = t :: ts' →
      startsWith t "-" = true) : ts ++ us ≠ v :: ws := by
    cases ts with
    | nil => exact absurd rfl hts
    | cons t ts =>
      intro h
      have hstart := hdash t ts rfl
      rw [(List.cons.inj h).1, hv] at hstart
      exact Bool.false_ne_true hstart
  cases os with
  | cons o os =>
    refine iff_of_false ?_ (fun h => List.cons_ne_nil _ _ h.1)
    refine hfirst ?_ fun t ts => startsWith_of_hoisted
    rw [List.flatMap_cons, List.append_assoc]
    cases htail : os.flatMap GlobalOccurrence.tokens ++ s :: itemTokens items with
    | nil => simp at htail
    | cons t rest => exact hoisted_ne_nil o t rest
  | nil =>
    simp only [List.flatMap_nil, List.nil_append, true_and,
      hoistLoop_plain (plainToken_of_not_startsWith hs)]
    constructor
    · intro h
      by_contra hoptions
      obtain ⟨g, gs, hg, hglobal⟩ := exists_of_optionTokens_ne_nil hoptions
      by_cases hH : (hoistLoop (itemTokens items)).1 = []
      · rw [hH, hg, List.nil_append] at h
        have hsg : s = g := (List.cons.inj (List.cons.inj h).2).1
        exact absurd hglobal.startsWith (by simp [← hsg, hs])
      · exact hfirst hH (fun t ts => startsWith_of_hoisted) h
    · intro hoptions
      rw [hoistLoop_of_no_options hplain hoptions, hoptions]
      rfl

theorem wellPlaced_iff_of_noSeparateValue {before : List GlobalOccurrence} {s : String}
    {items : List ArgItem} (h : NoSeparateValue before) :
    WellPlaced before s items ↔ EmptyInlinesPaired items ∨ SwallowsName s items := by
  refine ⟨?_, fun hitems => Or.inl ⟨h, hitems⟩⟩
  rintro (⟨-, hitems⟩ | ⟨os, o, rfl, -, ho, -⟩)
  · exact hitems
  · exact absurd (List.forall_mem_append.mp h).2 ho

theorem wellPlaced_iff_of_separate {os₁ os₂ : List GlobalOccurrence} {name value s : String}
    {hname : globalOptions.lookup name = some true} {hvalue : startsWith value "-" = false}
    {items : List ArgItem} (h : NoSeparateValue os₁) :
    WellPlaced (os₁ ++ .separate name value hname hvalue :: os₂) s items ↔
      os₂ = [] ∧ optionTokens items = [] := by
  have hsep : ¬ NoSeparateValue [.separate name value hname hvalue] := by
    intro hno
    obtain ⟨t, ht⟩ := hno _ List.mem_cons_self
    simp [GlobalOccurrence.tokens] at ht
  have hnot {os : List GlobalOccurrence} (hmem : .separate name value hname hvalue ∈ os) :
      ¬ NoSeparateValue os := fun hos =>
    hsep fun o ho => List.mem_singleton.mp ho ▸ hos _ hmem
  constructor
  · rintro (⟨hno, -⟩ | ⟨os, o, heq, hos, -, hoptions⟩)
    · exact absurd hno (hnot (by simp))
    · refine ⟨?_, hoptions⟩
      rcases List.eq_nil_or_concat os₂ with hnil | ⟨init, last, rfl⟩
      · exact hnil
      · have hinit : os₁ ++ .separate name value hname hvalue :: init = os := by
          have happend : (os₁ ++ .separate name value hname hvalue :: init) ++ [last] =
              os ++ [o] := by simpa using heq
          exact (List.append_inj' happend rfl).1
        exact absurd hos (hnot (by simp [← hinit]))
  · rintro ⟨rfl, hoptions⟩
    exact Or.inr ⟨os₁, _, rfl, h, hsep, hoptions⟩

/-! ### Interleavings -/

/-- The global options after the subcommand `s` end up behind those before it, and everything else
stays in its order, exactly when the arguments are well placed. -/
theorem normalizeArgv_interleaving_iff (before : List GlobalOccurrence) (s : String)
    (hs : startsWith s "-" = false) (items : List ArgItem)
    (hplain : ∀ t ∈ plainTokens items, PlainToken t) :
    normalizeArgv (before.flatMap GlobalOccurrence.tokens ++ s :: itemTokens items) =
        before.flatMap GlobalOccurrence.tokens ++ optionTokens items ++ s :: plainTokens items ↔
      WellPlaced before s items := by
  rcases noSeparateValue_or_exists before with
    hbefore | ⟨os₁, name, value, hname, hvalue, os₂, hos₁, rfl⟩
  · rw [wellPlaced_iff_of_noSeparateValue hbefore,
      normalizeArgv_append (fun t ht => (isGlobalToken_of_noSeparateValue hbefore t ht).passed)
        (looksLikeName_of_not_startsWith hs), List.append_assoc,
      List.append_assoc, List.append_cancel_left_eq]
    have hseparates := separatesExactly hs items hplain [] (fun t ht => absurd ht List.not_mem_nil)
    simpa [SeparatesExactly, Separates] using hseparates
  · rw [wellPlaced_iff_of_separate hos₁, ← misplaced_iff hs hvalue os₂ hplain]
    have hpre : ∀ t ∈ os₁.flatMap GlobalOccurrence.tokens ++ [name], IsGlobalToken t :=
      List.forall_mem_append.mpr ⟨isGlobalToken_of_noSeparateValue hos₁, fun t ht =>
        ⟨name, true, hname, Or.inl (List.mem_singleton.mp ht)⟩⟩
    have hargv : (os₁ ++ .separate name value hname hvalue :: os₂).flatMap
        GlobalOccurrence.tokens ++ s :: itemTokens items =
      (os₁.flatMap GlobalOccurrence.tokens ++ [name]) ++ value ::
        (os₂.flatMap GlobalOccurrence.tokens ++ s :: itemTokens items) := by
      simp [GlobalOccurrence.tokens]
    rw [hargv, normalizeArgv_append (fun t ht => (hpre t ht).passed)
      (looksLikeName_of_not_startsWith hvalue)]
    simp [GlobalOccurrence.tokens]

/-- `bcs -v build --output json x` has its options in the places the rewriter expects. -/
theorem normalizeArgv_interleaving_build :
    normalizeArgv ["-v", "build", "--output", "json", "x"] =
      ["-v", "--output", "json", "build", "x"] :=
  (normalizeArgv_interleaving_iff [.flag "-v" (by decide)] "build" (by decide)
    [.option (.separate "--output" "json" (by decide) (by decide)), .token "x"]
    (fun t ht => plainToken_of_not_startsWith (by
      rw [List.mem_singleton.mp ht]
      decide))).mpr
    (Or.inl ⟨fun o ho => ⟨"-v", by rw [List.mem_singleton.mp ho]; rfl⟩, Or.inl (by
      simp [EmptyInlinesPaired, ArgItem.isEmptyInline])⟩)

/-- In `bcs -o json version -v` the value `json` is taken for the subcommand. -/
theorem normalizeArgv_separate_value_before :
    ¬ ∀ (before : List GlobalOccurrence) (s : String), startsWith s "-" = false →
      ∀ items : List ArgItem, (∀ t ∈ plainTokens items, PlainToken t) →
        normalizeArgv (before.flatMap GlobalOccurrence.tokens ++ s :: itemTokens items) =
          before.flatMap GlobalOccurrence.tokens ++ optionTokens items ++
            s :: plainTokens items := by
  intro h
  have hrun := h [.separate "-o" "json" (by decide) (by decide)] "version" (by decide)
    [.option (.flag "-v" (by decide))] (fun t ht => absurd ht List.not_mem_nil)
  exact absurd hrun (by decide +kernel)

end ClassroomSuite.Cli
