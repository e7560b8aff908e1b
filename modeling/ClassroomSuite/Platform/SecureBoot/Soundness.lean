import ClassroomSuite.Library.LastWriter
import ClassroomSuite.Platform.SecureBoot.Adapter

/-!
# Soundness of the Secure Boot status

What the adapter reports is what the output of the tool says: the values of the last lines with the
two names, provided that every line with one of them has a proper value. In every other case it
reports nothing.

Source: `cli/src/bcs/platform/adapters/secureboot/parser.py`,
`cli/src/bcs/platform/adapters/secureboot/adapter.py`.

## Main definitions

* `valueOf`, `lastValue`: the values that lines give to a name.
* `WellFormed`: no line has an improper value.
* `Sound`.

## Main results

* `valueOf_eq_some_iff`: the lines that give a value.
* `parseSecureBootStatus_of_wellFormed`, `parseSecureBootStatus_of_not_wellFormed`.
* `readSecureBootStatus_sound`.
-/

namespace ClassroomSuite.Platform.SecureBoot

open Python Library

/-- What follows the name and white space in a line that, stripped, begins with them. -/
def valueOf (name : String) (line : List Char) : Option (List Char) :=
  if prefixMatches name (strip isSpace line) then
    some (((strip isSpace line).drop name.toList.length).dropWhile isSpace)
  else none

/-- The value that the last such line gives. -/
def lastValue (name text : String) : Option (List Char) :=
  ((splitLines text.toList).filterMap (valueOf name)).getLast?

/-- The value is `enabled` or `disabled`. -/
def IsProper (value : List Char) : Prop :=
  value = "enabled".toList ∨ value = "disabled".toList

instance : DecidablePred IsProper :=
  fun value => inferInstanceAs (Decidable (value = _ ∨ value = _))

/-- Every line that gives a value to one of the two names gives a proper one. -/
def IsWellFormed (line : List Char) : Prop :=
  ∀ name ∈ ["SecureBoot", "SetupMode"], ∀ value ∈ valueOf name line, IsProper value

instance : DecidablePred IsWellFormed := fun line =>
  inferInstanceAs (Decidable (∀ name ∈ ["SecureBoot", "SetupMode"], ∀ value ∈ valueOf name line, _))

/-- No line has a field whose value cannot be read. -/
def WellFormed (text : String) : Prop := ∀ line ∈ splitLines text.toList, IsWellFormed line

instance : DecidablePred WellFormed := fun text =>
  inferInstanceAs (Decidable (∀ line ∈ splitLines text.toList, IsWellFormed line))

/-- What is reported of the result of the command. -/
structure Sound (result : CommandResult) (outcome : Except Raised SecureBootStatus) : Prop where
  enabled_iff : (∃ status, outcome = .ok status ∧ status.state = .enabled) ↔
    result.exitCode = some 0 ∧ WellFormed result.stdout ∧
      lastValue "SecureBoot" result.stdout = some "enabled".toList
  disabled_iff : (∃ status, outcome = .ok status ∧ status.state = .disabled) ↔
    result.exitCode = some 0 ∧ WellFormed result.stdout ∧
      lastValue "SecureBoot" result.stdout = some "disabled".toList
  unknown_iff : (∃ status, outcome = .ok status ∧ status.state = .unknown) ↔
    result.exitCode = some 0 ∧ WellFormed result.stdout ∧
      lastValue "SecureBoot" result.stdout = none ∧ lastValue "SetupMode" result.stdout ≠ none
  setupMode : ∀ status, outcome = .ok status → status.setupMode =
    (lastValue "SetupMode" result.stdout).map fun value => decide (value = "enabled".toList)
  fails : ¬ (result.exitCode = some 0 ∧ WellFormed result.stdout ∧
      (lastValue "SecureBoot" result.stdout ≠ none ∨ lastValue "SetupMode" result.stdout ≠ none)) →
    ∃ e, outcome = .error (.platform e) ∧ e.IsOf .secureBoot

/-! ### Lines -/

theorem prefixMatches_iff {name : String} {stripped : List Char} :
    prefixMatches name stripped = true ↔
      ∃ c rest, stripped = name.toList ++ c :: rest ∧ isSpace c = true := by
  unfold prefixMatches
  split
  · next c rest hdrop =>
    obtain rfl := dropPrefix?_eq_some_iff.mp hdrop
    constructor
    · exact fun hc => ⟨c, rest, rfl, hc⟩
    · rintro ⟨c', rest', heq, hc⟩
      rw [List.append_cancel_left_eq] at heq
      exact (List.cons.inj heq).1 ▸ hc
  · next hnone =>
    refine iff_of_false Bool.false_ne_true ?_
    rintro ⟨c, rest, rfl, -⟩
    exact hnone c rest (dropPrefix?_eq_some_iff.mpr rfl)

/-- A line gives a name what follows the name and white space. -/
theorem valueOf_eq_some_iff {name : String} {line value : List Char} :
    valueOf name line = some value ↔ ∃ gap, gap ≠ [] ∧ (∀ c ∈ gap, isSpace c = true) ∧
      strip isSpace line = name.toList ++ (gap ++ value) ∧
      ∀ c ∈ value.head?, isSpace c = false := by
  rw [valueOf]
  constructor
  · intro h
    split_ifs at h with hprefix
    obtain ⟨c, rest, hline, hc⟩ := prefixMatches_iff.mp hprefix
    obtain rfl := Option.some.inj h
    rw [hline, List.drop_left]
    refine ⟨(c :: rest).takeWhile isSpace, ?_, fun d hd => List.mem_takeWhile_imp hd, ?_, ?_⟩
    · rw [List.takeWhile_cons_of_pos hc]
      exact List.cons_ne_nil _ _
    · rw [List.takeWhile_append_dropWhile]
    · intro d hd
      obtain ⟨rest', hrest⟩ := List.head?_eq_some_iff.mp hd
      exact head_dropWhile hrest
  · rintro ⟨gap, hne, hgap, hline, hvalue⟩
    obtain ⟨c, gap, rfl⟩ := List.exists_cons_of_ne_nil hne
    have hprefix : prefixMatches name (strip isSpace line) = true :=
      prefixMatches_iff.mpr ⟨c, gap ++ value, hline, hgap c List.mem_cons_self⟩
    rw [if_pos hprefix, hline, List.drop_left, List.dropWhile_append_of_pos hgap,
      dropWhile_of_head hvalue]

/-- No line gives a value to both names. -/
theorem valueOf_setupMode_of_secureBoot {line value : List Char}
    (h : valueOf "SecureBoot" line = some value) : valueOf "SetupMode" line = none := by
  obtain ⟨gap, -, -, hline, -⟩ := valueOf_eq_some_iff.mp h
  cases hsetup : valueOf "SetupMode" line with
  | none => rfl
  | some value' =>
    obtain ⟨gap', -, -, hline', -⟩ := valueOf_eq_some_iff.mp hsetup
    have heq := hline.symm.trans hline'
    -- The names differ in their third letters.
    have hthird : some 'c' = some 't' := congrArg (fun cs => cs[2]?) heq
    exact absurd hthird (by decide)

theorem valueOf_secureBoot_of_setupMode {line value : List Char}
    (h : valueOf "SetupMode" line = some value) : valueOf "SecureBoot" line = none := by
  cases hsecure : valueOf "SecureBoot" line with
  | none => rfl
  | some value' =>
    rw [valueOf_setupMode_of_secureBoot hsecure] at h
    cases h

theorem matchValue_eq {name : String} {line : List Char} :
    matchValue name (strip isSpace line) = (valueOf name line).bind fun value =>
      if value = "enabled".toList then some true
      else if value = "disabled".toList then some false
      else none := by
  rw [matchValue, valueOf]
  split_ifs <;> rfl

theorem matchValue_of_isProper {name : String} {line value : List Char}
    (h : valueOf name line = some value) (hproper : IsProper value) :
    matchValue name (strip isSpace line) = some (decide (value = "enabled".toList)) := by
  rw [matchValue_eq, h, Option.bind_some]
  rcases hproper with rfl | rfl
  · rfl
  · rfl

theorem matchValue_of_not_isProper {name : String} {line value : List Char}
    (h : valueOf name line = some value) (hproper : ¬ IsProper value) :
    matchValue name (strip isSpace line) = none := by
  obtain ⟨henabled, hdisabled⟩ := not_or.mp hproper
  rw [matchValue_eq, h, Option.bind_some, if_neg henabled, if_neg hdisabled]

/-- What a line with a proper value, or with none, says. -/
def itemOf (line : List Char) : LineItem :=
  match valueOf "SecureBoot" line with
  | some value => .secureBoot (decide (value = "enabled".toList))
  | none =>
    match valueOf "SetupMode" line with
    | some value => .setupMode (decide (value = "enabled".toList))
    | none => .unrecognized

variable {rt : TextRuntime}

theorem prefixMatches_eq_isSome (name : String) (line : List Char) :
    prefixMatches name (strip isSpace line) = (valueOf name line).isSome := by
  rw [valueOf]
  split_ifs with h <;> simp [h]

theorem strip_ne_nil_of_valueOf {name : String} {line value : List Char}
    (h : valueOf name line = some value) : (strip isSpace line).isEmpty = false := by
  obtain ⟨gap, hne, -, hline, -⟩ := valueOf_eq_some_iff.mp h
  rw [hline, List.isEmpty_eq_false_iff]
  simp [hne]

/-- A line is read by what it gives to the names. -/
theorem readLine_eq (line : List Char) (number : ℕ) : readLine rt line number =
    match valueOf "SecureBoot" line with
    | some _ =>
      match matchValue "SecureBoot" (strip isSpace line) with
      | none => .error (malformed rt "SecureBoot" line number)
      | some enabled => .ok (.secureBoot enabled)
    | none =>
      match valueOf "SetupMode" line with
      | some _ =>
        match matchValue "SetupMode" (strip isSpace line) with
        | none => .error (malformed rt "SetupMode" line number)
        | some enabled => .ok (.setupMode enabled)
      | none => .ok .unrecognized := by
  simp only [readLine, prefixMatches_eq_isSome]
  cases hsecure : valueOf "SecureBoot" line with
  | some value =>
    cases matchValue "SecureBoot" (strip isSpace line) <;> simp [strip_ne_nil_of_valueOf hsecure]
  | none =>
    cases hsetup : valueOf "SetupMode" line with
    | some value =>
      cases matchValue "SetupMode" (strip isSpace line) <;> simp [strip_ne_nil_of_valueOf hsetup]
    | none => simp

theorem readLine_of_isWellFormed {line : List Char} (h : IsWellFormed line) (number : ℕ) :
    readLine rt line number = .ok (itemOf line) := by
  rw [readLine_eq, itemOf]
  cases hsecure : valueOf "SecureBoot" line with
  | some value =>
    rw [matchValue_of_isProper hsecure (h _ (by simp) value hsecure)]
  | none =>
    cases hsetup : valueOf "SetupMode" line with
    | some value =>
      rw [matchValue_of_isProper hsetup (h _ (by simp) value hsetup)]
    | none => rfl

/-- A line with an improper value is an error. -/
theorem readLine_of_not_isWellFormed (rt : TextRuntime) {line : List Char}
    (h : ¬ IsWellFormed line) (number : ℕ) :
    ∃ e, readLine rt line number = .error e ∧ e.isValueError = true := by
  obtain ⟨name, hname, value, hvalue, hproper⟩ : ∃ name ∈ ["SecureBoot", "SetupMode"],
      ∃ value ∈ valueOf name line, ¬ IsProper value := by
    simpa only [IsWellFormed, not_forall, exists_prop] using h
  rw [readLine_eq]
  rcases List.mem_pair.mp hname with rfl | rfl
  · rw [show valueOf "SecureBoot" line = some value from hvalue,
      matchValue_of_not_isProper hvalue hproper]
    exact ⟨_, rfl, rfl⟩
  · rw [valueOf_secureBoot_of_setupMode hvalue,
      show valueOf "SetupMode" line = some value from hvalue,
      matchValue_of_not_isProper hvalue hproper]
    exact ⟨_, rfl, rfl⟩

/-! ### The status of a text -/

/-- The state that a line sets. -/
def LineItem.state? : LineItem → Option SecureBootState
  | .secureBoot enabled => some (stateOf enabled)
  | _ => none

/-- The mode that a line sets. -/
def LineItem.setupMode? : LineItem → Option (Option Bool)
  | .setupMode enabled => some (some enabled)
  | _ => none

theorem state?_itemOf (line : List Char) : (itemOf line).state? =
    (valueOf "SecureBoot" line).map fun value => stateOf (decide (value = "enabled".toList)) := by
  rw [itemOf]
  cases valueOf "SecureBoot" line with
  | some value => rfl
  | none => cases valueOf "SetupMode" line <;> rfl

theorem setupMode?_itemOf (line : List Char) : (itemOf line).setupMode? =
    (valueOf "SetupMode" line).map fun value => some (decide (value = "enabled".toList)) := by
  rw [itemOf]
  cases hsecure : valueOf "SecureBoot" line with
  | some value =>
    rw [valueOf_setupMode_of_secureBoot hsecure]
    rfl
  | none => cases valueOf "SetupMode" line <;> rfl

/-- The last line that sets a state or a mode has the last value of its name. -/
theorem getLast?_filterMap_itemOf {α : Type} {read : LineItem → Option α} {name : String}
    {f : List Char → α} (h : ∀ line, read (itemOf line) = (valueOf name line).map f)
    (text : String) :
    (((splitLines text.toList).map itemOf).filterMap read).getLast? =
      (lastValue name text).map f := by
  have hvalues : ((splitLines text.toList).map itemOf).filterMap read =
      ((splitLines text.toList).filterMap (valueOf name)).map f := by
    rw [List.filterMap_map, List.map_filterMap]
    exact List.filterMap_congr fun line _ => h line
  rw [hvalues, List.getLast?_map, lastValue]

/-- The status that the last values give. -/
def statusOf (text : String) : SecureBootStatus where
  state := ((lastValue "SecureBoot" text).map fun value =>
    stateOf (decide (value = "enabled".toList))).getD .unknown
  setupMode := (lastValue "SetupMode" text).map fun value => decide (value = "enabled".toList)
  rawText := text

theorem parseSecureBootStatus_of_wellFormed {text : String} (h : WellFormed text) :
    parseSecureBootStatus rt text = .ok (statusOf text) := by
  have hitems : ((splitLines text.toList).zipIdx 1).mapM (fun p => readLine rt p.1 p.2) =
      .ok ((splitLines text.toList).map itemOf) := by
    rw [mapM_eq_ok_iff]
    refine forall₂_zipIdx ?_ 1
    rw [List.forall₂_map_right_iff, List.forall₂_same]
    exact fun line hline => readLine_of_isWellFormed (h line hline)
  have hstate : (((splitLines text.toList).map itemOf).foldl Parsed.assign {}).state =
      (statusOf text).state := by
    rw [foldl_eq_getLast? Parsed.state (f := LineItem.state?)
      (fun parsed item => by cases item <;> rfl), getLast?_filterMap_itemOf state?_itemOf]
    rfl
  have hsetup : (((splitLines text.toList).map itemOf).foldl Parsed.assign {}).setupMode =
      (statusOf text).setupMode := by
    rw [foldl_eq_getLast? Parsed.setupMode (f := LineItem.setupMode?)
      (fun parsed item => by cases item <;> rfl), getLast?_filterMap_itemOf setupMode?_itemOf,
      statusOf]
    cases lastValue "SetupMode" text <;> rfl
  rw [parseSecureBootStatus, hitems, ok_bind]
  dsimp only
  rw [hstate, hsetup]
  rfl

/-- The first line with an improper value is an error. -/
theorem parseSecureBootStatus_of_not_wellFormed (rt : TextRuntime) {text : String}
    (h : ¬ WellFormed text) :
    ∃ e, parseSecureBootStatus rt text = .error e ∧ e.isValueError = true := by
  rcases forall_or_exists_first IsWellFormed (splitLines text.toList) with
    hall | ⟨before, line, after, hlines, hbefore, hline⟩
  · exact absurd hall h
  · obtain ⟨e, herror, hvalue⟩ := readLine_of_not_isWellFormed rt hline (1 + before.length)
    obtain ⟨e', hrows, rfl⟩ := (raises_zipIdx_mapM_iff (· = e) (readLine rt)
      (splitLines text.toList) 1).mpr ⟨before, line, after, hlines, fun p hp =>
        ⟨_, readLine_of_isWellFormed (hbefore _ (List.fst_mem_of_mem_zipIdx hp)) _⟩,
        e, herror, rfl⟩
    exact ⟨e', by rw [parseSecureBootStatus, hrows, error_bind], hvalue⟩

/-! ### The adapter -/

/-- What is reported where the command succeeds with a well-formed output. -/
theorem readSecureBootStatus_of_wellFormed {runner : CommandRunner}
    {environ : List (String × String)} {timeoutSeconds : Option ℚ} {result : CommandResult}
    (hresult : runner { command := mokutilCommand, timeoutSeconds, env := plainLocale environ } =
      .ok result) (hcode : result.exitCode = some 0) (h : WellFormed result.stdout) :
    readSecureBootStatus rt runner environ timeoutSeconds =
      if (statusOf result.stdout).state = .unknown ∧ (statusOf result.stdout).setupMode = none then
        .error (.platform (.adapterParse .secureBoot
          "mokutil output contained no recognized Secure Boot state line." result.stdout))
      else .ok (statusOf result.stdout) := by
  rw [readSecureBootStatus, runForOutput_eq_ok_iff.mpr ⟨result, hresult, hcode, rfl⟩, ok_bind,
    parseSecureBootStatus_of_wellFormed h, parsedOutput, ok_bind]
  rfl

/-- In every other case there is an error of the domain. -/
theorem readSecureBootStatus_fails {runner : CommandRunner} {environ : List (String × String)}
    {timeoutSeconds : Option ℚ} {result : CommandResult}
    (hresult : runner { command := mokutilCommand, timeoutSeconds, env := plainLocale environ } =
      .ok result) (h : ¬ (result.exitCode = some 0 ∧ WellFormed result.stdout)) :
    ∃ e, readSecureBootStatus rt runner environ timeoutSeconds = .error (.platform e) ∧
      e.IsOf .secureBoot := by
  by_cases hcode : result.exitCode = some 0
  · obtain ⟨e, herror, hvalue⟩ :=
      parseSecureBootStatus_of_not_wellFormed rt fun hwell => h ⟨hcode, hwell⟩
    rw [readSecureBootStatus, runForOutput_eq_ok_iff.mpr ⟨result, hresult, hcode, rfl⟩, ok_bind,
      herror, parsedOutput, if_pos hvalue]
    exact ⟨_, rfl, rfl⟩
  · rw [readSecureBootStatus]
    exact runForOutput_bind_of_exitCode_ne hresult hcode _

theorem isProper_of_lastValue {text name : String} {value : List Char} (h : WellFormed text)
    (hname : name ∈ ["SecureBoot", "SetupMode"]) (hvalue : lastValue name text = some value) :
    IsProper value := by
  obtain ⟨line, hline, hgives⟩ := List.mem_filterMap.mp (List.mem_of_getLast? hvalue)
  exact h line hline name hname value hgives

theorem stateOf_eq_enabled_iff {enabled : Bool} : stateOf enabled = .enabled ↔ enabled = true := by
  cases enabled <;> simp [stateOf]

theorem stateOf_eq_disabled_iff {enabled : Bool} :
    stateOf enabled = .disabled ↔ enabled = false := by
  cases enabled <;> simp [stateOf]

theorem stateOf_ne_unknown (enabled : Bool) : stateOf enabled ≠ .unknown := by
  cases enabled <;> simp [stateOf]

theorem state_eq_enabled_iff {text : String} :
    (statusOf text).state = .enabled ↔ lastValue "SecureBoot" text = some "enabled".toList := by
  rw [statusOf]
  cases lastValue "SecureBoot" text with
  | none => exact iff_of_false SecureBootState.noConfusion (Option.some_ne_none _).symm
  | some value =>
    rw [Option.map_some, Option.getD_some, stateOf_eq_enabled_iff, decide_eq_true_eq,
      Option.some.injEq]

theorem state_eq_disabled_iff {text : String} (h : WellFormed text) :
    (statusOf text).state = .disabled ↔ lastValue "SecureBoot" text = some "disabled".toList := by
  rw [statusOf]
  cases hvalue : lastValue "SecureBoot" text with
  | none => exact iff_of_false SecureBootState.noConfusion (Option.some_ne_none _).symm
  | some value =>
    rw [Option.map_some, Option.getD_some, stateOf_eq_disabled_iff, decide_eq_false_iff_not,
      Option.some.injEq]
    have hne : "disabled".toList ≠ "enabled".toList := by decide
    refine ⟨fun hnot => ?_, fun hdisabled => hdisabled ▸ hne⟩
    exact (isProper_of_lastValue h (by simp) hvalue).resolve_left hnot

theorem state_eq_unknown_iff {text : String} :
    (statusOf text).state = .unknown ↔ lastValue "SecureBoot" text = none := by
  rw [statusOf]
  cases lastValue "SecureBoot" text with
  | none => exact iff_of_true rfl rfl
  | some value => exact iff_of_false (stateOf_ne_unknown _) (Option.some_ne_none _)

theorem setupMode_eq_none_iff {text : String} :
    (statusOf text).setupMode = none ↔ lastValue "SetupMode" text = none :=
  Option.map_eq_none_iff

/-- The output is that of a command that succeeded, and one of the names has a value in it. -/
structure Reports (result : CommandResult) : Prop where
  exitCode : result.exitCode = some 0
  wellFormed : WellFormed result.stdout
  value : lastValue "SecureBoot" result.stdout ≠ none ∨ lastValue "SetupMode" result.stdout ≠ none

section Adapter

variable {runner : CommandRunner} {environ : List (String × String)} {timeoutSeconds : Option ℚ}
  {result : CommandResult}

theorem readSecureBootStatus_of_reports
    (hresult : runner { command := mokutilCommand, timeoutSeconds, env := plainLocale environ } =
      .ok result) (h : Reports result) :
    readSecureBootStatus rt runner environ timeoutSeconds = .ok (statusOf result.stdout) := by
  rw [readSecureBootStatus_of_wellFormed hresult h.exitCode h.wellFormed, if_neg]
  rintro ⟨hstate, hmode⟩
  exact h.value.elim (· (state_eq_unknown_iff.mp hstate)) (· (setupMode_eq_none_iff.mp hmode))

theorem readSecureBootStatus_of_not_reports (rt : TextRuntime)
    (hresult : runner { command := mokutilCommand, timeoutSeconds, env := plainLocale environ } =
      .ok result) (h : ¬ Reports result) :
    ∃ e, readSecureBootStatus rt runner environ timeoutSeconds = .error (.platform e) ∧
      e.IsOf .secureBoot := by
  by_cases hok : result.exitCode = some 0 ∧ WellFormed result.stdout
  · obtain ⟨hsecure, hsetup⟩ := not_or.mp fun hvalue => h ⟨hok.1, hok.2, hvalue⟩
    rw [readSecureBootStatus_of_wellFormed hresult hok.1 hok.2,
      if_pos ⟨state_eq_unknown_iff.mpr (not_not.mp hsecure),
        setupMode_eq_none_iff.mpr (not_not.mp hsetup)⟩]
    exact ⟨_, rfl, rfl⟩
  · exact readSecureBootStatus_fails hresult hok

/-- A state is reported exactly if the output reports it. -/
theorem exists_state_iff
    (hresult : runner { command := mokutilCommand, timeoutSeconds, env := plainLocale environ } =
      .ok result) (state : SecureBootState) :
    (∃ status, readSecureBootStatus rt runner environ timeoutSeconds = .ok status ∧
        status.state = state) ↔
      Reports result ∧ (statusOf result.stdout).state = state := by
  constructor
  · rintro ⟨status, hstatus, hstate⟩
    by_cases h : Reports result
    · rw [readSecureBootStatus_of_reports hresult h] at hstatus
      exact ⟨h, Except.ok.inj hstatus ▸ hstate⟩
    · obtain ⟨e, herror, -⟩ := readSecureBootStatus_of_not_reports rt hresult h
      rw [herror] at hstatus
      cases hstatus
  · rintro ⟨h, hstate⟩
    exact ⟨_, readSecureBootStatus_of_reports hresult h, hstate⟩

/-- What the adapter reports is what the output says, and in every other case it reports nothing. -/
theorem readSecureBootStatus_sound (rt : TextRuntime)
    (hresult : runner { command := mokutilCommand, timeoutSeconds, env := plainLocale environ } =
      .ok result) :
    Sound result (readSecureBootStatus rt runner environ timeoutSeconds) := by
  refine ⟨?_, ?_, ?_, fun status hstatus => ?_, fun h => ?_⟩
  · rw [exists_state_iff hresult, state_eq_enabled_iff]
    constructor
    · rintro ⟨⟨hcode, hwell, -⟩, hlast⟩
      exact ⟨hcode, hwell, hlast⟩
    · rintro ⟨hcode, hwell, hlast⟩
      exact ⟨⟨hcode, hwell, Or.inl (by rw [hlast]; exact Option.some_ne_none _)⟩, hlast⟩
  · rw [exists_state_iff hresult]
    constructor
    · rintro ⟨⟨hcode, hwell, -⟩, hstate⟩
      exact ⟨hcode, hwell, (state_eq_disabled_iff hwell).mp hstate⟩
    · rintro ⟨hcode, hwell, hlast⟩
      exact ⟨⟨hcode, hwell, Or.inl (by rw [hlast]; exact Option.some_ne_none _)⟩,
        (state_eq_disabled_iff hwell).mpr hlast⟩
  · rw [exists_state_iff hresult, state_eq_unknown_iff]
    constructor
    · rintro ⟨⟨hcode, hwell, hvalue⟩, hsecure⟩
      exact ⟨hcode, hwell, hsecure, hvalue.resolve_left (not_not.mpr hsecure)⟩
    · rintro ⟨hcode, hwell, hsecure, hsetup⟩
      exact ⟨⟨hcode, hwell, Or.inr hsetup⟩, hsecure⟩
  · obtain ⟨h, -⟩ := (exists_state_iff hresult _).mp ⟨status, hstatus, rfl⟩
    rw [readSecureBootStatus_of_reports hresult h] at hstatus
    rw [← Except.ok.inj hstatus]
    rfl
  · exact readSecureBootStatus_of_not_reports rt hresult fun hreports =>
      h ⟨hreports.exitCode, hreports.wellFormed, hreports.value⟩

end Adapter

/-- The tool reports a state twice, and the mode between. -/
def changedResult : CommandResult :=
  .ended mokutilCommand (by decide)
    "SecureBoot disabled\nSetupMode  enabled\n SecureBoot enabled\nPlatform is fine\n" "" 0 1

/-- The last state counts. -/
theorem readSecureBootStatus_sound_changed : ∃ status,
    readSecureBootStatus asciiText (fun _ => .ok changedResult) [] = .ok status ∧
      status.state = .enabled := by
  have hresult : (fun _ => .ok changedResult : CommandRunner)
      { command := mokutilCommand, timeoutSeconds := some 5, env := plainLocale [] } =
        .ok changedResult := rfl
  exact (readSecureBootStatus_sound asciiText hresult).enabled_iff.mpr
    ⟨rfl, by decide +kernel, by decide +kernel⟩

end ClassroomSuite.Platform.SecureBoot
