import ClassroomSuite.Platform.Efi.EntryLines
import ClassroomSuite.Platform.Execution

/-!
# Reading the boot configuration

The adapter runs one tool and parses its output. The parser passes over every line that it does not
recognize, and the adapter does not look whether any was left: an output in which no line is
recognized is parsed to an empty configuration.

Source: `cli/src/bcs/platform/adapters/efi/adapter.py`.

## Main definitions

* `readFirmwareBootConfiguration`.
* `isRecognized`: whether a line has one of the patterns.
* `RejectsUnrecognized`: an output without any such line is an error.
* `RecognizesOutput`: the tool, if it succeeds, writes such a line.

## Main results

* `parseFirmwareBootConfiguration_of_unrecognized`: what an output without any such line is parsed
  to.
* `not_escapes_readFirmwareBootConfiguration`.
* `rejectsUnrecognized_iff`.
-/

namespace ClassroomSuite.Platform.Efi

open Python Library

/-- What the error output of the tool has when the environment has no boot variables. -/
def unavailablePatterns : List String :=
  ["efivars not mounted", "efivarfs not mounted", "permission denied", "operation not permitted",
    "no such file or directory", "efi system partition", "boot variable", "efi variables",
    "not supported"]

/-- The command of the adapter. -/
def efibootmgrCommand : List String := ["efibootmgr", "-v"]

variable (rt : ModelRuntime) (numerals : Numerals)

/-- Run the tool and read the configuration from its output. -/
def readFirmwareBootConfiguration (runner : CommandRunner) (environ : List (String × String))
    (timeoutSeconds : Option ℚ := some 30) : Except Raised FirmwareBootConfiguration := do
  let output ← runForOutput rt.text .firmwareBoot unavailablePatterns
    "EFI boot variables are not available in this environment." runner
    "efibootmgr" ["-v"] timeoutSeconds (plainLocale environ)
  parsedOutput .firmwareBoot "Failed to parse efibootmgr output: " output
    (parseFirmwareBootConfiguration rt numerals output)

/-- The stripped line has one of the five patterns, also if the value of its field is empty. -/
def isRecognized (line : List Char) : Bool :=
  fieldNames.any (fun name => (fieldValue name (strip isSpace line)).isSome) ||
    (matchBootEntry (strip isSpace line)).isSome

/-- An output in which no line is recognized is a parse error, a configuration is returned only
where one was, and every other outcome is an exception of the platform layer. -/
structure RejectsUnrecognized (runner : CommandRunner) (environ : List (String × String))
    (timeoutSeconds : Option ℚ) : Prop where
  rejected : ∀ result,
    runner { command := efibootmgrCommand, timeoutSeconds, env := plainLocale environ } =
        .ok result → result.exitCode = some 0 →
      (∀ line ∈ splitLines result.stdout.toList, isRecognized line = false) →
        ∃ message, readFirmwareBootConfiguration rt numerals runner environ timeoutSeconds =
          .error (.platform (.adapterParse .firmwareBoot message result.stdout))
  recognized : ∀ config,
    readFirmwareBootConfiguration rt numerals runner environ timeoutSeconds = .ok config →
      ∃ result,
        runner { command := efibootmgrCommand, timeoutSeconds, env := plainLocale environ } =
          .ok result ∧ result.exitCode = some 0 ∧
        ∃ line ∈ splitLines result.stdout.toList, isRecognized line = true
  platform : (∃ config,
      readFirmwareBootConfiguration rt numerals runner environ timeoutSeconds = .ok config) ∨
    ∃ e, readFirmwareBootConfiguration rt numerals runner environ timeoutSeconds =
      .error (.platform e)

/-- The tool fails, or writes a line that is recognized. -/
def RecognizesOutput (runner : CommandRunner) (environ : List (String × String))
    (timeoutSeconds : Option ℚ) : Prop :=
  ∀ result,
    runner { command := efibootmgrCommand, timeoutSeconds, env := plainLocale environ } =
        .ok result → result.exitCode = some 0 →
      ∃ line ∈ splitLines result.stdout.toList, isRecognized line = true

variable {rt numerals}

/-! ### An output that is not recognized -/

theorem readLine_of_unrecognized {line : List Char} (h : isRecognized line = false) (number : ℕ) :
    readLine rt numerals line number = .ok .unrecognized := by
  rw [isRecognized, Bool.or_eq_false_iff, List.any_eq_false] at h
  obtain ⟨hfields, hentry⟩ := h
  have hnoField : ∀ name ∈ fieldNames, fieldValue name (strip isSpace line) = none :=
    fun name hname => by simpa using hfields name hname
  have hnoEntry : matchBootEntry (strip isSpace line) = none := by simpa using hentry
  rw [readLine_of_noField hnoField, hnoEntry]
  rfl

/-- An output without any line that is recognized is parsed to an empty configuration. -/
theorem parseFirmwareBootConfiguration_of_unrecognized {text : String}
    (h : ∀ line ∈ splitLines text.toList, isRecognized line = false) :
    parseFirmwareBootConfiguration rt numerals text =
      .ok { entries := [], rawText := text, nodup_bootNumbers := List.nodup_nil } := by
  have hitems : ((splitLines text.toList).zipIdx 1).mapM
      (fun p => readLine rt numerals p.1 p.2) =
        .ok ((splitLines text.toList).map fun _ => LineItem.unrecognized) := by
    rw [mapM_eq_ok_iff]
    refine forall₂_zipIdx ?_ 1
    rw [List.forall₂_map_right_iff, List.forall₂_same]
    exact fun line hline => readLine_of_unrecognized (h line hline)
  have hfold : ((splitLines text.toList).map fun _ => LineItem.unrecognized).foldl
      Parsed.assign {} = {} := by
    induction splitLines text.toList with
    | nil => rfl
    | cons line lines ih => exact ih
  rw [parseFirmwareBootConfiguration, hitems, ok_bind, hfold]
  rfl

/-! ### What passes through -/

theorem not_unhandled_malformed {α : Type} (fieldName : String) (line : List Char) (number : ℕ) :
    ¬ Raises PyError.Unhandled
      (.error (malformed rt fieldName line number) : Except PyError α) := by
  simp [malformed]

theorem not_unhandled_parseHex4 (value line : List Char) (number : ℕ) (fieldName : String) :
    ¬ Raises PyError.Unhandled (parseHex4 rt value line number fieldName) := by
  rw [parseHex4]
  split_ifs
  · exact not_raises_ok _ _
  · exact not_unhandled_malformed _ _ _

theorem not_unhandled_parseOptionalHex4 (value line : List Char) (number : ℕ) (fieldName : String) :
    ¬ Raises PyError.Unhandled (parseOptionalHex4 rt value line number fieldName) := by
  rw [parseOptionalHex4]
  split_ifs
  · exact not_raises_ok _ _
  · exact not_raises_map _ (not_unhandled_parseHex4 _ _ _ _) _

theorem not_unhandled_parseBootOrder (value line : List Char) (number : ℕ) :
    ¬ Raises PyError.Unhandled (parseBootOrder rt value line number) := by
  rw [parseBootOrder]
  split_ifs
  · exact not_raises_ok _ _
  · exact not_raises_mapM _ fun _ _ => not_unhandled_parseHex4 _ _ _ _

theorem not_unhandled_parseTimeout (value line : List Char) (number : ℕ) :
    ¬ Raises PyError.Unhandled (parseTimeout rt numerals value line number) := by
  rw [parseTimeout]
  split_ifs
  · exact not_unhandled_malformed _ _ _
  · exact Numerals.not_unhandled_int _

theorem not_unhandled_readLine (line : List Char) (number : ℕ) :
    ¬ Raises PyError.Unhandled (readLine rt numerals line number) := by
  rw [readLine]
  split_ifs
  · exact not_raises_ok _ _
  split
  · exact not_raises_map _ (not_unhandled_parseOptionalHex4 _ _ _ _) _
  split
  · exact not_raises_map _ (not_unhandled_parseTimeout _ _ _) _
  split
  · exact not_raises_map _ (not_unhandled_parseBootOrder _ _ _) _
  split
  · exact not_raises_map _ (not_unhandled_parseOptionalHex4 _ _ _ _) _
  split <;> exact not_raises_ok _ _

/-- The parser raises value errors only. -/
theorem not_unhandled_parseFirmwareBootConfiguration (text : String) :
    ¬ Raises PyError.Unhandled (parseFirmwareBootConfiguration rt numerals text) :=
  not_raises_bind _ (not_raises_mapM _ fun _ _ => not_unhandled_readLine _ _)
    fun _ _ => not_raises_construct rt _ _

theorem not_escapes_readFirmwareBootConfiguration (runner : CommandRunner)
    (environ : List (String × String)) (timeoutSeconds : Option ℚ) :
    ¬ Raises Raised.Escapes
      (readFirmwareBootConfiguration rt numerals runner environ timeoutSeconds) := by
  refine not_raises_bind _ (not_escapes_runForOutput _ _ _ _ _ _) fun output _ => ?_
  rw [escapes_parsedOutput_iff]
  exact not_unhandled_parseFirmwareBootConfiguration output

/-! ### The adapter -/

/-- The adapter parses what the tool writes where it succeeds. -/
theorem readFirmwareBootConfiguration_of_ok {runner : CommandRunner}
    {environ : List (String × String)} {timeoutSeconds : Option ℚ} {result : CommandResult}
    (hresult : runner { command := efibootmgrCommand, timeoutSeconds, env := plainLocale environ } =
      .ok result) (hcode : result.exitCode = some 0) :
    readFirmwareBootConfiguration rt numerals runner environ timeoutSeconds =
      parsedOutput .firmwareBoot "Failed to parse efibootmgr output: " result.stdout
        (parseFirmwareBootConfiguration rt numerals result.stdout) := by
  rw [readFirmwareBootConfiguration,
    runForOutput_eq_ok_iff.mpr ⟨result, hresult, hcode, rfl⟩, ok_bind]

/-- A configuration is returned only where the tool succeeds. -/
theorem exists_result_of_readFirmwareBootConfiguration {runner : CommandRunner}
    {environ : List (String × String)} {timeoutSeconds : Option ℚ}
    {config : FirmwareBootConfiguration}
    (h : readFirmwareBootConfiguration rt numerals runner environ timeoutSeconds = .ok config) :
    ∃ result,
      runner { command := efibootmgrCommand, timeoutSeconds, env := plainLocale environ } =
        .ok result ∧ result.exitCode = some 0 := by
  obtain ⟨output, houtput, -⟩ := bind_eq_ok_iff.mp h
  obtain ⟨result, hresult, hcode, -⟩ := runForOutput_eq_ok_iff.mp houtput
  exact ⟨result, hresult, hcode⟩

/-- An output without any line that is recognized is an error if and only if there is none. -/
theorem rejectsUnrecognized_iff (rt : ModelRuntime) (numerals : Numerals) (runner : CommandRunner)
    (environ : List (String × String)) (timeoutSeconds : Option ℚ) :
    RejectsUnrecognized rt numerals runner environ timeoutSeconds ↔
      RecognizesOutput runner environ timeoutSeconds := by
  constructor
  · intro h result hresult hcode
    by_contra hnone
    have hunrecognized : ∀ line ∈ splitLines result.stdout.toList, isRecognized line = false :=
      fun line hline => Bool.not_eq_true _ ▸ fun hline' => hnone ⟨line, hline, hline'⟩
    obtain ⟨message, herror⟩ := h.rejected result hresult hcode hunrecognized
    rw [readFirmwareBootConfiguration_of_ok hresult hcode,
      parseFirmwareBootConfiguration_of_unrecognized hunrecognized] at herror
    cases herror
  · intro h
    refine ⟨fun result hresult hcode hunrecognized => ?_, fun config hconfig => ?_,
      (not_escapes_iff _).mp (not_escapes_readFirmwareBootConfiguration _ _ _)⟩
    · obtain ⟨line, hline, hrecognized⟩ := h result hresult hcode
      rw [hunrecognized line hline] at hrecognized
      cases hrecognized
    · obtain ⟨result, hresult, hcode⟩ := exists_result_of_readFirmwareBootConfiguration hconfig
      exact ⟨result, hresult, hcode, h result hresult hcode⟩

/-- The tool succeeds with an output that is none of its own. -/
def foreignResult : CommandResult :=
  .ended efibootmgrCommand (by decide) "usage: efibootmgr [options]\n" "" 0 1

/-- It is read as a configuration. -/
theorem not_rejectsUnrecognized_foreign :
    ¬ ∀ (rt : ModelRuntime) (numerals : Numerals) (runner : CommandRunner)
      (environ : List (String × String)) (timeoutSeconds : Option ℚ),
        RejectsUnrecognized rt numerals runner environ timeoutSeconds := by
  intro h
  have hunrecognized : ∀ line ∈ splitLines foreignResult.stdout.toList,
      isRecognized line = false := by decide +kernel
  obtain ⟨message, herror⟩ := (h plainRuntime asciiNumerals (fun _ => .ok foreignResult) []
    (some 30)).rejected foreignResult rfl rfl hunrecognized
  rw [readFirmwareBootConfiguration_of_ok rfl rfl,
    parseFirmwareBootConfiguration_of_unrecognized hunrecognized] at herror
  cases herror

end ClassroomSuite.Platform.Efi
