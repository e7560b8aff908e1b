import ClassroomSuite.Library.Occurrences
import ClassroomSuite.Python.Json

/-!
# Redacting log messages

A message that has one of the fragments that suggest a secret is masked as a whole, in both formats
of the log. Two names have a fragment although what they stand for is no secret. They count for the
whole message, not where they occur: a message that has one of them is never masked, whatever else
it has.

Source: `cli/src/bcs/logging_setup.py`.

## Main definitions

* `redact`.
* `LogRecord`, `textFormat`, `jsonFormat`: the formatters.
* `HasSecret`: a fragment is left when the excluded names are deleted.
* `RedactedRightly`.

## Main results

* `redact_of_hasExclude`, `redact_of_not_hasExclude`.
* `redactedRightly_iff`.
-/

namespace ClassroomSuite.Cli

open Python Library

/-- `_SENSITIVE_KEY_FRAGMENTS`. -/
def sensitiveKeyFragments : List String := ["password", "secret", "token", "key"]

/-- `_SENSITIVE_KEY_EXCLUDES`. -/
def sensitiveKeyExcludes : List String := ["signingkey", "keyref"]

/-- What takes the place of a message that is masked. -/
def mask : String := "***"

/-- The test `word in text`. -/
def occursIn (word : String) (text : List Char) : Bool := decide (word.toList <:+: text)

variable (rt : TextRuntime)

/-- `_redact`: mask a message that has a fragment and no excluded word. -/
def redact (message : String) : String :=
  let lowered := (rt.lower message).toList
  if sensitiveKeyFragments.any fun fragment =>
      occursIn fragment lowered && !sensitiveKeyExcludes.any fun exc => occursIn exc lowered
  then mask else message

/-! ### The formatters -/

/-- A record, with its time as it is formatted. -/
structure LogRecord where
  timestamp : String
  levelname : String
  message : String

/-- A text with blanks behind it up to a width. -/
def ljust (width : ℕ) (s : String) : String :=
  String.ofList (s.toList ++ List.replicate (width - s.length) ' ')

/-- The line of a record with its message as it is shown. -/
def textLine (invocationId : String) (record : LogRecord) (shown : String) : String :=
  record.timestamp ++ " " ++ ljust 5 record.levelname ++ " [" ++ invocationId ++ "] " ++ shown

/-- A record as a line (`_TextFormatter.format`). -/
def textFormat (invocationId : String) (record : LogRecord) : String :=
  textLine invocationId record (redact rt record.message)

/-- The object of a record with its message as it is shown. -/
def jsonPayload (invocationId command : String) (record : LogRecord) (shown : String) : Json :=
  .obj [("ts", .str record.timestamp), ("level", .str (rt.lower record.levelname)),
    ("invocationId", .str invocationId), ("command", .str command), ("message", .str shown)]

/-- A record as a value (`_JsonFormatter.format`). -/
def jsonFormat (dumps : Json → String) (invocationId command : String) (record : LogRecord) :
    String :=
  dumps (jsonPayload rt invocationId command record (redact rt record.message))

/-! ### Secrets -/

/-- One of the excluded names occurs in the message, in whatever case. -/
def HasExclude (message : String) : Prop :=
  ∃ exc ∈ sensitiveKeyExcludes, exc.toList <:+: (rt.lower message).toList

/-- A fragment is left when all occurrences of the excluded names are deleted. -/
def HasSecret (message : String) : Prop :=
  ∃ fragment ∈ sensitiveKeyFragments, fragment.toList <:+:
    deleteOccurrences (sensitiveKeyExcludes.map String.toList) (rt.lower message).toList

/-- A message with a secret is masked, and neither format has anything of it; another message is
kept. -/
structure RedactedRightly (message : String) : Prop where
  masked : HasSecret rt message → redact rt message = mask
  text : HasSecret rt message → ∀ invocationId record, record.message = message →
    textFormat rt invocationId record = textLine invocationId record mask
  json : HasSecret rt message → ∀ dumps invocationId command record, record.message = message →
    jsonFormat rt dumps invocationId command record =
      dumps (jsonPayload rt invocationId command record mask)
  kept : ¬ HasSecret rt message → redact rt message = message

variable {rt} {message : String}

/-- A message with an excluded name is kept, whatever else it has. -/
theorem redact_of_hasExclude (h : HasExclude rt message) : redact rt message = message := by
  obtain ⟨exc, hexc, hoccurs⟩ := h
  have hany : (sensitiveKeyExcludes.any fun exc => occursIn exc (rt.lower message).toList) = true :=
    List.any_eq_true.mpr ⟨exc, hexc, decide_eq_true hoccurs⟩
  simp [redact, hany]

/-- Without an excluded name nothing is deleted before the fragments are looked for. -/
theorem hasSecret_iff_of_not_hasExclude (h : ¬ HasExclude rt message) :
    HasSecret rt message ↔
      ∃ fragment ∈ sensitiveKeyFragments, fragment.toList <:+: (rt.lower message).toList := by
  have hdelete : deleteOccurrences (sensitiveKeyExcludes.map String.toList)
      (rt.lower message).toList = (rt.lower message).toList := by
    refine deleteOccurrences_of_not_infix fun w hw hinfix => ?_
    obtain ⟨exc, hexc, rfl⟩ := List.mem_map.mp hw
    exact h ⟨exc, hexc, hinfix⟩
  rw [HasSecret, hdelete]

theorem redact_of_not_hasExclude (h : ¬ HasExclude rt message) :
    (HasSecret rt message → redact rt message = mask) ∧
      (¬ HasSecret rt message → redact rt message = message) := by
  have hany : (sensitiveKeyExcludes.any fun exc => occursIn exc (rt.lower message).toList) =
      false := by
    refine List.any_eq_false.mpr fun exc hexc hoccurs => h ⟨exc, hexc, ?_⟩
    exact of_decide_eq_true hoccurs
  have hfragments : HasSecret rt message ↔ (sensitiveKeyFragments.any fun fragment =>
      occursIn fragment (rt.lower message).toList) = true := by
    rw [hasSecret_iff_of_not_hasExclude h, List.any_eq_true]
    simp only [occursIn, decide_eq_true_eq]
  simp only [redact, hany, Bool.not_false, Bool.and_true, hfragments]
  exact ⟨fun hsecret => if_pos hsecret, fun hsecret => if_neg hsecret⟩

/-- A message is redacted rightly if and only if it has none of the excluded names, or no secret
beside them. -/
theorem redactedRightly_iff (rt : TextRuntime) (hmask : rt.lower mask = mask) (message : String) :
    RedactedRightly rt message ↔ ¬ HasExclude rt message ∨ ¬ HasSecret rt message := by
  constructor
  · intro h
    by_contra hboth
    rw [not_or, not_not, not_not] at hboth
    obtain ⟨hexclude, hsecret⟩ := hboth
    have hmessage : message = mask := (redact_of_hasExclude hexclude).symm.trans (h.masked hsecret)
    obtain ⟨exc, hexc, hoccurs⟩ := hexclude
    rw [hmessage, hmask] at hoccurs
    have hnone : ∀ exc ∈ sensitiveKeyExcludes, ¬ exc.toList <:+: mask.toList := by decide
    exact hnone exc hexc hoccurs
  · intro h
    have hboth : (HasSecret rt message → redact rt message = mask) ∧
        (¬ HasSecret rt message → redact rt message = message) := by
      by_cases hexclude : HasExclude rt message
      · have hsecret : ¬ HasSecret rt message := h.resolve_left (not_not.mpr hexclude)
        exact ⟨fun hyes => absurd hyes hsecret, fun _ => redact_of_hasExclude hexclude⟩
      · exact redact_of_not_hasExclude hexclude
    refine ⟨hboth.1, fun hsecret invocationId record hrecord => ?_,
      fun hsecret dumps invocationId command record hrecord => ?_, hboth.2⟩
    · rw [textFormat, hrecord, hboth.1 hsecret]
    · rw [jsonFormat, hrecord, hboth.1 hsecret]

/-- A message with a secret and no excluded name is masked. -/
theorem redactedRightly_password : RedactedRightly asciiText "somePassword=hunter2" :=
  (redactedRightly_iff asciiText (by decide +kernel) _).mpr
    (Or.inl (by unfold HasExclude; decide +kernel))

/-- A secret beside the path of a key is not masked. -/
theorem not_redactedRightly_signingKey :
    ¬ ∀ (rt : TextRuntime) (message : String), RedactedRightly rt message := by
  intro h
  have hsecret : HasSecret asciiText "signingKey=keys/lliurex.gpg password=hunter2" := by
    unfold HasSecret
    decide +kernel
  have hkept : redact asciiText "signingKey=keys/lliurex.gpg password=hunter2" ≠ mask := by
    decide +kernel
  exact hkept ((h _ _).masked hsecret)

end ClassroomSuite.Cli
