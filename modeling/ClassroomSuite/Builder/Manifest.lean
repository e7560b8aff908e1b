import ClassroomSuite.Builder.Stages
import ClassroomSuite.Library.Creation

/-!
# Reading a manifest

A manifest is read in four steps, each of which has errors of its own: the file is opened, its bytes
are decoded, the text is parsed and the value is validated. Errors of three of them are translated,
and so is, of the first step, that there is no such file. What is left are the bytes that are not
UTF-8, and a missing path that opening fails on with another error: one below a regular file, or one
that cannot be a path at all, as with a name that is too long.

Source: `cli/src/bcs/builder/manifest.py`, `cli/src/bcs/builder/execution.py`,
`cli/src/bcs/builder/errors.py`.

## Main definitions

* `OpenFailure`, `ManifestRuntime`, `ManifestException`.
* `ManifestRuntime.openFailure`: what opening a missing path fails with.
* `readJson`, `loadManifest`.
* `LoadsCleanly`.

## Main results

* `loadsCleanly_iff`, `openFailure_eq_enoent_iff`.
-/

namespace ClassroomSuite.Builder

open Python Library

/-- How opening a path fails at which there is nothing. -/
inductive OpenFailure where
  | osError (e : Errno)
  /-- The path has a character that no path has. -/
  | valueError (message : String)

/-- What a manifest is read with: a text is parsed, and a value is validated, or an exception is
raised, given by its text. A path may be refused for what it is, whatever is on the disk: a name in
it is too long, it runs in circles, or it has a null character. -/
structure ManifestRuntime where
  loads : String → Except String Json
  validate : Json → Except String BuildManifest
  refusal : AbsPath → Option OpenFailure := fun _ => none

/-- What reading a manifest may raise. -/
inductive ManifestException where
  | osError (e : OSError)
  | valueError (message : String)
  | unicodeDecodeError
  | jsonDecodeError (problem : String)
  /-- `ManifestError`, with its details. -/
  | manifestError (message : String) (details : List (String × String))

/-- Computations that read a manifest. -/
abbrev ManifestIO := EStateM ManifestException Disk

/-- Whether there is a regular file on the path. -/
def isBlocked (t : Node FileData) (p : AbsPath) : Bool :=
  p.inits.any fun q => match t.stat q with
    | some (.file _) => true
    | _ => false

/-- What opening a missing path fails with. Below a regular file there is no directory to look
in. -/
def ManifestRuntime.openFailure (rt : ManifestRuntime) (t : Node FileData) (p : AbsPath) :
    OpenFailure :=
  match rt.refusal p with
  | some failure => failure
  | none => .osError (if isBlocked t p then .enotdir else .enoent)

/-- The exception of a failure to open a path. -/
def OpenFailure.exception (p : AbsPath) : OpenFailure → ManifestException
  | .osError e => .osError (.at e p)
  | .valueError message => .valueError message

/-- Read the bytes of a file. -/
def readBytes (rt : ManifestRuntime) (p : AbsPath) : ManifestIO (List UInt8) := do
  let t := (← get).tree
  if (t.stat p).isNone then throw ((rt.openFailure t p).exception p)
  else onPart id (fun _ d => d) .osError (Disk.readFile p)

/-- `read_json`. -/
def readJson (rt : ManifestRuntime) (p : AbsPath) : ManifestIO Json := do
  let bytes ← readBytes rt p
  match readText bytes with
  | none => throw .unicodeDecodeError
  | some text =>
    match rt.loads text with
    | .ok data => return data
    | .error problem => throw (.jsonDecodeError problem)

/-- `load_manifest`. -/
def loadManifest (rt : ManifestRuntime) (p : AbsPath) : ManifestIO BuildManifest := do
  let path := AbsPath.str p
  let data ← tryCatch (readJson rt p) fun
    | .osError e =>
      if e.errno = .enoent then
        throw (.manifestError ("Manifest file not found: " ++ path) [("path", path)])
      else throw (.osError e)
    | .jsonDecodeError problem =>
      throw (.manifestError ("Manifest file is not valid JSON: " ++ problem)
        [("path", path), ("error", problem)])
    | e => throw e
  match rt.validate data with
  | .ok manifest => return manifest
  | .error problem =>
    throw (.manifestError ("Failed to validate manifest: " ++ problem)
      [("path", path), ("error", problem)])

/-- The manifest is returned, or a `ManifestError` raised. -/
def LoadsCleanly (rt : ManifestRuntime) (p : AbsPath) (d : Disk) : Prop :=
  match loadManifest rt p d with
  | .ok _ _ => True
  | .error (.manifestError _ _) _ => True
  | .error _ _ => False

/-- There is a regular file at the path that can be read. -/
def IsReadable (d : Disk) (p : AbsPath) (bytes : List UInt8) : Prop :=
  d.tree.stat p = some (.file ⟨bytes, true⟩) ∧ d.faults d.tick = none

/-! ### Reading the file -/

theorem isBlocked_iff {t : Node FileData} {p : AbsPath} : isBlocked t p = true ↔ ¬ t.Free p := by
  rw [isBlocked, List.any_eq_true, Node.Free, not_forall]
  refine exists_congr fun q => ?_
  rw [List.mem_inits, Classical.not_imp, not_forall]
  refine and_congr_right fun _ => ?_
  cases t.stat q with
  | none => simp
  | some x => cases x <;> simp

/-- A path that is not refused is not found exactly if there is no regular file on it. -/
theorem openFailure_eq_enoent_iff {rt : ManifestRuntime} {t : Node FileData} {p : AbsPath}
    (h : rt.refusal p = none) : rt.openFailure t p = .osError .enoent ↔ t.Free p := by
  have hne : Errno.enotdir ≠ Errno.enoent := by decide
  rw [ManifestRuntime.openFailure, h]
  cases hblocked : isBlocked t p with
  | true => simpa [hne] using isBlocked_iff.mp hblocked
  | false =>
    have hfree : t.Free p := not_not.mp fun hfree => by
      rw [isBlocked_iff.mpr hfree] at hblocked
      cases hblocked
    simpa using hfree

theorem readBytes_of_isReadable (rt : ManifestRuntime) {d : Disk} {p : AbsPath}
    {bytes : List UInt8} (h : IsReadable d p bytes) :
    readBytes rt p d = .ok bytes { d with tick := d.tick + 1 } := by
  simp [readBytes, bind_apply, h.1, onPart, Disk.readFile, Disk.openFile, h.2]

theorem readBytes_of_missing (rt : ManifestRuntime) {d : Disk} {p : AbsPath}
    (h : d.tree.stat p = none) :
    readBytes rt p d = .error ((rt.openFailure d.tree p).exception p) d := by
  simp [readBytes, bind_apply, h]

/-- From a file that can be read, the text is parsed and the value validated. -/
theorem readJson_of_isReadable {rt : ManifestRuntime} {d : Disk} {p : AbsPath} {bytes : List UInt8}
    (h : IsReadable d p bytes) : readJson rt p d =
      match readText bytes with
      | none => .error .unicodeDecodeError { d with tick := d.tick + 1 }
      | some text =>
        match rt.loads text with
        | .ok data => .ok data { d with tick := d.tick + 1 }
        | .error problem => .error (.jsonDecodeError problem) { d with tick := d.tick + 1 } := by
  rw [readJson, bind_apply, readBytes_of_isReadable rt h]
  dsimp only
  cases htext : readText bytes with
  | none => simp only [throw_apply]
  | some text => cases hdata : rt.loads text <;> simp only [hdata, pure_apply, throw_apply]

/-- What is loaded from a file is what its text is parsed and validated to. -/
theorem loadManifest_of_isReadable {rt : ManifestRuntime} {d : Disk} {p : AbsPath}
    {bytes : List UInt8} {text : String} {data : Json} {manifest : BuildManifest}
    (h : IsReadable d p bytes) (htext : readText bytes = some text)
    (hdata : rt.loads text = .ok data) (hmanifest : rt.validate data = .ok manifest) :
    loadManifest rt p d = .ok manifest { d with tick := d.tick + 1 } := by
  simp [loadManifest, bind_apply, tryCatch_apply, readJson_of_isReadable h, htext, hdata, hmanifest]

/-- Nothing but bytes that are not UTF-8 makes a file fail otherwise than with a
`ManifestError`. -/
theorem loadsCleanly_of_isReadable {rt : ManifestRuntime} {d : Disk} {p : AbsPath}
    {bytes : List UInt8} (h : IsReadable d p bytes) :
    LoadsCleanly rt p d ↔ decodeUtf8 bytes ≠ none := by
  have htext : readText bytes = none ↔ decodeUtf8 bytes = none := by
    rw [readText, Option.map_eq_none_iff]
  rw [ne_eq, ← htext]
  unfold LoadsCleanly
  simp only [loadManifest, bind_apply, tryCatch_apply, readJson_of_isReadable h]
  cases readText bytes with
  | none => simp
  | some text =>
    cases hdata : rt.loads text with
    | error problem => simp [hdata]
    | ok data => cases hvalid : rt.validate data <;> simp [hdata, hvalid]

/-- A missing file is a `ManifestError` exactly if opening it fails for there being none. -/
theorem loadsCleanly_of_missing {rt : ManifestRuntime} {d : Disk} {p : AbsPath}
    (h : d.tree.stat p = none) :
    LoadsCleanly rt p d ↔ rt.openFailure d.tree p = .osError .enoent := by
  have hread : readJson rt p d = .error ((rt.openFailure d.tree p).exception p) d := by
    rw [readJson, bind_apply, readBytes_of_missing rt h]
  unfold LoadsCleanly
  simp only [loadManifest, bind_apply, tryCatch_apply, hread]
  cases rt.openFailure d.tree p with
  | valueError message => simp [OpenFailure.exception]
  | osError e => by_cases he : e = .enoent <;> simp [OpenFailure.exception, OSError.at, he]

/-- A manifest that is missing or can be read is loaded, or a `ManifestError` raised, if and only if
opening it fails for there being none, or its bytes are UTF-8. -/
theorem loadsCleanly_iff (rt : ManifestRuntime) {d : Disk} {p : AbsPath}
    (h : d.tree.stat p = none ∨ ∃ bytes, IsReadable d p bytes) :
    LoadsCleanly rt p d ↔
      (d.tree.stat p = none ∧ rt.openFailure d.tree p = .osError .enoent) ∨
        ∃ bytes, IsReadable d p bytes ∧ decodeUtf8 bytes ≠ none := by
  rcases h with hmissing | ⟨bytes, hreadable⟩
  · have hnone : ¬ ∃ bytes, IsReadable d p bytes ∧ decodeUtf8 bytes ≠ none := by
      rintro ⟨bytes, hreadable, -⟩
      exact Option.some_ne_none _ (hreadable.1.symm.trans hmissing)
    rw [loadsCleanly_of_missing hmissing, or_iff_left hnone, and_iff_right hmissing]
  · have hthere : ¬ (d.tree.stat p = none ∧ rt.openFailure d.tree p = .osError .enoent) := fun h =>
      Option.some_ne_none _ (hreadable.1.symm.trans h.1)
    rw [loadsCleanly_of_isReadable hreadable, or_iff_right hthere]
    constructor
    · exact fun h => ⟨bytes, hreadable, h⟩
    · rintro ⟨bytes', hreadable', h⟩
      have hsame := hreadable.1.symm.trans hreadable'.1
      simp only [Option.some.injEq, FileStat.file.injEq, FileData.mk.injEq, and_true] at hsame
      rwa [hsame]

/-- Libraries that know one text, the empty object, in which the fields of a manifest are
missing. -/
def emptyManifestRuntime : ManifestRuntime where
  loads text := if text = "\x7b\x7d" then .ok (.obj []) else .error "Expecting value"
  validate _ := .error "2 validation errors for BuildManifest"

/-- A disk with one manifest file. -/
def diskWithManifest (bytes : List UInt8) : Disk :=
  .ofTree (.dir [("manifest.json", .file ⟨bytes, true⟩)])

/-- An empty object is no manifest, which is a `ManifestError`, and so is a missing file. A missing
file below another one is none. -/
theorem loadsCleanly_empty_object :
    LoadsCleanly emptyManifestRuntime ["manifest.json"] (diskWithManifest [123, 125]) ∧
      LoadsCleanly emptyManifestRuntime ["lab"] (diskWithManifest []) ∧
      ¬ LoadsCleanly emptyManifestRuntime ["manifest.json", "lab"] (diskWithManifest []) := by
  have hreadable : IsReadable (diskWithManifest [123, 125]) ["manifest.json"] [123, 125] :=
    ⟨by decide, rfl⟩
  have hutf8 : decodeUtf8 [123, 125] ≠ none := by decide +kernel
  refine ⟨(loadsCleanly_iff _ (.inr ⟨_, hreadable⟩)).mpr (.inr ⟨_, hreadable, hutf8⟩),
    (loadsCleanly_iff _ (.inl (by decide))).mpr (.inl ⟨by decide, rfl⟩), fun h => ?_⟩
  rcases (loadsCleanly_iff _ (.inl (by decide))).mp h with ⟨-, hopen⟩ | ⟨_, ⟨hfile, -⟩, -⟩
  · cases hopen
  · cases hfile

/-- A manifest that is no UTF-8 text is no `ManifestError`. -/
theorem not_loadsCleanly_not_utf8 :
    ¬ ∀ (rt : ManifestRuntime) (d : Disk) (p : AbsPath),
      (d.tree.stat p = none ∨ ∃ bytes, IsReadable d p bytes) → LoadsCleanly rt p d := by
  intro h
  have hreadable : IsReadable (diskWithManifest [255]) ["manifest.json"] [255] :=
    ⟨by decide, rfl⟩
  have hutf8 : decodeUtf8 [255] = none := by decide +kernel
  exact (loadsCleanly_of_isReadable hreadable).mp (h emptyManifestRuntime _ _ (.inr ⟨_, hreadable⟩))
    hutf8

end ClassroomSuite.Builder
