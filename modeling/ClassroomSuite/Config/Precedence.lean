import ClassroomSuite.Config.Loader

/-!
# Which configuration file is chosen

The documented order is `--config`, then `$BCS_CONFIG`, then the one of `bcs.yaml` and
`classroom.yaml` in the current directory, both being an error, and only then the file the
preferences name as a default. The root callback passes that default to the loader in the place of
`--config`, so it comes second instead of last.

`resolvePath_agrees_iff` is the exact condition under which the two orders choose alike. The
document does not say whether a default that is not a file is an error; the condition is given for
both readings. A path that cannot be looked up is no file in the documented order; the loader lets
the exception of such a path out.

Source: `docs/CLI.md`, sections "ClassroomConfig Resolution" and "CLI Preferences File".

## Main definitions

* `documentedPath`: the documented order.
* `asked`: the paths that the loader asks about.
* `Agrees`, `DefaultAgrees`, `DefaultHarmless`.

## Main results

* `resolvePath_agrees_iff`.
-/

namespace ClassroomSuite.Config

open Library

/-- The path is known to be a file. -/
def Host.hasFile (host : Host) (path : PurePath) : Bool :=
  match host.isFile path with
  | .ok isFile => isFile
  | .error _ => false

/-- The path can be looked up. -/
def Host.Answers (host : Host) (path : PurePath) : Prop := ∃ isFile, host.isFile path = .ok isFile

/-- The candidates of the current directory that are files. -/
def localFiles (host : Host) (cwd : PurePath) : List PurePath :=
  (localCandidates cwd).filter host.hasFile

/-- The path the documentation chooses; nothing means a usage error. Whether the default of the
preferences has to be a file is `checked`. -/
def documentedPath (checked : Bool) (host : Host) (config defaultConfig : Option PurePath)
    (env : List (String × String)) (cwd : PurePath) : Option PurePath :=
  match config with
  | some path => if host.hasFile path then some path else none
  | none =>
    match envPath env with
    | some path => if host.hasFile path then some path else none
    | none =>
      match localFiles host cwd with
      | [path] => some path
      | _ :: _ :: _ => none
      | [] => if checked then defaultConfig.filter host.hasFile else defaultConfig

/-- The paths that the loader asks about: the one that takes the place of `--config`, or that of the
environment, or both candidates of the current directory. -/
def asked (config defaultConfig : Option PurePath) (env : List (String × String))
    (cwd : PurePath) : List PurePath :=
  match config.or defaultConfig with
  | some path => [path]
  | none =>
    match envPath env with
    | some path => [path]
    | none => localCandidates cwd

/-- The chosen path is the documented one, and a failure is a usage error where one is
documented. -/
def Agrees (chosen : Except ConfigException PurePath) (documented : Option PurePath) : Prop :=
  match chosen with
  | .ok path => documented = some path
  | .error (.usage _) => documented = none
  | .error _ => False

/-- Taking the default `d` first does no harm: it is the very file that the sources before it
name, or neither it nor what they name is a file. Where nothing comes before it, it does no harm if
it has to be a file, and otherwise if it is one. -/
def DefaultAgrees (checked : Bool) (host : Host) (env : List (String × String)) (cwd d : PurePath) :
    Prop :=
  match envPath env with
  | some path => host.hasFile d = host.hasFile path ∧ (host.hasFile d = true → d = path)
  | none =>
    match localFiles host cwd with
    | [path] => d = path
    | _ :: _ :: _ => host.hasFile d = false
    | [] => checked = true ∨ host.hasFile d = true

/-- `--config` is given, or there is no default, or the default does no harm. -/
def DefaultHarmless (checked : Bool) (host : Host) (config defaultConfig : Option PurePath)
    (env : List (String × String)) (cwd : PurePath) : Prop :=
  config ≠ none ∨ ∀ d, defaultConfig = some d → DefaultAgrees checked host env cwd d

variable {host : Host} {path : PurePath}

theorem Host.Answers.isFile_eq (h : host.Answers path) :
    host.isFile path = .ok (host.hasFile path) := by
  obtain ⟨isFile, hisFile⟩ := h
  rw [Host.hasFile, hisFile]

theorem hasFile_of_mem_localFiles {cwd : PurePath} (h : path ∈ localFiles host cwd) :
    host.hasFile path = true :=
  (List.mem_filter.mp h).2

/-- A path that has to be a file is chosen if it is one; that it cannot be looked up is no usage
error. -/
theorem agrees_existingFile_iff (message : String) (documented : Option PurePath) :
    Agrees (existingFile host path message) documented ↔
      host.Answers path ∧ documented = if host.hasFile path then some path else none := by
  rw [existingFile_eq, Host.Answers, Host.hasFile]
  cases hpath : host.isFile path with
  | error e => simp [Agrees]
  | ok isFile => cases isFile <;> simp [Agrees]

/-- A loader with an explicit path uses that path or fails. -/
theorem agrees_explicit_iff {loader : ConfigLoader} {d : PurePath}
    (h : loader.explicitPath = some d) (documented : Option PurePath) :
    Agrees (loader.resolvePath host) documented ↔
      host.Answers d ∧ documented = if host.hasFile d then some d else none := by
  rw [ConfigLoader.resolvePath, h]
  exact agrees_existingFile_iff _ documented

/-- The search in the current directory finds the one file there. -/
theorem agrees_singleFile (cwd : PurePath) (checked : Bool) (files : List PurePath) :
    Agrees (singleFile cwd files) (match files with
      | [path] => some path
      | _ :: _ :: _ => none
      | [] => if checked then Option.filter host.hasFile none else none) := by
  rcases files with _ | ⟨path, _ | ⟨path', paths⟩⟩ <;> simp [singleFile, Agrees]

/-- A loader without an explicit path follows the documented order without a default, unless a path
that it asks about cannot be looked up. -/
theorem agrees_no_explicit_iff (checked : Bool) {loader : ConfigLoader}
    (h : loader.explicitPath = none) :
    Agrees (loader.resolvePath host)
        (documentedPath checked host none none loader.env loader.cwd) ↔
      ∀ path ∈ asked none none loader.env loader.cwd, host.Answers path := by
  simp only [ConfigLoader.resolvePath, h, documentedPath, asked, Option.or_none]
  cases envPath loader.env with
  | some path => simp [agrees_existingFile_iff]
  | none =>
    constructor
    · intro hagrees path hpath
      cases hfiles : filesAmong host (localCandidates loader.cwd) with
      | error e =>
        obtain ⟨path', -, e', -, rfl⟩ := filesAmong_eq_error hfiles
        rw [hfiles] at hagrees
        exact hagrees.elim
      | ok files => exact answers_of_filesAmong hfiles path hpath
    · intro hanswers
      rw [filesAmong_eq_ok fun path hpath => (hanswers path hpath).isFile_eq]
      exact agrees_singleFile loader.cwd checked (localFiles host loader.cwd)

/-- Taking the default first agrees with the documented order exactly when it does no harm. -/
theorem default_agrees_iff (checked : Bool) (host : Host) (env : List (String × String))
    (cwd d : PurePath) :
    documentedPath checked host none (some d) env cwd =
        (if host.hasFile d then some d else none) ↔
      DefaultAgrees checked host env cwd d := by
  simp only [documentedPath, DefaultAgrees]
  cases envPath env with
  | some path =>
    by_cases hd : host.hasFile d = true
    · by_cases hpath : host.hasFile path = true
      · simp only [hd, hpath, if_true, Option.some.injEq, true_and, true_imp_iff]
        exact eq_comm
      · simp [hd, hpath]
    · by_cases hpath : host.hasFile path = true <;> simp [hd, hpath]
  | none =>
    rcases hlocal : localFiles host cwd with _ | ⟨path, _ | ⟨path', paths⟩⟩
    · by_cases hd : host.hasFile d = true <;> cases checked <;> simp [hd, Option.filter]
    · have hmem : path ∈ localFiles host cwd := by simp [hlocal]
      have hpath : host.hasFile path = true := hasFile_of_mem_localFiles hmem
      by_cases hd : host.hasFile d = true
      · simp only [hd, if_true, Option.some.injEq]
        exact eq_comm
      · have hne : d ≠ path := fun h => hd (h ▸ hpath)
        simp [hd, hne]
    · by_cases hd : host.hasFile d = true <;> simp [hd]

/-- The file the callback and the loader choose together is the documented one exactly when the
paths they ask about can be looked up and the default of the preferences does no harm. -/
theorem resolvePath_agrees_iff (checked : Bool) (host : Host)
    (config defaultConfig : Option PurePath) (set : List String) (env : List (String × String))
    (cwd : PurePath) :
    Agrees ((mainConfigLoader config defaultConfig set env cwd).resolvePath host)
        (documentedPath checked host config defaultConfig env cwd) ↔
      (∀ path ∈ asked config defaultConfig env cwd, host.Answers path) ∧
        DefaultHarmless checked host config defaultConfig env cwd := by
  cases config with
  | some path =>
    rw [agrees_explicit_iff rfl]
    simp [documentedPath, DefaultHarmless, asked]
  | none =>
    cases defaultConfig with
    | none =>
      have hexplicit : (mainConfigLoader none none set env cwd).explicitPath = none := rfl
      have hharmless : DefaultHarmless checked host none none env cwd :=
        Or.inr fun d hd => absurd hd (Option.some_ne_none d).symm
      exact (agrees_no_explicit_iff checked hexplicit).trans (and_iff_left hharmless).symm
    | some d =>
      rw [agrees_explicit_iff rfl, default_agrees_iff]
      simp [DefaultHarmless, asked]

/-- With `BCS_CONFIG=/a.yaml` and a default `/d.yaml`, both files, the default is chosen. -/
theorem resolvePath_default_over_env :
    ∃ (host : Host) (defaultConfig : Option PurePath) (env : List (String × String))
      (cwd : PurePath), ∀ checked : Bool,
        ¬ Agrees ((mainConfigLoader none defaultConfig [] env cwd).resolvePath host)
          (documentedPath checked host none defaultConfig env cwd) := by
  refine ⟨⟨fun _ => .ok true, fun _ => .error ⟨.enoent, none⟩⟩, some (.ofString "/d.yaml"),
    [("BCS_CONFIG", "/a.yaml")], .ofString "/home", fun checked h => ?_⟩
  have hpath : PurePath.ofString "/a.yaml" = .ofString "/d.yaml" := Option.some.inj h
  exact absurd hpath (by decide)

end ClassroomSuite.Config
