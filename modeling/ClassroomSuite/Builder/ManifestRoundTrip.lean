import ClassroomSuite.Builder.Manifest
import ClassroomSuite.Python.ModelReader

/-!
# The round trip of a manifest

A manifest is written under the aliases of its fields, in objects with sorted keys, and read back
by the declarations of the models: for each field its name, its alias if it has one, how its value
is read and what it is without one. All values are read that have the types that the fields are
declared with, so that what is read determines what validation returns.

Source: `cli/src/bcs/builder/manifest.py`, `cli/src/bcs/builder/models.py`,
`cli/src/bcs/builder/execution.py`.

## Main definitions

* `BuildPlan.ofJson`, `BuildArtifact.ofJson`, `BuildStageResult.ofJson`, `BuildManifest.ofJson`.
* `BuildPlan.Normal`: the paths of a plan are in their normal form.
* `CanSave`: a manifest can be saved at the path.

## Main results

* `BuildManifest.ofJson_toJson`.
* `readText_encodeUtf8`, `stat_of_saveManifest`, `exists_saveManifest`.
* `loadManifest_saveManifest`.
-/

namespace ClassroomSuite.Builder

open Python Library

/-! ### The declarations of the models -/

/-- `Path`. -/
def readPath : Json → Option PurePath
  | .str s => some (PurePath.ofString s)
  | _ => none

/-- `float`, with `ge=0`. -/
def readSeconds : Json → Option ℚ≥0
  | .float (.finite q) => if h : 0 ≤ q then some ⟨q, h⟩ else none
  | _ => none

namespace BuildPlan

/-- `config_path`. -/
def configPathField : ReadField PurePath where
  name := "config_path"
  read := readPath

/-- `workspace_root`. -/
def workspaceRootField : ReadField (Option PurePath) where
  name := "workspace_root"
  aliasName := some "workspaceRoot"
  read := readOptional readPath
  default := some none

/-- `stages`. -/
def stagesField : ReadField (List String) where
  name := "stages"
  read := readTuple readStr
  default := some []

/-- `keep_workspace`. -/
def keepWorkspaceField : ReadField Bool where
  name := "keep_workspace"
  aliasName := some "keepWorkspace"
  read := readBool
  default := some false

/-- `verbose`. -/
def verboseField : ReadField Bool where
  name := "verbose"
  read := readBool
  default := some false

/-- Read a plan. -/
def ofJson : Json → Option BuildPlan
  | .obj fields =>
    if onlyKeys [configPathField.key fields, workspaceRootField.key fields, stagesField.key fields,
        keepWorkspaceField.key fields, verboseField.key fields] fields then do
      let configPath ← configPathField.get fields
      let workspaceRoot ← workspaceRootField.get fields
      let stages ← stagesField.get fields
      let keepWorkspace ← keepWorkspaceField.get fields
      let verbose ← verboseField.get fields
      return { configPath, workspaceRoot, stages, keepWorkspace, verbose }
    else none
  | _ => none

end BuildPlan

namespace BuildArtifact

/-- `path`. -/
def pathField : ReadField String where
  name := "path"
  read := readStr

/-- `artifact_type`. -/
def artifactTypeField : ReadField String where
  name := "artifact_type"
  aliasName := some "artifactType"
  read := readStr

/-- `checksum_sha256`. -/
def checksumSha256Field : ReadField (Option String) where
  name := "checksum_sha256"
  aliasName := some "checksumSha256"
  read := readOptional readStr
  default := some none

/-- `size_bytes`. -/
def sizeBytesField : ReadField (Option ℕ) where
  name := "size_bytes"
  aliasName := some "sizeBytes"
  read := readOptional readNat
  default := some none

/-- Read an artifact. -/
def ofJson : Json → Option BuildArtifact
  | .obj fields =>
    if onlyKeys [pathField.key fields, artifactTypeField.key fields, checksumSha256Field.key fields,
        sizeBytesField.key fields] fields then do
      let path ← pathField.get fields
      let artifactType ← artifactTypeField.get fields
      let checksumSha256 ← checksumSha256Field.get fields
      let sizeBytes ← sizeBytesField.get fields
      return { path, artifactType, checksumSha256, sizeBytes }
    else none
  | _ => none

end BuildArtifact

namespace BuildStageResult

/-- `stage_name`. -/
def stageNameField : ReadField String where
  name := "stage_name"
  aliasName := some "stageName"
  read := readStr

/-- `success`. -/
def successField : ReadField Bool where
  name := "success"
  read := readBool

/-- `exit_code`. -/
def exitCodeField : ReadField ℕ where
  name := "exit_code"
  aliasName := some "exitCode"
  read := readNat

/-- `message`. -/
def messageField : ReadField String where
  name := "message"
  read := readStr
  default := some ""

/-- `elapsed_seconds`. -/
def elapsedSecondsField : ReadField (Option ℚ≥0) where
  name := "elapsed_seconds"
  aliasName := some "elapsedSeconds"
  read := readOptional readSeconds
  default := some none

/-- `artifacts` of a result. -/
def artifactsField : ReadField (List BuildArtifact) where
  name := "artifacts"
  read := readTuple BuildArtifact.ofJson
  default := some []

/-- Read the result of a stage. -/
def ofJson : Json → Option BuildStageResult
  | .obj fields =>
    if onlyKeys [stageNameField.key fields, successField.key fields, exitCodeField.key fields,
        messageField.key fields, elapsedSecondsField.key fields, artifactsField.key fields]
        fields then do
      let stageName ← stageNameField.get fields
      let success ← successField.get fields
      let exitCode ← exitCodeField.get fields
      let message ← messageField.get fields
      let elapsedSeconds ← elapsedSecondsField.get fields
      let artifacts ← artifactsField.get fields
      return { stageName, success, exitCode, message, elapsedSeconds, artifacts }
    else none
  | _ => none

end BuildStageResult

namespace BuildManifest

/-- `manifest_version`. -/
def manifestVersionField : ReadField String where
  name := "manifest_version"
  aliasName := some "manifestVersion"
  read := readStr

/-- `plan`. -/
def planField : ReadField BuildPlan where
  name := "plan"
  read := BuildPlan.ofJson

/-- `artifacts` of a manifest. -/
def artifactsField : ReadField (List BuildArtifact) where
  name := "artifacts"
  read := readTuple BuildArtifact.ofJson
  default := some []

/-- `stage_results`. -/
def stageResultsField : ReadField (List BuildStageResult) where
  name := "stage_results"
  aliasName := some "stageResults"
  read := readTuple BuildStageResult.ofJson
  default := some []

/-- Read a manifest. -/
def ofJson : Json → Option BuildManifest
  | .obj fields =>
    if onlyKeys [manifestVersionField.key fields, planField.key fields, artifactsField.key fields,
        stageResultsField.key fields] fields then do
      let manifestVersion ← manifestVersionField.get fields
      let plan ← planField.get fields
      let artifacts ← artifactsField.get fields
      let stageResults ← stageResultsField.get fields
      return { manifestVersion, plan, artifacts, stageResults }
    else none
  | _ => none

end BuildManifest

/-! ### Reading what has been written -/

/-- The paths of a plan are in their normal form. -/
def BuildPlan.Normal (plan : BuildPlan) : Prop :=
  plan.configPath.Normal ∧ ∀ p, plan.workspaceRoot = some p → p.Normal

variable {α : Type}

theorem readPath_str {p : PurePath} (h : p.Normal) : readPath (Json.str p.str).sortKeys = some p :=
  congrArg some (PurePath.ofString_str h)

/-- The value may be converted before it is written. -/
theorem optionalJson_bind {β : Type} (write : β → Json) (f : α → β) (value : Option α) :
    optionalJson write (value >>= fun a => pure (f a)) =
      optionalJson (fun a => write (f a)) value := by
  cases value <;> rfl

/-- An optional value is read if it is, when it is there. -/
theorem readOptional_optionalJson {read : Json → Option α} {write : α → Json} {value : Option α}
    (hread : ∀ a, value = some a → read (write a).sortKeys = some a)
    (hnull : ∀ a, (write a).sortKeys ≠ .null) :
    readOptional read (optionalJson write value).sortKeys = some value := by
  cases value with
  | none => rfl
  | some a =>
    rw [optionalJson, readOptional.eq_def]
    split
    · exact absurd ‹_› (hnull a)
    · rw [hread a rfl, Option.map_some]

theorem readSeconds_float (q : ℚ≥0) : readSeconds (Json.float (.finite q)).sortKeys = some q := by
  simp only [Json.sortKeys, readSeconds, NNRat.coe_nonneg, dite_true]
  rfl

theorem BuildPlan.ofJson_obj {fields : Fields} {plan : BuildPlan}
    (hkeys : onlyKeys [configPathField.key fields, workspaceRootField.key fields,
      stagesField.key fields, keepWorkspaceField.key fields, verboseField.key fields] fields = true)
    (hconfig : configPathField.get fields = some plan.configPath)
    (hroot : workspaceRootField.get fields = some plan.workspaceRoot)
    (hstages : stagesField.get fields = some plan.stages)
    (hkeep : keepWorkspaceField.get fields = some plan.keepWorkspace)
    (hverbose : verboseField.get fields = some plan.verbose) :
    ofJson (.obj fields) = some plan := by
  rw [ofJson, if_pos hkeys, hconfig, hroot, hstages, hkeep, hverbose]
  rfl

theorem BuildArtifact.ofJson_obj {fields : Fields} {artifact : BuildArtifact}
    (hkeys : onlyKeys [pathField.key fields, artifactTypeField.key fields,
      checksumSha256Field.key fields, sizeBytesField.key fields] fields = true)
    (hpath : pathField.get fields = some artifact.path)
    (htype : artifactTypeField.get fields = some artifact.artifactType)
    (hchecksum : checksumSha256Field.get fields = some artifact.checksumSha256)
    (hsize : sizeBytesField.get fields = some artifact.sizeBytes) :
    ofJson (.obj fields) = some artifact := by
  rw [ofJson, if_pos hkeys, hpath, htype, hchecksum, hsize]
  rfl

theorem BuildStageResult.ofJson_obj {fields : Fields} {result : BuildStageResult}
    (hkeys : onlyKeys [stageNameField.key fields, successField.key fields, exitCodeField.key fields,
      messageField.key fields, elapsedSecondsField.key fields, artifactsField.key fields]
      fields = true)
    (hname : stageNameField.get fields = some result.stageName)
    (hsuccess : successField.get fields = some result.success)
    (hcode : exitCodeField.get fields = some result.exitCode)
    (hmessage : messageField.get fields = some result.message)
    (helapsed : elapsedSecondsField.get fields = some result.elapsedSeconds)
    (hartifacts : artifactsField.get fields = some result.artifacts) :
    ofJson (.obj fields) = some result := by
  rw [ofJson, if_pos hkeys, hname, hsuccess, hcode, hmessage, helapsed, hartifacts]
  rfl

theorem BuildManifest.ofJson_obj {fields : Fields} {manifest : BuildManifest}
    (hkeys : onlyKeys [manifestVersionField.key fields, planField.key fields,
      artifactsField.key fields, stageResultsField.key fields] fields = true)
    (hversion : manifestVersionField.get fields = some manifest.manifestVersion)
    (hplan : planField.get fields = some manifest.plan)
    (hartifacts : artifactsField.get fields = some manifest.artifacts)
    (hresults : stageResultsField.get fields = some manifest.stageResults) :
    ofJson (.obj fields) = some manifest := by
  rw [ofJson, if_pos hkeys, hversion, hplan, hartifacts, hresults]
  rfl

theorem BuildPlan.ofJson_toJson {plan : BuildPlan} (h : plan.Normal) :
    ofJson plan.toJson.sortKeys = some plan := by
  rw [toJson, Json.sortKeys]
  refine ofJson_obj ?_ ?_ ?_ ?_ ?_ ?_
  · simp only [key_sortFields, onlyKeys_sortFields]
    rfl
  · exact get_sortFields rfl rfl (readPath_str h.1)
  · exact get_sortFields rfl rfl
      (readOptional_optionalJson (fun p hp => readPath_str (h.2 p hp)) fun _ => Json.noConfusion)
  · exact get_sortFields rfl rfl (readTuple_map fun _ _ => rfl)
  · exact get_sortFields rfl rfl rfl
  · exact get_sortFields rfl rfl rfl

theorem BuildArtifact.ofJson_toJson (artifact : BuildArtifact) :
    ofJson artifact.toJson.sortKeys = some artifact := by
  rw [toJson, Json.sortKeys]
  refine ofJson_obj ?_ ?_ ?_ ?_ ?_
  · simp only [key_sortFields, onlyKeys_sortFields]
    rfl
  · exact get_sortFields rfl rfl rfl
  · exact get_sortFields rfl rfl rfl
  · exact get_sortFields rfl rfl
      (readOptional_optionalJson (fun _ _ => rfl) fun _ => Json.noConfusion)
  · refine get_sortFields rfl rfl ?_
    rw [optionalJson_bind]
    exact readOptional_optionalJson (fun n _ => readNat_int n) fun _ => Json.noConfusion

theorem BuildStageResult.ofJson_toJson (result : BuildStageResult) :
    ofJson result.toJson.sortKeys = some result := by
  rw [toJson, Json.sortKeys]
  refine ofJson_obj ?_ ?_ ?_ ?_ ?_ ?_ ?_
  · simp only [key_sortFields, onlyKeys_sortFields]
    rfl
  · exact get_sortFields rfl rfl rfl
  · exact get_sortFields rfl rfl rfl
  · exact get_sortFields rfl rfl (readNat_int _)
  · exact get_sortFields rfl rfl rfl
  · refine get_sortFields rfl rfl ?_
    rw [optionalJson_bind]
    exact readOptional_optionalJson (fun q _ => readSeconds_float q) fun _ => Json.noConfusion
  · exact get_sortFields rfl rfl (readTuple_map fun artifact _ => artifact.ofJson_toJson)

/-- A manifest is read from what it is written as, also when the keys have been sorted. -/
theorem BuildManifest.ofJson_toJson {manifest : BuildManifest} (h : manifest.plan.Normal) :
    ofJson manifest.toJson.sortKeys = some manifest := by
  rw [toJson, Json.sortKeys]
  refine ofJson_obj ?_ ?_ ?_ ?_ ?_
  · simp only [key_sortFields, onlyKeys_sortFields]
    rfl
  · exact get_sortFields rfl rfl rfl
  · exact get_sortFields rfl rfl (BuildPlan.ofJson_toJson h)
  · exact get_sortFields rfl rfl
      (readTuple_map fun artifact _ => BuildArtifact.ofJson_toJson artifact)
  · exact get_sortFields rfl rfl
      (readTuple_map fun result _ => BuildStageResult.ofJson_toJson result)

/-! ### The file -/

theorem universalNewlines_of_notMem {cs : List Char} (h : '\r' ∉ cs) :
    universalNewlines cs = cs := by
  induction cs with
  | nil => rfl
  | cons c cs ih =>
    have hc : c ≠ '\r' := fun hc => h (hc ▸ List.mem_cons_self)
    rw [universalNewlines, ih fun hcs => h (List.mem_cons_of_mem c hcs)]
    · exact fun _ hcr => absurd hcr hc
    · exact hc

/-- A text without carriage returns is read from its bytes. -/
theorem readText_encodeUtf8 {s : String} (h : '\r' ∉ s.toList) :
    readText (encodeUtf8 s) = some s := by
  have hdecode : decodeUtf8 (encodeUtf8 s) = some s := decodeUtf8_toUTF8 s
  rw [readText, hdecode, Option.map_some, universalNewlines_of_notMem h, String.ofList_toList]

/-- What is at the path of a manifest once it has been saved. -/
theorem stat_of_saveManifest {env : BuildEnv} {manifest : BuildManifest} {p : AbsPath}
    {s s' : BuildState} (h : saveManifest env manifest p s = .ok () s') :
    ∃ readable, s'.disk.tree.stat p =
      some (.file ⟨encodeUtf8 (env.dumps manifest.toJson), readable⟩) := by
  rw [saveManifest, writeJson, writeText, bind_apply_eq_ok_iff] at h
  obtain ⟨_, t, -, hwrite⟩ := h
  rw [onDisk_apply] at hwrite
  cases hrun : Disk.writeFile p (encodeUtf8 (env.dumps manifest.toJson)) t.disk with
  | error e d =>
    rw [hrun] at hwrite
    cases hwrite
  | ok _ d =>
    rw [hrun] at hwrite
    cases hwrite
    exact (Disk.writeFile_spec p _).of_ok trivial hrun

/-- A manifest can be saved at the path: nothing on it is a regular file, at its end there is none
that cannot be read and no directory, and no operation fails. -/
structure CanSave (d : Disk) (p : AbsPath) : Prop where
  free : d.tree.Free p.dropLast
  notDir : d.tree.stat p ≠ some .dir
  readable : Disk.readableAt d.tree p = true
  faults : ∀ k, d.faults k = none

theorem exists_mkdirParents {d : Disk} {p : AbsPath} (h : CanSave d p) :
    ∃ d', Disk.mkdirParents p.dropLast d = .ok () d' ∧ d'.faults = d.faults ∧
      d'.tree.stat p.dropLast = some .dir ∧ d'.tree.stat p = d.tree.stat p := by
  have htakes := Disk.takes_mkdirParents h.free
  unfold Disk.Takes at htakes
  cases hrun : Disk.mkdirParents p.dropLast d with
  | error e d' =>
    rw [hrun] at htakes
    exact absurd (fun i _ => h.faults _) htakes
  | ok _ d' =>
    rw [hrun] at htakes
    obtain ⟨found, rest, hsplit, hfound, -⟩ := h.free.exists_split
    refine ⟨d', rfl, htakes.2.2, ?_, ?_⟩
    · by_cases hnil : p.dropLast = []
      · rw [hnil] at hrun hsplit ⊢
        rw [(List.append_eq_nil_iff.mp hsplit.symm).1] at hfound
        exact (Disk.keeps_mkdirParents []).of_ok hfound hrun
      · exact (Disk.mkdirParents_spec hnil).of_ok trivial hrun
    · cases hp : d.tree.stat p with
      | none =>
        have hne : p ≠ [] := by
          rintro rfl
          simp at hp
        have hlength := List.length_pos_iff.mpr hne
        refine (Disk.absent_mkdirParents fun hprefix => ?_).of_ok hp hrun
        have hle := hprefix.length_le
        rw [List.length_dropLast] at hle
        omega
      | some x => exact (Disk.keeps_mkdirParents _).of_ok hp hrun

/-- A manifest that can be saved is, and can be read back. -/
theorem exists_saveManifest (env : BuildEnv) (manifest : BuildManifest) {p : AbsPath}
    {s : BuildState} (h : CanSave s.disk p) :
    ∃ s', saveManifest env manifest p s = .ok () s' ∧ ∃ bytes, IsReadable s'.disk p bytes := by
  obtain ⟨d, hmkdir, hfaults, hparent, hsame⟩ := exists_mkdirParents h
  have hreadable : Disk.readableAt d.tree p = true := by
    rw [Disk.readableAt, hsame]
    exact h.readable
  have hfault (k : ℕ) : d.faults k = none := hfaults ▸ h.faults k
  have hwrite := Disk.writeFile_of_parent (encodeUtf8 (env.dumps manifest.toJson))
    (hsame ▸ h.notDir) hparent (hfault _)
  rw [hreadable] at hwrite
  have hne : p ≠ [] := by
    rintro rfl
    exact h.notDir (hsame ▸ hparent)
  have hput := Node.stat_put_append
    (.file ⟨encodeUtf8 (env.dumps manifest.toJson), true⟩) hne hparent []
  rw [List.append_nil] at hput
  refine ⟨{ s with disk := { d with
    tree := d.tree.put p (some (.file ⟨encodeUtf8 (env.dumps manifest.toJson), true⟩))
    tick := d.tick + 1 } }, ?_, _, hput, hfault _⟩
  rw [saveManifest, writeJson, writeText, bind_apply, ensureDirectory, onDisk_apply, hmkdir]
  dsimp only
  rw [onDisk_apply, hwrite]

/-! ### The round trip -/

/-- What a manifest has been saved as is loaded as the manifest, and where one can be saved it is.
The text of a value is parsed to the value with sorted keys, and has no carriage return; what is
read by the declarations of the models is what validation returns. -/
theorem loadManifest_saveManifest (env : BuildEnv) (rt : ManifestRuntime) {manifest : BuildManifest}
    {p : AbsPath} (h : manifest.plan.Normal)
    (hloads : rt.loads (env.dumps manifest.toJson) = .ok manifest.toJson.sortKeys)
    (hreturn : '\r' ∉ (env.dumps manifest.toJson).toList)
    (hvalidate : ∀ data m, BuildManifest.ofJson data = some m → rt.validate data = .ok m) :
    (∀ s s', saveManifest env manifest p s = .ok () s' → (∃ bytes, IsReadable s'.disk p bytes) →
      loadManifest rt p s'.disk = .ok manifest { s'.disk with tick := s'.disk.tick + 1 }) ∧
    ∀ s, CanSave s.disk p → ∃ s', saveManifest env manifest p s = .ok () s' ∧
      loadManifest rt p s'.disk = .ok manifest { s'.disk with tick := s'.disk.tick + 1 } := by
  have hload (s s' : BuildState) (hsave : saveManifest env manifest p s = .ok () s')
      (hread : ∃ bytes, IsReadable s'.disk p bytes) :
      loadManifest rt p s'.disk = .ok manifest { s'.disk with tick := s'.disk.tick + 1 } := by
    obtain ⟨bytes, hreadable⟩ := hread
    obtain ⟨readable, hfile⟩ := stat_of_saveManifest hsave
    have hbytes : bytes = encodeUtf8 (env.dumps manifest.toJson) := by
      have hsame := hreadable.1.symm.trans hfile
      simp only [Option.some.injEq, FileStat.file.injEq, FileData.mk.injEq] at hsame
      exact hsame.1
    rw [hbytes] at hreadable
    exact loadManifest_of_isReadable hreadable (readText_encodeUtf8 hreturn) hloads
      (hvalidate _ _ (BuildManifest.ofJson_toJson h))
  refine ⟨hload, fun s hcan => ?_⟩
  obtain ⟨s', hsave, hread⟩ := exists_saveManifest env manifest hcan
  exact ⟨s', hsave, hload s s' hsave hread⟩

/-- The manifest of a build of one file. -/
def oneArtifactManifest : BuildManifest where
  manifestVersion := "bcs-build-manifest/v1alpha1"
  plan := { configPath := ⟨.slash, ["etc", "bcs.yaml"]⟩, stages := ["generate-layout"] }
  artifacts := [{ path := "VERSION", artifactType := "version", sizeBytes := some 6 }]

/-- The text of that manifest, line by line. -/
def oneArtifactLines : List String := [
  "\x7b\n",
  "  \"artifacts\": [\n",
  "    \x7b\n",
  "      \"artifactType\": \"version\",\n",
  "      \"checksumSha256\": null,\n",
  "      \"path\": \"VERSION\",\n",
  "      \"sizeBytes\": 6\n",
  "    \x7d\n",
  "  ],\n",
  "  \"manifestVersion\": \"bcs-build-manifest/v1alpha1\",\n",
  "  \"plan\": \x7b\n",
  "    \"config_path\": \"/etc/bcs.yaml\",\n",
  "    \"keepWorkspace\": false,\n",
  "    \"stages\": [\n",
  "      \"generate-layout\"\n",
  "    ],\n",
  "    \"verbose\": false,\n",
  "    \"workspaceRoot\": null\n",
  "  \x7d,\n",
  "  \"stageResults\": []\n",
  "\x7d"]

/-- The text of this manifest. -/
def oneArtifactText : String := String.join oneArtifactLines

/-- Surroundings that write that text, and libraries that read it. -/
def oneArtifactEnv : BuildEnv := { BuildEnv.still with dumps := fun _ => oneArtifactText }

/-- A runtime that reads this text. -/
def oneArtifactRuntime : ManifestRuntime where
  loads text :=
    if text = oneArtifactText then .ok (.obj [
      ("artifacts", .arr [.obj [("artifactType", .str "version"), ("checksumSha256", .null),
        ("path", .str "VERSION"), ("sizeBytes", .int 6)]]),
      ("manifestVersion", .str "bcs-build-manifest/v1alpha1"),
      ("plan", .obj [("config_path", .str "/etc/bcs.yaml"), ("keepWorkspace", .bool false),
        ("stages", .arr [.str "generate-layout"]), ("verbose", .bool false),
        ("workspaceRoot", .null)]),
      ("stageResults", .arr [])])
    else .error "Expecting value"
  validate data :=
    match BuildManifest.ofJson data with
    | some m => .ok m
    | none => .error "validation error for BuildManifest"

theorem loadManifest_saveManifest_one_artifact :
    ∃ s', saveManifest oneArtifactEnv oneArtifactManifest ["manifest.json"]
        (.fresh oneArtifactManifest.plan (.ofTree (.dir []))) = .ok () s' ∧
      loadManifest oneArtifactRuntime ["manifest.json"] s'.disk =
        .ok oneArtifactManifest { s'.disk with tick := s'.disk.tick + 1 } := by
  have hnormal : oneArtifactManifest.plan.Normal := by
    refine ⟨?_, nofun⟩
    simp [PurePath.Normal, oneArtifactManifest]
  have hloads : oneArtifactRuntime.loads (oneArtifactEnv.dumps oneArtifactManifest.toJson) =
      .ok oneArtifactManifest.toJson.sortKeys := by
    simp only [oneArtifactRuntime, oneArtifactEnv, if_true]
    refine congrArg Except.ok ?_
    rfl
  have hreturn : '\r' ∉ (oneArtifactEnv.dumps oneArtifactManifest.toJson).toList := by
    have hlines : ∀ line ∈ oneArtifactLines, '\r' ∉ line.toList := by decide +kernel
    rw [oneArtifactEnv, oneArtifactText, String.toList_join, List.mem_flatMap]
    rintro ⟨line, hline, hmem⟩
    exact hlines line hline hmem
  have hvalidate (data : Json) (m : BuildManifest) (h : BuildManifest.ofJson data = some m) :
      oneArtifactRuntime.validate data = .ok m := by
    simp only [oneArtifactRuntime, h]
  refine (loadManifest_saveManifest _ _ hnormal hloads hreturn hvalidate).2 _ ⟨?_, ?_, ?_, ?_⟩
  · simp [Node.Free, BuildState.fresh, Disk.ofTree, Node.kind]
  · simp [BuildState.fresh, Disk.ofTree]
  · simp [Disk.readableAt, BuildState.fresh, Disk.ofTree]
  · exact fun _ => rfl

end ClassroomSuite.Builder
