import Mathlib.Data.List.Forall2
import ClassroomSuite.Builder.StageInvariants

/-!
# The checksums of the artifacts

The last stage is to give a checksum to every artifact that has none. It computes a new list of
artifacts, but does not put it into the context: the artifacts of the context stay as they are. So
they all have a checksum afterwards exactly when those whose files can be read had one before
(`checksummed_iff`).

The stage writes two files of its own. A file that an artifact names, and that is neither of the
two, is found at the same place with the same contents before and after (`readableFile_iff`).

Source: `FinalizeStage` of `cli/src/bcs/builder/stages.py`.

## Main definitions

* `BuildWorkspace.Prepared`, `ReadableFile`.
* `Checksummed`: what the stage is to do with one artifact.

## Main results

* `finalizeStage_keeps`, `checksummed_iff`.
-/

namespace ClassroomSuite.Builder

open Library

/-- The directories of the workspace exist, in the standard layout. -/
structure BuildWorkspace.Prepared (ws : BuildWorkspace) (t : Node FileData) : Prop where
  layout : ws = .ofRoot ws.root
  root : t.stat ws.root = some .dir
  artifactsDir : t.stat ws.artifactsDir = some .dir
  logsDir : t.stat ws.logsDir = some .dir
  metadataDir : t.stat ws.metadataDir = some .dir
  cacheDir : t.stat ws.cacheDir = some .dir

/-- The two files that the last stage writes. -/
def BuildWorkspace.IsRecord (ws : BuildWorkspace) (q : AbsPath) : Prop :=
  q = ws.metadataDir ++ ["provenance.json"] ∨ q = ws.logsDir ++ ["build.log"]

/-- The artifact has a file, with these data, and it may be read. -/
def ReadableFile (env : BuildEnv) (ws : BuildWorkspace) (t : Node FileData)
    (artifact : BuildArtifact) (data : FileData) : Prop :=
  (∃ q, artifactLocation env ws t artifact = some q ∧ t.stat q = some (.file data)) ∧
    data.readable = true

/-- The artifact `new` is `old` with a checksum if its file can be read: the one it had, or that of
the contents of the file, together with their size. -/
def Checksummed (env : BuildEnv) (ws : BuildWorkspace) (t : Node FileData)
    (old new : BuildArtifact) : Prop :=
  new.path = old.path ∧ new.artifactType = old.artifactType ∧
    ∀ data, ReadableFile env ws t old data →
      new.checksumSha256 ≠ none ∧
      (old.checksumSha256 = none → new.checksumSha256 = some (env.sha256 data.bytes) ∧
        new.sizeBytes = some data.bytes.length)

/-! ### What finalizing leaves -/

variable {ws : BuildWorkspace} {t : Node FileData} {artifacts : List BuildArtifact}

/-- A kept workspace is being finalized: the artifacts are those given, and the tree is `t` but for
the records. -/
def Finalizing (ws : BuildWorkspace) (t : Node FileData) (artifacts : List BuildArtifact)
    (s : BuildState) : Prop :=
  (s.context.plan.keepWorkspace = true ∧ s.context.workspace = some ws ∧
    s.context.artifacts = artifacts) ∧ Node.SameBut ws.IsRecord t s.disk.tree

theorem treeInvariant_finalizing : TreeInvariant (Finalizing ws t artifacts) where
  readings _ _ hs := hs
  disk _ _ hd hs := ⟨hs.1, hd ▸ hs.2⟩

theorem finalizing_onDisk {α : Type} {m : DiskIO α}
    (hm : Keeps (fun d : Disk => Node.SameBut ws.IsRecord t d.tree) m) :
    Keeps (Finalizing ws t artifacts) (onDisk m) :=
  keeps_onDisk hm (fun _ hs => hs.2) fun _ _ hs hd => ⟨hs.1, hd⟩

/-- A record may be written into an existing directory. -/
theorem finalizing_writeText {dir : AbsPath} {name : String} (hdir : t.stat dir = some .dir)
    (hrecord : ws.IsRecord (dir ++ [name])) (text : String) :
    Keeps (Finalizing ws t artifacts) (writeText (dir ++ [name]) text) := by
  have hmkdir : Keeps (fun d : Disk => Node.SameBut ws.IsRecord t d.tree)
      (Disk.mkdirParents (dir ++ [name]).dropLast) := by
    intro d hd
    rw [List.dropLast_concat, Disk.mkdirParents_of_dir ((hd.2 dir).mpr hdir)]
    exact hd
  exact (finalizing_onDisk hmkdir).bind fun _ =>
    finalizing_onDisk (Disk.sameBut_writeFile hrecord _)

/-- Finalizing a kept workspace leaves the artifacts of the context as they are, and every file but
the two records. -/
theorem finalizeStage_keeps (env : BuildEnv) (hprepared : ws.Prepared t) :
    Keeps (Finalizing ws t artifacts) (finalizeStage env).run := by
  refine keeps_finalizeStage treeInvariant_finalizing env fun s ws' hs hws => ?_
  obtain rfl := Option.some.inj (hs.1.2.1.symm.trans hws)
  refine ⟨keeps_finalizeRecords treeInvariant_finalizing env (fun _ _ hs => hs)
    (finalizing_writeText hprepared.metadataDir (Or.inl rfl))
    (finalizing_writeText hprepared.logsDir (Or.inr rfl)), ?_⟩
  rintro ⟨s', hs', hkeep⟩
  exact absurd (hs'.1.1.symm.trans hkeep) (by decide)

/-- A file that is no record is found with the same data in both trees. -/
theorem readableFile_iff (env : BuildEnv) {t' : Node FileData}
    (h : Node.SameBut ws.IsRecord t t') {artifact : BuildArtifact}
    (hrecord : ∀ q, artifactLocation env ws t artifact = some q → ¬ ws.IsRecord q)
    (data : FileData) :
    ReadableFile env ws t' artifact data ↔ ReadableFile env ws t artifact data := by
  have hlocation : artifactLocation env ws t' artifact = artifactLocation env ws t artifact :=
    PurePath.locate_congr h.2 _ _
  rw [ReadableFile, ReadableFile, hlocation]
  refine and_congr_left fun _ => exists_congr fun q => and_congr_right fun hq => ?_
  rw [h.1 q (hrecord q hq)]

/-- After a kept workspace has been finalized, every artifact whose file can be read has its
checksum exactly when it had one before. -/
theorem checksummed_iff (env : BuildEnv) {s s' : BuildState} {result : BuildStageResult}
    (hws : s.context.workspace = some ws) (hprepared : ws.Prepared s.disk.tree)
    (hkeep : s.context.plan.keepWorkspace = true)
    (hrecord : ∀ artifact ∈ s.context.artifacts, ∀ q,
      artifactLocation env ws s.disk.tree artifact = some q → ¬ ws.IsRecord q)
    (hrun : (finalizeStage env).run s = .ok result s') :
    List.Forall₂ (Checksummed env ws s'.disk.tree) s.context.artifacts s'.context.artifacts ↔
      ∀ artifact ∈ s.context.artifacts, ∀ data,
        ReadableFile env ws s.disk.tree artifact data → artifact.checksumSha256 ≠ none := by
  have hfinal : Finalizing ws s.disk.tree s.context.artifacts s' :=
    (finalizeStage_keeps env hprepared).of_ok ⟨⟨hkeep, hws, rfl⟩, .refl _ _⟩ hrun
  rw [hfinal.1.2.2, List.forall₂_same]
  refine forall₂_congr fun artifact hartifact => ?_
  have hreadable := readableFile_iff env hfinal.2 (hrecord artifact hartifact)
  constructor
  · exact fun h data hdata => (h.2.2 data ((hreadable data).mpr hdata)).1
  · intro h
    refine ⟨rfl, rfl, fun data hdata => ?_⟩
    have hchecksum := h data ((hreadable data).mp hdata)
    exact ⟨hchecksum, fun hnone => absurd hnone hchecksum⟩

/-- A workspace prepared at `/w`, with an empty file in it. -/
def preparedTree : Node FileData :=
  .dir [("w", .dir [("artifacts", .dir []), ("logs", .dir []), ("metadata", .dir []),
    ("cache", .dir []), ("a.img", .file ⟨[], true⟩)])]

/-- The plan keeps the workspace, and the file in it is the one artifact. -/
def oneArtifact (checksumSha256 : Option String) : BuildState where
  context := {
    plan := { configPath := .ofString "/c.yaml", keepWorkspace := true }
    workspace := some (.ofRoot ["w"])
    artifacts := [⟨"a.img", "disk-image", checksumSha256, none⟩] }
  disk := .ofTree preparedTree

theorem prepared_oneArtifact (checksumSha256 : Option String) :
    (BuildWorkspace.ofRoot ["w"]).Prepared (oneArtifact checksumSha256).disk.tree := by
  constructor <;> rfl

theorem not_isRecord_oneArtifact {checksumSha256 : Option String} :
    ∀ artifact ∈ (oneArtifact checksumSha256).context.artifacts, ∀ q,
      artifactLocation .still (.ofRoot ["w"]) (oneArtifact checksumSha256).disk.tree artifact =
        some q → ¬ (BuildWorkspace.ofRoot ["w"]).IsRecord q := by
  have hlocation : ((PurePath.ofAbs ["w"]).join (.ofString "a.img")).locate preparedTree ["work"] =
      some ["w", "a.img"] := by decide +kernel
  rintro artifact hartifact q hq
  obtain rfl := List.mem_singleton.mp hartifact
  obtain rfl := Option.some.inj (hlocation.symm.trans hq)
  rintro (h | h) <;> exact absurd h (by decide)

/-- The artifact had a checksum before. -/
theorem checksummed_oneArtifact :
    ∃ result s', (finalizeStage .still).run (oneArtifact (some "0")) = .ok result s' ∧
      (List.Forall₂ (Checksummed .still (.ofRoot ["w"]) s'.disk.tree)
          (oneArtifact (some "0")).context.artifacts s'.context.artifacts ↔
        ∀ artifact ∈ (oneArtifact (some "0")).context.artifacts, ∀ data,
          ReadableFile .still (.ofRoot ["w"]) (oneArtifact (some "0")).disk.tree artifact data →
            artifact.checksumSha256 ≠ none) :=
  ⟨_, _, rfl, checksummed_iff .still rfl (prepared_oneArtifact _) rfl not_isRecord_oneArtifact rfl⟩

/-- The artifact had no checksum, and has none after a successful run. -/
theorem checksum_dropped :
    ¬ ∀ (env : BuildEnv) (ws : BuildWorkspace) (s s' : BuildState) (result : BuildStageResult),
      s.context.workspace = some ws → ws.Prepared s.disk.tree →
      s.context.plan.keepWorkspace = true →
      (∀ artifact ∈ s.context.artifacts, ∀ q,
        artifactLocation env ws s.disk.tree artifact = some q → ¬ ws.IsRecord q) →
      (finalizeStage env).run s = .ok result s' → result.success = true →
      List.Forall₂ (Checksummed env ws s'.disk.tree) s.context.artifacts s'.context.artifacts := by
  intro h
  have hall := h .still (.ofRoot ["w"]) (oneArtifact none) _ _ rfl (prepared_oneArtifact none) rfl
    not_isRecord_oneArtifact rfl rfl
  obtain ⟨⟨-, -, hchecksum⟩, -⟩ := List.forall₂_cons.mp hall
  exact (hchecksum ⟨[], true⟩ ⟨⟨["w", "a.img"], by decide +kernel, rfl⟩, rfl⟩).1 rfl

end ClassroomSuite.Builder
