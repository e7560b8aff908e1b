import ClassroomSuite.Builder.Pipeline

/-!
# What the built-in stages keep

An invariant that depends on the context and on the tree of the disk alone (`TreeInvariant`) is kept
by everything that only reads. Whether a stage keeps it then comes down to the files it writes and
the directory it removes, which are the hypotheses of the lemmas about the stages.

## Main definitions

* `TreeInvariant`.

## Main results

* `keeps_validateConfigStage`, `keeps_generateManifestStage`, `keeps_finalizeStage`.
* `keeps_finalizeRecords`.
-/

namespace ClassroomSuite.Builder

open Library

/-- The invariant depends on the context and on the tree of the disk alone. -/
structure TreeInvariant (I : BuildState → Prop) : Prop where
  readings : ∀ s n, I s → I { s with readings := n }
  disk : ∀ s d, d.tree = s.disk.tree → I s → I { s with disk := d }

/-! ### Reading -/

section Reading

variable {I : BuildState → Prop} {α : Type} (hI : TreeInvariant I)

include hI

theorem TreeInvariant.consult (reading : ℕ → α) : Keeps I (consult reading) :=
  keeps_consult hI.readings reading

/-- An operation that leaves the tree of the disk as it is. -/
theorem TreeInvariant.onDisk {m : DiskIO α} (h : ∀ t, Keeps (fun d : Disk => d.tree = t) m) :
    Keeps I (onDisk m) := by
  intro s hs
  unfold Builder.onDisk onPart
  cases hrun : m s.disk with
  | ok a d => exact hI.disk s d ((h s.disk.tree).of_ok rfl hrun) hs
  | error e d => exact hI.disk s d ((h s.disk.tree).of_error rfl hrun) hs

theorem keeps_makeResult {env : BuildEnv} {stageName : String} {start : ℚ≥0} {success : Bool}
    {exitCode : ℕ} {message : String} {artifacts : List BuildArtifact} :
    Keeps I (makeResult env stageName start success exitCode message artifacts) :=
  ((hI.consult env.monotonic).bind fun _ => Keeps.pure _).bind fun _ => Keeps.pure _

theorem keeps_checksummedArtifact (env : BuildEnv) (artifact : BuildArtifact) (p : AbsPath) :
    Keeps I (checksummedArtifact env artifact p) :=
  ((hI.onDisk fun _ => Disk.keeps_readFile p).bind fun _ => Keeps.pure _).bind fun _ =>
    (hI.onDisk fun _ => Disk.keeps_fileSize p).bind fun _ => Keeps.pure _

theorem keeps_computeArtifact (env : BuildEnv) (ws : BuildWorkspace) (artifact : BuildArtifact) :
    Keeps I (computeArtifact env ws artifact) := by
  unfold computeArtifact
  split
  · exact Keeps.pure _
  · refine Keeps.get.bind fun s => ?_
    dsimp only
    split
    · exact Keeps.pure _
    · split
      · exact Keeps.pure _
      · exact keeps_catchOSError (keeps_checksummedArtifact hI env artifact _) fun _ => Keeps.pure _

/-- Computing the checksums changes nothing. -/
theorem keeps_computeArtifacts (env : BuildEnv) (ws : BuildWorkspace) :
    Keeps I (computeArtifacts env ws) :=
  Keeps.get.bind fun _ => Keeps.mapM (keeps_computeArtifact hI env ws) _

/-! ### The stages -/

theorem keeps_validateConfigStage (env : BuildEnv) : Keeps I (validateConfigStage env).run := by
  refine (hI.consult env.monotonic).bind fun start => Keeps.get.bind fun s => ?_
  dsimp only
  split
  · exact keeps_makeResult hI
  · exact keeps_makeResult hI

theorem keeps_workspaceRoot (env : BuildEnv) : Keeps I (workspaceRoot env) := by
  refine Keeps.get.bind fun s => ?_
  split
  · exact Keeps.pure _
  · exact (hI.consult env.utcNow).bind fun _ => Keeps.pure _

omit hI in
theorem keeps_isOccupied (manager : BuildWorkspaceManager) : Keeps I manager.isOccupied := by
  refine Keeps.get.bind fun s => ?_
  dsimp only
  split
  · exact Keeps.pure _
  · exact Keeps.pure _
  · exact Keeps.throw _

/-- The manifest stage keeps an invariant that a manifest may be written under. -/
theorem keeps_generateManifestStage (env : BuildEnv)
    (hartifacts : ∀ s artifacts, I s → I { s with context.artifacts := artifacts })
    (hwrite : ∀ s ws, I s → s.context.workspace = some ws →
      ∀ text, Keeps I (writeText (ws.metadataDir ++ ["manifest.json"]) text)) :
    Keeps I (generateManifestStage env).run := by
  refine (hI.consult env.monotonic).bind fun start => keeps_get_bind fun s hs => ?_
  dsimp only
  cases hworkspace : s.context.workspace with
  | none => exact keeps_makeResult hI
  | some ws =>
    refine Keeps.bind (keeps_catchOSError ((hwrite s ws hs hworkspace _).bind fun _ => Keeps.pure _)
      fun _ => Keeps.pure _) fun failure => ?_
    cases failure with
    | some e => exact keeps_makeResult hI
    | none =>
      refine Keeps.bind ?_ fun relative => ?_
      · unfold relativeTo
        split
        · exact Keeps.pure _
        · exact Keeps.throw _
      · exact Keeps.bind (fun s hs => hartifacts s _ hs) fun _ => keeps_makeResult hI

theorem keeps_recordMetadata (env : BuildEnv)
    (hmetadata : ∀ s metadata, I s → I { s with context.metadata := metadata }) :
    Keeps I (recordMetadata env) :=
  (hI.consult env.utcNow).bind fun _ => (Keeps.get.bind fun _ => hI.consult _).bind fun _ =>
    Keeps.get.bind fun _ => Keeps.bind (fun s hs => hmetadata s _ hs) fun _ => Keeps.pure _

/-- The records are written under an invariant that the two files may be written under. -/
theorem keeps_finalizeRecords (env : BuildEnv) {ws : BuildWorkspace}
    (hmetadata : ∀ s metadata, I s → I { s with context.metadata := metadata })
    (hprovenance : ∀ text, Keeps I (writeText (ws.metadataDir ++ ["provenance.json"]) text))
    (hlog : ∀ text, Keeps I (writeText (ws.logsDir ++ ["build.log"]) text)) :
    Keeps I (finalizeRecords env ws) := by
  have hwrite : Keeps I (writeProvenance env ws) :=
    (keeps_recordMetadata hI env hmetadata).bind fun _ =>
      keeps_catchOSError ((hprovenance _).bind fun _ => Keeps.pure _) fun _ => Keeps.pure _
  refine (keeps_computeArtifacts hI env ws).bind fun _ => hwrite.bind fun failure => ?_
  cases failure with
  | some e => exact Keeps.pure _
  | none => exact (Keeps.get.bind fun _ => hlog _).bind fun _ => Keeps.pure _

omit hI in
theorem keeps_removeWorkspace (env : BuildEnv) {ws : BuildWorkspace}
    (h : Keeps I ((BuildWorkspaceManager.ofPath env (.ofAbs ws.root)).clean env)) :
    Keeps I (removeWorkspace env ws) := by
  refine (h.bind fun _ => Keeps.pure _).tryCatch fun e => ?_
  cases e with
  | workspaceError message details => exact Keeps.pure _
  | osError e => exact Keeps.throw _
  | other message => exact Keeps.throw _

/-- The last stage keeps an invariant that the records may be written under and, unless the plan
keeps it, the workspace removed. -/
theorem keeps_finalizeStage (env : BuildEnv)
    (hws : ∀ s ws, I s → s.context.workspace = some ws → Keeps I (finalizeRecords env ws) ∧
      ((∃ s', I s' ∧ s'.context.plan.keepWorkspace = false) → Keeps I (removeWorkspace env ws))) :
    Keeps I (finalizeStage env).run := by
  refine (hI.consult env.monotonic).bind fun start => keeps_get_bind fun s hs => ?_
  cases hworkspace : s.context.workspace with
  | none => exact keeps_makeResult hI
  | some ws =>
    obtain ⟨hrecords, hremove⟩ := hws s ws hs hworkspace
    refine hrecords.bind fun failure => ?_
    cases failure with
    | some e => exact keeps_makeResult hI
    | none =>
      have hcleanup : Keeps I (cleanup env ws) := by
        refine keeps_get_bind fun s' hs' => ?_
        cases hkeep : s'.context.plan.keepWorkspace with
        | true => exact Keeps.pure _
        | false => exact hremove ⟨s', hs', hkeep⟩
      refine hcleanup.bind fun failure => ?_
      cases failure with
      | some message => exact keeps_makeResult hI
      | none => exact keeps_makeResult hI

end Reading

end ClassroomSuite.Builder
