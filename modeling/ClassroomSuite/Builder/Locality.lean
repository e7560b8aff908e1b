import ClassroomSuite.Builder.Coherence
import ClassroomSuite.Library.Region

/-!
# What a build depends on

A build looks at the disk in few places: on the way to its configuration file, on the way to the
root of its workspace, in the workspace, and where the version control looks for a repository. This
is its footprint, which the plan and the surroundings determine, up to the clock where the plan
names no root. Two builds of one plan on disks that agree on the footprint cannot be told apart: the
stages end with the same results, the context is the same in the end, and the disks agree on the
footprint again, so that the workspace has the same contents.

Source: `cli/src/bcs/builder/stages.py`, `cli/src/bcs/builder/workspace.py`,
`cli/src/bcs/builder/execution.py`, `BuildPipeline.run` of `cli/src/bcs/builder/pipeline.py`.

## Main definitions

* `roots`, `footprint`.
* `InPlace`: what a context refers to is in the footprint.
* `SameView`: two states of builds that cannot be told apart.

## Main results

* `alike_fallible`: a stage keeps the view the same.
* `sameView_run`.
-/

namespace ClassroomSuite.Builder

open Library

/-- The written paths that the plan, or the clock in its place, may give the workspace. -/
def BuildPlan.MayName (env : BuildEnv) (plan : BuildPlan) (path : PurePath) : Prop :=
  match plan.workspaceRoot with
  | some root => path = root
  | none => ∃ n, path = (PurePath.ofAbs env.cwd).join
      (.ofString (".bcs-build-" ++ (env.utcNow n).compact))

/-- The roots that a build of the plan may use. -/
def roots (env : BuildEnv) (plan : BuildPlan) : Set AbsPath :=
  {root | ∃ path, plan.MayName env path ∧ root = path.resolve env.cwd}

/-- What a build of the plan looks at: the roots it may use as a whole, what is on the way along the
path of its configuration file, and what the version control looks at. -/
def footprint (env : BuildEnv) (plan : BuildPlan) : Region where
  whole := roots env plan ∪ env.gitRegion.whole
  single := {q | q ∈ plan.configPath.trail env.cwd} ∪ env.gitRegion.single

/-- The workspace of the context is at a root of the footprint, and its artifacts are manifests. -/
structure InPlace (env : BuildEnv) (plan : BuildPlan) (c : BuildContext) : Prop where
  samePlan : c.plan = plan
  workspace : ∀ ws, c.workspace = some ws → ∃ root ∈ roots env plan, ws = .ofRoot root
  artifacts : ∀ artifact ∈ c.artifacts, artifact.path = "metadata/manifest.json"

/-- The states differ outside the footprint only. -/
structure SameView (env : BuildEnv) (plan : BuildPlan) (s t : BuildState) : Prop where
  disk : Disk.Agree (footprint env plan) s.disk t.disk
  context : t.context = s.context
  readings : t.readings = s.readings
  inPlace : InPlace env plan s.context

variable {env : BuildEnv} {plan : BuildPlan} {root : AbsPath} {α : Type}

theorem root_mem (h : root ∈ roots env plan) : root ∈ (footprint env plan).whole := Or.inl h

theorem canonical_of_mem (h : root ∈ roots env plan) : ".." ∉ root := by
  obtain ⟨path, -, rfl⟩ := h
  exact PurePath.dotdot_notMem_resolve env.cwd_canonical path

/-! ### Primitive computations -/

theorem alike_consult (reading : ℕ → α) :
    Alike (SameView env plan) (consult reading) (consult reading) := by
  intro s t h
  rw [consult_apply, consult_apply, h.readings]
  exact .ok _ ⟨h.disk, h.context, rfl, h.inPlace⟩

theorem alike_onDisk {m : DiskIO α} (h : Alike (Disk.Agree (footprint env plan)) m m) :
    Alike (SameView env plan) (onDisk m) (onDisk m) :=
  h.onPart (fun _ _ hst => hst.disk)
    fun _ _ _ _ hst hd => ⟨hd, hst.context, hst.readings, hst.inPlace⟩

theorem alike_ask (fallible : Bool) (filename : String) :
    Alike (SameView env plan) (ask fallible filename) (ask fallible filename) := by
  unfold ask
  split
  · refine alike_onDisk (Disk.alike_nextFault.bind fun fault => ?_)
    split
    · exact Alike.throw _
    · exact Alike.pure _
  · exact Alike.pure _

/-- The version control looks at the footprint only. -/
theorem gitCommit_of_agree {t t' : Node FileData} (h : (footprint env plan).Agree t t') :
    env.gitCommit t = env.gitCommit t' := by
  refine env.gitCommit_congr t t' ⟨fun root hroot => h.subtree root (Or.inr hroot), ?_⟩
  rintro p ⟨q, hq | hq, hp⟩
  · exact h.path p ⟨q, Or.inl (Or.inr hq), hp⟩
  · exact h.path p ⟨q, Or.inr (Or.inr hq), hp⟩

theorem alike_getGitCommit : Alike (SameView env plan) (getGitCommit env) (getGitCommit env) := by
  refine Alike.get_bind fun s t h => ?_
  rw [gitCommit_of_agree h.disk.tree]
  exact alike_consult _

/-- The contexts are changed in the same way, and what they refer to stays in the footprint. -/
theorem alike_modify {f : BuildContext → BuildContext}
    (h : ∀ c, InPlace env plan c → InPlace env plan (f c)) :
    Alike (SameView env plan) (modify fun s => { s with context := f s.context } : BuildM PUnit)
      (modify fun s => { s with context := f s.context }) :=
  Coupled.modify fun _ _ hst =>
    ⟨hst.disk, congrArg f hst.context, hst.readings, h _ hst.inPlace⟩

theorem alike_catchOSError {m : BuildM α} {handler : OSError → BuildM α}
    (hm : Alike (SameView env plan) m m)
    (hhandler : ∀ e, Alike (SameView env plan) (handler e) (handler e)) :
    Alike (SameView env plan) (catchOSError m handler) (catchOSError m handler) := by
  refine hm.tryCatch fun e => ?_
  cases e with
  | osError e => exact hhandler e
  | workspaceError message details => exact Alike.throw _
  | other message => exact Alike.throw _

theorem alike_makeResult {stageName : String} {start : ℚ≥0} {success : Bool} {exitCode : ℕ}
    {message : String} {artifacts : List BuildArtifact} :
    Alike (SameView env plan)
      (makeResult env stageName start success exitCode message artifacts)
      (makeResult env stageName start success exitCode message artifacts) :=
  ((alike_consult env.monotonic).bind fun _ => Alike.pure _).bind fun _ => Alike.pure _

/-- A file may be written at a covered path. -/
theorem alike_writeText {p : AbsPath} (hp : (footprint env plan).Covers p) (text : String) :
    Alike (SameView env plan) (writeText p text) (writeText p text) :=
  (alike_onDisk (Disk.alike_mkdirParents hp.dropLast)).bind fun _ =>
    alike_onDisk (Disk.alike_writeFile hp _)

/-! ### The configuration file -/

theorem configProblem_of_agree {t t' : Node FileData} (h : (footprint env plan).Agree t t') :
    configProblem env t plan.configPath = configProblem env t' plan.configPath ∧
      plan.configPath.lookup t env.cwd = plan.configPath.lookup t' env.cwd := by
  have hlookup : plan.configPath.lookup t env.cwd = plan.configPath.lookup t' env.cwd :=
    PurePath.lookup_of_agree h fun q hq => Or.inl ⟨q, Or.inr (Or.inl hq), List.prefix_refl q⟩
  exact ⟨by rw [configProblem, configProblem, hlookup], hlookup⟩

theorem alike_validateConfigStage (fallible : Bool) :
    Alike (SameView env plan) (Fallible.validateConfigStage env fallible).run
      (Fallible.validateConfigStage env fallible).run := by
  refine (alike_consult env.monotonic).bind fun start => Alike.get_bind fun s t h => ?_
  dsimp only
  rw [h.context, h.inPlace.samePlan, (configProblem_of_agree h.disk.tree).1,
    (configProblem_of_agree h.disk.tree).2]
  refine (alike_ask _ _).bind fun _ => (alike_ask _ _).bind fun _ => ?_
  split
  · exact alike_makeResult
  · exact alike_makeResult

/-! ### The workspace -/

/-- The root is one the plan may name. -/
theorem coupled_workspaceRoot (fallible : Bool) :
    Coupled (SameView env plan) (Fallible.workspaceRoot env fallible)
      (Fallible.workspaceRoot env fallible)
      (fun path s t => SameView env plan s t ∧ plan.MayName env path)
      (fun _ => SameView env plan) := by
  refine Coupled.get_bind fun s t h => ?_
  rw [h.context, h.inPlace.samePlan]
  cases hroot : plan.workspaceRoot with
  | some path =>
    refine Coupled.pure fun s t hst => ⟨hst, ?_⟩
    rw [BuildPlan.MayName, hroot]
  | none =>
    refine Coupled.bind (alike_ask fallible ".") fun _ => ?_
    intro s t hst
    rw [bind_apply, bind_apply, consult_apply, consult_apply, hst.readings]
    refine .ok _ ⟨⟨hst.disk, hst.context, rfl, hst.inPlace⟩, ?_⟩
    rw [BuildPlan.MayName, hroot]
    exact ⟨s.readings, rfl⟩

theorem alike_isOccupied {manager : BuildWorkspaceManager}
    (h : manager.root ∈ roots env plan) :
    Alike (SameView env plan) manager.isOccupied manager.isOccupied := by
  refine Alike.get_bind fun s t hst => ?_
  dsimp only
  rw [hst.disk.tree.stat (Region.covers_root (root_mem h)), hst.disk.tree.names (root_mem h)]
  split
  · exact Alike.pure _
  · exact Alike.pure _
  · exact Alike.throw _

theorem coupled_create {manager : BuildWorkspaceManager}
    (h : manager.root ∈ roots env plan) :
    Coupled (SameView env plan) (manager.create env) (manager.create env)
      (fun ws s t => SameView env plan s t ∧ ws = .ofRoot manager.root)
      (fun _ => SameView env plan) := by
  have hensure (c : String) : Alike (SameView env plan) (ensureDirectory (manager.root ++ [c]))
      (ensureDirectory (manager.root ++ [c])) :=
    alike_onDisk (Disk.alike_mkdirParents (Region.covers_of_mem (root_mem h) [c]))
  refine Coupled.bind (alike_isOccupied h) fun occupied => ?_
  cases occupied with
  | true => exact Coupled.throw fun _ _ hst => hst
  | false =>
    refine Coupled.tryCatch (Coupled.bind (hensure _) fun _ => Coupled.bind (hensure _) fun _ =>
      Coupled.bind (hensure _) fun _ => Coupled.bind (hensure _) fun _ =>
        Coupled.pure fun _ _ hst => ⟨hst, rfl⟩) fun e => ?_
    cases e with
    | osError e => exact Coupled.throw fun _ _ hst => hst
    | workspaceError message details => exact Coupled.throw fun _ _ hst => hst
    | other message => exact Coupled.throw fun _ _ hst => hst

theorem coupled_createWorkspace {path : PurePath} (hpath : plan.MayName env path)
    (fallible : Bool) :
    Coupled (SameView env plan) (Fallible.createWorkspace env fallible path)
      (Fallible.createWorkspace env fallible path)
      (fun r s t => SameView env plan s t ∧
        ∀ ws, r = .ok ws → ∃ root ∈ roots env plan, ws = .ofRoot root)
      (fun _ => SameView env plan) := by
  have hroot : (BuildWorkspaceManager.ofPath env path).root ∈ roots env plan :=
    ⟨path, hpath, rfl⟩
  refine Coupled.tryCatch (Coupled.bind (alike_ask _ _) fun _ => Coupled.bind (alike_ask _ _)
    fun _ => Coupled.get_bind fun s t hst => ?_) fun e => ?_
  · rw [hst.disk.tree.stat (Region.covers_root (root_mem hroot))]
    refine Coupled.bind (alike_ask _ _) fun _ =>
      Coupled.bind (coupled_create hroot) fun ws =>
        Coupled.pure fun _ _ hws => ⟨hws.1, fun ws' hws' => ⟨_, hroot, ?_⟩⟩
    obtain rfl := Except.ok.inj hws'
    exact hws.2
  · cases e with
    | workspaceError message details =>
      exact Coupled.pure fun _ _ hst => ⟨hst, fun ws h => by cases h⟩
    | osError e => exact Coupled.pure fun _ _ hst => ⟨hst, fun ws h => by cases h⟩
    | other message => exact Coupled.throw fun _ _ hst => hst

theorem alike_prepareWorkspaceStage (fallible : Bool) :
    Alike (SameView env plan) (Fallible.prepareWorkspaceStage env fallible).run
      (Fallible.prepareWorkspaceStage env fallible).run := by
  refine (alike_consult env.monotonic).bind fun start =>
    Coupled.bind (coupled_workspaceRoot fallible) fun path => ?_
  rintro s t ⟨hst, hpath⟩
  refine (Coupled.bind (coupled_createWorkspace hpath fallible) fun r => ?_ :
    Alike (SameView env plan) (Fallible.prepareAt env fallible start path)
      (Fallible.prepareAt env fallible start path)) s t hst
  cases r with
  | error message =>
    rintro s t ⟨hst, -⟩
    exact alike_makeResult s t hst
  | ok ws =>
    rintro s t ⟨hst, hws⟩
    refine (alike_modify (f := fun c => { c with workspace := some ws }) fun c hc =>
      ⟨hc.samePlan, ?_, hc.artifacts⟩).bind (fun _ => alike_makeResult) s t hst
    intro ws' hws'
    obtain rfl := Option.some.inj hws'
    exact hws ws rfl

/-! ### The manifest -/

/-- Where a manifest is in its workspace. -/
theorem coupled_relativeTo :
    Coupled (SameView env plan) (relativeTo env root (root ++ ["metadata"] ++ ["manifest.json"]))
      (relativeTo env root (root ++ ["metadata"] ++ ["manifest.json"]))
      (fun relative s t => SameView env plan s t ∧ relative = ["metadata", "manifest.json"])
      (fun _ => SameView env plan) := by
  rw [relativeTo, List.append_assoc, if_pos (List.prefix_append _ _), List.drop_left]
  exact Coupled.pure fun _ _ hst => ⟨hst, rfl⟩

theorem alike_generateManifestStage :
    Alike (SameView env plan) (generateManifestStage env).run (generateManifestStage env).run := by
  refine (alike_consult env.monotonic).bind fun start => Alike.get_bind fun s t h => ?_
  dsimp only
  rw [h.context]
  cases hworkspace : s.context.workspace with
  | none => exact alike_makeResult
  | some ws =>
    obtain ⟨root, hroot, rfl⟩ := h.inPlace.workspace ws hworkspace
    have hcovers : (footprint env plan).Covers (root ++ ["metadata"] ++ ["manifest.json"]) := by
      rw [List.append_assoc]
      exact Region.covers_of_mem (root_mem hroot) _
    refine Alike.bind (alike_catchOSError ((alike_writeText hcovers _).bind fun _ => Alike.pure _)
      fun _ => Alike.pure _) fun failure => ?_
    cases failure with
    | some e => exact alike_makeResult
    | none =>
      refine Coupled.bind coupled_relativeTo fun relative => ?_
      rintro s t ⟨hst, rfl⟩
      refine (alike_modify (f := fun c => { c with artifacts := c.artifacts ++ [_] }) fun c hc =>
        ⟨hc.samePlan, hc.workspace, ?_⟩).bind (fun _ => alike_makeResult) s t hst
      rw [List.forall_mem_append, List.forall_mem_singleton]
      exact ⟨hc.artifacts, rfl⟩

/-! ### Finalization -/

theorem alike_computeArtifact (hroot : root ∈ roots env plan) (fallible : Bool)
    {artifact : BuildArtifact} (hpath : artifact.path = "metadata/manifest.json") :
    Alike (SameView env plan) (Fallible.computeArtifact env fallible (.ofRoot root) artifact)
      (Fallible.computeArtifact env fallible (.ofRoot root) artifact) := by
  refine (alike_ask _ _).bind fun _ => ?_
  unfold computeArtifact
  split
  · exact Alike.pure _
  refine Alike.get_bind fun s t h => ?_
  let location := root ++ ["metadata", "manifest.json"]
  have hjoin : (PurePath.ofAbs root).join (.ofString artifact.path) = .ofAbs location := by
    rw [hpath, show PurePath.ofString "metadata/manifest.json" =
      ⟨.relative, ["metadata", "manifest.json"]⟩ by decide]
    rfl
  have hcanonical : ".." ∉ location := by
    simp [location, canonical_of_mem hroot]
  have htrail (q : AbsPath) (hq : q ∈ (PurePath.ofAbs location).trail env.cwd) :
      (footprint env plan).Covers q :=
    (Region.covers_of_mem (root_mem hroot) _).mono (PurePath.prefix_of_mem_trail hcanonical hq)
  obtain ⟨hlocate, hcovers⟩ := PurePath.locate_of_agree h.disk.tree htrail
  simp only [artifactLocation, BuildWorkspace.ofRoot, hjoin, ← hlocate]
  cases hq : (PurePath.ofAbs location).locate s.disk.tree env.cwd with
  | none => exact Alike.pure _
  | some q =>
    have hq := hcovers q hq
    dsimp only
    rw [h.disk.tree.stat hq]
    split
    · exact Alike.pure _
    · exact alike_catchOSError (((alike_onDisk (Disk.alike_readFile hq)).bind fun _ =>
        Alike.pure _).bind fun _ => (alike_onDisk (Disk.alike_fileSize hq)).bind fun _ =>
          Alike.pure _) fun _ => Alike.pure _

theorem alike_recordMetadata : Alike (SameView env plan) (recordMetadata env)
    (recordMetadata env) := by
  refine (alike_consult env.utcNow).bind fun now => alike_getGitCommit.bind
    fun gitCommit => Alike.get_bind fun s t h => ?_
  rw [h.context]
  exact (alike_modify (f := fun c => { c with metadata := some _ }) fun c hc =>
    ⟨hc.samePlan, hc.workspace, hc.artifacts⟩).bind fun _ => Alike.pure _

theorem alike_finalizeRecords (hroot : root ∈ roots env plan) (fallible : Bool) :
    Alike (SameView env plan) (Fallible.finalizeRecords env fallible (.ofRoot root))
      (Fallible.finalizeRecords env fallible (.ofRoot root)) := by
  have hwrite (dir name text : String) : Alike (SameView env plan)
      (writeText (root ++ [dir] ++ [name]) text) (writeText (root ++ [dir] ++ [name]) text) := by
    rw [List.append_assoc]
    exact alike_writeText (Region.covers_of_mem (root_mem hroot) _) text
  have hartifacts : Alike (SameView env plan)
      (Fallible.computeArtifacts env fallible (.ofRoot root))
      (Fallible.computeArtifacts env fallible (.ofRoot root)) := by
    refine Alike.get_bind fun s t h => ?_
    rw [h.context]
    exact Alike.mapM fun artifact hartifact =>
      alike_computeArtifact hroot fallible (h.inPlace.artifacts artifact hartifact)
  refine hartifacts.bind fun _ => Alike.bind (alike_recordMetadata.bind fun metadata =>
    alike_catchOSError ((hwrite _ _ _).bind fun _ => Alike.pure _) fun _ => Alike.pure _)
      fun failure => ?_
  cases failure with
  | some e => exact Alike.pure _
  | none =>
    refine Alike.bind (Alike.get_bind fun s t h => ?_) fun _ => Alike.pure _
    rw [h.context]
    exact hwrite _ _ _

theorem alike_cleanup (hroot : root ∈ roots env plan) (fallible : Bool) :
    Alike (SameView env plan) (Fallible.cleanup env fallible (.ofRoot root))
      (Fallible.cleanup env fallible (.ofRoot root)) := by
  have hclean : Alike (SameView env plan)
      ((BuildWorkspaceManager.ofPath env (.ofAbs root)).clean env)
      ((BuildWorkspaceManager.ofPath env (.ofAbs root)).clean env) := by
    rw [BuildWorkspaceManager.ofPath, PurePath.resolve_ofAbs (canonical_of_mem hroot)]
    refine Alike.get_bind fun s t h => ?_
    dsimp only
    rw [h.disk.tree.stat (Region.covers_root (root_mem hroot))]
    split
    · exact alike_catchOSError (alike_onDisk (Disk.alike_rmtree (root_mem hroot)))
        fun _ => Alike.throw _
    · exact Alike.pure _
  refine Alike.get_bind fun s t h => ?_
  rw [h.context]
  split
  · exact Alike.pure _
  · refine (alike_ask _ _).bind fun _ => (alike_ask _ _).bind fun _ =>
      (hclean.bind fun _ => Alike.pure _).tryCatch fun e => ?_
    cases e with
    | workspaceError message details => exact Alike.pure _
    | osError e => exact Alike.throw _
    | other message => exact Alike.throw _

theorem alike_finalizeStage (fallible : Bool) :
    Alike (SameView env plan) (Fallible.finalizeStage env fallible).run
      (Fallible.finalizeStage env fallible).run := by
  refine (alike_consult env.monotonic).bind fun start => Alike.get_bind fun s t h => ?_
  rw [h.context]
  cases hworkspace : s.context.workspace with
  | none => exact alike_makeResult
  | some ws =>
    obtain ⟨root, hroot, rfl⟩ := h.inPlace.workspace ws hworkspace
    refine (alike_finalizeRecords hroot fallible).bind fun failure => ?_
    cases failure with
    | some e => exact alike_makeResult
    | none =>
      refine (alike_cleanup hroot fallible).bind fun failure => ?_
      cases failure with
      | some message => exact alike_makeResult
      | none => exact alike_makeResult

/-! ### Runs -/

/-- A built-in stage finds, does and returns the same. -/
theorem alike_fallible (fallible : Bool) (stage : BuiltinStage) :
    Alike (SameView env plan) (stage.fallible env fallible).run
      (stage.fallible env fallible).run := by
  cases stage with
  | validateConfig => exact alike_validateConfigStage fallible
  | prepareWorkspace => exact alike_prepareWorkspaceStage fallible
  | generateManifest => exact alike_generateManifestStage
  | finalize => exact alike_finalizeStage fallible

variable {s t : BuildState}

theorem SameView.tick (h : SameView env plan s t) : SameView env plan s.tick t.tick :=
  ⟨h.disk, h.context, congrArg (· + 1) h.readings, h.inPlace⟩

/-- The results of a stage are the same, also where it raises an exception. -/
theorem sameView_runStage {stage : BuildStage}
    (hstage : Alike (SameView env plan) stage.run stage.run) (h : SameView env plan s t) :
    (runStage env stage t).1 = (runStage env stage s).1 ∧
      SameView env plan (runStage env stage s).2 (runStage env stage t).2 := by
  rw [runStage, runStage, h.readings]
  obtain ⟨result, s', t', hs, ht, hst⟩ | ⟨e, s', t', hs, ht, hst⟩ := hstage.ends h.tick
  · rw [hs, ht]
    exact ⟨rfl, hst⟩
  · rw [hs, ht]
    dsimp only
    rw [hst.readings]
    exact ⟨rfl, hst.tick⟩

theorem sameView_stepStage {stage : BuildStage}
    (hstage : Alike (SameView env plan) stage.run stage.run) (h : SameView env plan s t) :
    SameView env plan (stepStage env stage s) (stepStage env stage t) := by
  obtain ⟨hresult, hst⟩ := sameView_runStage hstage h
  rw [stepStage, stepStage, hresult]
  refine ⟨hst.disk, ?_, hst.readings, ⟨hst.inPlace.samePlan, hst.inPlace.workspace,
    hst.inPlace.artifacts⟩⟩
  rw [BuildState.record, BuildState.record, hst.context]

theorem sameView_runStages {stages : List BuildStage}
    (hstages : ∀ stage ∈ stages, Alike (SameView env plan) stage.run stage.run)
    (h : SameView env plan s t) :
    newResults env stages t = newResults env stages s ∧
      SameView env plan (runStages env stages s) (runStages env stages t) := by
  induction stages generalizing s t with
  | nil => exact ⟨rfl, h⟩
  | cons stage stages ih =>
    obtain ⟨hstage, hstages⟩ := List.forall_mem_cons.mp hstages
    obtain ⟨hresults, hst⟩ := ih hstages (sameView_stepStage hstage h)
    exact ⟨by rw [newResults, newResults, hresults, (sameView_runStage hstage h).1], hst⟩

/-- A run from states that cannot be told apart has the same outcome. -/
theorem sameView_run (h : SameView env plan s t) (fallible : Bool) {stages : List BuiltinStage}
    (hstages : stages.map (BuiltinStage.fallible env fallible) ≠ []) :
    (BuildPipeline.run env ⟨_, hstages⟩ t).1 = (BuildPipeline.run env ⟨_, hstages⟩ s).1 ∧
      SameView env plan (BuildPipeline.run env ⟨_, hstages⟩ s).2
        (BuildPipeline.run env ⟨_, hstages⟩ t).2 := by
  have halike : ∀ stage ∈ (selectedStages plan stages).map (BuiltinStage.fallible env fallible),
      Alike (SameView env plan) stage.run stage.run := by
    rw [List.forall_mem_map]
    exact fun stage _ => alike_fallible fallible stage
  obtain ⟨hresults, hst⟩ := sameView_runStages halike h.tick
  have hplan : t.context.plan = plan := h.context.symm ▸ h.inPlace.samePlan
  constructor
  · rw [run_summary, run_summary, selected_fallible, selected_fallible, hplan, h.inPlace.samePlan,
      hresults, hst.context, hst.readings, h.readings]
  · rw [run_state, run_state, selected_fallible, selected_fallible, hplan, h.inPlace.samePlan]
    exact hst.tick

theorem sameView_fresh {d d' : Disk} (h : Disk.Agree (footprint env plan) d d') :
    SameView env plan (.fresh plan d) (.fresh plan d') :=
  ⟨h, rfl, rfl, ⟨rfl, fun _ hws => (Option.some_ne_none _ hws.symm).elim, List.forall_mem_nil _⟩⟩

/-- **A build depends on its footprint only.** After any runs on one of two disks that agree on the
footprint, the same runs on the other have come to a state that cannot be told apart, and the next
run has the same summary in both. -/
theorem sameView_of_settled {fallible : Bool} {d d' : Disk}
    (hagree : Disk.Agree (footprint env plan) d d') {executed : List BuiltinStage}
    (hs : Settled env fallible plan d executed s) :
    ∃ t, Settled env fallible plan d' executed t ∧ SameView env plan s t ∧
      ∀ (stages : List BuiltinStage)
        (hstages : stages.map (BuiltinStage.fallible env fallible) ≠ []),
        (BuildPipeline.run env ⟨_, hstages⟩ t).1 = (BuildPipeline.run env ⟨_, hstages⟩ s).1 := by
  induction hs with
  | fresh =>
    have hst := sameView_fresh hagree
    exact ⟨_, .fresh, hst, fun _ hstages => (sameView_run hst fallible hstages).1⟩
  | run h stages hstages ih =>
    obtain ⟨t, ht, hst, -⟩ := ih
    have hnext := (sameView_run hst fallible hstages).2
    have hrun := ht.run stages hstages
    rw [hst.context] at hrun
    exact ⟨_, hrun, hnext, fun _ hstages => (sameView_run hnext fallible hstages).1⟩

/-- A whole build at `/w` with the configuration file `/a`, started in a repository, next to nothing
and next to a file. -/
theorem sameView_of_settled_still :
    let stages := [BuiltinStage.validateConfig, .prepareWorkspace, .generateManifest, .finalize]
    let plan : BuildPlan := { configPath := .ofString "/a", workspaceRoot := some (.ofString "/w") }
    let work := ("work", Node.dir [(".git", .dir [])])
    let d := Disk.ofTree (.dir [("a", .file ⟨[1], true⟩), work])
    let d' := Disk.ofTree (.dir [("z", .file ⟨[2], true⟩), ("a", .file ⟨[1], true⟩), work])
    let pipeline : BuildPipeline :=
      ⟨stages.map (BuiltinStage.fallible .still true), List.cons_ne_nil _ _⟩
    ∃ t, Settled .still true plan d' stages t ∧
      SameView .still plan (pipeline.run .still (.fresh plan d)).2 t ∧
      ∀ (stages : List BuiltinStage)
        (hstages : stages.map (BuiltinStage.fallible .still true) ≠ []),
        (BuildPipeline.run .still ⟨_, hstages⟩ t).1 =
          (BuildPipeline.run .still ⟨_, hstages⟩ (pipeline.run .still (.fresh plan d)).2).1 := by
  intro stages plan work d d' pipeline
  have hstat : ∀ q ∈ [["w"], ["work", ".git"], [], ["a"]], ∀ p ∈ q.inits,
      d.tree.stat p = d'.tree.stat p := by
    decide
  have hagree : Disk.Agree (footprint .still plan) d d' := by
    refine ⟨⟨?_, ?_⟩, fun _ => rfl⟩
    · rintro root (⟨path, rfl, rfl⟩ | rfl) <;> rfl
    · rintro p ⟨q, (⟨path, rfl, rfl⟩ | rfl) | hq | hq, hp⟩
      · exact hstat _ (by decide) p ((List.mem_inits p _).mpr hp)
      · exact hstat _ (by decide) p ((List.mem_inits p _).mpr hp)
      · exact hstat q (List.mem_cons_of_mem _ (List.mem_cons_of_mem _ hq)) p
          ((List.mem_inits p q).mpr hp)
      · exact hq.elim
  have hfresh : Settled .still true plan d [] (.fresh plan d) := .fresh
  exact sameView_of_settled hagree (hfresh.run stages pipeline.stages_ne_nil)

end ClassroomSuite.Builder
