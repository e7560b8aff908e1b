import ClassroomSuite.Builder.PipelineLaw
import ClassroomSuite.Builder.StageInvariants

/-!
# The workspace of a failed build

The documentation keeps the workspace of a failed build for debugging. The last stage does not look
at the results: it removes the workspace whenever the plan does not ask to keep it, unless it fails
itself before or while doing so.

A pipeline that prepares a workspace, runs any stages that leave it in place, and finalizes, is
followed through in three steps: after the first stage the workspace in the context stands
(`prepareWorkspaceStage_spec`), the stages in between leave it standing, and the last stage takes it
away exactly when its cleanup comes that far (`finalizeStage_keeps_iff`).

Source: `docs/BUILDER_PIPELINE.md`, section "Stage 8 - Cleanup"; `FinalizeStage` of
`cli/src/bcs/builder/stages.py`.

## Main definitions

* `KeepsDirectory`, `debugPipeline`.
* `CleanupTakes`, `FailedBuildKept`, `CleanupHarmless`.

## Main results

* `failedBuildKept_iff`.
-/

namespace ClassroomSuite.Builder

open Library

/-- The plan is `plan`, and there is a directory at `root`. -/
def RootStands (root : AbsPath) (plan : BuildPlan) (s : BuildState) : Prop :=
  s.context.plan = plan ∧ s.disk.tree.stat root = some .dir

/-- The stage leaves the directory at `root` in place, whether it returns or raises. -/
def KeepsDirectory (root : AbsPath) (stage : BuildStage) : Prop :=
  Keeps (fun s => s.disk.tree.stat root = some .dir) stage.run

variable {root : AbsPath} {plan : BuildPlan} {α : Type}

theorem treeInvariant_rootStands : TreeInvariant (RootStands root plan) where
  readings _ _ hs := hs
  disk _ _ hd hs := ⟨hs.1, hd ▸ hs.2⟩

theorem rootStands_onDisk {m : DiskIO α}
    (hm : Keeps (fun d : Disk => d.tree.stat root = some .dir) m) :
    Keeps (RootStands root plan) (onDisk m) :=
  keeps_onDisk hm (fun _ hs => hs.2) fun _ _ hs hd => ⟨hs.1, hd⟩

theorem rootStands_ensureDirectory (p : AbsPath) :
    Keeps (RootStands root plan) (ensureDirectory p) :=
  rootStands_onDisk (Disk.keeps_mkdirParents p)

/-- A directory is not replaced by a written file. -/
theorem rootStands_writeText (p : AbsPath) (text : String) :
    Keeps (RootStands root plan) (writeText p text) :=
  (rootStands_ensureDirectory _).bind fun _ =>
    rootStands_onDisk (Disk.keeps_writeFile p _ fun _ => rfl)

theorem rootStands_finalizeRecords (env : BuildEnv) (ws : BuildWorkspace) :
    Keeps (RootStands root plan) (finalizeRecords env ws) :=
  keeps_finalizeRecords treeInvariant_rootStands env (fun _ _ hs => hs)
    (fun text => rootStands_writeText _ text) fun text => rootStands_writeText _ text

/-! ### The first stage -/

/-- No workspace has been prepared. -/
def Unprepared (s : BuildState) : Prop := s.context.workspace = none

/-- A workspace in the context stands. -/
def WorkspaceStands (s : BuildState) : Prop :=
  ∀ ws, s.context.workspace = some ws → s.disk.tree.stat ws.root = some .dir

theorem treeInvariant_unprepared : TreeInvariant Unprepared :=
  ⟨fun _ _ hs => hs, fun _ _ _ hs => hs⟩

theorem treeInvariant_workspaceStands : TreeInvariant WorkspaceStands where
  readings _ _ hs := hs
  disk _ _ hd hs := fun ws hws => hd ▸ hs ws hws

theorem Unprepared.workspaceStands {s : BuildState} (h : Unprepared s) : WorkspaceStands s :=
  fun _ hws => (Option.some_ne_none _ (hws.symm.trans h)).elim

/-- The directories of a workspace are created below its root. -/
theorem createDirectories_spec (root : AbsPath) :
    Hoare Unprepared (BuildWorkspaceManager.createDirectories (.ofRoot root))
      (fun ws s => Unprepared s ∧ s.disk.tree.stat ws.root = some .dir) (fun _ => Unprepared) := by
  have hfirst : Hoare Unprepared (ensureDirectory (root ++ ["artifacts"]))
      (fun _ s => Unprepared s ∧ s.disk.tree.stat root = some .dir) (fun _ => Unprepared) :=
    Hoare.onPart
      (Disk.mkdirParents_spec (List.append_ne_nil_of_right_ne_nil _ (List.cons_ne_nil _ _)))
      (fun _ _ => trivial)
      (fun _ _ _ hs hd => ⟨hs, Node.stat_eq_dir_of_append (List.cons_ne_nil _ _) hd⟩)
      fun _ _ _ hs _ => hs
  have hnext (p : AbsPath) : Hoare
      (fun s => Unprepared s ∧ s.disk.tree.stat root = some .dir) (ensureDirectory p)
      (fun _ s => Unprepared s ∧ s.disk.tree.stat root = some .dir) (fun _ => Unprepared) :=
    Hoare.onPart (Disk.keeps_mkdirParents p) (fun _ hs => hs.2) (fun _ _ _ hs hd => ⟨hs.1, hd⟩)
      fun _ _ _ hs _ => hs.1
  exact hfirst.bind fun _ => (hnext _).bind fun _ => (hnext _).bind fun _ =>
    (hnext _).bind fun _ => Hoare.pure fun _ hs => hs

theorem create_spec (env : BuildEnv) (manager : BuildWorkspaceManager) :
    Hoare Unprepared (manager.create env)
      (fun ws s => Unprepared s ∧ s.disk.tree.stat ws.root = some .dir) (fun _ => Unprepared) := by
  refine Hoare.bind (keeps_isOccupied manager) fun occupied => ?_
  cases occupied with
  | true => exact Hoare.throw fun _ hs => hs
  | false =>
    refine Hoare.tryCatch (createDirectories_spec manager.root) fun e => ?_
    cases e with
    | osError e => exact Hoare.throw fun _ hs => hs
    | workspaceError message details => exact Hoare.throw fun _ hs => hs
    | other message => exact Hoare.throw fun _ hs => hs

theorem createWorkspace_spec (env : BuildEnv) (path : PurePath) :
    Hoare Unprepared (createWorkspace env path)
      (fun r s => Unprepared s ∧ ∀ ws, r = .ok ws → s.disk.tree.stat ws.root = some .dir)
      (fun _ => Unprepared) := by
  refine Hoare.tryCatch ((create_spec env _).bind fun ws => Hoare.pure fun s hs => ?_) fun e => ?_
  · exact ⟨hs.1, fun ws' hws' => Except.ok.inj hws' ▸ hs.2⟩
  · cases e with
    | workspaceError message details => exact Hoare.pure fun s hs => ⟨hs, fun ws h => by cases h⟩
    | osError e => exact Hoare.pure fun s hs => ⟨hs, fun ws h => by cases h⟩
    | other message => exact Hoare.throw fun _ hs => hs

/-- After the first stage, the workspace in the context stands. -/
theorem prepareWorkspaceStage_spec (env : BuildEnv) :
    Hoare Unprepared (prepareWorkspaceStage env).run (fun _ => WorkspaceStands)
      (fun _ => WorkspaceStands) := by
  have hprepare (start : ℚ≥0) (path : PurePath) : Hoare Unprepared (prepareAt env start path)
      (fun _ => WorkspaceStands) (fun _ => WorkspaceStands) := by
    refine Hoare.bind ((createWorkspace_spec env path).consequence (fun _ hs => hs)
      (fun _ _ hs => hs) fun _ _ hs => hs.workspaceStands) fun r => ?_
    cases r with
    | error message =>
      exact (keeps_makeResult treeInvariant_workspaceStands).of_pre fun s hs => hs.1.workspaceStands
    | ok ws =>
      refine Hoare.bind (S := fun _ => WorkspaceStands) (Hoare.modify fun s hs => ?_) fun _ =>
        keeps_makeResult treeInvariant_workspaceStands
      intro ws' hws'
      obtain rfl := Option.some.inj hws'
      exact hs.2 ws rfl
  refine Hoare.bind ((treeInvariant_unprepared.consult env.monotonic).consequence (fun _ hs => hs)
    (fun _ _ hs => hs) fun _ _ hs => hs.workspaceStands) fun start => ?_
  exact Hoare.bind ((keeps_workspaceRoot treeInvariant_unprepared env).consequence (fun _ hs => hs)
    (fun _ _ hs => hs) fun _ _ hs => hs.workspaceStands) fun path => hprepare start path

/-! ### The last stage -/

/-- The last stage, run from the state `s`, comes to remove the directory at `root`: the workspace
in the context is there or above it, the records are written, and no removal fails up to that of
`root`. The root of all directories is never removed. -/
def CleanupTakes (env : BuildEnv) (root : AbsPath) (s : BuildState) : Prop :=
  root ≠ [] ∧ ∃ ws s' r, s.context.workspace = some ws ∧
    finalizeRecords env ws s.tick.tick = .ok none s' ∧
    root = (BuildWorkspaceManager.ofPath env (.ofAbs ws.root)).root ++ r ∧
    s'.disk.RemovalReaches (BuildWorkspaceManager.ofPath env (.ofAbs ws.root)).root r

theorem disk_removeWorkspace (env : BuildEnv) (ws : BuildWorkspace) (s : BuildState) :
    (finalState (removeWorkspace env ws) s).disk =
      if (s.disk.tree.stat (BuildWorkspaceManager.ofPath env (.ofAbs ws.root)).root).isSome then
        finalState (Disk.rmtree (BuildWorkspaceManager.ofPath env (.ofAbs ws.root)).root) s.disk
      else s.disk := by
  rw [finalState, removeWorkspace, tryCatch_apply, bind_apply, BuildWorkspaceManager.clean,
    bind_apply, get_apply]
  dsimp only
  split_ifs with hsome
  · rw [catchOSError, tryCatch_apply, onDisk, onPart, finalState]
    cases Disk.rmtree (BuildWorkspaceManager.ofPath env (.ofAbs ws.root)).root s.disk <;> rfl
  · rfl

/-- The removal of the workspace takes a directory in it unless it fails before. -/
theorem removeWorkspace_takes_iff (env : BuildEnv) (ws : BuildWorkspace) {s : BuildState}
    (hroot : s.disk.tree.stat root = some .dir) :
    (finalState (removeWorkspace env ws) s).disk.tree.stat root ≠ some .dir ↔
      root ≠ [] ∧ ∃ r, root = (BuildWorkspaceManager.ofPath env (.ofAbs ws.root)).root ++ r ∧
        s.disk.RemovalReaches (BuildWorkspaceManager.ofPath env (.ofAbs ws.root)).root r := by
  rw [disk_removeWorkspace]
  generalize (BuildWorkspaceManager.ofPath env (.ofAbs ws.root)).root = target
  by_cases hbelow : target <+: root
  · obtain ⟨r, rfl⟩ := hbelow
    have hsome : (s.disk.tree.stat target).isSome := by
      cases r with
      | nil => simpa using congrArg Option.isSome hroot
      | cons c r => rw [Node.stat_eq_dir_of_append (List.cons_ne_nil c r) hroot, Option.isSome_some]
    rw [if_pos hsome, Disk.rmtree_takes_iff hroot]
    simp
  · refine iff_of_false (fun h => h ?_) ?_
    · split_ifs
      · exact (Disk.stat_rmtree hbelow _).finalState hroot
      · exact hroot
    · rintro ⟨-, r, rfl, -⟩
      exact hbelow (List.prefix_append target r)

/-- Once the records are written, what remains of the disk is decided by the removal. -/
theorem disk_finalizeWorkspace (env : BuildEnv) (start : ℚ≥0) {ws : BuildWorkspace}
    {s s' : BuildState} (h : finalizeRecords env ws s = .ok none s') :
    (finalState (finalizeWorkspace env start ws) s).disk =
      if s'.context.plan.keepWorkspace then s'.disk
      else (finalState (removeWorkspace env ws) s').disk := by
  rw [finalizeWorkspace, finalState_bind, h]
  dsimp only
  rw [finalState_bind, cleanup, bind_apply, get_apply]
  dsimp only
  by_cases hkeep : s'.context.plan.keepWorkspace = true
  · rw [if_pos hkeep, if_pos hkeep]
    rfl
  · rw [if_neg hkeep, if_neg hkeep, finalState]
    cases removeWorkspace env ws s' with
    | ok failure s'' => cases failure <;> rfl
    | error e s'' => rfl

theorem finalState_finalizeStage_of_none (env : BuildEnv) {s : BuildState}
    (hws : s.context.workspace = none) :
    (finalState (finalizeStage env).run s.tick).disk = s.disk := by
  rw [finalizeStage]
  dsimp only
  rw [finalState_bind, consult_apply]
  dsimp only
  rw [finalState_bind, get_apply]
  dsimp only [BuildState.tick]
  rw [hws]
  rfl

theorem finalState_finalizeStage_of_some (env : BuildEnv) {s : BuildState} {ws : BuildWorkspace}
    (hws : s.context.workspace = some ws) :
    finalState (finalizeStage env).run s.tick =
      finalState (finalizeWorkspace env (env.monotonic s.tick.readings) ws) s.tick.tick := by
  rw [finalizeStage]
  dsimp only
  rw [finalState_bind, consult_apply]
  dsimp only
  rw [finalState_bind, get_apply]
  dsimp only [BuildState.tick]
  rw [hws]

section Takes

variable {env : BuildEnv} {s s' : BuildState} {ws : BuildWorkspace}

/-- Where the last stage fails over its records, nothing is taken. -/
theorem not_cleanupTakes_of_error {e : BuildException} (hws : s.context.workspace = some ws)
    (hrun : finalizeRecords env ws s.tick.tick = .error e s') : ¬ CleanupTakes env root s := by
  rintro ⟨-, ws', s'', r', hws', hrun', -⟩
  obtain rfl := Option.some.inj (hws.symm.trans hws')
  rw [hrun] at hrun'
  cases hrun'

/-- Otherwise the cleanup takes the directory if the records were written and the removal takes
it. -/
theorem cleanupTakes_iff_of_ok {r : Option OSError} (hws : s.context.workspace = some ws)
    (hrun : finalizeRecords env ws s.tick.tick = .ok r s')
    (hstands : s'.disk.tree.stat root = some .dir) :
    CleanupTakes env root s ↔ r = none ∧
      (finalState (removeWorkspace env ws) s').disk.tree.stat root ≠ some .dir := by
  rw [removeWorkspace_takes_iff env ws hstands]
  constructor
  · rintro ⟨hroot, ws', s'', r', hws', hrun', hbelow, hreaches⟩
    obtain rfl := Option.some.inj (hws.symm.trans hws')
    obtain ⟨rfl, rfl⟩ := EStateM.Result.ok.inj (hrun.symm.trans hrun')
    exact ⟨rfl, hroot, r', hbelow, hreaches⟩
  · rintro ⟨rfl, hroot, r', hbelow, hreaches⟩
    exact ⟨hroot, ws, s', r', hws, hrun, hbelow, hreaches⟩

end Takes

/-- The last stage leaves a standing directory in place exactly when the plan keeps the workspace
or the cleanup does not take the directory. -/
theorem finalizeStage_keeps_iff (env : BuildEnv) {s : BuildState}
    (hroot : s.disk.tree.stat root = some .dir) :
    (finalState (finalizeStage env).run s.tick).disk.tree.stat root = some .dir ↔
      s.context.plan.keepWorkspace = true ∨ ¬ CleanupTakes env root s := by
  cases hws : s.context.workspace with
  | none =>
    rw [finalState_finalizeStage_of_none env hws]
    refine iff_of_true hroot (Or.inr ?_)
    rintro ⟨-, ws, s', r, hws', -⟩
    exact Option.some_ne_none _ (hws'.symm.trans hws)
  | some ws =>
    obtain ⟨hplan, hstands⟩ := (rootStands_finalizeRecords env ws).finalState
      (show RootStands root s.context.plan s.tick.tick from ⟨rfl, hroot⟩)
    rw [finalState] at hplan hstands
    rw [finalState_finalizeStage_of_some env hws]
    cases hrun : finalizeRecords env ws s.tick.tick with
    | error e s' =>
      rw [hrun] at hstands
      refine iff_of_true ?_ (Or.inr (not_cleanupTakes_of_error hws hrun))
      rw [finalizeWorkspace, finalState_bind, hrun]
      exact hstands
    | ok failure s' =>
      rw [hrun] at hstands hplan
      have htakes := cleanupTakes_iff_of_ok hws hrun hstands
      cases failure with
      | some e =>
        refine iff_of_true ?_ (Or.inr fun h => Option.some_ne_none e (htakes.mp h).1)
        rw [finalizeWorkspace, finalState_bind, hrun]
        exact hstands
      | none =>
        rw [htakes, disk_finalizeWorkspace env _ hrun, hplan]
        by_cases hkeep : s.context.plan.keepWorkspace = true
        · simp only [hkeep, if_true, true_or, iff_true]
          exact hstands
        · simp [hkeep]

/-! ### The whole build -/

/-- A pipeline that prepares a workspace first and finalizes it last. -/
def debugPipeline (env : BuildEnv) (middle : List BuildStage) : BuildPipeline :=
  ⟨prepareWorkspaceStage env :: (middle ++ [finalizeStage env]), List.cons_ne_nil _ _⟩

/-- The state after the first stage of a build. -/
def afterPrepare (env : BuildEnv) (s : BuildState) : BuildState :=
  stepStage env (prepareWorkspaceStage env) s.tick

/-- The state before the last stage of a build. -/
def beforeFinalize (env : BuildEnv) (middle : List BuildStage) (s : BuildState) : BuildState :=
  runStages env middle (afterPrepare env s)

/-- If a workspace was prepared and a result before the last stage is a failure, the root of the
workspace is still a directory after the build. -/
def FailedBuildKept (env : BuildEnv) (middle : List BuildStage) (s : BuildState) : Prop :=
  ∀ ws, (runStage env (prepareWorkspaceStage env) s.tick).1.success = true →
    (afterPrepare env s).context.workspace = some ws →
    (∃ r ∈ (beforeFinalize env middle s).context.stageResults, r.success = false) →
    ((debugPipeline env middle).run env s).2.disk.tree.stat ws.root = some .dir

/-- If a workspace was prepared, the plan keeps it, or no result before the last stage is a failure,
or the cleanup of the last stage does not take it. -/
def CleanupHarmless (env : BuildEnv) (middle : List BuildStage) (s : BuildState) : Prop :=
  ∀ ws, (runStage env (prepareWorkspaceStage env) s.tick).1.success = true →
    (afterPrepare env s).context.workspace = some ws →
    (beforeFinalize env middle s).context.plan.keepWorkspace = true ∨
      (∀ r ∈ (beforeFinalize env middle s).context.stageResults, r.success = true) ∨
      ¬ CleanupTakes env ws.root (beforeFinalize env middle s)

theorem disk_stepStage (env : BuildEnv) (stage : BuildStage) (s : BuildState) :
    (stepStage env stage s).disk = (finalState stage.run s.tick).disk := by
  rw [stepStage, runStage, finalState]
  cases stage.run s.tick <;> rfl

/-- Between the first and the last stage, the prepared workspace stands. -/
theorem root_beforeFinalize (env : BuildEnv) {middle : List BuildStage} {s : BuildState}
    {ws : BuildWorkspace} (hs : Unprepared s)
    (hws : (afterPrepare env s).context.workspace = some ws)
    (hmiddle : ∀ stage ∈ middle, KeepsDirectory ws.root stage) :
    (beforeFinalize env middle s).disk.tree.stat ws.root = some .dir := by
  have hprepared : WorkspaceStands (afterPrepare env s) :=
    StageInvariant.step ⟨fun _ hs => hs, fun _ _ hs => hs⟩ env
      ((prepareWorkspaceStage_spec env).finalState (show Unprepared s.tick.tick from hs))
  exact keeps_runStages ⟨fun _ hs => hs, fun _ _ hs => hs⟩ env hmiddle (hprepared ws hws)

/-- A failed build keeps its workspace exactly when the cleanup does no harm. -/
theorem failedBuildKept_iff (env : BuildEnv) (middle : List BuildStage) (plan : BuildPlan)
    (disk : Disk)
    (hall : ∀ stage ∈ (debugPipeline env middle).stages, selects plan stage.name = true)
    (hmiddle : ∀ ws, (afterPrepare env (.fresh plan disk)).context.workspace = some ws →
      ∀ stage ∈ middle, KeepsDirectory ws.root stage) :
    FailedBuildKept env middle (.fresh plan disk) ↔
      CleanupHarmless env middle (.fresh plan disk) := by
  have hrun : ((debugPipeline env middle).run env (.fresh plan disk)).2.disk =
      (finalState (finalizeStage env).run
        (beforeFinalize env middle (.fresh plan disk)).tick).disk := by
    have hselected : (debugPipeline env middle).selected (BuildState.fresh plan disk).context.plan =
        (debugPipeline env middle).stages := List.filter_eq_self.mpr hall
    rw [run_state, hselected, debugPipeline, runStages, runStages_append, ← disk_stepStage]
    rfl
  refine forall_congr' fun ws => imp_congr_right fun _ => imp_congr_right fun hws => ?_
  have hroot := root_beforeFinalize env (show Unprepared (.fresh plan disk) from rfl) hws
    (hmiddle ws hws)
  rw [hrun, finalizeStage_keeps_iff env hroot]
  have hfailed : (∃ r ∈ (beforeFinalize env middle (.fresh plan disk)).context.stageResults,
      r.success = false) ↔
      ¬ ∀ r ∈ (beforeFinalize env middle (.fresh plan disk)).context.stageResults,
        r.success = true := by
    simp
  rw [hfailed]
  tauto

theorem keepsDirectory_failingStage (root : AbsPath) : KeepsDirectory root failingStage :=
  fun _ hs => hs

/-- A failed build keeps its workspace when the plan asks for it. -/
theorem failedBuildKept_keepWorkspace :
    FailedBuildKept .still [failingStage] (.fresh
      { configPath := .ofString "/c.yaml", workspaceRoot := some (.ofString "/w"),
        keepWorkspace := true } (.ofTree (.dir []))) :=
  (failedBuildKept_iff .still _ _ _ (fun _ _ => rfl) fun ws _ _ hstage =>
    List.mem_singleton.mp hstage ▸ keepsDirectory_failingStage ws.root).mpr fun _ _ _ => Or.inl rfl

/-- A failed build removes its workspace when the plan does not ask to keep it. -/
theorem failedBuild_removed :
    ¬ ∀ (env : BuildEnv) (middle : List BuildStage) (plan : BuildPlan) (disk : Disk),
      (∀ stage ∈ (debugPipeline env middle).stages, selects plan stage.name = true) →
      (∀ ws, (afterPrepare env (.fresh plan disk)).context.workspace = some ws →
        ∀ stage ∈ middle, KeepsDirectory ws.root stage) →
      FailedBuildKept env middle (.fresh plan disk) := by
  intro h
  let plan : BuildPlan :=
    { configPath := .ofString "/c.yaml", workspaceRoot := some (.ofString "/w") }
  have hkept := h .still [failingStage] plan (.ofTree (.dir [])) (fun _ _ => rfl)
    fun ws _ _ hstage => List.mem_singleton.mp hstage ▸ keepsDirectory_failingStage ws.root
  have hprepared : (afterPrepare .still (.fresh plan (.ofTree (.dir [])))).context.workspace =
      some (.ofRoot ["w"]) := by decide +kernel
  have hstands := hkept _ (by decide +kernel) hprepared ⟨⟨"probe", false, 1, "", none, []⟩,
    List.mem_cons_of_mem _ List.mem_cons_self, rfl⟩
  have hgone : ((debugPipeline .still [failingStage]).run .still
      (.fresh plan (.ofTree (.dir [])))).2.disk.tree.stat ["w"] = none := by decide +kernel
  exact absurd (hgone.symm.trans hstands) (by decide)

end ClassroomSuite.Builder
