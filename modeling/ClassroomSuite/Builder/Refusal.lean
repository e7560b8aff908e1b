import Mathlib.Data.List.Forall2
import ClassroomSuite.Builder.Coherence
import ClassroomSuite.Builder.FileSafety
import ClassroomSuite.Library.Traversal

/-!
# A build that is refused

The root that a plan names may be taken, by a file or by a directory with something in it, such as
the workspace of an earlier build that failed. Then nothing is built: whatever stages are run, in
any order and number, and whatever operation of the disk fails, the disk stays as it is, the context
gets results and nothing else, and the only stage that can succeed is the one that looks at the
configuration file.

Source: `BuildWorkspaceManager.create` of `cli/src/bcs/builder/workspace.py`,
`cli/src/bcs/builder/stages.py`, `BuildPipeline.run` of `cli/src/bcs/builder/pipeline.py`.

## Main definitions

* `Untouched`: what is left alone.
* `Refuses`: how a run ends.

## Main results

* `refused_builtin`, `refuses_stepStage`: one stage.
* `refuses_run`.
-/

namespace ClassroomSuite.Builder

open Library

/-- The tree of the disk and the context are as they were. -/
structure Untouched (s₀ s : BuildState) : Prop where
  tree : s.disk.tree = s₀.disk.tree
  context : s.context = s₀.context

/-- The plan of a state names a root that is taken, and no workspace has been prepared. -/
structure Blocked (env : BuildEnv) (path : PurePath) (s₀ : BuildState) : Prop where
  workspace : s₀.context.workspace = none
  root : s₀.context.plan.workspaceRoot = some path
  taken : ¬ Unoccupied s₀.disk.tree (path.resolve env.cwd)

/-- A stage has not succeeded, unless it looks at the configuration file and that is in order. -/
def RefusedStage (env : BuildEnv) (s₀ : BuildState) (stage : BuiltinStage)
    (result : BuildStageResult) : Prop :=
  result.success = true → stage = .validateConfig ∧
    configProblem env s₀.disk.tree s₀.context.plan.configPath = none

variable {env : BuildEnv} {s₀ : BuildState} {path : PurePath}

theorem treeInvariant_untouched : TreeInvariant (Untouched s₀) where
  readings _ _ hs := ⟨hs.tree, hs.context⟩
  disk _ _ hd hs := ⟨hd.trans hs.tree, hs.context⟩

/-! ### The stages -/

/-- A result of failure can be made of anything. -/
theorem refused_makeResult {stage : BuiltinStage} {stageName : String} {start : ℚ≥0}
    {exitCode : ℕ} {message : String} :
    Hoare (Untouched s₀) (makeResult env stageName start false exitCode message [])
      (fun result s => Untouched s₀ s ∧ RefusedStage env s₀ stage result)
      (fun _ => Untouched s₀) :=
  fun _ hs => ⟨⟨hs.tree, hs.context⟩, fun h => by cases h⟩

/-- A root that is taken is found to be occupied, or cannot be listed. -/
theorem isOccupied_of_taken {manager : BuildWorkspaceManager}
    (h : ¬ Unoccupied s₀.disk.tree manager.root) :
    Hoare (Untouched s₀) manager.isOccupied (fun occupied s => Untouched s₀ s ∧ occupied = true)
      (fun _ => Untouched s₀) := by
  intro s hs
  simp only [BuildWorkspaceManager.isOccupied, bind_apply, get_apply]
  rw [← hs.tree] at h
  cases hroot : s.disk.tree.stat manager.root with
  | none => exact absurd (Or.inl hroot) h
  | some x =>
    cases x with
    | file data => exact hs
    | dir => exact ⟨hs, decide_eq_true fun hnames => h (Or.inr ⟨hroot, hnames⟩)⟩

/-- No workspace is created. -/
theorem createWorkspace_of_taken (fallible : Bool)
    (h : ¬ Unoccupied s₀.disk.tree (path.resolve env.cwd)) :
    Hoare (Untouched s₀) (Fallible.createWorkspace env fallible path)
      (fun r s => Untouched s₀ s ∧ ∃ message, r = .error message) (fun _ => Untouched s₀) := by
  have hask (fallible : Bool) (filename : String) : Keeps (Untouched s₀) (ask fallible filename) :=
    treeInvariant_untouched.ask fallible filename
  have hcreate : Hoare (Untouched s₀) ((BuildWorkspaceManager.ofPath env path).create env)
      (fun _ _ => False) (fun _ => Untouched s₀) := by
    refine (isOccupied_of_taken h).bind fun occupied => ?_
    cases occupied with
    | true => exact Hoare.throw fun _ hs => hs.1
    | false => exact fun s hs => by cases hs.2
  refine Hoare.tryCatch (Hoare.bind (hask _ _) fun _ => Hoare.bind (hask _ _) fun _ =>
    Hoare.bind Keeps.get fun s => Hoare.bind (hask _ _) fun _ => hcreate.bind fun ws =>
      Hoare.pure fun _ hs => hs.elim) fun e => ?_
  cases e with
  | workspaceError message details => exact Hoare.pure fun _ hs => ⟨hs, message, rfl⟩
  | osError e => exact Hoare.pure fun _ hs => ⟨hs, _, rfl⟩
  | other message => exact Hoare.throw fun _ hs => hs

/-- What a built-in stage does where the root is taken. -/
theorem refused_builtin (h : Blocked env path s₀) (fallible : Bool) (stage : BuiltinStage) :
    Hoare (Untouched s₀) (stage.fallible env fallible).run
      (fun result s => Untouched s₀ s ∧ RefusedStage env s₀ stage result)
      (fun _ => Untouched s₀) := by
  have hconsult : Keeps (Untouched s₀) (consult env.monotonic) := treeInvariant_untouched.consult _
  cases stage with
  | validateConfig =>
    refine Hoare.bind hconsult fun start s hs => ?_
    rw [bind_apply, get_apply]
    have hconfig : configProblem env s.disk.tree s.context.plan.configPath =
        configProblem env s₀.disk.tree s₀.context.plan.configPath := by
      rw [hs.tree, hs.context]
    refine (Hoare.bind (treeInvariant_untouched.ask _ _) fun _ =>
      Hoare.bind (treeInvariant_untouched.ask _ _) fun _ => ?_ : Hoare (Untouched s₀) _ _ _) s hs
    rw [hconfig]
    cases hproblem : configProblem env s₀.disk.tree s₀.context.plan.configPath with
    | some problem => exact refused_makeResult
    | none => exact fun _ hs => ⟨⟨hs.tree, hs.context⟩, fun _ => ⟨rfl, hproblem⟩⟩
  | prepareWorkspace =>
    refine Hoare.bind hconsult fun start s hs => ?_
    have hroot : Fallible.workspaceRoot env fallible s = .ok path s := by
      rw [Fallible.workspaceRoot, bind_apply, get_apply]
      dsimp only
      rw [hs.context, h.root]
      rfl
    rw [bind_apply, hroot]
    refine (Hoare.bind (createWorkspace_of_taken fallible h.taken) fun r => ?_ :
      Hoare (Untouched s₀) (Fallible.prepareAt env fallible start path) _ _) s hs
    rintro s ⟨hs, message, rfl⟩
    exact refused_makeResult s hs
  | generateManifest =>
    refine Hoare.bind hconsult fun start s hs => ?_
    have hworkspace : s.context.workspace = none := by rw [hs.context, h.workspace]
    rw [bind_apply, get_apply]
    dsimp only
    rw [hworkspace]
    exact refused_makeResult s hs
  | finalize =>
    refine Hoare.bind hconsult fun start s hs => ?_
    have hworkspace : s.context.workspace = none := by rw [hs.context, h.workspace]
    rw [bind_apply, get_apply]
    dsimp only
    rw [hworkspace]
    exact refused_makeResult s hs

/-! ### The run -/

/-- After these stages the disk and the context are as they were, but for a result of each. -/
structure Refuses (env : BuildEnv) (s₀ : BuildState) (executed : List BuiltinStage)
    (s : BuildState) : Prop where
  tree : s.disk.tree = s₀.disk.tree
  results : ∃ results, s.context =
      { s₀.context with stageResults := s₀.context.stageResults ++ results } ∧
    List.Forall₂ (RefusedStage env s₀) executed results

/-- The root is as taken as it was. -/
theorem Refuses.blocked (h : Blocked env path s₀) {executed : List BuiltinStage} {s : BuildState}
    (hs : Refuses env s₀ executed s) : Blocked env path s := by
  obtain ⟨results, hcontext, -⟩ := hs.results
  refine ⟨?_, ?_, hs.tree ▸ h.taken⟩
  · rw [hcontext, h.workspace]
  · rw [hcontext, h.root]

theorem Refuses.tick {executed : List BuiltinStage} {s : BuildState}
    (hs : Refuses env s₀ executed s) : Refuses env s₀ executed s.tick :=
  ⟨hs.tree, hs.results⟩

/-- What a stage ends with, and what it leaves. -/
theorem refused_runStage (h : Blocked env path s₀) (fallible : Bool) (stage : BuiltinStage) :
    Untouched s₀ (runStage env (stage.fallible env fallible) s₀).2 ∧
      RefusedStage env s₀ stage (runStage env (stage.fallible env fallible) s₀).1 := by
  have hspec := refused_builtin h fallible stage
  rw [runStage]
  cases hrun : (stage.fallible env fallible).run s₀.tick with
  | ok result s => exact hspec.of_ok (s := s₀.tick) ⟨rfl, rfl⟩ hrun
  | error e s =>
    have hs := hspec.of_error (s := s₀.tick) ⟨rfl, rfl⟩ hrun
    exact ⟨⟨hs.tree, hs.context⟩, fun hsuccess => by cases hsuccess⟩

/-- A stage that is refused after others is refused. -/
theorem Refuses.refusedStage (h : Blocked env path s₀) {executed : List BuiltinStage}
    {s : BuildState} (hs : Refuses env s₀ executed s) (fallible : Bool) (stage : BuiltinStage) :
    RefusedStage env s₀ stage (runStage env (stage.fallible env fallible) s).1 := by
  obtain ⟨results, hcontext, -⟩ := hs.results
  have hrefused := (refused_runStage (hs.blocked h) fallible stage).2
  rwa [RefusedStage, hs.tree, hcontext] at hrefused

/-- One more stage is refused. -/
theorem refuses_stepStage (h : Blocked env path s₀) {executed : List BuiltinStage} {s : BuildState}
    (hs : Refuses env s₀ executed s) (fallible : Bool) (stage : BuiltinStage) :
    Refuses env s₀ (executed ++ [stage]) (stepStage env (stage.fallible env fallible) s) := by
  have huntouched := (refused_runStage (hs.blocked h) fallible stage).1
  obtain ⟨results, hcontext, hall⟩ := hs.results
  refine ⟨huntouched.tree.trans hs.tree,
    results ++ [(runStage env (stage.fallible env fallible) s).1], ?_,
    List.rel_append hall (.cons (hs.refusedStage h fallible stage) .nil)⟩
  rw [stepStage, BuildState.record, huntouched.context, hcontext, List.append_assoc]

theorem refuses_runStages (h : Blocked env path s₀) {executed : List BuiltinStage} {s : BuildState}
    (hs : Refuses env s₀ executed s) (fallible : Bool) (stages : List BuiltinStage) :
    Refuses env s₀ (executed ++ stages)
        (runStages env (stages.map (BuiltinStage.fallible env fallible)) s) ∧
      List.Forall₂ (RefusedStage env s₀) stages
        (newResults env (stages.map (BuiltinStage.fallible env fallible)) s) := by
  induction stages generalizing executed s with
  | nil => exact ⟨by rwa [List.append_nil], .nil⟩
  | cons stage stages ih =>
    obtain ⟨hrefuses, hresults⟩ := ih (refuses_stepStage h hs fallible stage)
    rw [List.append_assoc] at hrefuses
    exact ⟨hrefuses, .cons (hs.refusedStage h fallible stage) hresults⟩

/-- **A build is refused where its root is taken.** Nothing on the disk changes and nothing is
entered in the context but the results, of which only those of the configuration check may be of
success; and the build is one of success only if nothing but this check was asked for. -/
theorem refuses_run (env : BuildEnv) (fallible : Bool) {s : BuildState} {path : PurePath}
    (hworkspace : s.context.workspace = none) (hroot : s.context.plan.workspaceRoot = some path)
    (htaken : ¬ Unoccupied s.disk.tree (path.resolve env.cwd)) (stages : List BuiltinStage)
    (hstages : stages.map (BuiltinStage.fallible env fallible) ≠ []) :
    Refuses env s (selectedStages s.context.plan stages)
        (BuildPipeline.run env ⟨_, hstages⟩ s).2 ∧
      ((BuildPipeline.run env ⟨_, hstages⟩ s).1.success = true →
        ∀ stage ∈ selectedStages s.context.plan stages, stage = .validateConfig) := by
  have hstart : Refuses env s [] s := ⟨rfl, [], by rw [List.append_nil], .nil⟩
  obtain ⟨hrefuses, hresults⟩ := refuses_runStages ⟨hworkspace, hroot, htaken⟩ hstart.tick fallible
    (selectedStages s.context.plan stages)
  rw [run_state, run_success, selected_fallible]
  refine ⟨hrefuses.tick, fun hsuccess stage hstage => ?_⟩
  obtain ⟨result, hresult, hrefused⟩ := exists_mem_of_forall₂ hresults hstage
  exact (hrefused (List.all_eq_true.mp hsuccess result hresult)).1

/-- A whole build at `/w`, where there is a file. -/
theorem refuses_run_file :
    let stages := [BuiltinStage.validateConfig, .prepareWorkspace, .generateManifest, .finalize]
    let plan : BuildPlan := { configPath := .ofString "/a", workspaceRoot := some (.ofString "/w") }
    let s := BuildState.fresh plan (Disk.ofTree (.dir [("w", .file ⟨[1], true⟩)]))
    Refuses .still s stages (BuildPipeline.run .still
        ⟨stages.map (BuiltinStage.fallible .still true), List.cons_ne_nil _ _⟩ s).2 ∧
      ((BuildPipeline.run .still
        ⟨stages.map (BuiltinStage.fallible .still true), List.cons_ne_nil _ _⟩ s).1.success = true →
          ∀ stage ∈ stages, stage = .validateConfig) :=
  refuses_run .still true (s := .fresh _ _) rfl rfl (by unfold Unoccupied; decide +kernel)
    [.validateConfig, .prepareWorkspace, .generateManifest, .finalize] (List.cons_ne_nil _ _)

end ClassroomSuite.Builder
