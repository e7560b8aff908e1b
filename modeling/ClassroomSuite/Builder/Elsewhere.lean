import ClassroomSuite.Builder.FileSafety
import ClassroomSuite.Library.Region

/-!
# What a build leaves alone

What is neither above nor below the root of a workspace is nothing to the stages of the build: they
leave it as it is, file by file and entry by entry, whether they succeed or fail half-way.

Source: `cli/src/bcs/builder/stages.py`, `cli/src/bcs/builder/workspace.py`.

## Main definitions

* `Away`: paths neither above nor below a root.
* `Elsewhere`: what is at some paths is as it was.

## Main results

* `elsewhere_prepareWorkspaceStage`, `elsewhere_builtin`, `elsewhere_runStages`.
-/

namespace ClassroomSuite.Builder

open Library

/-- The paths are neither above nor below a root. -/
def Away (A : AbsPath → Prop) (root : AbsPath) : Prop :=
  ∀ q, A q → ¬ q <+: root ∧ ¬ root <+: q

/-- The plan is the one given, the workspace is in a canonical place away from some paths, and what
is at these or below them is as in the tree `t₀`. -/
structure Elsewhere (plan : BuildPlan) (A : AbsPath → Prop) (t₀ : Node FileData) (s : BuildState) :
    Prop where
  plan : s.context.plan = plan
  workspace : ∀ ws, s.context.workspace = some ws →
    ws = .ofRoot ws.root ∧ ".." ∉ ws.root ∧ Away A ws.root
  same : ∀ q, A q → s.disk.tree.get q = t₀.get q

variable {plan : BuildPlan} {A : AbsPath → Prop} {t₀ : Node FileData} {root : AbsPath}
  {env : BuildEnv}

theorem treeInvariant_elsewhere : TreeInvariant (Elsewhere plan A t₀) where
  readings _ _ hs := ⟨hs.plan, hs.workspace, hs.same⟩
  disk _ _ hd hs := ⟨hs.plan, hs.workspace, hd ▸ hs.same⟩

theorem stageInvariant_elsewhere : StageInvariant (Elsewhere plan A t₀) where
  tick _ hs := ⟨hs.plan, hs.workspace, hs.same⟩
  record _ _ hs := ⟨hs.plan, hs.workspace, hs.same⟩

theorem elsewhere_fresh (plan : BuildPlan) (A : AbsPath → Prop) (disk : Disk) :
    Elsewhere plan A disk.tree (BuildState.fresh plan disk).tick :=
  ⟨rfl, fun _ hws => (Option.some_ne_none _ hws.symm).elim, fun _ _ => rfl⟩

/-- Nor are the paths above anything that is below the root. -/
theorem Away.not_prefix_append (h : Away A root) (r : AbsPath) {q : AbsPath} (hq : A q) :
    ¬ q <+: root ++ r := by
  intro hprefix
  rcases List.prefix_or_prefix_of_prefix hprefix (List.prefix_append root r) with hbelow | habove
  · exact (h q hq).1 hbelow
  · exact (h q hq).2 habove

theorem elsewhere_onDisk {α : Type} {m : DiskIO α}
    (h : ∀ q, A q → ∀ o, Keeps (fun d : Disk => d.tree.get q = o) m) :
    Keeps (Elsewhere plan A t₀) (onDisk m) := by
  have hall : Keeps (fun d : Disk => ∀ q, A q → d.tree.get q = t₀.get q) m := by
    intro d hd
    cases hrun : m d with
    | ok a d' => exact fun q hq => (h q hq _).of_ok (hd q hq) hrun
    | error e d' => exact fun q hq => (h q hq _).of_error (hd q hq) hrun
  exact keeps_onDisk hall (fun _ hs => hs.same) fun _ _ hs hd => ⟨hs.plan, hs.workspace, hd⟩

theorem elsewhere_ensureDirectory (h : Away A root) (r : AbsPath) :
    Keeps (Elsewhere plan A t₀) (ensureDirectory (root ++ r)) :=
  elsewhere_onDisk fun _ hq => Disk.get_mkdirParents (h.not_prefix_append r hq)

/-- A file below the root may be written. -/
theorem elsewhere_writeText (h : Away A root) (r : AbsPath) (c : String) (text : String) :
    Keeps (Elsewhere plan A t₀) (writeText (root ++ r ++ [c]) text) := by
  have hdirectory : (root ++ r ++ [c]).dropLast = root ++ r := List.dropLast_concat
  rw [writeText, hdirectory, List.append_assoc]
  exact (elsewhere_ensureDirectory h r).bind fun _ => elsewhere_onDisk fun q hq =>
    Disk.get_writeFile (fun hbelow => (h q hq).2 ((List.prefix_append root _).trans hbelow))
      (h.not_prefix_append _ hq) _

theorem elsewhere_create (manager : BuildWorkspaceManager) (h : Away A manager.root) :
    Hoare (Elsewhere plan A t₀) (manager.create env)
      (fun ws s => Elsewhere plan A t₀ s ∧ ws = .ofRoot manager.root)
      (fun _ => Elsewhere plan A t₀) := by
  refine Hoare.bind (keeps_isOccupied manager) fun occupied => ?_
  cases occupied with
  | true => exact Hoare.throw fun _ hs => hs
  | false =>
    have hcreate : Hoare (Elsewhere plan A t₀)
        (BuildWorkspaceManager.createDirectories (.ofRoot manager.root))
        (fun ws s => Elsewhere plan A t₀ s ∧ ws = .ofRoot manager.root)
        (fun _ => Elsewhere plan A t₀) :=
      Hoare.bind (elsewhere_ensureDirectory h _) fun _ =>
        Hoare.bind (elsewhere_ensureDirectory h _) fun _ =>
          Hoare.bind (elsewhere_ensureDirectory h _) fun _ =>
            Hoare.bind (elsewhere_ensureDirectory h _) fun _ => Hoare.pure fun _ hs => ⟨hs, rfl⟩
    refine Hoare.tryCatch hcreate fun e => ?_
    cases e with
    | osError e => exact Hoare.throw fun _ hs => hs
    | workspaceError message details => exact Hoare.throw fun _ hs => hs
    | other message => exact Hoare.throw fun _ hs => hs

theorem elsewhere_createWorkspace {path : PurePath} (h : Away A (path.resolve env.cwd)) :
    Hoare (Elsewhere plan A t₀) (createWorkspace env path)
      (fun r s => Elsewhere plan A t₀ s ∧ ∀ ws, r = .ok ws → ws = .ofRoot (path.resolve env.cwd))
      (fun _ => Elsewhere plan A t₀) := by
  refine Hoare.tryCatch ((elsewhere_create (.ofPath env path) h).bind fun ws =>
    Hoare.pure fun s hs => ⟨hs.1, fun ws' hws' => ?_⟩) fun e => ?_
  · obtain rfl := Except.ok.inj hws'
    exact hs.2
  · cases e with
    | workspaceError message details => exact Hoare.pure fun s hs => ⟨hs, fun ws h => by cases h⟩
    | osError e => exact Hoare.pure fun s hs => ⟨hs, fun ws h => by cases h⟩
    | other message => exact Hoare.throw fun s hs => hs

/-- A workspace may be prepared away from the paths. -/
theorem elsewhere_prepareWorkspaceStage {s : BuildState} (hs : Elsewhere plan A t₀ s)
    (h : Away A (planRoot env s.tick)) :
    Elsewhere plan A t₀ (finalState (prepareWorkspaceStage env).run s) := by
  obtain ⟨path, n, hpath, hplan⟩ := workspaceRoot_spec env s.tick
  have hrun : (prepareWorkspaceStage env).run s =
      prepareAt env (env.monotonic s.readings) path { s.tick with readings := n } := by
    simp only [prepareWorkspaceStage, bind_apply, consult_apply]
    rw [show ({ s with readings := s.readings + 1 } : BuildState) = s.tick from rfl, hpath]
  rw [← hplan] at h
  have hprepare : Keeps (Elsewhere plan A t₀) (prepareAt env (env.monotonic s.readings) path) := by
    refine Hoare.bind (elsewhere_createWorkspace h) fun r => ?_
    cases r with
    | error message => exact (keeps_makeResult treeInvariant_elsewhere).of_pre fun s hs => hs.1
    | ok ws =>
      refine Hoare.bind (S := fun _ => Elsewhere plan A t₀) (Hoare.modify fun s hs => ?_) fun _ =>
        keeps_makeResult treeInvariant_elsewhere
      refine ⟨hs.1.plan, fun ws' hws' => ?_, hs.1.same⟩
      obtain rfl := Option.some.inj hws'
      rw [hs.2 ws rfl]
      exact ⟨rfl, PurePath.dotdot_notMem_resolve env.cwd_canonical path, h⟩
  rw [finalState, hrun]
  exact hprepare.finalState ⟨hs.plan, hs.workspace, hs.same⟩

/-- The other stages stay at the workspace. -/
theorem elsewhere_builtin {builtin : BuiltinStage} (h : builtin ≠ .prepareWorkspace) :
    Keeps (Elsewhere plan A t₀) (builtin.stage env).run := by
  cases builtin with
  | validateConfig => exact keeps_validateConfigStage treeInvariant_elsewhere env
  | prepareWorkspace => exact absurd rfl h
  | generateManifest =>
    refine keeps_generateManifestStage treeInvariant_elsewhere env
      (fun _ _ hs => ⟨hs.plan, hs.workspace, hs.same⟩) fun s ws hs hws text => ?_
    obtain ⟨hlayout, -, haway⟩ := hs.workspace ws hws
    rw [hlayout, BuildWorkspace.ofRoot]
    exact elsewhere_writeText haway _ _ text
  | finalize =>
    refine keeps_finalizeStage treeInvariant_elsewhere env fun s ws hs hws => ?_
    obtain ⟨hlayout, hcanonical, haway⟩ := hs.workspace ws hws
    refine ⟨keeps_finalizeRecords treeInvariant_elsewhere env
      (fun _ _ hs => ⟨hs.plan, hs.workspace, hs.same⟩) (fun text => ?_) fun text => ?_,
      fun _ => ?_⟩
    · rw [hlayout, BuildWorkspace.ofRoot]
      exact elsewhere_writeText haway _ _ text
    · rw [hlayout, BuildWorkspace.ofRoot]
      exact elsewhere_writeText haway _ _ text
    · refine keeps_removeWorkspace env (Keeps.get.bind fun s => ?_)
      rw [BuildWorkspaceManager.ofPath, PurePath.resolve_ofAbs hcanonical]
      split
      · exact keeps_catchOSError (elsewhere_onDisk fun q hq =>
          Disk.get_rmtree (haway q hq).2 (haway q hq).1) fun _ => Keeps.throw _
      · exact Keeps.pure _

/-- A run of stages, of which those that prepare a workspace do so away from the paths. -/
theorem elsewhere_runStages {builtins : List BuiltinStage}
    (h : .prepareWorkspace ∈ builtins → ∀ s, Elsewhere plan A t₀ s → Away A (planRoot env s))
    {s : BuildState} (hs : Elsewhere plan A t₀ s) :
    Elsewhere plan A t₀ (runStages env (builtins.map (BuiltinStage.stage env)) s) := by
  induction builtins generalizing s with
  | nil => exact hs
  | cons builtin builtins ih =>
    have htick := stageInvariant_elsewhere.tick s hs
    refine ih (fun hmem => h (List.mem_cons_of_mem _ hmem)) (stageInvariant_elsewhere.step env ?_)
    by_cases hbuiltin : builtin = .prepareWorkspace
    · subst hbuiltin
      exact elsewhere_prepareWorkspaceStage htick
        (h List.mem_cons_self _ (stageInvariant_elsewhere.tick _ htick))
    · exact (elsewhere_builtin hbuiltin).finalState htick

end ClassroomSuite.Builder
