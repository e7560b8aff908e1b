import ClassroomSuite.Builder.StageInvariants

/-!
# No file is lost to a build

The built-in stages write into the workspace and finally remove it. What keeps them away from
everything else is an invariant that ties the workspace in the context to a set `C` of claimable
roots (`Confined`): the workspace has a claimable root, and a path below no claimable root is as it
was before the build. It is kept by every built-in stage in any order, and by every way an operation
on the disk can fail, provided a root that a stage finds absent or empty is claimable.

Two sets make the two results. The roots that hold no initial file are claimable, because a root
found absent or empty holds no file that is still in place; so no initial file is lost. And the
roots that stages of the run did find absent or empty are claimable by definition; so nothing is
written or removed elsewhere. `filesKept_run` states both.

## Main definitions

* `FilesKept`, `Unoccupied`, `Vacant`, `Confined`.
* `planRoot`, `Claimed`: the roots that the stages of a run find absent or empty.

## Main results

* `confined_prepareWorkspaceStage`, `confined_builtin`.
* `confined_runStages`, `filesKept_run`.
-/

namespace ClassroomSuite.Builder

open Library

/-- Every regular file of the first tree is in the second, with the same data. -/
def FilesKept (t t' : Node FileData) : Prop :=
  ∀ q data, t.stat q = some (.file data) → t'.stat q = some (.file data)

/-- The path is absent or an empty directory. -/
def Unoccupied (t : Node FileData) (root : AbsPath) : Prop :=
  t.stat root = none ∨ (t.stat root = some .dir ∧ t.names root = [])

/-- No regular file is at a path or below it. -/
def Vacant (t : Node FileData) (root : AbsPath) : Prop :=
  ∀ q data, t.stat q = some (.file data) → ¬ root <+: q

/-- What was at the path still is, and a file that is there was there. -/
def SameAt (t t' : Node FileData) (q : AbsPath) : Prop :=
  (∀ x, t.stat q = some x → t'.stat q = some x) ∧
    ∀ data, t'.stat q = some (.file data) → t.stat q = some (.file data)

/-- A workspace in the context has the standard layout at a canonical root in `C`, and whatever is
below no root in `C` is as in the initial tree. -/
def Confined (C : AbsPath → Prop) (t₀ : Node FileData) (s : BuildState) : Prop :=
  (∀ ws, s.context.workspace = some ws → ws = .ofRoot ws.root ∧ ".." ∉ ws.root ∧ C ws.root) ∧
    ∀ q, (∀ root, C root → ¬ root <+: q) → SameAt t₀ s.disk.tree q

/-- An unoccupied path holds no file. -/
theorem Unoccupied.vacant {t : Node FileData} {root : AbsPath} (h : Unoccupied t root) :
    Vacant t root := by
  rintro q data hq ⟨r, rfl⟩
  rcases h with h | ⟨h, hnames⟩
  · exact Disk.not_prefix_of_absent h hq (List.prefix_append root r)
  · cases r with
    | nil => simp [h] at hq
    | cons c r => exact Node.names_ne_nil_of_append (List.cons_ne_nil c r) hq hnames

/-! ### The operations -/

variable {C : AbsPath → Prop} {t₀ : Node FileData} {α : Type}

theorem treeInvariant_confined : TreeInvariant (Confined C t₀) where
  readings _ _ hs := hs
  disk _ _ hd hs := ⟨hs.1, fun q hq => hd ▸ hs.2 q hq⟩

theorem stageInvariant_confined : StageInvariant (Confined C t₀) where
  tick _ hs := hs
  record _ _ hs := hs

/-- An operation that spares every path below no claimable root. -/
theorem confined_onDisk {m : DiskIO α}
    (hm : ∀ q, (∀ root, C root → ¬ root <+: q) → Disk.Spares q m) :
    Keeps (Confined C t₀) (onDisk m) := by
  have hall : Keeps (fun d : Disk => ∀ q, (∀ root, C root → ¬ root <+: q) →
      SameAt t₀ d.tree q) m := by
    intro d hd
    cases hrun : m d with
    | ok a d' =>
      refine fun q hq => ⟨fun x hx => ((hm q hq).1 x).of_ok ((hd q hq).1 x hx) hrun, fun data => ?_⟩
      contrapose!
      exact fun hnot => ((hm q hq).2 data).of_ok (fun h => hnot ((hd q hq).2 data h)) hrun
    | error e d' =>
      refine fun q hq => ⟨fun x hx => ((hm q hq).1 x).of_error ((hd q hq).1 x hx) hrun,
        fun data => ?_⟩
      contrapose!
      exact fun hnot => ((hm q hq).2 data).of_error (fun h => hnot ((hd q hq).2 data h)) hrun
  exact keeps_onDisk hall (fun s hs => hs.2) fun s d hs hd => ⟨hs.1, hd⟩

theorem confined_ensureDirectory (p : AbsPath) : Keeps (Confined C t₀) (ensureDirectory p) :=
  confined_onDisk fun _ _ => Disk.spares_mkdirParents p

/-- A file below a claimable root may be written. -/
theorem confined_writeText {root : AbsPath} (h : C root) (p : AbsPath) (text : String) :
    Keeps (Confined C t₀) (writeText (root ++ p) text) :=
  (confined_ensureDirectory _).bind fun _ => confined_onDisk fun _ hq =>
    Disk.spares_writeFile _ fun heq => hq root h (heq ▸ List.prefix_append root p)

/-- A workspace at a claimable root may be removed. -/
theorem confined_removeWorkspace (env : BuildEnv) {ws : BuildWorkspace}
    (hcanonical : ".." ∉ ws.root) (h : C ws.root) :
    Keeps (Confined C t₀) (removeWorkspace env ws) := by
  refine keeps_removeWorkspace env (Keeps.get.bind fun s => ?_)
  rw [BuildWorkspaceManager.ofPath, PurePath.resolve_ofAbs hcanonical]
  split
  · exact keeps_catchOSError (confined_onDisk fun q hq => Disk.spares_rmtree (hq _ h))
      fun _ => Keeps.throw _
  · exact Keeps.pure _

/-! ### Preparing a workspace -/

/-- The root the plan asks for, seen from the current directory. -/
def planRoot (env : BuildEnv) (s : BuildState) : AbsPath :=
  PurePath.resolve env.cwd <| match s.context.plan.workspaceRoot with
    | some root => root
    | none => (PurePath.ofAbs env.cwd).join
        (.ofString (".bcs-build-" ++ (env.utcNow s.readings).compact))

/-- A root that is claimable if unoccupied is claimable when found so. -/
theorem confined_isOccupied (manager : BuildWorkspaceManager) :
    Hoare (fun s => Confined C t₀ s ∧ (Unoccupied s.disk.tree manager.root → C manager.root))
      manager.isOccupied
      (fun occupied s => Confined C t₀ s ∧ (occupied = false → C manager.root))
      (fun _ => Confined C t₀) := by
  rintro s ⟨hs, hclaim⟩
  simp only [BuildWorkspaceManager.isOccupied, bind_apply, get_apply]
  cases hroot : s.disk.tree.stat manager.root with
  | none => exact ⟨hs, fun _ => hclaim (Or.inl hroot)⟩
  | some x =>
    cases x with
    | file data => exact hs
    | dir =>
      refine ⟨hs, fun hnames => hclaim (Or.inr ⟨hroot, ?_⟩)⟩
      simpa using hnames

theorem confined_create (env : BuildEnv) (manager : BuildWorkspaceManager) :
    Hoare (fun s => Confined C t₀ s ∧ (Unoccupied s.disk.tree manager.root → C manager.root))
      (manager.create env)
      (fun ws s => Confined C t₀ s ∧ ws = .ofRoot manager.root ∧ C manager.root)
      (fun _ => Confined C t₀) := by
  refine (confined_isOccupied manager).bind fun occupied => ?_
  cases occupied with
  | true => exact Hoare.throw fun s hs => hs.1
  | false =>
    rintro s ⟨hs, hclaim⟩
    have hroot := hclaim rfl
    have hcreate : Hoare (Confined C t₀)
        (BuildWorkspaceManager.createDirectories (.ofRoot manager.root))
        (fun ws s => Confined C t₀ s ∧ ws = .ofRoot manager.root ∧ C manager.root)
        (fun _ => Confined C t₀) :=
      Hoare.bind (confined_ensureDirectory _) fun _ =>
        Hoare.bind (confined_ensureDirectory _) fun _ =>
          Hoare.bind (confined_ensureDirectory _) fun _ =>
            Hoare.bind (confined_ensureDirectory _) fun _ =>
              Hoare.pure fun s hs => ⟨hs, rfl, hroot⟩
    refine Hoare.tryCatch hcreate (fun e => ?_) s hs
    cases e with
    | osError e => exact Hoare.throw fun s hs => hs
    | workspaceError message details => exact Hoare.throw fun s hs => hs
    | other message => exact Hoare.throw fun s hs => hs

/-- A created workspace has the standard layout at a canonical, claimable root. -/
theorem confined_createWorkspace (env : BuildEnv) (root : PurePath) :
    Hoare (fun s => Confined C t₀ s ∧
        (Unoccupied s.disk.tree (root.resolve env.cwd) → C (root.resolve env.cwd)))
      (createWorkspace env root)
      (fun r s => Confined C t₀ s ∧ ∀ ws, r = .ok ws →
        ws = .ofRoot ws.root ∧ ".." ∉ ws.root ∧ C ws.root)
      (fun _ => Confined C t₀) := by
  have hcanonical := PurePath.dotdot_notMem_resolve env.cwd_canonical root
  refine Hoare.tryCatch ((confined_create env (.ofPath env root)).bind fun ws =>
    Hoare.pure fun s hs => ?_) fun e => ?_
  · obtain ⟨hs, rfl, hroot⟩ := hs
    refine ⟨hs, fun ws' hws' => ?_⟩
    obtain rfl := Except.ok.inj hws'
    exact ⟨rfl, hcanonical, hroot⟩
  · cases e with
    | workspaceError message details => exact Hoare.pure fun s hs => ⟨hs, fun ws h => by cases h⟩
    | osError e => exact Hoare.pure fun s hs => ⟨hs, fun ws h => by cases h⟩
    | other message => exact Hoare.throw fun s hs => hs

theorem confined_prepareAt (env : BuildEnv) (start : ℚ≥0) (root : PurePath) :
    Hoare (fun s => Confined C t₀ s ∧
        (Unoccupied s.disk.tree (root.resolve env.cwd) → C (root.resolve env.cwd)))
      (prepareAt env start root) (fun _ => Confined C t₀) (fun _ => Confined C t₀) := by
  refine (confined_createWorkspace env root).bind fun r => ?_
  cases r with
  | error message => exact (keeps_makeResult treeInvariant_confined).of_pre fun s hs => hs.1
  | ok ws =>
    refine Hoare.bind (S := fun _ => Confined C t₀) (Hoare.modify fun s hs => ?_) fun _ =>
      keeps_makeResult treeInvariant_confined
    refine ⟨fun ws' hws' => ?_, hs.1.2⟩
    obtain rfl := Option.some.inj hws'
    exact hs.2 ws rfl

/-- The root is that of the plan, and choosing it leaves the context and the disk alone. -/
theorem workspaceRoot_spec (env : BuildEnv) (s : BuildState) :
    ∃ root n, workspaceRoot env s = .ok root { s with readings := n } ∧
      root.resolve env.cwd = planRoot env s := by
  simp only [workspaceRoot, planRoot, bind_apply, get_apply]
  cases s.context.plan.workspaceRoot with
  | some root => exact ⟨root, s.readings, rfl, rfl⟩
  | none => exact ⟨_, s.readings + 1, rfl, rfl⟩

/-- Preparing a workspace confines the build, if the root of the plan is claimable when it is
unoccupied. -/
theorem confined_prepareWorkspaceStage (env : BuildEnv) {s : BuildState} (hs : Confined C t₀ s)
    (hclaim : Unoccupied s.disk.tree (planRoot env s.tick) → C (planRoot env s.tick)) :
    Confined C t₀ (finalState (prepareWorkspaceStage env).run s) := by
  obtain ⟨root, n, hroot, hplan⟩ := workspaceRoot_spec env s.tick
  have hrun : (prepareWorkspaceStage env).run s =
      prepareAt env (env.monotonic s.readings) root { s.tick with readings := n } := by
    simp only [prepareWorkspaceStage, bind_apply, consult_apply]
    rw [show ({ s with readings := s.readings + 1 } : BuildState) = s.tick from rfl, hroot]
  rw [finalState, hrun]
  exact (confined_prepareAt env _ root).finalState ⟨hs, hplan.symm ▸ hclaim⟩

/-! ### Runs -/

/-- A built-in stage confines the build, if the root of the plan is claimable when a stage that
prepares a workspace finds it unoccupied. -/
theorem confined_builtin (env : BuildEnv) (builtin : BuiltinStage) {s : BuildState}
    (hs : Confined C t₀ s)
    (hclaim : builtin = .prepareWorkspace → Unoccupied s.disk.tree (planRoot env s.tick) →
      C (planRoot env s.tick)) :
    Confined C t₀ (finalState (builtin.stage env).run s) := by
  cases builtin with
  | validateConfig => exact (keeps_validateConfigStage treeInvariant_confined env).finalState hs
  | prepareWorkspace => exact confined_prepareWorkspaceStage env hs (hclaim rfl)
  | generateManifest =>
    refine (keeps_generateManifestStage treeInvariant_confined env (fun _ _ hs => hs)
      fun s ws hs hws text => ?_).finalState hs
    obtain ⟨hlayout, -, hroot⟩ := hs.1 ws hws
    rw [hlayout, BuildWorkspace.ofRoot, List.append_assoc]
    exact confined_writeText hroot _ text
  | finalize =>
    refine (keeps_finalizeStage treeInvariant_confined env fun s ws hs hws => ?_).finalState hs
    obtain ⟨hlayout, hcanonical, hroot⟩ := hs.1 ws hws
    refine ⟨keeps_finalizeRecords treeInvariant_confined env (fun _ _ hs => hs) (fun text => ?_)
      fun text => ?_, fun _ => confined_removeWorkspace env hcanonical hroot⟩
    · rw [hlayout, BuildWorkspace.ofRoot, List.append_assoc]
      exact confined_writeText hroot _ text
    · rw [hlayout, BuildWorkspace.ofRoot, List.append_assoc]
      exact confined_writeText hroot _ text

/-- The roots that the stages of a list of built-in stages find absent or empty when they prepare
a workspace there, run from the state `s`. -/
def Claimed (env : BuildEnv) (builtins : List BuiltinStage) (s : BuildState) (root : AbsPath) :
    Prop :=
  ∃ pre post, builtins = pre ++ .prepareWorkspace :: post ∧
    Unoccupied (runStages env (pre.map (BuiltinStage.stage env)) s).disk.tree root ∧
    root = planRoot env (runStages env (pre.map (BuiltinStage.stage env)) s).tick.tick

/-- Built-in stages confine the build, if every root they find unoccupied is claimable. -/
theorem confined_runStages (env : BuildEnv) (builtins : List BuiltinStage) {s : BuildState}
    (hs : Confined C t₀ s)
    (hclaim : ∀ pre post, builtins = pre ++ .prepareWorkspace :: post →
      Confined C t₀ (runStages env (pre.map (BuiltinStage.stage env)) s) → ∀ root,
      Unoccupied (runStages env (pre.map (BuiltinStage.stage env)) s).disk.tree root →
      root = planRoot env (runStages env (pre.map (BuiltinStage.stage env)) s).tick.tick →
      C root) :
    Confined C t₀ (runStages env (builtins.map (BuiltinStage.stage env)) s) := by
  induction builtins generalizing s with
  | nil => exact hs
  | cons builtin builtins ih =>
    have hstage : Confined C t₀ (finalState (builtin.stage env).run s.tick) := by
      refine confined_builtin env builtin hs ?_
      rintro rfl hunoccupied
      exact hclaim [] builtins rfl hs _ hunoccupied rfl
    refine ih (stageInvariant_confined.step env hstage) fun pre post hsplit => ?_
    exact hclaim (builtin :: pre) post (by rw [hsplit, List.cons_append])

/-- The pipeline of a list of built-in stages. -/
def builtinPipeline (env : BuildEnv) (builtins : List BuiltinStage) (h : builtins ≠ []) :
    BuildPipeline :=
  ⟨builtins.map (BuiltinStage.stage env), by simpa using h⟩

/-- The built-in stages that a plan selects. -/
def selectedBuiltins (env : BuildEnv) (builtins : List BuiltinStage) (plan : BuildPlan) :
    List BuiltinStage :=
  builtins.filter fun builtin => selects plan (builtin.stage env).name

theorem selected_builtinPipeline (env : BuildEnv) {builtins : List BuiltinStage}
    (h : builtins ≠ []) (plan : BuildPlan) :
    (builtinPipeline env builtins h).selected plan =
      (selectedBuiltins env builtins plan).map (BuiltinStage.stage env) := by
  rw [BuildPipeline.selected, builtinPipeline, List.filter_map]
  rfl

theorem confined_fresh (C : AbsPath → Prop) (plan : BuildPlan) (disk : Disk) :
    Confined C disk.tree (BuildState.fresh plan disk).tick :=
  ⟨fun _ hws => (Option.some_ne_none _ hws.symm).elim, fun _ _ => ⟨fun _ hx => hx, fun _ hx => hx⟩⟩

/-- Built-in stages, in any order and any number, run on a fresh context: every file that was there
before stays in place with its contents, and only below a root that a stage found absent or empty is
anything written or removed. -/
theorem filesKept_run (env : BuildEnv) (builtins : List BuiltinStage) (h : builtins ≠ [])
    (plan : BuildPlan) (disk : Disk) :
    let final := ((builtinPipeline env builtins h).run env (.fresh plan disk)).2.disk.tree
    FilesKept disk.tree final ∧
      ∀ q, (∀ root, Claimed env (selectedBuiltins env builtins plan)
          (BuildState.fresh plan disk).tick root → ¬ root <+: q) →
        SameAt disk.tree final q := by
  intro final
  have hfinal : final = (runStages env ((selectedBuiltins env builtins plan).map
      (BuiltinStage.stage env)) (BuildState.fresh plan disk).tick).disk.tree := by
    rw [show final = _ from congrArg (fun s => s.disk.tree) (run_state env _ _)]
    rw [show (BuildState.fresh plan disk).context.plan = plan from rfl, selected_builtinPipeline]
    rfl
  rw [hfinal]
  constructor
  · -- a root found unoccupied holds no file that is still in place, hence no initial file
    have hvacant := confined_runStages (C := Vacant disk.tree) env
      (selectedBuiltins env builtins plan) (confined_fresh _ plan disk)
      fun pre post _ hs root hroot _ q data hq hbelow => by
        have hkept := (hs.2 q fun root' hroot' => hroot' q data hq).1 _ hq
        exact hroot.vacant q data hkept hbelow
    exact fun q data hq => (hvacant.2 q fun root hroot => hroot q data hq).1 _ hq
  · have hclaimed := confined_runStages (C := Claimed env (selectedBuiltins env builtins plan)
        (BuildState.fresh plan disk).tick) env _ (confined_fresh _ plan disk)
      fun pre post hsplit _ root hroot hplan => ⟨pre, post, hsplit, hroot, hplan⟩
    exact hclaimed.2

/-- Preparing and finalizing a workspace at `/w` next to a file `/a`. -/
theorem filesKept_prepare_finalize :
    let builtins := [BuiltinStage.prepareWorkspace, .finalize]
    let plan : BuildPlan := { configPath := .ofString "/a", workspaceRoot := some (.ofString "/w") }
    let disk := Disk.ofTree (.dir [("a", .file ⟨[1], true⟩)])
    let final := ((builtinPipeline .still builtins (List.cons_ne_nil _ _)).run .still
      (.fresh plan disk)).2.disk.tree
    FilesKept disk.tree final ∧
      ∀ q, (∀ root, Claimed .still (selectedBuiltins .still builtins plan)
          (BuildState.fresh plan disk).tick root → ¬ root <+: q) →
        SameAt disk.tree final q :=
  filesKept_run .still _ _ _ _

end ClassroomSuite.Builder
