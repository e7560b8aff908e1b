import ClassroomSuite.Builder.Elsewhere
import ClassroomSuite.Library.Creation

/-!
# A build that leaves no trace

A build that does not keep its workspace, and whose last stage succeeds in removing it, leaves the
disk as it was: the files are the ones that were there before, nothing is left at the root of the
workspace or below it, and the only new directories are those on the way to the root. The root is
the one that the stage preparing the workspace chose; the other stages may be any of the built-in
ones, in any order and number, and may have failed.

Source: `cli/src/bcs/builder/stages.py`, `cli/src/bcs/builder/workspace.py`,
`BuildPipeline.run` of `cli/src/bcs/builder/pipeline.py`.

## Main definitions

* `NoTrace`: how the trees differ.

## Main results

* `finalizeStage_removes`: a last stage that succeeds has removed the workspace.
* `noTrace_run`.
-/

namespace ClassroomSuite.Builder

open Library

variable {plan : BuildPlan} {A : AbsPath → Prop} {root : AbsPath} {env : BuildEnv}

/-! ### The last stage -/

/-- The plan does not keep the workspace, which is the one given. -/
structure Removable (ws : BuildWorkspace) (s : BuildState) : Prop where
  workspace : s.context.workspace = some ws
  dropped : s.context.plan.keepWorkspace = false

variable {ws : BuildWorkspace}

theorem treeInvariant_removable : TreeInvariant (Removable ws) where
  readings _ _ hs := ⟨hs.workspace, hs.dropped⟩
  disk _ _ _ hs := ⟨hs.workspace, hs.dropped⟩

theorem removable_onDisk {α : Type} (m : DiskIO α) : Keeps (Removable ws) (onDisk m) :=
  keeps_onDisk (J := fun _ => True) (fun d _ => by split <;> trivial) (fun _ _ => trivial)
    fun _ _ hs _ => ⟨hs.workspace, hs.dropped⟩

theorem removable_finalizeRecords (ws' : BuildWorkspace) :
    Keeps (Removable ws) (finalizeRecords env ws') :=
  keeps_finalizeRecords treeInvariant_removable env (fun _ _ hs => ⟨hs.workspace, hs.dropped⟩)
    (fun _ => (removable_onDisk _).bind fun _ => removable_onDisk _)
    fun _ => (removable_onDisk _).bind fun _ => removable_onDisk _

/-- Where a result is one of success, the property holds. -/
def OnSuccess (I : BuildState → Prop) (result : BuildStageResult) (s : BuildState) : Prop :=
  result.success = true → I s

/-- A result says what it was made to say. -/
theorem onSuccess_makeResult {I : BuildState → Prop} (hI : TreeInvariant I) {stageName : String}
    {start : ℚ≥0} {success : Bool} {exitCode : ℕ} {message : String}
    {artifacts : List BuildArtifact} {P : BuildState → Prop}
    (h : success = true → ∀ s, P s → I s) :
    Hoare P (makeResult env stageName start success exitCode message artifacts) (OnSuccess I)
      (fun _ _ => True) :=
  fun s hs hsuccess => hI.readings s (s.readings + 1) (h hsuccess s hs)

/-- The workspace is gone. -/
structure Removed (ws : BuildWorkspace) (s : BuildState) : Prop where
  workspace : s.context.workspace = some ws
  absent : s.disk.tree.stat ws.root = none

theorem treeInvariant_removed : TreeInvariant (Removed ws) where
  readings _ _ hs := ⟨hs.workspace, hs.absent⟩
  disk _ _ hd hs := ⟨hs.workspace, hd ▸ hs.absent⟩

/-- A removal without a message has removed the workspace. -/
theorem removeWorkspace_spec (hcanonical : ".." ∉ ws.root) :
    Hoare (Removable ws) (removeWorkspace env ws)
      (fun failure s => failure = none → Removed ws s) (fun _ _ => True) := by
  have hclean : Hoare (Removable ws)
      ((BuildWorkspaceManager.ofPath env (.ofAbs ws.root)).clean env)
      (fun _ => Removed ws) (fun _ _ => True) := by
    rw [BuildWorkspaceManager.ofPath, PurePath.resolve_ofAbs hcanonical]
    rintro s hs
    rw [BuildWorkspaceManager.clean, bind_apply, get_apply]
    dsimp only
    split_ifs with hsome
    · rw [catchOSError, tryCatch_apply, onDisk_apply]
      cases hrun : Disk.rmtree ws.root s.disk with
      | ok _ d => exact ⟨hs.workspace, (Disk.rmtree_spec ws.root).of_ok trivial hrun⟩
      | error e d => trivial
    · exact ⟨hs.workspace, Option.not_isSome_iff_eq_none.mp hsome⟩
  refine Hoare.tryCatch (hclean.bind fun _ => Hoare.pure fun s hs _ => hs) fun e => ?_
  cases e with
  | workspaceError message details => exact Hoare.pure fun _ _ h => by cases h
  | osError e => exact Hoare.throw fun _ _ => trivial
  | other message => exact Hoare.throw fun _ _ => trivial

theorem cleanup_spec (hcanonical : ".." ∉ ws.root) :
    Hoare (Removable ws) (cleanup env ws) (fun failure s => failure = none → Removed ws s)
      (fun _ _ => True) := by
  intro s hs
  rw [cleanup, bind_apply, get_apply]
  dsimp only
  rw [hs.dropped]
  exact removeWorkspace_spec hcanonical s hs

theorem finalizeWorkspace_spec (start : ℚ≥0) (hcanonical : ".." ∉ ws.root) :
    Hoare (Removable ws) (finalizeWorkspace env start ws) (OnSuccess (Removed ws))
      (fun _ _ => True) := by
  have hrecords : Hoare (Removable ws) (finalizeRecords env ws) (fun _ => Removable ws)
      (fun _ _ => True) :=
    (removable_finalizeRecords ws).consequence (fun _ hs => hs) (fun _ _ hs => hs)
      fun _ _ _ => trivial
  refine hrecords.bind fun failure => ?_
  cases failure with
  | some e => exact onSuccess_makeResult treeInvariant_removed fun h => by cases h
  | none =>
    refine (cleanup_spec hcanonical).bind fun failure => ?_
    cases failure with
    | some message => exact onSuccess_makeResult treeInvariant_removed fun h => by cases h
    | none => exact onSuccess_makeResult treeInvariant_removed fun _ s hs => hs rfl

/-- **The last stage**, if it succeeds and the plan does not keep the workspace, has removed it. -/
theorem finalizeStage_removes {s : BuildState} (hdropped : s.context.plan.keepWorkspace = false)
    (hcanonical : ∀ ws, s.context.workspace = some ws → ".." ∉ ws.root)
    (hsuccess : (runStage env (finalizeStage env) s).1.success = true) :
    ∃ ws, s.context.workspace = some ws ∧ Removed ws (runStage env (finalizeStage env) s).2 := by
  have hspec : Hoare (· = s.tick) (finalizeStage env).run
      (OnSuccess fun s' => ∃ ws, s.context.workspace = some ws ∧ Removed ws s')
      (fun _ _ => True) := by
    rintro _ rfl
    rw [finalizeStage]
    dsimp only
    rw [bind_apply, consult_apply]
    dsimp only
    rw [bind_apply, get_apply]
    dsimp only [BuildState.tick]
    cases hws : s.context.workspace with
    | none => exact fun h => by cases h
    | some ws =>
      exact ((finalizeWorkspace_spec _ (hcanonical ws hws)).consequence (fun _ hs => hs)
        (fun _ s' hs hsuccess => ⟨ws, rfl, hs hsuccess⟩) fun _ _ _ => trivial) _ ⟨hws, hdropped⟩
  rw [runStage] at hsuccess ⊢
  cases hrun : (finalizeStage env).run s.tick with
  | ok result s' =>
    rw [hrun] at hsuccess
    exact hspec.of_ok rfl hrun hsuccess
  | error e s' => rw [hrun] at hsuccess; cases hsuccess

/-! ### The whole run -/

/-- A tree is as another, up to the directories on the way to a root at which nothing is. -/
structure NoTrace (t₀ t : Node FileData) (root : AbsPath) : Prop where
  removed : ∀ q, root <+: q → t.stat q = none
  files : ∀ q data, t.stat q = some (.file data) ↔ t₀.stat q = some (.file data)
  directories : ∀ q, t.stat q = some .dir → t₀.stat q = some .dir ∨ q <+: root

/-- What is confined to a root that held no file leaves no trace once the root is removed, if no
directory appears elsewhere. -/
theorem Removed.noTrace {C : AbsPath → Prop} {t₀ : Node FileData} {s : BuildState}
    (h : Removed ws s) (hconfined : Confined C t₀ s) (honly : ∀ root, C root → root = ws.root)
    (hvacant : Vacant t₀ ws.root)
    (habsent : ∀ q, t₀.stat q = none → ¬ q <+: ws.root → ¬ ws.root <+: q →
      s.disk.tree.stat q = none) : NoTrace t₀ s.disk.tree ws.root := by
  have hremoved (q : AbsPath) (hq : ws.root <+: q) : s.disk.tree.stat q = none := by
    obtain ⟨r, rfl⟩ := hq
    exact Node.stat_append_of_none h.absent r
  have hsame (q : AbsPath) (hq : ¬ ws.root <+: q) : SameAt t₀ s.disk.tree q :=
    hconfined.2 q fun root hroot => honly root hroot ▸ hq
  refine ⟨hremoved, fun q data => ⟨fun hfile => ?_, fun hfile => ?_⟩, fun q hdir => ?_⟩
  · have hq : ¬ ws.root <+: q := fun hbelow => by
      rw [hremoved q hbelow] at hfile
      cases hfile
    exact (hsame q hq).2 data hfile
  · exact (hsame q (hvacant q data hfile)).1 _ hfile
  · have hq : ¬ ws.root <+: q := fun hbelow => by
      rw [hremoved q hbelow] at hdir
      cases hdir
    by_contra hnew
    obtain ⟨hdir₀, habove⟩ := not_or.mp hnew
    cases hstat : t₀.stat q with
    | none =>
      rw [habsent q hstat habove hq] at hdir
      cases hdir
    | some x =>
      obtain rfl := Option.some.inj (((hsame q hq).1 x hstat).symm.trans hdir)
      exact hdir₀ hstat

/-- Stages that prepare no workspace change nothing as long as there is none. -/
theorem sameAt_runStages {t₀ : Node FileData} {builtins : List BuiltinStage}
    (h : .prepareWorkspace ∉ builtins) {s : BuildState} (hs : Confined (fun _ => False) t₀ s)
    (q : AbsPath) :
    SameAt t₀ (runStages env (builtins.map (BuiltinStage.stage env)) s).disk.tree q := by
  have hconfined := confined_runStages env builtins hs fun pre post hsplit _ _ _ _ => h <| by
    rw [hsplit]
    exact List.mem_append_right _ List.mem_cons_self
  exact hconfined.2 q fun _ hfalse => hfalse.elim

section Run

variable {pre post : List BuiltinStage} (env)

/-- The state in which the workspace is prepared. -/
def prepareState (pre : List BuiltinStage) (s : BuildState) : BuildState :=
  runStages env (pre.map (BuiltinStage.stage env)) s

/-- What is claimed in a run in which one stage prepares a workspace: the root of the plan there, if
it is absent or empty. -/
def Chosen (pre : List BuiltinStage) (s : BuildState) (root : AbsPath) : Prop :=
  root = planRoot env (prepareState env pre s).tick.tick ∧
    Unoccupied (prepareState env pre s).disk.tree root

variable {env}

theorem confined_chosen {t₀ : Node FileData} (hpre : .prepareWorkspace ∉ pre)
    (hpost : .prepareWorkspace ∉ post) {s : BuildState}
    (hs : Confined (Chosen env pre s) t₀ s) :
    Confined (Chosen env pre s) t₀
      (runStages env ((pre ++ .prepareWorkspace :: post).map (BuiltinStage.stage env)) s) := by
  refine confined_runStages env _ hs fun pre' post' hsplit _ root hroot hplan => ?_
  obtain ⟨rfl, -, -⟩ := (List.append_cons_inj_of_notMem hpre hpost).mp hsplit
  exact ⟨hplan, hroot⟩

/-- No file that was there is at the chosen root or below it. -/
theorem vacant_chosen {t₀ : Node FileData} (hpre : .prepareWorkspace ∉ pre) {s : BuildState}
    (hs : Confined (fun _ => False) t₀ s) (hroot : Chosen env pre s root) : Vacant t₀ root :=
  fun q data hq => hroot.2.vacant q data ((sameAt_runStages hpre hs q).1 _ hq)

theorem elsewhere_chosen (hpre : .prepareWorkspace ∉ pre) (hpost : .prepareWorkspace ∉ post)
    {t₀ : Node FileData} {s : BuildState} (hs : Elsewhere plan A t₀ s)
    (h : Away A (planRoot env (prepareState env pre s).tick.tick)) :
    Elsewhere plan A t₀
      (runStages env ((pre ++ .prepareWorkspace :: post).map (BuiltinStage.stage env)) s) := by
  rw [List.map_append, List.map_cons, runStages_append, runStages]
  exact elsewhere_runStages (fun hmem => absurd hmem hpost) (stageInvariant_elsewhere.step env
    (elsewhere_prepareWorkspaceStage
      (stageInvariant_elsewhere.tick _ (elsewhere_runStages (fun hmem => absurd hmem hpre) hs)) h))

end Run

/-- The last stage behind others, as the last step of a run. -/
theorem run_concat_finalize (env : BuildEnv) {builtins : List BuiltinStage}
    (before : List BuiltinStage) (h : builtins ≠ []) {plan : BuildPlan} (disk : Disk)
    (hselected : selectedBuiltins env builtins plan = before ++ [.finalize]) :
    let s := runStages env (before.map (BuiltinStage.stage env)) (BuildState.fresh plan disk).tick
    ((builtinPipeline env builtins h).run env (.fresh plan disk)).2 =
        (stepStage env (finalizeStage env) s).tick ∧
      ((builtinPipeline env builtins h).run env (.fresh plan disk)).1.stageResults.getLast? =
        some (runStage env (finalizeStage env) s).1 := by
  intro s
  have hstages : runStages env ((builtinPipeline env builtins h).selected
      (BuildState.fresh plan disk).context.plan) (BuildState.fresh plan disk).tick =
      stepStage env (finalizeStage env) s := by
    rw [show (BuildState.fresh plan disk).context.plan = plan from rfl, selected_builtinPipeline,
      hselected, List.map_append, runStages_append]
    rfl
  rw [run_state, run_stageResults, hstages]
  exact ⟨rfl, List.getLast?_concat⟩

/-- **No trace**: built-in stages, of which one prepares a workspace and the last one succeeds in
removing it, are run on a fresh context. Afterwards the tree is as it was before, up to directories
on the way to the workspace. -/
theorem noTrace_run (env : BuildEnv) {builtins : List BuiltinStage} (h : builtins ≠ [])
    (pre post : List BuiltinStage) {plan : BuildPlan} {disk : Disk} {result : BuildStageResult}
    (hselected : selectedBuiltins env builtins plan =
      pre ++ .prepareWorkspace :: (post ++ [.finalize]))
    (hpre : .prepareWorkspace ∉ pre) (hpost : .prepareWorkspace ∉ post)
    (hdropped : plan.keepWorkspace = false)
    (hlast : ((builtinPipeline env builtins h).run env (.fresh plan disk)).1.stageResults.getLast? =
      some result) (hsuccess : result.success = true) :
    ∃ ws, ((builtinPipeline env builtins h).run env (.fresh plan disk)).2.context.workspace =
        some ws ∧
      NoTrace disk.tree
        ((builtinPipeline env builtins h).run env (.fresh plan disk)).2.disk.tree ws.root := by
  let s₀ := (BuildState.fresh plan disk).tick
  let R := planRoot env (prepareState env pre s₀).tick.tick
  let A (q : AbsPath) : Prop := ¬ q <+: R ∧ ¬ R <+: q
  let s := runStages env ((pre ++ .prepareWorkspace :: post).map (BuiltinStage.stage env)) s₀
  obtain ⟨hrun, hresult⟩ := run_concat_finalize env (pre ++ .prepareWorkspace :: post) h disk
    (by rw [hselected, List.append_assoc, List.cons_append])
  have hbefore : Elsewhere plan A disk.tree s :=
    elsewhere_chosen hpre hpost (elsewhere_fresh plan A disk) fun _ hq => hq
  have hafter : Elsewhere plan A disk.tree (stepStage env (finalizeStage env) s) :=
    stageInvariant_elsewhere.step env ((elsewhere_builtin
      (show BuiltinStage.finalize ≠ _ by decide)).finalState
        (stageInvariant_elsewhere.tick s hbefore))
  have hconfined : Confined (Chosen env pre s₀) disk.tree (stepStage env (finalizeStage env) s) :=
    stageInvariant_confined.step env (confined_builtin env .finalize
      (stageInvariant_confined.tick s (confined_chosen hpre hpost (confined_fresh _ plan disk)))
      (fun h => by cases h))
  -- the last result is that of the stage that removes the workspace
  obtain rfl := Option.some.inj (hresult.symm.trans hlast)
  obtain ⟨ws, -, hremoved⟩ := finalizeStage_removes (hbefore.plan ▸ hdropped)
    (fun ws hws => (hbefore.workspace ws hws).2.1) hsuccess
  have hchosen : Chosen env pre s₀ ws.root := (hconfined.1 ws hremoved.workspace).2.2
  have hstep : Removed ws (stepStage env (finalizeStage env) s) :=
    ⟨hremoved.workspace, hremoved.absent⟩
  rw [hrun]
  refine ⟨ws, hremoved.workspace, hstep.noTrace hconfined
    (fun root hroot => hroot.1.trans hchosen.1.symm)
    (vacant_chosen hpre (confined_fresh _ plan disk) hchosen) fun q hq habove hbelow => ?_⟩
  rw [hchosen.1] at habove hbelow
  rw [Node.stat, hafter.same q ⟨habove, hbelow⟩]
  exact hq

/-- A whole build at `/w` next to a file `/a`. -/
theorem noTrace_run_still :
    let builtins := [BuiltinStage.validateConfig, .prepareWorkspace, .generateManifest, .finalize]
    let plan : BuildPlan := { configPath := .ofString "/a", workspaceRoot := some (.ofString "/w") }
    let disk := Disk.ofTree (.dir [("a", .file ⟨[1], true⟩)])
    let final := ((builtinPipeline .still builtins (List.cons_ne_nil _ _)).run .still
      (.fresh plan disk)).2
    ∃ ws, final.context.workspace = some ws ∧ NoTrace disk.tree final.disk.tree ws.root :=
  noTrace_run .still _ [.validateConfig] [.generateManifest] rfl (by decide) (by decide) rfl
    (run_concat_finalize .still [.validateConfig, .prepareWorkspace, .generateManifest] _ _ rfl).2
    (by decide +kernel)

end ClassroomSuite.Builder
