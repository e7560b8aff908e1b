import ClassroomSuite.Builder.Elsewhere
import ClassroomSuite.Builder.Locality

/-!
# Builds that keep out of each other's way

Builds with different workspaces may share a disk. Where nothing that the second build looks at is
in a workspace of the first, and the directories above both are there to begin with, the second
build does not notice the first, however that has ended and whatever it has left behind; and it
leaves the workspace of the first as it is. This comes of two facts about one build: it changes
nothing but its roots and what is on the way to them, and it depends on its footprint only, to which
the repository belongs that the version control finds.

Source: `cli/src/bcs/builder/stages.py`, `cli/src/bcs/builder/workspace.py`,
`BuildPipeline.run` of `cli/src/bcs/builder/pipeline.py`.

## Main definitions

* `Separate`: subtrees and a region of a tree that meet in existing directories only.
* `build`, `Unaffected`.

## Main results

* `elsewhere_run`, `confined_run`: what a build changes.
* `independent_run`.
-/

namespace ClassroomSuite.Builder

open Library

/-- Nothing that `W` looks at is in one of the subtrees at `V`, no subtree of `W` is around one of
these, and what is on the way to both is a directory. -/
structure Separate (V : Set AbsPath) (W : Region) (t : Node FileData) : Prop where
  below : ∀ root ∈ V, ∀ q ∈ W.whole ∪ W.single, ¬ root <+: q
  above : ∀ root ∈ V, ∀ root' ∈ W.whole, ¬ root' <+: root
  shared : ∀ root ∈ V, ∀ q, q <+: root → W.LeadsTo q → t.stat q = some .dir

/-- The paths neither above nor below one of the roots. -/
def Outside (V : Set AbsPath) (q : AbsPath) : Prop := ∀ root ∈ V, ¬ q <+: root ∧ ¬ root <+: q

theorem away_outside {V : Set AbsPath} {root : AbsPath} (h : root ∈ V) : Away (Outside V) root :=
  fun _ hq => hq root h

/-- A tree that has changed in some subtrees and on the way to them still agrees on a region that is
separate from these. -/
theorem Separate.agree {V : Set AbsPath} {W : Region} {t t' : Node FileData} (h : Separate V W t)
    (houtside : ∀ q, Outside V q → t'.get q = t.get q)
    (hdir : ∀ q, (∀ root ∈ V, ¬ root <+: q) → t.stat q = some .dir → t'.stat q = some .dir) :
    W.Agree t t' where
  subtree root' hroot' := Eq.symm <| houtside root' fun root hroot =>
    ⟨h.above root hroot root' hroot', h.below root hroot root' (Or.inl hroot')⟩
  path q hq := by
    have hbelow (root : AbsPath) (hroot : root ∈ V) : ¬ root <+: q := by
      obtain ⟨p, hp, hqp⟩ := hq
      exact fun hle => h.below root hroot p hp (hle.trans hqp)
    by_cases habove : ∃ root ∈ V, q <+: root
    · obtain ⟨root, hroot, hprefix⟩ := habove
      have hstat := h.shared root hroot q hprefix hq
      rw [hstat, hdir q hbelow hstat]
    · have hget := houtside q fun root hroot =>
        ⟨fun hprefix => habove ⟨root, hroot, hprefix⟩, hbelow root hroot⟩
      rw [Node.stat, Node.stat, hget]

/-! ### What a build changes -/

variable {env : BuildEnv} {plan : BuildPlan}

theorem planRoot_mem {s : BuildState} (h : s.context.plan = plan) :
    planRoot env s ∈ roots env plan := by
  refine ⟨_, ?_, rfl⟩
  rw [BuildPlan.MayName, ← h]
  cases s.context.plan.workspaceRoot with
  | some root => rfl
  | none => exact ⟨s.readings, rfl⟩

theorem run_builtinPipeline (builtins : List BuiltinStage) (h : builtins ≠ []) (disk : Disk) :
    ((builtinPipeline env builtins h).run env (.fresh plan disk)).2 =
      (runStages env ((selectedBuiltins env builtins plan).map (BuiltinStage.stage env))
        (BuildState.fresh plan disk).tick).tick := by
  rw [run_state, show (BuildState.fresh plan disk).context.plan = plan from rfl,
    selected_builtinPipeline]

theorem elsewhere_run (builtins : List BuiltinStage) (h : builtins ≠ []) (disk : Disk) :
    Elsewhere plan (Outside (roots env plan)) disk.tree
      ((builtinPipeline env builtins h).run env (.fresh plan disk)).2 := by
  rw [run_builtinPipeline]
  exact stageInvariant_elsewhere.tick _ (elsewhere_runStages
    (fun _ _ hs => away_outside (planRoot_mem hs.plan)) (elsewhere_fresh plan _ disk))

/-- What is below no root that the plan may name stays in place. -/
theorem confined_run (builtins : List BuiltinStage) (h : builtins ≠ []) (disk : Disk) :
    Confined (· ∈ roots env plan) disk.tree
      ((builtinPipeline env builtins h).run env (.fresh plan disk)).2 := by
  rw [run_builtinPipeline]
  refine stageInvariant_confined.tick _ (confined_runStages env _ (confined_fresh _ plan disk)
    fun pre post _ _ root _ hroot => ?_)
  have hpre : Elsewhere plan (fun _ => False) disk.tree
      (runStages env (pre.map (BuiltinStage.stage env)) (BuildState.fresh plan disk).tick) :=
    elsewhere_runStages (fun _ _ _ _ hfalse => hfalse.elim) (elsewhere_fresh plan _ disk)
  rw [hroot]
  exact planRoot_mem (s := (runStages env _ _).tick.tick) hpre.plan

/-! ### Two builds -/

theorem builtinPipeline_eq (builtins : List BuiltinStage) (h : builtins ≠ []) :
    builtinPipeline env builtins h =
      ⟨builtins.map (BuiltinStage.fallible env false), by simpa using h⟩ := by
  simp only [builtinPipeline, funext (BuiltinStage.fallible_false env)]

/-- The built-in stages run on a fresh context. -/
def build (env : BuildEnv) (plan : BuildPlan) (builtins : List BuiltinStage) (h : builtins ≠ [])
    (disk : Disk) : BuildSummary × BuildState :=
  (builtinPipeline env builtins h).run env (.fresh plan disk)

/-- A build on the disk that another build has left ends as it would have on the tree that was there
before, if the same of its operations fail, with the same contents of its workspace; and it leaves
the workspaces at `V` as they are. -/
structure Unaffected (V : Set AbsPath) (env : BuildEnv) (plan : BuildPlan)
    (builtins : List BuiltinStage) (h : builtins ≠ []) (before : Node FileData) (left : Disk) :
    Prop where
  summary : (build env plan builtins h left).1 =
    (build env plan builtins h { left with tree := before }).1
  view : SameView env plan (build env plan builtins h { left with tree := before }).2
    (build env plan builtins h left).2
  kept : ∀ root ∈ V, (build env plan builtins h left).2.disk.tree.get root =
    left.tree.get root

/-- **Builds with separate footprints are independent**, whatever becomes of the first. -/
theorem independent_run {env' : BuildEnv} {plan' : BuildPlan} (disk : Disk)
    (hseparate : Separate (roots env plan) (footprint env' plan') disk.tree)
    {builtins builtins' : List BuiltinStage} (h : builtins ≠ []) (h' : builtins' ≠ []) :
    Unaffected (roots env plan) env' plan' builtins' h' disk.tree
      (build env plan builtins h disk).2.disk := by
  have hfirst : Elsewhere plan (Outside (roots env plan)) disk.tree
      (build env plan builtins h disk).2 := elsewhere_run builtins h disk
  have hagree : Disk.Agree (footprint env' plan')
      { (build env plan builtins h disk).2.disk with tree := disk.tree }
      (build env plan builtins h disk).2.disk := by
    refine ⟨hseparate.agree hfirst.same fun q hq hdir => ?_, fun _ => rfl⟩
    exact ((confined_run builtins h disk).2 q hq).1 _ hdir
  have hstages : builtins'.map (BuiltinStage.fallible env' false) ≠ [] := by simpa using h'
  have hrun := sameView_run (sameView_fresh hagree) false hstages
  rw [← builtinPipeline_eq builtins' h'] at hrun
  refine ⟨hrun.1, hrun.2, fun root hroot => (elsewhere_run builtins' h' _).same root ?_⟩
  exact fun root' hroot' => ⟨hseparate.below root hroot root' (Or.inl (root_mem hroot')),
    hseparate.above root hroot root' (root_mem hroot')⟩

/-- A plan to build at a root from the configuration file `/a`. -/
def planAt (root : String) (keepWorkspace : Bool) : BuildPlan where
  configPath := .ofString "/a"
  workspaceRoot := some (.ofString root)
  keepWorkspace := keepWorkspace

/-- Two builds at `/v` and `/w`, started in a repository, the first of which keeps its workspace. -/
theorem independent_run_still :
    let tree := Node.dir [("a", .file (FileData.mk [1] true)), ("work", .dir [(".git", .dir [])])]
    Unaffected (roots .still (planAt "/v" true)) .still (planAt "/w" false)
      [.validateConfig, .prepareWorkspace, .generateManifest, .finalize] (List.cons_ne_nil _ _) tree
      (build .still (planAt "/v" true)
        [.validateConfig, .prepareWorkspace, .generateManifest, .finalize] (List.cons_ne_nil _ _)
        (.ofTree tree)).2.disk := by
  intro tree
  have hbelow : ∀ q ∈ [["w"], ["work", ".git"], [], ["a"]], ¬ ["v"] <+: q := by decide
  have habove : ∀ q ∈ [["w"], ["work", ".git"]], ¬ q <+: ["v"] := by decide
  have hshared : ∀ q ∈ ["v"].inits, q ≠ ["v"] → tree.stat q = some .dir := by decide
  have hwhole (q : AbsPath) (hq : q ∈ (footprint .still (planAt "/w" false)).whole) :
      q ∈ [["w"], ["work", ".git"]] := by
    obtain ⟨path, rfl, rfl⟩ | rfl := hq
    · exact List.mem_cons_self
    · exact List.mem_cons_of_mem _ List.mem_cons_self
  have hlooked (q : AbsPath) (hq : q ∈ (footprint .still (planAt "/w" false)).whole ∪
      (footprint .still (planAt "/w" false)).single) :
      q ∈ [["w"], ["work", ".git"], [], ["a"]] := by
    obtain hq | hq | hq := hq
    · exact List.mem_append_left [[], ["a"]] (hwhole q hq)
    · exact List.mem_append_right [["w"], ["work", ".git"]] hq
    · exact hq.elim
  have hseparate : Separate (roots .still (planAt "/v" true))
      (footprint .still (planAt "/w" false)) tree := by
    refine ⟨?_, ?_, ?_⟩
    · rintro root ⟨path, rfl, rfl⟩ q hq
      exact hbelow q (hlooked q hq)
    · rintro root ⟨path, rfl, rfl⟩ root' hroot'
      exact habove root' (hwhole root' hroot')
    · rintro root ⟨path, rfl, rfl⟩ q hq ⟨p, hp, hqp⟩
      refine hshared q ((List.mem_inits q _).mpr hq) ?_
      rintro rfl
      exact hbelow p (hlooked p hp) hqp
  exact independent_run (.ofTree tree) hseparate _ _

end ClassroomSuite.Builder
