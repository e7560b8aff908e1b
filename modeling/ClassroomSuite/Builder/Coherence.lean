import ClassroomSuite.Builder.FallibleStages
import ClassroomSuite.Builder.StageInvariants

/-!
# Coherent contexts

What the built-in stages leave in the context tells one story, in any order and however often they
run, and whatever fails: each stage that has run has a result under its name, whose success and exit
code say the same, the artifacts are those of the results, and no stage that needs the workspace has
succeeded before one that prepared it.

A stage is described by `Returned`, which says what it returns and leaves in the context, where an
exception counts as the result that the pipeline gives for it. The context is coherent in every
state that a sequence of runs comes through.

Source: `cli/src/bcs/builder/stages.py`, `cli/src/bcs/builder/pipeline.py`.

## Main definitions

* `Coherent`.
* `Settled`, `Reachable`: the states after runs on a fresh context, and within one.

## Main results

* `coherent_of_reachable`.
-/

namespace ClassroomSuite.Builder

open Library

/-- The name of a built-in stage. -/
def BuiltinStage.name : BuiltinStage → String
  | .validateConfig => "validate-config"
  | .prepareWorkspace => "prepare-workspace"
  | .generateManifest => "generate-manifest"
  | .finalize => "finalize"

/-- The stage needs a workspace. -/
def BuiltinStage.NeedsWorkspace (stage : BuiltinStage) : Prop :=
  stage = .generateManifest ∨ stage = .finalize

/-- One of the results is that of a workspace prepared successfully. -/
def Prepared (results : List BuildStageResult) : Prop :=
  ∃ result ∈ results, result.stageName = BuiltinStage.prepareWorkspace.name ∧ result.success = true

/-- The stages that have been executed and the context tell the same. -/
structure Coherent (executed : List BuiltinStage) (c : BuildContext) : Prop where
  names : c.stageResults.map BuildStageResult.stageName = executed.map BuiltinStage.name
  codes : ∀ result ∈ c.stageResults, (result.success = true ↔ result.exitCode = 0)
  artifacts : c.artifacts = c.stageResults.flatMap BuildStageResult.artifacts
  prepared : ∀ before result after, c.stageResults = before ++ result :: after →
    (∃ stage : BuiltinStage, stage.NeedsWorkspace ∧ result.stageName = stage.name) →
    result.success = true → Prepared before

section Reachability

variable (env : BuildEnv) (fallible : Bool) (plan : BuildPlan) (disk : Disk)

/-- The built-in stages among which the plan selects. -/
def selectedStages (plan : BuildPlan) (stages : List BuiltinStage) : List BuiltinStage :=
  stages.filter fun stage => selects plan stage.name

/-- The state after runs on a fresh context, and the stages executed in them. -/
inductive Settled : List BuiltinStage → BuildState → Prop
  | fresh : Settled [] (.fresh plan disk)
  | run {executed : List BuiltinStage} {s : BuildState} (h : Settled executed s)
      (stages : List BuiltinStage)
      (hstages : stages.map (BuiltinStage.fallible env fallible) ≠ []) :
      Settled (executed ++ selectedStages s.context.plan stages)
        (BuildPipeline.run env ⟨_, hstages⟩ s).2

/-- The state after runs on a fresh context, or within another run after some of its stages. -/
inductive Reachable : List BuiltinStage → BuildState → Prop
  | settled {executed : List BuiltinStage} {s : BuildState}
      (h : Settled env fallible plan disk executed s) : Reachable executed s
  | within {executed : List BuiltinStage} {s : BuildState}
      (h : Settled env fallible plan disk executed s) (stages : List BuiltinStage)
      {before after : List BuiltinStage}
      (hselected : selectedStages s.context.plan stages = before ++ after) :
      Reachable (executed ++ before)
        (runStages env (before.map (BuiltinStage.fallible env fallible)) s.tick)

end Reachability

/-! ### What a stage does -/

/-- The results, the artifacts and the workspace are those of the context. -/
def Same (c : BuildContext) (s : BuildState) : Prop :=
  s.context.stageResults = c.stageResults ∧ s.context.artifacts = c.artifacts ∧
    s.context.workspace = c.workspace

/-- What a stage that began with a context returns, and leaves in the context. -/
structure Returned (stage : BuiltinStage) (c : BuildContext) (result : BuildStageResult)
    (s : BuildState) : Prop where
  name : result.stageName = stage.name
  code : result.success = true ↔ result.exitCode = 0
  results : s.context.stageResults = c.stageResults
  artifacts : s.context.artifacts = c.artifacts ++ result.artifacts
  workspace : s.context.workspace ≠ none →
    c.workspace ≠ none ∨ stage = .prepareWorkspace ∧ result.success = true
  prepared : stage.NeedsWorkspace → result.success = true → c.workspace ≠ none

variable {env : BuildEnv} {fallible : Bool} {c : BuildContext}

theorem treeInvariant_same (c : BuildContext) : TreeInvariant (Same c) where
  readings _ _ h := h
  disk _ _ _ h := h

theorem keeps_same_onDisk {α : Type} (m : DiskIO α) : Keeps (Same c) (onDisk m) := by
  refine keeps_onDisk (J := fun _ => True) ?_ (fun _ _ => trivial) fun _ _ h _ => h
  intro d _
  cases m d <;> trivial

theorem keeps_ask {fallible : Bool} (filename : String) :
    Keeps (Same c) (ask fallible filename) := by
  unfold ask
  split
  · exact keeps_same_onDisk _
  · exact Keeps.pure _

theorem keeps_same_writeText (p : AbsPath) (text : String) : Keeps (Same c) (writeText p text) :=
  (keeps_same_onDisk _).bind fun _ => keeps_same_onDisk _

/-- A stage ends with its result, or raises with the context as it was. -/
def Ends (stage : BuiltinStage) (c : BuildContext) (m : BuildM BuildStageResult) : Prop :=
  Hoare (Same c) m (Returned stage c) fun _ => Same c

theorem Ends.bind {α : Type} {stage : BuiltinStage} {m : BuildM α} {k : α → BuildM BuildStageResult}
    (hm : Keeps (Same c) m) (hk : ∀ a, Ends stage c (k a)) : Ends stage c (m >>= k) :=
  Hoare.bind hm hk

/-- Continuing with the present state, whose context is the one before the stage. -/
theorem Ends.get_bind {stage : BuiltinStage} {k : BuildState → BuildM BuildStageResult}
    (h : ∀ s, Same c s → Ends stage c (k s)) : Ends stage c (get >>= k) :=
  fun s hs => h s hs s hs

/-- A result without artifacts, with the context as it was. -/
theorem Same.returned {stage : BuiltinStage} {result : BuildStageResult} {s : BuildState}
    (hs : Same c s) (hname : result.stageName = stage.name)
    (hcode : result.success = true ↔ result.exitCode = 0) (hartifacts : result.artifacts = [])
    (hprepared : stage.NeedsWorkspace → result.success = true → c.workspace ≠ none) :
    Returned stage c result s where
  name := hname
  code := hcode
  results := hs.1
  artifacts := by rw [hs.2.1, hartifacts, List.append_nil]
  workspace h := Or.inl (hs.2.2 ▸ h)
  prepared := hprepared

theorem ends_failed {stage : BuiltinStage} {start : ℚ≥0} {exitCode : ℕ} {message : String}
    (h : exitCode ≠ 0) :
    Ends stage c (makeResult env stage.name start false exitCode message []) :=
  fun _ hs => show Returned stage c _ _ from
    Same.returned hs rfl (iff_of_false Bool.false_ne_true h) rfl fun _ => Bool.noConfusion

theorem ends_succeeded {stage : BuiltinStage} {start : ℚ≥0} {message : String}
    (h : stage.NeedsWorkspace → c.workspace ≠ none) :
    Ends stage c (makeResult env stage.name start true 0 message []) :=
  fun _ hs => show Returned stage c _ _ from
    Same.returned hs rfl (iff_of_true rfl rfl) rfl fun hneeds _ => h hneeds

theorem not_needsWorkspace_validateConfig : ¬ BuiltinStage.validateConfig.NeedsWorkspace := by
  rintro (h | h) <;> cases h

theorem not_needsWorkspace_prepareWorkspace : ¬ BuiltinStage.prepareWorkspace.NeedsWorkspace := by
  rintro (h | h) <;> cases h

theorem ends_validateConfig :
    Ends .validateConfig c (Fallible.validateConfigStage env fallible).run := by
  refine Ends.bind ((treeInvariant_same c).consult env.monotonic) fun start => ?_
  refine Ends.bind Keeps.get fun s => Ends.bind (keeps_ask _) fun _ => ?_
  refine Ends.bind (keeps_ask _) fun _ => ?_
  split
  · exact ends_failed (by decide)
  · exact ends_succeeded fun h => absurd h not_needsWorkspace_validateConfig

/-! ### Preparing the workspace -/

theorem keeps_same_create (manager : BuildWorkspaceManager) :
    Keeps (Same c) (manager.create env) := by
  refine (keeps_isOccupied manager).bind fun occupied => ?_
  split
  · exact Keeps.throw _
  · refine keeps_catchOSError ?_ fun e => Keeps.throw _
    exact (keeps_same_onDisk _).bind fun _ => (keeps_same_onDisk _).bind fun _ =>
      (keeps_same_onDisk _).bind fun _ => (keeps_same_onDisk _).bind fun _ => Keeps.pure _

theorem keeps_same_createWorkspace (root : PurePath) :
    Keeps (Same c) (Fallible.createWorkspace env fallible root) := by
  refine Keeps.tryCatch ?_ fun e => ?_
  · exact (keeps_ask _).bind fun _ => (keeps_ask _).bind fun _ => Keeps.get.bind fun s =>
      (keeps_ask _).bind fun _ => (keeps_same_create _).bind fun _ => Keeps.pure _
  · cases e with
    | workspaceError message details => exact Keeps.pure _
    | osError e => exact Keeps.pure _
    | other message => exact Keeps.throw _

theorem ends_prepareWorkspace :
    Ends .prepareWorkspace c (Fallible.prepareWorkspaceStage env fallible).run := by
  have hroot : Keeps (Same c) (Fallible.workspaceRoot env fallible) := by
    refine Keeps.get.bind fun s => ?_
    split
    · exact Keeps.pure _
    · exact (keeps_ask _).bind fun _ =>
        ((treeInvariant_same c).consult env.utcNow).bind fun _ => Keeps.pure _
  refine Ends.bind ((treeInvariant_same c).consult env.monotonic) fun start =>
    Ends.bind hroot fun root => Ends.bind (keeps_same_createWorkspace root) fun created => ?_
  cases created with
  | error message => exact ends_failed (by decide)
  | ok ws =>
    rintro s ⟨hresults, hartifacts, -⟩
    exact {
      name := rfl
      code := iff_of_true rfl rfl
      results := hresults
      artifacts := hartifacts.trans (List.append_nil _).symm
      workspace := fun _ => Or.inr ⟨rfl, rfl⟩
      prepared := fun h => absurd h not_needsWorkspace_prepareWorkspace }

theorem ends_generateManifest : Ends .generateManifest c (generateManifestStage env).run := by
  refine Ends.bind ((treeInvariant_same c).consult env.monotonic) fun start =>
    Ends.get_bind fun s hs => ?_
  cases hworkspace : s.context.workspace with
  | none => exact ends_failed (by decide)
  | some ws =>
    have hready : c.workspace ≠ none := by
      rw [← hs.2.2, hworkspace]
      exact Option.some_ne_none ws
    refine Ends.bind (keeps_catchOSError ((keeps_same_writeText _ _).bind fun _ => Keeps.pure _)
      fun _ => Keeps.pure _) fun failure => ?_
    cases failure with
    | some e => exact ends_failed (by decide)
    | none =>
      refine Ends.bind ?_ fun relative => ?_
      · unfold relativeTo
        split
        · exact Keeps.pure _
        · exact Keeps.throw _
      · rintro s ⟨hresults, hartifacts, hsame⟩
        exact {
          name := rfl
          code := iff_of_true rfl rfl
          results := hresults
          artifacts := congrArg (· ++ [_]) hartifacts
          workspace := fun h => Or.inl (hsame ▸ h)
          prepared := fun _ _ => hready }

/-! ### Finalization -/

theorem keeps_same_finalizeRecords (ws : BuildWorkspace) :
    Keeps (Same c) (Fallible.finalizeRecords env fallible ws) := by
  have hartifacts : Keeps (Same c) (Fallible.computeArtifacts env fallible ws) :=
    Keeps.get.bind fun _ => Keeps.mapM (fun artifact => (keeps_ask _).bind fun _ =>
      keeps_computeArtifact (treeInvariant_same c) env ws artifact) _
  have hprovenance : Keeps (Same c) (writeProvenance env ws) :=
    (keeps_recordMetadata (treeInvariant_same c) env fun _ _ hs => hs).bind fun _ =>
      keeps_catchOSError ((keeps_same_writeText _ _).bind fun _ => Keeps.pure _) fun _ =>
        Keeps.pure _
  refine hartifacts.bind fun _ => hprovenance.bind fun failure => ?_
  cases failure with
  | some e => exact Keeps.pure _
  | none => exact (Keeps.get.bind fun _ => keeps_same_writeText _ _).bind fun _ => Keeps.pure _

theorem keeps_same_cleanup (ws : BuildWorkspace) :
    Keeps (Same c) (Fallible.cleanup env fallible ws) := by
  have hclean (manager : BuildWorkspaceManager) : Keeps (Same c) (manager.clean env) := by
    refine Keeps.get.bind fun s => ?_
    split
    · exact keeps_catchOSError (keeps_same_onDisk _) fun _ => Keeps.throw _
    · exact Keeps.pure _
  refine Keeps.get.bind fun s => ?_
  split
  · exact Keeps.pure _
  · exact (keeps_ask _).bind fun _ => (keeps_ask _).bind fun _ =>
      keeps_removeWorkspace env (hclean _)

theorem ends_finalize : Ends .finalize c (Fallible.finalizeStage env fallible).run := by
  refine Ends.bind ((treeInvariant_same c).consult env.monotonic) fun start =>
    Ends.get_bind fun s hs => ?_
  cases hworkspace : s.context.workspace with
  | none => exact ends_failed (by decide)
  | some ws =>
    have hready : c.workspace ≠ none := by
      rw [← hs.2.2, hworkspace]
      exact Option.some_ne_none ws
    refine Ends.bind (keeps_same_finalizeRecords ws) fun failure => ?_
    cases failure with
    | some e => exact ends_failed (by decide)
    | none =>
      refine Ends.bind (keeps_same_cleanup ws) fun failure => ?_
      cases failure with
      | some message => exact ends_failed (by decide)
      | none => exact ends_succeeded fun _ => hready

theorem ends_fallible (stage : BuiltinStage) : Ends stage c (stage.fallible env fallible).run := by
  cases stage with
  | validateConfig => exact ends_validateConfig
  | prepareWorkspace => exact ends_prepareWorkspace
  | generateManifest => exact ends_generateManifest
  | finalize => exact ends_finalize

/-! ### Runs -/

theorem name_fallible (stage : BuiltinStage) : (stage.fallible env fallible).name = stage.name := by
  cases stage <;> rfl

/-- The result of a stage, and what it leaves in the context, also if it raises. -/
theorem returned_runStage (stage : BuiltinStage) (s : BuildState) :
    Returned stage s.context (runStage env (stage.fallible env fallible) s).1
      (runStage env (stage.fallible env fallible) s).2 := by
  have hsame : Same s.context s.tick := ⟨rfl, rfl, rfl⟩
  rw [runStage]
  cases hrun : (stage.fallible env fallible).run s.tick with
  | ok result s' => exact (ends_fallible stage).of_ok hsame hrun
  | error e s' =>
    have hraised := (ends_fallible stage).of_error hsame hrun
    exact Same.returned hraised (name_fallible stage)
      (iff_of_false Bool.false_ne_true (Nat.succ_ne_zero 98)) rfl fun _ hsuccess =>
        absurd hsuccess Bool.false_ne_true

/-- The invariant of the runs: the context is coherent, and a workspace has been prepared. -/
structure CoherentReady (executed : List BuiltinStage) (c : BuildContext) : Prop
    extends Coherent executed c where
  ready : c.workspace ≠ none → Prepared c.stageResults

theorem name_injective : Function.Injective BuiltinStage.name := by
  intro stage stage' h
  cases stage <;> cases stage' <;> first | rfl | exact absurd h (by decide)

theorem Prepared.append {results : List BuildStageResult} (h : Prepared results)
    (results' : List BuildStageResult) : Prepared (results ++ results') := by
  obtain ⟨result, hresult, h⟩ := h
  exact ⟨result, List.mem_append_left _ hresult, h⟩

/-- Recording what a stage returned keeps the context coherent. -/
theorem CoherentReady.record {executed : List BuiltinStage} {stage : BuiltinStage}
    {result : BuildStageResult} {s : BuildState} (h : CoherentReady executed c)
    (hstage : Returned stage c result s) :
    CoherentReady (executed ++ [stage]) (s.record result).context := by
  have hresults : (s.record result).context.stageResults = c.stageResults ++ [result] := by
    rw [← hstage.results]
    rfl
  refine { names := ?_, codes := ?_, artifacts := ?_, prepared := ?_, ready := ?_ }
  · rw [hresults, List.map_append, List.map_append, h.names]
    exact congrArg (_ ++ [·]) hstage.name
  · rw [hresults, List.forall_mem_append]
    exact ⟨h.codes, List.forall_mem_singleton.mpr hstage.code⟩
  · rw [hresults, List.flatMap_append, ← h.artifacts, List.flatMap_singleton]
    exact hstage.artifacts
  · intro before last after hsplit hneeds hsuccess
    rw [hresults] at hsplit
    rcases List.eq_nil_or_concat after with rfl | ⟨after, final, rfl⟩
    · obtain ⟨rfl, hlast⟩ := List.append_inj' hsplit rfl
      obtain rfl : result = last := (List.cons.inj hlast).1
      obtain ⟨stage', hneeds, hname⟩ := hneeds
      obtain rfl : stage = stage' := name_injective (hstage.name.symm.trans hname)
      exact h.ready (hstage.prepared hneeds hsuccess)
    · rw [List.concat_eq_append, ← List.cons_append, ← List.append_assoc] at hsplit
      exact h.prepared before last after (List.append_inj' hsplit rfl).1 hneeds hsuccess
  · intro hworkspace
    rw [hresults]
    rcases hstage.workspace hworkspace with hready | ⟨rfl, hsuccess⟩
    · exact (h.ready hready).append _
    · exact ⟨result, List.mem_append_right _ (List.mem_singleton_self _), hstage.name, hsuccess⟩

/-- What one stage keeps. -/
theorem CoherentReady.stepStage {executed : List BuiltinStage} {s : BuildState}
    (h : CoherentReady executed s.context) (stage : BuiltinStage) :
    CoherentReady (executed ++ [stage])
      (stepStage env (stage.fallible env fallible) s).context :=
  h.record (returned_runStage stage s)

/-- What a list of stages keeps. -/
theorem CoherentReady.runStages {executed : List BuiltinStage} {s : BuildState}
    (h : CoherentReady executed s.context) (stages : List BuiltinStage) :
    CoherentReady (executed ++ stages)
      (runStages env (stages.map (BuiltinStage.fallible env fallible)) s).context := by
  induction stages generalizing executed s with
  | nil => rwa [List.append_nil]
  | cons stage stages ih =>
    rw [List.append_cons]
    exact ih (h.stepStage stage)

/-- The stages that a run executes. -/
theorem selected_fallible {plan : BuildPlan} {stages : List BuiltinStage}
    (hstages : stages.map (BuiltinStage.fallible env fallible) ≠ []) :
    (⟨_, hstages⟩ : BuildPipeline).selected plan =
      (selectedStages plan stages).map (BuiltinStage.fallible env fallible) := by
  simp only [BuildPipeline.selected, selectedStages, List.filter_map, Function.comp_def,
    name_fallible]

theorem coherentReady_of_settled {plan : BuildPlan} {disk : Disk} {executed : List BuiltinStage}
    {s : BuildState} (h : Settled env fallible plan disk executed s) :
    CoherentReady executed s.context := by
  induction h with
  | fresh =>
    exact {
      names := rfl
      codes := List.forall_mem_nil _
      artifacts := rfl
      prepared := fun before result after h => absurd h (by simp [BuildState.fresh])
      ready := fun h => absurd rfl h }
  | @run executed s h stages hstages ih =>
    have hready : CoherentReady executed s.tick.context := ih
    rw [run_state, selected_fallible hstages]
    exact hready.runStages _

/-- The context is coherent in every state that runs of the built-in stages come through, whatever
fails. -/
theorem coherent_of_reachable {plan : BuildPlan} {disk : Disk} {executed : List BuiltinStage}
    {s : BuildState} (h : Reachable env fallible plan disk executed s) :
    Coherent executed s.context := by
  cases h with
  | settled h => exact (coherentReady_of_settled h).toCoherent
  | @within executed s h stages before after hselected =>
    have hready := coherentReady_of_settled h
    exact (CoherentReady.runStages (s := s.tick) hready before).toCoherent

/-- A build in which the sixth operation on the disk fails, before the workspace is complete. -/
theorem coherent_sixth_fails :
    let disk : Disk := ⟨.dir [], fun i => if i = 5 then some ⟨.eio, none⟩ else none, 0⟩
    let stages : List BuiltinStage := [.prepareWorkspace, .generateManifest, .finalize]
    let pipeline : BuildPipeline :=
      ⟨stages.map (BuiltinStage.fallible .still true), by simp [stages]⟩
    Coherent stages
      (pipeline.run .still (.fresh { configPath := .ofString "c.yaml" } disk)).2.context := by
  intro disk stages pipeline
  have hfresh : Settled .still true { configPath := .ofString "c.yaml" } disk []
      (.fresh { configPath := .ofString "c.yaml" } disk) := .fresh
  exact coherent_of_reachable (.settled (hfresh.run stages pipeline.stages_ne_nil))

end ClassroomSuite.Builder
