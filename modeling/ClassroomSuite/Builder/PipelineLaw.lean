import ClassroomSuite.Builder.Pipeline

/-!
# What a run of the pipeline does

`Executes` says what running a list of stages means, without the loop: each stage in turn runs in
the state the one before it left, its result is the one it returned or, if it raised, a failure
under its name, and the result is recorded before the next stage runs. `run_law` says that the
pipeline does this with the selected stages, for stages that leave the list of results alone.

The summary of a run lists the results of the whole context, but its success flag is about the
run alone. Over a sequence of runs on one context the two agree in every summary exactly when no
run that succeeds begins with a failed result in the context (`summaries_agree_iff`).

## Main definitions

* `Executes`.
* `runCalls`, `BuildSummary.Agrees`, `SomeStageFails`, `HistoriesHarmless`.

## Main results

* `run_law`, `summaries_agree_iff`.
-/

namespace ClassroomSuite.Builder

open Library

/-! ### The law of a run -/

/-- Running stages one after the other. The clock is read before each stage, and after one that
raised. -/
inductive Executes : List BuildStage → BuildState → List BuildStageResult → BuildState → Prop
  | done (s : BuildState) : Executes [] s [] s
  | returned {stage : BuildStage} {stages : List BuildStage} {s s' final : BuildState}
      {result : BuildStageResult} {results : List BuildStageResult}
      (hrun : stage.run s.tick = .ok result s')
      (rest : Executes stages (s'.record result) results final) :
      Executes (stage :: stages) s (result :: results) final
  | raised {stage : BuildStage} {stages : List BuildStage} {s s' final : BuildState}
      {e : BuildException} {result : BuildStageResult} {results : List BuildStageResult}
      (hrun : stage.run s.tick = .error e s') (hname : result.stageName = stage.name)
      (hsuccess : result.success = false) (hcode : result.exitCode = 99)
      (rest : Executes stages (s'.tick.record result) results final) :
      Executes (stage :: stages) s (result :: results) final

theorem executes_runStages (env : BuildEnv) (stages : List BuildStage) (s : BuildState) :
    Executes stages s (newResults env stages s) (runStages env stages s) := by
  induction stages generalizing s with
  | nil => exact .done s
  | cons stage stages ih =>
    have hrest := ih (stepStage env stage s)
    rw [newResults, runStages]
    rw [stepStage, runStage] at hrest ⊢
    cases hrun : stage.run s.tick with
    | ok result s' =>
      rw [hrun] at hrest
      exact .returned hrun hrest
    | error e s' =>
      rw [hrun] at hrest
      exact .raised hrun rfl rfl rfl hrest

/-- The pipeline runs the stages that the plan has a name for, or all if it has no names, in the
order they are registered in, each in the state the ones before it left and whatever became of them;
it appends one result for each of them to those of the context. -/
theorem run_law (env : BuildEnv) (pipeline : BuildPipeline) (s : BuildState)
    (h : ∀ stage ∈ pipeline.stages, KeepsResults stage) :
    (pipeline.selected s.context.plan = pipeline.stages.filter fun stage =>
      s.context.plan.stages = [] ∨ stage.name ∈ s.context.plan.stages) ∧
    ∃ results final,
      Executes (pipeline.selected s.context.plan) s.tick results final ∧
      (pipeline.run env s).2 = final.tick ∧
      results.length = (pipeline.selected s.context.plan).length ∧
      (pipeline.run env s).2.context.stageResults = s.context.stageResults ++ results ∧
      (pipeline.run env s).1.stageResults = s.context.stageResults ++ results := by
  have hselected : ∀ stage ∈ pipeline.selected s.context.plan, KeepsResults stage :=
    fun stage hstage => h stage (List.mem_of_mem_filter hstage)
  have hresults := stageResults_runStages env hselected s.tick
  refine ⟨pipeline.selected_eq _, _, _, executes_runStages env _ _, run_state env pipeline s,
    length_newResults env _ _, ?_, ?_⟩
  · rw [run_state]
    exact hresults
  · rw [run_stageResults]
    exact hresults

/-- A stage that returns a fixed result. -/
def constantStage (result : BuildStageResult) : BuildStage := ⟨result.stageName, pure result⟩

/-- A stage that fails. -/
def failingStage : BuildStage := constantStage ⟨"probe", false, 1, "", none, []⟩

/-- A stage that raises an exception. -/
def raisingStage (name : String) : BuildStage := ⟨name, throw (.other "no space")⟩

theorem keepsResults_constantStage (result : BuildStageResult) :
    KeepsResults (constantStage result) := fun _ => rfl

theorem keepsResults_raisingStage (name : String) : KeepsResults (raisingStage name) := fun _ => rfl

/-- Three stages, of which the first raises an exception. -/
def raisingPipeline : BuildPipeline where
  stages := [raisingStage "probe", constantStage ⟨"pack", true, 0, "", none, []⟩,
    constantStage ⟨"report", true, 0, "", none, []⟩]
  stages_ne_nil := List.cons_ne_nil _ _

theorem keepsResults_raisingPipeline : ∀ stage ∈ raisingPipeline.stages, KeepsResults stage := by
  simp only [raisingPipeline, List.forall_mem_cons]
  exact ⟨keepsResults_raisingStage _, keepsResults_constantStage _, keepsResults_constantStage _,
    List.forall_mem_nil _⟩

/-- A context in which a stage has succeeded, under a plan with these names. -/
def startedState (stages : List String) : BuildState :=
  (BuildState.fresh { configPath := .ofString "c.yaml", stages } (.ofTree (.dir []))).record
    ⟨"fetch", true, 0, "", none, []⟩

/-- The law where the plan names two of three stages, the last one first, and the first one raises:
it has a failure under its name, and the last one is run. -/
theorem run_law_raising :
    let s := startedState ["report", "probe"]
    ∃ results final,
      Executes [raisingStage "probe", constantStage ⟨"report", true, 0, "", none, []⟩] s.tick
        results final ∧
      results.map (fun result => (result.stageName, result.exitCode)) =
        [("probe", 99), ("report", 0)] ∧
      (raisingPipeline.run .still s).1.stageResults = s.context.stageResults ++ results := by
  intro s
  obtain ⟨-, results, final, hexecutes, -, -, -, hsummary⟩ :=
    run_law .still raisingPipeline s keepsResults_raisingPipeline
  refine ⟨results, final, hexecutes, ?_, hsummary⟩
  have hnames : (raisingPipeline.run .still s).1.stageResults.map
      (fun result => (result.stageName, result.exitCode)) =
        ("fetch", 0) :: [("probe", 99), ("report", 0)] := rfl
  rw [hsummary, List.map_append] at hnames
  exact (List.append_right_inj [("fetch", 0)]).mp hnames

/-! ### The summaries of a sequence of runs -/

/-- Run pipelines one after the other on one context. -/
def runCalls (env : BuildEnv) : List BuildPipeline → BuildState → List BuildSummary × BuildState
  | [], s => ([], s)
  | pipeline :: pipelines, s =>
    let (summary, s') := pipeline.run env s
    let (summaries, s'') := runCalls env pipelines s'
    (summary :: summaries, s'')

/-- The success flag of a summary says whether all results it lists succeeded. -/
def BuildSummary.Agrees (summary : BuildSummary) : Prop :=
  summary.success = true ↔ ∀ result ∈ summary.stageResults, result.success = true

/-- One of the stages, run in turn, returns a failed result or raises. -/
def SomeStageFails (env : BuildEnv) : List BuildStage → BuildState → Prop
  | [], _ => False
  | stage :: stages, s =>
    (∃ result s', stage.run s.tick = .ok result s' ∧ result.success = false) ∨
      (∃ e s', stage.run s.tick = .error e s') ∨
      SomeStageFails env stages (stepStage env stage s)

/-- Each run begins with nothing but successes in the context, or has a failing stage itself. -/
def HistoriesHarmless (env : BuildEnv) : List BuildPipeline → BuildState → Prop
  | [], _ => True
  | pipeline :: pipelines, s =>
    ((∀ result ∈ s.context.stageResults, result.success = true) ∨
        SomeStageFails env (pipeline.selected s.context.plan) s.tick) ∧
      HistoriesHarmless env pipelines (pipeline.run env s).2

theorem someStageFails_iff (env : BuildEnv) (stages : List BuildStage) (s : BuildState) :
    SomeStageFails env stages s ↔
      ¬ ∀ result ∈ newResults env stages s, result.success = true := by
  induction stages generalizing s with
  | nil => simp [SomeStageFails, newResults]
  | cons stage stages ih =>
    have hstage : (runStage env stage s).1.success = false ↔
        (∃ result s', stage.run s.tick = .ok result s' ∧ result.success = false) ∨
          ∃ e s', stage.run s.tick = .error e s' := by
      rw [runStage]
      cases hrun : stage.run s.tick with
      | ok result s' => simp
      | error e s' => simp [unhandledResult]
    rw [SomeStageFails, ih, newResults, List.forall_mem_cons, not_and_or, Bool.not_eq_true,
      hstage, or_assoc]

theorem run_agrees_iff (env : BuildEnv) (pipeline : BuildPipeline) (s : BuildState)
    (h : ∀ stage ∈ pipeline.stages, KeepsResults stage) :
    (pipeline.run env s).1.Agrees ↔
      (∀ result ∈ s.context.stageResults, result.success = true) ∨
        SomeStageFails env (pipeline.selected s.context.plan) s.tick := by
  have hselected : ∀ stage ∈ pipeline.selected s.context.plan, KeepsResults stage :=
    fun stage hstage => h stage (List.mem_of_mem_filter hstage)
  have hresults : (pipeline.run env s).1.stageResults = s.context.stageResults ++
      newResults env (pipeline.selected s.context.plan) s.tick := by
    rw [run_stageResults, stageResults_runStages env hselected]
    rfl
  rw [BuildSummary.Agrees, run_success, hresults, someStageFails_iff, List.all_eq_true,
    List.forall_mem_append]
  tauto

/-- Over a sequence of runs on one context, every summary agrees with the results it lists exactly
when each run begins with a clean history or has a failing stage itself. -/
theorem summaries_agree_iff (env : BuildEnv) (pipelines : List BuildPipeline) (s : BuildState)
    (h : ∀ pipeline ∈ pipelines, ∀ stage ∈ pipeline.stages, KeepsResults stage) :
    (∀ summary ∈ (runCalls env pipelines s).1, summary.Agrees) ↔
      HistoriesHarmless env pipelines s := by
  induction pipelines generalizing s with
  | nil => simp [runCalls, HistoriesHarmless]
  | cons pipeline pipelines ih =>
    obtain ⟨hpipeline, hpipelines⟩ := List.forall_mem_cons.mp h
    rw [HistoriesHarmless, ← run_agrees_iff env pipeline s hpipeline, ← ih _ hpipelines]
    exact List.forall_mem_cons

/-- Two runs on a context in which a stage has succeeded. Both fail, by the stage that raises, so
that the failure of the first does no harm to the summary of the second. -/
theorem summaries_agree_raising :
    let summaries := (runCalls .still [raisingPipeline, raisingPipeline] (startedState [])).1
    summaries.map BuildSummary.success = [false, false] ∧
      ∀ summary ∈ summaries, summary.Agrees := by
  intro summaries
  have hkeep : ∀ pipeline ∈ [raisingPipeline, raisingPipeline],
      ∀ stage ∈ pipeline.stages, KeepsResults stage := by
    simp only [List.forall_mem_cons]
    exact ⟨keepsResults_raisingPipeline, keepsResults_raisingPipeline, List.forall_mem_nil _⟩
  have hraises (s : BuildState) (h : s.context.plan.stages = []) :
      SomeStageFails .still (raisingPipeline.selected s.context.plan) s.tick := by
    rw [BuildPipeline.selected_eq, h]
    exact Or.inr (Or.inl ⟨.other "no space", s.tick.tick, rfl⟩)
  refine ⟨rfl, (summaries_agree_iff _ _ _ hkeep).mpr ?_⟩
  exact ⟨Or.inr (hraises _ rfl), Or.inr (hraises _ rfl), trivial⟩

/-- A pipeline of one stage with a fixed result. -/
def constantPipeline (result : BuildStageResult) : BuildPipeline :=
  ⟨[constantStage result], List.cons_ne_nil _ _⟩

theorem keepsResults_constantPipeline (result : BuildStageResult) :
    ∀ stage ∈ (constantPipeline result).stages, KeepsResults stage := by
  intro stage hstage
  rw [List.mem_singleton.mp hstage]
  exact keepsResults_constantStage result

/-- After a failed run, the summary of a successful run on the same context disagrees. -/
theorem summaries_disagree :
    ¬ ∀ (env : BuildEnv) (pipelines : List BuildPipeline) (s : BuildState),
      (∀ pipeline ∈ pipelines, ∀ stage ∈ pipeline.stages, KeepsResults stage) →
        ∀ summary ∈ (runCalls env pipelines s).1, summary.Agrees := by
  intro h
  let failing := constantPipeline ⟨"probe", false, 1, "", none, []⟩
  let passing := constantPipeline ⟨"probe", true, 0, "", none, []⟩
  let s := BuildState.fresh { configPath := .ofString "c.yaml" } (.ofTree (.dir []))
  have hkeep : ∀ pipeline ∈ [failing, passing], ∀ stage ∈ pipeline.stages, KeepsResults stage := by
    simp only [List.forall_mem_cons]
    exact ⟨keepsResults_constantPipeline _, keepsResults_constantPipeline _,
      fun pipeline hpipeline => absurd hpipeline List.not_mem_nil⟩
  have hagrees := h .still [failing, passing] s hkeep
    (passing.run .still (failing.run .still s).2).1 (List.mem_cons_of_mem _ List.mem_cons_self)
  have hfailed := hagrees.mp rfl ⟨"probe", false, 1, "", none, []⟩ List.mem_cons_self
  exact absurd hfailed (by decide)

end ClassroomSuite.Builder
