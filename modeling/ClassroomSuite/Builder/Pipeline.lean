import ClassroomSuite.Builder.Stages

/-!
# The build pipeline

The pipeline runs its stages in order on one state. The plan selects stages by name, or all of
them. A stage that raises is given a failed result, and every result is appended to the context; no
failure stops the loop. The summary takes the results of the context and a success flag that the
loop accumulates on its own.

Source: `cli/src/bcs/builder/pipeline.py`.

## Main definitions

* `BuildPipeline`, `BuildPipeline.run`.
* `selects`, `runStage`, `stepStage`, `runStages`, `newResults`.
* `KeepsResults`: a stage that leaves the list of results alone.

## Main results

* `selects_iff`: the stages that a plan selects.
* `runLoop_eq`: the loop in terms of the selected stages.
* `runStages_append`: running a list of stages is running its parts one after the other.
* `stageResults_runStages`: the results after a list of stages.
* `keeps_runStages`: an invariant of every stage is one of the pipeline.
-/

namespace ClassroomSuite.Builder

open Python Library

/-- A pipeline has at least one stage. -/
structure BuildPipeline where
  stages : List BuildStage
  stages_ne_nil : stages ≠ []

/-- The pipeline of a list of stages; an empty list is an error. -/
def BuildPipeline.ofStages (stages : List BuildStage) : Except String BuildPipeline :=
  if h : stages = [] then .error "At least one stage is required to build a pipeline"
  else .ok ⟨stages, h⟩

/-- Whether the plan selects the stages of a name. -/
def selects (plan : BuildPlan) (name : String) : Bool :=
  plan.stages.isEmpty || plan.stages.contains name

/-- The selected stages, in the order they are registered in. -/
def BuildPipeline.selected (pipeline : BuildPipeline) (plan : BuildPlan) : List BuildStage :=
  pipeline.stages.filter fun stage => selects plan stage.name

/-- The state after one more reading of the clock. -/
def BuildState.tick (s : BuildState) : BuildState := { s with readings := s.readings + 1 }

/-- Append a result to the context. -/
def BuildState.record (result : BuildStageResult) (s : BuildState) : BuildState :=
  { s with context.stageResults := s.context.stageResults ++ [result] }

/-- The result given to a stage that raised. -/
def unhandledResult (env : BuildEnv) (stage : BuildStage) (e : BuildException) (start stop : ℚ≥0) :
    BuildStageResult where
  stageName := stage.name
  success := false
  exitCode := 99
  message := "Unhandled exception in stage '" ++ stage.name ++ "': " ++ e.str env
  elapsedSeconds := some (stop - start)

/-- The result of one stage, and the state it leaves. -/
def runStage (env : BuildEnv) (stage : BuildStage) (s : BuildState) :
    BuildStageResult × BuildState :=
  let start := env.monotonic s.readings
  match stage.run s.tick with
  | .ok result s' => (result, s')
  | .error e s' => (unhandledResult env stage e start (env.monotonic s'.readings), s'.tick)

/-- The state after one stage, with its result recorded. -/
def stepStage (env : BuildEnv) (stage : BuildStage) (s : BuildState) : BuildState :=
  (runStage env stage s).2.record (runStage env stage s).1

/-- The state after a list of stages. -/
def runStages (env : BuildEnv) : List BuildStage → BuildState → BuildState
  | [], s => s
  | stage :: stages, s => runStages env stages (stepStage env stage s)

/-- The loop of the pipeline: the success flag and the state. -/
def runLoop (env : BuildEnv) (plan : BuildPlan) :
    List BuildStage → Bool → BuildState → Bool × BuildState
  | [], overallSuccess, s => (overallSuccess, s)
  | stage :: stages, overallSuccess, s =>
    if selects plan stage.name then
      let (result, s') := runStage env stage s
      runLoop env plan stages (overallSuccess && result.success) (s'.record result)
    else runLoop env plan stages overallSuccess s

/-- Run the pipeline. -/
def BuildPipeline.run (env : BuildEnv) (pipeline : BuildPipeline) (s : BuildState) :
    BuildSummary × BuildState :=
  let plan := s.context.plan
  let overallStart := env.monotonic s.readings
  let (overallSuccess, s') := runLoop env plan pipeline.stages true s.tick
  ({ plan
     stageResults := s'.context.stageResults
     success := overallSuccess
     elapsedSeconds := some (env.monotonic s'.readings - overallStart) }, s'.tick)

/-- The stage leaves the list of results of the context alone, whether it returns or raises. -/
def KeepsResults (stage : BuildStage) : Prop :=
  ∀ s, (finalState stage.run s).context.stageResults = s.context.stageResults

/-! ### The loop -/

/-- A stage is selected if the plan has no list of stages, or has its name in it. -/
theorem selects_iff {plan : BuildPlan} {name : String} :
    selects plan name = true ↔ plan.stages = [] ∨ name ∈ plan.stages := by
  simp [selects]

theorem BuildPipeline.selected_eq (pipeline : BuildPipeline) (plan : BuildPlan) :
    pipeline.selected plan =
      pipeline.stages.filter fun stage => plan.stages = [] ∨ stage.name ∈ plan.stages := by
  refine List.filter_congr fun stage _ => ?_
  rw [Bool.eq_iff_iff, selects_iff, decide_eq_true_iff]

/-- The results of a list of stages, all of them run. -/
def newResults (env : BuildEnv) : List BuildStage → BuildState → List BuildStageResult
  | [], _ => []
  | stage :: stages, s => (runStage env stage s).1 :: newResults env stages (stepStage env stage s)

/-- The loop runs the selected stages; its flag is cleared by the first that does not succeed. -/
theorem runLoop_eq (env : BuildEnv) (plan : BuildPlan) (stages : List BuildStage) (flag : Bool)
    (s : BuildState) :
    runLoop env plan stages flag s =
      (flag && (newResults env (stages.filter fun stage => selects plan stage.name) s).all
          BuildStageResult.success,
        runStages env (stages.filter fun stage => selects plan stage.name) s) := by
  induction stages generalizing flag s with
  | nil => simp [runLoop, newResults, runStages]
  | cons stage stages ih =>
    by_cases h : selects plan stage.name = true
    · simp only [runLoop, h, if_true, ih, List.filter_cons_of_pos, newResults, runStages,
        List.all_cons, Bool.and_assoc]
      rfl
    · rw [runLoop, if_neg h, ih, List.filter_cons, if_neg h]

theorem runStages_append (env : BuildEnv) (stages stages' : List BuildStage) (s : BuildState) :
    runStages env (stages ++ stages') s = runStages env stages' (runStages env stages s) := by
  induction stages generalizing s with
  | nil => rfl
  | cons stage stages ih => exact ih _

/-- The state the pipeline leaves is that of the selected stages. -/
theorem run_state (env : BuildEnv) (pipeline : BuildPipeline) (s : BuildState) :
    (pipeline.run env s).2 = (runStages env (pipeline.selected s.context.plan) s.tick).tick := by
  simp [BuildPipeline.run, runLoop_eq, BuildPipeline.selected]

theorem run_success (env : BuildEnv) (pipeline : BuildPipeline) (s : BuildState) :
    (pipeline.run env s).1.success =
      (newResults env (pipeline.selected s.context.plan) s.tick).all
        BuildStageResult.success := by
  simp [BuildPipeline.run, runLoop_eq, BuildPipeline.selected]

theorem run_stageResults (env : BuildEnv) (pipeline : BuildPipeline) (s : BuildState) :
    (pipeline.run env s).1.stageResults =
      (runStages env (pipeline.selected s.context.plan) s.tick).context.stageResults := by
  simp [BuildPipeline.run, runLoop_eq, BuildPipeline.selected]

/-- The summary in terms of the selected stages. -/
theorem run_summary (env : BuildEnv) (pipeline : BuildPipeline) (s : BuildState) :
    let stages := pipeline.selected s.context.plan
    (pipeline.run env s).1 = {
      plan := s.context.plan
      stageResults := (runStages env stages s.tick).context.stageResults
      success := (newResults env stages s.tick).all BuildStageResult.success
      elapsedSeconds := some
        (env.monotonic (runStages env stages s.tick).readings - env.monotonic s.readings) } := by
  simp [BuildPipeline.run, runLoop_eq, BuildPipeline.selected]

/-! ### One stage -/

/-- A stage that keeps the results keeps them whether the pipeline gets a result or not. -/
theorem stageResults_runStage (env : BuildEnv) {stage : BuildStage} (h : KeepsResults stage)
    (s : BuildState) :
    (runStage env stage s).2.context.stageResults = s.context.stageResults := by
  have hkeep := h s.tick
  rw [finalState] at hkeep
  rw [runStage]
  cases hrun : stage.run s.tick with
  | ok result s' =>
    rw [hrun] at hkeep
    exact hkeep
  | error e s' =>
    rw [hrun] at hkeep
    exact hkeep

/-- Every stage adds its one result behind those that are there. -/
theorem stageResults_runStages (env : BuildEnv) {stages : List BuildStage}
    (h : ∀ stage ∈ stages, KeepsResults stage) (s : BuildState) :
    (runStages env stages s).context.stageResults =
      s.context.stageResults ++ newResults env stages s := by
  induction stages generalizing s with
  | nil => simp [runStages, newResults]
  | cons stage stages ih =>
    obtain ⟨hstage, hstages⟩ := List.forall_mem_cons.mp h
    have hstep : (stepStage env stage s).context.stageResults =
        s.context.stageResults ++ [(runStage env stage s).1] := by
      rw [← stageResults_runStage env hstage s]
      rfl
    rw [runStages, ih hstages, hstep, newResults, List.append_assoc, List.singleton_append]

theorem length_newResults (env : BuildEnv) (stages : List BuildStage) (s : BuildState) :
    (newResults env stages s).length = stages.length := by
  induction stages generalizing s with
  | nil => rfl
  | cons stage stages ih => exact congrArg (· + 1) (ih _)

/-- An invariant that neither the clock nor the list of results is part of. -/
structure StageInvariant (I : BuildState → Prop) : Prop where
  tick : ∀ s, I s → I s.tick
  record : ∀ s result, I s → I (s.record result)

/-- What holds when a stage has ended holds when its result is recorded. -/
theorem StageInvariant.step {I : BuildState → Prop} (hI : StageInvariant I) (env : BuildEnv)
    {stage : BuildStage} {s : BuildState} (h : I (finalState stage.run s.tick)) :
    I (stepStage env stage s) := by
  refine hI.record _ _ ?_
  rw [finalState] at h
  rw [runStage]
  cases hrun : stage.run s.tick with
  | ok result s' =>
    rw [hrun] at h
    exact h
  | error e s' =>
    rw [hrun] at h
    exact hI.tick s' h

/-- An invariant of every stage is an invariant of a list of stages. -/
theorem keeps_runStages {I : BuildState → Prop} (hI : StageInvariant I) (env : BuildEnv)
    {stages : List BuildStage} (h : ∀ stage ∈ stages, Keeps I stage.run) {s : BuildState}
    (hs : I s) : I (runStages env stages s) := by
  induction stages generalizing s with
  | nil => exact hs
  | cons stage stages ih =>
    obtain ⟨hstage, hstages⟩ := List.forall_mem_cons.mp h
    exact ih hstages (hI.step env (hstage.finalState (hI.tick s hs)))

end ClassroomSuite.Builder
