import ClassroomSuite.Builder.PipelineLaw

/-!
# The stages a plan requests

A plan that names stages selects among those of the pipeline. A name that none of them has selects
nothing, so that no result is reported under it, and nothing else in the summary tells of it: the
run succeeds if the stages that are selected do.

Source: `cli/src/bcs/builder/pipeline.py`.

## Main definitions

* `LabelsResults`: a stage that reports under its own name.
* `RequestsReported`.

## Main results

* `requestsReported_iff`.
-/

namespace ClassroomSuite.Builder

/-- Under a name there is one of the results. -/
def Reports (results : List BuildStageResult) (name : String) : Prop :=
  ∃ result ∈ results, result.stageName = name

/-- The stage returns a result under its name and leaves the results of the context there, to which
it may append others under its name. -/
structure LabelsResults (stage : BuildStage) : Prop where
  returned : ∀ s result s', stage.run s = .ok result s' → result.stageName = stage.name
  appended : ∀ s, ∃ added, (Library.finalState stage.run s).context.stageResults =
    s.context.stageResults ++ added ∧ ∀ result ∈ added, result.stageName = stage.name

/-- If the run succeeds it reports a result for each of the requested names. -/
def RequestsReported (env : BuildEnv) (pipeline : BuildPipeline) (s : BuildState) : Prop :=
  (pipeline.run env s).1.success = true →
    ∀ name ∈ s.context.plan.stages, Reports (pipeline.run env s).1.stageResults name

theorem reports_append_iff {results results' : List BuildStageResult} {name : String} :
    Reports (results ++ results') name ↔ Reports results name ∨ Reports results' name := by
  simp only [Reports, List.mem_append, or_and_right, exists_or]

/-- A stage adds results under its name, at least one. -/
theorem reports_stepStage_iff (env : BuildEnv) {stage : BuildStage} (h : LabelsResults stage)
    (s : BuildState) (name : String) :
    Reports (stepStage env stage s).context.stageResults name ↔
      Reports s.context.stageResults name ∨ stage.name = name := by
  obtain ⟨added, hadded, hnames⟩ := h.appended s.tick
  have hresults : (runStage env stage s).2.context.stageResults =
      s.context.stageResults ++ added ∧ (runStage env stage s).1.stageName = stage.name := by
    rw [Library.finalState] at hadded
    rw [runStage]
    cases hrun : stage.run s.tick with
    | ok result s' =>
      rw [hrun] at hadded
      exact ⟨hadded, h.returned _ _ _ hrun⟩
    | error e s' =>
      rw [hrun] at hadded
      exact ⟨hadded, rfl⟩
  have hown : Reports added name → stage.name = name := by
    rintro ⟨result, hresult, hname⟩
    exact (hnames result hresult).symm.trans hname
  have hlast : Reports [(runStage env stage s).1] name ↔ stage.name = name := by
    simp only [Reports, List.mem_singleton, exists_eq_left, hresults.2]
  have hstep : (stepStage env stage s).context.stageResults =
      (runStage env stage s).2.context.stageResults ++ [(runStage env stage s).1] := rfl
  rw [hstep, hresults.1, reports_append_iff, reports_append_iff, hlast, or_assoc,
    or_iff_right_of_imp hown]

/-- What is reported after a list of stages: what was, and their names. -/
theorem reports_runStages_iff (env : BuildEnv) {stages : List BuildStage}
    (h : ∀ stage ∈ stages, LabelsResults stage) (s : BuildState) (name : String) :
    Reports (runStages env stages s).context.stageResults name ↔
      Reports s.context.stageResults name ∨ ∃ stage ∈ stages, stage.name = name := by
  induction stages generalizing s with
  | nil => simp [runStages]
  | cons stage stages ih =>
    obtain ⟨hstage, hstages⟩ := List.forall_mem_cons.mp h
    rw [runStages, ih hstages, reports_stepStage_iff env hstage, List.exists_mem_cons_iff, or_assoc]

/-- A successful run on a fresh context reports all requested names exactly if each of them is the
name of a stage of the pipeline; a run with a failing stage is not successful. -/
theorem requestsReported_iff (env : BuildEnv) (pipeline : BuildPipeline) (plan : BuildPlan)
    (disk : Library.Disk) (h : ∀ stage ∈ pipeline.stages, LabelsResults stage) :
    RequestsReported env pipeline (.fresh plan disk) ↔
      (∀ name ∈ plan.stages, ∃ stage ∈ pipeline.stages, stage.name = name) ∨
        SomeStageFails env (pipeline.selected plan) (BuildState.fresh plan disk).tick := by
  have hselected : ∀ stage ∈ pipeline.selected plan, LabelsResults stage :=
    fun stage hstage => h stage (List.mem_of_mem_filter hstage)
  have hreports : ∀ name ∈ plan.stages,
      (Reports (pipeline.run env (.fresh plan disk)).1.stageResults name ↔
        ∃ stage ∈ pipeline.stages, stage.name = name) := fun name hname => by
    rw [run_stageResults]
    change Reports (runStages env (pipeline.selected plan) _).context.stageResults name ↔ _
    rw [reports_runStages_iff env hselected]
    have hfresh : ¬ Reports (BuildState.fresh plan disk).tick.context.stageResults name := by
      rintro ⟨result, hresult, -⟩
      exact absurd hresult List.not_mem_nil
    rw [or_iff_right hfresh]
    constructor
    · rintro ⟨stage, hstage, hstageName⟩
      exact ⟨stage, List.mem_of_mem_filter hstage, hstageName⟩
    · rintro ⟨stage, hstage, rfl⟩
      exact ⟨stage, List.mem_filter.mpr ⟨hstage, selects_iff.mpr (Or.inr hname)⟩, rfl⟩
  have hsuccess : (pipeline.run env (.fresh plan disk)).1.success = true ↔
      ¬ SomeStageFails env (pipeline.selected plan) (BuildState.fresh plan disk).tick := by
    rw [run_success, someStageFails_iff, not_not, List.all_eq_true]
    rfl
  rw [RequestsReported, hsuccess, or_comm, or_iff_not_imp_left]
  exact imp_congr_right fun _ => forall₂_congr hreports

theorem labelsResults_constantStage (result : BuildStageResult) :
    LabelsResults (constantStage result) where
  returned s result' s' hrun := by
    cases hrun
    rfl
  appended s := ⟨[], (List.append_nil _).symm, by simp⟩

theorem labelsResults_raisingStage (name : String) : LabelsResults (raisingStage name) where
  returned s result s' hrun := by cases hrun
  appended s := ⟨[], (List.append_nil _).symm, by simp⟩

theorem labelsResults_raisingPipeline :
    ∀ stage ∈ raisingPipeline.stages, LabelsResults stage := by
  simp only [raisingPipeline, List.forall_mem_cons]
  exact ⟨labelsResults_raisingStage _, labelsResults_constantStage _,
    labelsResults_constantStage _, List.forall_mem_nil _⟩

/-- Two names are requested that are reported, and with a third that no stage has the run is none of
success, as the stage of the second raises. -/
theorem requestsReported_raising :
    RequestsReported .still raisingPipeline (.fresh
      { configPath := .ofString "c.yaml", stages := ["report", "pack"] } (.ofTree (.dir []))) ∧
    RequestsReported .still raisingPipeline (.fresh
      { configPath := .ofString "c.yaml", stages := ["report", "probe", "publish"] }
      (.ofTree (.dir []))) := by
  constructor
  · refine (requestsReported_iff .still _ _ _ labelsResults_raisingPipeline).mpr (Or.inl ?_)
    simp only [List.forall_mem_cons]
    exact ⟨⟨_, List.mem_cons_of_mem _ (List.mem_cons_of_mem _ List.mem_cons_self), rfl⟩,
      ⟨_, List.mem_cons_of_mem _ List.mem_cons_self, rfl⟩, List.forall_mem_nil _⟩
  · refine (requestsReported_iff .still _ _ _ labelsResults_raisingPipeline).mpr (Or.inr ?_)
    exact Or.inr (Or.inl ⟨.other "no space", _, rfl⟩)

/-- A mistyped name is not reported, and the run succeeds. -/
theorem not_requestsReported_mistyped :
    ¬ RequestsReported .still ⟨[validateConfigStage .still], List.cons_ne_nil _ _⟩
      (.fresh { configPath := .ofString "c.yaml", stages := ["validate"] }
        (.ofTree (.dir []))) := by
  intro h
  obtain ⟨result, hresult, -⟩ := h (by decide) "validate" (List.mem_singleton_self _)
  exact absurd hresult List.not_mem_nil

end ClassroomSuite.Builder
