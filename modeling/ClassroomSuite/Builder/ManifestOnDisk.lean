import ClassroomSuite.Builder.Coherence
import ClassroomSuite.Builder.FileSafety
import ClassroomSuite.Builder.ManifestRoundTrip

/-!
# The manifest that a build leaves

A manifest describes the build up to the stage that writes it. Behind that stage others run, and
further runs may follow on the same context, in which any operation may fail. If the plan keeps the
workspace, none of this touches the file: what the context says about the last manifest stage, where
that succeeded, determines what is on the disk and what is loaded from there.

The argument separates the stages. All but the manifest stage spare the places of manifests
(`Apart`), because the files they write have other names, and a workspace is only created where
there is no file yet. The manifest stage writes one file, which can be read because no one else has
put it there (`Recorded`).

Source: `cli/src/bcs/builder/stages.py`, `cli/src/bcs/builder/manifest.py`.

## Main definitions

* `manifestAfter`: the manifest of a build that has had some results.
* `Apart`, `Recorded`: what the stages keep.
* `ReadsBack`: what is assumed of the libraries.

## Main results

* `recorded_of_reachable`.
* `loadManifest_of_reachable`.
-/

namespace ClassroomSuite.Builder

open Python Library

/-- Where the manifest of a workspace is. -/
def manifestPath (ws : BuildWorkspace) : AbsPath := ws.metadataDir ++ ["manifest.json"]

/-- The manifest of a build that has had some results. -/
def manifestAfter (plan : BuildPlan) (results : List BuildStageResult) : BuildManifest where
  manifestVersion := "bcs-build-manifest/v1alpha1"
  plan := plan
  artifacts := results.flatMap BuildStageResult.artifacts
  stageResults := results

/-- The file of a manifest, which can be read. -/
def manifestFile (env : BuildEnv) (manifest : BuildManifest) : FileStat FileData :=
  .file ⟨encodeUtf8 (env.dumps manifest.toJson), true⟩

/-! ### The places of manifests -/

/-- The two trees have the same files where manifests may be. -/
def SameManifests (t t' : Node FileData) : Prop :=
  ∀ (base : AbsPath) (data : FileData), t'.stat (base ++ ["manifest.json"]) = some (.file data) ↔
    t.stat (base ++ ["manifest.json"]) = some (.file data)

theorem SameManifests.refl (t : Node FileData) : SameManifests t t := fun _ _ => Iff.rfl

theorem readableAt_iff {t : Node FileData} {p : AbsPath} :
    Disk.readableAt t p = true ↔ ∀ data, t.stat p = some (.file data) → data.readable = true := by
  rw [Disk.readableAt]
  cases t.stat p with
  | none => simp
  | some x => cases x <;> simp

variable {t : Node FileData} {α : Type}

/-- An operation that spares the places of manifests. -/
theorem keeps_sameManifests {m : DiskIO α}
    (h : ∀ base : AbsPath, Disk.Spares (base ++ ["manifest.json"]) m) :
    Keeps (fun d : Disk => SameManifests t d.tree) m := by
  intro d hd
  cases hrun : m d with
  | ok a d' =>
    refine fun base data => ⟨?_, fun hdata => ?_⟩
    · contrapose!
      exact fun hnot => ((h base).2 data).of_ok (fun hfile => hnot ((hd base data).mp hfile)) hrun
    · exact ((h base).1 _).of_ok ((hd base data).mpr hdata) hrun
  | error e d' =>
    refine fun base data => ⟨?_, fun hdata => ?_⟩
    · contrapose!
      exact fun hnot =>
        ((h base).2 data).of_error (fun hfile => hnot ((hd base data).mp hfile)) hrun
    · exact ((h base).1 _).of_error ((hd base data).mpr hdata) hrun

/-- A file with another name is at no place of a manifest. -/
theorem ne_manifest {name : String} (h : name ≠ "manifest.json") (q base : AbsPath) :
    q ++ [name] ≠ base ++ ["manifest.json"] := by
  intro heq
  exact h (List.cons.inj (List.append_inj' heq rfl).2).1

/-! ### The other stages -/

/-- After a context and a tree, the plan and the manifests are as they were, and so is the
workspace, unless it is one without a manifest. -/
structure Apart (c : BuildContext) (t : Node FileData) (s : BuildState) : Prop where
  plan : s.context.plan = c.plan
  manifests : SameManifests t s.disk.tree
  workspace : ∀ ws, s.context.workspace = some ws → c.workspace = some ws ∨
    ∀ data, t.stat (manifestPath ws) ≠ some (.file data)

variable {c : BuildContext}

theorem treeInvariant_apart : TreeInvariant (Apart c t) where
  readings _ _ hs := ⟨hs.plan, hs.manifests, hs.workspace⟩
  disk _ _ hd hs := ⟨hs.plan, hd ▸ hs.manifests, hs.workspace⟩

theorem apart_onDisk {m : DiskIO α}
    (h : ∀ base : AbsPath, Disk.Spares (base ++ ["manifest.json"]) m) :
    Keeps (Apart c t) (onDisk m) :=
  keeps_onDisk (keeps_sameManifests h) (fun _ hs => hs.manifests)
    fun _ _ hs hd => ⟨hs.plan, hd, hs.workspace⟩

theorem apart_ensureDirectory (p : AbsPath) : Keeps (Apart c t) (ensureDirectory p) :=
  apart_onDisk fun _ => Disk.spares_mkdirParents p

/-- A file with another name may be written. -/
theorem apart_writeText {name : String} (h : name ≠ "manifest.json") (q : AbsPath)
    (text : String) : Keeps (Apart c t) (writeText (q ++ [name]) text) :=
  (apart_ensureDirectory _).bind fun _ => apart_onDisk fun base =>
    Disk.spares_writeFile _ (ne_manifest h q base)

variable {env : BuildEnv} {fallible : Bool}

theorem apart_validateConfigStage :
    Keeps (Apart c t) (Fallible.validateConfigStage env fallible).run := by
  refine (treeInvariant_apart.consult env.monotonic).bind fun start => Keeps.get.bind fun s =>
    (treeInvariant_apart.ask _ _).bind fun _ => (treeInvariant_apart.ask _ _).bind fun _ => ?_
  split
  · exact keeps_makeResult treeInvariant_apart
  · exact keeps_makeResult treeInvariant_apart

/-- A created workspace is at a root that held no file. -/
theorem apart_create (manager : BuildWorkspaceManager) :
    Hoare (Apart c t) (manager.create env)
      (fun ws s => Apart c t s ∧ ∀ data, t.stat (manifestPath ws) ≠ some (.file data))
      (fun _ => Apart c t) := by
  have hoccupied : Hoare (Apart c t) manager.isOccupied
      (fun occupied s => Apart c t s ∧ (occupied = false → Unoccupied s.disk.tree manager.root))
      (fun _ => Apart c t) := by
    intro s hs
    simp only [BuildWorkspaceManager.isOccupied, bind_apply, get_apply]
    cases hroot : s.disk.tree.stat manager.root with
    | none => exact ⟨hs, fun _ => Or.inl hroot⟩
    | some x =>
      cases x with
      | file data => exact hs
      | dir => exact ⟨hs, fun hnames => Or.inr ⟨hroot, by simpa using hnames⟩⟩
  refine hoccupied.bind fun occupied => ?_
  cases occupied with
  | true => exact Hoare.throw fun s hs => hs.1
  | false =>
    rintro s ⟨hs, hroot⟩
    have hvacant : ∀ data, t.stat (manifestPath (.ofRoot manager.root)) ≠ some (.file data) := by
      intro data hdata
      refine (hroot rfl).vacant _ data ((hs.manifests _ data).mpr hdata) ?_
      rw [BuildWorkspace.ofRoot, List.append_assoc]
      exact List.prefix_append _ _
    have hcreate : Hoare (Apart c t)
        (BuildWorkspaceManager.createDirectories (.ofRoot manager.root))
        (fun ws s => Apart c t s ∧ ∀ data, t.stat (manifestPath ws) ≠ some (.file data))
        (fun _ => Apart c t) :=
      Hoare.bind (apart_ensureDirectory _) fun _ => Hoare.bind (apart_ensureDirectory _) fun _ =>
        Hoare.bind (apart_ensureDirectory _) fun _ =>
          Hoare.bind (apart_ensureDirectory _) fun _ => Hoare.pure fun s hs => ⟨hs, hvacant⟩
    refine Hoare.tryCatch hcreate (fun e => ?_) s hs
    cases e with
    | osError e => exact Hoare.throw fun s hs => hs
    | workspaceError message details => exact Hoare.throw fun s hs => hs
    | other message => exact Hoare.throw fun s hs => hs

theorem apart_createWorkspace (root : PurePath) :
    Hoare (Apart c t) (Fallible.createWorkspace env fallible root)
      (fun r s => Apart c t s ∧ ∀ ws, r = .ok ws →
        ∀ data, t.stat (manifestPath ws) ≠ some (.file data))
      (fun _ => Apart c t) := by
  refine Hoare.tryCatch (?_ : Hoare _ _ _ fun _ => Apart c t) fun e => ?_
  · refine Hoare.bind (treeInvariant_apart.ask _ _) fun _ =>
      Hoare.bind (treeInvariant_apart.ask _ _) fun _ => Hoare.bind Keeps.get fun s =>
        Hoare.bind (treeInvariant_apart.ask _ _) fun _ =>
          (apart_create _).bind fun ws => Hoare.pure fun s hs => ⟨hs.1, fun ws' hws' => ?_⟩
    obtain rfl := Except.ok.inj hws'
    exact hs.2
  · cases e with
    | workspaceError message details => exact Hoare.pure fun s hs => ⟨hs, fun ws h => by cases h⟩
    | osError e => exact Hoare.pure fun s hs => ⟨hs, fun ws h => by cases h⟩
    | other message => exact Hoare.throw fun s hs => hs

theorem apart_prepareWorkspaceStage :
    Keeps (Apart c t) (Fallible.prepareWorkspaceStage env fallible).run := by
  have hroot : Keeps (Apart c t) (Fallible.workspaceRoot env fallible) := by
    refine Keeps.get.bind fun s => ?_
    split
    · exact Keeps.pure _
    · exact (treeInvariant_apart.ask _ _).bind fun _ =>
        (treeInvariant_apart.consult env.utcNow).bind fun _ => Keeps.pure _
  refine (treeInvariant_apart.consult env.monotonic).bind fun start => hroot.bind fun root =>
    Hoare.bind (apart_createWorkspace root) fun r => ?_
  cases r with
  | error message => exact (keeps_makeResult treeInvariant_apart).of_pre fun s hs => hs.1
  | ok ws =>
    refine Hoare.bind (S := fun _ => Apart c t) (Hoare.modify fun s hs => ?_) fun _ =>
      keeps_makeResult treeInvariant_apart
    refine ⟨hs.1.plan, hs.1.manifests, fun ws' hws' => Or.inr ?_⟩
    obtain rfl := Option.some.inj hws'
    exact hs.2 ws rfl

theorem apart_finalizeRecords (ws : BuildWorkspace) :
    Keeps (Apart c t) (Fallible.finalizeRecords env fallible ws) := by
  have hartifacts : Keeps (Apart c t) (Fallible.computeArtifacts env fallible ws) :=
    Keeps.get.bind fun _ => Keeps.mapM (fun artifact => (treeInvariant_apart.ask _ _).bind fun _ =>
      keeps_computeArtifact treeInvariant_apart env ws artifact) _
  have hprovenance : Keeps (Apart c t) (writeProvenance env ws) :=
    (keeps_recordMetadata treeInvariant_apart env fun _ _ hs =>
      ⟨hs.plan, hs.manifests, hs.workspace⟩).bind fun _ =>
        keeps_catchOSError ((apart_writeText (by decide) _ _).bind fun _ => Keeps.pure _) fun _ =>
          Keeps.pure _
  refine hartifacts.bind fun _ => hprovenance.bind fun failure => ?_
  cases failure with
  | some e => exact Keeps.pure _
  | none =>
    exact (Keeps.get.bind fun _ => apart_writeText (by decide) _ _).bind fun _ => Keeps.pure _

/-- The last stage keeps the workspace if the plan does. -/
theorem apart_finalizeStage (hkeep : c.plan.keepWorkspace = true) :
    Keeps (Apart c t) (Fallible.finalizeStage env fallible).run := by
  refine (treeInvariant_apart.consult env.monotonic).bind fun start => Keeps.get.bind fun s => ?_
  cases s.context.workspace with
  | none => exact keeps_makeResult treeInvariant_apart
  | some ws =>
    refine (apart_finalizeRecords ws).bind fun failure => ?_
    cases failure with
    | some e => exact keeps_makeResult treeInvariant_apart
    | none =>
      have hcleanup : Keeps (Apart c t) (Fallible.cleanup env fallible ws) := by
        refine keeps_get_bind fun s hs => ?_
        rw [hs.plan, hkeep]
        exact Keeps.pure _
      refine hcleanup.bind fun failure => ?_
      cases failure with
      | some message => exact keeps_makeResult treeInvariant_apart
      | none => exact keeps_makeResult treeInvariant_apart

theorem apart_fallible (hkeep : c.plan.keepWorkspace = true) {stage : BuiltinStage}
    (h : stage ≠ .generateManifest) : Keeps (Apart c t) (stage.fallible env fallible).run := by
  cases stage with
  | validateConfig => exact apart_validateConfigStage
  | prepareWorkspace => exact apart_prepareWorkspaceStage
  | generateManifest => exact absurd rfl h
  | finalize => exact apart_finalizeStage hkeep

/-! ### The manifest stage -/

/-- A file that is written is one that can be read, if an old one in its place could be. -/
theorem readable_writeFile (p : AbsPath) (bytes : List UInt8) :
    Hoare (fun d : Disk => Disk.readableAt d.tree p = true) (Disk.writeFile p bytes)
      (fun _ d => d.tree.stat p = some (.file ⟨bytes, true⟩))
      (fun _ d => Disk.readableAt d.tree p = true) := by
  intro d hd
  simp only [Disk.writeFile, bind_apply, get_apply]
  by_cases hp : d.tree.stat p = some .dir
  · simpa [hp] using hd
  · cases hparent : d.tree.stat p.dropLast with
    | none => simpa [hp] using hd
    | some x =>
      cases x with
      | file data => simpa [hp] using hd
      | dir =>
        have hne : p ≠ [] := by
          rintro rfl
          exact hp hparent
        have hput (b : List UInt8) :
            (d.tree.put p (some (.file ⟨b, true⟩))).stat p = some (.file ⟨b, true⟩) := by
          have h := Node.stat_put_append (.file ⟨b, true⟩) hne hparent []
          rwa [List.append_nil] at h
        cases hf : d.faults d.tick with
        | none => simpa [hp, bind_apply, hf, hd] using hput bytes
        | some f =>
          cases hleft : f.left with
          | none => simpa [hp, bind_apply, hf, hleft] using hd
          | some b =>
            simpa [hp, bind_apply, hf, hleft, hd] using readableAt_iff.mpr (by simp [hput])

/-- The context is as it was, and a manifest in its workspace can be read. -/
structure Awaiting (c : BuildContext) (s : BuildState) : Prop where
  context : s.context = c
  readable : ∀ ws, c.workspace = some ws → Disk.readableAt s.disk.tree (manifestPath ws) = true

theorem treeInvariant_awaiting : TreeInvariant (Awaiting c) where
  readings _ _ hs := ⟨hs.context, hs.readable⟩
  disk _ _ hd hs := ⟨hs.context, hd ▸ hs.readable⟩

theorem awaiting_of_readable {ws : BuildWorkspace} {s : BuildState} (hws : c.workspace = some ws)
    (hcontext : s.context = c) (hreadable : Disk.readableAt s.disk.tree (manifestPath ws) = true) :
    Awaiting c s := by
  refine ⟨hcontext, fun ws' hws' => ?_⟩
  obtain rfl := Option.some.inj (hws.symm.trans hws')
  exact hreadable

theorem keeps_readable_mkdirParents (p q : AbsPath) :
    Keeps (fun d : Disk => Disk.readableAt d.tree q = true) (Disk.mkdirParents p) := by
  simp only [readableAt_iff]
  intro d hd
  have hspares := Disk.spares_mkdirParents (q := q) p
  cases hrun : Disk.mkdirParents p d with
  | ok _ d' =>
    intro data
    contrapose!
    exact fun hnot => (hspares.2 data).of_ok (fun hfile => hnot (hd data hfile)) hrun
  | error e d' =>
    intro data
    contrapose!
    exact fun hnot => (hspares.2 data).of_error (fun hfile => hnot (hd data hfile)) hrun

theorem awaiting_saveManifest {ws : BuildWorkspace} (hws : c.workspace = some ws)
    (manifest : BuildManifest) :
    Hoare (Awaiting c) (saveManifest env manifest (manifestPath ws))
      (fun _ s => s.context = c ∧
        s.disk.tree.stat (manifestPath ws) = some (manifestFile env manifest))
      (fun _ => Awaiting c) := by
  refine Hoare.bind (Q := fun _ => Awaiting c) ?_ fun _ => ?_
  · exact keeps_onDisk (keeps_readable_mkdirParents _ (manifestPath ws))
      (fun _ hs => hs.readable ws hws) fun _ _ hs hd => awaiting_of_readable hws hs.context hd
  · exact Hoare.onPart (readable_writeFile _ _) (fun _ hs => hs.readable ws hws)
      (fun _ _ _ hs hd => ⟨hs.context, hd⟩) fun _ _ _ hs hd =>
        awaiting_of_readable hws hs.context hd

/-- What the manifest stage leaves of a context. -/
structure Written (env : BuildEnv) (c : BuildContext) (result : BuildStageResult)
    (s : BuildState) : Prop where
  plan : s.context.plan = c.plan
  workspace : s.context.workspace = c.workspace
  readable : ∀ ws, c.workspace = some ws → Disk.readableAt s.disk.tree (manifestPath ws) = true
  written : result.success = true → ∃ ws,
    result.message = "Manifest written to " ++ AbsPath.str (manifestPath ws) ∧
      s.disk.tree.stat (manifestPath ws) = some (manifestFile env {
        manifestVersion := "bcs-build-manifest/v1alpha1"
        plan := c.plan
        artifacts := c.artifacts
        stageResults := c.stageResults })

theorem Awaiting.written {result : BuildStageResult} {s : BuildState} (hs : Awaiting c s)
    (h : result.success = false) : Written env c result s where
  plan := hs.context ▸ rfl
  workspace := hs.context ▸ rfl
  readable := hs.readable
  written hsuccess := absurd (hsuccess.symm.trans h) (by decide)

theorem awaiting_failed {start : ℚ≥0} {exitCode : ℕ} {message : String} :
    Hoare (Awaiting c) (makeResult env "generate-manifest" start false exitCode message [])
      (Written env c) fun _ => Awaiting c :=
  fun s hs => show Written env c _ _ from
    Awaiting.written (s := { s with readings := s.readings + 1 }) ⟨hs.context, hs.readable⟩ rfl

theorem written_generateManifestStage :
    Hoare (Awaiting c) (generateManifestStage env).run (Written env c) fun _ => Awaiting c := by
  refine Hoare.bind (treeInvariant_awaiting.consult env.monotonic) fun start => ?_
  rintro s ⟨rfl, hreadable⟩
  rw [bind_apply, get_apply]
  dsimp only
  cases hws : s.context.workspace with
  | none => exact awaiting_failed s ⟨rfl, hreadable⟩
  | some ws =>
    set manifest : BuildManifest := {
      manifestVersion := "bcs-build-manifest/v1alpha1"
      plan := s.context.plan
      artifacts := s.context.artifacts
      stageResults := s.context.stageResults }
    have hsave : Hoare (Awaiting s.context)
        (catchOSError (do saveManifest env manifest (manifestPath ws); return none)
          (return some ·))
        (fun failure s' => failure.elim (s'.context = s.context ∧
          s'.disk.tree.stat (manifestPath ws) = some (manifestFile env manifest))
            fun _ => Awaiting s.context s')
        fun _ => Awaiting s.context := by
      refine Hoare.tryCatch
        ((awaiting_saveManifest hws manifest).bind fun _ => Hoare.pure fun _ hs => hs :
          Hoare _ _ _ fun _ => Awaiting s.context) fun e => ?_
      cases e with
      | osError e => exact Hoare.pure fun _ hs => hs
      | workspaceError message details => exact Hoare.throw fun _ hs => hs
      | other message => exact Hoare.throw fun _ hs => hs
    refine Hoare.bind hsave (fun failure => ?_) s ⟨rfl, hreadable⟩
    cases failure with
    | some e => exact awaiting_failed
    | none =>
      -- A file that has been written can be read, also if the stage raises after that.
      have hawaiting {s' : BuildState} (hcontext : s'.context = s.context)
          (hfile : s'.disk.tree.stat (manifestPath ws) = some (manifestFile env manifest)) :
          Awaiting s.context s' := by
        refine awaiting_of_readable hws hcontext ?_
        rw [Disk.readableAt, hfile]
        rfl
      dsimp only
      unfold relativeTo
      split
      · rintro s' ⟨hcontext, hfile⟩
        have hplan : s'.context.plan = s.context.plan := congrArg BuildContext.plan hcontext
        have hworkspace : s'.context.workspace = s.context.workspace :=
          congrArg BuildContext.workspace hcontext
        exact {
          plan := hplan
          workspace := hworkspace
          readable := (hawaiting hcontext hfile).readable
          written := fun _ => ⟨ws, rfl, hfile⟩ }
      · rintro s' ⟨hcontext, hfile⟩
        exact hawaiting hcontext hfile

/-! ### Runs -/

/-- The last result of the manifest stage, if it is one of success, names the file with the manifest
of the build up to it. -/
def LatestManifest (env : BuildEnv) (c : BuildContext) (t : Node FileData) : Prop :=
  ∀ before result after, c.stageResults = before ++ result :: after →
    result.stageName = BuiltinStage.generateManifest.name → result.success = true →
    (∀ later ∈ after, later.stageName ≠ BuiltinStage.generateManifest.name) →
    ∃ ws, result.message = "Manifest written to " ++ AbsPath.str (manifestPath ws) ∧
      t.stat (manifestPath ws) = some (manifestFile env (manifestAfter c.plan before))

/-- What every stage keeps: a manifest in the workspace can be read, and the last one written is on
the disk. -/
structure Recorded (env : BuildEnv) (plan : BuildPlan) (s : BuildState) : Prop where
  plan : s.context.plan = plan
  readable : ∀ ws, s.context.workspace = some ws →
    Disk.readableAt s.disk.tree (manifestPath ws) = true
  latest : LatestManifest env s.context s.disk.tree

/-- One of the elements of a list with a last one is that one, or in front of it. -/
theorem append_singleton_eq_append_cons {xs before after : List α} {x y : α}
    (h : xs ++ [x] = before ++ y :: after) :
    (after = [] ∧ xs = before ∧ x = y) ∨
      ∃ after', after = after' ++ [x] ∧ xs = before ++ y :: after' := by
  rcases List.eq_nil_or_concat after with rfl | ⟨after', z, rfl⟩
  · obtain ⟨hxs, hx⟩ := List.append_inj' h rfl
    exact Or.inl ⟨rfl, hxs, (List.cons.inj hx).1⟩
  · rw [List.concat_eq_append, ← List.cons_append, ← List.append_assoc] at h
    obtain ⟨hxs, hx⟩ := List.append_inj' h rfl
    exact Or.inr ⟨after', by rw [List.concat_eq_append, (List.cons.inj hx).1], hxs⟩

variable {plan : BuildPlan}

/-- A stage that spares the manifests keeps what has been recorded. -/
theorem Recorded.of_apart {s s' : BuildState} (h : Recorded env plan s)
    (hs' : Apart s.context s.disk.tree s') {result : BuildStageResult}
    (hresults : s'.context.stageResults = s.context.stageResults)
    (hname : result.stageName ≠ BuiltinStage.generateManifest.name) :
    Recorded env plan (s'.record result) where
  plan := hs'.plan.trans h.plan
  readable ws hws := by
    refine readableAt_iff.mpr fun data hdata => ?_
    have hbefore := (hs'.manifests _ data).mp hdata
    rcases hs'.workspace ws hws with hws | hnone
    · exact readableAt_iff.mp (h.readable ws hws) data hbefore
    · exact absurd hbefore (hnone data)
  latest before last after hsplit hlast hsuccess hafter := by
    have hsplit' : s.context.stageResults ++ [result] = before ++ last :: after := by
      rw [← hresults]
      exact hsplit
    rcases append_singleton_eq_append_cons hsplit' with ⟨-, -, rfl⟩ | ⟨after', rfl, hfront⟩
    · exact absurd hlast hname
    · obtain ⟨ws, hmessage, hfile⟩ := h.latest before last after' hfront hlast hsuccess
        fun later hlater => hafter later (List.mem_append_left _ hlater)
      have hplan : (s'.record result).context.plan = s.context.plan := hs'.plan
      rw [hplan]
      exact ⟨ws, hmessage, (hs'.manifests _ _).mpr hfile⟩

/-- The manifest stage records a manifest, or nothing. -/
theorem Recorded.of_written {s s' : BuildState} {result : BuildStageResult}
    (h : Recorded env plan s) (hs' : Written env s.context result s')
    (hresults : s'.context.stageResults = s.context.stageResults)
    (hname : result.stageName = BuiltinStage.generateManifest.name)
    (hartifacts : s.context.artifacts =
      s.context.stageResults.flatMap BuildStageResult.artifacts) :
    Recorded env plan (s'.record result) where
  plan := hs'.plan.trans h.plan
  readable ws hws := hs'.readable ws (hs'.workspace.symm.trans hws)
  latest before last after hsplit _ hsuccess hafter := by
    have hsplit' : s.context.stageResults ++ [result] = before ++ last :: after := by
      rw [← hresults]
      exact hsplit
    rcases append_singleton_eq_append_cons hsplit' with ⟨-, rfl, rfl⟩ | ⟨after', rfl, -⟩
    · obtain ⟨ws, hmessage, hfile⟩ := hs'.written hsuccess
      refine ⟨ws, hmessage, ?_⟩
      rw [hartifacts] at hfile
      rw [show (s'.record result).context.plan = s.context.plan from hs'.plan]
      exact hfile
    · exact absurd hname (hafter result (List.mem_append_right _ (List.mem_singleton_self _)))

theorem apart_runStage (hkeep : plan.keepWorkspace = true) {stage : BuiltinStage}
    (hstage : stage ≠ .generateManifest) {s : BuildState} (hs : s.context.plan = plan) :
    Apart s.context s.disk.tree (runStage env (stage.fallible env fallible) s).2 := by
  have hkeeps : Keeps (Apart s.context s.disk.tree) (stage.fallible env fallible).run :=
    apart_fallible (hs ▸ hkeep) hstage
  have hapart : Apart s.context s.disk.tree s.tick :=
    ⟨rfl, SameManifests.refl _, fun _ hws => Or.inl hws⟩
  rw [runStage]
  cases hrun : (stage.fallible env fallible).run s.tick with
  | ok result s' => exact hkeeps.of_ok hapart hrun
  | error e s' => exact treeInvariant_apart.readings s' _ (hkeeps.of_error hapart hrun)

theorem written_runStage {s : BuildState} (h : Recorded env plan s) :
    Written env s.context (runStage env (generateManifestStage env) s).1
      (runStage env (generateManifestStage env) s).2 := by
  have hawaiting : Awaiting s.context s.tick := ⟨rfl, h.readable⟩
  rw [runStage]
  cases hrun : (generateManifestStage env).run s.tick with
  | ok result s' => exact written_generateManifestStage.of_ok hawaiting hrun
  | error e s' =>
    have hraised := written_generateManifestStage.of_error hawaiting hrun
    exact Awaiting.written (treeInvariant_awaiting.readings s' _ hraised) rfl

/-- What one stage keeps. -/
theorem Recorded.stepStage {executed : List BuiltinStage} {s : BuildState}
    (h : Recorded env plan s) (hcoherent : Coherent executed s.context)
    (hkeep : plan.keepWorkspace = true) (stage : BuiltinStage) :
    Recorded env plan (stepStage env (stage.fallible env fallible) s) := by
  have hreturned : Returned stage s.context (runStage env (stage.fallible env fallible) s).1
      (runStage env (stage.fallible env fallible) s).2 := returned_runStage stage s
  by_cases hstage : stage = .generateManifest
  · subst hstage
    exact h.of_written (written_runStage h) hreturned.results hreturned.name hcoherent.artifacts
  · refine h.of_apart (apart_runStage hkeep hstage h.plan) hreturned.results ?_
    rw [hreturned.name]
    exact fun hname => hstage (name_injective hname)

/-- What a list of stages keeps. -/
theorem Recorded.runStages {executed : List BuiltinStage} {s : BuildState}
    (h : Recorded env plan s) (hcoherent : CoherentReady executed s.context)
    (hkeep : plan.keepWorkspace = true) (stages : List BuiltinStage) :
    Recorded env plan (runStages env (stages.map (BuiltinStage.fallible env fallible)) s) := by
  induction stages generalizing executed s with
  | nil => exact h
  | cons stage stages ih =>
    exact ih (h.stepStage hcoherent.toCoherent hkeep stage) (hcoherent.stepStage stage)

theorem Recorded.tick {s : BuildState} (h : Recorded env plan s) : Recorded env plan s.tick :=
  ⟨h.plan, h.readable, h.latest⟩

theorem recorded_of_settled {disk : Disk} {executed : List BuiltinStage} {s : BuildState}
    (h : Settled env fallible plan disk executed s) (hkeep : plan.keepWorkspace = true) :
    Recorded env plan s := by
  induction h with
  | fresh =>
    exact {
      plan := rfl
      readable := fun ws hws => absurd hws.symm (Option.some_ne_none ws)
      latest := fun before result after hsplit => absurd hsplit (by simp [BuildState.fresh]) }
  | @run executed s h stages hstages ih =>
    have hready := coherentReady_of_settled h
    rw [run_state, selected_fallible hstages]
    exact (ih.tick.runStages hready hkeep _).tick

/-- In every state that runs of the built-in stages come through, whatever fails, the last manifest
that was written successfully is on the disk. -/
theorem recorded_of_reachable {disk : Disk} {executed : List BuiltinStage} {s : BuildState}
    (h : Reachable env fallible plan disk executed s) (hkeep : plan.keepWorkspace = true) :
    Recorded env plan s := by
  cases h with
  | settled h => exact recorded_of_settled h hkeep
  | @within executed s h stages before after hselected =>
    have hready := coherentReady_of_settled h
    exact (recorded_of_settled h hkeep).tick.runStages hready hkeep before

/-! ### Loading the manifest -/

/-- The libraries read back what has been written of a manifest: its text is parsed to the value
with sorted keys, and has no carriage return, and what is read by the declarations of the models is
what validation returns. -/
structure ReadsBack (env : BuildEnv) (rt : ManifestRuntime) (manifest : BuildManifest) : Prop where
  loads : rt.loads (env.dumps manifest.toJson) = .ok manifest.toJson.sortKeys
  noReturn : '\r' ∉ (env.dumps manifest.toJson).toList
  validates : ∀ data m, BuildManifest.ofJson data = some m → rt.validate data = .ok m

/-- **The manifest of a build**: whatever the runs of the built-in stages on a context, and whatever
fails in them, the last result of the manifest stage names a file, if it is one of success and the
plan keeps the workspace. From this file the plan is loaded, with the results in front of that one
and the artifacts of these. -/
theorem loadManifest_of_reachable (rt : ManifestRuntime) {disk : Disk}
    {executed : List BuiltinStage} {s : BuildState}
    (h : Reachable env fallible plan disk executed s) (hkeep : plan.keepWorkspace = true)
    (hnormal : plan.Normal) {before after : List BuildStageResult} {result : BuildStageResult}
    (hsplit : s.context.stageResults = before ++ result :: after)
    (hname : result.stageName = BuiltinStage.generateManifest.name)
    (hsuccess : result.success = true)
    (hafter : ∀ later ∈ after, later.stageName ≠ BuiltinStage.generateManifest.name)
    (hrt : ReadsBack env rt (manifestAfter plan before)) :
    ∃ ws, result.message = "Manifest written to " ++ AbsPath.str (manifestPath ws) ∧
      s.disk.tree.stat (manifestPath ws) = some (manifestFile env (manifestAfter plan before)) ∧
      (s.disk.faults s.disk.tick = none → loadManifest rt (manifestPath ws) s.disk =
        .ok (manifestAfter plan before) { s.disk with tick := s.disk.tick + 1 }) := by
  have hrecorded := recorded_of_reachable h hkeep
  obtain ⟨ws, hmessage, hfile⟩ :=
    hrecorded.latest before result after hsplit hname hsuccess hafter
  rw [hrecorded.plan] at hfile
  refine ⟨ws, hmessage, hfile, fun hfault => ?_⟩
  exact loadManifest_of_isReadable ⟨hfile, hfault⟩ (readText_encodeUtf8 hrt.noReturn) hrt.loads
    (hrt.validates _ _ (BuildManifest.ofJson_toJson hnormal))

/-- A plan that keeps a workspace at `/w`. -/
def keptPlan : BuildPlan where
  configPath := ⟨.slash, ["c.yaml"]⟩
  workspaceRoot := some ⟨.slash, ["w"]⟩
  keepWorkspace := true

/-- The result of the first stage of that build. -/
def keptResult : BuildStageResult where
  stageName := "prepare-workspace"
  success := true
  exitCode := 0
  message := "Workspace created at /w"
  elapsedSeconds := some 0

/-- The text of its manifest, line by line. -/
def keptLines : List String := [
  "\x7b\n",
  "  \"artifacts\": [],\n",
  "  \"manifestVersion\": \"bcs-build-manifest/v1alpha1\",\n",
  "  \"plan\": \x7b\n",
  "    \"config_path\": \"/c.yaml\",\n",
  "    \"keepWorkspace\": true,\n",
  "    \"stages\": [],\n",
  "    \"verbose\": false,\n",
  "    \"workspaceRoot\": \"/w\"\n",
  "  \x7d,\n",
  "  \"stageResults\": [\n",
  "    \x7b\n",
  "      \"artifacts\": [],\n",
  "      \"elapsedSeconds\": 0.0,\n",
  "      \"exitCode\": 0,\n",
  "      \"message\": \"Workspace created at /w\",\n",
  "      \"stageName\": \"prepare-workspace\",\n",
  "      \"success\": true\n",
  "    \x7d\n",
  "  ]\n",
  "\x7d"]

/-- Surroundings that write that text of the manifest. -/
def keptEnv : BuildEnv := { BuildEnv.still with dumps := fun _ => String.join keptLines }

/-- Libraries that read that text. -/
def keptRuntime : ManifestRuntime where
  loads text :=
    if text = String.join keptLines then .ok (.obj [
      ("artifacts", .arr []),
      ("manifestVersion", .str "bcs-build-manifest/v1alpha1"),
      ("plan", .obj [("config_path", .str "/c.yaml"), ("keepWorkspace", .bool true),
        ("stages", .arr []), ("verbose", .bool false), ("workspaceRoot", .str "/w")]),
      ("stageResults", .arr [.obj [("artifacts", .arr []), ("elapsedSeconds", .float (.finite 0)),
        ("exitCode", .int 0), ("message", .str "Workspace created at /w"),
        ("stageName", .str "prepare-workspace"), ("success", .bool true)]])])
    else .error "Expecting value"
  validate data :=
    match BuildManifest.ofJson data with
    | some m => .ok m
    | none => .error "validation error for BuildManifest"

theorem loadManifest_of_reachable_kept :
    let stages : List BuiltinStage := [.prepareWorkspace, .generateManifest]
    let pipeline : BuildPipeline :=
      ⟨stages.map (BuiltinStage.fallible keptEnv false), by simp [stages]⟩
    let s := (pipeline.run keptEnv (.fresh keptPlan (.ofTree (.dir [])))).2
    ∃ ws d, loadManifest keptRuntime (manifestPath ws) s.disk =
      .ok (manifestAfter keptPlan [keptResult]) d := by
  intro stages pipeline s
  have hfresh : Settled keptEnv false keptPlan (.ofTree (.dir [])) []
      (.fresh keptPlan (.ofTree (.dir []))) := .fresh
  have hrun := Reachable.settled (hfresh.run stages pipeline.stages_ne_nil)
  have hnormal : keptPlan.Normal := by
    refine ⟨by simp [PurePath.Normal, keptPlan], fun p hp => ?_⟩
    obtain rfl := Option.some.inj hp
    simp [PurePath.Normal]
  have hreads : ReadsBack keptEnv keptRuntime (manifestAfter keptPlan [keptResult]) := {
    loads := by
      simp only [keptRuntime, keptEnv, if_true]
      refine congrArg Except.ok ?_
      rfl
    noReturn := by
      have hlines : ∀ line ∈ keptLines, '\r' ∉ line.toList := by decide +kernel
      rw [keptEnv, String.toList_join, List.mem_flatMap]
      rintro ⟨line, hline, hmem⟩
      exact hlines line hline hmem
    validates := fun data m h => by simp only [keptRuntime, h] }
  let written : BuildStageResult := {
    stageName := "generate-manifest"
    success := true
    exitCode := 0
    message := "Manifest written to /w/metadata/manifest.json"
    elapsedSeconds := some 0
    artifacts := [{ path := "metadata/manifest.json", artifactType := "manifest" }] }
  have hsplit : s.context.stageResults = [keptResult] ++ [written] := by decide +kernel
  obtain ⟨ws, -, -, hload⟩ := loadManifest_of_reachable keptRuntime hrun rfl hnormal hsplit rfl rfl
    (fun _ h => absurd h List.not_mem_nil) hreads
  exact ⟨ws, _, hload rfl⟩

end ClassroomSuite.Builder
