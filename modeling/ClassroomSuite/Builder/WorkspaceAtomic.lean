import ClassroomSuite.Builder.Stages
import ClassroomSuite.Library.Creation

/-!
# A workspace that is created in part

Creating a workspace creates the missing directories above it, its root and four directories in it,
and stops at the first of these creations that fails. Nothing is taken back then: the directories
that have been created stay. The tree is left as it was if the failure is that of the first
creation, or if there is none to be made. The next attempt is refused if the first directory in the
root is among those that stay, for the root is not empty then; a root that is absent or empty is
created after all.

Source: `cli/src/bcs/builder/workspace.py`, `cli/src/bcs/builder/execution.py`.

## Main definitions

* `BuildWorkspaceManager.Atomic`, `BuildWorkspaceManager.Interrupted`.
* `BuildWorkspaceManager.Entered`, `BuildWorkspaceManager.refusal`.

## Main results

* `BuildWorkspaceManager.atomic_iff`.
-/

namespace ClassroomSuite.Builder

open Library

/-- The state after the faults of the disk have been cleared. -/
def BuildState.cleared (s : BuildState) : BuildState :=
  { s with disk := { s.disk with faults := fun _ => none } }

namespace BuildWorkspaceManager

variable (env : BuildEnv) (manager : BuildWorkspaceManager)

/-- The workspace is created. -/
def Creates (s : BuildState) : Prop := ∃ ws s', manager.create env s = .ok ws s'

/-- If the workspace cannot be created the tree is as before, and so a retry without faults succeeds
if it would have then. -/
def Atomic (s : BuildState) : Prop :=
  ∀ message details s', manager.create env s = .error (.workspaceError message details) s' →
    s'.disk.tree = s.disk.tree ∧ (manager.Creates env s.cleared → manager.Creates env s'.cleared)

/-- A workspace may be created, of which the first missing directory is and a later one is not. -/
structure Interrupted (s : BuildState) : Prop where
  free : s.disk.tree.Free manager.root
  vacant : s.disk.tree.names manager.root = []
  first : s.disk.faults s.disk.tick = none
  later : ∃ i < s.disk.tree.missing manager.root + 4, s.disk.faults (s.disk.tick + i) ≠ none

/-- The missing directories above the root, the root if it is missing and the first directory in it
can be created. -/
def Entered (s : BuildState) : Prop := s.disk.Clear (s.disk.tree.missing manager.root + 1)

/-- A root that is not empty is refused. -/
def refusal : BuildException := .workspaceError
  ("Workspace root already exists and is not empty: " ++ AbsPath.str manager.root)
  [("path", AbsPath.str manager.root)]

/-- The directories of a workspace are created on the disk. -/
def makeDirectories (root : AbsPath) : DiskIO Unit := do
  Disk.mkdirParents (root ++ ["artifacts"])
  ["logs", "metadata", "cache"].forM fun c => Disk.mkdirParents (root ++ [c])

variable {env manager}

theorem createDirectories_eq (root : AbsPath) (s : BuildState) :
    createDirectories (.ofRoot root) s =
      match makeDirectories root s.disk with
      | .ok _ d => .ok (.ofRoot root) { s with disk := d }
      | .error e d => .error (.osError e) { s with disk := d } := by
  simp only [createDirectories, makeDirectories, ensureDirectory, BuildWorkspace.ofRoot, bind_apply,
    onDisk_apply, List.forM]
  cases Disk.mkdirParents (root ++ ["artifacts"]) s.disk with
  | error e d => rfl
  | ok _ d =>
    dsimp only
    cases Disk.mkdirParents (root ++ ["logs"]) d with
    | error e d => rfl
    | ok _ d =>
      dsimp only
      cases Disk.mkdirParents (root ++ ["metadata"]) d with
      | error e d => rfl
      | ok _ d =>
        dsimp only
        cases Disk.mkdirParents (root ++ ["cache"]) d <;> rfl

/-- Directories in an existing one are created by one operation each. -/
theorem takes_children {d : Disk} {root : AbsPath} {entries : List String} (hnodup : entries.Nodup)
    (hroot : d.tree.stat root = some .dir)
    (habsent : ∀ c ∈ entries, d.tree.stat (root ++ [c]) = none) :
    Disk.Takes (entries.forM fun c => Disk.mkdirParents (root ++ [c])) d entries.length := by
  induction entries generalizing d with
  | nil => exact ⟨fun i hi => absurd hi (Nat.not_lt_zero i), rfl, rfl⟩
  | cons c entries ih =>
    obtain ⟨hc, hentries⟩ := List.forall_mem_cons.mp habsent
    obtain ⟨hne, hnodup⟩ := List.nodup_cons.mp hnodup
    have hone : Disk.Takes (Disk.mkdirParents (root ++ [c])) d 1 := by
      rw [Disk.Takes, Disk.mkdirParents, Disk.mkdirBelow_append [c] hroot]
      exact Disk.takes_mkdirBelow hroot hc
    rw [List.length_cons, Nat.add_comm]
    refine hone.bind fun _ d' hmake => ih hnodup ?_ fun c' hc' => ?_
    · exact (Disk.keeps_mkdirParents _).of_ok hroot hmake
    · refine (Disk.absent_mkdirParents fun hprefix => ?_).of_ok (hentries c' hc') hmake
      obtain rfl : c' = c := by simpa using hprefix
      exact hne hc'

/-- Creating the first directory makes one operation for each missing directory above the root, one
for the root if it is missing, and one. -/
theorem takes_first {d : Disk} {root : AbsPath} (hfree : d.tree.Free root)
    (hvacant : d.tree.names root = []) :
    Disk.Takes (Disk.mkdirParents (root ++ ["artifacts"])) d (d.tree.missing root + 1) := by
  have habsent := Node.names_eq_nil_iff.mp hvacant "artifacts"
  rw [← Node.missing_concat habsent]
  exact Disk.takes_mkdirParents (hfree.concat habsent)

/-- Creating the directories of a workspace makes one operation for each missing directory above
it, one for its root if it is missing, and four. -/
theorem takes_makeDirectories {d : Disk} {root : AbsPath} (hfree : d.tree.Free root)
    (hvacant : d.tree.names root = []) :
    Disk.Takes (makeDirectories root) d (d.tree.missing root + 4) := by
  have habsent := Node.names_eq_nil_iff.mp hvacant
  refine (takes_first hfree hvacant).bind fun _ d' hmake =>
    takes_children (by decide) ?_ fun c hc => ?_
  · exact Node.stat_eq_dir_of_append (List.cons_ne_nil _ [])
      ((Disk.mkdirParents_spec (by simp)).of_ok trivial hmake)
  · refine (Disk.absent_mkdirParents fun hprefix => ?_).of_ok (habsent c) hmake
    obtain rfl : c = "artifacts" := by simpa using hprefix
    exact absurd hc (by decide)

/-- What exists stays, whatever becomes of the creations. -/
theorem keeps_makeDirectories (root q : AbsPath) (x : FileStat FileData) :
    Keeps (fun d : Disk => d.tree.stat q = some x) (makeDirectories root) :=
  (Disk.keeps_mkdirParents _).bind fun _ => Keeps.forM (fun _ => Disk.keeps_mkdirParents _) _

/-- If the first creation fails, or there is a file in the way, nothing is created. -/
theorem makeDirectories_unchanged {d : Disk} {root : AbsPath} (hvacant : d.tree.names root = [])
    (h : d.tree.Free root → d.faults d.tick ≠ none) :
    ∃ e d', makeDirectories root d = .error e d' ∧ d'.tree = d.tree := by
  have habsent := Node.names_eq_nil_iff.mp hvacant "artifacts"
  have hrun {e d'} (hmake : Disk.mkdirParents (root ++ ["artifacts"]) d = .error e d') :
      makeDirectories root d = .error e d' := by
    rw [makeDirectories, bind_apply, hmake]
  by_cases hfree : d.tree.Free root
  · obtain ⟨f, hf⟩ := Option.ne_none_iff_exists'.mp (h hfree)
    obtain ⟨e, hmake⟩ := Disk.mkdirParents_first_fault (hfree.concat habsent)
      (by rw [Node.missing_concat habsent]; omega) hf
    exact ⟨e, _, hrun hmake, rfl⟩
  · obtain ⟨e, hmake⟩ := Disk.mkdirParents_of_not_free (p := root ++ ["artifacts"]) (by simp)
      fun hchild => hfree fun q hq => hchild q (hq.trans (List.prefix_append _ _))
    exact ⟨e, d, hrun hmake, rfl⟩

/-- If the first creation does not fail, the tree is another one. -/
theorem makeDirectories_changed {d d' : Disk} {root : AbsPath} {e : OSError}
    (hfree : d.tree.Free root) (hvacant : d.tree.names root = [])
    (hfirst : d.faults d.tick = none) (hrun : makeDirectories root d = .error e d') :
    d'.tree ≠ d.tree := by
  have habsent := Node.names_eq_nil_iff.mp hvacant "artifacts"
  obtain ⟨q, hq, hnew⟩ := Disk.mkdirParents_creates (hfree.concat habsent)
    (by rw [Node.missing_concat habsent]; omega) hfirst
  have hstays : d'.tree.stat q = some .dir := by
    rw [finalState] at hnew
    rw [makeDirectories, bind_apply] at hrun
    cases hmake : Disk.mkdirParents (root ++ ["artifacts"]) d with
    | error e' d'' =>
      rw [hmake] at hrun hnew
      cases hrun
      exact hnew
    | ok _ d'' =>
      rw [hmake] at hrun hnew
      exact (Keeps.forM (fun c => Disk.keeps_mkdirParents (root ++ [c])) _).of_error hnew hrun
  intro htree
  rw [htree, hq] at hstays
  cases hstays

/-! ### Creating a workspace -/

theorem isOccupied_apply (manager : BuildWorkspaceManager) (s : BuildState) :
    manager.isOccupied s =
      match s.disk.tree.stat manager.root with
      | some (.file _) => .error (.osError (.at .enotdir manager.root)) s
      | _ => .ok (decide (s.disk.tree.names manager.root ≠ [])) s := by
  rw [isOccupied, bind_apply, get_apply]
  cases hstat : s.disk.tree.stat manager.root with
  | none =>
    have hnames : s.disk.tree.names manager.root = [] := by
      rw [Node.stat, Option.map_eq_none_iff] at hstat
      rw [Node.names, hstat]
    simp [hstat, hnames]
  | some x => cases x <;> simp [hstat]

/-- What is done with a root that is vacant, or is not. -/
def createAt (env : BuildEnv) (manager : BuildWorkspaceManager) (s : BuildState) :
    EStateM.Result BuildException BuildState BuildWorkspace :=
  if s.disk.tree.names manager.root = [] then
    match makeDirectories manager.root s.disk with
    | .ok _ d => .ok (.ofRoot manager.root) { s with disk := d }
    | .error e d => .error (manager.failure env "Failed to create workspace directory: " e)
        { s with disk := d }
  else .error manager.refusal s

/-- A regular file is an error of its own. -/
theorem create_cases (env : BuildEnv) (manager : BuildWorkspaceManager) (s : BuildState) :
    ¬ s.disk.tree.Free manager.root ∧
        manager.create env s = .error (.osError (.at .enotdir manager.root)) s ∨
      manager.create env s = createAt env manager s := by
  have hcreate : catchOSError (createDirectories (.ofRoot manager.root)) (fun e =>
        throw (manager.failure env "Failed to create workspace directory: " e)) s =
      match makeDirectories manager.root s.disk with
      | .ok _ d => .ok (.ofRoot manager.root) { s with disk := d }
      | .error e d => .error (manager.failure env "Failed to create workspace directory: " e)
          { s with disk := d } := by
    rw [catchOSError, tryCatch_apply, createDirectories_eq]
    cases makeDirectories manager.root s.disk <;> rfl
  rw [create, bind_apply, isOccupied_apply, createAt, ← hcreate]
  cases hstat : s.disk.tree.stat manager.root with
  | none =>
    refine Or.inr ?_
    by_cases hnames : s.disk.tree.names manager.root = [] <;> simp [hnames, refusal]
  | some x =>
    cases x with
    | file data => exact Or.inl ⟨fun hfree => hfree _ (List.prefix_refl _) data hstat, rfl⟩
    | dir =>
      refine Or.inr ?_
      by_cases hnames : s.disk.tree.names manager.root = [] <;> simp [hnames, refusal]

/-- A failed attempt has left the disk as it is, or creations as far as they came. -/
theorem create_eq_error {s s' : BuildState} {e : BuildException}
    (h : manager.create env s = .error e s') :
    s' = s ∨ s.disk.tree.names manager.root = [] ∧
      ∃ e' d, makeDirectories manager.root s.disk = .error e' d ∧ s' = { s with disk := d } := by
  rcases create_cases env manager s with ⟨-, hcreate⟩ | hcreate
  · rw [hcreate] at h
    cases h
    exact Or.inl rfl
  rw [hcreate, createAt] at h
  by_cases hvacant : s.disk.tree.names manager.root = []
  · rw [if_pos hvacant] at h
    cases hmake : makeDirectories manager.root s.disk with
    | ok u d =>
      rw [hmake] at h
      cases h
    | error e' d =>
      rw [hmake] at h
      cases h
      exact Or.inr ⟨hvacant, e', d, rfl, rfl⟩
  · rw [if_neg hvacant] at h
    cases h
    exact Or.inl rfl

/-- In a vacant place the directories are created. -/
theorem create_of_vacant {s : BuildState} (hfree : s.disk.tree.Free manager.root)
    (hvacant : s.disk.tree.names manager.root = []) :
    manager.create env s = match makeDirectories manager.root s.disk with
      | .ok _ d => .ok (.ofRoot manager.root) { s with disk := d }
      | .error e d => .error (manager.failure env "Failed to create workspace directory: " e)
          { s with disk := d } := by
  obtain ⟨hfile, -⟩ | hcreate := create_cases env manager s
  · exact absurd hfree hfile
  · rw [hcreate, createAt, if_pos hvacant]

/-- A workspace is created in a vacant place, if none of the creations fails. -/
theorem creates_of_clear {s : BuildState} (hfree : s.disk.tree.Free manager.root)
    (hvacant : s.disk.tree.names manager.root = [])
    (hclear : s.disk.Clear (s.disk.tree.missing manager.root + 4)) : manager.Creates env s := by
  have htakes := takes_makeDirectories hfree hvacant
  rw [Disk.Takes] at htakes
  rw [Creates, create_of_vacant hfree hvacant]
  cases hmake : makeDirectories manager.root s.disk with
  | ok u d => exact ⟨_, _, rfl⟩
  | error e d =>
    rw [hmake] at htakes
    exact absurd hclear htakes

/-- A workspace is created in a vacant place only. -/
theorem vacant_of_creates {s : BuildState} (h : manager.Creates env s) :
    s.disk.tree.Free manager.root ∧ s.disk.tree.names manager.root = [] := by
  obtain ⟨ws, s', h⟩ := h
  rcases create_cases env manager s with ⟨-, hcreate⟩ | hcreate
  · rw [hcreate] at h
    cases h
  rw [hcreate, createAt] at h
  by_cases hvacant : s.disk.tree.names manager.root = []
  · rw [if_pos hvacant] at h
    refine ⟨by_contra fun hfree => ?_, hvacant⟩
    obtain ⟨e, d, hmake, -⟩ := makeDirectories_unchanged hvacant fun hfree' => absurd hfree' hfree
    rw [hmake] at h
    cases h
  · rw [if_neg hvacant] at h
    cases h

/-- A root in which there is something is refused. -/
theorem create_of_occupied {s : BuildState} (hdir : s.disk.tree.stat manager.root = some .dir)
    (hnames : s.disk.tree.names manager.root ≠ []) :
    manager.create env s = .error manager.refusal s := by
  rcases create_cases env manager s with ⟨hfree, hcreate⟩ | hcreate
  · rw [create, bind_apply, isOccupied_apply, hdir]
    simp only [hnames, ne_eq, not_false_eq_true, decide_true, if_true]
    rfl
  · rw [hcreate, createAt, if_neg hnames]

/-- After a failed attempt in a vacant place the next one is refused if the first directory in the
root has been created, and succeeds if it has not. -/
theorem retry_of_failed {s s' : BuildState} {e : BuildException}
    (hfree : s.disk.tree.Free manager.root)
    (hvacant : s.disk.tree.names manager.root = []) (h : manager.create env s = .error e s') :
    (manager.Entered s → manager.create env s'.cleared = .error manager.refusal s'.cleared) ∧
      (¬ manager.Entered s → manager.Creates env s'.cleared) := by
  have hfirst := takes_first hfree hvacant
  rw [Disk.Takes] at hfirst
  rw [create_of_vacant hfree hvacant] at h
  cases hmake : Disk.mkdirParents (manager.root ++ ["artifacts"]) s.disk with
  | error e' d =>
    rw [hmake] at hfirst
    have hrun : makeDirectories manager.root s.disk = .error e' d := by
      rw [makeDirectories, bind_apply, hmake]
    rw [hrun] at h
    cases h
    obtain ⟨hfree', hvacant'⟩ := Disk.vacant_of_mkdirParents_error hfree hvacant hmake
    exact ⟨fun hentered => absurd hentered hfirst, fun _ =>
      creates_of_clear hfree' hvacant' fun _ _ => rfl⟩
  | ok u d =>
    rw [hmake] at hfirst
    refine ⟨fun _ => ?_, fun hentered => absurd hfirst.1 hentered⟩
    have hnew := (Disk.mkdirParents_spec (by simp)).of_ok trivial hmake
    have hrun : makeDirectories manager.root s.disk =
        ["logs", "metadata", "cache"].forM
          (fun c => Disk.mkdirParents (manager.root ++ [c])) d := by
      rw [makeDirectories, bind_apply, hmake]
    rw [hrun] at h
    cases hrest : ["logs", "metadata", "cache"].forM
        (fun c => Disk.mkdirParents (manager.root ++ [c])) d with
    | ok u' d' =>
      rw [hrest] at h
      cases h
    | error e' d' =>
      rw [hrest] at h
      cases h
      have hstays : d'.tree.stat (manager.root ++ ["artifacts"]) = some .dir :=
        (Keeps.forM (fun c => Disk.keeps_mkdirParents (manager.root ++ [c])) _).of_error hnew hrest
      exact create_of_occupied (Node.stat_eq_dir_of_append (List.cons_ne_nil _ []) hstays)
        (Node.names_ne_nil_of_append (List.cons_ne_nil _ []) hstays)

/-- A failed attempt leaves what exists as it is. It leaves the tree as it is, and so a retry
succeeds that would have, if and only if it was not interrupted after the first creation. Such a
retry succeeds if and only if the first directory in the root was not created, and is refused for a
root that is not empty if and only if it was. -/
theorem atomic_iff (env : BuildEnv) (manager : BuildWorkspaceManager) (s : BuildState) :
    (∀ e s', manager.create env s = .error e s' →
        ∀ q x, s.disk.tree.stat q = some x → s'.disk.tree.stat q = some x) ∧
      (manager.Atomic env s ↔ ¬ manager.Interrupted s) ∧
      ∀ message details s', manager.create env s = .error (.workspaceError message details) s' →
        manager.Creates env s.cleared →
          (manager.Creates env s'.cleared ↔ ¬ manager.Entered s) ∧
            (manager.create env s'.cleared = .error manager.refusal s'.cleared ↔
              manager.Entered s) := by
  refine ⟨fun e s' h q x hx => ?_, ⟨fun hatomic hint => ?_, fun hint message details s' h => ?_⟩,
    fun message details s' h hretry => ?_⟩
  · obtain rfl | ⟨-, e', d, hmake, rfl⟩ := create_eq_error h
    · exact hx
    · exact (keeps_makeDirectories _ q x).of_error hx hmake
  · obtain ⟨hfree, hvacant, hfirst, i, hi, hfault⟩ := hint
    have htakes := takes_makeDirectories hfree hvacant
    rw [Disk.Takes] at htakes
    cases hmake : makeDirectories manager.root s.disk with
    | ok u d =>
      rw [hmake] at htakes
      exact hfault (htakes.1 i hi)
    | error e d =>
      have hcreate : manager.create env s = _ := create_of_vacant hfree hvacant
      rw [hmake] at hcreate
      exact makeDirectories_changed hfree hvacant hfirst hmake (hatomic _ _ _ hcreate).1
  · have htree : s'.disk.tree = s.disk.tree := by
      obtain rfl | ⟨hvacant, e, d, hmake, rfl⟩ := create_eq_error h
      · rfl
      by_cases hfirst : s.disk.tree.Free manager.root → s.disk.faults s.disk.tick ≠ none
      · obtain ⟨e', d', hmake', htree⟩ := makeDirectories_unchanged hvacant hfirst
        rw [hmake] at hmake'
        cases hmake'
        exact htree
      · simp only [not_forall, not_not] at hfirst
        obtain ⟨hfree, hfirst⟩ := hfirst
        have htakes := takes_makeDirectories hfree hvacant
        rw [Disk.Takes, hmake] at htakes
        simp only [Disk.Clear, not_forall] at htakes
        obtain ⟨i, hi, hfault⟩ := htakes
        exact absurd ⟨hfree, hvacant, hfirst, i, hi, hfault⟩ hint
    refine ⟨htree, fun hretry => ?_⟩
    obtain ⟨hfree, hvacant⟩ := vacant_of_creates hretry
    exact creates_of_clear (htree ▸ hfree) (htree ▸ hvacant) fun _ _ => rfl
  · obtain ⟨hfree, hvacant⟩ := vacant_of_creates hretry
    obtain ⟨hrefused, hcreates⟩ := retry_of_failed (s := s) hfree hvacant h
    have hexclusive : manager.create env s'.cleared = .error manager.refusal s'.cleared →
        ¬ manager.Creates env s'.cleared := by
      rintro hcreate ⟨ws, s'', hok⟩
      rw [hcreate] at hok
      cases hok
    exact ⟨⟨fun hok hentered => hexclusive (hrefused hentered) hok, hcreates⟩,
      fun hcreate => by_contra fun hentered => hexclusive hcreate (hcreates hentered), hrefused⟩

/-- A disk with an empty directory, on which the third operation fails. -/
def thirdFails : BuildState :=
  .fresh { configPath := .ofString "c.yaml" } {
    tree := .dir [("work", .dir [])]
    faults := fun i => if i = 2 then some ⟨.eio, none⟩ else none }

/-- The root and the first directory in it are created and the second is not. A retry is refused
then, and it would have succeeded before. -/
theorem not_atomic_thirdFails : ¬ (⟨["work", "build"]⟩ : BuildWorkspaceManager).Atomic .still
    thirdFails := by
  intro h
  obtain ⟨-, hretry⟩ := h _ _ _ rfl
  obtain ⟨ws, s', hcreate⟩ := hretry ⟨_, _, rfl⟩
  cases hcreate

end BuildWorkspaceManager

end ClassroomSuite.Builder
