import ClassroomSuite.Library.Disk

/-!
# The creations that a path takes

Creating a directory with its parents creates those that are missing, one after the other, and each
of these creations may fail. `Takes m d n` says that `m` makes `n` operations on the disk `d`, and
that it returns exactly if none of them fails. The lemmas count the creations that `mkdirParents`
makes and say what is left on the disk when one of them fails.

## Main definitions

* `Disk.Clear`, `Disk.Takes`.
* `Node.missing`: how many directories of a path are missing.

## Main results

* `Disk.Takes.bind`.
* `Disk.takes_mkdirParents`: the creations of a path on which there is no file.
* `Disk.absent_mkdirParents`: what is not on the path does not appear.
* `Disk.vacant_of_mkdirParents_error`: what a failed creation in an empty place leaves.
-/

namespace ClassroomSuite.Library

variable {α : Type}

/-- How many of the directories of a path are missing. -/
def Node.missing (t : Node α) (p : AbsPath) : ℕ :=
  p.inits.countP fun q => (t.stat q).isNone

/-- No regular file is on the path. -/
def Node.Free (t : Node α) (p : AbsPath) : Prop :=
  ∀ q, q <+: p → ∀ data, t.stat q ≠ some (.file data)

/-- Nothing is below an absent path. -/
theorem Node.stat_append_of_none {t : Node α} {p : AbsPath} (h : t.stat p = none) (r : AbsPath) :
    t.stat (p ++ r) = none := by
  rw [stat, Option.map_eq_none_iff] at h
  rw [stat_append, h, Option.bind_none]

/-- A path on which there is no file has its existing part, and a part whose first directory is
missing. -/
theorem Node.Free.exists_split {t : Node α} {p : AbsPath} (h : t.Free p) :
    ∃ found rest, p = found ++ rest ∧ t.stat found = some .dir ∧
      ∀ c cs, rest = c :: cs → t.stat (found ++ [c]) = none := by
  have hbelow (base cs : AbsPath) (hp : p = base ++ cs) (hbase : t.stat base = some .dir) :
      ∃ found rest, p = found ++ rest ∧ t.stat found = some .dir ∧
        ∀ c cs, rest = c :: cs → t.stat (found ++ [c]) = none := by
    induction cs generalizing base with
    | nil => exact ⟨base, [], hp, hbase, fun _ _ hnil => (List.cons_ne_nil _ _ hnil.symm).elim⟩
    | cons c cs ih =>
      rw [List.append_cons] at hp
      cases hc : t.stat (base ++ [c]) with
      | none =>
        refine ⟨base, c :: cs, by rw [hp, ← List.append_cons], hbase, fun c' cs' heq => ?_⟩
        rwa [← (List.cons.inj heq).1]
      | some x =>
        cases x with
        | file data => exact absurd hc (h _ (hp ▸ List.prefix_append _ _) data)
        | dir => exact ih _ hp hc
  refine hbelow [] p rfl ?_
  have hroot := h [] List.nil_prefix
  rw [stat_nil] at hroot ⊢
  cases t with
  | file data => exact absurd rfl (hroot data)
  | dir es => rfl

/-- The missing directories of a path are those below its existing part. -/
theorem Node.missing_append {t : Node α} {found rest : AbsPath} (hfound : t.stat found = some .dir)
    (hrest : ∀ c cs, rest = c :: cs → t.stat (found ++ [c]) = none) :
    t.missing (found ++ rest) = rest.length := by
  have habove : found.inits.countP (fun q => (t.stat q).isNone) = 0 := by
    refine List.countP_eq_zero.mpr fun q hq => ?_
    obtain ⟨r, rfl⟩ := (List.mem_inits _ _).mp hq
    by_cases hr : r = []
    · rw [hr, List.append_nil] at hfound
      simp [hfound]
    · simp [stat_eq_dir_of_append hr hfound]
  rw [missing, List.inits_append, List.countP_append, habove, Nat.zero_add]
  cases rest with
  | nil => rfl
  | cons c cs =>
    rw [List.inits_cons, List.tail_cons, List.map_map, List.countP_map,
      List.countP_eq_length.mpr, List.length_inits, List.length_cons]
    intro q _
    have habsent := stat_append_of_none (hrest c cs rfl) q
    rw [← List.append_cons] at habsent
    simp [habsent]

/-- A missing directory adds one to those of its parent. -/
theorem Node.missing_concat {t : Node α} {p : AbsPath} {c : String} (h : t.stat (p ++ [c]) = none) :
    t.missing (p ++ [c]) = t.missing p + 1 := by
  simp [missing, List.inits_append, h]

/-- There is no file on the path to a missing entry if there is none on that to its parent. -/
theorem Node.Free.concat {t : Node α} {p : AbsPath} {c : String} (hp : t.Free p)
    (h : t.stat (p ++ [c]) = none) : t.Free (p ++ [c]) := by
  intro q hq data
  rcases List.prefix_concat_iff.mp hq with rfl | hq
  · simp [h]
  · exact hp q hq data

namespace Disk

/-- None of the next `n` operations fails. -/
def Clear (d : Disk) (n : ℕ) : Prop := ∀ i < n, d.faults (d.tick + i) = none

/-- The computation makes `n` operations, and returns exactly if none of them fails. -/
def Takes (m : DiskIO α) (d : Disk) (n : ℕ) : Prop :=
  match m d with
  | .ok _ d' => d.Clear n ∧ d'.tick = d.tick + n ∧ d'.faults = d.faults
  | .error _ _ => ¬ d.Clear n

variable {m : DiskIO α} {d : Disk} {n : ℕ}

theorem clear_add_iff {k : ℕ} : d.Clear (n + k) ↔
    d.Clear n ∧ ∀ i < k, d.faults (d.tick + n + i) = none := by
  constructor
  · refine fun h => ⟨fun i hi => h i (by omega), fun i hi => ?_⟩
    rw [Nat.add_assoc]
    exact h (n + i) (by omega)
  · rintro ⟨hfirst, hrest⟩ i hi
    by_cases hin : i < n
    · exact hfirst i hin
    · have hi' := hrest (i - n) (by omega)
      rwa [Nat.add_assoc, Nat.add_sub_cancel' (Nat.le_of_not_lt hin)] at hi'

/-- A sequence makes the operations of its parts. -/
theorem Takes.bind {β : Type} {k : α → DiskIO β} {n' : ℕ} (hm : Takes m d n)
    (hk : ∀ a d', m d = .ok a d' → Takes (k a) d' n') : Takes (m >>= k) d (n + n') := by
  unfold Takes at hm ⊢
  rw [bind_apply]
  cases hrun : m d with
  | error e d' =>
    rw [hrun] at hm
    exact fun hclear => hm (clear_add_iff.mp hclear).1
  | ok a d' =>
    rw [hrun] at hm
    obtain ⟨hclear, htick, hfaults⟩ := hm
    have hrest : d.Clear (n + n') ↔ d'.Clear n' := by
      rw [clear_add_iff, and_iff_right hclear, Clear, htick, hfaults]
    have hnext := hk a d' hrun
    unfold Takes at hnext
    dsimp only
    cases hrun' : k a d' with
    | error e d'' =>
      rw [hrun'] at hnext
      exact fun hall => hnext (hrest.mp hall)
    | ok b d'' =>
      rw [hrun'] at hnext
      refine ⟨hrest.mpr hnext.1, ?_, hnext.2.2.trans hfaults⟩
      rw [hnext.2.1, htick, Nat.add_assoc]

/-- Creating one directory, where there is nothing, is one operation. -/
theorem takes_makeDirectory {base : AbsPath} {c : String} (hbase : d.tree.stat base = some .dir)
    (habsent : d.tree.stat (base ++ [c]) = none) : Takes (makeDirectory (base ++ [c])) d 1 := by
  simp only [Takes, makeDirectory, bind_apply, get_apply, habsent, List.dropLast_concat, hbase]
  cases hf : d.faults d.tick <;> simp [Clear, bind_apply, hf]

/-- What is done where one directory has been created. -/
theorem makeDirectory_eq_ok {p : AbsPath} {d' : Disk} (h : makeDirectory p d = .ok () d') :
    d.tree.stat p = none ∧ d.tree.stat p.dropLast = some .dir ∧
      d'.tree = d.tree.put p (some (.dir [])) := by
  simp only [makeDirectory, bind_apply, get_apply] at h
  cases hp : d.tree.stat p with
  | some x => simp [hp] at h
  | none =>
    cases hparent : d.tree.stat p.dropLast with
    | none => simp [hp, hparent] at h
    | some x =>
      cases x with
      | file data => simp [hp, hparent] at h
      | dir =>
        cases hf : d.faults d.tick with
        | some f => simp [hp, hparent, bind_apply, hf] at h
        | none =>
          simp only [hp, hparent, Option.isSome_none, Bool.false_eq_true, if_false, bind_apply,
            nextFault_apply, hf, modify_apply, EStateM.Result.ok.injEq, true_and] at h
          exact ⟨rfl, rfl, by rw [← h]⟩

/-- A new directory is empty. -/
theorem stat_of_makeDirectory {p r : AbsPath} {d' : Disk} (hr : r ≠ [])
    (h : makeDirectory p d = .ok () d') : d'.tree.stat (p ++ r) = none := by
  obtain ⟨hp, hparent, htree⟩ := makeDirectory_eq_ok h
  have hne : p ≠ [] := by
    rintro rfl
    simp at hp
  obtain ⟨c, cs, rfl⟩ := List.exists_cons_of_ne_nil hr
  rw [htree, Node.stat_put_append _ hne hparent]
  rfl

/-- Where there is nothing, a directory is created before what is below it. -/
theorem mkdirBelow_of_absent {base : AbsPath} {c : String} (cs : List String)
    (habsent : d.tree.stat (base ++ [c]) = none) :
    mkdirBelow base (c :: cs) d =
      (makeDirectory (base ++ [c]) >>= fun _ => mkdirBelow (base ++ [c]) cs) d := by
  rw [mkdirBelow, bind_apply, get_apply]
  simp only [habsent]

/-- Creating a path of which nothing exists below the base. The induction is on the path: what is
below a new directory does not exist either. -/
theorem takes_mkdirBelow {base : AbsPath} {c : String} {cs : List String}
    (hbase : d.tree.stat base = some .dir) (habsent : d.tree.stat (base ++ [c]) = none) :
    Takes (mkdirBelow base (c :: cs)) d (cs.length + 1) := by
  rw [Takes, mkdirBelow_of_absent cs habsent, ← Takes, Nat.add_comm]
  refine (takes_makeDirectory hbase habsent).bind fun _ d' hmake => ?_
  have hnew := (makeDirectory_spec (base ++ [c])).of_ok trivial hmake
  induction cs generalizing base c d d' with
  | nil => exact ⟨fun i hi => absurd hi (Nat.not_lt_zero i), rfl, rfl⟩
  | cons c' cs ih =>
    have habsent' := stat_of_makeDirectory (List.cons_ne_nil c' []) hmake
    rw [Takes, mkdirBelow_of_absent cs habsent', ← Takes, List.length_cons, Nat.add_comm]
    refine (takes_makeDirectory hnew habsent').bind fun _ d'' hmake' => ?_
    exact ih hnew habsent' d'' hmake' ((makeDirectory_spec _).of_ok trivial hmake')

/-- The existing part of a path is passed over. -/
theorem mkdirBelow_append {base found : AbsPath} (rest : List String)
    (h : d.tree.stat (base ++ found) = some .dir) :
    mkdirBelow base (found ++ rest) d = mkdirBelow (base ++ found) rest d := by
  induction found generalizing base with
  | nil => rw [List.append_nil, List.nil_append]
  | cons c found ih =>
    rw [List.append_cons] at h ⊢
    have hc : d.tree.stat (base ++ [c]) = some .dir := by
      by_cases hnil : found = []
      · simpa [hnil] using h
      · exact Node.stat_eq_dir_of_append hnil h
    rw [List.cons_append, mkdirBelow, bind_apply, get_apply]
    simp only [hc]
    exact ih h

/-- Creating a path on which there is no file makes one operation for each directory that is
missing. -/
theorem takes_mkdirParents {p : AbsPath} (h : d.tree.Free p) :
    Takes (mkdirParents p) d (d.tree.missing p) := by
  obtain ⟨found, rest, rfl, hfound, hrest⟩ := h.exists_split
  rw [Node.missing_append hfound hrest, Takes, mkdirParents, mkdirBelow_append rest hfound, ← Takes]
  cases rest with
  | nil => exact ⟨fun i hi => absurd hi (Nat.not_lt_zero i), rfl, rfl⟩
  | cons c cs => exact takes_mkdirBelow hfound (hrest c cs rfl)

/-! ### What is left -/

/-- A path has a missing directory, and the first of them is the one that is created first. -/
theorem exists_first_missing {p : AbsPath} (h : d.tree.Free p) (hmissing : 0 < d.tree.missing p) :
    ∃ found c cs, d.tree.stat found = some .dir ∧ d.tree.stat (found ++ [c]) = none ∧
      mkdirParents p d =
        (makeDirectory (found ++ [c]) >>= fun _ => mkdirBelow (found ++ [c]) cs) d := by
  obtain ⟨found, rest, rfl, hfound, hrest⟩ := h.exists_split
  rw [Node.missing_append hfound hrest] at hmissing
  obtain ⟨c, cs, rfl⟩ := List.exists_cons_of_length_pos hmissing
  refine ⟨found, c, cs, hfound, hrest c cs rfl, ?_⟩
  rw [mkdirParents, mkdirBelow_append _ hfound]
  exact mkdirBelow_of_absent cs (hrest c cs rfl)

/-- If the first creation fails, nothing is created. -/
theorem mkdirParents_first_fault {p : AbsPath} (h : d.tree.Free p)
    (hmissing : 0 < d.tree.missing p) {f : Fault} (hf : d.faults d.tick = some f) :
    ∃ e, mkdirParents p d = .error e { d with tick := d.tick + 1 } := by
  obtain ⟨found, c, cs, hfound, habsent, hrun⟩ := exists_first_missing h hmissing
  refine ⟨.at f.errno (found ++ [c]), ?_⟩
  simp only [hrun, makeDirectory, bind_apply, get_apply, habsent, Option.isSome_none,
    Bool.false_eq_true, if_false, List.dropLast_concat, hfound, nextFault_apply, hf, throw_apply]

/-- If the first creation does not fail, there is a new directory, whatever becomes of the
others. -/
theorem mkdirParents_creates {p : AbsPath} (h : d.tree.Free p) (hmissing : 0 < d.tree.missing p)
    (hf : d.faults d.tick = none) :
    ∃ q, d.tree.stat q = none ∧ (finalState (mkdirParents p) d).tree.stat q = some .dir := by
  obtain ⟨found, c, cs, hfound, habsent, hrun⟩ := exists_first_missing h hmissing
  refine ⟨found ++ [c], habsent, ?_⟩
  obtain ⟨d', hmake⟩ : ∃ d', makeDirectory (found ++ [c]) d = .ok () d' := by
    simp [makeDirectory, bind_apply, habsent, hfound, hf]
  rw [finalState, hrun, ← finalState, finalState_bind, hmake]
  exact (keeps_mkdirBelow _ cs).finalState ((makeDirectory_spec _).of_ok trivial hmake)

theorem absent_makeDirectory {p q : AbsPath} (hpq : ¬ q <+: p) :
    Keeps (fun d : Disk => d.tree.stat q = none) (makeDirectory p) := by
  intro d hd
  simp only [makeDirectory, bind_apply, get_apply]
  cases hp : d.tree.stat p with
  | some y => simpa [bind_apply] using hd
  | none =>
    cases hparent : d.tree.stat p.dropLast with
    | none => simpa [bind_apply] using hd
    | some y =>
      cases y with
      | file a => simpa [bind_apply] using hd
      | dir =>
        have hput : (d.tree.put p (some (.dir []))).stat q = none := by
          by_cases hprefix : p <+: q
          · obtain ⟨r, rfl⟩ := hprefix
            obtain ⟨c, r, rfl⟩ := List.exists_cons_of_ne_nil fun hr : r = [] => hpq (by simp [hr])
            have hne : p ≠ [] := by
              rintro rfl
              simp at hp
            rw [Node.stat_put_append _ hne hparent]
            rfl
          · rw [Node.stat_put_of_not_prefix _ _ _ _ hprefix]
            exact hd
        cases hf : d.faults d.tick <;> simpa [bind_apply, hf]

/-- A directory that cannot be created leaves the tree as it is. -/
theorem tree_of_makeDirectory_error {p : AbsPath} {e : OSError} {d' : Disk}
    (h : makeDirectory p d = .error e d') : d'.tree = d.tree := by
  simp only [makeDirectory, bind_apply, get_apply] at h
  cases hp : d.tree.stat p with
  | some x =>
    simp only [hp, Option.isSome_some, if_true, throw_apply] at h
    cases h
    rfl
  | none =>
    cases hparent : d.tree.stat p.dropLast with
    | none =>
      simp only [hp, hparent, Option.isSome_none, Bool.false_eq_true, if_false, throw_apply] at h
      cases h
      rfl
    | some x =>
      cases x with
      | file data =>
        simp only [hp, hparent, Option.isSome_none, Bool.false_eq_true, if_false, throw_apply] at h
        cases h
        rfl
      | dir =>
        cases hf : d.faults d.tick with
        | some f =>
          simp only [hp, hparent, Option.isSome_none, Bool.false_eq_true, if_false, bind_apply,
            nextFault_apply, hf, throw_apply] at h
          cases h
          rfl
        | none => simp [hp, hparent, bind_apply, hf] at h

/-- If a path cannot be created, what is absent at its end stays absent. -/
theorem absent_of_mkdirBelow_error {base : AbsPath} {cs : List String} {e : OSError} {d' : Disk}
    (habsent : d.tree.stat (base ++ cs) = none) (h : mkdirBelow base cs d = .error e d') :
    d'.tree.stat (base ++ cs) = none := by
  induction cs generalizing base d with
  | nil => cases h
  | cons c cs ih =>
    rw [List.append_cons] at habsent ⊢
    cases hc : d.tree.stat (base ++ [c]) with
    | some x =>
      rw [mkdirBelow, bind_apply, get_apply] at h
      cases x with
      | file data =>
        simp only [hc, throw_apply] at h
        cases h
        exact habsent
      | dir =>
        simp only [hc] at h
        exact ih habsent h
    | none =>
      rw [mkdirBelow_of_absent cs hc, bind_apply] at h
      cases hmake : makeDirectory (base ++ [c]) d with
      | error e' d'' =>
        rw [hmake] at h
        cases h
        rwa [tree_of_makeDirectory_error hmake]
      | ok u d'' =>
        rw [hmake] at h
        by_cases hcs : cs = []
        · rw [hcs] at h
          cases h
        · exact ih (stat_of_makeDirectory hcs hmake) h

/-- What is not on the path does not appear. -/
theorem absent_mkdirParents {p q : AbsPath} (hpq : ¬ q <+: p) :
    Keeps (fun d : Disk => d.tree.stat q = none) (mkdirParents p) := by
  have hbelow (base : AbsPath) (cs : List String) (hq : ¬ q <+: base ++ cs) :
      Keeps (fun d : Disk => d.tree.stat q = none) (mkdirBelow base cs) := by
    induction cs generalizing base with
    | nil => exact Keeps.pure _
    | cons c cs ih =>
      rw [List.append_cons] at hq
      refine Keeps.get.bind fun d => ?_
      split
      · exact ih _ hq
      · exact Keeps.throw _
      · exact (absent_makeDirectory fun h => hq (h.trans (List.prefix_append _ _))).bind fun _ =>
          ih _ hq
  exact hbelow [] p hpq

/-- If the first directory in an absent or empty one cannot be created, that one is absent or empty
afterwards, and there is no file on its path if there was none. -/
theorem vacant_of_mkdirParents_error {p : AbsPath} {c : String} {e : OSError} {d' : Disk}
    (hfree : d.tree.Free p) (hvacant : d.tree.names p = [])
    (h : mkdirParents (p ++ [c]) d = .error e d') : d'.tree.Free p ∧ d'.tree.names p = [] := by
  refine ⟨fun q hq data => (no_file_mkdirBelow [] _).of_error (hfree q hq data) h, ?_⟩
  rw [Node.names_eq_nil_iff] at hvacant ⊢
  intro c'
  by_cases hc : c' = c
  · subst hc
    have hbelow : d'.tree.stat ([] ++ (p ++ [c'])) = none :=
      absent_of_mkdirBelow_error (hvacant c') h
    exact hbelow
  · refine (absent_mkdirParents fun hprefix => ?_).of_error (hvacant c') h
    exact hc (by simpa using hprefix)

/-- Nothing is created on a path on which there is a file. -/
theorem mkdirParents_of_not_free {p : AbsPath} (hp : p ≠ []) (h : ¬ d.tree.Free p) :
    ∃ e, mkdirParents p d = .error e d := by
  have hbelow (base cs r r' : AbsPath) (data : FileData) (hcs : cs = r ++ r') (hr : r ≠ [])
      (hfile : d.tree.stat (base ++ r) = some (.file data)) :
      ∃ e, mkdirBelow base cs d = .error e d := by
    induction cs generalizing base r with
    | nil => exact absurd (List.append_eq_nil_iff.mp hcs.symm).1 hr
    | cons c cs ih =>
      obtain ⟨c', r, rfl⟩ := List.exists_cons_of_ne_nil hr
      obtain ⟨rfl, hrest⟩ := List.cons.inj hcs
      rw [List.append_cons] at hfile
      rw [mkdirBelow, bind_apply, get_apply]
      cases hc : d.tree.stat (base ++ [c]) with
      | none => rw [Node.stat_append_of_none hc] at hfile; cases hfile
      | some x =>
        cases x with
        | file data' => exact ⟨_, by simp only [hc]; rfl⟩
        | dir =>
          have hr' : r ≠ [] := by
            rintro rfl
            rw [List.append_nil, hc] at hfile
            cases hfile
          obtain ⟨e, he⟩ := ih _ r hrest hr' hfile
          exact ⟨e, by simp only [hc]; exact he⟩
  simp only [Node.Free, not_forall, not_not] at h
  obtain ⟨q, ⟨r, hqr⟩, data, hfile⟩ := h
  by_cases hq : q = []
  · rw [hq] at hfile
    obtain ⟨c, cs, rfl⟩ := List.exists_cons_of_ne_nil hp
    have habsent : d.tree.stat ([] ++ [c]) = none := by
      rw [Option.eq_none_iff_forall_ne_some]
      intro x hx
      rw [Node.stat_eq_dir_of_append (List.cons_ne_nil c []) hx] at hfile
      cases hfile
    refine ⟨.at .enotdir ([] ++ [c]), ?_⟩
    rw [mkdirParents, mkdirBelow_of_absent cs habsent, bind_apply, makeDirectory, bind_apply,
      get_apply]
    simp only [habsent, List.dropLast_concat, hfile]
    rfl
  · exact hbelow [] p q r data hqr.symm hq hfile

end Disk

end ClassroomSuite.Library
