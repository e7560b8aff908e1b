import ClassroomSuite.Library.Disk
import ClassroomSuite.Library.PurePath
import ClassroomSuite.Library.Relational

/-!
# Regions of a file tree

A region is a part of a file tree that a program may look at: whole subtrees, and what is on the way
to them and to single paths. Where two trees agree on a region, an operation on a path of the region
finds the same in both, and the trees agree on the region afterwards (`Region.Agree.put`). So a
program that keeps to a region cannot tell two disks apart that agree on it, provided the same
operations fail on both.

## Main definitions

* `Region`, `Region.Covers`, `Region.Agree`.
* `PurePath.trail`: what is looked at on the way along a written path.
* `Disk.Agree`.

## Main results

* `Region.Agree.put`.
* `PurePath.lookup_of_agree`.
* `Disk.alike_mkdirParents`, `Disk.alike_writeFile`, `Disk.alike_readFile`, `Disk.alike_fileSize`,
  `Disk.alike_rmtree`.
-/

namespace ClassroomSuite.Library

variable {α : Type}

/-! ### Regions -/

/-- Whole subtrees, and single paths with what is on the way to them. -/
structure Region where
  whole : Set AbsPath
  single : Set AbsPath

namespace Region

variable {V : Region} {t t' : Node α} {p q : AbsPath}

/-- The path leads to the region. -/
def LeadsTo (V : Region) (p : AbsPath) : Prop := ∃ q ∈ V.whole ∪ V.single, p <+: q

/-- The path leads to the region or is in one of its subtrees. -/
def Covers (V : Region) (p : AbsPath) : Prop := V.LeadsTo p ∨ ∃ root ∈ V.whole, root <+: p

/-- The two trees are the same as far as the region goes. -/
structure Agree (V : Region) (t t' : Node α) : Prop where
  subtree : ∀ root ∈ V.whole, t.get root = t'.get root
  path : ∀ p, V.LeadsTo p → t.stat p = t'.stat p

theorem covers_root {root : AbsPath} (h : root ∈ V.whole) : V.Covers root :=
  Or.inr ⟨root, h, List.prefix_refl root⟩

theorem covers_of_mem {root : AbsPath} (h : root ∈ V.whole) (r : AbsPath) : V.Covers (root ++ r) :=
  Or.inr ⟨root, h, List.prefix_append root r⟩

/-- What is covered is covered all the way. -/
theorem Covers.mono (h : V.Covers p) (hq : q <+: p) : V.Covers q := by
  obtain ⟨s, hs, hp⟩ | ⟨root, hroot, hp⟩ := h
  · exact Or.inl ⟨s, hs, hq.trans hp⟩
  · rcases List.prefix_or_prefix_of_prefix hq hp with habove | hbelow
    · exact Or.inl ⟨root, Or.inl hroot, habove⟩
    · exact Or.inr ⟨root, hroot, hbelow⟩

theorem Covers.dropLast (h : V.Covers p) : V.Covers p.dropLast := h.mono p.dropLast_prefix

theorem Agree.stat (h : V.Agree t t') (hp : V.Covers p) : t.stat p = t'.stat p := by
  obtain hp | ⟨root, hroot, r, rfl⟩ := hp
  · exact h.path p hp
  · rw [Node.stat_append, Node.stat_append, h.subtree root hroot]

theorem Agree.names {root : AbsPath} (h : V.Agree t t') (hroot : root ∈ V.whole) :
    t.names root = t'.names root := by
  rw [Node.names, Node.names, h.subtree root hroot]

/-- Where a covered path is replaced in both, the trees still agree. -/
theorem Agree.put (h : V.Agree t t') (hp : V.Covers p) (m : Option (Node α)) :
    V.Agree (t.put p m) (t'.put p m) where
  subtree root hroot := Node.get_put_congr (h.stat hp.dropLast) (h.subtree root hroot)
  path q hq := Node.stat_put_congr (h.stat hp.dropLast) (h.path q hq)

end Region

/-! ### Written paths -/

/-- The absolute paths that a written path leads through, `..` cancelled, with both ends. -/
def PurePath.trail (cwd : AbsPath) (p : PurePath) : List AbsPath :=
  p.parts.scanl (fun q c => if c = ".." then q.dropLast else q ++ [c])
    (if p.root = .relative then cwd else [])

/-- An absolute path without `..` leads through the directories above it. -/
theorem PurePath.prefix_of_mem_trail {p q : AbsPath} (hp : ".." ∉ p) {cwd : AbsPath}
    (hq : q ∈ (ofAbs p).trail cwd) : q <+: p := by
  have hscan (cs base : List String) (hcs : ".." ∉ cs)
      (hq : q ∈ cs.scanl (fun q c => if c = ".." then q.dropLast else q ++ [c]) base) :
      q <+: base ++ cs := by
    induction cs generalizing base with
    | nil =>
      rw [List.scanl_nil, List.mem_singleton] at hq
      rw [hq]
      exact List.prefix_append base []
    | cons c cs ih =>
      obtain ⟨hc, hcs⟩ := not_or.mp (List.mem_cons.not.mp hcs)
      rw [List.scanl_cons, List.mem_cons, if_neg (Ne.symm hc)] at hq
      rcases hq with rfl | hq
      · exact List.prefix_append q (c :: cs)
      · rw [List.append_cons]
        exact ih _ hcs hq
  exact hscan p [] hp hq

/-- Where a path leads is decided on the way. -/
theorem Node.walk_of_stat {t t' : Node α} {base : AbsPath} {cs : List String}
    (h : ∀ q ∈ cs.scanl (fun q c => if c = ".." then q.dropLast else q ++ [c]) base,
      t.stat q = t'.stat q) :
    t.walk base cs = t'.walk base cs ∧ ∀ q, t.walk base cs = some q →
      q ∈ cs.scanl (fun q c => if c = ".." then q.dropLast else q ++ [c]) base := by
  induction cs generalizing base with
  | nil => exact ⟨rfl, fun q hq => by simpa [walk] using hq.symm⟩
  | cons c cs ih =>
    rw [List.scanl_cons, List.forall_mem_cons] at h
    obtain ⟨hbase, hrest⟩ := h
    have hstep := ih hrest
    rw [List.scanl_cons, walk, walk, ← hbase]
    cases hstat : t.stat base with
    | none => exact ⟨rfl, fun q hq => by cases hq⟩
    | some x =>
      cases x with
      | file a => exact ⟨rfl, fun q hq => by cases hq⟩
      | dir =>
        dsimp only
        split_ifs at hstep ⊢ with hc
        · exact ⟨hstep.1, fun q hq => List.mem_cons_of_mem _ (hstep.2 q hq)⟩
        · exact ⟨hstep.1, fun q hq => List.mem_cons_of_mem _ (hstep.2 q hq)⟩

namespace PurePath

variable {V : Region} {t t' : Node α} {cwd : AbsPath} {p : PurePath}

/-- What is at a path is decided on its trail. -/
theorem locate_of_agree (h : V.Agree t t') (hp : ∀ q ∈ p.trail cwd, V.Covers q) :
    p.locate t cwd = p.locate t' cwd ∧ ∀ q, p.locate t cwd = some q → V.Covers q := by
  obtain ⟨hwalk, hmem⟩ := Node.walk_of_stat fun q hq => h.stat (hp q hq)
  exact ⟨hwalk, fun q hq => hp q (hmem q hq)⟩

theorem lookup_of_agree (h : V.Agree t t') (hp : ∀ q ∈ p.trail cwd, V.Covers q) :
    p.lookup t cwd = p.lookup t' cwd := by
  obtain ⟨hlocate, hcovers⟩ := locate_of_agree h hp
  rw [lookup, lookup, ← hlocate]
  cases hq : p.locate t cwd with
  | none => rfl
  | some q => exact h.stat (hcovers q hq)

end PurePath

/-! ### Operations of the disk -/

namespace Disk

/-- The disks are the same as far as the region goes, and so is what becomes of the operations to
come. -/
structure Agree (V : Region) (d d' : Disk) : Prop where
  tree : V.Agree d.tree d'.tree
  faults : ∀ i, d.faults (d.tick + i) = d'.faults (d'.tick + i)

variable {V : Region} {p : AbsPath}

theorem alike_nextFault : Alike (Agree V) nextFault nextFault := by
  intro d d' h
  have hfault : d.faults d.tick = d'.faults d'.tick := h.faults 0
  rw [nextFault_apply, nextFault_apply, hfault]
  refine .ok _ ⟨h.tree, fun i => ?_⟩
  rw [Nat.add_assoc, Nat.add_assoc]
  exact h.faults (1 + i)

/-- A covered path may be replaced in both trees. -/
theorem alike_put (hp : V.Covers p) (m : Option (Node FileData)) :
    Alike (Agree V) (modify fun d => { d with tree := d.tree.put p m } : DiskIO PUnit)
      (modify fun d => { d with tree := d.tree.put p m }) :=
  Coupled.modify fun _ _ h => ⟨h.tree.put hp m, h.faults⟩

theorem alike_makeDirectory (hp : V.Covers p) :
    Alike (Agree V) (makeDirectory p) (makeDirectory p) := by
  refine Alike.get_bind fun d d' h => ?_
  dsimp only
  rw [h.tree.stat hp, h.tree.stat hp.dropLast]
  split
  · exact Alike.throw _
  · split
    · refine alike_nextFault.bind fun fault => ?_
      split
      · exact Alike.throw _
      · exact alike_put hp _
    · exact Alike.throw _
    · exact Alike.throw _

theorem alike_mkdirBelow {base : AbsPath} {cs : List String} (h : V.Covers (base ++ cs)) :
    Alike (Agree V) (mkdirBelow base cs) (mkdirBelow base cs) := by
  induction cs generalizing base with
  | nil => exact Alike.pure _
  | cons c cs ih =>
    rw [List.append_cons] at h
    have hc : V.Covers (base ++ [c]) := h.mono (List.prefix_append _ cs)
    refine Alike.get_bind fun d d' hd => ?_
    rw [hd.tree.stat hc]
    split
    · exact ih h
    · exact Alike.throw _
    · exact (alike_makeDirectory hc).bind fun _ => ih h

theorem alike_mkdirParents (hp : V.Covers p) :
    Alike (Agree V) (mkdirParents p) (mkdirParents p) :=
  alike_mkdirBelow hp

theorem alike_writeFile (hp : V.Covers p) (bytes : List UInt8) :
    Alike (Agree V) (writeFile p bytes) (writeFile p bytes) := by
  refine Alike.get_bind fun d d' h => ?_
  dsimp only [readableAt]
  rw [h.tree.stat hp, h.tree.stat hp.dropLast]
  split
  · exact Alike.throw _
  · split
    · refine alike_nextFault.bind fun fault => ?_
      split
      · exact alike_put hp _
      · split
        · exact Alike.throw _
        · exact (alike_put hp _).bind fun _ => Alike.throw _
    · exact Alike.throw _
    · exact Alike.throw _

theorem alike_openFile (hp : V.Covers p) : Alike (Agree V) (openFile p) (openFile p) := by
  refine Alike.get_bind fun d d' h => ?_
  rw [h.tree.stat hp]
  split
  · split
    · refine alike_nextFault.bind fun fault => ?_
      split
      · exact Alike.pure _
      · exact Alike.throw _
    · exact Alike.throw _
  · exact Alike.throw _
  · exact Alike.throw _

theorem alike_readFile (hp : V.Covers p) : Alike (Agree V) (readFile p) (readFile p) :=
  (alike_openFile hp).bind fun _ => Alike.pure _

theorem alike_fileSize (hp : V.Covers p) : Alike (Agree V) (fileSize p) (fileSize p) := by
  refine Alike.get_bind fun d d' h => ?_
  rw [h.tree.stat hp]
  split
  · refine alike_nextFault.bind fun fault => ?_
    split
    · exact Alike.pure _
    · exact Alike.throw _
  · exact Alike.pure _
  · exact Alike.throw _

theorem alike_removeEntry (hp : V.Covers p) :
    Alike (Agree V) (removeEntry p) (removeEntry p) := by
  refine alike_nextFault.bind fun fault => ?_
  split
  · exact Alike.throw _
  · split
    · exact Alike.throw _
    · exact alike_put hp none

/-- A subtree of the region is removed in the same order from both. -/
theorem alike_rmtree (hp : p ∈ V.whole) : Alike (Agree V) (rmtree p) (rmtree p) := by
  refine Alike.get_bind fun d d' h => ?_
  rw [h.tree.subtree p hp]
  split
  · exact Alike.throw _
  · exact Alike.throw _
  · exact Alike.forM fun e _ => alike_removeEntry (V.covers_of_mem hp e)

/-! ### What is elsewhere -/

section Elsewhere

variable {q : AbsPath}

theorem get_makeDirectory (hqp : ¬ q <+: p) (o : Option (Node FileData)) :
    Keeps (fun d : Disk => d.tree.get q = o) (makeDirectory p) := by
  intro d hd
  simp only [makeDirectory, bind_apply, get_apply]
  cases hp : d.tree.stat p with
  | some y => simpa [bind_apply] using hd
  | none =>
    cases hparent : d.tree.stat p.dropLast with
    | none => simpa [bind_apply] using hd
    | some y =>
      cases y with
      | file a => simpa [bind_apply] using hd
      | dir =>
        have hput : (d.tree.put p (some (.dir []))).get q = o := by
          by_cases hpq : p <+: q
          · -- Below the new directory there was nothing, and there is nothing.
            obtain ⟨r, rfl⟩ := hpq
            obtain ⟨c, r, rfl⟩ := List.exists_cons_of_ne_nil fun hr : r = [] => hqp (by simp [hr])
            have hne : p ≠ [] := by
              rintro rfl
              simp at hp
            rw [Node.stat, Option.map_eq_none_iff] at hp
            rw [(Node.get_put_append hne _).1 hparent, ← hd, Node.get_append, hp]
            rfl
          · rw [Node.get_put_of_apart hpq hqp, hd]
        cases hf : d.faults d.tick <;> simpa [bind_apply, hf]

/-- Creating a directory and its parents leaves everything as it is that is not on the way. -/
theorem get_mkdirParents (hqp : ¬ q <+: p) (o : Option (Node FileData)) :
    Keeps (fun d : Disk => d.tree.get q = o) (mkdirParents p) := by
  have hbelow (base cs : AbsPath) (h : ¬ q <+: base ++ cs) :
      Keeps (fun d : Disk => d.tree.get q = o) (mkdirBelow base cs) := by
    induction cs generalizing base with
    | nil => exact Keeps.pure _
    | cons c cs ih =>
      rw [List.append_cons] at h
      refine Keeps.get.bind fun d => ?_
      split
      · exact ih _ h
      · exact Keeps.throw _
      · exact (get_makeDirectory (fun hq => h (hq.trans (List.prefix_append _ cs))) o).bind
          fun _ => ih _ h
  exact hbelow [] p hqp

/-- Writing a file leaves what is away from it as it is. -/
theorem get_writeFile (hpq : ¬ p <+: q) (hqp : ¬ q <+: p) (bytes : List UInt8)
    (o : Option (Node FileData)) :
    Keeps (fun d : Disk => d.tree.get q = o) (writeFile p bytes) := by
  intro d hd
  have hput (n : Node FileData) : (d.tree.put p (some n)).get q = o := by
    rw [Node.get_put_of_apart hpq hqp, hd]
  simp only [writeFile, bind_apply, get_apply]
  by_cases hp : d.tree.stat p = some .dir
  · simpa [hp, bind_apply] using hd
  · cases hparent : d.tree.stat p.dropLast with
    | none => simpa [hp, bind_apply] using hd
    | some y =>
      cases y with
      | file a => simpa [hp, bind_apply] using hd
      | dir =>
        cases hf : d.faults d.tick with
        | none => simpa [hp, bind_apply, hf] using hput _
        | some f =>
          cases hleft : f.left with
          | none => simpa [hp, bind_apply, hf, hleft] using hd
          | some b => simpa [hp, bind_apply, hf, hleft] using hput _

/-- Removing a tree leaves what is away from it as it is. -/
theorem get_rmtree (hpq : ¬ p <+: q) (hqp : ¬ q <+: p) (o : Option (Node FileData)) :
    Keeps (fun d : Disk => d.tree.get q = o) (rmtree p) := by
  have hremove (e : AbsPath) : Keeps (fun d : Disk => d.tree.get q = o) (removeEntry (p ++ e)) := by
    have hpq' : ¬ p ++ e <+: q := fun h => hpq ((List.prefix_append p e).trans h)
    have hqp' : ¬ q <+: p ++ e := fun h =>
      (List.prefix_or_prefix_of_prefix h (List.prefix_append p e)).elim hqp hpq
    intro d hd
    have hput : (d.tree.put (p ++ e) none).get q = o := by
      rw [Node.get_put_of_apart hpq' hqp', hd]
    have hne : p ++ e ≠ [] := fun h => hpq' (h ▸ List.nil_prefix)
    cases hf : d.faults d.tick <;>
      simpa only [removeEntry, bind_apply, nextFault_apply, hf, if_neg hne]
  refine Keeps.get.bind fun d => ?_
  split
  · exact Keeps.throw _
  · exact Keeps.throw _
  · exact Keeps.forM hremove _

end Elsewhere

end Disk

end ClassroomSuite.Library
