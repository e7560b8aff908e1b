import Mathlib.Data.List.Basic
import ClassroomSuite.Library.FileTree
import ClassroomSuite.Library.Hoare

/-!
# A disk whose operations may fail

A disk is a file tree together with a sequence of faults: the `k`-th fallible operation of a run
fails when `faults k` says so, with the error it names, and a failed write leaves the file as the
fault says. Quantifying over the fault sequence quantifies over every set of failing operations.
Existence tests and directory listings read the tree and do not fail.

For each operation there is a frame rule, stated for one path: what is there survives the
operation, whether it succeeds or fails half-way. The removal of a tree has in addition a rule that
says when it takes a directory.

## Main definitions

* `OSError`, `Fault`, `FileData`, `Disk`.
* `mkdirParents`, `writeFile`, `readFile`, `fileSize`, `rmtree`.
* `RemovalReaches`: a removal that comes as far as a path.

## Main results

* `mkdirParents_spec`, `mkdirParents_of_dir`: a directory is there after its creation, and an
  existing one is not created again.
* `writeFile_spec`, `writeFile_of_parent`.
* `keeps_mkdirParents`, `keeps_writeFile`, `keeps_readFile`, `keeps_fileSize`, `stat_rmtree`.
* `spares_mkdirParents`, `spares_writeFile`, `spares_rmtree`.
* `rmtree_takes_iff`.
-/

namespace ClassroomSuite.Library

/-- An error number of the operating system, with its text. -/
structure Errno where
  code : ℕ
  strerror : String
  deriving DecidableEq, Repr

namespace Errno

/-- `EPERM`. -/
def eperm : Errno := ⟨1, "Operation not permitted"⟩

/-- `ENOENT`. -/
def enoent : Errno := ⟨2, "No such file or directory"⟩

/-- `EIO`. -/
def eio : Errno := ⟨5, "Input/output error"⟩

/-- `ENOEXEC`. -/
def enoexec : Errno := ⟨8, "Exec format error"⟩

/-- `EACCES`. -/
def eacces : Errno := ⟨13, "Permission denied"⟩

/-- `EBUSY`. -/
def ebusy : Errno := ⟨16, "Device or resource busy"⟩

/-- `EEXIST`. -/
def eexist : Errno := ⟨17, "File exists"⟩

/-- `ENOTDIR`. -/
def enotdir : Errno := ⟨20, "Not a directory"⟩

/-- `EISDIR`. -/
def eisdir : Errno := ⟨21, "Is a directory"⟩

end Errno

/-- A failed operation: the error and, unless it concerns a file already open, the path. -/
structure OSError where
  errno : Errno
  filename : Option String
  deriving DecidableEq, Repr

/-- The text of an error, the file name shown by `repr`. -/
def OSError.str (repr : String → String) (e : OSError) : String :=
  "[Errno " ++ toString e.errno.code ++ "] " ++ e.errno.strerror ++
    match e.filename with
    | some filename => ": " ++ repr filename
    | none => ""

/-- The data of a regular file: its contents and whether it may be read. -/
structure FileData where
  bytes : List UInt8
  readable : Bool := true
  deriving DecidableEq, Repr

/-- One failing operation. A failed write has not touched the file (`none`) or has left the given
contents. -/
structure Fault where
  errno : Errno
  left : Option (List UInt8) := none
  deriving DecidableEq, Repr

/-- A file tree, the faults of the operations on it, and the number of the next operation. -/
structure Disk where
  tree : Node FileData
  faults : ℕ → Option Fault
  tick : ℕ := 0

/-- Operations on a disk. -/
abbrev DiskIO := EStateM OSError Disk

/-- The disk with a tree on which nothing fails. -/
def Disk.ofTree (tree : Node FileData) : Disk := ⟨tree, fun _ => none, 0⟩

/-- A path written out from the root of the tree. -/
def AbsPath.str (p : AbsPath) : String := "/" ++ "/".intercalate p

/-- The error `e` about the path `p`. -/
def OSError.at (e : Errno) (p : AbsPath) : OSError := ⟨e, some (AbsPath.str p)⟩

namespace Disk

/-- The fault of the operation about to be made, if it is to fail. -/
def nextFault : DiskIO (Option Fault) := fun d =>
  .ok (d.faults d.tick) { d with tick := d.tick + 1 }

@[simp] theorem nextFault_apply (d : Disk) :
    nextFault d = .ok (d.faults d.tick) { d with tick := d.tick + 1 } := rfl

/-- Create one directory in an existing one. -/
def makeDirectory (p : AbsPath) : DiskIO Unit := do
  let t := (← get).tree
  if (t.stat p).isSome then throw (.at .eexist p)
  else match t.stat p.dropLast with
    | some .dir =>
      match ← nextFault with
      | some f => throw (.at f.errno p)
      | none => modify fun d => { d with tree := d.tree.put p (some (.dir [])) }
    | some (.file _) => throw (.at .enotdir p)
    | none => throw (.at .enoent p)

/-- Create the directories named by the path below `base`, from the top. -/
def mkdirBelow (base : AbsPath) : List String → DiskIO Unit
  | [] => pure ()
  | c :: cs => do
    match (← get).tree.stat (base ++ [c]) with
    | some .dir => mkdirBelow (base ++ [c]) cs
    | some (.file _) =>
      throw (.at (if cs = [] then .eexist else .enotdir) (base ++ c :: cs))
    | none => do
      makeDirectory (base ++ [c])
      mkdirBelow (base ++ [c]) cs

/-- `mkdir -p`: create a directory and its missing parents; an existing directory is fine. -/
def mkdirParents (p : AbsPath) : DiskIO Unit := mkdirBelow [] p

/-- Whether the file at a path may be read; a new file may be. -/
def readableAt (t : Node FileData) (p : AbsPath) : Bool :=
  match t.stat p with
  | some (.file a) => a.readable
  | _ => true

/-- Write a whole file, replacing its contents. -/
def writeFile (p : AbsPath) (bytes : List UInt8) : DiskIO Unit := do
  let t := (← get).tree
  let file (b : List UInt8) : Node FileData := .file ⟨b, readableAt t p⟩
  if t.stat p = some .dir then throw (.at .eisdir p)
  else match t.stat p.dropLast with
    | some .dir =>
      match ← nextFault with
      | none => modify fun d => { d with tree := d.tree.put p (some (file bytes)) }
      | some f =>
        match f.left with
        | none => throw (.at f.errno p)
        | some b =>
          modify fun d => { d with tree := d.tree.put p (some (file b)) }
          throw ⟨f.errno, none⟩
    | some (.file _) => throw (.at .enotdir p)
    | none => throw (.at .enoent p)

/-- Open a regular file for reading. -/
def openFile (p : AbsPath) : DiskIO FileData := do
  match (← get).tree.stat p with
  | some (.file a) =>
    if a.readable then
      match ← nextFault with
      | none => return a
      | some f => throw (.at f.errno p)
    else throw (.at .eacces p)
  | some .dir => throw (.at .eisdir p)
  | none => throw (.at .enoent p)

/-- Read a whole file. -/
def readFile (p : AbsPath) : DiskIO (List UInt8) := do
  return (← openFile p).bytes

/-- The size `stat` reports for a regular file. -/
def fileSize (p : AbsPath) : DiskIO ℕ := do
  match (← get).tree.stat p with
  | some (.file a) =>
    match ← nextFault with
    | none => return a.bytes.length
    | some f => throw (.at f.errno p)
  | some .dir => return 0
  | none => throw (.at .enoent p)

/-- Remove one entry: a file, or a directory whose entries have been removed. The root of the tree
stays. -/
def removeEntry (p : AbsPath) : DiskIO Unit := do
  match ← nextFault with
  | some f => throw (.at f.errno p)
  | none =>
    if p = [] then throw (.at .ebusy p)
    else modify fun d => { d with tree := d.tree.put p none }

/-- Remove a directory and everything below it, stopping at the first removal that fails. -/
def rmtree (p : AbsPath) : DiskIO Unit := do
  match (← get).tree.get p with
  | none => throw (.at .enoent p)
  | some (.file _) => throw (.at .enotdir p)
  | some (.dir es) => (Node.dir es).removals.forM fun e => removeEntry (p ++ e)

/-! ### Creating directories -/

/-- A created directory is there. -/
theorem makeDirectory_spec (p : AbsPath) :
    Hoare (fun _ => True) (makeDirectory p) (fun _ d => d.tree.stat p = some .dir)
      (fun _ _ => True) := by
  intro d _
  simp only [makeDirectory, bind_apply, get_apply]
  cases hp : d.tree.stat p with
  | some y => simp
  | none =>
    have hne : p ≠ [] := by
      rintro rfl
      simp at hp
    cases hparent : d.tree.stat p.dropLast with
    | none => simp
    | some y =>
      cases y with
      | file a => simp
      | dir =>
        have hput := Node.stat_put_append (.dir []) hne hparent []
        rw [List.append_nil] at hput
        cases hf : d.faults d.tick <;> simp [bind_apply, hf, hput, Node.kind]

theorem mkdirBelow_spec (base : AbsPath) (cs : List String) :
    Hoare (fun d => cs = [] → d.tree.stat base = some .dir) (mkdirBelow base cs)
      (fun _ d => d.tree.stat (base ++ cs) = some .dir) (fun _ _ => True) := by
  induction cs generalizing base with
  | nil => exact Hoare.pure fun d hd => (List.append_nil base).symm ▸ hd rfl
  | cons c cs ih =>
    rw [List.append_cons]
    intro d _
    simp only [mkdirBelow, bind_apply, get_apply]
    cases hc : d.tree.stat (base ++ [c]) with
    | none =>
      exact Hoare.bind (makeDirectory_spec _)
        (fun _ => (ih _).consequence (fun _ h _ => h) (fun _ _ h => h) fun _ _ h => h) d trivial
    | some y =>
      cases y with
      | file a => simp
      | dir => exact ih _ d fun _ => hc

/-- A directory created with its parents is there. -/
theorem mkdirParents_spec {p : AbsPath} (hp : p ≠ []) :
    Hoare (fun _ => True) (mkdirParents p) (fun _ d => d.tree.stat p = some .dir)
      (fun _ _ => True) :=
  (mkdirBelow_spec [] p).consequence (fun _ _ h => absurd h hp) (fun _ _ h => h) fun _ _ h => h

/-- An existing directory is not created again. -/
theorem mkdirParents_of_dir {d : Disk} {p : AbsPath} (h : d.tree.stat p = some .dir) :
    mkdirParents p d = .ok () d := by
  have hbelow (base cs : AbsPath) (hcs : d.tree.stat (base ++ cs) = some .dir) :
      mkdirBelow base cs d = .ok () d := by
    induction cs generalizing base with
    | nil => rfl
    | cons c cs ih =>
      rw [List.append_cons] at hcs
      have hc : d.tree.stat (base ++ [c]) = some .dir := by
        by_cases hnil : cs = []
        · simpa [hnil] using hcs
        · exact Node.stat_eq_dir_of_append hnil hcs
      simp [mkdirBelow, bind_apply, hc, ih _ hcs]
  exact hbelow [] p h

/-! ### Writing a file -/

/-- A file that has been written has the contents it was written with. -/
theorem writeFile_spec (p : AbsPath) (bytes : List UInt8) :
    Hoare (fun _ => True) (writeFile p bytes)
      (fun _ d => ∃ readable, d.tree.stat p = some (.file ⟨bytes, readable⟩))
      (fun _ _ => True) := by
  intro d _
  simp only [writeFile, bind_apply, get_apply]
  by_cases hp : d.tree.stat p = some .dir
  · simp [hp]
  · cases hparent : d.tree.stat p.dropLast with
    | none => simp [hp]
    | some y =>
      cases y with
      | file a => simp [hp]
      | dir =>
        have hne : p ≠ [] := by
          rintro rfl
          exact hp hparent
        have hput := Node.stat_put_append (.file ⟨bytes, readableAt d.tree p⟩) hne hparent []
        rw [List.append_nil] at hput
        cases hf : d.faults d.tick with
        | none => simp [hp, bind_apply, hf, hput, Node.kind]
        | some f => cases hleft : f.left <;> simp [hp, bind_apply, hf, hleft]

/-- In a directory, where there is no other one, a file is written if the operation does not
fail. -/
theorem writeFile_of_parent {d : Disk} {p : AbsPath} (bytes : List UInt8)
    (hp : d.tree.stat p ≠ some .dir) (hparent : d.tree.stat p.dropLast = some .dir)
    (hf : d.faults d.tick = none) :
    writeFile p bytes d = .ok () { d with
      tree := d.tree.put p (some (.file ⟨bytes, readableAt d.tree p⟩))
      tick := d.tick + 1 } := by
  simp [writeFile, bind_apply, hp, hparent, hf]

/-! ### Frame rules -/

variable {q : AbsPath} {x : FileStat FileData}

/-- An absent path does not lead to an existing one. -/
theorem not_prefix_of_absent {t : Node FileData} {p : AbsPath} (hp : t.stat p = none)
    (hq : t.stat q = some x) : ¬ p <+: q := by
  rintro ⟨r, rfl⟩
  cases r with
  | nil => simp [hp] at hq
  | cons c r => simp [Node.stat_eq_dir_of_append (List.cons_ne_nil c r) hq] at hp

/-- A path that is not a directory leads to no other existing path. -/
theorem not_prefix_of_ne_dir {t : Node FileData} {p : AbsPath} (hp : t.stat p ≠ some .dir)
    (hpq : p ≠ q) (hq : t.stat q = some x) : ¬ p <+: q := by
  rintro ⟨r, rfl⟩
  exact hp (Node.stat_eq_dir_of_append (fun hr => hpq (by simp [hr])) hq)

theorem keeps_makeDirectory (p : AbsPath) :
    Keeps (fun d : Disk => d.tree.stat q = some x) (makeDirectory p) := by
  intro d hd
  simp only [makeDirectory, bind_apply, get_apply]
  cases hp : d.tree.stat p with
  | some y => simpa [bind_apply] using hd
  | none =>
    have hput : (d.tree.put p (some (.dir []))).stat q = some x := by
      rw [Node.stat_put_of_not_prefix _ _ _ _ (not_prefix_of_absent hp hd)]
      exact hd
    cases hparent : d.tree.stat p.dropLast with
    | none => simpa [bind_apply] using hd
    | some y =>
      cases y with
      | file a => simpa [bind_apply] using hd
      | dir => cases hf : d.faults d.tick <;> simpa [bind_apply, hf]

theorem keeps_mkdirBelow (base : AbsPath) (cs : List String) :
    Keeps (fun d : Disk => d.tree.stat q = some x) (mkdirBelow base cs) := by
  induction cs generalizing base with
  | nil => exact Keeps.pure _
  | cons c cs ih =>
    refine Keeps.get.bind fun d => ?_
    split
    · exact ih _
    · exact Keeps.throw _
    · exact (keeps_makeDirectory _).bind fun _ => ih _

/-- Creating directories keeps everything that exists. -/
theorem keeps_mkdirParents (p : AbsPath) :
    Keeps (fun d : Disk => d.tree.stat q = some x) (mkdirParents p) :=
  keeps_mkdirBelow [] p

/-- Writing a file keeps everything else that exists, also when the write fails. -/
theorem keeps_writeFile (p : AbsPath) (bytes : List UInt8) (hpq : p = q → x = .dir) :
    Keeps (fun d : Disk => d.tree.stat q = some x) (writeFile p bytes) := by
  intro d hd
  simp only [writeFile, bind_apply, get_apply]
  by_cases hp : d.tree.stat p = some .dir
  · simpa [hp, bind_apply] using hd
  · have hne : p ≠ q := fun h => hp (h ▸ hpq h ▸ hd)
    have hput (n : Node FileData) : (d.tree.put p (some n)).stat q = some x := by
      rw [Node.stat_put_of_not_prefix _ _ _ _ (not_prefix_of_ne_dir hp hne hd)]
      exact hd
    cases hparent : d.tree.stat p.dropLast with
    | none => simpa [hp, bind_apply] using hd
    | some y =>
      cases y with
      | file a => simpa [hp, bind_apply] using hd
      | dir =>
        cases hf : d.faults d.tick with
        | none => simpa [hp, bind_apply, hf] using hput _
        | some f =>
          cases hleft : f.left with
          | none => simpa [hp, bind_apply, hf, hleft] using hd
          | some b => simpa [hp, bind_apply, hf, hleft] using hput _

/-- Writing a file at a path in `P`, also when the write fails. -/
theorem sameBut_writeFile {P : AbsPath → Prop} {t : Node FileData} {p : AbsPath} (hP : P p)
    (bytes : List UInt8) :
    Keeps (fun d : Disk => Node.SameBut P t d.tree) (writeFile p bytes) := by
  intro d hd
  simp only [writeFile, bind_apply, get_apply]
  by_cases hp : d.tree.stat p = some .dir
  · simpa [hp, bind_apply] using hd
  · cases hparent : d.tree.stat p.dropLast with
    | none => simpa [hp, bind_apply] using hd
    | some y =>
      cases y with
      | file a => simpa [hp, bind_apply] using hd
      | dir =>
        have hput (a : FileData) : Node.SameBut P t (d.tree.put p (some (.file a))) :=
          hd.put_file hP a hp hparent
        cases hf : d.faults d.tick with
        | none => simpa [hp, bind_apply, hf] using hput _
        | some f =>
          cases hleft : f.left with
          | none => simpa [hp, bind_apply, hf, hleft] using hd
          | some b => simpa [hp, bind_apply, hf, hleft] using hput _

/-! ### Reading -/

section Reading

variable {t : Node FileData}

theorem keeps_openFile (p : AbsPath) : Keeps (fun d : Disk => d.tree = t) (openFile p) := by
  rintro d rfl
  simp only [openFile, bind_apply, get_apply]
  cases hp : d.tree.stat p with
  | none => rfl
  | some y =>
    cases y with
    | dir => rfl
    | file a =>
      cases ha : a.readable with
      | false => simp [ha]
      | true => cases hf : d.faults d.tick <;> simp [ha, bind_apply, hf]

/-- Reading a file leaves the tree as it is. -/
theorem keeps_readFile (p : AbsPath) : Keeps (fun d : Disk => d.tree = t) (readFile p) :=
  (keeps_openFile p).bind fun a => Keeps.pure a.bytes

/-- Asking for the size of a file leaves the tree as it is. -/
theorem keeps_fileSize (p : AbsPath) : Keeps (fun d : Disk => d.tree = t) (fileSize p) := by
  rintro d rfl
  simp only [fileSize, bind_apply, get_apply]
  cases hp : d.tree.stat p with
  | none => rfl
  | some y =>
    cases y with
    | dir => rfl
    | file a => cases hf : d.faults d.tick <;> simp [bind_apply, hf]

end Reading

/-! ### Sparing a path -/

/-- The operation leaves what is at the path as it is, and puts no file there. -/
def Spares {β : Type} (q : AbsPath) (m : DiskIO β) : Prop :=
  (∀ x, Keeps (fun d : Disk => d.tree.stat q = some x) m) ∧
    ∀ data, Keeps (fun d : Disk => d.tree.stat q ≠ some (.file data)) m

variable {data : FileData}

/-- A new entry, seen from a path other than its own, is no file. -/
theorem no_file_put {t : Node FileData} {p : AbsPath} {n : Node FileData} (hp : p ≠ [])
    (hparent : t.stat p.dropLast = some .dir) (hn : p = q → n = .dir [])
    (hleaf : n = .dir [] ∨ ∃ a, n = .file a) (h : t.stat q ≠ some (.file data)) :
    (t.put p (some n)).stat q ≠ some (.file data) := by
  by_cases hpq : p <+: q
  · obtain ⟨r, rfl⟩ := hpq
    rw [Node.stat_put_append n hp hparent]
    cases r with
    | nil => simp [hn (by simp), Node.kind]
    | cons c r => rcases hleaf with rfl | ⟨a, rfl⟩ <;> simp
  · rwa [Node.stat_put_of_not_prefix _ _ _ _ hpq]

theorem no_file_makeDirectory (p : AbsPath) :
    Keeps (fun d : Disk => d.tree.stat q ≠ some (.file data)) (makeDirectory p) := by
  intro d hd
  simp only [makeDirectory, bind_apply, get_apply]
  cases hp : d.tree.stat p with
  | some y => simpa [bind_apply] using hd
  | none =>
    cases hparent : d.tree.stat p.dropLast with
    | none => simpa [bind_apply] using hd
    | some y =>
      cases y with
      | file a => simpa [bind_apply] using hd
      | dir =>
        have hne : p ≠ [] := by
          rintro rfl
          simp at hp
        have hput : (d.tree.put p (some (.dir []))).stat q ≠ some (.file data) :=
          no_file_put hne hparent (fun _ => rfl) (Or.inl rfl) hd
        cases hf : d.faults d.tick <;> simpa [bind_apply, hf]

theorem no_file_mkdirBelow (base : AbsPath) (cs : List String) :
    Keeps (fun d : Disk => d.tree.stat q ≠ some (.file data)) (mkdirBelow base cs) := by
  induction cs generalizing base with
  | nil => exact Keeps.pure _
  | cons c cs ih =>
    refine Keeps.get.bind fun d => ?_
    split
    · exact ih _
    · exact Keeps.throw _
    · exact (no_file_makeDirectory _).bind fun _ => ih _

/-- Creating directories spares every path. -/
theorem spares_mkdirParents (p : AbsPath) : Spares q (mkdirParents p) :=
  ⟨fun _ => keeps_mkdirParents p, fun _ => no_file_mkdirBelow [] p⟩

theorem no_file_writeFile {p : AbsPath} (bytes : List UInt8) (hpq : p ≠ q) :
    Keeps (fun d : Disk => d.tree.stat q ≠ some (.file data)) (writeFile p bytes) := by
  intro d hd
  simp only [writeFile, bind_apply, get_apply]
  by_cases hp : d.tree.stat p = some .dir
  · simpa [hp, bind_apply] using hd
  · cases hparent : d.tree.stat p.dropLast with
    | none => simpa [hp, bind_apply] using hd
    | some y =>
      cases y with
      | file a => simpa [hp, bind_apply] using hd
      | dir =>
        have hne : p ≠ [] := by
          rintro rfl
          exact hp hparent
        have hput (a : FileData) : (d.tree.put p (some (.file a))).stat q ≠ some (.file data) :=
          no_file_put hne hparent (fun h => absurd h hpq) (Or.inr ⟨a, rfl⟩) hd
        cases hf : d.faults d.tick with
        | none => simpa [hp, bind_apply, hf] using hput _
        | some f =>
          cases hleft : f.left with
          | none => simpa [hp, bind_apply, hf, hleft] using hd
          | some b => simpa [hp, bind_apply, hf, hleft] using hput _

/-- Writing a file spares every other path. -/
theorem spares_writeFile {p : AbsPath} (bytes : List UInt8) (hpq : p ≠ q) :
    Spares q (writeFile p bytes) :=
  ⟨fun _ => keeps_writeFile p bytes fun h => absurd h hpq, fun _ => no_file_writeFile bytes hpq⟩

theorem stat_removeEntry {p : AbsPath} (hpq : ¬ p <+: q) (o : Option (FileStat FileData)) :
    Keeps (fun d : Disk => d.tree.stat q = o) (removeEntry p) := by
  intro d hd
  have hp : p ≠ [] := fun h => hpq (h ▸ List.nil_prefix)
  have hput : (d.tree.put p none).stat q = o := by
    rw [Node.stat_put_of_not_prefix _ _ _ _ hpq]
    exact hd
  cases hf : d.faults d.tick <;> simpa [removeEntry, bind_apply, hf, hp]

/-- Removing a tree leaves what is at a path outside it as it is, if there is anything or not. -/
theorem stat_rmtree {p : AbsPath} (hpq : ¬ p <+: q) (o : Option (FileStat FileData)) :
    Keeps (fun d : Disk => d.tree.stat q = o) (rmtree p) := by
  refine Keeps.get.bind fun d => ?_
  split
  · exact Keeps.throw _
  · exact Keeps.throw _
  · exact Keeps.forM (fun e => stat_removeEntry (fun h => hpq ((List.prefix_append p e).trans h)) o)
      _

/-- Removing a tree spares every path outside it. -/
theorem spares_rmtree {p : AbsPath} (hpq : ¬ p <+: q) : Spares q (rmtree p) :=
  ⟨fun x => stat_rmtree hpq (some x), fun data =>
    Keeps.of_view (stat_rmtree hpq) fun o => o ≠ some (.file data)⟩

/-! ### What a removal takes -/

/-- No removal of the tree at `p` fails up to the one that takes `p ++ r`. -/
def RemovalReaches (d : Disk) (p r : AbsPath) : Prop :=
  ∃ n, d.tree.get p = some n ∧ ∀ i ≤ n.removalsBefore r, d.faults (d.tick + i) = none

/-- What is absent is not brought back by a removal. -/
theorem absent_removeEntry (p : AbsPath) :
    Keeps (fun d : Disk => d.tree.stat q = none) (removeEntry p) := by
  by_cases hpq : p <+: q
  · obtain ⟨r, rfl⟩ := hpq
    intro d hd
    by_cases hp : p = []
    · cases hf : d.faults d.tick <;> simpa [removeEntry, bind_apply, hf, hp] using hd
    · have hput := Node.stat_put_none_append d.tree hp r
      cases hf : d.faults d.tick <;> simpa [removeEntry, bind_apply, hf, hp]
  · exact stat_removeEntry hpq none

theorem root_removeEntry (p : AbsPath) :
    Keeps (fun d : Disk => d.tree.stat [] = some .dir) (removeEntry p) := by
  by_cases hp : p = []
  · intro d hd
    cases hf : d.faults d.tick <;> simpa [removeEntry, bind_apply, hf, hp] using hd
  · exact stat_removeEntry (fun h => hp (List.prefix_nil.mp h)) _

theorem finalState_removeEntry_bind {β : Type} (p : AbsPath) (k : Unit → DiskIO β) {d : Disk} :
    finalState (removeEntry p >>= k) d = match d.faults d.tick with
      | some _ => { d with tick := d.tick + 1 }
      | none => if p = [] then { d with tick := d.tick + 1 }
        else finalState (k ()) { d with tree := d.tree.put p none, tick := d.tick + 1 } := by
  rw [finalState_bind, removeEntry, bind_apply, nextFault_apply]
  dsimp only
  cases hf : d.faults d.tick with
  | some f => rfl
  | none => by_cases hp : p = [] <;> simp [hp]

/-- None of the next operations fails if the first does not, and then none of the others. -/
theorem forall_le_succ_faults_iff (d : Disk) (n : ℕ) :
    (∀ i ≤ n + 1, d.faults (d.tick + i) = none) ↔
      d.faults d.tick = none ∧ ∀ i ≤ n, d.faults (d.tick + 1 + i) = none := by
  constructor
  · refine fun h => ⟨h 0 (Nat.zero_le _), fun i hi => ?_⟩
    rw [Nat.add_assoc, Nat.add_comm 1 i]
    exact h (i + 1) (Nat.succ_le_succ hi)
  · rintro ⟨hfirst, hrest⟩ i hi
    cases i with
    | zero => exact hfirst
    | succ i =>
      rw [Nat.add_comm i 1, ← Nat.add_assoc]
      exact hrest i (Nat.le_of_succ_le_succ hi)

/-- Removals one after the other take a directory exactly when none fails up to the first one that
concerns it. -/
theorem removeEntries_takes_iff {p r e : AbsPath} {es : List AbsPath} {d : Disk}
    (hfind : es.find? (fun e => e.isPrefixOf r) = some e) (hne : p ++ e ≠ [])
    (hdir : d.tree.stat (p ++ r) = some .dir) :
    (finalState (es.forM fun e => removeEntry (p ++ e)) d).tree.stat (p ++ r) ≠ some .dir ↔
      ∀ i ≤ es.findIdx fun e => e.isPrefixOf r, d.faults (d.tick + i) = none := by
  induction es generalizing d with
  | nil => simp at hfind
  | cons x es ih =>
    rw [show (x :: es).forM (fun e => removeEntry (p ++ e)) =
      (removeEntry (p ++ x) >>= fun _ => es.forM fun e => removeEntry (p ++ e)) from rfl,
      finalState_removeEntry_bind]
    cases hf : d.faults d.tick with
    | some f =>
      refine iff_of_false (fun h => h hdir) fun h => ?_
      exact Option.some_ne_none f (hf.symm.trans (h 0 (Nat.zero_le _)))
    | none =>
      by_cases hx : x.isPrefixOf r = true
      · obtain rfl : x = e := by simpa [hx] using hfind
        obtain ⟨r', rfl⟩ := List.isPrefixOf_iff_prefix.mp hx
        have habsent : (d.tree.put (p ++ x) none).stat (p ++ (x ++ r')) = none := by
          rw [← List.append_assoc]
          exact Node.stat_put_none_append d.tree hne r'
        have hgone := (Keeps.forM (fun e => absent_removeEntry (p ++ e)) es).finalState
          (show ({ d with tree := d.tree.put (p ++ x) none, tick := d.tick + 1 } : Disk).tree.stat
            (p ++ (x ++ r')) = none from habsent)
        refine iff_of_true ?_ fun i hi => ?_
        · rw [if_neg hne, hgone]
          exact Option.some_ne_none _ ∘ Eq.symm
        · obtain rfl : i = 0 := by simpa [List.findIdx_cons, hx] using hi
          exact hf
      · have hfind' : es.find? (fun e => e.isPrefixOf r) = some e := by simpa [hx] using hfind
        have hpx : ¬ p ++ x <+: p ++ r := fun h =>
          hx (List.isPrefixOf_iff_prefix.mpr ((List.prefix_append_right_inj p).mp h))
        have hnil : p ++ x ≠ [] := fun h => hpx (h ▸ List.nil_prefix)
        have hdir' : (d.tree.put (p ++ x) none).stat (p ++ r) = some .dir := by
          rw [Node.stat_put_of_not_prefix _ _ _ _ hpx]
          exact hdir
        dsimp only
        rw [if_neg hnil, ih hfind' hdir']
        simp only [List.findIdx_cons, hx]
        exact ((forall_le_succ_faults_iff d _).trans (and_iff_right hf)).symm

/-- Removing a tree takes a directory in it exactly when no removal fails up to the one that takes
the directory. Only the root of all is never taken. -/
theorem rmtree_takes_iff {p r : AbsPath} {d : Disk} (hdir : d.tree.stat (p ++ r) = some .dir) :
    (finalState (rmtree p) d).tree.stat (p ++ r) ≠ some .dir ↔
      p ++ r ≠ [] ∧ d.RemovalReaches p r := by
  obtain ⟨n, hn, hstat⟩ : ∃ n, d.tree.get p = some n ∧ n.stat r = some .dir := by
    rwa [Node.stat_append, Option.bind_eq_some_iff] at hdir
  obtain ⟨es, rfl⟩ : ∃ es, n = .dir es := by
    cases n with
    | file a => cases r <;> simp [Node.kind] at hstat
    | dir es => exact ⟨es, rfl⟩
  have hrun : rmtree p d = ((Node.dir es).removals.forM fun e => removeEntry (p ++ e)) d := by
    simp [rmtree, bind_apply, hn]
  have hreaches : d.RemovalReaches p r ↔
      ∀ i ≤ (Node.dir es).removalsBefore r, d.faults (d.tick + i) = none := by
    simp [RemovalReaches, hn]
  rw [hreaches, finalState, hrun, ← finalState]
  by_cases hroot : p ++ r = []
  · refine iff_of_false (fun h => h ?_) fun h => h.1 hroot
    rw [hroot] at hdir ⊢
    exact (Keeps.forM (fun e => root_removeEntry (p ++ e)) _).finalState hdir
  · obtain ⟨e, hfind, he⟩ := Node.exists_find_removals hstat
    have hne : p ++ e ≠ [] := by
      intro h
      obtain ⟨hp, he'⟩ := List.append_eq_nil_iff.mp h
      exact hroot (by rw [hp, he he', List.append_nil])
    rw [removeEntries_takes_iff hfind hne hdir]
    exact (and_iff_right hroot).symm

/-! ### What is gone -/

/-- An entry that is removed is gone. -/
theorem removeEntry_spec (p : AbsPath) : Hoare (fun _ : Disk => True) (removeEntry p)
    (fun _ d => d.tree.stat p = none) (fun _ _ => True) := by
  intro d _
  have hput (hp : p ≠ []) : (d.tree.put p none).stat p = none := by
    simpa using Node.stat_put_none_append d.tree hp []
  by_cases hp : p = []
  · cases hf : d.faults d.tick <;> simp [removeEntry, bind_apply, hf, hp]
  · cases hf : d.faults d.tick <;> simp [removeEntry, bind_apply, hf, hp, hput]

/-- A tree that is removed is gone. -/
theorem rmtree_spec (p : AbsPath) : Hoare (fun _ : Disk => True) (rmtree p)
    (fun _ d => d.tree.stat p = none) (fun _ _ => True) := by
  refine Hoare.bind (Q := fun _ _ => True) (Hoare.get fun _ _ => trivial) fun d => ?_
  split
  · exact Hoare.throw fun _ _ => trivial
  · exact Hoare.throw fun _ _ => trivial
  · refine Hoare.forM_of_mem (Node.nil_mem_removals _) ?_ fun e => absent_removeEntry (p ++ e)
    rw [List.append_nil]
    exact removeEntry_spec p

end Disk

end ClassroomSuite.Library
