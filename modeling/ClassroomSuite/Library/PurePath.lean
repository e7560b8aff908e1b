import Mathlib.Data.List.Basic
import ClassroomSuite.Library.FileTree

/-!
# Written paths

A written path is a root and a list of components: the form a path library keeps a text in, with
empty components and single dots dropped and `..` kept. What it refers to depends on the current
directory: `PurePath.locate` follows it through a tree as the operating system does, and
`PurePath.resolve` removes `..` by cancelling components, which comes to the same in a tree without
links.

## Main definitions

* `PurePath`, `PurePath.ofString`, `PurePath.str`, `PurePath.join`, `PurePath.name`,
  `PurePath.suffix`.
* `PurePath.resolve`, `PurePath.locate`, `PurePath.lookup`.

## Main results

* `PurePath.ofString_str`: a path in its normal form is the one that its text stands for.
* `PurePath.locate_congr`.
* `PurePath.dotdot_notMem_resolve`, `PurePath.resolve_ofAbs`.
-/

namespace ClassroomSuite.Library

/-- The root of a written path: none, `/`, or the two slashes a system may treat specially. -/
inductive PathRoot where
  | relative
  | slash
  | doubleSlash
  deriving DecidableEq, Repr

/-- The text of a root. -/
def PathRoot.str : PathRoot → String
  | .relative => ""
  | .slash => "/"
  | .doubleSlash => "//"

/-- A written path: its root and its components, `..` included. -/
structure PurePath where
  root : PathRoot
  parts : List String
  deriving DecidableEq, Repr

namespace PurePath

/-- The path a text stands for. Two leading slashes are kept, three are one. -/
def ofString (s : String) : PurePath where
  root := match (s.toList.takeWhile (· == '/')).length with
    | 0 => .relative
    | 2 => .doubleSlash
    | _ => .slash
  parts := ((s.toList.splitOn '/').map String.ofList).filter fun c => c ≠ "" && c ≠ "."

/-- The text of a path; the path without root and components is the current directory. -/
def str (p : PurePath) : String :=
  if p.root = .relative ∧ p.parts = [] then "." else p.root.str ++ "/".intercalate p.parts

/-- The path `q` seen from `p`: appended to it, unless `q` has a root. -/
def join (p q : PurePath) : PurePath :=
  if q.root = .relative then ⟨p.root, p.parts ++ q.parts⟩ else q

/-- The last component, or nothing. -/
def name (p : PurePath) : String := p.parts.getLastD ""

/-- The end of the name from its last dot on. A dot at either end of the name starts no suffix. -/
def suffix (p : PurePath) : String :=
  let after := p.name.toList.reverse.takeWhile (· ≠ '.')
  let before := (p.name.toList.reverse.dropWhile (· ≠ '.')).drop 1
  if after = [] ∨ before = [] then "" else String.ofList ('.' :: after.reverse)

/-- The absolute path written from the root of the tree. -/
def ofAbs (p : AbsPath) : PurePath := ⟨.slash, p⟩

/-- The absolute path of `p`, seen from the directory `cwd`, its `..` components cancelled. -/
def resolve (cwd : AbsPath) (p : PurePath) : AbsPath :=
  p.parts.foldl (fun q c => if c = ".." then q.dropLast else q ++ [c])
    (if p.root = .relative then cwd else [])

variable {α : Type}

/-- Where the path leads in the tree `t`, seen from the directory `cwd`. -/
def locate (t : Node α) (cwd : AbsPath) (p : PurePath) : Option AbsPath :=
  t.walk (if p.root = .relative then cwd else []) p.parts

/-- What is at the path in the tree `t`, seen from the directory `cwd`. -/
def lookup (t : Node α) (cwd : AbsPath) (p : PurePath) : Option (FileStat α) :=
  (p.locate t cwd).bind t.stat

example : (ofString "a//b/./c.tar.yaml").suffix = ".yaml" := by decide

/-- The components are such as a text is split into. -/
def Normal (p : PurePath) : Prop := ∀ c ∈ p.parts, c ≠ "" ∧ c ≠ "." ∧ '/' ∉ c.toList

/-- A path is the one that its text stands for. -/
theorem ofString_str {p : PurePath} (h : p.Normal) : ofString p.str = p := by
  obtain ⟨root, parts⟩ := p
  cases parts with
  | nil => cases root <;> rfl
  | cons c cs =>
    have hkeep : (c :: cs).filter (fun c => c ≠ "" && c ≠ ".") = c :: cs :=
      List.filter_eq_self.mpr fun c' hc => by simp [h c' hc]
    have hsplit : (['/'].intercalate ((c :: cs).map String.toList)).splitOn '/' =
        (c :: cs).map String.toList := by
      refine List.splitOn_intercalate '/' ?_ (by simp)
      simpa using ⟨(h c List.mem_cons_self).2.2,
        fun c' hc => (h c' (List.mem_cons_of_mem _ hc)).2.2⟩
    -- The first component begins with no slash, so that the slashes in front are those of the root.
    obtain ⟨x, more, hchars, hx⟩ : ∃ x more,
        ['/'].intercalate ((c :: cs).map String.toList) = x :: more ∧ x ≠ '/' := by
      obtain ⟨hne, -, hslash⟩ := h c List.mem_cons_self
      obtain ⟨x, xs, hc⟩ := List.exists_cons_of_ne_nil fun hnil : c.toList = [] =>
        hne (String.toList_inj.mp hnil)
      refine ⟨x, ['/'].intercalate (xs :: cs.map String.toList), ?_, fun hx => hslash ?_⟩
      · rw [List.map_cons, hc, List.intercalate_cons_cons_left]
      · rw [hc, hx]
        exact List.mem_cons_self
    have hstr : (str ⟨root, c :: cs⟩).toList = root.str.toList ++ x :: more := by
      rw [str, if_neg (by simp), String.toList_append, String.toList_intercalate, ← hchars]
      rfl
    have hparts : (((x :: more).splitOn '/').map String.ofList).filter
        (fun c => c ≠ "" && c ≠ ".") = c :: cs := by
      have hid : String.ofList ∘ String.toList = id :=
        funext fun _ => String.ofList_toList
      rw [← hchars, hsplit, List.map_map, hid, List.map_id, hkeep]
    cases root <;>
      simpa [ofString, hstr, PathRoot.str, List.splitOn_cons_eq_if_modifyHead, hx] using hparts

/-- Where a path leads depends on the directories of the tree only. -/
theorem locate_congr {t t' : Node α} (h : ∀ q, t.stat q = some .dir ↔ t'.stat q = some .dir)
    (cwd : AbsPath) (p : PurePath) : p.locate t cwd = p.locate t' cwd :=
  Node.walk_congr h _ _

/-- No `..` is left when the current directory has none. -/
theorem dotdot_notMem_resolve {cwd : AbsPath} (h : ".." ∉ cwd) (p : PurePath) :
    ".." ∉ p.resolve cwd := by
  have hfold (cs : List String) (q : AbsPath) (hq : ".." ∉ q) :
      ".." ∉ cs.foldl (fun q c => if c = ".." then q.dropLast else q ++ [c]) q := by
    induction cs generalizing q with
    | nil => exact hq
    | cons c cs ih =>
      rw [List.foldl_cons]
      split_ifs with hc
      · exact ih _ fun hmem => hq (List.mem_of_mem_dropLast hmem)
      · exact ih _ (by simp [hq, Ne.symm hc])
  rw [resolve]
  split_ifs
  · exact hfold _ _ h
  · exact hfold _ _ List.not_mem_nil

/-- An absolute path without `..` is its own absolute path. -/
theorem resolve_ofAbs {p : AbsPath} (h : ".." ∉ p) (cwd : AbsPath) :
    (ofAbs p).resolve cwd = p := by
  have hfold (cs : List String) (q : AbsPath) (hcs : ".." ∉ cs) :
      cs.foldl (fun q c => if c = ".." then q.dropLast else q ++ [c]) q = q ++ cs := by
    induction cs generalizing q with
    | nil => simp
    | cons c cs ih =>
      have hc : c ≠ ".." := fun h => hcs (h ▸ List.mem_cons_self)
      have hrest : ".." ∉ cs := fun h => hcs (List.mem_cons_of_mem c h)
      rw [List.foldl_cons, if_neg hc, ih _ hrest, List.append_assoc, List.singleton_append]
  exact hfold p [] h

end PurePath

end ClassroomSuite.Library
