import Mathlib.Data.List.Basic
import Mathlib.Data.List.Infix
import ClassroomSuite.Library.Assoc

/-!
# File trees

A file tree is a regular file or a directory of named entries; there are no links. A path is the
list of names from the root of the tree. Being a tree, it has no entry below a regular file or
below an absent name (`Node.stat_eq_dir_of_append`), so a directory without entries has no file
below it, and replacing the subtree at a path changes nothing outside it
(`Node.stat_put_of_not_prefix`).

`Node.removals` is the order in which a tree is removed, each directory after its entries. What is
at a path is taken by the first removal of the path or of a directory above it.

## Main definitions

* `Node`, `FileStat`, `AbsPath`.
* `Node.get`, `Node.stat`, `Node.put`, `Node.names`.
* `Node.walk`: path resolution with `..` components.
* `Node.removals`, `Node.removalsBefore`: the bottom-up removal of a tree.
-/

namespace ClassroomSuite.Library

/-- The names of a path, from the root of the tree. -/
abbrev AbsPath := List String

/-- A regular file with its data, or a directory with its entries in listing order. -/
inductive Node (α : Type) where
  | file (data : α)
  | dir (entries : List (String × Node α))

/-- What `stat` reports of an existing path. -/
inductive FileStat (α : Type) where
  | file (data : α)
  | dir
  deriving DecidableEq, Repr

variable {α : Type}

namespace Node

/-! ### Reading a tree -/

/-- The subtree at a path. -/
def get : Node α → AbsPath → Option (Node α)
  | n, [] => some n
  | .file _, _ :: _ => none
  | .dir es, c :: cs => (es.lookup c).bind fun n => n.get cs

/-- The kind of the root of a tree. -/
def kind : Node α → FileStat α
  | .file a => .file a
  | .dir _ => .dir

/-- What is at a path, if anything. -/
def stat (t : Node α) (p : AbsPath) : Option (FileStat α) :=
  (t.get p).map kind

/-- The names in the directory at a path. -/
def names (t : Node α) (p : AbsPath) : List String :=
  match t.get p with
  | some (.dir es) => es.map Prod.fst
  | _ => []

@[simp] theorem get_nil (t : Node α) : t.get [] = some t := by cases t <;> rfl

@[simp] theorem get_dir_cons (es : List (String × Node α)) (c : String) (cs : AbsPath) :
    (Node.dir es).get (c :: cs) = (es.lookup c).bind fun n => n.get cs := rfl

@[simp] theorem stat_nil (t : Node α) : t.stat [] = some t.kind := by simp [stat]

@[simp] theorem stat_file_cons (a : α) (c : String) (cs : AbsPath) :
    (Node.file a).stat (c :: cs) = none := rfl

@[simp] theorem stat_dir_cons (es : List (String × Node α)) (c : String) (cs : AbsPath) :
    (Node.dir es).stat (c :: cs) = (es.lookup c).bind fun n => n.stat cs := by
  simp only [stat, get_dir_cons]
  cases es.lookup c <;> rfl

theorem get_append (t : Node α) (p q : AbsPath) :
    t.get (p ++ q) = (t.get p).bind fun n => n.get q := by
  induction p generalizing t with
  | nil => simp
  | cons c p ih =>
    cases t with
    | file a => rfl
    | dir es =>
      simp only [List.cons_append, get_dir_cons]
      cases es.lookup c with
      | none => rfl
      | some n => exact ih n

theorem stat_append (t : Node α) (p q : AbsPath) :
    t.stat (p ++ q) = (t.get p).bind fun n => n.stat q := by
  rw [stat, get_append]
  cases t.get p <;> rfl

theorem stat_eq_dir_iff {t : Node α} {p : AbsPath} :
    t.stat p = some .dir ↔ ∃ es, t.get p = some (.dir es) := by
  unfold stat
  cases h : t.get p with
  | none => simp
  | some n => cases n <;> simp [kind]

/-- Whatever exists below a path exists in a directory. -/
theorem stat_eq_dir_of_append {t : Node α} {p q : AbsPath} {x : FileStat α} (hq : q ≠ [])
    (h : t.stat (p ++ q) = some x) : t.stat p = some .dir := by
  rw [stat_append] at h
  rw [stat]
  cases hp : t.get p with
  | none => simp [hp] at h
  | some n =>
    obtain ⟨c, q, rfl⟩ := List.exists_cons_of_ne_nil hq
    cases n with
    | file a => simp [hp] at h
    | dir es => rfl

/-- A directory with something below it is not empty. -/
theorem names_ne_nil_of_append {t : Node α} {p q : AbsPath} {x : FileStat α} (hq : q ≠ [])
    (h : t.stat (p ++ q) = some x) : t.names p ≠ [] := by
  obtain ⟨es, hes⟩ := stat_eq_dir_iff.mp (stat_eq_dir_of_append hq h)
  obtain ⟨c, q, rfl⟩ := List.exists_cons_of_ne_nil hq
  rw [stat_append, hes] at h
  rw [names, hes]
  cases es with
  | nil => simp at h
  | cons e es => simp

/-- A directory is absent or empty if nothing is in it. -/
theorem names_eq_nil_iff {t : Node α} {p : AbsPath} :
    t.names p = [] ↔ ∀ c, t.stat (p ++ [c]) = none := by
  refine ⟨fun h c => ?_, fun h => ?_⟩
  · rw [Option.eq_none_iff_forall_ne_some]
    exact fun x hx => names_ne_nil_of_append (List.cons_ne_nil c []) hx h
  · rw [names]
    split
    · next es hes =>
      cases es with
      | nil => rfl
      | cons e es =>
        obtain ⟨c, n⟩ := e
        have hfirst := h c
        simp [stat_append, hes, List.lookup_cons_self] at hfirst
    · rfl

/-! ### Replacing a subtree -/

/-- Replace the subtree at a path, or remove it (`none`). Nothing happens where the parent is not
a directory, and the root is never removed. -/
def put : Node α → AbsPath → Option (Node α) → Node α
  | t, [], none => t
  | _, [], some n => n
  | .file a, _ :: _, _ => .file a
  | .dir es, [c], none => .dir (assocErase c es)
  | .dir es, [c], some n => .dir (assocSet c n es)
  | .dir es, c :: c' :: cs, m =>
    match es.lookup c with
    | none => .dir es
    | some n => .dir (assocSet c (n.put (c' :: cs) m) es)

/-- Replacing the subtree at a path changes nothing outside it. -/
theorem stat_put_of_not_prefix (t : Node α) (p q : AbsPath) (m : Option (Node α))
    (h : ¬ p <+: q) : (t.put p m).stat q = t.stat q := by
  induction p generalizing t q with
  | nil => exact absurd (List.nil_prefix) h
  | cons c p ih =>
    cases t with
    | file a => simp [put]
    | dir es =>
      cases q with
      | nil => cases p <;> cases m <;> simp only [put] <;> (try split) <;> simp [kind]
      | cons d q =>
        cases p with
        | nil =>
          have hd : d ≠ c := fun hd => h (by simp [hd])
          cases m <;> simp [put, hd]
        | cons c' p =>
          simp only [put]
          cases hc : es.lookup c with
          | none => rfl
          | some n =>
            simp only [stat_dir_cons, lookup_assocSet]
            split_ifs with hd
            · subst hd
              have hq : ¬ (c' :: p) <+: q := fun hpq => h (List.cons_prefix_cons.mpr ⟨rfl, hpq⟩)
              simpa [hc] using ih n q hq
            · rfl

/-- Nothing is left at a removed path or below it. -/
theorem stat_put_none_append (t : Node α) {p : AbsPath} (hp : p ≠ []) (r : AbsPath) :
    (t.put p none).stat (p ++ r) = none := by
  induction p generalizing t with
  | nil => exact absurd rfl hp
  | cons c p ih =>
    cases t with
    | file a => simp [put]
    | dir es =>
      cases p with
      | nil => simp [put]
      | cons c' p =>
        simp only [put]
        cases hc : es.lookup c with
        | none => simp [hc]
        | some n => simpa using ih n (List.cons_ne_nil c' p)

/-- The replacement is found at the path when its parent is a directory. -/
theorem get_put_some {t : Node α} {p : AbsPath} {c : String} (n : Node α)
    (h : t.stat p = some .dir) : (t.put (p ++ [c]) (some n)).get (p ++ [c]) = some n := by
  induction p generalizing t with
  | nil =>
    obtain ⟨es, hes⟩ := stat_eq_dir_iff.mp h
    obtain rfl : t = .dir es := by simpa using hes
    simp [put]
  | cons d p ih =>
    cases t with
    | file a => simp at h
    | dir es =>
      rw [stat_dir_cons] at h
      cases hd : es.lookup d with
      | none => simp [hd] at h
      | some m =>
        obtain ⟨e, p', hp⟩ := List.exists_cons_of_ne_nil (show p ++ [c] ≠ [] by simp)
        have := ih (t := m) (by simpa [hd] using h)
        simp only [List.cons_append, hp, put, hd] at this ⊢
        simpa using this

/-- What is below a replaced path is what is in the replacement. -/
theorem stat_put_append {t : Node α} {p : AbsPath} (n : Node α) (hp : p ≠ [])
    (hparent : t.stat p.dropLast = some .dir) (r : AbsPath) :
    (t.put p (some n)).stat (p ++ r) = n.stat r := by
  obtain ⟨parent, c, rfl⟩ : ∃ parent c, p = parent ++ [c] :=
    ⟨p.dropLast, p.getLast hp, (List.dropLast_append_getLast hp).symm⟩
  rw [List.dropLast_concat] at hparent
  rw [stat_append, get_put_some n hparent]
  rfl

section Get

variable {t t' : Node α} {p q : AbsPath} {m : Option (Node α)}

/-- Below the path of a replacement nothing is left but the replacement, and nothing at all where
the parent is not a directory. -/
theorem get_put_append (hp : p ≠ []) (r : AbsPath) :
    (t.stat p.dropLast = some .dir → (t.put p m).get (p ++ r) = m.bind fun n => n.get r) ∧
      (t.stat p.dropLast ≠ some .dir → (t.put p m).get (p ++ r) = none) := by
  obtain ⟨parent, c, rfl⟩ : ∃ parent c, p = parent ++ [c] :=
    ⟨p.dropLast, p.getLast hp, (List.dropLast_append_getLast hp).symm⟩
  rw [List.dropLast_concat]
  constructor
  · intro hparent
    cases m with
    | none =>
      have hgone := stat_put_none_append t hp r
      rwa [stat, Option.map_eq_none_iff] at hgone
    | some n => rw [get_append, get_put_some n hparent]
  · intro hparent
    cases hget : (t.put (parent ++ [c]) m).get (parent ++ [c] ++ r) with
    | none => rfl
    | some n =>
      have hstat : (t.put (parent ++ [c]) m).stat (parent ++ ([c] ++ r)) = some n.kind := by
        rw [← List.append_assoc, stat, hget, Option.map_some]
      have hdir := stat_eq_dir_of_append (by simp) hstat
      rw [Node.stat_put_of_not_prefix _ _ _ _ fun h => absurd h.length_le (by simp)] at hdir
      exact absurd hdir hparent

/-- Above a replacement the subtree is the one in which it is made. -/
theorem get_put_of_append {r : AbsPath} (hr : r ≠ []) :
    (t.put (q ++ r) m).get q = (t.get q).map fun n => n.put r m := by
  induction q generalizing t with
  | nil => simp
  | cons c q ih =>
    obtain ⟨c', r', hcons⟩ := List.exists_cons_of_ne_nil (show q ++ r ≠ [] by simp [hr])
    cases t with
    | file a => simp [put, get]
    | dir es =>
      rw [List.cons_append, hcons]
      simp only [put]
      cases hc : es.lookup c with
      | none => simp [hc]
      | some n =>
        rw [get_dir_cons, get_dir_cons, lookup_assocSet, if_pos rfl, hc, Option.bind_some,
          Option.bind_some, ← hcons, ih]

/-- Away from a replacement the subtrees are as before. -/
theorem get_put_of_apart (hpq : ¬ p <+: q) (hqp : ¬ q <+: p) : (t.put p m).get q = t.get q := by
  induction p generalizing t q with
  | nil => exact absurd List.nil_prefix hpq
  | cons c p ih =>
    cases q with
    | nil => exact absurd List.nil_prefix hqp
    | cons d q =>
      cases t with
      | file a => rfl
      | dir es =>
        by_cases hcd : d = c
        · subst hcd
          rw [List.cons_prefix_cons] at hpq hqp
          obtain ⟨c', p', rfl⟩ := List.exists_cons_of_ne_nil
            (show p ≠ [] by rintro rfl; exact hpq ⟨rfl, List.nil_prefix⟩)
          simp only [put]
          cases hd : es.lookup d with
          | none => rfl
          | some n =>
            rw [get_dir_cons, get_dir_cons, lookup_assocSet, if_pos rfl, hd, Option.bind_some,
              Option.bind_some, ih (fun h => hpq ⟨rfl, h⟩) fun h => hqp ⟨rfl, h⟩]
        · cases p with
          | nil => cases m <;> simp [put, hcd]
          | cons c' p =>
            simp only [put]
            cases es.lookup c with
            | none => rfl
            | some n => simp [hcd]

/-- Where the parents are alike, a replacement leaves subtrees alike that were. -/
theorem get_put_congr (hparent : t.stat p.dropLast = t'.stat p.dropLast)
    (hq : t.get q = t'.get q) : (t.put p m).get q = (t'.put p m).get q := by
  by_cases hp : p = []
  · subst hp
    cases m with
    | none => simpa [put] using hq
    | some n => rfl
  by_cases hpq : p <+: q
  · obtain ⟨r, rfl⟩ := hpq
    by_cases hdir : t.stat p.dropLast = some .dir
    · rw [(get_put_append hp r).1 hdir, (get_put_append hp r).1 (hparent ▸ hdir)]
    · rw [(get_put_append hp r).2 hdir, (get_put_append hp r).2 (hparent ▸ hdir)]
  by_cases hqp : q <+: p
  · obtain ⟨r, rfl⟩ := hqp
    have hr : r ≠ [] := by
      rintro rfl
      exact hpq (by simp)
    rw [get_put_of_append hr, get_put_of_append hr, hq]
  · rw [get_put_of_apart hpq hqp, get_put_of_apart hpq hqp, hq]

/-- Where the parents are alike, a replacement leaves paths alike that were. -/
theorem stat_put_congr (hparent : t.stat p.dropLast = t'.stat p.dropLast)
    (hq : t.stat q = t'.stat q) : (t.put p m).stat q = (t'.put p m).stat q := by
  by_cases hp : p = []
  · subst hp
    cases m with
    | none => simpa [put] using hq
    | some n => rfl
  by_cases hpq : p <+: q
  · obtain ⟨r, rfl⟩ := hpq
    by_cases hdir : t.stat p.dropLast = some .dir
    · rw [stat, stat, (get_put_append hp r).1 hdir, (get_put_append hp r).1 (hparent ▸ hdir)]
    · rw [stat, stat, (get_put_append hp r).2 hdir, (get_put_append hp r).2 (hparent ▸ hdir)]
  · rw [Node.stat_put_of_not_prefix _ _ _ _ hpq, Node.stat_put_of_not_prefix _ _ _ _ hpq, hq]

end Get

/-- A file put in place of a file, or where there was nothing, changes nothing else. -/
theorem stat_put_file {t : Node α} {p q : AbsPath} (a : α) (hp : t.stat p ≠ some .dir)
    (hparent : t.stat p.dropLast = some .dir) (hpq : q ≠ p) :
    (t.put p (some (.file a))).stat q = t.stat q := by
  have hne : p ≠ [] := by
    rintro rfl
    exact hp hparent
  by_cases hprefix : p <+: q
  · obtain ⟨r, rfl⟩ := hprefix
    obtain ⟨c, r, rfl⟩ := List.exists_cons_of_ne_nil fun hr : r = [] => hpq (by simp [hr])
    rw [stat_put_append _ hne hparent, stat_file_cons, eq_comm, Option.eq_none_iff_forall_ne_some]
    exact fun x hx => hp (stat_eq_dir_of_append (List.cons_ne_nil c r) hx)
  · exact stat_put_of_not_prefix _ _ _ _ hprefix

/-- Outside `P` the two trees are the same, and they have the same directories. -/
def SameBut (P : AbsPath → Prop) (t t' : Node α) : Prop :=
  (∀ q, ¬ P q → t'.stat q = t.stat q) ∧ ∀ q, t'.stat q = some .dir ↔ t.stat q = some .dir

theorem SameBut.refl (P : AbsPath → Prop) (t : Node α) : SameBut P t t :=
  ⟨fun _ _ => rfl, fun _ => Iff.rfl⟩

/-- Writing a file at a path in `P`. -/
theorem SameBut.put_file {P : AbsPath → Prop} {t t' : Node α} (h : SameBut P t t') {p : AbsPath}
    (hP : P p) (a : α) (hp : t'.stat p ≠ some .dir) (hparent : t'.stat p.dropLast = some .dir) :
    SameBut P t (t'.put p (some (.file a))) := by
  have hother {q : AbsPath} (hq : q ≠ p) := stat_put_file (q := q) a hp hparent hq
  have hput : (t'.put p (some (.file a))).stat p = some (.file a) := by
    have hne : p ≠ [] := by
      rintro rfl
      exact hp hparent
    have happend := stat_put_append (.file a) hne hparent []
    rwa [List.append_nil] at happend
  refine ⟨fun q hq => ?_, fun q => ?_⟩
  · have hqp : q ≠ p := by
      rintro rfl
      exact hq hP
    exact (hother hqp).trans (h.1 q hq)
  by_cases hqp : q = p
  · subst hqp
    exact iff_of_false (by simp [hput]) fun hdir => hp ((h.2 q).mpr hdir)
  · rw [hother hqp, h.2 q]

/-! ### Path resolution -/

/-- Follow the names of a path from the directory `base`: a name leads out of a directory only,
and `..` leads to its parent. -/
def walk (t : Node α) (base : AbsPath) : List String → Option AbsPath
  | [] => some base
  | c :: cs =>
    match t.stat base with
    | some .dir => if c = ".." then t.walk base.dropLast cs else t.walk (base ++ [c]) cs
    | some (.file _) => none
    | none => none

/-- Path resolution depends on the directories of the tree only. -/
theorem walk_congr {t t' : Node α} (h : ∀ p, t.stat p = some .dir ↔ t'.stat p = some .dir)
    (base : AbsPath) (cs : List String) : t.walk base cs = t'.walk base cs := by
  induction cs generalizing base with
  | nil => rfl
  | cons c cs ih =>
    by_cases hb : t.stat base = some .dir
    · simp only [walk, hb, (h base).mp hb, ih]
    · have hb' : t'.stat base ≠ some .dir := fun hb' => hb ((h base).mpr hb')
      have walk_eq_none (u : Node α) (hu : u.stat base ≠ some .dir) :
          u.walk base (c :: cs) = none := by
        rw [walk]
        split
        · contradiction
        · rfl
        · rfl
      rw [walk_eq_none t hb, walk_eq_none t' hb']

/-! ### Removing a tree -/

mutual

/-- The paths of a tree in the order in which it is removed, each directory after its entries. -/
def removals : Node α → List AbsPath
  | .file _ => [[]]
  | .dir es => entryRemovals es ++ [[]]

/-- The paths below the entries of a directory in the order in which they are removed. -/
def entryRemovals : List (String × Node α) → List AbsPath
  | [] => []
  | (c, n) :: es => n.removals.map (c :: ·) ++ entryRemovals es

end

/-- The number of removals before the first one that takes what is at the path `r`. -/
def removalsBefore (n : Node α) (r : AbsPath) : ℕ := n.removals.findIdx fun e => e.isPrefixOf r

example : (Node.dir [("a", .file 1), ("b", .dir [("c", .file 2)])]).removals =
    [["a"], ["b", "c"], ["b"], []] := by decide

theorem nil_mem_removals (n : Node α) : [] ∈ n.removals := by
  cases n <;> simp [removals]

theorem ne_nil_of_mem_entryRemovals {es : List (String × Node α)} {e : AbsPath}
    (h : e ∈ entryRemovals es) : e ≠ [] := by
  induction es with
  | nil => simp [entryRemovals] at h
  | cons entry es ih =>
    rw [entryRemovals, List.mem_append] at h
    rcases h with h | h
    · obtain ⟨e', -, rfl⟩ := List.mem_map.mp h
      exact List.cons_ne_nil _ _
    · exact ih h

theorem singleton_mem_entryRemovals {es : List (String × Node α)} {c : String} {n : Node α}
    (h : es.lookup c = some n) : [c] ∈ entryRemovals es := by
  induction es with
  | nil => simp at h
  | cons entry es ih =>
    rw [entryRemovals, List.mem_append]
    rw [lookup_cons_eq] at h
    by_cases hc : entry.1 = c
    · exact Or.inl (List.mem_map.mpr ⟨[], nil_mem_removals _, by rw [hc]⟩)
    · exact Or.inr (ih (by rwa [if_neg hc] at h))

/-- The first removal that takes an existing path is that of the path or of a directory above it,
but not that of the root, unless the path is the root. -/
theorem exists_find_removals {n : Node α} {r : AbsPath} {x : FileStat α} (h : n.stat r = some x) :
    ∃ e, n.removals.find? (fun e => e.isPrefixOf r) = some e ∧ (e = [] → r = []) := by
  cases r with
  | nil =>
    have hsome : (n.removals.find? fun e => e.isPrefixOf []).isSome :=
      List.find?_isSome.mpr ⟨[], nil_mem_removals n, rfl⟩
    obtain ⟨e, he⟩ := Option.isSome_iff_exists.mp hsome
    exact ⟨e, he, fun _ => rfl⟩
  | cons c cs =>
    cases n with
    | file a => simp at h
    | dir es =>
      obtain ⟨n, hn⟩ : ∃ n, es.lookup c = some n := by
        cases hc : es.lookup c with
        | none => simp [hc] at h
        | some n => exact ⟨n, rfl⟩
      have hsome : ((entryRemovals es).find? fun e => e.isPrefixOf (c :: cs)).isSome :=
        List.find?_isSome.mpr ⟨[c], singleton_mem_entryRemovals hn, by simp⟩
      obtain ⟨e, he⟩ := Option.isSome_iff_exists.mp hsome
      refine ⟨e, ?_, fun hnil => ?_⟩
      · rw [removals, List.find?_append, he, Option.some_or]
      · exact absurd hnil (ne_nil_of_mem_entryRemovals (List.mem_of_find?_eq_some he))

end Node

end ClassroomSuite.Library
