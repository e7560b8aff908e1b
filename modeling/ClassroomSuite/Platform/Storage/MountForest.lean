import ClassroomSuite.Platform.Storage.DeviceTree

/-!
# The nodes of the mount forest

`findmnt` prints a forest of mounts, and the parser walks it from the top into a list that has each
mount before those below it. The walk calls itself once for each level, so that it is exact up to
the recursion limit of the interpreter: it does not return where it comes to a deeper node, and what
it raises there is no value error.

Source: `cli/src/bcs/platform/adapters/storage/parser.py`.

## Main definitions

* `MountNode`, `MountNode.children`, `MountNode.mount`: a node with its place in the forest.
* `WellFormedMount`.
* `FlattenedExactly`, `ReachesLimit`.

## Main results

* `flattenedExactly_iff`.
-/

namespace ClassroomSuite.Platform.Storage

open Python Library

/-- The text under a key, empty if there is none. -/
def textAt (entry : Json) (key : String) : String :=
  match entry.field key with
  | .str s => s
  | _ => ""

/-- An entry of the forest, the target of the entry above it, and the number of entries above. -/
structure MountNode where
  entry : Json
  parent : Option String
  depth : ℕ

/-- The nodes below a node. -/
def MountNode.children (node : MountNode) : List MountNode :=
  (Storage.children node.entry).map fun child =>
    ⟨child, some (textAt node.entry "target"), node.depth + 1⟩

/-- The nodes at the top of the forest. -/
def mountRoots (entries : List Json) : List MountNode := entries.map fun entry => ⟨entry, none, 0⟩

/-- The mount that a node stands for. -/
def MountNode.mount (node : MountNode) : MountEntry where
  source := textAt node.entry "source"
  target := textAt node.entry "target"
  fstype := textAt node.entry "fstype"
  options := textAt node.entry "options"
  parent := node.parent

/-- The fields of a mount. -/
def mountKeys : List String := ["target", "source", "fstype", "options"]

/-- An entry that has the four texts, and a list of children if it has any. -/
structure WellFormedMount (entry : Json) : Prop where
  texts : ∀ key ∈ mountKeys, textAt entry key ≠ ""
  children : entry.field "children" (.arr []) = .arr (children entry)

variable (rt : ModelRuntime)

/-- The texts of an entry are accepted by the model. -/
def AcceptedMount (entry : Json) : Prop :=
  ∀ key ∈ mountKeys, rt.acceptsText (textAt entry key) = true

/-- The walk can read a node: it is well formed, accepted, and not beyond the recursion limit. -/
structure Readable (node : MountNode) : Prop where
  wellFormed : WellFormedMount node.entry
  accepted : AcceptedMount rt node.entry
  depth_lt : node.depth < rt.recursionLimit

/-- The walk meets a node beyond the recursion limit, and everything before it can be read. -/
def ReachesLimit (nodes : List MountNode) : Prop :=
  ∃ before node after, nodes = before ++ node :: after ∧
    (∀ n ∈ before, Readable rt n) ∧ rt.recursionLimit ≤ node.depth

/-- If the nodes are well formed their mounts are returned, in their order; else a value error is
raised. -/
def FlattenedExactly (text : String) (nodes : List MountNode) : Prop :=
  match parseFindmnt rt text with
  | .ok mounts => (∀ node ∈ nodes, WellFormedMount node.entry) ∧
      mounts = nodes.map MountNode.mount
  | .error e => (¬ ∀ node ∈ nodes, WellFormedMount node.entry) ∧ e.isValueError = true

variable {rt}

/-! ### One entry -/

/-- Requiring a text returns it, or raises a value error if there is none. -/
theorem requireStr_eq {entry : Json} (hobj : entry.isObj = true) (key tool context : String) :
    requireStr rt entry key tool context =
      if textAt entry key = "" then
        .error (.valueError (tool ++ ": missing or empty " ++ rt.text.repr key ++
          whereText rt context))
      else .ok (textAt entry key) := by
  rw [requireStr, Json.get_eq_field hobj, ok_bind, textAt]
  cases entry.field key <;> rfl

/-- What requires a text raises a value error where it does with the text. -/
theorem requireStr_bind_error {β : Type} {entry : Json} {key tool context : String}
    {k : String → Except PyError β} (hobj : entry.isObj = true)
    (h : textAt entry key ≠ "" → ∃ e, k (textAt entry key) = .error e ∧ e.isValueError = true) :
    ∃ e, requireStr rt entry key tool context >>= k = .error e ∧ e.isValueError = true := by
  rw [requireStr_eq hobj]
  split_ifs with hempty
  · exact ⟨_, rfl, rfl⟩
  · exact h hempty

/-- Something other than a list of children is a value error. -/
theorem childrenOf_of_not {entry : Json} (hobj : entry.isObj = true)
    (h : entry.field "children" (.arr []) ≠ .arr (children entry)) (problem : String) :
    childrenOf entry problem = .error (.valueError problem) := by
  rw [childrenOf, Json.get_eq_field hobj, ok_bind]
  cases hfield : entry.field "children" (.arr []) with
  | arr items => exact absurd (by rw [children, hfield]) (hfield ▸ h)
  | _ => rfl

theorem accepts_of_textField {field s t : String} (h : textField rt field s = .ok t) :
    rt.acceptsText s = true := by
  by_contra hs
  rw [textField, if_neg hs] at h
  cases h

/-- The model takes texts that it accepts. -/
theorem MountEntry.make_of_accepts {source target fstype options : String} {parent : Option String}
    (hsource : rt.acceptsText source = true) (htarget : rt.acceptsText target = true)
    (hfstype : rt.acceptsText fstype = true) (hoptions : rt.acceptsText options = true)
    (hparent : ∀ t, parent = some t → rt.acceptsText t = true) :
    MountEntry.make rt source target fstype options parent =
      .ok { source, target, fstype, options, parent } := by
  rw [MountEntry.make, textField_of_accepts rt hsource, textField_of_accepts rt htarget,
    textField_of_accepts rt hfstype, textField_of_accepts rt hoptions,
    optionalTextField_of_accepts rt hparent]
  rfl

/-- The model raises a value error, or it has accepted the texts. -/
theorem MountEntry.make_error_or (source target fstype options : String)
    (parent : Option String) :
    (∃ message, MountEntry.make rt source target fstype options parent =
        .error (.validationError message)) ∨
      (∃ mount, MountEntry.make rt source target fstype options parent = .ok mount) ∧
        rt.acceptsText source = true ∧ rt.acceptsText target = true ∧
        rt.acceptsText fstype = true ∧ rt.acceptsText options = true := by
  cases h : MountEntry.make rt source target fstype options parent with
  | error e =>
    obtain ⟨message, rfl⟩ := construct_eq_error rt h
    exact Or.inl ⟨message, rfl⟩
  | ok mount =>
    refine Or.inr ⟨⟨mount, rfl⟩, ?_⟩
    obtain ⟨fields, hfields, -⟩ :=
      bind_eq_ok_iff.mp ((construct_eq_ok_iff rt).mp h)
    simp only [both_eq_ok_iff] at hfields
    obtain ⟨hsource, htarget, hfstype, hoptions, -⟩ := hfields
    exact ⟨accepts_of_textField hsource, accepts_of_textField htarget,
      accepts_of_textField hfstype, accepts_of_textField hoptions⟩

/-- The walk of a node, as far below the recursion limit as the node is. -/
def parseMountNode (rt : ModelRuntime) (node : MountNode) : Except PyError (List MountEntry) :=
  parseMountEntry rt (rt.recursionLimit - node.depth) node.entry node.parent

/-- A node that can be read gives its mount and what the nodes below it give. -/
theorem Readable.parseMountNode_eq {node : MountNode} (h : Readable rt node)
    (hobj : node.entry.isObj = true)
    (hparent : ∀ t, node.parent = some t → rt.acceptsText t = true) :
    parseMountNode rt node = do
      let below ← node.children.mapM (parseMountNode rt)
      return node.mount :: below.flatten := by
  obtain ⟨hwell, haccepted, hdepth⟩ := h
  obtain ⟨limit, hlimit⟩ : ∃ limit, rt.recursionLimit - node.depth = limit + 1 :=
    ⟨_, (Nat.sub_one_add_one (by omega)).symm⟩
  have hbelow : rt.recursionLimit - (node.depth + 1) = limit := by omega
  obtain ⟨htarget, hsource, hfstype, hoptions⟩ :
      textAt node.entry "target" ≠ "" ∧ textAt node.entry "source" ≠ "" ∧
        textAt node.entry "fstype" ≠ "" ∧ textAt node.entry "options" ≠ "" := by
    simpa [mountKeys] using hwell.texts
  rw [parseMountNode, hlimit, parseMountEntry, requireStr_eq hobj, if_neg htarget, ok_bind,
    requireStr_eq hobj, if_neg hsource, ok_bind, requireStr_eq hobj, if_neg hfstype, ok_bind,
    requireStr_eq hobj, if_neg hoptions, ok_bind,
    MountEntry.make_of_accepts (haccepted _ (by simp [mountKeys]))
      (haccepted _ (by simp [mountKeys])) (haccepted _ (by simp [mountKeys]))
      (haccepted _ (by simp [mountKeys])) hparent, ok_bind,
    childrenOf, Json.get_eq_field hobj, hwell.children]
  simp only [ok_bind, pure_eq_ok, MountNode.children, List.mapM_map, Function.comp_def,
    parseMountNode, hbelow]
  rfl

/-- A node that cannot be read raises a value error, and one beyond the recursion limit another
one. -/
theorem parseMountNode_of_not_readable {node : MountNode} (hobj : node.entry.isObj = true)
    (h : ¬ Readable rt node) :
    ∃ e, parseMountNode rt node = .error e ∧
      e.isValueError = decide (node.depth < rt.recursionLimit) := by
  by_cases hdepth : node.depth < rt.recursionLimit
  swap
  · refine ⟨.recursionError "maximum recursion depth exceeded", ?_, (decide_eq_false hdepth).symm⟩
    rw [parseMountNode, Nat.sub_eq_zero_of_le (Nat.le_of_not_lt hdepth)]
    rfl
  obtain ⟨limit, hlimit⟩ : ∃ limit, rt.recursionLimit - node.depth = limit + 1 :=
    ⟨_, (Nat.sub_one_add_one (by omega)).symm⟩
  rw [decide_eq_true hdepth, parseMountNode, hlimit, parseMountEntry]
  -- The first of the checks that fails raises the error.
  refine requireStr_bind_error hobj fun htarget => requireStr_bind_error hobj fun hsource =>
    requireStr_bind_error hobj fun hfstype => requireStr_bind_error hobj fun hoptions => ?_
  obtain ⟨message, herror⟩ | ⟨⟨mount, hmount⟩, hacc⟩ := @MountEntry.make_error_or rt
    (textAt node.entry "source") (textAt node.entry "target") (textAt node.entry "fstype")
    (textAt node.entry "options") node.parent
  · exact ⟨.validationError message, by rw [herror, error_bind], rfl⟩
  have hchildren : node.entry.field "children" (.arr []) ≠ .arr (children node.entry) :=
    fun hchildren => h ⟨⟨by simp [mountKeys, *], hchildren⟩, by
      simp [AcceptedMount, mountKeys, hacc], hdepth⟩
  exact ⟨.valueError _, by rw [hmount, ok_bind, childrenOf_of_not hobj hchildren, error_bind], rfl⟩

/-! ### The walk -/

/-- What a walk over the nodes comes to: all can be read, and it returns their mounts, or it raises
an error at the first that cannot. -/
def Walked (rt : ModelRuntime) (nodes : List MountNode) :
    Except PyError (List MountEntry) → Prop
  | .ok mounts => (∀ node ∈ nodes, Readable rt node) ∧ mounts = nodes.map MountNode.mount
  | .error e => ∃ before node after, nodes = before ++ node :: after ∧
      (∀ n ∈ before, Readable rt n) ∧ ¬ Readable rt node ∧
      e.isValueError = decide (node.depth < rt.recursionLimit)

/-- A walk goes on after one that has returned. -/
theorem Walked.append {nodes nodes' : List MountNode} {m m' : Except PyError (List MountEntry)}
    (h : Walked rt nodes m) (h' : Walked rt nodes' m') :
    Walked rt (nodes ++ nodes') (do
      let mounts ← m
      let mounts' ← m'
      return mounts ++ mounts') := by
  cases m with
  | error e =>
    obtain ⟨before, node, after, rfl, hbefore, hnode, he⟩ := h
    exact ⟨before, node, after ++ nodes', by simp, hbefore, hnode, he⟩
  | ok mounts =>
    obtain ⟨hread, rfl⟩ := h
    cases m' with
    | error e =>
      obtain ⟨before, node, after, rfl, hbefore, hnode, he⟩ := h'
      exact ⟨nodes ++ before, node, after, by simp, List.forall_mem_append.mpr ⟨hread, hbefore⟩,
        hnode, he⟩
    | ok mounts' =>
      obtain ⟨hread', rfl⟩ := h'
      exact ⟨List.forall_mem_append.mpr ⟨hread, hread'⟩, List.map_append.symm⟩

/-- The walk below a node that can be read is the rest of the walk of the node. -/
theorem Walked.cons {root : MountNode} {below : List MountNode}
    {m : Except PyError (List (List MountEntry))} (hread : Readable rt root)
    (h : Walked rt below (do
      let mounts ← m
      return mounts.flatten)) :
    Walked rt (root :: below) (do
      let mounts ← m
      return root.mount :: mounts.flatten) := by
  cases m with
  | error e =>
    obtain ⟨before, node, after, rfl, hbefore, hnode, he⟩ := h
    exact ⟨root :: before, node, after, rfl, List.forall_mem_cons.mpr ⟨hread, hbefore⟩, hnode, he⟩
  | ok mounts =>
    obtain ⟨hall, hmounts⟩ := h
    exact ⟨List.forall_mem_cons.mpr ⟨hread, hall⟩, congrArg (root.mount :: ·) hmounts⟩

/-- The target of a node that can be read is accepted as a parent. -/
theorem Readable.accepted_parent {root child : MountNode} (h : Readable rt root)
    (hchild : child ∈ root.children) {t : String} (ht : child.parent = some t) :
    rt.acceptsText t = true := by
  obtain ⟨entry, -, rfl⟩ := List.mem_map.mp hchild
  rw [← Option.some.inj ht]
  exact h.accepted _ (by simp [mountKeys])

/-- The walk of a forest whose nodes are objects. The induction is on its nodes: a root that can be
read is followed by the walk of its children, then by that of the next roots. -/
theorem walked_of_forestNodes {roots nodes : List MountNode}
    (h : ForestNodes MountNode.children roots nodes)
    (hobj : ∀ node ∈ nodes, node.entry.isObj = true)
    (hparent : ∀ root ∈ roots, ∀ t, root.parent = some t → rt.acceptsText t = true) :
    Walked rt nodes (do
      let mounts ← roots.mapM (parseMountNode rt)
      return mounts.flatten) := by
  induction h with
  | nil => exact ⟨List.forall_mem_nil _, rfl⟩
  | @cons root roots below nodes hbelow hrest ihbelow ihrest =>
    obtain ⟨hobjRoot, hobjBelow⟩ := List.forall_mem_cons.mp (List.forall_mem_append.mp hobj).1
    obtain ⟨hparentRoot, hparentRest⟩ := List.forall_mem_cons.mp hparent
    rw [List.mapM_cons]
    by_cases hread : Readable rt root
    · have hroot : Walked rt (root :: below) (parseMountNode rt root) := by
        rw [hread.parseMountNode_eq hobjRoot hparentRoot]
        refine (ihbelow hobjBelow fun child hchild t ht => ?_).cons hread
        exact hread.accepted_parent hchild ht
      have hnext := hroot.append (ihrest (List.forall_mem_append.mp hobj).2 hparentRest)
      simpa only [bind_assoc, pure_bind, List.flatten_cons] using hnext
    · obtain ⟨e, he, hkind⟩ := parseMountNode_of_not_readable hobjRoot hread
      rw [he]
      exact ⟨[], root, below ++ nodes, rfl, List.forall_mem_nil _, hread, hkind⟩

/-! ### The output -/

theorem parseFindmnt_eq {text : String} {entries : List Json}
    (h : Lists rt text "filesystems" entries) :
    parseFindmnt rt text = do
      let mounts ← (mountRoots entries).mapM (parseMountNode rt)
      return mounts.flatten := by
  obtain ⟨fields, hloads, hlookup, hall⟩ := h
  rw [parseFindmnt, (loadJson_eq_ok_iff text "findmnt" _).mpr ⟨fields, hloads, rfl⟩, ok_bind,
    (requireList_obj_eq_ok_iff fields "filesystems" "findmnt" entries).mpr ⟨hlookup, hall⟩,
    ok_bind, mountRoots, List.mapM_map]
  rfl

/-- `findmnt` is flattened exactly, unless the walk comes to a node beyond the recursion limit, or
all nodes are well formed and a text of one of them is not accepted by the model. -/
theorem flattenedExactly_iff {text : String} {entries : List Json} {nodes : List MountNode}
    (hlists : Lists rt text "filesystems" entries)
    (hnodes : ForestNodes MountNode.children (mountRoots entries) nodes)
    (hobj : ∀ node ∈ nodes, node.entry.isObj = true) :
    FlattenedExactly rt text nodes ↔
      ¬ ReachesLimit rt nodes ∧
        ((∀ node ∈ nodes, WellFormedMount node.entry) →
          ∀ node ∈ nodes, AcceptedMount rt node.entry) := by
  have hwalk : Walked rt nodes _ := walked_of_forestNodes hnodes hobj fun root hroot t ht => by
    obtain ⟨entry, -, rfl⟩ := List.mem_map.mp hroot
    cases ht
  unfold FlattenedExactly
  rw [parseFindmnt_eq hlists]
  revert hwalk
  cases (do
      let mounts ← (mountRoots entries).mapM (parseMountNode rt)
      return mounts.flatten : Except PyError (List MountEntry)) with
  | ok mounts =>
    rintro ⟨hread, hmounts⟩
    refine iff_of_true ⟨fun node hnode => (hread node hnode).wellFormed, hmounts⟩
      ⟨?_, fun _ node hnode => (hread node hnode).accepted⟩
    rintro ⟨before, node, after, rfl, -, hdepth⟩
    exact absurd (hread node (by simp)).depth_lt (Nat.not_lt.mpr hdepth)
  | error e =>
    rintro ⟨before, node, after, rfl, hbefore, hnode, he⟩
    have hlimit : ReachesLimit rt (before ++ node :: after) ↔
        ¬ node.depth < rt.recursionLimit := by
      constructor
      · rintro ⟨before', node', after', hsplit, hbefore', hdepth⟩
        obtain rfl := first_unique hsplit hbefore hnode hbefore' fun h =>
          Nat.not_lt.mpr hdepth h.depth_lt
        exact Nat.not_lt.mpr hdepth
      · exact fun hdepth => ⟨before, node, after, rfl, hbefore, Nat.le_of_not_lt hdepth⟩
    simp only [he, decide_eq_true_eq, hlimit, not_not]
    -- A node that can be reached and cannot be read is not well formed or not accepted.
    constructor
    · exact fun ⟨hwell, hdepth⟩ => ⟨hdepth, fun hall => absurd hall hwell⟩
    · refine fun ⟨hdepth, haccepted⟩ => ⟨fun hall => hnode ?_, hdepth⟩
      have hmem : node ∈ before ++ node :: after := by simp
      exact ⟨hall node hmem, haccepted hall node hmem, hdepth⟩

/-! ### Mounts nested in each other -/

/-- A mount with the given number of mounts below it, one in the other. -/
def nestedMount : ℕ → Json
  | 0 => .obj [("target", .str "/"), ("source", .str "tmpfs"), ("fstype", .str "tmpfs"),
      ("options", .str "rw")]
  | below + 1 => .obj [("target", .str "/"), ("source", .str "tmpfs"), ("fstype", .str "tmpfs"),
      ("options", .str "rw"), ("children", .arr [nestedMount below])]

/-- The nodes of a nested mount. -/
def nestedNodes : ℕ → Option String → ℕ → List MountNode
  | 0, parent, depth => [⟨nestedMount 0, parent, depth⟩]
  | below + 1, parent, depth =>
    ⟨nestedMount (below + 1), parent, depth⟩ :: nestedNodes below (some "/") (depth + 1)

/-- The runtime in which `findmnt` prints a nested mount. -/
def nestedRuntime (below : ℕ) : ModelRuntime :=
  .reading "findmnt" (.obj [("filesystems", .arr [nestedMount below])])

theorem lists_nested (below : ℕ) :
    Lists (nestedRuntime below) "findmnt" "filesystems" [nestedMount below] :=
  ⟨_, rfl, rfl, List.forall_mem_singleton.mpr (by cases below <;> rfl)⟩

theorem forestNodes_nested (below : ℕ) (parent : Option String) (depth : ℕ) :
    ForestNodes MountNode.children [⟨nestedMount below, parent, depth⟩]
      (nestedNodes below parent depth) := by
  induction below generalizing parent depth with
  | zero =>
    have hbelow : ForestNodes MountNode.children
        (MountNode.children ⟨nestedMount 0, parent, depth⟩) [] := .nil
    exact .cons hbelow .nil
  | succ below ih =>
    have hbelow : ForestNodes MountNode.children
        (MountNode.children ⟨nestedMount (below + 1), parent, depth⟩)
        (nestedNodes below (some "/") (depth + 1)) := ih (some "/") (depth + 1)
    have hroot := hbelow.cons .nil
    rwa [List.append_nil] at hroot

theorem wellFormed_nested (below : ℕ) : WellFormedMount (nestedMount below) := by
  have hzero : ∀ key ∈ mountKeys, textAt (nestedMount 0) key ≠ "" := by decide
  cases below with
  | zero => exact ⟨hzero, rfl⟩
  | succ below =>
    have hsame : ∀ key ∈ mountKeys,
        textAt (nestedMount (below + 1)) key = textAt (nestedMount 0) key := by
      simp only [mountKeys, List.forall_mem_cons]
      exact ⟨rfl, rfl, rfl, rfl, List.forall_mem_nil _⟩
    exact ⟨fun key hkey => hsame key hkey ▸ hzero key hkey, rfl⟩

theorem mem_nestedNodes {below depth : ℕ} {parent : Option String} {node : MountNode}
    (h : node ∈ nestedNodes below parent depth) : ∃ n, node.entry = nestedMount n := by
  induction below generalizing parent depth with
  | zero => exact ⟨0, by rw [List.mem_singleton.mp h]⟩
  | succ below ih =>
    rcases List.mem_cons.mp h with rfl | h
    · exact ⟨below + 1, rfl⟩
    · exact ih h

theorem exists_depth_nested (below : ℕ) (parent : Option String) (depth : ℕ) :
    ∃ node ∈ nestedNodes below parent depth, node.depth = depth + below := by
  induction below generalizing parent depth with
  | zero => exact ⟨_, List.mem_singleton_self _, rfl⟩
  | succ below ih =>
    obtain ⟨node, hnode, hdepth⟩ := ih (some "/") (depth + 1)
    exact ⟨node, List.mem_cons_of_mem _ hnode, by omega⟩

theorem isObj_nestedNodes (below : ℕ) :
    ∀ node ∈ nestedNodes below none 0, node.entry.isObj = true := fun node hnode => by
  obtain ⟨n, hentry⟩ := mem_nestedNodes hnode
  rw [hentry]
  cases n <;> rfl

/-- Two mounts, one in the other, are flattened exactly. -/
theorem flattenedExactly_nested_one :
    FlattenedExactly (nestedRuntime 1) "findmnt" (nestedNodes 1 none 0) := by
  refine (flattenedExactly_iff (lists_nested 1) (forestNodes_nested 1 none 0)
    (isObj_nestedNodes 1)).mpr ⟨?_, fun _ _ _ _ _ => rfl⟩
  rintro ⟨before, node, after, hsplit, -, hdepth⟩
  have hshallow : ∀ n ∈ nestedNodes 1 none 0, n.depth < 1000 := by
    simp [nestedNodes]
  exact absurd (hshallow node (hsplit ▸ by simp)) (Nat.not_lt.mpr hdepth)

theorem not_flattenedExactly_nested {below : ℕ} (hbelow : 1000 ≤ below) :
    ¬ FlattenedExactly (nestedRuntime below) "findmnt" (nestedNodes below none 0) := by
  have hwell : ∀ node ∈ nestedNodes below none 0, WellFormedMount node.entry := fun node hnode => by
    obtain ⟨n, hentry⟩ := mem_nestedNodes hnode
    exact hentry ▸ wellFormed_nested n
  have hwalk : Walked (nestedRuntime below) (nestedNodes below none 0)
      (parseFindmnt (nestedRuntime below) "findmnt") := by
    rw [parseFindmnt_eq (lists_nested below)]
    refine walked_of_forestNodes (forestNodes_nested below none 0) (isObj_nestedNodes below) ?_
    intro root hroot t ht
    rw [List.mem_singleton.mp hroot] at ht
    cases ht
  intro h
  unfold FlattenedExactly at h
  cases hparse : parseFindmnt (nestedRuntime below) "findmnt" with
  | ok mounts =>
    rw [hparse] at hwalk
    obtain ⟨node, hnode, hdepth⟩ := exists_depth_nested below none 0
    have hshallow : node.depth < 1000 := (hwalk.1 node hnode).depth_lt
    omega
  | error e =>
    rw [hparse] at h
    exact h.1 hwell

/-- Mounts nested a thousand deep in another are well formed, but they are not returned, and what is
raised is no value error. -/
theorem not_flattenedExactly_nested_thousand :
    Lists (nestedRuntime 1000) "findmnt" "filesystems" [nestedMount 1000] ∧
      ForestNodes MountNode.children (mountRoots [nestedMount 1000]) (nestedNodes 1000 none 0) ∧
      (∀ node ∈ nestedNodes 1000 none 0, node.entry.isObj = true) ∧
      ¬ FlattenedExactly (nestedRuntime 1000) "findmnt" (nestedNodes 1000 none 0) :=
  ⟨lists_nested 1000, forestNodes_nested 1000 none 0, isObj_nestedNodes 1000,
    not_flattenedExactly_nested le_rfl⟩

end ClassroomSuite.Platform.Storage
