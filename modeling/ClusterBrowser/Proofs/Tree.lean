import ClusterBrowser.Proofs.Memory
import ClusterBrowser.Proofs.Population
import Mathlib.Logic.Function.Iterate

/-!
# The tree of nodes

A namespace keeps all nodes in one table, and in each node a table of the children. The two stay in step, whatever
calls are made and whether they fail or not.

* `Namespace.Links`: the children of a node are nodes right below it, and those of a directory are all of them.
* `Namespace.IsTree`: there is one node for a path, a root, and a directory or file above each node.
* **`Namespace.IsTree.attach`**: attaching a new node below one that is there keeps the tree.
* `PopulationCall.target`: the path at which a call makes something.
* `Namespace.perform_cases`: all that a call may do.
* **`Namespace.Reachable.isTree`**: every reachable namespace is a tree.
-/

namespace ClusterBrowser

namespace PopulationCall

/-- The path at which a call makes something. There is none if the text spells no path or the clock shows no number. -/
def target (call : PopulationCall) (ns : Namespace) : Option Path :=
  match call with
  | mkdir raw _ | addFile raw _ _ =>
    match Path.parse raw, ns.clock.millis with
    | .ok p, some _ => some p
    | _, _ => none
  | deny _ => none

/-- Whether a call makes a file. -/
def makesFile : PopulationCall → Bool
  | addFile .. => true
  | _ => false

end PopulationCall

namespace Namespace

variable {ns : Namespace}

/-! ## Trees -/

/-- The children of the node at `p` are nodes right below it, each under its own name; those of a directory are all that
there are. -/
structure Links (ns : Namespace) (p : Path) (node : Node) : Prop where
  nodup : node.children.keys.Nodup
  child : ∀ entry ∈ node.children, ∃ name : Name,
    entry = (name.text, .child p name) ∧ ns.contains (.child p name) = true
  all : node.info.folder = true → ∀ name : Name, ns.contains (.child p name) = true →
    (name.text, .child p name) ∈ node.children

/-- There is one node for a path, a root, and a node above each node, which hold together by their children. -/
structure IsTree (ns : Namespace) : Prop where
  nodup : ns.nodes.keys.Nodup
  root : ns.contains .root = true
  parent : ∀ p, ns.contains p = true → ns.contains p.parent = true
  links : ∀ p node, ns.find? p = some node → ns.Links p node

theorem contains_iff_mem_keys {p : Path} : ns.contains p = true ↔ p ∈ ns.nodes.keys := Table.isSome_find?_iff

theorem contains_of_find? {p : Path} {node : Node} (h : ns.find? p = some node) : ns.contains p = true := by
  rw [contains, h, Option.isSome_some]

theorem find?_of_contains {p : Path} (h : ns.contains p = true) : ∃ node, ns.find? p = some node :=
  Option.isSome_iff_exists.mp h

/-! ## Links -/

theorem Links.of_contains_eq {s : Namespace} {p : Path} {node : Node} (h : ns.Links p node)
    (hsame : ∀ name, s.contains (.child p name) = ns.contains (.child p name)) : s.Links p node := by
  refine ⟨h.nodup, ?_, ?_⟩
  · intro entry hentry
    obtain ⟨name, heq, hchild⟩ := h.child entry hentry
    exact ⟨name, heq, (hsame name).trans hchild⟩
  · intro hfolder name hchild
    rw [hsame] at hchild
    exact h.all hfolder name hchild

/-- A node without children has its links if it is a file, or if there is nothing below it. -/
theorem Links.of_childless {p : Path} {node : Node} (childless : node.children = [])
    (hnone : node.info.folder = true → ∀ name, ns.contains (.child p name) = false) : ns.Links p node := by
  refine ⟨?_, ?_, ?_⟩
  · rw [childless]
    exact List.nodup_nil
  · rw [childless]
    exact nofun
  · intro hfolder name hchild
    rw [hnone hfolder name] at hchild
    exact absurd hchild Bool.false_ne_true

theorem Links.put {s : Namespace} {p : Path} {node : Node} {name : Name} (h : ns.Links p node)
    (hnew : ∀ q, s.contains q = (decide (.child p name = q) || ns.contains q)) :
    s.Links p { node with children := node.children.put name.text (.child p name) } := by
  refine ⟨Table.nodup_keys_put h.nodup _ _, ?_, ?_⟩
  · rintro ⟨key, q⟩ hentry
    rcases (Table.mem_put_iff h.nodup).mp hentry with ⟨rfl, rfl⟩ | ⟨-, hentry⟩
    · exact ⟨name, rfl, by rw [hnew, decide_eq_true rfl, Bool.true_or]⟩
    · obtain ⟨other, heq, hchild⟩ := h.child _ hentry
      exact ⟨other, heq, by rw [hnew, hchild, Bool.or_true]⟩
  · intro hfolder other hchild
    rw [Table.mem_put_iff h.nodup]
    by_cases hname : other = name
    · subst hname
      exact .inl ⟨rfl, rfl⟩
    · have hne : Path.child p name ≠ .child p other := by
        intro heq
        injection heq with _ heq
        exact hname heq.symm
      rw [hnew, decide_eq_false hne, Bool.false_or] at hchild
      exact .inr ⟨fun htext => hname (Name.ext htext), h.all hfolder other hchild⟩

/-- Whether a namespace is a tree is a matter of its nodes alone. -/
theorem IsTree.of_nodes_eq {s : Namespace} (h : ns.IsTree) (hnodes : s.nodes = ns.nodes) : s.IsTree := by
  obtain ⟨nodes, denied, opened, nextId, clock⟩ := s
  cases hnodes
  exact ⟨h.nodup, h.root, h.parent, fun p node hp => (h.links p node hp).of_contains_eq fun _ => rfl⟩

/-! ## Nodes above a node -/

theorem IsTree.contains_ancestor (h : ns.IsTree) {p a : Path} (hp : ns.contains p = true) (ha : a ∈ p.ancestors) :
    ns.contains a = true := by
  induction p with
  | root => exact nomatch ha
  | child parent name ih =>
    have hparent := h.parent _ hp
    rcases Path.mem_ancestors_child.mp ha with ha | rfl
    · exact ih hparent ha
    · exact hparent

theorem IsTree.contains_of_mem_lineage (h : ns.IsTree) {p a : Path} (hp : ns.contains p = true) (ha : a ∈ p.lineage) :
    ns.contains a = true := by
  rcases Path.mem_lineage.mp ha with ha | rfl
  · exact h.contains_ancestor hp ha
  · exact hp

/-! ## Attaching a node -/

theorem keys_attach (ns : Namespace) (p : Path) (node : Node) :
    (ns.attach p node).nodes.keys = (ns.nodes.put p node).keys := by
  cases p with
  | root => rfl
  | child parent name =>
    simp only [attach]
    exact Table.keys_adjust _ _ _

/-- What is found after a node was attached: that node, the node of the directory above with one child more, or a node
that was there before. -/
theorem find?_attach_cases {p q : Path} {node found : Node} (h : (ns.attach p node).find? q = some found) :
    (p = q ∧ found = node) ∨
      (∃ name old, p = .child q name ∧ ns.find? q = some old ∧
        found = { old with children := old.children.put name.text p }) ∨
      ((∀ name, p ≠ .child q name) ∧ ns.find? q = some found) := by
  cases p with
  | root =>
    rw [find?_attach_root] at h
    split_ifs at h with hroot
    · exact .inl ⟨hroot, (Option.some.inj h).symm⟩
    · exact .inr (.inr ⟨fun _ => nofun, h⟩)
  | child parent name =>
    rw [find?_attach_child] at h
    split_ifs at h with hself hparent
    · exact .inl ⟨hself, (Option.some.inj h).symm⟩
    · obtain ⟨old, hold, rfl⟩ := Option.map_eq_some_iff.mp h
      exact .inr (.inl ⟨name, old, by rw [hparent], hold, rfl⟩)
    · refine .inr (.inr ⟨fun other heq => hparent ?_, h⟩)
      injection heq

/-- **A node without children, attached below one that is there, keeps the tree.** A directory has to be new. -/
theorem IsTree.attach (h : ns.IsTree) {p : Path} {node : Node} (placed : ns.contains p.parent = true)
    (childless : node.children = []) (absent : node.info.folder = true → ns.contains p = false) :
    (ns.attach p node).IsTree where
  nodup := by
    rw [keys_attach]
    exact Table.nodup_keys_put h.nodup p node
  root := by
    rw [contains_attach, h.root, Bool.or_true]
  parent := by
    intro q hq
    rw [contains_attach, Bool.or_eq_true, decide_eq_true_eq] at hq
    rw [contains_attach, Bool.or_eq_true]
    rcases hq with rfl | hq
    · exact .inr placed
    · exact .inr (h.parent q hq)
  links := by
    intro q found hq
    rcases find?_attach_cases hq with ⟨rfl, rfl⟩ | ⟨name, old, rfl, hold, rfl⟩ | ⟨hother, hold⟩
    · -- There is nothing below a new directory, since every node has one above.
      refine .of_childless childless fun hfolder name => ?_
      rw [contains_attach, decide_eq_false (ne_parent p name), Bool.false_or, ← Bool.not_eq_true]
      intro hchild
      have hp : ns.contains p = true := h.parent _ hchild
      rw [absent hfolder] at hp
      exact absurd hp Bool.false_ne_true
    · exact (h.links q old hold).put (contains_attach ns _ node)
    · refine (h.links q found hold).of_contains_eq fun name => ?_
      rw [contains_attach, decide_eq_false (hother name), Bool.false_or]

theorem contains_put {p : Path} (hp : ns.contains p = true) (node : Node) (q : Path) :
    contains { ns with nodes := ns.nodes.put p node } q = ns.contains q := by
  rw [contains, find?_put]
  split_ifs with h
  · rw [← h, hp, Option.isSome_some]
  · rfl

theorem IsTree.put (h : ns.IsTree) {p : Path} {old node : Node} (hp : ns.find? p = some old)
    (hchildren : node.children = old.children) (hfolder : node.info.folder = old.info.folder) :
    IsTree { ns with nodes := ns.nodes.put p node } := by
  have hcontains := contains_put (contains_of_find? hp) node
  refine ⟨Table.nodup_keys_put h.nodup p node, ?_, ?_, ?_⟩
  · rw [hcontains, h.root]
  · intro q hq
    rw [hcontains] at hq ⊢
    exact h.parent q hq
  · intro q found hq
    have hlinks : ns.Links q found := by
      rw [find?_put] at hq
      split_ifs at hq with heq
      · subst heq
        obtain rfl := Option.some.inj hq
        obtain ⟨hnodup, hchild, hall⟩ := h.links p old hp
        rw [← hchildren] at hnodup hchild hall
        rw [← hfolder] at hall
        exact ⟨hnodup, hchild, hall⟩
      · exact h.links q found hq
    exact hlinks.of_contains_eq fun _ => hcontains _

/-! ## Making directories -/

theorem ensureDirectory_of_contains {p : Path} (h : ns.contains p = true) (now : Int) (o : DirectoryOptions) :
    ensureDirectory now o p ns = ns := by
  cases p <;> rw [ensureDirectory, if_pos h]

theorem ite_ensureDirectory (now : Int) (o : DirectoryOptions) (p : Path) (ns : Namespace) :
    (if ns.contains p = true then ns else ensureDirectory now o p ns) = ensureDirectory now o p ns := by
  split_ifs with h
  · exact (ensureDirectory_of_contains h now o).symm
  · rfl

theorem ensureDirectory_child {parent : Path} {name : Name} (h : ns.contains (.child parent name) = false) (now : Int)
    (o : DirectoryOptions) : ensureDirectory now o (.child parent name) ns =
      (ensureDirectory now o parent ns).attach (.child parent name)
        ((ensureDirectory now o parent ns).newDirectory (.child parent name) now o) := by
  rw [ensureDirectory, ite_ensureDirectory, h, if_neg Bool.false_ne_true]

theorem contains_ensureDirectory_self (now : Int) (o : DirectoryOptions) (p : Path) (ns : Namespace) :
    (ensureDirectory now o p ns).contains p = true := by
  rcases h : ns.contains p with _ | _
  · cases p with
    | root =>
      rw [ensureDirectory, h, if_neg Bool.false_ne_true]
      exact contains_of_find? (find?_attach_self ns _ _)
    | child parent name =>
      rw [ensureDirectory_child h]
      exact contains_of_find? (find?_attach_self _ _ _)
  · rw [ensureDirectory_of_contains h]
    exact h

theorem IsTree.ensureDirectory (h : ns.IsTree) (now : Int) (o : DirectoryOptions) (p : Path) :
    (Namespace.ensureDirectory now o p ns).IsTree := by
  induction p with
  | root =>
    rw [ensureDirectory_of_contains h.root]
    exact h
  | child parent name ih =>
    rcases hp : ns.contains (.child parent name) with _ | _
    · rw [ensureDirectory_child hp]
      refine ih.attach (contains_ensureDirectory_self now o parent ns) rfl fun _ => ?_
      rw [contains_ensureDirectory (Nat.lt_succ_self _), hp]
    · rw [ensureDirectory_of_contains hp]
      exact h

/-! ## Calls -/

/-- The namespace in which a file is made, with its blocks unless they would be empty. -/
def withFile (ns : Namespace) (p : Path) (now : Int) (data : Bytes) (o : FileOptions) : Namespace :=
  let node := ns.newFile p now data o
  let made := ns.attach p node
  if o.blockSize = 0 then made else { made with nodes := made.nodes.put p (cut node o) }

theorem perform_addFile_eq {raw : String} {p : Path} {ns : Namespace} {now : Int} (hp : Path.parse raw = .ok p)
    (hnow : ns.clock.millis = some now) (data : Bytes) (o : FileOptions) :
    (PopulationCall.addFile raw data o).perform ns = (ensureDirectory now {} p.parent ns).withFile p now data o := by
  rw [perform_addFile, hp, hnow]
  dsimp only
  rw [ite_ensureDirectory]
  rfl

/-- A call makes a directory, or a file in a directory made before, at its target; without a target it makes nothing. -/
theorem perform_cases (call : PopulationCall) (ns : Namespace) :
    (call.target ns = none ∧ ∃ denied, call.perform ns = { ns with denied }) ∨
      (∃ p now o, call.target ns = some p ∧ call.makesFile = false ∧ call.perform ns = ensureDirectory now o p ns) ∨
      (∃ p now data o, call.target ns = some p ∧ call.makesFile = true ∧
        call.perform ns = (ensureDirectory now {} p.parent ns).withFile p now data o) := by
  cases call with
  | deny raw =>
    rw [perform_deny]
    rcases Path.parse raw with e | p
    · exact .inl ⟨rfl, ns.denied, rfl⟩
    · exact .inl ⟨rfl, ns.denied ++ [p], rfl⟩
  | mkdir raw o =>
    rw [perform_mkdir, PopulationCall.target]
    rcases Path.parse raw with e | p
    · exact .inl ⟨rfl, ns.denied, rfl⟩
    rcases ns.clock.millis with _ | now
    · exact .inl ⟨rfl, ns.denied, rfl⟩
    dsimp only
    rw [ite_ensureDirectory]
    exact .inr (.inl ⟨p, now, o, rfl, rfl, rfl⟩)
  | addFile raw data o =>
    rw [perform_addFile, PopulationCall.target]
    rcases Path.parse raw with e | p
    · exact .inl ⟨rfl, ns.denied, rfl⟩
    rcases ns.clock.millis with _ | now
    · exact .inl ⟨rfl, ns.denied, rfl⟩
    dsimp only
    rw [ite_ensureDirectory]
    exact .inr (.inr ⟨p, now, data, o, rfl, rfl, rfl⟩)

theorem IsTree.withFile (h : ns.IsTree) {p : Path} (placed : ns.contains p.parent = true) (now : Int) (data : Bytes)
    (o : FileOptions) : (ns.withFile p now data o).IsTree := by
  have hmade : (ns.attach p (ns.newFile p now data o)).IsTree := h.attach placed rfl nofun
  rw [Namespace.withFile]
  split_ifs
  · exact hmade
  · exact hmade.put (find?_attach_self _ _ _) rfl rfl

/-- **A call keeps the tree, whether it fails or not.** -/
theorem IsTree.perform (h : ns.IsTree) (call : PopulationCall) : (call.perform ns).IsTree := by
  rcases perform_cases call ns with ⟨-, denied, hperform⟩ | ⟨p, now, o, -, -, hperform⟩ |
    ⟨p, now, data, o, -, -, hperform⟩
  · rw [hperform]
    exact h.of_nodes_eq rfl
  · rw [hperform]
    exact h.ensureDirectory now o p
  · rw [hperform]
    have hparent := contains_ensureDirectory_self now {} p.parent ns
    exact (h.ensureDirectory now {} p.parent).withFile hparent now data o

theorem isTree_root (clock : Clock) {node : Node} (childless : node.children = []) :
    (Namespace.attach { clock } .root node).IsTree := by
  have hfind : ∀ q found, (Namespace.attach { clock } .root node).find? q = some found →
      Path.root = q ∧ found = node := by
    intro q found hq
    rcases find?_attach_cases hq with hq | ⟨_, _, hroot, _⟩ | ⟨_, hold⟩
    · exact hq
    · exact nomatch hroot
    · exact nomatch hold
  refine ⟨List.nodup_singleton _, rfl, ?_, ?_⟩
  · intro q hq
    obtain ⟨found, hq⟩ := find?_of_contains hq
    obtain ⟨rfl, -⟩ := hfind q found hq
    rfl
  · intro q found hq
    obtain ⟨rfl, rfl⟩ := hfind q found hq
    refine .of_childless childless fun _ name => ?_
    rw [← Bool.not_eq_true]
    intro hchild
    obtain ⟨child, hchild⟩ := find?_of_contains hchild
    exact nomatch (hfind _ _ hchild).1

variable {clocks : Clock → Prop} {calls : PopulationCall → Prop}

/-- **Every reachable namespace is a tree.** -/
theorem Reachable.isTree (h : Reachable clocks calls ns) : ns.IsTree := by
  induction h with
  | empty shown made =>
    obtain ⟨now, -, rfl⟩ := empty_eq_ok made
    exact isTree_root _ rfl
  | @call ns clock call before shown allowed ih =>
    have htree : IsTree { ns with clock } := ih.of_nodes_eq rfl
    exact htree.perform call
  | reading before opened ih => exact ih.of_nodes_eq rfl

end Namespace

end ClusterBrowser
