import ClusterBrowser.Proofs.Tree
import Mathlib.Data.List.Forall2

/-!
# Coherent namespaces

What the tree of nodes means for keys, for their texts and for listings.

* `Namespace.Reachable.paths_children`: a listing names the children of a directory.
* `Namespace.HasChild`: the relation between a node and those among its children.
* `Namespace.Coherent`: keys, attributes and children fit together.
* **`Namespace.Reachable.coherent`**: every reachable namespace is coherent.
-/

namespace ClusterBrowser

theorem forall₂_filterMap {α β : Type} {f : α → Option β} {xs : List α} (h : ∀ x ∈ xs, ∃ y, f x = some y) :
    List.Forall₂ (fun x y => f x = some y) xs (xs.filterMap f) := by
  induction xs with
  | nil => exact .nil
  | cons x xs ih =>
    obtain ⟨⟨y, hy⟩, hxs⟩ := List.forall_mem_cons.mp h
    rw [List.filterMap_cons_some hy]
    exact .cons hy (ih hxs)

namespace Namespace

variable {ns : Namespace} {clocks : Clock → Prop} {calls : PopulationCall → Prop}

/-! ## Listings -/

theorem IsTree.children_folder (h : ns.IsTree) {p : Path} {node : Node} (hp : ns.find? p = some node)
    (hfolder : node.info.folder = true) :
    List.Forall₂ (fun entry info => ∃ child, ns.find? entry.2 = some child ∧ child.info = info) node.children
      (ns.children node) := by
  rw [children, if_pos hfolder]
  have hfound : ∀ entry ∈ node.children, ∃ info, (ns.find? entry.2).map Node.info = some info := by
    intro entry hentry
    obtain ⟨name, rfl, hchild⟩ := (h.links p node hp).child entry hentry
    obtain ⟨child, hchild⟩ := find?_of_contains hchild
    exact ⟨child.info, by rw [hchild]; rfl⟩
  exact (forall₂_filterMap hfound).imp fun entry info hentry => Option.map_eq_some_iff.mp hentry

theorem Reachable.paths_children (h : Reachable clocks calls ns) {p : Path} {node : Node} (hp : ns.find? p = some node)
    (hfolder : node.info.folder = true) :
    (ns.children node).map FileInfo.path = node.children.map fun entry => entry.2.text := by
  have hlisted := h.isTree.children_folder hp hfolder
  symm
  rw [← List.forall₂_eq_eq_eq, List.forall₂_map_left_iff, List.forall₂_map_right_iff]
  refine hlisted.imp ?_
  rintro entry info ⟨child, hchild, rfl⟩
  exact (h.sound hchild).path.symm

theorem Reachable.mem_paths_children (h : Reachable clocks calls ns) {p : Path} {node : Node}
    (hp : ns.find? p = some node) (hfolder : node.info.folder = true) {text : String} :
    text ∈ (ns.children node).map FileInfo.path ↔
      ∃ q, ns.contains q = true ∧ q ≠ .root ∧ q.parent = p ∧ q.text = text := by
  have hlinks := h.isTree.links p node hp
  rw [h.paths_children hp hfolder, List.mem_map]
  constructor
  · rintro ⟨entry, hentry, rfl⟩
    obtain ⟨name, rfl, hchild⟩ := hlinks.child entry hentry
    exact ⟨.child p name, hchild, nofun, rfl, rfl⟩
  · rintro ⟨q, hq, hroot, rfl, rfl⟩
    obtain ⟨name, heq⟩ := Path.eq_child_of_ne_root hroot
    rw [heq] at hq
    exact ⟨_, hlinks.all hfolder name hq, by rw [← heq]⟩

theorem Reachable.nodup_paths_children (h : Reachable clocks calls ns) {p : Path} {node : Node}
    (hp : ns.find? p = some node) (hfolder : node.info.folder = true) :
    ((ns.children node).map FileInfo.path).Nodup := by
  have hlinks := h.isTree.links p node hp
  rw [h.paths_children hp hfolder]
  refine List.Nodup.map_on ?_ hlinks.nodup.of_map
  intro entry hentry other hother htext
  obtain ⟨name, rfl, -⟩ := hlinks.child entry hentry
  obtain ⟨name', rfl, -⟩ := hlinks.child other hother
  injection Path.text_injective htext with _ hname
  rw [hname]

/-! ## Answers -/

section Answers

variable (h : Reachable clocks calls ns) (hdeny : ∀ raw, ¬ calls (.deny raw)) {p : Path} {node : Node}
  (hp : ns.find? p = some node) (masterAddress : String) (tiers : List String)
include h hdeny hp

theorem Reachable.answer_text {α : Type} (see : Node → α) : ns.answer p.text see = .ok (see node) := by
  rw [answer, h.lookup_text hdeny hp]
  rfl

theorem Reachable.exec_status :
    ((cluster masterAddress tiers).status p.text).exec ns = (.ok node.info, ns) := by
  rw [Namespace.exec_status, h.answer_text hdeny hp]
  rfl

theorem Reachable.exec_list :
    ((cluster masterAddress tiers).list p.text).exec ns = (.ok (ns.children node), ns) := by
  rw [Namespace.exec_list, h.answer_text hdeny hp]
  rfl

theorem Reachable.exec_blocks :
    ((cluster masterAddress tiers).blocks p.text).exec ns = (.ok node.blocks, ns) := by
  rw [Namespace.exec_blocks, h.answer_text hdeny hp]
  rfl

end Answers

theorem find?_of_exec_status {masterAddress : String} {tiers : List String} {p : Path} {info : FileInfo} {t : Namespace}
    (h : ((cluster masterAddress tiers).status p.text).exec ns = (.ok info, t)) :
    ∃ node, ns.find? p = some node ∧ node.info = info := by
  rw [exec_status, answer] at h
  rcases hlookup : ns.lookup p.text with e | node
  · rw [hlookup] at h
    cases (Prod.mk.inj h).1
  · obtain ⟨q, hq, -, hnode⟩ := lookup_eq_ok_iff.mp hlookup
    obtain rfl := Except.ok.inj ((Path.parse_text p).symm.trans hq)
    rw [hlookup] at h
    exact ⟨node, hnode, Except.ok.inj (Prod.mk.inj h).1⟩

/-! ## Coherence -/

/-- The children of the node at `p` lead to `q`. -/
def HasChild (ns : Namespace) (p q : Path) : Prop := ∃ node name, (p, node) ∈ ns.nodes ∧ (name, q) ∈ node.children

/-- Keys, attributes and children fit together. -/
structure Coherent (ns : Namespace) : Prop where
  distinct : ns.nodes.keys.Nodup
  canonical : ∀ p node, (p, node) ∈ ns.nodes →
    Path.parse p.text = .ok p ∧ node.info.path = p.text ∧ node.info.name = p.basename
  root : Path.root ∈ ns.nodes.keys
  parent : ∀ p ∈ ns.nodes.keys, p.parent ∈ ns.nodes.keys
  names : ∀ p node, (p, node) ∈ ns.nodes → node.children.keys.Nodup
  child : ∀ p node, (p, node) ∈ ns.nodes → ∀ name q, (name, q) ∈ node.children →
    q.text = joinText p.text name ∧ q.parent = p ∧ q ∈ ns.nodes.keys
  /-- A listing finds every child. -/
  listing : ∀ masterAddress tiers raw node, ns.lookup raw = .ok node → node.info.folder = true →
    ∃ infos, ((cluster masterAddress tiers).list raw).exec ns = (.ok infos, ns) ∧
      List.Forall₂ (fun entry info => ∃ child, (entry.2, child) ∈ ns.nodes ∧ child.info = info) node.children infos
  /-- The way up from a key leads over keys to the root. -/
  ascent : ∀ p ∈ ns.nodes.keys, (∀ k, Path.parent^[k] p ∈ ns.nodes.keys) ∧ ∃ k, Path.parent^[k] p = .root
  acyclic : ∀ p, ¬ Relation.TransGen ns.HasChild p p

theorem IsTree.mem_nodes_iff (h : ns.IsTree) {p : Path} {node : Node} :
    (p, node) ∈ ns.nodes ↔ ns.find? p = some node :=
  (Table.find?_eq_some_iff h.nodup).symm

theorem IsTree.mem_keys_iterate_parent (h : ns.IsTree) {p : Path} (hp : p ∈ ns.nodes.keys) (k : ℕ) :
    Path.parent^[k] p ∈ ns.nodes.keys := by
  induction k with
  | zero => exact hp
  | succ k ih =>
    rw [Function.iterate_succ_apply']
    exact contains_iff_mem_keys.mp (h.parent _ (contains_iff_mem_keys.mpr ih))

theorem iterate_parent_depth (p : Path) : Path.parent^[p.depth] p = .root := by
  induction p with
  | root => rfl
  | child parent name ih => exact ih

theorem IsTree.depth_lt_of_hasChild (h : ns.IsTree) {p q : Path} (hchild : ns.HasChild p q) : p.depth < q.depth := by
  obtain ⟨node, key, hp, hentry⟩ := hchild
  obtain ⟨name, heq, -⟩ := (h.links p node (h.mem_nodes_iff.mp hp)).child _ hentry
  obtain ⟨-, rfl⟩ := Prod.mk.inj heq
  exact Nat.lt_succ_self _

theorem IsTree.acyclic (h : ns.IsTree) (p : Path) : ¬ Relation.TransGen ns.HasChild p p := by
  have hdepth : ∀ q, Relation.TransGen ns.HasChild p q → p.depth < q.depth := by
    intro q hq
    induction hq with
    | single hchild => exact h.depth_lt_of_hasChild hchild
    | tail _ hchild ih => exact Nat.lt_trans ih (h.depth_lt_of_hasChild hchild)
  exact fun hcycle => Nat.lt_irrefl _ (hdepth p hcycle)

/-- **Every reachable namespace is coherent.** -/
theorem Reachable.coherent (h : Reachable clocks calls ns) : ns.Coherent := by
  have htree := h.isTree
  refine ⟨htree.nodup, ?_, contains_iff_mem_keys.mp htree.root, ?_, ?_, ?_, ?_, ?_, htree.acyclic⟩
  · intro p node hp
    have hsound := h.sound (htree.mem_nodes_iff.mp hp)
    exact ⟨Path.parse_text p, hsound.path, hsound.name⟩
  · intro p hp
    exact htree.mem_keys_iterate_parent hp 1
  · intro p node hp
    exact (htree.links p node (htree.mem_nodes_iff.mp hp)).nodup
  · intro p node hp key q hentry
    obtain ⟨name, heq, hchild⟩ := (htree.links p node (htree.mem_nodes_iff.mp hp)).child _ hentry
    obtain ⟨rfl, rfl⟩ := Prod.mk.inj heq
    exact ⟨(Path.joinText_text p name).symm, rfl, contains_iff_mem_keys.mp hchild⟩
  · intro masterAddress tiers raw node hraw hfolder
    obtain ⟨p, -, -, hp⟩ := lookup_eq_ok_iff.mp hraw
    refine ⟨ns.children node, ?_, (htree.children_folder hp hfolder).imp ?_⟩
    · rw [Namespace.exec_list, answer, hraw]
      rfl
    · rintro entry info ⟨child, hchild, rfl⟩
      exact ⟨child, htree.mem_nodes_iff.mpr hchild, rfl⟩
  · intro p hp
    exact ⟨htree.mem_keys_iterate_parent hp, p.depth, iterate_parent_depth p⟩

/-- A namespace in which a file has taken the place of a directory, a call has failed half-way, two have been refused,
and a path is denied. -/
def crowded : Namespace :=
  after (ensureDirectory 0 {} .root { clock := ⟨some 0⟩ })
    [(⟨some 0⟩, .mkdir "/a//b/" {}), (⟨some 5⟩, .addFile "/a" [1] {}),
      (⟨some 5⟩, .addFile "/c/d" [] { blockSize := 0 }), (⟨some 6⟩, .mkdir "/a/.." {}),
      (⟨none⟩, .mkdir "/e" {}), (⟨some 7⟩, .deny "/a")]

theorem reachable_crowded : Reachable (fun _ => True) (fun _ => True) crowded := by
  have hempty : Namespace.empty ⟨some 0⟩ = .ok (ensureDirectory 0 {} .root { clock := ⟨some 0⟩ }) := rfl
  exact (Reachable.empty trivial hempty).after fun _ _ => ⟨trivial, trivial⟩

theorem coherent_crowded : Reachable (fun _ => True) (fun _ => True) crowded ∧
    crowded.nodes.keys.map Path.text = ["/", "/a", "/a/b", "/c", "/c/d"] ∧ crowded.Coherent :=
  ⟨reachable_crowded, by decide +kernel, Reachable.coherent reachable_crowded⟩

end Namespace

end ClusterBrowser
