import ClusterBrowser.Proofs.Additions
import ClusterBrowser.Proofs.Tiling

/-!
# Identities

Nodes are numbered one after another, and the identity of a block is made up of that of its file and of its place, for
which 24 bits are left.

* `Namespace.Numbered`: nodes have identities of their own, below the next one.
* `Namespace.Succeeds`: what comes after a state, with identities that have not been used before.
* `Namespace.Adds.numbered`, `Namespace.Adds.succeeds`: what one call does to identities.
* `Namespace.BlocksAreDistinct`: blocks have identities of their own.
* `Namespace.Numbered.blocksAreDistinct_iff`: so they have if no file runs over into the next one that has blocks.
* **`Namespace.identities_after`**: the identities that a history of calls gives.
* `Namespace.blocks_run_over`: a file with so many blocks that the last one has the identity of another block.
-/

namespace ClusterBrowser.Namespace

variable {ns s t u : Namespace}

/-! ## Nodes -/

/-- Nodes have identities of their own, below the next one. -/
structure Numbered (ns : Namespace) : Prop where
  below : ∀ p node, ns.find? p = some node → node.info.id < ns.nextId
  distinct : ∀ p q node node', ns.find? p = some node → ns.find? q = some node' → node.info.id = node'.info.id → p = q

/-- After a state there is another one in which all that bears an identity given before is what it was, children apart. -/
structure Succeeds (s t : Namespace) : Prop where
  nextId : s.nextId ≤ t.nextId
  kept : ∀ q node', t.find? q = some node' → node'.info.id < s.nextId →
    ∃ node children, s.find? q = some node ∧ node' = { node with children }

theorem Succeeds.refl (ns : Namespace) : Succeeds ns ns := ⟨le_rfl, fun _ node hq _ => ⟨node, node.children, hq, rfl⟩⟩

theorem Succeeds.trans (h : Succeeds s t) (h' : Succeeds t u) : Succeeds s u where
  nextId := h.nextId.trans h'.nextId
  kept := by
    intro q node'' hq hid
    have hle := h.nextId
    obtain ⟨node', children, hq', rfl⟩ := h'.kept q node'' hq (by omega)
    obtain ⟨node, children', hnode, rfl⟩ := h.kept q node' hq' hid
    exact ⟨node, children, hnode, rfl⟩

theorem Succeeds.eq_of_id_eq (h : Succeeds s t) (hs : s.Numbered) {p q : Path} {node node' : Node}
    (hp : s.find? p = some node) (hq : t.find? q = some node') (hid : node'.info.id = node.info.id) :
    q = p ∧ ∃ children, node' = { node with children } := by
  have hbelow := hs.below p node hp
  obtain ⟨old, children, hold, rfl⟩ := h.kept q node' hq (by omega)
  obtain rfl := hs.distinct q p old node hold hp hid
  obtain rfl := Option.some.inj (hold.symm.trans hp)
  exact ⟨rfl, children, rfl⟩

section

variable {made : List Path} (h : Adds made s t)
include h

/-- A node has been made with a new identity, or it was there before. -/
theorem Adds.find?_cases {q : Path} {node' : Node} (hq : t.find? q = some node') :
    (∃ i, made[i]? = some q ∧ node'.info.id = (s.nextId + i : ℕ)) ∨
      ∃ node children, s.find? q = some node ∧ node' = { node with children } := by
  by_cases hmade : q ∈ made
  · obtain ⟨i, hi⟩ := List.mem_iff_getElem?.mp hmade
    obtain ⟨node, hnode, hid⟩ := h.ids i q hi
    obtain rfl := Option.some.inj (hq.symm.trans hnode)
    exact .inl ⟨i, hi, hid⟩
  · obtain ⟨node, hnode⟩ := find?_of_contains (((h.contains q).mp (contains_of_find? hq)).resolve_right hmade)
    obtain ⟨children, hfound, -⟩ := h.kept q node hnode hmade
    exact .inr ⟨node, children, hnode, Option.some.inj (hq.symm.trans hfound)⟩

theorem Adds.numbered (hs : s.Numbered) : t.Numbered where
  below := by
    intro q node hq
    have hnext := h.nextId
    obtain ⟨i, hi, hid⟩ | ⟨old, children, hold, rfl⟩ := h.find?_cases hq
    · have hlt := (List.getElem?_eq_some_iff.mp hi).1
      omega
    · have hbelow := hs.below q old hold
      show old.info.id < _
      omega
  distinct := by
    intro p q node node' hp hq heq
    obtain ⟨i, hi, hid⟩ | ⟨old, children, hold, rfl⟩ := h.find?_cases hp <;>
      obtain ⟨j, hj, hid'⟩ | ⟨old', children', hold', rfl⟩ := h.find?_cases hq
    · obtain rfl : i = j := by omega
      exact Option.some.inj (hi.symm.trans hj)
    · have hbelow := hs.below q old' hold'
      have heq : node.info.id = old'.info.id := heq
      omega
    · have hbelow := hs.below p old hold
      have heq : old.info.id = node'.info.id := heq
      omega
    · exact hs.distinct p q old old' hold hold' heq

theorem Adds.succeeds : Succeeds s t where
  nextId := by
    rw [h.nextId]
    exact Nat.le_add_right _ _
  kept := by
    intro q node' hq hid
    obtain ⟨i, -, hnew⟩ | hold := h.find?_cases hq
    · omega
    · exact hold

end

/-! ## Histories -/

theorem numbered_of_empty {clock : Clock} (made : Namespace.empty clock = .ok ns) : ns.Numbered := by
  obtain ⟨now, -, rfl⟩ := empty_eq_ok made
  have hfind : ∀ p node, (attach { clock } .root (newDirectory { clock } .root now {})).find? p = some node →
      Path.root = p ∧ node = newDirectory { clock } .root now {} := by
    intro p node hp
    rw [find?_attach_root] at hp
    split_ifs at hp with hroot
    · exact ⟨hroot, (Option.some.inj hp).symm⟩
    · exact nomatch hp
  constructor
  · intro p node hp
    obtain ⟨-, rfl⟩ := hfind p node hp
    exact show (1 : ℤ) < 2 by decide
  · intro p q node node' hp hq _
    exact (hfind p node hp).1.symm.trans (hfind q node' hq).1

theorem Numbered.after (hns : ns.Numbered) (htree : ns.IsTree) {history : List (Clock × PopulationCall)}
    (denies : ∀ entry ∈ history, DeniesNothing entry.2) :
    (ns.after history).Numbered ∧ Succeeds ns (ns.after history) := by
  induction history generalizing ns with
  | nil => exact ⟨hns, .refl ns⟩
  | cons entry rest ih =>
    obtain ⟨clock, call⟩ := entry
    obtain ⟨hcall, hrest⟩ := List.forall_mem_cons.mp denies
    have hclocked : IsTree { ns with clock } := htree.of_nodes_eq rfl
    have hadds := hclocked.adds_perform hcall
    have hnumbered : Numbered { ns with clock } := ⟨hns.below, hns.distinct⟩
    obtain ⟨hlast, hsucceeds⟩ := ih (hadds.numbered hnumbered) (hclocked.perform call) hrest
    have hfirst : Succeeds ns (call.perform { ns with clock }) := ⟨hadds.succeeds.nextId, hadds.succeeds.kept⟩
    exact ⟨hlast, hfirst.trans hsucceeds⟩

theorem after_append (ns : Namespace) (earlier later : List (Clock × PopulationCall)) :
    ns.after (earlier ++ later) = (ns.after earlier).after later := List.foldl_append

/-! ## Blocks -/

theorem blockId_eq (fileId : ℤ) (index : ℕ) : blockId fileId index = fileId * 2 ^ 24 + index := rfl

/-- Two different blocks have two identities, be they of one file or of two. -/
def BlocksAreDistinct (ns : Namespace) : Prop :=
  ∀ (p q : Path) (node node' : Node) (i j : ℕ) (report report' : BlockReport), ns.find? p = some node →
    ns.find? q = some node' → node.blocks[i]? = some report → node'.blocks[j]? = some report' →
    report.block.id = report'.block.id → p = q ∧ i = j

/-- The identity of each block is made up of that of its file and of its place. -/
def BlocksAreNumbered (ns : Namespace) : Prop :=
  ∀ (p : Path) (node : Node) (i : ℕ) (report : BlockReport), ns.find? p = some node → node.blocks[i]? = some report →
    report.block.id = blockId node.info.id i

theorem Reachable.blocksAreNumbered {clocks : Clock → Prop} {calls : PopulationCall → Prop}
    (h : Reachable clocks calls ns) : ns.BlocksAreNumbered := by
  have hall : ∀ p node, ns.find? p = some node → ∀ (i : ℕ) (report : BlockReport), node.blocks[i]? = some report →
      report.block.id = blockId node.info.id i := by
    refine h.allNodes (fun _ _ _ h => h) (fun _ _ _ _ _ _ _ => nofun) fun _ _ ns p _ data o _ _ _ => ⟨nofun, ?_⟩
    intro i report hi
    obtain ⟨-, rfl⟩ := getElem?_blocksOf.mp hi
    rfl
  exact fun p node i report hp => hall p node hp i report

/-- **Blocks have identities of their own exactly if no file runs over into a later one that has blocks.** -/
theorem Numbered.blocksAreDistinct_iff (h : ns.Numbered) (hblocks : ns.BlocksAreNumbered) :
    ns.BlocksAreDistinct ↔ ∀ (p q : Path) (node node' : Node), ns.find? p = some node → ns.find? q = some node' →
      node.info.id < node'.info.id → node'.blocks ≠ [] →
      (node.blocks.length : ℤ) ≤ (node'.info.id - node.info.id) * 2 ^ 24 := by
  constructor
  · intro hdistinct p q node node' hp hq hlt hsome
    by_contra hlong
    -- The block with this place has the identity of the first block of the later file.
    obtain ⟨i, hi⟩ := Int.eq_ofNat_of_zero_le (a := (node'.info.id - node.info.id) * 2 ^ 24) (by omega)
    have hinside : i < node.blocks.length := by omega
    have hfirst : 0 < node'.blocks.length := List.length_pos_of_ne_nil hsome
    have hreport := List.getElem?_eq_getElem hinside
    have hreport' := List.getElem?_eq_getElem hfirst
    have hid := hblocks p node i _ hp hreport
    have hid' := hblocks q node' 0 _ hq hreport'
    rw [blockId_eq] at hid hid'
    obtain ⟨rfl, -⟩ := hdistinct p q node node' i 0 _ _ hp hq hreport hreport' (by omega)
    obtain rfl := Option.some.inj (hp.symm.trans hq)
    exact lt_irrefl _ hlt
  · intro hshort p q node node' i j report report' hp hq hi hj hid
    have hlt := (List.getElem?_eq_some_iff.mp hi).1
    have hlt' := (List.getElem?_eq_some_iff.mp hj).1
    rw [hblocks p node i report hp hi, hblocks q node' j report' hq hj, blockId_eq, blockId_eq] at hid
    obtain hless | hsame | hmore := lt_trichotomy node.info.id node'.info.id
    · have := hshort p q node node' hp hq hless (List.ne_nil_of_length_pos (by omega))
      omega
    · exact ⟨h.distinct p q node node' hp hq hsame, by omega⟩
    · have := hshort q p node' node hq hp hmore (List.ne_nil_of_length_pos (by omega))
      omega

/-- **The identities that a history gives**: nodes have identities of their own, each of which stays below the next one and
is never given to another node, and the blocks have identities of their own exactly if no file runs over into a later one
that has blocks. -/
theorem identities_after {clock : Clock} (made : Namespace.empty clock = .ok ns)
    {earlier later : List (Clock × PopulationCall)} (denies : ∀ entry ∈ earlier ++ later, DeniesNothing entry.2)
    (before : s = ns.after earlier) (after : t = ns.after (earlier ++ later)) :
    (∀ p q node node', t.find? p = some node → t.find? q = some node' → node.info.id = node'.info.id → p = q) ∧
    (∀ p node, s.find? p = some node → node.info.id < t.nextId) ∧
    (∀ p q node node', s.find? p = some node → t.find? q = some node' → node'.info.id = node.info.id →
      q = p ∧ ∃ children, node' = { node with children }) ∧
    (t.BlocksAreDistinct ↔ ∀ (p q : Path) (node node' : Node), t.find? p = some node → t.find? q = some node' →
      node.info.id < node'.info.id → node'.blocks ≠ [] →
      (node.blocks.length : ℤ) ≤ (node'.info.id - node.info.id) * 2 ^ 24) := by
  obtain ⟨hearlier, hlater⟩ := List.forall_mem_append.mp denies
  have hnew := numbered_of_empty made
  have hempty : Reachable (fun _ => True) DeniesNothing ns := .empty trivial made
  have hreached : Reachable _ _ s := before ▸ reachable_after made hearlier
  have hs : s.Numbered := before ▸ (hnew.after hempty.isTree hearlier).1
  rw [after_append, ← before] at after
  obtain ⟨ht, hsucceeds⟩ := after ▸ hs.after hreached.isTree hlater
  refine ⟨ht.distinct, ?_, fun p q node node' hp hq hid => hsucceeds.eq_of_id_eq hs hp hq hid, ?_⟩
  · intro p node hp
    exact lt_of_lt_of_le (hs.below p node hp) (Int.ofNat_le.mpr hsucceeds.nextId)
  · have hreached' : Reachable (fun _ => True) DeniesNothing t :=
      after ▸ hreached.after fun entry hentry => ⟨trivial, hlater entry hentry⟩
    exact ht.blocksAreDistinct_iff hreached'.blocksAreNumbered

/-- A file that is made anew: its identity is not given again, and neither are those of its blocks. -/
theorem identities_after_overwriting : ∃ (ns s t : Namespace) (earlier later : List (Clock × PopulationCall)),
    Namespace.empty ⟨some 0⟩ = .ok ns ∧ (∀ entry ∈ earlier ++ later, DeniesNothing entry.2) ∧ s = ns.after earlier ∧
    t = ns.after (earlier ++ later) ∧
    s.nodes.map (fun entry => (entry.1.text, entry.2.info.id)) = [("/", 1), ("/d", 2), ("/d/f", 3), ("/d/g", 4)] ∧
    t.nodes.map (fun entry => (entry.1.text, entry.2.info.id)) = [("/", 1), ("/d", 2), ("/d/f", 5), ("/d/g", 4)] ∧
    (∀ p node, s.find? p = some node → node.info.id < t.nextId) ∧ t.BlocksAreDistinct := by
  let earlier : List (Clock × PopulationCall) :=
    [(⟨some 0⟩, .addFile "/d/f" [1, 2, 3] { blockSize := 2 }), (⟨some 1⟩, .addFile "/d//g" [4] {})]
  let later : List (Clock × PopulationCall) := [(⟨some 2⟩, .addFile "/d/f" [5, 6] { blockSize := 1 })]
  let ns : Namespace := ensureDirectory 0 {} .root { clock := ⟨some 0⟩ }
  have made : Namespace.empty ⟨some 0⟩ = .ok ns := rfl
  have denies : ∀ entry ∈ earlier ++ later, DeniesNothing entry.2 := by simp [earlier, later, DeniesNothing]
  obtain ⟨s, hs⟩ : ∃ s, s = ns.after earlier := ⟨_, rfl⟩
  obtain ⟨t, ht⟩ : ∃ t, t = ns.after (earlier ++ later) := ⟨_, rfl⟩
  obtain ⟨-, hbelow, -, hblocks⟩ := identities_after made denies hs ht
  have hshort : ∀ entry ∈ t.nodes, entry.2.blocks.length ≤ 2 := by
    rw [ht]
    decide +kernel
  refine ⟨ns, s, t, earlier, later, made, denies, hs, ht, by rw [hs]; decide +kernel, by rw [ht]; decide +kernel,
    hbelow, ?_⟩
  refine hblocks.mpr fun p q node node' hp _ hlt _ => ?_
  have hlength : node.blocks.length ≤ 2 := hshort _ (Table.mem_of_find? hp)
  omega

/-- A file in blocks of one byte, and then another file of one byte. -/
def overrun (data : Bytes) : List (Clock × PopulationCall) :=
  [(⟨some 0⟩, .addFile "/a" data { blockSize := 1 }), (⟨some 0⟩, .addFile "/b" [0] {})]

theorem deniesNothing_overrun (data : Bytes) : ∀ entry ∈ overrun data, DeniesNothing entry.2 := by
  simp [overrun, DeniesNothing]

theorem blocks_overrun (data : Bytes) : ∃ ns a b f g, Namespace.empty ⟨some 0⟩ = .ok ns ∧ Path.text a = "/a" ∧
    Path.text b = "/b" ∧ (ns.after (overrun data)).find? a = some f ∧ (ns.after (overrun data)).find? b = some g ∧
    f.blocks = blocksOf 2 data.length { blockSize := 1 } ∧ g.blocks = blocksOf 3 1 {} := by
  let a : Path := .child .root ⟨"a", by decide⟩
  let b : Path := .child .root ⟨"b", by decide⟩
  let ns : Namespace := ensureDirectory 0 {} .root { clock := ⟨some 0⟩ }
  have made : Namespace.empty ⟨some 0⟩ = .ok ns := rfl
  have hempty : Reachable (fun _ => True) DeniesNothing ns := .empty trivial made
  have hroot : ns.contains a.parent = true := hempty.isTree.root
  have hparse : Path.parse "/a" = .ok a := by decide
  have hparse' : Path.parse "/b" = .ok b := by decide
  -- The first file is not computed, since it may be of any length.
  obtain ⟨s, hs⟩ : ∃ s, s = ns.withFile a 0 data { blockSize := 1 } := ⟨_, rfl⟩
  have hfirst : (PopulationCall.addFile "/a" data { blockSize := 1 }).perform ns = s := by
    rw [perform_addFile_eq hparse rfl, ensureDirectory_of_contains hroot, hs]
  have hafter : ns.after (overrun data) = (PopulationCall.addFile "/b" [0] {}).perform { s with clock := ⟨some 0⟩ } := by
    rw [← hfirst]
    rfl
  have htree : IsTree { s with clock := ⟨some 0⟩ } := by
    have hs' : s.IsTree := hs ▸ hempty.isTree.withFile hroot 0 data _
    exact hs'.of_nodes_eq rfl
  have ha : s.find? a = some (cut (ns.newFile a 0 data { blockSize := 1 }) { blockSize := 1 }) := by
    rw [hs]
    exact find?_withFile_self (by decide) ns a 0 data
  have hb : (ns.after (overrun data)).find? b = some (cut (newFile { s with clock := ⟨some 0⟩ } b 0 [0] {}) {}) := by
    have hroot' : contains { s with clock := ⟨some 0⟩ } b.parent = true := htree.root
    rw [hafter, perform_addFile_eq hparse' rfl, ensureDirectory_of_contains hroot']
    exact find?_withFile_self (by decide) _ b 0 [0]
  have hid : s.nextId = 3 := by
    rw [hs, nextId_withFile]
    rfl
  have denies : DeniesNothing (.addFile "/b" [0] {}) := nofun
  have hother : ¬ (PopulationCall.addFile "/b" [0] {}).MakesFileAt a := fun h =>
    absurd (Except.ok.inj (hparse'.symm.trans h.2)) (by decide)
  obtain ⟨children, hkept, -⟩ := (htree.adds_perform denies).kept a _ ha (not_mem_made (contains_of_find? ha) hother)
  refine ⟨ns, a, b, _, _, made, by decide, by decide, hafter ▸ hkept, hb, ?_, ?_⟩
  · have hid : ns.nextId = 2 := rfl
    dsimp only
    rw [blocks_cut_newFile, hid]
    rfl
  · rw [blocks_cut_newFile, hid]
    rfl

/-- The last byte of a file of more than 2 ^ 24 bytes is in a block that has the identity of the first block of the next
file. -/
theorem blocks_run_over : ∃ ns a b f g report report', Namespace.empty ⟨some 0⟩ = .ok ns ∧
    (∀ entry ∈ overrun (List.replicate (2 ^ 24 + 1) 0), DeniesNothing entry.2) ∧ Path.text a = "/a" ∧ Path.text b = "/b" ∧
    (ns.after (overrun (List.replicate (2 ^ 24 + 1) 0))).find? a = some f ∧
    (ns.after (overrun (List.replicate (2 ^ 24 + 1) 0))).find? b = some g ∧
    f.blocks[2 ^ 24]? = some report ∧ g.blocks[0]? = some report' ∧
    report.block.id = 3 * 2 ^ 24 ∧ report'.block.id = 3 * 2 ^ 24 := by
  obtain ⟨ns, a, b, f, g, made, ha, hb, hf, hg, hblocks, hblocks'⟩ := blocks_overrun (List.replicate (2 ^ 24 + 1) 0)
  rw [List.length_replicate] at hblocks
  have hcount : blockCount (2 ^ 24 + 1) 1 = 2 ^ 24 + 1 := by decide
  have hlast : (blocksOf 2 (2 ^ 24 + 1) { blockSize := 1 })[2 ^ 24]? =
      some (blockAt 2 (2 ^ 24 + 1) { blockSize := 1 } (2 ^ 24)) :=
    getElem?_blocksOf.mpr ⟨by rw [hcount]; exact Nat.lt_succ_self _, rfl⟩
  exact ⟨ns, a, b, f, g, _, _, made, deniesNothing_overrun _, ha, hb, hf, hg, by rw [hblocks, hlast],
    by rw [hblocks']; rfl, by decide, by decide⟩

end ClusterBrowser.Namespace
