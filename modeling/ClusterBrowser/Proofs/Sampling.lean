import ClusterBrowser.Proofs.Browsable
import ClusterBrowser.Proofs.Rows
import ClusterBrowser.Proofs.Tiling

/-!
# The first block as a sample

Where the first block of a file is, there the whole file is: its blocks have their copies at the same addresses.

* `PlacedAlike`: blocks with copies at the same addresses.
* `PlacedAlike.count_mergeLocations`: among the locations of such blocks each address of the first one stands once for
  every block.
* `SampleOf`: locations that stand for those of all blocks.
* `Namespace.Reachable.placedAlike`: the blocks of a file in a namespace are placed alike.
* **`Namespace.locations_of_firstBlock`**: the locations of the first block stand for those of all blocks.
-/

namespace ClusterBrowser

/-! ## Blocks that are placed alike -/

/-- The blocks have copies at the same addresses, and so have they in the backing store. -/
def PlacedAlike (blocks : List BlockReport) : Prop :=
  ∃ workers backing : List String, ∀ report ∈ blocks,
    report.block.replicas.map (·.address.text) = workers ∧ report.backing.map NodeAddress.text = backing

theorem placedAlike_nil : PlacedAlike [] := ⟨[], [], nofun⟩

/-- What is the same list for all members stands in the whole once for each of them. -/
theorem count_flatMap_of_forall_eq {α β : Type} [DecidableEq β] {xs : List α} {f : α → List β} {ys : List β}
    (h : ∀ x ∈ xs, f x = ys) (y : β) : (xs.flatMap f).count y = xs.length * ys.count y := by
  have hcounts : xs.map (List.count y ∘ f) = List.replicate xs.length (ys.count y) := by
    rw [← List.map_const']
    exact List.map_congr_left fun x hx => congrArg (List.count y) (h x hx)
  rw [List.count_flatMap, hcounts, List.sum_replicate, smul_eq_mul]

/-- **The addresses of all blocks are those of the first one, each once for every block.** -/
theorem PlacedAlike.count_mergeLocations {blocks : List BlockReport} (h : PlacedAlike blocks) (address : String) :
    (mergeLocations blocks).count address =
      blocks.length * (mergeLocations (Sampling.firstBlock.sample blocks)).count address := by
  obtain ⟨workers, backing, hplaced⟩ := h
  have hcount : ∀ part : List BlockReport, (∀ report ∈ part, report ∈ blocks) →
      (mergeLocations part).count address = part.length * (workers.count address + backing.count address) := by
    intro part hpart
    rw [mergeLocations, List.count_append, count_flatMap_of_forall_eq fun report hr => (hplaced report (hpart _ hr)).1,
      count_flatMap_of_forall_eq fun report hr => (hplaced report (hpart _ hr)).2, Nat.mul_add]
  rw [Sampling.sample_firstBlock, hcount blocks fun _ hr => hr, hcount blocks.head?.toList fun report hr =>
    List.mem_of_head? (Option.mem_toList.mp hr)]
  cases blocks <;> simp

/-- Locations that stand for those of `n` blocks: the same addresses, of which each is found `n` times as often. -/
structure SampleOf (n : ℕ) (first all : Option (List String)) : Prop where
  missing : first = none ↔ all = none
  empty : first = some [] ↔ all = some []
  addresses : ∀ address, address ∈ first.getD [] ↔ address ∈ all.getD []
  counts : ∀ address, (all.getD []).count address = n * (first.getD []).count address

theorem sampleOf_none (n : ℕ) : SampleOf n none none :=
  ⟨Iff.rfl, by simp, fun _ => Iff.rfl, fun _ => rfl⟩

theorem PlacedAlike.sampleOf {blocks : List BlockReport} (h : PlacedAlike blocks) :
    SampleOf blocks.length (some (mergeLocations (Sampling.firstBlock.sample blocks)))
      (some (mergeLocations (Sampling.allBlocks.sample blocks))) := by
  rw [Sampling.sample_allBlocks]
  have haddresses : ∀ address,
      address ∈ mergeLocations (Sampling.firstBlock.sample blocks) ↔ address ∈ mergeLocations blocks := by
    intro address
    rw [← List.count_pos_iff, ← List.count_pos_iff, h.count_mergeLocations]
    cases blocks with
    | nil => rfl
    | cons report rest => rw [List.length_cons, Nat.mul_pos_iff_of_pos_left (Nat.succ_pos _)]
  have hempty : mergeLocations (Sampling.firstBlock.sample blocks) = [] ↔ mergeLocations blocks = [] := by
    rw [List.eq_nil_iff_forall_not_mem, List.eq_nil_iff_forall_not_mem]
    exact forall_congr' fun address => not_congr (haddresses address)
  exact ⟨by simp, by rw [Option.some.injEq, Option.some.injEq]; exact hempty, haddresses, h.count_mergeLocations⟩

/-! ## Files in a namespace -/

namespace Namespace

variable {ns : Namespace} {clocks : Clock → Prop} {calls : PopulationCall → Prop}

theorem placedAlike_blocksOf (fileId : Int) (length : ℕ) (o : FileOptions) : PlacedAlike (blocksOf fileId length o) := by
  refine ⟨o.workers.map NodeAddress.text, o.backing.map NodeAddress.text, ?_⟩
  intro report hreport
  obtain ⟨i, rfl⟩ := exists_of_mem_blocksOf hreport
  have hplaced := placedBy_blockAt fileId length o i
  exact ⟨by rw [← hplaced.workers, List.map_map]; rfl, by rw [hplaced.backing]⟩

theorem Reachable.placedAlike (h : Reachable clocks calls ns) {p : Path} {node : Node} (hp : ns.find? p = some node) :
    PlacedAlike node.blocks :=
  h.allNodes (P := fun _ node => PlacedAlike node.blocks) (fun _ _ _ hnode => hnode)
    (fun _ _ _ _ _ _ _ => placedAlike_nil)
    (fun _ _ _ _ _ _ _ _ _ _ => ⟨placedAlike_nil, placedAlike_blocksOf _ _ _⟩) p node hp

theorem Reachable.exists_of_mem_listDirectory (h : Reachable clocks calls ns) {masterAddress : String}
    {tiers : List String} {raw : String} {rows : List Entry} {t : Namespace}
    (listed : (listDirectory (cluster masterAddress tiers) raw).exec ns = (.ok rows, t)) {e : Entry} (he : e ∈ rows) :
    ∃ p node, ns.find? p = some node ∧ e.path = p.text := by
  obtain ⟨infos, hinfos, hrows⟩ := listDirectory_eq_ok.mp listed
  obtain ⟨info, hinfo, hshown⟩ := exists_of_mem_rowsOf hrows he
  rw [Namespace.exec_list, answer] at hinfos
  rcases hraw : ns.lookup raw with e | dir
  · rw [hraw] at hinfos
    cases (Prod.mk.inj hinfos).1
  rw [hraw] at hinfos
  obtain rfl : ns.children dir = infos := Except.ok.inj (Prod.mk.inj hinfos).1
  obtain ⟨p, -, -, hp⟩ := lookup_eq_ok_iff.mp hraw
  have hnode : ∃ q node, ns.find? q = some node ∧ node.info = info := by
    rw [children] at hinfo
    split_ifs at hinfo
    · obtain ⟨⟨name, q⟩, -, hq⟩ := List.mem_filterMap.mp hinfo
      obtain ⟨node, hq, hnode⟩ := Option.map_eq_some_iff.mp hq
      exact ⟨q, node, hq, hnode⟩
    · exact ⟨p, dir, hp, (List.mem_singleton.mp hinfo).symm⟩
  obtain ⟨q, node, hq, rfl⟩ := hnode
  exact ⟨q, node, hq, (Entry.path_of_ofInfo hshown).trans (h.sound hq).path⟩

theorem Reachable.exec_locationsFor (h : Reachable clocks calls ns) (hdeny : ∀ raw, ¬ calls (.deny raw))
    (masterAddress : String) (tiers : List String) {p : Path} {node : Node} (hp : ns.find? p = some node) {e : Entry}
    (he : e.path = p.text) (sampling : Sampling) :
    (locationsFor (cluster masterAddress tiers) sampling e).exec ns =
      (.ok (if e.isDirectory = false ∧ 0 < e.length then some (mergeLocations (sampling.sample node.blocks)) else none),
        ns) := by
  rw [locationsFor, he]
  simp only [Entry.hasData_iff]
  split_ifs
  · exact Action.exec_bind_of_ok (h.exec_blocks hdeny hp masterAddress tiers)
  · rfl

/-- **The first block stands for the file**: for every row of a listing the locations of the first block are missing or
empty exactly if those of all blocks are, the addresses are the same, and each is told once for every block. -/
theorem locations_of_firstBlock (h : Reachable clocks DeniesNothing ns) {masterAddress : String} {tiers : List String}
    {raw : String} {rows : List Entry} {t : Namespace}
    (listed : (listDirectory (cluster masterAddress tiers) raw).exec ns = (.ok rows, t)) {e : Entry} (he : e ∈ rows) :
    ∃ blocks first all, ((cluster masterAddress tiers).blocks e.path).exec ns = (.ok blocks, ns) ∧
      (locationsFor (cluster masterAddress tiers) .firstBlock e).exec ns = (.ok first, ns) ∧
      (locationsFor (cluster masterAddress tiers) .allBlocks e).exec ns = (.ok all, ns) ∧
      SampleOf blocks.length first all := by
  obtain ⟨p, node, hp, hpath⟩ := h.exists_of_mem_listDirectory listed he
  have hblocks := h.exec_blocks not_deniesNothing_deny hp masterAddress tiers
  have hlocated := h.exec_locationsFor not_deniesNothing_deny masterAddress tiers hp hpath
  rw [← hpath] at hblocks
  refine ⟨node.blocks, _, _, hblocks, hlocated .firstBlock, hlocated .allBlocks, ?_⟩
  split_ifs
  · exact (h.placedAlike hp).sampleOf
  · exact sampleOf_none _

/-- A directory, and a file of three blocks on two workers of one address. -/
def shelf : List (Clock × PopulationCall) :=
  [(⟨some 0⟩, .mkdir "/d/e" {}),
    (⟨some 0⟩, .addFile "/d/f" [1, 2, 3, 4, 5]
      { blockSize := 2, workers := [{ host := "a" }, { host := "a" }], backing := [{ host := "b", dataPort := 9000 }] })]

theorem locations_of_firstBlock_shelf : ∃ ns rows t e blocks first all,
    Reachable (fun _ => True) DeniesNothing ns ∧
    (listDirectory (cluster "" defaultTiers) "/d/").exec ns = (.ok rows, t) ∧ e ∈ rows ∧ e.path = "/d/f" ∧
    ((cluster "" defaultTiers).blocks e.path).exec ns = (.ok blocks, ns) ∧ blocks.length = 3 ∧
    (locationsFor (cluster "" defaultTiers) .firstBlock e).exec ns = (.ok first, ns) ∧
    first = some ["a", "a", "b:9000"] ∧
    (locationsFor (cluster "" defaultTiers) .allBlocks e).exec ns = (.ok all, ns) ∧
    all = some ["a", "a", "a", "a", "a", "a", "b:9000", "b:9000", "b:9000"] ∧ SampleOf blocks.length first all := by
  let new := ensureDirectory 0 {} .root { clock := ⟨some 0⟩ }
  let ns := new.after shelf
  let c := cluster "" defaultTiers
  have hnew : Namespace.empty ⟨some 0⟩ = .ok new := rfl
  have allowed : ∀ entry ∈ shelf, DeniesNothing entry.2 := by simp [shelf, DeniesNothing]
  have hns : Reachable (fun _ => True) DeniesNothing ns := reachable_after hnew allowed
  let answered := (c.list "/d/").exec ns
  let infos := answered.1.toOption.getD []
  let shown := (infos.mapM Entry.ofInfo).toOption.getD []
  let e := shown.getLast (by decide +kernel)
  have hanswer : answered.1 = .ok infos := by decide +kernel
  have hinfos : answered = (.ok infos, answered.2) := by rw [← hanswer]
  have hshown : infos.mapM Entry.ofInfo = .ok shown := by decide +kernel
  have hrows : (listDirectory c "/d/").exec ns = (.ok (sortEntries shown), answered.2) :=
    listDirectory_eq_ok.mpr ⟨infos, hinfos, rowsOf_eq_ok_iff.mpr ⟨shown, hshown, rfl⟩⟩
  have he : e ∈ sortEntries shown := List.mem_mergeSort.mpr (List.getLast_mem _)
  obtain ⟨blocks, first, all, hblocks, hfirst, hall, hsample⟩ := locations_of_firstBlock hns hrows he
  have hcount : ((c.blocks e.path).exec ns).1.map List.length = .ok 3 := by decide +kernel
  have hone : ((locationsFor c .firstBlock e).exec ns).1 = .ok (some ["a", "a", "b:9000"]) := by decide +kernel
  have hwhole : ((locationsFor c .allBlocks e).exec ns).1 =
      .ok (some ["a", "a", "a", "a", "a", "a", "b:9000", "b:9000", "b:9000"]) := by decide +kernel
  rw [hblocks] at hcount
  rw [hfirst] at hone
  rw [hall] at hwhole
  exact ⟨ns, _, _, e, blocks, first, all, hns, hrows, he, by decide +kernel, hblocks, Except.ok.inj hcount, hfirst,
    Except.ok.inj hone, hall, Except.ok.inj hwhole, hsample⟩

end Namespace

end ClusterBrowser
