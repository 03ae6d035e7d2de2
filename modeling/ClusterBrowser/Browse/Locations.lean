import ClusterBrowser.Browse.Entry
import ClusterBrowser.Cluster

/-!
# Locations

Where the data of a file is: the workers that hold copies of its blocks, then the nodes of the backing store.

* `mergeLocations`: the addresses of some blocks.
* `Sampling.sample`, `Entry.hasData`: the blocks that are looked at, and the rows that are looked up.
* `locationsFor`: the addresses for one row of a listing.
* `annotate`: looks up the rows one after another.
-/

namespace ClusterBrowser

/-- Which blocks of a file are looked at. -/
inductive Sampling where
  | firstBlock | allBlocks
  deriving DecidableEq, Repr

/-- What a row whose path cannot be looked up does to the listing. -/
inductive FailurePolicy where
  | abort | skip
  deriving DecidableEq, Repr

/-- The addresses of the workers in the order of blocks and copies, then those of the backing store. -/
def mergeLocations (blocks : List BlockReport) : List String :=
  blocks.flatMap (fun b => b.block.replicas.map (·.address.text)) ++
    blocks.flatMap (fun b => b.backing.map NodeAddress.text)

/-- The blocks that are looked at. -/
def Sampling.sample : Sampling → List BlockReport → List BlockReport
  | .firstBlock, blocks => blocks.take 1
  | .allBlocks, blocks => blocks

theorem Sampling.sample_firstBlock (blocks : List BlockReport) :
    Sampling.firstBlock.sample blocks = blocks.head?.toList := by
  cases blocks <;> rfl

theorem Sampling.sample_allBlocks (blocks : List BlockReport) : Sampling.allBlocks.sample blocks = blocks := rfl

/-- Whether the row is one whose locations are looked up: a file with data. -/
def Entry.hasData (e : Entry) : Bool := !e.isDirectory && decide (0 < e.length)

theorem Entry.hasData_iff {e : Entry} : e.hasData = true ↔ e.isDirectory = false ∧ 0 < e.length := by
  simp [hasData]

/-- Whether an error concerns one path only. -/
def BrowseError.isPathError : BrowseError → Bool
  | .pathNotFound _ | .invalidPath _ => true
  | _ => false

/-- Rows with their locations as far as the look-up came, and the error that ended it. -/
structure Annotated where
  entries : List Entry
  failed : Option BrowseError := none
  deriving DecidableEq, Repr

variable {σ : Type}

/-- The locations of a row; directories and empty files have none, and the cluster is not asked about them. -/
def locationsFor (c : Cluster σ) (sampling : Sampling) (e : Entry) : Action σ (Option (List String)) := do
  if e.hasData then
    let blocks ← c.blocks e.path
    return some (mergeLocations (sampling.sample blocks))
  else return none

/-- Looks up the rows one after another. An error ends the look-up, unless it concerns a path and may be skipped. -/
def annotate (c : Cluster σ) (sampling : Sampling) (policy : FailurePolicy) : List Entry → Action σ Annotated
  | [] => return { entries := [] }
  | e :: rest => do
    match ← (locationsFor c sampling e).attempt with
    | .ok locations =>
      let tail ← annotate c sampling policy rest
      return { tail with entries := { e with locations } :: tail.entries }
    | .error err =>
      if policy = .skip && err.isPathError then
        let tail ← annotate c sampling policy rest
        return { tail with entries := e :: tail.entries }
      else return { entries := e :: rest, failed := some err }

end ClusterBrowser
