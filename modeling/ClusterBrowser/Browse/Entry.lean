import ClusterBrowser.Display.Timestamp
import ClusterBrowser.Metadata

/-!
# Rows of a view

* `Permission.text`: the nine permission bits as letters, after a mark for directories.
* `Entry`: a file or directory as a listing shows it, made from what the cluster reports by `Entry.ofInfo`.
* `BlockView`: a block as a preview shows it, made by `BlockView.ofReport`.
-/

namespace ClusterBrowser

namespace Permission

/-- Bit `k` of a number in two's complement. -/
def bit (mode : Int) (k : Nat) : Bool := mode / Nat.pow 2 k % 2 = 1

/-- A letter for a bit that is set, a dash for one that is not. -/
def letter (mode : Int) (k : Nat) (c : Char) : Char := if bit mode k then c else '-'

/-- The bits of the owner, the group and the others, from high to low. -/
def text (mode : Int) (isDirectory : Bool) : String :=
  String.ofList <| (if isDirectory then 'd' else '-') ::
    [letter mode 8 'r', letter mode 7 'w', letter mode 6 'x',
     letter mode 5 'r', letter mode 4 'w', letter mode 3 'x',
     letter mode 2 'r', letter mode 1 'w', letter mode 0 'x']

end Permission

/-- A file or directory as a listing shows it. -/
structure Entry where
  id : Int
  name : String
  path : String
  isDirectory : Bool
  length : Int
  size : String
  blockSize : Int
  isCompleted : Bool
  isPinned : Bool
  inMemoryPercent : Int
  created : Instant
  modified : Instant
  owner : String
  group : String
  permission : String
  /-- Where the data is, as far as it has been looked up: workers first, then the backing store. -/
  locations : Option (List String) := none
  deriving DecidableEq, Repr

/-- The row of a file or directory. A directory has no size. -/
def Entry.ofInfo (info : FileInfo) : Except DisplayError Entry := do
  let size ← if info.folder then pure "" else Size.text info.length
  let created ← Instant.ofMillis info.createdMs
  let modified ← Instant.ofMillis info.modifiedMs
  return {
    id := info.id
    name := info.name
    path := info.path
    isDirectory := info.folder
    length := info.length
    size
    blockSize := info.blockSize
    isCompleted := info.completed
    isPinned := info.pinned
    inMemoryPercent := info.inMemoryPercent
    created
    modified
    owner := info.owner
    group := info.group
    permission := Permission.text info.permission info.folder }

/-- A block as a preview shows it. -/
structure BlockView where
  id : Int
  length : Int
  offset : Int
  tiers : List String
  hosts : List String
  inHighestTier : Bool
  deriving DecidableEq, Repr

/-- The members of a list after those already `seen`, each at its first occurrence only. -/
def firstOccurrences (seen : List String) : List String → List String
  | [] => seen
  | t :: rest => firstOccurrences (if seen.contains t then seen else seen ++ [t]) rest

/-- The row of a block: the tiers of its copies without repetition, and the host of each copy. -/
def BlockView.ofReport (report : BlockReport) (highestTier : String) : BlockView :=
  let tiers := firstOccurrences [] (report.block.replicas.map Replica.tier)
  { id := report.block.id
    length := report.block.length
    offset := report.offset
    tiers
    hosts := report.block.replicas.map (·.address.host)
    inHighestTier := tiers.contains highestTier }

end ClusterBrowser
