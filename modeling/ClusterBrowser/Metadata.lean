import ClusterBrowser.Number.Decimal

/-!
# What a cluster reports

* `NodeAddress`: the address of a worker or of a node of the backing store.
* `Replica`, `Block`, `BlockReport`: where the copies of a block are.
* `FileInfo`: the attributes of a file or directory.
* `ReadMode`: what reading does to the cache.
-/

namespace ClusterBrowser

/-- A string of bytes. -/
abbrev Bytes := List UInt8

/-- Whether reading a file caches its data, moves it to the fastest tier, or leaves it where it is. -/
inductive ReadMode where
  | cache | cachePromote | noCache
  deriving DecidableEq, Repr

def ReadMode.word : ReadMode → String
  | .cache => "CACHE"
  | .cachePromote => "CACHE_PROMOTE"
  | .noCache => "NO_CACHE"

/-- The address of a worker or of a node of the backing store. -/
structure NodeAddress where
  host : String
  rpcPort : Int := 0
  dataPort : Int := 0
  webPort : Int := 0
  deriving DecidableEq, Repr

/-- Host and data port; the host alone if there is no data port. -/
def NodeAddress.text (a : NodeAddress) : String :=
  if a.dataPort = 0 then a.host else a.host ++ ":" ++ Decimal.text a.dataPort

/-- A copy of a block in the storage of a worker. -/
structure Replica where
  workerId : Int := 0
  address : NodeAddress
  tier : String := "MEM"
  deriving DecidableEq, Repr

structure Block where
  id : Int
  length : Int := 0
  replicas : List Replica := []
  deriving DecidableEq, Repr

/-- A block of a file: where it starts, and which nodes of the backing store hold its data. -/
structure BlockReport where
  block : Block
  offset : Int := 0
  backing : List NodeAddress := []
  deriving DecidableEq, Repr

/-- The attributes of a file or directory. -/
structure FileInfo where
  id : Int
  name : String
  path : String
  length : Int := 0
  blockSize : Int := 0
  createdMs : Int := 0
  modifiedMs : Int := 0
  completed : Bool := true
  folder : Bool := false
  pinned : Bool := false
  inMemoryPercent : Int := 0
  owner : String := ""
  group : String := ""
  permission : Int := 0o644
  blockIds : List Int := []
  deriving DecidableEq, Repr

end ClusterBrowser
