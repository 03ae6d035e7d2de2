import ClusterBrowser.Namespace.Basic

/-!
# Population

* `Namespace.empty`: a namespace with the root alone.
* `mkdir`: a directory with the directories above it.
* `addFile`: a file, cut into blocks that are all placed alike.
* `deny`: a path that nobody may look at from now on.
-/

namespace ClusterBrowser

/-- The size of blocks unless another one is asked for. -/
def defaultBlockSize : Int := 512 * 1024 * 1024

structure DirectoryOptions where
  permission : Int := 0o755
  owner : String := ""
  group : String := ""
  deriving DecidableEq, Repr

structure FileOptions where
  blockSize : Int := defaultBlockSize
  completed : Bool := true
  workers : List NodeAddress := []
  backing : List NodeAddress := []
  tier : String := "MEM"
  pinned : Bool := false
  owner : String := ""
  group : String := ""
  permission : Int := 0o644
  deriving DecidableEq, Repr

namespace Namespace

/-- Puts a node at a path, and its name among the children of the directory above. -/
def attach (ns : Namespace) (p : Path) (node : Node) : Namespace :=
  let ns := { ns with nodes := ns.nodes.put p node, nextId := ns.nextId + 1 }
  match p with
  | .root => ns
  | .child parent name =>
    { ns with nodes := ns.nodes.adjust parent fun dir => { dir with children := dir.children.put name.text p } }

def newDirectory (ns : Namespace) (p : Path) (now : Int) (o : DirectoryOptions) : Node :=
  { info := {
      id := ns.nextId
      name := p.basename
      path := p.text
      createdMs := now
      modifiedMs := now
      folder := true
      owner := o.owner
      group := o.group
      permission := o.permission } }

/-- Creates a directory and those above it that are missing, the topmost first. -/
def ensureDirectory (now : Int) (o : DirectoryOptions) : Path → Namespace → Namespace
  | .root, ns => if ns.contains .root then ns else ns.attach .root (ns.newDirectory .root now o)
  | .child parent name, ns =>
    if ns.contains (.child parent name) then ns
    else
      let ns := if ns.contains parent then ns else ensureDirectory now o parent ns
      ns.attach (.child parent name) (ns.newDirectory (.child parent name) now o)

/-- A namespace with the root alone. -/
def empty (clock : Clock) : Except Failure Namespace :=
  match clock.millis with
  | none => .error .clockTooFar
  | some now => .ok (ensureDirectory now {} .root { clock })

/-- The attributes at a path, of which there are some after a directory has been made there. -/
def infoAt (ns : Namespace) (p : Path) : FileInfo :=
  match ns.find? p with
  | some node => node.info
  | none => { id := 0, name := p.basename, path := p.text }

/-- Makes a directory. What exists already, of whatever kind, is left as it is. The clock is read once, also if directories
above it are made. -/
def mkdir (raw : String) (o : DirectoryOptions) : Action Namespace FileInfo := do
  let p ← Action.ofExcept (fun e : PathError => .browse e.toBrowseError) (Path.parse raw)
  let ns ← get
  if ns.contains p then return ns.infoAt p
  match ns.clock.millis with
  | none => throw .clockTooFar
  | some now =>
    set (ns.ensureDirectory now o p)
    return (← get).infoAt p

/-- The number of blocks of `blockSize` bytes that hold `length` bytes. Of blocks of a negative size there are none. -/
def blockCount (length : Nat) (blockSize : Int) : Nat :=
  (length + blockSize.toNat - 1) / blockSize.toNat

/-- The identity of a block: 24 bits below the identity of its file are left for its place in the file. -/
def blockId (fileId : Int) (index : Nat) : Int := fileId * Nat.pow 2 24 + index

/-- Block number `index` of a file, with a copy on every worker. -/
def blockAt (fileId : Int) (length : Nat) (o : FileOptions) (index : Nat) : BlockReport :=
  let offset := index * o.blockSize
  { block := {
      id := blockId fileId index
      length := min o.blockSize (length - offset)
      replicas := o.workers.zipIdx.map fun (address, i) => { workerId := i + 1, address, tier := o.tier } }
    offset
    backing := o.backing }

def blocksOf (fileId : Int) (length : Nat) (o : FileOptions) : List BlockReport :=
  (List.range (blockCount length o.blockSize)).map (blockAt fileId length o)

/-- The node of a new file, not yet cut into blocks. -/
def newFile (ns : Namespace) (p : Path) (now : Int) (data : Bytes) (o : FileOptions) : Node :=
  { info := {
      id := ns.nextId
      name := p.basename
      path := p.text
      length := data.length
      blockSize := o.blockSize
      createdMs := now
      modifiedMs := now
      completed := o.completed
      pinned := o.pinned
      inMemoryPercent := if !o.workers.isEmpty && !data.isEmpty then 100 else 0
      owner := o.owner
      group := o.group
      permission := o.permission }
    data }

/-- The node of a file with its blocks. -/
def cut (node : Node) (o : FileOptions) : Node :=
  let blocks := blocksOf node.info.id node.data.length o
  { node with blocks, info := { node.info with blockIds := blocks.map (·.block.id) } }

/-- Makes a file, and the directories above it that are missing. What was at the path before is replaced, its children
with it. A file that is to be cut into blocks of no bytes is made and then refused. The clock is read once, for the file and
for all directories. -/
def addFile (raw : String) (data : Bytes) (o : FileOptions) : Action Namespace FileInfo := do
  let p ← Action.ofExcept (fun e : PathError => .browse e.toBrowseError) (Path.parse raw)
  let ns ← get
  match ns.clock.millis with
  | none => throw .clockTooFar
  | some now =>
    let ns := if ns.contains p.parent then ns else ns.ensureDirectory now {} p.parent
    let node := ns.newFile p now data o
    set (ns.attach p node)
    if o.blockSize = 0 then throw .emptyBlocks
    let whole := cut node o
    modify fun ns => { ns with nodes := ns.nodes.put p whole }
    return whole.info

/-- Denies every look at a path, in whatever spelling. -/
def deny (raw : String) : Action Namespace Unit := do
  let p ← Action.ofExcept (fun e : PathError => .browse e.toBrowseError) (Path.parse raw)
  modify fun ns => { ns with denied := ns.denied ++ [p] }

end Namespace

end ClusterBrowser
