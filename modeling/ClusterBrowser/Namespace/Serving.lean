import ClusterBrowser.Cluster
import ClusterBrowser.Namespace.Population

/-!
# The namespace as a cluster

* `Namespace.stream`: an opened file as a stream.
* `Namespace.cluster`: the namespace answers the calls of a cluster.
-/

namespace ClusterBrowser.Namespace

/-- The tiers unless others are given. -/
def defaultTiers : List String := ["MEM", "SSD", "HDD"]

/-- The node that a text leads to. -/
def visit (raw : String) : Action Namespace Node := do
  match (← get).lookup raw with
  | .ok node => return node
  | .error e => Action.fail e.toBrowseError

/-- Works on the opened file number `i`. -/
def useOpened {α : Type} (i : Nat) (idle : α) (use : OpenFile → α × OpenFile) : Action Namespace α := do
  let ns ← get
  match ns.opened[i]? with
  | none => return idle
  | some file =>
    let (a, file) := use file
    set { ns with opened := ns.opened.set i file }
    return a

def stream (i : Nat) : FileStream Namespace where
  skip n := useOpened i 0 (·.skip n)
  read n := useOpened i none (·.read n)
  close := useOpened i () fun file => ((), { file with closed := true })

def openFile (raw : String) : Action Namespace (FileStream Namespace) := do
  let node ← visit raw
  if node.info.folder then Action.fail (.invalidPath ("Path " ++ raw ++ " is a directory"))
  else
    let ns ← get
    set { ns with opened := ns.opened ++ [OpenFile.mk node.data 0 false] }
    return stream ns.opened.length

/-- The attributes of the children of a directory; a file stands for itself. -/
def children (ns : Namespace) (node : Node) : List FileInfo :=
  if node.info.folder then node.children.filterMap fun (_, p) => (ns.find? p).map Node.info
  else [node.info]

/-- The namespace as a cluster. It always answers. -/
def cluster (masterAddress : String) (tiers : List String) : Cluster Namespace where
  masterAddress
  status raw := return (← visit raw).info
  list raw := do
    let node ← visit raw
    return (← get).children node
  blocks raw := return (← visit raw).blocks
  tiers := return tiers
  openFile raw _ := openFile raw
  ping := return true
  close := return ()

end ClusterBrowser.Namespace
