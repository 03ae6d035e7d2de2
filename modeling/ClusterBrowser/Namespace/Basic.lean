import ClusterBrowser.Failure
import ClusterBrowser.Metadata
import ClusterBrowser.Number.Binary64
import ClusterBrowser.Table

/-!
# The namespace

* `Node`: a file or directory with its data, its blocks and its children.
* `OpenFile`: a file that was opened, with its position.
* `Namespace`: nodes by path, the paths that nobody may look at, and the files opened so far.
* `Namespace.lookup`: the node that a text leads to.
-/

namespace ClusterBrowser

/-- The bytes from `start` up to `stop`; a negative bound counts from the end. -/
def Bytes.slice (data : Bytes) (start stop : Int) : Bytes :=
  let place (i : Int) : Nat := if i < 0 then (i + data.length).toNat else i.toNat
  (data.take (place stop)).drop (place start)

/-- A file or directory. -/
structure Node where
  info : FileInfo
  data : Bytes := []
  blocks : List BlockReport := []
  /-- The paths of the children by name, in the order of their creation. -/
  children : Table String Path := []

structure OpenFile where
  data : Bytes
  position : Nat := 0
  closed : Bool := false
  deriving DecidableEq, Repr

namespace OpenFile

/-- Moves forward, at most to the end, and says how far. -/
def skip (f : OpenFile) (n : Int) : Int × OpenFile :=
  if n ≤ 0 then (0, f)
  else
    let moved := min n.toNat (f.data.length - f.position)
    (moved, { f with position := f.position + moved })

/-- The next `n` bytes; at the end there are none. A negative `n` stops short of the end as a slice does. -/
def read (f : OpenFile) (n : Int) : Option Bytes × OpenFile :=
  if n = 0 then (some [], f)
  else if f.data.length ≤ f.position then (none, f)
  else
    let chunk := f.data.slice f.position (f.position + n)
    (some chunk, { f with position := f.position + chunk.length })

end OpenFile

/-- The time of creation of what is created next. One reading stands for a whole call: all nodes that the call makes were
created at the same time. -/
structure Clock where
  /-- Milliseconds since 1970; missing when the clock shows more than any number. -/
  millis : Option Int
  deriving DecidableEq, Repr

/-- The clock that shows a number of seconds: the milliseconds are a double product, cut off at the point. -/
def Clock.ofSeconds : Double → Clock
  | .finite negative size =>
    let product := size.mulNat 1000
    if product.isFinite then ⟨some (if negative then -(product.floor : Int) else product.floor)⟩ else ⟨none⟩
  | _ => ⟨none⟩

/-- A namespace in memory. -/
structure Namespace where
  nodes : Table Path Node := []
  denied : List Path := []
  opened : List OpenFile := []
  nextId : Nat := 1
  clock : Clock

namespace Namespace

/-- Why nothing was found. -/
inductive LookupError where
  | malformed (e : PathError)
  | denied (p : Path)
  | missing (p : Path)
  deriving DecidableEq

def LookupError.toBrowseError : LookupError → BrowseError
  | malformed e => e.toBrowseError
  | denied p => .accessDenied ("Permission denied: user may not access " ++ p.text)
  | missing p => .pathNotFound ("Path " ++ p.text ++ " does not exist")

def find? (ns : Namespace) (p : Path) : Option Node := ns.nodes.find? p

def contains (ns : Namespace) (p : Path) : Bool := (ns.find? p).isSome

/-- The node that a text leads to, in any of its spellings. -/
def lookup (ns : Namespace) (raw : String) : Except LookupError Node :=
  match Path.parse raw with
  | .error e => .error (.malformed e)
  | .ok p =>
    if ns.denied.contains p then .error (.denied p)
    else match ns.find? p with
      | none => .error (.missing p)
      | some node => .ok node

end Namespace

end ClusterBrowser
