import ClusterBrowser.Failure
import ClusterBrowser.Metadata

/-!
# Clusters

All that the browser asks of a cluster.  The state `σ` is the cluster's own: a namespace in memory, a connection to a
master, or whatever else answers the same questions.

* `FileStream`: an open file.
* `Cluster`: the calls of a cluster.
* `Cluster.withFile`: opens a file, uses it, and closes it whatever happens.
-/

namespace ClusterBrowser

/-- An open file. `skip` gives the number of bytes passed over and `read` the bytes read; `none` means that there is
nothing left. -/
structure FileStream (σ : Type) where
  skip : Int → Action σ Int
  read : Int → Action σ (Option Bytes)
  close : Action σ Unit

/-- The calls of a cluster. -/
structure Cluster (σ : Type) where
  /-- The address that views show. -/
  masterAddress : String
  /-- The attributes of a path. -/
  status : String → Action σ FileInfo
  /-- The attributes of the children of a directory. -/
  list : String → Action σ (List FileInfo)
  /-- The blocks of a file. -/
  blocks : String → Action σ (List BlockReport)
  /-- The names of the storage tiers, highest first. -/
  tiers : Action σ (List String)
  /-- Opens a file. -/
  openFile : String → ReadMode → Action σ (FileStream σ)
  /-- Whether the cluster answers. -/
  ping : Action σ Bool
  /-- Lets go of what the client holds. -/
  close : Action σ Unit

variable {σ τ α : Type}

/-- A stream over a part of the state. -/
def FileStream.onPart (get : σ → τ) (set : σ → τ → σ) (stream : FileStream τ) : FileStream σ where
  skip n := (stream.skip n).onPart get set
  read n := (stream.read n).onPart get set
  close := stream.close.onPart get set

/-- Opens a file, uses it, and closes it also when the use fails. -/
def Cluster.withFile (c : Cluster σ) (path : String) (mode : ReadMode) (use : FileStream σ → Action σ α) :
    Action σ α := do
  let stream ← c.openFile path mode
  let result ← (use stream).observe
  stream.close
  Action.ofExcept id result

end ClusterBrowser
