import ClusterBrowser.Scripted.Stream
import ClusterBrowser.Table

/-!
# Scripted clusters

Any cluster can be made to fail on cue, and to hand out scripted streams.

* `Rehearsed`: the state of the cluster with the faults and scripts that are set.
* `Cluster.rehearsed`: the cluster with its cues.
-/

namespace ClusterBrowser

/-- The calls that can be made to fail. -/
inductive CueCall where
  | status | list | blocks | tiers | openFile | ping
  deriving DecidableEq, Repr

/-- The state of a cluster with its cues. -/
structure Rehearsed (σ : Type) where
  inner : σ
  /-- What a call fails with, for one path or for any. -/
  faults : Table (CueCall × Option String) Failure := []
  /-- The streams that are handed out instead of files. -/
  scripts : Table String ScriptedStream := []

variable {σ α : Type}

namespace Rehearsed

/-- The failure that is set for a call; one for the very path goes before one for any. -/
def fault? (r : Rehearsed σ) (call : CueCall) (path : Option String) : Option Failure :=
  match path.bind fun p => r.faults.find? (call, some p) with
  | some f => some f
  | none => r.faults.find? (call, none)

/-- Runs an action of the cluster itself. -/
def within (act : Action σ α) : Action (Rehearsed σ) α :=
  act.onPart Rehearsed.inner fun r inner => { r with inner }

/-- Fails if that is set, before anything else. -/
def cue (call : CueCall) (path : Option String) : Action (Rehearsed σ) Unit := do
  match (← get).fault? call path with
  | some f => throw f
  | none => return ()

/-- The script for a path; an empty one if there is none. -/
def script (path : String) (r : Rehearsed σ) : ScriptedStream := (r.scripts.find? path).getD {}

def setScript (path : String) (r : Rehearsed σ) (s : ScriptedStream) : Rehearsed σ :=
  { r with scripts := r.scripts.put path s }

/-- Opens a file, or the scripted stream that is set for the very text. -/
def openFile (c : Cluster σ) (path : String) (mode : ReadMode) : Action (Rehearsed σ) (FileStream (Rehearsed σ)) := do
  cue .openFile (some path)
  let r ← get
  if r.scripts.contains path then
    set (setScript path r ((script path r).note (.opened mode)))
    return ScriptedStream.stream.onPart (script path) (setScript path)
  else
    let stream ← within (c.openFile path mode)
    return stream.onPart Rehearsed.inner fun r inner => { r with inner }

end Rehearsed

open Rehearsed in
/-- A cluster with its cues. A call to see whether it answers does not fail but finds that it does not. -/
def Cluster.rehearsed (c : Cluster σ) : Cluster (Rehearsed σ) where
  masterAddress := c.masterAddress
  status path := do cue .status (some path); within (c.status path)
  list path := do cue .list (some path); within (c.list path)
  blocks path := do cue .blocks (some path); within (c.blocks path)
  tiers := do cue .tiers none; within c.tiers
  openFile path mode := Rehearsed.openFile c path mode
  ping := do
    match (← get).fault? .ping none with
    | some _ => return false
    | none => within c.ping
  close := within c.close

end ClusterBrowser
