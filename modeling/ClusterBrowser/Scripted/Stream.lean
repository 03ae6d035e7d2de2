import ClusterBrowser.Cluster

/-!
# Scripted streams

A stream that answers from a script, for rehearsing what a real one rarely does.

* `ScriptedStream`: what is left of the script, and the calls so far.
* `ScriptedStream.stream`: the script as a stream over itself.
-/

namespace ClusterBrowser

inductive StreamCall where
  | opened (mode : ReadMode)
  | skip (n : Int)
  | read (n : Int)
  | close
  deriving DecidableEq, Repr

/-- A script: what every skip gives, the number asked for unless told otherwise, and what one read after another gives;
then there is nothing left. -/
structure ScriptedStream where
  skipped : Option (Except Failure Int) := none
  reads : List (Except Failure (Option Bytes)) := []
  calls : List StreamCall := []

namespace ScriptedStream

def note (call : StreamCall) (s : ScriptedStream) : ScriptedStream := { s with calls := s.calls ++ [call] }

def stream : FileStream ScriptedStream where
  skip n := Action.ofFunction fun s => (s.skipped.getD (.ok n), s.note (.skip n))
  read n := Action.ofFunction fun s =>
    match s.reads with
    | [] => (.ok none, s.note (.read n))
    | r :: rest => (r, { s.note (.read n) with reads := rest })
  close := modify (note .close)

end ScriptedStream

end ClusterBrowser
