import ClusterBrowser.Display.Timestamp
import ClusterBrowser.Namespace.Serving

/-!
# The demonstration namespace

* `Namespace.demo`: a small namespace to try the browser on.
-/

namespace ClusterBrowser.Namespace

namespace Demo

/-- The workers of the demonstration. -/
def worker (host : String) : NodeAddress := { host, rpcPort := 29998, dataPort := 29999, webPort := 30000 }

def backing : NodeAddress := { host := "hdfs-namenode", dataPort := 9000 }

def ascii (s : String) : Bytes := s.toList.map fun c => c.toNat.toUInt8

/-- Line `i` of the demonstration log. -/
def logLine (i : Nat) : Bytes :=
  ascii "2026-01-01 00:00:" ++ (Instant.padded 2 (i % 60)).map (fun c => c.toNat.toUInt8) ++
    ascii " INFO master heartbeat ok\n"

/-- All bytes, eight times over. -/
def events : Bytes := (List.replicate 8 ((List.range 256).map Nat.toUInt8)).flatten

def populate : Action Namespace Unit := do
  let staff : DirectoryOptions := { owner := "nsbrowse", group := "staff" }
  discard <| mkdir "/logs" staff
  discard <| mkdir "/data/raw" staff
  discard <| mkdir "/data/empty" {}
  discard <| addFile "/README.txt" (ascii "Demo namespace served by nsbrowse in dev mode.\n")
    { workers := [worker "worker-1"], backing := [backing] }
  discard <| addFile "/logs/master.log" ((List.range 400).flatMap logLine)
    { blockSize := 4096, workers := [worker "worker-1", worker "worker-2"], backing := [backing] }
  discard <| addFile "/data/raw/events.bin" events { backing := [backing] }
  discard <| addFile "/data/raw/upload.part" (ascii "partial") { completed := false }
  discard <| addFile "/data/zero-length" [] {}

end Demo

/-- The demonstration namespace, created at the time that the clock shows. -/
def demo (clock : Clock) : Except Failure Namespace := do
  let ns ← empty clock
  let (outcome, ns) := Demo.populate.exec ns
  outcome
  return ns

end ClusterBrowser.Namespace
