import ClusterBrowser.Json.Basic
import ClusterBrowser.Master.Client
import ClusterBrowser.Namespace.Demo
import ClusterBrowser.Settings.Basic
import ClusterBrowser.Text.Case

/-!
# Launching

* `Client`: a namespace in memory, or a connection to a master.
* `Client.build`: the client that the settings ask for.
* `Settings.serverOptions`: what a server is told by the settings.
* `Settings.launch?`: the same with more options, none of which may be given twice.
-/

namespace ClusterBrowser

variable {τ : Type}

/-- A client with its state. -/
inductive Client (τ : Type) where
  | memory (masterAddress : String) (ns : Namespace)
  | remote (m : Master τ) (conn : Connection τ)

namespace Client

def masterAddress : Client τ → String
  | memory address _ => address
  | remote m _ => m.address

/-- The client that the settings ask for: the demonstration namespace, or a connection over the given transport. -/
def build (s : Settings) (clock : Clock) (send : Transport τ) (transport : τ) : Except Failure (Client τ) :=
  if s.isDevMode then (Namespace.demo clock).map (memory s.masterAddress)
  else do
    let endpoint ← (Endpoint.parse s.masterUrl).mapError .url
    return remote { send, endpoint, address := addressOf s.masterAddress s.masterUrl } { transport }

/-- Runs an action of whichever cluster the client is. -/
def run {α : Type} (act : {σ : Type} → Cluster σ → Action σ α) : Client τ → Except Failure α × Client τ
  | memory address ns =>
    let (outcome, ns) := (act (Namespace.cluster address Namespace.defaultTiers)).exec ns
    (outcome, memory address ns)
  | remote m conn =>
    let (outcome, conn) := (act m.cluster).exec conn
    (outcome, remote m conn)

end Client

namespace Settings

/-- The options that a server is launched with. The log level is written in small letters. -/
def serverOptions (s : Settings) : List (String × Json) :=
  [("host", .str s.host), ("port", .int s.port), ("reload", .bool s.debug),
    ("log_level", .str (String.ofList (Text.lower s.logLevel.toList)))]

/-- The options with some more; `none` if one of them is given twice. -/
def launch? (s : Settings) (more : List (String × Json)) : Option (List (String × Json)) :=
  if more.any fun (k, _) => (s.serverOptions.lookup k).isSome then none else some (s.serverOptions ++ more)

end Settings

end ClusterBrowser
