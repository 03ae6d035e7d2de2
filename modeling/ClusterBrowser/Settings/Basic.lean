import ClusterBrowser.Browse.Browser
import ClusterBrowser.Number.Binary64

/-!
# Settings

* `Settings`: all that can be set, with defaults.
* `Settings.browser`: the part of it that concerns views.
-/

namespace ClusterBrowser

/-- All that can be set. -/
structure Settings where
  appName : String := "nsbrowse"
  debug : Bool := true
  environment : String := "development"
  logLevel : String := "INFO"
  host : String := "127.0.0.1"
  port : Int := 8000
  apiPrefix : String := "/api"
  corsOrigins : List String := ["http://localhost:5173", "http://localhost:8000"]
  masterUrl : String := "http://localhost:19999"
  masterAddress : String := "localhost:19998"
  masterTimeout : Double := .finite false (Binary64.ofNat 10)
  workerWebPort : Int := 30000
  sampling : Sampling := .firstBlock
  policy : FailurePolicy := .abort
  mode : String := "dev"
  deriving DecidableEq, Repr

namespace Settings

/-- Whether the demonstration namespace is served instead of a master. -/
def isDevMode (s : Settings) : Bool := s.mode = "dev"

def browser (s : Settings) : Browser :=
  { workerWebPort := s.workerWebPort, debug := s.debug, sampling := s.sampling, policy := s.policy }

end Settings

end ClusterBrowser
