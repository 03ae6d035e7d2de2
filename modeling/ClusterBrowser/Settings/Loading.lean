import ClusterBrowser.Json.Decoding
import ClusterBrowser.Master.Endpoint
import ClusterBrowser.Settings.Basic
import ClusterBrowser.Text.Case
import ClusterBrowser.Text.Split

/-!
# Loading settings

Arguments go before the environment, and the environment before the defaults.

* `Settings.load`: the settings of some environment variables and arguments.
* `originsOf`: the origins of a list, or of a text with commas.
-/

namespace ClusterBrowser

/-- Why there are no settings. -/
inductive SettingsError where
  /-- A variable that must hold JSON does not. -/
  | notJson
  /-- Some fields are wrong. -/
  | wrong (places : List Location)
  deriving DecidableEq, Repr

namespace Settings

def fieldNames : List String :=
  ["app_name", "debug", "environment", "log_level", "host", "port", "api_prefix", "cors_origins", "master_url",
    "master_address", "master_timeout_seconds", "worker_web_port", "location_sampling", "location_failure_policy",
    "mode"]

/-- What environment variables begin with. -/
def variableStart : String := "nsbrowse_"

/-- The fields whose variables hold JSON. -/
def jsonFields : List String := ["cors_origins"]

/-! ## Fields of their own kind -/

/-- The origins in place of a value that is neither a list nor a text of origins. -/
def fallbackOrigins : List String := ["http://localhost:5173"]

/-- The parts of a text between commas, without blanks around them; empty parts do not count. -/
def splitOrigins (s : String) : List String :=
  ((Text.splitAt ',' s.toList).map Text.trimBlank).filterMap fun part =>
    if part.isEmpty then none else some (String.ofList part)

/-- The origins of a value. A text that begins like a list, and any other value, gives the fallback. -/
def originsOf : Json → Checked (List String)
  | .str s => .ok (if s.toList.head? = some '[' then fallbackOrigins else splitOrigins s)
  | .arr items => Json.asList Json.asText (.arr items)
  | _ => .ok fallbackOrigins

/-- A URL without slashes at its end. -/
def urlOf (j : Json) : Checked String := Endpoint.dropSlashes <$> j.asText

/-- The value of a word out of a list. -/
def choiceOf {α : Type} (choices : List (String × α)) : Json → Checked α
  | .str s => .ofOption (choices.lookup s)
  | _ => .wrong [[]]

/-- The words for a sampling. -/
def samplings : List (String × Sampling) := [("first_block", .firstBlock), ("all_blocks", .allBlocks)]

/-- The words for a failure policy. -/
def policies : List (String × FailurePolicy) := [("abort", .abort), ("skip", .skip)]

/-! ## All fields -/

def ofFields (fs : List (String × Json)) : Checked Settings :=
  let d : Settings := {}
  Settings.mk <$> Json.optional fs "app_name" Json.asText d.appName <*>
    Json.optional fs "debug" Json.asBool d.debug <*>
    Json.optional fs "environment" Json.asText d.environment <*>
    Json.optional fs "log_level" Json.asText d.logLevel <*>
    Json.optional fs "host" Json.asText d.host <*>
    Json.optional fs "port" Json.asInt d.port <*>
    Json.optional fs "api_prefix" Json.asText d.apiPrefix <*>
    Json.optional fs "cors_origins" originsOf d.corsOrigins <*>
    Json.optional fs "master_url" urlOf d.masterUrl <*>
    Json.optional fs "master_address" Json.asText d.masterAddress <*>
    Json.optional fs "master_timeout_seconds" Json.asFloat d.masterTimeout <*>
    Json.optional fs "worker_web_port" Json.asInt d.workerWebPort <*>
    Json.optional fs "location_sampling" (choiceOf samplings) d.sampling <*>
    Json.optional fs "location_failure_policy" (choiceOf policies) d.policy <*>
    Json.optional fs "mode" Json.asText d.mode

def lowerName (name : String) : String := String.ofList (Text.lower name.toList)

/-- The last variable whose name, in any case, is that of a field. -/
def variableNamed (env : List (String × String)) (name : String) : Option String :=
  (env.reverse.find? fun (k, _) => lowerName k = variableStart ++ name).map Prod.snd

/-- The value that the environment gives a field, if any. A variable that holds `null` counts as not there. -/
def fromEnvironment (env : List (String × String)) (name : String) : Except SettingsError (Option Json) :=
  match variableNamed env name with
  | none => .ok none
  | some value =>
    if jsonFields.contains name then
      match Json.read .lenient value.toList with
      | none => .error .notJson
      | some .null => .ok none
      | some j => .ok (some j)
    else .ok (some (.str value))

/-- The fields that the environment gives. -/
def environmentFields (env : List (String × String)) : List String → Except SettingsError (List (String × Json))
  | [] => .ok []
  | name :: rest => do
    let value ← fromEnvironment env name
    let fields ← environmentFields env rest
    return match value with
      | some j => (name, j) :: fields
      | none => fields

/-- The first argument whose name, in any case, is that of a field. -/
def argumentNamed (arguments : List (String × Json)) (name : String) : Option Json :=
  (arguments.find? fun (k, _) => lowerName k = name).map Prod.snd

def argumentFields (arguments : List (String × Json)) : List (String × Json) :=
  fieldNames.filterMap fun name => (argumentNamed arguments name).map (name, ·)

/-- The settings of some environment variables and arguments. -/
def load (env : List (String × String)) (arguments : List (String × Json)) : Except SettingsError Settings := do
  let fields ← environmentFields env fieldNames
  match ofFields (fields ++ argumentFields arguments) with
  | .ok s => return s
  | .wrong places => throw (.wrong places)

/-- The settings as JSON, with the mode as a flag. -/
def toJson (s : Settings) : Json :=
  .obj [("app_name", .str s.appName), ("debug", .bool s.debug), ("environment", .str s.environment),
    ("log_level", .str s.logLevel), ("host", .str s.host), ("port", .int s.port), ("api_prefix", .str s.apiPrefix),
    ("cors_origins", .strings s.corsOrigins), ("master_url", .str s.masterUrl),
    ("master_address", .str s.masterAddress), ("master_timeout_seconds", .float s.masterTimeout),
    ("worker_web_port", .int s.workerWebPort),
    ("location_sampling", .str (match s.sampling with | .firstBlock => "first_block" | .allBlocks => "all_blocks")),
    ("location_failure_policy", .str (match s.policy with | .abort => "abort" | .skip => "skip")),
    ("mode", .str s.mode), ("is_dev_mode", .bool s.isDevMode)]

end Settings

end ClusterBrowser
