import ClusterBrowser.Cluster
import ClusterBrowser.Json.Metadata
import ClusterBrowser.Master.Endpoint
import ClusterBrowser.Master.Message

/-!
# A master as a cluster

* `RemoteFile`: an open file at the master, of which only the position is kept here.
* `classify`: what a reply means.
* `Master.cluster`: the calls of a cluster as requests to a master.
-/

namespace ClusterBrowser

/-- An open file at the master. -/
structure RemoteFile where
  path : String
  length : Int
  mode : ReadMode
  position : Int := 0
  deriving DecidableEq, Repr

namespace RemoteFile

/-- Moves forward, at most to the end, and says how far. The master is not asked. -/
def skip (f : RemoteFile) (n : Int) : Int × RemoteFile :=
  if n ≤ 0 then (0, f)
  else
    let moved := min n (f.length - f.position)
    (moved, { f with position := f.position + moved })

/-- The parameters of a request for the next `n` bytes. Offset and length are written out, however many digits they have;
where numbers of more than `Decimal.maxDigits` digits have no text, a request for them cannot be made. -/
def rangeParameters (f : RemoteFile) (n : Int) : List (String × String) :=
  [("path", f.path), ("offset", Decimal.text f.position), ("length", Decimal.text n), ("readType", f.mode.word)]

def advance (f : RemoteFile) (count : Nat) : RemoteFile := { f with position := f.position + count }

def toEnd (f : RemoteFile) : RemoteFile := { f with position := f.length }

end RemoteFile

/-- What a reply means: the reply itself, or the error that it reports. `path` is the path that was asked for. -/
def classify (path : String) (r : Reply) : Except BrowseError Reply :=
  let explanation := r.explanation
  let named := if explanation = "" then path else explanation
  if r.status = 400 then .error (.invalidPath named)
  else if r.status = 403 then .error (.accessDenied named)
  else if r.status = 404 then .error (.pathNotFound named)
  else if 400 ≤ r.status then
    .error (.unavailable ("master returned " ++ Decimal.text r.status ++ ": " ++ explanation))
  else .ok r

def Reply.decode {α : Type} (r : Reply) (value : Json → Checked α) : Checked α :=
  match Utf8.decode? r.body with
  | some text => Json.decode value text
  | none => .wrong [[]]

/-- A connection: the transport, and the files opened over it. -/
structure Connection (τ : Type) where
  transport : τ
  closed : Bool := false
  opened : List RemoteFile := []

structure Master (τ : Type) where
  send : Transport τ
  endpoint : Endpoint
  address : String

namespace Master

variable {τ : Type}

/-- The resources of a master. -/
def statusResource : String := "/api/v1/paths/status"

@[inherit_doc statusResource]
def listResource : String := "/api/v1/paths/list"

@[inherit_doc statusResource]
def blocksResource : String := "/api/v1/paths/blocks"

@[inherit_doc statusResource]
def readResource : String := "/api/v1/paths/read"

@[inherit_doc statusResource]
def tiersResource : String := "/api/v1/storage/tiers"

@[inherit_doc statusResource]
def pingResource : String := "/api/v1/master/ping"

/-- Sends a request for a resource. Parameters, even if there are none, take the place of those of the endpoint. -/
def exchange (m : Master τ) (resource : String) (parameters : Option (List (String × String))) :
    Action (Connection τ) (Except String Reply) := do
  let url ← Action.ofExcept .url (m.endpoint.locate resource parameters)
  let conn ← get
  if conn.closed then throw .clientClosed
  let authority ← Action.ofExcept .url url.shownAuthority
  let request := { authority, path := url.decodedPath, parameters := parameters.getD url.parameters }
  let (outcome, transport) := m.send request conn.transport
  set { conn with transport }
  match outcome with
  | .ok _ => if url.namesScheme then return outcome else throw (.url .noScheme)
  | .error _ => return outcome

/-- The reply to a request, unless it reports an error. -/
def fetch (m : Master τ) (resource : String) (parameters : List (String × String)) :
    Action (Connection τ) Reply := do
  match ← m.exchange resource (some parameters) with
  | .error message => Action.fail (.unavailable ("master unreachable: " ++ message))
  | .ok reply => Action.ofExcept .browse (classify ((parameters.lookup "path").getD "") reply)

/-- The value that a reply carries. The message about a reply that carries none names the resource only, and leaves out what
exactly is wrong with the reply. -/
def fetchValue {α : Type} (m : Master τ) (resource : String) (parameters : List (String × String))
    (value : Json → Checked α) : Action (Connection τ) α := do
  let reply ← m.fetch resource parameters
  match reply.decode value with
  | .ok a => return a
  | .wrong _ => Action.fail (.unavailable ("malformed response from " ++ resource))

def status (m : Master τ) (path : String) : Action (Connection τ) FileInfo :=
  m.fetchValue statusResource [("path", path)] FileInfo.ofJson

/-- The opened file number `i`. -/
def file (i : Nat) : Action (Connection τ) RemoteFile := do
  return (← get).opened[i]?.getD { path := "", length := 0, mode := .noCache }

def putFile (i : Nat) (f : RemoteFile) : Action (Connection τ) Unit :=
  modify fun conn => { conn with opened := conn.opened.set i f }

/-- The next bytes of an opened file. The master may send more or fewer than asked for; a reply without bytes means that
there is nothing left. -/
def readFile (m : Master τ) (i : Nat) (n : Int) : Action (Connection τ) (Option Bytes) := do
  let f ← file i
  if n = 0 then return some []
  if f.length ≤ f.position then return none
  let reply ← m.fetch readResource (f.rangeParameters n)
  if reply.body.isEmpty then return none
  putFile i (f.advance reply.body.length)
  return some reply.body

def stream (m : Master τ) (i : Nat) : FileStream (Connection τ) where
  skip n := do
    let (moved, f) := (← file i).skip n
    putFile i f
    return moved
  read n := m.readFile i n
  close := do putFile i (← file i).toEnd

/-- Opens a file, after a look at its attributes. -/
def openFile (m : Master τ) (path : String) (mode : ReadMode) :
    Action (Connection τ) (FileStream (Connection τ)) := do
  let info ← m.status path
  if info.folder then Action.fail (.invalidPath ("Path " ++ path ++ " is a directory"))
  let conn ← get
  set { conn with opened := conn.opened ++ [RemoteFile.mk info.path info.length mode 0] }
  return m.stream conn.opened.length

/-- Whether the master answers as it should. -/
def ping (m : Master τ) : Action (Connection τ) Bool := do
  match ← m.exchange pingResource none with
  | .ok reply => return reply.status = 200
  | .error _ => return false

/-- The calls of a cluster as requests to a master. -/
def cluster (m : Master τ) : Cluster (Connection τ) where
  masterAddress := m.address
  status path := m.status path
  list path := m.fetchValue listResource [("path", path)] (Json.asList FileInfo.ofJson)
  blocks path := m.fetchValue blocksResource [("path", path)] (Json.asList BlockReport.ofJson)
  tiers := m.fetchValue tiersResource [] (Json.asList Json.asText)
  openFile path mode := m.openFile path mode
  ping := m.ping
  close := modify fun conn => { conn with closed := true }

end Master

end ClusterBrowser
