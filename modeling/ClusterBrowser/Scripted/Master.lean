import ClusterBrowser.Master.Message
import ClusterBrowser.Namespace.Basic

/-!
# Scripted masters

A master that answers from a list of routes.

* `Route`: which requests it answers, and with what, one reply after another.
* `ScriptedMaster.send`: the routes as a transport, which keeps the requests.
-/

namespace ClusterBrowser

/-- What a scripted reply holds. -/
inductive ScriptedContent where
  | fixed (bytes : Bytes)
  /-- The range of a file that is asked for, cut to `maxChunk` bytes and made longer by `extra`. -/
  | range (file : Bytes) (maxChunk : Option Int) (extra : Int)

inductive ScriptedReply where
  | lost (message : String)
  | reply (status : Nat) (content : ScriptedContent)

/-- The replies to the requests for a path, and for a parameter `path` if one is given. The last reply is given again and
again. -/
structure Route where
  path : String
  parameter : Option String := none
  replies : List ScriptedReply

/-- A master that answers from routes. -/
structure ScriptedMaster where
  routes : List Route
  requests : List HttpRequest := []

namespace ScriptedContent

/-- An integer parameter of a request. -/
def parameter (r : HttpRequest) (name : String) : Int := Decimal.readOrZero (r.parameters.lookup name)

/-- The bytes of a reply to a request. -/
def bytes (r : HttpRequest) : ScriptedContent → Bytes
  | fixed bytes => bytes
  | range file maxChunk extra =>
    let offset := parameter r "offset"
    let length := match maxChunk with
      | some chunk => min (parameter r "length") chunk
      | none => parameter r "length"
    file.slice offset (offset + length + extra)

end ScriptedContent

/-- What a scripted reply is to a request. -/
def ScriptedReply.answer (r : HttpRequest) : ScriptedReply → Except String Reply
  | lost message => .error message
  | reply status content => .ok { status, body := content.bytes r }

namespace ScriptedMaster

def matchesRoute (r : HttpRequest) (route : Route) : Bool :=
  route.path = r.path && match route.parameter with
    | some p => r.parameters.lookup "path" = some p
    | none => true

/-- The answer of the first route that answers, and the routes after it. -/
def answer (r : HttpRequest) : List Route → Except String Reply × List Route
  | [] => (.ok { status := 404 }, [])
  | route :: rest =>
    if matchesRoute r route then
      match route.replies with
      | [] => (.ok { status := 404 }, route :: rest)
      | [last] => (last.answer r, route :: rest)
      | next :: more => (next.answer r, { route with replies := more } :: rest)
    else
      let (outcome, rest) := answer r rest
      (outcome, route :: rest)

def send : Transport ScriptedMaster := fun r m =>
  let (outcome, routes) := answer r m.routes
  (outcome, { routes, requests := m.requests ++ [r] })

end ScriptedMaster

end ClusterBrowser
