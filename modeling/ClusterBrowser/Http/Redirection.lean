import ClusterBrowser.Failure
import ClusterBrowser.Http.Message

/-!
# Redirections

* `Redirection.otherSpelling`: a path with the slash at its end dropped or added.
* `Redirection.location`: the URL that a redirection names.
* `Redirection.response`: the answer that redirects, if it leads anywhere.
-/

namespace ClusterBrowser.Redirection

/-- The path with the slashes at its end dropped, or one added. -/
def otherSpelling (path : List Char) : List Char :=
  if path.getLast? = some '/' then Text.dropTrailing '/' path else path ++ ['/']

/-- A decoded path as it may stand in front of a query. -/
def guardPath (path : List Char) : List Char :=
  path.flatMap fun c => if c = '?' || c = '#' then Percent.encodeChar (fun _ => false) c else [c]

/-- Characters that stay as they are. -/
def staysInLocation (c : Char) : Bool := Percent.isUnreserved c || ":/%#?=@[]!$&'()*+,;".toList.contains c

/-- The URL of another path of the server, with the query of the request. The server is called as the request calls it. -/
def location (url : Url) (h : Headers) (path : List Char) : List Char :=
  let authority := match h.get? "host" with
    | some host => host.toList
    | none => url.serverName
  let query := match url.query with
    | some query => if query.isEmpty then [] else '?' :: query
    | none => []
  Percent.encodeBy staysInLocation (url.scheme ++ "://".toList ++ authority ++ guardPath path ++ query)

/-- The answer that redirects to another path. A location that is no URL, or whose host cannot be shown, fails. -/
def response (url : Url) (h : Headers) (path : List Char) : Except Failure Response := do
  let text := location url h path
  match Url.parse text with
  | .error _ => .error (.http .badRedirection)
  | .ok leading =>
    let _ ← leading.shownAuthority.mapError Failure.url
    return { status := 307, body := .text "", location := some (String.ofList text) }

end ClusterBrowser.Redirection
