import ClusterBrowser.Url.Basic

/-!
# The address of a master

* `Endpoint`: the URL that all resources of a master are below.
* `Endpoint.parse`: the endpoint that a text spells.
* `Endpoint.locate`: the URL of a request.
* `addressOf`: how views show the address.
-/

namespace ClusterBrowser

/-- Where a master is. -/
structure Endpoint where
  base : Url
  deriving DecidableEq, Repr

namespace Endpoint

def dropSlashes (s : String) : String := String.ofList (Text.dropTrailing '/' s.toList)

def parse (text : String) : Except UrlError Endpoint := do
  let url ← Url.parse (dropSlashes text).toList
  return { base := ← url.asBase }

/-- The URL of a request for a resource. Parameters take the place of those of the endpoint, even if there are none. -/
def locate (e : Endpoint) (resource : String) (parameters : Option (List (String × String))) : Except UrlError Url := do
  let url ← e.base.resolve resource.toList
  let url ← match parameters with
    | some ps => url.withParameters ps
    | none => .ok url
  url.checkHost
  return url

end Endpoint

/-- What follows the last double slash; `seen` holds the characters since the last one, last first. -/
def afterDoubleSlash (seen : List Char) : List Char → List Char
  | [] => seen.reverse
  | '/' :: '/' :: rest => afterDoubleSlash [] rest
  | c :: rest => afterDoubleSlash (c :: seen) rest

/-- How views show the address of a master: as it is given, or else by its URL without the scheme. -/
def addressOf (given url : String) : String :=
  if given = "" then String.ofList (afterDoubleSlash [] url.toList) else given

end ClusterBrowser
