import ClusterBrowser.Http.Message

/-!
# Requests from other origins

A browser names the origin of the page that asks.  Only origins that are allowed are named back.

* `OriginPolicy`: the origins that are allowed.
* `OriginPolicy.preflight`: the answer to a request that only asks for permission.
* `OriginPolicy.granted?`: the origin that an answer names.
-/

namespace ClusterBrowser

structure OriginPolicy where
  origins : List String
  deriving DecidableEq, Repr

namespace OriginPolicy

/-- Whether an origin is allowed. A star allows all. -/
def allows (p : OriginPolicy) (origin : String) : Bool := p.origins.contains "*" || p.origins.contains origin

/-- The methods that may be asked for. -/
def methods : List String := ["DELETE", "GET", "HEAD", "OPTIONS", "PATCH", "POST", "PUT", "QUERY"]

/-- The origin that an answer names. -/
def granted? (p : OriginPolicy) (h : Headers) : Option String := (h.get? "origin").filter p.allows

/-- Whether a request only asks for permission. -/
def isPreflight (r : Incoming) : Bool :=
  r.verb = "OPTIONS" && r.headers.has "origin" && r.headers.has "access-control-request-method"

/-- What speaks against a permission. Pages of a public network get none for a private one. -/
def objections (p : OriginPolicy) (h : Headers) : List String :=
  (if p.allows ((h.get? "origin").getD "") then [] else ["origin"]) ++
    (if methods.contains ((h.get? "access-control-request-method").getD "") then [] else ["method"]) ++
    (if h.has "access-control-request-private-network" then ["private-network"] else [])

/-- The answer to a request for permission. -/
def preflight (p : OriginPolicy) (h : Headers) : Response :=
  let allowedOrigin := p.granted? h
  match p.objections h with
  | [] => { body := .text "OK", allowedOrigin }
  | against => { status := 400, body := .text ("Disallowed CORS " ++ String.intercalate ", " against), allowedOrigin }

end OriginPolicy

end ClusterBrowser
