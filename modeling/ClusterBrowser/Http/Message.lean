import ClusterBrowser.Json.Basic
import ClusterBrowser.Text.Case

/-!
# Requests to the application and its answers

* `Headers`: the headers of a request.
* `Incoming`, `Response`: a request and an answer.
-/

namespace ClusterBrowser

/-- The headers of a request, in order. -/
structure Headers where
  fields : List (String × String) := []
  deriving DecidableEq, Repr

namespace Headers

/-- The first value of a header, whose name is given in small letters. -/
def get? (h : Headers) (name : String) : Option String :=
  (h.fields.find? fun (k, _) => String.ofList (Text.lowerAscii k.toList) = name).map Prod.snd

def has (h : Headers) (name : String) : Bool := (h.get? name).isSome

def isAsciiText (s : String) : Bool := s.toList.all fun c => c.toNat < 0x80

/-- Whether all names and values are in ASCII. -/
def isAscii (h : Headers) : Bool := h.fields.all fun (k, v) => isAsciiText k && isAsciiText v

end Headers

/-- A request to the application. -/
structure Incoming where
  method : String := "GET"
  /-- A path with a query, or a URL. -/
  target : String
  headers : Headers := {}
  deriving DecidableEq, Repr

/-- The method in capitals. -/
def Incoming.verb (r : Incoming) : String := String.ofList (Text.upperAscii r.method.toList)

inductive ResponseBody where
  | json (j : Json)
  | text (s : String)

/-- What the application answers. -/
structure Response where
  status : Nat := 200
  body : ResponseBody
  location : Option String := none
  allowedOrigin : Option String := none

end ClusterBrowser
