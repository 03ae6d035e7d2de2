import ClusterBrowser.Browse.Browser
import ClusterBrowser.Http.Pattern
import ClusterBrowser.Json.Basic

/-!
# Parameters of a request for a view

A parameter that the pattern of the path names comes from the path; the others come from the query.

* `Parameters`: where the parameters come from.
* `Parameters.request`: the request for a view.
* `Parameters.complaints`: the parameters that are no texts.
-/

namespace ClusterBrowser

namespace Filling

/-- Checks that a number is not too long. -/
def check (f : Filling) : Except HttpError Unit :=
  if f.kind = .integer && Decimal.maxDigits < f.text.length then .error .numberTooLong else .ok ()

def isText (f : Filling) : Bool := f.kind = .segment || f.kind = .path

def decimal (cs : List Char) : Double :=
  let (whole, fraction) := cs.span (· != '.')
  let digits := whole ++ fraction.drop 1
  .ofDecimal false (Decimal.digitsValue digits) digits.length (-((fraction.drop 1).length : Int))

/-- An identifier in its usual form. -/
def identifier (cs : List Char) : List Char := group HoleKind.identifierGroups ((Text.lowerAscii cs).filter (· != '-'))
where
  group : List Nat → List Char → List Char
    | [], _ => []
    | [n], cs => cs.take n
    | n :: sizes, cs => cs.take n ++ '-' :: group sizes (cs.drop n)

def value (f : Filling) : Except HttpError Json :=
  match f.kind with
  | .segment | .path => .ok (.str (String.ofList f.text))
  | .integer => .ok (.int (Decimal.digitsValue f.text))
  | .decimal => match decimal f.text with
    | .finite .. => .ok (.float (decimal f.text))
    | _ => .error .numberTooLarge
  | .identifier => .ok (.str (String.ofList (identifier f.text)))

end Filling

/-- Where parameters come from: the pattern of the path, what the path puts into its holes, and the query. -/
structure Parameters where
  pattern : Pattern
  fillings : List Filling
  query : List (String × String)

namespace Parameters

/-- What is in the hole of a parameter, if the pattern names it. -/
def filling? (ps : Parameters) (name : String) : Option Filling :=
  if ps.pattern.braced.contains name.toList then ps.fillings.find? fun f => f.name = name.toList else none

/-- The text of a parameter. In the query, the last of a name counts. -/
def get? (ps : Parameters) (name : String) : Option String :=
  match ps.filling? name with
  | some f => some (String.ofList f.text)
  | none => ps.query.reverse.lookup name

def request (ps : Parameters) : Request :=
  { path := ps.get? "path", offset := ps.get? "offset", fromEnd := ps.get? "end", limit := ps.get? "limit" }

/-- The complaint about a parameter that is no text. -/
def complaint (name : String) (value : Json) : Json :=
  .obj [("type", .str "string_type"), ("loc", .strings ["path", name]), ("msg", .str "Input should be a valid string"),
    ("input", value)]

def complaints (ps : Parameters) : Except HttpError (List Json) := do
  let wrong := ["path", "offset", "end", "limit"].filterMap fun name =>
    ((ps.filling? name).filter fun f => !f.isText).map (name, ·)
  wrong.mapM fun (name, f) => do return complaint name (← f.value)

end Parameters

end ClusterBrowser
