import ClusterBrowser.Number.Binary64

/-!
# JSON values

* `Json`: a value; integers and doubles are told apart, and objects keep their fields in order, repeated ones too.  Its
  texts are strings, unless told otherwise.
* `Json.field?`: the last of the fields of a name.
-/

namespace ClusterBrowser

/-- A JSON value with texts of type `τ`. -/
inductive Json (τ : Type := String) where
  | null
  | bool (b : Bool)
  | int (n : Int)
  | float (d : Double)
  | str (s : τ)
  | arr (items : List (Json τ))
  | obj (fields : List (τ × Json τ))
  deriving Inhabited, Repr

namespace Json

variable {τ : Type} [DecidableEq τ]

/-- The last of the fields of a name. -/
def lookupLast (key : τ) : List (τ × Json τ) → Option (Json τ)
  | [] => none
  | (k, v) :: rest => match lookupLast key rest with
    | some w => some w
    | none => if k = key then some v else none

/-- The value of a field of an object. -/
def field? (j : Json τ) (key : τ) : Option (Json τ) :=
  match j with
  | obj fields => lookupLast key fields
  | _ => none

def strings (ss : List String) : Json := arr (ss.map str)

def ofOption : Option Json → Json
  | some j => j
  | none => null

end Json

end ClusterBrowser
