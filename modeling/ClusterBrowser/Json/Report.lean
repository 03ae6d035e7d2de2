import ClusterBrowser.Json.Basic
import ClusterBrowser.Number.Shortest
import ClusterBrowser.Table
import ClusterBrowser.Text.Quoted

/-!
# Error reports in JSON

A report comes from outside, and its strings are taken as they come.

* `Report`: a report.
* `Report.shown`: how a message shows it.
* `Report.isTruthy`: whether it counts as something.
* `Report.explanation`: what it has to say.
-/

namespace ClusterBrowser

/-- An error report: a JSON value whose strings are code points. -/
abbrev Report := Json (List Point)

namespace Report

mutual

/-- A value inside a message: texts are quoted, and a repeated field of an object shows once. -/
def shownInside : Report → String
  | .null => "None"
  | .bool b => if b then "True" else "False"
  | .int n => Decimal.text n
  | .float d => Shortest.text "inf" "nan" d
  | .str s => Text.quotePoints s
  | .arr items => "[" ++ String.intercalate ", " (shownItems items) ++ "]"
  | .obj fields => "\x7b" ++ String.intercalate ", " (shownFields fields) ++ "\x7d"

def shownItems : List Report → List String
  | [] => []
  | item :: rest => shownInside item :: shownItems rest

/-- The fields of an object, each name at its first place with its last value. -/
def shownFields (fields : List (List Point × Report)) : List String :=
  ((shownPairs fields).foldl (fun t (k, v) => Table.put t k v) []).map fun (k, v) => Text.quotePoints k ++ ": " ++ v

/-- The names and values of an object, repeated ones too. -/
def shownPairs : List (List Point × Report) → List (List Point × String)
  | [] => []
  | (key, value) :: rest => (key, shownInside value) :: shownPairs rest

end

/-- A value as a message: a text is shown as it is. -/
def shown : Report → String
  | .str s => Point.lossyText s
  | r => shownInside r

/-- Whether a value counts as something. -/
def isTruthy : Report → Bool
  | .null => false
  | .bool b => b
  | .int n => n != 0
  | .float d => !d.isZero
  | .str s => !s.isEmpty
  | .arr items => !items.isEmpty
  | .obj fields => !fields.isEmpty

/-- The fields that are looked at, in turn, for what a report has to say. -/
def messageFields : List String := ["message", "detail"]

/-- What a report has to say: the first of its message fields that counts as something, or all of it. -/
def explanation (r : Report) : String :=
  match messageFields.findSome? fun key => (r.field? (Point.ofChars key.toList)).filter isTruthy with
  | some value => value.shown
  | none => r.shown

end Report

end ClusterBrowser
