/-!
# Tables

An association list that keeps keys in the order of their first insertion.

* `Table.find?`: the value of a key.
* `Table.put`: sets the value of a key; a key that is there already keeps its place.
-/

namespace ClusterBrowser

/-- Keys with their values, in the order of insertion. -/
abbrev Table (κ α : Type) := List (κ × α)

namespace Table

variable {κ α : Type} [DecidableEq κ]

def find? : Table κ α → κ → Option α
  | [], _ => none
  | (k, a) :: rest, key => if k = key then some a else find? rest key

def put : Table κ α → κ → α → Table κ α
  | [], key, a => [(key, a)]
  | (k, b) :: rest, key, a => if k = key then (k, a) :: rest else (k, b) :: put rest key a

/-- Changes the value of a key that is there. -/
def adjust (key : κ) (f : α → α) (t : Table κ α) : Table κ α :=
  t.map fun (k, a) => if k = key then (k, f a) else (k, a)

def keys (t : Table κ α) : List κ := t.map Prod.fst

def contains (t : Table κ α) (key : κ) : Bool := (t.find? key).isSome

end Table

end ClusterBrowser
