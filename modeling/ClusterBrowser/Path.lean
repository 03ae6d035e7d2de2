import ClusterBrowser.Text.Quoted
import ClusterBrowser.Text.Split

/-!
# Paths

A path leads from the root through named children.  Texts come in many spellings, a path has one.

* `Name`: the text of one segment, valid by construction.
* `Path`: the root, or a child of a path.
* `Path.parse`: the path that a text spells, with the reason when it spells none.
* `Path.text`: the canonical spelling.
* `Path.ancestors`: the proper ancestors, root first.
-/

namespace ClusterBrowser

/-- The character between the segments of a path. -/
def separator : Char := '/'

/-- Why a text spells no path. -/
inductive PathError where
  /-- The text does not start with the separator. -/
  | notAbsolute (raw : String)
  /-- A segment is `.` or `..`. -/
  | relativeSegment (raw : String)
  /-- A segment holds a character below the space. -/
  | controlCharacters (raw : String)
  deriving DecidableEq, Repr

def PathError.message : PathError → String
  | .notAbsolute raw => "Path " ++ raw ++ " is not absolute"
  | .relativeSegment raw => "Path " ++ raw ++ " contains a relative segment"
  | .controlCharacters raw => "Path " ++ Text.quote raw ++ " contains control characters"

/-- The two segments that stand for a direction, not for a name. -/
def isRelative (s : List Char) : Bool := s == ['.'] || s == ['.', '.']

/-- A segment that names something: not empty, no direction, no separator and no control characters. -/
def isSegment (s : List Char) : Bool :=
  !s.isEmpty && !isRelative s && s.all fun c => c != separator && decide (0x20 ≤ c.toNat)

/-- The name of a child. -/
structure Name where
  text : String
  valid : isSegment text.toList = true
  deriving DecidableEq

/-- A place in the namespace. -/
inductive Path where
  | root
  | child (parent : Path) (name : Name)
  deriving DecidableEq

namespace Name

/-- The name that a non-empty segment without separators gives; `raw` is the text that the segment comes from. -/
def ofSegment (raw : String) (s : List Char) : Except PathError Name :=
  if isRelative s then .error (.relativeSegment raw)
  else if h : isSegment s then .ok ⟨String.ofList s, by simpa using h⟩
  else .error (.controlCharacters raw)

end Name

namespace Path

/-- Walks down from `p` along segments; empty ones stay in place. -/
def walk (raw : String) : Path → List (List Char) → Except PathError Path
  | p, [] => .ok p
  | p, s :: rest =>
    if s.isEmpty then walk raw p rest
    else match Name.ofSegment raw s with
      | .ok name => walk raw (.child p name) rest
      | .error e => .error e

/-- The path that a text spells. The empty text spells the root; repeated and trailing separators do not count. -/
def parse (raw : String) : Except PathError Path :=
  match raw.toList with
  | [] => .ok .root
  | c :: rest => if c = separator then walk raw .root (Text.splitAt separator rest) else .error (.notAbsolute raw)

/-- The path that a request asks for; without a text it is the root. -/
def parseRequest : Option String → Except PathError Path
  | none => .ok .root
  | some raw => parse raw

/-- The names from the root down, each after a separator. -/
def trail : Path → List Char
  | .root => []
  | .child parent name => parent.trail ++ separator :: name.text.toList

/-- The canonical spelling, as characters. -/
def chars : Path → List Char
  | .root => [separator]
  | p => p.trail

/-- The canonical spelling. -/
def text (p : Path) : String := String.ofList p.chars

/-- The names from the root down. -/
def names : Path → List Name
  | .root => []
  | .child parent name => parent.names ++ [name]

/-- The segments of the canonical spelling; the root contributes the empty one. -/
def components (p : Path) : List String := "" :: p.names.map Name.text

/-- The directory that holds the path; the root holds itself. -/
def parent : Path → Path
  | .root => .root
  | .child parent _ => parent

/-- The last name; the root has the empty one. -/
def basename : Path → String
  | .root => ""
  | .child _ name => name.text

def depth : Path → Nat
  | .root => 0
  | .child parent _ => parent.depth + 1

/-- The proper ancestors, root first. -/
def ancestors : Path → List Path
  | .root => []
  | .child parent _ => parent.ancestors ++ [parent]

end Path

/-- A name appended to the text of a directory, whatever the two texts are. -/
def joinText (parent name : String) : String :=
  if parent.toList.getLast? = some separator then parent ++ name
  else parent ++ String.ofList [separator] ++ name

end ClusterBrowser
