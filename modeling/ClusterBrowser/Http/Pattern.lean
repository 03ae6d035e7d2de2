import ClusterBrowser.Failure
import ClusterBrowser.Number.Decimal
import ClusterBrowser.Text.Hex
import ClusterBrowser.Text.Split

/-!
# Path patterns

The path of a resource may have holes: `{name}`, or `{name:kind}` for one that takes only texts of a kind.  Braces around
anything else stand for themselves.

* `Pattern.parse`: the pattern that a text writes.
* `Pattern.match?`: what a path puts into the holes.
* `Pattern.braced`: the texts between braces.
-/

namespace ClusterBrowser

/-- What a hole takes. -/
inductive HoleKind where
  /-- One or more characters without a slash. -/
  | segment
  /-- Any characters of one line. -/
  | path
  /-- Digits. -/
  | integer
  /-- Digits, and further digits behind a point if there is one. -/
  | decimal
  /-- 32 hexadecimal digits, which may be grouped by hyphens. -/
  | identifier
  deriving DecidableEq, Repr

namespace HoleKind

def names : List (String × HoleKind) :=
  [("str", segment), ("path", path), ("int", integer), ("float", decimal), ("uuid", identifier)]

/-- How many digits the groups of an identifier have. -/
def identifierGroups : List Nat := [8, 4, 4, 4, 12]

/-- Whether a text is groups of hexadecimal digits, of these sizes, with or without a hyphen before each. -/
def isGrouped : List Nat → List Char → Bool
  | [], cs => cs.isEmpty
  | n :: sizes, cs =>
    let cs := if cs.head? = some '-' then cs.drop 1 else cs
    (cs.take n).length = n && (cs.take n).all (fun c => (Hex.value? c).isSome) && isGrouped sizes (cs.drop n)

def takes (kind : HoleKind) (cs : List Char) : Bool :=
  match kind with
  | segment => !cs.isEmpty && !cs.contains '/'
  | path => !cs.contains '\n'
  | integer => Decimal.isDigits cs
  | decimal =>
    match cs.span (· != '.') with
    | (whole, []) => Decimal.isDigits whole
    | (whole, _ :: fraction) => Decimal.isDigits whole && Decimal.isDigits fraction
  | identifier => cs.head? != some '-' && isGrouped identifierGroups cs

/-- The ways to divide a text into what a hole takes and the rest, the longest first. -/
def divisions (kind : HoleKind) (cs : List Char) : List (List Char × List Char) :=
  ((List.range (cs.length + 1)).reverse.map cs.splitAt).filter fun (taken, _) => kind.takes taken

end HoleKind

/-- A character, or a hole with its name. -/
inductive PatternPiece where
  | literal (c : Char)
  | hole (name : List Char) (kind : HoleKind)
  deriving DecidableEq, Repr

/-- A path with holes. -/
abbrev Pattern := List PatternPiece

/-- What a path puts into a hole. -/
structure Filling where
  name : List Char
  kind : HoleKind
  text : List Char
  deriving DecidableEq, Repr

namespace Pattern

/-! ## Reading patterns -/

/-- A letter or an underscore, and digits too behind it. -/
def isName : List Char → Bool
  | [] => false
  | c :: rest => (c.isAlpha || c = '_') && rest.all fun d => d.isAlphanum || d = '_'

/-- Name and kind of a hole from what is between its braces, if that is sound. -/
def holeOf? (inside : List Char) : Option (List Char × List Char) :=
  match inside.span (· != ':') with
  | (name, []) => if isName name then some (name, "str".toList) else none
  | (name, _ :: kind) => if isName name && isName kind then some (name, kind) else none

/-- Characters that stand for themselves. -/
def literals (cs : List Char) : Pattern := cs.map .literal

/-- The pieces of a text that an opening brace stands before. -/
def afterBrace (cs : List Char) : Except HttpError Pattern :=
  match cs.span (· != '}') with
  | (inside, _ :: rest) =>
    match holeOf? inside with
    | none => .ok (literals ('{' :: cs))
    | some (name, kind) =>
      match HoleKind.names.lookup (String.ofList kind) with
      | some kind => .ok (.hole name kind :: literals rest)
      | none => .error .unknownHole
  | (_, []) => .ok (literals ('{' :: cs))

def pieceName? : PatternPiece → Option (List Char)
  | .literal _ => none
  | .hole name _ => some name

/-- The pattern that a text writes. No two holes may have one name. -/
def parse (text : List Char) : Except HttpError Pattern := do
  let parts := Text.splitAt '{' text
  let rest ← (parts.drop 1).mapM afterBrace
  let pattern := literals (parts.headD []) ++ rest.flatten
  if (pattern.filterMap pieceName?).Nodup then return pattern else .error .repeatedHole

/-! ## Filling holes -/

/-- What a path puts into the holes, each of which takes as much as it can. A line feed may follow at the end. -/
def match? : Pattern → List Char → Option (List Filling)
  | [], rest => if rest = [] || rest = ['\n'] then some [] else none
  | .literal _ :: _, [] => none
  | .literal c :: pieces, d :: rest => if c = d then match? pieces rest else none
  | .hole name kind :: pieces, cs =>
    (kind.divisions cs).findSome? fun (text, rest) => (match? pieces rest).map (⟨name, kind, text⟩ :: ·)

/-! ## The text of a pattern -/

/-- The text of a pattern without the kinds of its holes. -/
def text (p : Pattern) : List Char :=
  p.flatMap fun
    | .literal c => [c]
    | .hole name _ => '{' :: name ++ ['}']

/-- The texts of one line between an opening brace and the next closing one. `opened` is the text since the brace, last
character first. -/
def bracedFrom (opened : Option (List Char)) : List Char → List (List Char)
  | [] => []
  | c :: rest =>
    match opened with
    | none => bracedFrom (if c = '{' then some [] else none) rest
    | some inside =>
      if c = '}' then inside.reverse :: bracedFrom none rest
      else if c = '\n' then bracedFrom none rest
      else bracedFrom (some (c :: inside)) rest

def braced (p : Pattern) : List (List Char) := bracedFrom none p.text

end Pattern

end ClusterBrowser
