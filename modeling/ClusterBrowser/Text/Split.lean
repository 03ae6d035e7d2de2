/-!
# Splitting and trimming text

Two sets of blank characters are in use: the white space of Unicode, and the same set with the four information separators.

* `splitAt`: the pieces of a text between the occurrences of a mark.
* `dropTrailing`: a text without the marks at its end.
* `isWhite`, `trimWhite`: the property White_Space.
* `isBlank`, `trimBlank`: white space and the separators U+001C to U+001F.
-/

namespace ClusterBrowser.Text

/-- The pieces of a text between the occurrences of `mark`; there is one piece more than there are marks. -/
def splitAt (mark : Char) : List Char → List (List Char)
  | [] => [[]]
  | c :: rest =>
    if c = mark then [] :: splitAt mark rest
    else match splitAt mark rest with
      | [] => [[c]]
      | piece :: pieces => (c :: piece) :: pieces

/-- A text without the occurrences of `mark` at its end. -/
def dropTrailing (mark : Char) (cs : List Char) : List Char := (cs.reverse.dropWhile (· = mark)).reverse

/-! ## Blank characters -/

/-- The property White_Space. -/
def isWhite (c : Char) : Bool :=
  let n := c.toNat
  (0x9 ≤ n && n ≤ 0xD) || n = 0x20 || n = 0x85 || n = 0xA0 || n = 0x1680 || (0x2000 ≤ n && n ≤ 0x200A) ||
    n = 0x2028 || n = 0x2029 || n = 0x202F || n = 0x205F || n = 0x3000

/-- White space and the information separators. -/
def isBlank (c : Char) : Bool :=
  isWhite c || (0x1C ≤ c.toNat && c.toNat ≤ 0x1F)

/-- Drops the characters that satisfy `p` from both ends. -/
def trimBy (p : Char → Bool) (s : List Char) : List Char :=
  ((s.dropWhile p).reverse.dropWhile p).reverse

def trimWhite (s : List Char) : List Char := trimBy isWhite s

/-- Drops blanks from both ends. -/
def trimBlank (s : List Char) : List Char := trimBy isBlank s

end ClusterBrowser.Text
