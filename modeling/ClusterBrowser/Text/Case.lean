import ClusterBrowser.Text.Letters
import ClusterBrowser.Text.Point

/-!
# Case

* `lowerAscii`, `upperAscii`: the letters of ASCII in lower or upper case.
* `lower`: all letters in lower case.
-/

namespace ClusterBrowser.Text

/-- Lower case, for the letters of ASCII alone. -/
def lowerAscii (s : List Char) : List Char := s.map Char.toLower

/-- Upper case, for the letters that have a capital in ASCII. -/
def upperAscii (s : List Char) : List Char :=
  s.map fun c => if c = 'ı' then 'I' else if c = 'ſ' then 'S' else c.toUpper

def LowerRun.holds (r : LowerRun) (n : Nat) : Bool := r.first ≤ n && n ≤ r.last && (n - r.first) % r.stride = 0

/-- The small form of a character. That of the capital I with a dot keeps the dot as a mark of its own. -/
def lowerChar (c : Char) : List Char :=
  if c = 'İ' then ['i', '\u0307']
  else match lowerRuns.find? (·.holds c.toNat) with
    | some r => [Char.ofNat (c.toNat + r.shift).toNat]
    | none => [c]

/-- Whether the first character that is not passed over has case. -/
def meetsCase (cs : List Char) : Bool :=
  match cs.dropWhile (inRanges caseIgnorableRanges) with
  | c :: _ => inRanges casedRanges c
  | [] => false

/-- Lower case after some characters, given last first. A capital sigma has its final form behind a letter unless another
letter follows. -/
def lowerAfter (before : List Char) : List Char → List Char
  | [] => []
  | c :: rest =>
    (if c = 'Σ' then [if meetsCase before && !meetsCase rest then 'ς' else 'σ'] else lowerChar c) ++
      lowerAfter (c :: before) rest

def lower (s : List Char) : List Char := lowerAfter [] s

end ClusterBrowser.Text
