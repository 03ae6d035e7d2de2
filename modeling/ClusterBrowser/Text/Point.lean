/-!
# Code points

Some texts from outside hold half a surrogate pair, which is no character.

* `Point`: a character, or half a pair that stands alone.
* `Point.text?`, `Point.lossyText`: the text of code points, if all are characters, or with U+FFFD for each half.
* `Text.inRanges`: whether the code point of a character lies in one of some ranges.
-/

namespace ClusterBrowser

/-- A character, or half a surrogate pair that stands alone. -/
inductive Point where
  | char (c : Char)
  | half (n : Nat)
  deriving DecidableEq, Repr

namespace Point

/-- Whether a number is the first half of a pair. -/
def isHigh (n : Nat) : Bool := 0xD800 ≤ n && n < 0xDC00

/-- Whether a number is the second half of a pair. -/
def isLow (n : Nat) : Bool := 0xDC00 ≤ n && n < 0xE000

/-- The code point of a number. -/
def ofNat (n : Nat) : Point := if isHigh n || isLow n then half n else char (Char.ofNat n)

/-- The character of a pair. -/
def ofPair (high low : Nat) : Point := char (Char.ofNat (0x10000 + (high - 0xD800) * 0x400 + (low - 0xDC00)))

def ofChars (cs : List Char) : List Point := cs.map char

def char? : Point → Option Char
  | char c => some c
  | half _ => none

/-- The text of code points that are all characters. -/
def text? (ps : List Point) : Option String := (ps.mapM char?).map String.ofList

/-- The text of code points, with U+FFFD for each half. -/
def lossyText (ps : List Point) : String := String.ofList (ps.map fun p => p.char?.getD '\uFFFD')

end Point

/-- Whether a character lies in one of some inclusive ranges. -/
def Text.inRanges (ranges : List (Nat × Nat)) (c : Char) : Bool :=
  ranges.any fun r => r.1 ≤ c.toNat && c.toNat ≤ r.2

end ClusterBrowser
