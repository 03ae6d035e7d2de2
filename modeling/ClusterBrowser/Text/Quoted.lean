import ClusterBrowser.Text.Hex
import ClusterBrowser.Text.Point
import ClusterBrowser.Text.Printable

/-!
# Quoted text

Messages show a text the way a programmer would write it down.

* `quote`: the text between quote marks, with everything that cannot be seen escaped.
* `quotePoints`: the same for code points; half a surrogate pair is escaped too.
* `quoteMark`: single marks, unless the text holds a single mark and no double one.
-/

namespace ClusterBrowser.Text

/-- The mark around a quoted text: a double one only if that saves escaping a single one. -/
def quoteMark (s : List Char) : Char :=
  if s.contains '\'' && !s.contains '"' then '"' else '\''

/-- One character of a quoted text: the mark and the backslash are escaped, the usual blanks have a short form, and other
hidden characters are written by their code point in two, four or eight hexadecimal digits. -/
def quoteChar (mark c : Char) : List Char :=
  if c = mark || c = '\\' then ['\\', c]
  else if c = '\t' then ['\\', 't']
  else if c = '\n' then ['\\', 'n']
  else if c = '\r' then ['\\', 'r']
  else if isPrintable c then [c]
  else if c.toNat < 0x100 then ['\\', 'x'] ++ Hex.digits 2 c.toNat
  else if c.toNat < 0x10000 then ['\\', 'u'] ++ Hex.digits 4 c.toNat
  else ['\\', 'U'] ++ Hex.digits 8 c.toNat

/-- A text between quote marks. -/
def quote (s : String) : String :=
  let mark := quoteMark s.toList
  String.ofList (mark :: s.toList.flatMap (quoteChar mark) ++ [mark])

def quotePoint (mark : Char) : Point → List Char
  | .char c => quoteChar mark c
  | .half n => ['\\', 'u'] ++ Hex.digits 4 n

def quotePoints (ps : List Point) : String :=
  let mark := quoteMark (ps.filterMap Point.char?)
  String.ofList (mark :: ps.flatMap (quotePoint mark) ++ [mark])

end ClusterBrowser.Text
