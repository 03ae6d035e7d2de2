import ClusterBrowser.Json.Basic
import ClusterBrowser.Number.Decimal
import ClusterBrowser.Text.Hex
import ClusterBrowser.Text.Point

/-!
# Reading JSON

The grammar is the usual one, with `NaN`, `Infinity` and `-Infinity` among the numbers.  The text is read as code points,
since half a surrogate pair may stand in a string.

* `Json.Dialect`: what readers differ in; `Dialect.strict`, `Dialect.lenient` and `Dialect.report`.
* `Json.read`, `Json.readPoints`: the value of a whole text.
-/

namespace ClusterBrowser.Json

/-- What readers differ in. -/
structure Dialect (τ : Type) where
  /-- The text of the code points of a string, unless they are refused. -/
  text : List Point → Option τ
  /-- Whether the limit on the digits of an integer also holds for the digits before a point or an exponent. -/
  limitsWholePart : Bool
  /-- How deep arrays and objects may be nested, if there is a limit. -/
  maxDepth : Option Nat

/-- The dialect of data. It refuses half a surrogate pair. -/
def Dialect.strict : Dialect String := { text := Point.text?, limitsWholePart := true, maxDepth := some 200 }

/-- The dialect of texts that people write. -/
def Dialect.lenient : Dialect String :=
  { text := fun ps => some (Point.lossyText ps), limitsWholePart := false, maxDepth := none }

/-- The dialect of error reports, whose strings are taken as they come. -/
def Dialect.report : Dialect (List Point) := { text := some, limitsWholePart := false, maxDepth := none }

variable {τ : Type}

/-- The four characters that may stand between tokens. -/
def isGap (p : Point) : Bool := p = .char ' ' || p = .char '\t' || p = .char '\n' || p = .char '\r'

def skipGaps (ps : List Point) : List Point := ps.dropWhile isGap

/-! ## Numbers -/

/-- The digit that a code point is. -/
def digit? : Point → Option Char
  | .char c => if c.isDigit then some c else none
  | .half _ => none

/-- The digits at the start, and the rest. -/
def spanDigits : List Point → List Char × List Point
  | [] => ([], [])
  | p :: rest => match digit? p with
    | some c => let (ds, rest) := spanDigits rest; (c :: ds, rest)
    | none => ([], p :: rest)

/-- The digits after the point, and the rest; `none` if there is a point without digits. -/
def readFraction : List Point → Option (List Char × List Point)
  | .char '.' :: rest =>
    let (ds, rest) := spanDigits rest
    if ds.isEmpty then none else some (ds, rest)
  | rest => some ([], rest)

/-- Splits a leading sign off; `true` stands for minus. -/
def splitSign : List Point → Bool × List Point
  | .char '-' :: rest => (true, rest)
  | .char '+' :: rest => (false, rest)
  | rest => (false, rest)

/-- The exponent of ten, if there is one, and the rest. -/
def readExponent : List Point → Option (Option Int × List Point)
  | p :: rest =>
    if p = .char 'e' || p = .char 'E' then
      let (negative, rest) := splitSign rest
      let (ds, rest) := spanDigits rest
      if ds.isEmpty then none else some (some (Decimal.signed negative (Decimal.digitsValue ds)), rest)
    else some (none, p :: rest)
  | [] => some (none, [])

/-- Whether a string of digits may stand before the point: it has a digit, and no zero in front of others. -/
def isWhole : List Char → Bool
  | [] => false
  | ['0'] => true
  | c :: _ => c != '0'

/-- A number without its sign. -/
def readUnsigned (d : Dialect τ) (negative : Bool) (ps : List Point) : Option (Json τ × List Point) := do
  let (whole, rest) := spanDigits ps
  if !isWhole whole then none
  let (frac, rest) ← readFraction rest
  let (exponent, rest) ← readExponent rest
  let isInteger := frac.isEmpty && exponent.isNone
  if Decimal.maxDigits < whole.length && (isInteger || d.limitsWholePart) then none
  if isInteger then return (.int (Decimal.signed negative (Decimal.digitsValue whole)), rest)
  else
    let ds := whole ++ frac
    return (.float (Double.ofDecimal negative (Decimal.digitsValue ds) ds.length (exponent.getD 0 - frac.length)), rest)

/-- What follows a word at the start. -/
def afterWord? (word : String) (ps : List Point) : Option (List Point) := (Point.ofChars word.toList).isPrefixOf? ps

def readNumber (d : Dialect τ) : List Point → Option (Json τ × List Point)
  | .char '-' :: rest =>
    match afterWord? "Infinity" rest with
    | some rest => some (.float (.infinite true), rest)
    | none => readUnsigned d true rest
  | ps => readUnsigned d false ps

/-! ## Strings -/

/-- A piece of a string: a code point as it stands, or an escaped UTF-16 unit. -/
inductive Piece where
  | plain (p : Point)
  | unit (n : Nat)
  deriving DecidableEq, Repr

/-- The character that a backslash and a letter stand for. -/
def escaped? (c : Char) : Option Char :=
  match c with
  | '"' => some '"'
  | '\\' => some '\\'
  | '/' => some '/'
  | 'b' => some '\x08'
  | 'f' => some '\x0c'
  | 'n' => some '\n'
  | 'r' => some '\r'
  | 't' => some '\t'
  | _ => none

/-- Whether a code point is one of the controls, which must not stand in a string. -/
def isControl : Point → Bool
  | .char c => c.toNat < 0x20
  | .half _ => false

/-- The pieces up to the closing mark, and the rest. -/
def readPieces : List Point → Option (List Piece × List Point)
  | [] => none
  | .char '"' :: rest => some ([], rest)
  | .char '\\' :: .char 'u' :: .char a :: .char b :: .char c :: .char d :: rest => do
    let n ← Hex.unit? a b c d
    let (pieces, rest) ← readPieces rest
    return (.unit n :: pieces, rest)
  | .char '\\' :: .char e :: rest => do
    let c ← escaped? e
    let (pieces, rest) ← readPieces rest
    return (.plain (.char c) :: pieces, rest)
  | p :: rest => do
    if isControl p || p = .char '\\' then none
    let (pieces, rest) ← readPieces rest
    return (.plain p :: pieces, rest)

/-- The code points of some pieces. Two escaped units that are the halves of a pair make one character. -/
def joinPieces : List Piece → List Point
  | [] => []
  | .plain p :: rest => p :: joinPieces rest
  | .unit n :: .unit m :: rest =>
    if Point.isHigh n && Point.isLow m then .ofPair n m :: joinPieces rest else .ofNat n :: joinPieces (.unit m :: rest)
  | .unit n :: rest => .ofNat n :: joinPieces rest

/-- The string after an opening mark, and the rest. -/
def readString (d : Dialect τ) (ps : List Point) : Option (τ × List Point) := do
  let (pieces, rest) ← readPieces ps
  let s ← d.text (joinPieces pieces)
  return (s, rest)

/-! ## Values -/

/-- The values that are written as words. -/
def words : List (String × Json τ) :=
  [("null", .null), ("true", .bool true), ("false", .bool false), ("NaN", .float .notNumber),
    ("Infinity", .float (.infinite false))]

/-- A value that is written as a word, and the rest. -/
def readWord (ps : List Point) : Option (Json τ × List Point) :=
  words.findSome? fun (word, j) => (afterWord? word ps).map (j, ·)

mutual

/-- A value, after gaps, and the rest. The first number bounds the steps, the second the depth. -/
def readValue (d : Dialect τ) : Nat → Nat → List Point → Option (Json τ × List Point)
  | 0, _, _ => none
  | fuel + 1, depth, ps =>
    match skipGaps ps with
    | .char '"' :: rest => (readString d rest).map fun (s, rest) => (.str s, rest)
    | .char '[' :: rest =>
      match skipGaps rest with
      | .char ']' :: rest => some (.arr [], rest)
      | rest => if depth = 0 then none
        else (readItems d fuel (depth - 1) rest).map fun (items, rest) => (.arr items, rest)
    | .char '\x7b' :: rest =>
      match skipGaps rest with
      | .char '\x7d' :: rest => some (.obj [], rest)
      | rest => if depth = 0 then none
        else (readFields d fuel (depth - 1) rest).map fun (fields, rest) => (.obj fields, rest)
    | ps => match readWord ps with
      | some found => some found
      | none => readNumber d ps

/-- The items up to the closing bracket, of which there is at least one, and the rest. -/
def readItems (d : Dialect τ) : Nat → Nat → List Point → Option (List (Json τ) × List Point)
  | 0, _, _ => none
  | fuel + 1, depth, ps =>
    match readValue d fuel depth ps with
    | none => none
    | some (item, rest) =>
      match skipGaps rest with
      | .char ',' :: rest => (readItems d fuel depth rest).map fun (items, rest) => (item :: items, rest)
      | .char ']' :: rest => some ([item], rest)
      | _ => none

/-- The fields up to the closing brace, of which there is at least one, and the rest. -/
def readFields (d : Dialect τ) : Nat → Nat → List Point → Option (List (τ × Json τ) × List Point)
  | 0, _, _ => none
  | fuel + 1, depth, ps =>
    match skipGaps ps with
    | .char '"' :: rest =>
      match readString d rest with
      | none => none
      | some (key, rest) =>
        match skipGaps rest with
        | .char ':' :: rest =>
          match readValue d fuel depth rest with
          | none => none
          | some (value, rest) =>
            match skipGaps rest with
            | .char ',' :: rest => (readFields d fuel depth rest).map fun (fields, rest) => ((key, value) :: fields, rest)
            | .char '\x7d' :: rest => some ([(key, value)], rest)
            | _ => none
        | _ => none
    | _ => none

end

/-- The value of a whole text of code points. Two steps are enough for each of them. -/
def readPoints (d : Dialect τ) (ps : List Point) : Option (Json τ) :=
  match readValue d (2 * ps.length + 2) (d.maxDepth.getD ps.length) ps with
  | some (j, rest) => if (skipGaps rest).isEmpty then some j else none
  | none => none

/-- The value of a whole text. -/
def read (d : Dialect τ) (cs : List Char) : Option (Json τ) := readPoints d (Point.ofChars cs)

end ClusterBrowser.Json
