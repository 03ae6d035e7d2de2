import ClusterBrowser.Json.Reader
import ClusterBrowser.Text.Case
import ClusterBrowser.Text.Split

/-!
# Decoding JSON values

Values are taken for what they plainly mean: numbers may come as texts, and flags as numbers or words.  Every field that
cannot be taken is reported, not only the first.

* `Location`: where in a value something is wrong.
* `Checked`: a value, or the places of all that is wrong.
* `Json.asInt`, `asBool`, `asText`, `asList`, `asFloat`: what each kind of field takes.
* `Json.required`, `Json.optional`: the fields of an object.
-/

namespace ClusterBrowser

/-- A step into a value. -/
inductive LocationStep where
  | field (name : String)
  | index (i : Nat)
  deriving DecidableEq, Repr

/-- Where in a value something is wrong. -/
abbrev Location := List LocationStep

/-- A value, or the places of all that is wrong. -/
inductive Checked (α : Type) where
  | ok (a : α)
  | wrong (places : List Location)
  deriving Repr

namespace Checked

variable {α β : Type}

/-- Applies a function; the places of both sides add up. -/
def apply (f : Checked (α → β)) (a : Checked α) : Checked β :=
  match f, a with
  | ok f, ok a => ok (f a)
  | ok _, wrong ps => wrong ps
  | wrong ps, ok _ => wrong ps
  | wrong ps, wrong qs => wrong (ps ++ qs)

instance : Applicative Checked where
  pure := ok
  seq f a := apply f (a ())

/-- The same places seen from one step further out. -/
def under (step : LocationStep) : Checked α → Checked α
  | ok a => ok a
  | wrong ps => wrong (ps.map (step :: ·))

/-- A value at whose own place something is wrong, unless there is one. -/
def ofOption : Option α → Checked α
  | some a => ok a
  | none => wrong [[]]

end Checked

namespace Json

/-! ## Integers -/

/-- What is left of a number after the zeros in front of it, among which underscores may stand. One zero stays before a
point, and the last character stays if there are only zeros. A minus sign may follow the zeros. -/
def dropLeadingZeros? : List Char → Option (List Char)
  | [] => none
  | c :: rest =>
    if c = '0' then afterZeros c rest
    else if c.isDigit || c = '-' then some (c :: rest)
    else none
where
  /-- What is left after a zero or underscore. -/
  afterZeros (last : Char) : List Char → Option (List Char)
    | [] => some [last]
    | c :: rest =>
      if c = '0' || c = '_' then afterZeros c rest
      else if c.isDigit || c = '-' then some (c :: rest)
      else if c = '.' then some (last :: c :: rest)
      else none

/-- Drops a point with nothing but zeros, of which there is at least one, after it. -/
def dropZeroFraction (cs : List Char) : Option (List Char) :=
  match cs.dropWhile (· != '.') with
  | [] => some cs
  | _ :: zeros => if !zeros.isEmpty && zeros.all (· = '0') then some (cs.takeWhile (· != '.')) else none

/-- Drops underscores, each of which must stand alone between other characters. -/
def dropUnderscores? (cs : List Char) : Option (List Char) :=
  if (Text.splitAt '_' cs).all fun piece => !piece.isEmpty then some (cs.filter (· != '_')) else none

/-- The integer of a minus sign, which may be missing, and digits that do not begin with an idle zero. -/
def plainInt? (cs : List Char) : Option Int := do
  let (negative, digits) := match cs with
    | '-' :: rest => (true, rest)
    | rest => (false, rest)
  if !digits.all Char.isDigit || !isWhole digits || Decimal.maxDigits < digits.length then none
  return Decimal.signed negative (Decimal.digitsValue digits)

/-- The integer of a text, with white space around it: a sign, zeros in front, underscores between digits and a fraction of
zeros are let through. -/
def looseInt? (s : String) : Option Int := do
  let (negative, cs) ← match Text.trimWhite s.toList with
    | '+' :: '-' :: _ => none
    | '+' :: rest => some (false, rest)
    | '-' :: rest => some (true, rest)
    | rest => some (false, rest)
  let cs ← dropUnderscores? (← dropZeroFraction (← dropLeadingZeros? cs))
  plainInt? (if negative then '-' :: cs else cs)

/-- The integer that a double without a fraction is, strictly between the ends of the 64-bit integers. -/
def wholeInt? (d : Double) : Option Int := d.toInt?.filter fun n => n.natAbs < Nat.pow 2 63

def asInt? : Json → Option Int
  | int n => some n
  | bool b => some (if b then 1 else 0)
  | float d => wholeInt? d
  | str s => looseInt? s
  | _ => none

/-! ## Flags -/

def yesWords : List String := ["1", "t", "true", "y", "yes", "on"]

def noWords : List String := ["0", "f", "false", "n", "no", "off"]

/-- The flag of a word, in any case. -/
def wordFlag? (s : String) : Option Bool :=
  let word := String.ofList (Text.lowerAscii s.toList)
  if yesWords.contains word then some true else if noWords.contains word then some false else none

def intFlag? (n : Int) : Option Bool := if n = 0 then some false else if n = 1 then some true else none

def asBool? : Json → Option Bool
  | bool b => some b
  | int n => intFlag? n
  | float d => (wholeInt? d).bind intFlag?
  | str s => wordFlag? s
  | _ => none

/-! ## Doubles -/

/-- The double of a text that is written as a JSON number, loosely: the digits before or after the point may be missing,
and there may be a plus sign. -/
def plainFloat? (cs : List Char) : Option Double := do
  let (negative, rest) := Decimal.splitSign cs
  let word := Text.lowerAscii rest
  if word = "inf".toList || word = "infinity".toList then return .infinite negative
  if word = "nan".toList then return .notNumber
  let (whole, rest) := spanDigits (Point.ofChars rest)
  let (frac, rest) := match rest with
    | .char '.' :: rest => spanDigits rest
    | rest => ([], rest)
  if whole.isEmpty && frac.isEmpty then none
  let (exponent, rest) ← readExponent rest
  if !rest.isEmpty then none
  let ds := whole ++ frac
  return Double.ofDecimal negative (Decimal.digitsValue ds) ds.length (exponent.getD 0 - frac.length)

/-- The double of a text: with white space around it, or else with single underscores inside it. -/
def looseFloat? (s : String) : Option Double :=
  match plainFloat? (Text.trimWhite s.toList) with
  | some d => some d
  | none => (dropUnderscores? s.toList).bind plainFloat?

def asFloat? : Json → Option Double
  | float d => some d
  | int n => Double.ofInt? n
  | bool b => Double.ofInt? (if b then 1 else 0)
  | str s => looseFloat? s
  | _ => none

/-! ## Fields -/

def asInt (j : Json) : Checked Int := .ofOption j.asInt?

def asBool (j : Json) : Checked Bool := .ofOption j.asBool?

def asFloat (j : Json) : Checked Double := .ofOption j.asFloat?

def asText : Json → Checked String
  | str s => .ok s
  | _ => .wrong [[]]

/-- The items of a list, from number `i` on. -/
def asItems {α : Type} (item : Json → Checked α) : Nat → List Json → Checked (List α)
  | _, [] => .ok []
  | i, j :: rest => List.cons <$> (item j).under (.index i) <*> asItems item (i + 1) rest

def asList {α : Type} (item : Json → Checked α) : Json → Checked (List α)
  | arr items => asItems item 0 items
  | _ => .wrong [[]]

/-- An object, whose fields are then taken one by one. -/
def asObject {α : Type} (fields : List (String × Json) → Checked α) : Json → Checked α
  | obj fs => fields fs
  | _ => .wrong [[]]

/-- A field that must be there. -/
def required {α : Type} (fs : List (String × Json)) (name : String) (value : Json → Checked α) : Checked α :=
  match lookupLast name fs with
  | some j => (value j).under (.field name)
  | none => .wrong [[.field name]]

/-- A field that has a default. -/
def optional {α : Type} (fs : List (String × Json)) (name : String) (value : Json → Checked α) (default : α) :
    Checked α :=
  match lookupLast name fs with
  | some j => (value j).under (.field name)
  | none => .ok default

/-- Decodes a text. A text that is no JSON is wrong as a whole. -/
def decode {α : Type} (value : Json → Checked α) (text : List Char) : Checked α :=
  match read .strict text with
  | some j => value j
  | none => .wrong [[]]

end Json

end ClusterBrowser
