import ClusterBrowser.Text.Quoted

/-!
# Integer text

An integer is written as an optional sign and digits, and nothing else.

* `write`: the text of an integer.
* `read`: the integer of a text; blanks, separators and digits outside ASCII are refused, and so are texts of more than
  `maxDigits` digits.
* `readOr`: the same with a fallback.
-/

namespace ClusterBrowser.Decimal

/-- The longest digit string that is read; leading zeros count. -/
def maxDigits : Nat := 4300

/-- Why a text is no integer. -/
inductive IntegerError where
  /-- The text is not a sign and digits. -/
  | malformed (raw : String)
  /-- The text has more than `maxDigits` digits. -/
  | tooLong
  deriving DecidableEq, Repr

def writeNat (n : Nat) : List Char := Nat.toDigits 10 n

def write : Int → List Char
  | .ofNat n => writeNat n
  | .negSucc n => '-' :: writeNat (n + 1)

def text (n : Int) : String := String.ofList (write n)

/-- The number that a string of digits denotes. -/
def digitsValue (ds : List Char) : Nat := Nat.ofDigitChars 10 ds 0

/-- Splits a leading sign off; `true` stands for minus. -/
def splitSign : List Char → Bool × List Char
  | '-' :: rest => (true, rest)
  | '+' :: rest => (false, rest)
  | rest => (false, rest)

def signed (negative : Bool) (n : Nat) : Int := if negative then -(n : Int) else n

/-- A non-empty string of ASCII digits. -/
def isDigits (ds : List Char) : Bool := !ds.isEmpty && ds.all Char.isDigit

/-- The integer of a text. -/
def read (raw : String) : Except IntegerError Int :=
  let (negative, digits) := splitSign raw.toList
  if !isDigits digits then .error (.malformed raw)
  else if maxDigits < digits.length then .error .tooLong
  else .ok (signed negative (digitsValue digits))

/-- The integer of a text that may be missing; whatever cannot be read counts as 0. -/
def readOrZero : Option String → Int
  | none => 0
  | some raw => match read raw with
    | .ok n => n
    | .error _ => 0

/-- The message of an integer error, where there is one. -/
def IntegerError.message? : IntegerError → Option String
  | .malformed raw => some ("invalid integer: " ++ Text.quote raw)
  | .tooLong => none

end ClusterBrowser.Decimal
