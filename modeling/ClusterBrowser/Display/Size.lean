import ClusterBrowser.Number.Binary64
import ClusterBrowser.Number.Decimal

/-!
# Sizes

A size is shown in bytes up to five kilobytes, and beyond that with two decimals in the first unit that keeps it at or
below 5120.

* `DisplayError`: why a value of the cluster cannot be shown.
* `Size.text`: the text of a size.
-/

namespace ClusterBrowser

/-- Why a number reported by the cluster cannot be shown. -/
inductive DisplayError where
  /-- A size beyond the doubles. -/
  | sizeTooLarge
  /-- A time beyond the doubles, or beyond 64 bits of seconds. -/
  | timeTooFar
  /-- A time in a year that does not fit 32 bits. -/
  | yearUncountable
  /-- A time outside the years 1 to 9999. -/
  | yearOutOfRange
  deriving DecidableEq, Repr

namespace Size

/-- The units above the byte. -/
inductive Scale where
  | kilo | mega | giga | tera | peta
  deriving DecidableEq, Repr

def Scale.symbol : Scale → String
  | .kilo => "KB"
  | .mega => "MB"
  | .giga => "GB"
  | .tera => "TB"
  | .peta => "PB"

/-- The factor between neighbouring units. -/
def factor : Nat := 1024

/-- A value above this one is shown in the next unit. -/
def unitLimit : Nat := 5 * factor

/-- Divides until the value is small enough or the units run out; `scale` is the unit of the quotient. -/
def scaled (value : Binary64) (scale : Scale) : List Scale → Binary64 × Scale
  | [] => (value.divNat factor, scale)
  | next :: more =>
    let quotient := value.divNat factor
    if quotient.atMost unitLimit then (quotient, scale) else scaled quotient next more

/-- A magnitude in hundredths, rounded half to even. -/
def hundredths (x : Binary64) : Nat := roundDiv (100 * x.num) x.den

/-- A number of hundredths with its two decimals. -/
def twoDecimals (h : Nat) : List Char :=
  let cents := Decimal.writeNat (h % 100)
  Decimal.writeNat (h / 100) ++ '.' :: (if cents.length < 2 then '0' :: cents else cents)

def text (bytes : Int) : Except DisplayError String :=
  if bytes ≤ unitLimit then .ok (Decimal.text bytes ++ "B")
  else
    let value := Binary64.ofNat bytes.toNat
    if value.isFinite then
      let (amount, scale) := scaled value .kilo [.mega, .giga, .tera, .peta]
      .ok (String.ofList (twoDecimals (hundredths amount)) ++ scale.symbol)
    else .error .sizeTooLarge

end Size

end ClusterBrowser
