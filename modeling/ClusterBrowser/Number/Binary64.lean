/-!
# Double precision numbers, exactly

Doubles are pairs of integers here, and every operation is the exact rational one followed by one rounding.  Powers are
written `Nat.pow`, which means the same whatever algebra is in scope.

* `roundDiv`: the integer nearest to a quotient, a half going to the even neighbour.
* `Binary64`: a magnitude `mantissa · 2 ^ exponent`.
* `Binary64.ofRatio`: the double nearest to a quotient of natural numbers.
* `Double`: a double with its sign, the infinities and the not-a-number.
-/

namespace ClusterBrowser

/-- The integer nearest to `n / d`; a half goes to the even neighbour. -/
def roundDiv (n d : Nat) : Nat :=
  let q := n / d
  let twice := 2 * (n % d)
  if twice < d then q else if d < twice then q + 1 else q + q % 2

/-- The magnitude `mantissa · 2 ^ exponent` of a double. -/
structure Binary64 where
  mantissa : Nat
  exponent : Int
  deriving DecidableEq, Repr

namespace Binary64

def num (x : Binary64) : Nat := x.mantissa * Nat.pow 2 x.exponent.toNat

def den (x : Binary64) : Nat := Nat.pow 2 (-x.exponent).toNat

/-- The least exponent that a double can have. -/
def minExponent : Int := -1074

/-- The greatest `k` with `2 ^ k ≤ n / d`, for positive `n` and `d`. -/
def floorLog2 (n d : Nat) : Int :=
  let k : Int := (n.log2 : Int) - d.log2
  if d * Nat.pow 2 k.toNat ≤ n * Nat.pow 2 (-k).toNat then k else k - 1

/-- The nearest double with a given exponent. -/
def atExponent (n d : Nat) (e : Int) : Binary64 :=
  ⟨roundDiv (n * Nat.pow 2 (-e).toNat) (d * Nat.pow 2 e.toNat), e⟩

/-- The double nearest to `n / d`, of 53 significant bits where the exponent allows it; the range has no upper end. -/
def ofRatio (n d : Nat) : Binary64 :=
  if n = 0 then ⟨0, minExponent⟩
  else atExponent n d (max minExponent (floorLog2 n d - 52))

/-- The double nearest to a natural number. -/
def ofNat (n : Nat) : Binary64 := ofRatio n 1

/-- Whether the magnitude is below `2 ^ 1024`, beyond which there are no finite doubles. -/
def isFinite (x : Binary64) : Bool := x.num < Nat.pow 2 1024 * x.den

def atMost (x : Binary64) (n : Nat) : Bool := x.num ≤ n * x.den

/-- The same magnitude, whatever the pair. -/
def same (x y : Binary64) : Bool := x.num * y.den = y.num * x.den

/-- The quotient by a natural number, rounded. -/
def divNat (x : Binary64) (n : Nat) : Binary64 := ofRatio x.num (x.den * n)

/-- The product by a natural number, rounded. -/
def mulNat (x : Binary64) (n : Nat) : Binary64 := ofRatio (x.num * n) x.den

/-- The part before the point. -/
def floor (x : Binary64) : Nat := x.num / x.den

/-- The part after the point; it is exact. -/
def fraction (x : Binary64) : Binary64 := ⟨x.num % x.den, min x.exponent 0⟩

/-- The nearest integer, a half going to the even one. -/
def round (x : Binary64) : Nat := roundDiv x.num x.den

end Binary64

inductive Double where
  | finite (negative : Bool) (size : Binary64)
  | infinite (negative : Bool)
  | notNumber
  deriving DecidableEq, Repr

namespace Double

/-- A magnitude with a sign; too large a one is infinite. -/
def ofSize (negative : Bool) (size : Binary64) : Double :=
  if size.isFinite then .finite negative size else .infinite negative

/-- The double nearest to `± digits · 10 ^ exponent`. The two guards answer at once where the power of ten alone decides:
`places` is the number of digits. -/
def ofDecimal (negative : Bool) (digits places : Nat) (exponent : Int) : Double :=
  if digits = 0 then .finite negative ⟨0, Binary64.minExponent⟩
  else if (places : Int) + exponent < -400 then .finite negative ⟨0, Binary64.minExponent⟩
  else if 400 < exponent then .infinite negative
  else ofSize negative (Binary64.ofRatio (digits * Nat.pow 10 exponent.toNat) (Nat.pow 10 (-exponent).toNat))

/-- The double nearest to an integer, if there is a finite one. -/
def ofInt? (n : Int) : Option Double :=
  let size := Binary64.ofNat n.natAbs
  if size.isFinite then some (.finite (n < 0) size) else none

/-- The integer that a finite double without a fraction is. -/
def toInt? : Double → Option Int
  | .finite negative size =>
    if size.num % size.den = 0 then
      some (if negative then -(size.floor : Int) else size.floor)
    else none
  | _ => none

/-- Whether the number is zero, of either sign. -/
def isZero : Double → Bool
  | .finite _ size => size.mantissa = 0
  | _ => false

end Double

end ClusterBrowser
