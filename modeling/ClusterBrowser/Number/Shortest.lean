import ClusterBrowser.Number.Binary64
import ClusterBrowser.Number.Decimal

/-!
# The shortest text of a double

Of all decimal numbers that read back as a given double, the one with the fewest digits is shown, and of several of
those the nearest.

* `Shortest.digits`: those digits and the power of ten of the first.
* `Shortest.text`: positional between `1e-4` and `1e16`, with an exponent elsewhere; there is always a point or an
  exponent.
-/

namespace ClusterBrowser.Shortest

/-- The decimal number `digits · 10 ^ exponent` as a quotient. -/
def ratio (digits : Nat) (exponent : Int) : Nat × Nat :=
  (digits * Nat.pow 10 exponent.toNat, Nat.pow 10 (-exponent).toNat)

/-- Whether `digits · 10 ^ exponent` reads back as `x`. -/
def readsBack (x : Binary64) (digits : Nat) (exponent : Int) : Bool :=
  let (n, d) := ratio digits exponent
  (Binary64.ofRatio n d).same x

/-- The greatest power of ten not above `n / d`, searched upwards for magnitudes below one. -/
def tenLog (n d : Nat) : Nat → Int
  | 0 => (Nat.toDigits 10 (n / d)).length - 1
  | fuel + 1 => if n < d then tenLog (n * 10) d fuel - 1 else (Nat.toDigits 10 (n / d)).length - 1

/-- The neighbour of `x` on the grid of multiples of `10 ^ exponent` that reads back: the nearer of the two, the even one
on a tie. -/
def onGrid (x : Binary64) (exponent : Int) : Option Nat :=
  let n := x.num * Nat.pow 10 (-exponent).toNat
  let d := x.den * Nat.pow 10 exponent.toNat
  let near := roundDiv n d
  let below := n / d
  let far := if near = below then below + 1 else below
  if readsBack x near exponent then some near
  else if readsBack x far exponent then some far
  else none

/-- Tries grids of one digit, two digits and so on. -/
def search (x : Binary64) (top : Int) : Nat → Nat → Nat × Int
  | 0, places => ((x.round), top - places)
  | fuel + 1, places =>
    match onGrid x (top - places) with
    | some digits => (digits, top - places)
    | none => search x top fuel (places + 1)

/-- The digits of the shortest decimal number that reads back, and the power of ten that the last one stands for. -/
def digits (x : Binary64) : Nat × Int := search x (tenLog x.num x.den 330) 17 0

/-- Drops zeros from the end. -/
def dropZeros (ds : List Char) : List Char := (ds.reverse.dropWhile (· = '0')).reverse

/-- The exponent of a number in scientific form: a sign and at least two digits. -/
def exponentText (e : Int) : List Char :=
  let ds := Decimal.writeNat e.natAbs
  'e' :: (if e < 0 then '-' else '+') :: (if ds.length < 2 then '0' :: ds else ds)

/-- The text of `0.ds · 10 ^ point`. -/
def layout (ds : List Char) (point : Int) : List Char :=
  if -4 < point ∧ point ≤ 16 then
    if point ≤ 0 then ['0', '.'] ++ List.replicate (-point).toNat '0' ++ ds
    else if ds.length ≤ point.toNat then ds ++ List.replicate (point.toNat - ds.length) '0' ++ ['.', '0']
    else ds.take point.toNat ++ '.' :: ds.drop point.toNat
  else match ds with
    | [d] => d :: exponentText (point - 1)
    | d :: rest => d :: '.' :: rest ++ exponentText (point - 1)
    | [] => []

def sizeText (x : Binary64) : List Char :=
  if x.mantissa = 0 then ['0', '.', '0']
  else
    let (n, e) := digits x
    let ds := Decimal.writeNat n
    layout (dropZeros ds) (ds.length + e)

/-- The text of a double; the two words for what is not finite are given by the format. -/
def text (infinity nan : String) : Double → String
  | .finite negative size => String.ofList ((if negative then ['-'] else []) ++ sizeText size)
  | .infinite negative => if negative then "-" ++ infinity else infinity
  | .notNumber => nan

end ClusterBrowser.Shortest
