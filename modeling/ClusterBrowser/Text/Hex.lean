/-!
# Hexadecimal digits

* `Hex.digits`: a number in lower-case digits, padded to a width.
* `Hex.value?`, `Hex.byte?`, `Hex.unit?`: the value of one, two or four digits of either case.
* `Hex.pair`: a byte in two upper-case digits.
-/

namespace ClusterBrowser.Hex

/-- The lower-case digits of a number, padded with zeros to `width` places. -/
def digits (width n : Nat) : List Char :=
  let ds := Nat.toDigits 16 n
  List.replicate (width - ds.length) '0' ++ ds

def value? (c : Char) : Option Nat :=
  if '0' ≤ c ∧ c ≤ '9' then some (c.toNat - 48)
  else if 'a' ≤ c ∧ c ≤ 'f' then some (c.toNat - 87)
  else if 'A' ≤ c ∧ c ≤ 'F' then some (c.toNat - 55)
  else none

/-- The byte that two digits write. -/
def byte? (a b : Char) : Option UInt8 := do
  return ((← value? a) * 16 + (← value? b)).toUInt8

/-- The sixteen bits that four digits write. -/
def unit? (a b c d : Char) : Option Nat := do
  return (((← value? a) * 16 + (← value? b)) * 16 + (← value? c)) * 16 + (← value? d)

def upperDigit (n : Nat) : Char := if n < 10 then Char.ofNat (48 + n) else Char.ofNat (55 + n)

/-- A byte in two upper-case digits. -/
def pair (b : UInt8) : List Char := [upperDigit (b.toNat / 16), upperDigit (b.toNat % 16)]

end ClusterBrowser.Hex
