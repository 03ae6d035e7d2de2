/-!
# Letters beyond ASCII in ASCII

The letters of ASCII come first, as they stand; after a hyphen, numbers of variable length say which other letters go where.

* `Punycode.encode`, `Punycode.decode?`: the ASCII form of a label, and the label of an ASCII form.
* `Punycode.writeNumber`, `Punycode.readNumber`: one number.
-/

namespace ClusterBrowser.Punycode

/-! ## Numbers -/

/-- The digit of a value below 36: letters, then decimal digits. -/
def digit (d : Nat) : Char := if d < 26 then Char.ofNat (97 + d) else Char.ofNat (22 + d)

/-- The value of a digit of either case. -/
def value? (c : Char) : Option Nat :=
  if 'a' ≤ c ∧ c ≤ 'z' then some (c.toNat - 97)
  else if 'A' ≤ c ∧ c ≤ 'Z' then some (c.toNat - 65)
  else if '0' ≤ c ∧ c ≤ '9' then some (c.toNat - 22)
  else none

/-- The digits below this one end a number, at place `k / 36`. -/
def threshold (bias k : Nat) : Nat := if k ≤ bias + 1 then 1 else if bias + 26 ≤ k then 26 else k - bias

/-- Divides a large step down; `k` grows by 36 with each division. -/
def shrink (delta k : Nat) : Nat :=
  if 455 < delta then shrink (delta / 35) (k + 36) else k + 36 * delta / (delta + 38)
termination_by delta
decreasing_by omega

/-- The bias after a step, with so many letters in place. -/
def adapt (delta letters : Nat) (isFirst : Bool) : Nat :=
  let d := if isFirst then delta / 700 else delta / 2
  shrink (d + d / letters) 0

theorem threshold_pos (bias k : Nat) : 1 ≤ threshold bias k := by
  unfold threshold
  split
  · omega
  · split <;> omega

/-- The digits of a number, the least significant first. -/
def writeNumber (bias k n : Nat) : List Char :=
  let t := threshold bias k
  if n < t then [digit n]
  else digit (t + (n - t) % (36 - t)) :: writeNumber bias (k + 36) ((n - t) / (36 - t))
termination_by n
decreasing_by
  have := threshold_pos bias k
  exact Nat.lt_of_le_of_lt (Nat.div_le_self _ _) (by omega)

/-- The number at the start, added to `sum`, and the rest. -/
def readNumber (bias k weight sum : Nat) : (cs : List Char) → Option (Nat × { rest : List Char // rest.length < cs.length })
  | [] => none
  | c :: rest =>
    match value? c with
    | none => none
    | some d =>
      let t := threshold bias k
      if d < t then some (sum + d * weight, ⟨rest, by simp⟩)
      else
        match readNumber bias (k + 36) (weight * (36 - t)) (sum + d * weight) rest with
        | none => none
        | some (n, ⟨more, h⟩) => some (n, ⟨more, by simp only [List.length_cons]; omega⟩)

/-! ## Labels -/

def firstBias : Nat := 72

/-- The first letter beyond ASCII. -/
def firstLetter : Nat := 0x80

def isBasic (c : Char) : Bool := c.toNat < firstLetter

/-- A label under way: the digits so far, the step that is due, and how many letters are in place. -/
structure Encoder where
  digits : List Char := []
  delta : Nat := 0
  bias : Nat := firstBias
  placed : Nat
  deriving DecidableEq, Repr

/-- Passes one letter of the label by while the letters equal to `m` are put in place. -/
def Encoder.pass (basic m : Nat) (e : Encoder) (c : Char) : Encoder :=
  if c.toNat < m then { e with delta := e.delta + 1 }
  else if c.toNat = m then
    { digits := e.digits ++ writeNumber e.bias 36 e.delta
      delta := 0
      bias := adapt e.delta (e.placed + 1) (e.placed = basic)
      placed := e.placed + 1 }
  else e

/-- Puts the letters of a label in place, the smaller first; all below `n` are. -/
def Encoder.place (label : List Char) (basic : Nat) : Nat → List Nat → Encoder → Encoder
  | _, [], e => e
  | n, m :: more, e =>
    let e := label.foldl (Encoder.pass basic m) { e with delta := e.delta + (m - n) * (e.placed + 1) }
    place label basic (m + 1) more { e with delta := e.delta + 1 }

/-- The ASCII form of a label. -/
def encode (label : List Char) : List Char :=
  let basic := label.filter isBasic
  let others := (((label.filter fun c => !isBasic c).map Char.toNat).mergeSort).eraseDups
  let e := Encoder.place label basic.length firstLetter others { placed := basic.length }
  (if basic.isEmpty then [] else basic ++ ['-']) ++ e.digits

/-- Puts letters in place as the numbers tell: `n` is the last letter, `i` the place behind it. -/
def insertLetters (bias n i : Nat) (isFirst : Bool) (label cs : List Char) : Option (List Char) :=
  if cs.isEmpty then some label
  else
    match readNumber bias 36 1 0 cs with
    | none => none
    | some (delta, ⟨rest, _⟩) =>
      let letters := label.length + 1
      let letter := n + (i + delta) / letters
      let place := (i + delta) % letters
      if letter.isValidChar then
        insertLetters (adapt delta letters isFirst) letter (place + 1) false (label.insertIdx place (Char.ofNat letter)) rest
      else none
termination_by cs.length

/-- The label of an ASCII form: the last hyphen ends the letters of ASCII. -/
def decode? (cs : List Char) : Option (List Char) :=
  let digits := (cs.reverse.takeWhile (· != '-')).reverse
  let basic := ((cs.reverse.dropWhile (· != '-')).drop 1).reverse
  insertLetters firstBias firstLetter 0 true basic digits

end ClusterBrowser.Punycode
