import ClusterBrowser.Text.Point

/-!
# UTF-8

A byte string is read one byte at a time.  A sequence that cannot be completed counts as one bad character, and the byte
that broke it is read afresh.

* `encode`: the bytes of a text.
* `decode`: its characters, with `none` for each bad sequence.
* `decode?`, `decodeLossy`: refuse bad sequences, or show each as U+FFFD.
* `points?`: the same with surrogates, each of which may be encoded like a character.
-/

namespace ClusterBrowser.Utf8

def encode (s : List Char) : List UInt8 := s.flatMap String.utf8EncodeChar

/-- A sequence under way: the bits so far, how many bytes are still due, and the range the next one must lie in. -/
structure Pending where
  bits : Nat
  due : Nat
  low : Nat
  high : Nat
  deriving DecidableEq, Repr

/-- What a first byte announces: a code point, or a sequence. -/
inductive Lead where
  | single (n : Nat)
  | more (p : Pending)
  | bad
  deriving DecidableEq, Repr

/-- The meaning of a first byte. The bounds on the second byte shut out overlong forms, surrogates and code points
beyond U+10FFFF. -/
def lead (b : Nat) : Lead :=
  if b < 0x80 then .single b
  else if b < 0xC2 then .bad
  else if b < 0xE0 then .more ⟨b - 0xC0, 1, 0x80, 0xBF⟩
  else if b = 0xE0 then .more ⟨0, 2, 0xA0, 0xBF⟩
  else if b = 0xED then .more ⟨0xD, 2, 0x80, 0x9F⟩
  else if b < 0xF0 then .more ⟨b - 0xE0, 2, 0x80, 0xBF⟩
  else if b = 0xF0 then .more ⟨0, 3, 0x90, 0xBF⟩
  else if b < 0xF4 then .more ⟨b - 0xF0, 3, 0x80, 0xBF⟩
  else if b = 0xF4 then .more ⟨4, 3, 0x80, 0x8F⟩
  else .bad

/-- The same where surrogates are let in. -/
def leadOfPoint (b : Nat) : Lead := if b = 0xED then .more ⟨0xD, 2, 0x80, 0xBF⟩ else lead b

/-- Reads bytes, with at most one sequence under way, into code points. -/
def decodeFrom (lead : Nat → Lead) : Option Pending → List UInt8 → List (Option Nat)
  | none, [] => []
  | some _, [] => [none]
  | none, b :: rest =>
    match lead b.toNat with
    | .single n => some n :: decodeFrom lead none rest
    | .more p => decodeFrom lead (some p) rest
    | .bad => none :: decodeFrom lead none rest
  | some p, b :: rest =>
    if p.low ≤ b.toNat && b.toNat ≤ p.high then
      let bits := p.bits * 64 + (b.toNat - 0x80)
      if p.due ≤ 1 then some bits :: decodeFrom lead none rest
      else decodeFrom lead (some ⟨bits, p.due - 1, 0x80, 0xBF⟩) rest
    else
      match lead b.toNat with
      | .single n => none :: some n :: decodeFrom lead none rest
      | .more q => none :: decodeFrom lead (some q) rest
      | .bad => none :: none :: decodeFrom lead none rest

/-- The characters of a byte string, `none` for each bad sequence. -/
def decode (bytes : List UInt8) : List (Option Char) := (decodeFrom lead none bytes).map (·.map Char.ofNat)

/-- The text of a byte string that holds no bad sequence. -/
def decode? (bytes : List UInt8) : Option (List Char) := (decode bytes).mapM id

/-- The text of a byte string, with U+FFFD for each bad sequence. -/
def decodeLossy (bytes : List UInt8) : List Char := (decode bytes).map (·.getD '\uFFFD')

/-- The code points of a byte string that holds no bad sequence. -/
def points? (bytes : List UInt8) : Option (List Point) :=
  ((decodeFrom leadOfPoint none bytes).mapM id).map (·.map Point.ofNat)

end ClusterBrowser.Utf8
