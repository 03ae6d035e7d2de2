import ClusterBrowser.Text.Hex
import ClusterBrowser.Text.Utf8

/-!
# Percent encoding

* `Percent.decode`: the text that a percent-encoded text stands for.
* `Percent.encodeBy`: writes the bytes of unsafe characters in hexadecimal.
-/

namespace ClusterBrowser.Percent

/-- The bytes of a text in which `%` and two hexadecimal digits stand for a byte. -/
def bytes : List Char → List UInt8
  | [] => []
  | '%' :: a :: b :: rest =>
    match Hex.byte? a b with
    | some byte => byte :: bytes rest
    | none => String.utf8EncodeChar '%' ++ bytes (a :: b :: rest)
  | c :: rest => String.utf8EncodeChar c ++ bytes rest

/-- The text of those bytes. -/
def decode (cs : List Char) : List Char := Utf8.decodeLossy (bytes cs)

/-- A byte as `%` and two digits. -/
def encodeByte (b : UInt8) : List Char := '%' :: Hex.pair b

/-- A character, with its bytes encoded unless it is safe. -/
def encodeChar (safe : Char → Bool) (c : Char) : List Char :=
  if safe c then [c] else (String.utf8EncodeChar c).flatMap encodeByte

/-- A text with the bytes of unsafe characters encoded. -/
def encodeBy (safe : Char → Bool) (cs : List Char) : List Char := cs.flatMap (encodeChar safe)

/-- Letters, digits and the four marks that never need encoding. -/
def isUnreserved (c : Char) : Bool := c.isAlphanum || c = '_' || c = '.' || c = '-' || c = '~'

end ClusterBrowser.Percent
