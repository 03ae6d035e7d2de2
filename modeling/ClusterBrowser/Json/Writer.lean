import ClusterBrowser.Json.Basic
import ClusterBrowser.Number.Shortest
import ClusterBrowser.Text.Quoted

/-!
# Writing JSON

* `Json.write`, `Json.text`: the text of a value, without gaps.
-/

namespace ClusterBrowser.Json

def writeChar (c : Char) : List Char :=
  if c = '"' then ['\\', '"']
  else if c = '\\' then ['\\', '\\']
  else if c.toNat < 0x20 then ['\\', 'u'] ++ Hex.digits 4 c.toNat
  else [c]

def writeString (s : String) : List Char := '"' :: s.toList.flatMap writeChar ++ ['"']

mutual

def write : Json → List Char
  | null => "null".toList
  | bool b => if b then "true".toList else "false".toList
  | int n => Decimal.write n
  | float d => (Shortest.text "Infinity" "NaN" d).toList
  | str s => writeString s
  | arr items => '[' :: writeItems items
  | obj fields => '\x7b' :: writeFields fields

/-- The items and the closing bracket. -/
def writeItems : List Json → List Char
  | [] => [']']
  | [item] => write item ++ [']']
  | item :: rest => write item ++ ',' :: writeItems rest

/-- The fields and the closing brace. -/
def writeFields : List (String × Json) → List Char
  | [] => ['\x7d']
  | [(key, value)] => writeString key ++ ':' :: write value ++ ['\x7d']
  | (key, value) :: rest => writeString key ++ ':' :: write value ++ ',' :: writeFields rest

end

def text (j : Json) : String := String.ofList j.write

end ClusterBrowser.Json
