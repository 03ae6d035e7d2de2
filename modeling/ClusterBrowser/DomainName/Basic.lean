import ClusterBrowser.DomainName.Context
import ClusterBrowser.DomainName.Letters
import ClusterBrowser.DomainName.Punycode
import ClusterBrowser.Text.Case
import ClusterBrowser.Text.Split

/-!
# Domain names

A domain name is a list of labels.  Labels with letters beyond ASCII have a form in ASCII, which a mark at the start tells
apart.

* `DomainError`: why a text is no domain name.
* `checkLabel`: the rules for the letters of a label.
* `encode`: a name with all labels in ASCII.
* `decode`: a name with all labels in letters.
-/

namespace ClusterBrowser

/-- Why a text is no domain name. -/
inductive DomainError where
  /-- A label is empty, too long, badly put together or badly encoded, or a joiner does not join. -/
  | malformed
  /-- A character may not stand in a label. -/
  | character
  /-- A character may not stand where it does. -/
  | context
  /-- Letters from right to left and from left to right are mixed. -/
  | direction
  deriving DecidableEq, Repr

namespace DomainName

/-- What an ASCII form begins with. -/
def encodingMark : List Char := "xn--".toList

/-- The longest label, in ASCII. -/
def maxLabel : Nat := 63

/-- The longest name; one more is allowed for a dot at the end. -/
def maxName : Nat := 253

/-! ## Letters of a label -/

/-- Checks the characters of a label, given those before, last first. -/
def checkCharacters (before : List Char) : List Char → Except DomainError Unit
  | [] => .ok ()
  | c :: rest =>
    if isLetter c then checkCharacters (c :: before) rest
    else if c = '\u200C' || c = '\u200D' then
      if joinerFits c before rest then checkCharacters (c :: before) rest else .error .malformed
    else if needsContext c then
      if fitsContext c before rest then checkCharacters (c :: before) rest else .error .context
    else .error .character

/-- Whether hyphens are at neither end, nor where the mark of an ASCII form has them. -/
def hyphensFit (label : List Char) : Bool :=
  (label.drop 2).take 2 != ['-', '-'] && label.head? != some '-' && label.getLast? != some '-'

def checkLabel (label : List Char) : Except DomainError Unit :=
  if label.isEmpty || maxName + 1 < label.length then .error .malformed
  else if composed label != label || !hyphensFit label || label.head?.any isMark then .error .malformed
  else do
    checkCharacters [] label
    if directionsFit label then .ok () else .error .direction

/-! ## Labels and names -/

/-- A label in letters, of one in ASCII. -/
def decodeLabel (label : List Char) : Except DomainError (List Char) :=
  let label := Text.lowerAscii label
  match encodingMark.isPrefixOf? label with
  | none => do checkLabel label; return label
  | some encoded =>
    if encoded.isEmpty || encoded.getLast? = some '-' then .error .malformed
    else match Punycode.decode? encoded with
      | none => .error .malformed
      | some label => do checkLabel label; return label

/-- A label in ASCII. One that is in ASCII stays, if it is sound. -/
def encodeLabel (label : List Char) : Except DomainError (List Char) := do
  let encoded ← if label.all Punycode.isBasic then do
      let _ ← decodeLabel label
      pure label
    else do
      checkLabel label
      pure (encodingMark ++ Punycode.encode label)
  if maxLabel < encoded.length then .error .malformed else return encoded

/-- A dot between labels, of any script. -/
def isDot (c : Char) : Bool := c = '.' || c = '\u3002' || c = '\uFF0E' || c = '\uFF61'

/-- The labels of a name, without the empty one behind a last dot, and whether there is such a dot. -/
def labels (name : List Char) : List (List Char) × Bool :=
  let ls := Text.splitAt '.' (name.map fun c => if isDot c then '.' else c)
  if ls.getLast? = some [] then (ls.dropLast, true) else (ls, false)

def mapLabels (change : List Char → Except DomainError (List Char)) (name : List Char) :
    Except DomainError (List Char) := do
  if name.isEmpty || maxName + 1 < name.length then .error .malformed
  let (ls, ends) := labels name
  let ls ← ls.mapM change
  return ['.'].intercalate (if ends then ls ++ [[]] else ls)

/-- A name with all labels in ASCII. -/
def encode (name : List Char) : Except DomainError (List Char) := do
  let encoded ← mapLabels encodeLabel name
  let ends := encoded.getLast? = some '.'
  if (if ends then maxName + 1 else maxName) < encoded.length then .error .malformed else return encoded

/-- A name with all labels in letters, of one in ASCII. -/
def decode (name : List Char) : Except DomainError (List Char) := mapLabels decodeLabel name

end DomainName

end ClusterBrowser
