import ClusterBrowser.Browse.Entry
import ClusterBrowser.Cluster

/-!
# Previews

A preview shows a bounded window of a file, one character for each byte.

* `effectiveOffset`: where the window starts.
* `readWindow`: reads the window from a stream, in as many pieces as the stream delivers.
* `renderBytes`: the bytes as they are shown.
* `preview`: the window with the file's blocks.
-/

namespace ClusterBrowser

/-- The size of the window. -/
def windowBytes : Int := 5 * 1024

/-- The place that a text asks for, counted from the start or from the end, moved into `[0, length]`. A text that is no
integer counts as 0. -/
def effectiveOffset (raw : Option String) (fromEnd : Bool) (length : Int) : Int :=
  let relative := Decimal.readOrZero raw
  max 0 (min (if fromEnd then length - relative else relative) length)

/-- What came of reading a window. -/
inductive WindowRead where
  /-- The bytes of the window. -/
  | data (bytes : Bytes)
  /-- The stream ended before the offset. -/
  | beyondEnd (skipped : Int)
  /-- The stream refused to skip. -/
  | emptyFile
  /-- The stream had nothing to read. -/
  | unreadable
  deriving DecidableEq, Repr

/-- The character that shows a byte: control characters show as a point, tabs and line ends are kept. -/
def shownByte (b : UInt8) : Char :=
  let n := b.toNat
  if (n < 0x20 && n != 0x9 && n != 0xA && n != 0xD) || (0x7F ≤ n && n < 0xA0) then '.' else Char.ofNat n

/-- One character for each byte. -/
def renderBytes (bytes : Bytes) : String := String.ofList (bytes.map shownByte)

/-- The message in place of an unfinished file. -/
def notCompleteText : String := "The requested file is not complete yet."

def WindowRead.text : WindowRead → String
  | .data bytes => renderBytes bytes
  | .beyondEnd _ => "Unable to traverse to offset; is offset larger than the file?"
  | .emptyFile => "Unable to traverse to offset; is file empty?"
  | .unreadable => "Unable to read file"

def WindowRead.byteCount : WindowRead → Nat
  | .data bytes => bytes.length
  | _ => 0

/-- A file's window and blocks. -/
structure PreviewResult where
  offset : Int
  byteCount : Nat
  text : String
  blocks : List BlockView
  highestTier : String
  deriving DecidableEq, Repr

variable {σ : Type}

/-- Reads on until nothing is missing or the stream has nothing more. Every piece that counts is at least one byte, so
that `fuel ≥ missing` rounds suffice. -/
def fill (stream : FileStream σ) : Nat → Nat → Bytes → Action σ Bytes
  | 0, _, got => return got
  | fuel + 1, missing, got => do
    if missing = 0 then return got
    match ← stream.read missing with
    | none => return got
    | some [] => return got
    | some chunk => fill stream fuel (missing - chunk.length) (got ++ chunk)

/-- Skips to the offset and reads one window of a file of the given length. -/
def readWindow (stream : FileStream σ) (offset length : Int) : Action σ WindowRead := do
  let skipped ← stream.skip offset
  if skipped < 0 then return .emptyFile
  if skipped < offset then return .beyondEnd skipped
  let window := (min windowBytes (length - offset)).toNat
  if window = 0 then return .data []
  match ← stream.read window with
  | none => return .unreadable
  | some chunk => return .data (← fill stream window (window - chunk.length) chunk)

/-- A failure of the storage means that the file is not available. -/
def storageUnavailable : Failure → Failure
  | .storage _ message => .browse (.unavailable message)
  | f => f

/-- The text and the number of bytes of a file's window. -/
def readFile (c : Cluster σ) (info : FileInfo) (offset : Int) : Action σ (String × Nat) := do
  if info.completed then
    let read ← (c.withFile info.path .noCache fun stream => readWindow stream offset info.length).mapFailure
      storageUnavailable
    return (read.text, read.byteCount)
  else return (notCompleteText, 0)

/-- A file's window and blocks. Reading leaves the data in the tier where it is. -/
def preview (c : Cluster σ) (info : FileInfo) (offset : Int) : Action σ PreviewResult := do
  let (text, byteCount) ← readFile c info offset
  let tiers ← c.tiers
  let highestTier := tiers.headD ""
  let blocks ← c.blocks info.path
  return { offset, byteCount, text, blocks := blocks.map (BlockView.ofReport · highestTier), highestTier }

end ClusterBrowser
