import ClusterBrowser.Browse.Entry
import ClusterBrowser.Cluster

/-!
# Listings

* `sortEntries`: by path, in the order of code points; equal paths keep their order.
* `paginate`: the whole listing, or the window that two texts ask for.
* `listDirectory`: the sorted children of a directory.
-/

namespace ClusterBrowser

/-- The order of listings. -/
def Entry.notAfter (a b : Entry) : Bool := decide (a.path ≤ b.path)

def sortEntries (entries : List Entry) : List Entry := entries.mergeSort Entry.notAfter

/-- The part of a listing that is shown: all of it, with the choice of a window left to the reader, or a window. -/
inductive Page (α : Type) where
  | whole (rows : List α)
  | window (rows : List α)
  deriving DecidableEq, Repr

namespace Page

variable {α : Type}

def rows : Page α → List α
  | whole rows | window rows => rows

/-- Whether the choice of a window is left to the reader. -/
def isDeferred : Page α → Bool
  | whole _ => true
  | window _ => false

end Page

/-- Why there is no window. -/
inductive PageError where
  /-- One of the two texts is missing or no integer. -/
  | malformed (offset limit : Option String)
  /-- The window does not lie inside the listing. -/
  | outOfBounds (offset limit : Int) (total : Nat)
  deriving DecidableEq, Repr

/-- A text in a message, or the word for a missing one. -/
def quoteOptional : Option String → String
  | none => "None"
  | some s => Text.quote s

def PageError.message : PageError → String
  | malformed offset limit =>
    "offset=" ++ quoteOptional offset ++ ", limit=" ++ quoteOptional limit ++ " must both be integers"
  | outOfBounds offset limit total =>
    "offset=" ++ Decimal.text offset ++ ", limit=" ++ Decimal.text limit ++ ", total=" ++ Decimal.text total

def PageError.toBrowseError (e : PageError) : BrowseError :=
  match e with
  | malformed .. => .badPagination e.message
  | outOfBounds .. => .outOfBounds e.message

/-- The integers of two texts that must both be there. -/
def readBoth (offset limit : Option String) : Option (Int × Int) :=
  match offset, limit with
  | some o, some l =>
    match Decimal.read o, Decimal.read l with
    | .ok o, .ok l => some (o, l)
    | _, _ => none
  | _, _ => none

/-- The window from `offset` of `limit` rows; without either text it is the whole listing. -/
def paginate {α : Type} (entries : List α) (offset limit : Option String) : Except PageError (Page α) :=
  if offset.isNone && limit.isNone then .ok (.whole entries)
  else match readBoth offset limit with
    | none => .error (.malformed offset limit)
    | some (o, l) =>
      if o < 0 || l < 0 || (entries.length : Int) < o + l then .error (.outOfBounds o l entries.length)
      else .ok (.window ((entries.drop o.toNat).take l.toNat))

/-- The children of a directory, sorted. -/
def listDirectory {σ : Type} (c : Cluster σ) (path : String) : Action σ (List Entry) := do
  let children ← c.list path
  let entries ← children.mapM fun info => Action.ofExcept .display (Entry.ofInfo info)
  return sortEntries entries

end ClusterBrowser
