import ClusterBrowser.Browse.Preview

/-!
# Views

* `View`: all that is needed to show a listing or a preview.
* `View.failed`: the view of a request that could not be answered.
* `pathErrorText`, `locationErrorText`: the wording of such views.
-/

namespace ClusterBrowser

/-- What a view shows. -/
inductive ViewKind where
  | listing | file
  deriving DecidableEq, Repr

/-- All that is needed to show a listing or a preview. -/
structure View where
  kind : ViewKind := .listing
  currentPath : String
  ancestors : List Entry := []
  current : Option Entry := none
  rows : Option (List Entry) := none
  totalRows : Nat := 0
  paginationDeferred : Bool := false
  fileText : Option String := none
  fileBytes : Nat := 0
  fileBlocks : List BlockView := []
  offset : Int := 0
  blockSize : Option Int := none
  workerWebPort : Option Int := none
  highestTier : Option String := none
  masterAddress : String := ""
  debug : Bool := false
  pathError : String := ""
  fatalError : String := ""
  deriving DecidableEq, Repr

/-- The view of a request that could not be answered: what was found out about the path stays, content does not. -/
def View.failed (v : View) (pathError fatalError : String) : View :=
  { v with kind := .listing, fileText := none, fileBytes := 0, rows := none, pathError, fatalError }

/-- The wording of an error about the path of a request. -/
def pathErrorText (e : BrowseError) (path : String) : String :=
  match e with
  | .pathNotFound m | .invalidPath m => "Error: Invalid Path " ++ m
  | .accessDenied m => "Error: File " ++ path ++ " cannot be accessed " ++ m
  | .unavailable m => "Error: File " ++ path ++ " is not available " ++ m
  | .badPagination m | .outOfBounds m | .other m => "Error: " ++ m

def locationErrorText (e : BrowseError) (path : String) : String :=
  match e with
  | .pathNotFound m => "Error: non-existing file " ++ m
  | .invalidPath m => "Error: invalid path " ++ m
  | e => pathErrorText e path

end ClusterBrowser
