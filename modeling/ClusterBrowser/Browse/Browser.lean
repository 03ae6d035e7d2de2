import ClusterBrowser.Browse.Listing
import ClusterBrowser.Browse.Locations
import ClusterBrowser.Browse.View

/-!
# The browser

* `resolve`: the attributes of a path that exists.
* `breadcrumbs`: the rows of the proper ancestors, root first.
* `Request`: the texts of a request.
* `Browser`: what is fixed for all requests.
* `Browser.browse`: the view that answers a request.  Errors that a view can report are reported in it.
-/

namespace ClusterBrowser

variable {σ : Type}

/-! ## Paths -/

/-- The attributes of a path. An answer without a path means that there is nothing there. -/
def resolve (c : Cluster σ) (p : Path) : Action σ FileInfo := do
  let info ← c.status p.text
  if info.path = "" then Action.fail (.pathNotFound p.text) else return info

def resolveEntry (c : Cluster σ) (p : Path) : Action σ Entry := do
  let info ← resolve c p
  Action.ofExcept .display (Entry.ofInfo info)

/-- The rows of the proper ancestors of a path, each looked up and shown before the next. -/
def breadcrumbs (c : Cluster σ) (p : Path) : Action σ (List Entry) :=
  p.ancestors.mapM (resolveEntry c)

/-! ## Requests -/

/-- The texts of a request. Of `fromEnd` only its presence counts. -/
structure Request where
  path : Option String := none
  offset : Option String := none
  fromEnd : Option String := none
  limit : Option String := none
  deriving DecidableEq, Repr

/-- What is fixed for all requests. -/
structure Browser where
  workerWebPort : Int
  debug : Bool := false
  sampling : Sampling := .firstBlock
  policy : FailurePolicy := .abort
  deriving DecidableEq, Repr

namespace Browser

/-- The view before anything is known about the path. -/
def blank (b : Browser) (c : Cluster σ) (req : Request) : View :=
  { currentPath := if req.path.getD "" = "" then Path.root.text else req.path.getD ""
    masterAddress := c.masterAddress
    debug := b.debug }

/-- The view once the path is known to exist. -/
def located (b : Browser) (v : View) (current : Entry) : View :=
  { v with current := some current, blockSize := some current.blockSize, workerWebPort := some b.workerWebPort }

def fileView (v : View) (p : PreviewResult) : View :=
  { v with
    kind := .file
    fileText := some p.text
    fileBytes := p.byteCount
    fileBlocks := p.blocks
    highestTier := some p.highestTier
    offset := p.offset }

/-- The view of the window of a listing that a request asks for. -/
def pageView (v : View) (req : Request) (entries : List Entry) : View :=
  let v := { v with totalRows := entries.length }
  match paginate entries req.offset req.limit with
  | .ok page => { v with rows := some page.rows, paginationDeferred := page.isDeferred }
  | .error e@(.malformed ..) => v.failed "" ("Error: offset or limit parse error, " ++ e.message)
  | .error e@(.outOfBounds ..) => v.failed "" ("Error: offset or offset + limit is out of bound, " ++ e.message)

def browseFile (c : Cluster σ) (v : View) (info : FileInfo) (req : Request) : Action σ View := do
  match ← (preview c info (effectiveOffset req.offset req.fromEnd.isSome info.length)).attempt with
  | .ok p => return fileView v p
  | .error e => return v.failed (pathErrorText e v.currentPath) ""

def browseDirectory (b : Browser) (c : Cluster σ) (v : View) (p : Path) (req : Request) : Action σ View := do
  match ← (breadcrumbs c p).attempt with
  | .error e => return v.failed (pathErrorText e v.currentPath) ""
  | .ok ancestors =>
    let v := { v with ancestors }
    match ← (listDirectory c p.text).attempt with
    | .error e => return v.failed (pathErrorText e v.currentPath) ""
    | .ok entries =>
      let annotated ← annotate c b.sampling b.policy entries
      match annotated.failed with
      | some e => return v.failed (locationErrorText e p.text) ""
      | none => return pageView v req annotated.entries

/-- The view that answers a request. -/
def browse (b : Browser) (c : Cluster σ) (req : Request) : Action σ View := do
  let v := b.blank c req
  match Path.parseRequest req.path with
  | .error e => return v.failed (pathErrorText e.toBrowseError v.currentPath) ""
  | .ok p =>
    let v := { v with currentPath := p.text }
    match ← (resolve c p).attempt with
    | .error e => return v.failed (pathErrorText e v.currentPath) ""
    | .ok info =>
      let current ← Action.ofExcept .display (Entry.ofInfo info)
      let v := b.located v current
      if current.isDirectory then b.browseDirectory c v p req else browseFile c v info req

end Browser

end ClusterBrowser
