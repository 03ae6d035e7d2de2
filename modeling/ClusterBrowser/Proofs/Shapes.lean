import ClusterBrowser.Proofs.Exits

/-!
# The shapes of a view

A view shows an error, a file or a listing, and nothing of the other two.

* `View.IsError`, `View.IsFile`, `View.IsListing`: the three shapes.
* `Browser.Surveys`: what the cluster has answered when a page of a listing is chosen.
* **`browse_shape`**: every view that a browse gives has one of the three shapes.
-/

namespace ClusterBrowser

/-- A view that shows one error and no content. -/
structure View.IsError (v : View) : Prop where
  oneError : v.pathError = "" ↔ v.fatalError ≠ ""
  kind : v.kind = .listing
  fileText : v.fileText = none
  fileBytes : v.fileBytes = 0
  rows : v.rows = none
  fileBlocks : v.fileBlocks = []
  offset : v.offset = 0
  highestTier : v.highestTier = none
  paginationDeferred : v.paginationDeferred = false

/-- A view that shows a file. -/
structure View.IsFile (v : View) : Prop where
  pathError : v.pathError = ""
  fatalError : v.fatalError = ""
  kind : v.kind = .file
  fileText : v.fileText.isSome
  rows : v.rows = none
  ancestors : v.ancestors = []
  totalRows : v.totalRows = 0

/-- A view that shows a listing, or the window of it that the request asks for. -/
structure View.IsListing (v : View) (req : Request) : Prop where
  pathError : v.pathError = ""
  fatalError : v.fatalError = ""
  kind : v.kind = .listing
  fileText : v.fileText = none
  paginationDeferred : v.paginationDeferred = true ↔ req.offset = none ∧ req.limit = none
  whole : v.paginationDeferred = true → v.rows.map List.length = some v.totalRows
  window : v.paginationDeferred = false → ∃ offset limit : Nat,
    readBoth req.offset req.limit = some ((offset : Int), (limit : Int)) ∧
      v.rows.map List.length = some limit ∧ offset + limit ≤ v.totalRows

/-! ## Error texts -/

theorem append_ne_empty {s : String} (h : s ≠ "") (t : String) : s ++ t ≠ "" :=
  fun hst => h (String.append_eq_empty_iff.mp hst).1

theorem pathErrorText_ne_empty (e : BrowseError) (path : String) : pathErrorText e path ≠ "" := by
  cases e with
  | pathNotFound m | invalidPath m | badPagination m | outOfBounds m | other m => exact append_ne_empty (by decide) m
  | accessDenied m | unavailable m =>
    exact append_ne_empty (append_ne_empty (append_ne_empty (by decide) path) _) m

theorem locationErrorText_ne_empty (e : BrowseError) (path : String) : locationErrorText e path ≠ "" := by
  cases e with
  | pathNotFound m | invalidPath m => exact append_ne_empty (by decide) m
  | accessDenied m => exact pathErrorText_ne_empty (.accessDenied m) path
  | unavailable m => exact pathErrorText_ne_empty (.unavailable m) path
  | badPagination m | outOfBounds m | other m => exact append_ne_empty (by decide) m

/-! ## Views without content -/

/-- A view to which neither content nor an error has been added. -/
structure View.IsBare (v : View) : Prop where
  kind : v.kind = .listing
  fileText : v.fileText = none
  fileBlocks : v.fileBlocks = []
  offset : v.offset = 0
  highestTier : v.highestTier = none
  paginationDeferred : v.paginationDeferred = false
  pathError : v.pathError = ""
  fatalError : v.fatalError = ""

theorem View.IsBare.failed {v : View} (h : v.IsBare) {path fatal : String} (one : path = "" ↔ fatal ≠ "") :
    (v.failed path fatal).IsError where
  oneError := one
  kind := rfl
  fileText := rfl
  fileBytes := rfl
  rows := rfl
  fileBlocks := h.fileBlocks
  offset := h.offset
  highestTier := h.highestTier
  paginationDeferred := h.paginationDeferred

theorem View.IsBare.failed_path {v : View} (h : v.IsBare) {text : String} (htext : text ≠ "") :
    (v.failed text "").IsError := h.failed (by simpa using htext)

theorem View.IsBare.failed_fatal {v : View} (h : v.IsBare) {text : String} (htext : text ≠ "") :
    (v.failed "" text).IsError := h.failed (by simpa using htext)

namespace Browser

variable {σ : Type} {b : Browser} {c : Cluster σ} {req : Request}

theorem isBare_blank : (b.blank c req).IsBare := ⟨rfl, rfl, rfl, rfl, rfl, rfl, rfl, rfl⟩

theorem isBare_named (p : Path) : { b.blank c req with currentPath := p.text }.IsBare :=
  ⟨rfl, rfl, rfl, rfl, rfl, rfl, rfl, rfl⟩

theorem isBare_found (p : Path) (current : Entry) : (b.found c req p current).IsBare :=
  ⟨rfl, rfl, rfl, rfl, rfl, rfl, rfl, rfl⟩

theorem isBare_withAncestors (p : Path) (current : Entry) (ancestors : List Entry) :
    { b.found c req p current with ancestors }.IsBare := ⟨rfl, rfl, rfl, rfl, rfl, rfl, rfl, rfl⟩

/-! ## Views of files and listings -/

theorem isFile_fileView (p : Path) (current : Entry) (r : PreviewResult) :
    (fileView (b.found c req p current) r).IsFile := ⟨rfl, rfl, rfl, rfl, rfl, rfl, rfl⟩

theorem paginate_eq_ok {α : Type} {rows : List α} {offset limit : Option String} {page : Page α}
    (h : paginate rows offset limit = .ok page) :
    (offset = none ∧ limit = none ∧ page = .whole rows) ∨
      (¬ (offset = none ∧ limit = none) ∧ ∃ o l : Nat, readBoth offset limit = some ((o : Int), (l : Int)) ∧
        o + l ≤ rows.length ∧ page = .window ((rows.drop o).take l)) := by
  rw [paginate] at h
  split at h
  · rename_i hnone
    simp only [Bool.and_eq_true, Option.isNone_iff_eq_none] at hnone
    exact .inl ⟨hnone.1, hnone.2, (Except.ok.inj h).symm⟩
  · rename_i hnone
    simp only [Bool.and_eq_true, Option.isNone_iff_eq_none] at hnone
    refine .inr ⟨hnone, ?_⟩
    rcases hread : readBoth offset limit with _ | ⟨o, l⟩
    · simp [hread] at h
    simp only [hread] at h
    split at h
    · simp at h
    · rename_i hbounds
      simp only [Bool.or_eq_true, decide_eq_true_eq, not_or, Int.not_lt] at hbounds
      obtain ⟨⟨ho, hl⟩, hsum⟩ := hbounds
      refine ⟨o.toNat, l.toNat, ?_, by omega, (Except.ok.inj h).symm⟩
      rw [Int.toNat_of_nonneg ho, Int.toNat_of_nonneg hl]

/-- **A page of a listing is shown, or refused for its bounds.** -/
theorem pageView_shape {v : View} (hv : v.IsBare) (req : Request) (rows : List Entry) :
    (pageView v req rows).totalRows = rows.length ∧
      ((pageView v req rows).IsError ∧ (pageView v req rows).fatalError ≠ "" ∨
        (pageView v req rows).IsListing req) := by
  rcases hpage : paginate rows req.offset req.limit with e | page
  · have hbare : { v with totalRows := rows.length }.IsBare := ⟨hv.1, hv.2, hv.3, hv.4, hv.5, hv.6, hv.7, hv.8⟩
    rcases e with ⟨o, l⟩ | ⟨o, l, n⟩
    · have htext := append_ne_empty (s := "Error: offset or limit parse error, ") (by decide)
        (PageError.malformed o l).message
      simp only [pageView, hpage]
      exact ⟨rfl, .inl ⟨hbare.failed_fatal htext, htext⟩⟩
    · have htext := append_ne_empty (s := "Error: offset or offset + limit is out of bound, ") (by decide)
        (PageError.outOfBounds o l n).message
      simp only [pageView, hpage]
      exact ⟨rfl, .inl ⟨hbare.failed_fatal htext, htext⟩⟩
  · simp only [pageView, hpage]
    refine ⟨trivial, .inr ?_⟩
    rcases paginate_eq_ok hpage with ⟨ho, hl, rfl⟩ | ⟨hsome, o, l, hread, hsum, rfl⟩
    · exact {
        pathError := hv.pathError, fatalError := hv.fatalError, kind := hv.kind, fileText := hv.fileText
        paginationDeferred := ⟨fun _ => ⟨ho, hl⟩, fun _ => rfl⟩
        whole := fun _ => rfl
        window := fun h => absurd h (by simp [Page.isDeferred]) }
    · exact {
        pathError := hv.pathError, fatalError := hv.fatalError, kind := hv.kind, fileText := hv.fileText
        paginationDeferred := ⟨fun h => absurd h (by simp [Page.isDeferred]), fun h => absurd h hsome⟩
        whole := fun h => absurd h (by simp [Page.isDeferred])
        window := fun _ => ⟨o, l, hread, by
          have hlen : ((rows.drop o).take l).length = l := by
            rw [List.length_take, List.length_drop]
            omega
          simp [Page.rows, hlen], hsum⟩ }

/-! ## The views of a browse -/

variable (b c req) in
/-- From `s` to `t` the cluster answered all that a listing needs: the path, its ancestors and children, and where the
data of each child is, as far as that can be found out. -/
def Surveys (s : σ) (children : List FileInfo) (t : σ) : Prop :=
  ∃ p info current ancestors entries rows u v, Locates c req s p info current u ∧ current.isDirectory = true ∧
    Lists c u p ancestors children entries v ∧ (annotate c b.sampling b.policy entries).exec v = (.ok ⟨rows, none⟩, t)

/-- **Every view that a browse gives shows one error, a file or a listing, and nothing of the other two.** -/
theorem browse_shape {s t : σ} {v : View} (h : (b.browse c req).exec s = (.ok v, t)) :
    (v.IsError ∧ (v.fatalError = "" → v.totalRows = 0) ∧
        (v.fatalError ≠ "" → ∃ children, b.Surveys c req s children t ∧ v.totalRows = children.length)) ∨
      v.IsFile ∨ v.IsListing req := by
  cases Exit.of_browse h with
  | misspelt parsed =>
    exact .inl ⟨isBare_blank.failed_path (pathErrorText_ne_empty _ _), fun _ => rfl, fun h => absurd rfl h⟩
  | unresolved parsed failed =>
    exact .inl ⟨(isBare_named _).failed_path (pathErrorText_ne_empty _ _), fun _ => rfl, fun h => absurd rfl h⟩
  | unread located isFile failed =>
    exact .inl ⟨(isBare_found _ _).failed_path (pathErrorText_ne_empty _ _), fun _ => rfl, fun h => absurd rfl h⟩
  | file located isFile read => exact .inr (.inl (isFile_fileView _ _ _))
  | rootless located isDirectory failed =>
    exact .inl ⟨(isBare_found _ _).failed_path (pathErrorText_ne_empty _ _), fun _ => rfl, fun h => absurd rfl h⟩
  | unlisted located isDirectory crumbs failed =>
    exact .inl ⟨(isBare_withAncestors _ _ _).failed_path (pathErrorText_ne_empty _ _), fun _ => rfl,
      fun h => absurd rfl h⟩
  | unlocated located isDirectory listed failed =>
    exact .inl ⟨(isBare_withAncestors _ _ _).failed_path (locationErrorText_ne_empty _ _), fun _ => rfl,
      fun h => absurd rfl h⟩
  | page located isDirectory listed annotated =>
    obtain ⟨htotal, herror | hlisting⟩ := pageView_shape (isBare_withAncestors _ _ _) req _
    · refine .inl ⟨herror.1, fun h => absurd h herror.2, fun _ => ?_⟩
      have hlen := (length_eq_of_annotate_eq_ok annotated).trans (length_eq_of_rowsOf_eq_ok listed.shown)
      exact ⟨_, ⟨_, _, _, _, _, _, _, _, located, isDirectory, listed, annotated⟩, htotal.trans hlen⟩
    · exact .inr (.inr hlisting)

/-! ## A directory with two files -/

/-- A directory with two empty files. -/
def twoFiles : Cluster Unit where
  masterAddress := ""
  status _ := return { id := 1, name := "", path := "/", folder := true }
  list _ := return [{ id := 2, name := "a", path := "/a" }, { id := 3, name := "b", path := "/b" }]
  blocks _ := return []
  tiers := return []
  openFile path _ := Action.fail (.invalidPath path)
  ping := return true
  close := return ()

/-- The rows of the two files. -/
def twoRows : List Entry :=
  [{ id := 2, name := "a", path := "/a" }, { id := 3, name := "b", path := "/b" }].filterMap fun info =>
    (Entry.ofInfo info).toOption

theorem rowsOf_twoFiles :
    rowsOf [{ id := 2, name := "a", path := "/a" }, { id := 3, name := "b", path := "/b" }] = .ok twoRows := by
  have hshown : [{ id := 2, name := "a", path := "/a" }, { id := 3, name := "b", path := "/b" }].mapM Entry.ofInfo =
      .ok twoRows := by decide +kernel
  have hsorted : twoRows.Pairwise fun a b => a.path ≤ b.path := by decide +kernel
  rw [rowsOf, hshown]
  exact congrArg Except.ok (sortEntries_of_pairwise hsorted)

theorem annotate_twoFiles (sampling : Sampling) (policy : FailurePolicy) :
    (annotate twoFiles sampling policy twoRows).exec () = (.ok ⟨twoRows, none⟩, ()) := by
  cases sampling <;> cases policy <;> decide +kernel

theorem exec_browse_twoFiles (b : Browser) (offset limit : Option String) : ∃ w : View, w.IsBare ∧
    (b.browse twoFiles { path := some "/", offset, limit }).exec () =
      (.ok (pageView w { path := some "/", offset, limit } twoRows), ()) := by
  have hroot : (Entry.ofInfo { id := 1, name := "", path := "/", folder := true }).toOption.any Entry.isDirectory := by
    decide +kernel
  rcases hcurrent : Entry.ofInfo { id := 1, name := "", path := "/", folder := true } with e | current
  · simp [hcurrent, Except.toOption] at hroot
  have hdir : current.isDirectory = true := by simpa [hcurrent, Except.toOption] using hroot
  refine ⟨{ b.found twoFiles { path := some "/", offset, limit } .root current with ancestors := [] },
    isBare_withAncestors _ _ _, ?_⟩
  have hannotate := annotate_twoFiles b.sampling b.policy
  exact (Exit.page (u := ()) ⟨rfl, rfl, hcurrent⟩ hdir ⟨⟨(), rfl, rfl⟩, rowsOf_twoFiles⟩ hannotate).exec

/-- A view of a listing need not have as many rows as the listing: the window of two files that holds one of them. -/
theorem browse_window_shows_fewer_rows : ∃ v,
    (({ workerWebPort := 30000 } : Browser).browse twoFiles
      { path := some "/", offset := some "0", limit := some "1" }).exec () = (.ok v, ()) ∧
    v.pathError = "" ∧ v.fatalError = "" ∧ v.kind = .listing ∧ v.totalRows = 2 ∧ v.rows.map List.length = some 1 := by
  obtain ⟨w, hw, hexec⟩ := exec_browse_twoFiles { workerWebPort := 30000 } (some "0") (some "1")
  have hpage : paginate twoRows (some "0") (some "1") = .ok (.window (twoRows.take 1)) := by decide +kernel
  have hrows : (twoRows.take 1).length = 1 := by decide +kernel
  have htotal : twoRows.length = 2 := by decide +kernel
  refine ⟨_, hexec, ?_⟩
  simp only [pageView, hpage, Page.rows]
  exact ⟨hw.pathError, hw.fatalError, hw.kind, htotal, congrArg some hrows⟩

theorem browse_shape_twoFiles : ∃ v,
    (({ workerWebPort := 30000 } : Browser).browse twoFiles
      { path := some "/", offset := some "1", limit := some "2" }).exec () = (.ok v, ()) ∧
    ((v.IsError ∧ (v.fatalError = "" → v.totalRows = 0) ∧
        (v.fatalError ≠ "" → ∃ children, Surveys { workerWebPort := 30000 } twoFiles
          { path := some "/", offset := some "1", limit := some "2" } () children () ∧
            v.totalRows = children.length)) ∨
      v.IsFile ∨ v.IsListing { path := some "/", offset := some "1", limit := some "2" }) := by
  obtain ⟨w, hw, hexec⟩ := exec_browse_twoFiles { workerWebPort := 30000 } (some "1") (some "2")
  exact ⟨_, hexec, browse_shape hexec⟩

end Browser

end ClusterBrowser
