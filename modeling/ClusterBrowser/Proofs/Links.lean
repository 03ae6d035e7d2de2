import ClusterBrowser.Proofs.DirectoryView
import ClusterBrowser.Proofs.Shapes

/-!
# Links

A view links to the ancestors of a directory and to what is in it, each by its path.

* `View.LinksTo`, `View.Presents`: the rows of a view, and a view of what a row shows.
* `Namespace.Reachable.exec_listing`: how a directory is listed; its rows show what is there.
* `Namespace.Reachable.exists_presents`: what is there can be viewed by itself, directory or file.
* `Namespace.Reachable.shows_of_linksTo`: the rows of every view show what is there.
* **`Namespace.browse_links`**: every row of a view leads to what it shows.
-/

namespace ClusterBrowser

/-- The row stands in the view, as an ancestor of the directory or as something in it. -/
def View.LinksTo (v : View) (e : Entry) : Prop := e ∈ v.ancestors ∨ ∃ rows, v.rows = some rows ∧ e ∈ rows

/-- The view reports no error, and it is about what the row shows. -/
structure View.Presents (v : View) (e : Entry) : Prop where
  pathError : v.pathError = ""
  fatalError : v.fatalError = ""
  currentPath : v.currentPath = e.path
  current : v.current = some { e with locations := none }

theorem View.not_linksTo {v : View} (hancestors : v.ancestors = []) (hrows : v.rows = none) (e : Entry) :
    ¬ v.LinksTo e := by
  rintro (he | ⟨rows, he, -⟩)
  · rw [hancestors] at he
    exact nomatch he
  · rw [hrows] at he
    exact nomatch he

theorem Entry.without_locations_of_ofInfo {info : FileInfo} {e : Entry} (h : Entry.ofInfo info = .ok e) :
    { e with locations := none } = e := by
  obtain ⟨size, created, modified, rfl⟩ := Entry.exists_of_ofInfo h
  rfl

/-- A page links to ancestors and rows of the listing only. -/
theorem Browser.mem_of_linksTo_pageView {v : View} {req : Request} {rows : List Entry} {e : Entry}
    (h : (pageView v req rows).LinksTo e) : e ∈ v.ancestors ∨ e ∈ rows := by
  rcases hpage : paginate rows req.offset req.limit with (_ | _) | page
  · simp only [pageView, hpage] at h
    rcases h with he | ⟨shown, hshown, -⟩
    · exact .inl he
    · cases hshown
  · simp only [pageView, hpage] at h
    rcases h with he | ⟨shown, hshown, -⟩
    · exact .inl he
    · cases hshown
  · simp only [pageView, hpage] at h
    rcases h with he | ⟨shown, hshown, he⟩
    · exact .inl he
    obtain rfl := Option.some.inj hshown
    rcases paginate_eq_ok hpage with ⟨-, -, rfl⟩ | ⟨-, o, l, -, -, rfl⟩
    · exact .inr he
    · exact .inr (List.mem_of_mem_drop (List.mem_of_mem_take he))

namespace Namespace

variable {ns : Namespace}

theorem shows_of_mem_rowsOf {node : Node} (hfolder : node.info.folder = true) {entries : List Entry}
    (hentries : rowsOf (ns.children node) = .ok entries) {e : Entry} (he : e ∈ entries) : ∃ q, ns.Shows q e := by
  obtain ⟨info, hinfo, hshown⟩ := exists_of_mem_rowsOf hentries he
  rw [children, if_pos hfolder] at hinfo
  obtain ⟨entry, -, hentry⟩ := List.mem_filterMap.mp hinfo
  obtain ⟨child, hchild, rfl⟩ := Option.map_eq_some_iff.mp hentry
  exact ⟨entry.2, child, hchild, hshown⟩

theorem find?_of_exec_resolve {masterAddress : String} {tiers : List String} {p : Path} {info : FileInfo}
    {t : Namespace} (hresolved : (resolve (cluster masterAddress tiers) p).exec ns = (.ok info, t)) :
    ∃ node, ns.find? p = some node ∧ node.info = info := by
  obtain ⟨answer, u, hstatus, hrest⟩ := Action.exec_bind_eq_ok.mp hresolved
  split_ifs at hrest
  · exact nomatch hrest
  · obtain ⟨rfl, -⟩ := Action.exec_pure_eq_ok.mp hrest
    exact find?_of_exec_status hstatus

variable (h : Reachable Clock.IsCivil PopulationCall.IsPlain ns) (masterAddress : String) (tiers : List String)
include h

theorem Reachable.path_of_shows {p : Path} {e : Entry} (he : ns.Shows p e) : e.path = p.text := by
  obtain ⟨node, hp, he⟩ := he
  rw [Entry.path_of_ofInfo he, (h.sound hp).path]

/-! ## Directories -/

/-- How a directory is listed: its ancestors and its rows show what is there, a row for each of its children, and all
that a request can still fail at is the choice of a window. -/
theorem Reachable.exec_listing (req : Request) {p : Path} {node : Node} (hreq : Path.parseRequest req.path = .ok p)
    (hp : ns.find? p = some node) (hfolder : node.info.folder = true) (b : Browser) :
    ∃ current ancestors rows, Entry.ofInfo node.info = .ok current ∧ List.Forall₂ ns.Shows p.ancestors ancestors ∧
      (∀ e ∈ rows, ∃ q, ns.Shows q { e with locations := none }) ∧
      (rows.map Entry.path).Perm ((ns.children node).map FileInfo.path) ∧
      (b.browse (cluster masterAddress tiers) req).exec ns =
        (.ok (Browser.pageView { b.found (cluster masterAddress tiers) req p current with ancestors } req rows), ns) := by
  obtain ⟨current, hcurrent⟩ := (Entry.ofInfo_isOk_iff node.info).mpr (h.showable hp)
  have located : Browser.Locates (cluster masterAddress tiers) req ns p node.info current ns :=
    ⟨hreq, h.exec_resolve masterAddress tiers hp, hcurrent⟩
  have isDirectory : current.isDirectory = true := (Entry.isDirectory_of_ofInfo hcurrent).trans hfolder
  obtain ⟨ancestors, hancestors, hshown⟩ := h.exec_ancestors masterAddress tiers (contains_of_find? hp)
  obtain ⟨entries, hentries⟩ := h.exists_rowsOf_children hfolder
  have listed : Browser.Lists (cluster masterAddress tiers) ns p ancestors (ns.children node) entries ns :=
    ⟨⟨ns, hancestors, h.exec_list (fun _ h => h) hp masterAddress tiers⟩, hentries⟩
  have hpaths : ∀ text ∈ entries.map Entry.path, ∃ q, ns.contains q = true ∧ q.text = text := by
    intro text htext
    obtain ⟨e, he, rfl⟩ := List.mem_map.mp htext
    obtain ⟨q, hq⟩ := shows_of_mem_rowsOf hfolder hentries he
    obtain ⟨child, hchild, -⟩ := id hq
    exact ⟨q, contains_of_find? hchild, (h.path_of_shows hq).symm⟩
  obtain ⟨rows, hrows⟩ := h.exec_annotate masterAddress tiers hpaths b.sampling b.policy
  refine ⟨current, ancestors, rows, hcurrent, hshown, fun e he => ?_,
    paths_eq_of_annotate_eq_ok hrows ▸ perm_paths_of_rowsOf_eq_ok hentries,
    (Browser.Exit.page located isDirectory listed hrows).exec⟩
  -- Without its locations, the row is the one of the listing.
  obtain ⟨e₀, he₀, hsame⟩ := exists_of_mem_forall₂ (annotate_eq_ok hrows) he
  obtain ⟨q, hq⟩ := shows_of_mem_rowsOf hfolder hentries he₀
  obtain ⟨child, hchild, hinfo⟩ := hq
  have hnone : { e with locations := none } = e₀ := by
    rw [hsame]
    exact Entry.without_locations_of_ofInfo hinfo
  exact ⟨q, child, hchild, hnone ▸ hinfo⟩

/-! ## Files -/

theorem Reachable.exists_preview {p : Path} {node : Node} (hp : ns.find? p = some node)
    (hfile : node.info.folder = false) {start : Nat} (hstart : start ≤ node.data.length) :
    ∃ result t, (preview (cluster masterAddress tiers) node.info start).exec ns = (.ok result, t) := by
  rcases hcompleted : node.info.completed with _ | _
  · have hread : (readFile (cluster masterAddress tiers) node.info start).exec ns = (.ok (notCompleteText, 0), ns) := by
      rw [readFile, hcompleted, if_neg Bool.false_ne_true]
      rfl
    have hblocks : ((cluster masterAddress tiers).blocks node.info.path).exec ns = (.ok node.blocks, ns) := by
      rw [(h.sound hp).path]
      exact h.exec_blocks (fun _ h => h) hp masterAddress tiers
    refine ⟨⟨start, 0, notCompleteText, node.blocks.map (BlockView.ofReport · (tiers.headD "")), tiers.headD ""⟩, ns,
      ?_⟩
    rw [preview, Action.exec_bind_of_ok hread]
    change ((cluster masterAddress tiers).blocks node.info.path >>= _).exec ns = _
    rw [Action.exec_bind_of_ok hblocks]
    rfl
  · obtain ⟨result, t, hexec, -⟩ := exec_preview h hp hfile hcompleted masterAddress tiers hstart
    exact ⟨result, t, hexec⟩

/-! ## Following a link -/

theorem Reachable.exists_presents {q : Path} {e : Entry} (hq : ns.Shows q { e with locations := none }) (b : Browser) :
    ∃ w u, (b.browse (cluster masterAddress tiers) { path := some e.path }).exec ns = (.ok w, u) ∧ w.Presents e := by
  have hpath : e.path = q.text := by
    change ({ e with locations := none } : Entry).path = q.text
    exact h.path_of_shows hq
  have hreq : Path.parseRequest (some e.path) = .ok q := by
    rw [hpath]
    exact Path.parse_text q
  obtain ⟨node, hp, hinfo⟩ := hq
  rcases hfolder : node.info.folder with _ | _
  · have hzero : Browser.offsetIn { path := some e.path } node.info = (0 : Nat) := by
      rw [Browser.offsetIn, effectiveOffset, (h.sound hp).length]
      change max (0 : Int) (min 0 node.data.length) = 0
      omega
    obtain ⟨result, t, hpreview⟩ := h.exists_preview masterAddress tiers hp hfolder (Nat.zero_le _)
    rw [← hzero] at hpreview
    have located : Browser.Locates (cluster masterAddress tiers) { path := some e.path } ns q node.info
        { e with locations := none } ns := ⟨hreq, h.exec_resolve masterAddress tiers hp, hinfo⟩
    have isFile : e.isDirectory = false := (Entry.isDirectory_of_ofInfo hinfo).trans hfolder
    exact ⟨_, t, (Browser.Exit.file located isFile hpreview).exec, rfl, rfl, hpath.symm, rfl⟩
  · obtain ⟨current, ancestors, rows, hcurrent, -, -, -, hexec⟩ := h.exec_listing masterAddress tiers
      { path := some e.path } hreq hp hfolder b
    obtain rfl := Except.ok.inj (hinfo.symm.trans hcurrent)
    refine ⟨_, ns, hexec, ?_⟩
    rw [Browser.pageView_whole _ rfl rfl]
    exact ⟨rfl, rfl, hpath.symm, rfl⟩

theorem Reachable.shows_of_located {b : Browser} {req : Request} {v : View} {t u : Namespace} {p : Path}
    {info : FileInfo} {current : Entry} (hv : (b.browse (cluster masterAddress tiers) req).exec ns = (.ok v, t))
    (located : Browser.Locates (cluster masterAddress tiers) req ns p info current u)
    (isDirectory : current.isDirectory = true) {e : Entry} (he : v.LinksTo e) :
    t = ns ∧ ∃ q, ns.Shows q { e with locations := none } := by
  obtain ⟨hreq, hresolved, hcurrent⟩ := located
  obtain ⟨node, hp, rfl⟩ := find?_of_exec_resolve hresolved
  have hfolder : node.info.folder = true := (Entry.isDirectory_of_ofInfo hcurrent).symm.trans isDirectory
  obtain ⟨_, ancestors, rows, -, hancestors, hrows, -, hexec⟩ :=
    h.exec_listing masterAddress tiers req hreq hp hfolder b
  obtain ⟨hview, rfl⟩ := Prod.mk.inj (hv.symm.trans hexec)
  refine ⟨rfl, ?_⟩
  rw [Except.ok.inj hview] at he
  rcases Browser.mem_of_linksTo_pageView he with he | he
  · obtain ⟨a, -, ⟨node, ha, hinfo⟩⟩ := exists_of_mem_forall₂ hancestors he
    exact ⟨a, node, ha, (Entry.without_locations_of_ofInfo hinfo).symm ▸ hinfo⟩
  · exact hrows e he

/-- The rows of every view show what is there, and showing them has changed nothing. -/
theorem Reachable.shows_of_linksTo {b : Browser} {req : Request} {v : View} {t : Namespace}
    (hv : (b.browse (cluster masterAddress tiers) req).exec ns = (.ok v, t)) {e : Entry} (he : v.LinksTo e) :
    t = ns ∧ ∃ q, ns.Shows q { e with locations := none } := by
  -- Only a view of a directory has rows.
  cases Browser.Exit.of_browse hv with
  | misspelt parsed => exact absurd he (View.not_linksTo rfl rfl e)
  | unresolved parsed failed => exact absurd he (View.not_linksTo rfl rfl e)
  | unread located isFile failed => exact absurd he (View.not_linksTo rfl rfl e)
  | file located isFile read => exact absurd he (View.not_linksTo rfl rfl e)
  | rootless located isDirectory failed => exact h.shows_of_located masterAddress tiers hv located isDirectory he
  | unlisted located isDirectory crumbs failed => exact h.shows_of_located masterAddress tiers hv located isDirectory he
  | unlocated located isDirectory listed failed => exact h.shows_of_located masterAddress tiers hv located isDirectory he
  | page located isDirectory listed annotated => exact h.shows_of_located masterAddress tiers hv located isDirectory he

/-- **Every row of a view leads to what it shows.** -/
theorem browse_links {b : Browser} {req : Request} {v : View} {t : Namespace}
    (hv : (b.browse (cluster masterAddress tiers) req).exec ns = (.ok v, t)) {e : Entry} (he : v.LinksTo e) :
    ∃ w u, (b.browse (cluster masterAddress tiers) { path := some e.path }).exec t = (.ok w, u) ∧ w.Presents e := by
  obtain ⟨rfl, q, hq⟩ := h.shows_of_linksTo masterAddress tiers hv he
  exact h.exists_presents masterAddress tiers hq b

omit h

/-- In the workshop, the row of a file that is half made leads to that file. -/
theorem browse_links_workshop : ∃ v e, Reachable Clock.IsCivil PopulationCall.IsPlain workshop ∧
    (Browser.usual.browse (cluster "master:19998" defaultTiers) { path := some "/d" }).exec workshop =
      (.ok v, workshop) ∧ v.LinksTo e ∧ e.path = "/d/B" ∧
    ∃ w u, (Browser.usual.browse (cluster "master:19998" defaultTiers) { path := some e.path }).exec workshop =
      (.ok w, u) ∧ w.Presents e := by
  let p : Path := .child .root ⟨"d", by decide⟩
  have hreq : Path.parseRequest (some "/d") = .ok p := by decide +kernel
  have hseen : (workshop.find? p).map (fun node => (node.info.folder, (workshop.children node).map FileInfo.path)) =
      some (true, ["/d/b", "/d/a", "/d/B"]) := by decide +kernel
  obtain ⟨node, hp, hnode⟩ := Option.map_eq_some_iff.mp hseen
  obtain ⟨hfolder, hchildren⟩ := Prod.mk.inj hnode
  obtain ⟨_, _, rows, -, -, -, hperm, hv⟩ := reachable_workshop.exec_listing "master:19998" defaultTiers
    { path := some "/d" } hreq hp hfolder Browser.usual
  have hB : "/d/B" ∈ rows.map Entry.path := by
    rw [hperm.mem_iff, hchildren]
    decide
  obtain ⟨e, he, hpath⟩ := List.mem_map.mp hB
  rw [Browser.pageView_whole _ rfl rfl] at hv
  refine ⟨_, e, reachable_workshop, hv, ?link, hpath, browse_links reachable_workshop _ _ hv ?link⟩
  exact .inr ⟨rows, rfl, he⟩

end Namespace

end ClusterBrowser
