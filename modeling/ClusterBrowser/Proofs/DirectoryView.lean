import ClusterBrowser.Proofs.Coherence
import ClusterBrowser.Proofs.FileView

/-!
# The view of a directory

* `View.ShowsDirectory`: a view of all that lies right below a path, in order.
* `Namespace.Shows`: a row that shows what there is at a path.
* `Namespace.Reachable.exec_resolve`, `Namespace.Reachable.exec_ancestors`, `Namespace.Reachable.exec_annotate`: the steps
  of a listing succeed one after another.
* **`Namespace.browse_directory`**: the view of every directory shows what lies right below it.
-/

namespace ClusterBrowser

/-- The view shows all that the namespace holds right below a path, in strictly ascending order of the paths' code
points. -/
structure View.ShowsDirectory (v : View) (ns : Namespace) (p : Path) : Prop where
  kind : v.kind = .listing
  pathError : v.pathError = ""
  fatalError : v.fatalError = ""
  rows : ∃ rows, v.rows = some rows ∧ v.totalRows = rows.length ∧
    (rows.map Entry.path).Pairwise (· < ·) ∧
    ∀ text, text ∈ rows.map Entry.path ↔ ∃ q, ns.contains q = true ∧ q ≠ .root ∧ q.parent = p ∧ q.text = text

theorem pairwise_lt_of_nodup {texts : List String} (h : texts.Pairwise (· ≤ ·)) (hnodup : texts.Nodup) :
    texts.Pairwise (· < ·) := by
  refine (h.and hnodup).imp ?_
  rintro a b ⟨hle, hne⟩
  exact String.not_le.mp fun hge => hne (String.le_antisymm hle hge)

theorem Browser.pageView_whole (v : View) {req : Request} (hoffset : req.offset = none) (hlimit : req.limit = none)
    (rows : List Entry) :
    pageView v req rows = { v with totalRows := rows.length, rows := some rows, paginationDeferred := true } := by
  rw [pageView, hoffset, hlimit]
  rfl

namespace Namespace

/-- The row shows what there is at a path; its data has not been located. -/
def Shows (ns : Namespace) (p : Path) (e : Entry) : Prop :=
  ∃ node, ns.find? p = some node ∧ Entry.ofInfo node.info = .ok e

variable {ns : Namespace} (h : Reachable Clock.IsCivil PopulationCall.IsPlain ns) (masterAddress : String)
  (tiers : List String)
include h

/-! ## Steps of a listing -/

theorem Reachable.exec_resolve {p : Path} {node : Node} (hp : ns.find? p = some node) :
    (resolve (cluster masterAddress tiers) p).exec ns = (.ok node.info, ns) := by
  rw [resolve, Action.exec_bind_of_ok (h.exec_status (fun _ h => h) hp masterAddress tiers), if_neg]
  · rfl
  · rw [(h.sound hp).path]
    exact Path.text_ne_empty p

theorem Reachable.exists_shows {p : Path} (hp : ns.contains p = true) : ∃ e, ns.Shows p e := by
  obtain ⟨node, hp⟩ := find?_of_contains hp
  obtain ⟨e, he⟩ := (Entry.ofInfo_isOk_iff node.info).mpr (h.showable hp)
  exact ⟨e, node, hp, he⟩

theorem Reachable.exec_resolveEntry {p : Path} {e : Entry} (he : ns.Shows p e) :
    (resolveEntry (cluster masterAddress tiers) p).exec ns = (.ok e, ns) := by
  obtain ⟨node, hp, he⟩ := he
  rw [resolveEntry, Action.exec_bind_of_ok (h.exec_resolve masterAddress tiers hp), he]
  rfl

theorem Reachable.exec_ancestors {p : Path} (hp : ns.contains p = true) :
    ∃ ancestors, (breadcrumbs (cluster masterAddress tiers) p).exec ns = (.ok ancestors, ns) ∧
      List.Forall₂ ns.Shows p.ancestors ancestors := by
  refine Action.exec_mapM_of_forall fun a ha => ?_
  obtain ⟨e, he⟩ := h.exists_shows (h.isTree.contains_ancestor hp ha)
  exact ⟨e, h.exec_resolveEntry masterAddress tiers he, he⟩

theorem Reachable.exec_breadcrumbs {p : Path} (hp : ns.contains p = true) :
    ∃ ancestors, (breadcrumbs (cluster masterAddress tiers) p).exec ns = (.ok ancestors, ns) := by
  obtain ⟨ancestors, hancestors, -⟩ := h.exec_ancestors masterAddress tiers hp
  exact ⟨ancestors, hancestors⟩

theorem Reachable.exists_rowsOf_children {node : Node} (hfolder : node.info.folder = true) :
    ∃ entries, rowsOf (ns.children node) = .ok entries := by
  rw [rowsOf_isOk_iff]
  intro info hinfo
  rw [children, if_pos hfolder] at hinfo
  obtain ⟨entry, -, hentry⟩ := List.mem_filterMap.mp hinfo
  obtain ⟨child, hchild, rfl⟩ := Option.map_eq_some_iff.mp hentry
  exact (Entry.ofInfo_isOk_iff child.info).mpr (h.showable hchild)

theorem Reachable.exec_annotate {entries : List Entry}
    (hentries : ∀ text ∈ entries.map Entry.path, ∃ q, ns.contains q = true ∧ q.text = text) (sampling : Sampling)
    (policy : FailurePolicy) :
    ∃ rows, (annotate (cluster masterAddress tiers) sampling policy entries).exec ns = (.ok ⟨rows, none⟩, ns) := by
  apply exec_annotate_of_forall
  intro e he
  obtain ⟨q, hq, htext⟩ := hentries e.path (List.mem_map_of_mem he)
  obtain ⟨node, hq⟩ := find?_of_contains hq
  rw [← htext]
  exact ⟨node.blocks, h.exec_blocks (fun _ h => h) hq masterAddress tiers⟩

/-! ## The view -/

/-- **The view of every directory shows what lies right below it.** -/
theorem browse_directory {req : Request} {p : Path} {node : Node} (hreq : Path.parseRequest req.path = .ok p)
    (hp : ns.find? p = some node) (hfolder : node.info.folder = true) (hoffset : req.offset = none)
    (hlimit : req.limit = none) (b : Browser) :
    ∃ v, (b.browse (cluster masterAddress tiers) req).exec ns = (.ok v, ns) ∧ v.ShowsDirectory ns p := by
  obtain ⟨current, hcurrent⟩ := (Entry.ofInfo_isOk_iff node.info).mpr (h.showable hp)
  have located : Browser.Locates (cluster masterAddress tiers) req ns p node.info current ns :=
    ⟨hreq, h.exec_resolve masterAddress tiers hp, hcurrent⟩
  have isDirectory : current.isDirectory = true := (Entry.isDirectory_of_ofInfo hcurrent).trans hfolder
  obtain ⟨ancestors, hancestors⟩ := h.exec_breadcrumbs masterAddress tiers (contains_of_find? hp)
  obtain ⟨entries, hentries⟩ := h.exists_rowsOf_children hfolder
  have listed : Browser.Lists (cluster masterAddress tiers) ns p ancestors (ns.children node) entries ns :=
    ⟨⟨ns, hancestors, h.exec_list (fun _ h => h) hp masterAddress tiers⟩, hentries⟩
  -- The rows have the paths of the children, in order.
  have hperm := perm_paths_of_rowsOf_eq_ok hentries
  have hmem : ∀ text, text ∈ entries.map Entry.path ↔
      ∃ q, ns.contains q = true ∧ q ≠ .root ∧ q.parent = p ∧ q.text = text := by
    intro text
    rw [hperm.mem_iff]
    exact h.mem_paths_children hp hfolder
  have hsorted : (entries.map Entry.path).Pairwise (· < ·) :=
    pairwise_lt_of_nodup (pairwise_of_rowsOf_eq_ok hentries)
      (hperm.nodup_iff.mpr (h.nodup_paths_children hp hfolder))
  obtain ⟨rows, hrows⟩ := h.exec_annotate masterAddress tiers
    (fun text htext => by
      obtain ⟨q, hq, -, -, hq'⟩ := (hmem text).mp htext
      exact ⟨q, hq, hq'⟩) b.sampling b.policy
  have hpaths : rows.map Entry.path = entries.map Entry.path := paths_eq_of_annotate_eq_ok hrows
  refine ⟨_, (Browser.Exit.page located isDirectory listed hrows).exec, ?_⟩
  rw [Browser.pageView_whole _ hoffset hlimit]
  refine ⟨rfl, rfl, rfl, rows, rfl, rfl, ?_, ?_⟩
  · rw [hpaths]
    exact hsorted
  · rw [hpaths]
    exact hmem

omit h

/-- A namespace with a directory in which a file has been made anew, another one only half, and one call was refused. -/
def workshop : Namespace :=
  after (ensureDirectory 0 {} .root { clock := ⟨some 0⟩ })
    [(⟨some 0⟩, .mkdir "/d/b" {}), (⟨some 0⟩, .addFile "/d/a" [1] {}),
      (⟨some 0⟩, .addFile "/d//B" [] { blockSize := 0 }), (⟨some 0⟩, .addFile "/d/a/" [1, 2] {}),
      (⟨some 0⟩, .mkdir "d" {})]

theorem reachable_workshop : Reachable Clock.IsCivil PopulationCall.IsPlain workshop := by
  have hcivil : Clock.IsCivil ⟨some 0⟩ := ⟨0, rfl, by decide, by decide⟩
  have hplain : ∀ raw data o, data.length ≤ 2 → PopulationCall.IsPlain (.addFile raw data o) := by
    intro raw data o hdata
    have hlimit : 2 < Size.limit := by decide +kernel
    exact Nat.lt_of_le_of_lt hdata hlimit
  have hempty : Namespace.empty ⟨some 0⟩ = .ok (ensureDirectory 0 {} .root { clock := ⟨some 0⟩ }) := rfl
  refine (Reachable.empty hcivil hempty).after ?_
  simp only [List.forall_mem_cons]
  exact ⟨⟨hcivil, trivial⟩, ⟨hcivil, hplain _ _ _ (by decide)⟩, ⟨hcivil, hplain _ _ _ (by decide)⟩,
    ⟨hcivil, hplain _ _ _ (by decide)⟩, ⟨hcivil, trivial⟩, nofun⟩

/-- The directory of the workshop, asked for under another spelling of its path. -/
theorem browse_directory_workshop : ∃ p node, Reachable Clock.IsCivil PopulationCall.IsPlain workshop ∧
    Path.parseRequest (some "/d/") = .ok p ∧ workshop.find? p = some node ∧ node.info.folder = true ∧
    (workshop.children node).map FileInfo.path = ["/d/b", "/d/a", "/d/B"] ∧
    ∃ v, (Browser.usual.browse (cluster "master:19998" defaultTiers) { path := some "/d/" }).exec workshop =
      (.ok v, workshop) ∧ v.ShowsDirectory workshop p := by
  let p : Path := .child .root ⟨"d", by decide⟩
  have hreq : Path.parseRequest (some "/d/") = .ok p := by decide +kernel
  have hseen : (workshop.find? p).map (fun node => (node.info.folder, (workshop.children node).map FileInfo.path)) =
      some (true, ["/d/b", "/d/a", "/d/B"]) := by decide +kernel
  obtain ⟨node, hp, hnode⟩ := Option.map_eq_some_iff.mp hseen
  obtain ⟨hfolder, hchildren⟩ := Prod.mk.inj hnode
  exact ⟨p, node, reachable_workshop, hreq, hp, hfolder, hchildren,
    browse_directory reachable_workshop _ _ hreq hp hfolder rfl rfl _⟩

end Namespace

end ClusterBrowser
