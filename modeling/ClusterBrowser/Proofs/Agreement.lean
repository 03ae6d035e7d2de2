import ClusterBrowser.Browse.Browser
import ClusterBrowser.Proofs.Relation
import Mathlib.Tactic.SplitIfs

/-!
# Clusters side by side

Two clusters that agree on all that a browse asks them give the same views.

* `resolveShown`: the attributes of a path together with its row.
* `Bond.Clusters`: two clusters whose answers are related.
* **`Relates.browse`**: the views over related clusters differ in the address of the master at most.
-/

namespace ClusterBrowser

variable {σ τ : Type}

/-- The attributes of a path together with its row. -/
def resolveShown (c : Cluster σ) (p : Path) : Action σ (FileInfo × Entry) := do
  let info ← resolve c p
  let entry ← Action.ofExcept .display (Entry.ofInfo info)
  return (info, entry)

theorem exec_resolveShown (c : Cluster σ) (p : Path) (s : σ) :
    (resolveShown c p).exec s = Action.andThen ((c.status p.text).exec s) fun info =>
      if info.path = "" then Action.fail (.pathNotFound p.text)
      else Action.ofExcept .display ((Entry.ofInfo info).map fun entry => (info, entry)) := by
  rw [resolveShown, resolve, Action.exec_bind, Action.exec_bind]
  rcases (c.status p.text).exec s with ⟨f | info, t⟩
  · rfl
  simp only [Action.andThen_ok]
  split_ifs with hpath
  · rfl
  · rw [Action.exec_pure, Action.andThen_ok, Action.exec_bind]
    rcases Entry.ofInfo info with e | entry <;> rfl

theorem resolveEntry_eq (c : Cluster σ) (p : Path) : resolveEntry c p = Prod.snd <$> resolveShown c p := by
  refine Action.ext fun s => ?_
  rw [resolveEntry, resolveShown, Action.exec_map, Action.exec_bind, Action.exec_bind]
  rcases (resolve c p).exec s with ⟨f | info, t⟩
  · rfl
  · rw [Action.andThen_ok, Action.andThen_ok, Action.exec_bind]
    rcases Entry.ofInfo info with e | entry <;> rfl

/-- The same view with another address of the master. -/
def View.at (v : View) (masterAddress : String) : View := { v with masterAddress }

namespace Browser

theorem browse_eq (b : Browser) (c : Cluster σ) (req : Request) {p : Path} (hp : Path.parseRequest req.path = .ok p) :
    b.browse c req = (resolveShown c p).attempt >>= fun r =>
      match r with
      | .error e => pure ({ b.blank c req with currentPath := p.text }.failed (pathErrorText e p.text) "")
      | .ok (info, current) =>
        let v := b.located { b.blank c req with currentPath := p.text } current
        if current.isDirectory then b.browseDirectory c v p req else browseFile c v info req := by
  refine Action.ext fun s => ?_
  rw [browse, hp]
  simp only
  rw [Action.exec_bind, Action.exec_bind, Action.exec_attempt, Action.exec_attempt, resolveShown, Action.exec_bind]
  rcases (resolve c p).exec s with ⟨f | info, t⟩
  · cases f <;> rfl
  · rw [Action.andThen_ok, Action.exec_bind]
    simp only [Action.andThen_ok]
    rw [Action.exec_bind]
    rcases Entry.ofInfo info with e | entry <;> rfl

theorem pageView_at (v : View) (a : String) (req : Request) (rows : List Entry) :
    pageView (v.at a) req rows = (pageView v req rows).at a := by
  simp only [pageView, View.at]
  rcases paginate rows req.offset req.limit with (_ | _) | page <;> rfl

end Browser

namespace Bond

variable {B : Bond σ τ} {c : Cluster σ} {d : Cluster τ}

variable (B c d) in
/-- Two clusters whose answers to what a browse asks are related. -/
structure Clusters : Prop where
  resolve : ∀ p, B.Relates Eq (resolveShown c p) (resolveShown d p)
  list : ∀ path, B.Relates Eq (listDirectory c path) (listDirectory d path)
  blocks : ∀ path, B.Relates Eq (c.blocks path) (d.blocks path)
  tiers : B.Relates Eq c.tiers d.tiers
  window : ∀ path offset length, B.Relates Eq (c.withFile path .noCache (readWindow · offset length))
    (d.withFile path .noCache (readWindow · offset length))

theorem Relates.map {α β : Type} {x : Action σ α} {y : Action τ α} (h : B.Relates Eq x y) (g : α → β) :
    B.Relates Eq (g <$> x) (g <$> y) := by
  rw [map_eq_pure_bind, map_eq_pure_bind]
  exact h.bind_eq fun a => .pure rfl

theorem Clusters.breadcrumbs (h : B.Clusters c d) (p : Path) : B.Relates Eq (breadcrumbs c p) (breadcrumbs d p) := by
  refine Relates.mapM (fun q => ?_) p.ancestors
  rw [resolveEntry_eq, resolveEntry_eq]
  exact (h.resolve q).map Prod.snd

theorem Relates.locationsFor (hblocks : ∀ path, B.Relates Eq (c.blocks path) (d.blocks path)) (sampling : Sampling)
    (e : Entry) : B.Relates Eq (locationsFor c sampling e) (locationsFor d sampling e) := by
  rw [ClusterBrowser.locationsFor, ClusterBrowser.locationsFor]
  split
  · exact (hblocks e.path).bind_eq fun blocks => .pure rfl
  · exact .pure rfl

theorem Relates.annotate (hblocks : ∀ path, B.Relates Eq (c.blocks path) (d.blocks path)) (sampling : Sampling)
    (policy : FailurePolicy) (entries : List Entry) :
    B.Relates Eq (annotate c sampling policy entries) (annotate d sampling policy entries) := by
  induction entries with
  | nil => exact .pure rfl
  | cons e rest ih =>
    rw [ClusterBrowser.annotate, ClusterBrowser.annotate]
    refine (Relates.locationsFor hblocks sampling e).attempt.bind_eq fun r => ?_
    rcases r with err | locations
    · dsimp only
      split
      · exact ih.bind_eq fun tail => .pure rfl
      · exact .pure rfl
    · exact ih.bind_eq fun tail => .pure rfl

theorem Clusters.readFile (h : B.Clusters c d) (info : FileInfo) (offset : Int) :
    B.Relates Eq (readFile c info offset) (readFile d info offset) := by
  rw [ClusterBrowser.readFile, ClusterBrowser.readFile]
  split
  · exact (h.window info.path offset info.length).storageUnavailable.bind_eq fun read => .pure rfl
  · exact .pure rfl

theorem Clusters.preview (h : B.Clusters c d) (info : FileInfo) (offset : Int) :
    B.Relates Eq (preview c info offset) (preview d info offset) := by
  rw [ClusterBrowser.preview, ClusterBrowser.preview]
  refine (h.readFile info offset).bind_eq fun (text, byteCount) => ?_
  refine h.tiers.bind_eq fun tiers => ?_
  exact (h.blocks info.path).bind_eq fun blocks => .pure rfl

/-! ## Views -/

/-- The same view at two addresses. -/
def AtAddresses (a a' : String) (v w : View) : Prop := ∃ u : View, v = u.at a ∧ w = u.at a'

variable {a a' : String}

theorem Relates.view (u : View) : B.Relates (AtAddresses a a') (Pure.pure (u.at a)) (Pure.pure (u.at a')) :=
  .pure ⟨u, rfl, rfl⟩

theorem Clusters.browseFile (h : B.Clusters c d) (u : View) (info : FileInfo) (req : Request) :
    B.Relates (AtAddresses a a') (Browser.browseFile c (u.at a) info req) (Browser.browseFile d (u.at a') info req) := by
  rw [Browser.browseFile, Browser.browseFile]
  refine (h.preview info _).attempt.bind_eq fun r => ?_
  rcases r with e | result
  · exact .view (u.failed (pathErrorText e u.currentPath) "")
  · exact .view (Browser.fileView u result)

theorem Clusters.browseDirectory (h : B.Clusters c d) (b : Browser) (u : View) (p : Path) (req : Request) :
    B.Relates (AtAddresses a a') (b.browseDirectory c (u.at a) p req) (b.browseDirectory d (u.at a') p req) := by
  rw [Browser.browseDirectory, Browser.browseDirectory]
  refine (h.breadcrumbs p).attempt.bind_eq fun r => ?_
  rcases r with e | ancestors
  · exact .view (u.failed (pathErrorText e u.currentPath) "")
  refine (h.list p.text).attempt.bind_eq fun r => ?_
  rcases r with e | entries
  · exact .view ({ u with ancestors }.failed (pathErrorText e u.currentPath) "")
  refine (Relates.annotate h.blocks b.sampling b.policy entries).bind_eq fun annotated => ?_
  rcases annotated with ⟨rows, _ | e⟩
  · refine .pure ⟨Browser.pageView { u with ancestors } req rows, ?_, ?_⟩
    · exact Browser.pageView_at { u with ancestors } a req rows
    · exact Browser.pageView_at { u with ancestors } a' req rows
  · exact .view ({ u with ancestors }.failed (locationErrorText e p.text) "")

/-- **The views over related clusters differ in the address of the master at most.** -/
theorem Relates.browse (h : B.Clusters c d) (b : Browser) (req : Request) :
    B.Relates (AtAddresses c.masterAddress d.masterAddress) (b.browse c req) (b.browse d req) := by
  let u := b.blank c req
  rcases hp : Path.parseRequest req.path with e | p
  · rw [Browser.browse, Browser.browse, hp]
    exact .view (u.failed (pathErrorText e.toBrowseError u.currentPath) "")
  rw [b.browse_eq c req hp, b.browse_eq d req hp]
  refine (h.resolve p).attempt.bind_eq fun r => ?_
  rcases r with e | ⟨info, current⟩
  · exact .view ({ u with currentPath := p.text }.failed (pathErrorText e p.text) "")
  dsimp only
  split
  · exact h.browseDirectory b (b.located { u with currentPath := p.text } current) p req
  · exact h.browseFile (b.located { u with currentPath := p.text } current) info req

end Bond

end ClusterBrowser
