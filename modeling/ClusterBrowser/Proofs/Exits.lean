import ClusterBrowser.Browse.Browser
import ClusterBrowser.Proofs.Rows

/-!
# How a browse ends

* `Browser.found`: the view of a path that is there.
* `Browser.Exit`: the ways in which a browse answers, each with its view.
* **`browse_eq_ok_iff`**: a browse answers in these ways and in no others.
* `catches_browse`: it never fails with an error that a view can report.
-/

namespace ClusterBrowser.Browser

/-- A browser as it is set up without settings. -/
def usual : Browser := { workerWebPort := 30000 }

variable {σ : Type} (b : Browser) (c : Cluster σ) (req : Request)

/-- The view of a path that is there. -/
def found (p : Path) (current : Entry) : View := b.located { b.blank c req with currentPath := p.text } current

/-- The offset that a request asks for in a file. -/
def offsetIn (info : FileInfo) : Int := effectiveOffset req.offset req.fromEnd.isSome info.length

/-- From `s` to `t` the cluster resolved the path of the request, and what it answered can be shown. -/
structure Locates (s : σ) (p : Path) (info : FileInfo) (current : Entry) (t : σ) : Prop where
  parsed : Path.parseRequest req.path = .ok p
  resolved : (resolve c p).exec s = (.ok info, t)
  shown : Entry.ofInfo info = .ok current

/-- From `s` to `t` the cluster gave the ancestors and the children of a directory, which make the rows `entries`. -/
structure Lists (s : σ) (p : Path) (ancestors : List Entry) (children : List FileInfo) (entries : List Entry) (t : σ) :
    Prop where
  answered : ∃ u, (breadcrumbs c p).exec s = (.ok ancestors, u) ∧ (c.list p.text).exec u = (.ok children, t)
  shown : rowsOf children = .ok entries

/-- The ways in which a browse answers. -/
inductive Exit (s : σ) : View → σ → Prop
  /-- The text spells no path. -/
  | misspelt {e : PathError} (parsed : Path.parseRequest req.path = .error e) :
    Exit s ((b.blank c req).failed (pathErrorText e.toBrowseError (b.blank c req).currentPath) "") s
  /-- The path cannot be resolved. -/
  | unresolved {p : Path} {e : BrowseError} {t : σ} (parsed : Path.parseRequest req.path = .ok p)
    (failed : (resolve c p).exec s = (.error (.browse e), t)) :
    Exit s ({ b.blank c req with currentPath := p.text }.failed (pathErrorText e p.text) "") t
  /-- The file cannot be read. -/
  | unread {p : Path} {info : FileInfo} {current : Entry} {e : BrowseError} {t u : σ}
    (located : Locates c req s p info current t) (isFile : current.isDirectory = false)
    (failed : (preview c info (offsetIn req info)).exec t = (.error (.browse e), u)) :
    Exit s ((b.found c req p current).failed (pathErrorText e p.text) "") u
  /-- The file is shown. -/
  | file {p : Path} {info : FileInfo} {current : Entry} {result : PreviewResult} {t u : σ}
    (located : Locates c req s p info current t) (isFile : current.isDirectory = false)
    (read : (preview c info (offsetIn req info)).exec t = (.ok result, u)) :
    Exit s (fileView (b.found c req p current) result) u
  /-- An ancestor of the directory cannot be resolved. -/
  | rootless {p : Path} {info : FileInfo} {current : Entry} {e : BrowseError} {t u : σ}
    (located : Locates c req s p info current t) (isDirectory : current.isDirectory = true)
    (failed : (breadcrumbs c p).exec t = (.error (.browse e), u)) :
    Exit s ((b.found c req p current).failed (pathErrorText e p.text) "") u
  /-- The directory cannot be listed. -/
  | unlisted {p : Path} {info : FileInfo} {current : Entry} {ancestors : List Entry} {e : BrowseError} {t u v : σ}
    (located : Locates c req s p info current t) (isDirectory : current.isDirectory = true)
    (crumbs : (breadcrumbs c p).exec t = (.ok ancestors, u))
    (failed : (listDirectory c p.text).exec u = (.error (.browse e), v)) :
    Exit s ({ b.found c req p current with ancestors }.failed (pathErrorText e p.text) "") v
  /-- The data of a child cannot be located. -/
  | unlocated {p : Path} {info : FileInfo} {current : Entry} {ancestors : List Entry} {children : List FileInfo}
    {entries rows : List Entry} {e : BrowseError} {t u v : σ}
    (located : Locates c req s p info current t) (isDirectory : current.isDirectory = true)
    (listed : Lists c t p ancestors children entries u)
    (failed : (annotate c b.sampling b.policy entries).exec u = (.ok ⟨rows, some e⟩, v)) :
    Exit s ({ b.found c req p current with ancestors }.failed (locationErrorText e p.text) "") v
  /-- The directory is listed, and its page shown or refused. -/
  | page {p : Path} {info : FileInfo} {current : Entry} {ancestors : List Entry} {children : List FileInfo}
    {entries rows : List Entry} {t u v : σ}
    (located : Locates c req s p info current t) (isDirectory : current.isDirectory = true)
    (listed : Lists c t p ancestors children entries u)
    (annotated : (annotate c b.sampling b.policy entries).exec u = (.ok ⟨rows, none⟩, v)) :
    Exit s (pageView { b.found c req p current with ancestors } req rows) v

variable {b c req}

theorem Exit.of_browseFile {s t u : σ} {p : Path} {info : FileInfo} {current : Entry} {v : View}
    (located : Locates c req s p info current t) (isFile : current.isDirectory = false)
    (h : (browseFile c (b.found c req p current) info req).exec t = (.ok v, u)) : Exit b c req s v u := by
  rw [browseFile, Action.exec_bind_eq_ok] at h
  obtain ⟨r, w, hr, h⟩ := h
  rw [Action.exec_attempt_eq_ok] at hr
  rcases r with e | result
  · obtain ⟨rfl, rfl⟩ := Action.exec_pure_eq_ok.mp h
    exact .unread located isFile hr
  · obtain ⟨rfl, rfl⟩ := Action.exec_pure_eq_ok.mp h
    exact .file located isFile hr

theorem Exit.of_browseDirectory {s t u : σ} {p : Path} {info : FileInfo} {current : Entry} {v : View}
    (located : Locates c req s p info current t) (isDirectory : current.isDirectory = true)
    (h : (b.browseDirectory c (b.found c req p current) p req).exec t = (.ok v, u)) : Exit b c req s v u := by
  rw [browseDirectory, Action.exec_bind_eq_ok] at h
  obtain ⟨r, t₁, hcrumbs, h⟩ := h
  rw [Action.exec_attempt_eq_ok] at hcrumbs
  rcases r with e | ancestors
  · obtain ⟨rfl, rfl⟩ := Action.exec_pure_eq_ok.mp h
    exact .rootless located isDirectory hcrumbs
  rw [Action.exec_bind_eq_ok] at h
  obtain ⟨r, t₂, hlist, h⟩ := h
  rw [Action.exec_attempt_eq_ok] at hlist
  rcases r with e | entries
  · obtain ⟨rfl, rfl⟩ := Action.exec_pure_eq_ok.mp h
    exact .unlisted located isDirectory hcrumbs hlist
  obtain ⟨children, hchildren, hentries⟩ := listDirectory_eq_ok.mp hlist
  have listed : Lists c t p ancestors children entries t₂ := ⟨⟨t₁, hcrumbs, hchildren⟩, hentries⟩
  rw [Action.exec_bind_eq_ok] at h
  obtain ⟨⟨rows, failed⟩, t₃, hrows, h⟩ := h
  rcases failed with _ | e
  · obtain ⟨rfl, rfl⟩ := Action.exec_pure_eq_ok.mp h
    exact .page located isDirectory listed hrows
  · obtain ⟨rfl, rfl⟩ := Action.exec_pure_eq_ok.mp h
    exact .unlocated located isDirectory listed hrows

theorem Exit.of_browse {s t : σ} {v : View} (h : (b.browse c req).exec s = (.ok v, t)) : Exit b c req s v t := by
  rw [browse] at h
  rcases hp : Path.parseRequest req.path with e | p
  · rw [hp] at h
    obtain ⟨rfl, rfl⟩ := Action.exec_pure_eq_ok.mp h
    exact .misspelt hp
  rw [hp] at h
  simp only at h
  rw [Action.exec_bind_eq_ok] at h
  obtain ⟨r, t₁, hinfo, h⟩ := h
  rw [Action.exec_attempt_eq_ok] at hinfo
  rcases r with e | info
  · obtain ⟨rfl, rfl⟩ := Action.exec_pure_eq_ok.mp h
    exact .unresolved hp hinfo
  simp only at h
  rcases hcur : Entry.ofInfo info with e | current
  · simp [hcur, Action.exec_bind] at h
  rw [hcur, Action.exec_bind_of_ok (Action.exec_ofExcept_ok ..)] at h
  have located : Locates c req s p info current t₁ := ⟨hp, hinfo, hcur⟩
  rcases hdir : current.isDirectory with _ | _
  · rw [hdir, if_neg Bool.false_ne_true] at h
    exact .of_browseFile located hdir h
  · rw [hdir, if_pos rfl] at h
    exact .of_browseDirectory located hdir h

/-! ## Every way out is taken -/

theorem Locates.exec_browse {s t : σ} {p : Path} {info : FileInfo} {current : Entry}
    (h : Locates c req s p info current t) :
    (b.browse c req).exec s = (if current.isDirectory then b.browseDirectory c (b.found c req p current) p req
      else browseFile c (b.found c req p current) info req).exec t := by
  rw [browse, h.parsed]
  simp only
  rw [Action.exec_bind_of_ok (Action.exec_attempt_of_ok h.resolved)]
  simp only
  rw [h.shown, Action.exec_bind_of_ok (Action.exec_ofExcept_ok ..)]
  rfl

theorem Lists.exec_browseDirectory {s t : σ} {p : Path} {current : Entry} {ancestors : List Entry}
    {children : List FileInfo} {entries : List Entry} (h : Lists c s p ancestors children entries t) :
    (b.browseDirectory c (b.found c req p current) p req).exec s =
      Action.andThen ((annotate c b.sampling b.policy entries).exec t) fun annotated =>
        match annotated.failed with
        | some e => pure ({ b.found c req p current with ancestors }.failed (locationErrorText e p.text) "")
        | none => pure (pageView { b.found c req p current with ancestors } req annotated.entries) := by
  obtain ⟨⟨u, hcrumbs, hchildren⟩, hrows⟩ := h
  have hlist := listDirectory_eq_ok.mpr ⟨children, hchildren, hrows⟩
  rw [browseDirectory, Action.exec_bind_of_ok (Action.exec_attempt_of_ok hcrumbs)]
  simp only
  rw [Action.exec_bind_of_ok (Action.exec_attempt_of_ok hlist)]
  exact Action.exec_bind ..

theorem Exit.exec {s t : σ} {v : View} (h : Exit b c req s v t) : (b.browse c req).exec s = (.ok v, t) := by
  cases h with
  | misspelt parsed => rw [browse, parsed]; rfl
  | unresolved parsed failed =>
    rw [browse, parsed]
    simp only
    rw [Action.exec_bind_of_ok (Action.exec_attempt_of_error failed)]
    rfl
  | unread located isFile failed =>
    rw [located.exec_browse, isFile, if_neg Bool.false_ne_true, browseFile, ← offsetIn,
      Action.exec_bind_of_ok (Action.exec_attempt_of_error failed)]
    rfl
  | file located isFile read =>
    rw [located.exec_browse, isFile, if_neg Bool.false_ne_true, browseFile, ← offsetIn,
      Action.exec_bind_of_ok (Action.exec_attempt_of_ok read)]
    rfl
  | rootless located isDirectory failed =>
    rw [located.exec_browse, isDirectory, if_pos rfl, browseDirectory,
      Action.exec_bind_of_ok (Action.exec_attempt_of_error failed)]
    rfl
  | unlisted located isDirectory crumbs failed =>
    rw [located.exec_browse, isDirectory, if_pos rfl, browseDirectory,
      Action.exec_bind_of_ok (Action.exec_attempt_of_ok crumbs)]
    simp only
    rw [Action.exec_bind_of_ok (Action.exec_attempt_of_error failed)]
    rfl
  | unlocated located isDirectory listed failed =>
    rw [located.exec_browse, isDirectory, if_pos rfl, listed.exec_browseDirectory, failed]
    rfl
  | page located isDirectory listed annotated =>
    rw [located.exec_browse, isDirectory, if_pos rfl, listed.exec_browseDirectory, annotated]
    rfl

/-- **A browse answers in these ways and in no others.** -/
theorem browse_eq_ok_iff {s t : σ} {v : View} : (b.browse c req).exec s = (.ok v, t) ↔ Exit b c req s v t :=
  ⟨Exit.of_browse, Exit.exec⟩

/-! ## Failures -/

/-- An action that reports nothing: what a view can report does not make it fail. -/
def Catches {α : Type} (x : Action σ α) : Prop := ∀ s e, (x.exec s).1 ≠ .error (.browse e)

theorem Catches.pure {α : Type} (a : α) : Catches (Pure.pure a : Action σ α) := fun _ _ h => nomatch h

theorem Catches.bind {α β : Type} {x : Action σ α} {k : α → Action σ β} (hx : Catches x) (hk : ∀ a, Catches (k a)) :
    Catches (x >>= k) := by
  intro s e
  have hs := hx s e
  rw [Action.exec_bind]
  rcases h : x.exec s with ⟨f | a, t⟩
  · rw [h] at hs
    rintro ⟨⟩
    exact hs rfl
  · exact hk a t e

theorem Catches.attempt {α : Type} (x : Action σ α) : Catches x.attempt := by
  intro s e
  rw [Action.exec_attempt]
  rcases x.exec s with ⟨f | a, t⟩
  · cases f <;> simp
  · simp

theorem Catches.display {α : Type} (r : Except DisplayError α) : Catches (Action.ofExcept .display r : Action σ α) := by
  rcases r with e | a <;> simp [Catches]

theorem Catches.annotate (c : Cluster σ) (sampling : Sampling) (policy : FailurePolicy) (entries : List Entry) :
    Catches (annotate c sampling policy entries) := by
  induction entries with
  | nil => exact .pure _
  | cons e rest ih =>
    refine Catches.bind (.attempt _) fun r => ?_
    rcases r with err | locations
    · dsimp only
      split
      · exact ih.bind fun tail => .pure _
      · exact .pure _
    · exact ih.bind fun tail => .pure _

/-- **A browse fails with no error that a view can report.** -/
theorem catches_browse (b : Browser) (c : Cluster σ) (req : Request) : Catches (b.browse c req) := by
  rw [browse]
  rcases Path.parseRequest req.path with e | p
  · exact .pure _
  refine Catches.bind (.attempt _) fun r => ?_
  rcases r with e | info
  · exact .pure _
  refine Catches.bind (.display _) fun current => ?_
  dsimp only
  split
  · refine Catches.bind (.attempt _) fun r => ?_
    rcases r with e | ancestors
    · exact .pure _
    refine Catches.bind (.attempt _) fun r => ?_
    rcases r with e | entries
    · exact .pure _
    refine Catches.bind (.annotate _ _ _ _) fun annotated => ?_
    rcases annotated with ⟨rows, _ | e⟩
    · exact .pure _
    · exact .pure _
  · refine Catches.bind (.attempt _) fun r => ?_
    rcases r with e | result
    · exact .pure _
    · exact .pure _

end ClusterBrowser.Browser
