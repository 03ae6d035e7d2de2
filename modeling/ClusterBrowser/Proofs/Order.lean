import ClusterBrowser.Proofs.Agreement
import ClusterBrowser.Proofs.Shapes

/-!
# The order of listings

A cluster may list the children of a directory in any order; what a view shows does not depend on it.

* `sortEntries_eq_of_perm`, `filter_path_sortEntries`: rows with paths of their own have one order, and other rows keep
  theirs.
* `SameChildren`: two answers to a listing which differ in their order at most; they give the same rows.
* `Bond.lockstep`: two runs in which all that is answered is answered alike.
* `Bond.SameButOrder`: two clusters that answer alike, but for the order in which they list children.
* **`Browser.browse_eq_of_sameButOrder`**: over such clusters every browse comes to the same.
-/

namespace ClusterBrowser

variable {σ τ α β ε : Type}

/-! ## Sorting -/

theorem sortEntries_eq_of_perm {xs ys : List Entry} (h : xs.Perm ys) (hnodup : (xs.map Entry.path).Nodup) :
    sortEntries xs = sortEntries ys := by
  have hperm : (sortEntries xs).Perm (sortEntries ys) :=
    (List.mergeSort_perm xs _).trans (h.trans (List.mergeSort_perm ys _).symm)
  refine hperm.eq_of_pairwise (fun a b ha hb hab hba => ?_) (pairwise_sortEntries xs) (pairwise_sortEntries ys)
  have ha : a ∈ xs := List.mem_mergeSort.mp ha
  have hb : b ∈ xs := h.mem_iff.mpr (List.mem_mergeSort.mp hb)
  exact List.inj_on_of_nodup_map hnodup ha hb (String.le_antisymm hab hba)

theorem filter_path_sortEntries (entries : List Entry) (path : String) :
    (sortEntries entries).filter (·.path = path) = entries.filter (·.path = path) := by
  have hpath : ∀ e ∈ entries.filter (·.path = path), e.path = path := fun e he =>
    of_decide_eq_true (List.mem_filter.mp he).2
  have hsorted : (entries.filter (·.path = path)).Pairwise fun a b => a.notAfter b = true := by
    refine List.pairwise_of_forall_mem_list fun a ha b hb => ?_
    rw [Entry.notAfter, hpath a ha, hpath b hb]
    exact decide_eq_true (String.le_refl path)
  have hsub : (entries.filter (·.path = path)).Sublist ((sortEntries entries).filter (·.path = path)) := by
    have h := (List.sublist_mergeSort Entry.notAfter_trans Entry.notAfter_total hsorted
      List.filter_sublist).filter (·.path = path)
    rwa [List.filter_filter, List.filter_congr (fun _ _ => Bool.and_self _)] at h
  exact (hsub.eq_of_length ((List.mergeSort_perm entries _).filter _).length_eq.symm).symm

/-! ## Children in another order -/

theorem eq_filterMap_of_mapM_eq_ok {f : α → Except ε β} {xs : List α} {ys : List β} (h : xs.mapM f = .ok ys) :
    ys = xs.filterMap fun x => (f x).toOption := by
  have hmapped := forall₂_of_mapM_eq_ok h
  clear h
  induction hmapped with
  | nil => rfl
  | @cons x y xs ys hxy hrest ih =>
    have hsome : (f x).toOption = some y := by
      rw [hxy]
      rfl
    rw [List.filterMap_cons_some (f := fun x => (f x).toOption) hsome, ← ih]

/-- Two answers to a listing: the same, or the same children in another order. In the latter case the children have
paths of their own, and all of them can be shown. -/
def SameChildren (infos infos' : List FileInfo) : Prop :=
  infos = infos' ∨
    infos.Perm infos' ∧ (infos.map FileInfo.path).Nodup ∧ ∀ info ∈ infos, ∃ e, Entry.ofInfo info = .ok e

theorem SameChildren.rowsOf_eq {infos infos' : List FileInfo} (h : SameChildren infos infos') :
    rowsOf infos = rowsOf infos' := by
  rcases h with rfl | ⟨hperm, hnodup, hshown⟩
  · rfl
  obtain ⟨entries, hentries⟩ := mapM_isOk_iff.mpr hshown
  obtain ⟨entries', hentries'⟩ := mapM_isOk_iff.mpr fun info hinfo => hshown info (hperm.mem_iff.mpr hinfo)
  have hsame : entries.Perm entries' := by
    rw [eq_filterMap_of_mapM_eq_ok hentries, eq_filterMap_of_mapM_eq_ok hentries']
    exact hperm.filterMap _
  have hrows : rowsOf infos = .ok (sortEntries entries) := rowsOf_eq_ok_iff.mpr ⟨entries, hentries, rfl⟩
  have hpaths : (entries.map Entry.path).Nodup := by
    have hsorted := (perm_paths_of_rowsOf_eq_ok hrows).nodup_iff.mpr hnodup
    exact ((List.mergeSort_perm entries _).map _).nodup_iff.mp hsorted
  rw [hrows, sortEntries_eq_of_perm hsame hpaths]
  exact (rowsOf_eq_ok_iff.mpr ⟨entries', hentries', rfl⟩).symm

theorem listDirectory_eq (c : Cluster σ) (path : String) :
    listDirectory c path = c.list path >>= fun children => Action.ofExcept .display (rowsOf children) :=
  Action.ext fun s => (exec_listDirectory c path s).trans (Action.exec_bind ..).symm

/-! ## Runs in lockstep -/

namespace Bond

theorem not_isReported_of_false (f : Failure) : False → ¬ f.IsReported := False.elim

theorem not_false_of_storage (_ : Bool) (_ : String) : ¬ False := id

/-- Two runs in which all that is answered is answered alike, failures included. `R` is what their states have in
common; that is nothing at all if the answers depend on what is asked alone. -/
def lockstep (R : σ → τ → Prop) : Bond σ τ where
  holds := R
  ends _ := R
  stops _ := False
  unreported_of_stops := not_isReported_of_false
  not_stops_storage := not_false_of_storage
  holds_of_ends_storage _ _ _ _ h := h

variable {R : σ → τ → Prop} {P : α → β → Prop}

theorem Outcome.lockstep_holds {r : Except Failure α × σ} {q : Except Failure β × τ}
    (h : (lockstep R).Outcome P r q) : R r.2 q.2 := by
  cases h with
  | ok values states => exact states
  | reported states => exact states
  | ended unreported states => exact states
  | stopped stops => exact stops.elim

theorem Outcome.lockstep_eq {r : Except Failure α × σ} {q : Except Failure α × τ}
    (h : (lockstep R).Outcome Eq r q) : r.1 = q.1 := by
  cases h with
  | ok values states => exact congrArg Except.ok values
  | reported states => rfl
  | ended unreported states => rfl
  | stopped stops => exact stops.elim

theorem Relates.lockstep_throw (f : Failure) : (lockstep R).Relates P (throw f) (throw f) := by
  intro s t hst
  cases f with
  | browse e => exact .reported hst
  | _ => exact .ended id hst

theorem Relates.lockstep_ofExcept (wrap : ε → Failure) (r : Except ε α) :
    (lockstep R).Relates Eq (Action.ofExcept wrap r) (Action.ofExcept wrap r) := by
  rcases r with e | a
  · exact .lockstep_throw (wrap e)
  · exact .pure rfl

theorem Relates.lockstep_observe {x : Action σ α} {y : Action τ α} (h : (lockstep R).Relates Eq x y) :
    (lockstep R).Relates Eq x.observe y.observe := by
  intro s t hst
  rw [Action.exec_observe, Action.exec_observe]
  exact .ok (h s t hst).lockstep_eq (h s t hst).lockstep_holds

/-! ## Clusters that answer alike -/

variable (B : Bond σ τ)

/-- Two open files that answer alike. -/
structure SameFile (x : FileStream σ) (y : FileStream τ) : Prop where
  skip : ∀ n, B.Relates Eq (x.skip n) (y.skip n)
  read : ∀ n, B.Relates Eq (x.read n) (y.read n)
  close : B.Relates Eq x.close y.close

/-- Two clusters that answer alike all that a browse asks, but for the order in which they list children. -/
structure SameButOrder (c : Cluster σ) (d : Cluster τ) : Prop where
  masterAddress : c.masterAddress = d.masterAddress
  status : ∀ path, B.Relates Eq (c.status path) (d.status path)
  list : ∀ path, B.Relates SameChildren (c.list path) (d.list path)
  blocks : ∀ path, B.Relates Eq (c.blocks path) (d.blocks path)
  tiers : B.Relates Eq c.tiers d.tiers
  openFile : ∀ path mode, B.Relates B.SameFile (c.openFile path mode) (d.openFile path mode)

variable {B} {c : Cluster σ} {d : Cluster τ}

theorem Relates.lockstep_withFile {path : String} {mode : ReadMode} {use : FileStream σ → Action σ α}
    {use' : FileStream τ → Action τ α}
    (hopen : (lockstep R).Relates (lockstep R).SameFile (c.openFile path mode) (d.openFile path mode))
    (huse : ∀ x y, (lockstep R).SameFile x y → (lockstep R).Relates Eq (use x) (use' y)) :
    (lockstep R).Relates Eq (c.withFile path mode use) (d.withFile path mode use') := by
  refine hopen.bind fun x y hxy => ?_
  refine (huse x y hxy).lockstep_observe.bind_eq fun result => ?_
  exact hxy.close.bind_eq fun _ => .lockstep_ofExcept id result

theorem Relates.lockstep_resolveShown (hstatus : ∀ path, (lockstep R).Relates Eq (c.status path) (d.status path))
    (p : Path) : (lockstep R).Relates Eq (resolveShown c p) (resolveShown d p) := by
  rw [resolveShown, resolveShown, resolve, resolve]
  refine Relates.bind_eq ((hstatus p.text).bind_eq fun info => ?_) fun info => ?_
  · split
    · exact .fail _
    · exact .pure rfl
  · exact (Relates.lockstep_ofExcept _ _).bind_eq fun entry => .pure rfl

theorem Relates.lockstep_listDirectory {path : String}
    (hlist : (lockstep R).Relates SameChildren (c.list path) (d.list path)) :
    (lockstep R).Relates Eq (listDirectory c path) (listDirectory d path) := by
  rw [listDirectory_eq, listDirectory_eq]
  refine hlist.bind fun children children' hsame => ?_
  rw [hsame.rowsOf_eq]
  exact .lockstep_ofExcept _ _

theorem SameButOrder.clusters (h : (lockstep R).SameButOrder c d) : (lockstep R).Clusters c d where
  resolve := .lockstep_resolveShown h.status
  list path := .lockstep_listDirectory (h.list path)
  blocks := h.blocks
  tiers := h.tiers
  window path offset length :=
    .lockstep_withFile (h.openFile path .noCache) fun _ _ hxy => .readWindow hxy.skip hxy.read offset length

end Bond

/-! ## Views -/

/-- **The order in which a cluster lists children makes no difference to a browse.** The views are the same, errors and
windows included, and so are the failures that no view reports. Rows that have one path keep the order in which they are
reported. -/
theorem Browser.browse_eq_of_sameButOrder (R : σ → τ → Prop) (c : Cluster σ) (d : Cluster τ) :
    ((Bond.lockstep R).SameButOrder c d → ∀ (b : Browser) (req : Request) (s : σ) (t : τ), R s t →
      ((b.browse c req).exec s).1 = ((b.browse d req).exec t).1) ∧
    ∀ entries : List Entry, (sortEntries entries).Perm entries ∧
      (sortEntries entries).Pairwise (fun e e' => e.path ≤ e'.path) ∧
      ∀ path, (sortEntries entries).filter (·.path = path) = entries.filter (·.path = path) := by
  refine ⟨fun h b req s t hst => ?_, fun entries => ?_⟩
  · have hviews : (Bond.lockstep R).Relates Eq (b.browse c req) (b.browse d req) := by
      refine (Bond.Relates.browse h.clusters b req).mono ?_
      rintro _ _ ⟨v, rfl, rfl⟩
      rw [h.masterAddress]
    exact (hviews s t hst).lockstep_eq
  · exact ⟨List.mergeSort_perm entries _, pairwise_sortEntries entries, filter_path_sortEntries entries⟩

/-- The same two files, listed in the opposite order. -/
def Browser.twoFilesReversed : Cluster Unit :=
  { Browser.twoFiles with list := fun path => List.reverse <$> Browser.twoFiles.list path }

/-- Two files in two orders, seen through a window that holds one of them. -/
theorem Browser.browse_eq_of_sameButOrder_twoFiles :
    (Bond.lockstep fun _ _ => True).SameButOrder twoFiles twoFilesReversed ∧
    ∃ v, ((({ workerWebPort := 30000 } : Browser).browse twoFilesReversed
        { path := some "/", offset := some "0", limit := some "1" }).exec ()).1 = .ok v ∧
      v.rows.map List.length = some 1 := by
  have h : (Bond.lockstep fun _ _ => True).SameButOrder twoFiles twoFilesReversed := {
    masterAddress := rfl
    status _ := .pure rfl
    list _ := by
      refine .pure (.inr ⟨(List.reverse_perm _).symm, by decide, ?_⟩)
      exact rowsOf_isOk_iff.mp ⟨_, rowsOf_twoFiles⟩
    blocks _ := .pure rfl
    tiers := .pure rfl
    openFile _ _ := .fail _ }
  obtain ⟨w, -, hexec⟩ := exec_browse_twoFiles { workerWebPort := 30000 } (some "0") (some "1")
  have hpage : paginate twoRows (some "0") (some "1") = .ok (.window (twoRows.take 1)) := by decide +kernel
  have hrows : (twoRows.take 1).length = 1 := by decide +kernel
  have hsame := (browse_eq_of_sameButOrder (fun _ _ => True) twoFiles twoFilesReversed).1 h
    { workerWebPort := 30000 } { path := some "/", offset := some "0", limit := some "1" } () () trivial
  refine ⟨h, _, hsame.symm.trans (congrArg Prod.fst hexec), ?_⟩
  simp only [pageView, hpage, Page.rows]
  exact congrArg some hrows

end ClusterBrowser
