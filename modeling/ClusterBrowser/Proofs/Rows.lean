import ClusterBrowser.Browse.Listing
import ClusterBrowser.Browse.Locations
import ClusterBrowser.Proofs.Action
import ClusterBrowser.Proofs.Display
import Mathlib.Data.List.Forall2

/-!
# Rows of a listing

* `listDirectory_eq_ok`: the rows of a directory are its children, shown and sorted.
* `perm_paths_of_rowsOf_eq_ok`, `pairwise_of_rowsOf_eq_ok`: the paths of the rows, and their order.
* `annotate_eq_ok`: locating the rows changes nothing in them but their locations.
-/

namespace ClusterBrowser

variable {σ α β ε : Type}

/-! ## Children as rows -/

theorem forall₂_of_mapM_eq_ok {f : α → Except ε β} {xs : List α} {ys : List β} (h : xs.mapM f = .ok ys) :
    List.Forall₂ (fun x y => f x = .ok y) xs ys := by
  induction xs generalizing ys with
  | nil =>
    obtain rfl : [] = ys := by simpa [pure, Except.pure] using h
    exact .nil
  | cons x xs ih =>
    rw [List.mapM_cons] at h
    rcases hx : f x with e | y
    · simp [hx, bind, Except.bind] at h
    rcases hxs : xs.mapM f with e | zs
    · simp [hx, hxs, bind, Except.bind] at h
    obtain rfl : y :: zs = ys := by simpa [hx, hxs, bind, Except.bind, pure, Except.pure] using h
    exact .cons hx (ih hxs)

theorem exists_of_mem_forall₂ {R : α → β → Prop} {xs : List α} {ys : List β} (h : List.Forall₂ R xs ys) {y : β}
    (hy : y ∈ ys) : ∃ x ∈ xs, R x y := by
  induction h with
  | nil => exact nomatch hy
  | @cons x z xs zs hxz _ ih =>
    rcases List.mem_cons.mp hy with rfl | hy
    · exact ⟨x, List.mem_cons_self, hxz⟩
    · obtain ⟨w, hw, hwy⟩ := ih hy
      exact ⟨w, List.mem_cons_of_mem _ hw, hwy⟩

theorem length_eq_of_mapM_eq_ok {f : α → Except ε β} {xs : List α} {ys : List β} (h : xs.mapM f = .ok ys) :
    ys.length = xs.length :=
  (forall₂_of_mapM_eq_ok h).length_eq.symm

theorem mapM_isOk_iff {f : α → Except ε β} {xs : List α} :
    (∃ ys, xs.mapM f = .ok ys) ↔ ∀ x ∈ xs, ∃ y, f x = .ok y := by
  induction xs with
  | nil => simp [pure, Except.pure]
  | cons x xs ih =>
    rw [List.mapM_cons, List.forall_mem_cons, ← ih]
    rcases f x with e | y <;> rcases xs.mapM f with e' | ys <;> simp [bind, Except.bind, pure, Except.pure]

theorem Action.exec_mapM_of_forall {f : α → Action σ β} {xs : List α} {s : σ} {P : α → β → Prop}
    (h : ∀ x ∈ xs, ∃ y, (f x).exec s = (.ok y, s) ∧ P x y) :
    ∃ ys, (xs.mapM f).exec s = (.ok ys, s) ∧ List.Forall₂ P xs ys := by
  induction xs with
  | nil => exact ⟨[], rfl, .nil⟩
  | cons x xs ih =>
    obtain ⟨⟨y, hy, hP⟩, hxs⟩ := List.forall_mem_cons.mp h
    obtain ⟨ys, hys, hPs⟩ := ih hxs
    refine ⟨y :: ys, ?_, .cons hP hPs⟩
    rw [List.mapM_cons, exec_bind_of_ok hy, exec_bind_of_ok hys]
    rfl

theorem Action.exec_mapM_ofExcept (wrap : ε → Failure) (f : α → Except ε β) (xs : List α) (s : σ) :
    (xs.mapM fun x => (Action.ofExcept wrap (f x) : Action σ β)).exec s = ((xs.mapM f).mapError wrap, s) := by
  induction xs with
  | nil => rfl
  | cons x xs ih =>
    rw [List.mapM_cons, List.mapM_cons, exec_bind]
    rcases f x with e | y
    · rfl
    rw [exec_ofExcept_ok, andThen_ok, exec_bind, ih]
    rcases xs.mapM f with e | ys <;> rfl

@[simp] theorem length_sortEntries (entries : List Entry) : (sortEntries entries).length = entries.length :=
  List.length_mergeSort _

theorem sortEntries_of_pairwise {entries : List Entry} (h : entries.Pairwise fun a b => a.path ≤ b.path) :
    sortEntries entries = entries :=
  List.mergeSort_of_pairwise (h.imp fun hab => decide_eq_true hab)

theorem Entry.notAfter_trans (a b c : Entry) (hab : a.notAfter b = true) (hbc : b.notAfter c = true) :
    a.notAfter c = true := by
  rw [notAfter, decide_eq_true_eq] at hab hbc ⊢
  exact String.le_trans hab hbc

theorem Entry.notAfter_total (a b : Entry) : (a.notAfter b || b.notAfter a) = true := by
  rw [Bool.or_eq_true, notAfter, notAfter, decide_eq_true_eq, decide_eq_true_eq]
  exact String.le_total a.path b.path

theorem pairwise_sortEntries (entries : List Entry) : (sortEntries entries).Pairwise fun a b => a.path ≤ b.path :=
  (List.pairwise_mergeSort Entry.notAfter_trans Entry.notAfter_total entries).imp fun hab => of_decide_eq_true hab

/-- What the cluster answers to a listing, as rows. -/
def rowsOf (children : List FileInfo) : Except DisplayError (List Entry) :=
  (children.mapM Entry.ofInfo).map sortEntries

theorem exec_listDirectory (c : Cluster σ) (path : String) (s : σ) :
    (listDirectory c path).exec s =
      Action.andThen ((c.list path).exec s) fun children => Action.ofExcept .display (rowsOf children) := by
  rw [listDirectory, Action.exec_bind]
  rcases (c.list path).exec s with ⟨f | children, t⟩
  · rfl
  rw [Action.andThen_ok, Action.andThen_ok, Action.exec_bind, Action.exec_mapM_ofExcept, rowsOf]
  rcases children.mapM Entry.ofInfo with e | entries <;> rfl

theorem listDirectory_eq_ok {c : Cluster σ} {path : String} {s t : σ} {entries : List Entry} :
    (listDirectory c path).exec s = (.ok entries, t) ↔
      ∃ children, (c.list path).exec s = (.ok children, t) ∧ rowsOf children = .ok entries := by
  rw [exec_listDirectory]
  rcases (c.list path).exec s with ⟨f | children, u⟩
  · simp
  rw [Action.andThen_ok]
  rcases hrows : rowsOf children with e | rows
  · simp [hrows]
  · simp [hrows, and_comm]

theorem rowsOf_eq_ok_iff {children : List FileInfo} {entries : List Entry} :
    rowsOf children = .ok entries ↔ ∃ shown, children.mapM Entry.ofInfo = .ok shown ∧ sortEntries shown = entries := by
  rw [rowsOf]
  rcases children.mapM Entry.ofInfo with e | shown <;> simp [Except.map]

theorem length_eq_of_rowsOf_eq_ok {children : List FileInfo} {entries : List Entry}
    (h : rowsOf children = .ok entries) : entries.length = children.length := by
  obtain ⟨shown, hshown, rfl⟩ := rowsOf_eq_ok_iff.mp h
  rw [length_sortEntries, length_eq_of_mapM_eq_ok hshown]

theorem exists_of_mem_rowsOf {children : List FileInfo} {entries : List Entry} (h : rowsOf children = .ok entries)
    {e : Entry} (he : e ∈ entries) : ∃ info ∈ children, Entry.ofInfo info = .ok e := by
  obtain ⟨shown, hshown, rfl⟩ := rowsOf_eq_ok_iff.mp h
  exact exists_of_mem_forall₂ (forall₂_of_mapM_eq_ok hshown) (List.mem_mergeSort.mp he)

theorem rowsOf_isOk_iff {children : List FileInfo} :
    (∃ entries, rowsOf children = .ok entries) ↔ ∀ info ∈ children, ∃ e, Entry.ofInfo info = .ok e := by
  rw [← mapM_isOk_iff, rowsOf]
  rcases children.mapM Entry.ofInfo with e | entries <;> simp [Except.map]

theorem perm_paths_of_rowsOf_eq_ok {children : List FileInfo} {entries : List Entry}
    (h : rowsOf children = .ok entries) : (entries.map Entry.path).Perm (children.map FileInfo.path) := by
  obtain ⟨shown, hm, rfl⟩ := rowsOf_eq_ok_iff.mp h
  have hpaths : shown.map Entry.path = children.map FileInfo.path := by
    rw [← List.forall₂_eq_eq_eq, List.forall₂_map_left_iff, List.forall₂_map_right_iff]
    exact (forall₂_of_mapM_eq_ok hm).flip.imp fun e info => Entry.path_of_ofInfo
  rw [← hpaths]
  exact (List.mergeSort_perm shown Entry.notAfter).map Entry.path

theorem pairwise_of_rowsOf_eq_ok {children : List FileInfo} {entries : List Entry}
    (h : rowsOf children = .ok entries) : (entries.map Entry.path).Pairwise (· ≤ ·) := by
  obtain ⟨shown, -, rfl⟩ := rowsOf_eq_ok_iff.mp h
  rw [List.pairwise_map]
  exact pairwise_sortEntries shown

/-! ## Locations -/

/-- Two rows that differ in their locations at most. -/
def Entry.SameButLocations (e e' : Entry) : Prop := e' = { e with locations := e'.locations }

theorem Entry.SameButLocations.refl (e : Entry) : e.SameButLocations e := rfl

theorem forall₂_sameButLocations_refl (entries : List Entry) :
    List.Forall₂ Entry.SameButLocations entries entries :=
  List.forall₂_same.mpr fun e _ => .refl e

/-- **Locating the rows changes their locations at most.** -/
theorem annotate_eq_ok {c : Cluster σ} {sampling : Sampling} {policy : FailurePolicy} {entries : List Entry} {s t : σ}
    {a : Annotated} (h : (annotate c sampling policy entries).exec s = (.ok a, t)) :
    List.Forall₂ Entry.SameButLocations entries a.entries := by
  induction entries generalizing s a with
  | nil =>
    obtain ⟨rfl, rfl⟩ := Action.exec_pure_eq_ok.mp h
    exact .nil
  | cons e rest ih =>
    rw [annotate, Action.exec_bind_eq_ok] at h
    obtain ⟨r, u, hr, h⟩ := h
    rcases r with err | locations
    · rcases hskip : decide (policy = .skip) && err.isPathError with _ | _
      · simp only [hskip, Bool.false_eq_true, if_false] at h
        obtain ⟨rfl, rfl⟩ := Action.exec_pure_eq_ok.mp h
        exact forall₂_sameButLocations_refl _
      · simp only [hskip, if_true] at h
        obtain ⟨tail, v, htail, h⟩ := Action.exec_bind_eq_ok.mp h
        obtain ⟨rfl, rfl⟩ := Action.exec_pure_eq_ok.mp h
        exact .cons (.refl e) (ih htail)
    · obtain ⟨tail, v, htail, h⟩ := Action.exec_bind_eq_ok.mp h
      obtain ⟨rfl, rfl⟩ := Action.exec_pure_eq_ok.mp h
      exact .cons rfl (ih htail)

theorem Entry.SameButLocations.path_eq {e e' : Entry} (h : e.SameButLocations e') : e'.path = e.path := by
  rw [h]

theorem paths_eq_of_annotate_eq_ok {c : Cluster σ} {sampling : Sampling} {policy : FailurePolicy}
    {entries : List Entry} {s t : σ} {a : Annotated} (h : (annotate c sampling policy entries).exec s = (.ok a, t)) :
    a.entries.map Entry.path = entries.map Entry.path := by
  rw [← List.forall₂_eq_eq_eq, List.forall₂_map_left_iff, List.forall₂_map_right_iff]
  exact (annotate_eq_ok h).flip.imp fun e' e => Entry.SameButLocations.path_eq

theorem exec_annotate_of_forall {c : Cluster σ} (sampling : Sampling) (policy : FailurePolicy) {entries : List Entry}
    {s : σ} (h : ∀ e ∈ entries, ∃ blocks, (c.blocks e.path).exec s = (.ok blocks, s)) :
    ∃ rows, (annotate c sampling policy entries).exec s = (.ok ⟨rows, none⟩, s) := by
  induction entries with
  | nil => exact ⟨[], rfl⟩
  | cons e rest ih =>
    obtain ⟨⟨blocks, hblocks⟩, hrest⟩ := List.forall_mem_cons.mp h
    obtain ⟨rows, hrows⟩ := ih hrest
    have hlocations : ∃ locations, (locationsFor c sampling e).exec s = (.ok locations, s) := by
      rw [locationsFor]
      split_ifs
      · exact ⟨_, Action.exec_bind_of_ok hblocks⟩
      · exact ⟨none, rfl⟩
    obtain ⟨locations, hlocations⟩ := hlocations
    refine ⟨{ e with locations } :: rows, ?_⟩
    rw [annotate, Action.exec_bind_of_ok (Action.exec_attempt_of_ok hlocations)]
    exact Action.exec_bind_of_ok hrows

theorem length_eq_of_annotate_eq_ok {c : Cluster σ} {sampling : Sampling} {policy : FailurePolicy}
    {entries : List Entry} {s t : σ} {a : Annotated} (h : (annotate c sampling policy entries).exec s = (.ok a, t)) :
    a.entries.length = entries.length :=
  (annotate_eq_ok h).length_eq.symm

end ClusterBrowser
